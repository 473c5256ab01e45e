/-
**Two ways to write a list.**

A document can write a list of profiles as a sequence or as one text with commas.  The text stands
under the key and is cut when it is read; the items of the sequence stand under the key with their
indices, and are read one by one until an index is absent.  Blank items are dropped in both forms,
but only after the list was read: a blank item of a sequence is an entry of the map like any other,
so the reading does not end there.

The two documents differ at one place.  No other place may come to the key, or to the key with an
index; then what is read under the key depends on the place alone, and what is read under the other
keys on its surroundings.

Main definitions:

* `ProfileLayers.Yaml.Node.tokensOf`, `ProfileLayers.Yaml.Node.joinedText` — the tokens of items,
  and the text that writes them;
* `ProfileLayers.Yaml.Surroundings.Writes` — a document writes a key at one place;
* `ProfileLayers.Declarations.SameLists` — declarations with the same lists.

Main results:

* `ProfileLayers.Yaml.Surroundings.Writes.bindList?_seq`,
  `ProfileLayers.Yaml.Surroundings.Writes.bindList?_joinedText` — each form under its key;
* `ProfileLayers.Yaml.Surroundings.bindList?_mapWith_of_ne` — other keys;
* `ProfileLayers.sequence_and_text_bind_alike` — **both forms declare the same**.
-/

import ProfileLayers.Proofs.CommaList
import ProfileLayers.Proofs.IndexedList
import ProfileLayers.Proofs.Surroundings

set_option relaxedAutoImplicit false
set_option autoImplicit false

namespace ProfileLayers

open Yaml (Node Surroundings)

/-! ### The two forms -/

namespace Yaml

/-- The tokens that the items of a list come to: their texts are trimmed, and the blank ones are
dropped. -/
def Node.tokensOf (items : List Node) : List String :=
  (items.map fun item => trim item.leaf.text).filter fun t => t != ""

/-- The texts of items with commas between them, as one text. -/
def Node.joinedText (items : List Node) : Node :=
  .str (joinList (items.map fun item => item.leaf.text))

/-- A document writes a key at the place and nowhere else: no other leaf has the key, or the key
with an index. -/
structure Surroundings.Writes (around : Surroundings) (key : String) : Prop where
  place_eq : around.place = key
  wellFormed : (around.fill .null).IsWellFormed
  alone : ∀ leaf ∈ around.otherLeaves, ¬ IsListKey key leaf.1

/-- The surroundings of the value in a document with one entry. -/
def Surroundings.lone (key : String) : Surroundings := .entry [] (.str key) .here []

theorem Surroundings.writes_lone (key : String) : (lone key).Writes key where
  place_eq := by
    change joinPath "" key = key
    exact if_pos rfl
  wellFormed := by
    have hnull : Node.null.IsWellFormed := Node.allMappings_of_isScalar .null rfl
    rw [lone, fill, fill, Node.IsWellFormed, Node.allMappings_map]
    simpa [Node.SoundKeys, Node.isScalar, Node.IsWellFormed] using hnull
  alone leaf h := absurd h List.not_mem_nil

namespace Node

theorem isToken_of_mem_tokensOf (items : List Node) (token : String) (h : token ∈ tokensOf items) :
    IsToken token := by
  apply isToken_of_mem_filter_trim (items.map fun item => item.leaf.text) token
  rw [List.map_map]
  exact h

theorem splitList_joinList_texts (items : List Node)
    (hcomma : ∀ item ∈ items, ',' ∉ item.leaf.text.toList) :
    splitList (joinList (items.map fun item => item.leaf.text)) = tokensOf items := by
  rw [splitList_joinList _ (List.forall_mem_map.2 hcomma), List.map_map]
  rfl

/-- The tokens of items without commas can be written with commas and read back. -/
theorem splitList_joinList_tokensOf (items : List Node)
    (hcomma : ∀ item ∈ items, ',' ∉ item.leaf.text.toList) :
    splitList (joinList (tokensOf items)) = tokensOf items := by
  apply splitList_joinList_of_isToken _ (isToken_of_mem_tokensOf items)
  intro token htoken
  obtain ⟨item, hitem, rfl⟩ := List.mem_map.1 (List.mem_filter.1 htoken).1
  exact comma_not_mem_trim item.leaf.text (hcomma item hitem)

/-- The items of a sequence of scalars stand under the indices of its path. -/
theorem leavesAt_seq_of_isScalar (path : String) (items : List Node) (hnil : items ≠ [])
    (hscalar : ∀ item ∈ items, item.isScalar = true) :
    (Node.seq items).leavesAt path =
      (items.map leaf).zipIdx.map fun e => (indexedKey path e.2, e.1) := by
  have hitem : ∀ e ∈ items.zipIdx 0,
      e.1.leavesAt (itemPath path e.2) = [(indexedKey path e.2, e.1.leaf)] := by
    intro e he
    exact leavesAt_of_isScalar _ e.1 (hscalar e.1 (List.fst_mem_of_mem_zipIdx he))
  rw [leavesAt_seq path items hnil, leavesOfItems_eq_flatMap, List.flatMap_congr hitem,
    ← List.map_eq_flatMap, List.zipIdx_map, List.map_map]
  rfl

theorem fst_of_mem_leavesAt_of_isScalar (path : String) (node : Node) (h : node.isScalar = true) :
    ∀ leaf ∈ node.leavesAt path, leaf.1 = path := by
  intro leaf hleaf
  rw [leavesAt_of_isScalar path node h, List.mem_singleton] at hleaf
  exact congrArg Prod.fst hleaf

/-- The leaves of a sequence of scalars have its path, or its path with an index. -/
theorem fst_of_mem_leavesAt_seq (path : String) (items : List Node)
    (hscalar : ∀ item ∈ items, item.isScalar = true) :
    ∀ leaf ∈ (Node.seq items).leavesAt path, IsListKey path leaf.1 := by
  intro leaf hleaf
  by_cases hnil : items = []
  · subst hnil
    rw [leavesAt, List.mem_singleton] at hleaf
    exact .inl (congrArg Prod.fst hleaf)
  · rw [leavesAt_seq_of_isScalar path items hnil hscalar] at hleaf
    obtain ⟨e, -, rfl⟩ := List.mem_map.1 hleaf
    exact .inr ⟨e.2, rfl⟩

end Node

end Yaml

/-! ### Reading the two forms -/

namespace Yaml.Surroundings

variable {around : Surroundings} {key : String}

/-- What is read under the key depends on the leaves at the place alone. -/
theorem Writes.get?_mapWith (h : around.Writes key) (pairs : List (String × Value)) (k : String)
    (hk : IsListKey key k) :
    (around.mapWith pairs).get? k = (PropertyMap.ofList pairs).get? k := by
  apply around.get?_mapWith_of_not_mem_otherLeaves
  intro hmem
  obtain ⟨leaf, hleaf, rfl⟩ := List.mem_map.1 hmem
  exact h.alone leaf hleaf hk

theorem Writes.result_flatten_seq (h : around.Writes key) (source : String) (items : List Node)
    (hscalar : ∀ item ∈ items, item.isScalar = true) :
    (flatten source (around.fill (.seq items))).result =
      .ok (around.mapWith ((Node.seq items).leavesAt key)) := by
  have hitems : (Node.seq items).IsWellFormed := by
    rw [Node.IsWellFormed, Node.allMappings_seq]
    exact fun item hitem => Node.allMappings_of_isScalar item (hscalar item hitem)
  rw [around.result_flatten_fill source (.seq items) h.wellFormed hitems rfl Node.noConfusion,
    h.place_eq]

theorem Writes.result_flatten_joinedText (h : around.Writes key) (source : String)
    (items : List Node) :
    (flatten source (around.fill (Node.joinedText items))).result =
      .ok (around.mapWith ((Node.joinedText items).leavesAt key)) := by
  have htext : (Node.joinedText items).IsWellFormed := Node.allMappings_of_isScalar _ rfl
  rw [around.result_flatten_fill source (Node.joinedText items) h.wellFormed htext rfl
    Node.noConfusion, h.place_eq]

/-- A sequence of scalars is read as the tokens of its items, the empty one too. -/
theorem Writes.bindList?_seq (h : around.Writes key) (hkey : key ≠ "")
    (hend : key.toList.getLast? ≠ some ']') (items : List Node)
    (hscalar : ∀ item ∈ items, item.isScalar = true) :
    bindList? (around.mapWith ((Node.seq items).leavesAt key)) key =
      some ⟨Node.tokensOf items, joinList (Node.tokensOf items)⟩ := by
  by_cases hnil : items = []
  · -- the sequence without items is a leaf of its own, which is read as a text
    subst hnil
    have hvalue : (around.mapWith [(key, .str "")]).get? key = some (.str "") := by
      rw [h.get?_mapWith _ key (.inl rfl), PropertyMap.get?_of_ne _ key hkey,
        PropertyMap.find?_ofList]
      exact if_pos rfl
    rw [Node.leavesAt, bindList?, hvalue]
    rfl
  · rw [Node.leavesAt_seq_of_isScalar key items hnil hscalar]
    have habsent : (around.mapWith ((items.map Node.leaf).zipIdx.map fun e =>
        (indexedKey key e.2, e.1))).get? key = none := by
      rw [h.get?_mapWith _ key (.inl rfl), PropertyMap.get?_of_ne _ key hkey,
        PropertyMap.find?_ofList]
      apply Entries.find?_reverse_of_not_mem
      intro hmem
      obtain ⟨leaf, hleaf, hindexed⟩ := List.mem_map.1 hmem
      obtain ⟨e, -, rfl⟩ := List.mem_map.1 hleaf
      exact ne_indexedKey key key e.2 hend hindexed.symm
    rw [bindList?_of_indexed _ key (items.map Node.leaf) habsent,
      if_neg (by simpa using hnil), tokensOfValues, List.map_map, List.map_map]
    · rfl
    · intro i _
      rw [h.get?_mapWith _ (indexedKey key i) (.inr ⟨i, rfl⟩),
        PropertyMap.get?_of_ne _ _ (indexedKey_ne_empty key i), PropertyMap.find?_ofList_indexed]

/-- The joined texts of items without commas are read as their tokens. -/
theorem Writes.bindList?_joinedText (h : around.Writes key) (hkey : key ≠ "") (items : List Node)
    (hcomma : ∀ item ∈ items, ',' ∉ item.leaf.text.toList) :
    bindList? (around.mapWith ((Node.joinedText items).leavesAt key)) key =
      some ⟨Node.tokensOf items, joinList (items.map fun item => item.leaf.text)⟩ := by
  have hvalue : (around.mapWith ((Node.joinedText items).leavesAt key)).get? key =
      some (Node.joinedText items).leaf := by
    rw [h.get?_mapWith _ key (.inl rfl), PropertyMap.get?_of_ne _ key hkey,
      PropertyMap.find?_ofList]
    exact if_pos rfl
  rw [bindList?, hvalue, ← Node.splitList_joinList_texts items hcomma]
  rfl

/-- What is read under another key depends on the surroundings alone. -/
theorem bindList?_mapWith_of_ne (around : Surroundings) (key other : String)
    (hkey : key.toList.getLast? ≠ some ']') (hother : other.toList.getLast? ≠ some ']')
    (hne : other ≠ key) (pairs : List (String × Value)) (hpairs : ∀ e ∈ pairs, IsListKey key e.1) :
    bindList? (around.mapWith pairs) other = bindList? (around.mapWith []) other := by
  have hget : ∀ k, IsListKey other k →
      (around.mapWith pairs).get? k = (around.mapWith []).get? k := by
    intro k hk
    apply around.get?_mapWith_of_not_mem
    intro hmem
    obtain ⟨e, he, rfl⟩ := List.mem_map.1 hmem
    exact hne (hk.unique hother hkey (hpairs e he))
  exact bindList?_congr _ _ other (hget other (.inl rfl)) fun i => hget _ (.inr ⟨i, rfl⟩)

end Yaml.Surroundings

/-! ### The declarations -/

namespace Declarations

/-- The two declare the same lists; the texts with which they were declared may differ. -/
structure SameLists (d e : Declarations) : Prop where
  positive : d.appliesTo.positive = e.appliesTo.positive
  negative : d.appliesTo.negative = e.appliesTo.negative
  active : d.active = e.active
  included : d.included = e.included

theorem items_of_bindList? {m : PropertyMap} {key : String} {bound : BoundList}
    (h : bindList? m key = some bound) : items m key = bound.tokens := by
  rw [items, h]
  rfl

/-- The names of an expression are those of the tokens under its key. -/
theorem expression_eq_ofTokens_items (m : PropertyMap) (key : String) :
    ∃ raw, expression m key = { Expression.ofTokens (items m key) with raw := raw } := by
  unfold expression items
  cases bindList? m key with
  | none => exact ⟨none, rfl⟩
  | some bound => exact ⟨some bound.raw, rfl⟩

theorem SameLists.of_items (m n : PropertyMap)
    (h : ∀ key ∈ [profilesKey, activeKey, includeKey], items m key = items n key) :
    (bind m).SameLists (bind n) := by
  obtain ⟨raw, hm⟩ := expression_eq_ofTokens_items m profilesKey
  obtain ⟨other, hn⟩ := expression_eq_ofTokens_items n profilesKey
  rw [h profilesKey (by decide)] at hm
  exact {
    positive := by rw [bind, bind, hm, hn]
    negative := by rw [bind, bind, hm, hn]
    active := h activeKey (by decide)
    included := h includeKey (by decide) }

end Declarations

/-- **Both forms of a list declare the same.**  A document may write the profiles it applies to,
those it activates or those it includes as a sequence of scalars or as their texts joined by commas;
no text may hold a comma, and the document must write the key at one place, as a document does that
has nothing but the key.  Both documents are flattened, and the same lists are bound from them: what
stands under the key are the texts of all items, trimmed and without the blank ones.  The text of an
expression that was written as a sequence are its tokens joined by commas, and reading this text
gives the expression. -/
theorem sequence_and_text_bind_alike :
    (∀ key, (Surroundings.lone key).Writes key) ∧
    ∀ (source key : String) (around : Surroundings) (items : List Node),
      key ∈ [profilesKey, activeKey, includeKey] → around.Writes key →
      (∀ item ∈ items, item.isScalar = true ∧ ',' ∉ item.leaf.text.toList) →
      ∃ sequence text, (flatten source (around.fill (.seq items))).result = .ok sequence ∧
        (flatten source (around.fill (Node.joinedText items))).result = .ok text ∧
        (Declarations.bind sequence).SameLists (Declarations.bind text) ∧
        (key = activeKey → (Declarations.bind sequence).active = Node.tokensOf items) ∧
        (key = includeKey → (Declarations.bind sequence).included = Node.tokensOf items) ∧
        (key = profilesKey →
          (Declarations.bind sequence).appliesTo =
            { Expression.ofTokens (Node.tokensOf items) with
              raw := some (joinList (Node.tokensOf items)) } ∧
          Expression.parse (joinList (Node.tokensOf items)) =
            (Declarations.bind sequence).appliesTo) := by
  refine ⟨Surroundings.writes_lone, fun source key around items hkey haround hitems => ?_⟩
  have hscalar : ∀ item ∈ items, item.isScalar = true := fun item h => (hitems item h).1
  have hcomma : ∀ item ∈ items, ',' ∉ item.leaf.text.toList := fun item h => (hitems item h).2
  have hkeys : ∀ key ∈ [profilesKey, activeKey, includeKey],
      key ≠ "" ∧ key.toList.getLast? ≠ some ']' := by decide
  obtain ⟨hne, hend⟩ := hkeys key hkey
  -- under the key both documents have the tokens, under the other keys what is around the place
  have hboundSeq := haround.bindList?_seq hne hend items hscalar
  have hboundText := haround.bindList?_joinedText hne items hcomma
  have htokensSeq := Declarations.items_of_bindList? hboundSeq
  have htokensText := Declarations.items_of_bindList? hboundText
  refine ⟨_, _, haround.result_flatten_seq source items hscalar,
    haround.result_flatten_joinedText source items, .of_items _ _ fun other hother => ?_, ?_, ?_,
    ?_⟩
  · by_cases heq : other = key
    · rw [heq, htokensSeq, htokensText]
    · have hotherEnd := (hkeys other hother).2
      rw [Declarations.items, Declarations.items,
        Surroundings.bindList?_mapWith_of_ne around key other hend hotherEnd heq _
          (Node.fst_of_mem_leavesAt_seq key items hscalar),
        Surroundings.bindList?_mapWith_of_ne around key other hend hotherEnd heq _
          (fun e he => .inl (Node.fst_of_mem_leavesAt_of_isScalar key _ rfl e he))]
  · rintro rfl
    exact htokensSeq
  · rintro rfl
    exact htokensSeq
  · rintro rfl
    have hexpression : (Declarations.bind
        (around.mapWith ((Node.seq items).leavesAt profilesKey))).appliesTo =
          { Expression.ofTokens (Node.tokensOf items) with
            raw := some (joinList (Node.tokensOf items)) } := by
      rw [Declarations.bind, Declarations.expression, hboundSeq]
    rw [hexpression, Expression.parse, Node.splitList_joinList_tokensOf items hcomma]
    exact ⟨rfl, rfl⟩

/-- A document that says below `spring` what it applies to, and activates profiles beside it. -/
def deployment : Surroundings :=
  .entry [(.str "name", .str "app")] (.str "spring")
    (.entry [] (.str "profiles") .here [(.str "profiles.active", .str "p, q")])
    [(.str "x", .int 1)]

theorem deployment_writes : deployment.Writes profilesKey where
  place_eq := by decide
  wellFormed := by
    rw [← Node.isWellFormed_iff _ ""]
    decide +kernel
  alone := by
    have hother : ∀ leaf ∈ deployment.otherLeaves,
        leaf.1 ≠ profilesKey ∧ leaf.1.toList.getLast? ≠ some ']' := by decide +kernel
    intro leaf hleaf hlist
    obtain ⟨hne, hend⟩ := hother leaf hleaf
    rcases hlist with heq | ⟨i, hindexed⟩
    · exact hne heq
    · exact ne_indexedKey leaf.1 profilesKey i hend hindexed

/-- A null, a blank text and a number among the profiles: two items are dropped, and three are bound
from both forms. -/
theorem deployment_binds_alike :
    ∃ sequence text,
      (flatten "app.yml" (deployment.fill
        (.seq [.null, .str " dev ", .str "", .str "!cloud", .int 7]))).result = .ok sequence ∧
      (flatten "app.yml" (deployment.fill (.str ", dev ,,!cloud,7"))).result = .ok text ∧
      (Declarations.bind sequence).SameLists (Declarations.bind text) ∧
      (Declarations.bind sequence).appliesTo = ⟨["dev", "7"], ["cloud"], some "dev,!cloud,7"⟩ := by
  obtain ⟨sequence, text, hsequence, htext, hsame, -, -, happlies⟩ :=
    sequence_and_text_bind_alike.2 "app.yml" profilesKey deployment
      [.null, .str " dev ", .str "", .str "!cloud", .int 7] (by decide) deployment_writes
      (by decide +kernel)
  refine ⟨sequence, text, hsequence, htext, hsame, (happlies rfl).1.trans ?_⟩
  decide +kernel

end ProfileLayers
