/-
**What flattening reads off a tree.**

Flattening goes down a tree and writes into one map on the way, and at every entry of a mapping it
may stop with an error or give a notice.  Here these are told apart.  The leaves of a tree with
their paths, and the entries that are met, each with the keys before it in its mapping, are lists
that plain recursion reads off the tree.  Flattening inserts all leaves one after another if no
entry is offending, and gives the error of the first offending entry otherwise; the leaves that come
before it are lost.  The notices are those of the entries before the first offending one.

Main definitions:

* `ProfileLayers.Yaml.Node.IsValueIn` — the value positions of a tree;
* `ProfileLayers.Yaml.Node.AllMappings` — a property of all mappings in value position;
* `ProfileLayers.Yaml.Node.leaves` — the leaves of a tree with their paths;
* `ProfileLayers.Yaml.Node.SameKey` — two keys of a mapping are equal;
* `ProfileLayers.Visit`, `ProfileLayers.Yaml.Node.visits` — the entries in the order in which they
  are met;
* `ProfileLayers.Visit.judge`, `ProfileLayers.Visit.report` — the outcome of meeting entries, and
  the same with the notices.

Main results:

* `ProfileLayers.Yaml.Node.induction` — induction over items and values;
* `ProfileLayers.joinPath_injective` — below one path, different texts have different paths;
* `ProfileLayers.flattenNode_eq_report`, `ProfileLayers.flatten_eq_report` — flattening is meeting
  the entries on the way to the map of the leaves;
* `ProfileLayers.result_flattenNode`, `ProfileLayers.result_flatten` — the result of flattening is
  judged by the entries and holds the leaves.
-/

import ProfileLayers.Flatten

set_option relaxedAutoImplicit false
set_option autoImplicit false

namespace ProfileLayers

namespace Yaml.Node

/-! ### Value positions -/

theorem sizeOf_snd_lt_of_mem {entry : Node × Node} {entries : List (Node × Node)}
    (h : entry ∈ entries) : sizeOf entry.2 < sizeOf entries := by
  have hentry : sizeOf entry = 1 + sizeOf entry.1 + sizeOf entry.2 := rfl
  have hentries := List.sizeOf_lt_of_mem h
  omega

/-- What holds of scalars, and of a collection if it holds of its items or of the values of its
entries, holds of every tree.  Nothing is assumed of keys. -/
@[elab_as_elim, induction_eliminator]
protected theorem induction {P : Node → Prop} (null : P .null) (bool : ∀ b, P (.bool b))
    (int : ∀ i, P (.int i)) (float : ∀ x, P (.float x)) (str : ∀ s, P (.str s))
    (seq : ∀ items, (∀ item ∈ items, P item) → P (.seq items))
    (map : ∀ entries, (∀ e ∈ entries, P e.2) → P (.map entries)) (node : Node) : P node :=
  match node with
  | .null => null
  | .bool b => bool b
  | .int i => int i
  | .float x => float x
  | .str s => str s
  | .seq items => seq items fun item _ => Node.induction null bool int float str seq map item
  | .map entries => map entries fun e he =>
      have : sizeOf e.2 < sizeOf entries := sizeOf_snd_lt_of_mem he
      Node.induction null bool int float str seq map e.2

/-- A tree stands in value position in another one: it is the other one, or it stands so in an item
of a sequence or in the value of an entry. -/
inductive IsValueIn : Node → Node → Prop where
  | here (node : Node) : IsValueIn node node
  | item {node item : Node} {items : List Node} (hmem : item ∈ items) (h : IsValueIn node item) :
      IsValueIn node (.seq items)
  | value {node : Node} {entry : Node × Node} {entries : List (Node × Node)}
      (hmem : entry ∈ entries) (h : IsValueIn node entry.2) : IsValueIn node (.map entries)

/-- All mappings in value position, at any depth, have a property of their entries. -/
def AllMappings (P : List (Node × Node) → Prop) (node : Node) : Prop :=
  ∀ entries, IsValueIn (.map entries) node → P entries

theorem allMappings_map {P : List (Node × Node) → Prop} (entries : List (Node × Node)) :
    AllMappings P (.map entries) ↔ P entries ∧ ∀ e ∈ entries, AllMappings P e.2 := by
  constructor
  · intro h
    exact ⟨h entries (.here _), fun e he inner hinner => h inner (.value he hinner)⟩
  · rintro ⟨hown, hvalues⟩ inner hinner
    cases hinner with
    | here => exact hown
    | value hmem h => exact hvalues _ hmem inner h

theorem allMappings_seq {P : List (Node × Node) → Prop} (items : List Node) :
    AllMappings P (.seq items) ↔ ∀ item ∈ items, AllMappings P item := by
  constructor
  · intro h item hitem inner hinner
    exact h inner (.item hitem hinner)
  · intro h inner hinner
    cases hinner with
    | item hmem hinner => exact h _ hmem inner hinner

theorem allMappings_of_isScalar {P : List (Node × Node) → Prop} (node : Node)
    (h : node.isScalar = true) : AllMappings P node := by
  intro entries hvalue
  cases hvalue with
  | here => exact Bool.noConfusion h
  | item => exact Bool.noConfusion h
  | value => exact Bool.noConfusion h

/-! ### Leaves -/

/-- The text of a key as a part of a path; a collection, which is no key, has none. -/
def pathText (key : Node) : String := key.keyText?.getD ""

mutual

/-- The leaves of a tree at `path`: its scalars, nulls and empty sequences in value position, in
document order. -/
def leavesAt (path : String) : Node → List (String × Value)
  | .map entries => leavesOfEntries path entries
  | .seq [] => [(path, .str "")]
  | .seq (item :: items) => leavesOfItems path 0 (item :: items)
  | .null => [(path, .str "")]
  | .bool b => [(path, .bool b)]
  | .int i => [(path, .int i)]
  | .float x => [(path, .float x)]
  | .str s => [(path, .str s)]

/-- The leaves of the items of a sequence, counted from `index`. -/
def leavesOfItems (path : String) (index : Nat) : List Node → List (String × Value)
  | [] => []
  | item :: items => leavesAt (itemPath path index) item ++ leavesOfItems path (index + 1) items

/-- The leaves of the values of a mapping. -/
def leavesOfEntries (path : String) : List (Node × Node) → List (String × Value)
  | [] => []
  | (key, value) :: entries =>
      leavesAt (joinPath path key.pathText) value ++ leavesOfEntries path entries

end

theorem leavesOfItems_eq_flatMap (path : String) (index : Nat) (items : List Node) :
    leavesOfItems path index items =
      (items.zipIdx index).flatMap fun e => e.1.leavesAt (itemPath path e.2) := by
  induction items generalizing index with
  | nil => rfl
  | cons item items ih => rw [leavesOfItems, ih, List.zipIdx_cons, List.flatMap_cons]

theorem leavesOfEntries_eq_flatMap (path : String) (entries : List (Node × Node)) :
    leavesOfEntries path entries =
      entries.flatMap fun e => e.2.leavesAt (joinPath path e.1.pathText) := by
  induction entries with
  | nil => rfl
  | cons e entries ih => rw [leavesOfEntries, ih, List.flatMap_cons]

/-- The path of the tree itself: a mapping adds nothing to the paths of its values. -/
def rootPath : Node → String
  | .map _ => ""
  | _ => documentKey

/-- The leaves of a document tree. -/
def leaves (node : Node) : List (String × Value) := node.leavesAt node.rootPath

/-- What a document tree comes to: its leaves, and nothing at all if it is a null. -/
def written : Node → List (String × Value)
  | .null => []
  | node => node.leaves

theorem written_eq_nil_or_leaves (node : Node) :
    node.written = [] ∨ node.written = node.leaves := by
  match node with
  | .null => exact .inl rfl
  | .bool _ | .int _ | .float _ | .str _ | .seq _ | .map _ => exact .inr rfl

/-! ### Equal keys -/

/-- Two keys are equal: they are the same text, or both are no texts and have the same wording. -/
def SameKey : Node → Node → Prop
  | .str s, .str t => s = t
  | .str _, _ => False
  | _, .str _ => False
  | k, k' => k.leaf.text = k'.leaf.text

/-- What is kept of a key tells it apart from the keys that are not equal to it. -/
theorem sameKey_iff (k k' : Node) : SameKey k k' ↔ k.keyIdentity = k'.keyIdentity := by
  cases k <;> cases k' <;> simp [SameKey, keyIdentity]

instance (k k' : Node) : Decidable (SameKey k k') := decidable_of_iff _ (sameKey_iff k k').symm

theorem keyText?_eq_none_iff (key : Node) : key.keyText? = none ↔ key.isScalar = false := by
  cases key <;> simp [keyText?, isScalar]

end Yaml.Node

/-! ### Paths -/

/-- The part of a path for a key. -/
def keyPart (path text : String) : List Char :=
  if path = "" ∨ text.toList.head? = some '[' then text.toList else '.' :: text.toList

theorem toList_joinPath (path text : String) :
    (joinPath path text).toList = path.toList ++ keyPart path text := by
  by_cases hpath : path = ""
  · simp [joinPath, keyPart, hpath]
  · by_cases hbracket : text.toList.head? = some '[' <;>
      simp [joinPath, keyPart, hpath, hbracket]

/-- A text with a dot before it does not begin with a bracket, so the part tells the text. -/
theorem keyPart_injective (path text text' : String) (h : keyPart path text = keyPart path text') :
    text = text' := by
  apply String.toList_inj.1
  have hfront : ∀ t t' : String, t.toList.head? = some '[' → t.toList ≠ '.' :: t'.toList := by
    intro t t' hbracket heq
    rw [heq, List.head?_cons] at hbracket
    exact absurd (Option.some.inj hbracket) (by decide)
  unfold keyPart at h
  split at h <;> split at h
  · exact h
  · rename_i hplain hdotted
    rw [not_or] at hdotted
    exact absurd h (hfront text text' (hplain.resolve_left hdotted.1))
  · rename_i hdotted hplain
    rw [not_or] at hdotted
    exact absurd h.symm (hfront text' text (hplain.resolve_left hdotted.1))
  · exact (List.cons.inj h).2

/-- Below one path, different texts of keys have different paths. -/
theorem joinPath_injective (path : String) : Function.Injective (joinPath path) := by
  intro text text' h
  have hchars := congrArg String.toList h
  rw [toList_joinPath, toList_joinPath] at hchars
  exact keyPart_injective path text text' (List.append_cancel_left hchars)

open Yaml (Node)

/-! ### Entries -/

/-- An entry of a mapping in value position, as it is met on the way down a tree. -/
structure Visit where
  /-- The path of the mapping. -/
  path : String
  /-- The keys of the entries before it in the mapping. -/
  earlier : List Node
  key : Node
  value : Node

namespace Visit

/-- The path of the value. -/
def child (v : Visit) : String := joinPath v.path v.key.pathText

/-- The key is a collection, or it is equal to that of an entry before it. -/
def IsOffending (v : Visit) : Prop :=
  v.key.isScalar = false ∨ ∃ k ∈ v.earlier, k.SameKey v.key

instance (v : Visit) : Decidable v.IsOffending :=
  inferInstanceAs (Decidable (_ ∨ ∃ k ∈ v.earlier, k.SameKey v.key))

/-- The error of an offending entry.  It tells the path of the mapping if the key is a collection,
and the full path of the entry if the key is repeated. -/
def error (source : String) (v : Visit) : LoadError :=
  if v.key.isScalar then .duplicateKey source v.child else .unsupportedKey source v.path

/-- The outcome of meeting entries on the way to `a`: the error of the first one that is
offending. -/
def judge {α : Type} (source : String) (visits : List Visit) (a : α) : Except LoadError α :=
  match visits.find? fun v => decide v.IsOffending with
  | some v => .error (v.error source)
  | none => .ok a

/-- The notice of meeting an entry: as a part of a path, its key is like that of an entry before
it. -/
def notice? (source : String) (v : Visit) : Option Notice :=
  if v.key.pathText ∈ v.earlier.map Node.pathText then some (.keysCollide v.child source) else none

/-- The notices of meeting entries, which end at the first one that is offending. -/
def notices (source : String) (visits : List Visit) : List Notice :=
  (visits.takeWhile fun v => !decide v.IsOffending).filterMap (notice? source)

variable {α β : Type}

/-- Meeting entries on the way to `a`. -/
def report (source : String) (visits : List Visit) (a : α) : Report α :=
  ⟨notices source visits, judge source visits a⟩

theorem judge_singleton (source : String) (v : Visit) (a : α) :
    judge source [v] a = if v.IsOffending then .error (v.error source) else .ok a := by
  by_cases h : v.IsOffending <;> simp [judge, h]

theorem judge_eq_ok_iff (source : String) (visits : List Visit) (a b : α) :
    judge source visits a = .ok b ↔ (∀ v ∈ visits, ¬ v.IsOffending) ∧ a = b := by
  cases hfirst : visits.find? fun v => decide v.IsOffending with
  | some v =>
      have hmem := List.mem_of_find?_eq_some hfirst
      have hv : v.IsOffending := of_decide_eq_true (List.find?_eq_some_iff_append.1 hfirst).1
      simp only [judge, hfirst, reduceCtorEq, false_iff]
      exact fun h => h.1 v hmem hv
  | none =>
      have hnone : ∀ v ∈ visits, ¬ v.IsOffending := by simpa using hfirst
      simp only [judge, hfirst, Except.ok.injEq]
      exact (and_iff_right hnone).symm

theorem judge_eq_error_iff (source : String) (visits : List Visit) (a : α) (e : LoadError) :
    judge source visits a = .error e ↔ ∃ before v after, visits = before ++ v :: after ∧
      v.IsOffending ∧ e = v.error source ∧ ∀ w ∈ before, ¬ w.IsOffending := by
  constructor
  · intro h
    cases hfirst : visits.find? fun v => decide v.IsOffending with
    | some v =>
        obtain ⟨hv, before, after, hvisits, hbefore⟩ := List.find?_eq_some_iff_append.1 hfirst
        simp only [judge, hfirst, Except.error.injEq] at h
        exact ⟨before, v, after, hvisits, of_decide_eq_true hv, h.symm, by simpa using hbefore⟩
    | none => simp [judge, hfirst] at h
  · rintro ⟨before, v, after, hvisits, hv, rfl, hbefore⟩
    have hfirst : visits.find? (fun v => decide v.IsOffending) = some v :=
      List.find?_eq_some_iff_append.2
        ⟨decide_eq_true hv, before, after, hvisits, by simpa using hbefore⟩
    rw [judge, hfirst]

/-- Entries that are met on the way to `a`, and then those on the way from `a` to `b`. -/
theorem judge_bind (source : String) (visits more : List Visit) (a : α) (b : β)
    (next : α → Except LoadError β) (hnext : next a = judge source more b) :
    (judge source visits a).bind next = judge source (visits ++ more) b := by
  cases hfirst : visits.find? fun v => decide v.IsOffending with
  | some v => simp [judge, hfirst, List.find?_append, Except.bind]
  | none =>
      rw [judge] at hnext
      simp [judge, hfirst, List.find?_append, Except.bind, hnext]

theorem notices_append (source : String) (visits more : List Visit)
    (h : ∀ v ∈ visits, ¬ v.IsOffending) :
    notices source (visits ++ more) = visits.filterMap (notice? source) ++ notices source more := by
  rw [notices, List.takeWhile_append_of_pos (by simpa using h), List.filterMap_append]
  rfl

theorem notices_of_not_isOffending (source : String) (visits : List Visit)
    (h : ∀ v ∈ visits, ¬ v.IsOffending) :
    notices source visits = visits.filterMap (notice? source) := by
  simpa [notices] using notices_append source visits [] h

theorem notices_cons_of_isOffending (source : String) (v : Visit) (visits : List Visit)
    (h : v.IsOffending) : notices source (v :: visits) = [] := by
  simp [notices, h]

/-- Meeting entries on the way to `a`, and then those on the way from `a` to `b`. -/
theorem report_bind (source : String) (visits more : List Visit) (a : α) (b : β)
    (next : α → Report β) (hnext : next a = report source more b) :
    report source visits a >>= next = report source (visits ++ more) b := by
  apply Report.ext
  · rw [Report.notices_bind]
    cases hjudge : judge source visits a with
    | ok a' =>
        obtain ⟨hsound, rfl⟩ := (judge_eq_ok_iff source visits a a').1 hjudge
        simp only [report, hjudge, hnext, notices_append source visits more hsound,
          notices_of_not_isOffending source visits hsound]
    | error e =>
        obtain ⟨before, v, after, rfl, hv, -, hbefore⟩ :=
          (judge_eq_error_iff source visits a e).1 hjudge
        -- nothing is met behind the entry that is offending
        simp only [report, hjudge, List.append_assoc, List.cons_append, List.append_nil,
          notices_append source before _ hbefore, notices_cons_of_isOffending source v _ hv]
  · rw [Report.result_bind]
    exact judge_bind source visits more a b _ (congrArg Report.result hnext)

end Visit

namespace Yaml.Node

mutual

/-- The entries of the mappings in value position in a tree at `path`, in the order in which they
are met: each before the entries in its value, and these before the next one. -/
def visitsAt (path : String) : Node → List Visit
  | .map entries => visitsOfEntries path [] entries
  | .seq items => visitsOfItems path 0 items
  | _ => []

/-- The entries in the items of a sequence, counted from `index`. -/
def visitsOfItems (path : String) (index : Nat) : List Node → List Visit
  | [] => []
  | item :: items => visitsAt (itemPath path index) item ++ visitsOfItems path (index + 1) items

/-- The entries of a mapping that follow those with the keys `earlier`. -/
def visitsOfEntries (path : String) (earlier : List Node) : List (Node × Node) → List Visit
  | [] => []
  | (key, value) :: entries =>
      ⟨path, earlier, key, value⟩ ::
        (visitsAt (joinPath path key.pathText) value ++
          visitsOfEntries path (earlier ++ [key]) entries)

end

/-- The entries of a document tree. -/
def visits (node : Node) : List Visit := node.visitsAt node.rootPath

end Yaml.Node

/-! ### Flattening -/

/-- What is kept of the keys that were met before in a mapping. -/
def Level.ofKeys (earlier : List Node) : Level :=
  ⟨(earlier.map Node.keyIdentity).reverse, (earlier.map Node.pathText).reverse⟩

theorem Level.ofKeys_concat (earlier : List Node) (key : Node) :
    Level.ofKeys (earlier ++ [key]) =
      ⟨key.keyIdentity :: (Level.ofKeys earlier).identities,
        key.pathText :: (Level.ofKeys earlier).texts⟩ := by
  simp [Level.ofKeys]

/-- Meeting the key of one entry, after those before it in the mapping. -/
theorem enter_eq_report (source path : String) (earlier : List Node) (key value : Node) :
    (Level.ofKeys earlier).enter source path key =
      Visit.report source [⟨path, earlier, key, value⟩]
        (joinPath path key.pathText, Level.ofKeys (earlier ++ [key])) := by
  rw [Visit.report, Visit.judge_singleton, Level.enter]
  cases htext : key.keyText? with
  | none =>
      have hcollection := (Node.keyText?_eq_none_iff key).1 htext
      have hoffending : Visit.IsOffending ⟨path, earlier, key, value⟩ := .inl hcollection
      rw [if_pos hoffending, Visit.notices_cons_of_isOffending source _ [] hoffending, Visit.error,
        hcollection]
      rfl
  | some text =>
      have hscalar : key.isScalar = true := by
        rw [← Bool.not_eq_false, ← Node.keyText?_eq_none_iff, htext]
        exact Option.some_ne_none text
      obtain rfl : key.pathText = text := by rw [Node.pathText, htext]; rfl
      have hmet : key.keyIdentity ∈ (Level.ofKeys earlier).identities ↔
          Visit.IsOffending ⟨path, earlier, key, value⟩ := by
        simp [Visit.IsOffending, Level.ofKeys, hscalar, Node.sameKey_iff]
      have hlike : key.pathText ∈ (Level.ofKeys earlier).texts ↔
          key.pathText ∈ earlier.map Node.pathText := List.mem_reverse
      simp only [hmet, hlike]
      by_cases hoffending : Visit.IsOffending ⟨path, earlier, key, value⟩
      · rw [if_pos hoffending, if_pos hoffending,
          Visit.notices_cons_of_isOffending source _ [] hoffending, Visit.error, hscalar]
        rfl
      · have hnotices := Visit.notices_of_not_isOffending source [⟨path, earlier, key, value⟩]
          (List.forall_mem_singleton.2 hoffending)
        rw [if_neg hoffending, if_neg hoffending, hnotices, Level.ofKeys_concat,
          List.filterMap_cons, Visit.notice?]
        split <;> rfl

mutual

/-- **Flattening a tree into a map**: all leaves are inserted, unless an entry is offending, and the
entries tell the notices. -/
theorem flattenNode_eq_report (source path : String) (target : PropertyMap) (node : Node) :
    flattenNode source path target node =
      Visit.report source (node.visitsAt path) (target.insertAll (node.leavesAt path)) := by
  match node with
  | .null | .bool _ | .int _ | .float _ | .str _ | .seq [] => rfl
  | .seq (item :: items) =>
      rw [flattenNode, Node.visitsAt, Node.leavesAt]
      exact flattenItems_eq_report source path 0 target (item :: items)
  | .map entries =>
      rw [flattenNode, Node.visitsAt, Node.leavesAt]
      exact flattenEntries_eq_report source path [] target entries

theorem flattenItems_eq_report (source path : String) (index : Nat) (target : PropertyMap)
    (items : List Node) :
    flattenItems source path index target items =
      Visit.report source (Node.visitsOfItems path index items)
        (target.insertAll (Node.leavesOfItems path index items)) := by
  match items with
  | [] => rfl
  | item :: items =>
      rw [flattenItems, flattenNode_eq_report]
      apply Visit.report_bind
      rw [flattenItems_eq_report, ← PropertyMap.insertAll_append]
      rfl

theorem flattenEntries_eq_report (source path : String) (earlier : List Node)
    (target : PropertyMap) (entries : List (Node × Node)) :
    flattenEntries source path (.ofKeys earlier) target entries =
      Visit.report source (Node.visitsOfEntries path earlier entries)
        (target.insertAll (Node.leavesOfEntries path entries)) := by
  match entries with
  | [] => rfl
  | (key, value) :: entries =>
      -- the entry itself is met first, then those in its value, and then those after it
      rw [flattenEntries, enter_eq_report source path earlier key value]
      apply Visit.report_bind
      dsimp only
      rw [flattenNode_eq_report]
      apply Visit.report_bind
      rw [flattenEntries_eq_report source path (earlier ++ [key]), ← PropertyMap.insertAll_append]
      rfl

end

/-- **Flattening a document**: the map of what the document comes to, unless an entry is
offending. -/
theorem flatten_eq_report (source : String) (node : Node) :
    flatten source node = Visit.report source node.visits (.ofList node.written) := by
  match node with
  | .null => rfl
  | .map entries => exact flattenEntries_eq_report source "" [] .empty entries
  | .bool _ | .int _ | .float _ | .str _ | .seq _ =>
      exact flattenNode_eq_report source documentKey .empty _

/-- **The result of flattening a tree into a map**: all leaves are inserted, unless an entry is
offending. -/
theorem result_flattenNode (source path : String) (target : PropertyMap) (node : Node) :
    (flattenNode source path target node).result =
      Visit.judge source (node.visitsAt path) (target.insertAll (node.leavesAt path)) := by
  rw [flattenNode_eq_report, Visit.report]

/-- **The result of flattening a document** is the map of what the document comes to, unless an
entry is offending: then the error of the first one. -/
theorem result_flatten (source : String) (node : Node) :
    (flatten source node).result = Visit.judge source node.visits (.ofList node.written) := by
  rw [flatten_eq_report, Visit.report]

end ProfileLayers
