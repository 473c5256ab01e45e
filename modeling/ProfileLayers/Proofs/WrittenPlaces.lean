/-
**What stands where a scalar was written.**

A document is first built from its events as a tree, whose leaves are scalars as they were written
and aliases, and then resolved into its node.  A place in either is told by the steps that lead to
it; a step past an alias goes on in what the alias stands for.  Resolving keeps places: where the
tree has a scalar, the node has the node of that scalar, whatever stands around it, however deep it
is, and however many aliases were followed before.

Main definitions:

* `ProfileLayers.Yaml.Step` — a step down into a collection;
* `ProfileLayers.Yaml.Tree.at?`, `ProfileLayers.Yaml.Node.at?` — what stands at a place;
* `ProfileLayers.Yaml.Builder.plainAt?` — the text of a plain scalar in a document as it was built;
* `ProfileLayers.Yaml.writtenDocuments` — the documents of a stream as they are built;
* `ProfileLayers.Yaml.Node.Shows` — what a node comes to when its document is flattened.

Main results:

* `ProfileLayers.Yaml.Tree.at?_resolve` — resolving keeps places;
* `ProfileLayers.Yaml.map_finish_writtenDocuments` — the documents of a text that can be read are
  those that were built, resolved one by one;
* `ProfileLayers.Yaml.at?_of_plainAt?` — **a plain scalar is read where it was written**;
* `ProfileLayers.Yaml.exists_surroundings_of_at?` — a place that no key leads to has surroundings;
* `ProfileLayers.Yaml.shows_of_at?` — the scalar there is the property at its path, if it is the
  last leaf that has this path.
-/

import ProfileLayers.Proofs.Surroundings
import ProfileLayers.Yaml.Stream

set_option relaxedAutoImplicit false
set_option autoImplicit false

namespace ProfileLayers.Yaml

/-! ### Places -/

/-- A step down into a collection. -/
inductive Step where
  | item (index : Nat)
  | key (index : Nat)
  | value (index : Nat)
deriving Repr, DecidableEq, Inhabited

/-- Whether a step leads to a key. -/
def Step.isKey : Step → Bool
  | .key _ => true
  | _ => false

/-- The node one step below. -/
def Node.child? : Node → Step → Option Node
  | .seq items, .item i => items[i]?
  | .map entries, .key i => entries[i]?.map Prod.fst
  | .map entries, .value i => entries[i]?.map Prod.snd
  | _, _ => none

/-- The node to which steps lead. -/
def Node.at? (node : Node) : List Step → Option Node
  | [] => some node
  | step :: steps => (node.child? step).bind fun child => child.at? steps

/-- The tree one step below. -/
def Tree.child? : Tree → Step → Option Tree
  | .seq items, .item i => items[i]?
  | .map entries, .key i => entries[i]?.map Prod.fst
  | .map entries, .value i => entries[i]?.map Prod.snd
  | _, _ => none

/-- The tree that an alias stands for, or the tree itself. -/
def Tree.behind? (target? : Nat → Option Tree) : Tree → Option Tree
  | .alias number => target? number
  | t => some t

/-- The tree to which steps lead, past aliases. -/
def Tree.at? (target? : Nat → Option Tree) (t : Tree) : List Step → Option Tree
  | [] => t.behind? target?
  | step :: steps =>
      (t.behind? target?).bind fun t => (t.child? step).bind fun child => child.at? target? steps

/-- The text of a plain scalar without a tag. -/
def Tree.plainText? : Tree → Option (List Char)
  | .scalar none .plain text => some text
  | _ => none

/-- The text of the plain scalar without a tag at a place of a document as it was built. -/
def Builder.plainAt? (b : Builder) (steps : List Step) : Option (List Char) :=
  b.root?.bind fun t => (t.at? b.target? steps).bind Tree.plainText?

/-! ### Resolving -/

section Resolve

variable {target? : Nat → Option Tree} {limit depth followed after : Nat} {t : Tree} {node : Node}

theorem Tree.behind?_of_follow {s : Tree}
    (h : t.follow target? limit followed = .ok (s, after)) : t.behind? target? = some s := by
  match t, h with
  | .alias number, h =>
      rw [follow] at h
      split at h
      · contradiction
      · split at h
        · next found => cases h; exact found
        · contradiction
  | .scalar .., h | .seq _, h | .map _, h => cases h; rfl

/-- A computation and the next one succeed if both do. -/
theorem run_bind_eq_ok {α β : Type} (x : StateT Nat (Except Fault) α)
    (f : α → StateT Nat (Except Fault) β) (b : β) :
    (x >>= f).run followed = .ok (b, after) ↔
      ∃ a between, x.run followed = .ok (a, between) ∧ (f a).run between = .ok (b, after) := by
  rw [StateT.run_bind]
  cases x.run followed with
  | error e => simp [bind, Except.bind]
  | ok pair => simp [bind, Except.bind, Prod.ext_iff, and_assoc]

theorem run_pure_eq_ok {α : Type} (a b : α) :
    (pure a : StateT Nat (Except Fault) α).run followed = .ok (b, after) ↔
      a = b ∧ followed = after := by
  rw [StateT.run_pure]
  simp [pure, Except.pure]

theorem exists_run_of_run' {α : Type} {x : StateT Nat (Except Fault) α} {a : α}
    (h : x.run' followed = .ok a) : ∃ later, x.run followed = .ok (a, later) := by
  rw [StateT.run'] at h
  rw [StateT.run]
  cases hx : x followed with
  | error fault => simp [hx, Functor.map, Except.map] at h
  | ok pair =>
      obtain rfl : pair.1 = a := by simpa [hx, Functor.map, Except.map] using h
      exact ⟨pair.2, rfl⟩

/-- Each result of a list of computations is the result of its own. -/
theorem exists_run_of_mapM {α β : Type} {f : α → StateT Nat (Except Fault) β} {l : List α}
    {results : List β} (h : (l.mapM f).run followed = .ok (results, after)) {i : Nat} {a : α}
    (ha : l[i]? = some a) :
    ∃ b before later, results[i]? = some b ∧ (f a).run before = .ok (b, later) := by
  induction l generalizing followed results i with
  | nil => simp at ha
  | cons x l ih =>
      rw [List.mapM_cons] at h
      simp only [run_bind_eq_ok, run_pure_eq_ok] at h
      obtain ⟨y, between, hy, rest, later, hrest, rfl, rfl⟩ := h
      cases i with
      | zero =>
          obtain rfl : x = a := by simpa using ha
          exact ⟨y, followed, between, rfl, hy⟩
      | succ i => exact ih hrest (by simpa using ha)

/-- What resolved trees are resolved from: scalars, sequences and mappings, perhaps past an
alias. -/
theorem Tree.resolveWith_cases {inner? : Option Resolver}
    (h : (t.resolveWith target? limit inner?).run followed = .ok (node, after)) :
    (∃ tag? style text, t.behind? target? = some (.scalar tag? style text) ∧
      Node.ofScalar tag? style text = .ok node) ∨
    (∃ inner items nodes between, inner? = some inner ∧ t.behind? target? = some (.seq items) ∧
      node = .seq nodes ∧ (items.mapM inner).run between = .ok (nodes, after)) ∨
    (∃ inner entries nodes between, inner? = some inner ∧
      t.behind? target? = some (.map entries) ∧
      node = .map nodes ∧ (entries.mapM inner.entry).run between = .ok (nodes, after)) := by
  simp only [resolveWith, StateT.run] at h
  cases hfollow : t.follow target? limit followed with
  | error e => simp [hfollow, bind, Except.bind] at h
  | ok pair =>
    obtain ⟨s, between⟩ := pair
    rw [Tree.behind?_of_follow hfollow]
    rw [hfollow] at h
    simp only [bind, Except.bind] at h
    split at h
    · next tag? style text =>
        split at h
        · contradiction
        · next found => cases h; exact .inl ⟨tag?, style, text, rfl, found⟩
    · contradiction
    · contradiction
    · contradiction
    · next items inner =>
        split at h
        · contradiction
        · next found =>
            cases h
            exact .inr (.inl ⟨inner, items, _, between, rfl, rfl, rfl, found⟩)
    · next entries inner =>
        split at h
        · contradiction
        · next found =>
            cases h
            exact .inr (.inr ⟨inner, entries, _, between, rfl, rfl, rfl, found⟩)

theorem Tree.exists_resolveWith (target? : Nat → Option Tree) (limit depth : Nat) :
    ∃ inner?, resolve target? limit depth = resolveWith target? limit inner? ∧
      ∀ inner, inner? = some inner → ∃ depth', inner = resolve target? limit depth' := by
  cases depth with
  | zero => exact ⟨none, by rw [resolve], by simp⟩
  | succ depth => exact ⟨some (resolve target? limit depth), by rw [resolve], by simp⟩

/-- An entry is resolved to the nodes of its key and its value. -/
theorem Resolver.exists_run_of_entry {inner : Resolver} {entry : Tree × Tree} {pair : Node × Node}
    (h : (inner.entry entry).run followed = .ok (pair, after)) :
    ∃ between, (inner entry.1).run followed = .ok (pair.1, between) ∧
      (inner entry.2).run between = .ok (pair.2, after) := by
  simp only [Resolver.entry, run_bind_eq_ok, run_pure_eq_ok] at h
  obtain ⟨key, between, hkey, value, later, hvalue, rfl, rfl⟩ := h
  exact ⟨between, hkey, hvalue⟩

/-- A part of a tree is resolved to the same part of its node. -/
theorem Tree.exists_resolve_of_child? {s child : Tree} {step : Step}
    (h : (t.resolve target? limit depth).run followed = .ok (node, after))
    (hs : t.behind? target? = some s) (hchild : s.child? step = some child) :
    ∃ depth' before later node', node.child? step = some node' ∧
      (child.resolve target? limit depth').run before = .ok (node', later) := by
  obtain ⟨inner?, hresolve, hinner⟩ := exists_resolveWith target? limit depth
  rw [hresolve] at h
  rcases resolveWith_cases h with ⟨tag?, style, text, hbehind, -⟩ |
    ⟨inner, items, nodes, between, hsome, hbehind, rfl, hrun⟩ |
    ⟨inner, entries, nodes, between, hsome, hbehind, rfl, hrun⟩
  · obtain rfl : s = .scalar tag? style text := by simpa [hs] using hbehind
    cases step <;> cases hchild
  · obtain rfl : s = .seq items := by simpa [hs] using hbehind
    obtain ⟨depth', rfl⟩ := hinner inner hsome
    cases step with
    | key i => cases hchild
    | value i => cases hchild
    | item i =>
        obtain ⟨node', before, later, hnode, hlater⟩ := exists_run_of_mapM hrun hchild
        exact ⟨depth', before, later, node', hnode, hlater⟩
  · obtain rfl : s = .map entries := by simpa [hs] using hbehind
    obtain ⟨depth', rfl⟩ := hinner inner hsome
    cases step with
    | item i => cases hchild
    | key i =>
        obtain ⟨entry, hentry, rfl⟩ := Option.map_eq_some_iff.1 hchild
        obtain ⟨pair, before, later, hpair, hlater⟩ := exists_run_of_mapM hrun hentry
        obtain ⟨between, hkey, hvalue⟩ := Resolver.exists_run_of_entry hlater
        exact ⟨depth', before, between, pair.1, by simp [Node.child?, hpair], hkey⟩
    | value i =>
        obtain ⟨entry, hentry, rfl⟩ := Option.map_eq_some_iff.1 hchild
        obtain ⟨pair, before, later, hpair, hlater⟩ := exists_run_of_mapM hrun hentry
        obtain ⟨between, hkey, hvalue⟩ := Resolver.exists_run_of_entry hlater
        exact ⟨depth', between, later, pair.2, by simp [Node.child?, hpair], hvalue⟩

theorem Tree.ofScalar_of_resolve {tag? : Option (List Char)} {style : Style} {text : List Char}
    (h : (t.resolve target? limit depth).run followed = .ok (node, after))
    (hbehind : t.behind? target? = some (.scalar tag? style text)) :
    Node.ofScalar tag? style text = .ok node := by
  obtain ⟨inner?, hresolve, -⟩ := exists_resolveWith target? limit depth
  rw [hresolve] at h
  rcases resolveWith_cases h with ⟨tag', style', text', hother, hnode⟩ |
    ⟨inner, items, nodes, between, -, hother, -, -⟩ |
    ⟨inner, entries, nodes, between, -, hother, -, -⟩
  · rw [hbehind] at hother
    cases hother
    exact hnode
  · simp [hbehind] at hother
  · simp [hbehind] at hother

/-- **Resolving keeps places.**  Where a tree has a scalar, its node has the node of that scalar. -/
theorem Tree.at?_resolve {steps : List Step} {tag? : Option (List Char)} {style : Style}
    {text : List Char} (h : (t.resolve target? limit depth).run followed = .ok (node, after))
    (hat : t.at? target? steps = some (.scalar tag? style text)) :
    ∃ leaf, node.at? steps = some leaf ∧ Node.ofScalar tag? style text = .ok leaf := by
  induction steps generalizing t depth followed after node with
  | nil => exact ⟨node, rfl, ofScalar_of_resolve h hat⟩
  | cons step steps ih =>
      obtain ⟨s, hs, hbelow⟩ := Option.bind_eq_some_iff.1 hat
      obtain ⟨child, hchild, hrest⟩ := Option.bind_eq_some_iff.1 hbelow
      obtain ⟨depth', before, later, node', hnode, hrun⟩ := exists_resolve_of_child? h hs hchild
      obtain ⟨leaf, hleaf, hscalar⟩ := ih hrun hrest
      exact ⟨leaf, by simpa [Node.at?, hnode] using hleaf, hscalar⟩

end Resolve

/-- A plain scalar without a tag is read where it was written. -/
theorem at?_of_plainAt? {b : Builder} {document : Node} {steps : List Step} {text : List Char}
    (hfinish : b.finish = .ok document) (hat : b.plainAt? steps = some text) :
    document.at? steps = some (.ofPlain text) := by
  obtain ⟨t, hroot, hplain⟩ := Option.bind_eq_some_iff.1 hat
  obtain ⟨leaf, hleaf, htext⟩ := Option.bind_eq_some_iff.1 hplain
  have hscalar : leaf = .scalar none .plain text := by
    match leaf, htext with
    | .scalar none .plain _, htext => cases htext; rfl
  rw [Builder.finish, hroot] at hfinish
  rw [hscalar] at hleaf
  obtain ⟨after, hrun⟩ := exists_run_of_run' hfinish
  obtain ⟨node, hnode, hplain⟩ := Tree.at?_resolve hrun hleaf
  cases hplain
  exact hnode

/-! ### The documents of a stream -/

/-- The documents that events spell out, as they are built; `b` is the one that is being read. -/
def builtFrom : List Event → Builder → List Builder
  | [], _ => []
  | .documentStart :: events, _ => builtFrom events .empty
  | .documentEnd :: events, b => b :: builtFrom events .empty
  | e :: events, b =>
      match b.add e with
      | .error _ => []
      | .ok b => builtFrom events b

/-- The documents of a text as they are built. -/
def writtenDocuments (text : String) : List Builder :=
  if isBlankText text then []
  else
    let parsed := parse (scan text.toList)
    if parsed.events.isEmpty && parsed.fault?.isNone then [.empty]
    else builtFrom parsed.events .empty

theorem map_finish_builtFrom (last? : Option Fault) (events : List Event) (b : Builder)
    (h : (Reading.ofEvents last? events b).fault? = none) :
    (builtFrom events b).map Builder.finish =
      (Reading.ofEvents last? events b).documents.map .ok := by
  fun_induction Reading.ofEvents last? events b with
  | case1 => rfl
  | case2 events b ih => exact ih h
  | case3 => exact absurd h (Option.some_ne_none _)
  | case4 events b node hfinish reading =>
      rename_i ih
      rw [builtFrom, List.map_cons, List.map_cons, hfinish, ih h]
  | case5 => exact absurd h (Option.some_ne_none _)
  | case6 e events b hstart hend next hadd ih =>
      rw [builtFrom.eq_4 b e events hstart hend, hadd]
      exact ih h

/-- The documents of a text that can be read are those that were built, resolved one by one. -/
theorem map_finish_writtenDocuments (text : String) (h : (readStream text).fault? = none) :
    (writtenDocuments text).map Builder.finish = (readStream text).documents.map .ok := by
  unfold readStream at h ⊢
  rw [writtenDocuments]
  split
  · rfl
  · next hblank =>
      rw [if_neg hblank, readChars] at h
      rw [readChars]
      dsimp only at h ⊢
      split
      · rfl
      · next hsome =>
          rw [if_neg hsome] at h
          exact map_finish_builtFrom _ _ _ h

/-- What was built is read, if the text can be read. -/
theorem exists_document_of_written {text : String} {i : Nat} {built : Builder}
    (h : (readStream text).fault? = none) (hbuilt : (writtenDocuments text)[i]? = some built) :
    ∃ document, (readStream text).documents[i]? = some document ∧
      built.finish = .ok document := by
  have hfinish : ((readStream text).documents.map Except.ok)[i]? = some built.finish := by
    rw [← map_finish_writtenDocuments text h, List.getElem?_map, hbuilt, Option.map_some]
  rw [List.getElem?_map, Option.map_eq_some_iff] at hfinish
  obtain ⟨document, hdocument, hok⟩ := hfinish
  exact ⟨document, hdocument, hok.symm⟩

/-! ### Surroundings of places -/

/-- The steps that lead to a place. -/
def Surroundings.steps : Surroundings → List Step
  | .here => []
  | .item before inner _ => .item before.length :: inner.steps
  | .entry before _ inner _ => .value before.length :: inner.steps

theorem exists_append_of_getElem? {α : Type} {l : List α} {i : Nat} {a : α} (h : l[i]? = some a) :
    ∃ before after, l = before ++ a :: after ∧ before.length = i := by
  obtain ⟨hi, rfl⟩ := List.getElem?_eq_some_iff.1 h
  refine ⟨l.take i, l.drop (i + 1), ?_, List.length_take_of_le (Nat.le_of_lt hi)⟩
  rw [← List.drop_eq_getElem_cons hi, List.take_append_drop]

/-- A place that no key leads to has surroundings. -/
theorem exists_surroundings_of_at? {node leaf : Node} {steps : List Step}
    (hvalues : ∀ step ∈ steps, step.isKey = false) (hat : node.at? steps = some leaf) :
    ∃ around : Surroundings, around.steps = steps ∧ node = around.fill leaf := by
  induction steps generalizing node with
  | nil => exact ⟨.here, rfl, Option.some.inj hat⟩
  | cons step steps ih =>
      obtain ⟨child, hchild, hrest⟩ := Option.bind_eq_some_iff.1 hat
      obtain ⟨hstep, hsteps⟩ := List.forall_mem_cons.1 hvalues
      obtain ⟨inner, rfl, rfl⟩ := ih hsteps hrest
      match node, step, hchild with
      | .seq items, .item i, hchild =>
          obtain ⟨before, after, rfl, rfl⟩ := exists_append_of_getElem? hchild
          exact ⟨.item before inner after, rfl, rfl⟩
      | .map entries, .key i, _ => simp [Step.isKey] at hstep
      | .map entries, .value i, hchild =>
          obtain ⟨⟨key, value⟩, hentry, rfl⟩ := Option.map_eq_some_iff.1 hchild
          obtain ⟨before, after, rfl, rfl⟩ := exists_append_of_getElem? hentry
          exact ⟨.entry before key inner after, rfl, rfl⟩

/-! ### Properties of places -/

/-- Steps lead to `leaf` in a document, and where the document is flattened, `leaf` is the property
at the path of its place, unless a later leaf has the same path. -/
def Node.Shows (document : Node) (steps : List Step) (leaf : Node) : Prop :=
  ∃ around : Surroundings, around.steps = steps ∧ document = around.fill leaf ∧
    ∀ source m, (flatten source document).result = .ok m →
      around.place ∉ Entries.keys (around.leavesAfter around.rootPath) →
        m.find? around.place = some leaf.leaf

/-- A scalar that is a whole document is its only property. -/
theorem result_flatten_of_isScalar (source : String) {leaf : Node} (hscalar : leaf.isScalar = true)
    (hnull : leaf ≠ .null) :
    (flatten source leaf).result = .ok (.ofList [(documentKey, leaf.leaf)]) := by
  match leaf, hscalar, hnull with
  | .null, _, hnull => exact absurd rfl hnull
  | .bool _, _, _ | .int _, _, _ | .float _, _, _ | .str _, _, _ => rfl

/-- The last leaf at a place is the property at its path. -/
theorem Surroundings.find?_of_flatten (around : Surroundings) {leaf : Node} {source : String}
    {m : PropertyMap} (hscalar : leaf.isScalar = true) (hnull : leaf ≠ .null)
    (h : (flatten source (around.fill leaf)).result = .ok m)
    (hlast : around.place ∉ Entries.keys (around.leavesAfter around.rootPath)) :
    m.find? around.place = some leaf.leaf := by
  have hroot : leaf.rootPath = documentKey := by
    cases leaf with
    | map entries => exact absurd hscalar Bool.false_ne_true
    | _ => rfl
  rw [result_flatten, Visit.judge_eq_ok_iff, written_fill around leaf hroot hnull,
    Node.leavesAt_of_isScalar around.place leaf hscalar] at h
  have hafter := Entries.find?_reverse_of_not_mem around.place _ hlast
  rw [← h.2, PropertyMap.find?_ofList]
  simp [List.reverse_append, Entries.find?_append, hafter, Entries.find?]

/-- A scalar that no key leads to is shown where it stands. -/
theorem shows_of_at? {document leaf : Node} {steps : List Step} (hscalar : leaf.isScalar = true)
    (hnull : leaf ≠ .null) (hvalues : ∀ step ∈ steps, step.isKey = false)
    (hat : document.at? steps = some leaf) : document.Shows steps leaf := by
  obtain ⟨around, hsteps, rfl⟩ := exists_surroundings_of_at? hvalues hat
  exact ⟨around, hsteps, rfl, fun source m h hlast =>
    around.find?_of_flatten hscalar hnull h hlast⟩

end ProfileLayers.Yaml
