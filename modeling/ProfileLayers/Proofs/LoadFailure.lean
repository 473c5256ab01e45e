/-
**Why a load fails.**

A load goes through three stages that can fail: the text is read into trees, the trees are flattened
one after another, and the search for the sought profile is set up.  Each stage takes up all of the
stream before the next one begins.  So a fault anywhere in the text hides every defect of a tree, a
defect of any tree hides a blank profile, and which documents would be selected does not matter.
What discovery finds on the way decides nothing here, for the search is refused by the sought name
alone.

Main definitions:

* `ProfileLayers.Report.error?` — the error of a report, if it failed;
* `ProfileLayers.contentNodes` — the trees of a stream that are flattened;
* `ProfileLayers.loadError?` — the first reason for which a load fails.

Main results:

* `ProfileLayers.Document.error?_ofNodes` — trees fail like the first of them that fails;
* `ProfileLayers.Settings.error?_loadDocuments` — the error of a load;
* `ProfileLayers.Settings.loads_fail_in_fixed_order` — **a load fails for the first of its reasons,
  or takes in the whole stream**.
-/

import ProfileLayers.Proofs.Walk

set_option relaxedAutoImplicit false
set_option autoImplicit false

namespace ProfileLayers

/-! ### Errors of reports -/

namespace Report

variable {α β : Type}

/-- The error of a report, if it failed. -/
def error? (r : Report α) : Option LoadError :=
  match r.result with
  | .ok _ => none
  | .error e => some e

theorem error?_eq_some_iff (r : Report α) (e : LoadError) :
    r.error? = some e ↔ r.result = .error e := by
  unfold error?
  cases r.result <;> simp

theorem error?_eq_none_iff (r : Report α) : r.error? = none ↔ ∃ a, r.result = .ok a := by
  unfold error?
  cases r.result <;> simp

/-- Two steps fail with the error of the first, or else with that of the second. -/
theorem error?_bind_of_error (r : Report α) (f : α → Report β) (e : LoadError)
    (h : r.error? = some e) : (r >>= f).error? = some e := by
  rw [error?_eq_some_iff] at h ⊢
  rw [result_bind, h]
  rfl

theorem error?_bind_of_ok (r : Report α) (f : α → Report β) (a : α) (h : r.result = .ok a) :
    (r >>= f).error? = (f a).error? := by
  unfold error?
  rw [result_bind, h]
  rfl

end Report

/-! ### The three stages -/

/-- The trees of a stream that are flattened: those with content. -/
def contentNodes (text : String) : List Yaml.Node :=
  (Yaml.readStream text).documents.filter fun node => !node.isNull

theorem result_readDocuments (source text : String) :
    (readDocuments source text).result =
      match (Yaml.readStream text).fault? with
      | some fault => .error (.ofFault source fault)
      | none => .ok (contentNodes text) := rfl

namespace Document

/-- Trees fail like the first of them that fails, wherever the counting begins. -/
theorem error?_ofNodes (source : String) (index : Nat) (nodes : List Yaml.Node) :
    (ofNodes source index nodes).error? =
      nodes.findSome? fun node => (flatten source node).error? := by
  induction nodes generalizing index with
  | nil => rfl
  | cons node nodes ih =>
      rw [ofNodes, List.findSome?_cons]
      cases herror : (flatten source node).error? with
      | some e =>
          have hfirst :=
            Report.error?_bind_of_error _ (fun m => pure (ofProperties index m)) e herror
          exact Report.error?_bind_of_error (ofNode source index node) _ e hfirst
      | none =>
          obtain ⟨m, hm⟩ := (Report.error?_eq_none_iff _).1 herror
          have hfirst : (ofNode source index node).result = .ok (ofProperties index m) := by
            rw [ofNode, Report.result_bind, hm]
            rfl
          rw [Report.error?_bind_of_ok _ _ _ hfirst, ← ih (index + 1)]
          cases hlater : (ofNodes source (index + 1) nodes).error? with
          | some e => exact Report.error?_bind_of_error _ _ e hlater
          | none =>
              obtain ⟨documents, hdocuments⟩ := (Report.error?_eq_none_iff _).1 hlater
              exact Report.error?_bind_of_ok _ _ _ hdocuments

/-- Every tree becomes a document. -/
theorem length_of_ofNodes (source : String) (index : Nat) (nodes : List Yaml.Node)
    (documents : List Document) (h : (ofNodes source index nodes).result = .ok documents) :
    documents.length = nodes.length := by
  induction nodes generalizing index documents with
  | nil =>
      cases h
      rfl
  | cons node nodes ih =>
      simp only [ofNodes, Report.result_bind, Report.result_pure, except_bind_eq_ok] at h
      obtain ⟨first, -, later, hlater, hdocuments⟩ := h
      cases hdocuments
      rw [List.length_cons, List.length_cons, ih (index + 1) later hlater]

end Document

/-- The first reason for which a load fails, if there is one: a fault of the text, a defect of a
tree, or a blank profile that is sought. -/
def loadError? (source text : String) (sought? : Option String) : Option LoadError :=
  match (Yaml.readStream text).fault? with
  | some fault => some (.ofFault source fault)
  | none =>
      ((contentNodes text).findSome? fun node => (flatten source node).error?).or
        ((sought?.filter isBlankText).map .blankProfile)

section Reasons

variable (source text : String) (sought? : Option String)

theorem loadError?_of_fault (fault : Yaml.Fault) (h : (Yaml.readStream text).fault? = some fault) :
    loadError? source text sought? = some (.ofFault source fault) := by
  rw [loadError?, h]

variable (hfault : (Yaml.readStream text).fault? = none)
include hfault

theorem loadError?_of_defect (before : List Yaml.Node) (node : Yaml.Node) (after : List Yaml.Node)
    (e : LoadError) (hsplit : contentNodes text = before ++ node :: after)
    (hbefore : ∀ earlier ∈ before, ∃ m, (flatten source earlier).result = .ok m)
    (hnode : (flatten source node).result = .error e) :
    loadError? source text sought? = some e := by
  have hnone : before.findSome? (fun node => (flatten source node).error?) = none := by
    rw [List.findSome?_eq_none_iff]
    exact fun earlier hearlier => (Report.error?_eq_none_iff _).2 (hbefore earlier hearlier)
  have hsome : (flatten source node).error? = some e := (Report.error?_eq_some_iff _ e).2 hnode
  rw [loadError?, hfault, hsplit, List.findSome?_append, hnone, Option.none_or,
    List.findSome?_cons, hsome]
  rfl

theorem loadError?_of_flattened
    (hnodes : ∀ node ∈ contentNodes text, ∃ m, (flatten source node).result = .ok m) :
    loadError? source text sought? = (sought?.filter isBlankText).map .blankProfile := by
  have hnone : (contentNodes text).findSome? (fun node => (flatten source node).error?) = none := by
    rw [List.findSome?_eq_none_iff]
    exact fun node hnode => (Report.error?_eq_none_iff _).2 (hnodes node hnode)
  rw [loadError?, hfault, hnone, Option.none_or]

end Reasons

namespace Settings

theorem error?_loadRead (settings : Settings) (active : ProfileSet) (source : String)
    (documents : List Document) (sought? : Option String) :
    (settings.loadRead active source documents sought?).error? =
      (sought?.filter isBlankText).map .blankProfile := by
  unfold Report.error?
  rw [result_loadRead]
  cases sought? with
  | none => rfl
  | some p =>
      cases h : isBlankText p <;>
        simp [Matcher.seek?, Matcher.specific?, h, Except.map, Option.filter]

/-- The error of a load is the first of the reasons, whatever the settings and the active profiles
are. -/
theorem error?_loadDocuments (settings : Settings) (active : ProfileSet) (source text : String)
    (sought? : Option String) :
    (settings.loadDocuments active source text sought?).error? =
      loadError? source text sought? := by
  unfold loadDocuments loadError?
  have hread := result_readDocuments source text
  cases hfault : (Yaml.readStream text).fault? with
  | some fault =>
      rw [hfault] at hread
      have hfirst := (Report.error?_eq_some_iff _ _).2 hread
      exact Report.error?_bind_of_error _ _ _ (Report.error?_bind_of_error _ _ _ hfirst)
  | none =>
      rw [hfault] at hread
      have hnodes := Document.error?_ofNodes source 0 (contentNodes text)
      have hall : (Document.readAll source text).error? =
          (contentNodes text).findSome? fun node => (flatten source node).error? := by
        rw [← hnodes]
        exact Report.error?_bind_of_ok _ _ _ hread
      cases herror : (contentNodes text).findSome? fun node => (flatten source node).error? with
      | some e =>
          rw [herror] at hall
          exact Report.error?_bind_of_error _ _ e hall
      | none =>
          rw [herror] at hall
          obtain ⟨documents, hdocuments⟩ := (Report.error?_eq_none_iff _).1 hall
          rw [Report.error?_bind_of_ok _ _ _ hdocuments, error?_loadRead, Option.none_or]

/-- A load that succeeds takes in the whole stream: it selects among documents for all trees with
content. -/
theorem exists_documents_of_loadError?_eq_none (settings : Settings) (active : ProfileSet)
    (source text : String) (sought? : Option String) (h : loadError? source text sought? = none) :
    ∃ documents m, (Document.readAll source text).result = .ok documents ∧
      documents.length = (contentNodes text).length ∧
      (settings.loadDocuments active source text sought?).result =
        .ok ⟨namedSources (settings.sourcesOf (selectDocuments m documents)),
          (discover (documents.map (·.declarations)) sought? active).active⟩ := by
  rw [← error?_loadDocuments settings active, Report.error?_eq_none_iff] at h
  obtain ⟨loaded, hloaded⟩ := h
  obtain ⟨documents, hread, m, -, rfl⟩ := (loadDocuments_eq_ok_iff _ _ _ _ _ _).1 hloaded
  refine ⟨documents, m, hread, ?_, hloaded⟩
  rw [Document.readAll, Report.result_bind, except_bind_eq_ok] at hread
  obtain ⟨nodes, hnodes, hdocuments⟩ := hread
  rw [result_readDocuments] at hnodes
  split at hnodes
  · cases hnodes
  · cases hnodes
    exact Document.length_of_ofNodes source 0 _ documents hdocuments

/-- **A load fails for the first of its reasons, or takes in the whole stream.**  A fault of the
text is the error, whatever the trees before it hold.  Else it is the error of the first tree with
content that cannot be flattened, whatever its document applies to.  Else it is that of a blank
profile, if one is sought.  In every other case the load succeeds, with sources of documents that
were selected among those of all trees.  The error depends neither on the settings nor on the active
profiles. -/
theorem loads_fail_in_fixed_order (settings : Settings) (active : ProfileSet) (source text : String)
    (sought? : Option String) :
    let loaded := (settings.loadDocuments active source text sought?).result
    let reading := Yaml.readStream text
    let nodes := reading.documents.filter fun node => !node.isNull
    (∀ fault, reading.fault? = some fault →
      loaded = .error (.ofFault source fault) ∧ (LoadError.ofFault source fault).isParse = true) ∧
    (reading.fault? = none →
      (∀ before node after e, nodes = before ++ node :: after →
        (∀ earlier ∈ before, ∃ m, (flatten source earlier).result = .ok m) →
        (flatten source node).result = .error e → loaded = .error e) ∧
      ((∀ node ∈ nodes, ∃ m, (flatten source node).result = .ok m) →
        (∀ p, sought? = some p → isBlankText p = true →
          loaded = .error (.blankProfile p) ∧ (LoadError.blankProfile p).isInvalidArgument = true) ∧
        ((∀ p, sought? = some p → isBlankText p = false) →
          ∃ documents m, (Document.readAll source text).result = .ok documents ∧
            documents.length = nodes.length ∧
            loaded = .ok ⟨namedSources (settings.sourcesOf (selectDocuments m documents)),
              (discover (documents.map (·.declarations)) sought? active).active⟩))) ∧
    ∀ (others : Settings) (other : ProfileSet) (e : LoadError),
      loaded = .error e ↔
        (others.loadDocuments other source text sought?).result = .error e := by
  intro loaded reading nodes
  have herror : ∀ e, loaded = .error e ↔ loadError? source text sought? = some e := by
    intro e
    rw [← error?_loadDocuments settings active, Report.error?_eq_some_iff]
  refine ⟨fun fault hfault => ⟨?_, rfl⟩, fun hfault => ⟨?_, fun hnodes => ⟨?_, ?_⟩⟩, ?_⟩
  · rw [herror]
    exact loadError?_of_fault source text sought? fault hfault
  · intro before node after e hsplit hbefore hnode
    rw [herror]
    exact loadError?_of_defect source text sought? hfault before node after e hsplit hbefore hnode
  · intro p hp hblank
    refine ⟨?_, rfl⟩
    rw [herror, loadError?_of_flattened source text sought? hfault hnodes, hp]
    simp [Option.filter, hblank]
  · intro hp
    apply exists_documents_of_loadError?_eq_none
    rw [loadError?_of_flattened source text sought? hfault hnodes, Option.map_eq_none_iff,
      Option.filter_eq_none_iff]
    intro p hsought
    rw [hp p hsought]
    exact Bool.false_ne_true
  · intro others other e
    rw [herror, ← error?_loadDocuments others other, Report.error?_eq_some_iff]

/-- A stream with a repeated key in its first document and an unclosed sequence in its second. -/
def unclosedStream : String := "a: 1\na: 2\n---\nb: [1, 2\n"

/-- A stream with an empty document, with a repeated key in a document for a profile, and with a
collection as a key. -/
def defectiveStream : String :=
  "x: 1\n---\n~\n---\nspring.profiles: z\nport: 1\nport: 2\n---\n? [y]\n: 3\n"

/-- While `z` is active and a blank profile is sought, the first stream fails for its unclosed
sequence and the second for its repeated key, and only a stream that can be flattened fails for the
profile. -/
theorem broken_streams_fail_in_order :
    (Yaml.readStream unclosedStream).fault? = some .brokenCollection ∧
      (standard.loadDocuments (.ofList ["z"]) "s" unclosedStream (some " ")).result =
        .error (.ofFault "s" .brokenCollection) ∧
      (standard.loadDocuments (.ofList ["z"]) "s" defectiveStream (some " ")).result =
        .error (.duplicateKey "s" "port") ∧
      (standard.loadDocuments (.ofList ["z"]) "s" "x: 1" (some " ")).result =
        .error (.blankProfile " ") := by
  have hunclosed : (Yaml.readStream unclosedStream).fault? = some .brokenCollection := by
    decide +kernel
  have hfaultless : (Yaml.readStream defectiveStream).fault? = none ∧
      (Yaml.readStream "x: 1").fault? = none := by
    decide +kernel
  have herrors : ((Yaml.readStream defectiveStream).documents.filter fun node =>
      !node.isNull).map (fun node => (flatten "s" node).error?) =
        [none, some (.duplicateKey "s" "port"), some (.unsupportedKey "s" "")] := by
    decide +kernel
  have hflat : ((Yaml.readStream "x: 1").documents.filter fun node =>
      !node.isNull).all (fun node => (flatten "s" node).error?.isNone) = true := by
    decide +kernel
  obtain ⟨first, later, hnodes, hfirst, hlater⟩ := List.map_eq_cons_iff.1 herrors
  obtain ⟨second, last, rfl, hsecond, -⟩ := List.map_eq_cons_iff.1 hlater
  obtain ⟨hfault, -, -⟩ :=
    loads_fail_in_fixed_order standard (.ofList ["z"]) "s" unclosedStream (some " ")
  obtain ⟨-, hdefect, -⟩ :=
    loads_fail_in_fixed_order standard (.ofList ["z"]) "s" defectiveStream (some " ")
  obtain ⟨-, hblank, -⟩ := loads_fail_in_fixed_order standard (.ofList ["z"]) "s" "x: 1" (some " ")
  refine ⟨hunclosed, (hfault _ hunclosed).1, ?_, ?_⟩
  · refine (hdefect hfaultless.1).1 [first] second last _ hnodes ?_ ?_
    · intro earlier hearlier
      rw [List.mem_singleton.1 hearlier]
      exact (Report.error?_eq_none_iff _).1 hfirst
    · exact (Report.error?_eq_some_iff _ _).1 hsecond
  · refine (((hblank hfaultless.2).2 ?_).1 " " rfl (by decide)).1
    intro node hnode
    rw [← Report.error?_eq_none_iff, ← Option.isNone_iff_eq_none]
    exact List.all_eq_true.1 hflat node hnode

end Settings

end ProfileLayers
