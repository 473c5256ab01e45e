/-
**The documents in the layers of a stream.**

The documents of a stream are distributed over layers by separate loads: one for the default
documents and one for each active profile, each with a search of its own.  Taken together they hold
what the search of discovery finds with the final active profiles: no document that applies is lost,
and none that does not apply gets in.

Main definitions:

* `ProfileLayers.Source.components` — the parts of a layer;
* `ProfileLayers.Source.IsSourceOf`, `ProfileLayers.IsLayerOf` — what it means that a source reads a
  document, and that a layer is made of some documents;
* `ProfileLayers.profileDocuments` — the documents of the layer of a profile;
* `ProfileLayers.IsApplicable` — the documents that the search of discovery finds.

Main results:

* `ProfileLayers.isLayerOf_combine` — sources are combined into a layer without loss;
* `ProfileLayers.Environment.isLayerOf_profileLayer?`,
  `ProfileLayers.Environment.isLayerOf_defaultLayer?` — the documents of each layer;
* `ProfileLayers.mem_selectDocuments_default`, `ProfileLayers.mem_profileDocuments` — which
  documents these are;
* `ProfileLayers.Environment.layers_hold_applicable_documents` — **selection by layers equals
  matching in discovery**.
-/

import Mathlib.Data.List.Forall2
import ProfileLayers.Proofs.Walk

set_option relaxedAutoImplicit false
set_option autoImplicit false

namespace ProfileLayers

/-! ### Layers made of documents -/

/-- The parts of a layer: those of a composite, and any other source is its only part. -/
def Source.components : Source → List Source
  | .composite _ parts => parts
  | s => [s]

@[simp] theorem Source.components_map (name : String) (properties : PropertyMap) :
    (Source.map name properties).components = [.map name properties] := rfl

@[simp] theorem Source.components_conditional (name : String) (properties : PropertyMap)
    (vetoes : List String) :
    (Source.conditional name properties vetoes).components =
      [.conditional name properties vetoes] := rfl

@[simp] theorem Source.components_composite (name : String) (parts : List Source) :
    (Source.composite name parts).components = parts := rfl

/-- The source reads the document, under some name. -/
def Source.IsSourceOf (s : Source) (d : Document) : Prop := ∃ name, s = d.toSource name

/-- There is a layer under this name exactly if there are documents, and its parts read them one
after another. -/
def IsLayerOf (name : String) (documents : List Document) : Option Source → Prop
  | none => documents = []
  | some layer => documents ≠ [] ∧ layer.name = name ∧
      List.Forall₂ Source.IsSourceOf layer.components documents

theorem Document.name_toSource (d : Document) (name : String) : (d.toSource name).name = name := by
  unfold toSource
  split <;> rfl

theorem Document.components_toSource (d : Document) (name : String) :
    (d.toSource name).components = [d.toSource name] := by
  unfold toSource
  split <;> rfl

theorem Document.renamed_toSource (d : Document) (name other : String) :
    (d.toSource name).renamed other = d.toSource other := by
  unfold toSource
  split <;> rfl

/-- Combining the sources of documents gives a layer that is made of these documents. -/
theorem isLayerOf_combine (sources : DocumentSources) (documents : List Document) (name : String)
    (h : List.Forall₂ (fun s d => Source.IsSourceOf s.source d) sources.sources documents) :
    IsLayerOf name documents (sources.combine name) := by
  obtain ⟨list, active⟩ := sources
  have h : List.Forall₂ (fun s d => Source.IsSourceOf s.source d) list documents := h
  cases h with
  | nil => rfl
  | @cons s d rest others hs hrest =>
      cases hrest with
      | nil =>
          -- a single source takes the name of the layer
          obtain ⟨own, hown⟩ := hs
          have hlayer : s.source.renamed name = d.toSource name := by
            rw [hown, Document.renamed_toSource]
          refine ⟨List.cons_ne_nil d [], ?_, ?_⟩
          · rw [hlayer, Document.name_toSource]
          · rw [hlayer, Document.components_toSource]
            exact .cons ⟨name, rfl⟩ .nil
      | @cons s' d' rest others hs' hrest =>
          refine ⟨List.cons_ne_nil _ _, rfl, ?_⟩
          change List.Forall₂ Source.IsSourceOf ((s :: s' :: rest).map (·.source)) _
          rw [List.forall₂_map_left_iff]
          exact .cons hs (.cons hs' hrest)

/-! ### Sources of the selected documents -/

/-- The source belongs to the document. -/
def DocumentSource.BelongsTo (s : DocumentSource) (d : Document) : Prop :=
  s.profiles = d.profiles ∧ s.source.IsSourceOf d

theorem belongsTo_namedSources (named : List (Document × String)) :
    List.Forall₂ DocumentSource.BelongsTo (namedSources named) (named.map Prod.fst) := by
  induction named with
  | nil => exact .nil
  | cons e named ih => exact .cons ⟨rfl, e.2, rfl⟩ ih

theorem map_fst_sourcesOf (settings : Settings) (selected : List Document) :
    (settings.sourcesOf selected).map Prod.fst = selected := by
  rw [Settings.sourcesOf, List.map_fst_zip]
  simp

/-- The sources that are made of selected documents belong to them, one after another. -/
theorem belongsTo_sourcesOf (settings : Settings) (selected : List Document) :
    List.Forall₂ DocumentSource.BelongsTo (namedSources (settings.sourcesOf selected))
      selected := by
  have h := belongsTo_namedSources (settings.sourcesOf selected)
  rw [map_fst_sourcesOf] at h
  exact h

/-- The documents in the layer of a profile, later ones first. -/
def profileDocuments (active : ProfileSet) (documents : List Document) (profile : String) :
    List Document :=
  (selectDocuments (.specific profile active) documents).filter
    fun d => !d.profiles.positive.isEmpty

namespace Environment

theorem isLayerOf_defaultLayer? (settings : Settings) (source : String)
    (documents : List Document) (active : ProfileSet) :
    IsLayerOf source (selectDocuments (.default active) documents)
      (defaultLayer? settings source documents active) := by
  apply isLayerOf_combine
  exact (belongsTo_sourcesOf settings _).imp fun _ _ h => h.2

theorem isLayerOf_profileLayer? (settings : Settings) (source : String)
    (documents : List Document) (active : ProfileSet) (profile : String) :
    IsLayerOf (layerName source profile) (profileDocuments active documents profile)
      (profileLayer? settings source documents active profile) := by
  apply isLayerOf_combine
  have hselected := belongsTo_sourcesOf settings
    (selectDocuments (.specific profile active) documents)
  have hsame : ∀ s d, DocumentSource.BelongsTo s d →
      ((!s.profiles.positive.isEmpty) = true ↔ (!d.profiles.positive.isEmpty) = true) := by
    intro s d h
    rw [h.1]
  -- sources of default documents are dropped along with their documents
  have hkept := List.rel_filter (R := DocumentSource.BelongsTo) (fun {s d} h => hsame s d h)
    hselected
  exact hkept.imp fun _ _ h => h.2

end Environment

/-! ### Layers and discovery -/

/-- The document is one of these, has properties, and is found by the search of discovery while
`active` are active. -/
def IsApplicable (active : ProfileSet) (documents : List Document) (d : Document) : Prop :=
  d ∈ documents ∧ d.properties.isEmpty = false ∧
    (Matcher.generic active).status d.profiles = .found

theorem mem_selectDocuments (m : Matcher) (documents : List Document) (d : Document) :
    d ∈ selectDocuments m documents ↔
      d ∈ documents ∧ d.properties.isEmpty = false ∧ m.accepts d.profiles = true := by
  rw [selectDocuments, List.mem_reverse, List.mem_filter, Bool.and_eq_true, Bool.not_eq_true',
    and_comm (a := m.accepts d.profiles = true)]

/-- The default search selects the applicable documents without positive profiles. -/
theorem mem_selectDocuments_default (active : ProfileSet) (documents : List Document)
    (hblank : ∀ d ∈ documents, ∀ p ∈ d.profiles.positive, isBlankText p = false) (d : Document) :
    d ∈ selectDocuments (.default active) documents ↔
      IsApplicable active documents d ∧ d.profiles.positive = [] := by
  rw [mem_selectDocuments, IsApplicable, ← Matcher.accepts_iff_status]
  constructor
  · rintro ⟨hd, hsome, hdefault⟩
    obtain ⟨hnone, hgeneric⟩ := (Matcher.default_accepts_iff active _ (hblank d hd)).1 hdefault
    exact ⟨⟨hd, hsome, hgeneric⟩, hnone⟩
  · rintro ⟨⟨hd, hsome, hgeneric⟩, hnone⟩
    exact ⟨hd, hsome, (Matcher.default_accepts_iff active _ (hblank d hd)).2 ⟨hnone, hgeneric⟩⟩

/-- The layer of an active profile gets the applicable documents that name the profile. -/
theorem mem_profileDocuments (active : ProfileSet) (documents : List Document) (profile : String)
    (hprofile : profile ∈ active) (d : Document) :
    d ∈ profileDocuments active documents profile ↔
      IsApplicable active documents d ∧ profile ∈ d.profiles.positive := by
  have hspecific := Matcher.specific_accepts_iff profile active d.profiles hprofile
  have hpositive : (!d.profiles.positive.isEmpty) = true ↔ d.profiles.positive ≠ [] := by
    rw [Bool.not_eq_true', ← Bool.not_eq_true, List.isEmpty_iff]
  rw [profileDocuments, List.mem_filter, mem_selectDocuments, hpositive, IsApplicable,
    ← Matcher.accepts_iff_status]
  constructor
  · rintro ⟨⟨hd, hsome, hfound⟩, hne⟩
    obtain ⟨hnamed, hgeneric⟩ := hspecific.1 ⟨hfound, hne⟩
    exact ⟨⟨hd, hsome, hgeneric⟩, hnamed⟩
  · rintro ⟨⟨hd, hsome, hgeneric⟩, hnamed⟩
    obtain ⟨hfound, hne⟩ := hspecific.2 ⟨hnamed, hgeneric⟩
    exact ⟨⟨hd, hsome, hfound⟩, hne⟩

/-- An applicable document has no positive profile, or names an active one. -/
theorem IsApplicable.exists_active (active : ProfileSet) (documents : List Document)
    (hblank : ∀ d ∈ documents, ∀ p ∈ d.profiles.positive, isBlankText p = false) (d : Document)
    (h : IsApplicable active documents d) :
    d.profiles.positive = [] ∨ ∃ p ∈ active, p ∈ d.profiles.positive := by
  obtain ⟨hd, -, hstatus⟩ := h
  exact Matcher.exists_active_of_generic_accepts active d.profiles (hblank d hd)
    ((Matcher.accepts_iff_status _ _).2 hstatus)

namespace Environment

/-- **Selection by layers equals matching in discovery.**  The layers that a stream adds are those
of the active profiles, the last activated first, and the default one.  The default layer has the
applicable documents without positive profiles, and the layer of a profile has those that name it;
so together they have all applicable documents, and no others. -/
theorem layers_hold_applicable_documents (env : Environment) (source text : String)
    (hload : (env.load source text).failure? = none) :
    ∃ documents, (Document.readAll source text).result = .ok documents ∧
      let after := (env.load source text).environment
      ∃ (default? : Option Source) (layer? : String → Option Source)
        (defaults : List Document) (ofProfile : String → List Document),
        after.layers = after.active.names.reverse.filterMap layer? ++ default?.toList ++
          env.layers ∧
        IsLayerOf source defaults default? ∧
        (∀ p ∈ after.active, IsLayerOf (layerName source p) (ofProfile p) (layer? p)) ∧
        (∀ d, d ∈ defaults ↔ IsApplicable after.active documents d ∧ d.profiles.positive = []) ∧
        (∀ p ∈ after.active, ∀ d,
          d ∈ ofProfile p ↔ IsApplicable after.active documents d ∧ p ∈ d.profiles.positive) ∧
        (∀ d, (d ∈ defaults ∨ ∃ p ∈ after.active, d ∈ ofProfile p) ↔
          IsApplicable after.active documents d) := by
  obtain ⟨documents, hread⟩ := exists_documents_of_load env source text hload
  refine ⟨documents, hread, ?_⟩
  intro after
  have hafter : after = { env with
      active := activated documents env.active
      layers := streamLayers env.settings source documents (activated documents env.active) ++
        env.layers } :=
    (load_of_not_blank env source text documents hread
      (not_isBlankText_of_load env source text documents hread hload)).2
  -- every load of the walk ran with the profiles that are active in the end
  have hactive : after.active = activated documents env.active := by rw [hafter]
  have hpositive := not_isBlankText_of_mem_profiles source text documents hread
  have hdefaults := mem_selectDocuments_default after.active documents hpositive
  have hprofile : ∀ p ∈ after.active, ∀ d, d ∈ profileDocuments after.active documents p ↔
      IsApplicable after.active documents d ∧ p ∈ d.profiles.positive :=
    fun p hp => mem_profileDocuments after.active documents p hp
  refine ⟨defaultLayer? env.settings source documents after.active,
    profileLayer? env.settings source documents after.active,
    selectDocuments (.default after.active) documents,
    profileDocuments after.active documents, ?_, ?_, ?_, hdefaults, hprofile, ?_⟩
  · rw [hactive, hafter, List.filterMap_reverse]
    rfl
  · exact isLayerOf_defaultLayer? env.settings source documents after.active
  · intro p _
    exact isLayerOf_profileLayer? env.settings source documents after.active p
  · intro d
    constructor
    · rintro (hd | ⟨p, hp, hd⟩)
      · exact ((hdefaults d).1 hd).1
      · exact ((hprofile p hp d).1 hd).1
    · intro hd
      rcases IsApplicable.exists_active after.active documents hpositive d hd with
        hnone | ⟨p, hp, hnamed⟩
      · exact .inl ((hdefaults d).2 ⟨hd, hnone⟩)
      · exact .inr ⟨p, hp, (hprofile p hp d).2 ⟨hd, hnamed⟩⟩

/-- The applicable documents of the staged stream make two layers: those that name `a` and those
without positive profiles.  None names `b`, and the vetoed one, which does not apply, is in
neither. -/
theorem layers_of_stagedStream :
    ((start .standard .empty).load "app.yml" stagedStream).failure? = none ∧
      ((start .standard .empty).load "app.yml" stagedStream).environment.layers.map Source.name =
        ["app.yml#a", "app.yml"] ∧
      ∃ (documents defaults : List Document) (ofProfile : String → List Document)
        (upper lower : Source),
        (Document.readAll "app.yml" stagedStream).result = .ok documents ∧
          ((start .standard .empty).load "app.yml" stagedStream).environment.layers =
            [upper, lower] ∧
          IsLayerOf "app.yml#a" (ofProfile "a") (some upper) ∧ ofProfile "b" = [] ∧
          IsLayerOf "app.yml" defaults (some lower) ∧
          (∀ d, d ∈ defaults ↔
            IsApplicable (.ofList ["a", "b"]) documents d ∧ d.profiles.positive = []) ∧
          (∀ p ∈ ProfileSet.ofList ["a", "b"], ∀ d, d ∈ ofProfile p ↔
            IsApplicable (.ofList ["a", "b"]) documents d ∧ p ∈ d.profiles.positive) ∧
          ∀ d, (d ∈ defaults ∨ ∃ p ∈ ProfileSet.ofList ["a", "b"], d ∈ ofProfile p) ↔
            IsApplicable (.ofList ["a", "b"]) documents d := by
  obtain ⟨hadded, hactive, hnames⟩ := load_stagedStream
  obtain ⟨documents, hread, default?, layer?, defaults, ofProfile, hlayers, hdefault, hprofile,
    hdefaults, hnamed, hholds⟩ :=
    layers_hold_applicable_documents (start .standard .empty) "app.yml" stagedStream hadded
  rw [hactive] at hlayers hprofile hdefaults hnamed hholds
  have hlayerOfA := hprofile "a" (by decide)
  have hlayerOfB := hprofile "b" (by decide)
  have horder : (ProfileSet.ofList ["a", "b"]).names.reverse = ["b", "a"] := by decide
  have hnothing : (start .standard .empty).layers = [] := rfl
  rw [horder, hnothing, List.append_nil] at hlayers
  have htwo : (["b", "a"].filterMap layer? ++ default?.toList).map Source.name =
      ["app.yml#a", "app.yml"] := by
    rw [← hlayers]
    exact hnames
  cases hb : layer? "b" with
  | some ofB =>
      -- a layer of `b` would be the first one, which has another name
      rw [hb] at hlayerOfB
      have hfirst : ofB.name = "app.yml#a" := by simpa [hb] using congrArg List.head? htwo
      rw [hlayerOfB.2.1] at hfirst
      exact absurd hfirst (by decide)
  | none =>
      rw [hb] at hlayerOfB
      cases ha : layer? "a" with
      | none => cases default? <;> simp [hb, ha] at htwo
      | some upper =>
          rw [ha] at hlayerOfA
          cases default? with
          | none => simp [hb, ha] at htwo
          | some lower =>
              refine ⟨hadded, hnames, documents, defaults, ofProfile, upper, lower, hread, ?_,
                hlayerOfA, hlayerOfB, hdefault, hdefaults, hnamed, hholds⟩
              rw [hlayers]
              simp [hb, ha]

end Environment

end ProfileLayers
