/-
**What a load selects can be read.**

Documents are selected by the profiles that discovery found, but their sources look for negated
profiles among those that are active when they are read.  These are different sets: a load leaves
the active profiles as they are, and an environment goes on to activate what was found between one
load and the next.  At the time of the load the active profiles are some of the found ones, and no
found profile is negated by a selected document.  So nothing that was just selected is hidden.

Main definitions:

* `ProfileLayers.Source.Exposes` — a source has exactly the properties of a document;
* `ProfileLayers.Source.ShowsAll` — a layer hides none of its documents.

Main results:

* `ProfileLayers.Matcher.isVisible_of_accepts` — what a search finds is visible among its active
  profiles, and among fewer;
* `ProfileLayers.Settings.exposes_of_loadDocuments` — the sources of a load;
* `ProfileLayers.Environment.showsAll_of_mem_streamLayers` — the layers of a stream;
* `ProfileLayers.selected_documents_visible_at_load` — **what a load selects can be read**.
-/

import ProfileLayers.Proofs.LoadedSource
import ProfileLayers.Proofs.Veto

set_option relaxedAutoImplicit false
set_option autoImplicit false

namespace ProfileLayers

/-! ### Visible documents -/

/-- What a search finds is visible while no other profiles are active than those of the search. -/
theorem Matcher.isVisible_of_accepts (m : Matcher) (d : Document)
    (haccepts : m.accepts d.profiles = true) (live : ProfileSet)
    (hlive : ∀ p ∈ live, p ∈ m.active) : d.IsVisible live := by
  intro p hp hactive
  have hmatch := NameTest.accepts_activeOrBlank_of_mem m.active p (hlive p hactive)
  have hfound : m.negativeStatus d.profiles = .found :=
    (NameTest.status_eq_found_iff _ _).2 ⟨p, hp, hmatch⟩
  have hnot := ((Matcher.accepts_iff m d.profiles).1 haccepts).1
  rw [hfound] at hnot
  exact absurd hnot (by decide)

/-- The source has the properties of the document, in their order, and no others, while `active` are
active. -/
structure Source.Exposes (active : ProfileSet) (s : Source) (d : Document) : Prop where
  keys_eq : s.keys active = d.properties.keys
  get?_eq : ∀ key, key ≠ "" → s.get? active key = d.properties.find? key

theorem Source.IsSourceOf.exposes {s : Source} {d : Document} (h : s.IsSourceOf d)
    (hactive : activeKey ∉ d.properties.keys) (active : ProfileSet)
    (hvisible : d.IsVisible active) : s.Exposes active d := by
  obtain ⟨name, rfl⟩ := h
  constructor
  · rw [d.keys_toSource active name hactive, if_pos hvisible]
  · intro key hkey
    rw [d.get?_toSource active name hactive key, if_pos hvisible, d.properties.get?_of_ne key hkey]

theorem forall₂_imp_of_mem {α β : Type} {R S : α → β → Prop} {l : List α} {m : List β}
    (h : List.Forall₂ R l m) (himp : ∀ a, ∀ b ∈ m, R a b → S a b) : List.Forall₂ S l m := by
  have hmem : List.Forall₂ (fun b a => b ∈ m ∧ R a b) m l :=
    (List.forall₂_and_left m l).2 ⟨fun b hb => hb, h.flip⟩
  exact (hmem.imp fun b a hab => himp a b hab.1 hab.2).flip

/-! ### Sources of a load -/

/-- Each source of a load exposes its document while no other profiles are active than those that
discovery found. -/
theorem Settings.exposes_of_loadDocuments (settings : Settings) (active : ProfileSet)
    (source text : String) (sought? : Option String) (loaded : DocumentSources)
    (hload : (settings.loadDocuments active source text sought?).result = .ok loaded) :
    ∃ documents, (Document.readAll source text).result = .ok documents ∧
      loaded.active = (discover (documents.map (·.declarations)) sought? active).active ∧
      ∀ live : ProfileSet, (∀ p ∈ live, p ∈ loaded.active) →
        List.Forall₂ (fun s d => s.BelongsTo d ∧ s.source.Exposes live d) loaded.sources
          (documents.filter fun d => decide (d.IsSelected sought? loaded.active)).reverse := by
  obtain ⟨documents, hread, m, hm, rfl⟩ :=
    (settings.loadDocuments_eq_ok_iff active source text sought? loaded).1 hload
  refine ⟨documents, hread, rfl, ?_⟩
  intro live hlive
  rw [← selectDocuments_of_seek? sought? _ m hm documents
    (not_isBlankText_of_mem_profiles source text documents hread)]
  refine forall₂_imp_of_mem (belongsTo_sourcesOf settings (selectDocuments m documents)) ?_
  intro s d hd hbelongs
  obtain ⟨hmem, -, haccepts⟩ := (mem_selectDocuments m documents d).1 hd
  have hfound := (Matcher.positiveTest_of_seek? sought? _ m hm).1
  have hvisible := m.isVisible_of_accepts d haccepts live fun p hp => hfound ▸ hlive p hp
  have hactive : activeKey ∉ d.properties.keys := fun hkey =>
    absurd (not_isReservedKey_of_mem_keys source text documents hread d hmem activeKey hkey)
      (by decide)
  exact ⟨hbelongs, hbelongs.2.exposes hactive live hvisible⟩

/-! ### Layers of a stream -/

/-- The parts of the layer are the sources of these documents, each part exposes its document, and
the layer answers from all of them, of which the first one that has a key wins. -/
structure Source.ShowsAll (active : ProfileSet) (layer : Source) (documents : List Document) :
    Prop where
  parts : List.Forall₂ (fun s d => s.IsSourceOf d ∧ s.Exposes active d) layer.components documents
  keys_eq : layer.keys active = (documents.flatMap fun d => d.properties.keys).eraseDups
  get?_eq : ∀ key, key ≠ "" →
    layer.get? active key = documents.findSome? fun d => d.properties.find? key

/-- A layer hides none of its documents while all of them are visible. -/
theorem ReadDocuments.showsAll {layer : Source} {documents : List Document}
    (h : ReadDocuments layer.components documents) (active : ProfileSet)
    (hvisible : ∀ d ∈ documents, d.IsVisible active) : layer.ShowsAll active documents := by
  have hall : (documents.filter fun d => decide (d.IsVisible active)) = documents := by
    rw [List.filter_eq_self]
    intro d hd
    exact decide_eq_true (hvisible d hd)
  constructor
  · refine forall₂_imp_of_mem h.1 ?_
    intro s d hd hs
    exact ⟨hs, hs.exposes (h.2 d hd) active (hvisible d hd)⟩
  · rw [Source.keys_eq_eraseDups_components, h.flatMap_keys, hall]
  · intro key hkey
    have hfind : ∀ d : Document, d.properties.get? key = d.properties.find? key :=
      fun d => d.properties.get?_of_ne key hkey
    rw [Source.get?_eq_findSome?_components, h.findSome?_get?, hall]
    simp only [hfind]

namespace Environment

section Stream

variable {source text : String} {documents : List Document}
  (hread : (Document.readAll source text).result = .ok documents)
include hread

/-- A layer of documents that a search found hides none of them while the profiles of the search are
active. -/
theorem showsAll_of_isLayerOf (m : Matcher) (inside : List Document) (name : String)
    (layer : Source) (hinside : ∀ d ∈ inside, d ∈ selectDocuments m documents)
    (hlayer : IsLayerOf name inside (some layer)) : layer.ShowsAll m.active inside := by
  have hfound := fun d hd => (mem_selectDocuments m documents d).1 (hinside d hd)
  have hreads : ReadDocuments layer.components inside :=
    .of_readAll source text documents hread hlayer.2.2 fun d hd => (hfound d hd).1
  refine hreads.showsAll m.active fun d hd => ?_
  exact m.isVisible_of_accepts d (hfound d hd).2.2 m.active fun _ hp => hp

/-- A layer that a stream gives while some profiles are active is made of documents of the stream,
and hides none of them while these profiles are active. -/
theorem showsAll_of_mem_streamLayers (settings : Settings) (active : ProfileSet) (layer : Source)
    (h : layer ∈ streamLayers settings source documents active) :
    ∃ inside, (∀ d ∈ inside, d ∈ documents) ∧ layer.ShowsAll active inside := by
  have hmem : ∀ (m : Matcher) (d : Document), d ∈ selectDocuments m documents → d ∈ documents :=
    fun m d hd => ((mem_selectDocuments m documents d).1 hd).1
  rw [streamLayers, List.mem_append, List.mem_reverse, List.mem_filterMap, Option.mem_toList] at h
  rcases h with ⟨p, -, hlayer⟩ | hlayer
  · have hof := isLayerOf_profileLayer? settings source documents active p
    rw [hlayer] at hof
    have hselected : ∀ d ∈ profileDocuments active documents p,
        d ∈ selectDocuments (.specific p active) documents := fun d hd => (List.mem_filter.1 hd).1
    exact ⟨_, fun d hd => hmem _ d (hselected d hd),
      showsAll_of_isLayerOf hread (.specific p active) _ _ layer hselected hof⟩
  · have hof := isLayerOf_defaultLayer? settings source documents active
    rw [hlayer] at hof
    exact ⟨_, hmem _,
      showsAll_of_isLayerOf hread (.default active) _ _ layer (fun _ hd => hd) hof⟩

end Stream

end Environment

/-- **What a load selects can be read.**  A load gives one source for each selected document, the
later ones first.  Read while the same profiles are active as at the load, each has exactly the
properties of its document, although the document was selected with all profiles that discovery
found.  Right after a stream was added to an environment, none of the added layers hides any of its
documents. -/
theorem selected_documents_visible_at_load :
    (∀ (settings : Settings) (active : ProfileSet) (source text : String)
      (sought? : Option String) (loaded : DocumentSources),
      (settings.loadDocuments active source text sought?).result = .ok loaded →
        ∃ documents, (Document.readAll source text).result = .ok documents ∧
          loaded.active = (discover (documents.map (·.declarations)) sought? active).active ∧
          List.Forall₂ (fun s d => s.BelongsTo d ∧ s.source.Exposes active d) loaded.sources
            (documents.filter fun d => decide (d.IsSelected sought? loaded.active)).reverse) ∧
    ∀ (env : Environment) (source text : String), (env.load source text).failure? = none →
      let after := (env.load source text).environment
      ∃ documents added, (Document.readAll source text).result = .ok documents ∧
        after.layers = added ++ env.layers ∧
        ∀ layer ∈ added, ∃ inside, (∀ d ∈ inside, d ∈ documents) ∧
          layer.ShowsAll after.active inside := by
  constructor
  · intro settings active source text sought? loaded hload
    obtain ⟨documents, hread, hfound, hexposes⟩ :=
      settings.exposes_of_loadDocuments active source text sought? loaded hload
    refine ⟨documents, hread, hfound, hexposes active ?_⟩
    -- discovery keeps what is active
    intro p hp
    rw [hfound]
    exact (prefix_discover (documents.map (·.declarations)) sought? active).subset hp
  · intro env source text hload after
    obtain ⟨documents, hread⟩ := env.exists_documents_of_load source text hload
    have hafter : after = { env with
        active := activated documents env.active
        layers := Environment.streamLayers env.settings source documents
          (activated documents env.active) ++ env.layers } :=
      (env.load_of_not_blank source text documents hread
        (env.not_isBlankText_of_load source text documents hread hload)).2
    rw [hafter]
    exact ⟨documents, _, hread, rfl, fun layer hlayer =>
      Environment.showsAll_of_mem_streamLayers hread env.settings _ layer hlayer⟩

/-- A stream that includes `a`, and whose last document is vetoed by `p`. -/
def includingStream : String :=
  "x: 0\nspring.profiles.include: a\n---\nx: 1\nspring.profiles: '!p'\n"

theorem load_includingStream :
    (Settings.standard.loadDocuments .empty "app.yml" includingStream none).result.map
        (fun loaded => (loaded.active, loaded.sources.length)) = .ok (.ofList ["a"], 2) ∧
      ((Environment.start .standard .empty).load "app.yml" includingStream).failure? = none := by
  decide +kernel

/-- Of the including stream both documents are selected while discovery finds `a`.  They are exposed
while nothing is active, and in the layers that the stream gives. -/
theorem includingStream_visible_at_load :
    (∃ loaded documents,
      (Settings.standard.loadDocuments .empty "app.yml" includingStream none).result = .ok loaded ∧
        loaded.active = .ofList ["a"] ∧ loaded.sources.length = 2 ∧
        (Document.readAll "app.yml" includingStream).result = .ok documents ∧
        List.Forall₂ (fun s d => s.BelongsTo d ∧ s.source.Exposes .empty d) loaded.sources
          (documents.filter fun d => decide (d.IsSelected none loaded.active)).reverse) ∧
    ((Environment.start .standard .empty).load "app.yml" includingStream).failure? = none ∧
      let after := ((Environment.start .standard .empty).load "app.yml" includingStream).environment
      ∀ layer ∈ after.layers, ∃ inside, layer.ShowsAll after.active inside := by
  obtain ⟨hloaded, hadded⟩ := load_includingStream
  obtain ⟨loaded, hload, hcounts⟩ := (except_map_eq_ok _ _ _).1 hloaded
  obtain ⟨hactive, hlength⟩ := Prod.mk.inj hcounts
  obtain ⟨documents, hread, -, hexposes⟩ := selected_documents_visible_at_load.1 .standard .empty
    "app.yml" includingStream none loaded hload
  obtain ⟨_, added, -, hlayers, hshows⟩ := selected_documents_visible_at_load.2
    (.start .standard .empty) "app.yml" includingStream hadded
  refine ⟨⟨loaded, documents, hload, hactive, hlength, hread, hexposes⟩, hadded, ?_⟩
  intro after layer hlayer
  rw [hlayers, Environment.start, List.append_nil] at hlayer
  obtain ⟨inside, -, hinside⟩ := hshows layer hlayer
  exact ⟨inside, hinside⟩

end ProfileLayers
