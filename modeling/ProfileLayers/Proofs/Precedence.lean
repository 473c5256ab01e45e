/-
**The precedence of documents in an environment.**

An environment answers from layers, each of which may be a composite, and their order comes from
several reversals: documents within a layer, layers within a stream, and streams.  Here the layers
are flattened into one list of documents, so that reading the environment is one scan: the later
stream first, within a stream the profile that was activated later first and the default documents
last, and within a profile the later document first.  Documents that are vetoed by the profiles that
are active at the time of reading are skipped.

Main definitions:

* `ProfileLayers.Document.IsVisible` — none of the negated profiles of the document is active;
* `ProfileLayers.ReadDocuments` — sources that read documents one after another;
* `ProfileLayers.Loaded`, `ProfileLayers.Loaded.precedence` — a stream that was added, and its
  documents in order of precedence;
* `ProfileLayers.Reached` — the environments that come from an empty one by adding streams and by
  changes of the active profiles.

Main results:

* `ProfileLayers.Source.get?_eq_findSome?_components`,
  `ProfileLayers.Source.keys_eq_eraseDups_components` — layers can be flattened;
* `ProfileLayers.Environment.readDocuments_streamLayers` — the layers of a stream, flattened;
* `ProfileLayers.Reached.readDocuments` — the layers of an environment, flattened;
* `ProfileLayers.Reached.reading_follows_precedence` — **reading follows the precedence**.
-/

import ProfileLayers.Proofs.Layers
import ProfileLayers.Proofs.SourceTree

set_option relaxedAutoImplicit false
set_option autoImplicit false

namespace ProfileLayers

/-! ### Reading flattened layers -/

namespace Source

/-- The value in a layer is the first value in one of its parts. -/
theorem get?_eq_findSome?_components (active : ProfileSet) (key : String) (s : Source) :
    s.get? active key = s.components.findSome? (get? active key) := by
  cases s with
  | map name properties => simp
  | conditional name properties vetoes => simp
  | composite name parts => rw [get?, components_composite, firstOf?_eq_findSome?]

/-- The keys of a layer are those of its parts, each once. -/
theorem keys_eq_eraseDups_components (active : ProfileSet) (s : Source) :
    s.keys active = (s.components.flatMap (keys active)).eraseDups := by
  cases s with
  | map name properties =>
      rw [components_map, List.flatMap_singleton, keys,
        eraseDups_of_nodup _ properties.nodup_keys]
  | conditional name properties vetoes =>
      have hnodup : (keys active (.conditional name properties vetoes)).Nodup := by
        rw [keys]
        split
        · exact properties.nodup_keys.sublist List.filter_sublist
        · exact List.nodup_nil
      rw [components_conditional, List.flatMap_singleton, eraseDups_of_nodup _ hnodup]
  | composite name parts =>
      rw [keys, components_composite, keysOfAll_eq_map, unionOfKeys_eq_eraseDups,
        List.flatMap_def]

end Source

namespace Environment

/-- The value in an environment is the first value in one of the parts of its layers. -/
theorem get?_eq_findSome?_components (env : Environment) (key : String) :
    env.get? key =
      (env.layers.flatMap Source.components).findSome? (Source.get? env.active key) := by
  rw [get?, findSome?_flatMap]
  exact findSome?_congr_of_mem fun s _ => s.get?_eq_findSome?_components env.active key

/-- The keys of an environment are those of the parts of its layers, each once. -/
theorem keys_eq_eraseDups_components (env : Environment) :
    env.keys =
      ((env.layers.flatMap Source.components).flatMap (Source.keys env.active)).eraseDups := by
  -- a composite has removed repetitions already, which changes nothing for the whole
  rw [keys, List.flatMap_assoc]
  exact unionOfKeys_map_eq_eraseDups_flatMap fun s _ =>
    s.keys_eq_eraseDups_components env.active

end Environment

/-! ### Reading the sources of documents -/

/-- None of the negated profiles of the document is active. -/
def Document.IsVisible (active : ProfileSet) (d : Document) : Prop :=
  ∀ p ∈ d.profiles.negative, p ∉ active

instance (active : ProfileSet) (d : Document) : Decidable (d.IsVisible active) :=
  inferInstanceAs (Decidable (∀ p ∈ d.profiles.negative, p ∉ active))

/-- Reserved keys are not properties of a document that was read from a stream. -/
theorem not_isReservedKey_of_mem_keys (source text : String) (documents : List Document)
    (h : (Document.readAll source text).result = .ok documents) (d : Document)
    (hd : d ∈ documents) : ∀ key ∈ d.properties.keys, isReservedKey key = false := by
  obtain ⟨place, m, rfl⟩ := exists_ofProperties_of_mem_readAll source text documents h d hd
  intro key hkey
  obtain ⟨e, he, rfl⟩ := List.mem_map.1 hkey
  have hkept : (!isReservedKey e.1) = true := (List.mem_filter.1 he).2
  rwa [Bool.not_eq_true'] at hkept

namespace Document

variable (active : ProfileSet) (d : Document) (name : String)

theorem isVisible_of_negative_eq_nil (h : d.profiles.negative = []) : d.IsVisible active := by
  intro p hp
  rw [h] at hp
  exact absurd hp List.not_mem_nil

/-- The source of a document has its properties while the document is visible. -/
theorem get?_toSource (hactive : activeKey ∉ d.properties.keys) (key : String) :
    (d.toSource name).get? active key =
      if d.IsVisible active then d.properties.get? key else none := by
  unfold toSource
  split
  · rename_i hnone
    rw [if_pos (isVisible_of_negative_eq_nil active d (List.isEmpty_iff.1 hnone)), Source.get?]
  · rw [Source.get?]
    by_cases hvisible : d.IsVisible active
    · have hunvetoed := (isUnvetoed_iff active d.profiles.negative).2 hvisible
      rw [if_pos hvisible, hunvetoed]
      by_cases hkey : key = activeKey
      · -- the one key that a conditional source hides is no property of the document
        have habsent : d.properties.get? key = none := by
          rw [PropertyMap.get?, (PropertyMap.find?_eq_none_iff _ _).2 (hkey ▸ hactive), ite_self]
        simp [hkey ▸ habsent, hkey]
      · simp [hkey]
    · have hvetoed : isUnvetoed active d.profiles.negative = false := by
        rw [← Bool.not_eq_true, isUnvetoed_iff]
        exact hvisible
      rw [if_neg hvisible, hvetoed]
      simp

/-- The source of a document has its keys while the document is visible. -/
theorem keys_toSource (hactive : activeKey ∉ d.properties.keys) :
    (d.toSource name).keys active = if d.IsVisible active then d.properties.keys else [] := by
  unfold toSource
  split
  · rename_i hnone
    rw [if_pos (isVisible_of_negative_eq_nil active d (List.isEmpty_iff.1 hnone)), Source.keys]
  · have hkeep : (d.properties.keys.filter fun key => key != activeKey) = d.properties.keys := by
      rw [List.filter_eq_self]
      intro key hkey
      have hne : key ≠ activeKey := fun e => hactive (e ▸ hkey)
      simp [hne]
    rw [Source.keys, hkeep]
    exact if_congr (isUnvetoed_iff active d.profiles.negative) rfl rfl

end Document

/-- The sources read the documents one after another, and hide no property of them. -/
def ReadDocuments (sources : List Source) (documents : List Document) : Prop :=
  List.Forall₂ Source.IsSourceOf sources documents ∧
    ∀ d ∈ documents, activeKey ∉ d.properties.keys

namespace ReadDocuments

/-- Sources of documents of a stream hide no property of them, for the key that they hide is
reserved. -/
theorem of_readAll (source text : String) (documents : List Document)
    (hread : (Document.readAll source text).result = .ok documents) {sources : List Source}
    {selected : List Document} (hsources : List.Forall₂ Source.IsSourceOf sources selected)
    (hselected : ∀ d ∈ selected, d ∈ documents) : ReadDocuments sources selected := by
  refine ⟨hsources, ?_⟩
  intro d hd hkey
  have hfree := not_isReservedKey_of_mem_keys source text documents hread d (hselected d hd)
    activeKey hkey
  exact absurd hfree (by decide)

theorem append {sources others : List Source} {documents more : List Document}
    (h : ReadDocuments sources documents) (hmore : ReadDocuments others more) :
    ReadDocuments (sources ++ others) (documents ++ more) := by
  refine ⟨List.rel_append h.1 hmore.1, ?_⟩
  intro d hd
  rcases List.mem_append.1 hd with hd | hd
  · exact h.2 d hd
  · exact hmore.2 d hd

/-- Reading one source after another is scanning the visible documents. -/
theorem findSome?_get? {sources : List Source} {documents : List Document}
    (h : ReadDocuments sources documents) (active : ProfileSet) (key : String) :
    sources.findSome? (Source.get? active key) =
      (documents.filter fun d => decide (d.IsVisible active)).findSome? fun d =>
        d.properties.get? key := by
  obtain ⟨hsources, hactive⟩ := h
  induction hsources with
  | nil => rfl
  | @cons s d sources documents hs _ ih =>
      obtain ⟨name, rfl⟩ := hs
      have hrest := ih fun e he => hactive e (List.mem_cons_of_mem d he)
      have hfirst := d.get?_toSource active name (hactive d List.mem_cons_self) key
      rw [List.findSome?_cons, hfirst, hrest]
      by_cases hvisible : d.IsVisible active
      · rw [if_pos hvisible, List.filter_cons_of_pos (by simpa using hvisible),
          List.findSome?_cons]
      · rw [if_neg hvisible, List.filter_cons_of_neg (by simpa using hvisible)]

/-- The keys of the sources are those of the visible documents. -/
theorem flatMap_keys {sources : List Source} {documents : List Document}
    (h : ReadDocuments sources documents) (active : ProfileSet) :
    sources.flatMap (Source.keys active) =
      (documents.filter fun d => decide (d.IsVisible active)).flatMap fun d =>
        d.properties.keys := by
  obtain ⟨hsources, hactive⟩ := h
  induction hsources with
  | nil => rfl
  | @cons s d sources documents hs _ ih =>
      obtain ⟨name, rfl⟩ := hs
      have hrest := ih fun e he => hactive e (List.mem_cons_of_mem d he)
      have hfirst := d.keys_toSource active name (hactive d List.mem_cons_self)
      rw [List.flatMap_cons, hfirst, hrest]
      by_cases hvisible : d.IsVisible active
      · rw [if_pos hvisible, List.filter_cons_of_pos (by simpa using hvisible),
          List.flatMap_cons]
      · rw [if_neg hvisible, List.filter_cons_of_neg (by simpa using hvisible), List.nil_append]

end ReadDocuments

/-! ### Streams in order of precedence -/

/-- A stream that was added: its documents, and the profiles that were active right after. -/
structure Loaded where
  documents : List Document
  active : ProfileSet

namespace Loaded

/-- The documents that are selected for a profile and name it, later ones first. -/
def ofProfile (l : Loaded) (profile : String) : List Document :=
  (l.documents.filter fun d => (Matcher.specific profile l.active).accepts d.profiles &&
    !d.properties.isEmpty && decide (profile ∈ d.profiles.positive)).reverse

/-- The documents that are selected by default and have no positive profile, later ones first. -/
def defaults (l : Loaded) : List Document :=
  (l.documents.filter fun d => (Matcher.default l.active).accepts d.profiles &&
    !d.properties.isEmpty && d.profiles.positive.isEmpty).reverse

/-- The documents of a stream in order of precedence: those of the profile that was activated last
come first, and the default ones last. -/
def precedence (l : Loaded) : List Document :=
  l.active.names.reverse.flatMap l.ofProfile ++ l.defaults

theorem mem_of_mem_precedence (l : Loaded) (d : Document) (h : d ∈ l.precedence) :
    d ∈ l.documents := by
  rcases List.mem_append.1 h with h | h
  · obtain ⟨p, -, h⟩ := List.mem_flatMap.1 h
    exact (List.mem_filter.1 (List.mem_reverse.1 h)).1
  · exact (List.mem_filter.1 (List.mem_reverse.1 h)).1

/-- The layer of an active profile has the documents that are selected for it and name it. -/
theorem profileDocuments_eq_ofProfile (l : Loaded) (profile : String) (h : profile ∈ l.active) :
    profileDocuments l.active l.documents profile = l.ofProfile profile := by
  rw [profileDocuments, selectDocuments, List.filter_reverse, List.filter_filter, ofProfile]
  congr 1
  apply List.filter_congr
  intro d _
  have hnamed := Matcher.specific_accepts_iff profile l.active d.profiles h
  rw [Bool.eq_iff_iff]
  simp only [Bool.and_eq_true, Bool.not_eq_true', List.isEmpty_eq_false_iff, decide_eq_true_eq]
  constructor
  · rintro ⟨hne, hfound, hsome⟩
    exact ⟨⟨hfound, hsome⟩, (hnamed.1 ⟨hfound, hne⟩).1⟩
  · rintro ⟨⟨hfound, hsome⟩, hmem⟩
    exact ⟨List.ne_nil_of_mem hmem, hfound, hsome⟩

/-- The default layer has the documents that are selected by default and have no positive
profile. -/
theorem selectDocuments_default_eq_defaults (l : Loaded)
    (hblank : ∀ d ∈ l.documents, ∀ p ∈ d.profiles.positive, isBlankText p = false) :
    selectDocuments (.default l.active) l.documents = l.defaults := by
  rw [selectDocuments, defaults]
  congr 1
  apply List.filter_congr
  intro d hd
  have hdefault := Matcher.default_accepts_iff l.active d.profiles (hblank d hd)
  rw [Bool.eq_iff_iff]
  simp only [Bool.and_eq_true, Bool.not_eq_true', List.isEmpty_iff]
  constructor
  · rintro ⟨hfound, hsome⟩
    exact ⟨⟨hfound, hsome⟩, (hdefault.1 hfound).1⟩
  · rintro ⟨h, -⟩
    exact h

end Loaded

/-- The parts of a layer read the documents that the layer is made of. -/
theorem IsLayerOf.forall₂_components (name : String) (documents : List Document)
    (layer? : Option Source) (h : IsLayerOf name documents layer?) :
    List.Forall₂ Source.IsSourceOf (layer?.toList.flatMap Source.components) documents := by
  cases layer? with
  | none =>
      have hnil : documents = [] := h
      rw [hnil]
      exact .nil
  | some layer =>
      rw [Option.toList_some, List.flatMap_singleton]
      exact h.2.2

/-- The layers of several profiles, flattened. -/
theorem forall₂_filterMap_components (layer? : String → Option Source)
    (documents : String → List Document) (profiles : List String)
    (h : ∀ p ∈ profiles, List.Forall₂ Source.IsSourceOf
      ((layer? p).toList.flatMap Source.components) (documents p)) :
    List.Forall₂ Source.IsSourceOf ((profiles.filterMap layer?).flatMap Source.components)
      (profiles.flatMap documents) := by
  induction profiles with
  | nil => exact .nil
  | cons p profiles ih =>
      have hsplit : (p :: profiles).filterMap layer? =
          (layer? p).toList ++ profiles.filterMap layer? := by
        rw [List.filterMap_cons]
        cases layer? p <;> rfl
      have hrest := ih fun q hq => h q (List.mem_cons_of_mem p hq)
      rw [hsplit, List.flatMap_append, List.flatMap_cons]
      exact List.rel_append (h p List.mem_cons_self) hrest

/-- The layers of a stream, flattened, read its documents in order of precedence. -/
theorem Environment.readDocuments_streamLayers (settings : Settings) (source text : String)
    (l : Loaded) (hread : (Document.readAll source text).result = .ok l.documents) :
    ReadDocuments
      ((streamLayers settings source l.documents l.active).flatMap Source.components)
      l.precedence := by
  have hdefault := isLayerOf_defaultLayer? settings source l.documents l.active
  rw [l.selectDocuments_default_eq_defaults
    (not_isBlankText_of_mem_profiles source text l.documents hread)] at hdefault
  refine .of_readAll source text l.documents hread ?_ l.mem_of_mem_precedence
  rw [streamLayers, ← List.filterMap_reverse, List.flatMap_append]
  refine List.rel_append (forall₂_filterMap_components _ _ _ ?_) hdefault.forall₂_components
  intro p hp
  have hlayer := isLayerOf_profileLayer? settings source l.documents l.active p
  rw [l.profileDocuments_eq_ofProfile p (List.mem_reverse.1 hp)] at hlayer
  exact hlayer.forall₂_components

/-! ### Environments over whole runs -/

/-- The environments that come from one without layers by adding streams and by changes of the
active profiles, with the streams that were added, the last one first. -/
inductive Reached : List Loaded → Environment → Prop where
  | start (settings : Settings) (active : ProfileSet) :
      Reached [] (Environment.start settings active)
  | load {history : List Loaded} {env : Environment} (source text : String)
      (documents : List Document) :
      Reached history env →
      (Document.readAll source text).result = .ok documents →
      (env.load source text).failure? = none →
      Reached (⟨documents, (env.load source text).environment.active⟩ :: history)
        (env.load source text).environment
  | activate {history : List Loaded} {env : Environment} (active : ProfileSet) :
      Reached history env → Reached history { env with active := active }

namespace Reached

/-- The layers of an environment, flattened, read the documents of all streams in order of
precedence, the last stream first. -/
theorem readDocuments {history : List Loaded} {env : Environment} (h : Reached history env) :
    ReadDocuments (env.layers.flatMap Source.components)
      (history.flatMap Loaded.precedence) := by
  -- a change of the active profiles leaves the layers as they are, so only `load` has work to do
  induction h with
  | start settings active => exact ⟨.nil, fun d hd => absurd hd List.not_mem_nil⟩
  | @load history env source text documents _ hread hload ih =>
      have hafter := (env.load_of_not_blank source text documents hread
        (env.not_isBlankText_of_load source text documents hread hload)).2
      have hstream := Environment.readDocuments_streamLayers env.settings source text
        ⟨documents, activated documents env.active⟩ hread
      rw [hafter, List.flatMap_append, List.flatMap_cons]
      exact hstream.append ih
  | activate active _ ih => exact ih

/-- **Reading follows the precedence.**  Whatever is active when the environment is read, the value
of a key is the one in the first visible document that has the key, and the keys are those of the
visible documents in the same order, each at its first occurrence. -/
theorem reading_follows_precedence {history : List Loaded} {env : Environment}
    (h : Reached history env) (active : ProfileSet) :
    let visible := (history.flatMap Loaded.precedence).filter fun d =>
      decide (d.IsVisible active)
    let later := { env with active := active }
    (∀ key, key ≠ "" → later.get? key = visible.findSome? fun d => d.properties.find? key) ∧
      later.keys = (visible.flatMap fun d => d.properties.keys).eraseDups ∧ later.keys.Nodup := by
  intro visible later
  have hlater : ReadDocuments (later.layers.flatMap Source.components)
      (history.flatMap Loaded.precedence) := h.readDocuments
  refine ⟨?_, ?_, nodup_unionOfKeys _⟩
  · intro key hkey
    have hfind : ∀ m : PropertyMap, m.get? key = m.find? key := fun m => if_neg hkey
    rw [later.get?_eq_findSome?_components, hlater.findSome?_get?]
    simp only [hfind]
    rfl
  · rw [later.keys_eq_eraseDups_components, hlater.flatMap_keys]

/-- A stream whose last document is vetoed by `p`. -/
def vetoedStream : String := "x: 3\n---\nx: 4\nspring.profiles: '!p'\n"

/-- The environment with the staged stream. -/
def stagedEnvironment : Environment :=
  ((Environment.start .standard .empty).load "app.yml" Environment.stagedStream).environment

theorem load_vetoedStream :
    (stagedEnvironment.load "local.yml" vetoedStream).failure? = none ∧
      Environment.get?
        { (stagedEnvironment.load "local.yml" vetoedStream).environment with active := .empty }
        "x" = some (.int 4) ∧
      Environment.get?
        { (stagedEnvironment.load "local.yml" vetoedStream).environment with
          active := .ofList ["p"] } "x" = some (.int 3) := by
  decide +kernel

theorem reached_stagedEnvironment : ∃ documents, Reached [documents] stagedEnvironment := by
  have hadded := Environment.load_stagedStream.1
  obtain ⟨documents, hread⟩ := Environment.exists_documents_of_load _ _ _ hadded
  exact ⟨_, Reached.load _ _ documents (.start _ _) hread hadded⟩

/-- Of two streams the second one wins, with its last document until `p` is active. -/
theorem two_streams_read_by_precedence :
    ∃ history, Reached history (stagedEnvironment.load "local.yml" vetoedStream).environment ∧
      history.length = 2 ∧
      let value? (active : ProfileSet) :=
        ((history.flatMap Loaded.precedence).filter fun d =>
          decide (d.IsVisible active)).findSome? fun d => d.properties.find? "x"
      value? .empty = some (.int 4) ∧ value? (.ofList ["p"]) = some (.int 3) := by
  obtain ⟨hadded, hplain, hvetoed⟩ := load_vetoedStream
  obtain ⟨first, hfirst⟩ := reached_stagedEnvironment
  obtain ⟨documents, hread⟩ := Environment.exists_documents_of_load _ _ _ hadded
  have hreached := Reached.load _ _ documents hfirst hread hadded
  refine ⟨_, hreached, rfl, ?_⟩
  intro value?
  have hvalue := fun active => (reading_follows_precedence hreached active).1 "x" (by decide)
  exact ⟨(hvalue .empty).symm.trans hplain, (hvalue (.ofList ["p"])).symm.trans hvetoed⟩

end Reached

end ProfileLayers
