/-
**Declarations and properties are separate.**

The keys under which a document declares profiles are read by the binder and dropped from the
properties.  The binder makes these keys up, one index after another, whereas the keys to be dropped
are recognised by how they begin and end; both mean the same keys.  So the declarations depend on
nothing else in a document, and no source ever has a key that is reserved, whether it is the source
of one document or a layer of many, and whatever is active when it is read.  All other entries are
kept, in their order and with their values.

Main definitions:

* `ProfileLayers.Source.HidesReserved` — a source has no reserved key at any time;
* `ProfileLayers.Source.HasUnreserved` — a source has all other entries of a map;
* `ProfileLayers.Source.Separates` — both, for the document of a tree.

Main results:

* `ProfileLayers.isReservedKey_iff` — the form of reserved keys;
* `ProfileLayers.Declarations.bind_congr` — declarations are read from reserved keys alone;
* `ProfileLayers.exists_tree_of_mem_readAll` — the tree of each document;
* `ProfileLayers.Source.IsSourceOf.separates` — sources of documents;
* `ProfileLayers.Environment.mem_layers_after` — the layers after a run of changes;
* `ProfileLayers.declarations_are_separate_from_properties` — **declarations and properties are
  separate**.
-/

import ProfileLayers.Proofs.FailedLoad
import ProfileLayers.Proofs.IndexedList
import ProfileLayers.Proofs.Visibility

set_option relaxedAutoImplicit false
set_option autoImplicit false

namespace ProfileLayers

/-! ### The form of reserved keys -/

theorem afterFront?_eq_some_iff (front cs rest : List Char) :
    afterFront? front cs = some rest ↔ cs = front ++ rest := by
  induction front generalizing cs with
  | nil => simp [afterFront?]
  | cons c front ih =>
      cases cs with
      | nil => simp [afterFront?]
      | cons d cs =>
          by_cases h : c = d
          · simp [afterFront?, h, ih]
          · have h' : ¬ d = c := fun e => h e.symm
            simp [afterFront?, h, h']

theorem isIndexSuffix_iff (cs : List Char) :
    isIndexSuffix cs = true ↔
      ∃ digits : List Char, digits ≠ [] ∧ (∀ c ∈ digits, c.isDigit = true) ∧
        cs = '[' :: (digits ++ [']']) := by
  constructor
  · intro h
    unfold isIndexSuffix at h
    split at h
    · rename_i rest
      simp only [Bool.and_eq_true, beq_iff_eq, Bool.not_eq_true', List.isEmpty_eq_false_iff,
        List.all_eq_true] at h
      obtain ⟨⟨hlast, hsome⟩, hdigits⟩ := h
      refine ⟨rest.dropLast, hsome, hdigits, ?_⟩
      rw [List.dropLast_append_getLast? ']' hlast]
    · exact absurd h Bool.false_ne_true
  · rintro ⟨digits, hsome, hdigits, rfl⟩
    simpa [isIndexSuffix, hsome] using hdigits

/-- A reserved key is one of four texts, alone or followed by digits in brackets. -/
theorem isReservedKey_iff (key : String) :
    isReservedKey key = true ↔ ∃ reserved ∈ reservedKeys, key = reserved ∨
      ∃ digits : List Char, digits ≠ [] ∧ (∀ c ∈ digits, c.isDigit = true) ∧
        key = reserved ++ "[" ++ String.ofList digits ++ "]" := by
  rw [isReservedKey, List.any_eq_true]
  refine exists_congr fun reserved => and_congr_right fun _ => ?_
  simp only [Option.any_eq_true, afterFront?_eq_some_iff, Bool.or_eq_true, List.isEmpty_iff,
    isIndexSuffix_iff]
  constructor
  · rintro ⟨rest, hkey, rfl | ⟨digits, hsome, hdigits, rfl⟩⟩
    · exact .inl (String.toList_injective (by simpa using hkey))
    · exact .inr ⟨digits, hsome, hdigits, String.toList_injective (by simpa using hkey)⟩
  · rintro (rfl | ⟨digits, hsome, hdigits, rfl⟩)
    · exact ⟨[], by simp, .inl rfl⟩
    · exact ⟨'[' :: (digits ++ [']']), by simp, .inr ⟨digits, hsome, hdigits, rfl⟩⟩

theorem isReservedKey_of_mem (key : String) (h : key ∈ reservedKeys) :
    isReservedKey key = true := (isReservedKey_iff key).2 ⟨key, h, .inl rfl⟩

theorem isReservedKey_indexedKey (key : String) (h : key ∈ reservedKeys) (index : Nat) :
    isReservedKey (indexedKey key index) = true := by
  refine (isReservedKey_iff _).2 ⟨key, h, .inr ⟨index.repr.toList, repr_toList_ne_nil index,
    isDigit_of_mem_repr index, ?_⟩⟩
  rw [String.ofList_toList]
  rfl

/-! ### Binding -/

namespace Declarations

/-- The declarations of a map are read from its reserved keys alone. -/
theorem bind_congr (m n : PropertyMap)
    (h : ∀ key, isReservedKey key = true → m.get? key = n.get? key) : bind m = bind n := by
  have hlist : ∀ key ∈ reservedKeys, bindList? m key = bindList? n key := fun key hkey =>
    bindList?_congr m n key (h key (isReservedKey_of_mem key hkey)) fun index =>
      h _ (isReservedKey_indexedKey key hkey index)
  simp only [bind, expression, items, hlist profilesKey (by decide), hlist activeKey (by decide),
    hlist includeKey (by decide)]

theorem bind_filterKeys_isReservedKey (m : PropertyMap) :
    bind (m.filterKeys isReservedKey) = bind m := by
  apply bind_congr
  intro key hkey
  rw [PropertyMap.get?_filterKeys, if_pos hkey]

/-- A map without reserved keys declares nothing. -/
theorem bind_filterKeys_not_isReservedKey (m : PropertyMap) :
    bind (m.filterKeys fun key => !isReservedKey key) = ⟨.none, [], []⟩ := by
  have hempty : bind .empty = ⟨.none, [], []⟩ := by decide
  rw [← hempty]
  apply bind_congr
  intro key hkey
  rw [PropertyMap.get?_filterKeys, hkey]
  simp [PropertyMap.get?, PropertyMap.find?, PropertyMap.empty, Entries.find?]

end Declarations

/-! ### Trees of documents -/

/-- Documents that are counted from `index` are bound from the flattened trees, each from the one at
its place. -/
theorem exists_tree_of_mem_ofNodes (source : String) (index : Nat) (nodes : List Yaml.Node)
    (documents : List Document) (h : (Document.ofNodes source index nodes).result = .ok documents) :
    ∀ d ∈ documents, index ≤ d.index ∧ ∃ node m, nodes[d.index - index]? = some node ∧
      (flatten source node).result = .ok m ∧ d = .ofProperties d.index m := by
  induction nodes generalizing index documents with
  | nil =>
      cases h
      intro d hd
      exact absurd hd List.not_mem_nil
  | cons node nodes ih =>
      simp only [Document.ofNodes, Document.ofNode, Report.result_bind, Report.result_pure,
        except_bind_eq_ok] at h
      obtain ⟨first, ⟨m, hm, hfirst⟩, later, hlater, hdocuments⟩ := h
      cases hfirst
      cases hdocuments
      intro d hd
      rcases List.mem_cons.1 hd with rfl | hd
      · exact ⟨Nat.le_refl index, node, m, by simp [Document.ofProperties], hm, rfl⟩
      · obtain ⟨hplace, tree, n, htree, hn, hd⟩ := ih (index + 1) later hlater d hd
        refine ⟨Nat.le_of_succ_le hplace, tree, n, ?_, hn, hd⟩
        have hnext : d.index - index = (d.index - (index + 1)) + 1 := by omega
        rw [hnext, List.getElem?_cons_succ, htree]

/-- Each document of a stream is bound from the tree at its place. -/
theorem exists_tree_of_mem_readAll (source text : String) (documents : List Document)
    (h : (Document.readAll source text).result = .ok documents) :
    ∃ nodes, (readDocuments source text).result = .ok nodes ∧
      ∀ d ∈ documents, ∃ node m, nodes[d.index]? = some node ∧
        (flatten source node).result = .ok m ∧ d = .ofProperties d.index m := by
  rw [Document.readAll, Report.result_bind, except_bind_eq_ok] at h
  obtain ⟨nodes, hnodes, hdocuments⟩ := h
  exact ⟨nodes, hnodes, fun d hd => (exists_tree_of_mem_ofNodes source 0 nodes documents
    hdocuments d hd).2⟩

/-! ### Sources -/

/-- The source has no reserved key, whatever is active when it is read. -/
def Source.HidesReserved (s : Source) : Prop :=
  ∀ active key, isReservedKey key = true → key ∉ s.keys active ∧ s.get? active key = none

/-- While `active` are active the source has all entries of the map but the reserved ones, in their
order and with their values. -/
structure Source.HasUnreserved (active : ProfileSet) (s : Source) (m : PropertyMap) : Prop where
  keys_eq : s.keys active = m.keys.filter fun key => !isReservedKey key
  get?_eq : ∀ key, key ≠ "" → isReservedKey key = false → s.get? active key = m.find? key

/-- The source hides the declarations of a tree and, while none of the profiles that these negate is
active, has everything else in it. -/
def Source.Separates (s : Source) (source : String) (node : Yaml.Node) : Prop :=
  s.HidesReserved ∧ ∃ m, (flatten source node).result = .ok m ∧
    ∀ active : ProfileSet, (∀ p ∈ (Declarations.bind m).appliesTo.negative, p ∉ active) →
      s.HasUnreserved active m

/-- The source of a document hides what the document declares and has everything else. -/
theorem Source.IsSourceOf.separates {s : Source} {d : Document} (h : s.IsSourceOf d)
    (source : String) (node : Yaml.Node) (m : PropertyMap)
    (hflat : (flatten source node).result = .ok m) (hd : d = .ofProperties d.index m) :
    s.Separates source node := by
  have hproperties : d.properties = m.filterKeys fun key => !isReservedKey key := by rw [hd]; rfl
  have hnegative : d.profiles.negative = (Declarations.bind m).appliesTo.negative := by rw [hd]; rfl
  have hkeys : d.properties.keys = m.keys.filter fun key => !isReservedKey key := by
    rw [hproperties, PropertyMap.keys_filterKeys]
  have hfree : ∀ key, isReservedKey key = true → key ∉ d.properties.keys := by
    intro key hkey hmem
    rw [hkeys, List.mem_filter, hkey] at hmem
    exact Bool.false_ne_true hmem.2
  have hactive : activeKey ∉ d.properties.keys := hfree activeKey (by decide)
  obtain ⟨name, rfl⟩ := h
  refine ⟨?_, m, hflat, ?_⟩
  · intro active key hkey
    have habsent : d.properties.get? key = none := by
      rw [PropertyMap.get?, (PropertyMap.find?_eq_none_iff _ _).2 (hfree key hkey), ite_self]
    rw [d.keys_toSource active name hactive, d.get?_toSource active name hactive, habsent]
    refine ⟨?_, ite_self none⟩
    split
    · exact hfree key hkey
    · exact List.not_mem_nil
  · intro active hvisible
    have hvisible : d.IsVisible active := by rw [Document.IsVisible, hnegative]; exact hvisible
    constructor
    · rw [d.keys_toSource active name hactive, if_pos hvisible, hkeys]
    · intro key hne hkey
      rw [d.get?_toSource active name hactive, if_pos hvisible, hproperties,
        PropertyMap.get?_filterKeys, hkey, PropertyMap.get?_of_ne m key hne]
      rfl

/-- The source separates the tree at the place of the document. -/
def Source.SeparatesAt (s : Source) (source : String) (nodes : List Yaml.Node) (d : Document) :
    Prop := ∃ node, nodes[d.index]? = some node ∧ s.Separates source node

/-- The source of a document of a stream separates the tree at the place of the document. -/
theorem exists_separatesAt_of_readAll (source text : String) (documents : List Document)
    (hread : (Document.readAll source text).result = .ok documents) :
    ∃ nodes, (readDocuments source text).result = .ok nodes ∧
      ∀ s : Source, ∀ d ∈ documents, s.IsSourceOf d → s.SeparatesAt source nodes d := by
  obtain ⟨nodes, hnodes, htrees⟩ := exists_tree_of_mem_readAll source text documents hread
  refine ⟨nodes, hnodes, fun s d hd hs => ?_⟩
  obtain ⟨node, m, hnode, hflat, hbound⟩ := htrees d hd
  exact ⟨node, hnode, hs.separates source node m hflat hbound⟩

/-- The parts of the layer separate the trees at the places of the documents. -/
def Source.SeparatesAll (layer : Source) (source : String) (nodes : List Yaml.Node)
    (documents : List Document) : Prop :=
  List.Forall₂ (fun part d => part.SeparatesAt source nodes d) layer.components documents

/-- A layer hides the reserved keys if its parts separate trees. -/
theorem Source.SeparatesAll.hidesReserved {layer : Source} {source : String}
    {nodes : List Yaml.Node} {documents : List Document}
    (h : layer.SeparatesAll source nodes documents) : layer.HidesReserved := by
  have hboth : List.Forall₂ (fun part d => part.HidesReserved ∧ part.SeparatesAt source nodes d)
      layer.components documents := by
    refine h.imp fun part d hpart => ⟨?_, hpart⟩
    obtain ⟨node, -, htree⟩ := hpart
    exact htree.1
  have hparts : ∀ part ∈ layer.components, part.HidesReserved :=
    ((List.forall₂_and_left _ _).1 hboth).1
  intro active key hkey
  constructor
  · rw [keys_eq_eraseDups_components, List.mem_eraseDups, List.mem_flatMap]
    rintro ⟨part, hpart, hmem⟩
    exact (hparts part hpart active key hkey).1 hmem
  · rw [get?_eq_findSome?_components, List.findSome?_eq_none_iff]
    exact fun part hpart => (hparts part hpart active key hkey).2

/-! ### Environments -/

namespace Environment

/-- The layer is one of a stream: its parts separate the trees of documents of the stream. -/
def IsLayerOfStream (layer : Source) (source text : String) : Prop :=
  ∃ nodes documents inside, (readDocuments source text).result = .ok nodes ∧
    (Document.readAll source text).result = .ok documents ∧ (∀ d ∈ inside, d ∈ documents) ∧
    layer.SeparatesAll source nodes inside

/-- Adding a stream adds layers of the stream, if any. -/
theorem mem_layers_load (env : Environment) (source text : String) (layer : Source)
    (h : layer ∈ (env.load source text).environment.layers) :
    layer ∈ env.layers ∨ IsLayerOfStream layer source text := by
  rcases env.load_cases source text with
    ⟨e, -, -, hafter⟩ | ⟨documents, hread, ⟨p, -, -, hafter⟩ | ⟨-, -, hafter⟩⟩
  · rw [hafter] at h
    exact .inl h
  · rw [hafter] at h
    exact .inl h
  · rw [hafter] at h
    rcases List.mem_append.1 h with h | h
    · obtain ⟨inside, hinside, hshows⟩ :=
        showsAll_of_mem_streamLayers hread env.settings _ layer h
      obtain ⟨nodes, hnodes, hseparates⟩ :=
        exists_separatesAt_of_readAll source text documents hread
      refine .inr ⟨nodes, documents, inside, hnodes, hread, hinside, ?_⟩
      exact forall₂_imp_of_mem hshows.parts fun part d hd hpart =>
        hseparates part d (hinside d hd) hpart.1
    · exact .inl h

/-- A change adds layers of the stream that it reads, if any. -/
theorem mem_layers_apply (env : Environment) (change : EnvironmentChange) (layer : Source)
    (h : layer ∈ (env.apply change).layers) :
    layer ∈ env.layers ∨ ∃ source text, change.stream? = some (source, text) ∧
      IsLayerOfStream layer source text := by
  cases change with
  | load source text =>
      exact (env.mem_layers_load source text layer h).imp_right fun hlayer =>
        ⟨source, text, rfl, hlayer⟩
  | loadFile path content =>
      by_cases hpath : isYamlPath path = true
      · cases content with
        | error failure =>
            rw [apply, env.environment_loadFile_of_unread path _ (.inr ⟨failure, rfl⟩)] at h
            exact .inl h
        | ok text =>
            have hload : env.apply (.loadFile path (.ok text)) =
                (env.load (sourceNameOf path) text).environment := by
              simp [apply, loadFile, hpath]
            rw [hload] at h
            exact (env.mem_layers_load _ text layer h).imp_right fun hlayer =>
              ⟨_, text, if_pos hpath, hlayer⟩
      · rw [apply, env.environment_loadFile_of_unread path content
          (.inl (Bool.eq_false_iff.2 hpath))] at h
        exact .inl h
  | profiles change => exact .inl h

/-- After a run of changes each layer is one from before or one of a stream that was read. -/
theorem mem_layers_after (env : Environment) (changes : List EnvironmentChange) (layer : Source)
    (h : layer ∈ (env.after changes).layers) :
    layer ∈ env.layers ∨ ∃ change ∈ changes, ∃ source text,
      change.stream? = some (source, text) ∧ IsLayerOfStream layer source text := by
  induction changes generalizing env with
  | nil => exact .inl h
  | cons change changes ih =>
      rcases ih (env.apply change) h with hmem | ⟨later, hlater, hstream⟩
      · rcases env.mem_layers_apply change layer hmem with hmem | hstream
        · exact .inl hmem
        · exact .inr ⟨change, List.mem_cons_self, hstream⟩
      · exact .inr ⟨later, List.mem_cons_of_mem change hlater, hstream⟩

end Environment

/-- **Declarations and properties are separate.**  The reserved keys are four texts, alone or
followed by digits in brackets.  The declarations of a map are those of its reserved keys, and
without these it declares nothing.  No source that a load gives ever has a reserved key, nor has a
layer of an environment after any run of changes; and while a document is visible, its source has
all other entries of the flattened tree, in their order and with their values. -/
theorem declarations_are_separate_from_properties :
    (∀ key, isReservedKey key = true ↔
      ∃ reserved ∈ ["spring.profiles", "spring.profiles.active", "spring.profiles.include",
          "spring.profiles._negated"], key = reserved ∨
        ∃ digits : List Char, digits ≠ [] ∧ (∀ c ∈ digits, c.isDigit = true) ∧
          key = reserved ++ "[" ++ String.ofList digits ++ "]") ∧
    (∀ m : PropertyMap, Declarations.bind m = .bind (m.filterKeys isReservedKey) ∧
      Declarations.bind (m.filterKeys fun key => !isReservedKey key) = ⟨.none, [], []⟩) ∧
    (∀ (settings : Settings) (active : ProfileSet) (source text : String)
      (sought? : Option String) (loaded : DocumentSources),
      (settings.loadDocuments active source text sought?).result = .ok loaded →
        ∃ nodes documents, (readDocuments source text).result = .ok nodes ∧
          (Document.readAll source text).result = .ok documents ∧
          List.Forall₂ (fun s d => s.source.SeparatesAt source nodes d) loaded.sources
            (documents.filter fun d => decide (d.IsSelected sought? loaded.active)).reverse) ∧
    (∀ (settings : Settings) (active : ProfileSet) (source text : String)
      (sought? : Option String) (layer : Source),
      (settings.load active source text sought?).result = .ok (some layer) →
        layer.HidesReserved ∧
        ∃ nodes documents, (readDocuments source text).result = .ok nodes ∧
          (Document.readAll source text).result = .ok documents ∧
          let found := (discover (documents.map (·.declarations)) sought? active).active
          layer.SeparatesAll source nodes
            (documents.filter fun d => decide (d.IsSelected sought? found)).reverse) ∧
    ∀ (settings : Settings) (active : ProfileSet) (changes : List EnvironmentChange),
      ∀ layer ∈ ((Environment.start settings active).after changes).layers,
        layer.HidesReserved ∧ ∃ change ∈ changes, ∃ source text,
          change.stream? = some (source, text) ∧
            Environment.IsLayerOfStream layer source text := by
  refine ⟨isReservedKey_iff, fun m => ?_, ?_, ?_, ?_⟩
  · exact ⟨(Declarations.bind_filterKeys_isReservedKey m).symm,
      Declarations.bind_filterKeys_not_isReservedKey m⟩
  · intro settings active source text sought? loaded hload
    obtain ⟨documents, hread, -, hexposes⟩ :=
      settings.exposes_of_loadDocuments active source text sought? loaded hload
    obtain ⟨nodes, hnodes, hseparates⟩ := exists_separatesAt_of_readAll source text documents hread
    refine ⟨nodes, documents, hnodes, hread, ?_⟩
    refine forall₂_imp_of_mem (hexposes loaded.active fun _ hp => hp) fun s d hd hs => ?_
    exact hseparates s.source d (List.mem_filter.1 (List.mem_reverse.1 hd)).1 hs.1.2
  · intro settings active source text sought? layer hload
    obtain ⟨documents, hread, hlayer⟩ :=
      settings.isLayerOf_load active source text sought? (some layer) hload
    obtain ⟨nodes, hnodes, hseparates⟩ := exists_separatesAt_of_readAll source text documents hread
    have hall := forall₂_imp_of_mem hlayer.2.2 fun part d hd hpart =>
      hseparates part d (List.mem_filter.1 (List.mem_reverse.1 hd)).1 hpart
    exact ⟨Source.SeparatesAll.hidesReserved hall, nodes, documents, hnodes, hread, hall⟩
  · intro settings active changes layer hlayer
    rcases (Environment.start settings active).mem_layers_after changes layer hlayer with
      hstart | ⟨change, hchange, source, text, hreads, hstream⟩
    · exact absurd hstart List.not_mem_nil
    · obtain ⟨_, _, _, -, -, -, hall⟩ := id hstream
      exact ⟨hall.hidesReserved, change, hchange, source, text, hreads, hstream⟩

/-- A stream that declares profiles as a text and as sequences. -/
def declaringStream : String :=
  "spring:\n  profiles:\n    active: a\n    include: [b, c]\nx: 1\n---\n" ++
    "spring.profiles: ['!p']\ny: 2\n"

theorem load_declaringStream :
    (Settings.standard.loadDocuments .empty "app.yml" declaringStream none).result.map
        (fun loaded => (loaded.active.names, loaded.sources.map fun s => s.source.keys .empty)) =
      .ok (["a", "b", "c"], [["y"], ["x"]]) ∧
    (Settings.standard.load .empty "app.yml" declaringStream none).result.map
        (fun layer? => layer?.map fun layer => layer.keys .empty) = .ok (some ["y", "x"]) ∧
    (((Environment.start .standard .empty).after [.load "app.yml" declaringStream,
      .profiles (.add "p")]).layers.map fun layer => layer.keys .empty) = [["y", "x"]] := by
  decide +kernel

/-- The declaring stream gives sources and a layer without the keys of its declarations. -/
theorem declaringStream_separated :
    (∃ loaded, (Settings.standard.loadDocuments .empty "app.yml" declaringStream none).result =
        .ok loaded ∧ loaded.active.names = ["a", "b", "c"] ∧
      ∃ nodes documents, (readDocuments "app.yml" declaringStream).result = .ok nodes ∧
        (Document.readAll "app.yml" declaringStream).result = .ok documents ∧
        List.Forall₂ (fun s d => s.source.SeparatesAt "app.yml" nodes d) loaded.sources
          (documents.filter fun d => decide (d.IsSelected none loaded.active)).reverse) ∧
    (∃ layer, (Settings.standard.load .empty "app.yml" declaringStream none).result =
        .ok (some layer) ∧ layer.keys .empty = ["y", "x"] ∧ layer.HidesReserved) ∧
    ∃ layer ∈ ((Environment.start .standard .empty).after [.load "app.yml" declaringStream,
      .profiles (.add "p")]).layers, layer.keys .empty = ["y", "x"] ∧ layer.HidesReserved := by
  obtain ⟨hloaded, hload, hlayers⟩ := load_declaringStream
  obtain ⟨-, -, hsources, hlayer, hrun⟩ := declarations_are_separate_from_properties
  refine ⟨?_, ?_, ?_⟩
  · obtain ⟨loaded, hload, hfacts⟩ := (except_map_eq_ok _ _ _).1 hloaded
    exact ⟨loaded, hload, congrArg Prod.fst hfacts,
      hsources .standard .empty "app.yml" declaringStream none loaded hload⟩
  · obtain ⟨layer?, hload, hkeys⟩ := (except_map_eq_ok _ _ _).1 hload
    obtain ⟨layer, rfl, hfacts⟩ := Option.map_eq_some_iff.1 hkeys
    exact ⟨layer, hload, hfacts,
      (hlayer .standard .empty "app.yml" declaringStream none layer hload).1⟩
  · have hmem : ["y", "x"] ∈ (((Environment.start .standard .empty).after
        [.load "app.yml" declaringStream, .profiles (.add "p")]).layers.map fun layer =>
          layer.keys .empty) := hlayers ▸ List.mem_cons_self
    obtain ⟨layer, hlayer, hkeys⟩ := List.mem_map.1 hmem
    exact ⟨layer, hlayer, hkeys, (hrun .standard .empty _ layer hlayer).1⟩

end ProfileLayers
