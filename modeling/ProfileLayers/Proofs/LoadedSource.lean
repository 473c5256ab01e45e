/-
**What a loaded source answers.**

A load gives nothing, the renamed source of one document or a composite, and the sources in it may
be conditional ones.  In whichever way it was built, the source answers like a list of the selected
documents in which the last one that has a key wins, and documents that are vetoed by the profiles
active at the time of reading are skipped.

Main definitions:

* `ProfileLayers.Document.IsSelected` — the documents that a load is meant to select.

Main results:

* `ProfileLayers.selectDocuments_of_seek?` — these are the documents that a search finds;
* `ProfileLayers.Settings.load_eq_ok_iff` — what a load comes to;
* `ProfileLayers.ReadDocuments.get?_eq_last`, `ProfileLayers.ReadDocuments.keys_eq_later_first` —
  reading a source that was made of documents, later ones first;
* `ProfileLayers.Settings.load_answers_from_last_selected` — **the last selected document wins**.
-/

import ProfileLayers.Proofs.Precedence

set_option relaxedAutoImplicit false
set_option autoImplicit false

namespace ProfileLayers

/-! ### Selected documents -/

/-- The document has properties, is not vetoed by the active profiles, and has no positive profile
or names the sought one. -/
def Document.IsSelected (sought? : Option String) (active : ProfileSet) (d : Document) : Prop :=
  d.properties.isEmpty = false ∧ (Matcher.generic active).negativeStatus d.profiles ≠ .found ∧
    (d.profiles.positive = [] ∨ ∃ p ∈ d.profiles.positive, sought? = some p)

instance (sought? : Option String) (active : ProfileSet) (d : Document) :
    Decidable (d.IsSelected sought? active) :=
  inferInstanceAs (Decidable (_ ∧ _ ∧ (_ ∨ _)))

theorem Status.isFound_eq_false_iff (s : Status) : s.isFound = false ↔ s ≠ .found := by
  cases s <;> decide

/-- A search for a profile, or for none, has the active profiles, and lets a positive profile match
if it is the sought one or, while none is sought, if it is blank. -/
theorem Matcher.positiveTest_of_seek? (sought? : Option String) (active : ProfileSet) (m : Matcher)
    (h : Matcher.seek? sought? active = .ok m) :
    m.active = active ∧
      ∀ p, m.positiveTest.accepts p = true ↔
        sought? = some p ∨ (sought? = none ∧ isBlankText p = true) := by
  cases sought? with
  | none =>
      cases h
      exact ⟨rfl, fun p => by simp [positiveTest, NameTest.accepts]⟩
  | some profile =>
      rw [seek?, specific?] at h
      split at h
      · cases h
      · cases h
        refine ⟨rfl, fun p => ?_⟩
        simp only [positiveTest, NameTest.accepts, beq_iff_eq, Option.some.injEq, reduceCtorEq,
          false_and, or_false]
        exact eq_comm

/-- The law of selection is the same for the default search and for the search for a profile. -/
theorem Matcher.accepts_iff_of_seek? (sought? : Option String) (active : ProfileSet) (m : Matcher)
    (h : Matcher.seek? sought? active = .ok m) (e : Expression)
    (hblank : ∀ p ∈ e.positive, isBlankText p = false) :
    m.accepts e = true ↔ (Matcher.generic active).negativeStatus e ≠ .found ∧
      (e.positive = [] ∨ ∃ p ∈ e.positive, sought? = some p) := by
  obtain ⟨hactive, hpositive⟩ := Matcher.positiveTest_of_seek? sought? active m h
  have hveto := negativeStatus_congr m (.generic active) e hactive
  rw [accepts_iff, hveto, Status.isFound_eq_false_iff]
  refine and_congr_right fun _ => or_congr_right ?_
  constructor
  · rintro ⟨p, hp, hmatch⟩
    rcases (hpositive p).1 hmatch with hsought | ⟨-, hp'⟩
    · exact ⟨p, hp, hsought⟩
    · rw [hblank p hp] at hp'
      exact absurd hp' Bool.false_ne_true
  · rintro ⟨p, hp, hsought⟩
    exact ⟨p, hp, (hpositive p).2 (.inl hsought)⟩

/-- A search finds the documents that a load is meant to select, later ones first. -/
theorem selectDocuments_of_seek? (sought? : Option String) (active : ProfileSet) (m : Matcher)
    (h : Matcher.seek? sought? active = .ok m) (documents : List Document)
    (hblank : ∀ d ∈ documents, ∀ p ∈ d.profiles.positive, isBlankText p = false) :
    selectDocuments m documents =
      (documents.filter fun d => decide (d.IsSelected sought? active)).reverse := by
  rw [selectDocuments]
  congr 1
  apply List.filter_congr
  intro d hd
  have haccepts := Matcher.accepts_iff_of_seek? sought? active m h d.profiles (hblank d hd)
  rw [Bool.eq_iff_iff, Bool.and_eq_true, Bool.not_eq_true', decide_eq_true_eq, haccepts,
    and_comm (b := d.properties.isEmpty = false)]
  rfl

/-! ### Reading the last document first -/

theorem findSome?_eq_bind_find? {α β : Type} (f : α → Option β) (l : List α) :
    l.findSome? f = (l.find? fun a => (f a).isSome).bind f := by
  induction l with
  | nil => rfl
  | cons a l ih =>
      rw [List.findSome?_cons, List.find?_cons]
      cases h : f a with
      | none => simpa [h] using ih
      | some b => simp [h]

namespace ReadDocuments

variable {layer : Source} {documents : List Document}
  (h : ReadDocuments layer.components documents.reverse)
include h

/-- The value in a layer is the one in the last visible document that has the key. -/
theorem get?_eq_last (active : ProfileSet) (key : String) (hkey : key ≠ "") :
    layer.get? active key =
      (documents.filter fun d =>
        decide (d.IsVisible active ∧ key ∈ d.properties.keys)).getLast?.bind fun d =>
          d.properties.find? key := by
  have hfind : ∀ m : PropertyMap, m.get? key = m.find? key := fun m => m.get?_of_ne key hkey
  rw [Source.get?_eq_findSome?_components, h.findSome?_get?, findSome?_eq_bind_find?,
    List.find?_filter, List.getLast?_filter]
  simp only [hfind, PropertyMap.isSome_find?_iff, decide_eq_true_eq]

/-- The keys of a layer are those of the visible documents, from the last one to the first. -/
theorem keys_eq_later_first (active : ProfileSet) :
    layer.keys active =
      ((documents.filter fun d => decide (d.IsVisible active)).reverse.flatMap fun d =>
        d.properties.keys).eraseDups := by
  rw [Source.keys_eq_eraseDups_components, h.flatMap_keys, List.filter_reverse]

end ReadDocuments

/-! ### Loads -/

namespace Settings

variable (settings : Settings)

/-- A load of a stream as one source succeeds exactly if the stream can be read and its documents
can be searched. -/
theorem load_eq_ok_iff (active : ProfileSet) (source text : String) (sought? : Option String)
    (result? : Option Source) :
    (settings.load active source text sought?).result = .ok result? ↔
      ∃ documents, (Document.readAll source text).result = .ok documents ∧
        let found := (discover (documents.map (·.declarations)) sought? active).active
        ∃ m, Matcher.seek? sought? found = .ok m ∧
          (DocumentSources.mk (namedSources (settings.sourcesOf (selectDocuments m documents)))
            found).combine source = result? := by
  rw [load, Report.result_bind, except_bind_eq_ok]
  constructor
  · rintro ⟨loaded, hloaded, hcombine⟩
    obtain ⟨documents, hread, m, hm, rfl⟩ :=
      (settings.loadDocuments_eq_ok_iff active source text sought? loaded).1 hloaded
    exact ⟨documents, hread, m, hm, Except.ok.inj hcombine⟩
  · rintro ⟨documents, hread, m, hm, rfl⟩
    exact ⟨_, (settings.loadDocuments_eq_ok_iff active source text sought? _).2
      ⟨documents, hread, m, hm, rfl⟩, rfl⟩

/-- The source that a load gives is made of the selected documents, later ones first. -/
theorem isLayerOf_load (active : ProfileSet) (source text : String) (sought? : Option String)
    (result? : Option Source)
    (hload : (settings.load active source text sought?).result = .ok result?) :
    ∃ documents, (Document.readAll source text).result = .ok documents ∧
      let found := (discover (documents.map (·.declarations)) sought? active).active
      IsLayerOf source
        (documents.filter fun d => decide (d.IsSelected sought? found)).reverse result? := by
  obtain ⟨documents, hread, m, hm, rfl⟩ :=
    (settings.load_eq_ok_iff active source text sought? result?).1 hload
  refine ⟨documents, hread, ?_⟩
  intro found
  rw [← selectDocuments_of_seek? sought? found m hm documents
    (not_isBlankText_of_mem_profiles source text documents hread)]
  apply isLayerOf_combine
  exact (belongsTo_sourcesOf settings _).imp fun _ _ h => h.2

/-- **The last selected document wins.**  A load gives no source exactly if no document is selected.
The source that it gives has the name of the stream and, whatever is active when it is read, has the
value of a key from the last document of the stream that is selected and visible and has the key;
its keys are those of the documents that are selected and visible, from the last one to the first,
each at its first occurrence. -/
theorem load_answers_from_last_selected (active : ProfileSet) (source text : String)
    (sought? : Option String) (result? : Option Source)
    (hload : (settings.load active source text sought?).result = .ok result?) :
    ∃ documents, (Document.readAll source text).result = .ok documents ∧
      let found := (discover (documents.map (·.declarations)) sought? active).active
      (result? = none ↔ ∀ d ∈ documents, ¬ d.IsSelected sought? found) ∧
      ∀ layer, result? = some layer → layer.name = source ∧ ∀ later : ProfileSet,
        (∀ key, key ≠ "" → layer.get? later key =
          (documents.filter fun d => decide (d.IsSelected sought? found ∧ d.IsVisible later ∧
            key ∈ d.properties.keys)).getLast?.bind fun d => d.properties.find? key) ∧
        layer.keys later =
          ((documents.filter fun d => decide (d.IsSelected sought? found ∧
            d.IsVisible later)).reverse.flatMap fun d => d.properties.keys).eraseDups := by
  obtain ⟨documents, hread, hlayer⟩ :=
    settings.isLayerOf_load active source text sought? result? hload
  refine ⟨documents, hread, ?_⟩
  intro found
  have hempty : (documents.filter fun d => decide (d.IsSelected sought? found)).reverse = [] ↔
      ∀ d ∈ documents, ¬ d.IsSelected sought? found := by
    rw [List.reverse_eq_nil_iff, List.filter_eq_nil_iff]
    simp only [decide_eq_true_eq]
  rw [← hempty]
  cases result? with
  | none =>
      have hnone : (documents.filter fun d => decide (d.IsSelected sought? found)).reverse = [] :=
        hlayer
      exact ⟨iff_of_true rfl hnone, fun layer h => absurd h (Option.some_ne_none layer).symm⟩
  | some s =>
      obtain ⟨hsome, hname, hparts⟩ := hlayer
      refine ⟨iff_of_false (Option.some_ne_none s) hsome, ?_⟩
      rintro layer ⟨⟩
      refine ⟨hname, fun later => ?_⟩
      have hreads : ReadDocuments s.components
          (documents.filter fun d => decide (d.IsSelected sought? found)).reverse :=
        .of_readAll source text documents hread hparts fun d hd =>
          (List.mem_filter.1 (List.mem_reverse.1 hd)).1
      refine ⟨fun key hkey => ?_, ?_⟩
      · rw [hreads.get?_eq_last later key hkey, List.filter_filter]
        simp only [Bool.decide_and, Bool.and_comm]
      · rw [hreads.keys_eq_later_first later, List.filter_filter]
        simp only [Bool.decide_and, Bool.and_comm]

/-- Of the vetoed stream both documents are selected, and the last one that is visible wins. -/
theorem vetoedStream_answers_from_last_selected :
    ∃ layer documents,
      (standard.load .empty "app.yml" Reached.vetoedStream none).result = .ok (some layer) ∧
        (Document.readAll "app.yml" Reached.vetoedStream).result = .ok documents ∧
        layer.name = "app.yml" ∧
        ∀ later : ProfileSet, layer.get? later "x" =
          (documents.filter fun d => decide (
            d.IsSelected none (discover (documents.map (·.declarations)) none .empty).active ∧
              d.IsVisible later ∧ "x" ∈ d.properties.keys)).getLast?.bind fun d =>
                d.properties.find? "x" := by
  have hsome : (standard.load .empty "app.yml" Reached.vetoedStream none).result.map
      Option.isSome = .ok true := by
    decide +kernel
  obtain ⟨result?, hload, hsome⟩ := (except_map_eq_ok _ _ _).1 hsome
  obtain ⟨layer, rfl⟩ := Option.isSome_iff_exists.1 hsome
  obtain ⟨documents, hread, -, hanswers⟩ :=
    standard.load_answers_from_last_selected .empty "app.yml" Reached.vetoedStream none _ hload
  obtain ⟨hname, hlater⟩ := hanswers layer rfl
  exact ⟨layer, documents, hload, hread, hname, fun later => (hlater later).1 "x" (by decide)⟩

end Settings

end ProfileLayers
