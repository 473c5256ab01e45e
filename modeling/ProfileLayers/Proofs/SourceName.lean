/-
**When the names of sources are distinct.**

Numbering the repetitions of a name tells its sources apart from each other, but the number is
written into the name, and another document may declare a text that ends in just that way.  This is
the only way in which two sources of one load can get the same name.

Main definitions:

* `ProfileLayers.occurrencesAfter` — names with the number of earlier occurrences;
* `ProfileLayers.DocumentSource.declaredText` — what the name of a source is made of.

Main results:

* `ProfileLayers.numbered_succ_inj` — numbered names can be read back;
* `ProfileLayers.nodup_numberRepeats_iff` — names are distinct once repetitions are numbered, unless
  a numbered name is a name itself;
* `ProfileLayers.Settings.names_loadDocuments` — the names of the sources of a load;
* `ProfileLayers.Settings.names_distinct_iff` — **when the names of the sources are distinct**.
-/

import Mathlib.Data.List.Nodup
import ProfileLayers.Proofs.Layers

set_option relaxedAutoImplicit false
set_option autoImplicit false

namespace ProfileLayers

/-! ### Numbered names -/

/-- A numbered name tells the name and the number. -/
theorem numbered_succ_inj (name other : String) (j k : Nat)
    (h : numbered name (j + 1) = numbered other (k + 1)) : name = other ∧ j = k := by
  have hchars := congrArg String.toList h
  simp only [numbered, String.toList_append] at hchars
  have hcut := List.append_cancel_right hchars
  simp only [List.append_assoc] at hcut
  obtain ⟨hname, hdigits⟩ := append_bracket_digits_inj _ _ _ _ (isDigit_of_mem_repr j)
    (isDigit_of_mem_repr k) hcut
  have hnumber := congrArg (fun digits => Nat.ofDigitChars 10 digits 0) hdigits
  simp only [ofDigitChars_repr] at hnumber
  exact ⟨String.toList_injective hname, hnumber⟩

/-! ### Occurrences of names -/

/-- Each of the names that follow those in `earlier`, with the number of its earlier occurrences. -/
def occurrencesAfter (earlier : List String) : List String → List (String × Nat)
  | [] => []
  | name :: names => (name, earlier.count name) :: occurrencesAfter (name :: earlier) names

theorem numberFrom_eq_map (tally : Tally) (earlier names : List String)
    (h : ∀ name, tally.count name = earlier.count name) :
    numberFrom tally names = (occurrencesAfter earlier names).map fun o => numbered o.1 o.2 := by
  induction names generalizing tally earlier with
  | nil => rfl
  | cons name names ih =>
      have hstep : ∀ other, (tally.add name).count other = (name :: earlier).count other := by
        intro other
        rw [Tally.count_add, List.count_cons, h]
      rw [numberFrom, occurrencesAfter, List.map_cons, h, ih _ _ hstep]

theorem mem_occurrencesAfter (earlier names : List String) (name : String) (k : Nat) :
    (name, k) ∈ occurrencesAfter earlier names ↔
      earlier.count name ≤ k ∧ k < earlier.count name + names.count name := by
  induction names generalizing earlier with
  | nil =>
      simp only [occurrencesAfter, List.not_mem_nil, List.count_nil, false_iff]
      omega
  | cons first names ih =>
      rw [occurrencesAfter, List.mem_cons, ih, Prod.mk.injEq]
      by_cases h : name = first
      · rw [h, eq_self, true_and, List.count_cons_self, List.count_cons_self]
        omega
      · have hne : ¬ first = name := fun e => h e.symm
        simp only [h, false_and, false_or, List.count_cons_of_ne hne]

/-- No name has the same number of earlier occurrences twice. -/
theorem nodup_occurrencesAfter (earlier names : List String) :
    (occurrencesAfter earlier names).Nodup := by
  induction names generalizing earlier with
  | nil => exact List.nodup_nil
  | cons name names ih =>
      refine List.nodup_cons.2 ⟨?_, ih (name :: earlier)⟩
      rw [mem_occurrencesAfter, List.count_cons_self]
      omega

/-- Once repetitions are numbered, the names are distinct exactly if no numbered name is one of the
names. -/
theorem nodup_numberRepeats_iff (names : List String) :
    (numberRepeats names).Nodup ↔
      ∀ name k, k + 1 < names.count name → numbered name (k + 1) ∉ names := by
  have hmem : ∀ name k, (name, k) ∈ occurrencesAfter [] names ↔ k < names.count name := by
    intro name k
    rw [mem_occurrencesAfter, List.count_nil, Nat.zero_add]
    exact and_iff_right (Nat.zero_le k)
  rw [numberRepeats, numberFrom_eq_map .empty [] names fun _ => rfl,
    List.nodup_map_iff_inj_on (nodup_occurrencesAfter [] names)]
  constructor
  · intro hinj name k hk hother
    -- the first occurrence of the numbered name gets the same name as the repetition
    have hfirst : (numbered name (k + 1), 0) ∈ occurrencesAfter [] names :=
      (hmem _ _).2 (List.count_pos_iff.2 hother)
    have hsame := hinj (name, k + 1) ((hmem _ _).2 hk) (numbered name (k + 1), 0) hfirst rfl
    exact Nat.succ_ne_zero k (Prod.mk.inj hsame).2
  · rintro hfree ⟨name, j⟩ hj ⟨other, k⟩ hk h
    rw [hmem] at hj hk
    cases j with
    | zero =>
        cases k with
        | zero => exact Prod.ext h rfl
        | succ k =>
            have hname : name = numbered other (k + 1) := h
            exact absurd (List.count_pos_iff.1 hj) (hname ▸ hfree other k hk)
    | succ j =>
        cases k with
        | zero =>
            have hother : numbered name (j + 1) = other := h
            exact absurd (List.count_pos_iff.1 hk) (hother ▸ hfree name j hj)
        | succ k =>
            obtain ⟨hname, hnumber⟩ := numbered_succ_inj name other j k h
            rw [hname, hnumber]

/-! ### Names of the sources of a load -/

/-- What the name of a source is made of: the declaration of its document, or the label of documents
without one. -/
def DocumentSource.declaredText (settings : Settings) (s : DocumentSource) : String :=
  s.profiles.raw.getD settings.defaultLabel

/-- The name of a source before repetitions are numbered. -/
def DocumentSource.plainName (settings : Settings) (s : DocumentSource) : String :=
  documentName settings.namePrefix settings.defaultLabel s.profiles

namespace DocumentSource

variable (settings : Settings) (s t : DocumentSource)

theorem plainName_eq_iff :
    t.plainName settings = s.plainName settings ↔
      t.declaredText settings = s.declaredText settings := by
  simp only [plainName, documentName, declaredText, String.append_left_inj, String.append_right_inj]

/-- A name has the form of a numbered one if the declaration ends like it. -/
theorem plainName_eq_numbered_iff (k : Nat) :
    t.plainName settings = numbered (s.plainName settings) (k + 1) ↔
      t.declaredText settings = s.declaredText settings ++ "][" ++ k.repr := by
  have hbrackets : numbered (s.plainName settings) (k + 1) =
      settings.namePrefix ++ " [" ++ (s.declaredText settings ++ "][" ++ k.repr) ++ "]" := by
    have hcut : "][" = "]" ++ "[" := rfl
    simp only [numbered, plainName, documentName, declaredText, hcut, String.append_assoc]
  rw [hbrackets, plainName, documentName, String.append_left_inj, String.append_right_inj]
  rfl

end DocumentSource

namespace Settings

variable (settings : Settings)

theorem names_namedSources_sourcesOf (selected : List Document) :
    (namedSources (settings.sourcesOf selected)).map (·.source.name) =
      numberRepeats
        ((namedSources (settings.sourcesOf selected)).map (·.plainName settings)) := by
  have hplain : (namedSources (settings.sourcesOf selected)).map (·.plainName settings) =
      selected.map settings.documentName := by
    have hdocuments :=
      congrArg (List.map settings.documentName) (map_fst_sourcesOf settings selected)
    rw [List.map_map] at hdocuments
    rw [namedSources, List.map_map, ← hdocuments]
    rfl
  have hnames : (namedSources (settings.sourcesOf selected)).map (·.source.name) =
      (settings.sourcesOf selected).map Prod.snd := by
    rw [namedSources, List.map_map]
    apply List.map_congr_left
    rintro ⟨d, name⟩ _
    exact d.name_toSource name
  rw [hplain, hnames, sourcesOf, List.map_snd_zip]
  simp

/-- The names of the sources of a load are those of their declarations with the repetitions
numbered. -/
theorem names_loadDocuments (active : ProfileSet) (source text : String)
    (sought? : Option String) (loaded : DocumentSources)
    (hload : (settings.loadDocuments active source text sought?).result = .ok loaded) :
    loaded.sources.map (·.source.name) =
      numberRepeats (loaded.sources.map (·.plainName settings)) := by
  obtain ⟨documents, -, m, -, rfl⟩ :=
    (settings.loadDocuments_eq_ok_iff active source text sought? loaded).1 hload
  exact settings.names_namedSources_sourcesOf (selectDocuments m documents)

/-- **When the names of the sources are distinct.**  Two sources of a load have the same name
exactly if one declares a text that ends, in brackets of its own, with a number that a repetition of
the rest gets. -/
theorem names_distinct_iff (active : ProfileSet) (source text : String) (sought? : Option String)
    (loaded : DocumentSources)
    (hload : (settings.loadDocuments active source text sought?).result = .ok loaded) :
    (loaded.sources.map (·.source.name)).Nodup ↔
      ∀ s ∈ loaded.sources, ∀ k,
        k + 1 < loaded.sources.countP
          (fun t => t.declaredText settings == s.declaredText settings) →
        ∀ t ∈ loaded.sources,
          t.declaredText settings ≠ s.declaredText settings ++ "][" ++ k.repr := by
  have hcount : ∀ s : DocumentSource,
      (loaded.sources.map (·.plainName settings)).count (s.plainName settings) =
        loaded.sources.countP (fun t => t.declaredText settings == s.declaredText settings) := by
    intro s
    rw [List.count_eq_countP, List.countP_map]
    apply List.countP_congr
    intro t _
    simp only [Function.comp_apply, beq_iff_eq, DocumentSource.plainName_eq_iff]
  rw [settings.names_loadDocuments active source text sought? loaded hload, nodup_numberRepeats_iff]
  constructor
  · intro hfree s _ k hk t ht hdeclared
    rw [← hcount] at hk
    refine hfree _ k hk (List.mem_map.2 ⟨t, ht, ?_⟩)
    exact (DocumentSource.plainName_eq_numbered_iff settings s t k).2 hdeclared
  · intro hfree name k hk hmem
    obtain ⟨s, hs, rfl⟩ := List.mem_map.1 (List.count_pos_iff.1 (Nat.zero_lt_of_lt hk))
    obtain ⟨t, ht, hname⟩ := List.mem_map.1 hmem
    rw [hcount] at hk
    exact hfree s hs k hk t ht ((DocumentSource.plainName_eq_numbered_iff settings s t k).1 hname)

/-- Two documents without a declaration, and one that declares what the second of them could be
numbered with. -/
def repeatedStream : String := "x: 1\n---\nx: 2\n---\nx: 3\nspring.profiles: '!p][0'\n"

/-- The names of the sources of the repeated stream are distinct, since its third document declares
another text than the first two. -/
theorem names_distinct_of_repeatedStream :
    ∃ loaded : DocumentSources,
      (standard.loadDocuments .empty "app.yml" repeatedStream none).result = .ok loaded ∧
        loaded.sources.map (·.source.name) =
          ["YAML [!p][0]", "YAML [(default)]", "YAML [(default)][0]"] ∧
        ∀ s ∈ loaded.sources, ∀ k,
          k + 1 < loaded.sources.countP
            (fun t => t.declaredText standard == s.declaredText standard) →
          ∀ t ∈ loaded.sources,
            t.declaredText standard ≠ s.declaredText standard ++ "][" ++ k.repr := by
  have hnames : (standard.loadDocuments .empty "app.yml" repeatedStream none).result.map
      (fun loaded => loaded.sources.map (·.source.name)) =
        .ok ["YAML [!p][0]", "YAML [(default)]", "YAML [(default)][0]"] := by
    decide +kernel
  obtain ⟨loaded, hload, hnames⟩ := (except_map_eq_ok _ _ _).1 hnames
  refine ⟨loaded, hload, hnames, ?_⟩
  apply (standard.names_distinct_iff .empty "app.yml" repeatedStream none loaded hload).1
  rw [hnames]
  decide

/-- A document that declares `!p][0`, before two that declare `!p`. -/
def clashingStream : String :=
  "x: 1\nspring.profiles: '!p][0'\n---\nx: 2\nspring.profiles: '!p'\n---\n" ++
  "x: 3\nspring.profiles: '!p'\n"

/-- The second source that declares `!p` gets the name of the one that declares `!p][0`. -/
theorem names_clash_in_clashingStream :
    ¬ ∀ (settings : Settings) (active : ProfileSet) (source text : String)
      (sought? : Option String) (loaded : DocumentSources),
      (settings.loadDocuments active source text sought?).result = .ok loaded →
        (loaded.sources.map (·.source.name)).Nodup := by
  intro h
  have hnames : (standard.loadDocuments .empty "app.yml" clashingStream none).result.map
      (fun loaded => loaded.sources.map (·.source.name)) =
        .ok ["YAML [!p]", "YAML [!p][0]", "YAML [!p][0]"] := by
    decide +kernel
  obtain ⟨loaded, hload, hnames⟩ := (except_map_eq_ok _ _ _).1 hnames
  have hdistinct := h _ _ _ _ _ loaded hload
  rw [hnames] at hdistinct
  exact absurd hdistinct (by decide)

end Settings

end ProfileLayers
