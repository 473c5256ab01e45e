/-
**What a failed addition leaves behind.**

Adding a stream activates profiles before it walks over them, and the walk can fail.  It can fail
only for a blank profile, and since no name that a document declares is blank, such a profile was
active before.  So there are two ways to fail: a stream that cannot be read changes nothing, and a
blank profile leaves the layers as they were but keeps what the default documents activated.

Main results:

* `ProfileLayers.isToken_of_mem_declaredNames` — the names that documents declare are tokens;
* `ProfileLayers.find?_isBlankText_activated` — no blank profile is activated;
* `ProfileLayers.Environment.load_cases` — the three outcomes of adding a stream;
* `ProfileLayers.Environment.load_fails_iff` — when it fails;
* `ProfileLayers.Environment.failed_load_leaves_layers` — **a failed addition leaves the layers as
  they were**.
-/

import ProfileLayers.Proofs.Walk

set_option relaxedAutoImplicit false
set_option autoImplicit false

namespace ProfileLayers

/-! ### Declared names -/

theorem Declarations.isToken_of_mem_items (m : PropertyMap) (key token : String)
    (h : token ∈ Declarations.items m key) : IsToken token := by
  unfold Declarations.items at h
  cases hbound : bindList? m key with
  | none =>
      rw [hbound] at h
      exact absurd h List.not_mem_nil
  | some bound =>
      rw [hbound] at h
      exact isToken_of_mem_bindList? m key bound hbound token h

section Read

variable (source text : String) (documents : List Document)
  (hread : (Document.readAll source text).result = .ok documents)
include hread

/-- The names in the active and include lists of a stream are tokens. -/
theorem isToken_of_mem_declaredNames (p : String)
    (h : p ∈ declaredNames (documents.map (·.declarations))) : IsToken p := by
  obtain ⟨declarations, hdeclarations, hp⟩ := List.mem_flatMap.1 h
  obtain ⟨d, hd, rfl⟩ := List.mem_map.1 hdeclarations
  obtain ⟨place, m, rfl⟩ := exists_ofProperties_of_mem_readAll source text documents hread d hd
  rcases List.mem_append.1 hp with hp | hp
  · exact Declarations.isToken_of_mem_items m activeKey p hp
  · exact Declarations.isToken_of_mem_items m includeKey p hp

/-- The documents activate no blank profile, so the first one after discovery was the first one
before. -/
theorem find?_isBlankText_activated (active : ProfileSet) :
    (activated documents active).names.find? isBlankText = active.names.find? isBlankText := by
  obtain ⟨added, hadded⟩ := prefix_discover (documents.map (·.declarations)) none active
  have hnodup : (active.names ++ added).Nodup := hadded ▸ (activated documents active).nodup
  have hnone : added.find? isBlankText = none := by
    rw [List.find?_eq_none]
    intro p hp
    have hmem : p ∈ activated documents active := by
      rw [ProfileSet.mem_def, activated, ← hadded]
      exact List.mem_append_right _ hp
    have hnew : p ∉ active := fun hold => (List.nodup_append.1 hnodup).2.2 p hold p hp rfl
    have hdeclared := (mem_discover _ none active p hmem).resolve_left hnew
    rw [(isToken_of_mem_declaredNames source text documents hread p hdeclared).not_isBlankText]
    exact Bool.false_ne_true
  rw [activated, ← hadded, List.find?_append, hnone, Option.or_none]

end Read

namespace Environment

variable (env : Environment) (source text : String)

/-! ### Outcomes -/

/-- Adding a stream fails because it cannot be read, fails at the first blank profile that was
active before, or succeeds. -/
theorem load_cases :
    (∃ e, (Document.readAll source text).result = .error e ∧
      (env.load source text).failure? = some e ∧ (env.load source text).environment = env) ∨
    ∃ documents, (Document.readAll source text).result = .ok documents ∧
      ((∃ p, env.active.names.find? isBlankText = some p ∧
        (env.load source text).failure? = some (.blankProfile p) ∧
        (env.load source text).environment =
          { env with active := activated documents env.active }) ∨
      (env.active.names.find? isBlankText = none ∧
        (env.load source text).failure? = none ∧
        (env.load source text).environment =
          { env with
            active := activated documents env.active
            layers := streamLayers env.settings source documents (activated documents env.active) ++
              env.layers })) := by
  cases hread : (Document.readAll source text).result with
  | error e => exact .inl ⟨e, rfl, load_of_unreadable env source text e hread⟩
  | ok documents =>
      refine .inr ⟨documents, rfl, ?_⟩
      have hsame := find?_isBlankText_activated source text documents hread env.active
      cases hblank : env.active.names.find? isBlankText with
      | some p =>
          exact .inl ⟨p, rfl, failure?_load_of_blank env source text documents hread p
            (hsame.trans hblank)⟩
      | none =>
          refine .inr ⟨rfl, load_of_not_blank env source text documents hread ?_⟩
          intro p hp
          exact Bool.eq_false_iff.2 (List.find?_eq_none.1 (hsame.trans hblank) p hp)

/-- Adding a stream fails exactly if it cannot be read or a blank profile is active. -/
theorem load_fails_iff :
    (env.load source text).failure? ≠ none ↔
      (∃ e, (Document.readAll source text).result = .error e) ∨
        ∃ p ∈ env.active, isBlankText p = true := by
  rcases env.load_cases source text with
    ⟨e, hread, hfailure, -⟩ | ⟨documents, hread, ⟨p, hblank, hfailure, -⟩ | ⟨hblank, hfailure, -⟩⟩
  · rw [hfailure]
    exact iff_of_true (Option.some_ne_none e) (.inl ⟨e, hread⟩)
  · rw [hfailure]
    exact iff_of_true (Option.some_ne_none _)
      (.inr ⟨p, List.mem_of_find?_eq_some hblank, List.find?_some hblank⟩)
  · rw [hfailure]
    refine iff_of_false (fun h => h rfl) ?_
    rintro (⟨e, he⟩ | ⟨p, hp, hpblank⟩)
    · rw [hread] at he
      cases he
    · exact List.find?_eq_none.1 hblank p hp hpblank

theorem layers_load_of_failure (h : (env.load source text).failure? ≠ none) :
    (env.load source text).environment.layers = env.layers := by
  rcases env.load_cases source text with
    ⟨e, -, -, hafter⟩ | ⟨documents, -, ⟨p, -, -, hafter⟩ | ⟨-, hfailure, -⟩⟩
  · rw [hafter]
  · rw [hafter]
  · exact absurd hfailure h

/-- Whatever the outcome, profiles and layers are only added. -/
theorem load_only_adds :
    env.active.names <+: (env.load source text).environment.active.names ∧
      env.layers <:+ (env.load source text).environment.layers := by
  rcases env.load_cases source text with
    ⟨e, -, -, hafter⟩ | ⟨documents, -, ⟨p, -, -, hafter⟩ | ⟨-, -, hafter⟩⟩
  · rw [hafter]
    exact ⟨List.prefix_rfl, List.suffix_rfl⟩
  · rw [hafter]
    exact ⟨prefix_discover _ none env.active, List.suffix_rfl⟩
  · rw [hafter]
    exact ⟨prefix_discover _ none env.active, List.suffix_append _ _⟩

/-- A file in which no stream is expected, or which cannot be read, changes nothing. -/
theorem environment_loadFile_of_unread (path : String) (content : Except FileFailure String)
    (h : isYamlPath path = false ∨ ∃ failure, content = .error failure) :
    (env.loadFile path content).addition.environment = env := by
  unfold loadFile
  rcases h with hpath | ⟨failure, rfl⟩
  · rw [hpath, if_neg Bool.false_ne_true]
  · split <;> rfl

/-- **A failed addition leaves the layers as they were.**  Adding a stream fails exactly if it
cannot be read or a blank profile is active.  If it cannot be read, the active profiles stay as they
were too; if a blank profile is active, exactly the profiles are active afterwards that discovery
finds.  In any case profiles are added behind those before, and layers on top of those before.  A
file that is not read, or cannot be, changes nothing. -/
theorem failed_load_leaves_layers (env : Environment) (source text : String) :
    let addition := env.load source text
    let after := addition.environment
    (addition.failure? ≠ none ↔ (∃ e, (Document.readAll source text).result = .error e) ∨
      ∃ p ∈ env.active, isBlankText p = true) ∧
    (addition.failure? ≠ none → after.layers = env.layers) ∧
    (∀ e, (Document.readAll source text).result = .error e →
      addition.failure? = some e ∧ after.active = env.active) ∧
    (∀ documents e, (Document.readAll source text).result = .ok documents →
      addition.failure? = some e →
        e.isInvalidArgument = true ∧
        (∃ p, env.active.names.find? isBlankText = some p ∧ e = .blankProfile p) ∧
        after.active = (discover (documents.map (·.declarations)) none env.active).active) ∧
    env.active.names <+: after.active.names ∧ env.layers <:+ after.layers ∧
    ∀ path content, (isYamlPath path = false ∨ ∃ failure, content = .error failure) →
      (env.loadFile path content).addition.environment = env := by
  intro addition after
  obtain ⟨hactive, hlayers⟩ := env.load_only_adds source text
  refine ⟨env.load_fails_iff source text, env.layers_load_of_failure source text, ?_, ?_, hactive,
    hlayers, env.environment_loadFile_of_unread⟩
  · intro e hread
    obtain ⟨hfailure, hafter⟩ := load_of_unreadable env source text e hread
    exact ⟨hfailure, congrArg Environment.active hafter⟩
  · intro documents e hread he
    rcases env.load_cases source text with
      ⟨_, hunread, -, -⟩ | ⟨found, hfound, ⟨p, hblank, hfailure, hafter⟩ | ⟨-, hfailure, -⟩⟩
    · rw [hread] at hunread
      cases hunread
    · cases hread.symm.trans hfound
      cases he.symm.trans hfailure
      exact ⟨rfl, ⟨p, hblank, rfl⟩, congrArg Environment.active hafter⟩
    · cases he.symm.trans hfailure

theorem load_stagedStream_of_blank :
    ((start .standard (.ofList ["q", " ", ""])).load "app.yml" stagedStream).failure? =
        some (.blankProfile " ") ∧
      ((start .standard (.ofList ["q", " ", ""])).load "app.yml" stagedStream).environment.active =
        .ofList ["q", " ", "", "a", "b"] := by
  decide +kernel

/-- With two blank profiles among the active ones the staged stream fails at the first of them, and
what its first document activates stays active. -/
theorem stagedStream_fails_at_blank_profile :
    ((start .standard (.ofList ["q", " ", ""])).load "app.yml" stagedStream).failure? =
        some (.blankProfile " ") ∧
      ((start .standard (.ofList ["q", " ", ""])).load "app.yml" stagedStream).environment.active =
        .ofList ["q", " ", "", "a", "b"] ∧
      ((start .standard (.ofList ["q", " ", ""])).load "app.yml" stagedStream).environment.layers =
        [] := by
  obtain ⟨hfailure, hactive⟩ := load_stagedStream_of_blank
  obtain ⟨-, hlayers, -⟩ := failed_load_leaves_layers
    (start .standard (.ofList ["q", " ", ""])) "app.yml" stagedStream
  exact ⟨hfailure, hactive, hlayers (hfailure ▸ Option.some_ne_none _)⟩

end Environment

end ProfileLayers
