/-
**The walk over the active profiles.**

Loading a stream into an environment first loads its default documents, which activates every
profile that discovery finds, and then walks over the active profiles.  Each step of the walk runs
discovery again, now for the documents of one profile, and could lengthen the list under the walk.
It never does: the profiles after the default load are settled, whatever is sought.  So the walk is
*steady*, and only a blank profile can end it early.

Main definitions:

* `ProfileLayers.Environment.profileLayer?`, `ProfileLayers.Environment.defaultLayer?` — the layers
  that a stream gives while some profiles are active;
* `ProfileLayers.Environment.steadyWalk` — the state of the walk at each position;
* `ProfileLayers.Environment.streamLayers` — all layers of a stream.

Main results:

* `ProfileLayers.Settings.result_loadRead`, `ProfileLayers.Settings.loadDocuments_eq_ok_iff` — what
  a load of documents comes to;
* `ProfileLayers.Environment.next?_steadyWalk`, `ProfileLayers.Environment.walk_steadyWalk` — one
  step of the walk, and all of it;
* `ProfileLayers.Environment.load_of_unreadable`, `ProfileLayers.Environment.load_of_not_blank`,
  `ProfileLayers.Environment.failure?_load_of_blank` — what adding a stream comes to;
* `ProfileLayers.Environment.load_meets_each_profile_once` — **the default load already finds every
  profile**.
-/

import ProfileLayers.Environment
import ProfileLayers.Proofs.Discovery
import ProfileLayers.Proofs.Selection

set_option relaxedAutoImplicit false
set_option autoImplicit false

namespace ProfileLayers

/-! ### Loads of documents -/

/-- The profiles that the documents activate, given those active before, while nothing is sought. -/
def activated (documents : List Document) (active : ProfileSet) : ProfileSet :=
  (discover (documents.map (·.declarations)) none active).active

/-- A load of documents discovers the active profiles, and fails only if a blank profile is
sought. -/
theorem Settings.result_loadRead (settings : Settings) (active : ProfileSet) (source : String)
    (documents : List Document) (sought? : Option String) :
    (settings.loadRead active source documents sought?).result =
      let found := (discover (documents.map (·.declarations)) sought? active).active
      (Matcher.seek? sought? found).map fun m =>
        ⟨namedSources (settings.sourcesOf (selectDocuments m documents)), found⟩ := by
  simp only [loadRead, discoverProfiles, Report.result_bind, Report.result_ofResult,
    Report.result_note, Report.result_pure, Except.bind]
  cases Matcher.seek? sought? (discover (documents.map (·.declarations)) sought? active).active <;>
    rfl

/-- A load succeeds exactly if the stream can be read and its documents can be searched; then it
gives the sources of the documents that the search finds. -/
theorem Settings.loadDocuments_eq_ok_iff (settings : Settings) (active : ProfileSet)
    (source text : String) (sought? : Option String) (loaded : DocumentSources) :
    (settings.loadDocuments active source text sought?).result = .ok loaded ↔
      ∃ documents, (Document.readAll source text).result = .ok documents ∧
        let found := (discover (documents.map (·.declarations)) sought? active).active
        ∃ m, Matcher.seek? sought? found = .ok m ∧
          ⟨namedSources (settings.sourcesOf (selectDocuments m documents)), found⟩ = loaded := by
  rw [loadDocuments, Report.result_bind, except_bind_eq_ok]
  simp only [result_loadRead, except_map_eq_ok]

namespace Environment

/-! ### Layers of a stream -/

/-- The layer of a profile, if documents of the profile apply. -/
def profileLayer? (settings : Settings) (source : String) (documents : List Document)
    (active : ProfileSet) (profile : String) : Option Source :=
  let found := selectDocuments (.specific profile active) documents
  (DocumentSources.mk (namedSources (settings.sourcesOf found)) active).profileSpecific.combine
    (layerName source profile)

/-- The layer of the default documents, if any applies. -/
def defaultLayer? (settings : Settings) (source : String) (documents : List Document)
    (active : ProfileSet) : Option Source :=
  let found := selectDocuments (.default active) documents
  (DocumentSources.mk (namedSources (settings.sourcesOf found)) active).combine source

/-- The layers of a stream: those of the profiles, the last activated first, and the default one. -/
def streamLayers (settings : Settings) (source : String) (documents : List Document)
    (active : ProfileSet) : List Source :=
  (active.names.filterMap (profileLayer? settings source documents active)).reverse ++
    (defaultLayer? settings source documents active).toList

/-! ### Steps of the walk -/

/-- The load of the documents of one profile. -/
def specificLoad (settings : Settings) (source : String) (read : Report (List Document))
    (active : ProfileSet) (profile : String) : Report DocumentSources :=
  read >>= fun documents => settings.loadRead active source documents (some profile)

/-- The walk before the profile at `position`, if the active profiles stay the same. -/
def steadyWalk (settings : Settings) (source : String) (read : Report (List Document))
    (documents : List Document) (active : ProfileSet) (notices : List Notice) (position : Nat) :
    Walk where
  position := position
  active := active
  layers := ((active.names.take position).filterMap
    (profileLayer? settings source documents active)).reverse
  failure? := none
  notices := notices ++ (active.names.take position).flatMap fun profile =>
    (specificLoad settings source read active profile).notices

section Steady

variable (settings : Settings) (source : String) (read : Report (List Document))
  (documents : List Document) (active : ProfileSet) (notices : List Notice)

theorem steadyWalk_zero :
    steadyWalk settings source read documents active notices 0 =
      ⟨0, active, [], none, notices⟩ := by
  simp [steadyWalk]

/-- From settled profiles, the load for a profile that is not blank activates no other. -/
theorem result_specificLoad (hread : read.result = .ok documents)
    (hsettled : Settled (documents.map (·.declarations)) none active) (profile : String) :
    (specificLoad settings source read active profile).result =
      if isBlankText profile then .error (.blankProfile profile)
      else .ok ⟨namedSources (settings.sourcesOf
        (selectDocuments (.specific profile active) documents)), active⟩ := by
  have hfound := discover_of_settled (documents.map (·.declarations)) (some profile) active
    (hsettled.of_none (some profile))
  rw [specificLoad, Report.result_bind, hread]
  change (settings.loadRead active source documents (some profile)).result = _
  rw [Settings.result_loadRead, hfound]
  simp only [Matcher.seek?, Matcher.specific?]
  split <;> rfl

/-- A step of the walk from settled profiles, while no blank profile is met. -/
theorem next?_steadyWalk (hread : read.result = .ok documents)
    (hsettled : Settled (documents.map (·.declarations)) none active) (position : Nat)
    (profile : String) (hp : active.names[position]? = some profile)
    (hblank : isBlankText profile = false) :
    (steadyWalk settings source read documents active notices position).next? settings source
        read =
      some (steadyWalk settings source read documents active notices (position + 1)) := by
  have hload := result_specificLoad settings source read documents active hread hsettled profile
  rw [hblank, if_neg Bool.false_ne_true, specificLoad] at hload
  have htake : active.names.take (position + 1) = active.names.take position ++ [profile] := by
    rw [List.take_add_one, hp, Option.toList_some]
  -- what the load found is what was active, so the walk goes on over the same list
  have hself : active.insertAll active.names = active :=
    ProfileSet.insertAll_eq_self active active.names fun _ hq => hq
  simp only [Walk.next?, steadyWalk, hp, hload, htake, hself, List.filterMap_append,
    List.reverse_append, List.flatMap_append, List.flatMap_singleton, List.append_assoc,
    Option.some.injEq, Walk.mk.injEq, true_and]
  refine ⟨?_, rfl⟩
  change (profileLayer? settings source documents active profile).toList ++ _ = _
  cases hlayer : profileLayer? settings source documents active profile with
  | none => simp [hlayer]
  | some layer => simp [hlayer]

/-- A step of the walk from settled profiles that meets a blank profile. -/
theorem next?_steadyWalk_of_blank (hread : read.result = .ok documents)
    (hsettled : Settled (documents.map (·.declarations)) none active) (position : Nat)
    (profile : String) (hp : active.names[position]? = some profile)
    (hblank : isBlankText profile = true) :
    ∃ failed : Walk,
      (steadyWalk settings source read documents active notices position).next? settings source
          read = some failed ∧
        failed.active = active ∧ failed.failure? = some (.blankProfile profile) := by
  have hload := result_specificLoad settings source read documents active hread hsettled profile
  rw [hblank, if_pos rfl, specificLoad] at hload
  simp only [Walk.next?, steadyWalk, hp, hload]
  exact ⟨_, rfl, rfl, rfl⟩

/-- There is no step behind the last profile. -/
theorem next?_steadyWalk_end (position : Nat) (h : active.size ≤ position) :
    (steadyWalk settings source read documents active notices position).next? settings source
      read = none := by
  have hnone : active.names[position]? = none := List.getElem?_eq_none h
  simp only [Walk.next?, steadyWalk, hnone]

/-! ### The whole walk -/

theorem walk_of_next?_none (fuel : Nat) (w : Walk)
    (h : w.next? settings source read = none) : walk settings source read fuel w = w := by
  cases fuel with
  | zero => rfl
  | succ fuel => simp only [walk, h]

/-- A walk that has failed takes no further step. -/
theorem next?_of_failure (w : Walk) (e : LoadError) (h : w.failure? = some e) :
    w.next? settings source read = none := by
  simp only [Walk.next?, h]

/-- A walk that meets no blank profile meets every active profile and stays steady. -/
theorem walk_steadyWalk (hread : read.result = .ok documents)
    (hsettled : Settled (documents.map (·.declarations)) none active)
    (hblank : ∀ p ∈ active, isBlankText p = false) (fuel position : Nat)
    (hposition : position ≤ active.size) (hfuel : active.size ≤ position + fuel) :
    walk settings source read fuel
        (steadyWalk settings source read documents active notices position) =
      steadyWalk settings source read documents active notices active.size := by
  -- the number of profiles ahead is at most the fuel, and both fall by one with each step
  induction fuel generalizing position with
  | zero =>
      have hend : position = active.size := by omega
      rw [hend, walk]
  | succ fuel ih =>
      by_cases hend : position = active.size
      · rw [hend]
        exact walk_of_next?_none settings source read _ _
          (next?_steadyWalk_end settings source read documents active notices _ (Nat.le_refl _))
      · have hlt : position < active.names.length := by
          simp only [ProfileSet.size] at hposition hend
          omega
        have hp := List.getElem?_eq_getElem hlt
        have hnext := next?_steadyWalk settings source read documents active notices hread
          hsettled position _ hp (hblank _ (List.getElem_mem hlt))
        simp only [walk, hnext]
        exact ih (position + 1) hlt (by omega)

/-- A walk that meets blank profiles fails at the first one, and nothing was activated on the
way. -/
theorem walk_steadyWalk_of_blank (hread : read.result = .ok documents)
    (hsettled : Settled (documents.map (·.declarations)) none active) (p : String)
    (fuel position : Nat) (hfuel : active.size ≤ position + fuel)
    (hblank : (active.names.drop position).find? isBlankText = some p) :
    (walk settings source read fuel
      (steadyWalk settings source read documents active notices position)).failure? =
        some (.blankProfile p) ∧
    (walk settings source read fuel
      (steadyWalk settings source read documents active notices position)).active = active := by
  induction fuel generalizing position with
  | zero =>
      rw [Nat.add_zero] at hfuel
      rw [List.drop_eq_nil_of_le hfuel, List.find?_nil] at hblank
      exact absurd hblank (Option.some_ne_none p).symm
  | succ fuel ih =>
      have hlt : position < active.names.length := by
        have hpos := List.length_pos_of_mem (List.mem_of_find?_eq_some hblank)
        rw [List.length_drop] at hpos
        omega
      have hp := List.getElem?_eq_getElem hlt
      rw [List.drop_eq_getElem_cons hlt, List.find?_cons] at hblank
      cases hfirst : isBlankText active.names[position] with
      | true =>
          rw [hfirst] at hblank
          have hsame : active.names[position] = p := Option.some.inj hblank
          obtain ⟨failed, hnext, hactive, hfailure⟩ := next?_steadyWalk_of_blank settings source
            read documents active notices hread hsettled position _ hp hfirst
          have hover := walk_of_next?_none settings source read fuel failed
            (next?_of_failure settings source read failed _ hfailure)
          simp only [walk, hnext, hover]
          exact ⟨hsame ▸ hfailure, hactive⟩
      | false =>
          -- the first blank profile is further ahead
          rw [hfirst] at hblank
          have hnext := next?_steadyWalk settings source read documents active notices hread
            hsettled position _ hp hfirst
          simp only [walk, hnext]
          exact ih (position + 1) (by omega) hblank

end Steady

/-! ### Adding a stream -/

variable (env : Environment) (source text : String) (documents : List Document)

/-- The walk that adding a stream takes begins steadily, with the profiles that the default load
activates. -/
theorem load_of_read (hread : (Document.readAll source text).result = .ok documents) :
    env.load source text =
      let read := Document.readAll source text
      let active := activated documents env.active
      let notices := (env.settings.loadDocuments env.active source text none).notices
      let w := walk env.settings source read (profileBound active read + 1)
        (steadyWalk env.settings source read documents active notices 0)
      match w.failure? with
      | some e => ⟨{ env with active := w.active }, some e, w.notices⟩
      | none =>
          let layers := w.layers ++ (defaultLayer? env.settings source documents active).toList
          ⟨{ env with active := w.active, layers := layers ++ env.layers }, none,
            w.notices ++ [.layered source layers.length w.active]⟩ := by
  have hdefaults : (Document.readAll source text >>= fun documents =>
      env.settings.loadRead env.active source documents none).result =
        .ok ⟨namedSources (env.settings.sourcesOf (selectDocuments
          (.default (activated documents env.active)) documents)),
          activated documents env.active⟩ := by
    rw [Report.result_bind, hread]
    exact Settings.result_loadRead env.settings env.active source documents none
  have hactive : env.active.insertAll (activated documents env.active).names =
      activated documents env.active :=
    ProfileSet.insertAll_of_prefix _ _ (prefix_discover _ none env.active)
  simp only [load, hdefaults, hactive, steadyWalk_zero]
  rfl

/-- The walk of a load has fuel for every active profile. -/
theorem size_le_profileBound (active : ProfileSet) (read : Report (List Document)) :
    active.size ≤ 0 + (profileBound active read + 1) := by
  unfold profileBound
  split <;> omega

/-- Adding a stream while no blank profile becomes active. -/
theorem load_of_not_blank (hread : (Document.readAll source text).result = .ok documents)
    (hblank : ∀ p ∈ activated documents env.active, isBlankText p = false) :
    (env.load source text).failure? = none ∧
      (env.load source text).environment =
        { env with
          active := activated documents env.active
          layers := streamLayers env.settings source documents (activated documents env.active) ++
            env.layers } := by
  have hsettled : Settled (documents.map (·.declarations)) none (activated documents env.active) :=
    settled_discover _ none env.active
  rw [load_of_read env source text documents hread]
  simp only [walk_steadyWalk env.settings source _ documents _ _ hread hsettled hblank _ 0
    (Nat.zero_le _) (size_le_profileBound _ _)]
  refine ⟨rfl, ?_⟩
  simp only [steadyWalk, streamLayers, ProfileSet.size, List.take_length]

/-- Adding a stream while blank profiles are active fails at the first one. -/
theorem failure?_load_of_blank (hread : (Document.readAll source text).result = .ok documents)
    (p : String) (hblank : (activated documents env.active).names.find? isBlankText = some p) :
    (env.load source text).failure? = some (.blankProfile p) ∧
      (env.load source text).environment =
        { env with active := activated documents env.active } := by
  have hsettled : Settled (documents.map (·.declarations)) none (activated documents env.active) :=
    settled_discover _ none env.active
  obtain ⟨hfailure, hactive⟩ := walk_steadyWalk_of_blank env.settings source _ documents
    (activated documents env.active)
    (env.settings.loadDocuments env.active source text none).notices hread hsettled p _ 0
    (size_le_profileBound _ (Document.readAll source text)) hblank
  rw [load_of_read env source text documents hread]
  simp only [hfailure, hactive, and_self]

/-- No blank profile is active once a stream was added. -/
theorem not_isBlankText_of_load (hread : (Document.readAll source text).result = .ok documents)
    (hload : (env.load source text).failure? = none) :
    ∀ p ∈ activated documents env.active, isBlankText p = false := by
  cases hblank : (activated documents env.active).names.find? isBlankText with
  | none => exact fun p hp => Bool.eq_false_iff.2 (List.find?_eq_none.1 hblank p hp)
  | some p =>
      have hfailure := (failure?_load_of_blank env source text documents hread p hblank).1
      rw [hload] at hfailure
      exact absurd hfailure (Option.some_ne_none _).symm

/-- Adding a stream that cannot be read fails and changes nothing. -/
theorem load_of_unreadable (e : LoadError)
    (hread : (Document.readAll source text).result = .error e) :
    (env.load source text).failure? = some e ∧ (env.load source text).environment = env := by
  have hdefaults : (Document.readAll source text >>= fun documents =>
      env.settings.loadRead env.active source documents none).result = .error e := by
    rw [Report.result_bind, hread]
    rfl
  simp only [load, hdefaults, and_self]

/-- A stream that was added could be read. -/
theorem exists_documents_of_load (hload : (env.load source text).failure? = none) :
    ∃ documents, (Document.readAll source text).result = .ok documents := by
  cases hread : (Document.readAll source text).result with
  | ok documents => exact ⟨documents, rfl⟩
  | error e =>
      have hfailure := (load_of_unreadable env source text e hread).1
      rw [hload] at hfailure
      exact absurd hfailure (Option.some_ne_none e).symm

/-- A run of the walk that meets each active profile once, in order of activation, while the list
that it walks over never grows. -/
structure MeetsEachOnce (settings : Settings) (source text : String) (documents : List Document)
    (active : ProfileSet) (states : Nat → Walk) : Prop where
  position_eq : ∀ i ≤ active.size, (states i).position = i
  active_eq : ∀ i ≤ active.size, (states i).active = active
  /-- Each step meets the profile at its position. -/
  next_eq : ∀ i < active.size,
    (states i).next? settings source (Document.readAll source text) = some (states (i + 1))
  ends : (states active.size).next? settings source (Document.readAll source text) = none
  /-- Discovery for a profile that is met ends after one pass, and finds no further profile. -/
  discovers : ∀ p ∈ active,
    discover (documents.map (·.declarations)) (some p) active = ⟨[active], active⟩
  loads : ∀ p ∈ active, ∃ sources : DocumentSources,
    (settings.loadDocuments active source text (some p)).result = .ok sources ∧
      sources.active = active

/-- **The default load already finds every profile.**  After a stream was added, exactly the
profiles are active that discovery finds while nothing is sought, and the walk over them met each of
them once, in order of activation, without activating any other. -/
theorem load_meets_each_profile_once (hload : (env.load source text).failure? = none) :
    ∃ documents, (Document.readAll source text).result = .ok documents ∧
      let read := Document.readAll source text
      let active := (discover (documents.map (·.declarations)) none env.active).active
      ∃ states : Nat → Walk,
        states 0 = ⟨0, active, [], none,
          (env.settings.loadDocuments env.active source text none).notices⟩ ∧
        MeetsEachOnce env.settings source text documents active states ∧
        walk env.settings source read (profileBound active read + 1) (states 0) =
          states active.size ∧
        (env.load source text).environment =
          { env with
            active := active
            layers := (states active.size).layers ++
              (defaultLayer? env.settings source documents active).toList ++ env.layers } := by
  obtain ⟨documents, hread⟩ := exists_documents_of_load env source text hload
  refine ⟨documents, hread, ?_⟩
  intro read active
  have hsettled : Settled (documents.map (·.declarations)) none active :=
    settled_discover _ none env.active
  have hblank := not_isBlankText_of_load env source text documents hread hload
  have hspecific : ∀ p ∈ active,
      (env.settings.loadDocuments active source text (some p)).result =
        .ok ⟨namedSources (env.settings.sourcesOf
          (selectDocuments (.specific p active) documents)), active⟩ := by
    intro p hp
    have hload := result_specificLoad env.settings source read documents active hread hsettled p
    rw [hblank p hp, if_neg Bool.false_ne_true] at hload
    exact hload
  refine ⟨steadyWalk env.settings source read documents active
    (env.settings.loadDocuments env.active source text none).notices, ?_, ?_, ?_, ?_⟩
  · exact steadyWalk_zero env.settings source read documents active _
  · exact
      { position_eq := fun _ _ => rfl
        active_eq := fun _ _ => rfl
        next_eq := fun i hi => next?_steadyWalk env.settings source read documents active _ hread
          hsettled i _ (List.getElem?_eq_getElem hi) (hblank _ (List.getElem_mem hi))
        ends := next?_steadyWalk_end env.settings source read documents active _ _ (Nat.le_refl _)
        discovers := fun p _ => discover_of_settled _ (some p) active (hsettled.of_none (some p))
        loads := fun p hp => ⟨_, hspecific p hp, rfl⟩ }
  · exact walk_steadyWalk env.settings source read documents active _ hread hsettled hblank _ 0
      (Nat.zero_le _) (size_le_profileBound active read)
  · rw [(load_of_not_blank env source text documents hread hblank).2]
    simp only [streamLayers, steadyWalk, ProfileSet.size, List.take_length]
    rfl

/-- A stream whose first document activates `a` and `b`, while the last one is vetoed by `b`. -/
def stagedStream : String :=
  "x: 0\nspring.profiles.include: a,b\n---\n" ++
  "x: 1\nspring.profiles: a\n---\nx: 2\nspring.profiles: '!b'\n"

theorem load_stagedStream :
    ((start .standard .empty).load "app.yml" stagedStream).failure? = none ∧
      ((start .standard .empty).load "app.yml" stagedStream).environment.active =
        .ofList ["a", "b"] ∧
      ((start .standard .empty).load "app.yml" stagedStream).environment.layers.map Source.name =
        ["app.yml#a", "app.yml"] := by
  decide +kernel

/-- The staged stream is walked over in two steps, which activate nothing further. -/
theorem stagedStream_meets_both_profiles :
    ((start .standard .empty).load "app.yml" stagedStream).failure? = none ∧
      ∃ documents states, (Document.readAll "app.yml" stagedStream).result = .ok documents ∧
        MeetsEachOnce .standard "app.yml" stagedStream documents (.ofList ["a", "b"]) states := by
  obtain ⟨hadded, hactive, -⟩ := load_stagedStream
  obtain ⟨documents, hread, states, -, hmeets, -, hafter⟩ :=
    load_meets_each_profile_once (start .standard .empty) "app.yml" stagedStream hadded
  rw [hafter] at hactive
  change (discover (documents.map (·.declarations)) none ProfileSet.empty).active = _ at hactive
  change MeetsEachOnce _ _ _ _
    (discover (documents.map (·.declarations)) none ProfileSet.empty).active states at hmeets
  rw [hactive] at hmeets
  exact ⟨hadded, documents, states, hread, hmeets⟩

end Environment

end ProfileLayers
