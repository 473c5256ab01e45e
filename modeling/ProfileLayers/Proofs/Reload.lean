/-
**Adding a stream again.**

The second time a stream is added, other profiles are active at the start: active lists that counted
the first time are blocked, and vetoes apply from the first pass on.  But the profiles after the
first addition are settled, so discovery leaves them as they are, and every load of the walk finds
the documents that it found before.  The layers of the second addition are therefore those of the
first, and a reader who meets a layer a second time learns nothing from it.

Main results:

* `ProfileLayers.activated_activated` — documents activate nothing the second time;
* `ProfileLayers.Environment.get?_of_repeated`, `ProfileLayers.Environment.keys_of_repeated` —
  repeated layers do not affect reading;
* `ProfileLayers.Environment.load_again` — what the second addition comes to;
* `ProfileLayers.Environment.reload_affects_no_reading` — **adding a stream again does not affect
  reading**.
-/

import ProfileLayers.Proofs.FirstOccurrence
import ProfileLayers.Proofs.Walk

set_option relaxedAutoImplicit false
set_option autoImplicit false

namespace ProfileLayers

/-! ### Discovery the second time -/

/-- Documents activate nothing the second time. -/
theorem activated_activated (documents : List Document) (active : ProfileSet) :
    activated documents (activated documents active) = activated documents active := by
  have hsettled : Settled (documents.map (·.declarations)) none (activated documents active) :=
    settled_discover _ none active
  rw [activated, discover_of_settled _ none _ hsettled]

/-! ### Repeated layers -/

theorem findSome?_append_append {α β : Type} (f : α → Option β) (l m : List α) :
    (l ++ (l ++ m)).findSome? f = (l ++ m).findSome? f := by
  rw [List.findSome?_append, List.findSome?_append]
  cases l.findSome? f <;> rfl

namespace Environment

section Repeated

variable {env other : Environment} (hactive : other.active = env.active) (added below : List Source)
  (henv : env.layers = added ++ below) (hother : other.layers = added ++ env.layers)
include hactive henv hother

/-- An environment in which the layers on top are repeated has the same values. -/
theorem get?_of_repeated (key : String) : other.get? key = env.get? key := by
  rw [get?, get?, hactive, hother, henv, findSome?_append_append]

/-- An environment in which the layers on top are repeated has the same keys. -/
theorem keys_of_repeated : other.keys = env.keys := by
  rw [keys, keys, hactive, hother, henv, unionOfKeys_eq_eraseDups, unionOfKeys_eq_eraseDups]
  simp only [List.map_append, List.flatten_append]
  exact eraseDups_append_append _ _

end Repeated

/-! ### The second addition -/

variable (env : Environment) (source text : String)

/-- Once a stream was added, adding it again succeeds and puts the same layers on top. -/
theorem load_again (hload : (env.load source text).failure? = none) :
    let once := (env.load source text).environment
    (once.load source text).failure? = none ∧
      ∃ added, once.layers = added ++ env.layers ∧
        (once.load source text).environment = { once with layers := added ++ once.layers } := by
  intro once
  obtain ⟨documents, hread⟩ := exists_documents_of_load env source text hload
  have hblank := not_isBlankText_of_load env source text documents hread hload
  have honce : once = { env with
      active := activated documents env.active
      layers := streamLayers env.settings source documents (activated documents env.active) ++
        env.layers } := (load_of_not_blank env source text documents hread hblank).2
  have hsame : activated documents once.active = once.active := by
    rw [honce]
    exact activated_activated documents env.active
  obtain ⟨hagain, hafter⟩ := load_of_not_blank once source text documents hread
    (by rw [hsame, honce]; exact hblank)
  refine ⟨hagain, streamLayers env.settings source documents (activated documents env.active), ?_,
    ?_⟩
  · rw [honce]
  · rw [hafter, hsame, honce]

/-- **Adding a stream again does not affect reading.**  It succeeds, activates nothing and puts the
layers of the first addition on top once more; whatever is active later, the environment reads as if
it had not been added again. -/
theorem reload_affects_no_reading (env : Environment) (source text : String)
    (hload : (env.load source text).failure? = none) :
    let once := (env.load source text).environment
    let again := once.load source text
    again.failure? = none ∧ again.environment.active = once.active ∧
      (∃ added, once.layers = added ++ env.layers ∧
        again.environment.layers = added ++ once.layers) ∧
      ∀ later : ProfileSet,
        let without := { once with active := later }
        let reloaded := { again.environment with active := later }
        (∀ key, reloaded.get? key = without.get? key ∧
          reloaded.contains key = without.contains key) ∧
        reloaded.keys = without.keys := by
  intro once again
  obtain ⟨hagain, added, honce, hafter⟩ := load_again env source text hload
  have hactive : again.environment.active = once.active := by rw [hafter]
  have hlayers : again.environment.layers = added ++ once.layers := by rw [hafter]
  refine ⟨hagain, hactive, ⟨added, honce, hlayers⟩, ?_⟩
  intro later without reloaded
  have hget : ∀ key, reloaded.get? key = without.get? key :=
    get?_of_repeated rfl added env.layers honce hlayers
  refine ⟨fun key => ⟨hget key, ?_⟩, keys_of_repeated rfl added env.layers honce hlayers⟩
  rw [contains, contains, hget key]

/-- A stream that activates `a` by an active list, which counts the first time only, and thereby
`b`, by which its last document is vetoed. -/
def activatingStream : String :=
  "x: 0\nspring.profiles.active: a\n---\n" ++
  "x: 1\nspring.profiles: a\nspring.profiles.include: b\n---\nx: 2\nspring.profiles: '!b'\n"

theorem load_activatingStream :
    ((start .standard .empty).load "app.yml" activatingStream).failure? = none ∧
      ((start .standard .empty).load "app.yml" activatingStream).environment.active =
        .ofList ["a", "b"] := by
  decide +kernel

/-- Adding the activating stream again leaves `a` and `b` active, and every value as it was. -/
theorem activatingStream_reloaded :
    ((start .standard .empty).load "app.yml" activatingStream).failure? = none ∧
      ∃ once again,
        once = ((start .standard .empty).load "app.yml" activatingStream).environment ∧
        again = once.load "app.yml" activatingStream ∧
        again.failure? = none ∧ again.environment.active = .ofList ["a", "b"] ∧
        ∀ later : ProfileSet,
          get? { again.environment with active := later } "x" =
            get? { once with active := later } "x" := by
  obtain ⟨hadded, hactive⟩ := load_activatingStream
  obtain ⟨hagain, hsame, -, hreads⟩ :=
    reload_affects_no_reading (start .standard .empty) "app.yml" activatingStream hadded
  exact ⟨hadded, _, _, rfl, rfl, hagain, hsame.trans hactive, fun later => ((hreads later).1 "x").1⟩

end Environment

end ProfileLayers
