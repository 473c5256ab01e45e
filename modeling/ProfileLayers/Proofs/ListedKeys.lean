/-
**Keys that are listed can be read.**

The keys of a document are texts of any kind, since a mapping may have any scalar as a key: with
dots and brackets, and without any character.  A document lists all of them.  Lookup answers each
with the value that stands beside it, except the key without characters, which it never answers; and
so do the layers of an environment, their snapshots, and the environment itself.

Main definitions:

* `ProfileLayers.Environment.Reads` — an environment answers and captures a key.

Main results:

* `ProfileLayers.Snapshot.exists_mem_entries_capture` — a snapshot has what the source lists;
* `ProfileLayers.Environment.exists_first_listing`, `ProfileLayers.Environment.reads_iff` — an
  environment answers from the first layer that lists the key, and captures what it lists;
* `ProfileLayers.listed_keys_can_be_read` — **each listed key that is not empty is answered and
  captured**;
* `ProfileLayers.empty_key_listed_without_answer` — the empty key can be listed, but not answered.
-/

import Mathlib.Data.List.Nodup
import ProfileLayers.Proofs.Agreement
import ProfileLayers.Proofs.Selection

set_option relaxedAutoImplicit false
set_option autoImplicit false

namespace ProfileLayers

/-- A snapshot has each key that the source lists, with the value that looking it up gives. -/
theorem Snapshot.exists_mem_entries_capture (active : ProfileSet) (s : Source) (key : String)
    (hlisted : key ∈ s.keys active) (hkey : key ≠ "") :
    ∃ value, s.get? active key = some value ∧
      (key, value) ∈ (capture active s).properties.entries := by
  obtain ⟨value, hvalue⟩ :=
    Option.isSome_iff_exists.1 ((s.isSome_get?_iff active key hkey).2 hlisted)
  refine ⟨value, hvalue, ?_⟩
  rw [entries_capture, List.mem_filterMap]
  exact ⟨key, hlisted, by rw [hvalue]; rfl⟩

namespace Environment

/-- A listed key is answered by the first layer that lists it. -/
theorem exists_first_listing (env : Environment) (key : String) (hlisted : key ∈ env.keys)
    (hkey : key ≠ "") :
    ∃ above layer below value, env.layers = above ++ layer :: below ∧
      (∀ s ∈ above, key ∉ s.keys env.active) ∧ key ∈ layer.keys env.active ∧
      layer.get? env.active key = some value ∧ env.get? key = some value := by
  obtain ⟨value, hvalue⟩ := Option.isSome_iff_exists.1 ((env.agree.isSome_iff key hkey).2 hlisted)
  obtain ⟨above, layer, below, hlayers, hlayer, habove⟩ := List.findSome?_eq_some_iff.1 hvalue
  refine ⟨above, layer, below, value, hlayers, fun s hs => ?_, ?_, hlayer, hvalue⟩
  · rw [← s.isSome_get?_iff env.active key hkey, habove s hs]
    exact Bool.false_ne_true
  · rw [← layer.isSome_get?_iff env.active key hkey, hlayer]
    rfl

/-- An environment has a key: it answers it, with the value of the first layer that lists the key,
and the snapshot of every layer that lists the key has it, with the value of that layer. -/
structure Reads (env : Environment) (key : String) : Prop where
  contains : env.contains key = true
  answer : ∃ above layer below value, env.layers = above ++ layer :: below ∧
    (∀ s ∈ above, key ∉ s.keys env.active) ∧ key ∈ layer.keys env.active ∧
    layer.get? env.active key = some value ∧ env.get? key = some value
  captured : ∀ (i : Nat) (layer : Source), env.layers[i]? = some layer →
    key ∈ layer.keys env.active →
      ∃ snapshot value, env.snapshots[i]? = some snapshot ∧ snapshot.name = layer.name ∧
        layer.get? env.active key = some value ∧ (key, value) ∈ snapshot.properties.entries

theorem reads_of_mem_keys (env : Environment) (key : String) (hlisted : key ∈ env.keys)
    (hkey : key ≠ "") : env.Reads key where
  contains := (env.agree.contains_iff key).2 ((env.agree.isSome_iff key hkey).2 hlisted)
  answer := env.exists_first_listing key hlisted hkey
  captured i layer hlayer hin := by
    obtain ⟨value, hvalue, hmem⟩ :=
      Snapshot.exists_mem_entries_capture env.active layer key hin hkey
    have hsnapshot : env.snapshots[i]? = some (.capture env.active layer) := by
      rw [snapshots, List.getElem?_map, hlayer]
      rfl
    exact ⟨_, value, hsnapshot, rfl, hvalue, hmem⟩

theorem reads_iff (env : Environment) (key : String) :
    env.Reads key ↔ key ∈ env.keys ∧ key ≠ "" := by
  constructor
  · intro h
    have hsome := (env.agree.contains_iff key).1 h.contains
    have hkey : key ≠ "" := by
      rintro rfl
      rw [env.agree.get?_empty_key] at hsome
      exact Bool.noConfusion hsome
    exact ⟨(env.agree.isSome_iff key hkey).1 hsome, hkey⟩
  · exact fun h => env.reads_of_mem_keys key h.1 h.2

/-- No snapshot has the empty key. -/
theorem empty_key_not_captured (env : Environment) :
    ∀ snapshot ∈ env.snapshots, "" ∉ snapshot.properties.keys := by
  intro snapshot hsnapshot
  obtain ⟨layer, -, rfl⟩ := List.mem_map.1 hsnapshot
  rw [(Snapshot.holds_capture env.active layer).keys_eq, List.mem_filter]
  exact fun h => absurd h.2 (by decide)

end Environment

/-- **Each listed key that is not empty can be read.**  Every document of a stream answers such a
key with the value that it lists beside it, and nothing else.  So an environment, whatever was
loaded into it, reads such keys that it lists, and no others.  The empty key is neither answered nor
captured. -/
theorem listed_keys_can_be_read :
    (∀ (source text : String) (documents : List Document),
      (Document.readAll source text).result = .ok documents → ∀ d ∈ documents, ∀ key value,
        d.properties.get? key = some value ↔ (key, value) ∈ d.properties.entries ∧ key ≠ "") ∧
    ∀ env : Environment, (∀ key, env.Reads key ↔ key ∈ env.keys ∧ key ≠ "") ∧
      env.contains "" = false ∧ ∀ snapshot ∈ env.snapshots, "" ∉ snapshot.properties.keys := by
  constructor
  · intro source text documents _ d _ key value
    exact d.properties.get?_eq_some_iff key value
  · intro env
    refine ⟨env.reads_iff, ?_, env.empty_key_not_captured⟩
    rw [Environment.contains, env.agree.get?_empty_key]
    rfl

/-- A stream with keys in brackets, with a dot and without characters.  It activates `p`, whose
document repeats one of its keys. -/
def oddKeysStream : String :=
  "'[x]': 1\n'':\n  '':\n    a.b: 2\nspring.profiles.active: p\n---\n" ++
    "spring.profiles: p\n'': 3\n'[x]': 4\n"

/-- The stream with odd keys is added to an empty environment. -/
def oddKeysAddition : Addition := (Environment.start .standard .empty).load "odd.yml" oddKeysStream

theorem entries_oddKeysStream :
    (Document.readAll "odd.yml" oddKeysStream).result.map
        (fun documents => documents.map fun d => d.properties.entries) =
      .ok [[("[x]", .int 1), ("a.b", .int 2)], [("", .int 3), ("[x]", .int 4)]] := by
  decide +kernel

theorem keys_oddKeysAddition :
    oddKeysAddition.failure? = none ∧ oddKeysAddition.environment.keys = ["", "[x]", "a.b"] := by
  decide +kernel

/-- The odd keys of the stream are answered by its documents, and after it was loaded they are read
by the environment. -/
theorem oddKeysStream_can_be_read :
    (∃ first second, (Document.readAll "odd.yml" oddKeysStream).result = .ok [first, second] ∧
      first.properties.get? "a.b" = some (.int 2) ∧
      second.properties.get? "[x]" = some (.int 4)) ∧
    oddKeysAddition.failure? = none ∧ oddKeysAddition.environment.Reads "[x]" ∧
      oddKeysAddition.environment.Reads "a.b" ∧ "" ∈ oddKeysAddition.environment.keys ∧
      oddKeysAddition.environment.contains "" = false := by
  obtain ⟨documents, hread, hdocuments⟩ := (except_map_eq_ok _ _ _).1 entries_oddKeysStream
  obtain ⟨first, rest, rfl, hfirst, hrest⟩ := List.map_eq_cons_iff.1 hdocuments
  obtain ⟨second, others, rfl, hsecond, hothers⟩ := List.map_eq_cons_iff.1 hrest
  cases List.map_eq_nil_iff.1 hothers
  obtain ⟨hadded, hlisted⟩ := keys_oddKeysAddition
  have hanswers := listed_keys_can_be_read.1 "odd.yml" oddKeysStream _ hread
  obtain ⟨hreads, hempty, -⟩ := listed_keys_can_be_read.2 oddKeysAddition.environment
  refine ⟨⟨first, second, hread, ?_, ?_⟩, hadded, (hreads "[x]").2 ?_, (hreads "a.b").2 ?_, ?_,
    hempty⟩
  · exact (hanswers first (by simp) "a.b" (.int 2)).2 ⟨by simp [hfirst], by decide⟩
  · exact (hanswers second (by simp) "[x]" (.int 4)).2 ⟨by simp [hsecond], by decide⟩
  · simp [hlisted]
  · simp [hlisted]
  · simp [hlisted]

/-- **The empty key is listed without an answer**: by a document that has it, and by an environment
that the document was loaded into, whose snapshots do not have it. -/
theorem empty_key_listed_without_answer :
    (Document.readAll "application.yml" "'': 1\n").result.map
        (fun documents => documents.map fun d => (d.properties.entries, d.properties.get? "")) =
      .ok [([("", .int 1)], none)] ∧
    ((Environment.start .standard .empty).load "application.yml" "'': 1\n").failure? = none ∧
    ((Environment.start .standard .empty).load "application.yml" "'': 1\n").environment.keys =
      [""] ∧
    ((Environment.start .standard .empty).load "application.yml" "'': 1\n").environment.contains
      "" = false ∧
    ((Environment.start .standard .empty).load "application.yml" "'': 1\n").environment.snapshots =
      [⟨"application.yml", .empty⟩] := by
  decide +kernel

end ProfileLayers
