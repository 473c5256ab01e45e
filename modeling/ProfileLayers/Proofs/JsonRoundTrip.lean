/-
**JSON that is read back.**

A map is written as an object with one member for each entry, and reading an object inserts its
members one after another.  Reading goes by the first character of a value, so each value is
recognised by what it begins with; only a number has no end of its own, and is ended by the comma or
the brace behind it.  Hence whatever was written without floating point numbers is read back, with
the kinds of its values, and members that repeat a key are merged as by insertion.

Main definitions:

* `ProfileLayers.Value.isExact` — the values other than floating point numbers;
* `ProfileLayers.Json.EndsMember` — what comes after a member of an object.

Main results:

* `ProfileLayers.Json.readValue_writeValue` — a value is read back;
* `ProfileLayers.Json.readMap_writeMap` — so are the members of an object, in their order;
* `ProfileLayers.Snapshot.ofJson?_json` — so is a snapshot;
* `ProfileLayers.written_json_is_read_back` — **what was written is read back as if inserted**.
-/

import ProfileLayers.Proofs.FirstOccurrence
import ProfileLayers.Snapshot

set_option relaxedAutoImplicit false
set_option autoImplicit false

namespace ProfileLayers

/-- Anything but a floating point number. -/
def Value.isExact : Value → Bool
  | .float _ => false
  | _ => true

namespace Json

/-! ### Tokens -/

theorem skipSpace_cons (c : Char) (cs : List Char) (h : isSpace c = false) :
    skipSpace (c :: cs) = c :: cs := by
  simp [skipSpace, h]

theorem expect?_cons (c d : Char) (cs : List Char) (h : isSpace d = false) :
    expect? c (d :: cs) = if c = d then some cs else none := by
  rw [expect?, skipSpace_cons d cs h]
  by_cases hc : c = d <;> simp [afterWord?, hc]

theorem quote_append (s : String) (rest : List Char) :
    quote s ++ rest = '\x22' :: (encode s.toList ++ '\x22' :: rest) := by
  simp [quote]

theorem readString_quote (s : String) (rest : List Char) :
    readString (quote s ++ rest) = some (s, rest) := by
  rw [quote_append, readString, expect?_cons _ _ _ (by decide), if_pos rfl]
  simp [decode_encode]

/-! ### Integers -/

/-- What comes after a member of an object: a comma or the closing brace. -/
def EndsMember (rest : List Char) : Prop :=
  ∃ c cs, rest = c :: cs ∧ (c = ',' ∨ c = '\x7d')

/-- The characters of a natural number that ends a member are read as it without a fraction and
without an exponent. -/
theorem readNumberText_natural (negative : Bool) (n : Nat) (rest : List Char)
    (hrest : EndsMember rest) :
    readNumberText ((if negative then ['-'] else []) ++ n.repr.toList ++ rest) =
      some (⟨negative, n.repr.toList, none, none⟩, rest) := by
  obtain ⟨c, cs, rfl, hc⟩ := hrest
  have hend : ∀ d, (c :: cs).head? = some d → d.isDigit = false := by
    rintro d ⟨⟩
    rcases hc with rfl | rfl <;> decide
  have hspan := spanDigits_append n.repr.toList (c :: cs) (isDigit_of_mem_repr n) hend
  have hwhole : (n.repr.toList.isEmpty ||
      (n.repr.toList.head? == some '0' && n.repr.toList.length != 1)) = false := by
    rcases Nat.eq_zero_or_pos n with rfl | hpos
    · decide
    · have hempty : n.repr.toList.isEmpty = false :=
        List.isEmpty_eq_false_iff.2 (repr_toList_ne_nil n)
      have hhead : (n.repr.toList.head? == some '0') = false :=
        beq_eq_false_iff_ne.2 (head?_repr_ne_zero n hpos)
      rw [hempty, hhead]
      rfl
  have hfraction : readFraction (c :: cs) = some (none, c :: cs) := by
    rcases hc with rfl | rfl <;> rfl
  have hexponent : readExponent (c :: cs) = some (none, c :: cs) := by
    rcases hc with rfl | rfl <;> rfl
  -- without a sign the text is not taken for a negative number
  have hsign : ∀ cs', n.repr.toList ++ c :: cs ≠ '-' :: cs' := by
    intro cs' h
    obtain ⟨d, ds, hds⟩ := List.exists_cons_of_ne_nil (repr_toList_ne_nil n)
    rw [hds] at h
    cases h
    exact repr_ne_cons n '-' rfl ds hds
  cases negative with
  | true =>
      simp only [readNumberText, if_true, List.cons_append, List.nil_append, hspan, hwhole,
        hfraction, Option.bind_eq_bind, Option.bind_some, hexponent, Bool.false_eq_true, if_false]
      rfl
  | false =>
      simp only [readNumberText, List.nil_append, hspan, hwhole, hfraction, Option.bind_eq_bind,
        Option.bind_some, hexponent, Bool.false_eq_true, if_false]
      rfl

/-- The value of the digits of an integer of 64 bits is this integer. -/
theorem value?_of_int64 (i : Int64) :
    NumberText.value? ⟨decide (i.toInt < 0), i.toInt.natAbs.repr.toList, none, none⟩ =
      some (.int i) := by
  have hvalue : (if decide (i.toInt < 0) = true then -(i.toInt.natAbs : Int) else i.toInt.natAbs) =
      i.toInt := by
    by_cases h : i.toInt < 0
    · rw [decide_eq_true h, if_pos rfl]
      omega
    · rw [decide_eq_false h, if_neg Bool.false_ne_true]
      omega
  have hzero : (decide (i.toInt < 0) && i.toInt.natAbs == 0) = false := by
    by_cases h : i.toInt < 0
    · have hne : i.toInt.natAbs ≠ 0 := by omega
      simp [hne]
    · simp [h]
  have hwidth : isInt64 i.toInt = true := by
    have hlow := i.le_toInt
    have hhigh := i.toInt_lt
    rw [isInt64_iff]
    omega
  simp only [NumberText.value?, ofDigitChars_repr, hvalue, hzero, hwidth, Option.isNone_none,
    Bool.not_false, Bool.and_true, if_true, Int64.ofInt_toInt]

theorem readValue_int (i : Int64) (rest : List Char) (hrest : EndsMember rest) :
    readValue (i.toInt.repr.toList ++ rest) = some (.int i, rest) := by
  have hnumber := readNumberText_natural (decide (i.toInt < 0)) i.toInt.natAbs rest hrest
  rw [← toList_intRepr] at hnumber
  obtain ⟨c, cs, hcs, hc⟩ := exists_cons_intRepr i.toInt
  have hother : c ≠ 'n' ∧ c ≠ 't' ∧ c ≠ 'f' ∧ c ≠ '\x22' := by
    refine ⟨?_, ?_, ?_, ?_⟩ <;> rintro rfl <;> rcases hc with hc | hc <;>
      exact absurd hc (by decide)
  rw [hcs, List.cons_append] at hnumber ⊢
  simp only [readValue, hother, if_false, hnumber, Option.bind_eq_bind, Option.bind_some,
    value?_of_int64]
  rfl

/-! ### Values and members -/

/-- A value begins with no white space. -/
theorem exists_cons_writeValue (v : Value) (hexact : v.isExact = true) :
    ∃ c cs, writeValue v = c :: cs ∧ isSpace c = false := by
  cases v with
  | null => exact ⟨'n', "ull".toList, rfl, rfl⟩
  | bool b =>
      cases b with
      | true => exact ⟨'t', "rue".toList, rfl, rfl⟩
      | false => exact ⟨'f', "alse".toList, rfl, rfl⟩
  | int i =>
      obtain ⟨c, cs, hcs, hc⟩ := exists_cons_intRepr i.toInt
      refine ⟨c, cs, hcs, ?_⟩
      rcases hc with rfl | hdigit
      · rfl
      · simp only [isSpace, Bool.or_eq_false_iff, beq_eq_false_iff_ne]
        refine ⟨⟨⟨?_, ?_⟩, ?_⟩, ?_⟩ <;> rintro rfl <;> exact absurd hdigit (by decide)
  | float x => exact absurd hexact Bool.false_ne_true
  | str s => exact ⟨'\x22', _, rfl, rfl⟩

/-- A value that ends a member is read back, with its kind. -/
theorem readValue_writeValue (v : Value) (hexact : v.isExact = true) (rest : List Char)
    (hrest : EndsMember rest) : readValue (writeValue v ++ rest) = some (v, rest) := by
  cases v with
  | null => simp [writeValue, readValue, afterWord?]
  | bool b => cases b <;> simp [writeValue, readValue, afterWord?]
  | int i => exact readValue_int i rest hrest
  | float x => exact absurd hexact Bool.false_ne_true
  | str s =>
      rw [writeValue, quote_append]
      simp [readValue, decode_encode]

/-- One member is read, and what comes after it decides how to go on. -/
theorem readMembers_writeMember (fuel : Nat) (key : String) (v : Value) (hexact : v.isExact = true)
    (c : Char) (rest : List Char) (hc : c = ',' ∨ c = '\x7d') :
    readMembers (fuel + 1) (writeMember key v ++ c :: rest) =
      if c = '\x7d' then some ([(key, v)], rest)
      else (readMembers fuel rest).map fun (members, rest) => ((key, v) :: members, rest) := by
  have hvalue := readValue_writeValue v hexact (c :: rest) ⟨c, rest, rfl, hc⟩
  obtain ⟨d, ds, hds, hd⟩ := exists_cons_writeValue v hexact
  have hspace : isSpace c = false := by rcases hc with rfl | rfl <;> rfl
  rw [hds, List.cons_append] at hvalue
  rw [writeMember, hds, List.append_assoc]
  simp only [readMembers, readString_quote, List.cons_append, Option.bind_eq_bind, Option.bind_some,
    expect?_cons _ _ _ (show isSpace ':' = false from rfl), if_true, skipSpace_cons d _ hd, hvalue,
    skipSpace_cons c _ hspace]
  rcases hc with rfl | rfl
  · cases readMembers fuel rest <;> rfl
  · rfl

/-- The members of an object are read back, in their order. -/
theorem readMembers_writeMembers (members : List (String × Value)) (hsome : members ≠ [])
    (hexact : ∀ e ∈ members, e.2.isExact = true) (fuel : Nat) (hfuel : members.length ≤ fuel)
    (rest : List Char) :
    readMembers fuel (writeMembers members ++ '\x7d' :: rest) = some (members, rest) := by
  induction members generalizing fuel with
  | nil => exact absurd rfl hsome
  | cons e members ih =>
      obtain ⟨key, v⟩ := e
      obtain ⟨fuel, rfl⟩ : ∃ more, fuel = more + 1 := ⟨fuel - 1, by simp at hfuel; omega⟩
      have hv := hexact (key, v) List.mem_cons_self
      cases members with
      | nil =>
          rw [writeMembers, readMembers_writeMember fuel key v hv _ rest (.inr rfl), if_pos rfl]
      | cons next members =>
          have hlater := ih (List.cons_ne_nil next members)
            (fun e he => hexact e (List.mem_cons_of_mem _ he)) fuel (by simp at hfuel ⊢; omega)
          rw [writeMembers, List.append_assoc, List.cons_append,
            readMembers_writeMember fuel key v hv _ _ (.inl rfl), if_neg (by decide), hlater]
          · rfl
          · exact List.cons_ne_nil next members

theorem length_le_writeMembers (members : List (String × Value)) :
    members.length ≤ (writeMembers members).length := by
  induction members with
  | nil => exact Nat.le_refl 0
  | cons e members ih =>
      obtain ⟨key, v⟩ := e
      have hmember : 0 < (writeMember key v).length := by simp [writeMember, quote]
      cases members with
      | nil => rw [writeMembers]; exact hmember
      | cons next members =>
          rw [writeMembers]
          · simp only [List.length_append, List.length_cons] at ih ⊢
            omega
          · exact List.cons_ne_nil next members

/-- An object is read back as the list of its members. -/
theorem readMap_writeMap (members : List (String × Value))
    (hexact : ∀ e ∈ members, e.2.isExact = true) (rest : List Char) :
    readMap (writeMap members ++ rest) = some (members, rest) := by
  have hopen : writeMap members ++ rest = '\x7b' :: (writeMembers members ++ '\x7d' :: rest) := by
    simp [writeMap]
  rw [hopen, readMap, expect?_cons _ _ _ (by decide), if_pos rfl]
  cases members with
  | nil => simp [writeMembers, expect?_cons _ _ _ (show isSpace '\x7d' = false from rfl)]
  | cons e members =>
      obtain ⟨cs, hcs⟩ : ∃ cs, writeMembers (e :: members) = '\x22' :: cs := by
        cases members <;> exact ⟨_, rfl⟩
      have hfuel := length_le_writeMembers (e :: members)
      have hmembers := readMembers_writeMembers (e :: members) (List.cons_ne_nil e members) hexact
        ((writeMembers (e :: members) ++ '\x7d' :: rest).length + 1)
        (by rw [List.length_append]; omega) rest
      rw [hcs, List.cons_append] at hmembers ⊢
      simp only [Option.bind_eq_bind, Option.bind_some,
        expect?_cons '\x7d' _ _ (show isSpace '\x22' = false from rfl), Char.reduceEq, if_false,
        hmembers]

end Json

/-! ### Maps -/

/-- The text of an object is read as the map of its members. -/
theorem PropertyMap.ofJson?_writeMap (members : List (String × Value))
    (hexact : ∀ e ∈ members, e.2.isExact = true) :
    ofJson? (String.ofList (Json.writeMap members)) = some (ofList members) := by
  have hread := Json.readMap_writeMap members hexact []
  rw [List.append_nil] at hread
  rw [ofJson?, String.toList_ofList, hread]
  rfl

theorem PropertyMap.ofJson?_json (m : PropertyMap) (hexact : ∀ e ∈ m.entries, e.2.isExact = true) :
    ofJson? m.json = some m := by
  rw [json, ofJson?_writeMap m.entries hexact, ofList_entries]

/-! ### Snapshots -/

namespace Snapshot

/-- One member of a snapshot is read, and what comes after it decides how to go on. -/
theorem readMembers_cons (fuel : Nat) (before after : Partial) (key : String)
    (cs : List Char) (c : Char) (rest : List Char) (hspace : Json.isSpace c = false)
    (hmember : readMember before key cs = some (after, c :: rest)) :
    readMembers (fuel + 1) before (Json.quote key ++ ':' :: cs) =
      if c = '\x7d' then some (after, rest)
      else if c = ',' then readMembers fuel after rest else none := by
  simp only [readMembers, Json.readString_quote, Option.bind_eq_bind, Option.bind_some,
    Json.expect?_cons _ _ _ (show Json.isSpace ':' = false from rfl), if_true, hmember,
    Json.skipSpace_cons c rest hspace]
  rfl

/-- A snapshot is written as an object with its name and its properties. -/
theorem writeChars_eq (s : Snapshot) :
    s.writeChars = '\x7b' :: (Json.quote "name" ++ ':' :: (Json.quote s.name ++ ',' ::
      (Json.quote "source" ++ ':' :: (Json.writeMap s.properties.entries ++ ['\x7d'])))) := by
  -- the two literals are replaced by unification, since `rw` would evaluate one to compare it with
  -- the other
  have hparts : ∀ front middle : List Char, front = '\x7b' :: (Json.quote "name" ++ [':']) →
      middle = ',' :: (Json.quote "source" ++ [':']) →
      front ++ Json.quote s.name ++ middle ++ Json.writeMap s.properties.entries ++ ['\x7d'] =
        '\x7b' :: (Json.quote "name" ++ ':' :: (Json.quote s.name ++ ',' ::
          (Json.quote "source" ++ ':' :: (Json.writeMap s.properties.entries ++ ['\x7d'])))) := by
    rintro _ _ rfl rfl
    simp only [List.cons_append, List.append_assoc, List.nil_append]
  unfold writeChars
  exact hparts _ _ (by decide +kernel) (by decide +kernel)

theorem ofJson?_json (s : Snapshot) (hexact : ∀ e ∈ s.properties.entries, e.2.isExact = true) :
    ofJson? s.json = some s := by
  have hproperties := Json.readMap_writeMap s.properties.entries hexact ['\x7d']
  have hname : readMember ⟨none, none⟩ "name" (Json.quote s.name ++ ',' ::
      (Json.quote "source" ++ ':' :: (Json.writeMap s.properties.entries ++ ['\x7d']))) =
      some (⟨some s.name, none⟩, ',' ::
        (Json.quote "source" ++ ':' :: (Json.writeMap s.properties.entries ++ ['\x7d']))) := by
    simp [readMember, Json.readString_quote]
  have hsource : readMember ⟨some s.name, none⟩ "source"
      (Json.writeMap s.properties.entries ++ ['\x7d']) =
      some (⟨some s.name, some s.properties⟩, ['\x7d']) := by
    simp [readMember, hproperties, PropertyMap.ofList_entries]
  obtain ⟨tail, htail⟩ : ∃ tail, s.writeChars = '\x7b' :: '\x22' :: tail := by
    rw [writeChars_eq]
    exact ⟨_, rfl⟩
  have hmembers : readMembers (('\x22' :: tail).length + 1) ⟨none, none⟩ ('\x22' :: tail) =
      some (⟨some s.name, some s.properties⟩, []) := by
    have hchars : '\x22' :: tail = Json.quote "name" ++ ':' :: (Json.quote s.name ++ ',' ::
        (Json.quote "source" ++ ':' :: (Json.writeMap s.properties.entries ++ ['\x7d']))) := by
      have h := s.writeChars_eq
      rw [htail] at h
      exact (List.cons.inj h).2
    rw [List.length_cons, hchars, readMembers_cons _ _ _ "name" _ _ _ (by decide) hname,
      if_neg (by decide), if_pos rfl, readMembers_cons _ _ _ "source" _ _ _ (by decide) hsource,
      if_pos rfl]
  rw [ofJson?, json, String.toList_ofList, htail, Json.skipSpace_cons _ _ (by decide)]
  simp only [if_true, readObject, Char.reduceEq, if_false, hmembers, Partial.complete?,
    Json.expect?_cons '\x7d' _ _ (show Json.isSpace '\x22' = false from rfl), Option.bind_eq_bind,
    Option.bind_some]
  rfl

end Snapshot

/-- **What was written is read back as if inserted.**  The text of an object whose members have no
floating point numbers as values is read as the map into which these members are inserted one after
another, so that a repeated key stands where it first occurs and has the value of its last member.
In particular every map and every snapshot without floating point numbers is read back from its
text, with its order and with the kinds of its values. -/
theorem written_json_is_read_back :
    (∀ members : List (String × Value), (∀ e ∈ members, e.2.isExact = true) →
      ∃ m, PropertyMap.ofJson? (String.ofList (Json.writeMap members)) = some m ∧
        m = .ofList members ∧ m.keys = (Entries.keys members).eraseDups ∧
        ∀ key, m.find? key = Entries.find? key members.reverse) ∧
    (∀ m : PropertyMap, (∀ e ∈ m.entries, e.2.isExact = true) →
      PropertyMap.ofJson? m.json = some m) ∧
    ∀ s : Snapshot, (∀ e ∈ s.properties.entries, e.2.isExact = true) →
      Snapshot.ofJson? s.json = some s := by
  refine ⟨?_, PropertyMap.ofJson?_json, Snapshot.ofJson?_json⟩
  intro members hexact
  exact ⟨_, PropertyMap.ofJson?_writeMap members hexact, rfl, PropertyMap.keys_ofList members,
    PropertyMap.find?_ofList members⟩

/-- Members with the empty key, a repeated key, escapes of all kinds and the ends of the range of
integers. -/
def intricateMembers : List (String × Value) :=
  [("", .int Int64.minValue), ("a\x22\\\n", .str "\x01\t/é🚀"), ("", .null), ("b", .bool false),
    ("c", .int Int64.maxValue)]

/-- The intricate members are read back from their text, the empty key at its first place and with
its last value, and the snapshot of their map from its own. -/
theorem intricateMembers_read_back :
    (∀ e ∈ intricateMembers, e.2.isExact = true) ∧
      (∃ m, PropertyMap.ofJson? (String.ofList (Json.writeMap intricateMembers)) = some m ∧
        m.keys = ["", "a\x22\\\n", "b", "c"] ∧ m.find? "" = some .null) ∧
      PropertyMap.ofJson? (PropertyMap.ofList intricateMembers).json =
        some (.ofList intricateMembers) ∧
      Snapshot.ofJson? (Snapshot.json ⟨"YAML [dev]", .ofList intricateMembers⟩) =
        some ⟨"YAML [dev]", .ofList intricateMembers⟩ := by
  have hexact : ∀ e ∈ intricateMembers, e.2.isExact = true := by decide
  have hmap : ∀ e ∈ (PropertyMap.ofList intricateMembers).entries, e.2.isExact = true := by decide
  obtain ⟨hmembers, hmaps, hsnapshots⟩ := written_json_is_read_back
  obtain ⟨m, hread, -, hkeys, hfind⟩ := hmembers intricateMembers hexact
  exact ⟨hexact, ⟨m, hread, hkeys.trans (by decide), (hfind "").trans (by decide)⟩, hmaps _ hmap,
    hsnapshots ⟨"YAML [dev]", .ofList intricateMembers⟩ hmap⟩

end ProfileLayers
