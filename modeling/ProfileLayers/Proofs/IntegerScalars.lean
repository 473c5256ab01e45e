/-
**Integers keep their digits.**

An integer of at most 128 bits that is written as a plain scalar, in decimal and without anything to
spare, is read as itself if it has 64 bits, and else as the text of its digits.  What is written in
digits might be taken for a number of another base, for a padded text, for a null or a truth value,
or for a floating point number; none of this happens, and the widths meet without a gap.  So the
property that the scalar comes to has the digits of the integer as its text.

Main results:

* `ProfileLayers.Yaml.integer?_intRepr` — an integer is read back from its digits;
* `ProfileLayers.Yaml.ofPlain_intRepr` — and so is its node;
* `ProfileLayers.Yaml.text_leaf_ofInteger` — the node of an integer is shown by its digits;
* `ProfileLayers.Yaml.integer_scalars_lose_no_digit` — **no integer scalar loses a digit**.
-/

import ProfileLayers.Proofs.LoneScalar
import ProfileLayers.Proofs.WrittenPlaces

set_option relaxedAutoImplicit false
set_option autoImplicit false

namespace ProfileLayers.Yaml

/-! ### Reading digits -/

/-- The digits of a number are not taken for those of another base. -/
theorem unsigned?_repr (k : Nat) : unsigned? k.repr.toList = some k := by
  have hletter : ∀ (c : Char) (rest : List Char), c.isDigit = false →
      k.repr.toList ≠ '0' :: c :: rest :=
    fun c rest hc h => not_mem_repr k c hc (by simp [h])
  rw [unsigned?, numeral?_repr]
  · exact fun rest => hletter 'x' rest (by decide)
  · exact fun rest => hletter 'o' rest (by decide)
  · exact fun rest => hletter 'b' rest (by decide)

/-- Only nothing itself is written with a zero at the front. -/
theorem isPaddedNumeral_intRepr (n : Int) : isPaddedNumeral n.repr.toList = false := by
  by_cases hnone : n = 0
  · rw [hnone]
    rfl
  · have hzero : ∀ rest, n.natAbs.repr.toList ≠ '0' :: rest := fun rest h =>
      head?_repr_ne_zero n.natAbs (Int.natAbs_pos.2 hnone) (by rw [h]; rfl)
    rcases intRepr_cases n with ⟨-, hn⟩ | ⟨-, hn⟩
    · rw [hn, isPaddedNumeral]
      exact hzero
    · rw [hn, isPaddedNumeral]
      · exact repr_ne_cons n.natAbs '-' (by decide)
      · exact repr_ne_cons n.natAbs '+' (by decide)
      · exact hzero

section Widths

variable (n : Int) (hlow : -(powerOfTwo 127 : Int) ≤ n) (hhigh : n < powerOfTwo 128)
include hlow hhigh

/-- An integer of 128 bits is read back from its digits. -/
theorem integer?_intRepr : integer? n.repr.toList = some n := by
  have hpadded := isPaddedNumeral_intRepr n
  rcases intRepr_cases n with ⟨hneg, hn⟩ | ⟨hpos, hn⟩
  · have hsize : n.natAbs ≤ powerOfTwo 127 := by omega
    have hvalue : -(n.natAbs : Int) = n := by omega
    rw [hn] at hpadded ⊢
    rw [integer?, hpadded, if_neg Bool.false_ne_true, unsigned?_repr, Option.bind_some,
      if_pos hsize, hvalue]
  · have hsize : n.natAbs < powerOfTwo 128 := by omega
    have hvalue : (n.natAbs : Int) = n := by omega
    rw [hn] at hpadded ⊢
    rw [integer?, hpadded, if_neg Bool.false_ne_true, unsigned?_repr, Option.bind_some,
      if_pos hsize, hvalue]
    · exact repr_ne_cons n.natAbs '-' (by decide)
    · exact repr_ne_cons n.natAbs '+' (by decide)

/-- The digits of an integer are a scalar that is read as this integer. -/
theorem ofPlain_intRepr : Node.ofPlain n.repr.toList = .ofInteger n := by
  obtain ⟨c, cs, hcs, hc⟩ := exists_cons_intRepr n
  -- nulls and truth values begin with other characters
  have hne : ∀ d : Char, d ≠ '-' → d.isDigit = false → c ≠ d := by
    rintro d hsign hdigit rfl
    simp [hsign, hdigit] at hc
  have hnull : isNullWord (c :: cs) = false := by simp [isNullWord, hne]
  have htruth : truth? (c :: cs) = none := by simp [truth?, hne]
  have hinteger := integer?_intRepr n hlow hhigh
  rw [hcs] at hinteger ⊢
  simp only [Node.ofPlain, List.isEmpty_cons, hnull, htruth, hinteger, Bool.or_self,
    Bool.false_eq_true, if_false]

end Widths

/-! ### The node of an integer -/

/-- An integer of 64 bits is a node of its own. -/
theorem exists_ofInteger_eq_int (n : Int) (hlow : -(powerOfTwo 63 : Int) ≤ n)
    (hhigh : n < powerOfTwo 63) : ∃ i : Int64, i.toInt = n ∧ Node.ofInteger n = .int i := by
  have hwidth : isInt64 n = true := (isInt64_iff_powers n).2 ⟨hlow, hhigh⟩
  exact ⟨Int64.ofInt n, Int64.toInt_ofInt_of_le hlow hhigh, by rw [Node.ofInteger, if_pos hwidth]⟩

/-- A wider integer is the text of its digits. -/
theorem ofInteger_eq_str (n : Int) (h : ¬ (-(powerOfTwo 63 : Int) ≤ n ∧ n < powerOfTwo 63)) :
    Node.ofInteger n = .str n.repr := by
  have hwidth : ¬ isInt64 n = true := fun hint => h ((isInt64_iff_powers n).1 hint)
  rw [Node.ofInteger, if_neg hwidth]

/-- Either way it is a scalar, and shown by the digits of the integer. -/
theorem ofInteger_cases (n : Int) :
    (Node.ofInteger n).isScalar = true ∧ Node.ofInteger n ≠ .null ∧
      (Node.ofInteger n).leaf.text = n.repr := by
  by_cases h : -(powerOfTwo 63 : Int) ≤ n ∧ n < powerOfTwo 63
  · obtain ⟨i, hi, hnode⟩ := exists_ofInteger_eq_int n h.1 h.2
    rw [hnode]
    exact ⟨rfl, nofun, congrArg Int.repr hi⟩
  · rw [ofInteger_eq_str n h]
    exact ⟨rfl, nofun, rfl⟩

/-- An integer alone is a word. -/
theorem isLoneWord_intRepr (n : Int) : IsLoneWord n.repr.toList := by
  obtain ⟨d, ds, hds⟩ := List.exists_cons_of_ne_nil (repr_toList_ne_nil n.natAbs)
  have hdigits : ∀ c ∈ d :: ds, c.isAlphanum = true := fun c hc => by
    rw [← hds] at hc
    simp [Char.isAlphanum, isDigit_of_mem_repr n.natAbs c hc]
  obtain ⟨hd, hrest⟩ := List.forall_mem_cons.1 hdigits
  have hwords : ∀ c ∈ ds, isWordChar c = true :=
    fun c hc => isWordChar_of_isAlphanum c (hrest c hc)
  rcases intRepr_cases n with ⟨-, hn⟩ | ⟨-, hn⟩
  · rw [hn, hds]
    exact .hyphened hd hwords
  · rw [hn, hds]
    exact .plain hd hwords

/-- **No integer scalar loses a digit.**  An integer of at most 128 bits is read as one node: itself
if it has 64 bits, and else the text of its digits; the text of either has all of them.  This node
is the whole stream where nothing but the digits is written, with white space around them, and its
only property.  It stands wherever the digits are written as a plain scalar in a document of any
stream that can be read, and if no key leads there, it is the property at the path of its place. -/
theorem integer_scalars_lose_no_digit (n : Int) (hlow : -(powerOfTwo 127 : Int) ≤ n)
    (hhigh : n < powerOfTwo 128) :
    ∃ node : Node,
      (-(powerOfTwo 63 : Int) ≤ n ∧ n < powerOfTwo 63 →
        ∃ i : Int64, i.toInt = n ∧ node = .int i) ∧
      (¬ (-(powerOfTwo 63 : Int) ≤ n ∧ n < powerOfTwo 63) → node = .str n.repr) ∧
      node.leaf.text = n.repr ∧
      (∀ front back : List Char, (∀ c ∈ front, c = ' ' ∨ c = '\n') →
        (∀ c ∈ back, isGap c = true ∨ isBreak c = true) →
          readStream (String.ofList (front ++ (n.repr.toList ++ back))) = ⟨[node], none⟩) ∧
      (∀ source, (flatten source node).result = .ok (.ofList [(documentKey, node.leaf)])) ∧
      ∀ (text : String) (i : Nat) (built : Builder), (readStream text).fault? = none →
        (writtenDocuments text)[i]? = some built →
        ∃ document : Node, (readStream text).documents[i]? = some document ∧
          ∀ steps : List Step, built.plainAt? steps = some n.repr.toList →
            document.at? steps = some node ∧
            ((∀ step ∈ steps, step.isKey = false) → document.Shows steps node) := by
  obtain ⟨hscalar, hnull, htext⟩ := ofInteger_cases n
  have hplain := ofPlain_intRepr n hlow hhigh
  refine ⟨.ofInteger n, fun h => exists_ofInteger_eq_int n h.1 h.2, ofInteger_eq_str n, htext,
    fun front back hfront hback => ?_,
    fun source => result_flatten_of_isScalar source hscalar hnull,
    fun text i built hfault hbuilt => ?_⟩
  · rw [readStream_lone front _ back hfront (isLoneWord_intRepr n) hback, hplain]
  · obtain ⟨document, hdocument, hfinish⟩ := exists_document_of_written hfault hbuilt
    refine ⟨document, hdocument, fun steps hsteps => ?_⟩
    have hat := at?_of_plainAt? hfinish hsteps
    rw [hplain] at hat
    exact ⟨hat, fun hvalues => shows_of_at? hscalar hnull hvalues hat⟩

/-- Integers at two limits, the lesser of them with an alias. -/
def wideIntegers : String :=
  "- &least -9223372036854775808\n" ++
    "- ids: [7, 340282366920938463463374607431768211455]\n  again: *least\n"

/-- Both are read with all their digits, the one behind the alias and the other one deep inside. -/
theorem wideIntegers_lose_no_digit :
    ∃ document, (readStream wideIntegers).documents[0]? = some document ∧
      document.at? [.item 1, .value 1] = some (.int Int64.minValue) ∧
      document.Shows [.item 1, .value 0, .item 1]
        (.str "340282366920938463463374607431768211455") := by
  have hfault : (readStream wideIntegers).fault? = none := by decide +kernel
  have hwritten : (writtenDocuments wideIntegers)[0]?.map (fun built =>
      (built.plainAt? [.item 1, .value 1], built.plainAt? [.item 1, .value 0, .item 1])) =
      some (some "-9223372036854775808".toList,
        some "340282366920938463463374607431768211455".toList) := by
    decide +kernel
  obtain ⟨built, hbuilt, hplaces⟩ := Option.map_eq_some_iff.1 hwritten
  rw [Prod.mk.injEq] at hplaces
  obtain ⟨least, hleast, -, -, -, -, hleastAt⟩ :=
    integer_scalars_lose_no_digit (-9223372036854775808) (by decide) (by decide)
  obtain ⟨widest, -, hwidest, -, -, -, hwidestAt⟩ :=
    integer_scalars_lose_no_digit 340282366920938463463374607431768211455 (by decide) (by decide)
  obtain ⟨i, hi, rfl⟩ := hleast (by decide)
  obtain rfl : i = Int64.minValue := Int64.toInt_inj.1 hi
  obtain rfl := hwidest (by decide)
  obtain ⟨document, hdocument, hat⟩ := hleastAt wideIntegers 0 built hfault hbuilt
  obtain ⟨document', hdocument', hat'⟩ := hwidestAt wideIntegers 0 built hfault hbuilt
  obtain rfl : document = document' := Option.some.inj (hdocument.symm.trans hdocument')
  exact ⟨document, hdocument, (hat _ hplaces.1).1, (hat' _ hplaces.2).2 (by decide)⟩

end ProfileLayers.Yaml
