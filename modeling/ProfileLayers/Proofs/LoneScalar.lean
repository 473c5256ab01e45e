/-
**A stream of one plain scalar.**

The simplest stream holds a single word with white space around it.  What keeps its reading from
being obvious is that the scanner does not know this in advance: when it meets the word, it has to
rule out every other token, it takes the word for a possible mapping key, and it waits for the end
of the stream to give that up.  Positions play no part, because a word outside of all blocks has no
margin to respect, so white space and word are told apart by their characters alone.

Main definitions:

* `ProfileLayers.Yaml.IsLoneWord` — the words that are treated here;
* `ProfileLayers.Yaml.Scanner.IsUnnested` — a scanner outside of all collections.

Main results:

* `ProfileLayers.Yaml.Scanner.skipSpacing_front` — white space before the word;
* `ProfileLayers.Yaml.scanPlain_word` — the word and the white space after it;
* `ProfileLayers.Yaml.Scanner.token_word` — no other token begins like a word;
* `ProfileLayers.Yaml.scan_lone` — the tokens of the stream;
* `ProfileLayers.Yaml.readStream_lone` — **a word that stands alone is read as a plain scalar**.
-/

import ProfileLayers.Yaml.Stream

set_option relaxedAutoImplicit false
set_option autoImplicit false

namespace ProfileLayers.Yaml

/-! ### Words -/

/-- A word of letters, digits, low lines and hyphens that begins with a letter or a digit, perhaps
behind a single hyphen. -/
inductive IsLoneWord : List Char → Prop where
  | plain {c : Char} {cs : List Char} (hc : c.isAlphanum = true)
      (hcs : ∀ d ∈ cs, isWordChar d = true) : IsLoneWord (c :: cs)
  | hyphened {c : Char} {cs : List Char} (hc : c.isAlphanum = true)
      (hcs : ∀ d ∈ cs, isWordChar d = true) : IsLoneWord ('-' :: c :: cs)

theorem isWordChar_of_isAlphanum (c : Char) (h : c.isAlphanum = true) : isWordChar c = true := by
  simp [isWordChar, h]

theorem IsLoneWord.isWordChar_of_mem {word : List Char} (h : IsLoneWord word) (c : Char)
    (hc : c ∈ word) : isWordChar c = true := by
  cases h with
  | plain hfirst hrest =>
      rcases List.mem_cons.1 hc with rfl | hc
      · exact isWordChar_of_isAlphanum c hfirst
      · exact hrest c hc
  | hyphened hfirst hrest =>
      rcases List.mem_cons.1 hc with rfl | hc
      · rfl
      · rcases List.mem_cons.1 hc with rfl | hc
        · exact isWordChar_of_isAlphanum c hfirst
        · exact hrest c hc

theorem toNat_of_isWordChar (c : Char) (h : isWordChar c = true) :
    45 ≤ c.toNat ∧ c.toNat ≤ 122 := by
  have hupper : c.isUpper = true → 65 ≤ c.toNat ∧ c.toNat ≤ 90 := of_decide_eq_true
  have hlower : c.isLower = true → 97 ≤ c.toNat ∧ c.toNat ≤ 122 := fun hc =>
    (Bool.and_eq_true_iff.1 hc).imp of_decide_eq_true of_decide_eq_true
  have hdigit : c.isDigit = true → 48 ≤ c.toNat ∧ c.toNat ≤ 57 := fun hc =>
    (Bool.and_eq_true_iff.1 hc).imp of_decide_eq_true of_decide_eq_true
  change ((((c.isUpper || c.isLower) || c.isDigit) || c == '_') || c == '-') = true at h
  simp only [Bool.or_eq_true, beq_iff_eq] at h
  rcases h with (((h | h) | h) | rfl) | rfl
  · have hbounds := hupper h
    omega
  · have hbounds := hlower h
    omega
  · have hbounds := hdigit h
    omega
  · decide
  · decide

section WordChar

variable (c : Char) (h : isWordChar c = true)
include h

theorem ne_of_isWordChar (d : Char) (hd : isWordChar d = false) : (c == d) = false := by
  rw [beq_eq_false_iff_ne]
  rintro rfl
  rw [h] at hd
  exact Bool.noConfusion hd

theorem not_isGap_of_isWordChar : isGap c = false := by
  rw [isGap, ne_of_isWordChar c h ' ' rfl, ne_of_isWordChar c h '\t' rfl, Bool.or_false]

theorem not_isBreak_of_isWordChar : isBreak c = false := by
  have hbounds := toNat_of_isWordChar c h
  rw [isBreak, ne_of_isWordChar c h '\n' rfl, ne_of_isWordChar c h '\r' rfl]
  simp only [Bool.false_or, Bool.or_eq_false_iff, beq_eq_false_iff_ne]
  omega

theorem not_isLineMark_of_isWordChar (mark : Mark) : Placed.isLineMark ⟨c, mark⟩ = false := by
  have hmark : (c == byteOrderMark) = false := ne_of_isWordChar c h byteOrderMark rfl
  rw [Placed.isLineMark, hmark, Bool.false_and]

theorem isReadable_of_isWordChar : isReadable c = true := by
  have hbounds := toNat_of_isWordChar c h
  simp only [isReadable, Bool.or_eq_true, Bool.and_eq_true, decide_eq_true_eq, beq_iff_eq]
  omega

theorem not_isBlank_of_isWordChar : isBlank c = false := by
  have hbounds := toNat_of_isWordChar c h
  simp only [isBlank, Bool.or_eq_false_iff, Bool.and_eq_false_iff, decide_eq_false_iff_not,
    beq_eq_false_iff_ne]
  omega

end WordChar

/-! ### White space and the word -/

theorem isReadable_of_isSpacing (c : Char) (h : isGap c = true ∨ isBreak c = true) :
    isReadable c = true := by
  simp only [isGap, isBreak, Bool.or_eq_true, beq_iff_eq] at h
  rcases h with (rfl | rfl) | (((rfl | rfl) | h) | h) | h
  · rfl
  · rfl
  · rfl
  · rfl
  · simp [isReadable, h]
  · simp [isReadable, h]
  · simp [isReadable, h]

/-- White space before the word is skipped, and a key may still begin. -/
theorem Scanner.skipSpacing_front (front : List Placed) (q : Placed) (qs : List Placed)
    (hfront : ∀ p ∈ front, p.char = ' ' ∨ p.char = '\n') (hq : isWordChar q.char = true) :
    skipSpacing false (front ++ q :: qs) true false = (true, q :: qs) := by
  induction front with
  | nil =>
      have hmark := not_isLineMark_of_isWordChar q.char hq q.mark
      simp only [List.nil_append, skipSpacing, not_isBreak_of_isWordChar q.char hq,
        ne_of_isWordChar q.char hq ' ' rfl, ne_of_isWordChar q.char hq '\t' rfl,
        ne_of_isWordChar q.char hq '#' rfl, hmark, Bool.false_and, Bool.or_false,
        Bool.false_eq_true, if_false]
  | cons p front ih =>
      have hrest := ih fun r hr => hfront r (List.mem_cons_of_mem p hr)
      rcases hfront p List.mem_cons_self with hp | hp
      · rw [List.cons_append, skipSpacing, hp]
        exact hrest
      · have hhalf : p.isHalfBreak (front ++ q :: qs) = false := by simp [Placed.isHalfBreak, hp]
        rw [List.cons_append, skipSpacing, hhalf, hp]
        exact hrest

/-- A word is taken up character by character. -/
theorem scanPlainFrom_word (margin : Nat) (word rest : List Placed) (out : List Char)
    (h : ∀ q ∈ word, isWordChar q.char = true) :
    scanPlainFrom false margin (word ++ rest) .none out =
      scanPlainFrom false margin rest .none ((word.map Placed.char).reverse ++ out) := by
  induction word generalizing out with
  | nil => rfl
  | cons q word ih =>
      have hq := h q List.mem_cons_self
      have hrest := ih (q.char :: out) fun r hr => h r (List.mem_cons_of_mem q hr)
      have hcolon := ne_of_isWordChar q.char hq ':' rfl
      simp only [List.cons_append, scanPlainFrom, not_isGap_of_isWordChar q.char hq,
        not_isBreak_of_isWordChar q.char hq, endsPlain, hcolon, Spacing.isSome, Spacing.none,
        List.isEmpty_nil, Bool.not_true, Bool.or_false, Bool.false_and, Bool.false_eq_true,
        if_false]
      simpa [Spacing.text, Spacing.none] using hrest

/-- White space after the word is left out, up to the end of the stream. -/
theorem scanPlainFrom_back (back : List Placed) (spacing : Spacing) (out : List Char)
    (h : ∀ q ∈ back, isGap q.char = true ∨ isBreak q.char = true) :
    ∃ broken, scanPlainFrom false 0 back spacing out = .ok ⟨out.reverse, broken, []⟩ := by
  induction back generalizing spacing with
  | nil => exact ⟨spacing.broken, rfl⟩
  | cons q back ih =>
      have hrest := fun spacing => ih spacing fun r hr => h r (List.mem_cons_of_mem q hr)
      rw [scanPlainFrom]
      by_cases hgap : isGap q.char = true
      · simpa [hgap] using hrest _
      · have hbreak := (h q List.mem_cons_self).resolve_left hgap
        rw [if_neg hgap, if_pos hbreak]
        split
        · exact hrest _
        · exact hrest _

theorem scanPlain_word (word back : List Placed) (hword : ∀ q ∈ word, isWordChar q.char = true)
    (hback : ∀ q ∈ back, isGap q.char = true ∨ isBreak q.char = true) :
    ∃ broken, scanPlain false 0 (word ++ back) = .ok ⟨word.map Placed.char, broken, []⟩ := by
  obtain ⟨broken, hscan⟩ := scanPlainFrom_back back .none (word.map Placed.char).reverse hback
  refine ⟨broken, ?_⟩
  rw [scanPlain, scanPlainFrom_word 0 word back [] hword, List.append_nil, hscan,
    List.reverse_reverse]

/-! ### The tokens -/

theorem atMarker_of_ne (c : Char) (q : Placed) (qs : List Placed) (h : (q.char == c) = false) :
    Placed.atMarker c (q :: qs) = false := by
  unfold Placed.atMarker
  split
  · rename_i r _ _ _ heq
    cases heq
    simp [h]
  · rfl

theorem atMarker_of_second_ne (c : Char) (q r : Placed) (qs : List Placed)
    (h : (r.char == c) = false) : Placed.atMarker c (q :: r :: qs) = false := by
  unfold Placed.atMarker
  split
  · rename_i heq
    cases heq
    simp [h]
  · rfl

namespace Scanner

/-- What begins a plain scalar is none of the other tokens. -/
theorem token_of_beginsPlain (s : Scanner) (q : Placed) (qs : List Placed)
    (hrest : s.rest = q :: qs) (hword : isWordChar q.char = true)
    (hmarker : Placed.atDocumentMarker (q :: qs) = false)
    (hentry : (q.char == '-' && Placed.endsWord qs) = false)
    (hplain : beginsPlain s.inFlow q.char qs = true) : s.token q.char qs = s.plainScalar := by
  have hne := ne_of_isWordChar q.char hword
  rw [Placed.atDocumentMarker, Bool.or_eq_false_iff] at hmarker
  simp only [token, hrest, hmarker, hentry, hplain, hne '%' rfl, hne '[' rfl, hne '\x7b' rfl,
    hne ']' rfl, hne '\x7d' rfl, hne ',' rfl, hne '?' rfl, hne ':' rfl, hne '*' rfl, hne '&' rfl,
    hne '!' rfl, hne '|' rfl, hne '>' rfl, hne '\x27' rfl, hne '\x22' rfl, Bool.and_false,
    Bool.false_and, Bool.or_false, Bool.false_eq_true, if_false, if_true]

theorem not_isIndicator_of_isWordChar (c : Char) (hword : isWordChar c = true)
    (hdash : (c == '-') = false) : isIndicator c = false := by
  -- no indicator but the dash can be in a word
  have hall : "-?:,[]\x7b\x7d#&*!|>\x27\x22%@\x60".toList.all
      (fun d => d == '-' || !isWordChar d) = true := by
    decide
  rw [isIndicator, Bool.eq_false_iff]
  intro hmem
  have hc := List.all_eq_true.1 hall c (List.contains_iff_mem.1 hmem)
  rw [hdash, hword] at hc
  exact Bool.noConfusion hc

/-- A word begins no other token than a plain scalar. -/
theorem token_word (s : Scanner) (word back : List Char) (hword : IsLoneWord word) (q : Placed)
    (qs : List Placed) (hrest : s.rest = q :: qs)
    (hchars : (q :: qs).map Placed.char = word ++ back) : s.token q.char qs = s.plainScalar := by
  cases hword with
  | @plain c cs hc hcs =>
      have hq : q.char = c := (List.cons.inj hchars).1
      have hwordChar : isWordChar q.char = true := hq ▸ isWordChar_of_isAlphanum c hc
      have hdash : (q.char == '-') = false := by
        rw [beq_eq_false_iff_ne, hq]
        rintro rfl
        exact absurd hc (by decide)
      apply token_of_beginsPlain s q qs hrest hwordChar
      · rw [Placed.atDocumentMarker, atMarker_of_ne '-' q qs hdash,
          atMarker_of_ne '.' q qs (ne_of_isWordChar q.char hwordChar '.' rfl), Bool.or_false]
      · rw [hdash, Bool.false_and]
      · have hindicator := not_isIndicator_of_isWordChar q.char hwordChar hdash
        rw [beginsPlain, not_isGap_of_isWordChar q.char hwordChar,
          not_isBreak_of_isWordChar q.char hwordChar, hindicator]
        rfl
  | @hyphened c cs hc hcs =>
      obtain ⟨hq, hqs⟩ := List.cons.inj hchars
      obtain ⟨r, rs, rfl⟩ := List.exists_cons_of_ne_nil (l := qs) (by rintro rfl; cases hqs)
      have hr : r.char = c := (List.cons.inj hqs).1
      have hwordChar : isWordChar r.char = true := hr ▸ isWordChar_of_isAlphanum c hc
      have hdash : (r.char == '-') = false := by
        rw [beq_eq_false_iff_ne, hr]
        rintro rfl
        exact absurd hc (by decide)
      have hgap := not_isGap_of_isWordChar r.char hwordChar
      have hbreak := not_isBreak_of_isWordChar r.char hwordChar
      apply token_of_beginsPlain s q (r :: rs) hrest (hq ▸ rfl)
      · rw [Placed.atDocumentMarker, atMarker_of_second_ne '-' q r rs hdash,
          atMarker_of_ne '.' q (r :: rs) (hq ▸ rfl), Bool.or_false]
      · rw [Placed.endsWord, hgap, hbreak, Bool.or_false, Bool.and_false]
      · rw [beginsPlain, Placed.aheadIs, hgap, hq]
        simp

/-! ### Outside of all collections -/

/-- The scanner is outside of all collections and needs no key; `rest` is to come, and `emitted` are
the tokens so far, last one first. -/
structure IsUnnested (s : Scanner) (rest : List Placed) (emitted : List Token) : Prop where
  rest : s.rest = rest
  emitted : s.emitted = emitted
  margin : s.margin = 0
  margins : s.margins = []
  candidates : s.candidates = []
  candidate : ∀ c ∈ s.candidate, c.required = false

theorem isUnnested_start (cs : List Char) : (start cs).IsUnnested (place .start cs) [] :=
  ⟨rfl, rfl, rfl, rfl, rfl, fun _ h => nomatch h⟩

section Unnested

variable (s : Scanner) (rest : List Placed) (emitted : List Token) (h : s.IsUnnested rest emitted)
include h

theorem inFlow_of_isUnnested : s.inFlow = false := by simp [inFlow, h.candidates]

theorem isUnnested_moved (keyAllowed : Bool) (later : List Placed) :
    ({ s with keyAllowed := keyAllowed, rest := later } : Scanner).IsUnnested later emitted :=
  ⟨rfl, h.emitted, h.margin, h.margins, h.candidates, h.candidate⟩

theorem isUnnested_with_candidate (candidate : Option Candidate)
    (hrequired : ∀ c ∈ candidate, c.required = false) :
    ({ s with candidate := candidate } : Scanner).IsUnnested rest emitted :=
  ⟨h.rest, h.emitted, h.margin, h.margins, h.candidates, hrequired⟩

/-- A key that is not needed may be given up. -/
theorem dropStale_of_isUnnested :
    ∃ t, s.dropStale = .ok t ∧ t.IsUnnested rest emitted := by
  unfold dropStale
  rw [h.candidates]
  cases hc : s.candidate with
  | none =>
      refine ⟨_, rfl, h.rest, h.emitted, h.margin, h.margins, rfl, fun _ h => nomatch h⟩
  | some c =>
      have hrequired : c.required = false := h.candidate c hc
      by_cases hstale : c.isStale s.mark = true
      · simp only [hstale, hrequired, if_true]
        refine ⟨_, rfl, h.rest, h.emitted, h.margin, h.margins, rfl, fun _ h => nomatch h⟩
      · simp only [hstale]
        refine ⟨_, rfl, h.rest, h.emitted, h.margin, h.margins, rfl, fun d hd => ?_⟩
        cases hd
        exact hrequired

theorem dropCandidate_of_isUnnested :
    ∃ t, s.dropCandidate = .ok t ∧ t.IsUnnested rest emitted := by
  unfold dropCandidate
  split
  · rename_i c hc
    rw [h.candidate c hc, if_neg Bool.false_ne_true]
    exact ⟨_, rfl, isUnnested_with_candidate s rest emitted h none fun _ h => nomatch h⟩
  · exact ⟨s, rfl, h⟩

/-- A node that begins outside of all collections may be a key, but need not. -/
theorem saveCandidate_of_isUnnested :
    ∃ t, s.saveCandidate = .ok t ∧ t.IsUnnested rest emitted := by
  unfold saveCandidate
  split
  · have hrequired : (!s.inFlow && s.margin == s.mark.column + 1) = false := by simp [h.margin]
    obtain ⟨t, hdropped, ht⟩ := dropCandidate_of_isUnnested s rest emitted h
    rw [hdropped, hrequired]
    refine ⟨_, rfl, isUnnested_with_candidate t rest emitted ht _ fun c hc => ?_⟩
    cases hc
    rfl
  · exact ⟨s, rfl, h⟩

theorem closeBlocks_of_isUnnested (limit : Nat) : s.closeBlocks limit = s := by
  obtain ⟨_, _, _, margin, margins, _, _, candidates⟩ := s
  obtain ⟨-, -, rfl, rfl, rfl, -⟩ := h
  rfl

end Unnested

/-- The word and the white space after it are one token, and end the stream. -/
theorem plainScalar_word (s : Scanner) (word back : List Placed) (emitted : List Token)
    (h : s.IsUnnested (word ++ back) emitted) (hword : ∀ q ∈ word, isWordChar q.char = true)
    (hback : ∀ q ∈ back, isGap q.char = true ∨ isBreak q.char = true) :
    ∃ t, s.plainScalar = .ok t ∧
      t.IsUnnested [] (.scalar .plain (word.map Placed.char) :: emitted) := by
  obtain ⟨t, hsaved, ht⟩ := saveCandidate_of_isUnnested s (word ++ back) emitted h
  obtain ⟨broken, hscan⟩ := scanPlain_word word back hword hback
  have hscalar : scanPlain t.inFlow t.margin t.rest = .ok ⟨word.map Placed.char, broken, []⟩ := by
    rw [inFlow_of_isUnnested t _ _ ht, ht.margin, ht.rest, hscan]
  rw [plainScalar, hsaved]
  simp only [bind, Except.bind, hscalar]
  refine ⟨_, rfl, rfl, ?_, ht.margin, ht.margins, ht.candidates, ht.candidate⟩
  rw [← ht.emitted]
  rfl

/-- Where the word begins it is the next token. -/
theorem next_word (s : Scanner) (front word back : List Placed) (emitted : List Token)
    (h : s.IsUnnested (front ++ (word ++ back)) emitted) (hkey : s.keyAllowed = true)
    (hfront : ∀ q ∈ front, q.char = ' ' ∨ q.char = '\n')
    (hword : IsLoneWord (word.map Placed.char))
    (hback : ∀ q ∈ back, isGap q.char = true ∨ isBreak q.char = true) :
    ∃ t, s.next = .ok t ∧ t.IsUnnested [] (.scalar .plain (word.map Placed.char) :: emitted) := by
  have hchars : ∀ q ∈ word, isWordChar q.char = true := fun q hq =>
    hword.isWordChar_of_mem q.char (List.mem_map_of_mem hq)
  obtain ⟨q, qs, rfl⟩ := List.exists_cons_of_ne_nil (l := word) (by rintro rfl; cases hword)
  have hskip := skipSpacing_front front q (qs ++ back) hfront (hchars q List.mem_cons_self)
  have hmoved := isUnnested_moved s _ emitted h true (q :: (qs ++ back))
  obtain ⟨t, hfresh, ht⟩ := dropStale_of_isUnnested _ _ _ hmoved
  have htoken := token_word t _ (back.map Placed.char) hword q (qs ++ back) ht.rest (by simp)
  obtain ⟨u, hscalar, hu⟩ := plainScalar_word t (q :: qs) back emitted ht hchars hback
  refine ⟨u, ?_, hu⟩
  rw [next, inFlow_of_isUnnested s _ _ h, h.rest, hkey]
  simp only [List.cons_append, hskip, hfresh, bind, Except.bind, ht.rest,
    closeBlocks_of_isUnnested t _ _ ht, htoken, hscalar]

/-- Once all is read, only the end of the stream is left to be found. -/
theorem next_of_rest_nil (s : Scanner) (emitted : List Token) (h : s.IsUnnested [] emitted) :
    ∃ t, s.next = .ok t ∧ t.IsUnnested [] (.streamEnd :: emitted) := by
  have hmoved := isUnnested_moved s _ emitted h s.keyAllowed []
  obtain ⟨t, hfresh, ht⟩ := dropStale_of_isUnnested _ _ _ hmoved
  obtain ⟨u, hdropped, hu⟩ := dropCandidate_of_isUnnested t _ _ ht
  rw [next, h.rest, skipSpacing]
  simp only [hfresh, bind, Except.bind, ht.rest, endStream, closeBlocks_of_isUnnested t _ _ ht,
    hdropped]
  refine ⟨_, rfl, hu.rest, ?_, hu.margin, hu.margins, hu.candidates, hu.candidate⟩
  rw [← hu.emitted]
  rfl

end Scanner

/-! ### The whole stream -/

/-- Scanning on from the end of what can be read. -/
theorem scanFrom_of_rest_nil (fuel : Nat) (s : Scanner) (emitted : List Token) (known : Nat)
    (h : s.IsUnnested [] emitted) :
    scanFrom (fuel + 1) s known = ⟨(.streamEnd :: emitted).reverse, none⟩ := by
  obtain ⟨t, hfresh, ht⟩ := Scanner.dropStale_of_isUnnested s _ _ h
  obtain ⟨u, hnext, hu⟩ := Scanner.next_of_rest_nil t emitted ht
  rw [scanFrom]
  simp only [hfresh, hnext, hu.emitted, hu.candidates, List.head?_cons, beq_self_eq_true, if_true,
    List.any_nil, Bool.false_eq_true, if_false]

/-- The stream of a lone word has that word as its only token, besides its end. -/
theorem scan_lone (front word back : List Char) (hfront : ∀ c ∈ front, c = ' ' ∨ c = '\n')
    (hword : IsLoneWord word) (hback : ∀ c ∈ back, isGap c = true ∨ isBreak c = true) :
    scan (front ++ (word ++ back)) = ⟨[.scalar .plain word, .streamEnd], none⟩ := by
  have hreadable : (front ++ (word ++ back)).all isReadable = true := by
    rw [List.all_eq_true]
    intro c hc
    rcases List.mem_append.1 hc with hc | hc
    · rcases hfront c hc with rfl | rfl <;> rfl
    · rcases List.mem_append.1 hc with hc | hc
      · exact isReadable_of_isWordChar c (hword.isWordChar_of_mem c hc)
      · exact isReadable_of_isSpacing c (hback c hc)
  obtain ⟨fs, qs, hplace, rfl, hqs⟩ :=
    List.map_eq_append_iff.1 (chars_place .start (front ++ (word ++ back)))
  obtain ⟨ws, bs, rfl, rfl, rfl⟩ := List.map_eq_append_iff.1 hqs
  have hstart := Scanner.isUnnested_start
    (fs.map Placed.char ++ (ws.map Placed.char ++ bs.map Placed.char))
  rw [hplace] at hstart
  obtain ⟨t, hnext, ht⟩ := Scanner.next_word _ fs ws bs [] hstart rfl (List.forall_mem_map.1 hfront)
    hword (List.forall_mem_map.1 hback)
  rw [scan, if_pos hreadable, scanFrom, show Scanner.dropStale (.start _) = .ok (.start _) from rfl]
  simp only [hnext, ht.emitted]
  exact scanFrom_of_rest_nil _ t _ _ ht

/-- The events of a lone plain scalar are those of a document that holds nothing else. -/
theorem parse_lone (word : List Char) :
    parse ⟨[.scalar .plain word, .streamEnd], none⟩ =
      ⟨[.documentStart, .scalar none none .plain word, .documentEnd], none⟩ := rfl

theorem ofEvents_lone (word : List Char) :
    Reading.ofEvents none [.documentStart, .scalar none none .plain word, .documentEnd] .empty =
      ⟨[.ofPlain word], none⟩ := rfl

/-- **A word that stands alone is read as a plain scalar.**  A text of one word with white space
around it holds one document, which is the node of that word. -/
theorem readStream_lone (front word back : List Char) (hfront : ∀ c ∈ front, c = ' ' ∨ c = '\n')
    (hword : IsLoneWord word) (hback : ∀ c ∈ back, isGap c = true ∨ isBreak c = true) :
    readStream (String.ofList (front ++ (word ++ back))) = ⟨[.ofPlain word], none⟩ := by
  have hblank : isBlankText (String.ofList (front ++ (word ++ back))) = false := by
    obtain ⟨c, hc⟩ : ∃ c, c ∈ word := by
      cases hword <;> exact ⟨_, List.mem_cons_self⟩
    rw [isBlankText, String.toList_ofList, List.all_eq_false]
    refine ⟨c, List.mem_append_right _ (List.mem_append_left _ hc), ?_⟩
    rw [not_isBlank_of_isWordChar c (hword.isWordChar_of_mem c hc)]
    exact Bool.false_ne_true
  rw [readStream, hblank, if_neg Bool.false_ne_true, String.toList_ofList, readChars,
    scan_lone front word back hfront hword hback, parse_lone]
  exact ofEvents_lone word

end ProfileLayers.Yaml
