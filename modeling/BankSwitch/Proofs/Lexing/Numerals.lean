import BankSwitch.Proofs.Lexing.Spacing

/-!
# Numbers by their value

A number is written with its digits behind any zeros: in base ten, or in base sixteen behind a mark
and in either case (`Token.Denotes`).  These are the numerals of the lexer, and it knows no others
(`Token.numeral_iff`).  Wherever it comes to one that the host reads, it makes one token of it if the
number fits the bus, and fails with that number if it does not; of a decimal with more digits than the
host reads it makes nothing, whatever its value (`Token.tokens_of_denotes`).
-/

namespace BankSwitch.Token

open CharClass

/-! ## digits in either case -/

/-- a digit has the value of its lower case -/
theorem digitValue?_toLower (c : Char) : digitValue? c.toLower = digitValue? c := by
  by_cases hc : c.toNat < 128
  · exact forall_ascii (P := fun c => digitValue? c.toLower = digitValue? c) (by decide) hc
  · have same : c.toLower = c := by
      unfold Char.toLower
      refine dif_neg fun upper => hc ?_
      have le : c.toNat ≤ 90 := UInt32.le_iff_toNat_le.mp upper.2
      omega
    rw [same]

theorem digitsValue_toLower (b : Nat) (ds : List Char) :
    digitsValue b (ds.map Char.toLower) = digitsValue b ds := by
  unfold digitsValue
  rw [List.foldl_map]
  simp only [digitValue?_toLower]

theorem exists_digitChar_of_isDigit {c : Char} (h : c.isDigit = true) :
    ∃ d < 10, c = d.digitChar := by
  have ascii := toNat_lt_of_isAlphanum (isAlphanum_of_digitValue? (if_pos h))
  exact forall_ascii (P := fun c => c.isDigit = true → ∃ d < 10, c = d.digitChar)
    (by decide) ascii h

theorem exists_digitChar_of_isHexDigit {c : Char} (h : isHexDigit c = true) :
    ∃ d < 16, c.toLower = d.digitChar := by
  have ascii : c.toNat < 128 := by
    unfold isHexDigit at h
    split at h
    · next d hd => exact toNat_lt_of_isAlphanum (isAlphanum_of_digitValue? hd)
    · cases h
  exact forall_ascii (P := fun c => isHexDigit c = true → ∃ d < 16, c.toLower = d.digitChar)
    (by decide) ascii h

theorem isHexDigit_of_toLower {c : Char} {d : Nat} (hd : d < 16) (h : c.toLower = d.digitChar) :
    isHexDigit c = true := by
  unfold isHexDigit
  rw [← digitValue?_toLower, h, digitValue?_digitChar hd]
  exact decide_eq_true hd

/-! ## digits behind zeros -/

section zeros

variable {b n zeros : Nat} (hb : 1 < b) (hb' : b ≤ 16)
include hb

theorem digitChar_of_mem {c : Char} (hc : c ∈ List.replicate zeros '0' ++ Nat.toDigits b n) :
    ∃ d < b, c = d.digitChar := by
  rw [List.mem_append] at hc
  obtain zero | digit := hc
  · exact ⟨0, Nat.lt_of_succ_lt hb, List.eq_of_mem_replicate zero⟩
  · exact mem_toDigits hb digit

include hb'

/-- zeros in front do not count -/
theorem digitsValue_zeros :
    digitsValue b (List.replicate zeros '0' ++ Nat.toDigits b n) = n := by
  induction zeros with
  | zero => exact digitsValue_toDigits hb hb' n
  | succ zeros ih => exact ih

/-- digits are the zeros in front and then those of the number that they spell -/
theorem exists_zeros {ds : List Char} (some : ds ≠ [])
    (digits : ∀ c ∈ ds, ∃ d < b, c = d.digitChar) :
    ∃ zeros, ds = List.replicate zeros '0' ++ Nat.toDigits b (digitsValue b ds) := by
  induction ds using List.reverseRecOn with
  | nil => exact absurd rfl some
  | append_singleton ds c ih =>
    obtain ⟨d, hd, rfl⟩ := digits c (by simp)
    have last : Nat.toDigits b d = [d.digitChar] := Nat.toDigits_of_lt_base hd
    have value : digitsValue b (ds ++ [d.digitChar]) = b * digitsValue b ds + d := by
      rw [digitsValue_append, List.foldl_cons, List.foldl_nil,
        digitValue?_digitChar (Nat.lt_of_lt_of_le hd hb')]
      rfl
    by_cases first : ds = []
    · subst first
      refine ⟨0, ?_⟩
      rw [value, show digitsValue b [] = 0 from rfl, Nat.mul_zero, Nat.zero_add, last]
      rfl
    obtain ⟨zeros, split⟩ := ih first fun c hc => digits c (List.mem_append_left _ hc)
    by_cases zero : digitsValue b ds = 0
    · -- only zeros so far: the last of them stood for the number
      refine ⟨zeros + 1, ?_⟩
      rw [zero, Nat.toDigits_zero, ← List.replicate_succ'] at split
      rw [value, zero, Nat.mul_zero, Nat.zero_add, last, ← split]
    · refine ⟨zeros, ?_⟩
      rw [value, ← Nat.toDigits_append_toDigits hb (Nat.pos_of_ne_zero zero) hd,
        ← List.append_assoc, ← split, last]

end zeros

/-! ## numerals -/

/-- the characters are the digits of the number behind any zeros, in base ten, or in base sixteen
behind a mark and in either case -/
inductive Denotes : List Char → Nat → Prop
  | decimal (zeros n : Nat) : Denotes (List.replicate zeros '0' ++ Nat.toDigits 10 n) n
  | hex {ds : List Char} {zeros n : Nat}
      (lower : ds.map Char.toLower = List.replicate zeros '0' ++ Nat.toDigits 16 n) :
      Denotes ('#' :: 'x' :: ds) n

variable {s rest : List Char} {n : Nat}

theorem numeral_of_denotes (h : Denotes s n) : Numeral s n := by
  cases h with
  | decimal zeros n =>
    have numeral : Numeral (List.replicate zeros '0' ++ Nat.toDigits 10 n) _ :=
      .decimal (by simp [Nat.toDigits_ne_nil]) fun c hc => by
        obtain ⟨d, hd, rfl⟩ := digitChar_of_mem (by decide) hc
        have all : ∀ d < 10, (Nat.digitChar d).isDigit = true := by decide
        exact all d hd
    rwa [digitsValue_zeros (by decide) (by decide)] at numeral
  | @hex ds zeros n lower =>
    have some : ds ≠ [] := by
      rintro rfl
      simp [Nat.toDigits_ne_nil] at lower
    have numeral : Numeral ('#' :: 'x' :: ds) _ := .hex some fun c hc => by
      obtain ⟨d, hd, same⟩ := digitChar_of_mem (by decide) (lower ▸ List.mem_map_of_mem hc)
      exact isHexDigit_of_toLower hd same
    rwa [← digitsValue_toLower, lower, digitsValue_zeros (by decide) (by decide)] at numeral

theorem numeral_iff : Numeral s n ↔ Denotes s n := by
  refine ⟨fun h => ?_, numeral_of_denotes⟩
  cases h with
  | decimal some digits =>
    obtain ⟨zeros, split⟩ := exists_zeros (b := 10) (by decide) (by decide) some
      fun c hc => exists_digitChar_of_isDigit (digits c hc)
    generalize digitsValue 10 s = n at split
    rw [split]
    exact .decimal zeros n
  | @hex ds some digits =>
    have lower : ∀ c ∈ ds.map Char.toLower, ∃ d < 16, c = d.digitChar :=
      List.forall_mem_map.mpr fun c hc => exists_digitChar_of_isHexDigit (digits c hc)
    obtain ⟨zeros, split⟩ := exists_zeros (b := 16) (by decide) (by decide)
      (by simpa using some) lower
    rw [digitsValue_toLower] at split
    exact .hex split

/-! ## numerals in a text -/

variable {v : Measure} {w : Nat} {digits : Option Nat} {p : Position} {c : Char}
  {a b r text : List Char}

theorem stops_nil : Stops [] := fun _ h => nomatch h

theorem tokensFrom_lexeme {q : Reading Spelled (c :: r)} (taken : lexemeAt v p c r = .ok q) :
    tokensFrom v p (c :: r) =
      (tokensFrom v (p.after q.value.spelling) q.rest).map (⟨q.value.lexeme, p⟩ :: ·) := by
  have dark : isBlank c = false := by
    obtain ⟨d, s, spelling, dark⟩ := (lexemeAt_longest taken).cons
    have split := (lexemeAt_spelled taken).1
    rw [spelling] at split
    rwa [(List.cons.inj split).1] at dark
  rw [tokensFrom, if_neg (by simp [dark]), taken]
  show (tokensFrom v (p.after q.value.spelling) q.rest >>= fun more =>
    pure (⟨q.value.lexeme, p⟩ :: more)) = _
  cases tokensFrom v (p.after q.value.spelling) q.rest <;> rfl

/-- what is wrong with the lexeme at the front is wrong with the text -/
theorem tokensFrom_error {e : ReadError} (dark : isBlank c = false)
    (wrong : lexemeAt v p c r = .error e) : tokensFrom v p (c :: r) = .error e := by
  rw [tokensFrom, if_neg (by simp [dark]), wrong]
  rfl

/-- a numeral that the host reads and that may end there is one token in front of those behind it if
its number fits, and otherwise the error of that number -/
theorem tokensFrom_numeral (numeral : Numeral s n) (stops : Stops rest)
    (read : Reads (.whole w digits) s) :
    tokensFrom (.whole w digits) p (s ++ rest) =
      if n < addressCount w then
        (tokensFrom (.whole w digits) (p.after s) rest).map (⟨.number n, p⟩ :: ·)
      else .error (.overflow n w p) := by
  obtain ⟨c, r, rfl, dark⟩ := numeral.cons
  obtain ⟨hr, found⟩ := lexemeAt_numeral (p := p) numeral stops read
  unfold finishNumber.fits at found
  rw [Measure.limit_whole] at found
  by_cases small : n < addressCount w
  · simp only [if_pos small] at found ⊢
    exact tokensFrom_lexeme found
  · simp only [if_neg small] at found ⊢
    exact tokensFrom_error dark found

/-- a decimal that is too long for the host is wrong, whatever its value and whatever stands behind -/
theorem lexemeAt_long {limit : Nat} (digits : ∀ d ∈ c :: r, d.isDigit = true)
    (ends : ∀ d ∈ rest.head?, d.isDigit = false) (bound : v.digits = some limit)
    (long : limit < (c :: r).length) :
    lexemeAt v p c (r ++ rest) = .error (.decimal ⟨(c :: r).length, limit⟩) := by
  obtain ⟨digit, inner⟩ := List.forall_mem_cons.mp digits
  have taken := (takeWhile_stop inner ends).1
  have found : LongDecimal.of? v.digits (c :: r).length = some ⟨(c :: r).length, limit⟩ :=
    LongDecimal.of?_eq_some.mpr ⟨limit, bound, long, rfl⟩
  unfold lexemeAt
  rw [if_pos digit]
  simp only [taken, found]

theorem tokensFrom_long {limit : Nat} (numeral : Numeral s n) (stops : Stops rest)
    (unmarked : s.head? ≠ some '#') (bound : v.digits = some limit) (long : limit < s.length) :
    tokensFrom v p (s ++ rest) = .error (.decimal ⟨s.length, limit⟩) := by
  obtain ⟨c, r, rfl, dark⟩ := numeral.cons
  cases numeral with
  | hex => exact absurd rfl unmarked
  | decimal _ digits =>
    have ends : ∀ d ∈ rest.head?, d.isDigit = false := fun d hd =>
      isDigit_of_notWordChar (by rw [notWordChar, stops d hd]; rfl)
    exact tokensFrom_error dark (lexemeAt_long digits ends bound long)

/-- the tokens of a text are those of what the lexer has passed, and then those of what is ahead -/
theorem tokensFrom_of_reaches (h : Reaches v text a b) :
    ∃ front : List Token, (∀ t ∈ front, t.position.Before (.behind a)) ∧
      tokensFrom v .start text = (tokensFrom v (.behind a) b).map (front ++ ·) := by
  induction h with
  | start =>
    refine ⟨[], by simp, ?_⟩
    show tokensFrom v .start text = (tokensFrom v .start text).map id
    cases tokensFrom v .start text <;> rfl
  | @blank a r c before skipped ih =>
    obtain ⟨front, earlier, run⟩ := ih
    rw [Position.behind_concat]
    refine ⟨front, fun t ht => (earlier t ht).trans (Position.before_advance _ c), ?_⟩
    rw [run, tokensFrom, if_pos skipped]
  | @lexeme a r c q before taken ih =>
    obtain ⟨front, earlier, run⟩ := ih
    rw [Position.start_after] at taken
    have step : (Position.behind a).Before (.behind (a ++ q.value.spelling)) := by
      rw [← Position.behind_after]
      exact Position.before_after (lexemeAt_spelled taken).2.ne_nil _
    refine ⟨front ++ [⟨q.value.lexeme, .behind a⟩], fun t ht => ?_, ?_⟩
    · obtain ht | ht := List.mem_append.mp ht
      · exact (earlier t ht).trans step
      · rwa [List.mem_singleton.mp ht]
    · rw [run, tokensFrom_lexeme taken, Position.behind_after]
      cases tokensFrom v (.behind (a ++ q.value.spelling)) q.rest <;> simp [Except.map]

/-- where the lexer comes to a number, however that is written, it makes one token of it if the
number fits the bus, and otherwise it fails with that number; but a decimal with more digits than
the host reads is an error of its own, which names neither number nor place -/
theorem tokens_of_denotes {text : String}
    (reached : Reaches (.whole w digits) text.toList a (s ++ rest)) (denotes : Denotes s n)
    (stops : Stops rest) :
    a ++ (s ++ rest) = text.toList ∧
      ∃ front : List Token, (∀ t ∈ front, t.position.Before (.behind a)) ∧
        (Reads (.whole w digits) s →
          tokens (.whole w digits) text =
            if n < addressCount w then
              (tokensFrom (.whole w digits) (.behind (a ++ s)) rest).map
                fun more => front ++ ⟨.number n, .behind a⟩ :: more
            else .error (.overflow n w (.behind a))) ∧
        ∀ limit, digits = some limit → s.head? ≠ some '#' → limit < s.length →
          tokens (.whole w digits) text = .error (.decimal ⟨s.length, limit⟩) := by
  obtain ⟨front, earlier, run⟩ := tokensFrom_of_reaches reached
  have numeral := numeral_iff.mpr denotes
  refine ⟨reached.append, front, earlier, fun read => ?_, fun limit bound unmarked long => ?_⟩
  · rw [tokens, run, tokensFrom_numeral numeral stops read, Position.behind_after]
    split
    · cases tokensFrom (.whole w digits) (.behind (a ++ s)) rest <;> rfl
    · rfl
  · rw [tokens, run, tokensFrom_long numeral stops unmarked bound long]
    rfl

/-- `#x0fF` at the end of a text fits eight lines, not seven -/
theorem tokens_of_denotes_hex :
    Denotes "#x0fF".toList 255 ∧ Stops [] ∧ Reads (.whole 8 (some hostDigits)) "#x0fF".toList ∧
      (Reaches (.whole 8 (some hostDigits)) "[\n#x0fF".toList ['[', '\n'] ("#x0fF".toList ++ []) ∧
        ∃ front, tokens (.whole 8 (some hostDigits)) "[\n#x0fF" =
          .ok (front ++ [⟨.number 255, ⟨2, 1⟩⟩, .atEnd ⟨2, 6⟩])) ∧
      Reaches (.whole 7 (some hostDigits)) "[\n#x0fF".toList ['[', '\n'] ("#x0fF".toList ++ []) ∧
        tokens (.whole 7 (some hostDigits)) "[\n#x0fF" = .error (.overflow 255 7 ⟨2, 1⟩) := by
  have reached (w : Nat) : Reaches (.whole w (some hostDigits)) "[\n#x0fF".toList ['[', '\n']
      ("#x0fF".toList ++ []) := by
    have opening : Reaches (.whole w (some hostDigits)) "[\n#x0fF".toList []
        ('[' :: "\n#x0fF".toList) := .start
    exact (opening.lexeme (q := ⟨⟨.spelled .leftBracket "[", ['[']⟩, _, by decide⟩) rfl).blank rfl
  have denotes : Denotes "#x0fF".toList 255 := @Denotes.hex _ 1 _ (by decide)
  have read (w : Nat) : Reads (.whole w (some hostDigits)) "#x0fF".toList := reads_hex _
  obtain ⟨-, front, -, fits, -⟩ := tokens_of_denotes (reached 8) denotes stops_nil
  obtain ⟨-, _, -, overflows, -⟩ := tokens_of_denotes (reached 7) denotes stops_nil
  refine ⟨denotes, stops_nil, read 8, ⟨reached 8, front, ?_⟩, reached 7, overflows (read 7)⟩
  have fits := fits (read 8)
  rw [if_pos (by decide), tokensFrom] at fits
  exact fits

/-- nought, with so many zeros in front -/
def nought (zeros : Nat) : String := String.ofList (List.replicate (zeros + 1) '0')

theorem toList_nought (zeros : Nat) : (nought zeros).toList = '0' :: List.replicate zeros '0' :=
  String.toList_ofList

theorem denotes_nought (zeros : Nat) : Denotes (nought zeros).toList 0 := by
  have denotes := Denotes.decimal zeros 0
  rwa [Nat.toDigits_zero, ← List.replicate_succ', List.replicate_succ, ← toList_nought] at denotes

/-- with as many zeros in front as the host reads digits, even nought is too long -/
theorem tokens_nought (w limit : Nat) :
    tokens (.whole w (some limit)) (nought limit) = .error (.decimal ⟨limit + 1, limit⟩) := by
  have count : (nought limit).toList.length = limit + 1 := by
    rw [toList_nought, List.length_cons, List.length_replicate]
  have unmarked : (nought limit).toList.head? ≠ some '#' := by
    rw [toList_nought, List.head?_cons]
    decide
  have wrong := tokensFrom_long (v := .whole w (some limit)) (p := .start)
    (numeral_iff.mpr (denotes_nought limit)) stops_nil unmarked rfl (count ▸ Nat.lt_succ_self limit)
  rwa [List.append_nil, count] at wrong

/-- nought fits every bus, but is no token where it is written with too many zeros -/
theorem tokens_unread :
    Denotes (nought hostDigits).toList 0 ∧ Stops [] ∧ 0 < addressCount 64 ∧
      Reaches (.whole 64 (some hostDigits)) (nought hostDigits).toList []
        ((nought hostDigits).toList ++ []) ∧
      tokens (.whole 64 (some hostDigits)) (nought hostDigits) =
        .error (.decimal ⟨hostDigits + 1, hostDigits⟩) := by
  have reached : Reaches (.whole 64 (some hostDigits)) (nought hostDigits).toList []
    (nought hostDigits).toList := .start
  refine ⟨denotes_nought _, stops_nil, addressCount_pos 64, ?_, tokens_nought 64 _⟩
  rwa [List.append_nil]

end BankSwitch.Token
