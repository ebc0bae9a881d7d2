import Mathlib.Data.List.Find
import Mathlib.Data.Nat.Digits.Defs
import BankSwitch.Proofs.Lexing.Places
import BankSwitch.Proofs.Printing.Digits

/-!
# Lexemes at the front of a text

What a word, a symbol, a number or white space adds to the terminals of the text behind it.  Words
and numbers must not be followed by a character of a word, a symbol not by one that makes it a
longer symbol.
-/

namespace BankSwitch

open Token

variable {w : Nat}

/-! ## decimals of the bus -/

/-- no decimal of the bus has more digits than the host reads, as where the host has no limit -/
def DecimalsFit (w : Nat) (digits : Option Nat) : Prop :=
  ∀ limit ∈ digits, ∀ n < addressCount w, (Nat.toDigits 10 n).length ≤ limit

/-- settings that are loaded have 4096 lines at most -/
theorem decimalsFit_host {w : Nat} (h : w ≤ 14284) : DecimalsFit w (some hostDigits) := by
  rintro limit ⟨⟩ n hn
  have most : addressCount 14284 ≤ 10 ^ hostDigits := by decide +kernel
  refine Nat.toDigits_length 10 n hostDigits (by decide) ?_
  exact Nat.lt_of_lt_of_le hn (Nat.le_trans (addressCount_le h) most)

/-! ## the characters of a text and its terminals -/

/-- the text has the terminals `z`, wherever it starts and whatever host reads it, if that reads the
decimals of the bus -/
def Lexes (w : Nat) (s : List Char) (z : List Terminal) : Prop :=
  ∀ digits, DecimalsFit w digits → ∀ p, ∃ ts, tokensFrom (.whole w digits) p s = .ok ts ∧
    terminals ts = z

theorem lexes_nil : Lexes w [] [.mark .endOfInput] := fun _ _ p =>
  ⟨[atEnd p], by rw [tokensFrom], rfl⟩

theorem lexes_blank {c : Char} {r : List Char} {z : List Terminal} (hc : isBlank c = true)
    (h : Lexes w r z) : Lexes w (c :: r) z := by
  intro digits fit p
  obtain ⟨ts, e, hz⟩ := h digits fit (p.advance c)
  refine ⟨ts, ?_, hz⟩
  rw [tokensFrom, if_pos hc, e]

theorem lexes_cons {c : Char} {r rest : List Char} {t : Terminal} {z : List Terminal}
    (hc : isBlank c = false)
    (h : ∀ digits, DecimalsFit w digits → ∀ p, ∃ x hx,
      lexemeAt (.whole w digits) p c r = .ok ⟨x, rest, hx⟩ ∧
        ∀ q, (⟨x.lexeme, q⟩ : Token).terminal = t)
    (hrest : Lexes w rest z) : Lexes w (c :: r) (t :: z) := by
  intro digits fit p
  obtain ⟨x, hx, e, ht⟩ := h digits fit p
  obtain ⟨ts, e', hz⟩ := hrest digits fit (p.after x.spelling)
  refine ⟨⟨x.lexeme, p⟩ :: ts, ?_, by rw [terminals_cons, ht, hz]⟩
  rw [tokensFrom, if_neg (by rw [hc]; decide), e]
  dsimp only [ok_bind]
  rw [e']
  rfl

theorem takeWhile_stop {p : Char → Bool} {a s : List Char} (ha : ∀ c ∈ a, p c = true)
    (hs : ∀ c ∈ s.head?, p c = false) :
    (a ++ s).takeWhile p = a ∧ (a ++ s).dropWhile p = s := by
  rw [List.takeWhile_append_of_pos ha, List.dropWhile_append_of_pos ha]
  cases s with
  | nil => exact ⟨List.append_nil a, rfl⟩
  | cons c r =>
    have hc : ¬ p c = true := by rw [hs c rfl]; decide
    rw [List.takeWhile_cons_of_neg hc, List.dropWhile_cons_of_neg hc, List.append_nil]
    exact ⟨rfl, rfl⟩

/-! ## classes of characters -/

/-- a fact about ASCII characters may be tested code by code -/
theorem forall_ascii {P : Char → Prop} (h : ∀ n < 128, P (Char.ofNat n)) {c : Char}
    (hc : c.toNat < 128) : P c := by
  have at_code := h c.toNat hc
  rwa [Char.ofNat_toNat] at at_code

def notWordChar (c : Char) : Bool := !isWordChar c

theorem stops_of_notWordChar {s : List Char} (h : ∀ c ∈ s.head?, notWordChar c = true) : Stops s :=
  fun c hc => by simpa [notWordChar] using h c hc

theorem toNat_lt_of_isAlphanum {c : Char} (h : c.isAlphanum = true) : c.toNat < 0x80 := by
  change (decide (65 ≤ c.val ∧ c.val ≤ 90) || decide (97 ≤ c.val) && decide (c.val ≤ 122) ||
    decide (48 ≤ c.val) && decide (c.val ≤ 57)) = true at h
  simp only [Bool.or_eq_true, Bool.and_eq_true, decide_eq_true_eq, UInt32.le_iff_toNat_le] at h
  change ((65 ≤ c.toNat ∧ c.toNat ≤ 90) ∨ (97 ≤ c.toNat ∧ c.toNat ≤ 122)) ∨
    (48 ≤ c.toNat ∧ c.toNat ≤ 57) at h
  omega

theorem isWordChar_of_isAlphanum {c : Char} (h : c.isAlphanum = true) : isWordChar c = true := by
  have ascii : CharClass.isAscii c = true := decide_eq_true (toNat_lt_of_isAlphanum h)
  unfold isWordChar CharClass.isAlphanumeric
  rw [if_pos ascii, h, Bool.true_or]

theorem isAlphanum_of_digitValue? {c : Char} {d : Nat} (h : CharClass.digitValue? c = some d) :
    c.isAlphanum = true := by
  unfold CharClass.digitValue? at h
  change (c.isUpper || c.isLower || c.isDigit) = true
  split at h
  · next hd => rw [hd, Bool.or_true]
  split at h
  · next hl => rw [hl, Bool.or_true, Bool.true_or]
  split at h
  · next hu => rw [hu, Bool.true_or, Bool.true_or]
  · cases h

theorem isWordChar_of_digitValue? {c : Char} {d : Nat} (h : CharClass.digitValue? c = some d) :
    isWordChar c = true := isWordChar_of_isAlphanum (isAlphanum_of_digitValue? h)

theorem isDigit_of_notWordChar {c : Char} (h : notWordChar c = true) : c.isDigit = false := by
  by_cases hd : c.isDigit = true
  · have hv : CharClass.digitValue? c = some (c.toNat - '0'.toNat) := if_pos hd
    rw [notWordChar, isWordChar_of_digitValue? hv] at h
    cases h
  · exact Bool.eq_false_iff.mpr hd

theorem isHexDigit_of_notWordChar {c : Char} (h : notWordChar c = true) :
    CharClass.isHexDigit c = false := by
  unfold CharClass.isHexDigit
  cases hv : CharClass.digitValue? c with
  | none => rfl
  | some d =>
    rw [notWordChar, isWordChar_of_digitValue? hv] at h
    cases h

theorem startsWord_of_isDigit {c : Char} (h : c.isDigit = true) : startsWord c = false :=
  forall_ascii (P := fun c => c.isDigit = true → startsWord c = false) (by decide)
    (toNat_lt_of_isAlphanum (isAlphanum_of_digitValue? (if_pos h))) h

theorem startsWord_plain {c : Char} (h : startsWord c = true) :
    isBlank c = false ∧ c.isDigit = false ∧ c ≠ '#' := by
  refine ⟨?_, ?_, ?_⟩
  · refine Bool.eq_false_iff.mpr fun blank => ?_
    obtain rfl | rfl | rfl | rfl := isBlank_iff.mp blank <;> exact absurd h (by decide)
  · refine Bool.eq_false_iff.mpr fun digit => ?_
    rw [startsWord_of_isDigit digit] at h
    cases h
  · rintro rfl
    exact absurd h (by decide)

/-! ## numbers -/

theorem rest_shorter (c : Char) (r rest : List Char) :
    rest.length < (c :: (r ++ rest)).length := by
  rw [List.length_cons, List.length_append]
  omega

namespace Token

variable {v : Measure} {p : Position} {s rest : List Char} {n : Nat}

theorem Numeral.cons {n : Nat} (h : Numeral s n) : ∃ c r, s = c :: r ∧ isBlank c = false := by
  cases h with
  | @decimal ds some digits =>
    obtain ⟨c, r, rfl⟩ := List.exists_cons_of_ne_nil some
    refine ⟨c, r, rfl, Bool.eq_false_iff.mpr fun blank => ?_⟩
    have digit := digits c List.mem_cons_self
    obtain rfl | rfl | rfl | rfl := isBlank_iff.mp blank <;> cases digit
  | hex => exact ⟨_, _, rfl, by decide⟩

theorem fits_of_lt {limit : Nat} (bound : v.limit = .ok limit) (small : n < limit) :
    finishNumber.fits v p n = .ok (.number n) := by
  unfold finishNumber.fits
  rw [bound]
  exact if_pos small

/-- at a numeral that may end, everything hangs on whether its number fits -/
theorem lexemeAt_numeral {c : Char} {r : List Char} (numeral : Numeral (c :: r) n)
    (stops : Stops rest) (read : Reads v (c :: r)) : ∃ hr, lexemeAt v p c (r ++ rest) =
      (finishNumber.fits v p n).map fun x => ⟨⟨x, c :: r⟩, rest, hr⟩ := by
  refine ⟨rest_shorter c r rest, ?_⟩
  have noWord : ∀ d ∈ rest.head?, notWordChar d = true := fun d hd => by
    rw [notWordChar, stops d hd]
    rfl
  unfold lexemeAt
  cases numeral with
  | decimal some digits =>
    obtain ⟨digit, inner⟩ := List.forall_mem_cons.mp digits
    obtain ⟨taken, left⟩ := takeWhile_stop inner fun d hd => isDigit_of_notWordChar (noWord d hd)
    have short : LongDecimal.of? v.digits (c :: r).length = none := by
      refine LongDecimal.of?_eq_none.mpr (read fun mark => ?_)
      cases mark
      cases digit
    rw [if_pos digit]
    simp only [taken, left, short, finishNumber_of_stops stops]
    rfl
  | @hex ds some digits =>
    obtain ⟨d, ds, rfl⟩ := List.exists_cons_of_ne_nil some
    obtain ⟨taken, left⟩ := takeWhile_stop digits
      fun d hd => isHexDigit_of_notWordChar (noWord d hd)
    rw [if_neg (by decide), dif_pos rfl]
    dsimp only [List.cons_append]
    unfold hexNumber
    rw [List.cons_append] at taken left
    simp only [taken, left, finishNumber_of_stops stops]
    rfl

end Token

theorem lexes_numeral {n : Nat} {t s : List Char} {z : List Terminal} (numeral : Numeral t n)
    (read : ∀ digits, DecimalsFit w digits → Reads (.whole w digits) t) (hn : n < addressCount w)
    (hs : ∀ c ∈ s.head?, notWordChar c = true) (h : Lexes w s z) :
    Lexes w (t ++ s) (.number n :: z) := by
  obtain ⟨c, r, rfl, dark⟩ := numeral.cons
  rw [List.cons_append]
  refine lexes_cons dark (fun digits fit p => ?_) h
  obtain ⟨hr, found⟩ := lexemeAt_numeral (p := p) numeral (stops_of_notWordChar hs)
    (read digits fit)
  rw [fits_of_lt (Measure.limit_whole w digits) hn] at found
  exact ⟨⟨.number n, c :: r⟩, hr, found, fun q => rfl⟩

theorem lexes_decimal {n : Nat} (hn : n < addressCount w) {s : List Char} {z : List Terminal}
    (hs : ∀ c ∈ s.head?, notWordChar c = true) (h : Lexes w s z) :
    Lexes w (Nat.toDigits 10 n ++ s) (.number n :: z) := by
  have numeral : Numeral (Nat.toDigits 10 n) _ := .decimal Nat.toDigits_ne_nil
    fun c hc => Nat.isDigit_of_mem_toDigits (by decide) (by decide) hc
  rw [digitsValue_toDigits (by decide) (by decide)] at numeral
  exact lexes_numeral numeral (fun _ fit _ limit bound => fit limit bound n hn) hn hs h

theorem lexes_hex {n : Nat} (hn : n < addressCount w) {s : List Char} {z : List Terminal}
    (hs : ∀ c ∈ s.head?, notWordChar c = true) (h : Lexes w s z) :
    Lexes w ('#' :: 'x' :: Nat.toDigits 16 n ++ s) (.number n :: z) := by
  have numeral : Numeral ('#' :: 'x' :: Nat.toDigits 16 n) _ := .hex Nat.toDigits_ne_nil
    fun c hc => isHexDigit_of_mem_toDigits (by decide) (by decide) hc
  rw [digitsValue_toDigits (by decide) (by decide)] at numeral
  exact lexes_numeral numeral (fun _ _ => reads_hex _) hn hs h

/-! ## words and symbols -/

/-- the text is one word -/
def isWord : List Char → Bool
  | [] => false
  | c :: r => !isBlank c && !c.isDigit && !decide (c = '#') && startsWord c && r.all isWordChar

theorem Token.lexemeAt_word {v : Measure} {p : Position} {c : Char} {r rest : List Char}
    (first : startsWord c = true) (inner : ∀ d ∈ r, isWordChar d = true) (stops : Stops rest) :
    ∃ hr, lexemeAt v p c (r ++ rest) =
      .ok ⟨⟨.spelled (wordKind (c :: r)) (String.ofList (c :: r)), c :: r⟩, rest, hr⟩ := by
  refine ⟨rest_shorter c r rest, ?_⟩
  obtain ⟨-, noDigit, noMark⟩ := startsWord_plain first
  obtain ⟨taken, left⟩ := takeWhile_stop inner stops
  unfold lexemeAt
  rw [if_neg (by rw [noDigit]; decide), dif_neg noMark, if_pos first]
  simp only [taken, left]

theorem lexes_word {t : List Char} (ht : isWord t = true) {s : List Char} {z : List Terminal}
    (hs : ∀ c ∈ s.head?, notWordChar c = true) (h : Lexes w s z) :
    Lexes w (t ++ s) (.mark (wordKind t) :: z) := by
  cases t with
  | nil => cases ht
  | cons c r =>
    simp only [isWord, Bool.and_eq_true, List.all_eq_true] at ht
    obtain ⟨⟨-, first⟩, inner⟩ := ht
    rw [List.cons_append]
    refine lexes_cons (startsWord_plain first).1 (fun _ _ p => ?_) h
    obtain ⟨hr, found⟩ := lexemeAt_word (p := p) first inner (stops_of_notWordChar hs)
    exact ⟨_, hr, found, fun q => rfl⟩

/-- the text is one symbol -/
def isSymbol (t : List Char) (k : Kind) : Bool :=
  decide (symbolAt? t = some (t, k)) && match t with
    | [] => false
    | c :: _ => !isBlank c && !c.isDigit && !decide (c = '#') && !startsWord c

/-- no symbol is a longer one that goes on with the character -/
def endsSymbol (t : List Char) (c : Char) : Bool :=
  symbols.all fun m => !(t ++ [c]).isPrefixOf m.1

theorem isPrefixOf_append {m t s : List Char}
    (hs : ∀ c ∈ s.head?, (t ++ [c]).isPrefixOf m = false) :
    m.isPrefixOf (t ++ s) = m.isPrefixOf t := by
  rw [Bool.eq_iff_iff, List.isPrefixOf_iff_prefix, List.isPrefixOf_iff_prefix]
  constructor
  · intro h
    obtain hm | ⟨u, rfl⟩ := List.prefix_or_prefix_of_prefix h (List.prefix_append t s)
    · exact hm
    · cases u with
      | nil => exact ⟨[], by rw [List.append_nil, List.append_nil]⟩
      | cons c u =>
        obtain ⟨v, hv⟩ := (List.prefix_append_right_inj t).mp h
        have hc := hs c (by rw [← hv]; rfl)
        have hp : t ++ [c] <+: t ++ c :: u := ⟨u, by rw [List.append_assoc]; rfl⟩
        rw [← List.isPrefixOf_iff_prefix, hc] at hp
        cases hp
  · exact fun h => h.trans (List.prefix_append t s)

theorem symbolAt?_append {t s : List Char} (hs : ∀ c ∈ s.head?, endsSymbol t c = true) :
    symbolAt? (t ++ s) = symbolAt? t := by
  unfold symbolAt?
  refine List.find?_congr fun m hm => isPrefixOf_append fun c hc => ?_
  have := List.all_eq_true.mp (hs c hc) m hm
  rwa [Bool.not_eq_true'] at this

theorem Token.lexemeAt_symbol {v : Measure} {p : Position} {c : Char} {r rest : List Char} {k : Kind}
    (found : symbolAt? (c :: (r ++ rest)) = some (c :: r, k)) (noDigit : c.isDigit = false)
    (noMark : c ≠ '#') (noWord : startsWord c = false) : ∃ hr, lexemeAt v p c (r ++ rest) =
      .ok ⟨⟨.spelled k (String.ofList (c :: r)), c :: r⟩, rest, hr⟩ := by
  refine ⟨rest_shorter c r rest, ?_⟩
  have left : (r ++ rest).drop ((c :: r).length - 1) = rest := List.drop_left
  unfold lexemeAt
  rw [if_neg (by rw [noDigit]; decide), dif_neg noMark, if_neg (by rw [noWord]; decide)]
  split
  · next spelling kind e =>
    cases e.symm.trans found
    simp only [left]
  · next e => cases e.symm.trans found

theorem lexes_symbol {t : List Char} {k : Kind} (ht : isSymbol t k = true) {s : List Char}
    {z : List Terminal} (hs : ∀ c ∈ s.head?, endsSymbol t c = true) (h : Lexes w s z) :
    Lexes w (t ++ s) (.mark k :: z) := by
  cases t with
  | nil => cases ht
  | cons c r =>
    simp only [isSymbol, Bool.and_eq_true, Bool.not_eq_true', decide_eq_false_iff_not,
      decide_eq_true_eq] at ht
    obtain ⟨alone, ⟨⟨dark, noDigit⟩, noMark⟩, noWord⟩ := ht
    rw [List.cons_append]
    refine lexes_cons dark (fun _ _ p => ?_) h
    obtain ⟨hr, found⟩ := lexemeAt_symbol (p := p) ((symbolAt?_append hs).trans alone)
      noDigit noMark noWord
    exact ⟨_, hr, found, fun q => rfl⟩

end BankSwitch
