import BankSwitch.Guard.Binding
import BankSwitch.Proofs.Lexing.Numerals

/-!
# Numbers that are typed

Addresses and the values of names are typed as descriptions write numbers, but a decimal with zeros
in front is refused: ten cannot be typed as `010`.  Any other text that is one number for the lexer
gives that number to a name, and is that address if its mark does not stand behind white space
(`IntegerText.readNumeral_of_tokens`).
-/

namespace BankSwitch

open CharClass Token

namespace IntegerText

variable {b acc n : Nat} {limit : Option Nat} {c : Char} {s ds blanks rest : List Char}

/-! ## digits and what is behind them -/

/-- digits below `b` -/
def Digits (b : Nat) (ds : List Char) : Prop := ∀ c ∈ ds, ∃ d < b, digitValue? c = some d

theorem ne_underscore {d : Nat} (h : digitValue? c = some d) : c ≠ '_' := by
  rintro rfl
  cases h

theorem digits_end (h : ∀ c ∈ rest, Token.isBlank c = true) : digits b rest acc = (acc, rest) := by
  cases rest with
  | nil => rw [digits]
  | cons c r =>
    have blank := h c List.mem_cons_self
    rcases isBlank_iff.mp blank with rfl | rfl | rfl | rfl <;> rfl

theorem digits_append (all : Digits b ds) (blank : ∀ c ∈ rest, Token.isBlank c = true) :
    digits b (ds ++ rest) acc =
      (ds.foldl (fun n c => b * n + (digitValue? c).getD 0) acc, rest) := by
  induction ds generalizing acc with
  | nil => exact digits_end blank
  | cons c ds ih =>
    obtain ⟨⟨d, small, value⟩, all⟩ := List.forall_mem_cons.mp all
    rw [List.cons_append, digits]
    · simp only [value, if_pos small]
      rw [ih all, Nat.mul_comm]
      simp [value]
    · rintro e r rfl
      cases value

/-- a number is read up to the white space behind it -/
theorem natural_append (filled : ds ≠ []) (all : Digits b ds)
    (blank : ∀ c ∈ rest, Token.isBlank c = true) :
    natural b (ds ++ rest) = some (digitsValue b ds, rest) := by
  obtain ⟨c, ds, rfl⟩ := List.exists_cons_of_ne_nil filled
  obtain ⟨⟨d, small, value⟩, all⟩ := List.forall_mem_cons.mp all
  rw [List.cons_append, natural]
  simp only [value, if_pos small, digits_append all blank]
  unfold digitsValue
  rw [List.foldl_cons, value]
  simp

theorem digits_decimal (h : ∀ c ∈ ds, c.isDigit = true) : Digits 10 ds := by
  intro c hc
  obtain ⟨d, hd, rfl⟩ := exists_digitChar_of_isDigit (h c hc)
  exact ⟨d, hd, digitValue?_digitChar (by omega)⟩

theorem digits_hex (h : ∀ c ∈ ds, isHexDigit c = true) : Digits 16 ds := by
  intro c hc
  have digit := h c hc
  unfold isHexDigit at digit
  split at digit
  · next d value => exact ⟨d, of_decide_eq_true digit, value⟩
  · cases digit

/-! ## numbers without a sign -/

theorem isBlank_of_token (h : Token.isBlank c = true) : isBlank c = true := by
  rcases isBlank_iff.mp h with rfl | rfl | rfl | rfl <;> rfl

/-- no base is marked by what may stand behind a digit -/
theorem unmarked (h : c.isDigit = true ∨ Token.isBlank c = true) :
    c.toLower ≠ 'x' ∧ c.toLower ≠ 'o' ∧ c.toLower ≠ 'b' := by
  rcases h with digit | blank
  · obtain ⟨d, hd, rfl⟩ := exists_digitChar_of_isDigit digit
    have all : ∀ d < 10, d.digitChar.toLower ≠ 'x' ∧ d.digitChar.toLower ≠ 'o' ∧
      d.digitChar.toLower ≠ 'b' := by decide
    exact all d hd
  · rcases isBlank_iff.mp blank with rfl | rfl | rfl | rfl <;> decide

/-- decimal digits are read in base ten; a zero in front of others lets only zero be read -/
theorem announced_decimal (filled : ds ≠ []) (all : ∀ c ∈ ds, c.isDigit = true)
    (blank : ∀ c ∈ rest, Token.isBlank c = true) :
    announced (ds ++ rest) = (10, decide (ds.head? = some '0')) := by
  obtain ⟨c, ds, rfl⟩ := List.exists_cons_of_ne_nil filled
  by_cases zero : c = '0'
  · subst zero
    cases behind : ds ++ rest with
    | nil => rw [List.cons_append, behind]; rfl
    | cons m r =>
      have inside : m ∈ ds ++ rest := behind ▸ List.mem_cons_self
      have plain : m.isDigit = true ∨ Token.isBlank m = true := by
        rcases List.mem_append.mp inside with hm | hm
        · exact .inl (all m (List.mem_cons_of_mem _ hm))
        · exact .inr (blank m hm)
      obtain ⟨hx, ho, hb⟩ := unmarked plain
      rw [List.cons_append, behind, announced, if_neg hx, if_neg ho, if_neg hb]
      rfl
  · rw [List.cons_append, announced]
    · simp [zero]
    · exact fun m r e => zero (List.cons.inj e).1
    · exact fun e => zero (List.cons.inj e).1

theorem tooLong?_eq_none (short : ∀ l ∈ limit, ds.length ≤ l) :
    tooLong? limit 10 (ds ++ rest) rest = none := by
  unfold tooLong?
  split
  · refine LongDecimal.of?_eq_none.mpr fun l hl => Nat.le_trans (List.length_filter_le ..) ?_
    rw [List.length_append, Nat.add_sub_cancel, List.take_left]
    exact short l hl
  · rfl

theorem unsigned_decimal (filled : ds ≠ []) (all : ∀ c ∈ ds, c.isDigit = true)
    (short : ∀ l ∈ limit, ds.length ≤ l) (blank : ∀ c ∈ rest, Token.isBlank c = true) :
    unsigned limit 0 (ds ++ rest) =
      if ds.head? = some '0' ∧ digitsValue 10 ds ≠ 0 then .error none
      else .ok (digitsValue 10 ds) := by
  have ends : rest.all isBlank = true :=
    List.all_eq_true.mpr fun c hc => isBlank_of_token (blank c hc)
  unfold unsigned
  simp only [announced_decimal filled all blank, if_true,
    natural_append filled (digits_decimal all) blank, tooLong?_eq_none short, ends]
  by_cases lead : ds.head? = some '0' <;> by_cases zero : digitsValue 10 ds = 0 <;>
    simp [lead, zero]

theorem unsigned_hex (filled : ds ≠ []) (all : ∀ c ∈ ds, isHexDigit c = true)
    (blank : ∀ c ∈ rest, Token.isBlank c = true) :
    unsigned limit 0 ('0' :: 'x' :: (ds ++ rest)) = .ok (digitsValue 16 ds) := by
  have ends : rest.all isBlank = true :=
    List.all_eq_true.mpr fun c hc => isBlank_of_token (blank c hc)
  have body : dropMark 'x' ('0' :: 'x' :: (ds ++ rest)) = ds ++ rest := by
    obtain ⟨c, ds, rfl⟩ := List.exists_cons_of_ne_nil filled
    obtain ⟨d, -, value⟩ := digits_hex all c List.mem_cons_self
    rw [dropMark, if_pos (by decide)]
    exact fun r e => ne_underscore value (List.cons.inj e).1
  have base : announced ('0' :: 'x' :: (ds ++ rest)) = (16, false) := rfl
  have free : tooLong? limit 16 (ds ++ rest) rest = none := rfl
  unfold unsigned
  simp only [base, if_true, markOf, body, if_neg (show (16 : Nat) ≠ 10 by decide),
    natural_append filled (digits_hex all) blank, free, ends]
  exact if_pos (by simp)

/-! ## numbers in their text -/

theorem isAscii_of_token (h : Token.isBlank c = true) : isAscii c = true := by
  rcases isBlank_iff.mp h with rfl | rfl | rfl | rfl <;> rfl

theorem isAscii_of_digits (h : Digits b ds) (hc : c ∈ ds) : isAscii c = true := by
  obtain ⟨d, -, value⟩ := h c hc
  exact decide_eq_true (toNat_lt_of_isAlphanum (isAlphanum_of_digitValue? value))

theorem plain_ascii (h : ∀ c ∈ s, isAscii c = true) : plain s = s :=
  if_pos (List.all_eq_true.mpr h)

variable {text : String}

/-- white space in front of a digit does not count -/
theorem read_behind (split : text.toList = blanks ++ c :: s)
    (blank : ∀ d ∈ blanks, Token.isBlank d = true) (digit : c.isDigit = true)
    (ascii : ∀ d ∈ s, isAscii d = true) : read limit text =
      ((unsigned limit 0 (c :: s)).map fun n => (n : Int)).mapError
        fun fault => (fault.map Fault.long).getD (.malformed 0 text) := by
  have same : plain text.toList = text.toList := by
    refine plain_ascii fun d hd => ?_
    rw [split, List.mem_append, List.mem_cons] at hd
    rcases hd with hd | rfl | hd
    · exact isAscii_of_token (blank d hd)
    · exact decide_eq_true (toNat_lt_of_isAlphanum (isAlphanum_of_digitValue? (if_pos digit)))
    · exact ascii d hd
  have dark : ¬ isBlank c = true := by
    obtain ⟨d, hd, rfl⟩ := exists_digitChar_of_isDigit digit
    have all : ∀ d < 10, ¬ isBlank d.digitChar = true := by decide
    exact all d hd
  have core : text.toList.dropWhile isBlank = c :: s := by
    rw [split, List.dropWhile_append_of_pos fun d hd => isBlank_of_token (blank d hd),
      List.dropWhile_cons_of_neg dark]
  unfold read readIn
  rw [same, core]
  split
  · next e =>
    rw [(List.cons.inj e).1] at digit
    cases digit
  · next e =>
    rw [(List.cons.inj e).1] at digit
    cases digit
  · rfl

theorem readNumeral_unmarked (h : text.toList.head? ≠ some '#') :
    readNumeral limit text = read limit text := by
  unfold readNumeral
  split
  · next r e => exact absurd (by rw [e]; rfl) h
  · rfl

/-- a numeral that the host reads, with white space around it, is read unless it is a decimal with zeros
in front, provided that its mark does not stand behind white space -/
theorem readNumeral_numeral {v : Measure} (numeral : Numeral s n) (reads : Reads v s)
    (split : text.toList = blanks ++ (s ++ rest))
    (front : ∀ c ∈ blanks, Token.isBlank c = true) (back : ∀ c ∈ rest, Token.isBlank c = true)
    (marked : s.head? = some '#' → blanks = []) :
    readNumeral v.digits text =
      if s.head? = some '0' ∧ n ≠ 0 then .error (.malformed 0 text) else .ok n := by
  cases numeral with
  | decimal filled all =>
    obtain ⟨c, s, rfl⟩ := List.exists_cons_of_ne_nil filled
    have digit := all c List.mem_cons_self
    have short : ∀ l ∈ v.digits, (c :: s).length ≤ l := reads fun mark => by
      cases mark
      cases digit
    have number := unsigned_decimal filled all short back
    have unmarked : text.toList.head? ≠ some '#' := by
      rw [split]
      cases blanks with
      | nil =>
        rintro ⟨⟩
        cases digit
      | cons d ds =>
        have blank := front d List.mem_cons_self
        rintro ⟨⟩
        cases blank
    rw [List.cons_append] at split number
    rw [readNumeral_unmarked unmarked, read_behind split front digit, number]
    · split_ifs <;> rfl
    · exact List.forall_mem_append.mpr
        ⟨fun d hd => isAscii_of_digits (digits_decimal all) (List.mem_cons_of_mem c hd),
          fun d hd => isAscii_of_token (back d hd)⟩
  | @hex ds filled all =>
    obtain rfl := marked rfl
    have read_text : readNumeral v.digits text =
        read v.digits (String.ofList ('0' :: 'x' :: (ds ++ rest))) := by
      unfold readNumeral
      rw [split]
      rfl
    have behind : (String.ofList ('0' :: 'x' :: (ds ++ rest))).toList =
        [] ++ '0' :: 'x' :: (ds ++ rest) := String.toList_ofList
    rw [read_text, read_behind behind (by simp) rfl, unsigned_hex filled all back]
    · rfl
    · exact List.forall_mem_cons.mpr ⟨rfl, List.forall_mem_append.mpr
        ⟨fun d hd => isAscii_of_digits (digits_hex all) hd,
          fun d hd => isAscii_of_token (back d hd)⟩⟩

end IntegerText

/-! ## bindings -/

namespace Binding

open IntegerText

variable {blanks s rest : List Char} {name text : String}

theorem dropBlanks_append (front : ∀ c ∈ blanks, isSpace c = true)
    (first : ∀ c ∈ s.head?, isSpace c = false) : dropBlanks (blanks ++ s) = s := by
  unfold dropBlanks
  rw [List.dropWhile_append_of_pos front]
  cases s with
  | nil => rfl
  | cons c s => exact List.dropWhile_cons_of_neg (by simp [first c rfl])

/-- white space on both sides is trimmed -/
theorem trimmed_append (filled : s ≠ []) (front : ∀ c ∈ blanks, isSpace c = true)
    (back : ∀ c ∈ rest, isSpace c = true) (visible : ∀ c ∈ s, isSpace c = false) :
    trimmed (blanks ++ (s ++ rest)) = s := by
  have first : ∀ c ∈ (s ++ rest).head?, isSpace c = false := by
    obtain ⟨d, r, rfl⟩ := List.exists_cons_of_ne_nil filled
    rintro c ⟨⟩
    exact visible d List.mem_cons_self
  have last : ∀ c ∈ s.reverse.head?, isSpace c = false := fun c hc =>
    visible c (List.mem_reverse.mp (List.mem_of_head? hc))
  unfold trimmed
  rw [dropBlanks_append front first, List.reverse_append,
    dropBlanks_append (by simpa using back) last, List.reverse_reverse]

/-- the name ends at the first equals sign -/
theorem read_named {limit : Option Nat} (h : '=' ∉ name.toList) :
    read limit (name ++ "=" ++ text) =
    ((readNumeral limit (String.ofList (trimmed text.toList))).mapError .value).map
      fun n => (String.ofList (trimmed name.toList), n) := by
  have split : (name ++ "=" ++ text).toList = name.toList ++ '=' :: text.toList := by simp
  have inside : ∀ c ∈ name.toList, decide (c ≠ '=') = true := fun c hc =>
    decide_eq_true fun e => h (e ▸ hc)
  have before : (name ++ "=" ++ text).toList.takeWhile (· ≠ '=') = name.toList := by
    rw [split, List.takeWhile_append_of_pos inside, List.takeWhile_cons_of_neg (by simp),
      List.append_nil]
  have behind : (name ++ "=" ++ text).toList.dropWhile (· ≠ '=') = '=' :: text.toList := by
    rw [split, List.dropWhile_append_of_pos inside, List.dropWhile_cons_of_neg (by simp)]
  unfold read
  rw [before, behind]
  dsimp only
  cases readNumeral limit (String.ofList (trimmed text.toList)) <;> rfl

end Binding

/-! ## one number for the lexer -/

namespace IntegerText

variable {v : Measure} {p q : Position} {n : Nat} {s : List Char} {text : String}

/-- the first character that is no white space -/
def opening? (text : String) : Option Char := (text.toList.dropWhile Token.isBlank).head?

/-- a text that is one number is its numeral with white space around it -/
theorem numeral_of_tokens (h : tokens v text = .ok [⟨.number n, p⟩, .atEnd q]) :
    ∃ blanks s rest, text.toList = blanks ++ (s ++ rest) ∧ Numeral s n ∧ Reads v s ∧
      (∀ c ∈ blanks, Token.isBlank c = true) ∧ ∀ c ∈ rest, Token.isBlank c = true := by
  have spaced := tokens_iff_spaced.mp h
  generalize text.toList = chars at spaced
  cases spaced with
  | @token _ blanks s rest x ts front spelled more =>
    cases spelled with
    | number numeral _ read =>
      refine ⟨blanks, s, rest, List.append_assoc .., numeral, read, front, ?_⟩
      cases more with
      | ending back => exact back
      | token _ _ none => cases none

theorem isSpace_of_token {c : Char} (h : Token.isBlank c = true) : isSpace c = true := by
  rcases isBlank_iff.mp h with rfl | rfl | rfl | rfl <;> rfl

theorem isSpace_of_digits {b : Nat} {ds : List Char} (h : Digits b ds) :
    ∀ c ∈ ds, isSpace c = false := by
  intro c hc
  obtain ⟨d, -, value⟩ := h c hc
  exact forall_ascii (P := fun c => (digitValue? c).isSome = true → isSpace c = false) (by decide)
    (toNat_lt_of_isAlphanum (isAlphanum_of_digitValue? value)) (by rw [value]; rfl)

theorem isSpace_of_numeral (h : Numeral s n) : ∀ c ∈ s, isSpace c = false := by
  cases h with
  | decimal _ all => exact isSpace_of_digits (digits_decimal all)
  | hex _ all =>
    exact List.forall_mem_cons.mpr ⟨rfl, List.forall_mem_cons.mpr
      ⟨rfl, isSpace_of_digits (digits_hex all)⟩⟩

/-- what is one number for the lexer is that number when it is typed, as the value of a name and as an
address, but for decimals with zeros in front, which are refused; of an address whose mark stands behind
white space nothing is said -/
theorem readNumeral_of_tokens (h : tokens v text = .ok [⟨.number n, p⟩, .atEnd q]) :
    ((opening? text = some '#' → text.toList.head? = some '#') → readNumeral v.digits text =
        if opening? text = some '0' ∧ n ≠ 0 then .error (.malformed 0 text) else .ok n) ∧
      ∀ name : String, '=' ∉ name.toList → Binding.read v.digits (name ++ "=" ++ text) =
        if opening? text = some '0' ∧ n ≠ 0 then
          .error (.value (.malformed 0 (String.ofList (Binding.trimmed text.toList))))
        else .ok (String.ofList (Binding.trimmed name.toList), n) := by
  obtain ⟨blanks, s, rest, split, numeral, reads, front, back⟩ := numeral_of_tokens h
  obtain ⟨c, r, rfl, dark⟩ := numeral.cons
  have opens : opening? text = (c :: r).head? := by
    unfold opening?
    rw [split, List.dropWhile_append_of_pos front, List.cons_append,
      List.dropWhile_cons_of_neg (by simp [dark])]
    rfl
  rw [opens]
  constructor
  · intro marked
    refine readNumeral_numeral numeral reads split front back fun mark => ?_
    have first := marked mark
    rw [split] at first
    cases blanks with
    | nil => rfl
    | cons d ds =>
      -- the text would start with white space
      have blank := front d List.mem_cons_self
      cases first
      cases blank
  · intro name noSign
    have core : Binding.trimmed text.toList = c :: r := by
      rw [split]
      exact Binding.trimmed_append (List.cons_ne_nil c r)
        (fun d hd => isSpace_of_token (front d hd)) (fun d hd => isSpace_of_token (back d hd))
        (isSpace_of_numeral numeral)
    have bare : (String.ofList (c :: r)).toList = [] ++ ((c :: r) ++ []) := by simp
    have number := readNumeral_numeral numeral reads bare (by simp) (by simp) fun _ => rfl
    rw [Binding.read_named noSign, core, number]
    split_ifs <;> rfl

/-- the number of `#x0fF` at the end of a line, as an address and as the value of `bank` -/
theorem readNumeral_of_tokens_hex :
    tokens (.whole 8 (some hostDigits)) "#x0fF\n" = .ok [⟨.number 255, ⟨1, 1⟩⟩, .atEnd ⟨2, 1⟩] ∧
      readNumeral (some hostDigits) "#x0fF\n" = .ok 255 ∧
      Binding.read (some hostDigits) ("bank" ++ "=" ++ "#x0fF\n") = .ok ("bank", 255) := by
  have number :
      tokens (.whole 8 (some hostDigits)) "#x0fF\n" = .ok [⟨.number 255, ⟨1, 1⟩⟩, .atEnd ⟨2, 1⟩] :=
    ok_of_toOption (by decide +kernel)
  obtain ⟨address, binding⟩ := readNumeral_of_tokens number
  exact ⟨number, address fun _ => rfl, binding "bank" (by decide)⟩

/-- a description may write ten as `010`; typed, it is refused -/
theorem readNumeral_padded :
    tokens (.whole 64 (some hostDigits)) "010" = .ok [⟨.number 10, ⟨1, 1⟩⟩, .atEnd ⟨1, 4⟩] ∧
      readNumeral (some hostDigits) "010" = .error (.malformed 0 "010") :=
  ⟨ok_of_toOption (by decide +kernel), error_of_error? (by decide)⟩

end IntegerText

end BankSwitch
