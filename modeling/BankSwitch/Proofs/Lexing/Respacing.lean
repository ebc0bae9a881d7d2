import BankSwitch.Proofs.Lexing.Spacing

/-!
# Other white space

The spellings that a text falls into (`Token.SpelledOut`) can be woven with other white space: before
the first, behind the last, and between two of them, where it may not be none.  Each spelling is the
longest one in its new place as well, since no lexeme goes on into white space; so the woven text has
the same lexemes (`Token.tokens_weave`).
-/

namespace BankSwitch.Token

variable {v : Measure} {p : Position} {x : Lexeme} {s rest rest' : List Char} {xs : List Spelled}

/-! ## spellings and gaps -/

/-- the text falls into the lexemes with their spellings, each the longest one where it stands; there
is white space before them and behind the last, or none -/
inductive SpelledOut (v : Measure) : List Char → List Spelled → Prop
  | ending {blanks : List Char} (blank : ∀ c ∈ blanks, isBlank c = true) : SpelledOut v blanks []
  | lexeme {blanks rest : List Char} {x : Spelled} {xs : List Spelled}
      (blank : ∀ c ∈ blanks, isBlank c = true) (spelled : Longest v x.lexeme x.spelling rest)
      (more : SpelledOut v rest xs) : SpelledOut v (blanks ++ x.spelling ++ rest) (x :: xs)

/-- a gap, and then spellings, each with the gap behind it -/
def weave (gap : List Char) : List (List Char × List Char) → List Char
  | [] => gap
  | (s, behind) :: more => gap ++ s ++ weave behind more

/-- gaps are white space, and those between two spellings are not empty -/
structure Gaps (gap : List Char) (woven : List (List Char × List Char)) : Prop where
  first : ∀ c ∈ gap, isBlank c = true
  behind : ∀ m ∈ woven, ∀ c ∈ m.2, isBlank c = true
  between : ∀ m ∈ woven.dropLast, m.2 ≠ []

theorem Gaps.tail {gap behind : List Char} {woven : List (List Char × List Char)}
    (h : Gaps gap ((s, behind) :: woven)) : Gaps behind woven where
  first := h.behind _ List.mem_cons_self
  behind m hm := h.behind m (List.mem_cons_of_mem _ hm)
  between m hm := by
    refine h.between m ?_
    cases woven with
    | nil => cases hm
    | cons n woven => exact List.mem_cons_of_mem _ hm

/-- behind a spelling, the text is at its end or goes on with white space -/
theorem Gaps.blank_or_end {gap behind : List Char} {woven : List (List Char × List Char)}
    (h : Gaps gap ((s, behind) :: woven)) : ∀ c ∈ (weave behind woven).head?, isBlank c = true := by
  cases woven with
  | nil => exact fun c hc => h.tail.first c (List.mem_of_head? hc)
  | cons m woven =>
    have some : behind ≠ [] := h.between (s, behind) List.mem_cons_self
    obtain ⟨d, ds, rfl⟩ := List.exists_cons_of_ne_nil some
    rintro c ⟨⟩
    exact h.tail.first d List.mem_cons_self

/-! ## one spelling -/

/-- no symbol has white space in it -/
theorem symbols_unbroken : ∀ m ∈ symbols, ∀ c ∈ m.1, isBlank c = false := by
  have all : (symbols.all fun m => m.1.all fun c => !isBlank c) = true := by decide
  intro m hm c hc
  have unbroken := List.all_eq_true.mp (List.all_eq_true.mp all m hm) c hc
  rwa [Bool.not_eq_true'] at unbroken

/-- a spelling stays the longest one where white space is put behind it -/
theorem Longest.before_blank (h : Longest v x s rest) (blank : ∀ c ∈ rest'.head?, isBlank c = true) :
    Longest v x s rest' := by
  have stops : Stops rest' := fun c hc => isWordChar_of_isBlank (blank c hc)
  cases h with
  | number numeral _ read bound small => exact .number numeral stops read bound small
  | word first inner => exact .word first inner stops
  | symbol listed =>
    refine .symbol listed fun m hm front => ?_
    obtain short | ⟨b, hb⟩ := List.prefix_or_prefix_of_prefix front (List.prefix_append s rest')
    · exact short.length_le
    · cases b with
      | nil => rw [← hb, List.append_nil]
      | cons c b =>
        -- a longer symbol would go on with the white space
        have unbroken := symbols_unbroken m hm c (by rw [← hb]; simp)
        rw [← hb, List.prefix_append_right_inj] at front
        obtain ⟨r, rfl⟩ := front
        rw [blank c rfl] at unbroken
        cases unbroken

/-! ## whole texts -/

/-- the lexemes of a text: those of its spellings, and its end -/
theorem tokensFrom_of_spelledOut (h : SpelledOut v s xs) :
    ∃ ts, tokensFrom v p s = .ok ts ∧
      ts.map Token.lexeme = xs.map Spelled.lexeme ++ [.endOfInput] := by
  induction h generalizing p with
  | @ending blanks blank =>
    have all := tokensFrom_blanks (v := v) (p := p) blank []
    rw [List.append_nil] at all
    exact ⟨[.atEnd (p.after blanks)], by rw [all, tokensFrom], rfl⟩
  | @lexeme blanks rest x xs blank spelled more ih =>
    obtain ⟨ts, ahead, lexemes⟩ := ih (p := (p.after blanks).after x.spelling)
    refine ⟨⟨x.lexeme, p.after blanks⟩ :: ts, ?_, congrArg (x.lexeme :: ·) lexemes⟩
    rw [List.append_assoc, tokensFrom_blanks blank]
    exact tokensFrom_longest spelled ahead

theorem spelledOut_of_spaced {a : List Char} {ts : List Token} (h : Spaced v a s ts) :
    ∃ xs, SpelledOut v s xs ∧ ts.map Token.lexeme = xs.map Spelled.lexeme ++ [.endOfInput] := by
  induction h with
  | ending blank => exact ⟨[], .ending blank, rfl⟩
  | @token a blanks s rest x ts blank spelled more ih =>
    obtain ⟨xs, ahead, lexemes⟩ := ih
    exact ⟨⟨x, s⟩ :: xs, .lexeme (x := ⟨x, s⟩) blank spelled ahead, congrArg (x :: ·) lexemes⟩

/-- the tokens of a text are spelled out in it -/
theorem spelledOut_of_tokens {text : String} {ts : List Token} (h : tokens v text = .ok ts) :
    ∃ xs, SpelledOut v text.toList xs ∧
      ts.map Token.lexeme = xs.map Spelled.lexeme ++ [.endOfInput] :=
  spelledOut_of_spaced (spaced_of_tokensFrom (a := []) h)

/-- the spellings of a text, woven with gaps, are those of the woven text -/
theorem SpelledOut.woven {gap : List Char} {woven : List (List Char × List Char)}
    (h : SpelledOut v s xs) (spellings : woven.map Prod.fst = xs.map Spelled.spelling)
    (gaps : Gaps gap woven) : SpelledOut v (weave gap woven) xs := by
  induction h generalizing gap woven with
  | ending =>
    obtain rfl := List.map_eq_nil_iff.mp spellings
    exact .ending gaps.first
  | lexeme _ spelled _ ih =>
    obtain ⟨⟨t, behind⟩, woven, rfl, rfl, rest⟩ := List.map_eq_cons_iff.mp spellings
    exact .lexeme gaps.first (spelled.before_blank gaps.blank_or_end) (ih rest gaps.tail)

/-- a text and what its spellings are woven to have the same lexemes -/
theorem tokens_weave {text text' : String} {gap : List Char} {woven : List (List Char × List Char)}
    (h : SpelledOut v text.toList xs) (spellings : woven.map Prod.fst = xs.map Spelled.spelling)
    (gaps : Gaps gap woven) (respaced : text'.toList = weave gap woven) :
    ∃ ts ts', tokens v text = .ok ts ∧ tokens v text' = .ok ts' ∧
      ts'.map Token.lexeme = ts.map Token.lexeme := by
  obtain ⟨ts, lexes, lexemes⟩ := tokensFrom_of_spelledOut (p := .start) h
  obtain ⟨ts', lexes', lexemes'⟩ := tokensFrom_of_spelledOut (p := .start) (h.woven spellings gaps)
  refine ⟨ts, ts', lexes, ?_, lexemes'.trans lexemes.symm⟩
  unfold tokens
  rw [respaced]
  exact lexes'

end BankSwitch.Token
