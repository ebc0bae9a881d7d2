import BankSwitch.Proofs.Grammar.Text

/-!
# Places in a text

What the lexer has passed and what is still ahead of it make up the text at every step (`Reaches`), and
the place that it has come to is that of the first character ahead.  So every token and every error of
the lexer stands where its spelling stands.

* `tokensFrom_reached`, `tokensFrom_stopped`   what tokens and errors are at their places;
* `tokensFrom_before`   tokens stand one behind the other.
-/

namespace BankSwitch

/-! ## the order of places -/

namespace Position

/-- `p` comes first in a text -/
def Before (p q : Position) : Prop := p.line < q.line ∨ p.line = q.line ∧ p.column < q.column

theorem Before.trans {p q r : Position} (h : p.Before q) (h' : q.Before r) : p.Before r := by
  unfold Before at *
  omega

theorem Before.ne {p q : Position} (h : p.Before q) : p ≠ q := by
  rintro rfl
  unfold Before at h
  omega

theorem before_advance (p : Position) (c : Char) : p.Before (p.advance c) := by
  unfold advance Before
  split
  · exact .inl (Nat.lt_succ_self _)
  · exact .inr ⟨rfl, Nat.lt_succ_self _⟩

theorem before_after {cs : List Char} (h : cs ≠ []) (p : Position) : p.Before (p.after cs) := by
  induction cs generalizing p with
  | nil => exact absurd rfl h
  | cons c cs ih =>
    rw [after_cons]
    cases cs with
    | nil => exact before_advance p c
    | cons d cs => exact (before_advance p c).trans (ih (by simp) _)

end Position

namespace Token

variable {v : Measure} {p : Position} {c : Char} {r : List Char}

/-! ## spellings -/

/-- decimal digits, or digits in base sixteen behind their mark, and the number that they spell -/
inductive Numeral : List Char → Nat → Prop
  | decimal {ds : List Char} (some : ds ≠ []) (digits : ∀ d ∈ ds, d.isDigit = true) :
      Numeral ds (digitsValue 10 ds)
  | hex {ds : List Char} (some : ds ≠ []) (digits : ∀ d ∈ ds, CharClass.isHexDigit d = true) :
      Numeral ('#' :: 'x' :: ds) (digitsValue 16 ds)

/-- no letter, numeral or underscore stands in front -/
def Stops (rest : List Char) : Prop := ∀ c ∈ rest.head?, isWordChar c = false

/-- no word and no number goes on from `a` into `b` -/
def Parted (a b : List Char) : Prop := ∀ c ∈ a.getLast?, isWordChar c = true → Stops b

/-- the host reads the numeral: it is no decimal, or one that is not too long -/
def Reads (v : Measure) (s : List Char) : Prop :=
  s.head? ≠ some '#' → ∀ limit ∈ v.digits, s.length ≤ limit

/-- how a lexeme is spelled, and what may stand behind it -/
inductive SpelledAs (v : Measure) : Lexeme → List Char → List Char → Prop
  | number {spelling rest : List Char} {n limit : Nat} (numeral : Numeral spelling n)
      (stops : Stops rest) (read : Reads v spelling) (bound : v.limit = .ok limit)
      (small : n < limit) : SpelledAs v (.number n) spelling rest
  | word {spelling rest : List Char} (some : spelling ≠ []) (stops : Stops rest) :
      SpelledAs v (.spelled (wordKind spelling) (String.ofList spelling)) spelling rest
  | symbol {spelling rest : List Char} {k : Kind} (listed : (spelling, k) ∈ symbols) :
      SpelledAs v (.spelled k (String.ofList spelling)) spelling rest

theorem Numeral.ne_nil {s : List Char} {n : Nat} (h : Numeral s n) : s ≠ [] := by
  cases h with
  | decimal some => exact some
  | hex => exact List.cons_ne_nil _ _

theorem symbols_ne_nil : ∀ m ∈ symbols, m.1 ≠ [] := by decide

theorem SpelledAs.ne_nil {x : Lexeme} {spelling rest : List Char} (h : SpelledAs v x spelling rest) :
    spelling ≠ [] := by
  cases h with
  | number numeral => exact numeral.ne_nil
  | word some => exact some
  | symbol listed => exact symbols_ne_nil _ listed

/-- how the characters `s` can fail to begin with a lexeme -/
inductive Misspelled (v : Measure) (p : Position) (s : List Char) : ReadError → Prop
  | lexical {a b : List Char} (f : LexicalFault) (split : s = a ++ b) :
      Misspelled v p s (.lexical f (p.after a))
  | overflow {spelling rest : List Char} {n limit : Nat} (split : s = spelling ++ rest)
      (numeral : Numeral spelling n) (stops : Stops rest) (bound : v.limit = .ok limit)
      (large : limit ≤ n) : Misspelled v p s (.overflow n v.value p)
  | decimal {ds rest : List Char} {limit : Nat} (split : s = ds ++ rest)
      (digits : ∀ d ∈ ds, d.isDigit = true) (whole : ∀ d ∈ rest.head?, d.isDigit = false)
      (bound : v.digits = some limit) (long : limit < ds.length) :
      Misspelled v p s (.decimal ⟨ds.length, limit⟩)
  | width (f : WidthError) (none : v.limit = .error f) : Misspelled v p s (.width f)

theorem stops_or_suffix (rest : List Char) :
    Stops rest ∨ ∃ c r, rest = c :: r ∧ isWordChar c = true := by
  cases rest with
  | nil => exact .inl fun c hc => by cases hc
  | cons c r =>
    cases hc : isWordChar c with
    | true => exact .inr ⟨c, r, rfl, hc⟩
    | false =>
      refine .inl fun d hd => ?_
      cases hd
      exact hc

theorem head?_dropWhile (f : Char → Bool) (s : List Char) :
    ∀ d ∈ (s.dropWhile f).head?, f d = false := by
  intro d hd
  have h := List.head?_dropWhile_not f s
  rw [hd] at h
  simpa using h

theorem stops_dropWhile (s : List Char) : Stops (s.dropWhile isWordChar) :=
  head?_dropWhile isWordChar s

section finishNumber

variable {spelling rest : List Char} {n : Nat}

theorem finishNumber_of_stops (h : Stops rest) :
    finishNumber v p spelling n rest = finishNumber.fits v p n := by
  unfold finishNumber
  cases rest with
  | nil => rfl
  | cons c r =>
    dsimp only [List.head?_cons]
    rw [if_neg (by simp [h c rfl])]

theorem finishNumber_of_suffix {c : Char} {r : List Char} (h : isWordChar c = true) :
    finishNumber v p spelling n (c :: r) =
      .error (.lexical (.numberSuffix c) (p.after spelling)) := if_pos h

/-- what a number that may end and fits comes to -/
theorem finishNumber_eq_ok {x : Lexeme} (h : finishNumber v p spelling n rest = .ok x) :
    x = .number n ∧ Stops rest ∧ ∃ limit, v.limit = .ok limit ∧ n < limit := by
  obtain hs | ⟨c, r, rfl, hc⟩ := stops_or_suffix rest
  · rw [finishNumber_of_stops hs] at h
    unfold finishNumber.fits at h
    split at h
    · cases h
    · next l hl =>
      split at h
      · next hn =>
        cases h
        exact ⟨rfl, hs, l, hl, hn⟩
      · cases h
  · rw [finishNumber_of_suffix hc] at h
    cases h

theorem finishNumber_spelled (numeral : Numeral spelling n) (read : Reads v spelling) {x : Lexeme}
    (h : finishNumber v p spelling n rest = .ok x) : SpelledAs v x spelling rest := by
  obtain ⟨rfl, stops, _, bound, small⟩ := finishNumber_eq_ok h
  exact .number numeral stops read bound small

theorem finishNumber_misspelled (numeral : Numeral spelling n) {e : ReadError}
    (h : finishNumber v p spelling n rest = .error e) : Misspelled v p (spelling ++ rest) e := by
  obtain hs | ⟨c, r, rfl, hc⟩ := stops_or_suffix rest
  · rw [finishNumber_of_stops hs] at h
    unfold finishNumber.fits at h
    split at h
    · next f hf =>
      cases h
      exact .width f hf
    · next l hl =>
      split at h
      · cases h
      · next hn =>
        cases h
        exact .overflow rfl numeral hs hl (Nat.le_of_not_lt hn)
  · rw [finishNumber_of_suffix hc] at h
    cases h
    exact .lexical _ rfl

end finishNumber

/-! ## one lexeme -/

theorem digits_takeWhile (hc : c.isDigit = true) :
    ∀ d ∈ c :: r.takeWhile Char.isDigit, d.isDigit = true :=
  List.forall_mem_cons.mpr ⟨hc, List.all_eq_true.mp List.all_takeWhile⟩

theorem numeral_decimal (hc : c.isDigit = true) :
    Numeral (c :: r.takeWhile Char.isDigit) (digitsValue 10 (c :: r.takeWhile Char.isDigit)) :=
  .decimal (List.cons_ne_nil _ _) (digits_takeWhile hc)

theorem reads_decimal {ds : List Char} (h : LongDecimal.of? v.digits ds.length = none) :
    Reads v ds := fun _ => LongDecimal.of?_eq_none.mp h

theorem reads_hex (ds : List Char) : Reads v ('#' :: ds) := fun h => absurd rfl h

theorem numeral_hex (h : r.takeWhile CharClass.isHexDigit ≠ []) :
    Numeral ('#' :: 'x' :: r.takeWhile CharClass.isHexDigit)
      (digitsValue 16 (r.takeWhile CharClass.isHexDigit)) :=
  .hex h (List.all_eq_true.mp List.all_takeWhile)

theorem symbolAt?_some {spelling : List Char} {k : Kind}
    (h : symbolAt? (c :: r) = some (spelling, k)) :
    (spelling, k) ∈ symbols ∧ spelling ++ r.drop (spelling.length - 1) = c :: r := by
  have listed : (spelling, k) ∈ symbols := List.mem_of_find?_eq_some h
  refine ⟨listed, ?_⟩
  unfold symbolAt? at h
  have hp := List.find?_some h
  obtain ⟨rest, hr⟩ := List.isPrefixOf_iff_prefix.mp hp
  cases spelling with
  | nil => exact absurd rfl (symbols_ne_nil _ listed)
  | cons d ds =>
    cases hr
    simp

theorem hexNumber_spelled {q : Reading Spelled ('#' :: r)} (h : hexNumber v p r = .ok q) :
    q.value.spelling ++ q.rest = '#' :: r ∧ SpelledAs v q.value.lexeme q.value.spelling q.rest := by
  unfold hexNumber at h
  split at h
  · next r =>
    split at h
    · cases h
    · next hne =>
      obtain ⟨x, e, h⟩ := bind_ok h
      cases h
      refine ⟨?_, finishNumber_spelled (numeral_hex hne) (reads_hex _) e⟩
      exact congrArg ('#' :: 'x' :: ·) List.takeWhile_append_dropWhile
  · cases h

theorem hexNumber_misspelled {e : ReadError} (h : hexNumber v p r = .error e) :
    Misspelled v p ('#' :: r) e := by
  unfold hexNumber at h
  split at h
  · next r =>
    split at h
    · cases h
      exact .lexical (a := ['#', 'x']) _ rfl
    · next hne =>
      obtain he | ⟨x, -, h⟩ := bind_error h
      · have wrong := finishNumber_misspelled (numeral_hex hne) he
        rwa [List.cons_append, List.cons_append, List.takeWhile_append_dropWhile] at wrong
      · cases h
  · cases h
    exact .lexical (a := ['#']) _ rfl

theorem lexemeAt_spelled {q : Reading Spelled (c :: r)} (h : lexemeAt v p c r = .ok q) :
    q.value.spelling ++ q.rest = c :: r ∧ SpelledAs v q.value.lexeme q.value.spelling q.rest := by
  unfold lexemeAt at h
  split at h
  · next hc =>
    dsimp only at h
    split at h
    · cases h
    · next short =>
      obtain ⟨x, e, h⟩ := bind_ok h
      cases h
      refine ⟨?_, finishNumber_spelled (numeral_decimal hc) (reads_decimal short) e⟩
      exact congrArg (c :: ·) List.takeWhile_append_dropWhile
  split at h
  · next hc =>
    subst hc
    exact hexNumber_spelled h
  split at h
  · cases h
    refine ⟨?_, .word (List.cons_ne_nil _ _) (stops_dropWhile r)⟩
    exact congrArg (c :: ·) List.takeWhile_append_dropWhile
  split at h
  · next spelling kind hs =>
    cases h
    obtain ⟨listed, hr⟩ := symbolAt?_some hs
    exact ⟨hr, .symbol listed⟩
  · cases h

theorem lexemeAt_misspelled {e : ReadError} (h : lexemeAt v p c r = .error e) :
    Misspelled v p (c :: r) e := by
  unfold lexemeAt at h
  split at h
  · next hc =>
    have split : c :: r = (c :: r.takeWhile Char.isDigit) ++ r.dropWhile Char.isDigit :=
      congrArg (c :: ·) List.takeWhile_append_dropWhile.symm
    dsimp only at h
    split at h
    · next fault found =>
      cases h
      obtain ⟨limit, bound, long, rfl⟩ := LongDecimal.of?_eq_some.mp found
      exact .decimal split (digits_takeWhile hc) (head?_dropWhile Char.isDigit r) bound long
    · obtain he | ⟨x, -, h⟩ := bind_error h
      · exact split ▸ finishNumber_misspelled (numeral_decimal hc) he
      · cases h
  split at h
  · next hc =>
    subst hc
    exact hexNumber_misspelled h
  split at h
  · cases h
  split at h
  · cases h
  · cases h
    exact .lexical (a := []) _ rfl

/-! ## the steps of the lexer -/

/-- on the text, the lexer comes to `b` having passed `a` -/
inductive Reaches (v : Measure) (text : List Char) : List Char → List Char → Prop
  | start : Reaches v text [] text
  | blank {a r : List Char} {c : Char} (before : Reaches v text a (c :: r))
      (skipped : isBlank c = true) : Reaches v text (a ++ [c]) r
  | lexeme {a r : List Char} {c : Char} {q : Reading Spelled (c :: r)}
      (before : Reaches v text a (c :: r)) (taken : lexemeAt v (Position.start.after a) c r = .ok q) :
      Reaches v text (a ++ q.value.spelling) q.rest

/-- tokens that the lexer makes of what is ahead of it, where the first of them is spelled out -/
inductive Reached (v : Measure) (text : List Char) : List Token → Prop
  | lexeme {a r : List Char} {c : Char} {q : Reading Spelled (c :: r)} {more : List Token}
      (reach : Reaches v text a (c :: r)) (taken : lexemeAt v (Position.start.after a) c r = .ok q)
      (ahead : tokensFrom v (Position.start.after a) (c :: r) =
        .ok (⟨q.value.lexeme, Position.start.after a⟩ :: more)) :
      Reached v text (⟨q.value.lexeme, Position.start.after a⟩ :: more)
  | atEnd {a : List Char} (reach : Reaches v text a []) :
      Reached v text [.atEnd (Position.start.after a)]

section Reaches

variable {text a b : List Char} {ts : List Token}

theorem Reaches.append (h : Reaches v text a b) : a ++ b = text := by
  induction h with
  | start => rfl
  | blank before skipped ih => rw [List.append_assoc, ← ih]; rfl
  | lexeme before taken ih => rw [List.append_assoc, (lexemeAt_spelled taken).1, ih]

theorem isWordChar_of_isBlank (h : isBlank c = true) : isWordChar c = false := by
  obtain rfl | rfl | rfl | rfl := isBlank_iff.mp h <;> decide

theorem symbols_plain : ∀ m ∈ symbols, ∀ d ∈ m.1, isWordChar d = false := by
  have all : (symbols.all fun m => m.1.all fun d => !isWordChar d) = true := by decide
  intro m hm d hd
  have plain := List.all_eq_true.mp (List.all_eq_true.mp all m hm) d hd
  rwa [Bool.not_eq_true'] at plain

theorem SpelledAs.parted {x : Lexeme} {spelling rest : List Char}
    (h : SpelledAs v x spelling rest) : Parted spelling rest := by
  intro d hd hw
  cases h with
  | number numeral stops => exact stops
  | word some stops => exact stops
  | symbol listed =>
    rw [symbols_plain _ listed d (List.mem_of_getLast? hd)] at hw
    cases hw

/-- the lexer stops nowhere within a word or a number -/
theorem Reaches.parted (h : Reaches v text a b) : Parted a b := by
  intro d hd hw
  cases h with
  | start => cases hd
  | @blank a r c before skipped =>
    rw [List.getLast?_concat] at hd
    obtain rfl := Option.some.inj hd
    rw [isWordChar_of_isBlank skipped] at hw
    cases hw
  | lexeme before taken =>
    have spelled := (lexemeAt_spelled taken).2
    have last := List.getLast?_eq_some_getLast spelled.ne_nil
    rw [List.getLast?_append, last, Option.some_or, ← last] at hd
    exact spelled.parted d hd hw

theorem tokensFrom_cons_ok (h : tokensFrom v p (c :: r) = .ok ts) (hc : ¬ isBlank c = true) :
    ∃ q more, lexemeAt v p c r = .ok q ∧
      tokensFrom v (p.after q.value.spelling) q.rest = .ok more ∧ ts = ⟨q.value.lexeme, p⟩ :: more := by
  rw [tokensFrom, if_neg hc] at h
  obtain ⟨q, e, h⟩ := bind_ok h
  obtain ⟨more, em, h⟩ := bind_ok h
  cases h
  exact ⟨q, more, e, em, rfl⟩

theorem tokensFrom_cons_error {e : ReadError} (h : tokensFrom v p (c :: r) = .error e)
    (hc : ¬ isBlank c = true) : lexemeAt v p c r = .error e ∨ ∃ q, lexemeAt v p c r = .ok q ∧
      tokensFrom v (p.after q.value.spelling) q.rest = .error e := by
  rw [tokensFrom, if_neg hc] at h
  obtain h | ⟨q, eq, h⟩ := bind_error h
  · exact .inl h
  · obtain h | ⟨more, -, h⟩ := bind_error h
    · exact .inr ⟨q, eq, h⟩
    · cases h

theorem tokensFrom_reached (h : Reaches v text a b) {u w : List Token} {t : Token}
    (e : tokensFrom v (Position.start.after a) b = .ok (u ++ t :: w)) :
    Reached v text (t :: w) := by
  generalize hp : Position.start.after a = p at e
  induction p, b using tokensFrom.induct generalizing a u with
  | case1 p =>
    subst hp
    rw [tokensFrom] at e
    have single := Except.ok.inj e
    cases u with
    | nil =>
      cases single
      exact .atEnd h
    | cons t' u => simp at single
  | case2 p c r hc ih =>
    subst hp
    rw [tokensFrom, if_pos hc] at e
    exact ih (h.blank hc) (Position.after_append ..) e
  | case3 p c r hc ih =>
    subst hp
    obtain ⟨q, more, eq, em, hs⟩ := tokensFrom_cons_ok e hc
    cases u with
    | nil =>
      cases hs
      exact .lexeme h eq e
    | cons t' u =>
      cases hs
      exact ih q.value q.rest q.shorter (h.lexeme eq) (Position.after_append ..) em

theorem tokensFrom_stopped (h : Reaches v text a b) {err : ReadError}
    (e : tokensFrom v (Position.start.after a) b = .error err) :
    ∃ a c r, Reaches v text a (c :: r) ∧ lexemeAt v (Position.start.after a) c r = .error err := by
  generalize hp : Position.start.after a = p at e
  induction p, b using tokensFrom.induct generalizing a with
  | case1 p =>
    rw [tokensFrom] at e
    cases e
  | case2 p c r hc ih =>
    subst hp
    rw [tokensFrom, if_pos hc] at e
    exact ih (h.blank hc) (Position.after_append ..) e
  | case3 p c r hc ih =>
    subst hp
    obtain e | ⟨q, eq, e⟩ := tokensFrom_cons_error e hc
    · exact ⟨_, c, r, h, e⟩
    · exact ih q.value q.rest q.shorter (h.lexeme eq) (Position.after_append ..) e

theorem tokens_reached {text : String} {u w : List Token} {t : Token}
    (h : tokens v text = .ok (u ++ t :: w)) : Reached v text.toList (t :: w) :=
  tokensFrom_reached .start h

theorem tokens_stopped {text : String} {e : ReadError} (h : tokens v text = .error e) :
    ∃ a c r, Reaches v text.toList a (c :: r) ∧
      lexemeAt v (Position.start.after a) c r = .error e := tokensFrom_stopped .start h

end Reaches

/-! ## the places of tokens -/

section places

variable {s : List Char} {ts : List Token}

theorem tokensFrom_before (e : tokensFrom v p s = .ok ts) :
    (∀ t ∈ ts, p = t.position ∨ p.Before t.position) ∧
      ts.Pairwise fun t t' => t.position.Before t'.position := by
  induction p, s using tokensFrom.induct generalizing ts with
  | case1 p =>
    rw [tokensFrom] at e
    cases e
    refine ⟨fun t ht => ?_, List.pairwise_singleton ..⟩
    obtain rfl := List.mem_singleton.mp ht
    exact .inl rfl
  | case2 p c r hc ih =>
    rw [tokensFrom, if_pos hc] at e
    obtain ⟨behind, ordered⟩ := ih e
    have step := Position.before_advance p c
    refine ⟨fun t ht => .inr ?_, ordered⟩
    obtain h | h := behind t ht
    · exact h ▸ step
    · exact step.trans h
  | case3 p c r hc ih =>
    obtain ⟨q, more, eq, em, rfl⟩ := tokensFrom_cons_ok e hc
    obtain ⟨behind, ordered⟩ := ih q.value q.rest q.shorter em
    have step := Position.before_after (lexemeAt_spelled eq).2.ne_nil p
    have ahead : ∀ t ∈ more, p.Before t.position := fun t ht => by
      obtain h | h := behind t ht
      · exact h ▸ step
      · exact step.trans h
    refine ⟨fun t ht => ?_, List.pairwise_cons.mpr ⟨ahead, ordered⟩⟩
    obtain rfl | ht := List.mem_cons.mp ht
    · exact .inl rfl
    · exact .inr (ahead t ht)

/-- no two tokens of a text have the same place -/
theorem index_unique {text : String} (e : tokens v text = .ok ts) {i j : Nat} {t t' : Token}
    (hi : ts[i]? = some t) (hj : ts[j]? = some t') (h : t.position = t'.position) : i = j := by
  have ordered := List.pairwise_iff_getElem.mp (tokensFrom_before e).2
  obtain ⟨li, rfl⟩ := List.getElem?_eq_some_iff.mp hi
  obtain ⟨lj, rfl⟩ := List.getElem?_eq_some_iff.mp hj
  obtain lt | eq | gt := Nat.lt_trichotomy i j
  · exact absurd h (ordered i j li lj lt).ne
  · exact eq
  · exact absurd h.symm (ordered j i lj li gt).ne

end places

/-! ## the end of a text -/

theorem SpelledAs.terminal_ne {x : Lexeme} {spelling rest : List Char}
    (h : SpelledAs v x spelling rest) (p : Position) :
    (⟨x, p⟩ : Token).terminal ≠ .mark .endOfInput := by
  cases h with
  | number => rintro ⟨⟩
  | word => exact fun e => wordKind_ne_endOfInput _ (Terminal.mark.inj e)
  | symbol listed =>
    have hk : ∀ m ∈ symbols, m.2 ≠ .endOfInput := by decide
    exact fun e => hk _ listed (Terminal.mark.inj e)

end Token

/-- the end of the text stands at the end, and nowhere else -/
def Ended (ts : List Token) : Prop :=
  ∃ front, terminals ts = front ++ [.mark .endOfInput] ∧ .mark .endOfInput ∉ front

theorem Token.tokensFrom_ended {v : Measure} {p : Position} {s : List Char} {ts : List Token}
    (e : tokensFrom v p s = .ok ts) : Ended ts := by
  induction p, s using tokensFrom.induct generalizing ts with
  | case1 p =>
    rw [tokensFrom] at e
    cases e
    exact ⟨[], rfl, List.not_mem_nil⟩
  | case2 p c r hc ih =>
    rw [tokensFrom, if_pos hc] at e
    exact ih e
  | case3 p c r hc ih =>
    obtain ⟨q, more, eq, em, rfl⟩ := tokensFrom_cons_ok e hc
    obtain ⟨front, hfront, hend⟩ := ih q.value q.rest q.shorter em
    refine ⟨_ :: front, by rw [terminals_cons, hfront, List.cons_append], ?_⟩
    rw [List.mem_cons, not_or]
    exact ⟨((lexemeAt_spelled eq).2.terminal_ne p).symm, hend⟩

end BankSwitch
