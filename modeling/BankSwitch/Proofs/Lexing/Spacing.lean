import Mathlib.Data.List.Induction
import BankSwitch.Proofs.Lexing.Places
import BankSwitch.Proofs.Printing.Lexeme

/-!
# The spellings that a text consists of

A text that falls into tokens is white space and spellings in turn, and nothing else: each token
stands where its spelling begins, and its spelling is the longest one there (`Token.Spaced`).  The
other way round, whatever is spelled so falls into these tokens (`Token.tokens_iff_spaced`).
-/

namespace BankSwitch

/-! ## places by counting -/

namespace Position

/-- the place behind a text: one line more than it has line feeds, and one column more than it has
characters behind the last of them -/
def behind (a : List Char) : Position :=
  ⟨1 + a.count '\n', 1 + (a.reverse.takeWhile (· ≠ '\n')).length⟩

theorem behind_concat (a : List Char) (c : Char) : behind (a ++ [c]) = (behind a).advance c := by
  unfold behind advance
  rw [List.reverse_append, List.reverse_singleton, List.singleton_append, List.count_append]
  by_cases hc : c = '\n'
  · subst hc
    rw [if_pos rfl, List.takeWhile_cons_of_neg (by simp), List.count_singleton_self]
    rfl
  · rw [if_neg hc, List.takeWhile_cons_of_pos (by simpa using hc), List.count_singleton]
    simp [hc, Nat.add_assoc]

theorem start_after (a : List Char) : start.after a = behind a := by
  induction a using List.reverseRecOn with
  | nil => rfl
  | append_singleton a c ih => rw [after_append, ih, behind_concat, after_cons, after_nil]

theorem behind_after (a b : List Char) : (behind a).after b = behind (a ++ b) := by
  rw [← start_after, ← start_after, after_append]

end Position

namespace Token

variable {v : Measure} {p : Position} {x : Lexeme} {s rest : List Char}

/-! ## longest spellings -/

/-- the lexeme is spelled by `s` in front of `rest`, where it could not be spelled longer -/
inductive Longest (v : Measure) : Lexeme → List Char → List Char → Prop
  | number {s rest : List Char} {n limit : Nat} (numeral : Numeral s n) (stops : Stops rest)
      (read : Reads v s) (bound : v.limit = .ok limit) (small : n < limit) : Longest v (.number n) s rest
  | word {c : Char} {r rest : List Char} (first : startsWord c = true)
      (inner : ∀ d ∈ r, isWordChar d = true) (stops : Stops rest) :
      Longest v (.spelled (wordKind (c :: r)) (String.ofList (c :: r))) (c :: r) rest
  | symbol {s rest : List Char} {k : Kind} (listed : (s, k) ∈ symbols)
      (longest : ∀ m ∈ symbols, m.1 <+: s ++ rest → m.1.length ≤ s.length) :
      Longest v (.spelled k (String.ofList s)) s rest

/-- no symbol is listed behind a shorter one -/
theorem symbols_sorted : symbols.Pairwise fun m n => n.1.length ≤ m.1.length := by decide

/-- a spelling is that of one symbol -/
theorem symbols_unique : ∀ m ∈ symbols, ∀ n ∈ symbols, m.1 = n.1 → m = n := by decide

/-- of the symbols at the front of a text, the one found is the longest -/
theorem symbolAt?_longest {k : Kind} (h : symbolAt? rest = some (s, k)) {m : List Char × Kind}
    (hm : m ∈ symbols) (front : m.1 <+: rest) : m.1.length ≤ s.length := by
  obtain ⟨-, before, after, split, passed⟩ := List.find?_eq_some_iff_append.mp h
  rw [split, List.mem_append, List.mem_cons] at hm
  obtain hm | rfl | hm := hm
  · have none := passed m hm
    rw [Bool.not_eq_true', ← Bool.not_eq_true, List.isPrefixOf_iff_prefix] at none
    exact absurd front none
  · exact Nat.le_refl _
  · have sorted := symbols_sorted
    rw [split, List.pairwise_append, List.pairwise_cons] at sorted
    exact sorted.2.1.1 m hm

theorem symbolAt?_of_longest {k : Kind} (listed : (s, k) ∈ symbols)
    (longest : ∀ m ∈ symbols, m.1 <+: s ++ rest → m.1.length ≤ s.length) :
    symbolAt? (s ++ rest) = some (s, k) := by
  cases hf : symbolAt? (s ++ rest) with
  | none =>
    have none := List.find?_eq_none.mp hf (s, k) listed
    exact absurd (List.isPrefixOf_iff_prefix.mpr (List.prefix_append s rest)) none
  | some m =>
    have hm : m ∈ symbols := List.mem_of_find?_eq_some hf
    have front : m.1 <+: s ++ rest := by
      unfold symbolAt? at hf
      have fits := List.find?_some hf
      exact List.isPrefixOf_iff_prefix.mp fits
    have same : m.1.length = s.length :=
      Nat.le_antisymm (longest m hm front)
        (symbolAt?_longest hf listed (List.prefix_append s rest))
    have spelling : m.1 = s :=
      (List.prefix_of_prefix_length_le front (List.prefix_append s rest)
        (Nat.le_of_eq same)).eq_of_length same
    exact congrArg some (symbols_unique m hm (s, k) listed spelling)

/-! ## the first characters of spellings -/

/-- a symbol starts with no character that something else starts with -/
theorem symbols_start : ∀ m ∈ symbols, ∀ c ∈ m.1.head?, isBlank c = false ∧ c.isDigit = false ∧
    c ≠ '#' ∧ startsWord c = false := by
  -- as a test of each symbol: a statement about a character may be decided by trying all there are
  have apart : (symbols.all fun m => m.1.head?.all fun c =>
      !isBlank c && !c.isDigit && decide (c ≠ '#') && !startsWord c) = true := by decide
  intro m hm c hc
  have start := List.all_eq_true.mp apart m hm
  rw [Option.mem_def.mp hc, Option.all_some] at start
  simpa [and_assoc] using start

/-- what a lexeme is spelled with at its start is no white space -/
theorem Longest.cons (h : Longest v x s rest) : ∃ c r, s = c :: r ∧ isBlank c = false := by
  cases h with
  | number numeral => exact numeral.cons
  | word first => exact ⟨_, _, rfl, (startsWord_plain first).1⟩
  | symbol listed =>
    obtain ⟨c, r, rfl⟩ := List.exists_cons_of_ne_nil (symbols_ne_nil _ listed)
    exact ⟨c, r, rfl, (symbols_start _ listed c rfl).1⟩

/-! ## one lexeme -/

theorem finishNumber_longest {n : Nat} (numeral : Numeral s n) (read : Reads v s)
    (h : finishNumber v p s n rest = .ok x) : Longest v x s rest := by
  obtain ⟨rfl, stops, _, bound, small⟩ := finishNumber_eq_ok h
  exact .number numeral stops read bound small

theorem lexemeAt_longest {c : Char} {r : List Char} {q : Reading Spelled (c :: r)}
    (h : lexemeAt v p c r = .ok q) : Longest v q.value.lexeme q.value.spelling q.rest := by
  unfold lexemeAt at h
  split at h
  · next digit =>
    dsimp only at h
    split at h
    · cases h
    · next short =>
      obtain ⟨x, e, h⟩ := bind_ok h
      cases h
      exact finishNumber_longest (numeral_decimal digit) (reads_decimal short) e
  split at h
  · next hc =>
    subst hc
    dsimp only at h
    unfold hexNumber at h
    split at h
    · split at h
      · cases h
      · next digits =>
        obtain ⟨x, e, h⟩ := bind_ok h
        cases h
        exact finishNumber_longest (numeral_hex digits) (reads_hex _) e
    · cases h
  split at h
  · next first =>
    cases h
    exact .word first (List.all_eq_true.mp List.all_takeWhile) (stops_dropWhile r)
  split at h
  · next spelling kind hs =>
    cases h
    obtain ⟨listed, split⟩ := symbolAt?_some hs
    refine .symbol listed fun m hm front => ?_
    rw [split] at front
    exact symbolAt?_longest hs hm front
  · cases h

/-- a lexeme is found where its longest spelling stands -/
theorem lexemeAt_of_longest {c : Char} {r : List Char} (h : Longest v x (c :: r) rest) :
    ∃ hr, lexemeAt v p c (r ++ rest) = .ok ⟨⟨x, c :: r⟩, rest, hr⟩ := by
  cases h with
  | number numeral stops read bound small =>
    obtain ⟨hr, found⟩ := lexemeAt_numeral (p := p) numeral stops read
    rw [fits_of_lt bound small] at found
    exact ⟨hr, found⟩
  | word first inner stops => exact lexemeAt_word first inner stops
  | symbol listed longest =>
    obtain ⟨-, noDigit, noMark, noWord⟩ := symbols_start _ listed c rfl
    exact lexemeAt_symbol (symbolAt?_of_longest listed longest) noDigit noMark noWord

/-! ## whole texts -/

/-- behind `a`, the text is white space and the spellings of the tokens in turn, down to its end;
each token stands where its spelling begins, and the spelling is the longest one there -/
inductive Spaced (v : Measure) : List Char → List Char → List Token → Prop
  | ending {a blanks : List Char} (blank : ∀ c ∈ blanks, isBlank c = true) :
      Spaced v a blanks [.atEnd (.behind (a ++ blanks))]
  | token {a blanks s rest : List Char} {x : Lexeme} {ts : List Token}
      (blank : ∀ c ∈ blanks, isBlank c = true) (spelled : Longest v x s rest)
      (more : Spaced v (a ++ blanks ++ s) rest ts) :
      Spaced v a (blanks ++ s ++ rest) (⟨x, .behind (a ++ blanks)⟩ :: ts)

variable {a : List Char} {ts : List Token}

theorem Spaced.blank {c : Char} (hc : isBlank c = true) (h : Spaced v (a ++ [c]) s ts) :
    Spaced v a (c :: s) ts := by
  have all {blanks : List Char} (hb : ∀ d ∈ blanks, isBlank d = true) :
      ∀ d ∈ c :: blanks, isBlank d = true := List.forall_mem_cons.mpr ⟨hc, hb⟩
  cases h with
  | ending hb =>
    rw [List.append_assoc]
    exact .ending (all hb)
  | token hb spelled more =>
    rw [List.append_assoc a] at more ⊢
    exact .token (all hb) spelled more

theorem spaced_of_tokensFrom (h : tokensFrom v (.behind a) s = .ok ts) : Spaced v a s ts := by
  generalize hp : Position.behind a = p at h
  induction p, s using tokensFrom.induct generalizing a ts with
  | case1 p =>
    subst hp
    rw [tokensFrom] at h
    cases h
    have last : Spaced v a [] [.atEnd (.behind (a ++ []))] := .ending (by simp)
    rwa [List.append_nil] at last
  | case2 p c r hc ih =>
    subst hp
    rw [tokensFrom, if_pos hc] at h
    exact .blank hc (ih (Position.behind_concat a c) h)
  | case3 p c r hc ih =>
    subst hp
    obtain ⟨q, more, eq, em, rfl⟩ := tokensFrom_cons_ok h hc
    have behind := ih q.value q.rest q.shorter (Position.behind_after a _).symm em
    have first : Spaced v a ([] ++ q.value.spelling ++ q.rest)
        (⟨q.value.lexeme, .behind (a ++ [])⟩ :: more) :=
      .token (by simp) (lexemeAt_longest eq) (by rwa [List.append_nil])
    rwa [List.append_nil, List.nil_append, (lexemeAt_spelled eq).1] at first

theorem tokensFrom_blanks {blanks : List Char} (h : ∀ c ∈ blanks, isBlank c = true)
    (s : List Char) : tokensFrom v p (blanks ++ s) = tokensFrom v (p.after blanks) s := by
  induction blanks generalizing p with
  | nil => rfl
  | cons c blanks ih =>
    obtain ⟨hc, hb⟩ := List.forall_mem_cons.mp h
    rw [List.cons_append, tokensFrom, if_pos hc, ih hb, Position.after_cons]

theorem tokensFrom_longest (h : Longest v x s rest) (more : tokensFrom v (p.after s) rest = .ok ts) :
    tokensFrom v p (s ++ rest) = .ok (⟨x, p⟩ :: ts) := by
  obtain ⟨c, r, rfl, hc⟩ := h.cons
  obtain ⟨hr, found⟩ := lexemeAt_of_longest (p := p) h
  rw [List.cons_append, tokensFrom, if_neg (by rw [hc]; decide), found]
  dsimp only [ok_bind]
  rw [more]
  rfl

theorem tokensFrom_of_spaced (h : Spaced v a s ts) : tokensFrom v (.behind a) s = .ok ts := by
  induction h with
  | @ending a blanks hb =>
    have all := tokensFrom_blanks (v := v) (p := .behind a) hb []
    rw [List.append_nil] at all
    rw [all, tokensFrom, Position.behind_after]
  | token hb spelled more ih =>
    rw [List.append_assoc, tokensFrom_blanks hb, Position.behind_after]
    refine tokensFrom_longest spelled ?_
    rw [Position.behind_after]
    exact ih

/-- a text falls into tokens exactly if it consists of white space and their longest spellings, and
every token stands where its spelling does -/
theorem tokens_iff_spaced {text : String} :
    tokens v text = .ok ts ↔ Spaced v [] text.toList ts :=
  ⟨fun h => spaced_of_tokensFrom (a := []) h, tokensFrom_of_spaced⟩

end Token

end BankSwitch
