import BankSwitch.Proofs.Scanning.Scanner

/-!
# Scanning phrases

On a phrase of the grammar a scanner is stopped by a malformed range only.  A phrase of a form comes
with a phrase of what follows the form, and `Leaves` says that a scanner takes the first and leaves a
phrase of the second; where the two meet matters to no one, so the guard behind a `!` may well take
links of the chain around it.
-/

namespace BankSwitch.Scanner

open Grammar

variable {α β : Type} {x : Source}

/-- the scanner leaves a phrase of the form, or meets a malformed range -/
inductive Leaves (p : Scanner α) (f : Form) (s : List Token) : Prop
  | rest {a : α} {v : List Token} (taken : p s = .ok (a, v)) (phrase : Yields f (terminals v))
  | range (m : Range.Malformed) (q : Position) (error : p s = .error (.range m q))

variable {f g : Form} {s : List Token} {p : Scanner α} {q : α → Scanner β}

/-! ## phrases in front -/

theorem cons_of_mark {k : Token.Kind} (h : Yields (.mark k :: f) (terminals s)) :
    ∃ t r, s = t :: r ∧ t.kind = k ∧ Yields f (terminals r) := by
  generalize hz : terminals s = z at h
  cases h with
  | mark k tail =>
    obtain ⟨t, r, rfl, ht, rfl⟩ := eq_cons_of_mark hz
    exact ⟨t, r, rfl, ht, tail⟩

theorem cons_of_number (h : Yields (.number :: f) (terminals s)) :
    ∃ n q r, s = ⟨.number n, q⟩ :: r ∧ Yields f (terminals r) := by
  generalize hz : terminals s = z at h
  cases h with
  | number n tail =>
    obtain ⟨q, r, rfl, rfl⟩ := eq_cons_of_number hz
    exact ⟨n, q, r, rfl, tail⟩

theorem next?_mark {k : Token.Kind} (h : Yields (.mark k :: f) (terminals s)) :
    Source.next? s = some k := by
  obtain ⟨t, r, rfl, ht, -⟩ := cons_of_mark h
  exact congrArg some ht

theorem next?_number (h : Yields (.number :: f) (terminals s)) :
    Source.next? s = some .number := by
  obtain ⟨n, q, r, rfl, -⟩ := cons_of_number h
  rfl

theorem next?_one {a : Symbol} (h : Yields (.one a :: f) (terminals s))
    (ha : a.solid) : ∃ k ∈ a.opens, Source.next? s = some k := by
  obtain ⟨t, r, hs, ht⟩ := h.opening ha
  exact ⟨_, ht, next?_of_kind hs⟩

theorem next?_ne_of_one {a : Symbol} {k : Token.Kind} (h : Yields (.one a :: f) (terminals s))
    (hk : k ∉ a.opens) (ha : a.solid) : Source.next? s ≠ some k := by
  obtain ⟨k', hk', hn⟩ := next?_one h ha
  rw [hn]
  rintro ⟨⟩
  exact hk hk'

/-- no phrase of the form begins with a token that the table has an entry for -/
def Avoids (table : Token.Kind → Option α) (f : Form) : Prop :=
  ∀ s, Yields f (terminals s) → ∀ k, Source.next? s = some k → table k = none

theorem Avoids.mark {table : Token.Kind → Option α} {k : Token.Kind} (hk : table k = none)
    (f : Form) : Avoids table (.mark k :: f) := by
  intro s hs k' hn
  cases (next?_mark hs).symm.trans hn
  exact hk

namespace Leaves

theorem done (a : α) (h : Yields f (terminals s)) : Leaves (pure a) f s := .rest rfl h

theorem of_eq {p p' : Scanner α} (h : Leaves p' f s) (e : p s = p' s) : Leaves p f s := by
  cases h with
  | rest taken phrase => exact .rest (e.trans taken) phrase
  | range m i error => exact .range m i (e.trans error)

theorem bind (hp : Leaves p f s)
    (hq : ∀ a v, p s = .ok (a, v) → Yields f (terminals v) → Leaves (q a) g v) :
    Leaves (p >>= q) g s := by
  cases hp with
  | @rest a v taken phrase =>
    have run : (p >>= q) s = q a v := bind_apply_ok taken q
    cases hq a v taken phrase with
    | rest taken' phrase' => exact .rest (run.trans taken') phrase'
    | range m i error => exact .range m i (run.trans error)
  | range m i error => exact .range m i (bind_apply_error error q)

/-- a verdict may find a malformed range, and nothing else -/
theorem judge {v : α → Except ReadError β} (hp : Leaves p f s)
    (hv : ∀ a e, v a = .error e → ∃ m i, e = .range m i) :
    Leaves (p >>= fun a => Scanner.judge (v a)) f s := by
  refine hp.bind fun a t _ ht => ?_
  cases hb : v a with
  | ok b => exact .rest rfl ht
  | error e =>
    obtain ⟨m, i, rfl⟩ := hv a e hb
    exact .range m i rfl

theorem front {p : Option Token.Kind → Scanner α} (h : Leaves (p (Source.next? s)) f s) :
    Leaves (Scanner.front p) f s := by
  cases h with
  | rest taken phrase => exact .rest taken phrase
  | range m i error => exact .range m i error

theorem expect {k : Token.Kind} (h : Yields (.mark k :: f) (terminals s)) :
    Leaves (ofReading (x.expect k)) f s := by
  obtain ⟨t, r, rfl, ht, hr⟩ := cons_of_mark h
  exact .rest (ofReading_ok.mpr ⟨_, Source.expect_cons ht r⟩) hr

theorem number (h : Yields (.number :: f) (terminals s)) : Leaves (ofReading x.number) f s := by
  obtain ⟨n, q, r, rfl, hr⟩ := cons_of_number h
  exact .rest (ofReading_ok.mpr ⟨_, Source.number_cons n q r⟩) hr

variable {table : Token.Kind → Option α} {pick : α → Scanner β} {other : Scanner β}

/-- a mark with an entry in the table -/
theorem chosen {k : Token.Kind} {a : α} (hk : table k = some a)
    (h : Yields (.mark k :: f) (terminals s))
    (hp : ∀ t, t.length < s.length → Yields f (terminals t) → Leaves (pick a) g t) :
    Leaves (choose x table pick other) g s := by
  obtain ⟨t, r, rfl, rfl, hr⟩ := cons_of_mark h
  have run := choose_some (x := x) hk pick other r
  cases hp r (Nat.lt_succ_self _) hr with
  | rest taken phrase => exact .rest (run.trans taken) phrase
  | range m i error => exact .range m i (run.trans error)

/-- a token without an entry in the table -/
theorem passed (hs : ∀ k, Source.next? s = some k → table k = none) (h : Leaves other g s) :
    Leaves (choose x table pick other) g s := by
  refine h.of_eq ?_
  cases s with
  | nil => rfl
  | cons t r => exact choose_none (hs _ rfl) pick other r

/-- a loop that goes on in front of every phrase of its symbol, and in front of no phrase of what
follows it -/
theorem loop (goesOn : Option Token.Kind → Bool) {p : Scanner α} {more : Scanner (List α)}
    {a : Symbol} (hm : more = turn goesOn p more)
    (shorter : ∀ {s b v}, p s = .ok (b, v) → v.length < s.length)
    (hp : ∀ {s}, Yields (.one a :: .many a :: f) (terminals s) → Leaves p (.many a :: f) s)
    (begins : ∀ k ∈ a.opens, goesOn (some k) = true) (ha : a.solid)
    (ends : ∀ s, Yields f (terminals s) → goesOn (Source.next? s) = false) (s : List Token)
    (h : Yields (.many a :: f) (terminals s)) : Leaves more f s := by
  rw [hm]
  refine .front ?_
  obtain none | one := h.none_or_more
  · rw [if_neg (by simp [ends s none])]
    exact .done [] none
  · obtain ⟨k, hk, hn⟩ := next?_one one ha
    rw [hn, if_pos (begins k hk)]
    refine (hp one).bind fun b t e ht => ?_
    have := shorter e
    have tail : Leaves more f t := loop goesOn hm shorter hp begins ha ends t ht
    exact tail.bind fun bs v _ hv => .done (b :: bs) hv
termination_by s.length

end Leaves

end BankSwitch.Scanner
