import BankSwitch.Source.Stream

/-!
# Tokens as the grammar sees them

To the grammar a token is its kind, and a number its value; how it is spelled and where it stands do
not matter.  A `Rule` says which phrases stand for which things: `rule s a r` reads "`s` is a phrase
for `a`, and then `r`".

The second half says what taking one token means in these terms: `expect` and `number` take a token
exactly if the list begins with the terminal that they ask for.  A reader that goes on for as long as
the next token asks it to (`Loops`) takes exactly the repetitions of what its step takes.
-/

namespace BankSwitch

/-! ## terminals and rules -/

inductive Terminal where
  /-- any token but a number -/
  | mark (kind : Token.Kind)
  | number (value : Nat)
  deriving DecidableEq

def Token.terminal (t : Token) : Terminal :=
  match t.lexeme with
  | .spelled k _ => .mark k
  | .number n => .number n
  | .endOfInput => .mark .endOfInput

def Terminal.kind : Terminal → Token.Kind
  | .mark k => k
  | .number _ => .number

theorem Token.kind_terminal (t : Token) : t.terminal.kind = t.kind := by
  obtain ⟨x, p⟩ := t
  cases x <;> rfl

def terminals (s : List Token) : List Terminal := s.map Token.terminal

/-- phrases for things of type `α`, with what follows them -/
abbrev Rule (α : Type) := List Terminal → α → List Terminal → Prop

/-- any number of phrases of a rule, one behind the other -/
inductive Repeats {α : Type} (rule : Rule α) : Rule (List α)
  | nil (s : List Terminal) : Repeats rule s [] s
  | cons {s t u : List Terminal} {a : α} {as : List α} (head : rule s a t)
      (tail : Repeats rule t as u) : Repeats rule s (a :: as) u

/-- what follows phrases of a rule is the end of the list that they start -/
theorem Repeats.suffix {α : Type} {rule : Rule α}
    (h : ∀ {s : List Terminal} {a : α} {t : List Terminal}, rule s a t → t <:+ s)
    {s t : List Terminal} {as : List α} (hs : Repeats rule s as t) : t <:+ s := by
  induction hs with
  | nil s => exact List.suffix_refl s
  | cons head tail ih => exact ih.trans (h head)

theorem terminals_cons (t : Token) (s : List Token) :
    terminals (t :: s) = t.terminal :: terminals s := rfl

theorem terminal_number (n : Nat) (p : Position) : (⟨.number n, p⟩ : Token).terminal = .number n :=
  rfl

theorem terminal_of_kind {t : Token} {k : Token.Kind} (h : t.kind = k)
    (hk : (k == .number) = false) : t.terminal = .mark k := by
  obtain ⟨x, p⟩ := t
  cases x with
  | spelled k' sp => exact congrArg Terminal.mark h
  | number n => exact absurd h.symm (beq_eq_false_iff_ne.mp hk)
  | endOfInput => exact congrArg Terminal.mark h

/-- a token that a table of kinds has an entry for, if the table has none for numbers -/
theorem terminal_of_entry {β : Type} {table : Token.Kind → Option β} {t : Token} {b : β}
    (h : table t.kind = some b) (hn : table .number = none) : t.terminal = .mark t.kind :=
  terminal_of_kind rfl (beq_eq_false_iff_ne.mpr fun hk => by
    rw [hk, hn] at h
    cases h)

theorem kind_of_terminal {t : Token} {k : Token.Kind} (h : t.terminal = .mark k) : t.kind = k := by
  obtain ⟨x, p⟩ := t
  cases x with
  | spelled k' sp => exact Terminal.mark.inj h
  | number n => exact Terminal.noConfusion h
  | endOfInput => exact Terminal.mark.inj h

/-- a list whose terminals begin with a mark begins with a token of that kind -/
theorem eq_cons_of_mark {s : List Token} {k : Token.Kind} {v : List Terminal}
    (h : terminals s = .mark k :: v) : ∃ t r, s = t :: r ∧ t.kind = k ∧ terminals r = v := by
  obtain ⟨t, r, hs, ht, hr⟩ := List.map_eq_cons_iff.mp h
  exact ⟨t, r, hs, kind_of_terminal ht, hr⟩

theorem eq_cons_of_number {s : List Token} {n : Nat} {v : List Terminal}
    (h : terminals s = .number n :: v) : ∃ p r, s = ⟨.number n, p⟩ :: r ∧ terminals r = v := by
  obtain ⟨⟨x, p⟩, r, hs, ht, hr⟩ := List.map_eq_cons_iff.mp h
  cases x with
  | spelled k sp => exact Terminal.noConfusion ht
  | number m =>
    cases Terminal.number.inj ht
    exact ⟨p, r, hs, hr⟩
  | endOfInput => exact Terminal.noConfusion ht

theorem next?_of_mark {s : List Token} {k : Token.Kind} {v : List Terminal}
    (h : terminals s = .mark k :: v) : Source.next? s = some k := by
  obtain ⟨t, r, rfl, hk, -⟩ := eq_cons_of_mark h
  exact congrArg some hk

theorem next?_of_number {s : List Token} {n : Nat} {v : List Terminal}
    (h : terminals s = .number n :: v) : Source.next? s = some .number := by
  obtain ⟨p, r, rfl, -⟩ := eq_cons_of_number h
  rfl

theorem next?_of_kind {s : List Token} {t : Terminal} {v : List Terminal}
    (h : terminals s = t :: v) : Source.next? s = some t.kind := by
  obtain ⟨t, r, rfl, rfl, -⟩ := List.map_eq_cons_iff.mp h
  exact congrArg some t.kind_terminal.symm

theorem next?_ne {s : List Token} {k : Token.Kind} (h : ∀ v, terminals s ≠ .mark k :: v)
    (hk : (k == .number) = false) : Source.next? s ≠ some k := by
  intro hn
  cases s with
  | nil => cases hn
  | cons t r =>
    exact h _ (by rw [terminals_cons, terminal_of_kind (Option.some.inj hn) hk])

/-! ## taking one token -/

theorem bind_ok {ε β γ : Type} {m : Except ε β} {f : β → Except ε γ} {c : γ}
    (h : (m >>= f) = .ok c) : ∃ b, m = .ok b ∧ f b = .ok c := by
  cases m with
  | error e => cases h
  | ok b => exact ⟨b, rfl, h⟩

theorem bind_error {ε β γ : Type} {m : Except ε β} {f : β → Except ε γ} {e : ε}
    (h : (m >>= f) = .error e) : m = .error e ∨ ∃ b, m = .ok b ∧ f b = .error e := by
  cases m with
  | error e' =>
    cases h
    exact .inl rfl
  | ok b => exact .inr ⟨b, rfl, h⟩

theorem ok_bind {ε β γ : Type} (b : β) (f : β → Except ε γ) : ((.ok b : Except ε β) >>= f) = f b :=
  rfl

namespace Source

variable {x : Source} {s : List Token}

theorem expect_cons {t : Token} {k : Token.Kind} (h : t.kind = k) (r : List Token) :
    x.expect k (t :: r) = .ok (.front t r t) := if_pos h

theorem expect_bind {β : Type} {k : Token.Kind} {f : Reading Token s → Except ReadError β} {c : β}
    (h : (x.expect k s >>= f) = .ok c) :
    ∃ t r hr, s = t :: r ∧ t.kind = k ∧ f ⟨t, r, hr⟩ = .ok c := by
  cases s with
  | nil => cases h
  | cons t r =>
    by_cases hk : t.kind = k
    · rw [expect_cons hk] at h
      exact ⟨t, r, _, rfl, hk, h⟩
    · rw [show x.expect k (t :: r) = .error (x.mismatch k (t :: r)) from if_neg hk] at h
      cases h

theorem number_cons (n : Nat) (p : Position) (r : List Token) :
    x.number (⟨.number n, p⟩ :: r) = .ok (.front ⟨.number n, p⟩ r n) := rfl

theorem number_bind {β : Type} {f : Reading Nat s → Except ReadError β} {c : β}
    (h : (x.number s >>= f) = .ok c) :
    ∃ n p r hr, s = ⟨.number n, p⟩ :: r ∧ f ⟨n, r, hr⟩ = .ok c := by
  cases s with
  | nil => cases h
  | cons t r =>
    obtain ⟨y, p⟩ := t
    cases y with
    | number n => exact ⟨n, p, r, _, rfl, h⟩
    | spelled k sp => cases h
    | endOfInput => cases h

/-! ## what is enclosed by two tokens -/

variable {α : Type} {opening closing : Token.Kind}
  {first : (s : List Token) → Except ReadError (Reading α s)}
  {more : (s : List Token) → Except ReadError (Trailing (List α) s)}

theorem enclosed_ok {v : List Token} {a : α} {as : List α} {hv : v.length < s.length}
    (h : x.enclosed opening closing first more s = .ok ⟨(a, as), v, hv⟩) :
    ∃ t s₁ s₂ h₂ t' h₃, s = t :: s₁ ∧ t.kind = opening ∧ first s₁ = .ok ⟨a, s₂, h₂⟩ ∧
      more s₂ = .ok ⟨as, t' :: v, h₃⟩ ∧ t'.kind = closing := by
  unfold enclosed at h
  obtain ⟨t, s₁, h₁, rfl, k₁, h⟩ := expect_bind h
  obtain ⟨⟨a, s₂, h₂⟩, e₂, h⟩ := bind_ok h
  obtain ⟨⟨as, s₃, h₃⟩, e₃, h⟩ := bind_ok h
  obtain ⟨t', s₄, h₄, rfl, k₄, h⟩ := expect_bind h
  cases h
  exact ⟨t, s₁, s₂, h₂, t', h₃, rfl, k₁, e₂, e₃, k₄⟩

theorem enclosed_eq {t t' : Token} {s₁ s₂ v : List Token} {a : α} {as : List α} {h₂ h₃}
    (ht : t.kind = opening) (e₂ : first s₁ = .ok ⟨a, s₂, h₂⟩)
    (e₃ : more s₂ = .ok ⟨as, t' :: v, h₃⟩) (ht' : t'.kind = closing) :
    ∃ hv, x.enclosed opening closing first more (t :: s₁) = .ok ⟨(a, as), v, hv⟩ := by
  have hv : v.length < (t :: s₁).length := by
    simp only [List.length_cons] at h₃ ⊢
    omega
  refine ⟨hv, ?_⟩
  unfold enclosed
  simp only [expect_cons ht, expect_cons ht', e₂, e₃, ok_bind, Reading.front]
  rfl

/-! ## loops -/

variable {goesOn : List Token → Prop} {read : (s : List Token) → Except ReadError (Reading α s)}

/-- `more` reads one thing after the other for as long as the tokens ahead say so -/
structure Loops (goesOn : List Token → Prop)
    (read : (s : List Token) → Except ReadError (Reading α s))
    (more : (s : List Token) → Except ReadError (Trailing (List α) s)) : Prop where
  stop : ∀ s, ¬ goesOn s → more s = .ok (.nothing [] s)
  step : ∀ s, goesOn s → more s = (do
    let a ← read s
    let as ← more a.rest
    return a.cons as)

theorem Loops.repeats (loop : Loops goesOn read more) {rule : Rule α}
    (sound : ∀ {s v : List Token} {a : α} {hv}, read s = .ok ⟨a, v, hv⟩ →
      rule (terminals s) a (terminals v)) {s v : List Token} {as : List α}
    {hv : v.length ≤ s.length} (h : more s = .ok ⟨as, v, hv⟩) :
    Repeats rule (terminals s) as (terminals v) := by
  by_cases hs : goesOn s
  · rw [loop.step s hs] at h
    obtain ⟨⟨a, s₁, h₁⟩, e₁, h⟩ := bind_ok h
    obtain ⟨⟨as, s₂, h₂⟩, e₂, h⟩ := bind_ok h
    cases h
    exact .cons (sound e₁) (loop.repeats sound e₂)
  · rw [loop.stop s hs] at h
    cases h
    exact .nil _
termination_by s.length

theorem Loops.reads (loop : Loops goesOn read more) {rule : Rule α}
    (complete : ∀ {s : List Token} {a : α} {v : List Terminal}, rule (terminals s) a v →
      ∃ u hu, terminals u = v ∧ read s = .ok ⟨a, u, hu⟩)
    (begins : ∀ {s : List Token} {a : α} {v : List Terminal}, rule (terminals s) a v → goesOn s)
    {z v : List Terminal} {as : List α} (h : Repeats rule z as v)
    (ends : ∀ s, terminals s = v → ¬ goesOn s) {s : List Token} (hs : terminals s = z) :
    ∃ u hu, terminals u = v ∧ more s = .ok ⟨as, u, hu⟩ := by
  induction h generalizing s with
  | nil z => exact ⟨s, Nat.le_refl _, hs, loop.stop s (ends s hs)⟩
  | cons head tail ih =>
    subst hs
    obtain ⟨s₁, h₁, hs₁, e₁⟩ := complete head
    obtain ⟨s₂, h₂, hs₂, e₂⟩ := ih ends hs₁
    refine ⟨s₂, by omega, hs₂, ?_⟩
    rw [loop.step s (begins head), e₁]
    dsimp only [ok_bind]
    rw [e₂]
    rfl

end Source

end BankSwitch
