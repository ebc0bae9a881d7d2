import BankSwitch.Guard.Reader
import BankSwitch.Proofs.Grammar.Terminal

/-!
# The grammar of guards

    comparison = "INPUT" cmpop NUM | NUM cmpop "INPUT"
    cmpop      = "<=" | ">=" | "==" | "!=" | "=/=" | "<" | ">"
    guard      = term { ( "&&" | "||" ) term }
    term       = "!" guard | "(" guard ")" | comparison

The rule for `!` leaves open where its guard ends: `!a && b` holds both `a` and `a && b` behind the
`!`.  `DerivesBy taken` is the grammar in which `!` takes the guards that `taken` admits; with no
restriction it is the one above (`Loose`), and `Derives` restricts `!` to the longest guard behind
it.

* `longest_of_not_joined`   a guard that no connective follows is the longest at its place;
* `derives_of_read`, `read_of_derives`   readers take exactly the phrases of `Derives`.
-/

namespace BankSwitch

variable {α : Type} {x : Source}

/-! ## flat chains -/

theorem Chain.operands_extend (c : Chain α) (more : List (Connective × Guard α)) :
    (c.extend more).operands = c.operands ++ more.map Prod.snd := by
  induction more generalizing c with
  | nil => rw [Chain.extend_nil, List.map_nil, List.append_nil]
  | cons p more ih =>
    obtain ⟨k, g⟩ := p
    rw [Chain.extend_cons, ih, Chain.operands, List.append_assoc]
    rfl

theorem Chain.connectives_extend (c : Chain α) (more : List (Connective × Guard α)) :
    (c.extend more).connectives = c.connectives ++ more.map Prod.fst := by
  induction more generalizing c with
  | nil => rw [Chain.extend_nil, List.map_nil, List.append_nil]
  | cons p more ih =>
    obtain ⟨k, g⟩ := p
    rw [Chain.extend_cons, ih, Chain.connectives, List.append_assoc]
    rfl

theorem Chain.extend_append (c : Chain α) (more : List (Connective × Guard α)) (k : Connective)
    (g : Guard α) : c.extend (more ++ [(k, g)]) = .snoc (c.extend more) k g :=
  List.foldl_append

/-- a chain is its first guard and one link or more -/
theorem Chain.flat : ∀ c : Chain α, ∃ g k h more, c = (Chain.pair g k h).extend more
  | .pair g k h => ⟨g, k, h, [], rfl⟩
  | .snoc c k h => by
    obtain ⟨g, k', h', more, e⟩ := Chain.flat c
    refine ⟨g, k', h', more ++ [(k, h)], ?_⟩
    rw [Chain.extend_append, ← e]

/-- guards that are joined are one chain of them all, in order -/
theorem Guard.join_cons (g h : Guard α) (k : Connective) (more : List (Connective × Guard α)) :
    ∃ c : Chain α, g.join ((k, h) :: more) = .chain c ∧
      c.operands = g :: h :: more.map Prod.snd ∧ c.connectives = k :: more.map Prod.fst :=
  ⟨_, rfl, Chain.operands_extend _ more, Chain.connectives_extend _ more⟩

/-! ## the rules -/

/-- the marks of comparators -/
inductive Comparator.Mark : Token.Kind → Comparator → Prop
  | atMost : Mark .atMost .atMost
  | atLeast : Mark .atLeast .atLeast
  | equal : Mark .equal .equal
  | unequal : Mark .unequal .unequal
  | below : Mark .below .below
  | above : Mark .above .above

/-- the marks of connectives -/
inductive Connective.Mark : Token.Kind → Connective → Prop
  | and : Mark .and .and
  | or : Mark .or .or

theorem Comparator.mark_iff {k : Token.Kind} {c : Comparator} : Mark k c ↔ ofKind? k = some c := by
  constructor
  · rintro ⟨⟩ <;> rfl
  · cases k <;> rintro ⟨⟩ <;> constructor

theorem Connective.mark_iff {k : Token.Kind} {c : Connective} : Mark k c ↔ ofKind? k = some c := by
  constructor
  · rintro ⟨⟩ <;> rfl
  · cases k <;> rintro ⟨⟩ <;> constructor

inductive Comparison.Derives : Rule Comparison
  | left {k : Token.Kind} {c : Comparator} (n : Nat) (v : List Terminal)
      (op : Comparator.Mark k c) :
      Derives (.mark .input :: .mark k :: .number n :: v) ⟨.left, c, n, "INPUT"⟩ v
  | right {k : Token.Kind} {c : Comparator} (n : Nat) (v : List Terminal)
      (op : Comparator.Mark k c) :
      Derives (.number n :: .mark k :: .mark .input :: v) ⟨.right, c, n, "INPUT"⟩ v

namespace Guard

mutual
/-- guards, if `!` may take the guard between `s` and `v` whenever `taken s v` holds -/
inductive DerivesBy (taken : List Terminal → List Terminal → Prop) : Rule (Guard α)
  | chain {s t v : List Terminal} {g : Guard α} {more : List (Connective × Guard α)}
      (head : TermBy taken s g t) (tail : MoreBy taken t more v) :
      DerivesBy taken s (g.join more) v

/-- terms, each behind its connective -/
inductive MoreBy (taken : List Terminal → List Terminal → Prop) :
    Rule (List (Connective × Guard α))
  | nil (s : List Terminal) : MoreBy taken s [] s
  | cons {s t v : List Terminal} {k : Token.Kind} {c : Connective} {g : Guard α}
      {more : List (Connective × Guard α)} (op : Connective.Mark k c)
      (head : TermBy taken s g t) (tail : MoreBy taken t more v) :
      MoreBy taken (.mark k :: s) ((c, g) :: more) v

inductive TermBy (taken : List Terminal → List Terminal → Prop) : Rule (Guard α)
  | negation {s v : List Terminal} {g : Guard α} (operand : DerivesBy taken s g v)
      (choice : taken s v) : TermBy taken (.mark .bang :: s) (.negation g) v
  | parens {s v : List Terminal} {g : Guard α}
      (inner : DerivesBy taken s g (.mark .rightParen :: v)) :
      TermBy taken (.mark .leftParen :: s) g v
  | compare {s v : List Terminal} {c : Comparison} (comparison : Comparison.Derives s c v) :
      TermBy taken s (.compare c) v
end

/-- guards, `!` taking any guard behind it -/
abbrev Loose : Rule (Guard α) := DerivesBy fun _ _ => True

/-- of the guards that `s` begins with none is longer than the one up to `v` -/
def Longest (α : Type) (s v : List Terminal) : Prop :=
  ∀ (g : Guard α) (u : List Terminal), Loose s g u → v.length ≤ u.length

/-- guards, `!` taking the longest guard behind it -/
abbrev Derives : Rule (Guard α) := DerivesBy (Longest α)

/-- terms, `!` taking the longest guard behind it -/
abbrev DerivesTerm : Rule (Guard α) := TermBy (Longest α)

theorem comparison_suffix {s v : List Terminal} {c : Comparison} (h : Comparison.Derives s c v) :
    v <:+ s := by
  cases h with
  | left => exact ⟨[_, _, _], rfl⟩
  | right => exact ⟨[_, _, _], rfl⟩

section

variable {taken : List Terminal → List Terminal → Prop}

mutual
theorem DerivesBy.suffix : ∀ {s v : List Terminal} {g : Guard α}, DerivesBy taken s g v → v <:+ s
  | _, _, _, .chain head tail => tail.suffix.trans head.suffix

theorem MoreBy.suffix : ∀ {s v : List Terminal} {more : List (Connective × Guard α)},
    MoreBy taken s more v → v <:+ s
  | _, _, _, .nil s => List.suffix_refl s
  | _, _, _, .cons _ head tail =>
    (tail.suffix.trans head.suffix).trans (List.suffix_cons _ _)

theorem TermBy.suffix : ∀ {s v : List Terminal} {g : Guard α}, TermBy taken s g v → v <:+ s
  | _, _, _, .negation operand _ => operand.suffix.trans (List.suffix_cons _ _)
  | _, _, _, .parens inner =>
    ((List.suffix_cons _ _).trans inner.suffix).trans (List.suffix_cons _ _)
  | _, _, _, .compare comparison => comparison_suffix comparison
end

end

/-! ## guards as flat lists

Where a guard ends does not depend on what `!` takes: below, a guard is any number of `!` before an
atom, and more of this behind connectives.
-/

/-- a connective is next -/
def Joined (v : List Terminal) : Prop :=
  ∃ k c t, v = .mark k :: t ∧ Connective.Mark k c

mutual
inductive Flat : List Terminal → List Terminal → Prop
  | bang {s v : List Terminal} (operand : Flat s v) : Flat (.mark .bang :: s) v
  | last {s v : List Terminal} (atom : Atom s v) : Flat s v
  | more {s t v : List Terminal} {k : Token.Kind} {c : Connective} (atom : Atom s (.mark k :: t))
      (op : Connective.Mark k c) (tail : Flat t v) : Flat s v

inductive Atom : List Terminal → List Terminal → Prop
  | compare {s v : List Terminal} {c : Comparison} (comparison : Comparison.Derives s c v) :
      Atom s v
  | parens {s v : List Terminal} (inner : Flat s (.mark .rightParen :: v)) :
      Atom (.mark .leftParen :: s) v
end

theorem not_joined_rightParen (v : List Terminal) : ¬ Joined (.mark .rightParen :: v) := by
  rintro ⟨k, c, t, h, hk⟩
  cases h
  cases hk

theorem Flat.append {t v : List Terminal} {k : Token.Kind} {c : Connective} :
    ∀ {s u : List Terminal}, Flat s u → u = .mark k :: t → Connective.Mark k c →
      Flat t v → Flat s v
  | _, _, .bang operand, hu, op, ht => .bang (operand.append hu op ht)
  | _, _, .last atom, hu, op, ht => .more (hu ▸ atom) op ht
  | _, _, .more atom op' tail, hu, op, ht => .more atom op' (tail.append hu op ht)

mutual
theorem DerivesBy.flat {taken : List Terminal → List Terminal → Prop} :
    ∀ {s v : List Terminal} {g : Guard α}, DerivesBy taken s g v → Flat s v
  | _, _, _, .chain head tail => tail.flat head.flat

theorem MoreBy.flat {taken : List Terminal → List Terminal → Prop} :
    ∀ {s t v : List Terminal} {more : List (Connective × Guard α)},
      MoreBy taken t more v → Flat s t → Flat s v
  | _, _, _, _, .nil _, hs => hs
  | _, _, _, _, .cons op head tail, hs => tail.flat (hs.append rfl op head.flat)

theorem TermBy.flat {taken : List Terminal → List Terminal → Prop} :
    ∀ {s v : List Terminal} {g : Guard α}, TermBy taken s g v → Flat s v
  | _, _, _, .negation operand _ => .bang operand.flat
  | _, _, _, .parens inner => .last (.parens inner.flat)
  | _, _, _, .compare comparison => .last (.compare comparison)
end

theorem comparison_length {s v : List Terminal} {c : Comparison} (h : Comparison.Derives s c v) :
    v.length < s.length := by
  cases h <;> simp only [List.length_cons] <;> omega

mutual
theorem Flat.length_lt : ∀ {s v : List Terminal}, Flat s v → v.length < s.length
  | _, _, .bang operand => Nat.lt_succ_of_lt operand.length_lt
  | _, _, .last atom => atom.length_lt
  | _, _, .more atom _ tail => by
    have h₁ := atom.length_lt
    have h₂ := tail.length_lt
    simp only [List.length_cons] at h₁
    omega

theorem Atom.length_lt : ∀ {s v : List Terminal}, Atom s v → v.length < s.length
  | _, _, .compare comparison => comparison_length comparison
  | _, _, .parens inner => by
    have h₁ := inner.length_lt
    simp only [List.length_cons] at h₁ ⊢
    omega
end

theorem Atom.not_bang {s v : List Terminal} (h : Atom (.mark .bang :: s) v) : False := by
  cases h with
  | compare comparison => cases comparison

theorem comparison_unique {s u v : List Terminal} {c d : Comparison}
    (h : Comparison.Derives s c u) (h' : Comparison.Derives s d v) : v = u := by
  cases h <;> cases h' <;> rfl

mutual
/-- a guard that no connective follows ends where every other guard from the same place ends, or
behind it -/
theorem Flat.unique : ∀ {s u v : List Terminal}, Flat s u → Flat s v → ¬ Joined u →
    v = u ∨ Joined v ∧ u.length < v.length
  | _, _, _, .bang operand, h', hu => by
    cases h' with
    | bang operand' => exact operand.unique operand' hu
    | last atom => exact atom.not_bang.elim
    | more atom => exact atom.not_bang.elim
  | _, _, _, .last atom, h', hu => by
    cases h' with
    | bang => exact atom.not_bang.elim
    | last atom' => exact .inl (atom.unique atom')
    | more atom' op =>
      cases atom.unique atom'
      exact absurd ⟨_, _, _, rfl, op⟩ hu
  | _, _, _, .more atom op tail, h', hu => by
    cases h' with
    | bang => exact atom.not_bang.elim
    | last atom' =>
      cases atom.unique atom'
      exact .inr ⟨⟨_, _, _, rfl, op⟩, Nat.lt_succ_of_lt tail.length_lt⟩
    | more atom' op' tail' =>
      cases atom.unique atom'
      exact tail.unique tail' hu

theorem Atom.unique : ∀ {s u v : List Terminal}, Atom s u → Atom s v → v = u
  | _, _, _, .compare comparison, h' => by
    cases h' with
    | compare comparison' => exact comparison_unique comparison comparison'
    | parens => cases comparison
  | _, _, _, .parens inner, h' => by
    cases h' with
    | compare comparison => cases comparison
    | parens inner' =>
      obtain e | ⟨hj, -⟩ := inner.unique inner' (not_joined_rightParen _)
      · exact (List.cons.inj e).2
      · exact absurd hj (not_joined_rightParen _)
end

theorem longest_of_not_joined {s v : List Terminal} (h : Flat s v) (hv : ¬ Joined v) :
    Longest α s v := by
  intro g u hu
  obtain rfl | ⟨-, hl⟩ := h.unique hu.flat hv
  · exact Nat.le_refl _
  · exact Nat.le_of_lt hl

end Guard

/-! ## readers take phrases only -/

theorem Comparator.read_bind {β : Type} {s : List Token}
    {f : Reading Comparator s → Except ReadError β} {b : β}
    (h : (Comparator.read x s >>= f) = .ok b) :
    ∃ t r hr c, s = t :: r ∧ ofKind? t.kind = some c ∧ f ⟨c, r, hr⟩ = .ok b := by
  obtain ⟨q, e, h⟩ := bind_ok h
  cases s with
  | nil => cases e
  | cons t r =>
    unfold Comparator.read at e
    dsimp only at e
    split at e
    · next c hc =>
      cases e
      exact ⟨t, r, _, c, rfl, hc, h⟩
    · cases e

theorem Comparison.derives_of_read {s v : List Token} {c : Comparison}
    {hv : v.length < s.length} (h : Comparison.read x s = .ok ⟨c, v, hv⟩) :
    Derives (terminals s) c (terminals v) := by
  unfold Comparison.read at h
  split at h
  · obtain ⟨t₁, s₁, h₁, rfl, k₁, h⟩ := Source.expect_bind h
    obtain ⟨t₂, s₂, h₂, c, rfl, op, h⟩ := Comparator.read_bind h
    obtain ⟨n, p, s₃, h₃, rfl, h⟩ := Source.number_bind h
    cases h
    simp only [terminals_cons, terminal_number, terminal_of_kind k₁ rfl, terminal_of_entry op rfl]
    exact .left n _ (Comparator.mark_iff.mpr op)
  · obtain ⟨n, p, s₁, h₁, rfl, h⟩ := Source.number_bind h
    obtain ⟨t₂, s₂, h₂, c, rfl, op, h⟩ := Comparator.read_bind h
    obtain ⟨t₃, s₃, h₃, rfl, k₃, h⟩ := Source.expect_bind h
    cases h
    simp only [terminals_cons, terminal_number, terminal_of_kind k₃ rfl, terminal_of_entry op rfl]
    exact .right n _ (Comparator.mark_iff.mpr op)
  · cases h

namespace Guard

theorem ofKind?_of_not_joined {t : Token} {r : List Token} (h : ¬ Joined (terminals (t :: r))) :
    Connective.ofKind? t.kind = none := by
  cases op : Connective.ofKind? t.kind with
  | none => rfl
  | some c =>
    have front : terminals (t :: r) = .mark t.kind :: terminals r := by
      rw [terminals_cons, terminal_of_entry op rfl]
    exact absurd ⟨_, c, _, front, Connective.mark_iff.mpr op⟩ h

theorem not_joined_of_kind {t : Token} (h : Connective.ofKind? t.kind = none) (r : List Token) :
    ¬ Joined (terminals (t :: r)) := by
  rintro ⟨k, c, v, hv, hk⟩
  obtain ⟨t', r', e, ht, -⟩ := eq_cons_of_mark hv
  cases e
  rw [ht, Connective.mark_iff.mp hk] at h
  cases h

mutual
theorem derives_of_read {s v : List Token} {g : Guard α} {hv : v.length < s.length}
    (h : read x s = .ok ⟨g, v, hv⟩) :
    Derives (terminals s) g (terminals v) ∧ ¬ Joined (terminals v) := by
  unfold read at h
  obtain ⟨⟨g, s₁, h₁⟩, e₁, h⟩ := bind_ok h
  obtain ⟨⟨more, s₂, h₂⟩, e₂, h⟩ := bind_ok h
  cases h
  obtain ⟨tail, hj⟩ := moreBy_of_readMore e₂
  exact ⟨.chain (derives_of_readTerm e₁) tail, hj⟩
termination_by (s.length, 1)

theorem moreBy_of_readMore : ∀ {s v : List Token} {more : List (Connective × Guard α)}
    {hv : v.length ≤ s.length}, readMore x s = .ok ⟨more, v, hv⟩ →
    MoreBy (Longest α) (terminals s) more (terminals v) ∧ ¬ Joined (terminals v)
  | [], v, more, hv, h => by
    unfold readMore at h
    cases h
    refine ⟨.nil _, ?_⟩
    rintro ⟨k, c, v, hv, -⟩
    cases hv
  | t :: r, v, more, hv, h => by
    unfold readMore at h
    dsimp only at h
    split at h
    · next k op =>
      obtain ⟨⟨g, s₁, h₁⟩, e₁, h⟩ := bind_ok h
      obtain ⟨⟨more, s₂, h₂⟩, e₂, h⟩ := bind_ok h
      cases h
      obtain ⟨tail, hj⟩ := moreBy_of_readMore e₂
      rw [terminals_cons, terminal_of_entry op rfl]
      exact ⟨.cons (Connective.mark_iff.mpr op) (derives_of_readTerm e₁) tail, hj⟩
    · next hk =>
      cases h
      exact ⟨.nil _, not_joined_of_kind hk r⟩
termination_by s => (s.length, 2)

theorem derives_of_readTerm : ∀ {s v : List Token} {g : Guard α} {hv : v.length < s.length},
    readTerm x s = .ok ⟨g, v, hv⟩ → DerivesTerm (terminals s) g (terminals v)
  | [], v, g, hv, h => by
    unfold readTerm at h
    cases h
  | t :: r, v, g, hv, h => by
    unfold readTerm at h
    dsimp only at h
    split at h
    · next hk =>
      obtain ⟨⟨g, s₁, h₁⟩, e₁, h⟩ := bind_ok h
      cases h
      obtain ⟨operand, hj⟩ := derives_of_read e₁
      rw [terminals_cons, terminal_of_kind hk rfl]
      exact .negation operand (longest_of_not_joined operand.flat hj)
    · next hk =>
      obtain ⟨⟨g, s₁, h₁⟩, e₁, h⟩ := bind_ok h
      obtain ⟨t', s₂, h₂, rfl, k₂, h⟩ := Source.expect_bind h
      cases h
      have inner := (derives_of_read e₁).1
      rw [terminals_cons, terminal_of_kind k₂ rfl] at inner
      rw [terminals_cons, terminal_of_kind hk rfl]
      exact .parens inner
    · obtain ⟨⟨c, s₁, h₁⟩, e₁, h⟩ := bind_ok h
      cases h
      exact .compare (Comparison.derives_of_read e₁)
termination_by s => (s.length, 0)
end

end Guard

/-! ## readers take every phrase -/

theorem Comparator.read_cons {t : Token} {c : Comparator} (h : ofKind? t.kind = some c)
    (r : List Token) : Comparator.read x (t :: r) = .ok (.front t r c) := by
  unfold Comparator.read
  dsimp only
  split
  · next c' h' => rw [h] at h'; cases h'; rfl
  · next h' => rw [h] at h'; cases h'

theorem Comparison.read_of_derives {s : List Token} {c : Comparison} {v : List Terminal}
    (h : Derives (terminals s) c v) :
    ∃ u hu, terminals u = v ∧ Comparison.read x s = .ok ⟨c, u, hu⟩ := by
  generalize hs : terminals s = z at h
  unfold Comparison.read
  cases h with
  | left n v op =>
    rw [next?_of_mark hs]
    obtain ⟨t₁, s₁, rfl, k₁, hs₁⟩ := eq_cons_of_mark hs
    obtain ⟨t₂, s₂, rfl, k₂, hs₂⟩ := eq_cons_of_mark hs₁
    obtain ⟨p, s₃, rfl, hs₃⟩ := eq_cons_of_number hs₂
    have found := k₂ ▸ Comparator.mark_iff.mp op
    refine ⟨s₃, by simp only [List.length_cons]; omega, hs₃, ?_⟩
    simp only [Source.expect_cons k₁, Comparator.read_cons found, Source.number_cons, ok_bind,
      Reading.front]
    rfl
  | right n v op =>
    rw [next?_of_number hs]
    obtain ⟨p, s₁, rfl, hs₁⟩ := eq_cons_of_number hs
    obtain ⟨t₂, s₂, rfl, k₂, hs₂⟩ := eq_cons_of_mark hs₁
    obtain ⟨t₃, s₃, rfl, k₃, hs₃⟩ := eq_cons_of_mark hs₂
    have found := k₂ ▸ Comparator.mark_iff.mp op
    refine ⟨s₃, by simp only [List.length_cons]; omega, hs₃, ?_⟩
    simp only [Source.expect_cons k₃, Comparator.read_cons found, Source.number_cons, ok_bind,
      Reading.front]
    rfl

namespace Guard

mutual
theorem DerivesBy.loose {taken : List Terminal → List Terminal → Prop} :
    ∀ {s v : List Terminal} {g : Guard α}, DerivesBy taken s g v → Loose s g v
  | _, _, _, .chain head tail => .chain head.loose tail.loose

theorem MoreBy.loose {taken : List Terminal → List Terminal → Prop} :
    ∀ {s v : List Terminal} {more : List (Connective × Guard α)},
      MoreBy taken s more v → MoreBy (fun _ _ => True) s more v
  | _, _, _, .nil s => .nil s
  | _, _, _, .cons op head tail => .cons op head.loose tail.loose

theorem TermBy.loose {taken : List Terminal → List Terminal → Prop} :
    ∀ {s v : List Terminal} {g : Guard α}, TermBy taken s g v → TermBy (fun _ _ => True) s g v
  | _, _, _, .negation operand _ => .negation operand.loose trivial
  | _, _, _, .parens inner => .parens inner.loose
  | _, _, _, .compare comparison => .compare comparison
end

theorem MoreBy.snoc {taken : List Terminal → List Terminal → Prop} {k : Token.Kind}
    {c : Connective} {t v : List Terminal} {g : Guard α} :
    ∀ {s u : List Terminal} {more : List (Connective × Guard α)}, MoreBy taken s more u →
      u = .mark k :: t → Connective.Mark k c → TermBy taken t g v →
      MoreBy taken s (more ++ [(c, g)]) v
  | _, _, _, .nil _, hu, op, h => by
    subst hu
    exact .cons op h (.nil v)
  | _, _, _, .cons op' head tail, hu, op, h => .cons op' head (tail.snoc hu op h)

/-- a term that begins with `!` takes every connective that could follow it -/
theorem not_bang_of_joined {s t v : List Terminal} {g : Guard α}
    {more : List (Connective × Guard α)} (head : DerivesTerm s g t)
    (tail : MoreBy (Longest α) t more v) (hv : ¬ Joined v) (ht : Joined t) (z : List Terminal) :
    s ≠ .mark .bang :: z := by
  rintro rfl
  cases head with
  | negation operand choice =>
    cases tail with
    | nil => exact hv ht
    | cons op head' tail' =>
      cases operand.loose with
      | chain first rest =>
        have longer := rest.snoc rfl op head'.loose
        have h₁ := choice _ _ (.chain first longer)
        have h₂ := head'.flat.length_lt
        simp only [List.length_cons] at h₁
        omega
  | compare comparison => cases comparison

theorem comparison_opening {s : List Token} {v : List Terminal} {c : Comparison}
    (h : Comparison.Derives (terminals s) c v) :
    ∃ t r, s = t :: r ∧ t.kind ≠ .bang ∧ t.kind ≠ .leftParen := by
  generalize hs : terminals s = z at h
  cases h with
  | left n v op =>
    obtain ⟨t, r, rfl, kt, -⟩ := eq_cons_of_mark hs
    exact ⟨t, r, rfl, by rw [kt]; decide, by rw [kt]; decide⟩
  | right n v op =>
    obtain ⟨p, r, rfl, -⟩ := eq_cons_of_number hs
    exact ⟨_, r, rfl, by rintro ⟨⟩, by rintro ⟨⟩⟩

mutual
theorem read_of_derives : ∀ {z v : List Terminal} {g : Guard α}, Derives z g v → ¬ Joined v →
    ∀ {s : List Token}, terminals s = z →
      ∃ u hu, terminals u = v ∧ read x s = .ok ⟨g, u, hu⟩
  | _, _, _, .chain head tail, hv, s, hs => by
    obtain ⟨s₁, h₁, hs₁, e₁⟩ :=
      readTerm_of_derives head (not_bang_of_joined head tail hv) hs
    obtain ⟨s₂, h₂, hs₂, e₂⟩ := readMore_of_moreBy tail hv hs₁
    refine ⟨s₂, Nat.lt_of_le_of_lt h₂ h₁, hs₂, ?_⟩
    unfold read
    rw [e₁]
    dsimp only [ok_bind]
    rw [e₂]
    rfl

theorem readMore_of_moreBy : ∀ {z v : List Terminal} {more : List (Connective × Guard α)},
    MoreBy (Longest α) z more v → ¬ Joined v → ∀ {s : List Token}, terminals s = z →
      ∃ u hu, terminals u = v ∧ readMore x s = .ok ⟨more, u, hu⟩
  | _, _, _, .nil z, hv, s, hs => by
    subst hs
    refine ⟨s, Nat.le_refl _, rfl, ?_⟩
    unfold readMore
    cases s with
    | nil => rfl
    | cons t r =>
      dsimp only
      rw [ofKind?_of_not_joined hv]
  | _, _, _, .cons op head tail, hv, s, hs => by
    obtain ⟨t, r, rfl, kt, hr⟩ := eq_cons_of_mark hs
    obtain ⟨s₁, h₁, hs₁, e₁⟩ :=
      readTerm_of_derives head (not_bang_of_joined head tail hv) hr
    obtain ⟨s₂, h₂, hs₂, e₂⟩ := readMore_of_moreBy tail hv hs₁
    refine ⟨s₂, by simp only [List.length_cons]; omega, hs₂, ?_⟩
    unfold readMore
    dsimp only
    rw [kt, Connective.mark_iff.mp op]
    dsimp only
    rw [e₁]
    dsimp only [ok_bind]
    rw [e₂]
    rfl

theorem readTerm_of_derives : ∀ {z v : List Terminal} {g : Guard α}, DerivesTerm z g v →
    (Joined v → ∀ t, z ≠ .mark .bang :: t) → ∀ {s : List Token}, terminals s = z →
      ∃ u hu, terminals u = v ∧ readTerm x s = .ok ⟨g, u, hu⟩
  | _, _, _, .negation operand _, hv, s, hs => by
    obtain ⟨t, r, rfl, kt, hr⟩ := eq_cons_of_mark hs
    obtain ⟨s₁, h₁, hs₁, e₁⟩ := read_of_derives operand (fun hj => hv hj _ rfl) hr
    refine ⟨s₁, by simp only [List.length_cons]; omega, hs₁, ?_⟩
    unfold readTerm
    dsimp only
    rw [kt]
    dsimp only
    rw [e₁]
    rfl
  | _, _, _, .parens inner, hv, s, hs => by
    obtain ⟨t, r, rfl, kt, hr⟩ := eq_cons_of_mark hs
    obtain ⟨s₁, h₁, hs₁, e₁⟩ := read_of_derives inner (not_joined_rightParen _) hr
    obtain ⟨t', s₂, rfl, kt', hs₂⟩ := eq_cons_of_mark hs₁
    refine ⟨s₂, by simp only [List.length_cons] at h₁ ⊢; omega, hs₂, ?_⟩
    unfold readTerm
    dsimp only
    rw [kt]
    dsimp only
    rw [e₁]
    dsimp only [ok_bind]
    rw [Source.expect_cons kt']
    rfl
  | _, _, _, .compare comparison, hv, s, hs => by
    subst hs
    obtain ⟨u, hu, hv, e⟩ := Comparison.read_of_derives (x := x) comparison
    refine ⟨u, hu, hv, ?_⟩
    obtain ⟨t, r, rfl, hb, hp⟩ := comparison_opening comparison
    unfold readTerm
    split
    · next h => exact absurd h hb
    · next h => exact absurd h hp
    · rw [e]
      rfl
end

end Guard

end BankSwitch
