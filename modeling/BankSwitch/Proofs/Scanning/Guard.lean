import BankSwitch.Guard.Reader
import BankSwitch.Proofs.Scanning.Phrases

/-!
# Scanning guards

The readers of guards as scanners, and the forms that they follow.  The guard behind a `!` is read
as far as it goes, so it may take links of the chain that the `!` stands in; what remains is a phrase
of the chain all the same (`Guard.Absorbs`).
-/

namespace BankSwitch

open Grammar Scanner

variable {α : Type} {w w' : Nat} {x x' : Source}

/-! ## comparisons -/

namespace Comparator

theorem ofReading_read : ofReading (Comparator.read x) =
    choose x ofKind? (fun c => pure c) (fail x .noComparator) := by
  funext s
  show (Comparator.read x s).map _ = _
  cases s with
  | nil => rfl
  | cons t r =>
    unfold Comparator.read
    dsimp only
    split
    · next c hc =>
      rw [choose_some hc]
      rfl
    · next hn =>
      rw [choose_none hn]
      rfl

theorem listed : Symbol.comparator.ListedBy ofKind? := ⟨_, rfl, fun k => by cases k <;> decide⟩

theorem follows_read (hx : Source.Widens w w' x x') (s : List Token) :
    Follows x w (ofReading (Comparator.read x)) (ofReading (Comparator.read x'))
      [.one .comparator] s := by
  rw [ofReading_read, ofReading_read]
  exact .choose hx rfl (fun k c hk z hz => hz.of_rule (listed.rule hk))
    (fun c t _ => .done c) (fun _ hz => hz) (.fail hx (by simp) _)

end Comparator

namespace Comparison

theorem ofReading_read : ofReading (Comparison.read x) = front fun
    | some .input => do
      let _ ← ofReading (x.expect .input)
      let c ← ofReading (Comparator.read x)
      let n ← ofReading x.number
      return ⟨.left, c, n, addressName⟩
    | some .number => do
      let n ← ofReading x.number
      let c ← ofReading (Comparator.read x)
      let _ ← ofReading (x.expect .input)
      return ⟨.right, c, n, addressName⟩
    | _ => fail x .noComparison := by
  funext s
  show (Comparison.read x s).map _ = _
  unfold Comparison.read front
  cases Source.next? s with
  | none => rfl
  | some k =>
    cases k
    case input =>
      exact ofReading_bind fun _ s₁ _ => ofReading_bind fun c s₂ _ => ofReading_bind fun n s₃ _ => rfl
    case number =>
      exact ofReading_bind fun n s₁ _ => ofReading_bind fun c s₂ _ => ofReading_bind fun _ s₃ _ => rfl
    all_goals rfl

theorem follows_read (hx : Source.Widens w w' x x') (s : List Token) :
    Follows x w (ofReading (Comparison.read x)) (ofReading (Comparison.read x'))
      [.one .comparison] s := by
  rw [ofReading_read, ofReading_read]
  refine .front ?_
  split
  · refine .rule (f := [.mark .input, .one .comparator, .number]) (by decide) ?_
    exact (Follows.expect hx s rfl).bind fun _ s₁ _ => (Comparator.follows_read hx s₁).bind
      fun c s₂ _ => (Follows.number hx s₂).bind fun n s₃ _ => .done _
  · refine .rule (f := [.number, .one .comparator, .mark .input]) (by decide) ?_
    exact (Follows.number hx s).bind fun n s₁ _ => (Comparator.follows_read hx s₁).bind
      fun c s₂ _ => (Follows.expect hx s₂ rfl).bind fun _ s₃ _ => .done _
  · exact .fail hx (by simp) _

end Comparison

/-! ## guards -/

theorem Connective.listed : Symbol.connective.ListedBy ofKind? :=
  ⟨_, rfl, fun k => by cases k <;> decide⟩

namespace Guard

/-- a connective and a term in front of links are links -/
theorem links_of_connective {z : List Terminal} {f : Form}
    (h : Yields (.one .connective :: .one .term :: .many .link :: f) z) :
    Yields (.many .link :: f) z :=
  (Yields.of_rule_append (g := [.one .connective, .one .term]) (by decide) h).of_many

theorem ofReading_read : ofReading (read (α := α) x) = do
    let g ← ofReading (readTerm x)
    let more ← ofTrailing (readMore x)
    return g.join more := by
  funext s
  show (read x s).map _ = _
  unfold read
  exact ofReading_bind fun g s₁ _ => ofTrailing_bind fun more s₂ _ => rfl

theorem ofTrailing_readMore : ofTrailing (readMore (α := α) x) = choose x Connective.ofKind?
    (fun k => do
      let g ← ofReading (readTerm x)
      let more ← ofTrailing (readMore x)
      return (k, g) :: more)
    (pure []) := by
  funext s
  show (readMore x s).map _ = _
  unfold readMore
  cases s with
  | nil => rfl
  | cons t r =>
    dsimp only
    split
    · next k hk =>
      rw [choose_some hk]
      exact ofReading_bind fun g s₁ _ => ofTrailing_bind fun more s₂ _ => rfl
    · next hk =>
      rw [choose_none hk]
      rfl

theorem ofReading_readTerm : ofReading (readTerm (α := α) x) = front fun
    | some .bang => do
      let _ ← ofReading (x.expect .bang)
      let g ← ofReading (read x)
      return .negation g
    | some .leftParen => do
      let _ ← ofReading (x.expect .leftParen)
      let g ← ofReading (read x)
      let _ ← ofReading (x.expect .rightParen)
      return g
    | _ => do
      let c ← ofReading (Comparison.read x)
      return .compare c := by
  funext s
  show (readTerm x s).map _ = _
  unfold readTerm front
  cases s with
  | nil => rfl
  | cons t r =>
    dsimp only [Source.next?]
    generalize hk : t.kind = k
    cases k
    case bang =>
      refine Eq.trans ?_ (expect_step hk (fun _ => _) r).symm
      exact ofReading_bind fun g s₁ _ => rfl
    case leftParen =>
      refine Eq.trans ?_ (expect_step hk (fun _ => _) r).symm
      exact ofReading_bind fun g s₁ _ => ofReading_bind fun _ s₂ _ => rfl
    all_goals exact ofReading_bind fun c s₁ _ => rfl

mutual
theorem follows_read (hx : Source.Widens w w' x x') (s : List Token) :
    Follows x w (ofReading (read (α := α) x)) (ofReading (read x')) [.one .guard] s := by
  rw [ofReading_read, ofReading_read]
  refine .rule (f := [.one .term, .many .link]) (by decide) ?_
  refine (follows_readTerm hx s).bind fun g t e => ?_
  have := ofReading_shorter e
  exact (follows_readMore hx t).bind fun more v _ => .done _
termination_by (s.length, 1)

theorem follows_readMore (hx : Source.Widens w w' x x') (s : List Token) :
    Follows x w (ofTrailing (readMore (α := α) x)) (ofTrailing (readMore x')) [.many .link] s := by
  rw [ofTrailing_readMore, ofTrailing_readMore (x := x')]
  refine .choose hx (f := [.one .term, .many .link]) (g := []) rfl ?_ (fun c t ht => ?_)
    (fun _ hz => .none _ hz) (.done [])
  · exact fun k c hk z hz => links_of_connective (hz.of_mark (Connective.listed.rule hk))
  · refine (follows_readTerm hx t).bind fun g v e => ?_
    have := ofReading_shorter e
    exact (follows_readMore hx v).bind fun more u _ => .done _
termination_by (s.length, 2)

theorem follows_readTerm (hx : Source.Widens w w' x x') (s : List Token) :
    Follows x w (ofReading (readTerm (α := α) x)) (ofReading (readTerm x')) [.one .term] s := by
  rw [ofReading_readTerm, ofReading_readTerm]
  refine .front ?_
  split
  · refine .rule (f := [.mark .bang, .one .guard]) (by decide) ?_
    refine (Follows.expect hx s rfl).bind fun _ t e => ?_
    have := ofReading_shorter e
    exact (follows_read hx t).bind fun g v _ => .done _
  · refine .rule (f := [.mark .leftParen, .one .guard, .mark .rightParen]) (by decide) ?_
    refine (Follows.expect hx s rfl).bind fun _ t e => ?_
    have := ofReading_shorter e
    exact (follows_read hx t).bind fun g v _ => (Follows.expect hx v rfl).bind fun _ u _ => .done _
  · refine .rule (f := [.one .comparison]) (by decide) ?_
    exact (Comparison.follows_read hx s).bind fun c t _ => .done _
termination_by (s.length, 0)
end

end Guard

/-! ## every phrase is scanned -/

theorem Comparator.leaves_read {f : Form} {s : List Token}
    (h : Yields (.one .comparator :: f) (terminals s)) :
    Leaves (ofReading (Comparator.read x)) f s := by
  rw [ofReading_read]
  obtain ⟨k, c, hc, h⟩ := listed.entry h
  exact .chosen hc h fun t _ ht => .done _ ht

theorem Comparison.leaves_read {f : Form} {s : List Token}
    (h : Yields (.one .comparison :: f) (terminals s)) :
    Leaves (ofReading (Comparison.read x)) f s := by
  rw [ofReading_read]
  refine .front ?_
  obtain h | h := h.of_either rfl
  · rw [next?_mark h]
    exact (Leaves.expect h).bind fun _ s₁ _ h => (Comparator.leaves_read h).bind
      fun c s₂ _ h => (Leaves.number h).bind fun n s₃ _ h => .done _ h
  · rw [next?_number h]
    exact (Leaves.number h).bind fun n s₁ _ h => (Comparator.leaves_read h).bind
      fun c s₂ _ h => (Leaves.expect h).bind fun _ s₃ _ h => .done _ h

namespace Guard

/-- behind a `!`, a guard in front of a phrase of `g` is a guard in front of a phrase of `f` -/
structure Absorbs (f g : Form) : Prop where
  unlinked : Avoids Connective.ofKind? f
  taken : ∀ z, Yields (.one .guard :: g) z → Yields (.one .guard :: f) z
  left : ∀ z, Yields f z → Yields g z

theorem Absorbs.refl {f : Form} (hf : Avoids Connective.ofKind? f) : Absorbs f f :=
  ⟨hf, fun _ h => h, fun _ h => h⟩

theorem Absorbs.links {f : Form} (hf : Avoids Connective.ofKind? f) :
    Absorbs f (.many .link :: f) where
  unlinked := hf
  taken z h := by
    have row : Yields ([.one .term] ++ .many .link :: .many .link :: f) z := h.of_only rfl
    obtain ⟨u, v, rfl, hu, hv⟩ := row.split
    exact .of_rule_append (g := [.one .term, .many .link]) (by decide)
      (hu.append hv.many_of_many_many)
  left _ h := .none _ h

mutual
theorem leaves_read {f : Form} (hf : Avoids Connective.ofKind? f) (s : List Token)
    (h : Yields (.one .guard :: f) (terminals s)) : Leaves (ofReading (read (α := α) x)) f s := by
  rw [ofReading_read]
  refine (leaves_readTerm (.links hf) s (h.of_only rfl)).bind fun g t e h => ?_
  have := ofReading_shorter e
  exact (leaves_readMore hf t h).bind fun more v _ h => .done _ h
termination_by (s.length, 1)

theorem leaves_readMore {f : Form} (hf : Avoids Connective.ofKind? f) (s : List Token)
    (h : Yields (.many .link :: f) (terminals s)) :
    Leaves (ofTrailing (readMore (α := α) x)) f s := by
  rw [ofTrailing_readMore]
  obtain none | one := h.none_or_more
  · exact .passed (hf s none) (.done [] none)
  · obtain ⟨k, c, hc, h⟩ := Connective.listed.entry (one.of_only rfl)
    refine .chosen hc h fun t ht h => ?_
    refine (leaves_readTerm (.links hf) t h).bind fun g v e h => ?_
    have := ofReading_shorter e
    exact (leaves_readMore hf v h).bind fun more u _ h => .done _ h
termination_by (s.length, 2)

/-- a term may stand before what its `!` may take, and before what no link can be part of -/
theorem leaves_readTerm {f g : Form} (hg : Absorbs f g) (s : List Token)
    (h : Yields (.one .term :: g) (terminals s)) :
    Leaves (ofReading (readTerm (α := α) x)) g s := by
  rw [ofReading_readTerm]
  refine .front ?_
  obtain ⟨g', hg', h⟩ := h.rule_of_one_append
  simp only [Symbol.rules, List.mem_cons, List.not_mem_nil, or_false] at hg'
  obtain rfl | rfl | rfl := hg'
  · rw [next?_mark h]
    refine (Leaves.expect h).bind fun _ t e h => ?_
    have := ofReading_shorter e
    exact (leaves_read hg.unlinked t (hg.taken _ h)).bind fun g v _ h => .done _ (hg.left _ h)
  · rw [next?_mark h]
    refine (Leaves.expect h).bind fun _ t e h => ?_
    have := ofReading_shorter e
    exact (leaves_read (.mark rfl _) t h).bind
      fun g v _ h => (Leaves.expect h).bind fun _ u _ h => .done _ h
  · obtain ⟨k, hk, hn⟩ := next?_one h (by decide)
    rw [hn]
    have compare : Leaves (do
        let c ← ofReading (Comparison.read x)
        return (.compare c : Guard α)) g s :=
      (Comparison.leaves_read h).bind fun c t _ h => .done _ h
    simp only [Symbol.opens, List.mem_cons, List.not_mem_nil, or_false] at hk
    obtain rfl | rfl := hk <;> exact compare
termination_by (s.length, 0)
end

end Guard

end BankSwitch
