import BankSwitch.Proofs.Grammar.Translation
import BankSwitch.Proofs.Scanning.Guard
import BankSwitch.Proofs.Scanning.Layout

/-!
# Scanning translations

The readers of primitives, bodies, cases and translations as scanners, and the forms that they
follow.
-/

namespace BankSwitch

open Grammar Scanner

variable {α : Type} {w w' : Nat} {x x' : Source}

/-! ## primitives -/

namespace Primitive

theorem ofReading_readWord : ofReading (readWord x) =
    choose x ofKind? (fun make => pure make) (fail x .noTerm) := by
  funext s
  show (readWord x s).map _ = _
  cases s with
  | nil => rfl
  | cons t r =>
    unfold readWord
    dsimp only
    split
    · next make hm =>
      rw [choose_some hm]
      rfl
    · next hn =>
      rw [choose_none hn]
      rfl

theorem ofReading_readTerm : ofReading (readTerm x) = do
    let _ ← ofReading (x.expect .leftParen)
    let make ← ofReading (readWord x)
    let n ← ofReading x.number
    let _ ← ofReading (x.expect .rightParen)
    return make n := by
  funext s
  show (readTerm x s).map _ = _
  unfold readTerm
  exact ofReading_bind fun _ s₁ _ => ofReading_bind fun make s₂ _ => ofReading_bind fun n s₃ _ =>
    ofReading_bind fun _ s₄ _ => rfl

theorem ofReading_readOperation : ofReading (readOperation x) = choose x ofOperator?
    (fun make => do
      let n ← ofReading x.number
      return make n)
    (fail x .noOperator) := by
  funext s
  show (readOperation x s).map _ = _
  cases s with
  | nil => rfl
  | cons t r =>
    unfold readOperation
    dsimp only
    split
    · next make hm =>
      rw [choose_some hm]
      exact ofReading_bind fun n s₁ _ => rfl
    · next hn =>
      rw [choose_none hn]
      rfl

theorem ofTrailing_readOperand (n : Nat) : ofTrailing (readOperand x n) = choose x ofMiddle?
    (fun make => do
      let _ ← ofReading (x.expect .input)
      return make n)
    (pure (.constant n)) := by
  funext s
  show (readOperand x n s).map _ = _
  cases s with
  | nil => rfl
  | cons t r =>
    unfold readOperand
    dsimp only
    split
    · next make hm =>
      rw [choose_some hm]
      exact ofReading_bind fun _ s₁ _ => rfl
    · next hn =>
      rw [choose_none hn]
      rfl

theorem ofReading_read : ofReading (read x) = front fun
    | none => exhausted
    | some .noop => do
      let _ ← ofReading (x.expect .noop)
      return .noop
    | some .leftParen => ofReading (readTerm x)
    | some .input => do
      let _ ← ofReading (x.expect .input)
      ofReading (readOperation x)
    | some .number => do
      let n ← ofReading x.number
      ofTrailing (readOperand x n)
    | some _ => fail x .noTranslation := by
  funext s
  show (read x s).map _ = _
  unfold read front
  cases Source.next? s with
  | none => rfl
  | some k =>
    cases k
    case noop => exact ofReading_bind fun _ s₁ _ => rfl
    case input =>
      refine ofReading_bind fun _ s₁ _ => ?_
      show (readOperation x s₁ >>= _).map _ = (readOperation x s₁).map _
      cases readOperation x s₁ <;> rfl
    case number =>
      refine ofReading_bind fun n s₁ _ => ?_
      show (readOperand x n s₁ >>= _).map _ = (readOperand x n s₁).map _
      cases readOperand x n s₁ <;> rfl
    all_goals rfl

/-- a semicolon and a primitive -/
def scanStep (x : Source) : Scanner Primitive := do
  let _ ← ofReading (x.expect .semicolon)
  ofReading (read x)

theorem scanStep_shorter {s v : List Token} {p : Primitive} (h : scanStep x s = .ok (p, v)) :
    v.length < s.length := by
  obtain ⟨⟨t, r⟩, e, h⟩ := bind_ok h
  exact Nat.lt_trans (ofReading_shorter h) (ofReading_shorter e)

theorem ofTrailing_readMore : ofTrailing (readMore x) =
    turn (fun k => k = some .semicolon) (scanStep x) (ofTrailing (readMore x)) := by
  funext s
  show (readMore x s).map _ = _
  unfold turn front
  cases s with
  | nil =>
    unfold readMore
    rfl
  | cons t r =>
    conv => lhs; unfold readMore
    dsimp only [Source.next?]
    split
    · next hk =>
      rw [if_pos (by simp [hk])]
      unfold scanStep
      rw [bind_assoc]
      refine Eq.trans ?_ (expect_step hk (fun _ => _) r).symm
      exact ofReading_bind fun p s₁ _ => ofTrailing_bind fun ps s₂ _ => rfl
    · next hk =>
      rw [if_neg (by simp [hk])]
      rfl

end Primitive

/-! ## bodies and cases -/

namespace Body

theorem ofReading_read : ofReading (read (α := α) x) = front fun k =>
    if k = some .leftBracket then do
      let (p, ps) ← ofReading
        (x.enclosed .leftBracket .rightBracket (Primitive.read x) (Primitive.readMore x))
      return .sequence p ps
    else do
      let p ← ofReading (Primitive.read x)
      return .primitive p := by
  funext s
  show (read x s).map _ = _
  unfold read readSequence front
  by_cases hn : Source.next? s = some .leftBracket
  · simp only [if_pos hn]
    exact ofReading_bind fun r s₁ _ => rfl
  · simp only [if_neg hn]
    exact ofReading_bind fun p s₁ _ => rfl

end Body

namespace Case

theorem ofReading_read : ofReading (read (α := α) x) = do
    let g ← ofReading (Guard.readTerm x)
    let _ ← ofReading (x.expect .arrow)
    let b ← ofReading (Body.read x)
    let _ ← ofReading (x.expect .comma)
    return ⟨g, b⟩ := by
  funext s
  show (read x s).map _ = _
  unfold read
  exact ofReading_bind fun g s₁ _ => ofReading_bind fun _ s₂ _ => ofReading_bind fun b s₃ _ =>
    ofReading_bind fun _ s₄ _ => rfl

/-- one case or more, up to the arrow of the default -/
def scanAll (x : Source) : Scanner (Case α × List (Case α)) := front fun k =>
  if k = some .arrow then fail x .noCase
  else do
    let c ← ofReading (read x)
    let cs ← ofTrailing (readMore x)
    return (c, cs)

theorem scanAll_stop {s : List Token} (hn : Source.next? s = some .arrow) :
    scanAll (α := α) x s = fail x .noCase s := congrFun (if_pos hn) s

theorem scanAll_step {s : List Token} (hn : Source.next? s ≠ some .arrow) :
    scanAll (α := α) x s = (do
      let c ← ofReading (read x)
      let cs ← ofTrailing (readMore x)
      return (c, cs)) s := congrFun (if_neg hn) s

end Case

namespace Translation

theorem ofReading_readSwitch : ofReading (readSwitch (α := α) x) = do
    let _ ← ofReading (x.expect .switch)
    let _ ← ofReading (x.expect .leftBrace)
    let (first, rest) ← Case.scanAll x
    let _ ← ofReading (x.expect .arrow)
    let default ← ofReading (Body.read x)
    let _ ← ofReading (x.expect .rightBrace)
    return .switch first rest default := by
  funext s
  show (readSwitch x s).map _ = _
  unfold readSwitch
  refine ofReading_bind fun _ s₁ _ => ofReading_bind fun _ s₂ _ => ?_
  dsimp only
  by_cases hn : Source.next? s₂ = some .arrow
  · rw [Case.loops.stop s₂ (Decidable.not_not.mpr hn), bind_congr_apply (Case.scanAll_stop hn)]
    rfl
  · rw [Case.loops.step s₂ hn, bind_congr_apply (Case.scanAll_step hn)]
    simp only [bind_assoc, pure_bind]
    exact ofReading_bind fun c s₃ _ => ofTrailing_bind fun cs s₄ _ => ofReading_bind fun _ s₅ _ =>
      ofReading_bind fun d s₆ _ => ofReading_bind fun _ s₇ _ => rfl

theorem ofReading_read : ofReading (read (α := α) x) = front fun k =>
    if k = some .switch then ofReading (readSwitch x)
    else do
      let b ← ofReading (Body.read x)
      return .body b := by
  funext s
  show (read x s).map _ = _
  unfold read front
  by_cases hn : Source.next? s = some .switch
  · simp only [if_pos hn]
    rfl
  · simp only [if_neg hn]
    exact ofReading_bind fun b s₁ _ => rfl

end Translation

/-! ## following the grammar -/

namespace Primitive

theorem word_listed : Symbol.word.ListedBy ofKind? := ⟨_, rfl, fun k => by cases k <;> decide⟩

theorem operator_listed : Symbol.operator.ListedBy ofOperator? :=
  ⟨_, rfl, fun k => by cases k <;> decide⟩

theorem middle_listed : Symbol.middle.ListedBy ofMiddle? :=
  ⟨_, rfl, fun k => by cases k <;> decide⟩

theorem follows_readWord (hx : Source.Widens w w' x x') (s : List Token) :
    Follows x w (ofReading (readWord x)) (ofReading (readWord x')) [.one .word] s := by
  rw [ofReading_readWord, ofReading_readWord]
  exact .choose hx rfl (fun k make hk z hz => hz.of_rule (word_listed.rule hk))
    (fun make t _ => .done make) (fun _ hz => hz) (.fail hx (by simp) _)

theorem follows_readTerm (hx : Source.Widens w w' x x') (s : List Token) :
    Follows x w (ofReading (readTerm x)) (ofReading (readTerm x'))
      [.mark .leftParen, .one .word, .number, .mark .rightParen] s := by
  rw [ofReading_readTerm, ofReading_readTerm]
  exact (Follows.expect hx s rfl).bind fun _ s₁ _ => (follows_readWord hx s₁).bind fun make s₂ _ =>
    (Follows.number hx s₂).bind fun n s₃ _ => (Follows.expect hx s₃ rfl).bind fun _ s₄ _ => .done _

theorem follows_readOperation (hx : Source.Widens w w' x x') (s : List Token) :
    Follows x w (ofReading (readOperation x)) (ofReading (readOperation x'))
      [.one .operator, .number] s := by
  rw [ofReading_readOperation, ofReading_readOperation]
  exact .choose hx rfl (fun k make hk z hz => hz.of_mark (operator_listed.rule hk))
    (fun make t _ => (Follows.number hx t).bind fun n _ _ => .done _) (fun _ hz => hz)
    (.fail hx (by simp) _)

theorem follows_readOperand (hx : Source.Widens w w' x x') (n : Nat) (s : List Token) :
    Follows x w (ofTrailing (readOperand x n)) (ofTrailing (readOperand x' n))
      [.one .operand] s := by
  rw [ofTrailing_readOperand, ofTrailing_readOperand]
  refine .choose hx (f := [.mark .input]) (g := []) rfl (fun k make hk z hz => ?_)
    (fun make t _ => (Follows.expect hx t rfl).bind fun _ _ _ => .done _)
    (fun z hz => hz.of_rule (by decide)) (.done _)
  exact (hz.of_mark (middle_listed.rule hk)).of_rule (by decide)

theorem follows_read (hx : Source.Widens w w' x x') (s : List Token) :
    Follows x w (ofReading (read x)) (ofReading (read x')) [.one .primitive] s := by
  rw [ofReading_read, ofReading_read]
  refine .front ?_
  split
  · next hs => exact .exhausted (by simp) (eq_nil_of_next? hs)
  · refine .rule (f := [.mark .noop]) (by decide) ?_
    exact (Follows.expect hx s rfl).bind fun _ s₁ _ => .done _
  · exact .rule (by decide) (follows_readTerm hx s)
  · refine .rule (f := [.mark .input, .one .operator, .number]) (by decide) ?_
    exact (Follows.expect hx s rfl).bind fun _ s₁ _ => follows_readOperation hx s₁
  · refine .rule (f := [.number, .one .operand]) (by decide) ?_
    exact (Follows.number hx s).bind fun n s₁ _ => follows_readOperand hx n s₁
  · exact .fail hx (by simp) _

theorem follows_readMore (hx : Source.Widens w w' x x') (s : List Token) :
    Follows x w (ofTrailing (readMore x)) (ofTrailing (readMore x')) [.many .step] s := by
  refine .loop _ ofTrailing_readMore ofTrailing_readMore (fun s => ?_) scanStep_shorter s
  refine .rule (f := [.mark .semicolon, .one .primitive]) (by decide) ?_
  exact (Follows.expect hx s rfl).bind fun _ s₁ _ => follows_read hx s₁

end Primitive

theorem Body.follows_read (hx : Source.Widens w w' x x') (s : List Token) :
    Follows x w (ofReading (Body.read (α := α) x)) (ofReading (Body.read x')) [.one .body] s := by
  rw [ofReading_read, ofReading_read]
  refine .front ?_
  split
  · refine .rule (f := [.mark .leftBracket, .one .primitive, .many .step, .mark .rightBracket])
      (by decide) ?_
    exact (Source.follows_enclosed hx rfl rfl (Primitive.follows_read hx)
      (Primitive.follows_readMore hx) s).bind fun _ s₁ _ => .done _
  · refine .rule (f := [.one .primitive]) (by decide) ?_
    exact (Primitive.follows_read hx s).bind fun p s₁ _ => .done _

namespace Case

theorem follows_read (hx : Source.Widens w w' x x') (s : List Token) :
    Follows x w (ofReading (read (α := α) x)) (ofReading (read x')) [.one .case] s := by
  rw [ofReading_read, ofReading_read]
  refine .rule (f := [.one .term, .mark .arrow, .one .body, .mark .comma]) (by decide) ?_
  exact (Guard.follows_readTerm hx s).bind fun g s₁ _ => (Follows.expect hx s₁ rfl).bind
    fun _ s₂ _ => (Body.follows_read hx s₂).bind fun b s₃ _ => (Follows.expect hx s₃ rfl).bind
    fun _ s₄ _ => .done _

theorem follows_readMore (hx : Source.Widens w w' x x') (s : List Token) :
    Follows x w (ofTrailing (readMore (α := α) x)) (ofTrailing (readMore x')) [.many .case] s :=
  .loop (fun k => k ≠ some .arrow) (ofTrailing_loop loops (by simp))
    (ofTrailing_loop loops (by simp)) (follows_read hx) ofReading_shorter s

theorem follows_scanAll (hx : Source.Widens w w' x x') (s : List Token) :
    Follows x w (scanAll (α := α) x) (scanAll x') [.one .case, .many .case] s := by
  refine .front ?_
  split
  · exact .fail hx (by simp) _
  · exact (follows_read hx s).bind fun c s₁ _ => (follows_readMore hx s₁).bind
      fun cs s₂ _ => .done _

end Case

namespace Translation

theorem follows_readSwitch (hx : Source.Widens w w' x x') (s : List Token) :
    Follows x w (ofReading (readSwitch (α := α) x)) (ofReading (readSwitch x'))
      [.one .translation] s := by
  rw [ofReading_readSwitch, ofReading_readSwitch]
  refine .rule (f := [.mark .switch, .mark .leftBrace, .one .case, .many .case, .mark .arrow,
    .one .body, .mark .rightBrace]) (by decide) ?_
  exact (Follows.expect hx s rfl).bind fun _ s₁ _ => (Follows.expect hx s₁ rfl).bind fun _ s₂ _ =>
    (Case.follows_scanAll hx s₂).bind fun cs s₃ _ => (Follows.expect hx s₃ rfl).bind fun _ s₄ _ =>
    (Body.follows_read hx s₄).bind fun d s₅ _ => (Follows.expect hx s₅ rfl).bind fun _ s₆ _ => .done _

theorem follows_read (hx : Source.Widens w w' x x') (s : List Token) :
    Follows x w (ofReading (read (α := α) x)) (ofReading (read x')) [.one .translation] s := by
  rw [ofReading_read, ofReading_read]
  refine .front ?_
  split
  · exact follows_readSwitch hx s
  · refine .rule (f := [.one .body]) (by decide) ?_
    exact (Body.follows_read hx s).bind fun b s₁ _ => .done _

end Translation

/-! ## every phrase is scanned

A bare number goes on with an operator if it can, so nothing that follows a primitive may begin with
one.
-/

variable {f : Form} {s : List Token}

namespace Primitive

theorem leaves_readWord (h : Yields (.one .word :: f) (terminals s)) :
    Leaves (ofReading (readWord x)) f s := by
  rw [ofReading_readWord]
  obtain ⟨k, make, hk, h⟩ := word_listed.entry h
  exact .chosen hk h fun t _ ht => .done _ ht

theorem leaves_readTerm (h : Yields (.mark .leftParen :: .one .word :: .number ::
    .mark .rightParen :: f) (terminals s)) : Leaves (ofReading (readTerm x)) f s := by
  rw [ofReading_readTerm]
  exact (Leaves.expect h).bind fun _ s₁ _ h => (leaves_readWord h).bind fun make s₂ _ h =>
    (Leaves.number h).bind fun n s₃ _ h => (Leaves.expect h).bind fun _ s₄ _ h => .done _ h

theorem leaves_readOperation (h : Yields (.one .operator :: .number :: f) (terminals s)) :
    Leaves (ofReading (readOperation x)) f s := by
  rw [ofReading_readOperation]
  obtain ⟨k, make, hk, h⟩ := operator_listed.entry h
  exact .chosen hk h fun t _ ht => (Leaves.number ht).bind fun n _ _ h => .done _ h

theorem leaves_readOperand (hf : Avoids ofMiddle? f) (n : Nat)
    (h : Yields (.one .operand :: f) (terminals s)) :
    Leaves (ofTrailing (readOperand x n)) f s := by
  rw [ofTrailing_readOperand]
  obtain h | h := h.of_either rfl
  · exact .passed (hf s h) (.done _ h)
  · obtain ⟨k, make, hk, h⟩ := middle_listed.entry h
    exact .chosen hk h fun t _ ht => (Leaves.expect ht).bind fun _ _ _ h => .done _ h

theorem leaves_read (hf : Avoids ofMiddle? f) (h : Yields (.one .primitive :: f) (terminals s)) :
    Leaves (ofReading (read x)) f s := by
  rw [ofReading_read]
  refine .front ?_
  obtain ⟨g, hg, h⟩ := h.rule_of_one_append
  simp only [Symbol.rules, List.mem_cons, List.not_mem_nil, or_false] at hg
  obtain rfl | rfl | rfl | rfl := hg
  · rw [next?_mark h]
    exact (Leaves.expect h).bind fun _ s₁ _ h => .done _ h
  · rw [next?_mark h]
    exact leaves_readTerm h
  · rw [next?_mark h]
    exact (Leaves.expect h).bind fun _ s₁ _ h => leaves_readOperation h
  · rw [next?_number h]
    exact (Leaves.number h).bind fun n s₁ _ h => leaves_readOperand hf n h

theorem avoids_steps (f : Form) : Avoids ofMiddle? (.many .step :: .mark .rightBracket :: f) := by
  intro s hs k hn
  obtain none | one := hs.none_or_more
  · exact Avoids.mark rfl f s none k hn
  · obtain ⟨k', hk', hn'⟩ := next?_one one (by decide)
    simp only [Symbol.opens, List.mem_cons, List.not_mem_nil, or_false] at hk'
    cases hk'
    cases hn'.symm.trans hn
    rfl

theorem leaves_readMore (h : Yields (.many .step :: .mark .rightBracket :: f) (terminals s)) :
    Leaves (ofTrailing (readMore x)) (.mark .rightBracket :: f) s := by
  refine .loop _ ofTrailing_readMore scanStep_shorter (fun h => ?_) (by decide) (by decide)
    (fun s h => by simp [next?_mark h]) s h
  exact (Leaves.expect (h.of_only rfl)).bind fun _ s₁ _ h => leaves_read (avoids_steps f) h

end Primitive

theorem Body.leaves_read (hf : Avoids Primitive.ofMiddle? f)
    (h : Yields (.one .body :: f) (terminals s)) :
    Leaves (ofReading (Body.read (α := α) x)) f s := by
  rw [ofReading_read]
  refine .front ?_
  obtain h | h := h.of_either rfl
  · rw [next?_mark h, if_pos rfl]
    exact (Source.leaves_enclosed (Primitive.leaves_read (Primitive.avoids_steps f))
      Primitive.leaves_readMore h).bind fun _ s₁ _ h => .done _ h
  · rw [if_neg (next?_ne_of_one h (by decide) (by decide))]
    exact (Primitive.leaves_read hf h).bind fun p s₁ _ h => .done _ h

namespace Case

theorem leaves_read (h : Yields (.one .case :: f) (terminals s)) :
    Leaves (ofReading (read (α := α) x)) f s := by
  rw [ofReading_read]
  exact (Guard.leaves_readTerm (.refl (.mark rfl _)) s (h.of_only rfl)).bind fun g s₁ _ h =>
    (Leaves.expect h).bind fun _ s₂ _ h => (Body.leaves_read (.mark rfl _) h).bind
    fun b s₃ _ h => (Leaves.expect h).bind fun _ s₄ _ h => .done _ h

theorem leaves_readMore (h : Yields (.many .case :: .mark .arrow :: f) (terminals s)) :
    Leaves (ofTrailing (readMore (α := α) x)) (.mark .arrow :: f) s :=
  .loop (fun k => k ≠ some .arrow) (ofTrailing_loop loops (by simp)) ofReading_shorter
    leaves_read (by decide) (by decide) (fun _ h => by simp [next?_mark h]) s h

theorem leaves_scanAll (h : Yields (.one .case :: .many .case :: .mark .arrow :: f)
    (terminals s)) : Leaves (scanAll (α := α) x) (.mark .arrow :: f) s := by
  refine .of_eq ?_ (scanAll_step (next?_ne_of_one h (by decide) (by decide)))
  exact (leaves_read h).bind fun c s₁ _ h => (leaves_readMore h).bind fun cs s₂ _ h => .done _ h

end Case

namespace Translation

theorem leaves_readSwitch (h : Yields (.mark .switch :: .mark .leftBrace :: .one .case ::
    .many .case :: .mark .arrow :: .one .body :: .mark .rightBrace :: f) (terminals s)) :
    Leaves (ofReading (readSwitch (α := α) x)) f s := by
  rw [ofReading_readSwitch]
  exact (Leaves.expect h).bind fun _ s₁ _ h => (Leaves.expect h).bind fun _ s₂ _ h =>
    (Case.leaves_scanAll h).bind fun cs s₃ _ h => (Leaves.expect h).bind fun _ s₄ _ h =>
    (Body.leaves_read (.mark rfl _) h).bind fun d s₅ _ h => (Leaves.expect h).bind
    fun _ s₆ _ h => .done _ h

theorem leaves_read (hf : Avoids Primitive.ofMiddle? f)
    (h : Yields (.one .translation :: f) (terminals s)) :
    Leaves (ofReading (read (α := α) x)) f s := by
  rw [ofReading_read]
  refine .front ?_
  obtain h | h := h.of_either rfl
  · rw [next?_mark h, if_pos rfl]
    exact leaves_readSwitch h
  · rw [if_neg (next?_ne_of_one h (by decide) (by decide))]
    exact (Body.leaves_read hf h).bind fun b s₁ _ h => .done _ h

end Translation

end BankSwitch
