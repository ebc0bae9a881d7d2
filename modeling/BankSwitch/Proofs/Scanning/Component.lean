import BankSwitch.Proofs.Scanning.Translation

/-!
# Scanning components

The readers of banks and components as scanners, and the forms that they follow.  The width of the
bus enters a component when its parts are put together, so the parts are what two readers on buses
of different widths have in common.
-/

namespace BankSwitch

open Grammar Scanner

variable {α : Type} {w w' : Nat} {x x' : Source} {f : Form} {s : List Token}

/-! ## banks -/

namespace Bank

theorem ofReading_read : ofReading (read (α := α) x) = do
    let _ ← ofReading (x.expect .bank)
    let _ ← ofReading (x.expect .leftBrace)
    let _ ← ofReading (x.expect .layout)
    let _ ← ofReading (x.expect .colon)
    let layout ← ofReading (Partition.read x)
    let _ ← ofReading (x.expect .translation)
    let _ ← ofReading (x.expect .colon)
    let translation ← ofReading (Translation.read x)
    let _ ← ofReading (x.expect .rightBrace)
    return ⟨layout, translation⟩ := by
  funext s
  show (read x s).map _ = _
  unfold read
  exact ofReading_bind fun _ s₁ _ => ofReading_bind fun _ s₂ _ => ofReading_bind fun _ s₃ _ =>
    ofReading_bind fun _ s₄ _ => ofReading_bind fun p s₅ _ => ofReading_bind fun _ s₆ _ =>
    ofReading_bind fun _ s₇ _ => ofReading_bind fun t s₈ _ => ofReading_bind fun _ s₉ _ => rfl

theorem follows_read (hx : Source.Widens w w' x x') (s : List Token) :
    Follows x w (ofReading (read (α := α) x)) (ofReading (read x')) [.one .bank] s := by
  rw [ofReading_read, ofReading_read]
  refine .rule (f := [.mark .bank, .mark .leftBrace, .mark .layout, .mark .colon, .one .partition,
    .mark .translation, .mark .colon, .one .translation, .mark .rightBrace]) (by decide) ?_
  exact (Follows.expect hx s rfl).bind fun _ s₁ _ => (Follows.expect hx s₁ rfl).bind fun _ s₂ _ =>
    (Follows.expect hx s₂ rfl).bind fun _ s₃ _ => (Follows.expect hx s₃ rfl).bind fun _ s₄ _ =>
    (Partition.follows_read hx s₄).bind fun p s₅ _ => (Follows.expect hx s₅ rfl).bind fun _ s₆ _ =>
    (Follows.expect hx s₆ rfl).bind fun _ s₇ _ => (Translation.follows_read hx s₇).bind fun t s₈ _ =>
    (Follows.expect hx s₈ rfl).bind fun _ s₉ _ => .done _

theorem follows_readMore (hx : Source.Widens w w' x x') (s : List Token) :
    Follows x w (ofTrailing (readMore (α := α) x)) (ofTrailing (readMore x')) [.many .bank] s :=
  .loop (fun k => k = some .bank) (ofTrailing_loop loops (by simp)) (ofTrailing_loop loops (by simp))
    (follows_read hx) ofReading_shorter s

theorem leaves_read (hw : x.settings.width = .whole w) (h : Yields (.one .bank :: f) (terminals s)) :
    Leaves (ofReading (read (α := α) x)) f s := by
  rw [ofReading_read]
  exact (Leaves.expect (h.of_only rfl)).bind fun _ s₁ _ h => (Leaves.expect h).bind fun _ s₂ _ h =>
    (Leaves.expect h).bind fun _ s₃ _ h => (Leaves.expect h).bind fun _ s₄ _ h =>
    (Partition.leaves_read hw h).bind fun p s₅ _ h => (Leaves.expect h).bind fun _ s₆ _ h =>
    (Leaves.expect h).bind fun _ s₇ _ h =>
    (Translation.leaves_read (.mark rfl _) h).bind fun t s₈ _ h =>
    (Leaves.expect h).bind fun _ s₉ _ h => .done _ h

theorem leaves_readMore (hw : x.settings.width = .whole w)
    (h : Yields (.many .bank :: .mark .rightBrace :: f) (terminals s)) :
    Leaves (ofTrailing (readMore (α := α) x)) (.mark .rightBrace :: f) s :=
  .loop (fun k => k = some .bank) (ofTrailing_loop loops (by simp)) ofReading_shorter
    (leaves_read hw) (by decide) (by decide) (fun _ h => by simp [next?_mark h]) s h

end Bank

/-! ## components -/

namespace Component

/-- what a description says, whatever the width of the bus -/
structure Parts (α : Type) where
  paramA : Nat
  paramB : Nat
  first : Bank α
  rest : List (Bank α)

/-- the component of the parts on a bus of `w` lines -/
def Parts.component (p : Parts α) (w : Nat) (hw : 0 < w) : Component α :=
  ⟨p.paramA, p.paramB, p.first :: p.rest, w, List.cons_ne_nil _ _, hw⟩

/-- one bank or more -/
def scanBanks (x : Source) : Scanner (Bank α × List (Bank α)) := front fun k =>
  if k = some .bank then do
    let b ← ofReading (Bank.read x)
    let bs ← ofTrailing (Bank.readMore x)
    return (b, bs)
  else fail x .noBank

theorem scanBanks_stop {s : List Token} (hn : Source.next? s ≠ some .bank) :
    scanBanks (α := α) x s = fail x .noBank s := congrFun (if_neg hn) s

theorem scanBanks_step {s : List Token} (hn : Source.next? s = some .bank) :
    scanBanks (α := α) x s = (do
      let b ← ofReading (Bank.read x)
      let bs ← ofTrailing (Bank.readMore x)
      return (b, bs)) s := congrFun (if_pos hn) s

def scanParts (x : Source) : Scanner (Parts α) := do
  let _ ← ofReading (x.expect .memory)
  let _ ← ofReading (x.expect .below)
  let a ← ofReading x.number
  let _ ← ofReading (x.expect .comma)
  let b ← ofReading x.number
  let _ ← ofReading (x.expect .above)
  let _ ← ofReading (x.expect .leftBrace)
  let (first, rest) ← scanBanks x
  let _ ← ofReading (x.expect .rightBrace)
  return ⟨a, b, first, rest⟩

/-- the component of the parts on a bus that may have no lines -/
def Parts.build (p : Parts α) (width : Int) : Except ReadError (Component α) :=
  match ofBanks p.paramA p.paramB (p.first :: p.rest) width with
  | .ok c => .ok c
  | .error e => .error (.build e)

theorem Parts.build_pos (p : Parts α) (hw : 0 < w) : p.build w = .ok (p.component w hw) := by
  have h : ofBanks p.paramA p.paramB (p.first :: p.rest) w = .ok (p.component w hw) :=
    ofBanks_self (p.component w hw)
  unfold build
  rw [h]

theorem Parts.build_ne_fault (p : Parts α) {width : Int} {g : GrammarFault} {i : Position}
    {b : Bool} : p.build width ≠ .error (.grammar g i b) := by
  unfold build
  cases ofBanks p.paramA p.paramB (p.first :: p.rest) width with
  | ok c => rintro ⟨⟩
  | error e => rintro ⟨⟩

theorem ofReading_read : ofReading (read (α := α) x) =
    scanParts x >>= fun p => judge (p.build x.settings.width.value) := by
  funext s
  show (read x s).map _ = _
  unfold read scanParts
  simp only [bind_assoc, pure_bind]
  refine ofReading_bind fun _ s₁ _ => ofReading_bind fun _ s₂ _ => ofReading_bind fun a s₃ _ =>
    ofReading_bind fun _ s₄ _ => ofReading_bind fun b s₅ _ => ofReading_bind fun _ s₆ _ =>
    ofReading_bind fun _ s₇ _ => ?_
  dsimp only
  by_cases hn : Source.next? s₇ = some .bank
  · rw [Bank.loops.step s₇ hn, bind_congr_apply (scanBanks_step hn)]
    simp only [bind_assoc, pure_bind]
    refine ofReading_bind fun first s₈ _ => ofTrailing_bind fun rest s₉ _ => ?_
    refine ofReading_bind fun _ s₁₀ _ => ?_
    unfold judge Parts.build
    dsimp only [Reading.cons]
    cases ofBanks a b (first :: rest) x.settings.width.value <;> rfl
  · rw [Bank.loops.stop s₇ hn, bind_congr_apply (scanBanks_stop hn)]
    rfl

theorem follows_scanBanks (hx : Source.Widens w w' x x') (s : List Token) :
    Follows x w (scanBanks (α := α) x) (scanBanks x') [.one .bank, .many .bank] s := by
  refine .front ?_
  split
  · exact (Bank.follows_read hx s).bind fun b s₁ _ => (Bank.follows_readMore hx s₁).bind
      fun bs s₂ _ => .done _
  · exact .fail hx (by simp) _

theorem follows_scanParts (hx : Source.Widens w w' x x') (s : List Token) :
    Follows x w (scanParts (α := α) x) (scanParts x') [.one .component] s := by
  refine .rule (f := [.mark .memory, .mark .below, .number, .mark .comma, .number, .mark .above,
    .mark .leftBrace, .one .bank, .many .bank, .mark .rightBrace]) (by decide) ?_
  exact (Follows.expect hx s rfl).bind fun _ s₁ _ => (Follows.expect hx s₁ rfl).bind fun _ s₂ _ =>
    (Follows.number hx s₂).bind fun a s₃ _ => (Follows.expect hx s₃ rfl).bind fun _ s₄ _ =>
    (Follows.number hx s₄).bind fun b s₅ _ => (Follows.expect hx s₅ rfl).bind fun _ s₆ _ =>
    (Follows.expect hx s₆ rfl).bind fun _ s₇ _ => (follows_scanBanks hx s₇).bind fun bs s₈ _ =>
    (Follows.expect hx s₈ rfl).bind fun _ s₉ _ => .done _

theorem leaves_scanBanks (hw : x.settings.width = .whole w)
    (h : Yields (.one .bank :: .many .bank :: .mark .rightBrace :: f) (terminals s)) :
    Leaves (scanBanks (α := α) x) (.mark .rightBrace :: f) s := by
  obtain ⟨k, hk, hn⟩ := next?_one h (by decide)
  obtain rfl := List.mem_singleton.mp hk
  refine .of_eq ?_ (scanBanks_step hn)
  exact (Bank.leaves_read hw h).bind fun b s₁ _ h => (Bank.leaves_readMore hw h).bind
    fun bs s₂ _ h => .done _ h

theorem leaves_scanParts (hw : x.settings.width = .whole w)
    (h : Yields (.one .component :: f) (terminals s)) :
    Leaves (scanParts (α := α) x) f s :=
  (Leaves.expect (h.of_only rfl)).bind fun _ _ _ h => (Leaves.expect h).bind fun _ _ _ h =>
    (Leaves.number h).bind fun _ _ _ h => (Leaves.expect h).bind fun _ _ _ h =>
    (Leaves.number h).bind fun _ _ _ h => (Leaves.expect h).bind fun _ _ _ h =>
    (Leaves.expect h).bind fun _ _ _ h => (leaves_scanBanks hw h).bind fun _ _ _ h =>
    (Leaves.expect h).bind fun _ _ _ h => .done _ h

end Component

end BankSwitch
