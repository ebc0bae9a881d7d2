import BankSwitch.Proofs.Scanning.Text

/-!
# Scanning without places

Places enter what readers do in one way only: an error names one.  So a scanner of tokens that all
stand at one place does what it does otherwise, but for the places of its errors (`Forgets`).

* `Forgets.bind`, `Forgets.front`, `Forgets.choose`, `Forgets.loop`   scanners put together;
* `forgets_read` of each reader, in the order of the grammar;
* `Source.readAll_congr`   texts with the same lexemes.
-/

namespace BankSwitch

variable {α β γ δ : Type}

/-! ## forgetting places -/

/-- the token at the start of the text -/
def Token.placeless (t : Token) : Token := ⟨t.lexeme, .start⟩

def Source.placeless (x : Source) : Source := ⟨x.settings, .start⟩

/-- the error at the start of the text, if it names a place -/
def ReadError.placeless : ReadError → ReadError
  | .lexical f _ => .lexical f .start
  | .overflow n w _ => .overflow n w .start
  | .decimal fault => .decimal fault
  | .grammar f _ atEnd => .grammar f .start atEnd
  | .range m _ => .range m .start
  | .width f => .width f
  | .build f => .build f
  | .exhausted => .exhausted

theorem placeless_eq_of_lexemes {s s' : List Token}
    (h : s'.map Token.lexeme = s.map Token.lexeme) :
    s'.map Token.placeless = s.map Token.placeless := by
  have at_start (s : List Token) :
      s.map Token.placeless = (s.map Token.lexeme).map fun x => ⟨x, .start⟩ := by
    rw [List.map_map]
    rfl
  rw [at_start, at_start, h]

namespace Scanner

open Source

variable {x : Source} {s : List Token}

/-- an outcome without places, and its value changed -/
def forget (g : α → β) : Except ReadError (α × List Token) → Except ReadError (β × List Token)
  | .ok (a, v) => .ok (g a, v.map Token.placeless)
  | .error e => .error e.placeless

/-- without the places in `s`, the scanner `p'` does what `p` does with them -/
def Forgets (g : α → β) (p : Scanner α) (p' : Scanner β) (s : List Token) : Prop :=
  p' (s.map Token.placeless) = forget g (p s)

theorem next?_placeless (s : List Token) : next? (s.map Token.placeless) = next? s := by
  cases s <;> rfl

theorem fault_placeless (x : Source) (s : List Token) (f : GrammarFault) :
    x.placeless.fault (s.map Token.placeless) f = (x.fault s f).placeless := by
  cases s <;> rfl

theorem mismatch_placeless (x : Source) (k : Token.Kind) (s : List Token) :
    x.placeless.mismatch k (s.map Token.placeless) = (x.mismatch k s).placeless := by
  cases s <;> rfl

namespace Forgets

variable {g : α → γ} {h : β → δ} {p : Scanner α} {p' : Scanner γ}

theorem done (g : α → γ) (a : α) : Forgets g (pure a) (pure (g a)) s := rfl

theorem fail (g : α → γ) (f : GrammarFault) :
    Forgets g (Scanner.fail x f) (Scanner.fail x.placeless f) s :=
  congrArg Except.error (fault_placeless x s f)

theorem exhausted (g : α → γ) : Forgets g Scanner.exhausted Scanner.exhausted s := rfl

theorem bind {q : α → Scanner β} {q' : γ → Scanner δ} (hp : Forgets g p p' s)
    (hq : ∀ a t, p s = .ok (a, t) → Forgets h (q a) (q' (g a)) t) :
    Forgets h (p >>= q) (p' >>= q') s := by
  unfold Forgets
  rw [bind_apply, bind_apply, hp]
  cases e : p s with
  | error e' => rfl
  | ok r => exact hq r.1 r.2 e

/-- a verdict that names no other place than those that it is told -/
theorem judge {v : Except ReadError β} {v' : Except ReadError δ}
    (hv : v' = (v.map h).mapError ReadError.placeless) :
    Forgets h (Scanner.judge v) (Scanner.judge v') s := by
  unfold Forgets Scanner.judge
  rw [hv]
  cases v <;> rfl

theorem front {p : Option Token.Kind → Scanner α} {p' : Option Token.Kind → Scanner γ}
    (hp : Forgets g (p (next? s)) (p' (next? s)) s) :
    Forgets g (Scanner.front p) (Scanner.front p') s := by
  unfold Forgets Scanner.front
  rw [next?_placeless]
  exact hp

/-- a token is taken, or asked for, with its place or without -/
theorem expect (x : Source) (k : Token.Kind) (s : List Token) :
    Forgets Token.placeless (ofReading (x.expect k)) (ofReading (x.placeless.expect k)) s := by
  unfold Forgets
  by_cases hn : next? s = some k
  · obtain ⟨t, r, rfl, ht⟩ := eq_cons_of_next? hn
    have take (y : Source) {t : Token} (ht : t.kind = k) (v : List Token) :
        ofReading (y.expect k) (t :: v) = .ok (t, v) :=
      ofReading_ok.mpr ⟨_, expect_cons ht v⟩
    rw [List.map_cons, take x ht, take x.placeless (t := t.placeless) ht]
    rfl
  · have reject (y : Source) {s : List Token} (hn : next? s ≠ some k) :
        ofReading (y.expect k) s = .error (y.mismatch k s) :=
      ofReading_error.mpr (expect_of_ne hn)
    rw [reject x hn, reject x.placeless (by rwa [next?_placeless]), mismatch_placeless]
    rfl

theorem number (x : Source) (s : List Token) :
    Forgets id (ofReading x.number) (ofReading x.placeless.number) s := by
  unfold Forgets
  by_cases hn : ∃ n q r, s = ⟨.number n, q⟩ :: r
  · obtain ⟨n, q, r, rfl⟩ := hn
    have take (y : Source) (q : Position) (v : List Token) :
        ofReading y.number (⟨.number n, q⟩ :: v) = .ok (n, v) :=
      ofReading_ok.mpr ⟨_, number_cons n q v⟩
    exact (take x.placeless .start _).trans (congrArg (forget id) (take x q r).symm)
  · have reject (y : Source) {s : List Token} (hn : ∀ n q r, s ≠ ⟨.number n, q⟩ :: r) :
        ofReading y.number s = .error (y.mismatch .number s) :=
      ofReading_error.mpr (number_of_ne hn)
    rw [reject x fun n q r e => hn ⟨n, q, r, e⟩, reject x.placeless, mismatch_placeless]
    · rfl
    · rintro n q r e
      obtain ⟨t, v, rfl, ht, -⟩ := List.map_eq_cons_iff.mp e
      obtain ⟨l, i⟩ := t
      cases ht
      exact hn ⟨n, i, v, rfl⟩

/-! ## scanners that a table chooses, and loops -/

theorem choose {table : Token.Kind → Option α} {p : α → Scanner β} {p' : α → Scanner δ}
    {o : Scanner β} {o' : Scanner δ}
    (hp : ∀ a t, t.length < s.length → Forgets h (p a) (p' a) t) (ho : Forgets h o o' s) :
    Forgets h (Scanner.choose x table p o) (Scanner.choose x.placeless table p' o') s := by
  refine .front ?_
  cases next? s with
  | none => exact ho
  | some k =>
    dsimp only
    cases table k with
    | none => exact ho
    | some a => exact (expect x k s).bind fun _ t e => hp a t (ofReading_shorter e)

theorem loop (goesOn : Option Token.Kind → Bool) {p p' : Scanner α}
    {more more' : Scanner (List α)} (hm : more = turn goesOn p more)
    (hm' : more' = turn goesOn p' more') (hp : ∀ s, Forgets id p p' s)
    (shorter : ∀ {s b v}, p s = .ok (b, v) → v.length < s.length) (s : List Token) :
    Forgets id more more' s := by
  rw [hm, hm']
  refine .front ?_
  split
  · refine (hp s).bind fun b t e => ?_
    have := shorter e
    have tail : Forgets id more more' t := loop goesOn hm hm' hp shorter t
    exact tail.bind fun bs v _ => .done id (b :: bs)
  · exact .done id []
termination_by s.length

theorem whole (hp : Forgets g p p' s) :
    Forgets g (Scanner.whole x p) (Scanner.whole x.placeless p') s :=
  hp.bind fun a t _ => (expect x .endOfInput t).bind fun _ _ _ => .done g a

end Forgets

end Scanner

open Scanner

variable {x : Source}

/-! ## layouts -/

namespace Range

/-- the parts of a range, at the start of the text -/
def unplaced (a : Token × β) : Token × β := (a.1.placeless, a.2)

theorem checked_placeless (start stop : Int) (stride : Option Int) (i : Position) :
    checked start stop stride .start =
      (checked start stop stride i).mapError ReadError.placeless := by
  unfold checked
  cases ofBounds start stop stride <;> rfl

theorem forgets_termParts (s : List Token) :
    Forgets unplaced (termParts x) (termParts x.placeless) s :=
  (Forgets.expect x .leftParen s).bind fun t s₁ _ => (Forgets.expect x .range s₁).bind fun _ s₂ _ =>
    (Forgets.number x s₂).bind fun base s₃ _ => (Forgets.number x s₃).bind fun extent s₄ _ =>
    (Forgets.number x s₄).bind fun stride s₅ _ =>
    (Forgets.expect x .rightParen s₅).bind fun _ _ _ => .done unplaced (t, base, extent, stride)

theorem termVerdict_placeless (a : Token × Nat × Nat × Nat) :
    termVerdict x.placeless (unplaced a) = (termVerdict x a).mapError ReadError.placeless := by
  obtain ⟨t, base, extent, stride⟩ := a
  have limit : x.placeless.limit = x.limit := rfl
  have bounds : x.placeless.settings = x.settings := rfl
  unfold termVerdict unplaced
  dsimp only
  rw [limit, bounds]
  unfold Source.limit
  cases x.settings.limit with
  | error e => rfl
  | ok n =>
    dsimp only [ok_bind]
    split
    · rfl
    · exact checked_placeless _ _ _ t.position

theorem forgets_readTerm (s : List Token) :
    Forgets id (ofReading (readTerm x)) (ofReading (readTerm x.placeless)) s := by
  rw [ofReading_readTerm, ofReading_readTerm]
  refine (forgets_termParts s).bind fun a t _ => .judge ?_
  rw [termVerdict_placeless]
  cases termVerdict x a <;> rfl

theorem forgets_readStride (s : List Token) :
    Forgets id (ofTrailing (readStride x)) (ofTrailing (readStride x.placeless)) s := by
  rw [ofTrailing_readStride, ofTrailing_readStride]
  exact .choose (fun _ t _ => (Forgets.number x t).bind fun n _ _ => .done id (some n))
    (.done id none)

theorem forgets_bracketParts (s : List Token) :
    Forgets unplaced (bracketParts x) (bracketParts x.placeless) s :=
  (Forgets.expect x .leftBracket s).bind fun t s₁ _ => (Forgets.number x s₁).bind fun start s₂ _ =>
    (Forgets.expect x .colon s₂).bind fun _ s₃ _ => (Forgets.number x s₃).bind fun stop s₄ _ =>
    (forgets_readStride s₄).bind fun stride s₅ _ =>
    (Forgets.expect x .rightBracket s₅).bind fun _ _ _ => .done unplaced (t, start, stop, stride)

theorem forgets_readBracket (s : List Token) :
    Forgets id (ofReading (readBracket x)) (ofReading (readBracket x.placeless)) s := by
  rw [ofReading_readBracket, ofReading_readBracket]
  refine (forgets_bracketParts s).bind fun a t _ => .judge ?_
  obtain ⟨opening, start, stop, stride⟩ := a
  refine (checked_placeless start stop _ opening.position).trans ?_
  unfold bracketVerdict
  dsimp only
  cases checked start stop (stride.map fun (n : Nat) => (n : Int)) opening.position <;> rfl

theorem forgets_read (s : List Token) :
    Forgets id (ofReading (read x)) (ofReading (read x.placeless)) s := by
  rw [ofReading_read, ofReading_read]
  refine .front ?_
  split
  · exact forgets_readTerm s
  · exact forgets_readBracket s
  · exact .fail id _

theorem forgets_readMore (s : List Token) :
    Forgets id (ofTrailing (readMore x)) (ofTrailing (readMore x.placeless)) s :=
  .loop (fun k => k ≠ some .rightBracket) (ofTrailing_loop loops (by simp))
    (ofTrailing_loop loops (by simp)) forgets_read ofReading_shorter s

end Range

theorem Source.forgets_enclosed {opening closing : Token.Kind}
    {first first' : (s : List Token) → Except ReadError (Reading α s)}
    {more more' : (s : List Token) → Except ReadError (Trailing (List α) s)}
    (hf : ∀ s, Forgets id (ofReading first) (ofReading first') s)
    (hm : ∀ s, Forgets id (ofTrailing more) (ofTrailing more') s) (s : List Token) :
    Forgets id (ofReading (x.enclosed opening closing first more))
      (ofReading (x.placeless.enclosed opening closing first' more')) s := by
  rw [ofReading_enclosed, ofReading_enclosed]
  exact (Forgets.expect x opening s).bind fun _ s₁ _ => (hf s₁).bind fun a s₂ _ =>
    (hm s₂).bind fun as s₃ _ => (Forgets.expect x closing s₃).bind fun _ _ _ => .done id (a, as)

namespace Partition

theorem opensList_placeless (s : List Token) :
    opensList (s.map Token.placeless) = opensList s := by
  match s with
  | [] => rfl
  | [t] => rfl
  | t :: u :: s => rfl

theorem forgets_read (s : List Token) :
    Forgets id (ofReading (read x)) (ofReading (read x.placeless)) s := by
  have list : Forgets id (scanList x) (scanList x.placeless) s :=
    (Source.forgets_enclosed Range.forgets_read Range.forgets_readMore s).bind
      fun r _ _ => .done id _
  have single : Forgets id (scanSingle x) (scanSingle x.placeless) s :=
    (Range.forgets_read s).bind fun r _ _ => .done id _
  unfold Forgets at list single ⊢
  rw [ofReading_read, ofReading_read, opensList_placeless]
  split
  · exact list
  · exact single

end Partition

/-! ## guards -/

theorem Comparator.forgets_read (s : List Token) :
    Forgets id (ofReading (Comparator.read x)) (ofReading (Comparator.read x.placeless)) s := by
  rw [ofReading_read, ofReading_read]
  exact .choose (fun c _ _ => .done id c) (.fail id _)

theorem Comparison.forgets_read (s : List Token) :
    Forgets id (ofReading (Comparison.read x)) (ofReading (Comparison.read x.placeless)) s := by
  rw [ofReading_read, ofReading_read]
  refine .front ?_
  split
  · exact (Forgets.expect x .input s).bind fun _ s₁ _ => (Comparator.forgets_read s₁).bind
      fun c s₂ _ => (Forgets.number x s₂).bind fun n _ _ => .done id _
  · exact (Forgets.number x s).bind fun n s₁ _ => (Comparator.forgets_read s₁).bind
      fun c s₂ _ => (Forgets.expect x .input s₂).bind fun _ _ _ => .done id _
  · exact .fail id _

namespace Guard

mutual
theorem forgets_read (s : List Token) :
    Forgets id (ofReading (read (α := α) x)) (ofReading (read x.placeless)) s := by
  rw [ofReading_read, ofReading_read]
  refine (forgets_readTerm s).bind fun g t e => ?_
  have := ofReading_shorter e
  exact (forgets_readMore t).bind fun more _ _ => .done id (g.join more)
termination_by (s.length, 1)

theorem forgets_readMore (s : List Token) :
    Forgets id (ofTrailing (readMore (α := α) x)) (ofTrailing (readMore x.placeless)) s := by
  rw [ofTrailing_readMore, ofTrailing_readMore (x := x.placeless)]
  refine .choose (fun k t ht => ?_) (.done id [])
  refine (forgets_readTerm t).bind fun g v e => ?_
  have := ofReading_shorter e
  exact (forgets_readMore v).bind fun more _ _ => .done id ((k, g) :: more)
termination_by (s.length, 2)

theorem forgets_readTerm (s : List Token) :
    Forgets id (ofReading (readTerm (α := α) x)) (ofReading (readTerm x.placeless)) s := by
  rw [ofReading_readTerm, ofReading_readTerm]
  refine .front ?_
  split
  · refine (Forgets.expect x .bang s).bind fun _ t e => ?_
    have := ofReading_shorter e
    exact (forgets_read t).bind fun g _ _ => .done id _
  · refine (Forgets.expect x .leftParen s).bind fun _ t e => ?_
    have := ofReading_shorter e
    exact (forgets_read t).bind fun g v _ => (Forgets.expect x .rightParen v).bind
      fun _ _ _ => .done id g
  · exact (Comparison.forgets_read s).bind fun c _ _ => .done id _
termination_by (s.length, 0)
end

end Guard

/-! ## translations -/

namespace Primitive

theorem forgets_readWord (s : List Token) :
    Forgets id (ofReading (readWord x)) (ofReading (readWord x.placeless)) s := by
  rw [ofReading_readWord, ofReading_readWord]
  exact .choose (fun make _ _ => .done id make) (.fail id _)

theorem forgets_readTerm (s : List Token) :
    Forgets id (ofReading (readTerm x)) (ofReading (readTerm x.placeless)) s := by
  rw [ofReading_readTerm, ofReading_readTerm]
  exact (Forgets.expect x .leftParen s).bind fun _ s₁ _ => (forgets_readWord s₁).bind
    fun make s₂ _ => (Forgets.number x s₂).bind fun n s₃ _ =>
    (Forgets.expect x .rightParen s₃).bind fun _ _ _ => .done id (make n)

theorem forgets_readOperation (s : List Token) :
    Forgets id (ofReading (readOperation x)) (ofReading (readOperation x.placeless)) s := by
  rw [ofReading_readOperation, ofReading_readOperation]
  exact .choose (fun make t _ => (Forgets.number x t).bind fun n _ _ => .done id (make n))
    (.fail id _)

theorem forgets_readOperand (n : Nat) (s : List Token) :
    Forgets id (ofTrailing (readOperand x n)) (ofTrailing (readOperand x.placeless n)) s := by
  rw [ofTrailing_readOperand, ofTrailing_readOperand]
  exact .choose (fun make t _ => (Forgets.expect x .input t).bind fun _ _ _ => .done id (make n))
    (.done id _)

theorem forgets_read (s : List Token) :
    Forgets id (ofReading (read x)) (ofReading (read x.placeless)) s := by
  rw [ofReading_read, ofReading_read]
  refine .front ?_
  split
  · exact .exhausted id
  · exact (Forgets.expect x .noop s).bind fun _ _ _ => .done id _
  · exact forgets_readTerm s
  · exact (Forgets.expect x .input s).bind fun _ s₁ _ => forgets_readOperation s₁
  · exact (Forgets.number x s).bind fun n s₁ _ => forgets_readOperand n s₁
  · exact .fail id _

theorem forgets_readMore (s : List Token) :
    Forgets id (ofTrailing (readMore x)) (ofTrailing (readMore x.placeless)) s :=
  .loop _ ofTrailing_readMore ofTrailing_readMore
    (fun s => (Forgets.expect x .semicolon s).bind fun _ s₁ _ => forgets_read s₁)
    scanStep_shorter s

end Primitive

theorem Body.forgets_read (s : List Token) :
    Forgets id (ofReading (Body.read (α := α) x)) (ofReading (Body.read x.placeless)) s := by
  rw [ofReading_read, ofReading_read]
  refine .front ?_
  split
  · exact (Source.forgets_enclosed Primitive.forgets_read Primitive.forgets_readMore s).bind
      fun p _ _ => .done id _
  · exact (Primitive.forgets_read s).bind fun p _ _ => .done id _

namespace Case

theorem forgets_read (s : List Token) :
    Forgets id (ofReading (read (α := α) x)) (ofReading (read x.placeless)) s := by
  rw [ofReading_read, ofReading_read]
  exact (Guard.forgets_readTerm s).bind fun g s₁ _ => (Forgets.expect x .arrow s₁).bind
    fun _ s₂ _ => (Body.forgets_read s₂).bind fun b s₃ _ => (Forgets.expect x .comma s₃).bind
    fun _ _ _ => .done id _

theorem forgets_readMore (s : List Token) :
    Forgets id (ofTrailing (readMore (α := α) x)) (ofTrailing (readMore x.placeless)) s :=
  .loop (fun k => k ≠ some .arrow) (ofTrailing_loop loops (by simp))
    (ofTrailing_loop loops (by simp)) forgets_read ofReading_shorter s

theorem forgets_scanAll (s : List Token) :
    Forgets id (scanAll (α := α) x) (scanAll x.placeless) s := by
  refine .front ?_
  split
  · exact .fail id _
  · exact (forgets_read s).bind fun c s₁ _ => (forgets_readMore s₁).bind
      fun cs _ _ => .done id (c, cs)

end Case

namespace Translation

theorem forgets_readSwitch (s : List Token) :
    Forgets id (ofReading (readSwitch (α := α) x)) (ofReading (readSwitch x.placeless)) s := by
  rw [ofReading_readSwitch, ofReading_readSwitch]
  exact (Forgets.expect x .switch s).bind fun _ s₁ _ => (Forgets.expect x .leftBrace s₁).bind
    fun _ s₂ _ => (Case.forgets_scanAll s₂).bind fun cs s₃ _ => (Forgets.expect x .arrow s₃).bind
    fun _ s₄ _ => (Body.forgets_read s₄).bind fun d s₅ _ => (Forgets.expect x .rightBrace s₅).bind
    fun _ _ _ => .done id _

theorem forgets_read (s : List Token) :
    Forgets id (ofReading (read (α := α) x)) (ofReading (read x.placeless)) s := by
  rw [ofReading_read, ofReading_read]
  refine .front ?_
  split
  · exact forgets_readSwitch s
  · exact (Body.forgets_read s).bind fun b _ _ => .done id _

end Translation

/-! ## components -/

namespace Bank

theorem forgets_read (s : List Token) :
    Forgets id (ofReading (read (α := α) x)) (ofReading (read x.placeless)) s := by
  rw [ofReading_read, ofReading_read]
  exact (Forgets.expect x .bank s).bind fun _ s₁ _ => (Forgets.expect x .leftBrace s₁).bind
    fun _ s₂ _ => (Forgets.expect x .layout s₂).bind fun _ s₃ _ => (Forgets.expect x .colon s₃).bind
    fun _ s₄ _ => (Partition.forgets_read s₄).bind fun p s₅ _ =>
    (Forgets.expect x .translation s₅).bind fun _ s₆ _ => (Forgets.expect x .colon s₆).bind
    fun _ s₇ _ => (Translation.forgets_read s₇).bind fun t s₈ _ =>
    (Forgets.expect x .rightBrace s₈).bind fun _ _ _ => .done id _

theorem forgets_readMore (s : List Token) :
    Forgets id (ofTrailing (readMore (α := α) x)) (ofTrailing (readMore x.placeless)) s :=
  .loop (fun k => k = some .bank) (ofTrailing_loop loops (by simp)) (ofTrailing_loop loops (by simp))
    forgets_read ofReading_shorter s

end Bank

namespace Component

theorem forgets_scanBanks (s : List Token) :
    Forgets id (scanBanks (α := α) x) (scanBanks x.placeless) s := by
  refine .front ?_
  split
  · exact (Bank.forgets_read s).bind fun b s₁ _ => (Bank.forgets_readMore s₁).bind
      fun bs _ _ => .done id (b, bs)
  · exact .fail id _

theorem forgets_scanParts (s : List Token) :
    Forgets id (scanParts (α := α) x) (scanParts x.placeless) s :=
  (Forgets.expect x .memory s).bind fun _ s₁ _ => (Forgets.expect x .below s₁).bind fun _ s₂ _ =>
    (Forgets.number x s₂).bind fun _ s₃ _ => (Forgets.expect x .comma s₃).bind fun _ s₄ _ =>
    (Forgets.number x s₄).bind fun _ s₅ _ => (Forgets.expect x .above s₅).bind fun _ s₆ _ =>
    (Forgets.expect x .leftBrace s₆).bind fun _ s₇ _ => (forgets_scanBanks s₇).bind fun _ s₈ _ =>
    (Forgets.expect x .rightBrace s₈).bind fun _ _ _ => .done id _

theorem forgets_read (s : List Token) :
    Forgets id (ofReading (read (α := α) x)) (ofReading (read x.placeless)) s := by
  rw [ofReading_read, ofReading_read]
  refine (forgets_scanParts s).bind fun p _ _ => .judge ?_
  -- the parts do not fit together for a reason that has no place
  show p.build x.settings.width.value = _
  unfold Parts.build
  cases ofBanks p.paramA p.paramB (p.first :: p.rest) x.settings.width.value <;> rfl

end Component

/-! ## texts -/

/-- texts with the same lexemes are read the same, but for the places of errors -/
theorem Source.readAll_congr {settings : Settings} {text text' : String} {ts ts' : List Token}
    {read : Source → (s : List Token) → Except ReadError (Reading α s)}
    (forgets : ∀ (x : Source) s, Forgets id (ofReading (read x)) (ofReading (read x.placeless)) s)
    (lexes : Token.tokens settings.toMeasure text = .ok ts)
    (lexes' : Token.tokens settings.toMeasure text' = .ok ts')
    (same : ts'.map Token.lexeme = ts.map Token.lexeme) :
    (readAll settings text' read).mapError ReadError.placeless =
      (readAll settings text read).mapError ReadError.placeless := by
  have unplaced {text : String} {ts : List Token}
      (lexes : Token.tokens settings.toMeasure text = .ok ts) :
      (readAll settings text read).mapError ReadError.placeless =
        (Scanner.whole ⟨settings, .start⟩ (ofReading (read ⟨settings, .start⟩))
          (ts.map Token.placeless)).map Prod.fst := by
    have run := (forgets ⟨settings, endOf ts⟩ ts).whole (x := ⟨settings, endOf ts⟩)
    rw [readAll_of_tokens lexes]
    refine Eq.trans ?_ (congrArg (Except.map Prod.fst) run.symm)
    cases Scanner.whole ⟨settings, endOf ts⟩ (ofReading (read ⟨settings, endOf ts⟩)) ts <;> rfl
  rw [unplaced lexes', unplaced lexes, placeless_eq_of_lexemes same]

end BankSwitch
