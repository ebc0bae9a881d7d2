import BankSwitch.Component.Basic
import BankSwitch.Proofs.Grammar.Terminal

/-!
# What proper translations come to

A part is proper if no node of a host's own stands in it and nothing is shifted by a negative count;
its numbers may be any others.  What can go wrong with a proper translation is a guard that is reached
and compares a name that is not bound.  A number that comes out is one of the bus.
-/

namespace BankSwitch

variable {α β γ : Type} {w : Nat}

/-! ## proper parts -/

mutual
/-- guards without nodes of a host's own -/
def Guard.Proper : Guard α → Prop
  | .compare _ => True
  | .negation g => g.Proper
  | .chain c => c.Proper
  | .alien _ => False

def Chain.Proper : Chain α → Prop
  | .pair a _ b => a.Proper ∧ b.Proper
  | .snoc c _ b => c.Proper ∧ b.Proper
end

def Primitive.Proper : Primitive → Prop
  | .shiftRight k => 0 ≤ k
  | _ => True

def Body.Proper : Body α → Prop
  | .primitive p => p.Proper
  | .sequence first rest => first.Proper ∧ ∀ p ∈ rest, p.Proper
  | .alien _ => False

structure Case.Proper (c : Case α) : Prop where
  guard : c.guard.Proper
  body : c.body.Proper

def Translation.Proper : Translation α → Prop
  | .body b => b.Proper
  | .switch first rest default => (∀ c ∈ first :: rest, c.Proper) ∧ default.Proper

/-! ## outcomes -/

/-- a value with the property, or a name that is not bound -/
inductive Settles (P : β → Prop) : Except (EvalError α) β → Prop
  | value {b : β} (h : P b) : Settles P (.ok b)
  | missing (name : String) : Settles P (.error (.missingInput name))

theorem Settles.bind {P : β → Prop} {Q : γ → Prop} {m : Except (EvalError α) β}
    {k : β → Except (EvalError α) γ} (h : Settles P m) (hk : ∀ b, P b → Settles Q (k b)) :
    Settles Q (m >>= k) := by
  cases h with
  | value h => exact hk _ h
  | missing name => exact .missing name

/-! ## guards -/

theorem Comparison.settles (c : Comparison) (inputs : Inputs) :
    Settles (α := α) (fun _ => True) (c.eval inputs) := by
  unfold Comparison.eval
  cases inputs c.operand with
  | none => exact .missing c.operand
  | some v =>
    cases c.side with
    | left => exact .value trivial
    | right => exact .value trivial

theorem Connective.settles_join {k : Connective} {left right : Except (EvalError α) Bool}
    (hl : Settles (fun _ => True) left) (hr : Settles (fun _ => True) right) :
    Settles (fun _ => True) (do let l ← left; if k.settles l then return l else right) := by
  refine hl.bind fun l _ => ?_
  split
  · exact .value trivial
  · exact hr

mutual
theorem Guard.settles (inputs : Inputs) :
    ∀ g : Guard α, g.Proper → Settles (fun _ => True) (g.eval inputs)
  | .compare c, _ => c.settles inputs
  | .negation g, h => by
    rw [Guard.eval]
    exact (Guard.settles inputs g h).bind fun _ _ => .value trivial
  | .chain c, h => by
    rw [Guard.eval]
    exact Chain.settles inputs c h

theorem Chain.settles (inputs : Inputs) :
    ∀ c : Chain α, c.Proper → Settles (fun _ => True) (c.eval inputs)
  | .pair a _ b, h => by
    rw [Chain.eval]
    exact Connective.settles_join (Guard.settles inputs a h.1) (Guard.settles inputs b h.2)
  | .snoc c _ b, h => by
    rw [Chain.eval]
    exact Connective.settles_join (Chain.settles inputs c h.1) (Guard.settles inputs b h.2)
end

/-! ## bodies -/

theorem Primitive.Proper.apply_ok {p : Primitive} (h : p.Proper) (v : Int) :
    ∃ n, (p.apply w v : Except (EvalError α) Nat) = .ok n ∧ n < addressCount w := by
  cases p with
  | noop => exact ⟨_, rfl, wrap_lt w _⟩
  | constant k => exact ⟨_, rfl, wrap_lt w _⟩
  | add k => exact ⟨_, rfl, wrap_lt w _⟩
  | subFrom k => exact ⟨_, rfl, wrap_lt w _⟩
  | sub k => exact ⟨_, rfl, wrap_lt w _⟩
  | shiftRight k =>
    exact ⟨_, if_neg (Int.not_lt.mpr h),
      Nat.lt_of_le_of_lt (Nat.shiftRight_le _ k.toNat) (wrap_lt w v)⟩

theorem foldlM_apply_ok {rest : List Primitive} (h : ∀ p ∈ rest, p.Proper) {x : Nat}
    (hx : x < addressCount w) :
    ∃ n, (rest.foldlM (fun (x : Nat) p => p.apply w x) x : Except (EvalError α) Nat) = .ok n ∧
      n < addressCount w := by
  induction rest generalizing x with
  | nil => exact ⟨x, rfl, hx⟩
  | cons p rest ih =>
    obtain ⟨y, hy, hlt⟩ := (h p List.mem_cons_self).apply_ok (α := α) (w := w) x
    rw [List.foldlM_cons, hy]
    exact ih (fun q hq => h q (List.mem_cons_of_mem p hq)) hlt

theorem Body.Proper.eval_ok {b : Body α} (h : b.Proper) (v : Int) :
    ∃ n, b.eval w v = .ok n ∧ n < addressCount w := by
  cases b with
  | primitive p => exact Primitive.Proper.apply_ok h v
  | sequence first rest =>
    obtain ⟨x, hx, hlt⟩ := Primitive.Proper.apply_ok (α := α) (w := w) h.1 v
    unfold Body.eval applyAll
    dsimp only
    rw [hx]
    exact foldlM_apply_ok h.2 hlt
  | alien node => exact h.elim

/-! ## translations -/

theorem firstTrue_settles {inputs : Inputs} {cs : List (Case α)} (h : ∀ c ∈ cs, c.Proper) (i : Nat) :
    Settles (fun found => ∀ j b, found = some (j, b) → b.Proper) (firstTrue inputs i cs) := by
  induction cs generalizing i with
  | nil => exact .value nofun
  | cons c cs ih =>
    have here := h c List.mem_cons_self
    rw [firstTrue]
    refine (c.guard.settles inputs here.guard).bind fun holds _ => ?_
    cases holds with
    | true =>
      refine .value ?_
      rintro _ _ ⟨⟩
      exact here.body
    | false => exact ih (fun d hd => h d (List.mem_cons_of_mem c hd)) (i + 1)

theorem Translation.Proper.choose_settles {t : Translation α} (h : t.Proper) (v : Int)
    (inputs : Inputs) : Settles (fun chosen => chosen.2.Proper) (t.choose w v inputs) := by
  unfold Translation.choose
  cases t with
  | body b => exact .value h
  | switch first rest default =>
    refine (firstTrue_settles h.1 0).bind fun found proper => ?_
    cases found with
    | none => exact .value h.2
    | some p => exact .value (proper p.1 p.2 rfl)

theorem Translation.Proper.settles {t : Translation α} (h : t.Proper) (v : Int) (inputs : Inputs) :
    Settles (· < addressCount w) (t.eval w v inputs) := by
  unfold Translation.eval
  refine (h.choose_settles v inputs).bind ?_
  rintro ⟨_, b⟩ proper
  obtain ⟨n, e, hn⟩ := Body.Proper.eval_ok (w := w) proper v
  dsimp only
  rw [e]
  exact .value hn

end BankSwitch
