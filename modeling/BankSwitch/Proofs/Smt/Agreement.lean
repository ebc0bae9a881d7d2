import BankSwitch.Proofs.Bounded
import BankSwitch.Proofs.Evaluation
import BankSwitch.Proofs.Smt.Values
import BankSwitch.Smt.Encoding

/-!
# Terms agree with evaluation

Bounded layouts, guards and translations have terms, and in every scope that has an address of the bus
under its name these terms come to what the evaluator finds at that address.  Guards may speak of other
names as well: then the scope has to have, under each of them, the constant of the value that the
evaluator takes for it.
-/

namespace BankSwitch

open Smt

variable {α : Type} {w : Nat} {names : List String}

namespace Smt

/-- the address has its name in the scope -/
def Scope.Sees (σ : Scope) (w a : Nat) : Prop := σ addrName = some (.constant (.number w a))

/-- the condition can be read, and has the outcome of an evaluation at every address -/
structure Formula.Agrees (w : Nat) (f : Formula) (outcome : Nat → Except (EvalError α) Bool) :
    Prop where
  plain : f.sexp.Plain
  eval : ∀ {σ : Scope} {a : Nat}, a < addressCount w → σ.Sees w a →
    ∃ b, outcome a = .ok b ∧ f.sexp.eval σ = some (.bool b)

/-- the term can be read, and has the outcome of an evaluation at every address -/
structure Term.Agrees (w : Nat) (t : Term) (outcome : Nat → Except (EvalError α) Nat) : Prop where
  plain : t.sexp.Plain
  eval : ∀ {σ : Scope} {a : Nat}, a < addressCount w → σ.Sees w a →
    ∃ n, outcome a = .ok n ∧ n < addressCount w ∧ t.sexp.eval σ = some (.number w n)

theorem Term.Agrees.of_eq {t : Term} {g g' : Nat → Except (EvalError α) Nat} (h : t.Agrees w g)
    (e : ∀ a, g a = g' a) : t.Agrees w g' := by
  rw [← funext e]
  exact h

/-- the scope has the address under its name, and under the given names the constants of the values
that they are bound to -/
structure Scope.Supplies (σ : Scope) (names : List String) (w a : Nat) (inputs : Inputs) : Prop where
  address : σ.Sees w a
  unbound : inputs addressName = none
  constants : ∀ s ∈ names, ∃ v, inputs s = some v ∧ σ.apply s [] = some (.number w (wrap w v))

/-- the condition can be read, and has the outcome of an evaluation at every address, with any values
under the names -/
structure Formula.AgreesOn (names : List String) (w : Nat) (f : Formula)
    (outcome : Inputs → Nat → Except (EvalError α) Bool) : Prop where
  plain : f.sexp.Plain
  eval : ∀ {σ : Scope} {a : Nat} {inputs : Inputs}, a < addressCount w →
    σ.Supplies names w a inputs → ∃ b, outcome inputs a = .ok b ∧ f.sexp.eval σ = some (.bool b)

/-- the term can be read, and has the outcome of an evaluation at every address, with any values under
the names -/
structure Term.AgreesOn (names : List String) (w : Nat) (t : Term)
    (outcome : Inputs → Nat → Except (EvalError α) Nat) : Prop where
  plain : t.sexp.Plain
  eval : ∀ {σ : Scope} {a : Nat} {inputs : Inputs}, a < addressCount w →
    σ.Supplies names w a inputs →
      ∃ n, outcome inputs a = .ok n ∧ n < addressCount w ∧ t.sexp.eval σ = some (.number w n)

theorem Term.Agrees.on {t : Term} {x : Nat → Except (EvalError α) Nat} (h : t.Agrees w x) :
    t.AgreesOn names w fun _ => x := ⟨h.plain, fun ha hσ => h.eval ha hσ.address⟩

theorem Term.AgreesOn.of_eq {t : Term} {x y : Inputs → Nat → Except (EvalError α) Nat}
    (h : t.AgreesOn names w x) (e : ∀ inputs a, x inputs a = y inputs a) : t.AgreesOn names w y := by
  have same : x = y := funext fun inputs => funext (e inputs)
  rw [← same]
  exact h

theorem eval_addr {σ : Scope} {a : Nat} (h : σ.Sees w a) :
    addr.sexp.eval σ = some (.number w a) := by
  have name : addr.sexp.eval σ = (σ addrName).bind fun f => f [] := rfl
  rw [name, h]
  rfl

theorem plain_addr : addr.sexp.Plain := rfl

theorem addr_agrees : addr.Agrees w (fun a => (.ok a : Except (EvalError α) Nat)) :=
  ⟨plain_addr, fun ha hσ => ⟨_, rfl, ha, eval_addr hσ⟩⟩

theorem ofNat_wrap (w : Nat) (v : Int) : BitVec.ofNat w (wrap w v) = BitVec.ofInt w v := by
  apply BitVec.eq_of_toNat_eq
  rw [toNat_ofNat_of_lt (wrap_lt w v), BitVec.toNat_ofInt]
  rfl

theorem ofNat_wrap_add (w m n : Nat) :
    BitVec.ofNat w (wrap w (m + n)) = BitVec.ofNat w m + BitVec.ofNat w n := by
  rw [ofNat_wrap, BitVec.ofInt_add, BitVec.ofInt_natCast, BitVec.ofInt_natCast]

theorem ofNat_wrap_sub (w m n : Nat) :
    BitVec.ofNat w (wrap w (m - n)) = BitVec.ofNat w m - BitVec.ofNat w n := by
  rw [ofNat_wrap, Int.sub_eq_add_neg, BitVec.ofInt_add, BitVec.ofInt_neg, BitVec.ofInt_natCast,
    BitVec.ofInt_natCast, BitVec.sub_eq_add_neg]

end Smt

theorem busWidth_natCast (w : Nat) : (busWidth (w : Int) : Except (EvalError α) Nat) = .ok w := by
  unfold busWidth
  rw [if_neg (by omega), Int.toNat_natCast]

/-! ## layouts -/

namespace Range

theorem contains_natCast (r : Range) (a : Nat) : r.contains a =
    (decide (r.start ≤ a) && decide (a < r.stop) && decide ((a - r.start) % r.step = 0)) := by
  unfold contains
  by_cases h : r.start ≤ a
  · have offset : ((a : Int) - r.start) % r.step = ((a - r.start) % r.step : Nat) := by
      rw [Int.natCast_emod, Int.natCast_sub h]
    simp only [offset, Int.ofNat_le, Int.ofNat_lt, Int.natCast_eq_zero]
  · have h' : ¬ (r.start : Int) ≤ a := by omega
    rw [decide_eq_false h, decide_eq_false h']
    rfl

/-- how far the address is behind the start, in steps -/
theorem toNat_steps {r : Range} (h : r.Bounded w) {a : Nat} (ha : a < addressCount w)
    (hs : r.start ≤ a) (hstep : r.step < addressCount w) :
    ((BitVec.ofNat w a - BitVec.ofNat w r.start).umod (BitVec.ofNat w r.step)).toNat =
      (a - r.start) % r.step := by
  have start := toNat_ofNat_of_lt h.start
  have le : BitVec.ofNat w r.start ≤ BitVec.ofNat w a := by
    rw [BitVec.le_def, start, toNat_ofNat_of_lt ha]
    exact hs
  rw [BitVec.umod_eq, BitVec.toNat_umod, BitVec.toNat_sub_of_le le, start, toNat_ofNat_of_lt ha,
    toNat_ofNat_of_lt hstep]

theorem Bounded.step_lt {r : Range} (h : r.Bounded w) (hstep : 1 < r.step) :
    r.step < addressCount w := by
  have hk := h.stride
  unfold step at hstep ⊢
  cases hs : r.stride with
  | none =>
    rw [hs] at hstep
    exact absurd hstep (Nat.lt_irrefl 1)
  | some k => exact hk k hs

theorem forall₂_when {β γ : Type} {R : β → γ → Prop} {p : Prop} [Decidable p] {b : β} {c : γ}
    (h : p → R b c) : List.Forall₂ R (if p then [b] else []) (if p then [c] else []) := by
  by_cases hp : p
  · rw [if_pos hp, if_pos hp]
    exact .cons (h hp) .nil
  · rw [if_neg hp, if_neg hp]
    exact .nil

/-- the three conditions on an address, less those that hold of all of them -/
theorem all_conditions {r : Range} (h : r.Bounded w) {a steps : Nat} (ha : a < addressCount w)
    (hsteps : r.start ≤ a → 1 < r.step → steps = (a - r.start) % r.step) :
    (decide (r.start ≤ a) :: (if r.stop < addressCount w then [decide (a < r.stop)] else []) ++
      (if 1 < r.step then [decide (steps = 0)] else [])).all id = r.contains a := by
  have hstop := h.stop
  have hpos := r.step_pos'
  rw [contains_natCast, List.cons_append, List.all_cons, List.all_append, Bool.and_assoc]
  by_cases hs : r.start ≤ a
  · have upper : (if r.stop < addressCount w then [decide (a < r.stop)] else []).all id =
        decide (a < r.stop) := by
      split
      · rw [List.all_cons, List.all_nil, Bool.and_true]
        rfl
      · exact (decide_eq_true (by omega)).symm
    have stepping : (if 1 < r.step then [decide (steps = 0)] else []).all id =
        decide ((a - r.start) % r.step = 0) := by
      split
      · rename_i hstep
        rw [List.all_cons, List.all_nil, Bool.and_true, hsteps hs hstep]
        rfl
      · have one : r.step = 1 := by omega
        rw [one, Nat.mod_one]
        rfl
    rw [upper, stepping]
    rfl
  · rw [decide_eq_false hs]
    rfl

/-- the conditions on an address that a range with addresses is written as -/
def conditions (w : Nat) (r : Range) : List Formula :=
  .relation .atLeast addr (.literal r.start w) ::
    (if r.stop < addressCount w then [.relation .below addr (.literal r.stop w)] else []) ++
    (if 1 < r.step then
      [.relation .equal (.binary .remainder (.binary .sub addr (.literal r.start w))
        (.literal r.step w)) (.literal 0 w)] else [])

theorem formula_of_ne {r : Range} (h : r.start ≠ r.stop) :
    (r.formula w : Except (EvalError α) Formula) = .ok (.conjunction (r.conditions w)) := by
  unfold formula
  rw [if_neg h, busWidth_natCast]
  rfl

theorem plain_conditions (w : Nat) (r : Range) : ∀ f ∈ r.conditions w, f.sexp.Plain := by
  have literal (n : Nat) : (Term.literal n w).sexp.Plain := plain_literal n w
  have offset := plain_binary .sub plain_addr (literal r.start)
  intro f hf
  unfold conditions at hf
  rw [List.cons_append, List.mem_cons, List.mem_append] at hf
  obtain rfl | hf | hf := hf
  · exact plain_relation _ plain_addr (literal _)
  · split at hf
    · cases List.mem_singleton.mp hf
      exact plain_relation _ plain_addr (literal _)
    · cases hf
  · split at hf
    · cases List.mem_singleton.mp hf
      exact plain_relation _ (plain_binary _ offset (literal _)) (literal 0)
    · cases hf

theorem eval_conditions (hw : 0 < w) {r : Range} (h : r.Bounded w) {σ : Scope} {a : Nat}
    (ha : a < addressCount w) (hσ : σ.Sees w a) :
    (Formula.conjunction (r.conditions w)).sexp.eval σ = some (.bool (r.contains a)) := by
  have literal {n : Nat} (hn : n < addressCount w) :
      (Term.literal n w).sexp.eval σ = some (.number w n) := eval_literal hw hn
  have address := eval_addr hσ
  have lower : (Formula.relation .atLeast addr (.literal r.start w)).sexp.eval σ =
      some (.bool (decide (r.start ≤ a))) :=
    eval_relation_numbers _ address (literal h.start) ha h.start
  have upper (hlt : r.stop < addressCount w) :
      (Formula.relation .below addr (.literal r.stop w)).sexp.eval σ =
        some (.bool (decide (a < r.stop))) :=
    eval_relation_numbers _ address (literal hlt) ha hlt
  let steps := ((BitVec.ofNat w a - BitVec.ofNat w r.start).umod (BitVec.ofNat w r.step)).toNat
  have stepping (hstep : 1 < r.step) :
      (Formula.relation .equal (.binary .remainder (.binary .sub addr (.literal r.start w))
        (.literal r.step w)) (.literal 0 w)).sexp.eval σ = some (.bool (decide (steps = 0))) := by
    have offset := eval_binary .sub address (literal h.start)
    have remainder := eval_binary .remainder offset (literal (h.step_lt hstep))
    have zero := literal (addressCount_pos w)
    have equal := eval_relation .equal remainder zero
    rw [toNat_ofNat_of_lt (addressCount_pos w)] at equal
    exact equal
  have truths : Formula.Truths σ (r.conditions w) (decide (r.start ≤ a) ::
      (if r.stop < addressCount w then [decide (a < r.stop)] else []) ++
      (if 1 < r.step then [decide (steps = 0)] else [])) := by
    apply List.rel_append
    · exact .cons lower (forall₂_when upper)
    · exact forall₂_when stepping
  rw [eval_conjunction truths (List.cons_ne_nil _ _),
    all_conditions h ha fun hs hstep => toNat_steps h ha hs (h.step_lt hstep)]

theorem formula_agrees (hw : 0 < w) {r : Range} (h : r.Bounded w) :
    ∃ f, (r.formula w : Except (EvalError α) Formula) = .ok f ∧
      f.Agrees w fun a => (.ok (r.contains a) : Except (EvalError α) Bool) := by
  by_cases hne : r.start = r.stop
  · have empty (a : Nat) : r.contains a = false := by
      have none : (decide (r.start ≤ a) && decide (a < r.stop)) = false := by
        rw [Bool.and_eq_false_iff, decide_eq_false_iff_not, decide_eq_false_iff_not]
        omega
      rw [contains_natCast, none]
      rfl
    exact ⟨.never, if_pos hne, rfl, fun _ _ => ⟨false, congrArg _ (empty _), eval_never⟩⟩
  · exact ⟨_, formula_of_ne hne, plain_conjunction (plain_conditions w r),
      fun ha hσ => ⟨_, rfl, eval_conditions hw h ha hσ⟩⟩

end Range

theorem mapM_formula (hw : 0 < w) {rs : List Range} (h : ∀ r ∈ rs, r.Bounded w) :
    ∃ fs, (rs.mapM (Range.formula w) : Except (EvalError α) (List Formula)) = .ok fs ∧
      (∀ f ∈ fs, f.sexp.Plain) ∧ ∀ {σ : Scope} {a : Nat}, a < addressCount w → σ.Sees w a →
        Formula.Truths σ fs (rs.map (·.contains a)) := by
  induction rs with
  | nil => exact ⟨[], rfl, List.forall_mem_nil _, fun _ _ => .nil⟩
  | cons r rs ih =>
    obtain ⟨f, e, hf⟩ := Range.formula_agrees (α := α) hw (h r List.mem_cons_self)
    obtain ⟨fs, es, plain, truths⟩ := ih fun r' hr' => h r' (List.mem_cons_of_mem r hr')
    refine ⟨f :: fs, by rw [List.mapM_cons, e, ok_bind, es]; rfl, ?_, fun ha hσ => ?_⟩
    · intro g hg
      obtain rfl | hg := List.mem_cons.mp hg
      · exact hf.plain
      · exact plain g hg
    · obtain ⟨b, hb, eb⟩ := hf.eval ha hσ
      cases hb
      exact .cons eb (truths ha hσ)

theorem Partition.formula_agrees (hw : 0 < w) {p : Partition} (h : p.Bounded w) :
    ∃ f, (p.formula w : Except (EvalError α) Formula) = .ok f ∧
      f.Agrees w fun a => (.ok (p.contains a) : Except (EvalError α) Bool) := by
  obtain ⟨fs, e, plain, truths⟩ := mapM_formula (α := α) hw h
  refine ⟨.disjunction fs, by unfold formula; rw [e]; rfl, plain_disjunction plain, ?_⟩
  intro σ a ha hσ
  have each := truths ha hσ
  have hne : fs ≠ [] := by
    rintro rfl
    exact p.nonempty (List.map_eq_nil_iff.mp (List.forall₂_nil_left_iff.mp each))
  refine ⟨_, rfl, ?_⟩
  rw [eval_disjunction each hne, List.any_map]
  rfl

/-! ## guards -/

theorem Comparator.relation_holds (k : Comparator) (m n : Nat) :
    k.relation.holds m n = k.holds m n := by
  cases k <;> simp only [relation, Relation.holds, holds, Int.ofNat_le, Int.ofNat_lt,
    Int.natCast_inj, ne_eq]

/-- the term of the name on one side of a comparison -/
def operandTerm (name : String) : Term := if name = addressName then addr else .symbol name

theorem plain_operandTerm (hnames : ∀ s ∈ names, isAtom s.toList = true) {name : String}
    (h : name = addressName ∨ name ∈ names) : (operandTerm name).sexp.Plain := by
  unfold operandTerm
  split
  · exact plain_addr
  · next other => exact hnames name (h.resolve_left other)

/-- the term of a name comes to what guards see under it -/
theorem eval_operandTerm {σ : Scope} {a : Nat} {inputs : Inputs} (ha : a < addressCount w)
    (hσ : σ.Supplies names w a inputs) {name : String} (h : name = addressName ∨ name ∈ names) :
    ∃ m : Nat, guardInputs w a inputs name = some (m : Int) ∧ m < addressCount w ∧
      (operandTerm name).sexp.eval σ = some (.number w m) := by
  unfold operandTerm guardInputs
  by_cases address : name = addressName
  · rw [address, hσ.unbound, if_pos rfl]
    exact ⟨a, congrArg _ (congrArg _ (wrap_of_lt ha)), ha, eval_addr hσ.address⟩
  · obtain ⟨v, bound, constant⟩ := hσ.constants name (h.resolve_left address)
    rw [bound]
    exact ⟨wrap w v, rfl, wrap_lt w v, by rw [if_neg address]; exact constant⟩

theorem Comparison.formula_agrees (hw : 0 < w) (hnames : ∀ s ∈ names, isAtom s.toList = true)
    {c : Comparison} (hl : OnBus w c.literal) (hc : c.operand = addressName ∨ c.operand ∈ names) :
    (c.formula w).AgreesOn names w fun inputs a =>
      (c.eval (guardInputs w a inputs) : Except (EvalError α) Bool) := by
  obtain ⟨n, hn, hlt⟩ := hl
  have plain := plain_operandTerm hnames hc
  have literal (σ : Scope) : (Term.literal n w).sexp.eval σ = some (.number w n) :=
    eval_literal hw hlt
  cases hs : c.side with
  | left =>
    have formula : c.formula w =
        .relation c.comparator.relation (operandTerm c.operand) (.literal n w) := by
      simp only [Comparison.formula, operandTerm, hn, hs]
    rw [formula]
    refine ⟨plain_relation _ plain (plain_literal n w), fun {σ a inputs} ha hσ => ?_⟩
    obtain ⟨m, bound, hm, value⟩ := eval_operandTerm ha hσ hc
    have outcome := eval_relation_numbers c.comparator.relation value (literal σ) hm hlt
    rw [Comparator.relation_holds] at outcome
    exact ⟨_, by simp only [Comparison.eval, bound, hs, hn], outcome⟩
  | right =>
    have formula : c.formula w =
        .relation c.comparator.relation (.literal n w) (operandTerm c.operand) := by
      simp only [Comparison.formula, operandTerm, hn, hs]
    rw [formula]
    refine ⟨plain_relation _ (plain_literal n w) plain, fun {σ a inputs} ha hσ => ?_⟩
    obtain ⟨m, bound, hm, value⟩ := eval_operandTerm ha hσ hc
    have outcome := eval_relation_numbers c.comparator.relation (literal σ) value hlt hm
    rw [Comparator.relation_holds] at outcome
    exact ⟨_, by simp only [Comparison.eval, bound, hs, hn], outcome⟩

theorem Connective.join_agrees {k : Connective} {f g : Formula}
    {x y : Inputs → Nat → Except (EvalError α) Bool} (hf : f.AgreesOn names w x)
    (hg : g.AgreesOn names w y) :
    (k.join f g).AgreesOn names w
      fun inputs a => (do let l ← x inputs a; if k.settles l then return l else y inputs a) := by
  constructor
  · cases k <;> exact ⟨rfl, hf.plain, hg.plain, trivial⟩
  · intro σ a inputs ha hσ
    obtain ⟨l, hl, el⟩ := hf.eval ha hσ
    obtain ⟨r, hr, er⟩ := hg.eval ha hσ
    have truths : Formula.Truths σ [f, g] [l, r] := .cons el (.cons er .nil)
    rw [hl, ok_bind, hr]
    cases k with
    | and =>
      refine ⟨l && r, ?_, (eval_conjunction truths (List.cons_ne_nil _ _)).trans ?_⟩
      · cases l <;> rfl
      · cases r <;> rfl
    | or =>
      refine ⟨l || r, ?_, (eval_disjunction truths (List.cons_ne_nil _ _)).trans ?_⟩
      · cases l <;> rfl
      · cases r <;> rfl

theorem operand_of_selectors {c : Comparison}
    (h : (Guard.compare c : Guard α).selectors ⊆ names) :
    c.operand = addressName ∨ c.operand ∈ names := by
  by_cases address : c.operand = addressName
  · exact .inl address
  · rw [Guard.selectors, if_neg address] at h
    exact .inr (h List.mem_cons_self)

mutual
theorem Guard.formula_agrees (hw : 0 < w) (hnames : ∀ s ∈ names, isAtom s.toList = true) :
    ∀ g : Guard α, g.Bounded w → g.selectors ⊆ names →
      ∃ f, (g.formula w : Except (EvalError α) Formula) = .ok f ∧
        f.AgreesOn names w fun inputs a => g.eval (guardInputs w a inputs)
  | .compare c, h, hs => ⟨_, rfl, Comparison.formula_agrees hw hnames h (operand_of_selectors hs)⟩
  | .negation g, h, hs => by
    rw [Guard.selectors] at hs
    obtain ⟨f, e, hf⟩ := Guard.formula_agrees hw hnames g h hs
    refine ⟨.negation f, by rw [Guard.formula, e]; rfl, ⟨rfl, hf.plain, trivial⟩, ?_⟩
    intro σ a inputs ha hσ
    obtain ⟨b, hb, eb⟩ := hf.eval ha hσ
    exact ⟨!b, by rw [Guard.eval, hb]; rfl, eval_negation eb⟩
  | .chain c, h, hs => by
    rw [Guard.selectors] at hs
    obtain ⟨f, e, hf⟩ := Chain.formula_agrees hw hnames c h hs
    refine ⟨f, by rw [Guard.formula, e], ?_⟩
    simp only [Guard.eval]
    exact hf

theorem Chain.formula_agrees (hw : 0 < w) (hnames : ∀ s ∈ names, isAtom s.toList = true) :
    ∀ c : Chain α, c.Bounded w → c.selectors ⊆ names →
      ∃ f, (c.formula w : Except (EvalError α) Formula) = .ok f ∧
        f.AgreesOn names w fun inputs a => c.eval (guardInputs w a inputs)
  | .pair a k b, h, hs => by
    rw [Chain.selectors, List.append_subset] at hs
    obtain ⟨f, ef, hf⟩ := Guard.formula_agrees hw hnames a h.1 hs.1
    obtain ⟨g, eg, hg⟩ := Guard.formula_agrees hw hnames b h.2 hs.2
    refine ⟨k.join f g, by rw [Chain.formula, ef, ok_bind, eg]; rfl, ?_⟩
    simp only [Chain.eval]
    exact Connective.join_agrees hf hg
  | .snoc c k b, h, hs => by
    rw [Chain.selectors, List.append_subset] at hs
    obtain ⟨f, ef, hf⟩ := Chain.formula_agrees hw hnames c h.1 hs.1
    obtain ⟨g, eg, hg⟩ := Guard.formula_agrees hw hnames b h.2 hs.2
    refine ⟨k.join f g, by rw [Chain.formula, ef, ok_bind, eg]; rfl, ?_⟩
    simp only [Chain.eval]
    exact Connective.join_agrees hf hg
end

/-! ## translations -/

theorem shiftRight_ofNat {m n : Nat} (hm : m < addressCount w) (hn : n < addressCount w) :
    BitVec.ofNat w m >>> BitVec.ofNat w n = BitVec.ofNat w (m >>> n) := by
  have le : m >>> n < addressCount w := Nat.lt_of_le_of_lt (Nat.shiftRight_le m n) hm
  apply BitVec.eq_of_toNat_eq
  rw [BitVec.ushiftRight_eq', BitVec.toNat_ushiftRight, toNat_ofNat_of_lt hm, toNat_ofNat_of_lt hn,
    toNat_ofNat_of_lt le]

/-- the term of a primitive behind a term of a number -/
theorem Primitive.Fits.eval_smtTerm (hw : 0 < w) {p : Primitive} (h : p.Fits w) {σ : Scope}
    {t : Term} {v : Nat} (hv : v < addressCount w) (ht : t.sexp.eval σ = some (.number w v)) :
    ∃ n, (p.apply w v : Except (EvalError α) Nat) = .ok n ∧ n < addressCount w ∧
      (p.smtTerm w t).sexp.eval σ = some (.number w n) := by
  have literal {n : Nat} (hn : n < addressCount w) :
      (Term.literal n w).sexp.eval σ = some (.number w n) := eval_literal hw hn
  cases p with
  | noop => exact ⟨v, congrArg _ (wrap_of_lt hv), hv, ht⟩
  | constant k =>
    obtain ⟨n, rfl, hn⟩ := h
    exact ⟨n, congrArg _ (wrap_of_lt hn), hn, literal hn⟩
  | add k =>
    obtain ⟨n, rfl, hn⟩ := h
    refine ⟨_, rfl, wrap_lt w _, ?_⟩
    rw [Value.number, ofNat_wrap_add]
    exact eval_binary .add ht (literal hn)
  | subFrom k =>
    obtain ⟨n, rfl, hn⟩ := h
    refine ⟨_, rfl, wrap_lt w _, ?_⟩
    rw [Value.number, ofNat_wrap_sub]
    exact eval_binary .sub (literal hn) ht
  | sub k =>
    obtain ⟨n, rfl, hn⟩ := h
    refine ⟨_, rfl, wrap_lt w _, ?_⟩
    rw [Value.number, ofNat_wrap_sub]
    exact eval_binary .sub ht (literal hn)
  | shiftRight k =>
    obtain ⟨n, rfl, hn⟩ := h
    have le : v >>> n < addressCount w := Nat.lt_of_le_of_lt (Nat.shiftRight_le v n) hv
    refine ⟨v >>> n, by rw [Primitive.apply_shiftRight, wrap_of_lt hv], le, ?_⟩
    rw [Value.number, ← shiftRight_ofNat hv hn]
    exact eval_binary .shiftRight ht (literal hn)

theorem Primitive.Fits.plain_smtTerm {p : Primitive} (h : p.Fits w) {t : Term}
    (ht : t.sexp.Plain) : (p.smtTerm w t).sexp.Plain := by
  cases p with
  | noop => exact ht
  | constant k =>
    obtain ⟨n, rfl, -⟩ := h
    exact plain_literal n w
  | add k =>
    obtain ⟨n, rfl, -⟩ := h
    exact plain_binary .add ht (plain_literal n w)
  | subFrom k =>
    obtain ⟨n, rfl, -⟩ := h
    exact plain_binary .sub (plain_literal n w) ht
  | sub k =>
    obtain ⟨n, rfl, -⟩ := h
    exact plain_binary .sub ht (plain_literal n w)
  | shiftRight k =>
    obtain ⟨n, rfl, -⟩ := h
    exact plain_binary .shiftRight ht (plain_literal n w)

theorem Primitive.Fits.smtTerm_agrees (hw : 0 < w) {p : Primitive} (h : p.Fits w) {t : Term}
    {x : Nat → Except (EvalError α) Nat} (ht : t.Agrees w x) :
    (p.smtTerm w t).Agrees w fun a => (do let v ← x a; p.apply w v) := by
  refine ⟨Primitive.Fits.plain_smtTerm h ht.plain, fun ha hσ => ?_⟩
  obtain ⟨v, ev, hv, et⟩ := ht.eval ha hσ
  rw [ev]
  exact Primitive.Fits.eval_smtTerm hw h hv et

theorem foldl_smtTerm_agrees (hw : 0 < w) {ps : List Primitive} (h : ∀ p ∈ ps, p.Fits w)
    {t : Term} {x : Nat → Except (EvalError α) Nat} (ht : t.Agrees w x) :
    (ps.foldl (fun t p => p.smtTerm w t) t).Agrees w
      fun a => (do let v ← x a; ps.foldlM (fun (v : Nat) p => p.apply w v) v) := by
  induction ps generalizing t x with
  | nil =>
    refine ht.of_eq fun a => ?_
    simp only [List.foldlM_nil]
    exact (bind_pure (x a)).symm
  | cons p ps ih =>
    have step := Primitive.Fits.smtTerm_agrees hw (h p List.mem_cons_self) ht
    refine (ih (fun q hq => h q (List.mem_cons_of_mem p hq)) step).of_eq fun a => ?_
    simp only [List.foldlM_cons]
    exact bind_assoc _ _ _

theorem Body.smtTerm_agrees (hw : 0 < w) {b : Body α} (h : b.Fits w) :
    ∃ t, (b.smtTerm w : Except (EvalError α) Term) = .ok t ∧ t.Agrees w fun a => b.eval w a := by
  cases b with
  | primitive p =>
    exact ⟨_, rfl, Primitive.Fits.smtTerm_agrees hw h addr_agrees⟩
  | sequence first rest =>
    refine ⟨_, rfl, ?_⟩
    have all : ∀ p ∈ first :: rest, p.Fits w := List.forall_mem_cons.mpr h
    exact (foldl_smtTerm_agrees hw all addr_agrees).of_eq fun a => rfl
  | alien node => exact h.elim

/-- what cases come to before a body for when no guard is true; the cases are numbered from `i` -/
def casesOutcome (w i : Nat) (cs : List (Case α)) (default : Body α) (inputs : Inputs) (a : Nat) :
    Except (EvalError α) Nat := do
  match ← firstTrue (guardInputs w a inputs) i cs with
  | some (_, b) => b.eval w a
  | none => default.eval w a

theorem casesTerm_agrees (hw : 0 < w) (hnames : ∀ s ∈ names, isAtom s.toList = true)
    {cs : List (Case α)} (h : ∀ c ∈ cs, c.Bounded w) (hs : ∀ c ∈ cs, c.guard.selectors ⊆ names)
    {last : Term} {default : Body α} (hlast : last.Agrees w fun a => default.eval w a) (i : Nat) :
    ∃ t, (casesTerm w cs last : Except (EvalError α) Term) = .ok t ∧
      t.AgreesOn names w (casesOutcome w i cs default) := by
  induction cs generalizing i with
  | nil => exact ⟨last, rfl, hlast.on⟩
  | cons c cs ih =>
    have hc := h c List.mem_cons_self
    obtain ⟨rest, erest, hrest⟩ := ih (fun d hd => h d (List.mem_cons_of_mem c hd))
      (fun d hd => hs d (List.mem_cons_of_mem c hd)) (i + 1)
    obtain ⟨f, ef, hf⟩ :=
      Guard.formula_agrees hw hnames c.guard hc.guard (hs c List.mem_cons_self)
    obtain ⟨t, et, ht⟩ := Body.smtTerm_agrees hw hc.body
    refine ⟨.ite f t rest, by rw [casesTerm, erest, ok_bind, ef, ok_bind, et]; rfl,
      plain_ite hf.plain ht.plain hrest.plain, ?_⟩
    intro σ a inputs ha hσ
    obtain ⟨b, eb, vb⟩ := hf.eval ha hσ
    obtain ⟨m, em, hm, vm⟩ := ht.eval ha hσ.address
    obtain ⟨n, en, hn, vn⟩ := hrest.eval ha hσ
    have value := eval_ite vb vm vn rfl
    unfold casesOutcome
    rw [firstTrue, eb]
    cases b with
    | true => exact ⟨m, em, hm, value⟩
    | false => exact ⟨n, en, hn, value⟩

theorem Translation.smtTerm_agrees (hw : 0 < w) (hnames : ∀ s ∈ names, isAtom s.toList = true)
    {t : Translation α} (h : t.Bounded w) (hs : t.selectors ⊆ names) :
    ∃ s, (t.smtTerm w : Except (EvalError α) Term) = .ok s ∧
      s.AgreesOn names w fun inputs a => t.eval w a inputs := by
  cases t with
  | body b =>
    obtain ⟨s, es, agrees⟩ := Body.smtTerm_agrees hw h
    exact ⟨s, es, agrees.on⟩
  | switch first rest default =>
    obtain ⟨last, elast, hlast⟩ := Body.smtTerm_agrees hw h.2
    have each : ∀ c ∈ first :: rest, c.guard.selectors ⊆ names := fun c hc s mem =>
      hs (List.mem_flatMap.mpr ⟨c, hc, mem⟩)
    obtain ⟨s, es, agrees⟩ := casesTerm_agrees hw hnames h.1 each hlast 0
    refine ⟨s, by unfold smtTerm; dsimp only; rw [elast]; exact es, agrees.of_eq fun inputs a => ?_⟩
    unfold casesOutcome Translation.eval choose
    dsimp only
    cases firstTrue (guardInputs w a inputs) 0 (first :: rest) with
    | error e => rfl
    | ok found =>
      cases found with
      | none => rfl
      | some p => rfl

end BankSwitch
