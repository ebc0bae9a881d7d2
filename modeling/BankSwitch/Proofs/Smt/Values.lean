import Mathlib.Data.List.Forall2
import BankSwitch.Proofs.Smt.Meaning

/-!
# Values of terms

What the terms and conditions of a script come to in a scope, from what their parts come to.  A
number below the count of addresses stands for itself as a bit vector, so comparisons are those of
numbers.
-/

namespace BankSwitch.Smt

variable {σ : Scope} {w : Nat}

/-- a number as a bit vector -/
abbrev Value.number (w n : Nat) : Value := .vector w (BitVec.ofNat w n)

theorem toNat_ofNat_of_lt {n : Nat} (h : n < addressCount w) : (BitVec.ofNat w n).toNat = n := by
  rw [BitVec.toNat_ofNat]
  exact Nat.mod_eq_of_lt h

/-! ## calls -/

namespace Sexp

/-- the expressions have these values, in this order -/
abbrev Values (σ : Scope) (ss : List Sexp) (vs : List Value) : Prop :=
  List.Forall₂ (fun s v => s.eval σ = some v) ss vs

theorem evalAll_of_values {ss : List Sexp} {vs : List Value} (h : Values σ ss vs) :
    evalAll σ ss = some vs := by
  induction h with
  | nil => rfl
  | cons head tail ih =>
    rw [evalAll, head, ih]
    rfl

theorem eval_call {f : String} (hf : f ≠ "_") {args : List Sexp} {vs : List Value}
    (h : Values σ args vs) : (list (.atom f :: args)).eval σ = σ.apply f vs := by
  rw [eval, if_neg hf, evalAll_of_values h]
  rfl

/-- a function of the logic, which no scope hides -/
theorem eval_logic {f : String} {g : Function} (hf : f ≠ "_") (hg : logic.lookup f = some g)
    {args : List Sexp} {vs : List Value} (h : Values σ args vs) :
    (list (.atom f :: args)).eval σ = g vs := by
  rw [eval_call hf h]
  unfold Scope.apply
  rw [hg]

end Sexp

/-! ## literals -/

theorem numeral?_toDigits (n : Nat) : numeral? (Nat.toDigits 10 n) = some n := by
  unfold numeral?
  rw [if_pos (isNumeral_toDigits n), Nat.ofDigitChars_ten_toDigits]

theorem literal_name (n : Nat) : s!"bv{(n : Int)}".toList = 'b' :: 'v' :: Nat.toDigits 10 n := by
  have text : s!"bv{(n : Int)}" = "bv" ++ Nat.repr n := rfl
  rw [text, String.toList_append, Nat.toList_repr]
  rfl

theorem plain_literal (n w : Nat) : (Term.literal n w).sexp.Plain := by
  have name : isSimpleSymbol s!"bv{(n : Int)}".toList = true := by
    have bv : isSimpleSymbol ['b', 'v'] = true := rfl
    rw [literal_name]
    exact isSimpleSymbol_append bv (all_isAtomChar_toDigits n)
  exact ⟨rfl, isAtom_of_isSimpleSymbol name, isAtom_toString w, trivial⟩

theorem eval_literal (hw : 0 < w) {n : Nat} (h : n < addressCount w) :
    (Term.literal n w).sexp.eval σ = some (.number w n) := by
  have width : numeral? (toString (w : Int)).toList = some w := by
    have text : toString (w : Int) = Nat.repr w := rfl
    rw [text, Nat.toList_repr, numeral?_toDigits]
  unfold Term.sexp literalSexp Sexp.eval
  rw [if_pos rfl]
  unfold vectorLiteral
  simp only [literal_name, width, numeral?_toDigits]
  exact if_pos ⟨hw, h⟩

/-! ## terms -/

/-- an operation on bit vectors -/
def Operation.onVectors {w : Nat} (x y : BitVec w) : Operation → BitVec w
  | .add => x + y
  | .sub => x - y
  | .remainder => x.umod y
  | .shiftRight => x >>> y

theorem eval_binary (op : Operation) {t u : Term} {x y : BitVec w}
    (ht : t.sexp.eval σ = some (.vector w x)) (hu : u.sexp.eval σ = some (.vector w y)) :
    (Term.binary op t u).sexp.eval σ = some (.vector w (op.onVectors x y)) := by
  have args : Sexp.Values σ [t.sexp, u.sexp] [.vector w x, .vector w y] := .cons ht (.cons hu .nil)
  have same (f : {w : Nat} → BitVec w → BitVec w → BitVec w) :
      Function.arithmetic f [.vector w x, .vector w y] = some (.vector w (f x y)) := dif_pos rfl
  cases op with
  | add => exact (Sexp.eval_logic (by decide) rfl args).trans (same _)
  | sub => exact (Sexp.eval_logic (by decide) rfl args).trans (same _)
  | remainder => exact (Sexp.eval_logic (by decide) rfl args).trans (same _)
  | shiftRight => exact (Sexp.eval_logic (by decide) rfl args).trans (same _)

theorem plain_binary (op : Operation) {t u : Term} (ht : t.sexp.Plain) (hu : u.sexp.Plain) :
    (Term.binary op t u).sexp.Plain := by
  refine ⟨?_, ht, hu, trivial⟩
  cases op <;> rfl

theorem eval_ite {f : Formula} {t u : Term} {b : Bool} {v v' : Value}
    (hf : f.sexp.eval σ = some (.bool b)) (ht : t.sexp.eval σ = some v)
    (hu : u.sexp.eval σ = some v') (hk : v'.kind = v.kind) :
    (Term.ite f t u).sexp.eval σ = some (if b then v else v') :=
  (Sexp.eval_logic (by decide) rfl (.cons hf (.cons ht (.cons hu .nil)))).trans (if_pos hk)

theorem plain_ite {f : Formula} {t u : Term} (hf : f.sexp.Plain) (ht : t.sexp.Plain)
    (hu : u.sexp.Plain) : (Term.ite f t u).sexp.Plain := ⟨rfl, hf, ht, hu, trivial⟩

/-! ## conditions -/

/-- a relation between numbers -/
def Relation.holds (a b : Nat) : Relation → Bool
  | .below => decide (a < b)
  | .atMost => decide (a ≤ b)
  | .above => decide (b < a)
  | .atLeast => decide (b ≤ a)
  | .equal => decide (a = b)
  | .distinct => decide (a ≠ b)

theorem eval_relation (rel : Relation) {t u : Term} {x y : BitVec w}
    (ht : t.sexp.eval σ = some (.vector w x)) (hu : u.sexp.eval σ = some (.vector w y)) :
    (Formula.relation rel t u).sexp.eval σ = some (.bool (rel.holds x.toNat y.toNat)) := by
  have args : Sexp.Values σ [t.sexp, u.sexp] [.vector w x, .vector w y] := .cons ht (.cons hu .nil)
  have same (f : {w : Nat} → BitVec w → BitVec w → Bool) :
      Function.relation f [.vector w x, .vector w y] = some (.bool (f x y)) := dif_pos rfl
  have equal_kinds (f : List Value → Bool) : Function.comparison f [.vector w x, .vector w y] =
      some (.bool (f [.vector w x, .vector w y])) :=
    if_pos (by rw [List.all_cons, List.all_nil, Bool.and_true]; exact decide_eq_true rfl)
  have equal_iff : Value.vector w x = .vector w y ↔ x.toNat = y.toNat := by
    rw [Value.vector.injEq, BitVec.toNat_inj]
    exact ⟨fun h => eq_of_heq h.2, fun h => ⟨rfl, heq_of_eq h⟩⟩
  cases rel with
  | below => exact (Sexp.eval_logic (by decide) rfl args).trans (same _)
  | atMost => exact (Sexp.eval_logic (by decide) rfl args).trans (same _)
  | above => exact (Sexp.eval_logic (by decide) rfl args).trans (same _)
  | atLeast => exact (Sexp.eval_logic (by decide) rfl args).trans (same _)
  | equal =>
    refine (Sexp.eval_logic (by decide) rfl args).trans ((equal_kinds _).trans ?_)
    have e : Value.allEqual [.vector w x, .vector w y] = decide (x.toNat = y.toNat) := by
      unfold Value.allEqual
      have equal_iff' : Value.vector w y = .vector w x ↔ x.toNat = y.toNat :=
        eq_comm.trans equal_iff
      simp only [List.all_cons, List.all_nil, Bool.and_true, decide_true, Bool.true_and, equal_iff,
        equal_iff', Bool.and_self]
    rw [e]
    rfl
  | distinct =>
    refine (Sexp.eval_logic (by decide) rfl args).trans ((equal_kinds _).trans ?_)
    have e : Value.allDistinct [.vector w x, .vector w y] = decide (x.toNat ≠ y.toNat) := by
      unfold Value.allDistinct
      simp only [List.nodup_cons, List.mem_singleton, List.not_mem_nil, not_false_eq_true,
        List.nodup_nil, and_true, equal_iff, ne_eq]
    rw [e]
    rfl

theorem eval_relation_numbers (rel : Relation) {t u : Term} {m n : Nat}
    (ht : t.sexp.eval σ = some (.number w m)) (hu : u.sexp.eval σ = some (.number w n))
    (hm : m < addressCount w) (hn : n < addressCount w) :
    (Formula.relation rel t u).sexp.eval σ = some (.bool (rel.holds m n)) := by
  rw [eval_relation rel ht hu, toNat_ofNat_of_lt hm, toNat_ofNat_of_lt hn]

theorem plain_relation (rel : Relation) {t u : Term} (ht : t.sexp.Plain) (hu : u.sexp.Plain) :
    (Formula.relation rel t u).sexp.Plain := by
  refine ⟨?_, ht, hu, trivial⟩
  cases rel <;> rfl

theorem eval_never : Formula.never.sexp.eval σ = some (.bool false) := rfl

theorem eval_negation {f : Formula} {b : Bool} (h : f.sexp.eval σ = some (.bool b)) :
    (Formula.negation f).sexp.eval σ = some (.bool !b) := by
  have args : Sexp.Values σ [f.sexp] [.bool b] := .cons h .nil
  exact (Sexp.eval_logic (by decide) rfl args).trans rfl

/-- the conditions have these truth values, in this order -/
abbrev Formula.Truths (σ : Scope) (fs : List Formula) (bs : List Bool) : Prop :=
  List.Forall₂ (fun f b => f.sexp.eval σ = some (.bool b)) fs bs

theorem Formula.values_sexps {fs : List Formula} {bs : List Bool} (h : Formula.Truths σ fs bs) :
    Sexp.Values σ (Formula.sexps fs) (bs.map Value.bool) := by
  induction h with
  | nil => exact .nil
  | cons head tail ih =>
    rw [Formula.sexps]
    exact .cons head ih

theorem connectiveFrom_bools (op : Bool → Bool → Bool) (b : Bool) (bs : List Bool) :
    Function.connectiveFrom op b (bs.map Value.bool) = some (.bool (bs.foldl op b)) := by
  induction bs generalizing b with
  | nil => rfl
  | cons c bs ih =>
    rw [List.map_cons, Function.connectiveFrom, ih]
    rfl

theorem foldl_and (b : Bool) (bs : List Bool) : bs.foldl and b = (b && bs.all id) := by
  induction bs generalizing b with
  | nil => exact (Bool.and_true b).symm
  | cons c bs ih =>
    rw [List.foldl_cons, ih, List.all_cons, Bool.and_assoc]
    rfl

theorem foldl_or (b : Bool) (bs : List Bool) : bs.foldl or b = (b || bs.any id) := by
  induction bs generalizing b with
  | nil => exact (Bool.or_false b).symm
  | cons c bs ih =>
    rw [List.foldl_cons, ih, List.any_cons, Bool.or_assoc]
    rfl

/-- conditions that are joined all hold -/
theorem eval_conjunction {fs : List Formula} {bs : List Bool} (h : Formula.Truths σ fs bs)
    (hne : fs ≠ []) :
    (Formula.conjunction fs).sexp.eval σ = some (.bool (bs.all id)) := by
  cases h with
  | nil => exact absurd rfl hne
  | @cons f b fs bs hf tail =>
    cases tail with
    | nil => exact hf.trans (by rw [List.all_cons, List.all_nil, Bool.and_true]; rfl)
    | @cons g c fs bs hg tail =>
      have args := Formula.values_sexps (.cons hf (.cons hg tail))
      refine (Sexp.eval_logic (by decide) rfl args).trans ?_
      refine (connectiveFrom_bools and (b && c) bs).trans ?_
      rw [foldl_and, List.all_cons, List.all_cons, Bool.and_assoc]
      rfl

/-- of conditions that are joined one holds -/
theorem eval_disjunction {fs : List Formula} {bs : List Bool} (h : Formula.Truths σ fs bs)
    (hne : fs ≠ []) :
    (Formula.disjunction fs).sexp.eval σ = some (.bool (bs.any id)) := by
  cases h with
  | nil => exact absurd rfl hne
  | @cons f b fs bs hf tail =>
    cases tail with
    | nil => exact hf.trans (by rw [List.any_cons, List.any_nil, Bool.or_false]; rfl)
    | @cons g c fs bs hg tail =>
      have args := Formula.values_sexps (.cons hf (.cons hg tail))
      refine (Sexp.eval_logic (by decide) rfl args).trans ?_
      refine (connectiveFrom_bools or (b || c) bs).trans ?_
      rw [foldl_or, List.any_cons, List.any_cons, Bool.or_assoc]
      rfl

theorem plainAll_sexps {fs : List Formula} (h : ∀ f ∈ fs, f.sexp.Plain) :
    Sexp.PlainAll (Formula.sexps fs) := by
  induction fs with
  | nil => exact trivial
  | cons f fs ih => exact ⟨h f List.mem_cons_self, ih fun g hg => h g (List.mem_cons_of_mem f hg)⟩

theorem plain_conjunction {fs : List Formula} (h : ∀ f ∈ fs, f.sexp.Plain) :
    (Formula.conjunction fs).sexp.Plain := by
  unfold Formula.conjunction
  split
  · exact h _ List.mem_cons_self
  · exact ⟨rfl, plainAll_sexps h⟩

theorem plain_disjunction {fs : List Formula} (h : ∀ f ∈ fs, f.sexp.Plain) :
    (Formula.disjunction fs).sexp.Plain := by
  unfold Formula.disjunction
  split
  · exact h _ List.mem_cons_self
  · exact ⟨rfl, plainAll_sexps h⟩

end BankSwitch.Smt
