import Mathlib.Data.Int.ModEq
import Mathlib.Data.List.Forall2
import BankSwitch.Proofs.Proper

/-!
# Translating residues

On a bus of `w` lines numbers count as their residues modulo `addressCount w`.  Congruent addresses
have the same slot, whatever the names of guards are bound to, as long as it is congruent values; and
so do translations that differ in congruent values only (`Translation.Congruent`).  A shift respects
this because it wraps what it shifts, but the count that it shifts by is no residue.

* `Primitive.apply_congruent`   one step;
* `Body.eval_congruent`, `firstTrue_congruent`   sequences and switches;
* `Translation.eval_residues`   translations side by side, and what they come to.
-/

namespace BankSwitch

variable {α : Type} {w : Nat}

/-- what is wrapped depends on the residue only -/
theorem wrap_congr {v v' : Int} (h : v ≡ v' [ZMOD addressCount w]) : wrap w v = wrap w v' :=
  congrArg Int.toNat h

/-! ## the same up to residues -/

/-- the same names are bound, to congruent values -/
def Inputs.Congruent (w : Nat) (inputs inputs' : Inputs) : Prop :=
  ∀ name, Option.Rel (· ≡ · [ZMOD addressCount w]) (inputs name) (inputs' name)

/-- the same kind of primitive with congruent values; shifts go by the same count -/
inductive Primitive.Congruent (w : Nat) : Primitive → Primitive → Prop
  | noop : Congruent w .noop .noop
  | constant {k k' : Int} (h : k ≡ k' [ZMOD addressCount w]) :
      Congruent w (.constant k) (.constant k')
  | add {k k' : Int} (h : k ≡ k' [ZMOD addressCount w]) : Congruent w (.add k) (.add k')
  | subFrom {k k' : Int} (h : k ≡ k' [ZMOD addressCount w]) :
      Congruent w (.subFrom k) (.subFrom k')
  | sub {k k' : Int} (h : k ≡ k' [ZMOD addressCount w]) : Congruent w (.sub k) (.sub k')
  | shiftRight (k : Int) : Congruent w (.shiftRight k) (.shiftRight k)

inductive Body.Congruent (w : Nat) : Body α → Body α → Prop
  | primitive {p p' : Primitive} (h : p.Congruent w p') : Congruent w (.primitive p) (.primitive p')
  | sequence {first first' : Primitive} {rest rest' : List Primitive}
      (head : first.Congruent w first') (tail : List.Forall₂ (Primitive.Congruent w) rest rest') :
      Congruent w (.sequence first rest) (.sequence first' rest')
  | alien (node : α) : Congruent w (.alien node) (.alien node)

/-- the same guard, before bodies that are the same up to residues -/
structure Case.Congruent (w : Nat) (c c' : Case α) : Prop where
  guard : c.guard = c'.guard
  body : c.body.Congruent w c'.body

inductive Translation.Congruent (w : Nat) : Translation α → Translation α → Prop
  | body {b b' : Body α} (h : b.Congruent w b') : Congruent w (.body b) (.body b')
  | switch {first first' : Case α} {rest rest' : List (Case α)} {default default' : Body α}
      (cases : List.Forall₂ (Case.Congruent w) (first :: rest) (first' :: rest'))
      (last : default.Congruent w default') :
      Congruent w (.switch first rest default) (.switch first' rest' default')

theorem Primitive.Congruent.refl (w : Nat) (p : Primitive) : p.Congruent w p := by
  cases p with
  | noop => exact .noop
  | constant k => exact .constant rfl
  | add k => exact .add rfl
  | subFrom k => exact .subFrom rfl
  | sub k => exact .sub rfl
  | shiftRight k => exact .shiftRight k

theorem Body.Congruent.refl (w : Nat) (b : Body α) : b.Congruent w b := by
  cases b with
  | primitive p => exact .primitive (.refl w p)
  | sequence first rest =>
    exact .sequence (.refl w first) (List.forall₂_same.mpr fun p _ => .refl w p)
  | alien node => exact .alien node

theorem Translation.Congruent.refl (w : Nat) (t : Translation α) : t.Congruent w t := by
  cases t with
  | body b => exact .body (.refl w b)
  | switch first rest default =>
    exact .switch (List.forall₂_same.mpr fun c _ => ⟨rfl, .refl w c.body⟩) (.refl w default)

/-! ## bodies -/

/-- a primitive sees no more of a value than its residue -/
theorem Primitive.apply_congruent {p p' : Primitive} (hp : p.Congruent w p') {v v' : Int}
    (hv : v ≡ v' [ZMOD addressCount w]) :
    (p.apply w v : Except (EvalError α) Nat) = p'.apply w v' := by
  cases hp with
  | noop => exact congrArg Except.ok (wrap_congr hv)
  | constant h => exact congrArg Except.ok (wrap_congr h)
  | add h => exact congrArg Except.ok (wrap_congr (hv.add h))
  | subFrom h => exact congrArg Except.ok (wrap_congr (h.sub hv))
  | sub h => exact congrArg Except.ok (wrap_congr (hv.sub h))
  | shiftRight k =>
    unfold Primitive.apply
    rw [wrap_congr hv]

theorem foldlM_congruent {rest rest' : List Primitive}
    (h : List.Forall₂ (Primitive.Congruent w) rest rest') (x : Nat) :
    (rest.foldlM (fun (x : Nat) p => p.apply w x) x : Except (EvalError α) Nat) =
      rest'.foldlM (fun (x : Nat) p => p.apply w x) x := by
  induction h generalizing x with
  | nil => rfl
  | cons head tail ih =>
    rw [List.foldlM_cons, List.foldlM_cons, Primitive.apply_congruent head rfl]
    exact congrArg _ (funext ih)

theorem Body.eval_congruent {b b' : Body α} (hb : b.Congruent w b') {v v' : Int}
    (hv : v ≡ v' [ZMOD addressCount w]) : b.eval w v = b'.eval w v' := by
  cases hb with
  | primitive h => exact Primitive.apply_congruent h hv
  | sequence head tail =>
    unfold Body.eval applyAll
    dsimp only
    rw [Primitive.apply_congruent head hv]
    exact congrArg _ (funext (foldlM_congruent tail))
  | alien node => rfl

/-! ## switches -/

/-- guards see the same numbers -/
theorem guardInputs_congruent {v v' : Int} (hv : v ≡ v' [ZMOD addressCount w])
    {inputs inputs' : Inputs} (h : inputs.Congruent w inputs') :
    guardInputs w v inputs = guardInputs w v' inputs' := by
  funext name
  unfold guardInputs
  generalize inputs name = value, inputs' name = value', h name = same
  cases same with
  | none =>
    dsimp only
    rw [wrap_congr hv]
  | some value =>
    dsimp only
    rw [wrap_congr value]

/-- the same case is the first with a true guard -/
inductive SameCase (w : Nat) : Option (Nat × Body α) → Option (Nat × Body α) → Prop
  | none : SameCase w none none
  | some {i : Nat} {b b' : Body α} (h : b.Congruent w b') : SameCase w (some (i, b)) (some (i, b'))

theorem firstTrue_congruent {cs cs' : List (Case α)} (h : List.Forall₂ (Case.Congruent w) cs cs')
    (inputs : Inputs) (i : Nat) :
    (∃ e, firstTrue inputs i cs = .error e ∧ firstTrue inputs i cs' = .error e) ∨
      ∃ found found', firstTrue inputs i cs = .ok found ∧ firstTrue inputs i cs' = .ok found' ∧
        SameCase w found found' := by
  induction h generalizing i with
  | nil => exact .inr ⟨none, none, rfl, rfl, .none⟩
  | cons head tail ih =>
    rw [firstTrue, firstTrue, ← head.guard]
    cases Guard.eval inputs _ with
    | error e => exact .inl ⟨e, rfl, rfl⟩
    | ok holds =>
      cases holds with
      | true => exact .inr ⟨_, _, rfl, rfl, .some head.body⟩
      | false => exact ih (i + 1)

namespace Translation

/-- translations that are the same up to residues, at addresses that are -/
theorem eval_same {t t' : Translation α} (ht : t.Congruent w t') {v v' : Int}
    (hv : v ≡ v' [ZMOD addressCount w]) {inputs inputs' : Inputs}
    (hi : inputs.Congruent w inputs') : t.eval w v inputs = t'.eval w v' inputs' := by
  unfold Translation.eval Translation.choose
  rw [guardInputs_congruent hv hi]
  cases ht with
  | body h => exact Body.eval_congruent h hv
  | switch cases last =>
    obtain ⟨e, h, h'⟩ | ⟨found, found', h, h', same⟩ :=
      firstTrue_congruent cases (guardInputs w v' inputs') 0
    · dsimp only
      rw [h, h']
      rfl
    · dsimp only
      rw [h, h']
      cases same with
      | none => exact Body.eval_congruent last hv
      | some b => exact Body.eval_congruent b hv

/-- a proper translation comes to a number on the bus, or to a name that is not bound.  It comes to
the same at a congruent address with congruent inputs, and with congruent values in its primitives. -/
theorem eval_residues {t : Translation α} (proper : t.Proper) {v v' : Int}
    (hv : v ≡ v' [ZMOD addressCount w]) {inputs inputs' : Inputs}
    (hi : inputs.Congruent w inputs') :
    Settles (· < addressCount w) (t.eval w v inputs) ∧
      t.eval w v' inputs' = t.eval w v inputs ∧
      ∀ t' : Translation α, t.Congruent w t' → t'.eval w v' inputs' = t.eval w v inputs :=
  ⟨proper.settles v inputs, (eval_same (.refl w t) hv hi).symm, fun _ ht => (eval_same ht hv hi).symm⟩

/-- half the distance to `last`, or all of it where the host says that the limit is sixteen or more -/
def halving (last : Int) : Translation Empty :=
  .switch ⟨.compare ⟨.left, .below, 16, "limit"⟩, .sequence (.subFrom last) [.shiftRight 1]⟩ []
    (.primitive (.subFrom last))

theorem proper_halving (last : Int) : (halving last).Proper := by
  refine ⟨List.forall_mem_singleton.mpr ⟨trivial, trivial, ?_⟩, trivial⟩
  rintro p hp
  obtain rfl := List.mem_singleton.mp hp
  exact Int.one_nonneg

theorem halving_congruent {last last' : Int} (h : last ≡ last' [ZMOD addressCount w]) :
    (halving last).Congruent w (halving last') :=
  .switch (.cons ⟨rfl, .sequence (.subFrom h) (.cons (.shiftRight 1) .nil)⟩ .nil)
    (.primitive (.subFrom h))

/-- on eight lines, past the bus and below it -/
theorem eval_residues_halving :
    (halving 31).Proper ∧ (261 : Int) ≡ -251 [ZMOD addressCount 8] ∧
      Inputs.Congruent 8 (Inputs.ofList [("limit", 3)]) (Inputs.ofList [("limit", -253)]) ∧
      (halving 31).eval 8 261 (Inputs.ofList [("limit", 3)]) = .ok 13 ∧
      (halving 31).eval 8 (-251) (Inputs.ofList [("limit", -253)]) = .ok 13 ∧
      (halving (-225)).eval 8 (-251) (Inputs.ofList [("limit", -253)]) = .ok 13 := by
  have address : (261 : Int) ≡ -251 [ZMOD addressCount 8] := by decide
  have inputs : Inputs.Congruent 8 (Inputs.ofList [("limit", 3)])
      (Inputs.ofList [("limit", -253)]) := by
    intro name
    unfold Inputs.ofList
    by_cases h : "limit" = name
    · simp only [List.reverse_singleton, List.find?_cons, h, decide_true]
      exact .some (show (3 : Int) ≡ -253 [ZMOD addressCount 8] by decide)
    · simp only [List.reverse_singleton, List.find?_cons, h, decide_false]
      exact .none
  have start : (halving 31).eval 8 261 (Inputs.ofList [("limit", 3)]) = .ok 13 := rfl
  obtain ⟨-, same, replaced⟩ := eval_residues (proper_halving 31) address inputs
  exact ⟨proper_halving 31, address, inputs, start, same.trans start,
    (replaced _ (halving_congruent (by decide))).trans start⟩

end Translation

end BankSwitch
