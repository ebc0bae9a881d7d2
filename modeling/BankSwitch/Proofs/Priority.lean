import Mathlib.Logic.Equiv.Basic
import BankSwitch.Proofs.Evaluation
import BankSwitch.Proofs.Numbering

/-!
# Which bank answers

An address is answered by the first bank that claims it, so the order of two banks matters where both
claim it, and nowhere else.  Banks may be rearranged as long as of two that share an address the earlier
one stays the earlier, and a bank at the end takes no address away from those before it
(`Component.eval_rearranged`).
-/

namespace BankSwitch

variable {α : Type}

/-! ## layouts that share an address -/

namespace Partition

/-- some address is in both layouts -/
def Overlaps (p q : Partition) : Prop := ∃ a : Int, p.contains a = true ∧ q.contains a = true

theorem overlaps_iff {p q : Partition} : p.Overlaps q ↔ ∃ n ∈ p.addresses, n ∈ q.addresses := by
  constructor
  · rintro ⟨a, hp, hq⟩
    obtain ⟨n, hn, rfl⟩ := p.contains_iff_mem.mp hp
    obtain ⟨m, hm, same⟩ := q.contains_iff_mem.mp hq
    obtain rfl := Int.ofNat.inj same
    exact ⟨n, hn, hm⟩
  · rintro ⟨n, hp, hq⟩
    exact ⟨n, p.contains_iff_mem.mpr ⟨n, hp, rfl⟩, q.contains_iff_mem.mpr ⟨n, hq, rfl⟩⟩

instance (p q : Partition) : Decidable (p.Overlaps q) := decidable_of_iff _ overlaps_iff.symm

end Partition

/-! ## the first bank that claims an address -/

/-- `σ` sends every bank of the first list to a place in the second where the same bank stands, and of
two banks that overlap the earlier one to the earlier place -/
structure Rearranges (bs bs' : List (Bank α)) (σ : Fin bs.length ≃ Fin bs'.length) : Prop where
  same : ∀ i, bs'.get (σ i) = bs.get i
  order : ∀ i j, i < j → (bs.get i).layout.Overlaps (bs.get j).layout → σ i < σ j

/-- every place of the second list is that of a bank of the first -/
theorem Rearranges.get_symm {bs bs' : List (Bank α)} {σ : Fin bs.length ≃ Fin bs'.length}
    (h : Rearranges bs bs' σ) (j : Fin bs'.length) : bs.get (σ.symm j) = bs'.get j := by
  rw [← h.same, Equiv.apply_symm_apply]

theorem Rearranges.find? {bs bs' : List (Bank α)} {σ : Fin bs.length ≃ Fin bs'.length}
    (h : Rearranges bs bs' σ) (a : Int) :
    bs'.find? (fun b => b.layout.contains a) = bs.find? fun b => b.layout.contains a := by
  cases found : bs.find? fun b => b.layout.contains a with
  | none =>
    rw [List.find?_eq_none] at found ⊢
    intro b hb
    obtain ⟨j, rfl⟩ := List.get_of_mem hb
    rw [← h.get_symm j]
    exact found _ (List.get_mem bs _)
  | some b =>
    obtain ⟨claims, i, hi, rfl, earlier⟩ := List.find?_eq_some_iff_getElem.mp found
    refine List.find?_eq_some_iff_getElem.mpr
      ⟨claims, σ ⟨i, hi⟩, (σ ⟨i, hi⟩).isLt, h.same ⟨i, hi⟩, fun j hj => ?_⟩
    have hj' : j < bs'.length := Nat.lt_trans hj (σ ⟨i, hi⟩).isLt
    have bank := h.get_symm ⟨j, hj'⟩
    -- a bank that claims the address in front of this one overlaps it, so it was in front of it before
    cases claimed : bs'[j].layout.contains a with
    | false => rfl
    | true =>
      have claims' : (bs.get (σ.symm ⟨j, hj'⟩)).layout.contains a = true := by
        rw [bank]
        exact claimed
      have later : ¬ σ.symm ⟨j, hj'⟩ < ⟨i, hi⟩ := by
        intro before
        have unclaimed := earlier _ before
        rw [Bool.not_eq_true'] at unclaimed
        exact Bool.false_ne_true (unclaimed.symm.trans claims')
      have other : σ.symm ⟨j, hj'⟩ ≠ ⟨i, hi⟩ := by
        intro this
        rw [← this, Equiv.apply_symm_apply] at hj
        exact Nat.lt_irrefl j hj
      have behind : (⟨i, hi⟩ : Fin bs.length) < σ.symm ⟨j, hj'⟩ := by omega
      have moved := h.order _ _ behind ⟨a, claims, claims'⟩
      rw [Equiv.apply_symm_apply] at moved
      exact absurd hj (Nat.lt_asymm moved)

namespace Component

/-- an address goes the same way if the same bank is the first to claim it -/
theorem eval_of_same_bank {c c' : Component α} (width : c'.width = c.width) {a : Int}
    (same : (c'.banks.find? fun b => b.layout.contains a) =
      c.banks.find? fun b => b.layout.contains a) (inputs : Inputs) :
    c'.eval a inputs = c.eval a inputs := by
  cases found : c.banks.find? fun b => b.layout.contains a with
  | none => rw [eval_of_find?_none found, eval_of_find?_none (same.trans found)]
  | some b => rw [eval_of_find? found, eval_of_find? (same.trans found), width]

/-- banks in another order, but for overlapping ones, answer every address the same way; and so do more
banks behind them, at the addresses that one of the banks claims already -/
theorem eval_rearranged {c c' : Component α} (width : c'.width = c.width) :
    (∀ σ, Rearranges c.banks c'.banks σ →
        ∀ (a : Int) (inputs : Inputs), c'.eval a inputs = c.eval a inputs) ∧
      ∀ more, c'.banks = c.banks ++ more →
        ∀ a : Int, (∃ b ∈ c.banks, b.layout.contains a = true) →
          ∀ inputs : Inputs, c'.eval a inputs = c.eval a inputs := by
  refine ⟨fun σ h a => eval_of_same_bank width (h.find? a), ?_⟩
  intro more banks a claimed
  apply eval_of_same_bank width
  obtain ⟨b, hb⟩ := Option.isSome_iff_exists.mp (List.find?_isSome.mpr claimed)
  rw [banks, List.find?_append, hb]
  rfl

/-! ## banks between each other -/

/-- even addresses, odd addresses, and the first four, which both of these share -/
def evens : Bank Empty := ⟨.single (.everyOther 0 16), .body (.primitive (.shiftRight 1))⟩

def odds : Bank Empty := ⟨.single (.everyOther 1 15), .body (.primitive (.sub 1))⟩

def four : Bank Empty := ⟨.single (.below 4), .body (.primitive .noop)⟩

/-- one more bank, for all sixteen addresses -/
def sixteen : Bank Empty := ⟨.single (.below 16), .body (.primitive (.constant 0))⟩

/-- the odd addresses behind the even ones instead of in front of them, and one more bank at the end -/
theorem eval_rearranged_strided :
    (ofSample odds [evens, four]).eval 3 Inputs.none = .ok 2 ∧
      (ofSample evens [odds, four]).eval 3 Inputs.none = .ok 2 ∧
      (ofSample odds [evens, four, sixteen]).eval 3 Inputs.none = .ok 2 := by
  have slot : (ofSample odds [evens, four]).eval 3 Inputs.none = .ok 2 := rfl
  have swapped : Rearranges (ofSample odds [evens, four]).banks (ofSample evens [odds, four]).banks
      (Equiv.swap (0 : Fin 3) (1 : Fin 3)) := ⟨by decide, by decide⟩
  have width : (ofSample evens [odds, four]).width = (ofSample odds [evens, four]).width := rfl
  have width' : (ofSample odds [evens, four, sixteen]).width = (ofSample odds [evens, four]).width := rfl
  refine ⟨slot, ?_, ?_⟩
  · exact ((eval_rearranged width).1 _ swapped 3 Inputs.none).trans slot
  · exact ((eval_rearranged width').2 [sixteen] rfl 3 ⟨odds, List.mem_cons_self, rfl⟩
      Inputs.none).trans slot

end Component

end BankSwitch
