import BankSwitch.Proofs.Smt.Component

/-!
# Guards on other names in scripts

A component that a host has put together may have guards on other names than `INPUT`.  If the constants
of its script have the values that the evaluator takes for the names, bank and component translate as the
evaluator does.  There is one exception: every function has a parameter `addr`, which hides a constant of
that name.  A guard on `addr` is a guard on the address in the script, and on a value of its own for the
evaluator (`Component.smt_selectors`).
-/

namespace BankSwitch

open Smt Smt.Scope

variable {α : Type} {w : Nat} {chosen : String → Value}

/-- what the functions of the address find under names: the address hides a value under its own -/
def Inputs.behindAddress (inputs : Inputs) (a : Nat) : Inputs := fun name =>
  if name = addrName then some a else inputs name

namespace Component

section

variable {c : Component α} {inputs : Inputs} (unbound : inputs addressName = none)
  (values : ∀ s ∈ c.selectors, ∃ v, inputs s = some v ∧
    chosen s = .number c.width (wrap c.width v))
include unbound values

theorem shown_behindAddress : c.Shown chosen inputs.behindAddress := by
  intro a ha
  refine ⟨(if_neg (by decide)).trans unbound, fun s hs => ?_⟩
  unfold Inputs.behindAddress
  by_cases hidden : s = addrName
  · rw [if_pos hidden, if_pos hidden]
    exact ⟨a, rfl, by rw [wrap_of_lt ha]⟩
  · rw [if_neg hidden, if_neg hidden]
    exact values s hs

theorem shown_apart (apart : addrName ∉ c.selectors) : c.Shown chosen fun _ => inputs := by
  refine fun a _ => ⟨unbound, fun s hs => ?_⟩
  have other : s ≠ addrName := fun e => apart (e ▸ hs)
  rw [if_neg other]
  exact values s hs

end

/-- the script of a bounded component has a meaning: with constants of the values that inputs give the
names of guards, the functions of each bank are its layout and its translation, `mapped` and `translate`
those of the component, for the inputs with the address under the name `addr`; so they are those for the
inputs themselves if no guard compares that name -/
theorem smt_selectors {c : Component α} (h : c.Bounded w) (declarable : c.Declarable)
    {inputs : Inputs} (unbound : inputs addressName = none)
    (values : ∀ s ∈ c.selectors, ∃ v, inputs s = some v ∧ chosen s = .number w (wrap w v)) :
    ∃ out σ, c.smt "" = .ok out ∧ meaning chosen out = some σ ∧
      BanksServe σ w inputs.behindAddress c.banks ∧ c.Serves σ w inputs.behindAddress ∧
      (addrName ∉ c.selectors →
        BanksServe σ w (fun _ => inputs) c.banks ∧ c.Serves σ w fun _ => inputs) := by
  have vectors (s : String) (hs : s ∈ c.selectors) : (chosen s).kind = .vector w := by
    obtain ⟨v, -, value⟩ := values s hs
    rw [value]
    rfl
  obtain ⟨out, σ, printed, means, serve⟩ := script_serves h declarable vectors
  obtain rfl := h.width
  obtain ⟨banks, whole⟩ := serve _ (shown_behindAddress unbound values)
  exact ⟨out, σ, printed, means, banks, whole, fun apart => serve _ (shown_apart unbound values apart)⟩

/-! ## a guard on one name -/

/-- sixteen addresses on eight lines, all sent to slot 7 where the name has the value 1 -/
def selecting (name : String) : Component Empty where
  paramA := 16
  paramB := 1
  banks :=
    [⟨.single ⟨0, 16, none, by decide, Nat.zero_lt_one⟩,
      .switch ⟨.compare ⟨.left, .equal, 1, name⟩, .primitive (.constant 7)⟩ [] (.primitive .noop)⟩]
  width := 8
  nonempty := List.cons_ne_nil _ _
  width_pos := by decide

theorem bounded_selecting (name : String) : (selecting name).Bounded 8 := by
  have number {n : Nat} (hn : n < addressCount 8) : OnBus 8 n := ⟨n, rfl, hn⟩
  refine ⟨rfl, List.forall_mem_singleton.mpr ⟨List.forall_mem_singleton.mpr ?_, ?_⟩⟩
  · exact ⟨by decide, by decide, by rintro _ ⟨⟩⟩
  · exact ⟨List.forall_mem_singleton.mpr ⟨number (n := 1) (by decide), number (n := 7) (by decide)⟩,
      trivial⟩

theorem selectors_selecting {name : String} (h : name ≠ addressName) :
    (selecting name).selectors = [name] := by
  have compared : ((selecting name).banks.flatMap fun b => b.translation.selectors) =
      if name = addressName then [] else [name] := by
    exact (List.append_nil _).trans (List.append_nil _)
  unfold selectors
  rw [compared, if_neg h, List.eraseDups_cons, List.filter_nil, List.eraseDups_nil,
    List.mergeSort_singleton]

theorem declarable_selecting {name : String} (h : name ≠ addressName) (definable : Definable name)
    (other : name ∉ (selecting name).functionNames) : (selecting name).Declarable := by
  unfold Declarable
  rw [selectors_selecting h]
  exact List.forall_mem_singleton.mpr ⟨definable, other⟩

/-- every name has the value 1, but for the address -/
def ones : Inputs := fun name => if name = addressName then none else some 1

theorem values_selecting {name : String} (h : name ≠ addressName) :
    ∀ s ∈ (selecting name).selectors, ∃ v, ones s = some v ∧
      Value.number 8 1 = .number 8 (wrap 8 v) := by
  rw [selectors_selecting h]
  exact List.forall_mem_singleton.mpr ⟨1, if_neg h, rfl⟩

/-- a name that nothing hides -/
theorem selecting_sel :
    (selecting "sel").Bounded 8 ∧ (selecting "sel").Declarable ∧ ones addressName = none ∧
      (∀ s ∈ (selecting "sel").selectors, ∃ v, ones s = some v ∧
        Value.number 8 1 = .number 8 (wrap 8 v)) ∧
      ∃ out σ, (selecting "sel").smt "" = .ok out ∧
        meaning (fun _ => .number 8 1) out = some σ ∧
        BanksServe σ 8 (fun _ => ones) (selecting "sel").banks := by
  have other : "sel" ≠ addressName := by decide
  have declarable := declarable_selecting other ⟨rfl, by decide⟩ (by decide)
  have unbound : ones addressName = none := if_pos rfl
  have values := values_selecting other
  obtain ⟨out, σ, printed, means, -, -, direct⟩ :=
    smt_selectors (bounded_selecting "sel") declarable unbound values
  have seen : addrName ∉ (selecting "sel").selectors := by
    rw [selectors_selecting other]
    decide
  exact ⟨bounded_selecting "sel", declarable, unbound, values, out, σ, printed, means,
    (direct seen).1⟩

/-- the name that the address hides: the evaluator finds the value 1 and sends address 0 to slot 7, the
script compares the address instead and leaves it where it is -/
theorem selecting_addr :
    ∃ out σ, (selecting addrName).smt "" = .ok out ∧
      meaning (fun _ => .number 8 1) out = some σ ∧
      σ.apply (translateName 0) [.number 8 0] = some (.number 8 0) ∧
      ∀ b ∈ (selecting addrName).banks, b.translation.eval 8 0 ones = .ok 7 := by
  have other : addrName ≠ addressName := by decide
  have declarable := declarable_selecting other ⟨rfl, by decide⟩ (by decide)
  let one : String → Value := fun _ => .number 8 1
  have vectors : ∀ s ∈ (selecting addrName).selectors, (one s).kind = .vector 8 := fun _ _ => rfl
  obtain ⟨out, σ, printed, means, serve⟩ :=
    script_serves (bounded_selecting addrName) declarable vectors
  have shown := shown_behindAddress (c := selecting addrName) (if_pos rfl) (values_selecting other)
  obtain ⟨-, n, slot, -, value⟩ := (serve _ shown).1 0 _ rfl 0 (by decide)
  cases slot
  exact ⟨out, σ, printed, means, value, List.forall_mem_singleton.mpr rfl⟩

end Component

end BankSwitch
