import BankSwitch.Proofs.Smt.Banks

/-!
# Scripts of components

A script declares a constant for every name that a guard compares, and then defines the functions of the
banks and the two of the component, which call those of the banks.  If its constants have the values that
the evaluator finds under their names, the functions agree with the evaluator (`Component.script_serves`).
The script of a component that was read declares no constants, and what it says about an address of the
bus is what the evaluator finds (`Component.smt_ofText`).
-/

namespace BankSwitch

open Smt Smt.Scope

variable {α : Type} {w : Nat} {form : RangeForm} {σ τ : Scope} {chosen : String → Value}
  {seen : Nat → Inputs}

/-! ## the functions of a component -/

/-- the banks have their functions in scope, for the values that `seen` gives -/
def BanksServe (σ : Scope) (w : Nat) (seen : Nat → Inputs) (bs : List (Bank α)) : Prop :=
  ∀ (i : Nat) (b : Bank α), bs[i]? = some b → b.Serves σ w seen i

theorem Bank.Serves.within {i : Nat} {b : Bank α} (h : b.Serves σ w seen i) (a : Nat) :
    b.Serves (σ.within w a) w seen i :=
  h.of_eq (Scope.bind_of_ne σ (containsName_ne (by decide) i).symm _)
    (Scope.bind_of_ne σ (translateName_ne (by decide) i).symm _)

/-- a call of a function on the address -/
theorem eval_callAddr {name : String} (hn : name ≠ "_") {a : Nat} {v : Value}
    (h : (σ.within w a).apply name [.number w a] = some v) :
    (Sexp.list [.atom name, addr.sexp]).eval (σ.within w a) = some v := by
  have address : addr.sexp.eval (σ.within w a) = some (.number w a) :=
    eval_addr (σ.bind_self addrName _)
  exact (Sexp.eval_call hn (.cons address .nil)).trans h

theorem eval_claim {i : Nat} {b : Bank α} (h : b.Serves σ w seen i) {a : Nat}
    (ha : a < addressCount w) :
    (Formula.call (containsName i) addr).sexp.eval (σ.within w a) =
      some (.bool (b.layout.contains a)) :=
  eval_callAddr (containsName_ne (by decide) i).symm (h.within a a ha).1

theorem eval_claims {bs : List (Bank α)} (h : BanksServe σ w seen bs) (hne : bs ≠ []) {a : Nat}
    (ha : a < addressCount w) :
    (Formula.disjunction ((List.range bs.length).map fun i =>
        .call (containsName i) addr)).sexp.eval (σ.within w a) =
      some (.bool (bs.any fun b => b.layout.contains a)) := by
  have truths : Formula.Truths (σ.within w a)
      ((List.range bs.length).map fun i => .call (containsName i) addr)
      (bs.map fun b => b.layout.contains a) := by
    unfold Formula.Truths
    rw [List.forall₂_map_left_iff, List.forall₂_map_right_iff, List.forall₂_iff_get]
    refine ⟨List.length_range, fun i hi hi' => ?_⟩
    rw [List.get_eq_getElem, List.get_eq_getElem, List.getElem_range]
    exact eval_claim (h i _ (List.getElem?_eq_getElem hi')) ha
  have some_claim : ((List.range bs.length).map fun i =>
      Formula.call (containsName i) addr) ≠ [] := by
    rw [ne_eq, List.map_eq_nil_iff, List.range_eq_nil, List.length_eq_zero_iff]
    exact hne
  rw [eval_disjunction truths some_claim, List.any_map]
  rfl

/-- the first of the banks from `i` on that claims the address translates it -/
theorem eval_priority {bs : List (Bank α)} {i : Nat}
    (h : ∀ (j : Nat) (b : Bank α), bs[j]? = some b → b.Serves σ w seen (i + j)) {a : Nat}
    (ha : a < addressCount w) :
    ∃ n, (priorityTerm i bs.length).sexp.eval (σ.within w a) = some (.number w n) ∧
      n < addressCount w ∧ match bs.find? fun b => b.layout.contains a with
        | some b => b.translation.eval w a (seen a) = .ok n
        | none => n = a := by
  induction bs generalizing i with
  | nil => exact ⟨a, eval_addr (σ.bind_self addrName _), ha, rfl⟩
  | cons b bs ih =>
    have first := h 0 b rfl
    obtain ⟨m, em, hm, later⟩ := ih (i := i + 1) fun j b' hj => by
      have there := h (j + 1) b' hj
      rw [Nat.add_right_comm]
      exact there
    obtain ⟨-, n, en, hn, slot⟩ := first.within a a ha
    have claim := eval_claim first ha
    have term := eval_callAddr (translateName_ne (by decide) i).symm slot
    have value := eval_ite (t := .call (translateName i) addr) claim term em rfl
    rw [List.find?_cons]
    cases hc : b.layout.contains a with
    | true =>
      rw [hc] at value
      exact ⟨n, value, hn, en⟩
    | false =>
      rw [hc] at value
      exact ⟨m, value, hm, later⟩

/-- the definitions of a component of `n` banks -/
def summaryCommands (w n : Nat) : Script :=
  [.comment "True when some bank claims the address",
   .defineFormula "mapped" w
     (.disjunction ((List.range n).map fun i => .call (containsName i) addr)), .blank,
   .comment "Bank priority follows declaration order",
   .defineTerm "translate" w (priorityTerm 0 n)]

theorem definable_mapped : Definable "mapped" := ⟨rfl, by decide⟩

theorem definable_translate : Definable "translate" := ⟨rfl, by decide⟩

theorem plain_callAddr {name : String} (hn : Definable name) :
    (Sexp.list [.atom name, addr.sexp]).Plain := ⟨hn.isAtom, plain_addr, trivial⟩

theorem plain_priorityTerm (i n : Nat) : (priorityTerm i n).sexp.Plain := by
  induction n generalizing i with
  | zero => exact plain_addr
  | succ n ih =>
    have claim := plain_callAddr (definable_containsName i)
    have term := plain_callAddr (definable_translateName i)
    exact plain_ite (f := .call (containsName i) addr) (t := .call (translateName i) addr) claim
      term (ih (i + 1))

theorem plain_summaryCommands (w n : Nat) : ∀ c ∈ summaryCommands w n, c.Plain := by
  have claims : (Formula.disjunction ((List.range n).map fun i =>
      .call (containsName i) addr)).sexp.Plain := by
    apply plain_disjunction
    intro f hf
    obtain ⟨i, -, rfl⟩ := List.mem_map.mp hf
    exact plain_callAddr (definable_containsName i)
  unfold summaryCommands
  simp only [List.forall_mem_cons, List.not_mem_nil, false_implies, implies_true, and_true]
  exact ⟨rfl, ⟨rfl, claims⟩, trivial, rfl, ⟨rfl, plain_priorityTerm 0 n⟩⟩

theorem BanksServe.of_bankNames {bs : List (Bank α)} (h : BanksServe σ w seen bs)
    (same : ∀ name, name.toList.take 5 = "bank_".toList → τ name = σ name) :
    BanksServe τ w seen bs := by
  intro i b hb
  have contains : (containsName i).toList.take 5 = "bank_".toList := by
    rw [toList_containsName, List.append_assoc]
    rfl
  have translate : (translateName i).toList.take 5 = "bank_".toList := by
    rw [toList_translateName, List.append_assoc]
    rfl
  exact (h i b hb).of_eq (same _ contains) (same _ translate)

namespace Component

/-- in the scope, `mapped` and `translate` are the functions of the component, for the values that
`seen` gives -/
def Serves (σ : Scope) (w : Nat) (seen : Nat → Inputs) (c : Component α) : Prop :=
  ∀ a < addressCount w,
    (∃ n, c.eval a (seen a) = .ok n ∧ n < addressCount w ∧
        σ.apply "mapped" [.number w a] = some (.bool true) ∧
        σ.apply "translate" [.number w a] = some (.number w n)) ∨
      c.eval a (seen a) = .error (.noBankMatch a) ∧
        σ.apply "mapped" [.number w a] = some (.bool false) ∧
        σ.apply "translate" [.number w a] = some (.number w a)

theorem summary_serves (chosen : String → Value) {c : Component α} (hmapped : σ "mapped" = none)
    (htranslate : σ "translate" = none) :
    ∃ τ, Script.run chosen σ (summaryCommands c.width c.banks.length) = some τ ∧
      ∀ seen, BanksServe σ c.width seen c.banks →
        BanksServe τ c.width seen c.banks ∧ c.Serves τ c.width seen := by
  have ne : "translate" ≠ "mapped" := by decide
  let claims := Formula.disjunction ((List.range c.banks.length).map fun i =>
    .call (containsName i) addr)
  let ρ := σ.withFormula c.width "mapped" claims
  refine ⟨ρ.withTerm c.width "translate" (priorityTerm 0 c.banks.length),
    foldlM_definitions c.width_pos definable_mapped definable_translate ne hmapped htranslate _ _,
    fun seen h => ?_⟩
  have hρ : BanksServe ρ c.width seen c.banks := by
    refine h.of_bankNames fun name hn => withFormula_of_ne ?_ claims
    rintro rfl
    cases hn
  constructor
  · refine hρ.of_bankNames fun name hn => withTerm_of_ne ?_ _
    rintro rfl
    cases hn
  · intro a ha
    obtain ⟨n, value, hn, slot⟩ := eval_priority (i := 0) (fun j b hj => by
      rw [Nat.zero_add]
      exact hρ j b hj) ha
    have translate := apply_withTerm definable_translate value
    have mapped := apply_withFormula definable_mapped (eval_claims h c.nonempty ha)
    rw [← apply_congr (withTerm_of_ne (w := c.width) ne.symm (priorityTerm 0 c.banks.length)),
      ← List.isSome_find?] at mapped
    cases hfind : c.banks.find? fun b => b.layout.contains a with
    | some b =>
      rw [hfind] at slot mapped
      exact .inl ⟨n, (eval_of_find? hfind _).trans slot, hn, mapped, translate⟩
    | none =>
      rw [hfind] at slot mapped
      cases slot
      exact .inr ⟨eval_of_find?_none hfind _, mapped, translate⟩

end Component

/-! ## names -/

theorem nodup_eraseDups : ∀ names : List String, names.eraseDups.Nodup
  | [] => List.nodup_nil
  | name :: names => by
    rw [List.eraseDups_cons, List.nodup_cons, List.mem_eraseDups, List.mem_filter]
    refine ⟨fun h => ?_, nodup_eraseDups _⟩
    rw [beq_self_eq_true] at h
    cases h.2
termination_by names => names.length
decreasing_by exact Nat.lt_succ_of_le (List.length_filter_le _ names)

namespace Component

theorem nodup_selectors (c : Component α) : c.selectors.Nodup :=
  (List.mergeSort_perm _ _).nodup_iff.mpr (nodup_eraseDups _)

theorem selectors_of_bank {c : Component α} {b : Bank α} (hb : b ∈ c.banks) :
    b.translation.selectors ⊆ c.selectors := fun _ hs =>
  List.mem_mergeSort.mpr (List.mem_eraseDups.mpr (List.mem_flatMap.mpr ⟨b, hb, hs⟩))

/-- the names of the functions that the script of the component defines -/
def functionNames (c : Component α) : List String :=
  bankNames 0 c.banks.length ++ ["mapped", "translate"]

/-- every name that the guards compare can be declared beside the functions of the script -/
def Declarable (c : Component α) : Prop :=
  ∀ s ∈ c.selectors, Definable s ∧ s ∉ c.functionNames

end Component

/-! ## declarations -/

theorem execute_declare (hw : 0 < w) {name : String} (hn : Definable name) (hσ : σ name = none)
    (hk : (chosen name).kind = .vector w) :
    execute chosen σ (.list [.atom "declare-const", .atom name, vectorSort w]) =
      some (σ.bind name (.constant (chosen name))) := by
  have command : execute chosen σ (.list [.atom "declare-const", .atom name, vectorSort w]) =
      declare chosen σ [.atom name, vectorSort w] := by
    unfold execute
    exact (if_neg (by decide)).trans (if_pos rfl)
  rw [command]
  unfold declare
  dsimp only
  rw [kind?_vectorSort hw]
  exact if_pos (by rw [free_of_none hn hσ, hk, decide_eq_true rfl]; rfl)

/-- declarations of different names bring the chosen constants into scope -/
theorem declarations_run (hw : 0 < w) {names : List String} (nodup : names.Nodup)
    (definable : ∀ s ∈ names, Definable s) (vectors : ∀ s ∈ names, (chosen s).kind = .vector w)
    (free : FreeOf σ names) :
    ∃ τ, Script.run chosen σ (names.map (Command.declare · w)) = some τ ∧ SameBut names σ τ ∧
      ∀ s ∈ names, τ s = some (.constant (chosen s)) := by
  induction names generalizing σ with
  | nil => exact ⟨σ, rfl, .refl [] σ, List.forall_mem_nil _⟩
  | cons name names ih =>
    obtain ⟨new, nodup⟩ := List.nodup_cons.mp nodup
    obtain ⟨definable, later⟩ := List.forall_mem_cons.mp definable
    obtain ⟨vector, vectors⟩ := List.forall_mem_cons.mp vectors
    obtain ⟨free, freeRest⟩ := List.forall_mem_cons.mp free
    have bound : SameBut [name] σ (σ.bind name (.constant (chosen name))) :=
      fun s hs => bind_of_ne σ (mt List.mem_singleton.mpr hs) _
    have stillFree : FreeOf (σ.bind name (.constant (chosen name))) names :=
      FreeOf.of_same freeRest bound fun s hs e => new (List.mem_singleton.mp e ▸ hs)
    obtain ⟨τ, run, same, constants⟩ := ih nodup later vectors stillFree
    refine ⟨τ, ?_, bound.trans same, List.forall_mem_cons.mpr ⟨?_, constants⟩⟩
    · have step := execute_declare hw definable free vector
      have first : Script.run chosen σ [.declare name w] =
          some (σ.bind name (.constant (chosen name))) := by
        unfold Script.run
        exact (List.foldlM_cons ..).trans (by rw [step]; rfl)
      rw [List.map_cons, ← List.singleton_append, Script.run_append, first]
      exact run
    · rw [same name new, bind_self]

namespace Component

theorem run_declarations (chosen : String → Value) (σ : Scope) (c : Component α) :
    Script.run chosen σ c.declarations =
      Script.run chosen σ (c.selectors.map (Command.declare · c.width)) := by
  unfold declarations
  cases c.selectors with
  | nil => rfl
  | cons name names =>
    unfold Script.run
    rw [List.flatMap_append, List.flatMap_cons]
    exact congrArg _ (List.append_nil _)

theorem plain_declarations {c : Component α} (h : ∀ s ∈ c.selectors, isAtom s.toList = true) :
    ∀ d ∈ c.declarations, d.Plain := by
  unfold declarations
  cases hs : c.selectors with
  | nil => exact List.forall_mem_nil _
  | cons name names =>
    intro d hd
    rw [hs] at h
    rw [List.mem_append, List.mem_cons, List.mem_singleton, List.mem_map] at hd
    obtain (rfl | ⟨s, hs, rfl⟩) | rfl := hd
    · rfl
    · exact h s hs
    · trivial

/-! ## the head of a script -/

theorem inLine_int (v : Int) : InLine (toString v) := by
  cases v with
  | ofNat n => exact inLine_repr n
  | negSucc n =>
    have text : toString (Int.negSucc n) = "-" ++ Nat.repr (n + 1) := rfl
    rw [text]
    exact InLine.append rfl (inLine_repr (n + 1))

theorem inLine_heading (a b : Int) (n w : Nat) :
    InLine (s!"memory<{a}, {b}>, {n} banks, " ++ s!"{w}-bit addresses") := by
  have text : s!"memory<{a}, {b}>, {n} banks, " ++ s!"{w}-bit addresses" =
      "memory<" ++ toString a ++ ", " ++ toString b ++ ">, " ++ Nat.repr n ++ " banks, " ++
        (Nat.repr w ++ "-bit addresses") := rfl
  have first : InLine ("memory<" ++ toString a) := InLine.append rfl (inLine_int a)
  have second := (first.append (u := ", ") rfl).append (inLine_int b)
  have third := (second.append (u := ">, ") rfl).append (inLine_repr n)
  have lines : InLine (Nat.repr w ++ "-bit addresses") := (inLine_repr w).append rfl
  rw [text]
  exact (third.append (u := " banks, ") rfl).append lines

theorem plain_heading (c : Component α) : ∀ d ∈ c.header "", d.Plain := by
  have commands : c.header "" = [.comment "Definitions generated from bank DSL",
      .comment (s!"memory<{c.paramA}, {c.paramB}>, {c.banks.length} banks, " ++
        s!"{c.width}-bit addresses"), .blank] := rfl
  rw [commands]
  simp only [List.forall_mem_cons, List.not_mem_nil, false_implies, implies_true, and_true]
  exact ⟨rfl, inLine_heading _ _ _ _, trivial⟩

/-! ## the whole script -/

/-- what `seen` gives under the names that guards compare are the values of the constants, but for the
name that the address hides -/
def Shown (c : Component α) (chosen : String → Value) (seen : Nat → Inputs) : Prop :=
  ∀ a < addressCount c.width, seen a addressName = none ∧ ∀ s ∈ c.selectors, ∃ v, seen a s = some v ∧
    (if s = addrName then .number c.width a else chosen s) = Value.number c.width (wrap c.width v)

theorem provides_shown {c : Component α} {seen : Nat → Inputs} (h : c.Shown chosen seen)
    (definable : ∀ s ∈ c.selectors, Definable s)
    (constants : ∀ s ∈ c.selectors, σ s = some (.constant (chosen s))) :
    Provides σ c.selectors c.width seen := by
  intro a ha
  obtain ⟨unbound, shown⟩ := h a ha
  refine ⟨σ.bind_self addrName _, unbound, fun s hs => ?_⟩
  obtain ⟨v, bound, value⟩ := shown s hs
  refine ⟨v, bound, ?_⟩
  rw [← value]
  by_cases hidden : s = addrName
  · have parameter : σ.within c.width a s = some (.constant (.number c.width a)) := by
      rw [hidden]
      exact σ.bind_self addrName _
    rw [if_pos hidden]
    exact apply_of_eq (definable s hs) parameter []
  · rw [if_neg hidden]
    exact apply_of_eq (definable s hs) ((bind_of_ne σ hidden _).trans (constants s hs)) []

/-- a script with the definitions `s` of its banks, but for the empty line at its end -/
def commands (c : Component α) (s : Script) : Script :=
  c.header "" ++ c.declarations ++ s ++ summaryCommands c.width c.banks.length

theorem smt_of_bankScripts {c : Component α} {s : Script}
    (h : bankScripts c.width 0 c.banks = .ok s) :
    c.smt "" = .ok (Script.text (c.commands s ++ [.blank])) := by
  have last : c.summary = summaryCommands c.width c.banks.length ++ [.blank] := rfl
  have parts : c.header "" ++ c.declarations ++ s ++ c.summary = c.commands s ++ [.blank] := by
    rw [last, ← List.append_assoc]
    rfl
  unfold smt Component.script
  rw [h, ok_bind, parts]
  rfl

theorem plain_commands {c : Component α} {s : Script}
    (atoms : ∀ name ∈ c.selectors, isAtom name.toList = true) (plain : ∀ d ∈ s, d.Plain) :
    ∀ d ∈ c.commands s, d.Plain := by
  intro d hd
  unfold commands at hd
  rw [List.mem_append, List.mem_append, List.mem_append] at hd
  obtain ((hd | hd) | hd) | hd := hd
  · exact plain_heading c d hd
  · exact plain_declarations atoms d hd
  · exact plain d hd
  · exact plain_summaryCommands _ _ d hd

/-- declarations, banks and summary run one after the other -/
theorem run_commands {c : Component α} {s : Script} {ρ τ υ : Scope}
    (declared : Script.run chosen Scope.empty (c.selectors.map (Command.declare · c.width)) = some ρ)
    (defined : Script.run chosen ρ s = some τ)
    (summarized : Script.run chosen τ (summaryCommands c.width c.banks.length) = some υ) :
    Script.run chosen Scope.empty (c.commands s) = some υ := by
  have head : Script.run chosen Scope.empty (c.header "") = some Scope.empty := rfl
  unfold commands
  rw [Script.run_append, Script.run_append, Script.run_append, head, Option.bind_some,
    run_declarations, declared, Option.bind_some, defined, Option.bind_some, summarized]

/-- the script of a bounded component has a meaning, in which banks and component have their
functions -/
theorem script_serves {c : Component α} (h : c.Bounded w) (declarable : c.Declarable)
    (vectors : ∀ s ∈ c.selectors, (chosen s).kind = .vector w) :
    ∃ out σ, c.smt "" = .ok out ∧ meaning chosen out = some σ ∧
      ∀ seen, c.Shown chosen seen → BanksServe σ w seen c.banks ∧ c.Serves σ w seen := by
  obtain rfl := h.width
  have hw := c.width_pos
  have definable (s : String) (hs : s ∈ c.selectors) := (declarable s hs).1
  have atoms (s : String) (hs : s ∈ c.selectors) := (definable s hs).isAtom
  have apart {s : String} (hs : s ∈ c.functionNames) : s ∉ c.selectors :=
    fun mem => (declarable s mem).2 hs
  have bankName {s : String} (hs : s ∈ bankNames 0 c.banks.length) : s ∈ c.functionNames :=
    List.mem_append_left _ hs
  have summaryName {s : String} (hs : s ∈ ["mapped", "translate"]) : s ∈ c.functionNames :=
    List.mem_append_right _ hs
  -- the declarations, the banks and the summary, one after the other
  have unused : FreeOf Scope.empty c.selectors := fun _ _ => rfl
  obtain ⟨ρ, declared, sameD, constants⟩ :=
    declarations_run hw c.nodup_selectors definable vectors unused
  obtain ⟨s, es, plain, runs⟩ := bankScripts_serve hw atoms h.banks
    (fun b hb => selectors_of_bank hb) 0 fun s hs => apart (bankName hs)
  obtain ⟨τ, run, sameB, serve⟩ := runs chosen fun s hs => sameD s (apart (bankName hs))
  have free {s : String} (hs : s ∈ ["mapped", "translate"])
      (other : s.toList.take 5 ≠ "bank_".toList) : τ s = none := by
    rw [sameB s (not_mem_bankNames other 0 _), sameD s (apart (summaryName hs))]
    rfl
  obtain ⟨σ, summarized, whole⟩ := summary_serves chosen (c := c) (free (by decide) (by decide))
    (free (by decide) (by decide))
  refine ⟨_, σ, smt_of_bankScripts es, ?_, fun seen shown => whole seen ?_⟩
  · unfold meaning
    rw [Script.read_text (plain_commands atoms plain), Option.bind_some]
    exact run_commands declared run summarized
  · intro i b hb
    have there := serve seen (provides_shown shown definable constants) i b hb
    rw [Nat.zero_add] at there
    exact there

end Component

/-! ## names that guards compare -/

mutual
theorem Guard.selectors_of_fits : ∀ g : Guard α, g.Fits w → g.selectors = []
  | .compare c, h => by
    rw [Guard.selectors]
    exact if_pos h.1
  | .negation g, h => by
    rw [Guard.selectors]
    exact Guard.selectors_of_fits g h
  | .chain c, h => by
    rw [Guard.selectors]
    exact Chain.selectors_of_fits c h

theorem Chain.selectors_of_fits : ∀ c : Chain α, c.Fits w → c.selectors = []
  | .pair a k b, h => by
    rw [Chain.selectors, Guard.selectors_of_fits a h.1, Guard.selectors_of_fits b h.2]
    rfl
  | .snoc c k b, h => by
    rw [Chain.selectors, Chain.selectors_of_fits c h.1, Guard.selectors_of_fits b h.2]
    rfl
end

theorem Translation.selectors_of_fits {t : Translation α} (h : t.Fits w) : t.selectors = [] := by
  cases t with
  | body b => rfl
  | switch first rest default =>
    have all : ∀ c ∈ first :: rest, c.Fits w := List.forall_mem_cons.mpr ⟨h.1, h.2.1⟩
    exact List.flatMap_eq_nil_iff.mpr fun c hc => Guard.selectors_of_fits c.guard (all c hc).guard

namespace Component

theorem selectors_of_fits {c : Component α} (h : c.Fits form w) : c.selectors = [] := by
  have none : (c.banks.flatMap fun b => b.translation.selectors) = [] :=
    List.flatMap_eq_nil_iff.mpr fun b hb =>
      Translation.selectors_of_fits (h.banks b hb).translation
  unfold selectors
  rw [none, List.eraseDups_nil, List.mergeSort_nil]

/-! ## the script of what is read -/

/-- the script of a component that was read has a meaning, whatever constants are chosen: on every
address of the bus the functions of each bank are its layout and its translation, `mapped` says
whether the component has a slot for the address, and `translate` gives that slot, or the address
itself where there is none -/
theorem smt_ofText {settings : Settings} {w : Nat} (hw : settings.width = .whole w) {text : String}
    {c : Component α} (h : ofText settings text = .ok c) (chosen : String → Value) :
    ∃ out σ, c.smt "" = .ok out ∧ meaning chosen out = some σ ∧
      BanksServe σ w (fun _ => Inputs.none) c.banks ∧ c.Serves σ w fun _ => Inputs.none := by
  have fits := fits_of_ofText hw h
  have noNames {P : String → Prop} : ∀ s ∈ c.selectors, P s := by
    rw [selectors_of_fits fits]
    exact List.forall_mem_nil P
  have vectors : ∀ s ∈ c.selectors, (chosen s).kind = .vector w := noNames
  obtain ⟨out, σ, printed, means, serve⟩ := script_serves fits.bounded noNames vectors
  exact ⟨out, σ, printed, means, serve _ fun a _ => ⟨rfl, noNames⟩⟩

/-- the script of the sample means what the sample does -/
theorem sample_smt :
    Settings.standard.width = .whole 64 ∧ ofText Settings.standard sampleText = .ok sample ∧
      ∃ out σ, sample.smt "" = .ok out ∧ meaning (fun _ => .bool true) out = some σ ∧
        BanksServe σ 64 (fun _ => Inputs.none) sample.banks ∧
        sample.Serves σ 64 fun _ => Inputs.none :=
  ⟨rfl, ofText_sample, smt_ofText rfl ofText_sample _⟩

end Component

end BankSwitch
