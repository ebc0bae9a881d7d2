import BankSwitch.Proofs.Smt.Values

/-!
# Running scripts

What a definition does to a scope: it binds a free name and leaves all others alone.  The names of
the functions of banks are free, and different banks have different names.
-/

namespace BankSwitch.Smt

variable {σ τ : Scope} {w : Nat} {chosen : String → Value}

/-! ## scopes -/

namespace Scope

theorem bind_self (σ : Scope) (name : String) (f : Function) : σ.bind name f name = some f :=
  if_pos rfl

theorem bind_of_ne (σ : Scope) {name other : String} (h : other ≠ name) (f : Function) :
    σ.bind name f other = σ other := if_neg h

/-- a name that a script may define, if it is not taken -/
def Definable (name : String) : Prop :=
  isSimpleSymbol name.toList = true ∧ isReserved name = false

theorem Definable.isAtom {name : String} (h : Definable name) : isAtom name.toList = true :=
  isAtom_of_isSimpleSymbol h.1

theorem Definable.lookup {name : String} (h : Definable name) : logic.lookup name = none := by
  rw [List.lookup_eq_none_iff]
  intro p hp
  by_contra he
  have same : name = p.1 := by simpa using he
  have reserved : (logic.map Prod.fst).contains name = true :=
    List.contains_iff_mem.mpr (same ▸ List.mem_map_of_mem hp)
  have free := h.2
  unfold isReserved at free
  rw [reserved, Bool.true_or] at free
  cases free

theorem free_of_none {name : String} (h : Definable name) (hσ : σ name = none) :
    σ.free name = true := by
  unfold free
  rw [h.1, h.2, hσ]
  rfl

theorem apply_of_eq {name : String} (h : Definable name) {f : Function} (hσ : σ name = some f)
    (vs : List Value) : σ.apply name vs = f vs := by
  unfold apply
  rw [h.lookup, hσ]
  rfl

end Scope

open Scope (Definable)

/-! ## names -/

theorem toList_containsName (i : Nat) :
    (containsName i).toList = "bank_".toList ++ Nat.toDigits 10 i ++ "_contains".toList := by
  have text : containsName i = "bank_" ++ Nat.repr i ++ "_contains" := rfl
  rw [text, String.toList_append, String.toList_append, Nat.toList_repr]

theorem toList_translateName (i : Nat) :
    (translateName i).toList = "bank_".toList ++ Nat.toDigits 10 i ++ "_translate".toList := by
  have text : translateName i = "bank_" ++ Nat.repr i ++ "_translate" := rfl
  rw [text, String.toList_append, String.toList_append, Nat.toList_repr]

theorem eq_of_toDigits {i j : Nat} (h : Nat.toDigits 10 i = Nat.toDigits 10 j) : i = j := by
  calc
    i = Nat.ofDigitChars 10 (Nat.toDigits 10 i) 0 := Nat.ofDigitChars_ten_toDigits.symm
    _ = Nat.ofDigitChars 10 (Nat.toDigits 10 j) 0 := by rw [h]
    _ = j := Nat.ofDigitChars_ten_toDigits

theorem containsName_injective {i j : Nat} (h : containsName i = containsName j) : i = j := by
  have lists := congrArg String.toList h
  rw [toList_containsName, toList_containsName] at lists
  exact eq_of_toDigits (List.append_cancel_left (List.append_cancel_right lists))

theorem translateName_injective {i j : Nat} (h : translateName i = translateName j) : i = j := by
  have lists := congrArg String.toList h
  rw [toList_translateName, toList_translateName] at lists
  exact eq_of_toDigits (List.append_cancel_left (List.append_cancel_right lists))

theorem containsName_ne_translateName (i j : Nat) : containsName i ≠ translateName j := by
  intro h
  have contains : "_contains".toList.getLast? = some 's' := rfl
  have translate : "_translate".toList.getLast? = some 'e' := rfl
  have last := congrArg List.getLast? (congrArg String.toList h)
  rw [toList_containsName, toList_translateName, List.getLast?_append, List.getLast?_append,
    List.getLast?_append, contains, translate, Option.some_or, Option.some_or] at last
  exact absurd last (by decide)

/-- no other name begins as those of banks do -/
theorem containsName_ne {name : String} (h : name.toList.take 5 ≠ "bank_".toList) (i : Nat) :
    name ≠ containsName i := by
  rintro rfl
  rw [toList_containsName, List.append_assoc] at h
  exact h rfl

theorem translateName_ne {name : String} (h : name.toList.take 5 ≠ "bank_".toList) (i : Nat) :
    name ≠ translateName i := by
  rintro rfl
  rw [toList_translateName, List.append_assoc] at h
  exact h rfl

theorem isReserved_take {name : String} (h : isReserved name = true) :
    name.toList.take 5 ≠ "bank_".toList := by
  have all : ∀ r ∈ logic.map Prod.fst ++ otherReserved, r.toList.take 5 ≠ "bank_".toList := by
    decide
  unfold isReserved at h
  rw [Bool.or_eq_true, List.contains_iff_mem, List.contains_iff_mem, ← List.mem_append] at h
  exact all name h

theorem definable_containsName (i : Nat) : Definable (containsName i) := by
  constructor
  · have bank : isSimpleSymbol "bank_".toList = true := rfl
    rw [toList_containsName]
    exact isSimpleSymbol_append (isSimpleSymbol_append bank (all_isAtomChar_toDigits i)) rfl
  · by_contra h
    exact containsName_ne (isReserved_take (Bool.not_eq_false _ ▸ h)) i rfl

theorem definable_translateName (i : Nat) : Definable (translateName i) := by
  constructor
  · have bank : isSimpleSymbol "bank_".toList = true := rfl
    rw [toList_translateName]
    exact isSimpleSymbol_append (isSimpleSymbol_append bank (all_isAtomChar_toDigits i)) rfl
  · by_contra h
    exact translateName_ne (isReserved_take (Bool.not_eq_false _ ▸ h)) i rfl

/-! ## definitions -/

theorem kind?_vectorSort (hw : 0 < w) : kind? (vectorSort w) = some (.vector w) := by
  have text : toString w = Nat.repr w := rfl
  unfold vectorSort kind?
  dsimp only
  rw [if_pos ⟨rfl, rfl⟩, text, Nat.toList_repr, numeral?_toDigits]
  exact if_pos hw

/-- the address under its name, in front of a scope -/
def Scope.within (σ : Scope) (w a : Nat) : Scope := σ.bind addrName (.constant (.number w a))

/-- the function of the address that an expression gives in a scope -/
def bodyFunction (σ : Scope) (w : Nat) (k : Kind) (body : Sexp) : Function :=
  .defined σ [(addrName, .vector w)] k body

theorem bodyFunction_number {k : Kind} {body : Sexp} {a : Nat} {v : Value}
    (h : body.eval (σ.within w a) = some v) (hk : v.kind = k) :
    bodyFunction σ w k body [.number w a] = some v := by
  have value : bodyFunction σ w k body [.number w a] =
      (body.eval (σ.within w a)).filter (·.kind = k) := if_pos rfl
  rw [value, h]
  exact if_pos (decide_eq_true hk)

theorem execute_definition (hw : 0 < w) {name : String} (hn : Definable name)
    (hσ : σ name = none) {k : Kind} {result : Sexp} (hk : kind? result = some k) (body : Sexp) :
    execute chosen σ (Command.definition name w result body) =
      some (σ.bind name (bodyFunction σ w k body)) := by
  have parameter : parameter? (.list [.atom addrName, vectorSort w]) =
      some (addrName, .vector w) := by
    unfold parameter?
    dsimp only
    rw [kind?_vectorSort hw]
    rfl
  have command : execute chosen σ (Command.definition name w result body) =
      define σ [.atom name, Command.parameters w, result, body] := by
    unfold Command.definition execute
    exact if_pos rfl
  have parameters : areParameters [addrName] = true := by decide
  rw [command]
  unfold define Command.parameters
  dsimp only
  rw [List.mapM_cons, parameter, hk]
  exact if_pos (by rw [Scope.free_of_none hn hσ, Bool.true_and]; exact parameters)

/-- a condition on the address, under a name -/
def Scope.withFormula (σ : Scope) (w : Nat) (name : String) (f : Formula) : Scope :=
  σ.bind name (bodyFunction σ w .bool f.sexp)

/-- a bit vector that depends on the address, under a name -/
def Scope.withTerm (σ : Scope) (w : Nat) (name : String) (t : Term) : Scope :=
  σ.bind name (bodyFunction σ w (.vector w) t.sexp)

theorem execute_formula (hw : 0 < w) {name : String} (hn : Definable name) (hσ : σ name = none)
    (f : Formula) :
    execute chosen σ (Command.definition name w (.atom "Bool") f.sexp) =
      some (σ.withFormula w name f) := execute_definition hw hn hσ rfl f.sexp

theorem execute_term (hw : 0 < w) {name : String} (hn : Definable name) (hσ : σ name = none)
    (t : Term) :
    execute chosen σ (Command.definition name w (vectorSort w) t.sexp) =
      some (σ.withTerm w name t) := execute_definition hw hn hσ (kind?_vectorSort hw) t.sexp

theorem apply_withFormula {name : String} (hn : Definable name) {f : Formula} {a : Nat} {b : Bool}
    (h : f.sexp.eval (σ.within w a) = some (.bool b)) :
    (σ.withFormula w name f).apply name [.number w a] = some (.bool b) := by
  unfold Scope.withFormula
  rw [Scope.apply_of_eq hn (σ.bind_self name _)]
  exact bodyFunction_number h rfl

theorem apply_withTerm {name : String} (hn : Definable name) {t : Term} {a n : Nat}
    (h : t.sexp.eval (σ.within w a) = some (.number w n)) :
    (σ.withTerm w name t).apply name [.number w a] = some (.number w n) := by
  unfold Scope.withTerm
  rw [Scope.apply_of_eq hn (σ.bind_self name _)]
  exact bodyFunction_number h rfl

theorem Scope.withFormula_of_ne {name other : String} (h : other ≠ name) (f : Formula) :
    σ.withFormula w name f other = σ other := σ.bind_of_ne h _

theorem Scope.withTerm_of_ne {name other : String} (h : other ≠ name) (t : Term) :
    σ.withTerm w name t other = σ other := σ.bind_of_ne h _

/-- the definitions of a bank, and those of a component -/
theorem foldlM_definitions (hw : 0 < w) {p q : String} (hp : Definable p) (hq : Definable q)
    (hne : q ≠ p) (hσp : σ p = none) (hσq : σ q = none) (f : Formula) (t : Term) :
    [Command.definition p w (.atom "Bool") f.sexp,
        Command.definition q w (vectorSort w) t.sexp].foldlM (execute chosen) σ =
      some ((σ.withFormula w p f).withTerm w q t) := by
  have free : σ.withFormula w p f q = none := (Scope.withFormula_of_ne hne f).trans hσq
  rw [List.foldlM_cons, execute_formula hw hp hσp, Option.bind_eq_bind, Option.bind_some,
    List.foldlM_cons, execute_term hw hq free]
  rfl

theorem Scope.apply_congr {name : String} (h : τ name = σ name) (vs : List Value) :
    τ.apply name vs = σ.apply name vs := by
  unfold apply
  rw [h]

/-! ## scripts -/

/-- the scope that a script leads to -/
def Script.run (chosen : String → Value) (σ : Scope) (s : Script) : Option Scope :=
  (s.flatMap Command.sexps).foldlM (execute chosen) σ

theorem Script.run_append (s t : Script) :
    run chosen σ (s ++ t) = (run chosen σ s).bind fun τ => run chosen τ t := by
  unfold run
  rw [List.flatMap_append, List.foldlM_append]
  rfl

end BankSwitch.Smt
