import BankSwitch.Proofs.Smt.Agreement
import BankSwitch.Proofs.Smt.Run

/-!
# Scripts of banks

Running the definitions of bounded banks: bank after bank, a claim and a translation come into scope
that agree with the evaluator, and stay.  Constants under the names that guards speak of have to be
in scope before, and none of them may have the name of such a function (`bankScripts_serve`).
-/

namespace BankSwitch

open Smt Smt.Scope

variable {α : Type} {w : Nat} {σ τ ρ : Scope} {chosen : String → Value} {names : List String}
  {seen : Nat → Inputs}

/-! ## the names of banks -/

/-- the names of the functions of `n` banks from `i` on -/
def bankNames (i : Nat) : Nat → List String
  | 0 => []
  | n + 1 => containsName i :: translateName i :: bankNames (i + 1) n

theorem bankNames_succ (i n : Nat) : bankNames i (n + 1) = bankNames i 1 ++ bankNames (i + 1) n := rfl

theorem mem_bankNames {i n : Nat} {name : String} (h : name ∈ bankNames i n) :
    ∃ j, i ≤ j ∧ (name = containsName j ∨ name = translateName j) := by
  induction n generalizing i with
  | zero => cases h
  | succ n ih =>
    rw [bankNames, List.mem_cons, List.mem_cons] at h
    obtain rfl | rfl | h := h
    · exact ⟨i, Nat.le_refl i, .inl rfl⟩
    · exact ⟨i, Nat.le_refl i, .inr rfl⟩
    · obtain ⟨j, hj, names⟩ := ih h
      exact ⟨j, Nat.le_of_succ_le hj, names⟩

theorem containsName_not_mem {i j : Nat} (hj : j < i) (n : Nat) :
    containsName j ∉ bankNames i n := by
  intro h
  obtain ⟨k, hk, same | same⟩ := mem_bankNames h
  · have := containsName_injective same
    omega
  · exact containsName_ne_translateName j k same

theorem translateName_not_mem {i j : Nat} (hj : j < i) (n : Nat) :
    translateName j ∉ bankNames i n := by
  intro h
  obtain ⟨k, hk, same | same⟩ := mem_bankNames h
  · exact containsName_ne_translateName k j same.symm
  · have := translateName_injective same
    omega

/-- the names of a bank are not those of later ones -/
theorem bankNames_apart {i : Nat} {name : String} (h : name ∈ bankNames i 1) (n : Nat) :
    name ∉ bankNames (i + 1) n := by
  obtain rfl | rfl : name = containsName i ∨ name = translateName i := List.mem_pair.mp h
  · exact containsName_not_mem (Nat.lt_succ_self i) n
  · exact translateName_not_mem (Nat.lt_succ_self i) n

/-- no other name is one of a bank -/
theorem not_mem_bankNames {name : String} (h : name.toList.take 5 ≠ "bank_".toList) (i n : Nat) :
    name ∉ bankNames i n := by
  intro mem
  obtain ⟨j, -, same | same⟩ := mem_bankNames mem
  · exact containsName_ne h j same
  · exact translateName_ne h j same

/-! ## scopes that differ in some names -/

/-- none of the names has a function -/
def FreeOf (σ : Scope) (names : List String) : Prop := ∀ s ∈ names, σ s = none

/-- the second scope has the same functions as the first under all names but the given ones -/
def SameBut (names : List String) (σ τ : Scope) : Prop := ∀ s, s ∉ names → τ s = σ s

theorem SameBut.refl (names : List String) (σ : Scope) : SameBut names σ σ := fun _ _ => rfl

/-- one change, and then another -/
theorem SameBut.trans {ms ns : List String} (h : SameBut ms σ τ) (h' : SameBut ns τ ρ) :
    SameBut (ms ++ ns) σ ρ := by
  intro s hs
  rw [List.mem_append, not_or] at hs
  rw [h' s hs.2, h s hs.1]

/-- names stay free where others change -/
theorem FreeOf.of_same {ms ns : List String} (free : FreeOf σ ns) (same : SameBut ms σ τ)
    (apart : ∀ s ∈ ns, s ∉ ms) : FreeOf τ ns :=
  fun s hs => (same s (apart s hs)).trans (free s hs)

/-! ## constants -/

/-- the functions of the address find constants under the names, of the values that `seen` gives -/
def Provides (σ : Scope) (names : List String) (w : Nat) (seen : Nat → Inputs) : Prop :=
  ∀ a < addressCount w, (σ.within w a).Supplies names w a (seen a)

theorem Provides.of_eq (h : Provides σ names w seen) (same : ∀ s ∈ names, τ s = σ s) :
    Provides τ names w seen := by
  intro a ha
  refine ⟨τ.bind_self addrName _, (h a ha).unbound, fun s hs => ?_⟩
  obtain ⟨v, bound, constant⟩ := (h a ha).constants s hs
  have within : τ.within w a s = σ.within w a s := by
    unfold within Scope.bind
    rw [same s hs]
  exact ⟨v, bound, (apply_congr within []).trans constant⟩

/-! ## comments -/

/-- no line break in the text -/
abbrev InLine (text : String) : Prop := text.toList.all (!isLineBreak ·) = true

theorem InLine.append {t u : String} (ht : InLine t) (hu : InLine u) : InLine (t ++ u) := by
  unfold InLine at *
  rw [String.toList_append, List.all_append, ht, hu]
  rfl

theorem inLine_repr (n : Nat) : InLine (Nat.repr n) := by
  unfold InLine
  rw [Nat.toList_repr, List.all_eq_true]
  intro c hc
  have atom := List.all_eq_true.mp (all_isAtomChar_toDigits n) c hc
  unfold isLineBreak
  rw [Bool.not_eq_true', Bool.or_eq_false_iff, decide_eq_false_iff_not, decide_eq_false_iff_not]
  constructor
  · rintro rfl
    cases atom
  · rintro rfl
    cases atom

theorem plain_bankComment (i : Nat) : (Command.comment s!"Bank {i}").Plain := by
  have text : s!"Bank {i}" = "Bank " ++ Nat.repr i := rfl
  have words : InLine "Bank " := rfl
  unfold Command.Plain
  rw [text]
  exact words.append (inLine_repr i)

/-! ## the functions of banks -/

/-- in the scope, the functions numbered `i` are those of the bank; `seen` gives the values that guards
find under names at each address -/
def Bank.Serves (σ : Scope) (w : Nat) (seen : Nat → Inputs) (i : Nat) (b : Bank α) : Prop :=
  ∀ a < addressCount w,
    σ.apply (containsName i) [.number w a] = some (.bool (b.layout.contains a)) ∧
      ∃ n, b.translation.eval w a (seen a) = .ok n ∧ n < addressCount w ∧
        σ.apply (translateName i) [.number w a] = some (.number w n)

theorem Bank.Serves.of_eq {i : Nat} {b : Bank α} (h : b.Serves σ w seen i)
    (hc : τ (containsName i) = σ (containsName i))
    (ht : τ (translateName i) = σ (translateName i)) : b.Serves τ w seen i := by
  intro a ha
  rw [apply_congr hc, apply_congr ht]
  exact h a ha

/-- the functions of a bank stay where only other names change -/
theorem Bank.Serves.of_same {ns : List String} {i : Nat} {b : Bank α} (h : b.Serves σ w seen i)
    (same : SameBut ns σ τ) (apart : ∀ s ∈ bankNames i 1, s ∉ ns) : b.Serves τ w seen i :=
  h.of_eq (same _ (apart _ List.mem_cons_self))
    (same _ (apart _ (List.mem_cons_of_mem _ List.mem_cons_self)))

/-- the definitions of a bank, with its formula and its term -/
def bankCommands (w i : Nat) (f : Formula) (t : Term) : Script :=
  [.comment s!"Bank {i}", .defineFormula (containsName i) w f, .defineTerm (translateName i) w t,
    .blank]

theorem Bank.script_eq {b : Bank α} {i : Nat} {f : Formula} {t : Term}
    (hf : (b.layout.formula w : Except (EvalError α) Formula) = .ok f)
    (ht : b.translation.smtTerm w = .ok t) : b.script w i = .ok (bankCommands w i f t) := by
  unfold script
  rw [hf, ok_bind, ht]
  rfl

theorem bankScripts_cons {b : Bank α} {bs : List (Bank α)} {i : Nat} {f : Formula} {t : Term}
    {more : Script} (hf : (b.layout.formula w : Except (EvalError α) Formula) = .ok f)
    (ht : b.translation.smtTerm w = .ok t) (em : bankScripts w (i + 1) bs = .ok more) :
    bankScripts w i (b :: bs) = .ok (bankCommands w i f t ++ more) := by
  rw [bankScripts, Bank.script_eq hf ht, ok_bind, em]
  rfl

theorem plain_bankCommands {f : Formula} {t : Term} (hf : f.sexp.Plain) (ht : t.sexp.Plain)
    (i : Nat) : ∀ c ∈ bankCommands w i f t, c.Plain := by
  unfold bankCommands
  simp only [List.forall_mem_cons, List.not_mem_nil, false_implies, implies_true, and_true]
  exact ⟨plain_bankComment i, ⟨(definable_containsName i).isAtom, hf⟩,
    ⟨(definable_translateName i).isAtom, ht⟩, trivial⟩

/-- the definitions of a bank bring its functions into scope -/
theorem Bank.serves_run (hw : 0 < w) {b : Bank α} {f : Formula} {t : Term}
    (hf : f.Agrees w fun a => (.ok (b.layout.contains a) : Except (EvalError α) Bool))
    (ht : t.AgreesOn names w fun inputs a => b.translation.eval w a inputs) {i : Nat}
    (apart : ∀ s ∈ bankNames i 1, s ∉ names) (free : FreeOf σ (bankNames i 1)) :
    ∃ τ, Script.run chosen σ (bankCommands w i f t) = some τ ∧ SameBut (bankNames i 1) σ τ ∧
      ∀ seen, Provides σ names w seen → b.Serves τ w seen i := by
  have ne := containsName_ne_translateName i i
  have hc := definable_containsName i
  obtain ⟨freec, freet, -⟩ := (List.forall_mem_cons.mp free).imp id List.forall_mem_cons.mp
  refine ⟨(σ.withFormula w (containsName i) f).withTerm w (translateName i) t,
    foldlM_definitions hw hc (definable_translateName i) ne.symm freec freet f t, ?_, ?_⟩
  · intro name hn
    obtain ⟨hnc, hnt⟩ := not_or.mp (mt List.mem_pair.mpr hn)
    rw [withTerm_of_ne hnt, withFormula_of_ne hnc]
  · intro seen hσ a ha
    have other (s : String) (hs : s ∈ names) : s ≠ containsName i :=
      fun e => apart _ List.mem_cons_self (e ▸ hs)
    have later : Provides (σ.withFormula w (containsName i) f) names w seen :=
      hσ.of_eq fun s hs => withFormula_of_ne (other s hs) f
    obtain ⟨b', eb, vb⟩ := hf.eval (σ := σ.within w a) ha (σ.bind_self addrName _)
    cases eb
    obtain ⟨n, en, hn, vn⟩ := ht.eval ha (later a ha)
    refine ⟨?_, n, en, hn, apply_withTerm (definable_translateName i) vn⟩
    rw [apply_congr (withTerm_of_ne ne t)]
    exact apply_withFormula hc vb

/-- the definitions of banks numbered from `i` run where their names are free, and bring their functions
into scope for all constants that are in it before -/
theorem bankScripts_serve (hw : 0 < w) (atoms : ∀ s ∈ names, isAtom s.toList = true)
    {bs : List (Bank α)} (h : ∀ b ∈ bs, b.Bounded w)
    (hs : ∀ b ∈ bs, b.translation.selectors ⊆ names) (i : Nat)
    (apart : ∀ s ∈ bankNames i bs.length, s ∉ names) :
    ∃ s, bankScripts w i bs = .ok s ∧ (∀ c ∈ s, c.Plain) ∧
      ∀ (chosen : String → Value) {σ : Scope}, FreeOf σ (bankNames i bs.length) →
        ∃ τ, Script.run chosen σ s = some τ ∧ SameBut (bankNames i bs.length) σ τ ∧
          ∀ seen, Provides σ names w seen →
            ∀ (j : Nat) (b : Bank α), bs[j]? = some b → b.Serves τ w seen (i + j) := by
  induction bs generalizing i with
  | nil =>
    refine ⟨[], rfl, List.forall_mem_nil _, fun chosen σ _ => ⟨σ, rfl, .refl _ σ, ?_⟩⟩
    rintro seen - j b ⟨⟩
  | cons b bs ih =>
    have hb := h b List.mem_cons_self
    rw [List.length_cons, bankNames_succ] at apart ⊢
    obtain ⟨apartHere, apartRest⟩ := List.forall_mem_append.mp apart
    obtain ⟨f, ef, hf⟩ := Partition.formula_agrees (α := α) hw hb.layout
    obtain ⟨t, et, ht⟩ :=
      Translation.smtTerm_agrees hw atoms hb.translation (hs b List.mem_cons_self)
    obtain ⟨more, em, plain, runs⟩ := ih (fun d hd => h d (List.mem_cons_of_mem b hd))
      (fun d hd => hs d (List.mem_cons_of_mem b hd)) (i + 1) apartRest
    refine ⟨bankCommands w i f t ++ more, bankScripts_cons ef et em,
      List.forall_mem_append.mpr ⟨plain_bankCommands hf.plain ht.plain i, plain⟩, ?_⟩
    intro chosen σ free
    obtain ⟨freeHere, freeRest⟩ := List.forall_mem_append.mp free
    obtain ⟨τ, run, same, serves⟩ := Bank.serves_run hw hf ht apartHere freeHere
    have stillFree : FreeOf τ (bankNames (i + 1) bs.length) :=
      FreeOf.of_same freeRest same fun s rest here => bankNames_apart here _ rest
    obtain ⟨ρ, run', same', serve'⟩ := runs chosen stillFree
    refine ⟨ρ, ?_, same.trans same', fun seen hσ j b' hj => ?_⟩
    · rw [Script.run_append, run]
      exact run'
    · have later : Provides τ names w seen :=
        hσ.of_eq fun s hs => same s fun here => apartHere s here hs
      cases j with
      | zero =>
        cases hj
        exact (serves seen hσ).of_same same' fun s here => bankNames_apart here _
      | succ j =>
        have shifted := serve' seen later j b' hj
        rw [Nat.add_right_comm] at shifted
        exact shifted

end BankSwitch
