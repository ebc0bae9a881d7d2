import BankSwitch.Proofs.Fits
import BankSwitch.Proofs.Proper

/-!
# Evaluation inside the address space

What fits the bus can be evaluated: guards find the name that they compare, shifts go by no negative
number of lines, no node of a host's own is met, and every outcome is wrapped.  So a component that
was read fails at an address only if no bank claims it, and outside the address space none does
(`Component.eval_ofText`).
-/

namespace BankSwitch

variable {α : Type} {w : Nat} {form : RangeForm}

/-! ## guards -/

/-- the address is bound, whatever the host binds -/
theorem guardInputs_address (w : Nat) (v : Int) (inputs : Inputs) :
    ∃ x, guardInputs w v inputs addressName = some x := by
  unfold guardInputs
  cases inputs addressName with
  | some x => exact ⟨_, rfl⟩
  | none => exact ⟨_, if_pos rfl⟩

theorem Comparison.Fits.eval_ok {c : Comparison} (h : c.Fits w) {inputs : Inputs} {x : Int}
    (hx : inputs addressName = some x) :
    ∃ b, (c.eval inputs : Except (EvalError α) Bool) = .ok b := by
  unfold Comparison.eval
  rw [h.1, hx]
  cases c.side with
  | left => exact ⟨_, rfl⟩
  | right => exact ⟨_, rfl⟩

/-- a connective between outcomes -/
theorem Connective.join_ok {k : Connective} {left right : Except (EvalError α) Bool} {a b : Bool}
    (ha : left = .ok a) (hb : right = .ok b) :
    ∃ c, (do let l ← left; if k.settles l then return l else right) = .ok c := by
  subst ha hb
  dsimp only [ok_bind]
  split
  · exact ⟨a, rfl⟩
  · exact ⟨b, rfl⟩

mutual
theorem Guard.eval_ok {inputs : Inputs} {x : Int} (hx : inputs addressName = some x) :
    ∀ g : Guard α, g.Fits w → ∃ b, g.eval inputs = .ok b
  | .compare c, h => Comparison.Fits.eval_ok h hx
  | .negation g, h => by
    obtain ⟨b, hb⟩ := Guard.eval_ok hx g h
    exact ⟨!b, by rw [Guard.eval, hb]; rfl⟩
  | .chain c, h => by
    rw [Guard.eval]
    exact Chain.eval_ok hx c h

theorem Chain.eval_ok {inputs : Inputs} {x : Int} (hx : inputs addressName = some x) :
    ∀ c : Chain α, c.Fits w → ∃ b, c.eval inputs = .ok b
  | .pair a k b, h => by
    obtain ⟨l, hl⟩ := Guard.eval_ok hx a h.1
    obtain ⟨r, hr⟩ := Guard.eval_ok hx b h.2
    rw [Chain.eval]
    exact Connective.join_ok hl hr
  | .snoc c k b, h => by
    obtain ⟨l, hl⟩ := Chain.eval_ok hx c h.1
    obtain ⟨r, hr⟩ := Guard.eval_ok hx b h.2
    rw [Chain.eval]
    exact Connective.join_ok hl hr
end

/-! ## translations -/

theorem Primitive.apply_shiftRight (v : Int) (n : Nat) :
    ((shiftRight n).apply w v : Except (EvalError α) Nat) = .ok (wrap w v >>> n) := by
  have hn : ¬ (n : Int) < 0 := by omega
  dsimp only [apply]
  rw [if_neg hn, Int.toNat_natCast]

/-- numbers on the bus are no negative counts -/
theorem Primitive.Fits.proper {p : Primitive} (h : p.Fits w) : p.Proper := by
  cases p with
  | shiftRight k =>
    obtain ⟨n, rfl, -⟩ := h
    exact Int.natCast_nonneg n
  | _ => exact trivial

theorem Body.Fits.proper {b : Body α} (h : b.Fits w) : b.Proper := by
  cases b with
  | primitive p => exact Primitive.Fits.proper h
  | sequence first rest => exact ⟨Primitive.Fits.proper h.1, fun p hp => (h.2 p hp).proper⟩
  | alien node => exact h.elim

theorem Body.eval_ok {b : Body α} (h : b.Fits w) (v : Int) :
    ∃ n, b.eval w v = .ok n ∧ n < addressCount w :=
  (Body.Fits.proper h).eval_ok v

/-- of cases that fit, all or none of the guards are false, and a body that is chosen fits -/
theorem firstTrue_ok {inputs : Inputs} {x : Int} (hx : inputs addressName = some x)
    {cs : List (Case α)} (h : ∀ c ∈ cs, c.Fits w) (i : Nat) :
    firstTrue inputs i cs = .ok none ∨
      ∃ j b, firstTrue inputs i cs = .ok (some (j, b)) ∧ b.Fits w := by
  induction cs generalizing i with
  | nil => exact .inl rfl
  | cons c cs ih =>
    obtain ⟨b, hb⟩ := Guard.eval_ok hx c.guard (h c List.mem_cons_self).guard
    rw [firstTrue, hb]
    cases b with
    | true => exact .inr ⟨i, c.body, rfl, (h c List.mem_cons_self).body⟩
    | false => exact ih (fun d hd => h d (List.mem_cons_of_mem c hd)) (i + 1)

theorem Translation.eval_ok {t : Translation α} (h : t.Fits w) (v : Int) (inputs : Inputs) :
    ∃ n, t.eval w v inputs = .ok n ∧ n < addressCount w := by
  unfold Translation.eval Translation.choose
  cases t with
  | body b => exact Body.eval_ok h v
  | switch first rest default =>
    obtain ⟨hfirst, hrest, hdefault⟩ := h
    obtain ⟨x, hx⟩ := guardInputs_address w v inputs
    have hall : ∀ c ∈ first :: rest, c.Fits w := by
      intro c hc
      obtain rfl | hc := List.mem_cons.mp hc
      · exact hfirst
      · exact hrest c hc
    obtain e | ⟨j, b, e, hb⟩ := firstTrue_ok hx hall 0
    · dsimp only
      rw [e]
      exact Body.eval_ok hdefault v
    · dsimp only
      rw [e]
      exact Body.eval_ok hb v

/-! ## components -/

theorem Range.Fits.not_contains {r : Range} (h : r.Fits form w) {a : Int}
    (ha : a < 0 ∨ addressCount w ≤ a) : r.contains a = false := by
  have hstop := h.stop
  unfold Range.contains
  rw [Bool.and_eq_false_iff, Bool.and_eq_false_iff, decide_eq_false_iff_not,
    decide_eq_false_iff_not]
  omega

namespace Component

theorem claiming?_eq_none {c : Component α} {a : Int} :
    c.claiming? a = none ↔ ∀ b ∈ c.banks, b.layout.contains a = false := by
  unfold claiming?
  rw [Option.map_eq_none_iff, List.find?_eq_none]
  constructor
  · intro h b hb
    obtain ⟨i, hi⟩ := List.mem_iff_getElem?.mp hb
    exact Bool.eq_false_iff.mpr (h (b, i) (List.mk_mem_zipIdx_iff_getElem?.mpr hi))
  · intro h b hb
    rw [h b.1 (List.fst_mem_of_mem_zipIdx hb)]
    decide

theorem mem_of_claiming? {c : Component α} {a : Int} {i : Nat} {b : Bank α}
    (h : c.claiming? a = some (i, b)) : b ∈ c.banks := by
  unfold claiming? at h
  obtain ⟨p, hp, e⟩ := Option.map_eq_some_iff.mp h
  cases e
  exact List.fst_mem_of_mem_zipIdx (List.mem_of_find?_eq_some hp)

/-- no range of any bank holds the address -/
def Unclaimed (c : Component α) (a : Int) : Prop :=
  ∀ b ∈ c.banks, ∀ r ∈ b.layout.ranges, r.contains a = false

theorem unclaimed_iff {c : Component α} {a : Int} : c.Unclaimed a ↔ c.claiming? a = none := by
  rw [claiming?_eq_none]
  unfold Unclaimed Partition.contains
  simp only [List.any_eq_false, Bool.not_eq_true]

theorem eval_of_unclaimed {c : Component α} {a : Int} (h : c.Unclaimed a) (inputs : Inputs) :
    c.eval a inputs = .error (.noBankMatch a) := by
  unfold eval select
  rw [unclaimed_iff.mp h]
  rfl

theorem claimed_bank (c : Component α) (a : Int) :
    (c.claiming? a).map Prod.snd = c.banks.find? fun b => b.layout.contains a := by
  have found : (c.banks.zipIdx.map Prod.fst).find? (fun b => b.layout.contains a) =
      (c.banks.zipIdx.find? fun p => p.1.layout.contains a).map Prod.fst := List.find?_map ..
  rw [List.zipIdx_map_fst] at found
  unfold claiming?
  rw [Option.map_map, found]
  rfl

theorem eval_of_find? {c : Component α} {a : Int} {b : Bank α}
    (h : (c.banks.find? fun b => b.layout.contains a) = some b) (inputs : Inputs) :
    c.eval a inputs = b.translation.eval c.width a inputs := by
  rw [← claimed_bank] at h
  obtain ⟨p, hp, rfl⟩ := Option.map_eq_some_iff.mp h
  unfold eval select
  rw [hp]
  rfl

theorem eval_of_find?_none {c : Component α} {a : Int}
    (h : (c.banks.find? fun b => b.layout.contains a) = none) (inputs : Inputs) :
    c.eval a inputs = .error (.noBankMatch a) := by
  rw [← claimed_bank, Option.map_eq_none_iff] at h
  exact eval_of_unclaimed (unclaimed_iff.mpr h) inputs

theorem eval_of_claimed {c : Component α} (hc : c.Fits form w) {a : Int}
    (h : ¬ c.Unclaimed a) (inputs : Inputs) :
    ∃ n, c.eval a inputs = .ok n ∧ n < addressCount w := by
  cases hb : c.claiming? a with
  | none => exact absurd (unclaimed_iff.mpr hb) h
  | some p =>
    obtain ⟨i, b⟩ := p
    have fits := hc.banks b (mem_of_claiming? hb)
    unfold eval select
    rw [hb, hc.width]
    exact Translation.eval_ok fits.translation a inputs

theorem unclaimed_outside {c : Component α} (hc : c.Fits form w) {a : Int}
    (ha : a < 0 ∨ addressCount w ≤ a) : c.Unclaimed a :=
  fun b hb r hr => ((hc.banks b hb).layout r hr).not_contains ha

/-- a component that was read has a slot on the bus for every address in its banks, and for every
other one the error that no bank matches; addresses outside the bus are all of the second kind -/
theorem eval_ofText {settings : Settings} {w : Nat} (hw : settings.width = .whole w)
    {text : String} {c : Component α} (h : ofText settings text = .ok c) (a : Int)
    (inputs : Inputs) :
    ((∃ n, c.eval a inputs = .ok n ∧ n < addressCount w) ∨
        c.eval a inputs = .error (.noBankMatch a)) ∧
      (c.eval a inputs = .error (.noBankMatch a) ↔
        ∀ b ∈ c.banks, ∀ r ∈ b.layout.ranges, r.contains a = false) ∧
      (a < 0 ∨ addressCount w ≤ a → c.eval a inputs = .error (.noBankMatch a)) := by
  have hc := fits_of_ofText hw h
  refine ⟨?_, ⟨?_, fun hu => eval_of_unclaimed hu inputs⟩, ?_⟩
  · by_cases hu : c.Unclaimed a
    · exact .inr (eval_of_unclaimed hu inputs)
    · exact .inl (eval_of_claimed hc hu inputs)
  · intro he
    by_cases hu : c.Unclaimed a
    · exact hu
    · obtain ⟨n, hn, -⟩ := eval_of_claimed hc hu inputs
      rw [hn] at he
      cases he
  · intro ha
    exact eval_of_unclaimed (unclaimed_outside hc ha) inputs

/-- the sample at an address of its first bank, and at one outside the bus -/
theorem sample_eval :
    Settings.standard.width = .whole 64 ∧ ofText Settings.standard sampleText = .ok sample ∧
      ((∃ n, sample.eval 3 Inputs.none = .ok n ∧ n < addressCount 64) ∨
        sample.eval 3 Inputs.none = .error (.noBankMatch 3)) ∧
      sample.eval (-1) Inputs.none = .error (.noBankMatch (-1)) :=
  ⟨rfl, ofText_sample, (eval_ofText rfl ofText_sample 3 Inputs.none).1,
    (eval_ofText rfl ofText_sample (-1) Inputs.none).2.2 (.inl (by decide))⟩

end Component

end BankSwitch
