import BankSwitch.Proofs.Congruence
import BankSwitch.Proofs.Evaluation
import BankSwitch.Proofs.Widening

/-!
# Evaluation on a narrower bus

Sums and differences on a bus are those on a wider one, reduced; a shift is too, as long as what it
shifts is the same on both.  An address in a bank is, so a translation whose shifts stand first
(`ShiftsFirst`) gives on the narrower bus the slot on the wider one, reduced.  Guards see the same
address on both, and the banks are the same, so the same body is chosen.
-/

namespace BankSwitch

variable {α : Type} {w w' : Nat}

/-! ## wrapping -/

theorem natCast_wrap (w : Nat) (v : Int) : ((wrap w v : Nat) : Int) = v % addressCount w :=
  Int.toNat_of_nonneg (Int.emod_nonneg v (by have := addressCount_pos w; omega))

theorem addressCount_dvd (h : w ≤ w') : (addressCount w : Int) ∣ addressCount w' :=
  Int.natCast_dvd_natCast.mpr (Nat.pow_dvd_pow 2 h)

theorem wrap_mod (h : w ≤ w') (v : Int) : wrap w' v % addressCount w = wrap w v := by
  apply Int.ofNat.inj
  show ((wrap w' v % addressCount w : Nat) : Int) = (wrap w v : Nat)
  rw [Int.natCast_mod, natCast_wrap, natCast_wrap, Int.emod_emod_of_dvd v (addressCount_dvd h)]

/-! ## shifts -/

def Primitive.isShift : Primitive → Bool
  | .shiftRight _ => true
  | _ => false

/-- no shift stands behind another primitive -/
def Body.ShiftsFirst : Body α → Prop
  | .sequence _ rest => ∀ p ∈ rest, p.isShift = false
  | _ => True

/-- no shift stands behind another primitive, in any body -/
def Translation.ShiftsFirst : Translation α → Prop
  | .body b => b.ShiftsFirst
  | .switch first rest default => (∀ c ∈ first :: rest, c.body.ShiftsFirst) ∧ default.ShiftsFirst

/-! ## primitives -/

/-- the outcome on the narrower bus is that on the wider one, reduced -/
def Reduces (w : Nat) (m m' : Except (EvalError α) Nat) : Prop :=
  ∃ n, m' = .ok n ∧ m = .ok (n % addressCount w)

namespace Primitive

/-- a primitive that shifts nothing, on congruent values -/
theorem apply_reduces {p : Primitive} (hp : p.isShift = false) (hle : w ≤ w') {v v' : Int}
    (hv : v ≡ v' [ZMOD addressCount w]) :
    Reduces (α := α) w (p.apply w v) (p.apply w' v') := by
  have reduced {u u' : Int} (hu : u ≡ u' [ZMOD addressCount w]) :
      Reduces (α := α) w (.ok (wrap w u)) (.ok (wrap w' u')) :=
    ⟨_, rfl, by rw [wrap_mod hle, wrap_congr hu]⟩
  cases p with
  | noop => exact reduced hv
  | constant k => exact reduced rfl
  | add k => exact reduced (hv.add_right k)
  | subFrom k => exact reduced (hv.sub_left k)
  | sub k => exact reduced (hv.sub_right k)
  | shiftRight k => cases hp

/-- any primitive, on an address that both buses have -/
theorem apply_address {p : Primitive} (hp : p.Fits w) (hle : w ≤ w') {n : Nat}
    (hn : n < addressCount w) : Reduces (α := α) w (p.apply w n) (p.apply w' n) := by
  cases hs : p.isShift with
  | false => exact apply_reduces hs hle rfl
  | true =>
    cases p with
    | shiftRight k =>
      obtain ⟨k, rfl, -⟩ := hp
      have hn' := Nat.lt_of_lt_of_le hn (addressCount_le hle)
      have small := Nat.lt_of_le_of_lt (Nat.shiftRight_le n k) hn
      refine ⟨n >>> k, ?_, ?_⟩
      · rw [apply_shiftRight, wrap_of_lt hn']
      · rw [apply_shiftRight, wrap_of_lt hn, Nat.mod_eq_of_lt small]
    | _ => cases hs

end Primitive

/-! ## bodies and translations -/

theorem foldlM_reduces {rest : List Primitive} (hrest : ∀ p ∈ rest, p.isShift = false)
    (hle : w ≤ w') (n : Nat) :
    Reduces (α := α) w
      (rest.foldlM (fun (x : Nat) p => p.apply w x) (n % addressCount w))
      (rest.foldlM (fun (x : Nat) p => p.apply w' x) n) := by
  induction rest generalizing n with
  | nil => exact ⟨n, rfl, rfl⟩
  | cons p rest ih =>
    have congruent : ((n % addressCount w : Nat) : Int) ≡ (n : Int) [ZMOD addressCount w] := by
      rw [Int.natCast_mod]
      exact Int.mod_modEq _ _
    obtain ⟨m, e', e⟩ :=
      Primitive.apply_reduces (α := α) (hrest p List.mem_cons_self) hle congruent
    rw [List.foldlM_cons, List.foldlM_cons, e, e']
    exact ih (fun q hq => hrest q (List.mem_cons_of_mem p hq)) m

theorem Body.eval_reduces {b : Body α} (hb : b.Fits w) (hs : b.ShiftsFirst) (hle : w ≤ w')
    {n : Nat} (hn : n < addressCount w) : Reduces w (b.eval w n) (b.eval w' n) := by
  cases b with
  | primitive p => exact Primitive.apply_address hb hle hn
  | sequence first rest =>
    obtain ⟨m, e', e⟩ := Primitive.apply_address (α := α) hb.1 hle hn
    unfold Body.eval applyAll
    dsimp only
    rw [e, e']
    exact foldlM_reduces hs hle m
  | alien node => exact hb.elim

/-- a shift behind a sum that only the narrower bus wraps -/
example : (Body.sequence (.add 255) [.shiftRight 1] : Body Empty).eval 8 1 = .ok 0 ∧
    (Body.sequence (.add 255) [.shiftRight 1] : Body Empty).eval 16 1 = .ok 128 := ⟨rfl, rfl⟩

/-- guards see an address that both buses have as the same number -/
theorem guardInputs_congr (hle : w ≤ w') {n : Nat} (hn : n < addressCount w) :
    guardInputs w n Inputs.none = guardInputs w' n Inputs.none := by
  have hn' := Nat.lt_of_lt_of_le hn (addressCount_le hle)
  funext name
  unfold guardInputs Inputs.none
  dsimp only
  rw [wrap_of_lt hn, wrap_of_lt hn']

theorem mem_of_firstTrue {inputs : Inputs} {cs : List (Case α)} {i j : Nat} {b : Body α}
    (h : firstTrue inputs i cs = .ok (some (j, b))) : ∃ c ∈ cs, c.body = b := by
  induction cs generalizing i with
  | nil => cases h
  | cons c cs ih =>
    rw [firstTrue] at h
    obtain ⟨t, -, h⟩ := bind_ok h
    cases t with
    | true =>
      cases h
      exact ⟨c, List.mem_cons_self, rfl⟩
    | false =>
      obtain ⟨d, hd, hb⟩ := ih h
      exact ⟨d, List.mem_cons_of_mem c hd, hb⟩

/-- the body that an address is sent through is the same on both buses, and keeps what all bodies
of the translation have -/
theorem Translation.choose_same {t : Translation α} (ht : t.Fits w) (hs : t.ShiftsFirst)
    (hle : w ≤ w') {n : Nat} (hn : n < addressCount w) :
    ∃ k b, t.choose w n Inputs.none = .ok (k, b) ∧ t.choose w' n Inputs.none = .ok (k, b) ∧
      b.Fits w ∧ b.ShiftsFirst := by
  unfold Translation.choose
  rw [← guardInputs_congr hle hn]
  cases t with
  | body b => exact ⟨.only, b, rfl, rfl, ht, hs⟩
  | switch first rest default =>
    obtain ⟨hfirst, hrest, hdefault⟩ := ht
    obtain ⟨x, hx⟩ := guardInputs_address w n Inputs.none
    have hall : ∀ c ∈ first :: rest, c.Fits w := List.forall_mem_cons.mpr ⟨hfirst, hrest⟩
    dsimp only
    obtain e | ⟨j, b, e, hb⟩ := firstTrue_ok hx hall 0
    · rw [e]
      exact ⟨.default, default, rfl, rfl, hdefault, hs.2⟩
    · rw [e]
      obtain ⟨c, hc, rfl⟩ := mem_of_firstTrue e
      exact ⟨.case j, c.body, rfl, rfl, hb, hs.1 c hc⟩

theorem Translation.eval_reduces {t : Translation α} (ht : t.Fits w) (hs : t.ShiftsFirst)
    (hle : w ≤ w') {n : Nat} (hn : n < addressCount w) :
    Reduces w (t.eval w n Inputs.none) (t.eval w' n Inputs.none) := by
  obtain ⟨k, b, e, e', hb, hbs⟩ := t.choose_same ht hs hle hn
  unfold Translation.eval
  rw [e, e']
  exact b.eval_reduces hb hbs hle hn

/-! ## components -/

namespace Component

variable {settings settings' : Settings} {text : String}

theorem claiming?_of_select {c : Component α} {a : Int} {p : Nat × Bank α}
    (h : c.select a = .ok p) : c.claiming? a = some p := by
  unfold select at h
  split at h
  · next b hb =>
    cases h
    exact hb
  · cases h

/-- an address in a bank is one of the bus -/
theorem address_of_select {form : RangeForm} {c : Component α} (hc : c.Fits form w) {a : Int}
    {p : Nat × Bank α} (h : c.select a = .ok p) : ∃ n : Nat, a = n ∧ n < addressCount w := by
  have claimed := claiming?_of_select h
  by_cases ha : a < 0 ∨ addressCount w ≤ a
  · rw [unclaimed_iff.mp (unclaimed_outside hc ha)] at claimed
    cases claimed
  · exact ⟨a.toNat, by omega, by omega⟩

/-- of a component that fits, the error that no bank matches says that no bank does -/
theorem noBankMatch_iff {form : RangeForm} {c : Component α} (hc : c.Fits form w) {a : Int}
    {inputs : Inputs} :
    c.eval a inputs = .error (.noBankMatch a) ↔ c.Unclaimed a := by
  refine ⟨fun h => ?_, fun h => eval_of_unclaimed h inputs⟩
  by_cases hu : c.Unclaimed a
  · exact hu
  · obtain ⟨n, hn, -⟩ := eval_of_claimed hc hu inputs
    cases h.symm.trans hn

/-- the narrower of two buses finds a bank for the same addresses; and if no shift stands behind
another primitive in that bank, it finds the slot of the wider one, reduced -/
theorem eval_narrowed (hw : settings.width = .whole w) (hw' : settings'.width = .whole w')
    (form : settings'.rangeForm = settings.rangeForm)
    (host : settings'.digits = settings.digits) (hpos : 0 < w) (hle : w ≤ w')
    {c c' : Component α} (h : ofText settings text = .ok c) (h' : ofText settings' text = .ok c')
    (a : Int) :
    (c.eval a Inputs.none = .error (.noBankMatch a) ↔
        c'.eval a Inputs.none = .error (.noBankMatch a)) ∧
      c.select a = c'.select a ∧
      ∀ i b, c.select a = .ok (i, b) → b.translation.ShiftsFirst →
        ∃ n, c'.eval a Inputs.none = .ok n ∧
          c.eval a Inputs.none = .ok (n % addressCount w) := by
  obtain ⟨hcw, wide⟩ := ofText_onBus hw hw' form host hpos hle h
  cases wide.symm.trans h'
  have fits := fits_of_ofText hw h
  refine ⟨?_, rfl, fun i b hb hs => ?_⟩
  · rw [noBankMatch_iff fits, noBankMatch_iff (fits_of_ofText hw' wide)]
    exact Iff.rfl
  · have bank := fits.banks b (mem_of_claiming? (claiming?_of_select hb))
    obtain ⟨n, rfl, hn⟩ := address_of_select fits hb
    have hb' : (c.onBus w' (Nat.lt_of_lt_of_le hpos hle)).select n = .ok (i, b) := hb
    unfold eval
    rw [hb, hb', hcw]
    exact b.translation.eval_reduces bank.translation hs hle hn

/-- the sample at an address of its first bank, on 64 lines and on 128 -/
theorem sample_narrowed :
    ofText Settings.standard sampleText = .ok sample ∧
      ofText { Settings.standard with width := .whole 128 } sampleText =
        .ok (sample.onBus 128 (by decide)) ∧
      (sample.eval 3 Inputs.none = .error (.noBankMatch 3) ↔
        (sample.onBus 128 (by decide)).eval 3 Inputs.none = .error (.noBankMatch 3)) ∧
      ∃ n, (sample.onBus 128 (by decide)).eval 3 Inputs.none = .ok n ∧
        sample.eval 3 Inputs.none = .ok (n % addressCount 64) := by
  have wide : ofText { Settings.standard with width := .whole 128 } sampleText =
      .ok (sample.onBus 128 (by decide)) :=
    (@ofText_onBus Empty 64 128 Settings.standard { Settings.standard with width := .whole 128 }
      sampleText rfl rfl rfl rfl (by decide) (by decide) sample ofText_sample).2
  obtain ⟨unmatched, -, reduced⟩ :=
    @eval_narrowed Empty 64 128 Settings.standard { Settings.standard with width := .whole 128 }
      sampleText rfl rfl rfl rfl (by decide) (by decide) sample _ ofText_sample wide 3
  refine ⟨ofText_sample, wide, unmatched, reduced 0 _ rfl ?_⟩
  intro p hp
  obtain rfl := List.mem_singleton.mp hp
  rfl

end Component

end BankSwitch
