import BankSwitch.Proofs.Faults
import BankSwitch.Proofs.Numbering
import BankSwitch.Proofs.Summary

/-!
# Reading back from slots

A bank can be read at an address if the slot of the address is its place in the list of the layout's
addresses (`Bank.canRead_iff`).  So different addresses that can be read have different slots, and all
of them are in the layout.  The layouts of a component that was read end on the bus, so a trace that
such a component serves asks for addresses of the bus only, translation wrapping the others or not
(`readback`).
-/

namespace BankSwitch

variable {α : Type} {w : Nat} {form : RangeForm}

/-! ## banks -/

namespace Partition

/-- the address in place number `s` of the list -/
def Holds (p : Partition) (s : Nat) (a : Int) : Prop :=
  s < p.size ∧ ∃ n : Nat, a = n ∧ p.addresses[s]? = some n

variable {p : Partition} {s : Nat} {a a' : Int}

theorem holds_iff : p.Holds s a ↔ ∃ n : Nat, a = n ∧ p.addresses[s]? = some n := by
  unfold Holds
  rw [p.numbers.size_eq]
  refine and_iff_right_of_imp ?_
  rintro ⟨n, -, place⟩
  exact (List.getElem?_eq_some_iff.mp place).1

theorem Holds.contains (h : p.Holds s a) : p.contains a = true := by
  obtain ⟨n, rfl, place⟩ := holds_iff.mp h
  exact p.contains_iff_mem.mpr ⟨n, List.mem_of_getElem? place, rfl⟩

theorem Holds.unique (h : p.Holds s a) (h' : p.Holds s a') : a = a' := by
  obtain ⟨n, rfl, place⟩ := holds_iff.mp h
  obtain ⟨m, rfl, place'⟩ := holds_iff.mp h'
  exact congrArg _ (Option.some.inj (place.symm.trans place'))

/-- where no address is in two ranges, the place of an address is its number -/
theorem Apart.holds_iff (apart : p.Apart) : p.Holds s a ↔ p.indexOf? a = some s := by
  rw [Partition.holds_iff]
  constructor
  · rintro ⟨n, rfl, place⟩
    exact p.numbers.index_get apart.nodup s n ((p.get?_natCast s).trans place)
  · intro number
    obtain ⟨n, rfl, place⟩ := p.numbers.get_index a s number
    exact ⟨n, rfl, (p.get?_natCast s).symm.trans place⟩

end Partition

namespace Bank

variable {b : Bank α} {a a' : Int} {s : Nat}

theorem canRead_eq (h : b.translation.eval w a Inputs.none = .ok s) :
    b.canRead w a = .ok ((b.layout.addresses[s]?).any fun x : Nat => decide ((x : Int) = a)) := by
  unfold canRead
  rw [h, ← b.layout.get?_natCast, ok_bind]
  cases b.layout.get? s with
  | none => rfl
  | some x => rfl

/-- a bank finds an address again if the slot of the address is its place in the layout -/
theorem canRead_iff (h : b.translation.eval w a Inputs.none = .ok s) :
    b.canRead w a = .ok true ↔ b.layout.Holds s a := by
  rw [canRead_eq h, Partition.holds_iff, Except.ok.injEq, Option.any_eq_true]
  simp only [decide_eq_true_eq, eq_comm (a := a), and_comm]

theorem slot_of_canRead (h : b.canRead w a = .ok true) :
    ∃ s, b.translation.eval w a Inputs.none = .ok s ∧ b.layout.Holds s a := by
  obtain ⟨s, slot, -⟩ := bind_ok h
  exact ⟨s, slot, (canRead_iff slot).mp h⟩

theorem contains_of_canRead (h : b.canRead w a = .ok true) : b.layout.contains a = true := by
  obtain ⟨s, -, holds⟩ := slot_of_canRead h
  exact holds.contains

/-- what it comes to that a bank on `w` lines finds addresses again -/
structure ReadsBack (w : Nat) (b : Bank α) : Prop where
  /-- an address with a slot can be read or cannot -/
  decided {a : Int} {s : Nat} : b.translation.eval w a Inputs.none = .ok s →
    ∃ readable, b.canRead w a = .ok readable
  exact {a : Int} {s : Nat} : b.translation.eval w a Inputs.none = .ok s →
    (b.canRead w a = .ok true ↔
      s < b.layout.size ∧ ∃ n : Nat, a = n ∧ b.layout.addresses[s]? = some n)
  contained {a : Int} : b.canRead w a = .ok true → b.layout.contains a = true
  apart {a a' : Int} : b.canRead w a = .ok true → b.canRead w a' = .ok true → a ≠ a' →
    ∃ s s', b.translation.eval w a Inputs.none = .ok s ∧
      b.translation.eval w a' Inputs.none = .ok s' ∧ s ≠ s'
  /-- where no address is in two ranges -/
  number {a : Int} {s : Nat} : b.layout.Apart → b.translation.eval w a Inputs.none = .ok s →
    (b.canRead w a = .ok true ↔ b.layout.indexOf? a = some s)

theorem readsBack (w : Nat) (b : Bank α) : b.ReadsBack w where
  decided slot := ⟨_, canRead_eq slot⟩
  exact := canRead_iff
  contained := contains_of_canRead
  apart h h' different := by
    obtain ⟨s, slot, holds⟩ := slot_of_canRead h
    obtain ⟨s', slot', holds'⟩ := slot_of_canRead h'
    refine ⟨s, s', slot, slot', ?_⟩
    rintro rfl
    exact different (holds.unique holds')
  number apart slot := (canRead_iff slot).trans apart.holds_iff

/-- a bank that ends on the bus is read at addresses of the bus only -/
theorem Fits.lt_of_canRead (h : b.Fits form w) {n : Nat} (read : b.canRead w n = .ok true) :
    n < addressCount w := by
  obtain ⟨r, hr, reaches⟩ := b.layout.contains_iff.mp (contains_of_canRead read)
  obtain inside | outside := Nat.lt_or_ge n (addressCount w)
  · exact inside
  · have missed := (h.layout r hr).not_contains (a := n) (.inr (by omega))
    rw [r.contains_iff.mpr reaches] at missed
    cases missed

end Bank

/-! ## components -/

namespace Component

variable {c : Component α}

/-- what a component serves is read from the bank of the port -/
theorem canRead_of_verify (h : c.Fits form w) {t : Trace} (served : c.verify t = .ok []) {q : Request}
    (asked : t.Asks q) : ∃ b ∈ c.banks, b.canRead c.width q.address = .ok true := by
  rw [verify_eq h, Except.ok.injEq, List.filterMap_eq_nil_iff] at served
  have met : ∀ v, v.request = q → ¬ c.Refuses v := by
    intro v hv refused
    have verdict := served q (Trace.mem_requests.mpr asked)
    rw [(verdict_eq_some h).mpr ⟨hv, refused⟩] at verdict
    cases verdict
  obtain inside | behind := Nat.lt_or_ge q.port c.banks.length
  · have bank := List.getElem?_eq_getElem inside
    have member := List.mem_of_getElem? bank
    obtain ⟨readable, read⟩ := (h.banks _ member).canRead_ok q.address
    rw [← h.width] at read
    cases readable with
    | true => exact ⟨_, member, read⟩
    | false => exact absurd (.unreadable bank read) (met ⟨q, _⟩ rfl)
  · exact absurd (.noBank behind) (met ⟨q, _⟩ rfl)

theorem address_of_verify (h : c.Fits form w) {t : Trace} (served : c.verify t = .ok []) {q : Request}
    (asked : t.Asks q) : q.address < addressCount c.width := by
  obtain ⟨b, hb, read⟩ := canRead_of_verify h served asked
  rw [h.width] at read ⊢
  exact (h.banks b hb).lt_of_canRead read

end Component

/-- banks are read exactly at the addresses that lie in their own slots, none of them in the slot of
another; and a trace that a component that was read serves asks for addresses of its bus only -/
theorem readback :
    (∀ (w : Nat) (b : Bank α), b.ReadsBack w) ∧
    ∀ (settings : Settings) (text : String) (c : Component α) (t : Trace),
      Component.ofText settings text = .ok c → c.verify t = .ok [] →
        (∀ q, t.Asks q → q.address < addressCount c.width) ∧ t.bitsRequired ≤ c.width := by
  refine ⟨Bank.readsBack, fun settings text c t read served => ?_⟩
  obtain ⟨w, hw⟩ := Component.width_of_ofText read
  have fits := Component.fits_of_ofText hw read
  have below : ∀ q, t.Asks q → q.address < addressCount c.width :=
    fun q asked => Component.address_of_verify fits served asked
  exact ⟨below, t.bitsRequired_le_iff.mpr ⟨c.width_pos, below⟩⟩

/-- a bank that numbers its addresses by their distance from the first -/
def basedText : String :=
  "memory<1, 1> \x7b bank \x7b layout: [4:8] translation: INPUT - 4 \x7d \x7d"

def based : Component Empty where
  paramA := 1
  paramB := 1
  banks := [⟨.single ⟨4, 8, none, by decide, Nat.one_pos⟩, .body (.primitive (.sub 4))⟩]
  width := Component.sample.width
  nonempty := List.cons_ne_nil _ _
  width_pos := Component.sample.width_pos

/-- a bank with interleaved ranges, and a trace that is served -/
theorem readback_based :
    ((⟨.interleaved, .body (.primitive (.add 3))⟩ : Bank Empty).canRead 8 1 = .ok true ↔
        Partition.interleaved.indexOf? 1 = some 4) ∧
      Component.ofText Settings.standard basedText = .ok based ∧
      based.verify ⟨[[some 5], [none], [some 7]]⟩ = .ok [] ∧
      Trace.bitsRequired ⟨[[some 5], [none], [some 7]]⟩ ≤ 64 := by
  obtain ⟨banks, traces⟩ := readback (α := Empty)
  have read : Component.ofText Settings.standard basedText = .ok based :=
    ok_of_toOption (by decide +kernel)
  have served : based.verify ⟨[[some 5], [none], [some 7]]⟩ = .ok [] := ok_of_toOption (by decide)
  exact ⟨(banks 8 _).number (s := 4) (by decide) rfl, read, served, (traces _ _ _ _ read served).2⟩

end BankSwitch
