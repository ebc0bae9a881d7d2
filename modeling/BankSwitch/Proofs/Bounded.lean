import BankSwitch.Proofs.Fits

/-!
# Numbers on the bus

A part is bounded if the numbers in it are on the bus and no node of a host's own stands in it.
Unlike a part that fits, it may hold a range that no text can say, and guards on any name.  So this
is what can be asked of a component that a host has put together.
-/

namespace BankSwitch

variable {α : Type} {w : Nat} {form : RangeForm}

/-! ## the bounds -/

/-- the range starts on the bus and ends on it at the latest, and its stride is a number on it -/
structure Range.Bounded (w : Nat) (r : Range) : Prop where
  start : r.start < addressCount w
  stop : r.stop ≤ addressCount w
  stride : ∀ k, r.stride = some k → k < addressCount w

def Partition.Bounded (w : Nat) (p : Partition) : Prop := ∀ r ∈ p.ranges, r.Bounded w

mutual
/-- guards on any name, with literals on the bus -/
def Guard.Bounded (w : Nat) : Guard α → Prop
  | .compare c => OnBus w c.literal
  | .negation g => g.Bounded w
  | .chain c => c.Bounded w
  | .alien _ => False

def Chain.Bounded (w : Nat) : Chain α → Prop
  | .pair a _ b => a.Bounded w ∧ b.Bounded w
  | .snoc c _ b => c.Bounded w ∧ b.Bounded w
end

structure Case.Bounded (w : Nat) (c : Case α) : Prop where
  guard : c.guard.Bounded w
  body : c.body.Fits w

def Translation.Bounded (w : Nat) : Translation α → Prop
  | .body b => b.Fits w
  | .switch first rest default => (∀ c ∈ first :: rest, c.Bounded w) ∧ default.Fits w

structure Bank.Bounded (w : Nat) (b : Bank α) : Prop where
  layout : b.layout.Bounded w
  translation : b.translation.Bounded w

/-- a component on a bus of `w` lines, whose numbers are on that bus -/
structure Component.Bounded (w : Nat) (c : Component α) : Prop where
  width : c.width = w
  banks : ∀ b ∈ c.banks, b.Bounded w

/-! ## what fits is bounded -/

theorem Range.Fits.bounded {r : Range} (h : r.Fits form w) : r.Bounded w :=
  ⟨h.start, h.stop, h.stride⟩

theorem Partition.Fits.bounded {p : Partition} (h : p.Fits form w) : p.Bounded w :=
  fun r hr => (h r hr).bounded

mutual
theorem Guard.bounded_of_fits : ∀ g : Guard α, g.Fits w → g.Bounded w
  | .compare _, h => h.2
  | .negation g, h => Guard.bounded_of_fits g h
  | .chain c, h => Chain.bounded_of_fits c h

theorem Chain.bounded_of_fits : ∀ c : Chain α, c.Fits w → c.Bounded w
  | .pair a _ b, h => ⟨Guard.bounded_of_fits a h.1, Guard.bounded_of_fits b h.2⟩
  | .snoc c _ b, h => ⟨Chain.bounded_of_fits c h.1, Guard.bounded_of_fits b h.2⟩
end

theorem Case.Fits.bounded {c : Case α} (h : c.Fits w) : c.Bounded w :=
  ⟨c.guard.bounded_of_fits h.guard, h.body⟩

theorem Translation.Fits.bounded {t : Translation α} (h : t.Fits w) : t.Bounded w := by
  cases t with
  | body b => exact h
  | switch first rest default =>
    exact ⟨List.forall_mem_cons.mpr ⟨h.1.bounded, fun c hc => (h.2.1 c hc).bounded⟩, h.2.2⟩

theorem Bank.Fits.bounded {b : Bank α} (h : b.Fits form w) : b.Bounded w :=
  ⟨h.layout.bounded, Translation.Fits.bounded h.translation⟩

theorem Component.Fits.bounded {c : Component α} (h : c.Fits form w) : c.Bounded w :=
  ⟨h.width, fun b hb => (h.banks b hb).bounded⟩

end BankSwitch
