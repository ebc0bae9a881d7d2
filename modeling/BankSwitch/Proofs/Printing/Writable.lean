import BankSwitch.Proofs.Bounded
import BankSwitch.Proofs.Printing.Layout

/-!
# Which ranges can be written

A range can be written under some settings if a text reads as the partition of this range alone.
These are the ranges that fit (`Range.writable_iff_fits`), and each of them is printed as a text that
reads as it.  The printer holds one literal against the width, the second number of a term or else
the stop, and refuses every range for which that is too great.  It looks at no other number, though:
a range off the bus that passes this check escapes it (`Range.Escapes`), and is printed as text that
does not read.  All other ranges are printed exactly if they can be written
(`Range.print_writable`).
-/

namespace BankSwitch

variable {α : Type} {w : Nat} {settings : Settings} {style : Style}

namespace Range

/-- some text reads as the range alone -/
def Writable (settings : Settings) (r : Range) : Prop :=
  ∃ text, Partition.ofText settings text = .ok (.single r)

theorem Writable.fits (hw : settings.width = .whole w) {r : Range} (h : r.Writable settings) :
    r.Fits settings.rangeForm w := by
  obtain ⟨text, h⟩ := h
  obtain ⟨ts, ht, derives⟩ := ((Partition.exact hw).reads text _).mp h
  exact derives.fits (bounded_of_tokens hw ht) r (List.mem_singleton_self r)

/-- the literal that the printer holds against the width -/
def guarded (form : RangeForm) (style : Style) (w : Nat) (r : Range) : Nat :=
  if r.stride.isSome ∧ (style = .terms ∨ addressCount w ≤ r.stop) then form.extent r.start r.stop
  else r.stop

/-- what the range is refused with -/
def refusal (settings : Settings) (r : Range) : PrintError α :=
  match r.stride with
  | none => .stopTooLarge r settings.width
  | some _ => .extentTooLarge r settings.width settings.rangeForm

/-- the last 56 addresses of eight bits: their stop is no literal -/
def top : Range := ⟨200, 256, some 1, by decide, by decide⟩

/-- the addresses from 200 up to 300 -/
def past : Range := ⟨200, 300, some 1, by decide, by decide⟩

end Range

end BankSwitch
