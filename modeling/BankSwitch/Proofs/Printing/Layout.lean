import BankSwitch.Description.Printer
import BankSwitch.Proofs.Fits
import BankSwitch.Proofs.Printing.Scan

/-!
# Printed layouts

A range of a description can be printed in every style and reads back as itself, with one exception:
if the terms of the target have stops, the very end of the bus cannot be written
(`Range.Unprintable`).
-/

namespace BankSwitch

variable {w : Nat} {form : RangeForm} {settings : Settings} {style : Style} {α : Type}

/-! ## how a range is spelled -/

theorem scans_rangeOpening : Scans w anyChar "(Range " [.mark .leftParen, .mark .range] := by
  have text : "(Range " = "(" ++ ("Range" ++ " ") := rfl
  rw [text]
  have word : Scans w notWordChar "Range" [.mark .range] := scans_word rfl rfl
  exact scans_leftParen.lead (word.append scans_space begins_space)

theorem scans_rangeTerm {a b k : Nat} (ha : a < addressCount w) (hb : b < addressCount w)
    (hk : k < addressCount w) :
    Scans w anyChar s!"(Range {a} {b} {k})" [.mark .leftParen, .mark .range, .number a, .number b,
      .number k, .mark .rightParen] := by
  have base := scans_rangeOpening.lead (scans_decimal ha)
  have extent := (base.append scans_space begins_space).lead (scans_decimal hb)
  have stride := (extent.append scans_space begins_space).lead (scans_decimal hk)
  exact stride.append scans_rightParen begins_rightParen

theorem scans_rangeBounds {a b : Nat} (ha : a < addressCount w) (hb : b < addressCount w) :
    Scans w notWordChar ("[" ++ toString a ++ ":" ++ toString b)
      [.mark .leftBracket, .number a, .mark .colon, .number b] := by
  have start := scans_leftBracket.lead (scans_decimal ha)
  exact (start.append scans_colon begins_colon).lead (scans_decimal hb)

/-! ## ranges -/

/-- the stop of the range is needed, and no literal is as great -/
def Range.Unprintable (form : RangeForm) (w : Nat) (r : Range) : Prop :=
  form = .stop ∧ r.stop = addressCount w

theorem RangeForm.spans_extent (form : RangeForm) (r : Range) :
    form.Spans r.start (form.extent r.start r.stop) r.start r.stop := by
  have stop : r.start + (r.stop - r.start) = r.stop := Nat.add_sub_cancel' r.start_le_stop
  cases form with
  | stop => exact .stop r.start r.stop
  | size =>
    have spans := Spans.size r.start (r.stop - r.start)
    rwa [stop] at spans
  | unknown name =>
    have spans := Spans.unknown name r.start (r.stop - r.start)
    rwa [stop] at spans

theorem Range.Fits.extent_lt {source : RangeForm} {r : Range} (h : r.Fits source w)
    (hp : ¬ r.Unprintable form w) : form.extent r.start r.stop < addressCount w := by
  have hstop := h.stop
  cases form with
  | stop =>
    have hne : r.stop ≠ addressCount w := fun he => hp ⟨rfl, he⟩
    exact Nat.lt_of_le_of_ne hstop hne
  | size => exact h.length
  | unknown name => exact h.length

theorem Style.ne_unknown (h : style = .compact ∨ style = .terms) (name : String) :
    style ≠ .unknown name := by
  obtain rfl | rfl := h <;> rintro ⟨⟩

theorem Range.spells_print (hw : settings.width = .whole w)
    (hstyle : style = .compact ∨ style = .terms) {source : RangeForm} {r : Range}
    (h : r.Fits source w) (hp : ¬ r.Unprintable settings.rangeForm w) :
    ∃ t, (r.print style settings : Except (PrintError α) String) = .ok t ∧
      Spells w anyChar (Range.Derives settings.rangeForm w) Free t r := by
  have hstart := h.start
  have hle := h.stop
  have hextent := h.extent_lt hp
  unfold Range.print
  rw [hw, Width.limit_whole]
  have known := Style.ne_unknown hstyle
  split
  · exact absurd rfl (known _)
  · next e => cases e
  · next e =>
    cases e
    dsimp only
    split
    · next k hk =>
      have hk' := h.stride k hk
      split
      · rw [if_neg (by omega)]
        refine ⟨_, rfl, _, scans_rangeTerm hstart hextent hk', fun y _ => ?_⟩
        exact .term y (RangeForm.spans_extent _ r) hk (by omega)
      · next hc =>
        simp only [Bool.or_eq_true, decide_eq_true_eq, not_or] at hc
        have hlt : r.stop < addressCount w := by omega
        have stride := ((scans_rangeBounds hstart hlt).append scans_colon begins_colon).lead
          (scans_decimal hk')
        refine ⟨_, rfl, _, stride.append scans_rightBracket begins_rightBracket, fun y _ => ?_⟩
        exact .strided y rfl rfl hk
    · next hk =>
      have hlt : r.stop < addressCount w :=
        Nat.lt_of_le_of_ne hle fun he => (h.top he).1 hk
      rw [if_neg (by rw [decide_eq_true_eq]; omega)]
      refine ⟨_, rfl, _, (scans_rangeBounds hstart hlt).append scans_rightBracket
        begins_rightBracket, fun y _ => ?_⟩
      exact .plain y rfl rfl hk

theorem Range.print_unprintable (hw : settings.width = .whole w)
    (hstyle : style = .compact ∨ style = .terms) {source : RangeForm} {r : Range}
    (h : r.Fits source w) (hp : r.Unprintable settings.rangeForm w) :
    (r.print style settings : Except (PrintError α) String) =
      .error (.extentTooLarge r settings.width settings.rangeForm) := by
  obtain ⟨hform, htop⟩ := hp
  unfold Range.print
  rw [hw, Width.limit_whole]
  have known := Style.ne_unknown hstyle
  split
  · exact absurd rfl (known _)
  · next e => cases e
  · next e =>
    cases e
    dsimp only
    split
    · next k hk =>
      rw [if_pos (by simp only [Bool.or_eq_true, decide_eq_true_eq]; omega), hform]
      exact if_pos (by dsimp only [RangeForm.extent]; omega)
    · next hk => exact absurd hk (h.top htop).1

/-! ## partitions -/

namespace Partition

theorem spells_print (hw : settings.width = .whole w) (hstyle : style = .compact ∨ style = .terms)
    {source : RangeForm} {p : Partition} (h : p.Fits source w)
    (hp : ∀ r ∈ p.ranges, ¬ r.Unprintable settings.rangeForm w) :
    ∃ t, (p.print style settings : Except (PrintError α) String) = .ok t ∧
      Spells w anyChar (Partition.Derives settings.rangeForm w) Free t p := by
  have each : ∀ r ∈ p.ranges, ∃ t,
      (r.print style settings : Except (PrintError α) String) = .ok t ∧
        Spells w anyChar (Range.Derives settings.rangeForm w) Free t r :=
    fun r hr => Range.spells_print hw hstyle (h r hr) (hp r hr)
  unfold Partition.print
  split
  · next r hr =>
    obtain ⟨t, e, z, hz, hd⟩ := each r (by rw [hr]; exact List.mem_singleton_self r)
    exact ⟨t, e, z, hz, fun y hy => .range (hd y hy) hr⟩
  · cases hr : p.ranges with
    | nil => exact absurd hr p.nonempty
    | cons r rs =>
      rw [hr] at each
      obtain ⟨t, e, z, hz, hd⟩ := each r List.mem_cons_self
      obtain ⟨ts, es, ⟨zs, hzs, hds⟩, -⟩ := spells_mapM (" " ++ ·) fun r hr => by
        obtain ⟨t, e, z, hz, hd⟩ := each r (List.mem_cons_of_mem _ hr)
        exact ⟨t, e, ⟨z, scans_space.lead hz, hd⟩, admits_anyChar _⟩
      refine ⟨"[" ++ " ".intercalate (t :: ts) ++ "]", ?_, ?_⟩
      · rw [List.mapM_cons, e, ok_bind, es]
        rfl
      · rw [intercalate_behind]
        refine ⟨_, (scans_leftBracket.lead (hz.lead hzs)).lead scans_rightBracket, fun y _ => ?_⟩
        rw [List.append_assoc, List.append_assoc, List.append_assoc]
        exact .list (hd _ trivial) (hds _ trivial) hr

theorem print_unprintable (hw : settings.width = .whole w)
    (hstyle : style = .compact ∨ style = .terms) {source : RangeForm} {p : Partition}
    (h : p.Fits source w) (hp : ∃ r ∈ p.ranges, r.Unprintable settings.rangeForm w) :
    ∃ r ∈ p.ranges, r.Unprintable settings.rangeForm w ∧
      (p.print style settings : Except (PrintError α) String) =
        .error (.extentTooLarge r settings.width settings.rangeForm) := by
  have fails : ∀ r ∈ p.ranges, r.Unprintable settings.rangeForm w →
      (r.print style settings : Except (PrintError α) String) =
        .error (.extentTooLarge r settings.width settings.rangeForm) :=
    fun r hr hu => Range.print_unprintable hw hstyle (h r hr) hu
  obtain ⟨r₀, hr₀, hu₀⟩ := hp
  unfold Partition.print
  split
  · next r hr =>
    have hr' : r₀ = r := List.mem_singleton.mp (hr ▸ hr₀)
    rw [hr'] at hr₀ hu₀
    exact ⟨r, hr₀, hu₀, fails r hr₀ hu₀⟩
  · obtain ⟨r, hr, e, he, hu, rfl⟩ := mapM_error
      (f := Range.print (α := α) style settings)
      (P := fun r e => r.Unprintable settings.rangeForm w ∧
        e = .extentTooLarge r settings.width settings.rangeForm)
      (fun r hr => by
        by_cases hu : r.Unprintable settings.rangeForm w
        · exact .inr ⟨_, fails r hr hu, hu, rfl⟩
        · obtain ⟨t, e, -⟩ := Range.spells_print (α := α) hw hstyle (h r hr) hu
          exact .inl ⟨t, e⟩)
      ⟨r₀, hr₀, _, fails r₀ hr₀ hu₀⟩
    exact ⟨r, hr, hu, by rw [he]; rfl⟩

end Partition

end BankSwitch
