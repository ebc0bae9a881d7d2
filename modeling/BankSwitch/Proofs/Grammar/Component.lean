import BankSwitch.Component.Reader
import BankSwitch.Proofs.Grammar.Layout
import BankSwitch.Proofs.Grammar.Translation

/-!
# The grammar of components

    component = "memory" "<" NUM "," NUM ">" "{" bank { bank } "}"
    bank      = "bank" "{" "layout" ":" partition "translation" ":" translation "}"

The width of a component is not written; it is that of the bus.
-/

namespace BankSwitch

variable {α : Type} {x : Source} {w : Nat}

/-! ## the rules -/

inductive Bank.Derives (form : RangeForm) (w : Nat) : Rule (Bank α)
  | intro {s t v : List Terminal} {b : Bank α}
      (layout : Partition.Derives form w s b.layout (.mark .translation :: .mark .colon :: t))
      (translation : Translation.Derives t b.translation (.mark .rightBrace :: v)) :
      Derives form w (.mark .bank :: .mark .leftBrace :: .mark .layout :: .mark .colon :: s) b v

inductive Component.Derives (form : RangeForm) (w : Nat) : Rule (Component α)
  | intro {s v : List Terminal} {c : Component α} {a b : Nat}
      (banks : Repeats (Bank.Derives form w) s c.banks (.mark .rightBrace :: v))
      (paramA : c.paramA = a) (paramB : c.paramB = b) (width : c.width = w) :
      Derives form w (.mark .memory :: .mark .below :: .number a :: .mark .comma :: .number b ::
        .mark .above :: .mark .leftBrace :: s) c v

theorem Bank.Derives.suffix {form : RangeForm} {s v : List Terminal} {b : Bank α}
    (h : Bank.Derives form w s b v) : v <:+ s := by
  cases h with
  | intro layout translation =>
    have rest := (List.suffix_cons _ v).trans translation.suffix
    have both := (rest.trans ⟨[_, _], rfl⟩).trans layout.suffix
    exact both.trans ⟨[_, _, _, _], rfl⟩

theorem Component.Derives.suffix {form : RangeForm} {s v : List Terminal} {c : Component α}
    (h : Component.Derives form w s c v) : v <:+ s := by
  cases h with
  | intro banks =>
    have rest := (List.suffix_cons _ v).trans (banks.suffix Bank.Derives.suffix)
    exact rest.trans ⟨[_, _, _, _, _, _, _], rfl⟩

/-! ## readers take phrases only -/

namespace Bank

theorem derives_of_read (hw : x.settings.width = .whole w) {s v : List Token} {b : Bank α}
    {hv : v.length < s.length} (h : read x s = .ok ⟨b, v, hv⟩) :
    Derives x.settings.rangeForm w (terminals s) b (terminals v) := by
  unfold read at h
  obtain ⟨t₁, s₁, h₁, rfl, k₁, h⟩ := Source.expect_bind h
  obtain ⟨t₂, s₂, h₂, rfl, k₂, h⟩ := Source.expect_bind h
  obtain ⟨t₃, s₃, h₃, rfl, k₃, h⟩ := Source.expect_bind h
  obtain ⟨t₄, s₄, h₄, rfl, k₄, h⟩ := Source.expect_bind h
  obtain ⟨⟨p, s₅, h₅⟩, e₅, h⟩ := bind_ok h
  obtain ⟨t₆, s₆, h₆, rfl, k₆, h⟩ := Source.expect_bind h
  obtain ⟨t₇, s₇, h₇, rfl, k₇, h⟩ := Source.expect_bind h
  obtain ⟨⟨t, s₈, h₈⟩, e₈, h⟩ := bind_ok h
  obtain ⟨t₉, s₉, h₉, rfl, k₉, h⟩ := Source.expect_bind h
  cases h
  have layout := Partition.derives_of_read hw e₅
  have translation := Translation.derives_of_read e₈
  simp only [terminals_cons, terminal_of_kind k₆ rfl, terminal_of_kind k₇ rfl] at layout
  rw [terminals_cons, terminal_of_kind k₉ rfl] at translation
  simp only [terminals_cons, terminal_of_kind k₁ rfl, terminal_of_kind k₂ rfl,
    terminal_of_kind k₃ rfl, terminal_of_kind k₄ rfl]
  exact .intro layout translation

theorem loops : Source.Loops (fun s => Source.next? s = some .bank) (read (α := α) x)
    (readMore x) where
  stop s h := by rw [readMore, if_neg h]
  step s h := by rw [readMore, if_pos h]

theorem repeats_of_readMore (hw : x.settings.width = .whole w) {s v : List Token}
    {bs : List (Bank α)} {hv : v.length ≤ s.length} (h : readMore x s = .ok ⟨bs, v, hv⟩) :
    Repeats (Derives x.settings.rangeForm w) (terminals s) bs (terminals v) :=
  loops.repeats (derives_of_read hw) h

end Bank

namespace Component

/-- the parts of a component, as they are handed over to build it -/
theorem ofBanks_ok {a b : Int} {banks : List (Bank α)} {c : Component α}
    (h : ofBanks a b banks w = .ok c) :
    c.paramA = a ∧ c.paramB = b ∧ c.banks = banks ∧ c.width = w := by
  unfold ofBanks at h
  split at h
  · cases h
  split at h
  · cases h
  cases h
  exact ⟨rfl, rfl, rfl, Int.toNat_natCast w⟩

theorem ofBanks_self (c : Component α) : ofBanks c.paramA c.paramB c.banks c.width = .ok c := by
  obtain ⟨a, b, banks, w, hb, hw⟩ := c
  unfold ofBanks
  rw [dif_neg hb, dif_neg (by dsimp only; omega)]
  rfl

theorem derives_of_read (hw : x.settings.width = .whole w) {s v : List Token} {c : Component α}
    {hv : v.length < s.length} (h : read x s = .ok ⟨c, v, hv⟩) :
    Derives x.settings.rangeForm w (terminals s) c (terminals v) := by
  unfold read at h
  obtain ⟨t₁, s₁, h₁, rfl, k₁, h⟩ := Source.expect_bind h
  obtain ⟨t₂, s₂, h₂, rfl, k₂, h⟩ := Source.expect_bind h
  obtain ⟨a, p₃, s₃, h₃, rfl, h⟩ := Source.number_bind h
  obtain ⟨t₄, s₄, h₄, rfl, k₄, h⟩ := Source.expect_bind h
  obtain ⟨b, p₅, s₅, h₅, rfl, h⟩ := Source.number_bind h
  obtain ⟨t₆, s₆, h₆, rfl, k₆, h⟩ := Source.expect_bind h
  obtain ⟨t₇, s₇, h₇, rfl, k₇, h⟩ := Source.expect_bind h
  obtain ⟨⟨banks, s₈, h₈⟩, e₈, h⟩ := bind_ok h
  dsimp only at h
  split at h
  · cases h
  obtain ⟨t₉, s₉, h₉, rfl, k₉, h⟩ := Source.expect_bind h
  rw [hw] at h
  dsimp only [Width.value] at h
  split at h
  · next c e =>
    cases h
    obtain ⟨ha, hb, rfl, hc⟩ := ofBanks_ok e
    have banks := Bank.repeats_of_readMore hw e₈
    rw [terminals_cons, terminal_of_kind k₉ rfl] at banks
    simp only [terminals_cons, terminal_number, terminal_of_kind k₁ rfl, terminal_of_kind k₂ rfl,
      terminal_of_kind k₄ rfl, terminal_of_kind k₆ rfl, terminal_of_kind k₇ rfl]
    exact .intro banks ha hb hc
  · cases h

end Component

/-! ## readers take every phrase -/

namespace Bank

theorem read_of_derives (hw : x.settings.width = .whole w) {s : List Token} {b : Bank α}
    {v : List Terminal} (h : Derives x.settings.rangeForm w (terminals s) b v) :
    ∃ u hu, terminals u = v ∧ read x s = .ok ⟨b, u, hu⟩ := by
  generalize hs : terminals s = z at h
  cases h with
  | intro layout translation =>
    obtain ⟨t₁, s₁, rfl, k₁, hs₁⟩ := eq_cons_of_mark hs
    obtain ⟨t₂, s₂, rfl, k₂, hs₂⟩ := eq_cons_of_mark hs₁
    obtain ⟨t₃, s₃, rfl, k₃, hs₃⟩ := eq_cons_of_mark hs₂
    obtain ⟨t₄, s₄, rfl, k₄, rfl⟩ := eq_cons_of_mark hs₃
    obtain ⟨s₅, h₅, hs₅, e₅⟩ := Partition.read_of_derives hw layout
    obtain ⟨t₆, s₆, rfl, k₆, hs₆⟩ := eq_cons_of_mark hs₅
    obtain ⟨t₇, s₇, rfl, k₇, rfl⟩ := eq_cons_of_mark hs₆
    obtain ⟨s₈, h₈, hs₈, e₈⟩ :=
      Translation.read_of_derives (x := x) translation (not_operated_mark rfl _)
    obtain ⟨t₉, s₉, rfl, k₉, hs₉⟩ := eq_cons_of_mark hs₈
    refine ⟨s₉, by simp only [List.length_cons] at h₅ h₈ ⊢; omega, hs₉, ?_⟩
    unfold read
    simp only [Source.expect_cons k₁, Source.expect_cons k₂, Source.expect_cons k₃,
      Source.expect_cons k₄, e₅, Source.expect_cons k₆, Source.expect_cons k₇, e₈,
      Source.expect_cons k₉, ok_bind, Reading.front]
    rfl

theorem Derives.opening {form : RangeForm} {s v : List Terminal} {b : Bank α}
    (h : Derives form w s b v) : ∃ t, s = .mark .bank :: t := by
  cases h with
  | intro => exact ⟨_, rfl⟩

theorem readMore_of_repeats (hw : x.settings.width = .whole w) {z v : List Terminal}
    {bs : List (Bank α)}
    (h : Repeats (Derives x.settings.rangeForm w) z bs (.mark .rightBrace :: v))
    {s : List Token} (hs : terminals s = z) :
    ∃ u hu, terminals u = .mark .rightBrace :: v ∧ readMore x s = .ok ⟨bs, u, hu⟩ := by
  refine loops.reads (read_of_derives hw) (fun head => ?_) h (fun s hs => ?_) hs
  · obtain ⟨t, ht⟩ := head.opening
    exact next?_of_mark ht
  · rw [next?_of_mark hs]
    decide

end Bank

namespace Component

theorem read_of_derives (hw : x.settings.width = .whole w) {s : List Token} {c : Component α}
    {v : List Terminal} (h : Derives x.settings.rangeForm w (terminals s) c v) :
    ∃ u hu, terminals u = v ∧ read x s = .ok ⟨c, u, hu⟩ := by
  generalize hs : terminals s = z at h
  cases h with
  | intro banks paramA paramB width =>
    obtain ⟨t₁, s₁, rfl, k₁, hs₁⟩ := eq_cons_of_mark hs
    obtain ⟨t₂, s₂, rfl, k₂, hs₂⟩ := eq_cons_of_mark hs₁
    obtain ⟨p₃, s₃, rfl, hs₃⟩ := eq_cons_of_number hs₂
    obtain ⟨t₄, s₄, rfl, k₄, hs₄⟩ := eq_cons_of_mark hs₃
    obtain ⟨p₅, s₅, rfl, hs₅⟩ := eq_cons_of_number hs₄
    obtain ⟨t₆, s₆, rfl, k₆, hs₆⟩ := eq_cons_of_mark hs₅
    obtain ⟨t₇, s₇, rfl, k₇, hs₇⟩ := eq_cons_of_mark hs₆
    obtain ⟨s₈, h₈, hs₈, e₈⟩ := Bank.readMore_of_repeats hw banks hs₇
    obtain ⟨t₉, s₉, rfl, k₉, hs₉⟩ := eq_cons_of_mark hs₈
    have hc := ofBanks_self c
    rw [paramA, paramB, width] at hc
    have hb : c.banks.isEmpty ≠ true := fun hb => c.nonempty (List.isEmpty_iff.mp hb)
    refine ⟨s₉, by simp only [List.length_cons] at h₈ ⊢; omega, hs₉, ?_⟩
    unfold read
    simp only [Source.expect_cons k₁, Source.expect_cons k₂, Source.number_cons,
      Source.expect_cons k₄, Source.expect_cons k₆, Source.expect_cons k₇, e₈,
      Source.expect_cons k₉, ok_bind, Reading.front]
    rw [if_neg hb, hw]
    dsimp only [Width.value]
    rw [hc]
    rfl

end Component

end BankSwitch
