import BankSwitch.Layout.Reader
import BankSwitch.Proofs.Grammar.Terminal

/-!
# The grammar of layouts

    partition = range | "[" range { range } "]"
    range     = "(" "Range" NUM NUM NUM ")" | "[" NUM ":" NUM [ ":" NUM ] "]"

A range that ends below its start or has a stride of zero is none, so no phrase stands for one; the
term form must end on the bus as well.  Readers take exactly the phrases of these rules
(`Range.derives_of_read` and `Range.read_of_derives`, and the same for partitions).
-/

namespace BankSwitch

variable {x : Source} {w : Nat}

/-! ## the rules -/

/-- the start and the stop that the two numbers of a term give -/
inductive RangeForm.Spans : RangeForm → (base extent start stop : Nat) → Prop
  | size (base extent : Nat) : Spans .size base extent base (base + extent)
  | stop (base extent : Nat) : Spans .stop base extent base extent
  | unknown (name : String) (base extent : Nat) :
      Spans (.unknown name) base extent base (base + extent)

theorem RangeForm.spans_iff {form : RangeForm} {base extent start stop : Nat} :
    form.Spans base extent start stop ↔
      form.bounds base extent = ((start : Int), (stop : Int)) := by
  constructor
  · rintro ⟨⟩ <;> rfl
  · intro h
    cases form with
    | size =>
      obtain ⟨⟨⟩, ⟨⟩⟩ := Prod.mk.inj h
      exact .size base extent
    | stop =>
      obtain ⟨⟨⟩, ⟨⟩⟩ := Prod.mk.inj h
      exact .stop base extent
    | unknown name =>
      obtain ⟨⟨⟩, ⟨⟩⟩ := Prod.mk.inj h
      exact .unknown name base extent

/-- phrases for ranges on a bus of `w` lines; `form` says what the second number of a term means -/
inductive Range.Derives (form : RangeForm) (w : Nat) : Rule Range
  | term {r : Range} {base extent stride : Nat} (v : List Terminal)
      (bounds : form.Spans base extent r.start r.stop)
      (step : r.stride = some stride) (fits : r.stop ≤ addressCount w) :
      Derives form w (.mark .leftParen :: .mark .range :: .number base :: .number extent ::
        .number stride :: .mark .rightParen :: v) r v
  | plain {r : Range} {start stop : Nat} (v : List Terminal) (first : r.start = start)
      (last : r.stop = stop) (step : r.stride = none) :
      Derives form w (.mark .leftBracket :: .number start :: .mark .colon :: .number stop ::
        .mark .rightBracket :: v) r v
  | strided {r : Range} {start stop stride : Nat} (v : List Terminal) (first : r.start = start)
      (last : r.stop = stop) (step : r.stride = some stride) :
      Derives form w (.mark .leftBracket :: .number start :: .mark .colon :: .number stop ::
        .mark .colon :: .number stride :: .mark .rightBracket :: v) r v

inductive Partition.Derives (form : RangeForm) (w : Nat) : Rule Partition
  | range {s v : List Terminal} {p : Partition} {r : Range} (only : Range.Derives form w s r v)
      (ranges : p.ranges = [r]) : Derives form w s p v
  | list {s t v : List Terminal} {p : Partition} {r : Range} {rs : List Range}
      (first : Range.Derives form w s r t)
      (more : Repeats (Range.Derives form w) t rs (.mark .rightBracket :: v))
      (ranges : p.ranges = r :: rs) : Derives form w (.mark .leftBracket :: s) p v

theorem Range.Derives.suffix {form : RangeForm} {s v : List Terminal} {r : Range}
    (h : Range.Derives form w s r v) : v <:+ s := by
  cases h with
  | term => exact ⟨[_, _, _, _, _, _], rfl⟩
  | plain => exact ⟨[_, _, _, _, _], rfl⟩
  | strided => exact ⟨[_, _, _, _, _, _, _], rfl⟩

theorem Partition.Derives.suffix {form : RangeForm} {s v : List Terminal} {p : Partition}
    (h : Partition.Derives form w s p v) : v <:+ s := by
  cases h with
  | range only => exact only.suffix
  | list first more =>
    have rest := (more.suffix Range.Derives.suffix).trans first.suffix
    exact ((List.suffix_cons _ v).trans rest).trans (List.suffix_cons _ _)

/-! ## bounds -/

theorem Width.limit_whole (w : Nat) : (Width.whole w).limit = .ok (addressCount w) := by
  have h : ¬ (w : Int) < 0 := by omega
  unfold Width.limit
  dsimp only
  rw [if_neg h, Int.toNat_natCast]

theorem Measure.limit_whole (w : Nat) (digits : Option Nat) :
    (whole w digits).limit = .ok (addressCount w) := Width.limit_whole w

/-- settings for a bus of `w` lines measure literals by it -/
theorem Settings.measure_of_width {settings : Settings} (hw : settings.width = .whole w) :
    settings.toMeasure = .whole w settings.digits :=
  congrArg (Measure.mk · settings.digits) hw

theorem Source.limit_of_width (hw : x.settings.width = .whole w) :
    x.limit = .ok (addressCount w) := by
  unfold Source.limit
  rw [Settings.measure_of_width hw, Measure.limit_whole]

namespace Range

/-- the bounds of a range, as they are handed over to build it -/
theorem ofBounds_ok {start stop : Int} {stride : Option Int} {r : Range}
    (h : ofBounds start stop stride = .ok r) :
    (r.start : Int) = start ∧ (r.stop : Int) = stop ∧
      r.stride.map (fun (n : Nat) => (n : Int)) = stride := by
  unfold ofBounds at h
  split at h
  · cases h
  split at h
  · cases h
  cases stride with
  | none =>
    cases h
    exact ⟨by dsimp only; omega, by dsimp only; omega, rfl⟩
  | some k =>
    dsimp only at h
    split at h
    · cases h
    cases h
    have hk : ((k.toNat : Nat) : Int) = k := by omega
    exact ⟨by dsimp only; omega, by dsimp only; omega, congrArg some hk⟩

theorem ofBounds_self (r : Range) :
    ofBounds r.start r.stop (r.stride.map fun (n : Nat) => (n : Int)) = .ok r := by
  obtain ⟨start, stop, stride, hle, hstep⟩ := r
  unfold ofBounds
  rw [if_neg (by dsimp only; omega), dif_neg (by dsimp only; omega)]
  cases stride with
  | none => rfl
  | some k =>
    have hk : 0 < k := hstep
    dsimp only [Option.map]
    rw [dif_neg (by omega)]
    rfl

theorem checked_ok {start stop : Int} {stride : Option Int} {p : Position} {r : Range}
    (h : checked start stop stride p = .ok r) :
    (r.start : Int) = start ∧ (r.stop : Int) = stop ∧
      r.stride.map (fun (n : Nat) => (n : Int)) = stride := by
  unfold checked at h
  split at h
  · next e =>
    cases h
    exact ofBounds_ok e
  · cases h

theorem checked_self (r : Range) (p : Position) :
    checked r.start r.stop (r.stride.map fun (n : Nat) => (n : Int)) p = .ok r := by
  unfold checked
  rw [ofBounds_self]

/-- a stride as it was written -/
theorem stride_of_map {r : Range} {stride : Option Nat}
    (h : r.stride.map (fun (n : Nat) => (n : Int)) = stride.map fun (n : Nat) => (n : Int)) :
    r.stride = stride :=
  Option.map_injective (fun _ _ => Int.ofNat.inj) h

/-! ## readers take phrases only -/

theorem derives_of_readTerm (hw : x.settings.width = .whole w) {s v : List Token} {r : Range}
    {hv : v.length < s.length} (h : readTerm x s = .ok ⟨r, v, hv⟩) :
    Derives x.settings.rangeForm w (terminals s) r (terminals v) := by
  unfold readTerm at h
  obtain ⟨t₁, s₁, h₁, rfl, k₁, h⟩ := Source.expect_bind h
  obtain ⟨t₂, s₂, h₂, rfl, k₂, h⟩ := Source.expect_bind h
  obtain ⟨base, p₃, s₃, h₃, rfl, h⟩ := Source.number_bind h
  obtain ⟨extent, p₄, s₄, h₄, rfl, h⟩ := Source.number_bind h
  obtain ⟨stride, p₅, s₅, h₅, rfl, h⟩ := Source.number_bind h
  obtain ⟨t₆, s₆, h₆, rfl, k₆, h⟩ := Source.expect_bind h
  cases hb : x.settings.rangeForm.bounds base extent with
  | mk start stop =>
    rw [hb, Source.limit_of_width hw] at h
    dsimp only [ok_bind] at h
    split at h
    · cases h
    · next hfits =>
      obtain ⟨r, hr, h⟩ := bind_ok h
      obtain ⟨hstart, hstop, hstride⟩ := checked_ok hr
      cases h
      simp only [terminals_cons, terminal_number, terminal_of_kind k₁ rfl, terminal_of_kind k₂ rfl,
        terminal_of_kind k₆ rfl]
      have step : r.stride = some stride := stride_of_map hstride
      refine .term _ (RangeForm.spans_iff.mpr ?_) step ?_
      · rw [hb, hstart, hstop]
      · omega

theorem eq_of_readStride {s v : List Token} {stride : Option Nat} {hv : v.length ≤ s.length}
    (h : readStride x s = .ok ⟨stride, v, hv⟩) :
    (stride = none ∧ s = v) ∨
      ∃ t n p, stride = some n ∧ t.kind = .colon ∧ s = t :: ⟨.number n, p⟩ :: v := by
  cases s with
  | nil =>
    cases h
    exact .inl ⟨rfl, rfl⟩
  | cons t r =>
    unfold readStride at h
    dsimp only at h
    split at h
    · next hk =>
      obtain ⟨n, p, r, hr, rfl, h⟩ := Source.number_bind h
      cases h
      exact .inr ⟨t, n, p, rfl, hk, rfl⟩
    · cases h
      exact .inl ⟨rfl, rfl⟩

theorem derives_of_readBracket {form : RangeForm} {s v : List Token} {r : Range}
    {hv : v.length < s.length} (h : readBracket x s = .ok ⟨r, v, hv⟩) :
    Derives form w (terminals s) r (terminals v) := by
  unfold readBracket at h
  obtain ⟨t₁, s₁, h₁, rfl, k₁, h⟩ := Source.expect_bind h
  obtain ⟨start, p₂, s₂, h₂, rfl, h⟩ := Source.number_bind h
  obtain ⟨t₃, s₃, h₃, rfl, k₃, h⟩ := Source.expect_bind h
  obtain ⟨stop, p₄, s₄, h₄, rfl, h⟩ := Source.number_bind h
  obtain ⟨⟨stride, s₅, h₅⟩, e₅, h⟩ := bind_ok h
  obtain ⟨t₆, s₆, h₆, rfl, k₆, h⟩ := Source.expect_bind h
  obtain ⟨r, hr, h⟩ := bind_ok h
  cases h
  obtain ⟨hstart, hstop, hstride⟩ := checked_ok hr
  obtain ⟨rfl, rfl⟩ | ⟨t, n, p, rfl, k, rfl⟩ := eq_of_readStride e₅
  · simp only [terminals_cons, terminal_number, terminal_of_kind k₁ rfl, terminal_of_kind k₃ rfl,
      terminal_of_kind k₆ rfl]
    exact .plain _ (Int.ofNat.inj hstart) (Int.ofNat.inj hstop) (stride_of_map hstride)
  · simp only [terminals_cons, terminal_number, terminal_of_kind k₁ rfl, terminal_of_kind k₃ rfl,
      terminal_of_kind k rfl, terminal_of_kind k₆ rfl]
    exact .strided _ (Int.ofNat.inj hstart) (Int.ofNat.inj hstop) (stride_of_map hstride)

theorem derives_of_read (hw : x.settings.width = .whole w) {s v : List Token} {r : Range}
    {hv : v.length < s.length} (h : read x s = .ok ⟨r, v, hv⟩) :
    Derives x.settings.rangeForm w (terminals s) r (terminals v) := by
  unfold read at h
  split at h
  · exact derives_of_readTerm hw h
  · exact derives_of_readBracket h
  · cases h

theorem loops : Source.Loops (fun s => Source.next? s ≠ some .rightBracket) (read x)
    (readMore x) where
  stop s h := by rw [readMore, if_pos (Decidable.not_not.mp h)]
  step s h := by rw [readMore, if_neg h]

theorem repeats_of_readMore (hw : x.settings.width = .whole w) {s v : List Token}
    {rs : List Range} {hv : v.length ≤ s.length} (h : readMore x s = .ok ⟨rs, v, hv⟩) :
    Repeats (Derives x.settings.rangeForm w) (terminals s) rs (terminals v) :=
  loops.repeats (derives_of_read hw) h

/-! ## readers take every phrase -/

theorem readTerm_of_terminals {r : Range} {base extent stride : Nat} {s : List Token}
    {v : List Terminal} (hw : x.settings.width = .whole w)
    (hs : terminals s = .mark .leftParen :: .mark .range :: .number base :: .number extent ::
      .number stride :: .mark .rightParen :: v)
    (bounds : x.settings.rangeForm.bounds base extent = ((r.start : Int), (r.stop : Int)))
    (step : r.stride = some stride) (fits : r.stop ≤ addressCount w) :
    ∃ u hu, terminals u = v ∧ readTerm x s = .ok ⟨r, u, hu⟩ := by
  obtain ⟨t₁, s₁, rfl, k₁, hs₁⟩ := eq_cons_of_mark hs
  obtain ⟨t₂, s₂, rfl, k₂, hs₂⟩ := eq_cons_of_mark hs₁
  obtain ⟨p₃, s₃, rfl, hs₃⟩ := eq_cons_of_number hs₂
  obtain ⟨p₄, s₄, rfl, hs₄⟩ := eq_cons_of_number hs₃
  obtain ⟨p₅, s₅, rfl, hs₅⟩ := eq_cons_of_number hs₄
  obtain ⟨t₆, s₆, rfl, k₆, hs₆⟩ := eq_cons_of_mark hs₅
  have hr := checked_self r t₁.position
  rw [step] at hr
  refine ⟨s₆, by simp only [List.length_cons]; omega, hs₆, ?_⟩
  unfold readTerm
  simp only [Source.expect_cons k₁, Source.expect_cons k₂, Source.expect_cons k₆,
    Source.number_cons, ok_bind, Reading.front]
  rw [bounds, Source.limit_of_width hw]
  dsimp only [ok_bind]
  rw [if_neg (by omega)]
  exact congrArg (· >>= _) hr

theorem readBracket_of_plain {r : Range} {s : List Token} {v : List Terminal}
    (hs : terminals s = .mark .leftBracket :: .number r.start :: .mark .colon :: .number r.stop ::
      .mark .rightBracket :: v) (step : r.stride = none) :
    ∃ u hu, terminals u = v ∧ readBracket x s = .ok ⟨r, u, hu⟩ := by
  obtain ⟨t₁, s₁, rfl, k₁, hs₁⟩ := eq_cons_of_mark hs
  obtain ⟨p₂, s₂, rfl, hs₂⟩ := eq_cons_of_number hs₁
  obtain ⟨t₃, s₃, rfl, k₃, hs₃⟩ := eq_cons_of_mark hs₂
  obtain ⟨p₄, s₄, rfl, hs₄⟩ := eq_cons_of_number hs₃
  obtain ⟨t₅, s₅, rfl, k₅, hs₅⟩ := eq_cons_of_mark hs₄
  have hc : t₅.kind ≠ .colon := by rw [k₅]; decide
  have hstride : readStride x (t₅ :: s₅) = .ok (.nothing none (t₅ :: s₅)) := if_neg hc
  have hr := checked_self r t₁.position
  rw [step] at hr
  refine ⟨s₅, by simp only [List.length_cons]; omega, hs₅, ?_⟩
  unfold readBracket
  simp only [Source.expect_cons k₁, Source.expect_cons k₃, Source.expect_cons k₅, hstride,
    Source.number_cons, ok_bind, Reading.front, Trailing.nothing]
  exact congrArg (· >>= _) hr

theorem readBracket_of_strided {r : Range} {stride : Nat} {s : List Token} {v : List Terminal}
    (hs : terminals s = .mark .leftBracket :: .number r.start :: .mark .colon :: .number r.stop ::
      .mark .colon :: .number stride :: .mark .rightBracket :: v) (step : r.stride = some stride) :
    ∃ u hu, terminals u = v ∧ readBracket x s = .ok ⟨r, u, hu⟩ := by
  obtain ⟨t₁, s₁, rfl, k₁, hs₁⟩ := eq_cons_of_mark hs
  obtain ⟨p₂, s₂, rfl, hs₂⟩ := eq_cons_of_number hs₁
  obtain ⟨t₃, s₃, rfl, k₃, hs₃⟩ := eq_cons_of_mark hs₂
  obtain ⟨p₄, s₄, rfl, hs₄⟩ := eq_cons_of_number hs₃
  obtain ⟨t₅, s₅, rfl, k₅, hs₅⟩ := eq_cons_of_mark hs₄
  obtain ⟨p₆, s₆, rfl, hs₆⟩ := eq_cons_of_number hs₅
  obtain ⟨t₇, s₇, rfl, k₇, hs₇⟩ := eq_cons_of_mark hs₆
  have hstride : readStride x (t₅ :: ⟨.number stride, p₆⟩ :: t₇ :: s₇) =
      .ok ⟨some stride, t₇ :: s₇, by simp only [List.length_cons]; omega⟩ := if_pos k₅
  have hr := checked_self r t₁.position
  rw [step] at hr
  refine ⟨s₇, by simp only [List.length_cons]; omega, hs₇, ?_⟩
  unfold readBracket
  simp only [Source.expect_cons k₁, Source.expect_cons k₃, Source.expect_cons k₇, hstride,
    Source.number_cons, ok_bind, Reading.front]
  exact congrArg (· >>= _) hr

theorem read_of_derives (hw : x.settings.width = .whole w) {s : List Token} {r : Range}
    {v : List Terminal} (h : Derives x.settings.rangeForm w (terminals s) r v) :
    ∃ u hu, terminals u = v ∧ read x s = .ok ⟨r, u, hu⟩ := by
  generalize hs : terminals s = z at h
  unfold read
  cases h with
  | term v bounds step fits =>
    rw [next?_of_mark hs]
    exact readTerm_of_terminals hw hs (RangeForm.spans_iff.mp bounds) step fits
  | plain v first last step =>
    rw [next?_of_mark hs]
    subst first last
    exact readBracket_of_plain hs step
  | strided v first last step =>
    rw [next?_of_mark hs]
    subst first last
    exact readBracket_of_strided hs step

/-- a phrase for a range begins with a parenthesis or a bracket -/
theorem Derives.opening {form : RangeForm} {s v : List Terminal} {r : Range}
    (h : Derives form w s r v) :
    ∃ k t, s = .mark k :: t ∧ (k = .leftParen ∨ k = .leftBracket) := by
  cases h with
  | term => exact ⟨_, _, rfl, .inl rfl⟩
  | plain => exact ⟨_, _, rfl, .inr rfl⟩
  | strided => exact ⟨_, _, rfl, .inr rfl⟩

theorem Derives.not_rightBracket {form : RangeForm} {s v : List Terminal} {r : Range}
    (h : Derives form w s r v) (t : List Terminal) : s ≠ .mark .rightBracket :: t := by
  rintro rfl
  cases h

theorem readMore_of_repeats (hw : x.settings.width = .whole w) {z v : List Terminal}
    {rs : List Range}
    (h : Repeats (Derives x.settings.rangeForm w) z rs (.mark .rightBracket :: v))
    {s : List Token} (hs : terminals s = z) :
    ∃ u hu, terminals u = .mark .rightBracket :: v ∧ readMore x s = .ok ⟨rs, u, hu⟩ :=
  loops.reads (read_of_derives hw) (fun head => next?_ne head.not_rightBracket rfl) h
    (fun _ hs => Decidable.not_not.mpr (next?_of_mark hs)) hs

end Range

namespace Partition

theorem opensList_iff {s : List Token} :
    opensList s = true ↔ ∃ k v, terminals s = .mark .leftBracket :: .mark k :: v ∧
      (k = .leftBracket ∨ k = .leftParen) := by
  constructor
  · intro h
    match s with
    | [] => cases h
    | [a] => cases h
    | a :: b :: r =>
      simp only [opensList, Bool.and_eq_true, Bool.or_eq_true, decide_eq_true_eq] at h
      obtain ⟨ha, hb | hb⟩ := h
      · exact ⟨_, _, by rw [terminals_cons, terminals_cons, terminal_of_kind ha rfl,
          terminal_of_kind hb rfl], .inl rfl⟩
      · exact ⟨_, _, by rw [terminals_cons, terminals_cons, terminal_of_kind ha rfl,
          terminal_of_kind hb rfl], .inr rfl⟩
  · rintro ⟨k, v, h, hk⟩
    obtain ⟨a, r, rfl, ha, hr⟩ := eq_cons_of_mark h
    obtain ⟨b, r', rfl, hb, -⟩ := eq_cons_of_mark hr
    simp only [opensList, ha, hb, decide_true, Bool.true_and, Bool.or_eq_true, decide_eq_true_eq]
    exact hk

theorem derives_of_read (hw : x.settings.width = .whole w) {s v : List Token} {p : Partition}
    {hv : v.length < s.length} (h : read x s = .ok ⟨p, v, hv⟩) :
    Derives x.settings.rangeForm w (terminals s) p (terminals v) := by
  unfold read at h
  split at h
  · obtain ⟨⟨⟨r, rs⟩, s₁, h₁⟩, e, h⟩ := bind_ok h
    cases h
    obtain ⟨t, s₁, s₂, h₂, t', h₃, rfl, k, e₂, e₃, k'⟩ := Source.enclosed_ok e
    have more := Range.repeats_of_readMore hw e₃
    rw [terminals_cons, terminal_of_kind k' rfl] at more
    rw [terminals_cons, terminal_of_kind k rfl]
    exact .list (Range.derives_of_read hw e₂) more rfl
  · obtain ⟨⟨r, s₁, h₁⟩, e, h⟩ := bind_ok h
    cases h
    exact .range (Range.derives_of_read hw e) rfl

theorem read_of_derives (hw : x.settings.width = .whole w) {s : List Token} {p : Partition}
    {v : List Terminal} (h : Derives x.settings.rangeForm w (terminals s) p v) :
    ∃ u hu, terminals u = v ∧ read x s = .ok ⟨p, u, hu⟩ := by
  generalize hs : terminals s = z at h
  cases h with
  | range only ranges =>
    subst hs
    have hn : opensList s ≠ true := by
      intro ho
      obtain ⟨k, v, ho, hk⟩ := opensList_iff.mp ho
      rw [ho] at only
      cases only
    obtain ⟨u, hu, hv, e⟩ := Range.read_of_derives hw only
    refine ⟨u, hu, hv, ?_⟩
    unfold read
    rw [if_neg hn, e]
    obtain ⟨_, hne⟩ := p
    cases ranges
    rfl
  | @list z t v p r rs first more ranges =>
    obtain ⟨b, s₁, rfl, kb, rfl⟩ := eq_cons_of_mark hs
    obtain ⟨s₂, h₂, hs₂, e₂⟩ := Range.read_of_derives hw first
    obtain ⟨s₃, h₃, hs₃, e₃⟩ := Range.readMore_of_repeats hw more hs₂
    obtain ⟨b', u, rfl, kb', hu⟩ := eq_cons_of_mark hs₃
    have ho : opensList (b :: s₁) = true := by
      obtain ⟨k, z, hz, hk⟩ := first.opening
      exact opensList_iff.mpr ⟨k, z, by rw [hs, hz], hk.symm⟩
    obtain ⟨hv, e⟩ := Source.enclosed_eq (x := x) kb e₂ e₃ kb'
    refine ⟨u, hv, hu, ?_⟩
    unfold read
    rw [if_pos ho, e]
    obtain ⟨_, hne⟩ := p
    cases ranges
    rfl

end Partition

end BankSwitch
