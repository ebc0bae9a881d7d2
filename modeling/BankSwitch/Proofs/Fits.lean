import BankSwitch.Proofs.Grammar.Text

/-!
# What fits the bus

A description holds no number past the bus, so what is read from it has bounds: ranges end on the
bus, guards compare the address with numbers on the bus, primitives work with such numbers, and no
node of a host's own occurs.  `Component.Fits` collects these facts.  They follow from the grammar
rule by rule (`fits`), and every component that is read has them (`Component.fits_of_ofText`).
-/

namespace BankSwitch

variable {α : Type} {w : Nat} {form : RangeForm}

/-! ## the bounds -/

/-- a number that the bus can carry -/
def OnBus (w : Nat) (v : Int) : Prop := ∃ n : Nat, v = n ∧ n < addressCount w

/-- bounds of a range; `form` says which numbers its term has -/
structure Range.Fits (form : RangeForm) (w : Nat) (r : Range) : Prop where
  start : r.start < addressCount w
  stop : r.stop ≤ addressCount w
  length : r.stop - r.start < addressCount w
  stride : ∀ k, r.stride = some k → k < addressCount w
  /-- only a term with a size leads to the very end of the bus, and terms have strides -/
  top : r.stop = addressCount w → r.stride ≠ none ∧ form ≠ .stop

def Partition.Fits (form : RangeForm) (w : Nat) (p : Partition) : Prop :=
  ∀ r ∈ p.ranges, r.Fits form w

def Comparison.Fits (w : Nat) (c : Comparison) : Prop :=
  c.operand = addressName ∧ OnBus w c.literal

mutual
def Guard.Fits (w : Nat) : Guard α → Prop
  | .compare c => c.Fits w
  | .negation g => g.Fits w
  | .chain c => c.Fits w
  | .alien _ => False

def Chain.Fits (w : Nat) : Chain α → Prop
  | .pair a _ b => a.Fits w ∧ b.Fits w
  | .snoc c _ b => c.Fits w ∧ b.Fits w
end

def Primitive.Fits (w : Nat) : Primitive → Prop
  | .noop => True
  | .constant v | .add v | .subFrom v | .sub v | .shiftRight v => OnBus w v

def Body.Fits (w : Nat) : Body α → Prop
  | .primitive p => p.Fits w
  | .sequence first rest => first.Fits w ∧ ∀ p ∈ rest, p.Fits w
  | .alien _ => False

structure Case.Fits (w : Nat) (c : Case α) : Prop where
  guard : c.guard.Fits w
  body : c.body.Fits w

def Translation.Fits (w : Nat) : Translation α → Prop
  | .body b => b.Fits w
  | .switch first rest default => first.Fits w ∧ (∀ c ∈ rest, c.Fits w) ∧ default.Fits w

structure Bank.Fits (form : RangeForm) (w : Nat) (b : Bank α) : Prop where
  layout : b.layout.Fits form w
  translation : b.translation.Fits w

structure Component.Fits (form : RangeForm) (w : Nat) (c : Component α) : Prop where
  paramA : OnBus w c.paramA
  paramB : OnBus w c.paramB
  banks : ∀ b ∈ c.banks, b.Fits form w
  width : c.width = w

/-! ## bounds of what a list of terminals stands for -/

/-- no number of the list is past the bus -/
def Bounded (w : Nat) (s : List Terminal) : Prop := ∀ n, .number n ∈ s → n < addressCount w

theorem Bounded.suffix {s v : List Terminal} (h : Bounded w s) (hv : v <:+ s) : Bounded w v :=
  fun n hn => h n (hv.subset hn)

theorem Bounded.tail {s : List Terminal} {t : Terminal} (h : Bounded w (t :: s)) : Bounded w s :=
  h.suffix (List.suffix_cons t s)

theorem Bounded.onBus {s : List Terminal} (h : Bounded w s) {n : Nat} (hn : .number n ∈ s) :
    OnBus w n := ⟨n, rfl, h n hn⟩

theorem Repeats.all_of_bounded {β : Type} {rule : Rule β} {P : β → Prop}
    {s t : List Terminal} {bs : List β} (h : Repeats rule s bs t) (hs : Bounded w s)
    (suffix : ∀ {s b t}, rule s b t → t <:+ s)
    (fits : ∀ {s b t}, rule s b t → Bounded w s → P b) : ∀ b ∈ bs, P b := by
  induction h with
  | nil => exact List.forall_mem_nil P
  | cons head tail ih =>
    intro b hb
    obtain rfl | hb := List.mem_cons.mp hb
    · exact fits head hs
    · exact ih (hs.suffix (suffix head)) b hb

theorem RangeForm.Spans.cases {base extent start stop : Nat}
    (h : form.Spans base extent start stop) :
    start = base ∧ (stop = extent ∨ stop = base + extent ∧ form ≠ .stop) := by
  cases h with
  | size => exact ⟨rfl, .inr ⟨rfl, by rintro ⟨⟩⟩⟩
  | stop => exact ⟨rfl, .inl rfl⟩
  | unknown => exact ⟨rfl, .inr ⟨rfl, by rintro ⟨⟩⟩⟩

theorem Range.Derives.fits {s v : List Terminal} {r : Range} (h : Range.Derives form w s r v)
    (hs : Bounded w s) : r.Fits form w := by
  have hle := r.start_le_stop
  cases h with
  | @term r base extent stride v bounds step fits =>
    have hb := hs base (by simp only [List.mem_cons, true_or, or_true])
    have he := hs extent (by simp only [List.mem_cons, true_or, or_true])
    have hk := hs stride (by simp only [List.mem_cons, true_or, or_true])
    obtain ⟨hstart, hstop⟩ := bounds.cases
    refine ⟨by omega, fits, by omega, ?_, ?_⟩
    · intro k hk'
      rw [step] at hk'
      cases hk'
      exact hk
    · intro htop
      refine ⟨by rw [step]; exact Option.some_ne_none _, ?_⟩
      obtain hstop | ⟨-, hform⟩ := hstop
      · omega
      · exact hform
  | @plain r start stop v first last step =>
    have hstart := hs start (by simp only [List.mem_cons, true_or, or_true])
    have hstop := hs stop (by simp only [List.mem_cons, true_or, or_true])
    refine ⟨by omega, by omega, by omega, ?_, by omega⟩
    intro k hk
    rw [step] at hk
    cases hk
  | @strided r start stop stride v first last step =>
    have hstart := hs start (by simp only [List.mem_cons, true_or, or_true])
    have hstop := hs stop (by simp only [List.mem_cons, true_or, or_true])
    have hk := hs stride (by simp only [List.mem_cons, true_or, or_true])
    refine ⟨by omega, by omega, by omega, ?_, by omega⟩
    intro k hk'
    rw [step] at hk'
    cases hk'
    exact hk

theorem Partition.Derives.fits {s v : List Terminal} {p : Partition}
    (h : Partition.Derives form w s p v) (hs : Bounded w s) : p.Fits form w := by
  unfold Partition.Fits
  cases h with
  | range only ranges =>
    rw [ranges]
    intro r hr
    cases List.mem_singleton.mp hr
    exact only.fits hs
  | list first more ranges =>
    rw [ranges]
    intro r hr
    obtain rfl | hr := List.mem_cons.mp hr
    · exact first.fits hs.tail
    · exact more.all_of_bounded (hs.tail.suffix first.suffix) Range.Derives.suffix
        Range.Derives.fits r hr

theorem Comparison.Derives.fits {s v : List Terminal} {c : Comparison}
    (h : Comparison.Derives s c v) (hs : Bounded w s) : c.Fits w := by
  cases h with
  | left => exact ⟨rfl, hs.onBus (by simp only [List.mem_cons, true_or, or_true])⟩
  | right => exact ⟨rfl, hs.onBus (by simp only [List.mem_cons, true_or])⟩

namespace Guard

theorem fits_extend {c : Chain α} (hc : c.Fits w) {more : List (Connective × Guard α)}
    (hm : ∀ p ∈ more, p.2.Fits w) : (c.extend more).Fits w := by
  induction more generalizing c with
  | nil => exact hc
  | cons p more ih =>
    rw [Chain.extend_cons]
    refine ih ?_ fun q hq => hm q (List.mem_cons_of_mem p hq)
    exact ⟨hc, hm p List.mem_cons_self⟩

theorem fits_join {g : Guard α} (hg : g.Fits w) {more : List (Connective × Guard α)}
    (hm : ∀ p ∈ more, p.2.Fits w) : (g.join more).Fits w := by
  cases more with
  | nil => exact hg
  | cons p more =>
    refine fits_extend ?_ fun q hq => hm q (List.mem_cons_of_mem p hq)
    exact ⟨hg, hm p List.mem_cons_self⟩

variable {taken : List Terminal → List Terminal → Prop}

mutual
theorem DerivesBy.fits : ∀ {s v : List Terminal} {g : Guard α}, DerivesBy taken s g v →
    Bounded w s → g.Fits w
  | _, _, _, .chain head tail, hs =>
    fits_join (head.fits hs) (tail.fits (hs.suffix head.suffix))

theorem MoreBy.fits : ∀ {s v : List Terminal} {more : List (Connective × Guard α)},
    MoreBy taken s more v → Bounded w s → ∀ p ∈ more, p.2.Fits w
  | _, _, _, .nil _, _ => List.forall_mem_nil _
  | _, _, _, .cons _ head tail, hs => by
    intro p hp
    obtain rfl | hp := List.mem_cons.mp hp
    · exact head.fits hs.tail
    · exact tail.fits (hs.tail.suffix head.suffix) p hp

theorem TermBy.fits : ∀ {s v : List Terminal} {g : Guard α}, TermBy taken s g v →
    Bounded w s → g.Fits w
  | _, _, _, .negation operand _, hs => operand.fits hs.tail
  | _, _, _, .parens inner, hs => inner.fits hs.tail
  | _, _, _, .compare comparison, hs => comparison.fits hs
end

end Guard

theorem Primitive.fits_of_word {k : Token.Kind} {make : Int → Primitive}
    (h : Primitive.Word k make) {v : Int} (hv : OnBus w v) : (make v).Fits w := by
  cases h <;> exact hv

theorem Primitive.Derives.fits {s v : List Terminal} {p : Primitive}
    (h : Primitive.Derives s p v) (hs : Bounded w s) : p.Fits w := by
  cases h with
  | noop => exact trivial
  | inputPlus => exact hs.onBus (by simp only [List.mem_cons, true_or, or_true])
  | plusInput => exact hs.onBus List.mem_cons_self
  | inputMinus => exact hs.onBus (by simp only [List.mem_cons, true_or, or_true])
  | minusInput => exact hs.onBus List.mem_cons_self
  | bare => exact hs.onBus List.mem_cons_self
  | inputShift => exact hs.onBus (by simp only [List.mem_cons, true_or, or_true])
  | term n v word =>
    exact Primitive.fits_of_word word
      (hs.onBus (by simp only [List.mem_cons, true_or, or_true]))

theorem Primitive.DerivesStep.fits {s v : List Terminal} {p : Primitive}
    (h : Primitive.DerivesStep s p v) (hs : Bounded w s) : p.Fits w := by
  cases h with
  | intro step => exact step.fits hs.tail

theorem Body.Derives.fits {s v : List Terminal} {b : Body α} (h : Body.Derives s b v)
    (hs : Bounded w s) : b.Fits w := by
  cases h with
  | primitive only => exact only.fits hs
  | sequence first more =>
    exact ⟨first.fits hs.tail, more.all_of_bounded (hs.tail.suffix first.suffix)
      Primitive.DerivesStep.suffix Primitive.DerivesStep.fits⟩

theorem Case.Derives.fits {s v : List Terminal} {c : Case α} (h : Case.Derives s c v)
    (hs : Bounded w s) : c.Fits w := by
  cases h with
  | intro guard body => exact ⟨guard.fits hs, body.fits (hs.suffix guard.suffix).tail⟩

theorem Translation.Derives.fits {s v : List Terminal} {t : Translation α}
    (h : Translation.Derives s t v) (hs : Bounded w s) : t.Fits w := by
  cases h with
  | body only => exact only.fits hs
  | switch first more default =>
    have rest := hs.tail.tail.suffix first.suffix
    exact ⟨first.fits hs.tail.tail,
      more.all_of_bounded rest Case.Derives.suffix Case.Derives.fits,
      default.fits (rest.suffix (more.suffix Case.Derives.suffix)).tail⟩

theorem Bank.Derives.fits {s v : List Terminal} {b : Bank α} (h : Bank.Derives form w s b v)
    (hs : Bounded w s) : b.Fits form w := by
  cases h with
  | intro layout translation =>
    have rest := hs.tail.tail.tail.tail
    exact ⟨layout.fits rest, translation.fits (rest.suffix layout.suffix).tail.tail⟩

theorem Component.Derives.fits {s v : List Terminal} {c : Component α}
    (h : Component.Derives form w s c v) (hs : Bounded w s) : c.Fits form w := by
  cases h with
  | @intro s v c a b banks paramA paramB width =>
    refine ⟨?_, ?_, ?_, width⟩
    · rw [paramA]
      exact hs.onBus (by simp only [List.mem_cons, true_or, or_true])
    · rw [paramB]
      exact hs.onBus (by simp only [List.mem_cons, true_or, or_true])
    · exact banks.all_of_bounded hs.tail.tail.tail.tail.tail.tail.tail Bank.Derives.suffix
        Bank.Derives.fits

/-! ## bounds of what is read -/

/-- the terminals of a text are bounded -/
theorem bounded_of_tokens {measure : Measure} (hw : measure.width = .whole w) {text : String}
    {ts : List Token} (h : Token.tokens measure text = .ok ts) : Bounded w (terminals ts) := by
  obtain ⟨width, digits⟩ := measure
  subst hw
  obtain ⟨front, hfront, -, hnum⟩ := Token.tokensFrom_ok h
  intro n hn
  rw [hfront, List.mem_append] at hn
  obtain hn | hn := hn
  · exact hnum n hn
  · cases List.mem_singleton.mp hn

theorem Component.fits_of_ofText {settings : Settings} (hw : settings.width = .whole w)
    {text : String} {c : Component α} (h : Component.ofText settings text = .ok c) :
    c.Fits settings.rangeForm w := by
  obtain ⟨ts, ht, hc⟩ := ((Component.exact hw).reads text c).mp h
  exact hc.fits (bounded_of_tokens hw ht)

end BankSwitch
