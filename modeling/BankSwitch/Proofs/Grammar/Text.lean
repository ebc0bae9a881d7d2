import BankSwitch.Proofs.Grammar.Component

/-!
# Texts and what they stand for

A text stands for `a` under a rule if it falls into tokens, and these, down to the end of the text,
are a phrase for `a` (`Describes`).  `readers_exact` says that the readers of components, partitions,
translations and guards give exactly what a text stands for under the grammar, and that the grammar
leaves no choice.
-/

namespace BankSwitch

variable {α : Type} {w : Nat} {digits : Option Nat}

/-! ## tokens of a text

Every number fits the width, and the end of the text stands at the end of its tokens only.
-/

namespace Token

theorem finishNumber_ok {p : Position} {spelling : List Char} {value : Nat} {rest : List Char}
    {x : Lexeme} (h : finishNumber (.whole w digits) p spelling value rest = .ok x) :
    x = .number value ∧ value < addressCount w := by
  have fits : finishNumber.fits (.whole w digits) p value = .ok x := by
    unfold finishNumber at h
    split at h
    · split at h
      · cases h
      · exact h
    · exact h
  unfold finishNumber.fits at fits
  rw [Measure.limit_whole] at fits
  dsimp only at fits
  split at fits
  · next hlt =>
    cases fits
    exact ⟨rfl, hlt⟩
  · cases fits

/-- what a word can count as -/
theorem wordKind_mem (word : List Char) : wordKind word ∈ .range :: .identifier :: keywords := by
  unfold wordKind
  split
  · exact List.mem_cons_self
  · refine List.mem_cons_of_mem _ ?_
    cases h : keywords.find? fun k => k.name.toList = word with
    | none => exact List.mem_cons_self
    | some k => exact List.mem_cons_of_mem _ (List.mem_of_find?_eq_some h)

theorem wordKind_ne_endOfInput (word : List Char) : wordKind word ≠ .endOfInput := by
  intro h
  have hm := wordKind_mem word
  rw [h] at hm
  exact absurd hm (by decide)

theorem symbolAt?_ne_endOfInput {s spelling : List Char} {k : Kind}
    (h : symbolAt? s = some (spelling, k)) : k ≠ .endOfInput := by
  have hk : ∀ m ∈ symbols, m.2 ≠ .endOfInput := by decide
  exact hk _ (List.mem_of_find?_eq_some h)

/-- a lexeme is a number that fits the width, or a word or symbol -/
theorem lexemeAt_ok {p : Position} {c : Char} {r : List Char} {q : Reading Spelled (c :: r)}
    (h : lexemeAt (.whole w digits) p c r = .ok q) :
    (∃ n, q.value.lexeme = .number n ∧ n < addressCount w) ∨
      ∃ k sp, q.value.lexeme = .spelled k sp ∧ k ≠ .endOfInput := by
  unfold lexemeAt at h
  split at h
  · dsimp only at h
    split at h
    · cases h
    · obtain ⟨x, e, h⟩ := bind_ok h
      cases h
      exact .inl ⟨_, finishNumber_ok e⟩
  split at h
  · next hc =>
    subst hc
    dsimp only at h
    unfold hexNumber at h
    split at h
    · split at h
      · cases h
      · obtain ⟨x, e, h⟩ := bind_ok h
        cases h
        exact .inl ⟨_, finishNumber_ok e⟩
    · cases h
  split at h
  · cases h
    exact .inr ⟨_, _, rfl, wordKind_ne_endOfInput _⟩
  split at h
  · next hs =>
    cases h
    exact .inr ⟨_, _, rfl, symbolAt?_ne_endOfInput hs⟩
  · cases h

theorem tokensFrom_ok {p : Position} {s : List Char} {ts : List Token}
    (h : tokensFrom (.whole w digits) p s = .ok ts) :
    ∃ front, terminals ts = front ++ [.mark .endOfInput] ∧ .mark .endOfInput ∉ front ∧
      ∀ n, .number n ∈ front → n < addressCount w := by
  induction s using (measure List.length).wf.induction generalizing p ts with
  | _ s ih =>
    unfold tokensFrom at h
    split at h
    · cases h
      exact ⟨[], rfl, List.not_mem_nil, fun n hn => absurd hn List.not_mem_nil⟩
    · next c r =>
      split at h
      · exact ih r (Nat.lt_succ_self _) h
      · obtain ⟨⟨x, rest, hrest⟩, e, h⟩ := bind_ok h
        obtain ⟨more, em, h⟩ := bind_ok h
        cases h
        obtain ⟨front, hfront, hend, hnum⟩ := ih rest hrest em
        obtain ⟨n, hx, hn⟩ | ⟨k, sp, hx, hk⟩ := lexemeAt_ok e
        · refine ⟨.number n :: front, ?_, ?_, ?_⟩
          · rw [terminals_cons, hfront, List.cons_append]
            dsimp only at hx
            rw [hx, terminal_number]
          · rw [List.mem_cons, not_or]
            exact ⟨by rintro ⟨⟩, hend⟩
          · intro m hm
            obtain hm | hm := List.mem_cons.mp hm
            · cases hm
              exact hn
            · exact hnum m hm
        · refine ⟨.mark k :: front, ?_, ?_, ?_⟩
          · rw [terminals_cons, hfront, List.cons_append]
            dsimp only at hx
            rw [hx]
            rfl
          · rw [List.mem_cons, not_or]
            exact ⟨fun he => hk (Terminal.mark.inj he).symm, hend⟩
          · intro m hm
            obtain hm | hm := List.mem_cons.mp hm
            · cases hm
            · exact hnum m hm

end Token

/-! ## whole texts -/

/-- the text stands for `a` under the rule -/
def Describes (measure : Measure) (rule : Rule α) (text : String) (a : α) : Prop :=
  ∃ ts, Token.tokens measure text = .ok ts ∧ rule (terminals ts) a [.mark .endOfInput]

/-- no list of terminals stands for two things -/
def Unambiguous (rule : Rule α) : Prop :=
  ∀ s a b, rule s a [.mark .endOfInput] → rule s b [.mark .endOfInput] → a = b

/-- `ofText` gives what a text stands for under the rule, which is one thing at most -/
structure Exact (settings : Settings) (rule : Rule α)
    (ofText : Settings → String → Except ReadError α) : Prop where
  reads : ∀ text a, ofText settings text = .ok a ↔ Describes settings.toMeasure rule text a
  unambiguous : Unambiguous rule

theorem eq_nil_of_suffix {front r : List Terminal} {e : Terminal} (he : e ∉ front)
    (h : e :: r <:+ front ++ [e]) : r = [] := by
  induction front with
  | nil =>
    have hl := h.length_le
    simp only [List.nil_append, List.length_cons, List.length_nil] at hl
    exact List.eq_nil_of_length_eq_zero (by omega)
  | cons a front ih =>
    rw [List.cons_append, List.suffix_cons_iff] at h
    rw [List.mem_cons, not_or] at he
    obtain h | h := h
    · exact absurd (List.cons.inj h).1 he.1
    · exact ih he.2 h

/-- tokens can be found for all terminals -/
theorem terminals_surjective (s : List Terminal) : ∃ ts, terminals ts = s := by
  induction s with
  | nil => exact ⟨[], rfl⟩
  | cons t s ih =>
    obtain ⟨ts, rfl⟩ := ih
    cases t with
    | mark k => exact ⟨⟨.spelled k "", Position.start⟩ :: ts, rfl⟩
    | number n => exact ⟨⟨.number n, Position.start⟩ :: ts, rfl⟩

namespace Source

variable {settings : Settings} {rule : Rule α}
  {read : Source → (s : List Token) → Except ReadError (Reading α s)}

theorem readAll_ok {text : String} {a : α} (h : readAll settings text read = .ok a) :
    ∃ ts rest hr v, Token.tokens settings.toMeasure text = .ok ts ∧
      read ⟨settings, endOf ts⟩ ts = .ok ⟨a, rest, hr⟩ ∧
      terminals rest = .mark .endOfInput :: v := by
  unfold readAll ofText at h
  obtain ⟨⟨x, ts⟩, e, h⟩ := bind_ok h
  obtain ⟨ts, ht, e⟩ := bind_ok e
  cases e
  obtain ⟨⟨a, rest, hr⟩, e₁, h⟩ := bind_ok h
  obtain ⟨t, s₂, h₂, rfl, k₂, h⟩ := expect_bind h
  cases h
  exact ⟨ts, _, hr, _, ht, e₁, by rw [terminals_cons, terminal_of_kind k₂ rfl]⟩

theorem readAll_eq {text : String} {a : α} {ts rest : List Token} {hr v}
    (ht : Token.tokens settings.toMeasure text = .ok ts)
    (e : read ⟨settings, endOf ts⟩ ts = .ok ⟨a, rest, hr⟩)
    (hrest : terminals rest = .mark .endOfInput :: v) : readAll settings text read = .ok a := by
  obtain ⟨t, s, rfl, kt, -⟩ := eq_cons_of_mark hrest
  unfold readAll ofText
  rw [ht]
  dsimp only [ok_bind]
  rw [show (pure ((⟨settings, endOf ts⟩ : Source), ts) : Except ReadError _) = .ok _ from rfl]
  dsimp only [ok_bind]
  rw [e]
  dsimp only [ok_bind]
  rw [expect_cons kt]
  rfl

/-- a reader that takes exactly the phrases of a rule reads exactly the texts that the rule
describes -/
theorem readAll_exact (hw : settings.width = .whole w)
    (suffix : ∀ {s a v}, rule s a v → v <:+ s)
    (sound : ∀ {x : Source} {s v : List Token} {a : α} {hv}, x.settings = settings →
      read x s = .ok ⟨a, v, hv⟩ → rule (terminals s) a (terminals v))
    (complete : ∀ {x : Source} {s : List Token} {a : α}, x.settings = settings →
      rule (terminals s) a [.mark .endOfInput] →
      ∃ u hu, terminals u = [.mark .endOfInput] ∧ read x s = .ok ⟨a, u, hu⟩) :
    Exact settings rule fun settings text => readAll settings text read where
  reads text a := by
    constructor
    · intro h
      obtain ⟨ts, rest, hr, v, ht, e, hrest⟩ := readAll_ok h
      have hrule := sound rfl e
      rw [hrest] at hrule
      have ht' := ht
      unfold Token.tokens at ht'
      rw [Settings.measure_of_width hw] at ht'
      obtain ⟨front, hfront, hend, -⟩ := Token.tokensFrom_ok ht'
      have hv : v = [] := eq_nil_of_suffix hend (hfront ▸ suffix hrule)
      rw [hv] at hrule
      exact ⟨ts, ht, hrule⟩
    · rintro ⟨ts, ht, hrule⟩
      obtain ⟨u, hu, hend, e⟩ := complete (x := ⟨settings, endOf ts⟩) rfl hrule
      exact readAll_eq ht e hend
  unambiguous s a b ha hb := by
    obtain ⟨ts, rfl⟩ := terminals_surjective s
    obtain ⟨u, hu, -, e⟩ := complete (x := ⟨settings, Position.start⟩) rfl ha
    obtain ⟨u', hu', -, e'⟩ := complete (x := ⟨settings, Position.start⟩) rfl hb
    rw [e] at e'
    cases e'
    rfl

end Source

/-! ## the readers -/

variable {settings : Settings}

theorem Component.exact (hw : settings.width = .whole w) :
    Exact settings (Component.Derives (α := α) settings.rangeForm w) Component.ofText :=
  Source.readAll_exact hw Component.Derives.suffix
    (fun hx e => hx ▸ Component.derives_of_read (hx ▸ hw) e)
    (fun hx h => Component.read_of_derives (hx ▸ hw) (hx ▸ h))

theorem Partition.exact (hw : settings.width = .whole w) :
    Exact settings (Partition.Derives settings.rangeForm w) Partition.ofText :=
  Source.readAll_exact hw Partition.Derives.suffix
    (fun hx e => hx ▸ Partition.derives_of_read (hx ▸ hw) e)
    (fun hx h => Partition.read_of_derives (hx ▸ hw) (hx ▸ h))

theorem Translation.exact (hw : settings.width = .whole w) :
    Exact settings (Translation.Derives (α := α)) Translation.ofText :=
  Source.readAll_exact hw Translation.Derives.suffix
    (fun _ e => Translation.derives_of_read e)
    (fun _ h => Translation.read_of_derives h (not_operated_mark rfl _))

theorem Guard.exact (hw : settings.width = .whole w) :
    Exact settings (Guard.Derives (α := α)) Guard.ofText :=
  Source.readAll_exact hw Guard.DerivesBy.suffix
    (fun _ e => (Guard.derives_of_read e).1)
    (fun _ h => Guard.read_of_derives h (Guard.not_joined_mark rfl _) rfl)

/-- every reader gives exactly what its rule says a text stands for, and every rule gives a text
one reading at most -/
theorem readers_exact (hw : settings.width = .whole w) :
    Exact settings (Component.Derives (α := α) settings.rangeForm w) Component.ofText ∧
      Exact settings (Partition.Derives settings.rangeForm w) Partition.ofText ∧
      Exact settings (Translation.Derives (α := α)) Translation.ofText ∧
      Exact settings (Guard.Derives (α := α)) Guard.ofText :=
  ⟨Component.exact hw, Partition.exact hw, Translation.exact hw, Guard.exact hw⟩

theorem readers_exact_standard :
    Settings.standard.width = .whole 64 ∧
      Exact Settings.standard (Component.Derives (α := Empty) .size 64) Component.ofText ∧
      Exact Settings.standard (Partition.Derives .size 64) Partition.ofText ∧
      Exact Settings.standard (Translation.Derives (α := Empty)) Translation.ofText ∧
      Exact Settings.standard (Guard.Derives (α := Empty)) Guard.ofText :=
  ⟨rfl, readers_exact rfl⟩

/-! ## a sample -/

theorem ok_of_toOption {ε β : Type} {m : Except ε β} {b : β} (h : m.toOption = some b) :
    m = .ok b := by
  cases m with
  | error e => cases h
  | ok b' => exact congrArg Except.ok (Option.some.inj h)

/-- the error of a run that found nothing -/
def error? {ε β : Type} : Except ε β → Option ε
  | .error e => some e
  | .ok _ => none

theorem error_of_error? {ε β : Type} {m : Except ε β} {e : ε} (h : error? m = some e) :
    m = .error e := by
  cases m with
  | error e' => exact congrArg Except.error (Option.some.inj h)
  | ok b => cases h

/-- the addresses below a stop -/
def Range.below (stop : Nat) : Range := ⟨0, stop, none, Nat.zero_le stop, Nat.one_pos⟩

/-- every other address of so many -/
def Range.everyOther (start length : Nat) : Range :=
  ⟨start, start + length, some 2, Nat.le_add_right start length, Nat.two_pos⟩

namespace Component

/-- a component of two banks, the second with a stride -/
def sample : Component Empty where
  paramA := 16
  paramB := 2
  banks :=
    [⟨.single ⟨0, 8, none, by decide, by decide⟩, .body (.sequence (.add 3) [.subFrom 31])⟩,
     ⟨.single ⟨8, 16, some 2, by decide, by decide⟩, .body (.primitive (.shiftRight 1))⟩]
  width := 64
  nonempty := List.cons_ne_nil _ _
  width_pos := by decide

/-- the sample with other banks -/
def ofSample (b : Bank Empty) (more : List (Bank Empty)) : Component Empty :=
  { sample with
    banks := b :: more
    nonempty := List.cons_ne_nil b more }

def sampleText : String :=
  "memory<16, 2> \x7b bank \x7b layout: [0:8] translation: [INPUT + 3; #x1f - INPUT] \x7d " ++
    "bank \x7b layout: (Range 8 8 2) translation: INPUT >> 1 \x7d \x7d"

theorem ofText_sample : ofText Settings.standard sampleText = .ok sample :=
  ok_of_toOption (by decide +kernel)

end Component

end BankSwitch
