import BankSwitch.Proofs.Lexing.Widths
import BankSwitch.Proofs.Scanning.Text

/-!
# The first impossible token

A fault of the grammar is reported at the first token that no description goes on with: what stands
before it begins a phrase for a component, and what it ends begins none.  What a range must satisfy
besides its form is left aside here, and a switch has one case at least.

* `sentence_of_ofText`, `ofText_of_sentence`   descriptions are the sentences, but for ranges;
* `scanText_fault`   the fault of a whole text, from what the scanners follow and leave;
* `FirstImpossible.atEnd_iff`   the fault is at the end if the text is a beginning;
* `ofText_fault_firstImpossible`   the same for a text under any settings.
-/

namespace BankSwitch

open Grammar Scanner

variable {α : Type} {w : Nat} {x y : Source} {ts : List Token}

/-- no sentence goes on with the terminal number `k`, and some sentence goes on before it -/
structure FirstImpossible (s : List Terminal) (k : Nat) : Prop where
  possible : ∃ z, Sentence (s.take k ++ z)
  impossible : ∀ z, Sentence z → ¬ s.take (k + 1) <+: z ++ [.mark .endOfInput]

/-- a width counts lines, or it measures no number -/
theorem Width.whole_or_error (v : Width) :
    (∃ w : Nat, v = .whole w) ∨ ∃ f, v.limit = .error f := by
  cases v with
  | whole n =>
    by_cases hn : n < 0
    · exact .inr ⟨.negative, if_pos hn⟩
    · exact .inl ⟨n.toNat, by rw [Int.toNat_of_nonneg (by omega)]⟩
  | real n => exact .inr ⟨.real, rfl⟩

theorem terminals_take (k : Nat) (s : List Token) :
    (terminals s).take k = terminals (s.take k) := List.map_take.symm

/-- the fault is at the end if the text goes on to a description -/
theorem FirstImpossible.atEnd_iff {k : Nat} {t : Token} (h : FirstImpossible (terminals ts) k)
    (hk : ts[k]? = some t) (ht : Ended ts) :
    t.kind = .endOfInput ↔ ∃ z, z ≠ [] ∧ Sentence ((terminals ts).dropLast ++ z) := by
  obtain ⟨front, hfront, hend⟩ := ht
  have hk' : (terminals ts)[k]? = some t.terminal := by
    rw [terminals, List.getElem?_map, hk]
    rfl
  obtain ⟨z, hz⟩ := h.possible
  have impossible := h.impossible
  rw [hfront] at hk' hz impossible ⊢
  rw [List.dropLast_concat]
  obtain hlt | heq | hgt := Nat.lt_trichotomy k front.length
  · -- a token before the end: it is not the end, and no sentence goes on from the end
    rw [List.getElem?_append_left hlt] at hk'
    have hne : t.kind ≠ .endOfInput := fun he => hend (by
      rw [← terminal_of_kind he rfl]
      exact List.mem_of_getElem? hk')
    refine iff_of_false hne ?_
    rintro ⟨c, -, hy⟩
    refine impossible _ hy ?_
    rw [List.take_append_of_le_length hlt, List.append_assoc]
    exact (List.take_prefix _ _).trans (List.prefix_append _ _)
  · subst heq
    rw [List.getElem?_concat_length] at hk'
    refine iff_of_true (kind_of_terminal (Option.some.inj hk').symm) ⟨z, ?_, ?_⟩
    · rintro rfl
      rw [List.take_left, List.append_nil] at hz
      exact impossible _ hz (List.take_prefix _ _)
    · rwa [List.take_left] at hz
  · rw [List.getElem?_eq_none (by simp; omega)] at hk'
    cases hk'

/-! ## the fault of a whole text -/

namespace Component

/-- a sentence is taken, but for its ranges -/
theorem scanText_of_sentence (hw : x.settings.width = .whole w) {s : List Token}
    {z : List Terminal} (hz : Sentence z) (hs : terminals s = z ++ [.mark .endOfInput]) :
    (∃ r, scanText (α := α) x s = .ok r) ∨
      ∃ m q, scanText (α := α) x s = .error (.range m q) := by
  have phrase : Yields (.one .component :: [.mark .endOfInput]) (terminals s) := by
    rw [hs]
    exact hz.append (.mark _ .nil)
  cases (leaves_scanParts (α := α) hw phrase).whole (x := x) with
  | rest taken phrase => exact .inl ⟨_, taken⟩
  | range m q error => exact .inr ⟨m, q, error⟩

/-- what is taken is a sentence -/
theorem sentence_of_scanText (hw : x.settings.width = .whole w) (ht : Ended ts)
    {r : Parts α × List Token} (h : scanText x ts = .ok r) :
    ∃ z, Sentence z ∧ terminals ts = z ++ [.mark .endOfInput] := by
  obtain ⟨p, v⟩ := r
  obtain ⟨u, rfl, phrase, -⟩ := (follows_scanText (.refl hw) ts).ok h
  obtain ⟨z, y, hu, hz, hy⟩ :=
    Yields.split (f := [.one .component]) (g := [.mark .endOfInput]) phrase
  cases hy with
  | mark k tail =>
    cases tail
    obtain ⟨front, hfront, hend⟩ := ht
    rw [terminals_append, hu, List.append_assoc] at hfront
    have suffix : .mark .endOfInput :: terminals v <:+ front ++ [.mark .endOfInput] :=
      ⟨z, hfront⟩
    have hv := eq_nil_of_suffix hend suffix
    exact ⟨z, hz, by rw [terminals_append, hu, hv, List.append_nil]⟩

theorem scanText_fault (hw : x.settings.width = .whole w) (ht : Ended ts) {g : GrammarFault}
    {i : Position} {b : Bool} (h : scanText (α := α) x ts = .error (.grammar g i b)) :
    ∃ k t, ts[k]? = some t ∧ t.position = i ∧ (b = true ↔ t.kind = .endOfInput) ∧
      FirstImpossible (terminals ts) k := by
  have halts := (follows_scanText (.refl hw) ts).halts (f := [.one .component]) ht (by decide) h
  cases halts with
  | @fault u r t g split unfinished again =>
    subst split
    have before : (terminals (u ++ t :: r)).take u.length = terminals u := by
      rw [terminals_take, List.take_left]
    have upTo : (terminals (u ++ t :: r)).take (u.length + 1) = terminals (u ++ [t]) := by
      rw [terminals_take, List.take_length_add_append]
      rfl
    refine ⟨u.length, t, by simp, rfl, decide_eq_true_iff, ?_, fun z hz starts => ?_⟩
    · rw [before]
      exact Unfinished.phrase (f := [.one .component]) unfinished
    · obtain ⟨rest, hrest⟩ := starts
      obtain ⟨v, rfl⟩ := terminals_surjective rest
      rw [upTo, ← terminals_append, List.append_assoc] at hrest
      have stopped := again v
      obtain ⟨p, taken⟩ | ⟨m, q, error⟩ := scanText_of_sentence (α := α) hw hz hrest
      · cases stopped.symm.trans taken
      · cases stopped.symm.trans error

/-! ## texts under any settings

A text that falls into tokens under a width that measures no number holds none, so what is wrong
with it is wrong before its first number, under every width.
-/

/-- a description up to its first number -/
def scanHead (x : Source) : Scanner Nat := do
  let _ ← ofReading (x.expect .memory)
  let _ ← ofReading (x.expect .below)
  ofReading x.number

theorem scanText_head (x : Source) : ∃ q, scanText (α := α) x = scanHead x >>= q := by
  unfold scanText whole scanParts scanHead
  simp only [bind_assoc]
  exact ⟨_, rfl⟩

theorem scanHead_congr (h : y.ending = x.ending) : scanHead y = scanHead x := by
  obtain ⟨settings, i⟩ := x
  obtain ⟨settings', i'⟩ := y
  cases h
  rfl

theorem scanHead_error (hn : ∀ t ∈ ts, ∀ n, t.terminal ≠ .number n) :
    ∃ e, scanHead x ts = .error e := by
  cases h : scanHead x ts with
  | error e => exact ⟨e, rfl⟩
  | ok r =>
    obtain ⟨⟨t₁, s₁⟩, e₁, h₁⟩ := bind_ok h
    obtain ⟨⟨t₂, s₂⟩, e₂, h₂⟩ := bind_ok h₁
    obtain ⟨n, v⟩ := r
    obtain ⟨rfl, -⟩ := expect_ok e₁
    obtain ⟨rfl, -⟩ := expect_ok e₂
    obtain ⟨q, rfl⟩ := number_ok h₂
    exact absurd rfl (hn ⟨.number n, q⟩ (by simp) n)

theorem scanText_congr (h : y.ending = x.ending) (hn : ∀ t ∈ ts, ∀ n, t.terminal ≠ .number n) :
    scanText (α := α) y ts = scanText x ts := by
  obtain ⟨q, hq⟩ := scanText_head (α := α) x
  obtain ⟨q', hq'⟩ := scanText_head (α := α) y
  obtain ⟨e, he⟩ := scanHead_error (x := x) hn
  rw [hq, hq', bind_apply, bind_apply, scanHead_congr h, he]
  rfl

variable {settings : Settings} {text : String}

/-- a description holds a number, so that the width has to measure one -/
theorem width_of_ofText {c : Component α} (h : ofText settings text = .ok c) :
    ∃ w : Nat, settings.width = .whole w := by
  obtain whole | ⟨f, hf⟩ := settings.width.whole_or_error
  · exact whole
  · obtain ⟨ts, rest, hr, v, ht, h, -⟩ := Source.readAll_ok h
    have none := Token.not_number_of_error hf ht
    unfold read at h
    obtain ⟨t₁, s₁, h₁, rfl, k₁, h⟩ := Source.expect_bind h
    obtain ⟨t₂, s₂, h₂, rfl, k₂, h⟩ := Source.expect_bind h
    obtain ⟨n, p, s₃, h₃, rfl, h⟩ := Source.number_bind h
    exact absurd rfl (none ⟨.number n, p⟩ (by simp) n)

/-- the tokens of a description are a sentence -/
theorem sentence_of_ofText (hw : settings.width = .whole w) (hpos : 0 < w)
    (ht : Token.tokens settings.toMeasure text = .ok ts) {c : Component α}
    (h : ofText settings text = .ok c) :
    ∃ z, Sentence z ∧ terminals ts = z ++ [.mark .endOfInput] := by
  rw [ofText_of_tokens hw hpos ht] at h
  cases hs : scanText (α := α) ⟨settings, Source.endOf ts⟩ ts with
  | error e =>
    rw [hs] at h
    cases h
  | ok r => exact sentence_of_scanText (x := ⟨settings, _⟩) hw (Token.tokensFrom_ended ht) hs

/-- a sentence is a description, but for its ranges -/
theorem ofText_of_sentence (hw : settings.width = .whole w) (hpos : 0 < w)
    (ht : Token.tokens settings.toMeasure text = .ok ts) {z : List Terminal} (hz : Sentence z)
    (hs : terminals ts = z ++ [.mark .endOfInput]) :
    (∃ c, ofText (α := α) settings text = .ok c) ∨
      ∃ m i, ofText (α := α) settings text = .error (.range m i) := by
  rw [ofText_of_tokens hw hpos ht]
  obtain ⟨r, taken⟩ | ⟨m, i, error⟩ :=
    scanText_of_sentence (α := α) (x := ⟨settings, Source.endOf ts⟩) hw hz hs
  · rw [taken]
    exact .inl ⟨_, rfl⟩
  · rw [error]
    exact .inr ⟨m, i, rfl⟩

theorem ofText_fault_firstImpossible {g : GrammarFault} {i : Position} {atEnd : Bool}
    (ht : Token.tokens settings.toMeasure text = .ok ts)
    (h : ofText (α := α) settings text = .error (.grammar g i atEnd)) :
    ∃ k t, ts[k]? = some t ∧ t.position = i ∧
      (∀ j t', ts[j]? = some t' → t'.position = i → j = k) ∧
      FirstImpossible (terminals ts) k ∧
      (atEnd = true ↔ ∃ z, z ≠ [] ∧ Sentence ((terminals ts).dropLast ++ z)) := by
  have hend := Token.tokensFrom_ended ht
  have fault := scanText_of_fault ht h
  have found : ∃ k t, ts[k]? = some t ∧ t.position = i ∧ (atEnd = true ↔ t.kind = .endOfInput) ∧
      FirstImpossible (terminals ts) k := by
    obtain ⟨w, hw⟩ | ⟨f, hf⟩ := settings.width.whole_or_error
    · exact scanText_fault hw hend fault
    · have hn := Token.not_number_of_error hf ht
      let y : Source := ⟨{ settings with width := .whole 0 }, Source.endOf ts⟩
      have same := scanText_congr (α := α) (x := ⟨settings, Source.endOf ts⟩) (y := y) rfl hn
      exact scanText_fault (w := 0) (x := y) rfl hend (same.trans fault)
  obtain ⟨k, t, hk, hi, kind, first⟩ := found
  refine ⟨k, t, hk, hi, fun j t' hj hi' => ?_, first, kind.trans (first.atEnd_iff hk hend)⟩
  exact Token.index_unique ht hj hk (hi'.trans hi.symm)

/-- a description that ends within a sequence -/
def unfinishedText : String :=
  "memory<16, 2> \x7b bank \x7b layout: [0:8] translation: [INPUT + 3;"

theorem unfinished_firstImpossible : ∃ ts,
    Token.tokens Settings.standard.toMeasure unfinishedText = .ok ts ∧
      ofText (α := Empty) Settings.standard unfinishedText =
        .error (.grammar .noTranslation ⟨1, 62⟩ true) ∧
      ∃ k t, ts[k]? = some t ∧ t.position = ⟨1, 62⟩ ∧
        (∀ j t', ts[j]? = some t' → t'.position = ⟨1, 62⟩ → j = k) ∧
        FirstImpossible (terminals ts) k ∧
        ∃ z, z ≠ [] ∧ Sentence ((terminals ts).dropLast ++ z) := by
  have lexes : (Token.tokens Settings.standard.toMeasure unfinishedText).toOption.isSome = true := by
    decide +kernel
  obtain ⟨ts, hts⟩ := Option.isSome_iff_exists.mp lexes
  have ht := ok_of_toOption hts
  have h : ofText (α := Empty) Settings.standard unfinishedText =
      .error (.grammar .noTranslation ⟨1, 62⟩ true) :=
    error_of_error? (by decide +kernel)
  obtain ⟨k, t, hk, hi, unique, first, atEnd⟩ := ofText_fault_firstImpossible ht h
  exact ⟨ts, ht, h, k, t, hk, hi, unique, first, atEnd.mp rfl⟩

end Component

end BankSwitch
