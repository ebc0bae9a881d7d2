import BankSwitch.Proofs.Lexing.Widths
import BankSwitch.Proofs.Scanning.Text

/-!
# Descriptions on wider buses

The width says which numbers fit and how far a range may go, and both only admit more on a wider bus.
So two readers of one text on buses of different widths go side by side: what the one on the narrower
bus reads, and every fault of the text that it finds, the other finds as well.
-/

namespace BankSwitch

open Grammar Scanner

variable {α : Type} {w w' : Nat} {digits : Option Nat} {settings settings' : Settings}
  {text : String} {ts : List Token}

theorem Token.tokens_persist (h : w ≤ w') (text : String) :
    Persists (tokens (.whole w digits) text) (tokens (.whole w' digits) text) :=
  tokensFrom_persists (Measure.within_whole h digits) _ _

theorem tokens_persist_of_width (hw : settings.width = .whole w)
    (hw' : settings'.width = .whole w') (host : settings'.digits = settings.digits) (h : w ≤ w')
    (text : String) :
    Persists (Token.tokens settings.toMeasure text) (Token.tokens settings'.toMeasure text) := by
  rw [Settings.measure_of_width hw, Settings.measure_of_width hw', host]
  exact Token.tokens_persist h text

namespace Component

/-- the component on a bus of another width -/
def onBus (c : Component α) (w : Nat) (hw : 0 < w) : Component α :=
  { c with width := w, width_pos := hw }

theorem scanText_widened {x x' : Source} (hx : Source.Widens w w' x x') {p : Parts α}
    {v : List Token} (h : scanText x ts = .ok (p, v)) : scanText x' ts = .ok (p, v) := by
  obtain ⟨u, rfl, -, again⟩ := (follows_scanText hx ts).ok h
  exact again v rfl

theorem scanText_fault_widened {x x' : Source} (hx : Source.Widens w w' x x') (ht : Ended ts)
    {e : ReadError} (h : scanText (α := α) x ts = .error e) (he : e.Syntactic) :
    scanText (α := α) x' ts = .error e := by
  have halts := (follows_scanText hx ts).halts (f := [.one .component]) ht (by decide) h
  cases halts with
  | @fault u r t g split unfinished again =>
    subst split
    exact again r
  | range m split offends => exact he.elim

/-- a text that falls into tokens is read from the same tokens on both buses -/
theorem ofText_side_by_side (hw : settings.width = .whole w) (hw' : settings'.width = .whole w')
    (form : settings'.rangeForm = settings.rangeForm)
    (host : settings'.digits = settings.digits) (hpos : 0 < w) (hle : w ≤ w')
    (ht : Token.tokens settings.toMeasure text = .ok ts) :
    ∃ x x', Source.Widens w w' x x' ∧
      ofText (α := α) settings text =
        (scanText x ts).map (fun r => r.1.component w hpos) ∧
      ofText (α := α) settings' text =
        (scanText x' ts).map (fun r => r.1.component w' (Nat.lt_of_lt_of_le hpos hle)) := by
  have persist := tokens_persist_of_width hw hw' host hle text
  refine ⟨⟨settings, Source.endOf ts⟩, ⟨settings', Source.endOf ts⟩, ⟨hw, hw', hle, form, rfl⟩,
    ofText_of_tokens hw hpos ht, ofText_of_tokens hw' _ (persist.ok ts ht)⟩

/-- what is read on a bus is read on a wider one, as the same component but for the width -/
theorem ofText_onBus (hw : settings.width = .whole w) (hw' : settings'.width = .whole w')
    (form : settings'.rangeForm = settings.rangeForm)
    (host : settings'.digits = settings.digits) (hpos : 0 < w) (hle : w ≤ w')
    {c : Component α} (h : ofText settings text = .ok c) :
    c.width = w ∧ ofText settings' text = .ok (c.onBus w' (Nat.lt_of_lt_of_le hpos hle)) := by
  cases ht : Token.tokens settings.toMeasure text with
  | error e => cases h.symm.trans (Source.readAll_of_error ht)
  | ok ts =>
    obtain ⟨x, x', hx, e, e'⟩ := ofText_side_by_side (α := α) hw hw' form host hpos hle ht
    rw [e] at h
    rw [e']
    cases hs : scanText (α := α) x ts with
    | error f => rw [hs] at h; cases h
    | ok r =>
      obtain ⟨p, v⟩ := r
      rw [hs] at h
      cases h
      rw [scanText_widened hx hs]
      exact ⟨rfl, rfl⟩

/-- an error of the text itself stays what it is on a wider bus -/
theorem ofText_syntactic (hw : settings.width = .whole w) (hw' : settings'.width = .whole w')
    (form : settings'.rangeForm = settings.rangeForm)
    (host : settings'.digits = settings.digits) (hpos : 0 < w) (hle : w ≤ w') {e : ReadError}
    (h : ofText (α := α) settings text = .error e) (he : e.Syntactic) :
    ofText (α := α) settings' text = .error e := by
  cases ht : Token.tokens settings.toMeasure text with
  | error e₀ =>
    cases h.symm.trans (Source.readAll_of_error ht)
    have persist := tokens_persist_of_width hw hw' host hle text
    exact Source.readAll_of_error (persist.error e he ht)
  | ok ts =>
    obtain ⟨x, x', hx, e₁, e₂⟩ := ofText_side_by_side (α := α) hw hw' form host hpos hle ht
    rw [e₁] at h
    rw [e₂]
    cases hs : scanText (α := α) x ts with
    | ok r => rw [hs] at h; cases h
    | error f =>
      rw [hs] at h
      cases h
      rw [scanText_fault_widened hx (Token.tokensFrom_ended ht) hs he]
      rfl

theorem ofText_widened (hw : settings.width = .whole w) (hw' : settings'.width = .whole w')
    (form : settings'.rangeForm = settings.rangeForm)
    (host : settings'.digits = settings.digits) (hpos : 0 < w) (hle : w ≤ w') :
    (∀ c : Component α, ofText settings text = .ok c → c.width = w ∧
      ofText settings' text = .ok (c.onBus w' (Nat.lt_of_lt_of_le hpos hle))) ∧
    ∀ e, ofText (α := α) settings text = .error e → e.Syntactic →
      ofText (α := α) settings' text = .error e :=
  ⟨fun _ h => ofText_onBus hw hw' form host hpos hle h,
    fun _ h he => ofText_syntactic hw hw' form host hpos hle h he⟩

/-- the sample on a bus of 128 lines, and a text with a character that no token starts with -/
theorem sample_widened :
    (ofText Settings.standard sampleText = .ok sample ∧
      ofText { Settings.standard with width := .whole 128 } sampleText =
        .ok (sample.onBus 128 (by decide))) ∧
    ofText (α := Empty) Settings.standard "memory<1, $" =
        .error (.lexical (.strayCharacter '$') ⟨1, 11⟩) ∧
      ofText (α := Empty) { Settings.standard with width := .whole 128 } "memory<1, $" =
        .error (.lexical (.strayCharacter '$') ⟨1, 11⟩) := by
  have stray : ofText (α := Empty) Settings.standard "memory<1, $" =
      .error (.lexical (.strayCharacter '$') ⟨1, 11⟩) := error_of_error? (by decide +kernel)
  have widened (text : String) := @ofText_widened Empty 64 128 Settings.standard
    { Settings.standard with width := .whole 128 } text rfl rfl rfl rfl (by decide) (by decide)
  exact ⟨⟨ofText_sample, ((widened sampleText).1 sample ofText_sample).2⟩, stray,
    (widened "memory<1, $").2 _ stray trivial⟩

end Component

end BankSwitch
