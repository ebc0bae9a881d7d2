import BankSwitch.CommandLine.Failure
import BankSwitch.Proofs.Faults
import BankSwitch.Proofs.Located
import BankSwitch.Proofs.Settings

/-!
# What settings are good for

Under a width that counts lines every text is a component or has an error of its own, but for texts
with a decimal that is longer than the host reads.  Settings that a document holds have such a width if
it is written as an integer (`Settings.usable_of_ofDocument`).  One that is written with a point passes
for an integer too, but measures no number, so a text that holds one cannot be read.
-/

namespace BankSwitch

open Grammar Scanner

variable {α : Type}

/-! ## what a text gives -/

/-- the error is one of the text itself, or the host's on a decimal in it -/
def ReadError.OfText (digits : Option Nat) (text : String) (e : ReadError) : Prop :=
  Failure.isTextFault e = true ∨ e.Exceeds digits text

theorem ReadError.Stands.isTextFault {form : RangeForm} {w : Nat} {digits : Option Nat}
    {a b : List Char} {e : ReadError} (h : e.Stands form w digits a b) :
    Failure.isTextFault e = true := by
  cases h <;> rfl

namespace Component

variable {settings : Settings} {text : String} {ts : List Token} {e : ReadError}

theorem read_head (x : Source) : ∃ q, ofReading (read (α := α) x) = scanHead x >>= q := by
  rw [ofReading_read]
  unfold scanParts scanHead
  simp only [bind_assoc]
  exact ⟨_, rfl⟩

/-- an error in front of the first number is the error of the text -/
theorem ofText_of_scanHead (ht : Token.tokens settings.toMeasure text = .ok ts)
    (h : scanHead ⟨settings, Source.endOf ts⟩ ts = .error e) :
    ofText (α := α) settings text = .error e := by
  obtain ⟨q, hq⟩ := read_head (α := α) ⟨settings, Source.endOf ts⟩
  unfold ofText
  rw [Source.readAll_of_tokens ht]
  unfold whole
  rw [hq, bind_apply, bind_apply, h]
  rfl

/-- under a width that measures no number a text has an error of its own, or a number in it is the
error -/
theorem ofText_of_limit_error {f : WidthError} (hf : settings.width.limit = .error f)
    (text : String) : ∃ e, ofText (α := α) settings text = .error e ∧
      (e.OfText settings.digits text ∨ e = .width f) := by
  cases ht : Token.tokens settings.toMeasure text with
  | error e =>
    refine ⟨e, Source.readAll_of_error ht, ?_⟩
    obtain ⟨a, c, r, reach, stopped⟩ := Token.tokens_stopped ht
    have misspelled := Token.lexemeAt_misspelled stopped
    have parted := reach.parted
    have whole := reach.append
    generalize c :: r = b at misspelled parted whole
    cases misspelled with
    | lexical f split => exact .inl (.inl rfl)
    | overflow split numeral stops bound large => cases hf.symm.trans bound
    | decimal split digits ends bound long =>
      subst split
      exact .inl (.inr ⟨_, _, _, _, whole, parted, digits, ends, bound, long, rfl⟩)
    | width g none =>
      cases hf.symm.trans none
      exact .inr rfl
  | ok ts =>
    have hn := Token.not_number_of_error hf ht
    obtain ⟨e, he⟩ := scanHead_error (x := ⟨settings, Source.endOf ts⟩) hn
    refine ⟨e, ofText_of_scanHead ht he, .inl (.inl ?_)⟩
    let y : Source := ⟨{ settings with width := .whole 0 }, Source.endOf ts⟩
    have same : scanText (α := α) y ts = .error e := by
      obtain ⟨q, hq⟩ := scanText_head (α := α) y
      rw [hq, bind_apply, scanHead_congr (x := ⟨settings, Source.endOf ts⟩) (y := y) rfl, he]
      rfl
    have halts := (follows_scanText (w := 0) (x := y) (.refl rfl) ts).halts (f := [.one .component])
      (Token.tokensFrom_ended ht) (by decide) same
    cases halts with
    | fault | range => rfl

/-- the text is a component, or something is wrong with the text itself -/
def Readable (α : Type) (s : Settings) (text : String) : Prop :=
  (∃ c, ofText (α := α) s text = .ok c) ∨
    ∃ e, ofText (α := α) s text = .error e ∧ e.OfText s.digits text

theorem readable_of_width {w : Nat} (hw : settings.width = .whole w) (hpos : 0 < w) (text : String) :
    Readable α settings text := by
  unfold Readable
  cases h : ofText (α := α) settings text with
  | ok c => exact .inl ⟨c, rfl⟩
  | error e =>
    obtain ⟨a, b, -, -, stands⟩ | exceeds := locates hw hpos text e h
    · exact .inr ⟨e, rfl, .inl stands.isTextFault⟩
    · exact .inr ⟨e, rfl, .inr exceeds⟩

end Component

namespace Settings

/-- what the settings in a document are, and what they make of texts: under a width without a point
every text can be read but for its own errors and for decimals that are too long for the host, and under
one with a point no text is a component.  How deep the host lets a text be nested is left out -/
theorem usable_of_ofDocument {d : Document} {s : Settings} (h : ofDocument d = .ok s) :
    ∃ es, d = .mapping es ∧ Gives es s ∧
      ((∃ w : Nat, s.width = .whole w ∧ 1 ≤ w ∧ w ≤ 4096 ∧
          ∀ text, Component.Readable α s text) ∨
        ∃ x n, Document.get? es "width" = some (.real x) ∧ s.width = .real n ∧
          ∀ text, ∃ e, Component.ofText (α := α) s text = .error e ∧
            (e.OfText s.digits text ∨ e = .width .real)) := by
  obtain ⟨es, rfl, gives⟩ := gives_of_ofDocument h
  refine ⟨es, rfl, gives, ?_⟩
  have width := gives.width
  generalize hv : Document.get? es "width" = v at width
  generalize hs : s.width = u at width
  cases width with
  | standard =>
    exact .inl ⟨64, rfl, by decide, by decide, Component.readable_of_width hs (by decide)⟩
  | @whole n pos le => exact .inl ⟨n, rfl, pos, le, Component.readable_of_width hs pos⟩
  | @real x n same pos le =>
    refine .inr ⟨x, n, rfl, rfl, Component.ofText_of_limit_error ?_⟩
    rw [hs]
    rfl

/-- a bus of 16 lines, printed with terms -/
def sampleDocument : Document :=
  .mapping [(.text "width", .integer 16), (.text "style", .text "z3")]

theorem usable_sample :
    ofDocument sampleDocument = .ok ⟨.whole 16 (some hostDigits), .size, .terms⟩ ∧
      ∀ text, Component.Readable Empty ⟨.whole 16 (some hostDigits), .size, .terms⟩ text := by
  have held : ofDocument sampleDocument = .ok ⟨.whole 16 (some hostDigits), .size, .terms⟩ :=
    ok_of_toOption (by decide +kernel)
  obtain ⟨es, -, -, ⟨w, -, -, -, readable⟩ | ⟨x, n, -, pointed, -⟩⟩ :=
    usable_of_ofDocument (α := Empty) held
  · exact ⟨held, readable⟩
  · cases pointed

/-- the sixteen that is written `16.0` -/
def pointedSixteen : Binary64 := .finite false (1 <<< 52) (-48)

/-- a width with a point is let through, and measures no number -/
theorem unusable_pointed :
    ofDocument (.mapping [(.text "width", .real pointedSixteen)]) =
        .ok ⟨⟨.real 16, some hostDigits⟩, .size, .compact⟩ ∧
      Component.ofText (α := Empty) ⟨⟨.real 16, some hostDigits⟩, .size, .compact⟩
          "memory<1,1>\x7bbank\x7blayout:[0:1] translation:NOOP\x7d\x7d" = .error (.width .real) ∧
      Failure.isTextFault (.width .real) = false :=
  ⟨ok_of_toOption (by decide +kernel), error_of_error? (by decide +kernel), rfl⟩

end Settings

end BankSwitch
