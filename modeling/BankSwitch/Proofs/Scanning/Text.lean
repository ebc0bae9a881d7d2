import BankSwitch.Proofs.Lexing.Places
import BankSwitch.Proofs.Scanning.Component

/-!
# Scanning texts

The tokens of a text end with the end of the text, which no phrase holds; so a scanner of a whole text
that stops does so at one of its tokens (`Halts`).
-/

namespace BankSwitch

open Grammar Scanner

variable {α β : Type} {w w' : Nat} {x x' : Source}

namespace Scanner

/-- a scanner, and the end of the text behind it -/
def whole (x : Source) (p : Scanner α) : Scanner α := do
  let a ← p
  let _ ← ofReading (x.expect .endOfInput)
  return a

theorem Follows.whole (hx : Source.Widens w w' x x') {p p' : Scanner α} {f : Form}
    {s : List Token} (h : Follows x w p p' f s) :
    Follows x w (whole x p) (whole x' p') (f ++ [.mark .endOfInput]) s :=
  h.bind fun _ t _ => (Follows.expect hx t rfl).bind fun _ _ _ => .done _

theorem Leaves.whole {p : Scanner α} {s : List Token} (h : Leaves p [.mark .endOfInput] s) :
    Leaves (whole x p) [] s :=
  h.bind fun _ _ _ ht => (Leaves.expect ht).bind fun _ _ _ hr => .done _ hr

/-- how a scanner of a whole text may stop -/
inductive Halts (x : Source) (w : Nat) (p' : Scanner α) (f : Form) (ts : List Token) :
    ReadError → Prop
  | fault {u r : List Token} {t : Token} (g : GrammarFault) (split : ts = u ++ t :: r)
      (unfinished : Unfinished f (terminals u))
      (again : ∀ v, p' (u ++ t :: v) = .error (x.fault (t :: r) g)) :
      Halts x w p' f ts (.grammar g t.position (t.kind = .endOfInput))
  | range {u r : List Token} {t : Token} (m : Range.Malformed) (split : ts = u ++ t :: r)
      (offends : Range.Offends x.settings.rangeForm w (terminals (t :: r)) m) :
      Halts x w p' f ts (.range m t.position)

end Scanner

/-- what can follow the beginning of a whole text can follow the beginning of a phrase -/
theorem Grammar.Unfinished.phrase {f : Form} {s : List Terminal}
    (h : Unfinished (f ++ [.mark .endOfInput]) s) : ∃ z, Yields f (s ++ z) := by
  obtain ⟨c, hc, hy⟩ := h
  obtain ⟨u, v, hs, hu, hv⟩ := hy.split
  cases hv with
  | mark k tail =>
    cases tail
    have hl := congrArg List.dropLast hs
    rw [List.dropLast_append_of_ne_nil hc, List.dropLast_concat] at hl
    exact ⟨c.dropLast, hl ▸ hu⟩

theorem Ended.not_unfinished {ts : List Token} {f : Form} (ht : Ended ts)
    (hf : .mark .endOfInput ∉ f) : ¬ Unfinished (f ++ [.mark .endOfInput]) (terminals ts) := by
  intro h
  obtain ⟨z, hz⟩ := h.phrase
  obtain ⟨front, hfront, -⟩ := ht
  have closed := hz.closed hf
  rw [hfront] at closed
  simp at closed

theorem Scanner.Follows.halts {p p' : Scanner α} {f : Form} {ts : List Token} {e : ReadError}
    (h : Follows x w p p' (f ++ [.mark .endOfInput]) ts) (ht : Ended ts)
    (hf : .mark .endOfInput ∉ f) (he : p ts = .error e) :
    Halts x w p' (f ++ [.mark .endOfInput]) ts e := by
  obtain ⟨u, r, rfl, stops⟩ := h.error he
  have spent (hr : r = []) : ¬ Unfinished (f ++ [.mark .endOfInput]) (terminals u) := by
    subst hr
    rw [List.append_nil] at ht
    exact ht.not_unfinished hf
  cases stops with
  | fault g unfinished again =>
    cases r with
    | nil => exact absurd unfinished (spent rfl)
    | cons t r => exact .fault g rfl unfinished fun v => again (t :: v) rfl
  | range m opening offends =>
    subst opening
    exact .range m rfl offends
  | exhausted unfinished hr => exact absurd unfinished (spent hr)

/-! ## texts -/

namespace Source

variable {settings : Settings} {text : String} {ts : List Token}
  {read : Source → (s : List Token) → Except ReadError (Reading α s)}

theorem readAll_of_tokens (ht : Token.tokens settings.toMeasure text = .ok ts) :
    readAll settings text read = (whole ⟨settings, endOf ts⟩
      (ofReading (read ⟨settings, endOf ts⟩)) ts).map Prod.fst := by
  unfold readAll ofText
  rw [ht]
  let x : Source := ⟨settings, endOf ts⟩
  show (read x ts >>= fun r => x.expect .endOfInput r.rest >>= fun _ => pure r.value) = _
  unfold whole
  rw [bind_apply]
  unfold ofReading
  cases read x ts with
  | error e => rfl
  | ok r =>
    show (x.expect .endOfInput r.rest >>= _) =
      Except.map Prod.fst ((x.expect .endOfInput r.rest).map _ >>= _)
    cases x.expect .endOfInput r.rest <;> rfl

theorem readAll_of_error {e : ReadError} (ht : Token.tokens settings.toMeasure text = .error e) :
    readAll settings text read = .error e := by
  unfold readAll ofText
  rw [ht]
  rfl

end Source

namespace Component

variable {settings : Settings} {text : String} {ts : List Token}

/-- the parts of a component, and the end of the text behind them -/
def scanText (x : Source) : Scanner (Parts α) := whole x (scanParts x)

theorem follows_scanText (hx : Source.Widens w w' x x') (s : List Token) :
    Follows x w (scanText (α := α) x) (scanText x') [.one .component, .mark .endOfInput] s :=
  (follows_scanParts hx s).whole hx

/-- on a bus with lines, a text describes a component if it holds the parts of one -/
theorem ofText_of_tokens (hw : settings.width = .whole w) (hpos : 0 < w)
    (ht : Token.tokens settings.toMeasure text = .ok ts) :
    ofText (α := α) settings text =
      (scanText ⟨settings, Source.endOf ts⟩ ts).map fun r => r.1.component w hpos := by
  unfold ofText
  rw [Source.readAll_of_tokens ht, ofReading_read]
  unfold scanText whole
  rw [bind_assoc, bind_apply, bind_apply]
  cases scanParts (α := α) ⟨settings, Source.endOf ts⟩ ts with
  | error e => rfl
  | ok r =>
    obtain ⟨p, s⟩ := r
    have built : p.build settings.width.value = .ok (p.component w hpos) := by
      rw [hw]
      exact p.build_pos hpos
    dsimp only [ok_bind]
    rw [judge_bind_ok built, bind_apply, bind_apply]
    cases ofReading (Source.expect ⟨settings, Source.endOf ts⟩ .endOfInput) s <;> rfl

/-- an error of the grammar is one of the parts or of the end, whatever the width -/
theorem scanText_of_fault {g : GrammarFault} {i : Position} {b : Bool}
    (ht : Token.tokens settings.toMeasure text = .ok ts)
    (h : ofText (α := α) settings text = .error (.grammar g i b)) :
    scanText (α := α) ⟨settings, Source.endOf ts⟩ ts = .error (.grammar g i b) := by
  unfold ofText at h
  rw [Source.readAll_of_tokens ht, ofReading_read] at h
  unfold scanText
  unfold whole at h ⊢
  rw [bind_assoc, bind_apply] at h
  rw [bind_apply]
  cases hp : scanParts (α := α) ⟨settings, Source.endOf ts⟩ ts with
  | error e =>
    rw [hp] at h
    cases h
    rfl
  | ok r =>
    rw [hp] at h
    obtain ⟨p, s⟩ := r
    dsimp only [ok_bind] at h ⊢
    cases hb : p.build settings.width.value with
    | error e =>
      rw [judge_bind_error hb] at h
      cases h
      exact absurd hb p.build_ne_fault
    | ok c =>
      rw [judge_bind_ok hb, bind_apply] at h
      rw [bind_apply]
      cases he : ofReading (Source.expect ⟨settings, Source.endOf ts⟩ .endOfInput) s with
      | error e =>
        rw [he] at h
        cases h
        rfl
      | ok r =>
        rw [he] at h
        cases h

end Component

end BankSwitch
