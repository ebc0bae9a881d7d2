import Mathlib.Algebra.Group.Nat.Defs
import BankSwitch.Proofs.Lexing.Numerals
import BankSwitch.Proofs.Scanning.Text

/-!
# Where errors stand

Whatever is wrong with a text, the error names a place in it: the border between what stands before
and what stands behind (`ReadError.Stands`).  So no reader asks for more than the tokens of the text,
and what the constructors of ranges and components refuse is refused before, with a place.  Only where
a decimal has more digits than the host reads is the error the host's own, without a place
(`ReadError.Exceeds`).

* `Token.stands_of_tokens`   the errors of the lexer;
* `Scanner.Follows.stands`   the errors of a reader that follows the grammar;
* `readers_located`   the errors of the four readers of texts.
-/

namespace BankSwitch

open Grammar Scanner

variable {α β : Type} {w : Nat} {digits : Option Nat} {form : RangeForm} {settings : Settings}
  {text : String} {ts : List Token} {e : ReadError}

/-- the error is one of a text on a bus of `w` lines, and names the border of `a` and `b` in it -/
inductive ReadError.Stands (form : RangeForm) (w : Nat) (digits : Option Nat) (a : List Char) :
    List Char → ReadError → Prop
  | lexical {b : List Char} (f : LexicalFault) :
      Stands form w digits a b (.lexical f (Position.start.after a))
  /-- a whole literal stands right behind the place -/
  | overflow {literal rest : List Char} {n : Nat} (numeral : Token.Numeral literal n)
      (begins : Token.Parted a (literal ++ rest)) (ends : Token.Stops rest)
      (large : addressCount w ≤ n) :
      Stands form w digits a (literal ++ rest) (.overflow n w (Position.start.after a))
  | grammar {b : List Char} {atEnd : Bool} (f : GrammarFault) (last : atEnd = true → b = []) :
      Stands form w digits a b (.grammar f (Position.start.after a) atEnd)
  /-- the range that the error is about is what the text goes on with -/
  | range {c : Char} {r : List Char} {ts : List Token} {m : Range.Malformed}
      (opening : c = '(' ∨ c = '[')
      (ahead : Token.tokensFrom (.whole w digits) (Position.start.after a) (c :: r) = .ok ts)
      (offends : Range.Offends form w (terminals ts) m) :
      Stands form w digits a (c :: r) (.range m (Position.start.after a))

theorem ReadError.Stands.position? {a b : List Char} (h : e.Stands form w digits a b) :
    e.position? = some (Position.start.after a) := by
  cases h <;> rfl

/-- the text falls into two where the error stands -/
def ReadError.Located (form : RangeForm) (w : Nat) (digits : Option Nat) (text : String)
    (e : ReadError) : Prop :=
  ∃ a b, a ++ b = text.toList ∧ e.position? = some (Position.start.after a) ∧
    e.Stands form w digits a b

/-- a decimal of the text has more digits than the host reads, and the error says no more than that -/
def ReadError.Exceeds (digits : Option Nat) (text : String) (e : ReadError) : Prop :=
  ∃ a ds rest limit, a ++ (ds ++ rest) = text.toList ∧ Token.Parted a (ds ++ rest) ∧
    (∀ d ∈ ds, d.isDigit = true) ∧ (∀ d ∈ rest.head?, d.isDigit = false) ∧
    digits = some limit ∧ limit < ds.length ∧ e = .decimal ⟨ds.length, limit⟩

theorem ReadError.Stands.located {a b : List Char} (h : e.Stands form w digits a b)
    (split : a ++ b = text.toList) : e.Located form w digits text :=
  ⟨a, b, split, h.position?, h⟩

/-! ## errors of the lexer -/

namespace Token

theorem stands_of_tokens (ht : tokens (.whole w digits) text = .error e) :
    e.Located form w digits text ∨ e.Exceeds digits text := by
  obtain ⟨a, c, r, reach, stopped⟩ := tokens_stopped ht
  have wrong := lexemeAt_misspelled stopped
  have parted := reach.parted
  have split := reach.append
  generalize c :: r = b at wrong parted split
  cases wrong with
  | @lexical a' b' f split' =>
    subst split'
    rw [← Position.after_append]
    exact .inl ((ReadError.Stands.lexical f).located (by rw [← split, List.append_assoc]))
  | overflow split' numeral stops bound large =>
    subst split'
    rw [Measure.limit_whole] at bound
    cases bound
    exact .inl ((ReadError.Stands.overflow numeral parted stops large).located split)
  | decimal split' digits whole bound long =>
    subst split'
    exact .inr ⟨_, _, _, _, split, parted, digits, whole, bound, long, rfl⟩
  | width f none =>
    rw [Measure.limit_whole] at none
    cases none

/-! ## errors of the readers -/

/-- a symbol of one character is spelled by it alone -/
theorem SpelledAs.single {v : Measure} {x : Lexeme} {spelling rest : List Char}
    (h : SpelledAs v x spelling rest) {k : Kind} (hk : x.kind = k) {c : Char}
    (plain : k ∉ .number :: .range :: .identifier :: keywords)
    (listed : ∀ m ∈ symbols, m.2 = k → m.1 = [c]) : spelling = [c] := by
  subst hk
  cases h with
  | number => exact absurd List.mem_cons_self plain
  | word => exact absurd (List.mem_cons_of_mem _ (wordKind_mem _)) plain
  | symbol hs => exact listed _ hs rfl

/-- nothing but a parenthesis or a bracket spells the opening of a range -/
theorem SpelledAs.opening {v : Measure} {x : Lexeme} {spelling rest : List Char}
    (h : SpelledAs v x spelling rest) (hx : x.kind = .leftParen ∨ x.kind = .leftBracket) :
    spelling = ['('] ∨ spelling = ['['] := by
  obtain hk | hk := hx
  · exact .inl (h.single hk (by decide) (by decide))
  · exact .inr (h.single hk (by decide) (by decide))

end Token

theorem Range.Offends.opening {m : Range.Malformed} {t : Token} {r : List Token}
    (h : Range.Offends form w (terminals (t :: r)) m) :
    t.kind = .leftParen ∨ t.kind = .leftBracket := by
  rw [terminals_cons] at h
  generalize hs : t.terminal :: terminals r = s at h
  cases h with
  | term v => exact .inl (kind_of_terminal (List.cons.inj hs).1)
  | plain v | strided v => exact .inr (kind_of_terminal (List.cons.inj hs).1)

theorem Token.Reached.located {t : Token} {r : List Token}
    (h : Reached (.whole w digits) text.toList (t :: r)) (g : GrammarFault) :
    (ReadError.grammar g t.position (t.kind = .endOfInput)).Located form w digits text := by
  cases h with
  | @lexeme a s c q more reach taken ahead =>
    refine (ReadError.Stands.grammar g fun atEnd => ?_).located reach.append
    have ended := terminal_of_kind (of_decide_eq_true atEnd) rfl
    exact absurd ended ((lexemeAt_spelled taken).2.terminal_ne _)
  | atEnd reach => exact (ReadError.Stands.grammar g fun _ => rfl).located reach.append

theorem Token.Reached.located_range {t : Token} {r : List Token} {m : Range.Malformed}
    (h : Reached (.whole w digits) text.toList (t :: r))
    (offends : Range.Offends form w (terminals (t :: r)) m) :
    (ReadError.range m t.position).Located form w digits text := by
  have opening := offends.opening
  cases h with
  | @lexeme a s c q more reach taken ahead =>
    obtain ⟨split, spelled⟩ := lexemeAt_spelled taken
    refine (ReadError.Stands.range ?_ ahead offends).located reach.append
    obtain hc | hc := spelled.opening opening
    · rw [hc] at split
      exact .inl (List.cons.inj split).1.symm
    · rw [hc] at split
      exact .inr (List.cons.inj split).1.symm
  | atEnd reach => simp [Token.atEnd, Token.kind, Token.Lexeme.kind] at opening

namespace Scanner

/-- the errors of a scanner that follows the grammar through a whole text -/
theorem Follows.located {x : Source} {p p' : Scanner α} {f : Form}
    (ht : Token.tokens (.whole w digits) text = .ok ts)
    (h : Follows x w p p' (f ++ [.mark .endOfInput]) ts) (hf : .mark .endOfInput ∉ f)
    (he : p ts = .error e) : e.Located x.settings.rangeForm w digits text := by
  have halts := h.halts (Token.tokensFrom_ended ht) hf he
  cases halts with
  | fault g split unfinished again =>
    subst split
    exact (Token.tokens_reached ht).located g
  | range m split offends =>
    subst split
    exact (Token.tokens_reached ht).located_range offends

end Scanner

/-! ## the readers -/

/-- every error of a text is one with a place in it, or the host's on a decimal that is too long -/
def Locates (settings : Settings) (w : Nat) (ofText : Settings → String → Except ReadError α) :
    Prop :=
  ∀ text e, ofText settings text = .error e →
    e.Located settings.rangeForm w settings.digits text ∨ e.Exceeds settings.digits text

/-- a reading whose errors are those of the lexer and those of a scanner of the tokens -/
theorem located_of_scan (hw : settings.width = .whole w) {m : Except ReadError α}
    {p : Source → Scanner β} {a : Symbol}
    (lexes : ∀ e, Token.tokens settings.toMeasure text = .error e → m = .error e)
    (scans : ∀ ts, Token.tokens settings.toMeasure text = .ok ts →
      ∃ g, m = (p ⟨settings, Source.endOf ts⟩ ts).map g)
    (follows : ∀ {x : Source} (s : List Token), Source.Widens w w x x →
      Follows x w (p x) (p x) ([.one a] ++ [.mark .endOfInput]) s)
    (hm : m = .error e) :
    e.Located settings.rangeForm w settings.digits text ∨ e.Exceeds settings.digits text := by
  have measure := Settings.measure_of_width hw
  cases ht : Token.tokens settings.toMeasure text with
  | error e' =>
    cases hm.symm.trans (lexes e' ht)
    rw [measure] at ht
    exact Token.stands_of_tokens ht
  | ok ts =>
    obtain ⟨g, hg⟩ := scans ts ht
    rw [hg] at hm
    rw [measure] at ht
    let x : Source := ⟨settings, Source.endOf ts⟩
    cases hs : p x ts with
    | error e' =>
      rw [hs] at hm
      cases hm
      exact .inl ((follows (x := x) ts (.refl hw)).located ht (by simp) hs)
    | ok r =>
      rw [hs] at hm
      cases hm

theorem Source.readAll_locates (hw : settings.width = .whole w)
    {read : Source → (s : List Token) → Except ReadError (Reading α s)} {a : Symbol}
    (follows : ∀ {x : Source} (s : List Token), Widens w w x x →
      Follows x w (ofReading (read x)) (ofReading (read x)) [.one a] s) :
    Locates settings w fun settings text => readAll settings text read :=
  fun _ _ h => located_of_scan hw (fun _ => readAll_of_error)
    (fun _ ht => ⟨_, readAll_of_tokens ht⟩) (fun s hx => (follows s hx).whole hx) h

theorem Component.locates (hw : settings.width = .whole w) (hpos : 0 < w) :
    Locates settings w (Component.ofText (α := α)) :=
  fun _ _ h => located_of_scan hw (fun _ => Source.readAll_of_error)
    (fun _ ht => ⟨_, ofText_of_tokens hw hpos ht⟩) (fun s hx => follows_scanText hx s) h

/-- whatever is wrong with a text, each of the four readers gives an error with a place in it; the one
exception is the host's own error on a decimal with too many digits.  How deep the host lets a text be
nested is left out -/
theorem readers_located (hw : settings.width = .whole w) (hpos : 0 < w) :
    Locates settings w (Component.ofText (α := α)) ∧
      Locates settings w Partition.ofText ∧
      Locates settings w (Translation.ofText (α := α)) ∧
      Locates settings w (Guard.ofText (α := α)) :=
  ⟨Component.locates hw hpos, Source.readAll_locates hw fun s hx => Partition.follows_read hx s,
    Source.readAll_locates hw fun s hx => Translation.follows_read hx s,
    Source.readAll_locates hw fun s hx => Guard.follows_read hx s⟩

/-- a description that breaks off, a range that ends before it starts, a literal of 65 bits, and a mark
without digits at the end of a text -/
theorem samples_located :
    (Component.ofText (α := Empty) Settings.standard "memory<1, 2> \x7b" =
        .error (.grammar .noBank ⟨1, 15⟩ true) ∧
      (ReadError.grammar .noBank ⟨1, 15⟩ true).Located .size 64 (some hostDigits)
        "memory<1, 2> \x7b") ∧
    (Partition.ofText Settings.standard "[[0:4] [8:4]]" =
        .error (.range ⟨.stopBelowStart, 8, 4, none⟩ ⟨1, 8⟩) ∧
      (ReadError.range ⟨.stopBelowStart, 8, 4, none⟩ ⟨1, 8⟩).Located .size 64 (some hostDigits)
        "[[0:4] [8:4]]") ∧
    (Translation.ofText (α := Empty) Settings.standard "INPUT + #x10000000000000000" =
        .error (.overflow (2 ^ 64) 64 ⟨1, 9⟩) ∧
      (ReadError.overflow (2 ^ 64) 64 ⟨1, 9⟩).Located .size 64 (some hostDigits)
        "INPUT + #x10000000000000000") ∧
    Guard.ofText (α := Empty) Settings.standard "INPUT < #" =
        .error (.lexical (.hexMark none) ⟨1, 10⟩) ∧
      (ReadError.lexical (.hexMark none) ⟨1, 10⟩).Located .size 64 (some hostDigits)
        "INPUT < #" := by
  obtain ⟨component, partition, translation, guard⟩ :=
    @readers_located Empty 64 Settings.standard rfl (by decide)
  have located {e : ReadError} {text : String} {p : Position} (place : e.position? = some p)
      (h : e.Located .size 64 (some hostDigits) text ∨ e.Exceeds (some hostDigits) text) :
      e.Located .size 64 (some hostDigits) text := by
    obtain h | ⟨_, _, _, _, _, _, _, _, _, _, rfl⟩ := h
    · exact h
    · cases place
  have noBank : Component.ofText (α := Empty) Settings.standard "memory<1, 2> \x7b" =
      .error (.grammar .noBank ⟨1, 15⟩ true) := error_of_error? (by decide +kernel)
  have belowStart : Partition.ofText Settings.standard "[[0:4] [8:4]]" =
      .error (.range ⟨.stopBelowStart, 8, 4, none⟩ ⟨1, 8⟩) := error_of_error? (by decide +kernel)
  have tooLarge : Translation.ofText (α := Empty) Settings.standard "INPUT + #x10000000000000000" =
      .error (.overflow (2 ^ 64) 64 ⟨1, 9⟩) := error_of_error? (by decide +kernel)
  have noDigits : Guard.ofText (α := Empty) Settings.standard "INPUT < #" =
      .error (.lexical (.hexMark none) ⟨1, 10⟩) := error_of_error? (by decide +kernel)
  exact ⟨⟨noBank, located rfl (component _ _ noBank)⟩,
    ⟨belowStart, located rfl (partition _ _ belowStart)⟩,
    ⟨tooLarge, located rfl (translation _ _ tooLarge)⟩, noDigits, located rfl (guard _ _ noDigits)⟩

/-- the host's error on a decimal with one digit too many -/
def hostError : ReadError := .decimal ⟨hostDigits + 1, hostDigits⟩

/-- on nought with too many zeros in front, every reader fails with the host's error, which names no
place -/
theorem readers_unread :
    Component.ofText (α := Empty) Settings.standard (Token.nought hostDigits) = .error hostError ∧
      Partition.ofText Settings.standard (Token.nought hostDigits) = .error hostError ∧
      Translation.ofText (α := Empty) Settings.standard (Token.nought hostDigits) =
        .error hostError ∧
      Guard.ofText (α := Empty) Settings.standard (Token.nought hostDigits) = .error hostError ∧
      hostError.position? = none :=
  have unread := Token.tokens_nought 64 hostDigits
  ⟨Source.readAll_of_error unread, Source.readAll_of_error unread,
    Source.readAll_of_error unread, Source.readAll_of_error unread, rfl⟩

end BankSwitch
