import BankSwitch.Proofs.Lexing.Respacing
import BankSwitch.Proofs.Scanning.Placeless

/-!
# White space only separates

A text whose spellings are woven with other white space has the same tokens, and every reader reads it
as the same; or it finds the same wrong with it, in another place (`readers_respaced`).
-/

namespace BankSwitch

variable {α β : Type} {settings : Settings} {text : String} {ts : List Token}

/-! ## errors that say the same -/

/-- the kinds of errors that a host can tell apart -/
inductive ErrorClass where
  /-- spellings and grammar -/
  | syntactic
  | overflow
  | decimal
  | range
  | width
  | build
  | exhausted

namespace ReadError

def errorClass : ReadError → ErrorClass
  | .lexical _ _ => .syntactic
  | .overflow _ _ _ => .overflow
  | .decimal _ => .decimal
  | .grammar _ _ _ => .syntactic
  | .range _ _ => .range
  | .width _ => .width
  | .build _ => .build
  | .exhausted => .exhausted

/-- what would have been right, where the error says so -/
def expected? : ReadError → Option String
  | .lexical f _ => f.expected?
  | .grammar f _ _ => some f.expected
  | _ => none

/-- errors that say the same, wherever they stand -/
structure Alike (e e' : ReadError) : Prop where
  errorClass : e.errorClass = e'.errorClass
  bare : e.bare = e'.bare
  expected : e.expected? = e'.expected?
  atEnd : e.atEnd = e'.atEnd

/-- what an error says does not depend on its place -/
theorem alike_placeless (e : ReadError) : e.Alike e.placeless := by
  cases e <;> exact ⟨rfl, rfl, rfl, rfl⟩

theorem alike_of_placeless {e e' : ReadError} (h : e.placeless = e'.placeless) : e.Alike e' := by
  have here := e.alike_placeless
  have there := e'.alike_placeless
  rw [h] at here
  exact ⟨here.errorClass.trans there.errorClass.symm, here.bare.trans there.bare.symm,
    here.expected.trans there.expected.symm, here.atEnd.trans there.atEnd.symm⟩

end ReadError

/-- the same value, or errors that say the same -/
inductive ReadsAlike : Except ReadError β → Except ReadError β → Prop
  | value (b : β) : ReadsAlike (.ok b) (.ok b)
  | error {e e' : ReadError} (alike : e.Alike e') : ReadsAlike (.error e) (.error e')

theorem readsAlike_of_placeless {m m' : Except ReadError β}
    (h : m.mapError ReadError.placeless = m'.mapError ReadError.placeless) : ReadsAlike m m' := by
  cases m with
  | ok b =>
    cases m' with
    | ok b' =>
      cases h
      exact .value b
    | error e' => cases h
  | error e =>
    cases m' with
    | ok b' => cases h
    | error e' => exact .error (ReadError.alike_of_placeless (Except.error.inj h))

/-! ## texts -/

/-- a text with other white space between its spellings has the same lexemes, and the readers of
components, partitions, translations and guards read it alike -/
theorem readers_respaced (lexes : Token.tokens settings.toMeasure text = .ok ts) :
    (∃ xs, Token.SpelledOut settings.toMeasure text.toList xs ∧
      ts.map Token.lexeme = xs.map Token.Spelled.lexeme ++ [.endOfInput]) ∧
    ∀ (xs : List Token.Spelled) (gap : List Char) (woven : List (List Char × List Char))
      (text' : String), Token.SpelledOut settings.toMeasure text.toList xs →
      woven.map Prod.fst = xs.map Token.Spelled.spelling → Token.Gaps gap woven →
      text'.toList = Token.weave gap woven →
        (∃ ts', Token.tokens settings.toMeasure text' = .ok ts' ∧
          ts'.map Token.lexeme = ts.map Token.lexeme) ∧
        ReadsAlike (Component.ofText (α := α) settings text') (Component.ofText settings text) ∧
        ReadsAlike (Partition.ofText settings text') (Partition.ofText settings text) ∧
        ReadsAlike (Translation.ofText (α := α) settings text')
          (Translation.ofText settings text) ∧
        ReadsAlike (Guard.ofText (α := α) settings text') (Guard.ofText settings text) := by
  refine ⟨Token.spelledOut_of_tokens lexes, ?_⟩
  intro xs gap woven text' spelled spellings gaps respaced
  obtain ⟨ts₀, ts', lexes₀, lexes', same⟩ := Token.tokens_weave spelled spellings gaps respaced
  cases lexes.symm.trans lexes₀
  have alike {γ : Type} {read : Source → (s : List Token) → Except ReadError (Reading γ s)}
      (forgets : ∀ (x : Source) s,
        Scanner.Forgets id (Scanner.ofReading (read x)) (Scanner.ofReading (read x.placeless)) s) :
      ReadsAlike (Source.readAll settings text' read) (Source.readAll settings text read) :=
    readsAlike_of_placeless (Source.readAll_congr forgets lexes lexes' same)
  exact ⟨⟨ts', lexes', same⟩, alike fun _ => Component.forgets_read,
    alike fun _ => Partition.forgets_read, alike fun _ => Translation.forgets_read,
    alike fun _ => Guard.forgets_read⟩

/-- the spellings of a word, a symbol and a number -/
def shifted : List Token.Spelled :=
  [⟨.spelled .input "INPUT", ['I', 'N', 'P', 'U', 'T']⟩, ⟨.spelled .shift ">>", ['>', '>']⟩,
    ⟨.number 1, ['1']⟩]

theorem spelledOut_shifted : Token.SpelledOut Settings.standard.toMeasure "INPUT>>1".toList shifted := by
  have nothing : ∀ c ∈ ([] : List Char), Token.isBlank c = true := List.forall_mem_nil _
  have digit : Token.Numeral ['1'] 1 :=
    .decimal (List.cons_ne_nil _ _) (List.forall_mem_singleton.mpr rfl)
  have number : Token.Longest Settings.standard.toMeasure (.number 1) ['1'] [] :=
    .number digit nofun (fun _ => by decide) rfl (by decide)
  have symbol : Token.Longest Settings.standard.toMeasure (.spelled .shift ">>") ['>', '>'] ['1'] :=
    .symbol (by decide) (by decide)
  have word : Token.Longest Settings.standard.toMeasure (.spelled .input "INPUT")
      ['I', 'N', 'P', 'U', 'T'] ['>', '>', '1'] := by
    refine .word (c := 'I') (r := ['N', 'P', 'U', 'T']) rfl (List.all_eq_true.mp rfl) ?_
    rintro c ⟨⟩
    rfl
  have letters : "INPUT>>1".toList = ['I', 'N', 'P', 'U', 'T', '>', '>', '1'] :=
    String.toList_ofList
  rw [letters]
  exact .lexeme (x := ⟨_, _⟩) nothing word (.lexeme (x := ⟨_, _⟩) nothing symbol
    (.lexeme (x := ⟨_, _⟩) nothing number (.ending nothing)))

/-- over two lines, the text is the same translation, and no partition for the same reason -/
theorem readers_respaced_shifted :
    ∃ ts, Token.tokens Settings.standard.toMeasure "INPUT>>1" = .ok ts ∧
      (∃ ts', Token.tokens Settings.standard.toMeasure " INPUT\n>>\t1" = .ok ts' ∧
        ts'.map Token.lexeme = ts.map Token.lexeme) ∧
      Translation.ofText (α := Empty) Settings.standard " INPUT\n>>\t1" =
        .ok (.body (.primitive (.shiftRight 1))) ∧
      Partition.ofText Settings.standard "INPUT>>1" =
        .error (.grammar .noRange ⟨1, 1⟩ false) ∧
      ∃ e, Partition.ofText Settings.standard " INPUT\n>>\t1" = .error e ∧
        e.Alike (.grammar .noRange ⟨1, 1⟩ false) := by
  have gaps : Token.Gaps [' ']
      [(['I', 'N', 'P', 'U', 'T'], ['\n']), (['>', '>'], ['\t']), (['1'], [])] :=
    ⟨List.forall_mem_singleton.mpr rfl, by simp [Token.isBlank], by simp⟩
  have woven : " INPUT\n>>\t1".toList = Token.weave [' ']
      [(['I', 'N', 'P', 'U', 'T'], ['\n']), (['>', '>'], ['\t']), (['1'], [])] :=
    String.toList_ofList
  obtain ⟨ts, -, lexes, -, -⟩ := Token.tokens_weave spelledOut_shifted rfl gaps woven
  obtain ⟨-, respaced⟩ := readers_respaced (α := Empty) lexes
  obtain ⟨same, -, partition, translation, -⟩ := respaced _ _ _ _ spelledOut_shifted rfl gaps woven
  have dense : Translation.ofText (α := Empty) Settings.standard "INPUT>>1" =
      .ok (.body (.primitive (.shiftRight 1))) := ok_of_toOption (by decide +kernel)
  have wrong : Partition.ofText Settings.standard "INPUT>>1" =
      .error (.grammar .noRange ⟨1, 1⟩ false) := error_of_error? (by decide +kernel)
  rw [dense] at translation
  rw [wrong] at partition
  refine ⟨ts, lexes, same, ?_, wrong, ?_⟩
  · generalize Translation.ofText Settings.standard " INPUT\n>>\t1" = outcome at translation ⊢
    cases translation
    rfl
  · generalize Partition.ofText Settings.standard " INPUT\n>>\t1" = outcome at partition ⊢
    cases partition with
    | error alike => exact ⟨_, rfl, alike⟩

end BankSwitch
