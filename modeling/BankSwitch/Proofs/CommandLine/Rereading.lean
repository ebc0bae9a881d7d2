import BankSwitch.Proofs.CommandLine.Options

/-!
# Words that are read twice

`smt-constraints` reads its file and its output a second time, with the options for settings behind
them.  Where both are operands again, the second reading finds what the first one found
(`Plain.reread`).  Where one of them has a dash in front and is taken for an option, no output is found
(`plain_or_marked`).  Two dashes for a file are neither: they are taken for the mark in front of
operands, and so the options for settings behind them are operands, the second of them the output
(`reread_dashes`).
-/

namespace BankSwitch

open Arguments

/-! ## the options for settings, read again -/

variable {config target : Option String} {tail : List (Slot Field)} {os : List (Field × Arity)}

/-- the slots of the options for settings -/
def settingsSlots (config target : Option String) : List (Slot Field) :=
  valueSlots "--config" configOption config ++ valueSlots "--target" targetOption target

theorem readSlots_settings (config target : Option String) (os : List (Field × Arity)) :
    readSlots fullConstraintsForm os (settingsSlots config target) =
      ⟨settingsFound config target, os.any isRequired⟩ := by
  have last : readSlots fullConstraintsForm os (valueSlots "--target" targetOption target ++ []) =
      (readSlots fullConstraintsForm os []).add (valueFound .target target) :=
    readSlots_value rfl target []
  rw [List.append_nil, readSlots_nil] at last
  unfold settingsSlots
  rw [readSlots_value rfl, last]
  unfold Understood.add settingsFound
  rw [List.append_nil]
  rfl

theorem optionNext_settings
    (h : slots fullConstraintsForm (settingsWords config target) = some tail) : OptionNext tail := by
  have opens {name : String} {words : List String} {o : Opt Field} (hne : name ≠ "--")
      (ho : classify fullConstraintsForm name = some (.option name o .nothing))
      (h : slots fullConstraintsForm (name :: words) = some tail) : OptionNext tail := by
    obtain ⟨s, r, hs, -, rfl⟩ := cons_of_slots hne h
    cases hs.symm.trans ho
    intro s' hs'
    cases hs'
    rfl
  cases config with
  | some c => exact opens (by decide) rfl h
  | none =>
    cases target with
    | some t => exact opens (by decide) rfl h
    | none =>
      cases h
      exact optionNext_nil

theorem settings_of_read
    (h : slots fullConstraintsForm (settingsWords config target) = some tail)
    (sound : (readSlots fullConstraintsForm os tail).isFaulty = false) :
    tail = settingsSlots config target := by
  rw [settingsWords_eq, ← List.append_nil (valueWords "--target" target)] at h
  obtain ⟨rest, hrest, rfl⟩ := value_of_read (o := configOption) (by decide) rfl rfl h sound
  rw [readSlots_value rfl] at sound
  obtain ⟨rest', hrest', rfl⟩ := value_of_read (o := targetOption) (by decide) rfl rfl hrest sound
  cases hrest'
  unfold settingsSlots
  rw [List.append_nil]

/-- a file is missing -/
theorem settings_faulty
    (h : slots fullConstraintsForm (settingsWords config target) = some tail) {found : Found} :
    readSlots fullConstraintsForm fullConstraintsForm.operands tail ≠ ⟨found, false⟩ := by
  intro read
  have plain := settings_of_read h (congrArg Understood.isFaulty read)
  subst plain
  cases congrArg Understood.isFaulty ((readSlots_settings config target _).symm.trans read)

/-! ## a file and an output, read again -/

variable {file : String} {out : Option String}

/-- file and output are read as operands, and the options for settings as such -/
structure Plain (config target : Option String) (file : String) (out : Option String) : Prop where
  file : classify fullConstraintsForm file = some (.operand file)
  output : ∀ o ∈ out, classify fullConstraintsForm o = some (.operand o)
  settings : slots fullConstraintsForm (settingsWords config target) =
    some (settingsSlots config target)

/-- one operand is the file -/
theorem takeOperands_file {ss : List (Slot Field)} (hfile : file ≠ "--") (next : OptionNext ss) :
    takeOperands fullConstraintsForm.operands (.operand file :: ss) =
      ([(.file, [file]), (.output, [])], [], 1) :=
  takeOperands_one (.inl rfl) hfile next.dashes (takeOperands_optional next)

/-- two operands are the file and the output -/
theorem takeOperands_both {o : String} {ss : List (Slot Field)} (hfile : file ≠ "--")
    (ho : o ≠ "--") (next : OptionNext ss) :
    takeOperands fullConstraintsForm.operands (.operand file :: .operand o :: ss) =
      ([(.file, [file]), (.output, [o])], [], 2) :=
  takeOperands_one (.inl rfl) hfile rfl (takeOperands_one (.inr rfl) ho next.dashes rfl)

/-- plain words are found to mean what they say -/
theorem Plain.readForm_eq (h : Plain config target file out) (hfile : file ≠ "--")
    (hout : ∀ o ∈ out, o ≠ "--") :
    readForm fullConstraintsForm (file :: out.toList ++ settingsWords config target) =
      .ok ([(.file, [file]), (.output, out.toList)] ++ settingsFound config target) := by
  have next := optionNext_settings h.settings
  have exits : firstExit ([(.file, [file]), (.output, out.toList)] ++ settingsFound config target) =
      none := (findsSettings config target).firstExit
  have settings := readSlots_settings config target []
  refine readForm_eq_ok.mpr ?_
  cases out with
  | none =>
    refine ⟨_, slots_cons hfile h.file h.settings, ?_, exits⟩
    rw [readSlots_operand (takeOperands_file hfile next), List.drop_zero, settings]
    rfl
  | some o =>
    refine ⟨_, slots_cons hfile h.file (slots_cons (hout o rfl) (h.output o rfl) h.settings), ?_,
      exits⟩
    rw [readSlots_operand (takeOperands_both hfile (hout o rfl) next)]
    show (readSlots fullConstraintsForm [] (settingsSlots config target)).add _ = _
    rw [settings]
    rfl

/-- what is found in plain words, as a command -/
theorem Plain.reread (h : Plain config target file out) (hfile : file ≠ "--")
    (hout : ∀ o ∈ out, o ≠ "--") (hconfig : given config = config) (htarget : given target = target)
    (houtput : given out = out) (verbose : Bool) :
    Command.reread ⟨config, target, verbose, .constraints file out⟩ =
      .ok ⟨config, target, verbose, .constraints file out⟩ := by
  let taken : Found := [(.file, [file]), (.output, out.toList)]
  have finds := findsSettings config target
  have configLast : Found.last? (taken ++ settingsFound config target) .config = config := by
    rw [Found.last?_append rfl, Found.last?_of_all finds.config_all, hconfig]
  have targetLast : Found.last? (taken ++ settingsFound config target) .target = target := by
    rw [Found.last?_append rfl, Found.last?_of_all finds.target_all, htarget]
  have files := finds.all_append taken (k := .file) (by decide) (by decide)
  have outputs := finds.all_append taken (k := .output) (by decide) (by decide)
  have outLast : Found.last? (taken ++ settingsFound config target) .output = out := by
    have same : Found.last? (taken ++ settingsFound config target) .output = taken.last? .output := by
      unfold Found.last?
      rw [outputs]
    rw [same]
    cases out with
    | none => rfl
    | some o => exact (Found.last?_of_all (v := some o) rfl).trans houtput
  unfold Command.reread fullWords
  dsimp only
  rw [h.readForm_eq hfile hout]
  show Except.ok (Command.mk _ _ verbose (.constraints
    (Found.operand (taken ++ settingsFound config target) .file)
    (Found.last? (taken ++ settingsFound config target) .output))) = _
  rw [configLast, targetLast, outLast, Found.operand, files]
  rfl

/-- the file and the output, with a dash in front of one of them -/
def Marked (file : String) (out : Option String) : Prop := ∃ x ∈ file :: out.toList, ¬ Unmarked x

theorem not_unmarked {f : Form Field} {word : String} {s : Slot Field} (h : classify f word = some s)
    (hs : ∀ w, s ≠ .operand w) : ¬ Unmarked word := fun unmarked =>
  hs word (Option.some.inj (h.symm.trans (classify_unmarked unmarked)))

theorem output_not_option : Field.output ∉ fullConstraintsForm.options.map Opt.key := by decide

namespace Arguments.Takes

variable {rest : List (Slot Field)} {t : Taken Field}

/-- an option finds no output -/
theorem output (h : Takes fullConstraintsForm rest t) : Found.all t.found .output = [] :=
  Found.all_eq_nil fun e he same => output_not_option (same ▸ h.found e he)

/-- in front of another option, an option takes nothing -/
theorem count_next (h : Takes fullConstraintsForm rest t) (next : OptionNext rest) :
    t.count = 0 := by
  obtain zero | ⟨-, w, r, rfl⟩ := h.count
  · exact zero
  · cases next _ rfl

end Arguments.Takes

theorem last?_file {w : String} {found : Found} (h : found.all .output = []) :
    Found.last? ([(.file, [w]), (.output, [])] ++ found) .output = none := by
  unfold Found.last?
  rw [Found.all_append, h]
  rfl

section

variable {found : Found}
  (htail : slots fullConstraintsForm (settingsWords config target) = some tail)
include htail

/-- the options for settings hold no output -/
theorem output_settings {left : List (Field × Arity)}
    (hread : readSlots fullConstraintsForm left tail = ⟨found, false⟩) :
    tail = settingsSlots config target ∧ found.all .output = [] := by
  have plain := settings_of_read htail (congrArg Understood.isFaulty hread)
  subst plain
  have same := congrArg Understood.found (hread.symm.trans (readSlots_settings config target left))
  subst same
  exact ⟨rfl, (findsSettings config target).other_all (by decide) (by decide)⟩

/-- one slot in front of the options for settings is the file, if anything is -/
theorem last?_one {s : Option (Slot Field)} (hs : ∀ x ∈ s, x.word ≠ "--")
    (ho : ∀ w o a, s = some (.option w o a) → o ∈ fullConstraintsForm.options)
    (hread : readSlots fullConstraintsForm fullConstraintsForm.operands (s.toList ++ tail) =
      ⟨found, false⟩) :
    found.last? .output = none := by
  have next := optionNext_settings htail
  cases s with
  | none => exact absurd hread (settings_faulty htail)
  | some x =>
    cases x with
    | operand w =>
      have hw : w ≠ "--" := hs _ rfl
      obtain ⟨found', read, rfl⟩ := readSlots_taken rfl (takeOperands_file hw next) hread
      exact last?_file (output_settings htail read).2
    | dashes => exact absurd rfl (hs _ rfl)
    | stranger w => cases readSlots_stranger.symm.trans (congrArg Understood.isFaulty hread)
    | option w o a =>
      obtain ⟨t, found', takes, read, -⟩ := readSlots_option (ho w o a rfl) hread
      rw [takes.count_next next, List.drop_zero] at read
      exact absurd read (settings_faulty htail)

/-- behind an option, one slot is the file at most -/
theorem last?_behind {s : Option (Slot Field)} (hs : ∀ x ∈ s, x.word ≠ "--")
    (ho : ∀ w o a, s = some (.option w o a) → o ∈ fullConstraintsForm.options) {w : String}
    {o : Opt Field} {a : Attached} (mem : o ∈ fullConstraintsForm.options)
    (hread : readSlots fullConstraintsForm fullConstraintsForm.operands
      (.option w o a :: (s.toList ++ tail)) = ⟨found, false⟩) :
    found.last? .output = none := by
  obtain ⟨t, found', takes, read, rfl⟩ := readSlots_option mem hread
  rw [Found.last?_append takes.output]
  obtain zero | ⟨one, w', r, taken⟩ := takes.count
  · rw [zero, List.drop_zero] at read
    exact last?_one htail hs ho read
  · cases s with
    | none =>
      change tail = _ at taken
      subst taken
      cases optionNext_settings htail _ rfl
    | some x =>
      rw [one] at read
      exact absurd read (settings_faulty htail)

/-- behind the file, an option finds no output -/
theorem last?_option {w : String} {o : Opt Field} {a : Attached}
    (mem : o ∈ fullConstraintsForm.options) (hfile : file ≠ "--")
    (hread : readSlots fullConstraintsForm fullConstraintsForm.operands
      (.operand file :: .option w o a :: tail) = ⟨found, false⟩) :
    found.last? .output = none := by
  have next : OptionNext (.option w o a :: tail) := by
    rintro _ ⟨⟩
    rfl
  obtain ⟨found', read, rfl⟩ := readSlots_taken rfl (takeOperands_file hfile next) hread
  obtain ⟨t, found'', takes, behind, rfl⟩ := readSlots_option mem read
  rw [takes.count_next (optionNext_settings htail), List.drop_zero] at behind
  have none : Found.all (t.found ++ found'') .output = [] := by
    rw [Found.all_append, takes.output, (output_settings htail behind).2]
    rfl
  exact last?_file none

/-- behind the file, a word is an operand, or marked -/
theorem plain_or_marked_behind {x : String} {s : Slot Field} (hfile : file ≠ "--") (hx : x ≠ "--")
    (isFile : classify fullConstraintsForm file = some (.operand file))
    (hs : classify fullConstraintsForm x = some s)
    (hread : readSlots fullConstraintsForm fullConstraintsForm.operands
      (.operand file :: s :: tail) = ⟨found, false⟩) :
    Plain config target file (some x) ∨ ¬ Unmarked x ∧ found.last? .output = none := by
  cases s with
  | dashes => exact absurd hs (classify_ne_dashes hx)
  | stranger w =>
    have next : OptionNext (.stranger w :: tail) := by
      rintro _ ⟨⟩
      rfl
    obtain ⟨found', read, -⟩ := readSlots_taken rfl (takeOperands_file hfile next) hread
    cases readSlots_stranger.symm.trans (congrArg Understood.isFaulty read)
  | option w o a =>
    exact .inr ⟨not_unmarked hs nofun, last?_option htail (mem_of_classify hs) hfile hread⟩
  | operand w =>
    have same : w = x := word_of_classify hs
    subst same
    have both := takeOperands_both hfile hx (optionNext_settings htail)
    obtain ⟨found', read, -⟩ := readSlots_taken rfl both hread
    obtain ⟨rfl, -⟩ := output_settings htail read
    refine .inl ⟨isFile, ?_, htail⟩
    rintro _ ⟨⟩
    exact hs

end

/-- a file and an output that are read with nothing wrong are plain, or no output is found and one of
them is marked -/
theorem plain_or_marked {found : Found} {ss : List (Slot Field)} (hfile : file ≠ "--")
    (hout : ∀ o ∈ out, o ≠ "--")
    (hss : slots fullConstraintsForm (file :: (out.toList ++ settingsWords config target)) = some ss)
    (hread : readSlots fullConstraintsForm fullConstraintsForm.operands ss = ⟨found, false⟩) :
    Plain config target file out ∨ Marked file out ∧ found.last? .output = none := by
  obtain ⟨s₁, r, h₁, hr, rfl⟩ := cons_of_slots hfile hss
  cases s₁ with
  | dashes => exact absurd h₁ (classify_ne_dashes hfile)
  | stranger w => cases readSlots_stranger.symm.trans (congrArg Understood.isFaulty hread)
  | option w o a =>
    have mem := mem_of_classify h₁
    refine .inr ⟨⟨file, List.mem_cons_self, not_unmarked h₁ nofun⟩, ?_⟩
    cases out with
    | none => exact last?_behind (s := none) hr nofun nofun mem hread
    | some x =>
      obtain ⟨s₂, tail, h₂, htail, rfl⟩ := cons_of_slots (hout x rfl) hr
      refine last?_behind (s := some s₂) htail ?_ ?_ mem hread
      · intro s hs
        cases hs
        rw [word_of_classify h₂]
        exact hout x rfl
      · intro w o a same
        cases same
        exact mem_of_classify h₂
  | operand w =>
    have same : w = file := word_of_classify h₁
    subst same
    cases out with
    | none =>
      have next : OptionNext r := optionNext_settings hr
      obtain ⟨found', read, rfl⟩ := readSlots_taken rfl (takeOperands_file hfile next) hread
      obtain ⟨rfl, -⟩ := output_settings hr read
      exact .inl ⟨h₁, nofun, hr⟩
    | some x =>
      obtain ⟨s₂, tail, h₂, htail, rfl⟩ := cons_of_slots (hout x rfl) hr
      obtain plain | ⟨marked, last⟩ :=
        plain_or_marked_behind htail hfile (hout x rfl) h₁ h₂ hread
      · exact .inl plain
      · exact .inr ⟨⟨x, List.mem_cons_of_mem w List.mem_cons_self, marked⟩, last⟩

/-! ## two dashes for a file, read again -/

theorem takeOperands_dashes (a : String) (ss : List String) :
    takeOperands fullConstraintsForm.operands (.dashes :: .operand a :: ss.map .operand) =
      match ss with
      | [] => ([(.file, [a]), (.output, [])], [], 2)
      | b :: _ => ([(.file, [a]), (.output, [b].erase "--")], [], 3) := by
  cases ss with
  | nil => rfl
  | cons b ss => cases ss <;> rfl

/-- behind two dashes, one word is the file and a second the output -/
theorem found_dashes {words : List String} {found : Found}
    (hread : readSlots fullConstraintsForm fullConstraintsForm.operands
      (.dashes :: words.map .operand) = ⟨found, false⟩) :
    (∃ a, words = [a] ∧ found = [(.file, [a]), (.output, [])]) ∨
      ∃ a b, words = [a, b] ∧ found = [(.file, [a]), (.output, [b].erase "--")] := by
  have ended {ss : List (Slot Field)} {found' : Found}
      (h : readSlots fullConstraintsForm [] ss = ⟨found', false⟩)
      (operands : ∀ x ∈ ss, x.isOption = false) : ss = [] ∧ found' = [] := by
    obtain none | ⟨w, o, a, r, rfl⟩ := readSlots_over h
    · exact none
    · cases operands _ List.mem_cons_self
  have plain (ss : List String) : ∀ x ∈ ss.map (Slot.operand (κ := Field)), x.isOption = false := by
    intro x hx
    obtain ⟨w, -, rfl⟩ := List.mem_map.mp hx
    rfl
  cases words with
  | nil =>
    have refused : (readSlots fullConstraintsForm fullConstraintsForm.operands
        [.dashes]).isFaulty = true := readSlots_refused rfl rfl
    cases refused.symm.trans (congrArg Understood.isFaulty hread)
  | cons a words =>
    have taken := takeOperands_dashes a words
    cases words with
    | nil =>
      obtain ⟨found', behind, rfl⟩ := readSlots_taken rfl taken hread
      obtain ⟨-, rfl⟩ := ended behind nofun
      exact .inl ⟨a, rfl, rfl⟩
    | cons b words =>
      obtain ⟨found', behind, rfl⟩ := readSlots_taken rfl taken hread
      obtain ⟨none, rfl⟩ := ended behind (plain words)
      cases List.map_eq_nil_iff.mp none
      exact .inr ⟨a, b, rfl, rfl⟩

/-- a second reading of `smt-constraints` -/
theorem reread_constraints {verbose : Bool} {c : Command}
    (h : Command.reread ⟨config, target, verbose, .constraints file out⟩ = .ok c) :
    ∃ found, readForm fullConstraintsForm (file :: out.toList ++ settingsWords config target) =
        .ok found ∧
      c = ⟨found.last? .config, found.last? .target, verbose,
        .constraints (found.operand .file) (found.last? .output)⟩ := by
  obtain ⟨found, read, h⟩ := bind_ok h
  cases h
  exact ⟨found, read, rfl⟩

/-- two dashes for a file are taken for a mark: what follows them is the file, and then the output -/
theorem reread_dashes {verbose : Bool} {c : Command}
    (h : Command.reread ⟨config, target, verbose, .constraints "--" out⟩ = .ok c) :
    (∃ f, c.task = .constraints f none) ∨
      out = none ∧ ∃ f x, (x ∈ config ∨ x ∈ target) ∧ c.task = .constraints f (some x) := by
  obtain ⟨found, read, rfl⟩ := reread_constraints h
  obtain ⟨ss, hss, hread, -⟩ := readForm_eq_ok.mp read
  have slots : ss = .dashes :: (out.toList ++ settingsWords config target).map .operand :=
    (Option.some.inj hss).symm
  subst slots
  obtain ⟨a, -, rfl⟩ | ⟨a, b, words, rfl⟩ := found_dashes hread
  · exact .inl ⟨_, rfl⟩
  · cases hl : Found.last? [(.file, [a]), (.output, [b].erase "--")] .output with
    | none => exact .inl ⟨_, rfl⟩
    | some x =>
      have same : x = b := by
        have only : some ([b].erase "--") = some [x] := (Found.last?_eq_some hl).1
        have mem : x ∈ [b].erase "--" := Option.some.inj only ▸ List.mem_singleton_self x
        exact List.mem_singleton.mp (List.mem_of_mem_erase mem)
      subst same
      refine .inr ?_
      cases out with
      | some o => cases config <;> cases target <;> simp [settingsWords] at words
      | none =>
        refine ⟨rfl, _, x, ?_, rfl⟩
        cases config <;> cases target <;> simp_all [settingsWords]

end BankSwitch
