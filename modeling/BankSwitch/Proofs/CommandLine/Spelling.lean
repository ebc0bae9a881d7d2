import BankSwitch.Proofs.CommandLine.Leaving
import BankSwitch.Proofs.CommandLine.Once

/-!
# Words for a command

Values behind equals signs, and two dashes in front of the file, say a command whatever its values look
like.  So a command that some words give is given by words without its output, too
(`exists_once_toPrint`).
-/

namespace BankSwitch

open Arguments

/-! ## words with equals signs -/

namespace Arguments

variable {κ : Type} {f : Form κ} {o : Opt κ}

/-- the word of an option with its value behind an equals sign, if it is given -/
def assignedWords (name : String) (v : Option String) : List String :=
  v.toList.map fun x => name ++ "=" ++ x

def assignedSlots (name : String) (o : Opt κ) (v : Option String) : List (Slot κ) :=
  v.toList.map fun x => .option (name ++ "=" ++ x) o (.assigned x.toList)

/-- no name of an option has an equals sign -/
def Form.HasPlainNames (f : Form κ) : Prop := ∀ e ∈ f.named, '=' ∉ e.1.toList

instance (f : Form κ) : Decidable f.HasPlainNames := inferInstanceAs (Decidable (∀ e ∈ f.named, _))

theorem toList_assigned (name x : String) :
    (name ++ "=" ++ x).toList = name.toList ++ '=' :: x.toList := by
  rw [String.toList_append, String.toList_append, List.append_assoc]
  rfl

theorem Form.HasPlainNames.of_find? (hf : f.HasPlainNames) {name : String} (ho : f.find? name = some o) :
    '=' ∉ name.toList := by
  obtain ⟨e, he, -⟩ := Option.map_eq_some_iff.mp ho
  have named : e.1 = name := by simpa using List.find?_some he
  exact named ▸ hf e (List.mem_of_find?_eq_some he)

/-- no option is named like an option with its value -/
theorem Form.HasPlainNames.find?_assigned (hf : f.HasPlainNames) (name x : String) :
    f.find? (name ++ "=" ++ x) = none := by
  unfold Form.find?
  rw [Option.map_eq_none_iff, List.find?_eq_none]
  intro e he same
  apply hf e he
  rw [of_decide_eq_true same, toList_assigned]
  exact List.mem_append_right _ List.mem_cons_self

theorem splitValue_assigned {s : List Char} (plain : '=' ∉ s) (x : List Char) :
    splitValue (s ++ '=' :: x) = (s, .assigned x) := by
  have before : ∀ c ∈ s, (decide (c ≠ '=')) = true := by
    intro c hc
    apply decide_eq_true
    rintro rfl
    exact plain hc
  unfold splitValue
  rw [List.dropWhile_append_of_pos before, List.takeWhile_append_of_pos before]
  simp

theorem classify_assigned (hf : f.HasPlainNames) {name : String} {c : Char} {cs : List Char}
    (dash : name.toList = '-' :: c :: cs) (ho : f.find? name = some o) (x : String) :
    classify f (name ++ "=" ++ x) = some (.option (name ++ "=" ++ x) o (.assigned x.toList)) := by
  have parts : splitValue (name ++ "=" ++ x).toList = (name.toList, .assigned x.toList) := by
    rw [toList_assigned]
    exact splitValue_assigned (hf.of_find? ho) x.toList
  unfold classify
  split
  · next d r word =>
    rw [hf.find?_assigned]
    dsimp only
    rw [← word, parts]
    dsimp only
    rw [String.ofList_toList, ho]
  · next other =>
    exact (other c (cs ++ '=' :: x.toList) (by rw [toList_assigned, dash]; rfl)).elim

theorem opens_assigned (hf : f.HasPlainNames) (name : String) {c : Char} {cs : List Char}
    (dash : name.toList = '-' :: c :: cs) (ho : f.find? name = some o) (takes : o.takesValue = true)
    (v : Option String) :
    Opens f (assignedWords name v) (assignedSlots name o v) (valueFound o.key v) := by
  cases v with
  | none => exact .nil
  | some x =>
    have hne : name ++ "=" ++ x ≠ "--" := by
      intro same
      have text := congrArg String.toList same
      rw [toList_assigned, dash] at text
      simp at text
    exact {
      slots := slots_cons hne (classify_assigned hf dash ho x)
      next := by
        rintro ss - s ⟨⟩
        rfl
      reads := by
        intro os ss
        have taken : takeOption f o (.assigned x.toList) ss = some ⟨[(o.key, [x])], 0, false⟩ := by
          unfold takeOption takeAssigned
          dsimp only
          rw [if_pos takes, String.ofList_toList]
        show readSlots f os (.option (name ++ "=" ++ x) o (.assigned x.toList) :: ss) = _
        rw [readSlots, taken]
        rfl }

/-- an option without a value -/
theorem opens_flag {name : String} (hne : name ≠ "--")
    (ho : classify f name = some (.option name o .nothing)) (bare : o.takesValue = false) :
    Opens f [name] [.option name o .nothing] [(o.key, [])] where
  slots := slots_cons hne ho
  next := by
    rintro ss - s ⟨⟩
    rfl
  reads os ss := by
    have taken : takeOption f o .nothing ss = some ⟨[(o.key, [])], 0, false⟩ := by
      unfold takeOption takeBare
      dsimp only
      rw [bare]
      rfl
    show readSlots f os (.option name o .nothing :: ss) = _
    rw [readSlots, taken]
    rfl

end Arguments

/-! ## words for a command -/

/-- words in front of the name of a command -/
def frontWords (config target : Option String) (verbose : Bool) : List String :=
  assignedWords "--config" config ++ assignedWords "--target" target ++
    if verbose then ["-v"] else []

/-- what is found in the call for more to read -/
def verboseFound (verbose : Bool) : Found := if verbose then [(.verbose, [])] else []

theorem opens_front (config target : Option String) (verbose : Bool) :
    ∃ front, Opens mainForm (frontWords config target verbose) front
      (settingsFound config target ++ verboseFound verbose) := by
  have plain : mainForm.HasPlainNames := by decide
  have configs := opens_assigned (o := configOption) plain "--config" rfl rfl rfl config
  have targets := opens_assigned (o := targetOption) plain "--target" rfl rfl rfl target
  have flag : ∃ front, Opens mainForm (if verbose then ["-v"] else []) front
      (verboseFound verbose) := by
    cases verbose with
    | false => exact ⟨[], .nil⟩
    | true => exact ⟨_, opens_flag (o := verboseOption) (by decide) rfl rfl⟩
  obtain ⟨front, flag⟩ := flag
  exact ⟨_, (configs.append targets).append flag⟩

theorem once_front {config target : Option String} (hconfig : given config = config)
    (htarget : given target = target) (verbose : Bool) {name : String} (hname : Unmarked name)
    {rest : List String} {ss : List (Slot Field)} (hrest : slots mainForm rest = some ss)
    {task : Task} (htask : readTask name rest = .ok task) :
    Command.once (frontWords config target verbose ++ name :: rest) =
      .ok (some ⟨config, target, verbose, task⟩) := by
  obtain ⟨front, opens⟩ := opens_front config target verbose
  let found : Found := settingsFound config target ++ verboseFound verbose
  have finds := findsSettings config target
  have other {k : Field} (hk : Field.verbose ≠ k) : (verboseFound verbose).all k = [] := by
    cases verbose with
    | false => rfl
    | true => exact Found.all_eq_nil (List.forall_mem_singleton.mpr hk)
  have goesOn : firstExit found = none := by
    refine firstExit_append.mpr ⟨finds.firstExit, ?_⟩
    cases verbose <;> rfl
  have options : found.all .command = [] := by
    rw [Found.all_append, finds.other_all (by decide) (by decide), other (by decide)]
    rfl
  have configLast : found.last? .config = config := by
    refine (Found.last?_of_all ?_).trans hconfig
    rw [Found.all_append, other (by decide), List.append_nil, finds.config_all]
  have targetLast : found.last? .target = target := by
    refine (Found.last?_of_all ?_).trans htarget
    rw [Found.all_append, other (by decide), List.append_nil, finds.target_all]
  have asked : found.has .verbose = verbose := by
    have quiet : (settingsFound config target).has .verbose = false :=
      Found.has_eq_false (finds.other_all (by decide) (by decide))
    have both : found.has .verbose =
        ((settingsFound config target).has .verbose || (verboseFound verbose).has .verbose) :=
      List.any_append
    rw [both, quiet]
    cases verbose <;> rfl
  rw [once_task opens goesOn options hname hrest htask, configLast, targetLast, asked]

/-- the words of `emit` are none of those in front of a command, and not taken for several -/
theorem slots_style {style : Option Style} (h : ∀ y ∈ style, y.HasName) (file : String) :
    ∃ ss, slots mainForm (assignedWords "--style" (style.map Style.name) ++ ["--", file]) =
      some ss := by
  cases style with
  | none => exact ⟨_, rfl⟩
  | some y =>
    have words : ∀ v ∈ styleNames, "--style" ++ "=" ++ v ≠ "--" ∧
        (classify mainForm ("--style" ++ "=" ++ v)).isSome = true := by decide
    obtain ⟨hne, known⟩ := words y.name (h y rfl).1
    obtain ⟨s, hs⟩ := Option.isSome_iff_exists.mp known
    exact ⟨_, slots_cons hne hs rfl⟩

theorem readTask_emit {style : Option Style} (h : ∀ y ∈ style, y.HasName) (file : String) :
    readTask "emit" (assignedWords "--style" (style.map Style.name) ++ ["--", file]) =
      .ok (.emit file style none) := by
  have plain : emitForm.HasPlainNames := by decide
  have opens := opens_assigned (o := styleOption) plain "--style" rfl rfl rfl
    (style.map Style.name)
  let found : Found := valueFound .style (style.map Style.name) ++ [(.file, [file])]
  have goesOn : firstExit found = none := by
    refine firstExit_append.mpr ⟨?_, rfl⟩
    cases style with
    | none => rfl
    | some y =>
      have listed : [y.name].all styleNames.contains = true := by simpa using (h y rfl).1
      exact if_pos listed
  have read : readForm emitForm (assignedWords "--style" (style.map Style.name) ++ ["--", file]) =
      .ok found := by
    have taken : takeOperands emitForm.operands [.dashes, .operand file] =
        ([(.file, [file])], [], 2) := rfl
    refine readForm_eq_ok.mpr ⟨_, opens.slots rfl, ?_, goesOn⟩
    have operand : readSlots emitForm emitForm.operands [.dashes, .operand file] =
        ⟨[(.file, [file])], false⟩ := by
      rw [readSlots_front rfl taken]
      show (readSlots emitForm [] []).add _ = _
      rw [readSlots_nil]
      rfl
    exact (opens.reads _ _).trans (congrArg (Understood.add _) operand)
  have asked : (found.last? .style).map Style.ofName = style := by
    cases style with
    | none => rfl
    | some y =>
      have named : ∀ v ∈ styleNames, v ≠ "" := by decide
      have last : found.last? .style = some y.name := if_neg (named _ (h y rfl).1)
      rw [last, Option.map_some, (h y rfl).2]
  have name (words : List String) : readTask "emit" words = (do
      let f ← readForm emitForm words
      return .emit (f.operand .file) ((f.last? .style).map .ofName) (f.last? .output)) := rfl
  rw [name, read]
  show Except.ok (Task.emit (found.operand .file) ((found.last? .style).map .ofName)
    (found.last? .output)) = _
  rw [asked]
  cases style <;> rfl

theorem readTask_constraints (file : String) :
    readTask "smt-constraints" ["--", file] = .ok (.constraints file none) := by
  have taken : takeOperands constraintsForm.operands [.dashes, .operand file] =
      ([(.file, [file]), (.output, [])], [], 2) := rfl
  have operands : readSlots constraintsForm constraintsForm.operands [.dashes, .operand file] =
      ⟨[(.file, [file]), (.output, [])], false⟩ := by
    rw [readSlots_front rfl taken]
    show (readSlots constraintsForm [] []).add _ = _
    rw [readSlots_nil]
    rfl
  have read : readForm constraintsForm ["--", file] = .ok [(.file, [file]), (.output, [])] :=
    readForm_eq_ok.mpr ⟨_, rfl, operands, rfl⟩
  have name (words : List String) : readTask "smt-constraints" words = (do
      let f ← readForm constraintsForm words
      return .constraints (f.operand .file) (f.last? .output)) := rfl
  rw [name, read]
  rfl

/-- a command that asks for a file is, without it, a command that words give -/
theorem exists_once_toPrint {c : Command} (h : c.Sound) {place : String}
    (asked : c.task.place = some place) :
    ∃ words, Command.once words = .ok (some c.toPrint) := by
  obtain ⟨config, target, verbose, task⟩ := c
  cases task with
  | emit file style output =>
    obtain ⟨ss, hss⟩ := slots_style h.task file
    exact ⟨_, once_front h.config h.target verbose (show Unmarked "emit" by decide) hss
      (readTask_emit h.task file)⟩
  | constraints file output =>
    exact ⟨_, once_front h.config h.target verbose
      (show Unmarked "smt-constraints" by decide) rfl (readTask_constraints file)⟩
  | _ => cases asked

end BankSwitch
