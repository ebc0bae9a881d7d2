import BankSwitch.CommandLine.Command

/-!
# The words of commands

How words without a dash in front are read: each is an operand, or the value of the option before it.
So a command with a file and the options for settings in front of it is read as that command, with its
settings and its file; and those that read their words a second time find the same
(`ofWords_parse`, `ofWords_emit`, `ofWords_constraints`).
-/

namespace BankSwitch

namespace Arguments

variable {κ : Type} {f : Form κ} {os : List (κ × Arity)}

/-! ## words and slots -/

/-- no dash stands in front of the word -/
def Unmarked (word : String) : Prop := word.toList.head? ≠ some '-'

instance (word : String) : Decidable (Unmarked word) := inferInstanceAs (Decidable (_ ≠ _))

theorem Unmarked.ne_dashes {word : String} (h : Unmarked word) : word ≠ "--" := by
  rintro rfl
  exact h rfl

theorem classify_unmarked {word : String} (h : Unmarked word) :
    classify f word = some (.operand word) := by
  unfold classify
  split
  · next text => exact absurd (congrArg List.head? text) h
  · rfl

theorem word_of_classify {word : String} {s : Slot κ} (h : classify f word = some s) :
    s.word = word := by
  have part {s : Slot κ} (h : classifyPartial f word = some s) : s.word = word := by
    unfold classifyPartial at h
    split at h
    · cases h
      rfl
    · split at h <;> cases h <;> rfl
    · cases h
  unfold classify at h
  split at h
  · split at h
    · cases h
      rfl
    · split at h
      · exact part h
      · split at h
        · cases h
          rfl
        · exact part h
  · cases h
    rfl

theorem slots_cons {word : String} {words : List String} {s : Slot κ} {ss : List (Slot κ)}
    (hne : word ≠ "--") (hs : classify f word = some s) (hss : slots f words = some ss) :
    slots f (word :: words) = some (s :: ss) := by
  rw [slots, if_neg hne, hs, hss]
  rfl

/-- slots keep their words -/
theorem words_of_slots {words : List String} {ss : List (Slot κ)} (h : slots f words = some ss) :
    ss.map Slot.word = words := by
  induction words generalizing ss with
  | nil =>
    cases h
    rfl
  | cons word words ih =>
    rw [slots] at h
    split at h
    · next dashes =>
      cases h
      rw [dashes, List.map_cons, List.map_map]
      exact congrArg ("--" :: ·) (List.map_id words)
    · obtain ⟨s, hs, h⟩ := Option.bind_eq_some_iff.mp h
      obtain ⟨rest, hrest, h⟩ := Option.bind_eq_some_iff.mp h
      cases h
      rw [List.map_cons, word_of_classify hs, ih hrest]

/-! ## options with a value -/

/-- the words of an option with its value, if it is given -/
def valueWords (name : String) (v : Option String) : List String :=
  match v with
  | some v => [name, v]
  | none => []

/-- the slots of an option with its value -/
def valueSlots (name : String) (o : Opt κ) (v : Option String) : List (Slot κ) :=
  match v with
  | some v => [.option name o .nothing, .operand v]
  | none => []

/-- what an option with a value is found to mean -/
def valueFound (k : κ) (v : Option String) : List (κ × List String) :=
  match v with
  | some v => [(k, [v])]
  | none => []

theorem slots_value {name : String} {o : Opt κ} {v : Option String} {words : List String}
    {ss : List (Slot κ)} (hne : name ≠ "--")
    (ho : classify f name = some (.option name o .nothing)) (hv : ∀ x ∈ v, Unmarked x)
    (hss : slots f words = some ss) :
    slots f (valueWords name v ++ words) = some (valueSlots name o v ++ ss) := by
  cases v with
  | none => exact hss
  | some x =>
    have value := hv x rfl
    exact slots_cons hne ho (slots_cons value.ne_dashes (classify_unmarked value) hss)

theorem readSlots_value {name : String} {o : Opt κ} (ho : o.takesValue = true) (v : Option String)
    (ss : List (Slot κ)) :
    readSlots f os (valueSlots name o v ++ ss) =
      (readSlots f os ss).add (valueFound o.key v) := by
  cases v with
  | none => rfl
  | some x =>
    have taken : takeOption f o .nothing (.operand x :: ss) = some ⟨[(o.key, [x])], 1, false⟩ :=
      if_pos ho
    have slots : valueSlots name o (some x) ++ ss =
        .option name o .nothing :: .operand x :: ss := rfl
    rw [slots, readSlots, taken]
    rfl

/-! ## operands -/

theorem readSlots_nil : readSlots f os [] = ⟨[], os.any isRequired⟩ := by
  rw [readSlots]

/-- no operand and no dashes come next -/
def OptionNext (ss : List (Slot κ)) : Prop := ∀ s ∈ ss.head?, s.isOption = true

theorem OptionNext.dashes {ss : List (Slot κ)} (h : OptionNext ss) :
    ss.takeWhile Slot.isDashes = [] := by
  cases ss with
  | nil => rfl
  | cons s ss =>
    have first : s.isDashes = false := by
      have option := h s rfl
      cases s <;> first | rfl | cases option
    rw [List.takeWhile_cons, first]
    rfl

theorem optionNext_nil : OptionNext ([] : List (Slot κ)) := fun _ h => nomatch h

theorem optionNext_value {name : String} {o : Opt κ} (v : Option String) {ss : List (Slot κ)}
    (h : OptionNext ss) : OptionNext (valueSlots name o v ++ ss) := by
  cases v with
  | none => exact h
  | some x =>
    intro s hs
    cases hs
    rfl

/-- an operand that takes one word -/
theorem takeOperands_one {k : κ} {a : Arity} (ha : a = .one ∨ a = .optional) {w : String}
    (hw : w ≠ "--") {ss : List (Slot κ)} (h : ss.takeWhile Slot.isDashes = [])
    {found : List (κ × List String)} {left : List (κ × Arity)} {n : Nat}
    (rest : takeOperands os ss = (found, left, n)) :
    takeOperands ((k, a) :: os) (.operand w :: ss) = ((k, [w]) :: found, left, 1 + n) := by
  have count : a.take (.operand w :: ss) = some 1 := by
    have behind : a.take (.operand w :: ss) = some (0 + 1 + (ss.takeWhile Slot.isDashes).length) := by
      obtain rfl | rfl := ha <;> rfl
    rw [behind, h]
    rfl
  have plain : a ≠ .command := by
    obtain rfl | rfl := ha <;> decide
  have values : valuesOf [w] = [w] := by
    unfold valuesOf
    rw [List.erase_of_not_mem]
    exact fun mem => hw (List.mem_singleton.mp mem).symm
  unfold takeOperands
  rw [count]
  dsimp only
  rw [List.take_succ_cons, List.take_zero, List.drop_succ_cons, List.drop_zero, rest, if_neg plain]
  exact congrArg (fun vs => ((k, vs) :: found, (left, 1 + n))) values

/-- an operand that may be missing, and is -/
theorem takeOperands_optional {k : κ} {ss : List (Slot κ)} (h : OptionNext ss) :
    takeOperands [(k, .optional)] ss = ([(k, [])], [], 0) := by
  have count : Arity.optional.take ss = some 0 := by
    unfold Arity.take
    rw [h.dashes]
    cases ss with
    | nil => rfl
    | cons s ss =>
      have option := h s rfl
      cases s <;> first | rfl | cases option
  unfold takeOperands
  rw [count]
  rfl

/-- an operand, or the two dashes in front of one, where operands are handed out -/
theorem readSlots_front {x : Slot κ} (hx : x.isOption = false) {ss : List (Slot κ)}
    {found : List (κ × List String)} {left : List (κ × Arity)} {n : Nat}
    (h : takeOperands os (x :: ss) = (found, left, n + 1)) :
    readSlots f os (x :: ss) = (readSlots f left (ss.drop n)).add found := by
  rw [readSlots]
  · rw [h]
    rfl
  · rintro _ rfl
    cases hx
  · rintro _ _ _ rfl
    cases hx

theorem readSlots_operand {w : String} {ss : List (Slot κ)} {found : List (κ × List String)}
    {left : List (κ × Arity)} {n : Nat}
    (h : takeOperands os (.operand w :: ss) = (found, left, n + 1)) :
    readSlots f os (.operand w :: ss) = (readSlots f left (ss.drop n)).add found :=
  readSlots_front rfl h

/-- the name of a command takes everything behind it -/
theorem readSlots_command {k : κ} {name : String} {words : List String} {ss : List (Slot κ)}
    (h : slots f words = some ss) :
    readSlots f [(k, .command)] (.operand name :: ss) = ⟨[(k, name :: words)], false⟩ := by
  have taken : takeOperands [(k, .command)] (.operand name :: ss) =
      ([(k, name :: words)], [], ss.length + 1) := by
    have count : Arity.command.take (.operand name :: ss) = some (ss.length + 1) := rfl
    unfold takeOperands
    rw [count]
    dsimp only
    rw [List.take_succ_cons, List.take_length, List.drop_succ_cons, List.drop_length, List.map_cons,
      words_of_slots h]
    rfl
  rw [readSlots_operand taken, List.drop_length, readSlots_nil]
  rfl

/-! ## options in front of other words -/

/-- the words have their slots in front of those of the words behind them, and are found to mean
options -/
structure Opens (f : Form κ) (words : List String) (front : List (Slot κ))
    (found : List (κ × List String)) : Prop where
  slots : ∀ {rest ss}, slots f rest = some ss → slots f (words ++ rest) = some (front ++ ss)
  next : ∀ {ss}, OptionNext ss → OptionNext (front ++ ss)
  reads : ∀ os ss, readSlots f os (front ++ ss) = (readSlots f os ss).add found

theorem Opens.nil : Opens f [] [] [] where
  slots h := h
  next h := h
  reads _ _ := rfl

theorem Opens.append {words words' : List String} {front front' : List (Slot κ)}
    {found found' : List (κ × List String)} (h : Opens f words front found)
    (h' : Opens f words' front' found') :
    Opens f (words ++ words') (front ++ front') (found ++ found') where
  slots hss := by
    rw [List.append_assoc, List.append_assoc]
    exact h.slots (h'.slots hss)
  next hss := by
    rw [List.append_assoc]
    exact h.next (h'.next hss)
  reads os ss := by
    rw [List.append_assoc, h.reads, h'.reads]
    unfold Understood.add
    rw [List.append_assoc]

/-- an option with its value behind it -/
theorem opens_value {name : String} {o : Opt κ} {v : Option String} (hne : name ≠ "--")
    (ho : classify f name = some (.option name o .nothing)) (takes : o.takesValue = true)
    (hv : ∀ x ∈ v, Unmarked x) :
    Opens f (valueWords name v) (valueSlots name o v) (valueFound o.key v) where
  slots := slots_value hne ho hv
  next := optionNext_value v
  reads _ ss := readSlots_value takes v ss

end Arguments

open Arguments

variable {config target : Option String} {words : List String}

/-! ## settings in front of a command -/

/-- the words are the options for settings, one or the other first -/
def GivesSettings (config target : Option String) (words : List String) : Prop :=
  words = valueWords "--config" config ++ valueWords "--target" target ∨
    words = valueWords "--target" target ++ valueWords "--config" config

/-- a value that counts: an empty one does not -/
def given (v : Option String) : Option String := v.filter (· ≠ "")

theorem settingsWords_eq (config target : Option String) :
    settingsWords config target = valueWords "--config" config ++ valueWords "--target" target := rfl

theorem given_given (v : Option String) : given (given v) = given v := by
  cases v with
  | none => rfl
  | some x =>
    by_cases hx : x = ""
    · rw [hx]
      rfl
    · have kept : given (some x) = some x := Option.filter_some_pos (decide_eq_true hx)
      rw [kept, kept]

/-- what the options for settings are found to mean, one or the other first -/
def FindsSettings (config target : Option String) (found : Found) : Prop :=
  found = valueFound .config config ++ valueFound .target target ∨
    found = valueFound .target target ++ valueFound .config config

/-- what the options for settings are found to mean -/
def settingsFound (config target : Option String) : Found :=
  valueFound .config config ++ valueFound .target target

theorem findsSettings (config target : Option String) :
    FindsSettings config target (settingsFound config target) := .inl rfl

theorem opens_settings {f : Form Field}
    (isConfig : classify f "--config" = some (.option "--config" configOption .nothing))
    (isTarget : classify f "--target" = some (.option "--target" targetOption .nothing))
    (hconfig : ∀ x ∈ config, Unmarked x) (htarget : ∀ x ∈ target, Unmarked x)
    (h : GivesSettings config target words) :
    ∃ front found, FindsSettings config target found ∧ Opens f words front found := by
  have configs := opens_value (by decide) isConfig rfl hconfig
  have targets := opens_value (by decide) isTarget rfl htarget
  obtain rfl | rfl := h
  · exact ⟨_, _, .inl rfl, configs.append targets⟩
  · exact ⟨_, _, .inr rfl, targets.append configs⟩

/-! ## what was found -/

theorem Found.all_append (f g : Found) (k : Field) : Found.all (f ++ g) k = f.all k ++ g.all k := by
  unfold Found.all
  rw [List.filter_append, List.map_append]

theorem FindsSettings.config_all {found : Found} (h : FindsSettings config target found) :
    found.all .config = config.toList.map fun x => [x] := by
  obtain rfl | rfl := h <;> cases config <;> cases target <;> rfl

theorem FindsSettings.target_all {found : Found} (h : FindsSettings config target found) :
    found.all .target = target.toList.map fun x => [x] := by
  obtain rfl | rfl := h <;> cases config <;> cases target <;> rfl

/-- nothing else is found in the options for settings -/
theorem FindsSettings.other_all {found : Found} (h : FindsSettings config target found) {k : Field}
    (hc : Field.config ≠ k) (ht : Field.target ≠ k) : found.all k = [] := by
  have none {j : Field} (hj : j ≠ k) (v : Option String) : Found.all (valueFound j v) k = [] := by
    cases v with
    | none => rfl
    | some x =>
      unfold Found.all valueFound
      rw [List.filter_cons_of_neg (by simpa using hj)]
      rfl
  obtain rfl | rfl := h
  · rw [Found.all_append, none hc, none ht, List.nil_append]
  · rw [Found.all_append, none hc, none ht, List.nil_append]

/-- nothing ends the reading if no help is asked for and every style is one of those that may be -/
theorem firstExit_eq_none {found : Found} : firstExit found = none ↔
    ∀ e ∈ found, e.1 ≠ .help ∧ (e.1 = .style → e.2.all styleNames.contains = true) := by
  induction found with
  | nil => exact iff_of_true rfl nofun
  | cons e es ih =>
    rw [List.forall_mem_cons, ← ih]
    obtain ⟨k, vs⟩ := e
    cases k with
    | help => exact iff_of_false nofun fun h => h.1.1 rfl
    | style =>
      rw [firstExit]
      split
      · next listed => exact ⟨fun h => ⟨⟨nofun, fun _ => listed⟩, h⟩, And.right⟩
      · next unlisted => exact iff_of_false nofun fun h => unlisted (h.1.2 rfl)
    | _ => exact ⟨fun h => ⟨⟨nofun, nofun⟩, h⟩, And.right⟩

theorem firstExit_append {found found' : Found} :
    firstExit (found ++ found') = none ↔ firstExit found = none ∧ firstExit found' = none := by
  rw [firstExit_eq_none, firstExit_eq_none, firstExit_eq_none, List.forall_mem_append]

theorem FindsSettings.firstExit {found : Found} (h : FindsSettings config target found) :
    firstExit found = none := by
  obtain rfl | rfl := h <;> cases config <;> cases target <;> rfl

theorem Found.last?_of_all {f : Found} {k : Field} {v : Option String}
    (h : f.all k = v.toList.map fun x => [x]) : f.last? k = given v := by
  unfold Found.last?
  rw [h]
  cases v with
  | none => rfl
  | some x =>
    by_cases hx : x = ""
    · rw [hx]
      rfl
    · have kept : given (some x) = some x := Option.filter_some_pos (decide_eq_true hx)
      rw [kept]
      exact if_neg hx

theorem Found.all_eq_nil {f : Found} {k : Field} (h : ∀ e ∈ f, e.1 ≠ k) : f.all k = [] := by
  unfold Found.all
  rw [List.map_eq_nil_iff, List.filter_eq_nil_iff]
  exact fun e he => by simpa using h e he

theorem Found.has_eq_false {f : Found} {k : Field} (h : f.all k = []) : f.has k = false := by
  unfold Found.all at h
  rw [List.map_eq_nil_iff, List.filter_eq_nil_iff] at h
  exact List.any_eq_false.mpr h

/-! ## commands -/

/-- the command that words give before any of them is read a second time; nothing if they name none -/
def Command.once (words : List String) : Except Exit (Option Command) := do
  let u := mainForm.read words
  match firstExit u.found with
  | some e => throw e
  | none =>
    let f : Found := u.found
    match (f.all .command).getLast? with
    | some (name :: rest) =>
      let task ← readTask name rest
      if u.isFaulty then throw .misuse
      else return some ⟨f.last? .config, f.last? .target, f.has .verbose, task⟩
    | _ => if u.isFaulty then throw .misuse else return none

/-- the command that words give is read a second time -/
theorem ofWords_eq (words : List String) : Command.ofWords words = (do
    match ← Command.once words with
    | some c => return some (← c.reread)
    | none => return none) := by
  unfold Command.ofWords Command.once
  dsimp only
  generalize mainForm.read words = u
  cases firstExit u.found with
  | some e => rfl
  | none =>
    dsimp only
    generalize (Found.all u.found .command).getLast? = command
    obtain _ | _ | ⟨name, rest⟩ := command
    · cases u.isFaulty <;> rfl
    · cases u.isFaulty <;> rfl
    · dsimp only
      cases readTask name rest with
      | error e => rfl
      | ok task => cases u.isFaulty <;> rfl

/-- the words of a command behind options -/
theorem once_task {front : List (Slot Field)} {found : Found}
    (h : Opens mainForm words front found) (goesOn : firstExit found = none)
    (options : found.all .command = []) {name : String} (hname : Unmarked name) {rest : List String}
    {ss : List (Slot Field)} (hrest : slots mainForm rest = some ss)
    {task : Task} (htask : readTask name rest = .ok task) :
    Command.once (words ++ name :: rest) =
      .ok (some ⟨found.last? .config, found.last? .target, found.has .verbose, task⟩) := by
  have command : slots mainForm (name :: rest) = some (.operand name :: ss) :=
    slots_cons hname.ne_dashes (classify_unmarked hname) hrest
  have behind : readSlots mainForm mainForm.operands (.operand name :: ss) =
      ⟨[(.command, name :: rest)], false⟩ := readSlots_command hrest
  have read : mainForm.read (words ++ name :: rest) =
      ⟨found ++ [(.command, name :: rest)], false⟩ := by
    unfold Form.read
    rw [h.slots command]
    exact (h.reads _ _).trans (by rw [behind]; rfl)
  have exits : firstExit (found ++ [(.command, name :: rest)]) = none :=
    firstExit_append.mpr ⟨goesOn, rfl⟩
  have named : Found.all (found ++ [(.command, name :: rest)]) .command = [name :: rest] := by
    rw [Found.all_append, options]
    rfl
  have last {k : Field} (hk : Field.command ≠ k) :
      Found.last? (found ++ [(.command, name :: rest)]) k = found.last? k := by
    unfold Found.last?
    rw [Found.all_append, Found.all_eq_nil (List.forall_mem_singleton.mpr hk), List.append_nil]
  have asked : Found.has (found ++ [(.command, name :: rest)]) .verbose = found.has .verbose := by
    unfold Found.has
    rw [List.any_append]
    exact Bool.or_false _
  unfold Command.once
  dsimp only
  rw [read, exits, named]
  dsimp only [List.getLast?_singleton]
  rw [htask, last (by decide), last (by decide), asked]
  rfl

/-- the words of a command behind options for settings -/
theorem ofWords_task (h : GivesSettings config target words) (hconfig : ∀ x ∈ config, Unmarked x)
    (htarget : ∀ x ∈ target, Unmarked x) {name : String} (hname : Unmarked name)
    {rest : List String} {ss : List (Slot Field)} (hrest : slots mainForm rest = some ss)
    {task : Task} (htask : readTask name rest = .ok task) :
    Command.ofWords (words ++ name :: rest) =
      (Command.reread ⟨given config, given target, false, task⟩).map some := by
  obtain ⟨front, found, finds, opens⟩ :=
    opens_settings (f := mainForm) rfl rfl hconfig htarget h
  have none : found.all .command = [] := finds.other_all (by decide) (by decide)
  have quiet : found.has .verbose = false :=
    Found.has_eq_false (finds.other_all (by decide) (by decide))
  rw [ofWords_eq, once_task opens finds.firstExit none hname hrest htask,
    Found.last?_of_all finds.config_all, Found.last?_of_all finds.target_all, quiet]
  rfl

/-! ## a file -/

variable {file : String}

/-- the form takes the file, and finds nothing that ends the reading -/
structure TakesFile (f : Form Field) (file : String) (taken : Found) : Prop where
  takes : ∀ {ss}, OptionNext ss → takeOperands f.operands (.operand file :: ss) = (taken, [], 1)
  goesOn : ∀ more : Found, firstExit (taken ++ more) = firstExit more

/-- a file alone -/
theorem TakesFile.readForm_file {f : Form Field} {taken : Found} (h : TakesFile f file taken)
    (hfile : Unmarked file) : readForm f [file] = .ok taken := by
  have understood : f.read [file] = ⟨taken, false⟩ := by
    unfold Form.read
    rw [slots_cons hfile.ne_dashes (classify_unmarked hfile) rfl]
    dsimp only
    rw [readSlots_operand (h.takes optionNext_nil), List.drop_zero, readSlots_nil]
    exact congrArg (Understood.mk · false) (List.append_nil taken)
  have exits : firstExit taken = none := by
    have alone := h.goesOn []
    rw [List.append_nil] at alone
    exact alone
  unfold readForm
  dsimp only
  rw [understood, exits]
  rfl

/-- a file with the options for settings behind it -/
theorem TakesFile.readForm_settings {f : Form Field} {taken : Found} (h : TakesFile f file taken)
    (hfile : Unmarked file)
    (isConfig : classify f "--config" = some (.option "--config" configOption .nothing))
    (isTarget : classify f "--target" = some (.option "--target" targetOption .nothing))
    (hconfig : ∀ x ∈ config, Unmarked x) (htarget : ∀ x ∈ target, Unmarked x) :
    ∃ found, FindsSettings config target found ∧
      readForm f (file :: settingsWords config target) = .ok (taken ++ found) := by
  obtain ⟨front, found, finds, opens⟩ := opens_settings isConfig isTarget hconfig htarget (.inl rfl)
  have read : f.read (file :: settingsWords config target) = ⟨taken ++ found, false⟩ := by
    have split := opens.slots (show slots f [] = some [] from rfl)
    have next := opens.next optionNext_nil
    have options := (opens.reads [] []).trans (congrArg _ readSlots_nil)
    rw [List.append_nil] at next options
    rw [List.append_nil, List.append_nil] at split
    unfold Form.read
    rw [settingsWords_eq, slots_cons hfile.ne_dashes (classify_unmarked hfile) split]
    dsimp only
    rw [readSlots_operand (h.takes next), List.drop_zero, options]
    exact congrArg (Understood.mk · false) (congrArg (taken ++ ·) (List.append_nil found))
  have exits : firstExit (taken ++ found) = none := by
    rw [h.goesOn]
    exact finds.firstExit
  refine ⟨found, finds, ?_⟩
  unfold readForm
  dsimp only
  rw [read, exits]
  rfl

theorem takesFile_one {f : Form Field} (hf : f.operands = [(.file, .one)]) (hfile : Unmarked file) :
    TakesFile f file [(.file, [file])] where
  takes next := by
    rw [hf]
    exact takeOperands_one (.inl rfl) hfile.ne_dashes next.dashes rfl
  goesOn _ := rfl

theorem takesFile_optional {f : Form Field}
    (hf : f.operands = [(.file, .one), (.output, .optional)]) (hfile : Unmarked file) :
    TakesFile f file [(.file, [file]), (.output, [])] where
  takes next := by
    rw [hf]
    exact takeOperands_one (.inl rfl) hfile.ne_dashes next.dashes (takeOperands_optional next)
  goesOn _ := rfl

theorem unmarked_given (h : ∀ x ∈ config, Unmarked x) : ∀ x ∈ given config, Unmarked x := by
  intro x hx
  exact h x (Option.mem_def.mpr (Option.filter_eq_some_iff.mp hx).1)

theorem slots_file (hfile : Unmarked file) : slots mainForm [file] = some [.operand file] :=
  slots_cons hfile.ne_dashes (classify_unmarked hfile) rfl

/-- behind what was taken, the values that count are found again -/
theorem FindsSettings.last?_given {found : Found}
    (h : FindsSettings (given config) (given target) found) {taken : Found}
    (hc : taken.all .config = []) (ht : taken.all .target = []) :
    Found.last? (taken ++ found) .config = given config ∧
      Found.last? (taken ++ found) .target = given target := by
  constructor
  · rw [← given_given config]
    apply Found.last?_of_all
    rw [Found.all_append, hc, h.config_all, List.nil_append]
  · rw [← given_given target]
    apply Found.last?_of_all
    rw [Found.all_append, ht, h.target_all, List.nil_append]

/-- a value of another field is the one that was taken -/
theorem FindsSettings.all_append {found : Found} (h : FindsSettings config target found)
    (taken : Found) {k : Field} (hc : Field.config ≠ k) (ht : Field.target ≠ k) :
    Found.all (taken ++ found) k = taken.all k := by
  rw [Found.all_append, h.other_all hc ht, List.append_nil]

/-- the words of `parse`, read twice -/
theorem ofWords_parse (h : GivesSettings config target words) (hconfig : ∀ x ∈ config, Unmarked x)
    (htarget : ∀ x ∈ target, Unmarked x) (hfile : Unmarked file) :
    Command.ofWords (words ++ ["parse", file]) =
      .ok (some ⟨given config, given target, false, .parse file false⟩) := by
  have once : readTask "parse" [file] = .ok (.parse file false) := by
    have read := (takesFile_one (f := parseForm) rfl hfile).readForm_file hfile
    unfold readTask
    rw [if_pos rfl, read]
    rfl
  let taken : Found := [(.file, [file])]
  obtain ⟨found, finds, twice⟩ := (takesFile_one (f := fullParseForm) rfl hfile).readForm_settings
    hfile rfl rfl (unmarked_given hconfig) (unmarked_given htarget)
  have settings := finds.last?_given (show taken.all .config = [] from rfl) rfl
  have files := finds.all_append taken (k := .file) (by decide) (by decide)
  have quiet : Found.has (taken ++ found) .verbose = false :=
    Found.has_eq_false (finds.all_append taken (by decide) (by decide))
  rw [ofWords_task h hconfig htarget (by decide) (slots_file hfile) once]
  unfold Command.reread fullWords
  dsimp only
  rw [if_neg Bool.false_ne_true, List.append_nil, twice]
  show Except.ok (some (Command.mk _ _ false
    (.parse (Found.operand (taken ++ found) .file) (Found.has (taken ++ found) .verbose)))) = _
  rw [settings.1, settings.2, quiet, Found.operand, files]
  rfl

/-- the words of `smt-constraints`, read twice -/
theorem ofWords_constraints (h : GivesSettings config target words)
    (hconfig : ∀ x ∈ config, Unmarked x) (htarget : ∀ x ∈ target, Unmarked x)
    (hfile : Unmarked file) :
    Command.ofWords (words ++ ["smt-constraints", file]) =
      .ok (some ⟨given config, given target, false, .constraints file none⟩) := by
  have once : readTask "smt-constraints" [file] = .ok (.constraints file none) := by
    have read := (takesFile_optional (f := constraintsForm) rfl hfile).readForm_file hfile
    have name : readTask "smt-constraints" [file] = (do
        let f ← readForm constraintsForm [file]
        return .constraints (f.operand .file) (f.last? .output)) := rfl
    rw [name, read]
    rfl
  let taken : Found := [(.file, [file]), (.output, [])]
  obtain ⟨found, finds, twice⟩ :=
    (takesFile_optional (f := fullConstraintsForm) rfl hfile).readForm_settings
      hfile rfl rfl (unmarked_given hconfig) (unmarked_given htarget)
  have settings := finds.last?_given (show taken.all .config = [] from rfl) rfl
  have files := finds.all_append taken (k := .file) (by decide) (by decide)
  have outputs := finds.all_append taken (k := .output) (by decide) (by decide)
  rw [ofWords_task h hconfig htarget (by decide) (slots_file hfile) once]
  unfold Command.reread fullWords
  dsimp only
  rw [Option.toList_none, List.singleton_append, twice]
  show Except.ok (some (Command.mk _ _ false
    (.constraints (Found.operand (taken ++ found) .file) (Found.last? (taken ++ found) .output)))) = _
  rw [settings.1, settings.2, Found.operand, Found.last?, files, outputs]
  rfl

/-! ## a style -/

/-- the words that ask for a style, or for none, beside those of a file -/
def GivesStyle (style : Option String) (file : String) (words : List String) : Prop :=
  words = valueWords "--style" style ++ [file] ∨ words = file :: valueWords "--style" style

def styleOption : Opt Field := ⟨["--style"], .style, true⟩

/-- what a style and a file are found to mean, one or the other first -/
def FindsStyle (style : Option String) (file : String) (found : Found) : Prop :=
  found = valueFound .style style ++ [(.file, [file])] ∨
    found = (.file, [file]) :: valueFound .style style

section

variable {style : Option String} {found : Found}

theorem unmarked_style (h : ∀ s ∈ style, s ∈ styleNames) : ∀ s ∈ style, Unmarked s := by
  have names : ∀ s ∈ styleNames, Unmarked s := by decide
  exact fun s hs => names s (h s hs)

theorem FindsStyle.firstExit (h : FindsStyle style file found)
    (hstyle : ∀ s ∈ style, s ∈ styleNames) : firstExit found = none := by
  cases style with
  | none => obtain rfl | rfl := h <;> rfl
  | some s =>
    have listed : [s].all styleNames.contains = true := by simpa using hstyle s rfl
    obtain rfl | rfl := h <;> exact if_pos listed

theorem FindsStyle.operand (h : FindsStyle style file found) : found.operand .file = file := by
  obtain rfl | rfl := h <;> cases style <;> rfl

theorem FindsStyle.output (h : FindsStyle style file found) : found.last? .output = none := by
  obtain rfl | rfl := h <;> cases style <;> rfl

theorem FindsStyle.asked (h : FindsStyle style file found)
    (hstyle : ∀ s ∈ style, s ∈ styleNames) : found.last? .style = style := by
  have named : given style = style := by
    have names : ∀ s ∈ styleNames, s ≠ "" := by decide
    cases style with
    | none => rfl
    | some s => exact Option.filter_some_pos (decide_eq_true (names s (hstyle s rfl)))
  rw [← named]
  apply Found.last?_of_all
  obtain rfl | rfl := h <;> cases style <;> rfl

theorem GivesStyle.slots_mainForm {rest : List String} (h : GivesStyle style file rest)
    (hstyle : ∀ s ∈ style, s ∈ styleNames) (hfile : Unmarked file) :
    ∃ ss, slots mainForm rest = some ss := by
  cases style with
  | none => obtain rfl | rfl := h <;> exact ⟨_, slots_file hfile⟩
  | some s =>
    have value := unmarked_style hstyle s rfl
    -- the option is none of those in front of a command, which takes it for one all the same
    have stranger : classify mainForm "--style" = some (.stranger "--style") := rfl
    have behind {more : List String} {ss : List (Slot Field)} (hss : slots mainForm more = some ss) :
        slots mainForm ("--style" :: s :: more) = some (.stranger "--style" :: .operand s :: ss) :=
      slots_cons (by decide) stranger
        (slots_cons value.ne_dashes (classify_unmarked value) hss)
    obtain rfl | rfl := h
    · exact ⟨_, behind (slots_file hfile)⟩
    · exact ⟨_, slots_cons hfile.ne_dashes (classify_unmarked hfile) (behind rfl)⟩

theorem GivesStyle.readForm_emitForm {rest : List String} (h : GivesStyle style file rest)
    (hstyle : ∀ s ∈ style, s ∈ styleNames) (hfile : Unmarked file) :
    ∃ found, FindsStyle style file found ∧ readForm emitForm rest = .ok found := by
  have isStyle : classify emitForm "--style" = some (.option "--style" styleOption .nothing) := rfl
  have form := takesFile_one (f := emitForm) rfl hfile
  have value := unmarked_style hstyle
  have nothing : slots emitForm [] = some [] := rfl
  have read : ∃ found, FindsStyle style file found ∧ emitForm.read rest = ⟨found, false⟩ := by
    obtain rfl | rfl := h
    · have operand : slots emitForm [file] = some [.operand file] :=
        slots_cons hfile.ne_dashes (classify_unmarked hfile) nothing
      refine ⟨_, .inl rfl, ?_⟩
      unfold Form.read
      rw [slots_value (by decide) isStyle value operand]
      dsimp only
      rw [readSlots_value rfl, readSlots_operand (form.takes optionNext_nil), List.drop_zero,
        readSlots_nil]
      rfl
    · have option := slots_value (by decide) isStyle value nothing
      rw [List.append_nil] at option
      refine ⟨_, .inr rfl, ?_⟩
      unfold Form.read
      rw [slots_cons hfile.ne_dashes (classify_unmarked hfile) option]
      dsimp only
      rw [readSlots_operand (form.takes (optionNext_value _ optionNext_nil)), List.drop_zero,
        readSlots_value rfl, readSlots_nil]
      exact congrArg (fun vs => Understood.mk ((Field.file, [file]) :: vs) false)
        (List.append_nil (valueFound Field.style style))
  obtain ⟨found, finds, read⟩ := read
  refine ⟨found, finds, ?_⟩
  unfold readForm
  dsimp only
  rw [read, finds.firstExit hstyle]
  rfl

/-- the words of `emit` -/
theorem ofWords_emit (h : GivesSettings config target words) (hconfig : ∀ x ∈ config, Unmarked x)
    (htarget : ∀ x ∈ target, Unmarked x) (hfile : Unmarked file)
    (hstyle : ∀ s ∈ style, s ∈ styleNames) {rest : List String} (hrest : GivesStyle style file rest) :
    Command.ofWords (words ++ "emit" :: rest) =
      .ok (some ⟨given config, given target, false, .emit file (style.map .ofName) none⟩) := by
  obtain ⟨ss, known⟩ := hrest.slots_mainForm hstyle hfile
  obtain ⟨found, finds, read⟩ := hrest.readForm_emitForm hstyle hfile
  have task : readTask "emit" rest = .ok (.emit file (style.map .ofName) none) := by
    have name : readTask "emit" rest = (do
        let f ← readForm emitForm rest
        return .emit (f.operand .file) ((f.last? .style).map .ofName) (f.last? .output)) := rfl
    rw [name, read]
    show Except.ok (Task.emit (found.operand .file) ((found.last? .style).map .ofName)
      (found.last? .output)) = _
    rw [finds.operand, finds.asked hstyle, finds.output]
  rw [ofWords_task h hconfig htarget (by decide) known task]
  rfl

end

end BankSwitch
