import BankSwitch.Proofs.CommandLine.Rereading
import BankSwitch.Proofs.CommandLine.Spelling

/-!
# Files that a run touches

Whatever the words and the files, a run that comes to no good end leaves the files as they are, and one
that ends with status 0 writes the file at most that its command asks for, with what the command prints
when it asks for none (`run_touches`).  One command is read otherwise than it was meant: where
`smt-constraints` is given two dashes for its file and no output, the second reading takes the name of
the settings file or of the target for the output, and writes to it (`touches_dashes`).
-/

namespace BankSwitch

open Arguments Act

/-! ## the second reading of what the first one found -/

/-- the task has a file name that may be taken for an option -/
def Task.IsMarked : Task → Prop
  | .constraints file output => Marked file output
  | _ => False

/-- what the second reading makes of a command -/
inductive Command.Becomes (c : Command) : Command → Prop
  /-- it stays what it is, and would without a file that is asked for -/
  | same (alone : c.toPrint.reread = .ok c.toPrint) : c.Becomes c
  | idle {c' : Command} (unasked : c.task.place = none ∨ c.task.IsMarked)
      (idle : c'.task.place = none) : c.Becomes c'
  /-- two dashes for a file, and the value of an option taken for the output -/
  | misread {c' : Command} {file output : String} (dashes : c.task = .constraints "--" none)
      (value : output ∈ c.config ∨ output ∈ c.target) (task : c'.task = .constraints file (some output)) :
      c.Becomes c'

theorem Command.Sound.becomes {c c' : Command} (sound : c.Sound) (h : c.reread = .ok c') :
    c.Becomes c' := by
  obtain ⟨config, target, verbose, task⟩ := c
  cases task with
  | parse file details =>
    obtain ⟨found, -, h⟩ := bind_ok h
    cases h
    exact .idle (.inl rfl) rfl
  | eval file addresses bindings =>
    cases h
    exact .same rfl
  | verify file trace =>
    cases h
    exact .same rfl
  | emit file style output =>
    cases h
    exact .same rfl
  | version =>
    cases h
    exact .same rfl
  | constraints file output =>
    obtain ⟨kept, apart⟩ := sound.task
    by_cases hfile : file = "--"
    · subst hfile
      obtain ⟨f, task⟩ | ⟨rfl, f, x, value, task⟩ := reread_dashes h
      · have marked : Marked "--" output := ⟨"--", List.mem_cons_self, fun h => h.ne_dashes rfl⟩
        exact .idle (.inr marked) (by rw [task]; rfl)
      · exact .misread rfl value task
    · have hout : ∀ o ∈ output, o ≠ "--" := by
        rintro o ho rfl
        exact apart ho
      obtain ⟨found, read, rfl⟩ := reread_constraints h
      obtain ⟨ss, hss, hread, -⟩ := readForm_eq_ok.mp read
      obtain plain | ⟨marked, last⟩ := plain_or_marked hfile hout hss hread
      · have itself := plain.reread hfile hout sound.config sound.target kept verbose
        have unasked : Plain config target file none := ⟨plain.file, nofun, plain.settings⟩
        rw [Except.ok.inj (h.symm.trans itself)]
        exact .same (unasked.reread hfile nofun sound.config sound.target rfl verbose)
      · refine .idle (.inr marked) ?_
        show (found.last? .output).map tidyPath = none
        rw [last]
        rfl

/-! ## runs -/

/-- the files that a run leaves behind, however it ends -/
def filesAfter (words : List String) (files : Files) : Files :=
  match Command.ofWords words with
  | .ok (some c) => ((guarded c).run.run ⟨files, "", []⟩).2.files
  | _ => files

/-- what a run of words does to files, by how it ends -/
inductive Touches (words : List String) (files : Files) : Ending → Files → Prop
  | usage (status : Nat) : Touches words files (.usage status) files
  | failed (cause : Failure) : Touches words files (.failed cause) files
  | refused {status : Nat} {printed : String} {log : List String} (refusal : status ≠ 0) :
      Touches words files (.done status printed log files) files
  /-- no file is asked for, or what asks for one may be taken for an option -/
  | idle {c : Command} {printed : String} {log : List String}
      (given : Command.once words = .ok (some c))
      (unasked : c.task.place = none ∨ c.task.IsMarked) :
      Touches words files (.done 0 printed log files) files
  /-- the file that is asked for has what the command prints when none is -/
  | written {c : Command} {name text printed : String} {log : List String} {after : Files}
      (given : Command.once words = .ok (some c)) (asked : c.task.place = some name)
      (rewrites : files.Rewrites name text after)
      (sayable : ∃ others, Command.once others = .ok (some c.toPrint))
      (alone : ∀ others, Command.once others = .ok (some c.toPrint) →
        ∃ log', run others files = .done 0 (c.task.shown text) log' files) :
      Touches words files (.done 0 printed log after) after
  /-- two dashes for a file: the value of an option is taken for the output -/
  | misread {c : Command} {value text printed : String} {log : List String} {after : Files}
      (given : Command.once words = .ok (some c)) (dashes : c.task = .constraints "--" none)
      (taken : value ∈ c.config ∨ value ∈ c.target)
      (rewrites : files.Rewrites (tidyPath value) text after) :
      Touches words files (.done 0 printed log after) after

theorem ofWords_of_once {words : List String} {c : Command}
    (h : Command.once words = .ok (some c)) : Command.ofWords words = c.reread.map some := by
  rw [ofWords_eq, h]
  rfl

/-- how a run ends whose command comes to an outcome -/
def Ending.ofOutcome (verbose : Bool) : Except Failure Nat × Session → Ending
  | (.ok status, s) => .done status s.printed (shownLog verbose s.events) s.files
  | (.error e, _) => .failed e

theorem run_of_reread {words : List String} (files : Files) {c c' : Command}
    (once : Command.once words = .ok (some c)) (again : c.reread = .ok c') :
    run words files = .ofOutcome c'.verbose ((guarded c').run.run ⟨files, "", []⟩) ∧
      filesAfter words files = ((guarded c').run.run ⟨files, "", []⟩).2.files := by
  unfold run filesAfter
  rw [ofWords_of_once once, again]
  exact ⟨rfl, rfl⟩

/-- how a command ends tells what it touches -/
theorem touches_of_leaves {words : List String} {files : Files} {c c' : Command}
    (once : Command.once words = .ok (some c)) (again : c.reread = .ok c') (sound : c.Sound)
    (becomes : c.Becomes c') : Touches words files (run words files) (filesAfter words files) := by
  obtain ⟨ending, after⟩ := run_of_reread files once again
  rw [ending, after]
  have leaves := leaves_guarded c' ⟨files, "", []⟩
  generalize (guarded c').run.run ⟨files, "", []⟩ = outcome at leaves
  cases leaves with
  | @kept r s' same idle =>
    obtain ⟨left, printed, events⟩ := s'
    cases same
    obtain e | _ | status := r
    · exact .failed e
    · cases becomes with
      | same alone => exact .idle once (.inl (idle rfl))
      | idle unasked => exact .idle once unasked
      | misread dashes value task =>
        have asked := idle rfl
        rw [task] at asked
        cases asked
    · exact .refused (Nat.succ_ne_zero status)
  | @wrote name text s' s'' asked written alone same shows =>
    have rewrites := Files.rewrites_of_write written
    cases becomes with
    | same itself =>
      refine .written once asked rewrites (exists_once_toPrint sound asked) fun others h => ?_
      have ending := (run_of_reread files h itself).1
      rw [ending, alone]
      obtain ⟨left, printed, events⟩ := s''
      cases same
      cases shows
      exact ⟨_, congrArg (Ending.done 0 · _ files) String.empty_append⟩
    | idle unasked idle => cases idle.symm.trans asked
    | misread dashes value task =>
      rw [task] at asked
      cases asked
      exact .misread once dashes value rewrites

theorem once_of_ofWords {words : List String} {c' : Command}
    (h : Command.ofWords words = .ok (some c')) :
    ∃ c, Command.once words = .ok (some c) ∧ c.reread = .ok c' := by
  rw [ofWords_eq] at h
  obtain ⟨_ | c, once, h⟩ := bind_ok h
  · cases h
  · cases again : c.reread with
    | error e =>
      dsimp only at h
      rw [again] at h
      cases h
    | ok c'' =>
      dsimp only at h
      rw [again] at h
      cases h
      exact ⟨c, once, again⟩

theorem run_touches (words : List String) (files : Files) :
    Touches words files (run words files) (filesAfter words files) := by
  cases read : Command.ofWords words with
  | error e =>
    unfold run filesAfter
    rw [read]
    exact .usage _
  | ok given =>
    cases given with
    | none =>
      unfold run filesAfter
      rw [read]
      exact .usage _
    | some c' =>
      obtain ⟨c, once, again⟩ := once_of_ofWords read
      have sound := sound_of_once once
      exact touches_of_leaves once again sound (sound.becomes again)

/-- a description in a file with the name of an option, and a settings file that says nothing -/
def dashedFiles : Files :=
  .ofNames ["work"] ["opt"]
    [("--config", "memory<1,1>\x7bbank\x7blayout:[0:1] translation:NOOP\x7d\x7d"), ("c", "")]

/-- no output is asked for, and the settings file is written -/
theorem touches_dashes :
    Command.once ["--config", "c", "smt-constraints", "--", "--"] =
        .ok (some ⟨some "c", none, false, .constraints "--" none⟩) ∧
      (run ["--config", "c", "smt-constraints", "--", "--"] dashedFiles).status? = some 0 ∧
      (filesAfter ["--config", "c", "smt-constraints", "--", "--"] dashedFiles).get? ["work", "c"] ≠
        dashedFiles.get? ["work", "c"] :=
  ⟨ok_of_toOption (by decide +kernel), by decide +kernel, by decide +kernel⟩

end BankSwitch
