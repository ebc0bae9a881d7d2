import BankSwitch.Proofs.CommandLine.Acceptance

/-!
# What commands leave behind

A command looks at files, and writes one at most, as its last act: behind the writing nothing is left
that could fail.  So a command that fails leaves the files as they are, and one that ends with status
0 and has written a file has put into it what it prints when no file is asked for
(`Act.leaves_guarded`).
-/

namespace BankSwitch

/-! ## files that are written -/

namespace Files

variable {fs after : Files} {name text : String}

theorem get?_insert_self (fs : Files) (path : List String) (text : String) :
    (fs.insert path text).get? path = some text := by
  obtain ⟨entries⟩ := fs
  unfold get? insert
  induction entries with
  | nil => simp [put]
  | cons e es ih =>
    by_cases he : e.1 = path
    · simp [put, he]
    · simpa [put, he] using ih

theorem get?_insert_of_ne (fs : Files) {path p : List String} (hp : p ≠ path) (text : String) :
    (fs.insert path text).get? p = fs.get? p := by
  obtain ⟨entries⟩ := fs
  unfold get? insert
  induction entries with
  | nil => simp [put, hp.symm]
  | cons e es ih =>
    by_cases he : e.1 = path
    · simp [put, he, hp.symm]
    · rw [put, if_neg he, List.find?_cons, List.find?_cons]
      split
      · rfl
      · exact ih

/-- the file that the name leads to has the text, and every other file is as it was -/
def Rewrites (fs : Files) (name text : String) (after : Files) : Prop :=
  ∃ path, (fs.locate name = .ok (.file path) ∨ fs.locate name = .ok (.vacant path)) ∧
    after.get? path = some text ∧ ∀ p, p ≠ path → after.get? p = fs.get? p

theorem rewrites_of_write (h : fs.write name text = .ok after) : fs.Rewrites name text after := by
  obtain ⟨place, located, h⟩ := bind_ok h
  have inserted (path : List String) :
      (fs.insert path text).get? path = some text ∧
        ∀ p, p ≠ path → (fs.insert path text).get? p = fs.get? p :=
    ⟨fs.get?_insert_self path text, fun p hp => fs.get?_insert_of_ne hp text⟩
  cases place with
  | file path =>
    cases h
    exact ⟨path, .inl located, inserted path⟩
  | vacant path =>
    cases h
    exact ⟨path, .inr located, inserted path⟩
  | _ => cases h

end Files

namespace Act

variable {β γ δ : Type}

/-! ## acts that keep something -/

/-- whatever comes of the act, the view of the session stays the same -/
def Keeps (view : Session → γ) (act : Act β) : Prop := ∀ s, view (act.run.run s).2 = view s

section

variable {view : Session → γ}

theorem Keeps.pure (b : β) : Keeps view (Pure.pure b : Act β) := fun _ => rfl

theorem Keeps.throw (e : Failure) : Keeps view (MonadExcept.throw e : Act β) := fun _ => rfl

theorem Keeps.get : Keeps view (MonadState.get : Act Session) := fun _ => rfl

theorem Keeps.bind {act : Act β} {k : β → Act δ} (h : Keeps view act) (hk : ∀ b, Keeps view (k b)) :
    Keeps view (act >>= k) := by
  intro s
  have first := h s
  rw [run_bind]
  generalize act.run.run s = outcome at first ⊢
  obtain ⟨e | b, s'⟩ := outcome
  · exact first
  · exact (hk b s').trans first

theorem Keeps.tryCatch {act : Act β} {handle : Failure → Act β} (h : Keeps view act)
    (hh : ∀ e, Keeps view (handle e)) : Keeps view (MonadExcept.tryCatch act handle) := by
  intro s
  have first := h s
  rw [run_tryCatch]
  generalize act.run.run s = outcome at first ⊢
  obtain ⟨e | b, s'⟩ := outcome
  · exact (hh e s').trans first
  · exact first

theorem Keeps.take {ε : Type} (cause : ε → Failure) (r : Except ε β) :
    Keeps view (Act.take cause r) := by
  cases r with
  | error e => exact .throw _
  | ok b => exact .pure b

theorem Keeps.mapM {as : List δ} {f : δ → Act β} (h : ∀ a, Keeps view (f a)) :
    Keeps view (as.mapM f) := by
  induction as with
  | nil => exact .pure []
  | cons a as ih =>
    rw [List.mapM_cons]
    exact (h a).bind fun b => ih.bind fun bs => .pure (b :: bs)

theorem Keeps.forM {as : List δ} {f : δ → Act Unit} (h : ∀ a, Keeps view (f a)) :
    Keeps view (as.forM f) := by
  induction as with
  | nil => exact .pure ()
  | cons a as ih => exact (h a).bind fun _ => ih

end

/-- what a command is given and what it has printed -/
def outside (s : Session) : Files × String := (s.files, s.printed)

theorem Keeps.files {act : Act β} (h : Keeps outside act) : Keeps Session.files act :=
  fun s => congrArg Prod.fst (h s)

theorem keeps_note (events : List Event) : Keeps outside (note events) := fun _ => rfl

theorem keeps_say (line : String) : Keeps Session.files (say line) := fun _ => rfl

theorem keeps_load (c : Command) (file : String) : Keeps outside (load c file) := by
  unfold load loadSettings readFile readComponent
  refine .bind ?_ fun settings => .bind ?_ fun text => .bind ?_ fun component => .pure _
  · exact Keeps.get.bind fun s => (Keeps.take _ _).bind fun _ => (keeps_note _).bind fun _ => .pure _
  · exact Keeps.get.bind fun s => .take _ _
  · exact (Keeps.take _ _).bind fun _ => (keeps_note _).bind fun _ => .pure _

theorem keeps_reporting {own : Failure → Bool} {line : Failure → String} {act : Act Nat}
    (h : Keeps Session.files act) : Keeps Session.files (reporting own line act) := by
  refine .tryCatch h fun e => ?_
  split
  · exact (keeps_say _).bind fun _ => .pure 1
  · exact .throw e

theorem keeps_parse (c : Command) (file : String) (details : Bool) :
    Keeps Session.files (parse c file details) := by
  refine keeps_reporting ((keeps_load c file).files.bind fun _ => (keeps_say _).bind fun _ =>
    (keeps_say _).bind fun _ => ?_)
  dsimp only
  split
  · exact (Keeps.forM keeps_say).bind fun _ => .pure 0
  · exact (keeps_say _).bind fun _ => .pure 0

theorem keeps_evalAddress (limit : Option Nat) (component : Component Empty) (inputs : Inputs)
    (text : String) : Keeps Session.files (evalAddress limit component inputs text) := by
  refine (Keeps.take _ _).bind fun a => (keeps_note _).files.bind fun _ => ?_
  split
  · exact (keeps_say _).bind fun _ => .pure true
  · split
    · exact (keeps_say _).bind fun _ => .pure false
    · exact (keeps_say _).bind fun _ => .pure false
    · exact .throw _

theorem keeps_eval (c : Command) (file : String) (addresses bindings : List String) :
    Keeps Session.files (eval c file addresses bindings) :=
  (keeps_load c file).files.bind fun _ => (Keeps.take _ _).bind fun _ =>
    (Keeps.mapM fun text => keeps_evalAddress _ _ _ text).bind fun _ => .pure _

theorem keeps_verify (c : Command) (file trace : String) :
    Keeps Session.files (verify c file trace) := by
  refine (keeps_load c file).files.bind fun _ => Keeps.get.bind fun s => (Keeps.take _ _).bind
    fun _ => (Keeps.take _ _).bind fun violations => (keeps_note _).files.bind fun _ => ?_
  split
  · exact (keeps_say _).bind fun _ => .pure 0
  · exact (keeps_say _).bind fun _ => (Keeps.forM fun v => keeps_say _).bind fun _ => .pure 1

/-! ## acts that write -/

/-- how an act ends that is asked to write to the file at `place`: it leaves the files as they are, or
it ends with status 0 and the file has what `silent`, the act that is not asked, shows -/
inductive Leaves (silent : Act Nat) (place : Option String) (shown : String → String) (s : Session) :
    Except Failure Nat × Session → Prop
  | kept {r : Except Failure Nat} {s' : Session} (same : s'.files = s.files)
      (idle : r = .ok 0 → place = none) : Leaves silent place shown s (r, s')
  | wrote {name text : String} {s' s'' : Session} (asked : place = some name)
      (written : s.files.write name text = .ok s'.files)
      (alone : silent.run.run s = (.ok 0, s'')) (same : s''.files = s.files)
      (shows : s''.printed = s.printed ++ shown text) : Leaves silent place shown s (.ok 0, s')

section

variable {silent act : Act Nat} {place : Option String} {shown : String → String} {s s' : Session}

theorem Leaves.of_keeps (h : Keeps Session.files act) :
    Leaves silent none shown s (act.run.run s) :=
  .kept (h s) fun _ => rfl

theorem run_reporting_ok {own : Failure → Bool} {line : Failure → String} {n : Nat}
    (h : act.run.run s = (.ok n, s')) : (reporting own line act).run.run s = (.ok n, s') := by
  unfold reporting
  rw [run_tryCatch, h]

/-- a failure that is put to the user is one all the same -/
theorem Leaves.reporting (own : Failure → Bool) (line : Failure → String)
    (h : Leaves silent place shown s (act.run.run s)) :
    Leaves (reporting own line silent) place shown s ((reporting own line act).run.run s) := by
  generalize hr : act.run.run s = outcome at h
  cases h with
  | wrote asked written alone same shows =>
    rw [run_reporting_ok hr]
    exact .wrote asked written (run_reporting_ok alone) same shows
  | @kept r s' same idle =>
    cases r with
    | ok n =>
      rw [run_reporting_ok hr]
      exact .kept same idle
    | error e =>
      unfold Act.reporting
      rw [run_tryCatch, hr]
      dsimp only
      split
      · exact .kept same (by rintro ⟨⟩)
      · exact .kept same (by rintro ⟨⟩)

theorem run_take {ε β : Type} (cause : ε → Failure) (r : Except ε β) (s : Session) :
    (take cause r).run.run s = (r.mapError cause, s) := by
  cases r <;> rfl

theorem run_writeFile (name text : String) (s : Session) :
    (writeFile name text).run.run s = match s.files.write name text with
      | .ok files => (.ok (), { s with files := files })
      | .error e => (.error (.file e), s) := by
  unfold writeFile
  rw [run_bind, run_get]
  dsimp only
  rw [run_bind, run_take]
  cases s.files.write name text <;> rfl

/-- a text, in the file that is asked for or printed -/
def deliver (text : String) (output : Option String) (print : Act Unit) : Act Nat := do
  match output with
  | some name =>
    writeFile name text
    say s!"✓ Saved to: {name}"
  | none => print
  return 0

theorem leaves_deliver (text : String) (output : Option String) {print : Act Unit}
    (prints : print.run.run s = (.ok (), { s with printed := s.printed ++ shown text })) :
    Leaves (deliver text none print) output shown s ((deliver text output print).run.run s) := by
  have alone : (deliver text none print).run.run s =
      (.ok 0, { s with printed := s.printed ++ shown text }) := by
    unfold deliver
    dsimp only
    rw [run_bind, prints]
    rfl
  cases output with
  | none =>
    rw [alone]
    exact .kept rfl fun _ => rfl
  | some name =>
    unfold deliver
    dsimp only
    rw [run_bind, run_writeFile]
    cases hw : s.files.write name text with
    | error e => exact .kept rfl (by rintro ⟨⟩)
    | ok files => exact .wrote rfl hw alone rfl rfl

/-- an act behind one that has come to a value and has shown nothing -/
theorem Leaves.behind {first : Act β} {k quiet : β → Act Nat} {b : β} {s₁ : Session}
    (hr : first.run.run s = (.ok b, s₁)) (same : outside s₁ = outside s)
    (h : Leaves (quiet b) place shown s₁ ((k b).run.run s₁)) :
    Leaves (first >>= quiet) place shown s ((first >>= k).run.run s) := by
  obtain ⟨files, printed⟩ := Prod.mk.inj same
  have run (k : β → Act Nat) : (first >>= k).run.run s = (k b).run.run s₁ := by
    rw [run_bind, hr]
  rw [run]
  generalize (k b).run.run s₁ = outcome at h
  cases h with
  | kept same' idle => exact .kept (same'.trans files) idle
  | wrote asked written alone same' shows =>
    rw [files] at written same'
    rw [printed] at shows
    exact .wrote asked written ((run quiet).trans alone) same' shows

theorem Leaves.bind {first : Act β} {k quiet : β → Act Nat} (hf : Keeps outside first)
    (h : ∀ b s₁, Leaves (quiet b) place shown s₁ ((k b).run.run s₁)) :
    Leaves (first >>= quiet) place shown s ((first >>= k).run.run s) := by
  have same := hf s
  cases hr : first.run.run s with
  | mk r s₁ =>
    rw [hr] at same
    cases r with
    | ok b => exact .behind hr same (h b s₁)
    | error e =>
      rw [run_bind, hr]
      exact .kept (Prod.mk.inj same).1 (by rintro ⟨⟩)

theorem leaves_emit (c : Command) (file : String) (style : Option Style) (output : Option String) :
    Leaves (emit c file style none) output id s ((emit c file style output).run.run s) := by
  have delivers (output : Option String) : emit c file style output =
      load c file >>= fun b => take .print (b.2.print (style.getD b.1.style) b.1) >>= fun text =>
        deliver text output (put text) := by
    cases output <;> rfl
  rw [delivers, delivers]
  exact .bind (keeps_load c file) fun b s₁ => .bind (.take _ _) fun text s₂ =>
    leaves_deliver text output rfl

theorem run_loadReporting (c : Command) (file : String) (s : Session) :
    (loadReporting c file).run.run s = match (load c file).run.run s with
      | (.ok b, s') => (.ok (some b.2), s')
      | (.error e, s') =>
        if isLoadFault e then
          (.ok none, { s' with printed := s'.printed ++ ("ERROR: " ++ e.message) ++ "\n" })
        else (.error e, s') := by
  unfold loadReporting
  rw [run_tryCatch, run_bind]
  generalize (load c file).run.run s = outcome
  obtain ⟨e | b, s'⟩ := outcome
  · dsimp only
    split <;> rfl
  · rfl

/-- what is done with the component that was read, if one was -/
def script (file : String) (output : Option String) : Option (Component Empty) → Act Nat
  | none => return 1
  | some component => do
    let text ← take .eval (component.smt (lastPart file))
    deliver text output (say text)

theorem leaves_script (c : Command) (file name : String) (output : Option String) :
    Leaves (loadReporting c file >>= script name none) output (· ++ "\n") s
      ((loadReporting c file >>= script name output).run.run s) := by
  have same := keeps_load c file s
  have reported := run_loadReporting c file s
  generalize (load c file).run.run s = outcome at same reported
  obtain ⟨e | b, s₁⟩ := outcome
  · rw [run_bind, reported]
    by_cases own : isLoadFault e = true
    · simp only [if_pos own]
      exact .kept (Prod.mk.inj same).1 (by rintro ⟨⟩)
    · simp only [if_neg own]
      exact .kept (Prod.mk.inj same).1 (by rintro ⟨⟩)
  · refine .behind reported same (.bind (.take _ _) fun text s₂ => leaves_deliver text output ?_)
    rw [← String.append_assoc]
    rfl

theorem leaves_constraints (c : Command) (file : String) (output : Option String) :
    Leaves (constraints c file none) (output.map tidyPath) (· ++ "\n") s
      ((constraints c file output).run.run s) := by
  have delivers (output : Option String) : constraints c file output =
      get >>= fun s' => if !s'.files.holds (tidyPath file) then do
          say s!"ERROR: Description file not found: {tidyPath file}"
          return 1
        else loadReporting c (tidyPath file) >>= script (tidyPath file) (output.map tidyPath) := by
    cases output <;> rfl
  rw [delivers, delivers]
  refine .bind .get fun s' s₁ => ?_
  by_cases held : s'.files.holds (tidyPath file) = true
  · rw [held]
    exact leaves_script c _ _ _
  · rw [Bool.not_eq_true] at held
    rw [held]
    exact .kept rfl (by rintro ⟨⟩)

end

end Act

/-! ## commands -/

namespace Task

/-- the file that is asked for -/
def place : Task → Option String
  | .emit _ _ output => output
  | .constraints _ output => output.map tidyPath
  | _ => none

/-- the task that asks for no file -/
def toPrint : Task → Task
  | .emit file style _ => .emit file style none
  | .constraints file _ => .constraints file none
  | t => t

/-- a text as the task prints it -/
def shown : Task → String → String
  | .constraints _ _, text => text ++ "\n"
  | _, text => text

end Task

/-- the command that asks for no file -/
def Command.toPrint (c : Command) : Command := { c with task := c.task.toPrint }

namespace Act

theorem leaves_perform (c : Command) (s : Session) :
    Leaves (perform c.toPrint) c.task.place c.task.shown s ((perform c).run.run s) := by
  obtain ⟨config, target, verbose, task⟩ := c
  cases task with
  | parse file details => exact .of_keeps (keeps_parse _ file details)
  | eval file addresses bindings => exact .of_keeps (keeps_eval _ file addresses bindings)
  | verify file trace => exact .of_keeps (keeps_verify _ file trace)
  | emit file style output => exact leaves_emit _ file style output
  | constraints file output => exact leaves_constraints _ file output
  | version => exact .of_keeps ((keeps_say _).bind fun _ => .pure 0)

theorem leaves_guarded (c : Command) (s : Session) :
    Leaves (guarded c.toPrint) c.task.place c.task.shown s ((guarded c).run.run s) :=
  (leaves_perform c s).reporting _ _

end Act

end BankSwitch
