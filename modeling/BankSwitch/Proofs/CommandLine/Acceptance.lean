import BankSwitch.CommandLine.Run
import BankSwitch.Proofs.CommandLine.Words
import BankSwitch.Proofs.Faults
import BankSwitch.Proofs.Paths
import BankSwitch.Proofs.Printing.Component
import BankSwitch.Proofs.Settings
import BankSwitch.Proofs.Smt.Component

/-!
# What commands accept

A file is accepted if settings can be loaded, the file can be read, and its text describes a component
under the settings.  Behind that nothing is left that could fail: a component that was read is printed
in either style, and has a script.  So `parse` and `emit` end with status 0 on the files that are
accepted, and `smt-constraints` on those that are accepted under their tidy paths, which are the same
but for paths that end in an idle part (`run_accepts`).
-/

namespace BankSwitch

/-! ## components that were read -/

theorem unifyLineEnds_of_not_mem {s : List Char} (h : '\r' ∉ s) : unifyLineEnds s = s := by
  induction s with
  | nil => rfl
  | cons c r ih =>
    rw [List.mem_cons, not_or] at h
    rw [unifyLineEnds, ih h.2]
    · rintro _ rfl
      exact absurd rfl h.1
    · rintro rfl
      exact absurd rfl h.1

/-- a text without carriage returns is read as it is -/
theorem readableText_of_not_mem {s : String} (h : '\r' ∉ s.toList) : readableText s = s := by
  unfold readableText
  rw [unifyLineEnds_of_not_mem h, String.ofList_toList]

namespace Component

variable {settings : Settings} {text : String}

/-- what was read can be printed under the same settings -/
theorem prints_of_ofText {c : Component Empty} (h : ofText settings text = .ok c) {style : Style}
    (hstyle : style = .compact ∨ style = .terms) : ∃ t, c.print style settings = .ok t := by
  obtain ⟨w, hw⟩ := width_of_ofText h
  have fits := fits_of_ofText hw h
  obtain ⟨t, printed, -⟩ := spells_print hw hstyle fits (printable_of_fits fits)
  exact ⟨t, printed⟩

/-- what was read has a script -/
theorem smt_of_ofText {c : Component Empty} (h : ofText settings text = .ok c) (source : String) :
    ∃ t, c.smt source = .ok t := by
  obtain ⟨w, hw⟩ := width_of_ofText h
  have fits := fits_of_ofText hw h
  obtain rfl := fits.width
  have nothing {P : String → Prop} : ∀ s ∈ c.selectors, P s := by
    rw [selectors_of_fits fits]
    exact List.forall_mem_nil P
  obtain ⟨banks, scripts, -⟩ := bankScripts_serve c.width_pos nothing fits.bounded.banks
    (fun b hb => selectors_of_bank hb) 0 fun s _ hs => nothing (P := fun _ => False) s hs
  unfold smt script
  rw [scripts]
  exact ⟨_, rfl⟩

end Component

/-! ## acceptance -/

namespace Files

/-- under the settings that are loaded, the file describes the component -/
def Loads (fs : Files) (config target : Option String) (file : String) (settings : Settings)
    (component : Component Empty) : Prop :=
  ∃ origin text, Settings.load fs config target = .ok (settings, origin) ∧
    fs.read file = .ok text ∧ Component.ofText settings text = .ok component

/-- under the settings that are loaded, the file describes a component -/
def Accepts (fs : Files) (config target : Option String) (file : String) : Prop :=
  ∃ settings component, fs.Loads config target file settings component

variable {fs : Files} {config target : Option String} {file : String}

/-- values that do not count change nothing -/
theorem accepts_given :
    fs.Accepts (given config) (given target) file ↔ fs.Accepts config target file := by
  have load : Settings.load fs (given config) (given target) = Settings.load fs config target := by
    have counts (v : Option String) : (given v).filter (· ≠ "") = v.filter (· ≠ "") := given_given v
    unfold Settings.load
    rw [counts, counts]
  constructor
  · rintro ⟨settings, c, origin, text, loaded, described⟩
    exact ⟨settings, c, origin, text, load.symm.trans loaded, described⟩
  · rintro ⟨settings, c, origin, text, loaded, described⟩
    exact ⟨settings, c, origin, text, load.trans loaded, described⟩

/-- only a path that ends in an idle part can be accepted in its tidy form alone -/
theorem accepts_tidyPath (h : endsIdle (pathParts file) = false) :
    fs.Accepts config target (tidyPath file) ↔ fs.Accepts config target file := by
  constructor
  · rintro ⟨settings, c, origin, text, loaded, read, described⟩
    exact ⟨settings, c, origin, text, loaded, (fs.read_tidyPath h text).mp read, described⟩
  · rintro ⟨settings, c, origin, text, loaded, read, described⟩
    exact ⟨settings, c, origin, text, loaded, (fs.read_tidyPath h text).mpr read, described⟩

end Files

/-! ## acts -/

namespace Act

variable {β γ : Type} {s : Session}

/-- the act ends with the value -/
def Ends (act : Act β) (s : Session) (b : β) : Prop := ∃ s', act.run.run s = (.ok b, s')

theorem run_bind (act : Act β) (k : β → Act γ) (s : Session) :
    (act >>= k).run.run s = match act.run.run s with
      | (.ok b, s') => (k b).run.run s'
      | (.error e, s') => (.error e, s') := by
  show (match act.run.run s with | (r, s') => (ExceptT.bindCont k r).run s') = _
  obtain ⟨r | r, s'⟩ := act.run.run s <;> rfl

theorem run_tryCatch (act : Act β) (handle : Failure → Act β) (s : Session) :
    (tryCatch act handle : Act β).run.run s = match act.run.run s with
      | (.ok b, s') => (.ok b, s')
      | (.error e, s') => (handle e).run.run s' := by
  show (ExceptT.tryCatch act handle).run.run s = _
  unfold ExceptT.tryCatch ExceptT.run ExceptT.mk
  rw [StateT.run_bind]
  obtain ⟨r | r, s'⟩ := StateT.run act s <;> rfl

theorem ends_bind {act : Act β} {k : β → Act γ} {c : γ} :
    Ends (act >>= k) s c ↔ ∃ b s', act.run.run s = (.ok b, s') ∧ Ends (k b) s' c := by
  unfold Ends
  rw [run_bind]
  obtain ⟨e | b, s'⟩ := act.run.run s
  · constructor
    · rintro ⟨_, ⟨⟩⟩
    · rintro ⟨_, _, ⟨⟩, _⟩
  · constructor
    · exact fun h => ⟨b, s', rfl, h⟩
    · rintro ⟨_, _, ⟨⟩, h⟩
      exact h

/-- a handler that does not end with the value changes nothing -/
theorem ends_tryCatch {act : Act β} {handle : Failure → Act β} {b : β}
    (h : ∀ e s, ¬ Ends (handle e) s b) : Ends (tryCatch act handle) s b ↔ Ends act s b := by
  unfold Ends
  rw [run_tryCatch]
  obtain ⟨e | b, s'⟩ := act.run.run s
  · exact iff_of_false (h e s') (by rintro ⟨_, ⟨⟩⟩)
  · exact Iff.rfl

/-- a failure that is put to the user does not end with status 0 -/
theorem ends_reporting {own : Failure → Bool} {line : Failure → String} {act : Act Nat} :
    Ends (reporting own line act) s 0 ↔ Ends act s 0 := by
  apply ends_tryCatch
  intro e s
  split
  · rintro ⟨_, ⟨⟩⟩
  · rintro ⟨_, ⟨⟩⟩

theorem run_get (s : Session) : (get : Act Session).run.run s = (.ok s, s) := rfl

theorem run_loadSettings (c : Command) (s : Session) :
    (loadSettings c).run.run s = match Settings.load s.files c.config c.target with
      | .ok (settings, origin) =>
        (.ok settings, { s with events := s.events ++ origin.events settings })
      | .error e => (.error (.settings e), s) := by
  unfold loadSettings
  rw [run_bind, run_get]
  dsimp only
  rw [run_bind]
  generalize Settings.load s.files c.config c.target = r
  cases r <;> rfl

theorem run_readFile (name : String) (s : Session) :
    (readFile name).run.run s = match s.files.read name with
      | .ok text => (.ok text, s)
      | .error e => (.error (.file e), s) := by
  unfold readFile
  show (take .file (s.files.read name)).run.run s = _
  cases s.files.read name <;> rfl

theorem run_readComponent (settings : Settings) (text : String) (s : Session) :
    (readComponent settings text).run.run s = match Component.ofText settings text with
      | .ok c => (.ok c, { s with events := s.events ++ [c.readEvent] })
      | .error e => (.error (.read e), s) := by
  unfold readComponent
  rw [run_bind]
  cases Component.ofText (α := Empty) settings text <;> rfl

theorem ends_load {c : Command} {file : String} {settings : Settings} {component : Component Empty} :
    Ends (load c file) s (settings, component) ↔
      s.files.Loads c.config c.target file settings component := by
  unfold load
  rw [ends_bind]
  constructor
  · rintro ⟨settings', s₁, loaded, h⟩
    obtain ⟨text, s₂, read, h⟩ := ends_bind.mp h
    obtain ⟨component', s₃, described, ⟨_, ⟨⟩⟩⟩ := ends_bind.mp h
    rw [run_loadSettings] at loaded
    split at loaded
    · next origin hload =>
      cases loaded
      rw [run_readFile] at read
      split at read
      · next hread =>
        cases read
        rw [run_readComponent] at described
        split at described
        · next hdescribed =>
          cases described
          exact ⟨origin, text, hload, hread, hdescribed⟩
        · cases described
      · cases read
    · cases loaded
  · rintro ⟨origin, text, loaded, read, described⟩
    let s₁ : Session := { s with events := s.events ++ origin.events settings }
    have h₁ : (loadSettings c).run.run s = (.ok settings, s₁) := by
      rw [run_loadSettings, loaded]
    have h₂ : (readFile file).run.run s₁ = (.ok text, s₁) := by
      rw [run_readFile, read]
    have h₃ := run_readComponent settings text s₁
    rw [described] at h₃
    refine ⟨settings, s₁, h₁, ends_bind.mpr ⟨text, s₁, h₂, ?_⟩⟩
    exact ends_bind.mpr ⟨component, _, h₃, _, rfl⟩

/-! ## commands -/

theorem ends_parse {c : Command} {file : String} :
    Ends (parse c file false) s 0 ↔ s.files.Accepts c.config c.target file := by
  unfold parse
  rw [ends_reporting, ends_bind]
  constructor
  · rintro ⟨⟨settings, component⟩, s', h, -⟩
    exact ⟨settings, component, ends_load.mp ⟨s', h⟩⟩
  · rintro ⟨settings, component, loads⟩
    obtain ⟨s', h⟩ := ends_load.mpr loads
    exact ⟨_, s', h, _, rfl⟩

theorem ends_emit {c : Command} {file : String} {style : Option Style}
    (hstyle : ∀ y ∈ style, y = .compact ∨ y = .terms) :
    Ends (emit c file style none) s 0 ↔ s.files.Accepts c.config c.target file := by
  unfold emit
  rw [ends_bind]
  constructor
  · rintro ⟨⟨settings, component⟩, s', h, -⟩
    exact ⟨settings, component, ends_load.mp ⟨s', h⟩⟩
  · rintro ⟨settings, component, loads⟩
    obtain ⟨s', h⟩ := ends_load.mpr loads
    obtain ⟨_, _, loaded, -, described⟩ := loads
    have named : style.getD settings.style = .compact ∨ style.getD settings.style = .terms := by
      cases style with
      | none => exact (Settings.known_of_load loaded).style
      | some y => exact hstyle y rfl
    obtain ⟨text, printed⟩ := Component.prints_of_ofText described named
    refine ⟨_, s', h, ?_⟩
    dsimp only
    rw [printed]
    exact ⟨_, rfl⟩

theorem ends_loadReporting {c : Command} {file : String} {component : Component Empty} :
    Ends (loadReporting c file) s (some component) ↔
      ∃ settings, s.files.Loads c.config c.target file settings component := by
  unfold loadReporting
  rw [ends_tryCatch, ends_bind]
  · constructor
    · rintro ⟨⟨settings, component'⟩, s', h, _, ⟨⟩⟩
      exact ⟨settings, ends_load.mp ⟨s', h⟩⟩
    · rintro ⟨settings, loads⟩
      obtain ⟨s', h⟩ := ends_load.mpr loads
      exact ⟨_, s', h, _, rfl⟩
  · intro e s
    split
    · rintro ⟨_, ⟨⟩⟩
    · rintro ⟨_, ⟨⟩⟩

theorem ends_constraints {c : Command} {file : String} :
    Ends (constraints c file none) s 0 ↔ s.files.Accepts c.config c.target (tidyPath file) := by
  unfold constraints
  dsimp only
  rw [ends_bind]
  by_cases held : s.files.holds (tidyPath file) = true
  · constructor
    · rintro ⟨_, _, ⟨⟩, h⟩
      rw [held] at h
      obtain ⟨found, s', h₁, h₂⟩ := ends_bind.mp h
      cases found with
      | none => obtain ⟨_, ⟨⟩⟩ := h₂
      | some component =>
        obtain ⟨settings, loads⟩ := ends_loadReporting.mp ⟨s', h₁⟩
        exact ⟨settings, component, loads⟩
    · rintro ⟨settings, component, loads⟩
      obtain ⟨s', h⟩ := ends_loadReporting.mpr ⟨settings, loads⟩
      obtain ⟨_, _, -, -, described⟩ := loads
      obtain ⟨text, script⟩ := Component.smt_of_ofText described (lastPart (tidyPath file))
      refine ⟨s, s, rfl, ?_⟩
      rw [held]
      refine ends_bind.mpr ⟨_, s', h, ?_⟩
      dsimp only
      rw [script]
      exact ⟨_, rfl⟩
  · refine iff_of_false ?_ ?_
    · rintro ⟨_, _, ⟨⟩, h⟩
      rw [Bool.eq_false_iff.mpr held] at h
      obtain ⟨_, ⟨⟩⟩ := h
    · rintro ⟨_, _, _, _, -, read, -⟩
      exact held (Files.holds_of_read _ read)

end Act

/-! ## programs -/

/-- the status that the program ends with, unless it fails -/
def Ending.status? : Ending → Option Nat
  | .usage status => some status
  | .done status _ _ _ => some status
  | .failed _ => none

open Arguments Act

theorem status_of_ofWords {files : Files} {words : List String} {c : Command}
    (h : Command.ofWords words = .ok (some c)) :
    (run words files).status? = some 0 ↔ Ends (perform c) ⟨files, "", []⟩ 0 := by
  unfold run
  rw [h, ← @ends_reporting _ Failure.isExpected Failure.report]
  unfold guarded Ends
  dsimp only
  generalize (reporting Failure.isExpected Failure.report (perform c)).run.run
    ⟨files, "", []⟩ = outcome
  obtain ⟨e | status, s⟩ := outcome
  · exact iff_of_false nofun (by rintro ⟨_, ⟨⟩⟩)
  · constructor
    · rintro ⟨⟩
      exact ⟨s, rfl⟩
    · rintro ⟨_, ⟨⟩⟩
      rfl

section

variable {files : Files} {config target : Option String} {front : List String} {file : String}

theorem run_parse (h : GivesSettings config target front) (hconfig : ∀ x ∈ config, Unmarked x)
    (htarget : ∀ x ∈ target, Unmarked x) (hfile : Unmarked file) :
    (run (front ++ ["parse", file]) files).status? = some 0 ↔ files.Accepts config target file := by
  rw [status_of_ofWords (ofWords_parse h hconfig htarget hfile), ← Files.accepts_given]
  exact ends_parse

theorem run_emit (h : GivesSettings config target front) (hconfig : ∀ x ∈ config, Unmarked x)
    (htarget : ∀ x ∈ target, Unmarked x) (hfile : Unmarked file) {style : Option String}
    (hstyle : ∀ s ∈ style, s ∈ styleNames) {rest : List String} (hrest : GivesStyle style file rest) :
    (run (front ++ "emit" :: rest) files).status? = some 0 ↔ files.Accepts config target file := by
  have named : ∀ y ∈ style.map Style.ofName, y = .compact ∨ y = .terms := by
    have names : ∀ s ∈ styleNames, Style.ofName s = .compact ∨ Style.ofName s = .terms := by decide
    intro y hy
    obtain ⟨s, hs, rfl⟩ := Option.map_eq_some_iff.mp hy
    exact names s (hstyle s hs)
  rw [status_of_ofWords (ofWords_emit h hconfig htarget hfile hstyle hrest), ← Files.accepts_given]
  exact ends_emit named

theorem run_constraints (h : GivesSettings config target front) (hconfig : ∀ x ∈ config, Unmarked x)
    (htarget : ∀ x ∈ target, Unmarked x) (hfile : Unmarked file) :
    (run (front ++ ["smt-constraints", file]) files).status? = some 0 ↔
      files.Accepts config target (tidyPath file) := by
  rw [status_of_ofWords (ofWords_constraints h hconfig htarget hfile), ← Files.accepts_given]
  exact ends_constraints

/-- `parse` and `emit` end with status 0 on exactly the files that are accepted, in any style, and
`smt-constraints` on exactly those that are accepted under their tidy paths; these are the same files
but for paths that end in an idle part -/
theorem run_accepts (h : GivesSettings config target front) (hconfig : ∀ x ∈ config, Unmarked x)
    (htarget : ∀ x ∈ target, Unmarked x) (hfile : Unmarked file) {style : Option String}
    (hstyle : ∀ s ∈ style, s ∈ styleNames) {rest : List String} (hrest : GivesStyle style file rest) :
    ((run (front ++ ["parse", file]) files).status? = some 0 ↔
        files.Accepts config target file) ∧
      ((run (front ++ "emit" :: rest) files).status? = some 0 ↔
        files.Accepts config target file) ∧
      ((run (front ++ ["smt-constraints", file]) files).status? = some 0 ↔
        files.Accepts config target (tidyPath file)) ∧
      (endsIdle (pathParts file) = false →
        (files.Accepts config target (tidyPath file) ↔ files.Accepts config target file)) :=
  ⟨run_parse h hconfig htarget hfile, run_emit h hconfig htarget hfile hstyle hrest,
    run_constraints h hconfig htarget hfile, Files.accepts_tidyPath⟩

end

/-- the sample, in the file `b` -/
def sampleFiles : Files :=
  Settings.install (.ofNames ["work"] ["opt"] [("b", Component.sampleText)])

theorem read_sampleFiles : sampleFiles.read "b" = .ok Component.sampleText := by
  have located : sampleFiles.locate "b" = .ok (.file ["work", "b"]) :=
    ok_of_toOption (by decide +kernel)
  have noReturn : '\r' ∉ Component.sampleText.toList := by
    unfold Component.sampleText
    rw [String.toList_append, List.mem_append, not_or]
    constructor
    · show '\r' ∉ (String.ofList _).toList
      rw [String.toList_ofList]
      decide
    · show '\r' ∉ (String.ofList _).toList
      rw [String.toList_ofList]
      decide
  unfold Files.read
  rw [located]
  exact congrArg Except.ok (readableText_of_not_mem noReturn)

theorem accepts_sample (target : Option String)
    (h : ∃ origin, Settings.load sampleFiles none target = .ok (Settings.standard, origin)) :
    sampleFiles.Accepts none target "b" := by
  obtain ⟨origin, loaded⟩ := h
  exact ⟨_, _, origin, _, loaded, read_sampleFiles, Component.ofText_sample⟩

/-- all three commands accept the file -/
theorem run_accepts_sample :
    GivesSettings none (some "addr64") ["--target", "addr64"] ∧
      (∀ x ∈ (none : Option String), Unmarked x) ∧ (∀ x ∈ some "addr64", Unmarked x) ∧
      Unmarked "b" ∧ (∀ s ∈ some "z3", s ∈ styleNames) ∧
      GivesStyle (some "z3") "b" ["b", "--style", "z3"] ∧
      (run ["--target", "addr64", "parse", "b"] sampleFiles).status? = some 0 ∧
      (run ["--target", "addr64", "emit", "b", "--style", "z3"] sampleFiles).status? = some 0 ∧
      (run ["--target", "addr64", "smt-constraints", "b"] sampleFiles).status? = some 0 := by
  have settings : GivesSettings none (some "addr64") ["--target", "addr64"] := .inl rfl
  have style : GivesStyle (some "z3") "b" ["b", "--style", "z3"] := .inr rfl
  have noConfig : ∀ x ∈ (none : Option String), Unmarked x := nofun
  have target : ∀ x ∈ some "addr64", Unmarked x := by decide
  have file : Unmarked "b" := by decide
  have listed : ∀ s ∈ some "z3", s ∈ styleNames := by decide
  have loaded : Settings.load sampleFiles none (some "addr64") =
      .ok (Settings.standard, .path "/opt/configs/addr64.yaml") := ok_of_toOption (by decide +kernel)
  have accepted := accepts_sample (some "addr64") ⟨_, loaded⟩
  obtain ⟨parse, emit, constraints, tidy⟩ :=
    run_accepts settings noConfig target file listed style
  refine ⟨settings, noConfig, target, file, listed, style, parse.mpr accepted,
    emit.mpr accepted, constraints.mpr ?_⟩
  exact (tidy rfl).mpr accepted

/-- behind a slash, the file is found by `smt-constraints` only -/
theorem run_slashed :
    Unmarked "b/" ∧ (run ["smt-constraints", "b/"] sampleFiles).status? = some 0 ∧
      (run ["parse", "b/"] sampleFiles).status? ≠ some 0 ∧
      (run ["emit", "b/"] sampleFiles).status? ≠ some 0 ∧
      ¬ sampleFiles.Accepts none none "b/" := by
  have refused : ¬ sampleFiles.Accepts none none "b/" := by
    rintro ⟨_, _, _, _, -, read, -⟩
    have slashed : sampleFiles.read "b/" = .error (.notDirectory "b/") :=
      error_of_error? (by decide +kernel)
    rw [slashed] at read
    cases read
  have nothing : GivesSettings none none [] := .inl rfl
  have plain : GivesStyle none "b/" ["b/"] := .inl rfl
  have noStyle : ∀ s ∈ (none : Option String), s ∈ styleNames := nofun
  have unmarked : Unmarked "b/" := by decide
  have tidy : tidyPath "b/" = "b" := by rfl
  refine ⟨unmarked, (run_constraints nothing nofun nofun unmarked).mpr ?_,
    (run_parse nothing nofun nofun unmarked).not.mpr refused,
    (run_emit nothing nofun nofun unmarked noStyle plain).not.mpr refused, refused⟩
  rw [tidy]
  exact accepts_sample none ⟨_, rfl⟩

end BankSwitch
