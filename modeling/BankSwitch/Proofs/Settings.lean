import BankSwitch.Proofs.Checks
import BankSwitch.Proofs.Grammar.Terminal
import BankSwitch.Settings.Load

/-!
# What settings can be loaded

The settings in a document are those that it gives, within bounds, and standard where it gives none
(`Settings.gives_of_ofDocument`); and settings that come from a file have a form of ranges and a style
with a name, as those of targets and the standard ones do (`Settings.known_of_load`).
-/

namespace BankSwitch

namespace Settings

/-! ## what a document gives -/

/-- the width under a key: a number within the bounds, with or without a point -/
inductive GivesWidth : Option Document → Width → Prop
  | standard : GivesWidth none (.whole 64)
  | whole {n : Nat} (pos : 0 < n) (le : n ≤ 4096) : GivesWidth (some (.integer n)) (.whole n)
  | real {x : Binary64} {n : Nat} (same : x.toInt? = some n) (pos : 0 < n) (le : n ≤ 4096) :
      GivesWidth (some (.real x)) (.real n)

/-- what a name under a key stands for -/
inductive GivesName {β : Type} (names : List (String × β)) (unbound : β) : Option Document → β → Prop
  | standard : GivesName names unbound none unbound
  | named {s : String} {b : β} (listed : (s, b) ∈ names) : GivesName names unbound (some (.text s)) b

theorem GivesName.mem {β : Type} {names : List (String × β)} {unbound b : β} {v : Option Document}
    (h : GivesName names unbound v b) : b ∈ unbound :: names.map Prod.snd := by
  cases h with
  | standard => exact List.mem_cons_self
  | named listed => exact List.mem_cons_of_mem _ (List.mem_map.mpr ⟨_, listed, rfl⟩)

/-- the settings that a mapping gives -/
structure Gives (es : List (Document × Document)) (s : Settings) : Prop where
  width : GivesWidth (Document.get? es "width") s.width
  rangeForm : GivesName [("size", .size), ("end", .stop)] .size
    (Document.get? es "z3_range") s.rangeForm
  style : GivesName [("compact", .compact), ("z3", .terms)] .compact
    (Document.get? es "style") s.style

theorem givesWidth_of_passes {es : List (Document × Document)}
    (h : (Document.Check.property "width"
      (.kind .integer [.minimum 1, .maximum 4096])).Passes (.mapping es)) :
    GivesWidth (Document.get? es "width")
      (((Document.get? es "width").map widthOf).getD standard.width) := by
  cases hv : Document.get? es "width" with
  | none => exact .standard
  | some v =>
    obtain ⟨integer, bounds⟩ := Document.Check.passes_kind (Document.Check.passes_property h hv)
    obtain ⟨n, hn⟩ := Document.isInteger_of_hasKind integer
    have least : 1 ≤ n := Document.Check.passes_minimum (bounds _ (by simp)) hn
    have greatest : n ≤ 4096 := Document.Check.passes_maximum (bounds _ (by simp)) hn
    obtain ⟨m, rfl⟩ := Int.eq_ofNat_of_zero_le (show 0 ≤ n by omega)
    cases hn with
    | integer => exact .whole (by omega) (by omega)
    | @real x _ same =>
      have value : widthOf (.real x) = .real m := by
        show Width.real (x.toInt?.getD 0).toNat = _
        rw [same]
        rfl
      show GivesWidth _ (widthOf (.real x))
      rw [value]
      exact .real same (by omega) (by omega)

theorem givesName_of_passes {β : Type} {name : String} {names : List (String × β)}
    {es : List (Document × Document)} {f : Document → β} {unbound : β}
    (h : (Document.Check.property name
      (.kind .string [.oneOf (names.map Prod.fst)])).Passes (.mapping es))
    (hf : ∀ p ∈ names, f (.text p.1) = p.2) :
    GivesName names unbound (Document.get? es name)
      (((Document.get? es name).map f).getD unbound) := by
  cases hv : Document.get? es name with
  | none => exact .standard
  | some v =>
    have listed := (Document.Check.passes_kind (Document.Check.passes_property h hv)).2
    obtain ⟨s, rfl, hs⟩ := Document.Check.passes_oneOf (listed _ List.mem_cons_self)
    obtain ⟨⟨s, b⟩, hp, rfl⟩ := List.mem_map.mp hs
    show GivesName names unbound (some (.text s)) (f (.text s))
    rw [hf _ hp]
    exact .named hp

theorem gives_of_ofDocument {d : Document} {s : Settings} (h : ofDocument d = .ok s) :
    ∃ es, d = .mapping es ∧ Gives es s := by
  unfold ofDocument at h
  split at h
  · cases h
  · next es sound =>
    cases h
    have all := (Document.Check.passes_kind (Document.passes_of_worst? sound)).2
    simp only [List.forall_mem_cons] at all
    obtain ⟨width, forms, styles, -⟩ := all
    exact ⟨es, rfl, givesWidth_of_passes width, givesName_of_passes forms (by decide),
      givesName_of_passes styles (by decide)⟩
  · next d _ _ unmapped sound =>
    have object := (Document.Check.passes_kind (Document.passes_of_worst? sound)).1
    cases d with
    | mapping es => exact absurd rfl (unmapped es)
    | _ => cases object

/-! ## settings with names -/

/-- form and style have names -/
structure Known (s : Settings) : Prop where
  rangeForm : s.rangeForm = .size ∨ s.rangeForm = .stop
  style : s.style = .compact ∨ s.style = .terms

theorem known_standard : standard.Known := ⟨.inl rfl, .inl rfl⟩

theorem Gives.known {es : List (Document × Document)} {s : Settings} (h : Gives es s) :
    s.Known where
  rangeForm := by simpa using h.rangeForm.mem
  style := by simpa using h.style.mem

theorem known_ofDocument {d : Document} {s : Settings} (h : ofDocument d = .ok s) : s.Known := by
  obtain ⟨es, -, gives⟩ := gives_of_ofDocument h
  exact gives.known

theorem eq_ok_of_mapError {ε ε' β : Type} {m : Except ε β} {f : ε → ε'} {b : β}
    (h : m.mapError f = .ok b) : m = .ok b := by
  cases m with
  | error e => cases h
  | ok b' =>
    cases h
    rfl

theorem known_ofFile {fs : Files} {path : String} {s : Settings} (h : ofFile fs path = .ok s) :
    s.Known := by
  unfold ofFile at h
  obtain ⟨text, -, h⟩ := bind_ok h
  obtain ⟨d, -, h⟩ := bind_ok h
  exact known_ofDocument (eq_ok_of_mapError h)

theorem known_ofPath {fs : Files} {path : String} {s : Settings} {origin : Origin}
    (h : ofPath fs path = .ok (s, origin)) : s.Known := by
  unfold ofPath at h
  cases hf : ofFile fs path with
  | error e =>
    rw [hf] at h
    cases h
  | ok s' =>
    rw [hf] at h
    cases h
    exact known_ofFile hf

/-- settings that are loaded have a form of ranges and a style with a name -/
theorem known_of_load {fs : Files} {path target : Option String} {s : Settings} {origin : Origin}
    (h : load fs path target = .ok (s, origin)) : s.Known := by
  unfold load at h
  split at h
  · exact known_ofPath h
  · dsimp only at h
    split at h
    · exact known_ofPath h
    · cases h
      exact known_standard
  · cases h
    exact known_standard

end Settings

end BankSwitch
