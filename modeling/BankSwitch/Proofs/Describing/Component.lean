import BankSwitch.Proofs.Describing.Layout
import BankSwitch.Proofs.Describing.Translation
import BankSwitch.Proofs.Faults
import BankSwitch.Proofs.Printing.Component

/-!
# Described components

The lines that describe a component are its head and three lines for each bank.  Of components that
were read no two have the same lines: the head shows parameters and width, the lines of a bank its
layout and its translation (`Component.describe_ofText`).
-/

namespace BankSwitch

variable {α : Type} {w w' : Nat} {form form' : RangeForm}

/-- the cases of a translation, in order -/
def Translation.cases : Translation α → List (Case α)
  | .body _ => []
  | .switch first rest _ => first :: rest

theorem Translation.Fits.cases {t : Translation α} (h : t.Fits w) : ∀ c ∈ t.cases, c.Fits w := by
  cases t with
  | body b => exact List.forall_mem_nil _
  | switch first rest default => exact List.forall_mem_cons.mpr ⟨h.1, h.2.1⟩

variable [Alien α]

/-! ## banks -/

theorem Bank.describe_inj {b b' : Bank α} (h : b.Fits form w) (h' : b'.Fits form' w') {i : Nat}
    (e : b.describe i = b'.describe i) : b = b' := by
  have unit : Begins notWordChar " addresses)" := ⟨' ', _, rfl, rfl⟩
  have layoutLine := (((Partition.tells b.layout b'.layout).lead "    layout:      ").between " ("
    (fun _ => trivial) (tells_nat b.layout.size b'.layout.size)).before " addresses)"
      unit.apart
  have translationLine := (Translation.tells h.translation h'.translation).lead "    translation: "
  obtain ⟨-, rest⟩ := List.cons.inj e
  obtain ⟨layout, rest⟩ := List.cons.inj rest
  obtain ⟨translation, -⟩ := List.cons.inj rest
  cases b
  cases b'
  cases (layoutLine.of_eq trivial layout).1
  cases translationLine.of_eq Primitive.ends_nil translation
  rfl

/-- the lines of banks, the first of them with the number `i` -/
theorem describe_banks_inj {bs bs' : List (Bank α)} (h : ∀ b ∈ bs, b.Fits form w)
    (h' : ∀ b ∈ bs', b.Fits form' w') {i : Nat}
    (e : (bs.zipIdx i).flatMap (fun (b, i) => b.describe i) =
      (bs'.zipIdx i).flatMap (fun (b, i) => b.describe i)) : bs = bs' := by
  induction bs generalizing bs' i with
  | nil =>
    cases bs' with
    | nil => rfl
    | cons b' bs' => cases e
  | cons b bs ih =>
    cases bs' with
    | nil => cases e
    | cons b' bs' =>
      rw [List.zipIdx_cons, List.zipIdx_cons, List.flatMap_cons, List.flatMap_cons] at e
      obtain ⟨head, tail⟩ := List.append_inj e rfl
      have first := Bank.describe_inj (h b List.mem_cons_self) (h' b' List.mem_cons_self) head
      have rest := ih (fun c hc => h c (List.mem_cons_of_mem b hc))
        (fun c hc => h' c (List.mem_cons_of_mem b' hc)) tail
      rw [first, rest]

/-! ## components -/

namespace Component

theorem describe_inj {c c' : Component α} (h : c.Fits form w) (h' : c'.Fits form' w')
    (e : c.describe = c'.describe) : c = c' := by
  have comma : Begins notWordChar ", " := ⟨',', [' '], rfl, rfl⟩
  have closing : Begins notWordChar "> (" := ⟨'>', _, rfl, rfl⟩
  have lines : Begins notWordChar "-bit)" := ⟨'-', _, rfl, rfl⟩
  have params := ((h.paramA.tells h'.paramA).lead "memory<").between ", " comma.apart
    (h.paramB.tells h'.paramB)
  have headLine := (params.between "> (" closing.apart (tells_nat c.width c'.width)).before "-bit)"
    lines.apart
  obtain ⟨head, rest⟩ := List.cons.inj e
  obtain ⟨⟨paramA, paramB⟩, width⟩ := headLine.of_eq trivial head
  have banks := describe_banks_inj h.banks h'.banks rest
  cases c
  cases c'
  cases paramA
  cases paramB
  cases width
  cases banks
  rfl

end Component

/-! ## what was read -/

/-- the two are shown as the same text only if they are the same: layout and translation of banks,
guards and bodies of their cases -/
structure Bank.ToldApart (b b' : Bank α) : Prop where
  layout : b.layout.text = b'.layout.text ↔ b.layout = b'.layout
  translation : b.translation.text = b'.translation.text ↔ b.translation = b'.translation
  guard : ∀ c ∈ b.translation.cases, ∀ c' ∈ b'.translation.cases,
    c.guard.text = c'.guard.text ↔ c.guard = c'.guard
  body : ∀ c ∈ b.translation.cases, ∀ c' ∈ b'.translation.cases,
    c.body.text = c'.body.text ↔ c.body = c'.body

theorem Tells.eq_iff {β : Type} {text : β → String} {follow : List Char → Prop} {x y : β}
    (h : Tells (text x) (text y) follow (x = y)) (hnil : follow []) : text x = text y ↔ x = y :=
  ⟨h.of_eq hnil, congrArg text⟩

theorem Bank.toldApart {b b' : Bank α} (h : b.Fits form w) (h' : b'.Fits form' w') :
    b.ToldApart b' where
  layout := (Partition.tells b.layout b'.layout).eq_iff trivial
  translation := (Translation.tells h.translation h'.translation).eq_iff Primitive.ends_nil
  guard := fun c hc c' hc' =>
    (Guard.tells (h.translation.cases c hc).guard (h'.translation.cases c' hc').guard).eq_iff
      apart_nil
  body := fun c hc c' hc' =>
    (Body.tells (h.translation.cases c hc).body (h'.translation.cases c' hc').body).eq_iff
      Primitive.ends_nil

namespace Component

/-- components that were read, each under settings of its own, are described by the same lines only if
they are the same, and so are their layouts, translations, guards and bodies, text by text -/
theorem describe_ofText {settings settings' : Settings} {text text' : String} {c c' : Component α}
    (h : ofText settings text = .ok c) (h' : ofText settings' text' = .ok c') :
    (c.describe = c'.describe ↔ c = c') ∧ ∀ b ∈ c.banks, ∀ b' ∈ c'.banks, b.ToldApart b' := by
  obtain ⟨w, hw⟩ := width_of_ofText h
  obtain ⟨w', hw'⟩ := width_of_ofText h'
  have fits := fits_of_ofText hw h
  have fits' := fits_of_ofText hw' h'
  refine ⟨⟨describe_inj fits fits', congrArg describe⟩, ?_⟩
  intro b hb b' hb'
  exact Bank.toldApart (fits.banks b hb) (fits'.banks b' hb')

/-- the even addresses below eight; those that the guard is false of are at slot five -/
def guarded (g : Guard Empty) : Component Empty :=
  ofSample ⟨.single (.everyOther 0 8),
    .switch ⟨g, .primitive .noop⟩ [] (.sequence (.constant 5) [])⟩ []

theorem guarded_fits {g : Guard Empty} (hg : g.Fits 64) : (guarded g).Fits form 64 where
  paramA := ⟨16, rfl, by decide⟩
  paramB := ⟨2, rfl, by decide⟩
  banks := by
    refine List.forall_mem_singleton.mpr ⟨List.forall_mem_singleton.mpr ⟨?_, ?_, ?_, ?_, ?_⟩, ?_⟩
    · decide
    · decide
    · decide
    · rintro k ⟨⟩
      decide
    · intro top
      exact absurd top (by decide)
    · exact ⟨⟨hg, trivial⟩, List.forall_mem_nil _, ⟨5, rfl, by decide⟩, List.forall_mem_nil _⟩
  width := rfl

def atLeastTwo : Guard Empty := .compare ⟨.left, .atLeast, 2, addressName⟩

def belowSix : Guard Empty := .compare ⟨.left, .below, 6, addressName⟩

/-- not both -/
def notBoth : Guard Empty := .negation (.chain (.pair atLeastTwo .and belowSix))

/-- the second without the first -/
def notFirst : Guard Empty := .chain (.pair (.negation atLeastTwo) .and belowSix)

def notBothText : String :=
  "memory<16, 2> \x7b\n    bank \x7b layout: [0:8:2] translation: switch \x7b " ++
    "!(INPUT >= 2 && INPUT < 6) -> NOOP, -> [5] \x7d \x7d\n\x7d\n"

def notFirstText : String :=
  "memory<16, 2> \x7b\n    bank \x7b layout: (Range 0 8 2) translation: switch \x7b " ++
    "((!(INPUT >= 2)) && INPUT < 6) -> NOOP, -> [(Constant #x5)] \x7d \x7d\n\x7d\n"

/-- how far a negation reaches is seen in the lines of a component and in the text of its guard -/
theorem describe_ofText_negations :
    ofText Settings.standard notBothText = .ok (guarded notBoth) ∧
      ofText ⟨.whole 64 (some hostDigits), .stop, .terms⟩ notFirstText = .ok (guarded notFirst) ∧
      (guarded notBoth).describe ≠ (guarded notFirst).describe ∧ notBoth.text ≠ notFirst.text := by
  have fits : (guarded notBoth).Fits .size 64 :=
    guarded_fits ⟨⟨rfl, 2, rfl, by decide⟩, rfl, 6, rfl, by decide⟩
  have fits' : (guarded notFirst).Fits .stop 64 :=
    guarded_fits ⟨⟨rfl, 2, rfl, by decide⟩, rfl, 6, rfl, by decide⟩
  have host : DecimalsFit 64 (some hostDigits) := decimalsFit_host (by decide)
  have h : ofText Settings.standard notBothText = .ok (guarded notBoth) :=
    ofText_of_print (w := 64) rfl host (.inl rfl) fits (printable_of_fits fits) rfl
  have h' : ofText ⟨.whole 64 (some hostDigits), .stop, .terms⟩ notFirstText = .ok (guarded notFirst) :=
    ofText_of_print (w := 64) rfl host (.inr rfl) fits' (printable_of_fits fits') rfl
  obtain ⟨lines, parts⟩ := describe_ofText h h'
  have other : notBoth ≠ notFirst := nofun
  refine ⟨h, h', fun same => ?_, fun same => other ?_⟩
  · cases lines.mp same
  · exact ((parts _ List.mem_cons_self _ List.mem_cons_self).guard _ List.mem_cons_self _
      List.mem_cons_self).mp same

end Component

end BankSwitch
