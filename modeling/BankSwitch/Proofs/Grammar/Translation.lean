import BankSwitch.Proofs.Grammar.Guard
import BankSwitch.Translation.Reader

/-!
# The grammar of translations

    translation = switch | body
    body        = "[" primitive { ";" primitive } "]" | primitive
    primitive   = "INPUT" "+" NUM | NUM "+" "INPUT" | "INPUT" "-" NUM | NUM "-" "INPUT"
                | NUM | "INPUT" ">>" NUM | "NOOP" | "(" word NUM ")"
    word        = "Constant" | "Add" | "SubPV" | "SubVP" | "RShift"
    switch      = "switch" "{" case { case } "->" body "}"
    case        = term "->" body ","

A bare number is the only primitive that could go on, with an operator behind it; no phrase of the
grammar leaves an operator there (`Operated`).
-/

namespace BankSwitch

variable {α : Type} {x : Source}

/-! ## the rules -/

/-- the words of terms, each with what it makes of the number behind it -/
inductive Primitive.Word : Token.Kind → (Int → Primitive) → Prop
  | constant : Word .constant .constant
  | add : Word .add .add
  | subFrom : Word .subFrom .subFrom
  | sub : Word .sub .sub
  | shiftRight : Word .shiftRight .shiftRight

theorem Primitive.word_iff {k : Token.Kind} {make : Int → Primitive} :
    Word k make ↔ ofKind? k = some make := by
  constructor
  · rintro ⟨⟩ <;> rfl
  · cases k <;> rintro ⟨⟩ <;> constructor

inductive Primitive.Derives : Rule Primitive
  | noop (v : List Terminal) : Derives (.mark .noop :: v) .noop v
  | inputPlus (n : Nat) (v : List Terminal) :
      Derives (.mark .input :: .mark .plus :: .number n :: v) (.add n) v
  | plusInput (n : Nat) (v : List Terminal) :
      Derives (.number n :: .mark .plus :: .mark .input :: v) (.add n) v
  | inputMinus (n : Nat) (v : List Terminal) :
      Derives (.mark .input :: .mark .minus :: .number n :: v) (.sub n) v
  | minusInput (n : Nat) (v : List Terminal) :
      Derives (.number n :: .mark .minus :: .mark .input :: v) (.subFrom n) v
  | bare (n : Nat) (v : List Terminal) : Derives (.number n :: v) (.constant n) v
  | inputShift (n : Nat) (v : List Terminal) :
      Derives (.mark .input :: .mark .shift :: .number n :: v) (.shiftRight n) v
  | term {k : Token.Kind} {make : Int → Primitive} (n : Nat) (v : List Terminal)
      (word : Primitive.Word k make) :
      Derives (.mark .leftParen :: .mark k :: .number n :: .mark .rightParen :: v) (make n) v

/-- a primitive behind a semicolon -/
inductive Primitive.DerivesStep : Rule Primitive
  | intro {s v : List Terminal} {p : Primitive} (step : Primitive.Derives s p v) :
      DerivesStep (.mark .semicolon :: s) p v

inductive Body.Derives : Rule (Body α)
  | primitive {s v : List Terminal} {p : Primitive} (only : Primitive.Derives s p v) :
      Derives s (.primitive p) v
  | sequence {s t v : List Terminal} {p : Primitive} {ps : List Primitive}
      (first : Primitive.Derives s p t)
      (more : Repeats Primitive.DerivesStep t ps (.mark .rightBracket :: v)) :
      Derives (.mark .leftBracket :: s) (.sequence p ps) v

inductive Case.Derives : Rule (Case α)
  | intro {s t v : List Terminal} {g : Guard α} {b : Body α}
      (guard : Guard.DerivesTerm s g (.mark .arrow :: t))
      (body : Body.Derives t b (.mark .comma :: v)) :
      Derives s ⟨g, b⟩ v

inductive Translation.Derives : Rule (Translation α)
  | body {s v : List Terminal} {b : Body α} (only : Body.Derives s b v) : Derives s (.body b) v
  | switch {s t u v : List Terminal} {c : Case α} {cs : List (Case α)} {d : Body α}
      (first : Case.Derives s c t) (more : Repeats Case.Derives t cs (.mark .arrow :: u))
      (default : Body.Derives u d (.mark .rightBrace :: v)) :
      Derives (.mark .switch :: .mark .leftBrace :: s) (.switch c cs d) v

theorem Primitive.Derives.suffix {s v : List Terminal} {p : Primitive}
    (h : Primitive.Derives s p v) : v <:+ s := by
  cases h with
  | noop => exact ⟨[_], rfl⟩
  | inputPlus => exact ⟨[_, _, _], rfl⟩
  | plusInput => exact ⟨[_, _, _], rfl⟩
  | inputMinus => exact ⟨[_, _, _], rfl⟩
  | minusInput => exact ⟨[_, _, _], rfl⟩
  | bare => exact ⟨[_], rfl⟩
  | inputShift => exact ⟨[_, _, _], rfl⟩
  | term => exact ⟨[_, _, _, _], rfl⟩

theorem Primitive.DerivesStep.suffix {s v : List Terminal} {p : Primitive}
    (h : Primitive.DerivesStep s p v) : v <:+ s := by
  cases h with
  | intro step => exact step.suffix.trans (List.suffix_cons _ _)

theorem Body.Derives.suffix {s v : List Terminal} {b : Body α} (h : Body.Derives s b v) :
    v <:+ s := by
  cases h with
  | primitive only => exact only.suffix
  | sequence first more =>
    have rest := (more.suffix Primitive.DerivesStep.suffix).trans first.suffix
    exact ((List.suffix_cons _ v).trans rest).trans (List.suffix_cons _ _)

theorem Case.Derives.suffix {s v : List Terminal} {c : Case α} (h : Case.Derives s c v) :
    v <:+ s := by
  cases h with
  | intro guard body =>
    have rest := (List.suffix_cons _ v).trans body.suffix
    exact (rest.trans (List.suffix_cons _ _)).trans guard.suffix

theorem Translation.Derives.suffix {s v : List Terminal} {t : Translation α}
    (h : Translation.Derives s t v) : v <:+ s := by
  cases h with
  | body only => exact only.suffix
  | switch first more default =>
    have rest := (List.suffix_cons _ v).trans default.suffix
    have cases := (more.suffix Case.Derives.suffix).trans first.suffix
    exact ((rest.trans (List.suffix_cons _ _)).trans cases).trans ⟨[_, _], rfl⟩

/-- an operator is next that a number could stand before -/
def Operated (v : List Terminal) : Prop :=
  ∃ k make t, v = .mark k :: t ∧ Primitive.ofMiddle? k = some make

theorem not_operated_mark {k : Token.Kind} (h : Primitive.ofMiddle? k = none) (v : List Terminal) :
    ¬ Operated (.mark k :: v) := by
  rintro ⟨k', make, t, hv, hk⟩
  cases hv
  rw [h] at hk
  cases hk

theorem Guard.not_joined_mark {k : Token.Kind} (h : Connective.ofKind? k = none)
    (v : List Terminal) : ¬ Guard.Joined (.mark k :: v) := by
  rintro ⟨k', c, t, hv, hk⟩
  cases hv
  rw [Connective.mark_iff.mp hk] at h
  cases h

/-! ## readers take phrases only -/

namespace Primitive

theorem readWord_bind {β : Type} {s : List Token}
    {f : Reading (Int → Primitive) s → Except ReadError β} {b : β}
    (h : (readWord x s >>= f) = .ok b) :
    ∃ t r hr make, s = t :: r ∧ ofKind? t.kind = some make ∧ f ⟨make, r, hr⟩ = .ok b := by
  obtain ⟨q, e, h⟩ := bind_ok h
  cases s with
  | nil => cases e
  | cons t r =>
    unfold readWord at e
    dsimp only at e
    split at e
    · next make hm =>
      cases e
      exact ⟨t, r, _, make, rfl, hm, h⟩
    · cases e

theorem derives_of_readTerm {s v : List Token} {p : Primitive} {hv : v.length < s.length}
    (h : readTerm x s = .ok ⟨p, v, hv⟩) : Derives (terminals s) p (terminals v) := by
  unfold readTerm at h
  obtain ⟨t₁, s₁, h₁, rfl, k₁, h⟩ := Source.expect_bind h
  obtain ⟨t₂, s₂, h₂, make, rfl, word, h⟩ := readWord_bind h
  obtain ⟨n, p, s₃, h₃, rfl, h⟩ := Source.number_bind h
  obtain ⟨t₄, s₄, h₄, rfl, k₄, h⟩ := Source.expect_bind h
  cases h
  simp only [terminals_cons, terminal_number, terminal_of_kind k₁ rfl, terminal_of_entry word rfl,
    terminal_of_kind k₄ rfl]
  exact .term n _ (word_iff.mpr word)

theorem derives_of_readOperation {s v : List Token} {p : Primitive} {hv : v.length < s.length}
    (h : readOperation x s = .ok ⟨p, v, hv⟩) :
    Derives (.mark .input :: terminals s) p (terminals v) := by
  cases s with
  | nil => cases h
  | cons t r =>
    unfold readOperation at h
    dsimp only at h
    split at h
    · next make hm =>
      obtain ⟨n, p, s₁, h₁, rfl, h⟩ := Source.number_bind h
      cases h
      simp only [terminals_cons, terminal_number, terminal_of_entry hm rfl]
      revert hm
      cases t.kind <;> intro hm <;> cases hm
      · exact .inputPlus n _
      · exact .inputMinus n _
      · exact .inputShift n _
    · cases h

theorem derives_of_readOperand {n : Nat} {s v : List Token} {p : Primitive}
    {hv : v.length ≤ s.length} (h : readOperand x n s = .ok ⟨p, v, hv⟩) :
    Derives (.number n :: terminals s) p (terminals v) := by
  cases s with
  | nil =>
    cases h
    exact .bare n _
  | cons t r =>
    unfold readOperand at h
    dsimp only at h
    split at h
    · next make hm =>
      obtain ⟨t', s₁, h₁, rfl, k', h⟩ := Source.expect_bind h
      cases h
      simp only [terminals_cons, terminal_of_kind k' rfl, terminal_of_entry hm rfl]
      revert hm
      cases t.kind <;> intro hm <;> cases hm
      · exact .plusInput n _
      · exact .minusInput n _
    · cases h
      exact .bare n _

theorem derives_of_read {s v : List Token} {p : Primitive} {hv : v.length < s.length}
    (h : read x s = .ok ⟨p, v, hv⟩) : Derives (terminals s) p (terminals v) := by
  unfold read at h
  split at h
  · cases h
  · obtain ⟨t, s₁, h₁, rfl, k, h⟩ := Source.expect_bind h
    cases h
    rw [terminals_cons, terminal_of_kind k rfl]
    exact .noop _
  · exact derives_of_readTerm h
  · obtain ⟨t, s₁, h₁, rfl, k, h⟩ := Source.expect_bind h
    obtain ⟨⟨p, s₂, h₂⟩, e, h⟩ := bind_ok h
    cases h
    rw [terminals_cons, terminal_of_kind k rfl]
    exact derives_of_readOperation e
  · obtain ⟨n, p, s₁, h₁, rfl, h⟩ := Source.number_bind h
    obtain ⟨⟨p, s₂, h₂⟩, e, h⟩ := bind_ok h
    cases h
    rw [terminals_cons, terminal_number]
    exact derives_of_readOperand e
  · cases h

theorem repeats_of_readMore : ∀ {s v : List Token} {ps : List Primitive}
    {hv : v.length ≤ s.length}, readMore x s = .ok ⟨ps, v, hv⟩ →
    Repeats DerivesStep (terminals s) ps (terminals v)
  | [], v, ps, hv, h => by
    unfold readMore at h
    cases h
    exact .nil _
  | t :: r, v, ps, hv, h => by
    unfold readMore at h
    split at h
    · next hk =>
      obtain ⟨⟨p, s₁, h₁⟩, e₁, h⟩ := bind_ok h
      obtain ⟨⟨ps, s₂, h₂⟩, e₂, h⟩ := bind_ok h
      cases h
      rw [terminals_cons, terminal_of_kind hk rfl]
      exact .cons (.intro (derives_of_read e₁)) (repeats_of_readMore e₂)
    · cases h
      exact .nil _
termination_by s => s.length

end Primitive

namespace Body

theorem derives_of_read {s v : List Token} {b : Body α} {hv : v.length < s.length}
    (h : read x s = .ok ⟨b, v, hv⟩) : Derives (terminals s) b (terminals v) := by
  unfold read at h
  split at h
  · unfold readSequence at h
    obtain ⟨⟨⟨p, ps⟩, s₁, h₁⟩, e, h⟩ := bind_ok h
    cases h
    obtain ⟨t, s₁, s₂, h₂, t', h₃, rfl, k, e₂, e₃, k'⟩ := Source.enclosed_ok e
    have more := Primitive.repeats_of_readMore e₃
    rw [terminals_cons, terminal_of_kind k' rfl] at more
    rw [terminals_cons, terminal_of_kind k rfl]
    exact .sequence (Primitive.derives_of_read e₂) more
  · obtain ⟨⟨p, s₁, h₁⟩, e, h⟩ := bind_ok h
    cases h
    exact .primitive (Primitive.derives_of_read e)

end Body

namespace Case

theorem derives_of_read {s v : List Token} {c : Case α} {hv : v.length < s.length}
    (h : read x s = .ok ⟨c, v, hv⟩) : Derives (terminals s) c (terminals v) := by
  unfold read at h
  obtain ⟨⟨g, s₁, h₁⟩, e₁, h⟩ := bind_ok h
  obtain ⟨t₂, s₂, h₂, rfl, k₂, h⟩ := Source.expect_bind h
  obtain ⟨⟨b, s₃, h₃⟩, e₃, h⟩ := bind_ok h
  obtain ⟨t₄, s₄, h₄, rfl, k₄, h⟩ := Source.expect_bind h
  cases h
  have guard := Guard.derives_of_readTerm e₁
  have body := Body.derives_of_read e₃
  rw [terminals_cons, terminal_of_kind k₂ rfl] at guard
  rw [terminals_cons, terminal_of_kind k₄ rfl] at body
  exact .intro guard body

theorem loops : Source.Loops (fun s => Source.next? s ≠ some .arrow) (read (α := α) x)
    (readMore x) where
  stop s h := by rw [readMore, if_pos (Decidable.not_not.mp h)]
  step s h := by rw [readMore, if_neg h]

theorem repeats_of_readMore {s v : List Token} {cs : List (Case α)} {hv : v.length ≤ s.length}
    (h : readMore x s = .ok ⟨cs, v, hv⟩) :
    Repeats Derives (terminals s) cs (terminals v) :=
  loops.repeats derives_of_read h

end Case

namespace Translation

theorem derives_of_readSwitch {s v : List Token} {t : Translation α} {hv : v.length < s.length}
    (h : readSwitch x s = .ok ⟨t, v, hv⟩) : Derives (terminals s) t (terminals v) := by
  unfold readSwitch at h
  obtain ⟨t₁, s₁, h₁, rfl, k₁, h⟩ := Source.expect_bind h
  obtain ⟨t₂, s₂, h₂, rfl, k₂, h⟩ := Source.expect_bind h
  obtain ⟨⟨cases, s₃, h₃⟩, e₃, h⟩ := bind_ok h
  cases cases with
  | nil => cases h
  | cons c cs =>
    obtain ⟨t₄, s₄, h₄, rfl, k₄, h⟩ := Source.expect_bind h
    obtain ⟨⟨d, s₅, h₅⟩, e₅, h⟩ := bind_ok h
    obtain ⟨t₆, s₆, h₆, rfl, k₆, h⟩ := Source.expect_bind h
    cases h
    have cases := Case.repeats_of_readMore e₃
    have default := Body.derives_of_read e₅
    rw [terminals_cons, terminal_of_kind k₄ rfl] at cases
    rw [terminals_cons, terminal_of_kind k₆ rfl] at default
    rw [terminals_cons, terminals_cons, terminal_of_kind k₁ rfl, terminal_of_kind k₂ rfl]
    cases cases with
    | cons first more => exact .switch first more default

theorem derives_of_read {s v : List Token} {t : Translation α} {hv : v.length < s.length}
    (h : read x s = .ok ⟨t, v, hv⟩) : Derives (terminals s) t (terminals v) := by
  unfold read at h
  split at h
  · exact derives_of_readSwitch h
  · obtain ⟨⟨b, s₁, h₁⟩, e, h⟩ := bind_ok h
    cases h
    exact .body (Body.derives_of_read e)

end Translation

/-! ## readers take every phrase -/

namespace Primitive

theorem readWord_cons {t : Token} {make : Int → Primitive} (h : ofKind? t.kind = some make)
    (r : List Token) : readWord x (t :: r) = .ok (.front t r make) := by
  unfold readWord
  dsimp only
  split
  · next m h' => rw [h] at h'; cases h'; rfl
  · next h' => rw [h] at h'; cases h'

theorem readOperation_cons {t : Token} {make : Int → Primitive}
    (h : ofOperator? t.kind = some make) (n : Nat) (p : Position) (r : List Token) :
    ∃ hr, readOperation x (t :: ⟨.number n, p⟩ :: r) = .ok ⟨make n, r, hr⟩ := by
  refine ⟨by simp only [List.length_cons]; omega, ?_⟩
  unfold readOperation
  dsimp only
  rw [h]
  rfl

theorem readOperand_cons {t t' : Token} {make : Int → Primitive}
    (h : ofMiddle? t.kind = some make) (h' : t'.kind = .input) (n : Nat) (r : List Token) :
    ∃ hr, readOperand x n (t :: t' :: r) = .ok ⟨make n, r, hr⟩ := by
  refine ⟨by simp only [List.length_cons]; omega, ?_⟩
  unfold readOperand
  dsimp only
  rw [h]
  dsimp only
  rw [Source.expect_cons h']
  rfl

theorem readOperand_of_not_operated (n : Nat) {s : List Token}
    (h : ¬ Operated (terminals s)) : readOperand x n s = .ok (.nothing (.constant n) s) := by
  cases s with
  | nil => rfl
  | cons t r =>
    unfold readOperand
    dsimp only
    split
    · next make hm =>
      exact absurd ⟨_, make, _, by rw [terminals_cons, terminal_of_entry hm rfl], hm⟩ h
    · rfl

theorem read_behindInput {k : Token.Kind} {make : Int → Primitive} (hm : ofOperator? k = some make)
    {n : Nat} {s : List Token} {v : List Terminal}
    (hs : terminals s = .mark .input :: .mark k :: .number n :: v) :
    ∃ u hu, terminals u = v ∧ read x s = .ok ⟨make n, u, hu⟩ := by
  unfold read
  rw [next?_of_mark hs]
  obtain ⟨t₁, s₁, rfl, k₁, hs₁⟩ := eq_cons_of_mark hs
  obtain ⟨t₂, s₂, rfl, k₂, hs₂⟩ := eq_cons_of_mark hs₁
  obtain ⟨p₃, s₃, rfl, hs₃⟩ := eq_cons_of_number hs₂
  obtain ⟨h₃, e₃⟩ := readOperation_cons (x := x) (k₂ ▸ hm) n p₃ s₃
  refine ⟨s₃, by simp only [List.length_cons]; omega, hs₃, ?_⟩
  simp only [Source.expect_cons k₁, ok_bind, Reading.front, e₃]
  rfl

theorem read_beforeInput {k : Token.Kind} {make : Int → Primitive} (hm : ofMiddle? k = some make)
    {n : Nat} {s : List Token} {v : List Terminal}
    (hs : terminals s = .number n :: .mark k :: .mark .input :: v) :
    ∃ u hu, terminals u = v ∧ read x s = .ok ⟨make n, u, hu⟩ := by
  unfold read
  rw [next?_of_number hs]
  obtain ⟨p₁, s₁, rfl, hs₁⟩ := eq_cons_of_number hs
  obtain ⟨t₂, s₂, rfl, k₂, hs₂⟩ := eq_cons_of_mark hs₁
  obtain ⟨t₃, s₃, rfl, k₃, hs₃⟩ := eq_cons_of_mark hs₂
  obtain ⟨h₃, e₃⟩ := readOperand_cons (x := x) (k₂ ▸ hm) k₃ n s₃
  refine ⟨s₃, by simp only [List.length_cons]; omega, hs₃, ?_⟩
  simp only [Source.number_cons, ok_bind, Reading.front, e₃]
  rfl

theorem read_of_derives {s : List Token} {p : Primitive} {v : List Terminal}
    (h : Derives (terminals s) p v) (hv : ¬ Operated v) :
    ∃ u hu, terminals u = v ∧ read x s = .ok ⟨p, u, hu⟩ := by
  generalize hs : terminals s = z at h
  cases h with
  | noop v =>
    unfold read
    rw [next?_of_mark hs]
    obtain ⟨t₁, s₁, rfl, k₁, hs₁⟩ := eq_cons_of_mark hs
    refine ⟨s₁, by simp only [List.length_cons]; omega, hs₁, ?_⟩
    simp only [Source.expect_cons k₁, ok_bind, Reading.front]
    rfl
  | inputPlus n v => exact read_behindInput rfl hs
  | plusInput n v => exact read_beforeInput rfl hs
  | inputMinus n v => exact read_behindInput rfl hs
  | minusInput n v => exact read_beforeInput rfl hs
  | bare n v =>
    unfold read
    rw [next?_of_number hs]
    obtain ⟨p₁, s₁, rfl, rfl⟩ := eq_cons_of_number hs
    refine ⟨s₁, by simp only [List.length_cons]; omega, rfl, ?_⟩
    simp only [Source.number_cons, ok_bind, Reading.front, readOperand_of_not_operated n hv]
    rfl
  | inputShift n v => exact read_behindInput rfl hs
  | @term k make n v word =>
    unfold read
    rw [next?_of_mark hs]
    obtain ⟨t₁, s₁, rfl, k₁, hs₁⟩ := eq_cons_of_mark hs
    obtain ⟨t₂, s₂, rfl, k₂, hs₂⟩ := eq_cons_of_mark hs₁
    obtain ⟨p₃, s₃, rfl, hs₃⟩ := eq_cons_of_number hs₂
    obtain ⟨t₄, s₄, rfl, k₄, hs₄⟩ := eq_cons_of_mark hs₃
    refine ⟨s₄, by simp only [List.length_cons]; omega, hs₄, ?_⟩
    dsimp only
    unfold readTerm
    have found := k₂ ▸ word_iff.mp word
    simp only [Source.expect_cons k₁, readWord_cons found, Source.expect_cons k₄,
      Source.number_cons, ok_bind, Reading.front]
    rfl

theorem not_operated_of_steps {s v : List Terminal} {ps : List Primitive}
    (h : Repeats DerivesStep s ps v) (hv : ¬ Operated v) : ¬ Operated s := by
  cases h with
  | nil => exact hv
  | cons head tail =>
    cases head with
    | intro => exact not_operated_mark rfl _

theorem readMore_of_repeats {z v : List Terminal} {ps : List Primitive}
    (h : Repeats DerivesStep z ps v) {t : List Terminal} (hv : v = .mark .rightBracket :: t)
    {s : List Token} (hs : terminals s = z) :
    ∃ u hu, terminals u = v ∧ readMore x s = .ok ⟨ps, u, hu⟩ := by
  induction h generalizing s with
  | nil z =>
    subst hv
    obtain ⟨b, s, rfl, kb, -⟩ := eq_cons_of_mark hs
    refine ⟨b :: s, Nat.le_refl _, hs, ?_⟩
    unfold readMore
    rw [if_neg (by rw [kb]; decide)]
    rfl
  | cons head tail ih =>
    cases head with
    | intro step =>
      obtain ⟨b, s, rfl, kb, rfl⟩ := eq_cons_of_mark hs
      have hn := not_operated_of_steps tail (by rw [hv]; exact not_operated_mark rfl _)
      obtain ⟨s₁, h₁, hs₁, e₁⟩ := read_of_derives (x := x) step hn
      obtain ⟨s₂, h₂, hs₂, e₂⟩ := ih hv hs₁
      refine ⟨s₂, by simp only [List.length_cons]; omega, hs₂, ?_⟩
      unfold readMore
      rw [if_pos kb, e₁]
      dsimp only [ok_bind]
      rw [e₂]
      rfl

theorem Derives.not_leftBracket {s v : List Terminal} {p : Primitive} (h : Derives s p v)
    (t : List Terminal) : s ≠ .mark .leftBracket :: t := by
  rintro rfl
  cases h

end Primitive

namespace Body

theorem read_of_derives {s : List Token} {b : Body α} {v : List Terminal}
    (h : Derives (terminals s) b v) (hv : ¬ Operated v) :
    ∃ u hu, terminals u = v ∧ read x s = .ok ⟨b, u, hu⟩ := by
  generalize hs : terminals s = z at h
  cases h with
  | primitive only =>
    subst hs
    have hn : Source.next? s ≠ some .leftBracket := next?_ne only.not_leftBracket rfl
    obtain ⟨u, hu, huv, e⟩ := Primitive.read_of_derives (x := x) only hv
    refine ⟨u, hu, huv, ?_⟩
    unfold read
    rw [if_neg hn, e]
    rfl
  | sequence first more =>
    have hn := next?_of_mark hs
    obtain ⟨b, s₁, rfl, kb, rfl⟩ := eq_cons_of_mark hs
    have ho := Primitive.not_operated_of_steps more (not_operated_mark rfl _)
    obtain ⟨s₂, h₂, hs₂, e₂⟩ := Primitive.read_of_derives (x := x) first ho
    obtain ⟨s₃, h₃, hs₃, e₃⟩ := Primitive.readMore_of_repeats (x := x) more rfl hs₂
    obtain ⟨b', u, rfl, kb', hu⟩ := eq_cons_of_mark hs₃
    obtain ⟨huv, e⟩ := Source.enclosed_eq (x := x) kb e₂ e₃ kb'
    refine ⟨u, huv, hu, ?_⟩
    unfold read readSequence
    rw [if_pos hn, e]
    rfl

theorem Derives.not_switch {s v : List Terminal} {b : Body α} (h : Derives s b v)
    (t : List Terminal) : s ≠ .mark .switch :: t := by
  rintro rfl
  cases h with
  | primitive only => cases only

end Body

namespace Case

theorem read_of_derives {s : List Token} {c : Case α} {v : List Terminal}
    (h : Derives (terminals s) c v) : ∃ u hu, terminals u = v ∧ read x s = .ok ⟨c, u, hu⟩ := by
  generalize hs : terminals s = z at h
  cases h with
  | intro guard body =>
    obtain ⟨s₁, h₁, hs₁, e₁⟩ := Guard.readTerm_of_derives (x := x) guard
      (fun hk => absurd hk (Guard.not_joined_mark rfl _)) hs
    obtain ⟨t₂, s₂, rfl, k₂, rfl⟩ := eq_cons_of_mark hs₁
    obtain ⟨s₃, h₃, hs₃, e₃⟩ := Body.read_of_derives (x := x) body (not_operated_mark rfl _)
    obtain ⟨t₄, s₄, rfl, k₄, hs₄⟩ := eq_cons_of_mark hs₃
    refine ⟨s₄, by simp only [List.length_cons] at h₁ h₃; omega, hs₄, ?_⟩
    unfold read
    simp only [e₁, Source.expect_cons k₂, e₃, Source.expect_cons k₄, ok_bind, Reading.front]
    rfl

theorem Derives.not_arrow {s v : List Terminal} {c : Case α} (h : Derives s c v)
    (t : List Terminal) : s ≠ .mark .arrow :: t := by
  rintro rfl
  cases h with
  | intro guard =>
    cases guard with
    | compare comparison => cases comparison

theorem readMore_of_repeats {z v : List Terminal} {cs : List (Case α)}
    (h : Repeats Derives z cs (.mark .arrow :: v)) {s : List Token} (hs : terminals s = z) :
    ∃ u hu, terminals u = .mark .arrow :: v ∧ readMore x s = .ok ⟨cs, u, hu⟩ :=
  loops.reads read_of_derives (fun head => next?_ne head.not_arrow rfl) h
    (fun _ hs => Decidable.not_not.mpr (next?_of_mark hs)) hs

end Case

namespace Translation

theorem read_of_derives {s : List Token} {t : Translation α} {v : List Terminal}
    (h : Derives (terminals s) t v) (hv : ¬ Operated v) :
    ∃ u hu, terminals u = v ∧ read x s = .ok ⟨t, u, hu⟩ := by
  generalize hs : terminals s = z at h
  unfold read
  cases h with
  | body only =>
    subst hs
    have hn : Source.next? s ≠ some .switch := next?_ne only.not_switch rfl
    obtain ⟨u, hu, huv, e⟩ := Body.read_of_derives (x := x) only hv
    refine ⟨u, hu, huv, ?_⟩
    rw [if_neg hn, e]
    rfl
  | switch first more default =>
    rw [if_pos (next?_of_mark hs)]
    obtain ⟨t₁, s₁, rfl, k₁, hs₁⟩ := eq_cons_of_mark hs
    obtain ⟨t₂, s₂, rfl, k₂, hs₂⟩ := eq_cons_of_mark hs₁
    obtain ⟨s₃, h₃, hs₃, e₃⟩ := Case.readMore_of_repeats (x := x) (.cons first more) hs₂
    obtain ⟨t₄, s₄, rfl, k₄, rfl⟩ := eq_cons_of_mark hs₃
    obtain ⟨s₅, h₅, hs₅, e₅⟩ := Body.read_of_derives (x := x) default (not_operated_mark rfl _)
    obtain ⟨t₆, s₆, rfl, k₆, hs₆⟩ := eq_cons_of_mark hs₅
    refine ⟨s₆, by simp only [List.length_cons] at h₃ h₅ ⊢; omega, hs₆, ?_⟩
    unfold readSwitch
    simp only [Source.expect_cons k₁, Source.expect_cons k₂, e₃, Source.expect_cons k₄, e₅,
      Source.expect_cons k₆, ok_bind, Reading.front]
    rfl

end Translation

end BankSwitch
