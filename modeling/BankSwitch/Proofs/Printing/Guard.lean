import BankSwitch.Description.Printer
import BankSwitch.Proofs.Fits
import BankSwitch.Proofs.Printing.Scan

/-!
# Printed guards

A guard that fits the bus reads back as itself.  Inside a chain it is printed as a single term
(`spells_nested`), since both a chain and a `!` would take what follows; on its own it only asks that
no connective follows (`spells_print`).
-/

namespace BankSwitch

variable {α : Type} {w : Nat}

/-! ## comparisons -/

theorem Comparator.scans (c : Comparator) :
    ∃ k, Comparator.Mark k c ∧
      Scans w (endsSymbol c.spelling.toList) c.spelling [.mark k] ∧
      Begins (endsSymbol c.spelling.toList) " " := by
  cases c with
  | atMost => exact ⟨.atMost, .atMost, scans_symbol rfl, ' ', [], rfl, rfl⟩
  | atLeast => exact ⟨.atLeast, .atLeast, scans_symbol rfl, ' ', [], rfl, rfl⟩
  | equal => exact ⟨.equal, .equal, scans_symbol rfl, ' ', [], rfl, rfl⟩
  | unequal => exact ⟨.unequal, .unequal, scans_symbol rfl, ' ', [], rfl, rfl⟩
  | below => exact ⟨.below, .below, scans_symbol rfl, ' ', [], rfl, rfl⟩
  | above => exact ⟨.above, .above, scans_symbol rfl, ' ', [], rfl, rfl⟩

theorem Comparison.spells_text {c : Comparison} (h : c.Fits w) :
    Spells w notWordChar Comparison.Derives Free c.text c := by
  obtain ⟨side, cmp, literal, operand⟩ := c
  obtain ⟨rfl, n, rfl, hn⟩ := h
  obtain ⟨k, hk, hcmp, hspace⟩ := Comparator.scans (w := w) cmp
  cases side with
  | left =>
    have name := (scans_input (w := w)).append scans_space begins_space
    have middle := (name.lead hcmp).append scans_space hspace
    exact ⟨_, middle.lead (scans_decimal_int hn), fun y _ => .left n y hk⟩
  | right =>
    have number := (scans_decimal_int hn).append scans_space begins_space
    have middle := (number.lead hcmp).append scans_space hspace
    exact ⟨_, middle.lead scans_input, fun y _ => .right n y hk⟩

/-! ## guards -/

theorem scans_notParen : Scans w anyChar "!(" [.mark .bang, .mark .leftParen] := by
  have text : "!(" = "!" ++ "(" := rfl
  rw [text]
  have bang : Scans w (endsSymbol "!".toList) "!" [.mark .bang] := scans_symbol rfl
  exact bang.append scans_leftParen ⟨'(', [], rfl, rfl⟩

theorem Connective.scans (c : Connective) :
    ∃ k, Connective.Mark k c ∧ Scans w anyChar c.spelling [.mark k] := by
  cases c with
  | and => exact ⟨.and, .and, scans_closed rfl rfl⟩
  | or => exact ⟨.or, .or, scans_closed rfl rfl⟩

/-- a connective between two texts -/
theorem Connective.scans_between (c : Connective) :
    ∃ k, Connective.Mark k c ∧ ∀ {s t : String} {x y : List Terminal},
      Scans w notWordChar s x → Scans w notWordChar t y →
        Scans w notWordChar (s ++ " " ++ c.spelling ++ " " ++ t) (x ++ .mark k :: y) := by
  obtain ⟨k, hk, hop⟩ := Connective.scans (w := w) c
  refine ⟨k, hk, fun {s t x y} hs ht => ?_⟩
  have middle := ((hs.append scans_space begins_space).lead hop).lead scans_space
  have terminals : x ++ [] ++ [.mark k] ++ [] ++ y = x ++ .mark k :: y := by
    simp only [List.append_nil, List.append_assoc, List.singleton_append]
  exact terminals ▸ middle.lead ht

namespace Guard

/-- what the phrase of a guard by itself may be followed by -/
def Ends (y : List Terminal) : Prop := ¬ Joined y

theorem ends_rightParen (y : List Terminal) : Ends (.mark .rightParen :: y) :=
  not_joined_rightParen y

/-- text of a guard, in parentheses -/
theorem spells_parens {t : String} {g : Guard α} (h : Spells w notWordChar Derives Ends t g) :
    Spells w notWordChar DerivesTerm Free ("(" ++ t ++ ")") g := by
  obtain ⟨z, hz, hd⟩ := h
  refine ⟨_, (scans_leftParen.lead hz).append scans_rightParen.weaken begins_rightParen,
    fun y _ => ?_⟩
  rw [List.append_assoc, List.append_assoc]
  exact .parens (hd _ (ends_rightParen y))

/-- text of a guard, negated -/
theorem spells_negation {t : String} {g : Guard α} (h : Spells w notWordChar Derives Ends t g) :
    Spells w notWordChar DerivesTerm Ends ("!(" ++ t ++ ")") (.negation g) := by
  obtain ⟨z, hz, hd⟩ := h
  refine ⟨_, (scans_notParen.lead hz).append scans_rightParen.weaken begins_rightParen,
    fun y hy => ?_⟩
  rw [List.append_assoc, List.append_assoc]
  have operand : Derives (.mark .leftParen :: (z ++ (.mark .rightParen :: y))) g y :=
    .chain (.parens (hd _ (ends_rightParen y))) (.nil y)
  exact .negation operand (longest_of_not_joined operand.flat hy)

/-- a term is a guard -/
theorem spells_of_term {t : String} {g : Guard α} {ahead : List Terminal → Prop}
    (h : Spells w notWordChar DerivesTerm ahead t g) :
    Spells w notWordChar Derives ahead t g := by
  obtain ⟨z, hz, hd⟩ := h
  exact ⟨z, hz, fun y hy => .chain (hd y hy) (.nil y)⟩

end Guard

/-- the text reads as the terms and connectives of a chain -/
def Chain.Spelled (w : Nat) (t : String) (c : Chain α) : Prop :=
  ∃ z g k h more, Scans w notWordChar t z ∧ Guard.chain c = Guard.join g ((k, h) :: more) ∧
    ∀ y, ∃ u, Guard.DerivesTerm (z ++ y) g u ∧
      Guard.MoreBy (Guard.Longest α) u ((k, h) :: more) y

theorem Chain.Spelled.guard {t : String} {c : Chain α} (h : c.Spelled w t) :
    Spells w notWordChar Guard.Derives Free t (.chain c) := by
  obtain ⟨z, g, k, h, more, hz, hc, hd⟩ := h
  refine ⟨z, hz, fun y _ => ?_⟩
  obtain ⟨u, head, tail⟩ := hd y
  rw [hc]
  exact .chain head tail

/-- two terms with a connective between them -/
theorem Chain.spelled_pair {s t : String} {a b : Guard α} (k : Connective)
    (ha : Spells w notWordChar Guard.DerivesTerm Free s a)
    (hb : Spells w notWordChar Guard.DerivesTerm Free t b) :
    (Chain.pair a k b).Spelled w (s ++ " " ++ k.spelling ++ " " ++ t) := by
  obtain ⟨x, hx, hdx⟩ := ha
  obtain ⟨y, hy, hdy⟩ := hb
  obtain ⟨kind, hk, hop⟩ := Connective.scans_between (w := w) k
  refine ⟨_, a, k, b, [], hop hx hy, rfl, fun v => ?_⟩
  rw [List.append_assoc]
  exact ⟨_, hdx _ trivial, .cons hk (hdy v trivial) (.nil v)⟩

/-- a chain, and one more term behind a connective -/
theorem Chain.spelled_snoc {s t : String} {c : Chain α} {b : Guard α} (k : Connective)
    (hc : c.Spelled w s) (hb : Spells w notWordChar Guard.DerivesTerm Free t b) :
    (Chain.snoc c k b).Spelled w (s ++ " " ++ k.spelling ++ " " ++ t) := by
  obtain ⟨x, g, k₀, h, more, hx, e, hdx⟩ := hc
  obtain ⟨y, hy, hdy⟩ := hb
  obtain ⟨kind, hk, hop⟩ := Connective.scans_between (w := w) k
  refine ⟨_, g, k₀, h, more ++ [(k, b)], hop hx hy, ?_, fun v => ?_⟩
  · rw [Guard.join] at e ⊢
    rw [Chain.extend_append, ← Guard.chain.inj e]
  · rw [List.append_assoc]
    obtain ⟨u, head, tail⟩ := hdx (.mark kind :: (y ++ v))
    exact ⟨u, head, tail.snoc rfl hk (hdy v trivial)⟩

mutual
theorem Guard.spells_print : ∀ g : Guard α, g.Fits w →
    ∃ t, g.print false = .ok t ∧ Spells w notWordChar Guard.Derives Guard.Ends t g
  | .compare c, h => by
    obtain ⟨z, hz, hd⟩ := Comparison.spells_text h
    refine ⟨c.text, ?_, z, hz, fun y hy => .chain (.compare (hd y trivial)) (.nil y)⟩
    rw [Guard.print, if_pos h.1]
  | .negation g, h => by
    obtain ⟨t, e, ht⟩ := Guard.spells_print g h
    refine ⟨_, ?_, Guard.spells_of_term (Guard.spells_negation ht)⟩
    rw [Guard.print, e]
    rfl
  | .chain c, h => by
    obtain ⟨t, e, ht⟩ := Chain.spelled_print c h
    refine ⟨t, ?_, ht.guard.restrict⟩
    rw [Guard.print, e]
    rfl

theorem Guard.spells_nested : ∀ g : Guard α, g.Fits w →
    ∃ t, g.print true = .ok t ∧ Spells w notWordChar Guard.DerivesTerm Free t g
  | .compare c, h => by
    obtain ⟨z, hz, hd⟩ := Comparison.spells_text h
    refine ⟨c.text, ?_, z, hz, fun y hy => .compare (hd y trivial)⟩
    rw [Guard.print, if_pos h.1]
  | .negation g, h => by
    obtain ⟨t, e, ht⟩ := Guard.spells_print g h
    have inner := Guard.spells_of_term (Guard.spells_negation ht)
    refine ⟨_, ?_, Guard.spells_parens inner⟩
    rw [Guard.print, e]
    rfl
  | .chain c, h => by
    obtain ⟨t, e, ht⟩ := Chain.spelled_print c h
    refine ⟨_, ?_, Guard.spells_parens ht.guard.restrict⟩
    rw [Guard.print, e]
    rfl

theorem Chain.spelled_print : ∀ c : Chain α, c.Fits w → ∃ t, c.print = .ok t ∧ c.Spelled w t
  | .pair a k b, h => by
    obtain ⟨s, es, hs⟩ := Guard.spells_nested a h.1
    obtain ⟨t, et, ht⟩ := Guard.spells_nested b h.2
    refine ⟨_, ?_, Chain.spelled_pair k hs ht⟩
    rw [Chain.print, es, ok_bind, et]
    rfl
  | .snoc c k b, h => by
    obtain ⟨s, es, hs⟩ := Chain.spelled_print c h.1
    obtain ⟨t, et, ht⟩ := Guard.spells_nested b h.2
    refine ⟨_, ?_, Chain.spelled_snoc k hs ht⟩
    rw [Chain.print, es, ok_bind, et]
    rfl
end

/-- the guard of a case, a single term -/
theorem Guard.spells_printTerm {g : Guard α} (h : g.Fits w) :
    ∃ t, g.printTerm = .ok t ∧ Spells w notWordChar Guard.DerivesTerm Guard.Ends t g := by
  cases g with
  | compare c =>
    obtain ⟨z, hz, hd⟩ := Comparison.spells_text h
    refine ⟨c.text, ?_, z, hz, fun y hy => .compare (hd y trivial)⟩
    rw [Guard.printTerm, Guard.print, if_pos h.1]
    rintro c ⟨⟩
  | negation g =>
    obtain ⟨t, e, ht⟩ := Guard.spells_print g h
    refine ⟨_, ?_, Guard.spells_negation ht⟩
    rw [Guard.printTerm, Guard.print, e]
    · rfl
    · rintro c ⟨⟩
  | chain c =>
    obtain ⟨t, e, ht⟩ := Chain.spelled_print c h
    refine ⟨_, ?_, (Guard.spells_parens ht.guard.restrict).restrict⟩
    rw [Guard.printTerm, e]
    rfl
  | alien node => exact h.elim

end BankSwitch
