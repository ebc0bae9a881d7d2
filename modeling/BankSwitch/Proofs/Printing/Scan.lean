import BankSwitch.Proofs.Printing.Lexeme
import BankSwitch.Proofs.Printing.Pieces

/-!
# Scanning printed text

Printed text is put together from words, symbols, numbers and white space (`Scans`), and spells a
thing if its terminals are a phrase for it (`Spells`).
-/

namespace BankSwitch

open Token

variable {w : Nat} {follow : Char → Bool} {t : String}

/-! ## pieces of printed text -/

/-- the text has the terminals `z` before every text that begins with an admitted character -/
abbrev Scans (w : Nat) (follow : Char → Bool) (t : String) (z : List Terminal) : Prop :=
  Adds (Lexes w) follow t z

theorem scans_blanks {t : String} (ht : t.toList.all isBlank = true) : Scans w anyChar t [] := by
  intro s y _ h
  generalize t.toList = l at ht
  induction l with
  | nil => exact h
  | cons c r ih =>
    rw [List.all_cons, Bool.and_eq_true] at ht
    exact lexes_blank ht.1 (ih ht.2)

theorem scans_word {t : String} {k : Kind} (ht : isWord t.toList = true)
    (hk : wordKind t.toList = k) : Scans w notWordChar t [.mark k] :=
  fun _ _ hs h => hk ▸ lexes_word ht hs h

theorem scans_symbol {t : String} {k : Kind} (ht : isSymbol t.toList k = true) :
    Scans w (endsSymbol t.toList) t [.mark k] :=
  fun _ _ hs h => lexes_symbol ht hs h

theorem scans_decimal {n : Nat} (hn : n < addressCount w) :
    Scans w notWordChar (toString n) [.number n] := by
  intro s y hs h
  rw [Nat.toString_eq_repr, Nat.toList_repr]
  exact lexes_decimal hn hs h

theorem scans_decimal_int {n : Nat} (hn : n < addressCount w) :
    Scans w notWordChar (toString (n : Int)) [.number n] := scans_decimal hn

theorem begins_decimal {follow : Char → Bool} (h : ∀ d < 10, follow (Nat.digitChar d) = true)
    (n : Nat) : Begins follow (toString n) := by
  unfold Begins
  rw [Nat.toString_eq_repr, Nat.toList_repr]
  cases hd : Nat.toDigits 10 n with
  | nil => exact absurd hd Nat.toDigits_ne_nil
  | cons c r =>
    obtain ⟨d, hlt, rfl⟩ := mem_toDigits (b := 10) (n := n) (by decide) (hd ▸ List.mem_cons_self)
    exact ⟨_, r, rfl, h d hlt⟩

/-- no symbol is a longer one -/
def endsAnywhere (t : List Char) : Bool :=
  symbols.all fun m => !t.isPrefixOf m.1 || decide (m.1.length ≤ t.length)

theorem endsSymbol_of_endsAnywhere {t : List Char} (h : endsAnywhere t = true) (c : Char) :
    endsSymbol t c = true := by
  refine List.all_eq_true.mpr fun m hm => ?_
  have hmem := List.all_eq_true.mp h m hm
  rw [Bool.not_eq_true', Bool.eq_false_iff]
  intro hp
  have hprefix := List.isPrefixOf_iff_prefix.mp hp
  have hlen := hprefix.length_le
  have ht := List.isPrefixOf_iff_prefix.mpr ((List.prefix_append t [c]).trans hprefix)
  rw [ht, Bool.not_true, Bool.false_or, decide_eq_true_eq] at hmem
  simp only [List.length_append, List.length_singleton] at hlen
  omega

/-- a symbol that anything may follow -/
theorem scans_closed {t : String} {k : Kind} (ht : isSymbol t.toList k = true)
    (hc : endsAnywhere t.toList = true) : Scans w anyChar t [.mark k] :=
  fun _ _ _ h => lexes_symbol ht (fun c _ => endsSymbol_of_endsAnywhere hc c) h

/-! ## punctuation -/

theorem scans_space : Scans w anyChar " " [] := scans_blanks rfl

theorem begins_space : Begins notWordChar " " := ⟨' ', [], rfl, rfl⟩

theorem scans_leftParen : Scans w anyChar "(" [.mark .leftParen] := scans_closed rfl rfl

theorem scans_rightParen : Scans w anyChar ")" [.mark .rightParen] := scans_closed rfl rfl

theorem begins_rightParen : Begins notWordChar ")" := ⟨')', [], rfl, rfl⟩

theorem scans_leftBracket : Scans w anyChar "[" [.mark .leftBracket] := scans_closed rfl rfl

theorem scans_rightBracket : Scans w anyChar "]" [.mark .rightBracket] := scans_closed rfl rfl

theorem begins_rightBracket : Begins notWordChar "]" := ⟨']', [], rfl, rfl⟩

theorem scans_leftBrace : Scans w anyChar "\x7b" [.mark .leftBrace] := scans_closed rfl rfl

theorem scans_colon : Scans w anyChar ":" [.mark .colon] := scans_closed rfl rfl

theorem begins_colon : Begins notWordChar ":" := ⟨':', [], rfl, rfl⟩

theorem scans_comma : Scans w anyChar "," [.mark .comma] := scans_closed rfl rfl

theorem scans_arrow : Scans w anyChar "->" [.mark .arrow] := scans_closed rfl rfl

theorem scans_input : Scans w notWordChar "INPUT" [.mark .input] := scans_word rfl rfl

/-! ## spelled things -/

/-- the text reads as `b` under the rule, before text that `follow` and terminals that `ahead`
admits -/
def Spells {β : Type} (w : Nat) (follow : Char → Bool) (rule : Rule β)
    (ahead : List Terminal → Prop) (t : String) (b : β) : Prop :=
  ∃ z, Scans w follow t z ∧ ∀ y, ahead y → rule (z ++ y) b y

/-- nothing is asked of what follows -/
def Free (_ : List Terminal) : Prop := True

theorem Spells.restrict {β : Type} {rule : Rule β} {b : β} {ahead : List Terminal → Prop}
    (h : Spells w follow rule Free t b) : Spells w follow rule ahead t b := by
  obtain ⟨z, hz, hd⟩ := h
  exact ⟨z, hz, fun y _ => hd y trivial⟩

theorem tokens_of_scans {digits : Option Nat} (fit : DecimalsFit w digits) {t : String}
    {z : List Terminal} (h : Scans w follow t z) :
    ∃ ts, tokens (.whole w digits) t = .ok ts ∧ terminals ts = z ++ [.mark .endOfInput] := by
  obtain ⟨ts, e, hz⟩ := h [] _ admits_empty lexes_nil digits fit Position.start
  rw [List.append_nil] at e
  exact ⟨ts, e, hz⟩

/-- what a reader that is exact for the rule makes of a whole text that is spelled so -/
theorem Exact.ofText_of_spells {β : Type} {settings : Settings} {rule : Rule β}
    {ofText : Settings → String → Except ReadError β} (exact : Exact settings rule ofText)
    (hw : settings.width = .whole w) (fit : DecimalsFit w settings.digits) {b : β}
    (h : Spells w follow rule Free t b) : ofText settings t = .ok b := by
  obtain ⟨z, hz, hd⟩ := h
  obtain ⟨ts, e, hts⟩ := tokens_of_scans fit hz
  refine (exact.reads t b).mpr ⟨ts, ?_, ?_⟩
  · rw [Settings.measure_of_width hw]
    exact e
  · rw [hts]
    exact hd _ trivial

/-! ## lists of spelled things -/

/-- if every element can be printed, so can the list, and the texts, `wrap` put around each, read as
the list -/
theorem spells_mapM {β ε : Type} (wrap : String → String) {rule : Rule β}
    {print : β → Except ε String} {bs : List β}
    (h : ∀ b ∈ bs, ∃ t, print b = .ok t ∧ Spells w follow rule Free (wrap t) b ∧
      Admits follow (wrap t)) :
    ∃ ts, bs.mapM print = .ok ts ∧ Spells w follow (Repeats rule) Free (joined (ts.map wrap)) bs ∧
      Admits follow (joined (ts.map wrap)) := by
  induction bs with
  | nil => exact ⟨[], rfl, ⟨[], adds_empty, fun y _ => .nil y⟩, admits_empty⟩
  | cons b bs ih =>
    obtain ⟨t, e, ⟨z, hz, hr⟩, ha⟩ := h b List.mem_cons_self
    obtain ⟨ts, es, ⟨zs, hzs, hrs⟩, has⟩ := ih fun b hb => h b (List.mem_cons_of_mem _ hb)
    refine ⟨t :: ts, ?_, ⟨z ++ zs, hz.append_admits hzs has, fun y hy => ?_⟩, ha.append has⟩
    · rw [List.mapM_cons, e, ok_bind, es]
      rfl
    · rw [List.append_assoc]
      exact .cons (hr _ trivial) (hrs y hy)

end BankSwitch
