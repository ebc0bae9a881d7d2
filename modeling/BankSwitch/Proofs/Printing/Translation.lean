import BankSwitch.Proofs.Printing.Guard

/-!
# Printed translations

Primitives read back from operators and from terms, sequences and switches from either.
-/

namespace BankSwitch

variable {α : Type} {w : Nat} {style : Style}

/-! ## primitives -/

theorem scans_hexLiteral {n : Nat} (hn : n < addressCount w) :
    Scans w notWordChar (hexLiteral n) [.number n] := by
  intro s y hs h
  have text : (hexLiteral n).toList = '#' :: 'x' :: Nat.toDigits 16 n := by
    unfold hexLiteral signedHexDigits
    rw [if_neg (by omega), Int.natAbs_natCast, String.toList_append]
    exact congrArg ("#x".toList ++ ·) String.toList_ofList
  rw [text]
  exact lexes_hex hn hs h

theorem scans_inputPlus : Scans w anyChar "INPUT + " [.mark .input, .mark .plus] := by
  have text : "INPUT + " = "INPUT" ++ " " ++ ("+" ++ " ") := rfl
  rw [text]
  have plus : Scans w anyChar "+" [.mark .plus] := scans_closed rfl rfl
  exact (scans_input.append scans_space begins_space).lead (plus.lead scans_space)

theorem scans_minus : Scans w anyChar "- " [.mark .minus] := by
  have text : "- " = "-" ++ " " := rfl
  rw [text]
  have minus : Scans w (endsSymbol "-".toList) "-" [.mark .minus] := scans_symbol rfl
  exact minus.append scans_space ⟨' ', [], rfl, rfl⟩

theorem scans_inputMinus : Scans w anyChar "INPUT - " [.mark .input, .mark .minus] := by
  have text : "INPUT - " = "INPUT" ++ " " ++ "- " := rfl
  rw [text]
  exact (scans_input.append scans_space begins_space).lead scans_minus

theorem scans_minusInput : Scans w notWordChar " - INPUT" [.mark .minus, .mark .input] := by
  have text : " - INPUT" = " " ++ "- " ++ "INPUT" := rfl
  rw [text]
  exact (scans_space.lead scans_minus).lead scans_input

theorem scans_inputShift : Scans w anyChar "INPUT >> " [.mark .input, .mark .shift] := by
  have text : "INPUT >> " = "INPUT" ++ " " ++ (">>" ++ " ") := rfl
  rw [text]
  have shift : Scans w anyChar ">>" [.mark .shift] := scans_closed rfl rfl
  exact (scans_input.append scans_space begins_space).lead (shift.lead scans_space)

namespace Primitive

theorem spells_text {p : Primitive} (h : p.Fits w) :
    Spells w notWordChar Primitive.Derives Free p.text p := by
  cases p with
  | noop => exact ⟨_, scans_word (k := .noop) rfl rfl, fun y _ => .noop y⟩
  | constant v =>
    obtain ⟨n, rfl, hn⟩ := h
    exact ⟨_, scans_decimal_int hn, fun y _ => .bare n y⟩
  | add v =>
    obtain ⟨n, rfl, hn⟩ := h
    exact ⟨_, scans_inputPlus.lead (scans_decimal_int hn), fun y _ => .inputPlus n y⟩
  | subFrom v =>
    obtain ⟨n, rfl, hn⟩ := h
    exact ⟨_, (scans_decimal_int hn).append scans_minusInput ⟨' ', _, rfl, rfl⟩,
      fun y _ => .minusInput n y⟩
  | sub v =>
    obtain ⟨n, rfl, hn⟩ := h
    exact ⟨_, scans_inputMinus.lead (scans_decimal_int hn), fun y _ => .inputMinus n y⟩
  | shiftRight v =>
    obtain ⟨n, rfl, hn⟩ := h
    exact ⟨_, scans_inputShift.lead (scans_decimal_int hn), fun y _ => .inputShift n y⟩

/-- a word and a number in parentheses -/
theorem spells_word {t : String} {k : Token.Kind} {make : Int → Primitive} {n : Nat}
    (ht : isWord t.toList = true) (hk : Token.wordKind t.toList = k)
    (word : Primitive.Word k make) (hn : n < addressCount w) :
    Spells w notWordChar Primitive.Derives Free ("(" ++ (t ++ " ") ++ hexLiteral n ++ ")")
      (make n) := by
  have name : Scans w notWordChar t [.mark k] := scans_word ht hk
  have opening := scans_leftParen.lead (name.append scans_space begins_space)
  have number := opening.lead (scans_hexLiteral hn)
  exact ⟨_, number.append scans_rightParen.weaken begins_rightParen, fun y _ => .term n y word⟩

theorem spells_asTerm {p : Primitive} (h : p.Fits w) :
    Spells w notWordChar Primitive.Derives Free p.term p := by
  cases p with
  | noop => exact ⟨_, scans_word (k := .noop) rfl rfl, fun y _ => .noop y⟩
  | constant v =>
    obtain ⟨n, rfl, hn⟩ := h
    exact spells_word (t := "Constant") (k := .constant) rfl rfl .constant hn
  | add v =>
    obtain ⟨n, rfl, hn⟩ := h
    exact spells_word (t := "Add") (k := .add) rfl rfl .add hn
  | subFrom v =>
    obtain ⟨n, rfl, hn⟩ := h
    exact spells_word (t := "SubPV") (k := .subFrom) rfl rfl .subFrom hn
  | sub v =>
    obtain ⟨n, rfl, hn⟩ := h
    exact spells_word (t := "SubVP") (k := .sub) rfl rfl .sub hn
  | shiftRight v =>
    obtain ⟨n, rfl, hn⟩ := h
    exact spells_word (t := "RShift") (k := .shiftRight) rfl rfl .shiftRight hn

theorem spells_print (hstyle : style = .compact ∨ style = .terms) {p : Primitive}
    (h : p.Fits w) :
    ∃ t, (p.print style : Except (PrintError α) String) = .ok t ∧
      Spells w notWordChar Primitive.Derives Free t p := by
  obtain rfl | rfl := hstyle
  · exact ⟨p.text, rfl, spells_text h⟩
  · exact ⟨p.term, rfl, spells_asTerm h⟩

end Primitive

/-! ## bodies and switches -/

variable [Alien α]

theorem Body.spells_print (hstyle : style = .compact ∨ style = .terms) {b : Body α}
    (h : b.Fits w) : ∃ t, b.print style = .ok t ∧ Spells w notWordChar Body.Derives Free t b := by
  cases b with
  | primitive p =>
    obtain ⟨t, e, z, hz, hd⟩ := Primitive.spells_print hstyle h
    exact ⟨t, e, z, hz, fun y hy => .primitive (hd y hy)⟩
  | sequence first rest =>
    obtain ⟨hfirst, hrest⟩ := h
    obtain ⟨t, e, z, hz, hd⟩ := Primitive.spells_print (α := α) hstyle hfirst
    have semicolon : Scans w anyChar "; " [.mark .semicolon] := by
      have text : "; " = ";" ++ " " := rfl
      rw [text]
      have mark : Scans w anyChar ";" [.mark .semicolon] := scans_closed rfl rfl
      exact mark.lead scans_space
    have each : ∀ p ∈ rest, ∃ t, (p.print style : Except (PrintError α) String) = .ok t ∧
        Spells w notWordChar Primitive.DerivesStep Free ("; " ++ t) p ∧
          Admits notWordChar ("; " ++ t) := by
      intro p hp
      obtain ⟨t, e, z, hz, hd⟩ := Primitive.spells_print (α := α) hstyle (hrest p hp)
      have begins : Begins notWordChar ("; " ++ t) := Begins.append ⟨';', _, rfl, rfl⟩ t
      exact ⟨t, e, ⟨_, semicolon.lead hz, fun y hy => .intro (hd y hy)⟩, begins.admits⟩
    obtain ⟨ts, es, ⟨zs, hzs, hds⟩, ha⟩ := spells_mapM ("; " ++ ·) each
    refine ⟨sequenceText (t :: ts), ?_, ?_⟩
    · rw [Body.print, List.mapM_cons, e, ok_bind, es]
      rfl
    · unfold sequenceText
      rw [intercalate_behind]
      have inner := scans_leftBracket.lead (hz.append_admits hzs ha)
      refine ⟨_, inner.append scans_rightBracket.weaken begins_rightBracket, fun y _ => ?_⟩
      rw [List.append_assoc, List.append_assoc, List.append_assoc]
      exact .sequence (hd _ trivial) (hds _ trivial)
  | alien node => exact h.elim

theorem scans_arrowBetween : Scans w anyChar " -> " [.mark .arrow] := by
  have text : " -> " = " " ++ "->" ++ " " := rfl
  rw [text]
  exact (scans_space.lead scans_arrow).lead scans_space

theorem scans_arrowBefore : Scans w anyChar "-> " [.mark .arrow] := by
  have text : "-> " = "->" ++ " " := rfl
  rw [text]
  exact scans_arrow.lead scans_space

theorem scans_commaBehind : Scans w anyChar ", " [.mark .comma] := by
  have text : ", " = "," ++ " " := rfl
  rw [text]
  exact scans_comma.lead scans_space

/-- a case with the comma behind it -/
theorem Case.spells_print (hstyle : style = .compact ∨ style = .terms) {c : Case α}
    (h : c.Fits w) :
    ∃ t, c.print style = .ok t ∧ Spells w anyChar Case.Derives Free (t ++ ", ") c := by
  obtain ⟨g, e, x, hx, hdx⟩ := Guard.spells_printTerm h.guard
  obtain ⟨b, e', y, hy, hdy⟩ := Body.spells_print hstyle h.body
  refine ⟨g ++ " -> " ++ b, ?_, ?_⟩
  · unfold Case.print
    rw [e, ok_bind, e']
    rfl
  · have arm := (hx.append scans_arrowBetween ⟨' ', _, rfl, rfl⟩).lead hy
    refine ⟨_, arm.append scans_commaBehind ⟨',', _, rfl, rfl⟩, fun v _ => ?_⟩
    rw [List.append_assoc, List.append_assoc, List.append_assoc]
    exact .intro (hdx _ (Guard.not_joined_mark rfl _)) (hdy _ trivial)

theorem Translation.spells_print (hstyle : style = .compact ∨ style = .terms)
    {t : Translation α} (h : t.Fits w) :
    ∃ s, t.print style = .ok s ∧ Spells w notWordChar Translation.Derives Free s t := by
  cases t with
  | body b =>
    obtain ⟨s, e, z, hz, hd⟩ := Body.spells_print hstyle h
    exact ⟨s, e, z, hz, fun y hy => .body (hd y hy)⟩
  | switch first rest default =>
    obtain ⟨hfirst, hrest, hdefault⟩ := h
    obtain ⟨last, elast, zd, hzd, hdd⟩ := Body.spells_print hstyle hdefault
    have each : ∀ c ∈ first :: rest, ∃ t, c.print style = .ok t ∧
        Spells w anyChar Case.Derives Free (t ++ ", ") c ∧ Admits anyChar (t ++ ", ") := by
      intro c hc
      have fits : ∀ c ∈ first :: rest, c.Fits w := List.forall_mem_cons.mpr ⟨hfirst, hrest⟩
      obtain ⟨t, e, ht⟩ := Case.spells_print hstyle (fits c hc)
      exact ⟨t, e, ht, admits_anyChar _⟩
    obtain ⟨arms, earms, ⟨zs, hzs, hds⟩, -⟩ := spells_mapM (· ++ ", ") each
    refine ⟨switchText (arms ++ ["-> " ++ last]), ?_, ?_⟩
    · rw [Translation.print, earms, ok_bind, elast]
      rfl
    · unfold switchText
      rw [intercalate_before]
      have opening : Scans w anyChar "switch \x7b " [.mark .switch, .mark .leftBrace] := by
        have text : "switch \x7b " = "switch" ++ " " ++ ("\x7b" ++ " ") := rfl
        rw [text]
        have word : Scans w notWordChar "switch" [.mark .switch] := scans_word rfl rfl
        exact (word.append scans_space begins_space).lead (scans_leftBrace.lead scans_space)
      have closing : Scans w anyChar " \x7d" [.mark .rightBrace] := by
        have text : " \x7d" = " " ++ "\x7d" := rfl
        rw [text]
        have mark : Scans w anyChar "\x7d" [.mark .rightBrace] := scans_closed rfl rfl
        exact scans_space.lead mark
      have inner := opening.lead (hzs.lead (scans_arrowBefore.lead hzd))
      refine ⟨_, inner.append closing.weaken ⟨' ', _, rfl, rfl⟩, fun y _ => ?_⟩
      rw [List.append_assoc, List.append_assoc, List.append_assoc, List.append_assoc]
      cases hds _ trivial with
      | cons head tail => exact .switch head tail (hdd _ trivial)

end BankSwitch
