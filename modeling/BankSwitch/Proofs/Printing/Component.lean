import BankSwitch.Proofs.Printing.Layout
import BankSwitch.Proofs.Printing.Translation

/-!
# Printed components

What is read and then printed reads back as the same component, in both styles and under every
settings of the same width (`Component.print_ofText`).  Ranges that lead to the very end of the bus
are the one exception: settings whose terms have stops cannot say it, and printing fails.
-/

namespace BankSwitch

variable {α : Type} {w : Nat} {settings : Settings} {style : Style}

/-! ## what cannot be printed -/

/-- some range of the bank cannot be printed -/
def Bank.Unprintable (form : RangeForm) (w : Nat) (b : Bank α) : Prop :=
  ∃ r ∈ b.layout.ranges, r.Unprintable form w

/-- some range of the component cannot be printed -/
def Component.Unprintable (form : RangeForm) (w : Nat) (c : Component α) : Prop :=
  ∃ b ∈ c.banks, b.Unprintable form w

/-- under the settings that a component was read with, all of it can be printed -/
theorem Component.printable_of_fits {form : RangeForm} {c : Component α} (h : c.Fits form w) :
    ¬ c.Unprintable form w := by
  rintro ⟨b, hb, r, hr, hform, htop⟩
  exact (((h.banks b hb).layout r hr).top htop).2 hform

/-! ## banks -/

theorem scans_bankOpening :
    Scans w anyChar "bank \x7b layout: "
      [.mark .bank, .mark .leftBrace, .mark .layout, .mark .colon] := by
  have text : "bank \x7b layout: " =
      "bank" ++ " " ++ ("\x7b" ++ " ") ++ ("layout" ++ ":" ++ " ") := rfl
  rw [text]
  have bank : Scans w notWordChar "bank" [.mark .bank] := scans_word rfl rfl
  have layout : Scans w notWordChar "layout" [.mark .layout] := scans_word rfl rfl
  have head := (bank.append scans_space begins_space).lead (scans_leftBrace.lead scans_space)
  exact head.lead ((layout.append scans_colon begins_colon).lead scans_space)

theorem scans_translationOpening :
    Scans w anyChar " translation: " [.mark .translation, .mark .colon] := by
  have text : " translation: " = " " ++ ("translation" ++ ":" ++ " ") := rfl
  rw [text]
  have word : Scans w notWordChar "translation" [.mark .translation] := scans_word rfl rfl
  exact scans_space.lead ((word.append scans_colon begins_colon).lead scans_space)

theorem scans_rightBrace : Scans w anyChar "\x7d" [.mark .rightBrace] := scans_closed rfl rfl

theorem Component.ofText_of_spells (hw : settings.width = .whole w)
    (fit : DecimalsFit w settings.digits) {t : String} {c : Component α}
    (h : Spells w anyChar (Component.Derives settings.rangeForm w) Free t c) :
    Component.ofText settings t = .ok c := (Component.exact hw).ofText_of_spells hw fit h

variable [Alien α]

namespace Bank

theorem spells_print (hw : settings.width = .whole w) (hstyle : style = .compact ∨ style = .terms)
    {source : RangeForm} {b : Bank α} (h : b.Fits source w)
    (hp : ¬ b.Unprintable settings.rangeForm w) :
    ∃ t, b.print style settings = .ok t ∧
      Spells w anyChar (Bank.Derives settings.rangeForm w) Free t b := by
  obtain ⟨l, el, x, hx, hdx⟩ := Partition.spells_print (α := α) hw hstyle h.layout
    fun r hr hu => hp ⟨r, hr, hu⟩
  obtain ⟨t, et, y, hy, hdy⟩ := Translation.spells_print hstyle h.translation
  refine ⟨"bank \x7b layout: " ++ l ++ " translation: " ++ t ++ " \x7d", ?_, ?_⟩
  · unfold Bank.print
    rw [el, ok_bind, et]
    rfl
  · have text : " \x7d" = " " ++ "\x7d" := rfl
    have closing : Scans w anyChar " \x7d" [.mark .rightBrace] :=
      text ▸ scans_space.lead scans_rightBrace
    have middle := ((scans_bankOpening.lead hx).lead scans_translationOpening).lead hy
    refine ⟨_, middle.append closing ⟨' ', _, rfl, rfl⟩, fun v _ => ?_⟩
    rw [List.append_assoc, List.append_assoc, List.append_assoc, List.append_assoc]
    exact .intro (hdx _ trivial) (hdy _ trivial)

theorem print_unprintable (hw : settings.width = .whole w)
    (hstyle : style = .compact ∨ style = .terms) {source : RangeForm} {b : Bank α}
    (h : b.Fits source w) (hp : b.Unprintable settings.rangeForm w) :
    ∃ r ∈ b.layout.ranges, r.Unprintable settings.rangeForm w ∧
      b.print style settings = .error (.extentTooLarge r settings.width settings.rangeForm) := by
  obtain ⟨r, hr, hu, e⟩ := Partition.print_unprintable (α := α) hw hstyle h.layout hp
  refine ⟨r, hr, hu, ?_⟩
  unfold Bank.print
  rw [e]
  rfl

end Bank

/-! ## components -/

theorem scans_memory {a b : Nat} (ha : a < addressCount w) (hb : b < addressCount w) :
    Scans w anyChar (s!"memory<{(a : Int)}, {(b : Int)}> \x7b" ++ "\n")
      [.mark .memory, .mark .below, .number a, .mark .comma, .number b, .mark .above,
        .mark .leftBrace] := by
  have opening : Scans w (endsSymbol "<".toList) "memory<" [.mark .memory, .mark .below] := by
    have text : "memory<" = "memory" ++ "<" := rfl
    rw [text]
    have word : Scans w notWordChar "memory" [.mark .memory] := scans_word rfl rfl
    exact word.append (scans_symbol rfl) ⟨'<', [], rfl, rfl⟩
  have closing : Scans w anyChar "> \x7b" [.mark .above, .mark .leftBrace] := by
    have text : "> \x7b" = ">" ++ " " ++ "\x7b" := rfl
    rw [text]
    have above : Scans w (endsSymbol ">".toList) ">" [.mark .above] := scans_symbol rfl
    exact (above.append scans_space ⟨' ', [], rfl, rfl⟩).lead scans_leftBrace
  have first := opening.append (scans_decimal_int ha) (begins_decimal (by decide) a)
  have second := (first.append scans_commaBehind ⟨',', _, rfl, rfl⟩).lead (scans_decimal_int hb)
  have line := second.append closing ⟨'>', _, rfl, rfl⟩
  exact line.lead (scans_blanks (t := "\n") rfl)

namespace Component

/-- the lines of a component, joined -/
theorem print_eq (hstyle : style = .compact ∨ style = .terms) {c : Component α}
    {texts : List String} (h : c.banks.mapM (Bank.print style settings) = .ok texts) :
    c.print style settings = .ok (s!"memory<{c.paramA}, {c.paramB}> \x7b" ++ "\n" ++
      joined (texts.map fun t => "    " ++ t ++ "\n") ++ "\x7d" ++ "\n") := by
  have known : (knownStyle style : Except (PrintError α) Unit) = .ok () := by
    obtain rfl | rfl := hstyle <;> rfl
  have lines (head : String) : joined ((head :: texts.map ("    " ++ ·)).map (· ++ "\n")) =
      head ++ "\n" ++ joined (texts.map fun t => "    " ++ t ++ "\n") := by
    rw [List.map_cons, List.map_map]
    rfl
  unfold Component.print
  rw [known, ok_bind, h]
  dsimp only [ok_bind]
  rw [intercalate_before, lines]
  rfl

theorem spells_print (hw : settings.width = .whole w) (hstyle : style = .compact ∨ style = .terms)
    {source : RangeForm} {c : Component α} (h : c.Fits source w)
    (hp : ¬ c.Unprintable settings.rangeForm w) :
    ∃ t, c.print style settings = .ok t ∧
      Spells w anyChar (Component.Derives settings.rangeForm w) Free t c := by
  obtain ⟨a, ea, ha⟩ := h.paramA
  obtain ⟨b, eb, hb⟩ := h.paramB
  have each : ∀ b ∈ c.banks, ∃ t, b.print style settings = .ok t ∧
      Spells w anyChar (Bank.Derives settings.rangeForm w) Free ("    " ++ t ++ "\n") b ∧
        Admits anyChar ("    " ++ t ++ "\n") := by
    intro b hb
    obtain ⟨t, e, z, hz, hd⟩ := Bank.spells_print hw hstyle (h.banks b hb)
      fun hu => hp ⟨b, hb, hu⟩
    have indented := (scans_blanks (t := "    ") rfl).lead hz
    have line := indented.lead (scans_blanks (t := "\n") rfl)
    exact ⟨t, e, ⟨_, line, fun y hy => by rw [List.append_nil]; exact hd y hy⟩,
      admits_anyChar _⟩
  obtain ⟨texts, e, ⟨z, hz, hd⟩, -⟩ := spells_mapM (fun t => "    " ++ t ++ "\n") each
  refine ⟨_, print_eq hstyle e, ?_⟩
  rw [ea, eb]
  have body := ((scans_memory ha hb).lead hz).lead scans_rightBrace
  refine ⟨_, body.lead (scans_blanks (t := "\n") rfl), fun y _ => ?_⟩
  rw [List.append_nil, List.append_assoc, List.append_assoc]
  exact .intro (hd _ trivial) ea eb h.width

theorem print_unprintable (hw : settings.width = .whole w)
    (hstyle : style = .compact ∨ style = .terms) {source : RangeForm} {c : Component α}
    (h : c.Fits source w) (hp : c.Unprintable settings.rangeForm w) :
    ∃ b ∈ c.banks, ∃ r ∈ b.layout.ranges, r.Unprintable settings.rangeForm w ∧
      c.print style settings = .error (.extentTooLarge r settings.width settings.rangeForm) := by
  have fails : ∀ b ∈ c.banks, b.Unprintable settings.rangeForm w → ∃ e,
      b.print style settings = .error e ∧ ∃ r ∈ b.layout.ranges,
        r.Unprintable settings.rangeForm w ∧
          e = .extentTooLarge r settings.width settings.rangeForm := by
    intro b hb hu
    obtain ⟨r, hr, hur, e⟩ := Bank.print_unprintable hw hstyle (h.banks b hb) hu
    exact ⟨_, e, r, hr, hur, rfl⟩
  obtain ⟨b₀, hb₀, hu₀⟩ := hp
  obtain ⟨e₀, he₀, -⟩ := fails b₀ hb₀ hu₀
  obtain ⟨b, hb, e, he, r, hr, hu, rfl⟩ := mapM_error
    (P := fun b e => ∃ r ∈ b.layout.ranges, r.Unprintable settings.rangeForm w ∧
      e = .extentTooLarge r settings.width settings.rangeForm)
    (fun b hb => by
      by_cases hu : b.Unprintable settings.rangeForm w
      · exact .inr (fails b hb hu)
      · obtain ⟨t, e, -⟩ := Bank.spells_print hw hstyle (h.banks b hb) hu
        exact .inl ⟨t, e⟩)
    ⟨b₀, hb₀, e₀, he₀⟩
  refine ⟨b, hb, r, hr, hu, ?_⟩
  have known : (knownStyle style : Except (PrintError α) Unit) = .ok () := by
    obtain rfl | rfl := hstyle <;> rfl
  unfold Component.print
  rw [known, ok_bind, he]
  rfl

/-- what is printed is a description of the component -/
theorem ofText_of_print (hw : settings.width = .whole w) (fit : DecimalsFit w settings.digits)
    (hstyle : style = .compact ∨ style = .terms) {source : RangeForm} {c : Component α}
    (h : c.Fits source w) (hp : ¬ c.Unprintable settings.rangeForm w) {t : String}
    (printed : c.print style settings = .ok t) : ofText settings t = .ok c := by
  obtain ⟨t', e, spelled⟩ := spells_print hw hstyle h hp
  rw [printed] at e
  cases e
  exact ofText_of_spells hw fit spelled

/-- a component that was read under `source` is printed under a `target` of the same width as text
that reads as the component under `target` again, unless the target says stops in terms and some
range ends where no literal reaches; and it never is the source that fails.  The host must write and
read the decimals of the bus, as it does up to 14284 lines and so under all settings that are loaded
(`decimalsFit_host`); how deep it lets a translation be nested is left out -/
theorem print_ofText {source target : Settings} {w : Nat} (hs : source.width = .whole w)
    (ht : target.width = .whole w) (fit : DecimalsFit w target.digits) {text : String}
    {c : Component α} (h : ofText source text = .ok c) (hstyle : style = .compact ∨ style = .terms) :
    (¬ (target.rangeForm = .stop ∧
          ∃ b ∈ c.banks, ∃ r ∈ b.layout.ranges, r.stop = addressCount w) →
        ∃ t, c.print style target = .ok t ∧ ofText target t = .ok c) ∧
      (target.rangeForm = .stop →
        (∃ b ∈ c.banks, ∃ r ∈ b.layout.ranges, r.stop = addressCount w) →
        ∃ b ∈ c.banks, ∃ r ∈ b.layout.ranges, r.stop = addressCount w ∧
          c.print style target = .error (.extentTooLarge r target.width .stop)) ∧
      (target.rangeForm = source.rangeForm →
        ∃ t, c.print style target = .ok t ∧ ofText target t = .ok c) := by
  have hc := fits_of_ofText hs h
  have printed (hp : ¬ c.Unprintable target.rangeForm w) :
      ∃ t, c.print style target = .ok t ∧ ofText target t = .ok c := by
    obtain ⟨t, e, hspell⟩ := spells_print ht hstyle hc hp
    exact ⟨t, e, ofText_of_spells ht fit hspell⟩
  refine ⟨fun hp => printed ?_, ?_, fun hform => printed ?_⟩
  · rintro ⟨b, hb, r, hr, hform, htop⟩
    exact hp ⟨hform, b, hb, r, hr, htop⟩
  · rintro hform ⟨b, hb, r, hr, htop⟩
    obtain ⟨b', hb', r', hr', hu, e⟩ :=
      print_unprintable ht hstyle hc ⟨b, hb, r, hr, hform, htop⟩
    exact ⟨b', hb', r', hr', hu.2, hform ▸ e⟩
  · rw [hform]
    exact printable_of_fits hc

theorem sample_print :
    Settings.standard.width = .whole 64 ∧ ofText Settings.standard sampleText = .ok sample ∧
      ∃ t, sample.print .compact Settings.standard = .ok t ∧
        ofText Settings.standard t = .ok sample :=
  have fit : DecimalsFit 64 Settings.standard.digits := decimalsFit_host (by decide)
  ⟨rfl, ofText_sample, (print_ofText (w := 64) rfl rfl fit ofText_sample (.inl rfl)).2.2 rfl⟩

end Component

end BankSwitch
