import BankSwitch.Proofs.Grammar.Terminal

/-!
# Phrases

The grammar of descriptions as one table, without the things that its phrases stand for and without
conditions on numbers.

    component   = "memory" "<" NUM "," NUM ">" "{" bank { bank } "}"
    bank        = "bank" "{" "layout" ":" partition "translation" ":" translation "}"
    partition   = range | "[" range { range } "]"
    range       = "(" "Range" NUM NUM NUM ")" | "[" NUM ":" NUM [ ":" NUM ] "]"
    guard       = term { ( "&&" | "||" ) term }
    term        = "!" guard | "(" guard ")" | comparison
    comparison  = "INPUT" comparator NUM | NUM comparator "INPUT"
    translation = "switch" "{" case { case } "->" body "}" | body
    case        = term "->" body ","
    body        = "[" primitive { ";" primitive } "]" | primitive
    primitive   = "NOOP" | "(" word NUM ")" | "INPUT" ( "+" | "-" | ">>" ) NUM
                | NUM [ ( "+" | "-" ) "INPUT" ]

A form is a row of items; it yields the lists of terminals that are phrases of its items, one behind
the other.  `Sentence` are the phrases for components.
-/

namespace BankSwitch.Grammar

inductive Symbol where
  | component
  | bank
  | partition
  | range
  | stride
  | guard
  | link
  | connective
  | term
  | comparison
  | comparator
  | translation
  | case
  | body
  | step
  | primitive
  | word
  | operator
  | operand
  | middle
  deriving DecidableEq

inductive Item where
  | mark (kind : Token.Kind)
  | number
  | one (symbol : Symbol)
  /-- any number of phrases, none included -/
  | many (symbol : Symbol)
  deriving DecidableEq

abbrev Form := List Item

/-- a choice between marks -/
def marks (ks : List Token.Kind) : List Form := ks.map fun k => [.mark k]

def Symbol.rules : Symbol → List Form
  | .component => [[.mark .memory, .mark .below, .number, .mark .comma, .number, .mark .above,
      .mark .leftBrace, .one .bank, .many .bank, .mark .rightBrace]]
  | .bank => [[.mark .bank, .mark .leftBrace, .mark .layout, .mark .colon, .one .partition,
      .mark .translation, .mark .colon, .one .translation, .mark .rightBrace]]
  | .partition => [[.one .range],
      [.mark .leftBracket, .one .range, .many .range, .mark .rightBracket]]
  | .range => [[.mark .leftParen, .mark .range, .number, .number, .number, .mark .rightParen],
      [.mark .leftBracket, .number, .mark .colon, .number, .one .stride, .mark .rightBracket]]
  | .stride => [[], [.mark .colon, .number]]
  | .guard => [[.one .term, .many .link]]
  | .link => [[.one .connective, .one .term]]
  | .connective => marks [.and, .or]
  | .term => [[.mark .bang, .one .guard], [.mark .leftParen, .one .guard, .mark .rightParen],
      [.one .comparison]]
  | .comparison => [[.mark .input, .one .comparator, .number],
      [.number, .one .comparator, .mark .input]]
  | .comparator => marks [.atMost, .atLeast, .equal, .unequal, .below, .above]
  | .translation => [[.mark .switch, .mark .leftBrace, .one .case, .many .case, .mark .arrow,
      .one .body, .mark .rightBrace], [.one .body]]
  | .case => [[.one .term, .mark .arrow, .one .body, .mark .comma]]
  | .body => [[.mark .leftBracket, .one .primitive, .many .step, .mark .rightBracket],
      [.one .primitive]]
  | .step => [[.mark .semicolon, .one .primitive]]
  | .primitive => [[.mark .noop], [.mark .leftParen, .one .word, .number, .mark .rightParen],
      [.mark .input, .one .operator, .number], [.number, .one .operand]]
  | .word => marks [.constant, .add, .subFrom, .sub, .shiftRight]
  | .operator => marks [.plus, .minus, .shift]
  | .operand => [[], [.one .middle, .mark .input]]
  | .middle => marks [.plus, .minus]

/-- the phrases of a form -/
inductive Yields : Form → List Terminal → Prop
  | nil : Yields [] []
  | mark {f : Form} {s : List Terminal} (k : Token.Kind) (tail : Yields f s) :
      Yields (.mark k :: f) (.mark k :: s)
  | number {f : Form} {s : List Terminal} (n : Nat) (tail : Yields f s) :
      Yields (.number :: f) (.number n :: s)
  | one {f g : Form} {s t : List Terminal} {a : Symbol} (rule : g ∈ a.rules) (head : Yields g s)
      (tail : Yields f t) : Yields (.one a :: f) (s ++ t)
  | none {f : Form} {t : List Terminal} (a : Symbol) (tail : Yields f t) : Yields (.many a :: f) t
  | more {f g : Form} {s t : List Terminal} {a : Symbol} (rule : g ∈ a.rules) (head : Yields g s)
      (tail : Yields (.many a :: f) t) : Yields (.many a :: f) (s ++ t)

/-- phrases for components -/
abbrev Sentence (s : List Terminal) : Prop := Yields [.one .component] s

/-- phrases of the form begin with `s` and go on -/
def Unfinished (f : Form) (s : List Terminal) : Prop := ∃ c, c ≠ [] ∧ Yields f (s ++ c)

/-! ## putting phrases together -/

variable {f g : Form} {s t : List Terminal} {a : Symbol}

namespace Yields

theorem append (hs : Yields f s) (ht : Yields g t) : Yields (f ++ g) (s ++ t) := by
  induction hs with
  | nil => exact ht
  | mark k tail ih => exact .mark k ih
  | number n tail ih => exact .number n ih
  | one rule head tail ihh iht =>
    rw [List.append_assoc]
    exact .one rule head iht
  | none a tail ih => exact .none a ih
  | more rule head tail ihh iht =>
    rw [List.append_assoc]
    exact .more rule head iht

theorem split (h : Yields (f ++ g) s) : ∃ u v, s = u ++ v ∧ Yields f u ∧ Yields g v := by
  generalize he : f ++ g = e at h
  induction h generalizing f with
  | nil =>
    obtain ⟨rfl, rfl⟩ := List.append_eq_nil_iff.mp he
    exact ⟨[], [], rfl, .nil, .nil⟩
  | mark k tail ih =>
    obtain ⟨rfl, rfl⟩ | ⟨f, rfl, rfl⟩ := List.append_eq_cons_iff.mp he
    · exact ⟨[], _, rfl, .nil, .mark k tail⟩
    · obtain ⟨u, v, rfl, hu, hv⟩ := ih rfl
      exact ⟨_, v, rfl, .mark k hu, hv⟩
  | number n tail ih =>
    obtain ⟨rfl, rfl⟩ | ⟨f, rfl, rfl⟩ := List.append_eq_cons_iff.mp he
    · exact ⟨[], _, rfl, .nil, .number n tail⟩
    · obtain ⟨u, v, rfl, hu, hv⟩ := ih rfl
      exact ⟨_, v, rfl, .number n hu, hv⟩
  | one rule head tail ihh iht =>
    obtain ⟨rfl, rfl⟩ | ⟨f, rfl, rfl⟩ := List.append_eq_cons_iff.mp he
    · exact ⟨[], _, rfl, .nil, .one rule head tail⟩
    · obtain ⟨u, v, rfl, hu, hv⟩ := iht rfl
      exact ⟨_, v, (List.append_assoc ..).symm, .one rule head hu, hv⟩
  | none a tail ih =>
    obtain ⟨rfl, rfl⟩ | ⟨f, rfl, rfl⟩ := List.append_eq_cons_iff.mp he
    · exact ⟨[], _, rfl, .nil, .none a tail⟩
    · obtain ⟨u, v, rfl, hu, hv⟩ := ih rfl
      exact ⟨u, v, rfl, .none a hu, hv⟩
  | more rule head tail ihh iht =>
    obtain ⟨rfl, rfl⟩ | ⟨f, rfl, rfl⟩ := List.append_eq_cons_iff.mp he
    · exact ⟨[], _, rfl, .nil, .more rule head tail⟩
    · obtain ⟨u, v, rfl, hu, hv⟩ := iht (f := .many _ :: f) rfl
      exact ⟨_, v, (List.append_assoc ..).symm, .more rule head hu, hv⟩

theorem of_rule_append (rule : g ∈ a.rules) (h : Yields (g ++ f) s) : Yields (.one a :: f) s := by
  obtain ⟨u, v, rfl, hu, hv⟩ := h.split
  exact .one rule hu hv

theorem of_rule (rule : g ∈ a.rules) (h : Yields g s) : Yields [.one a] s :=
  of_rule_append rule (by rwa [List.append_nil])

/-- a mark is a phrase for a choice that it is in -/
theorem of_mark {k : Token.Kind} (rule : [.mark k] ∈ a.rules) (h : Yields (.mark k :: f) s) :
    Yields (.one a :: f) s := by
  cases h with
  | mark k tail => exact .one rule (.mark k .nil) tail

theorem of_many (h : Yields (.one a :: .many a :: f) s) : Yields (.many a :: f) s := by
  cases h with
  | one rule head tail => exact .more rule head tail

/-- two rows of phrases for one symbol are one row -/
theorem many_of_many_many (h : Yields (.many a :: .many a :: f) s) : Yields (.many a :: f) s := by
  generalize he : Item.many a :: .many a :: f = e at h
  induction h with
  | none b tail =>
    cases he
    exact tail
  | more rule head tail ihh iht =>
    cases he
    exact .more rule head (iht rfl)
  | _ => cases he

end Yields

/-! ## every form has phrases -/

/-- a rule of which no other symbol need be known than those of a lower rank -/
def Symbol.simplest : Symbol → Form
  | .term => [.one .comparison]
  | .stride => [.mark .colon, .number]
  | .operand => [.one .middle, .mark .input]
  | .partition => [.one .range]
  | .body => [.one .primitive]
  | .translation => [.one .body]
  | a => a.rules.headD []

def Symbol.rank : Symbol → Nat
  | .connective | .comparator | .word | .operator | .middle | .stride => 0
  | .comparison | .range | .operand => 1
  | .term | .partition | .primitive => 2
  | .link | .body | .step => 3
  | .guard | .case | .translation => 4
  | .bank => 5
  | .component => 6

def Item.below (n : Nat) : Item → Bool
  | .one a | .many a => decide (a.rank < n)
  | _ => true

theorem Symbol.simplest_spec (a : Symbol) :
    a.simplest ∈ a.rules ∧ a.simplest ≠ [] ∧ ∀ i ∈ a.simplest, i.below a.rank = true := by
  cases a <;> decide

/-- an item has a phrase that is not empty, if the symbols below a rank have -/
theorem exists_yields_item {n : Nat}
    (h : ∀ a : Symbol, a.rank < n → ∃ s, s ≠ [] ∧ Yields [.one a] s) {i : Item}
    (hi : i.below n = true) : ∃ s, s ≠ [] ∧ Yields [i] s := by
  cases i with
  | mark k => exact ⟨[.mark k], by simp, .mark k .nil⟩
  | number => exact ⟨[.number 0], by simp, .number 0 .nil⟩
  | one a => exact h a (of_decide_eq_true hi)
  | many a =>
    obtain ⟨s, hs, hy⟩ := h a (of_decide_eq_true hi)
    have hm : Yields [.one a, .many a] (s ++ []) := hy.append (.none a .nil)
    exact ⟨s, hs, by simpa using hm.of_many⟩

theorem exists_yields_of_items (h : ∀ i ∈ f, ∃ s, s ≠ [] ∧ Yields [i] s) (hf : f ≠ []) :
    ∃ s, s ≠ [] ∧ Yields f s := by
  induction f with
  | nil => exact absurd rfl hf
  | cons i f ih =>
    obtain ⟨s, hs, hi⟩ := h i List.mem_cons_self
    cases f with
    | nil => exact ⟨s, hs, hi⟩
    | cons j f =>
      obtain ⟨t, -, hj⟩ := ih (fun k hk => h k (List.mem_cons_of_mem i hk)) (by simp)
      exact ⟨s ++ t, by simp [hs], hi.append hj⟩

theorem exists_yields_one (a : Symbol) : ∃ s, s ≠ [] ∧ Yields [.one a] s := by
  obtain ⟨hr, hne, hb⟩ := a.simplest_spec
  have lower : ∀ b : Symbol, b.rank < a.rank → ∃ s, s ≠ [] ∧ Yields [.one b] s :=
    fun b _ => exists_yields_one b
  obtain ⟨s, hs, hy⟩ := exists_yields_of_items (fun i hi => exists_yields_item lower (hb i hi)) hne
  exact ⟨s, hs, hy.of_rule hr⟩
termination_by a.rank

theorem exists_yields_ne_nil (hf : f ≠ []) : ∃ s, s ≠ [] ∧ Yields f s := by
  refine exists_yields_of_items (fun i _ => ?_) hf
  cases i with
  | mark k => exact ⟨[.mark k], by simp, .mark k .nil⟩
  | number => exact ⟨[.number 0], by simp, .number 0 .nil⟩
  | one a => exact exists_yields_one a
  | many a =>
    exact exists_yields_item (n := a.rank + 1) (fun b _ => exists_yields_one b) (by simp [Item.below])

theorem exists_yields (f : Form) : ∃ s, Yields f s := by
  cases f with
  | nil => exact ⟨[], .nil⟩
  | cons i f =>
    obtain ⟨s, -, h⟩ := exists_yields_ne_nil (f := i :: f) (by simp)
    exact ⟨s, h⟩

/-! ## unfinished phrases -/

namespace Unfinished

theorem start (hf : f ≠ []) : Unfinished f [] := exists_yields_ne_nil hf

theorem append_right (h : Unfinished f s) (g : Form) : Unfinished (f ++ g) s := by
  obtain ⟨c, hc, hy⟩ := h
  obtain ⟨d, hd⟩ := exists_yields g
  refine ⟨c ++ d, by simp [hc], ?_⟩
  rw [← List.append_assoc]
  exact hy.append hd

theorem append_left (hs : Yields f s) (h : Unfinished g t) : Unfinished (f ++ g) (s ++ t) := by
  obtain ⟨c, hc, hy⟩ := h
  refine ⟨c, hc, ?_⟩
  rw [List.append_assoc]
  exact hs.append hy

theorem weaken (h : Unfinished f s) (hfg : ∀ z, Yields f z → Yields g z) : Unfinished g s := by
  obtain ⟨c, hc, hy⟩ := h
  exact ⟨c, hc, hfg _ hy⟩

end Unfinished

/-! ## no phrase holds the end of the text -/

theorem Symbol.rules_closed (a : Symbol) : ∀ g ∈ a.rules, Item.mark .endOfInput ∉ g := by
  cases a <;> decide

theorem Yields.closed (h : Yields f s) (hf : .mark .endOfInput ∉ f) : .mark .endOfInput ∉ s := by
  induction h with
  | nil => exact List.not_mem_nil
  | mark k tail ih => simp_all
  | number n tail ih => simp_all
  | one rule head tail ihh iht =>
    have hs := ihh (Symbol.rules_closed _ _ rule)
    simp_all
  | none a tail ih => simp_all
  | more rule head tail ihh iht =>
    have hs := ihh (Symbol.rules_closed _ _ rule)
    simp_all

/-! ## what phrases begin with -/

/-- the kinds of tokens that phrases for a symbol begin with, if they are not empty -/
def Symbol.opens : Symbol → List Token.Kind
  | .component => [.memory]
  | .bank => [.bank]
  | .partition | .range => [.leftParen, .leftBracket]
  | .stride => [.colon]
  | .guard | .term | .case => [.bang, .leftParen, .input, .number]
  | .link | .connective => [.and, .or]
  | .comparison => [.input, .number]
  | .comparator => [.atMost, .atLeast, .equal, .unequal, .below, .above]
  | .translation => [.switch, .leftBracket, .noop, .leftParen, .input, .number]
  | .body => [.leftBracket, .noop, .leftParen, .input, .number]
  | .step => [.semicolon]
  | .primitive => [.noop, .leftParen, .input, .number]
  | .word => [.constant, .add, .subFrom, .sub, .shiftRight]
  | .operator => [.plus, .minus, .shift]
  | .operand | .middle => [.plus, .minus]

/-- a symbol with phrases that are not empty only -/
def Symbol.solid (a : Symbol) : Prop := [] ∉ a.rules

instance (a : Symbol) : Decidable a.solid := inferInstanceAs (Decidable ([] ∉ a.rules))

/-- phrases of the item begin with tokens of these kinds -/
def Item.Opens (ks : List Token.Kind) : Item → Prop
  | .mark k => k ∈ ks
  | .number => .number ∈ ks
  | .one a => a.solid ∧ ∀ k ∈ a.opens, k ∈ ks
  | .many _ => False

instance (ks : List Token.Kind) : (i : Item) → Decidable (i.Opens ks)
  | .mark k => inferInstanceAs (Decidable (k ∈ ks))
  | .number => inferInstanceAs (Decidable (.number ∈ ks))
  | .one a => inferInstanceAs (Decidable (a.solid ∧ ∀ k ∈ a.opens, k ∈ ks))
  | .many _ => inferInstanceAs (Decidable False)

theorem Symbol.rules_open (a : Symbol) : ∀ g ∈ a.rules, ∀ i ∈ g.head?, i.Opens a.opens := by
  cases a <;> decide

theorem Yields.opening (h : Yields (.one a :: f) s) (ha : a.solid) :
    ∃ t r, s = t :: r ∧ t.kind ∈ a.opens := by
  generalize he : Item.one a :: f = e at h
  induction h generalizing a f with
  | @one f' g s t a' rule head tail ihh iht =>
    cases he
    cases g with
    | nil => exact absurd rule ha
    | cons i g =>
      have hi := Symbol.rules_open _ _ rule i rfl
      cases head with
      | mark k tail => exact ⟨_, _, rfl, hi⟩
      | number n tail => exact ⟨_, _, rfl, hi⟩
      | one rule' head' tail' =>
        obtain ⟨t, r, hs, ht⟩ := ihh hi.1 rfl
        exact ⟨t, r ++ _, by rw [hs]; rfl, hi.2 _ ht⟩
      | none | more => exact hi.elim
  | _ => cases he

/-! ## taking phrases apart -/

theorem Yields.rule_of_one_append (h : Yields (.one a :: f) s) : ∃ g ∈ a.rules, Yields (g ++ f) s := by
  cases h with
  | one rule head tail => exact ⟨_, rule, head.append tail⟩

theorem Yields.of_only (h : Yields (.one a :: f) s) (hr : a.rules = [g]) : Yields (g ++ f) s := by
  obtain ⟨g', hg, h⟩ := h.rule_of_one_append
  rw [hr, List.mem_singleton] at hg
  rwa [hg] at h

theorem Yields.of_either {g₁ g₂ : Form} (h : Yields (.one a :: f) s) (hr : a.rules = [g₁, g₂]) :
    Yields (g₁ ++ f) s ∨ Yields (g₂ ++ f) s := by
  obtain ⟨g, hg, h⟩ := h.rule_of_one_append
  simp only [hr, List.mem_cons, List.not_mem_nil, or_false] at hg
  obtain rfl | rfl := hg
  · exact .inl h
  · exact .inr h

theorem Yields.of_marks {ks : List Token.Kind} (h : Yields (.one a :: f) s)
    (hr : a.rules = marks ks) : ∃ k ∈ ks, Yields (.mark k :: f) s := by
  obtain ⟨g, hg, h⟩ := h.rule_of_one_append
  rw [hr] at hg
  obtain ⟨k, hk, rfl⟩ := List.mem_map.mp hg
  exact ⟨k, hk, h⟩

theorem Yields.none_or_more (h : Yields (.many a :: f) s) :
    Yields f s ∨ Yields (.one a :: .many a :: f) s := by
  cases h with
  | none a tail => exact .inl tail
  | more rule head tail => exact .inr (.one rule head tail)

/-! ## tables of marks -/

/-- the symbol is a choice between the marks that the table has an entry for -/
def Symbol.ListedBy {β : Type} (a : Symbol) (table : Token.Kind → Option β) : Prop :=
  ∃ ks, a.rules = marks ks ∧ ∀ k, k ∈ ks ↔ (table k).isSome

namespace Symbol.ListedBy

variable {β : Type} {table : Token.Kind → Option β}

theorem rule (ha : a.ListedBy table) {k : Token.Kind} {b : β} (hk : table k = some b) :
    [.mark k] ∈ a.rules := by
  obtain ⟨ks, hr, hks⟩ := ha
  rw [hr]
  exact List.mem_map_of_mem ((hks k).mpr (by rw [hk]; rfl))

theorem entry (ha : a.ListedBy table) (h : Yields (.one a :: f) s) :
    ∃ k b, table k = some b ∧ Yields (.mark k :: f) s := by
  obtain ⟨ks, hr, hks⟩ := ha
  obtain ⟨k, hk, h⟩ := h.of_marks hr
  obtain ⟨b, hb⟩ := Option.isSome_iff_exists.mp ((hks k).mp hk)
  exact ⟨k, b, hb, h⟩

end Symbol.ListedBy

end BankSwitch.Grammar
