import BankSwitch.Description.Text
import BankSwitch.Proofs.Describing.Telling
import BankSwitch.Proofs.Grammar.Guard

/-!
# Described guards

The text of a guard shows at once of which kind it is: a chain begins with a parenthesis, a negation
with its mark, and a comparison with the name or a number.  A chain is in parentheses and a negation
puts its operand there, so a guard ends where the text of another one would, at any depth.

* `Comparison.tells`, `Chain.tells`   comparisons, and chains of guards that can be told apart;
* `Guard.tells`   guards whose numbers the bus can carry.
-/

namespace BankSwitch

open CharClass (isHexDigit)

variable {α : Type} {w w' : Nat}

/-! ## comparisons -/

theorem Comparator.tells (k k' : Comparator) :
    Tells (k.spelling ++ " ") (k'.spelling ++ " ") anyText (k = k') := by
  have free : ∀ x y : Comparator,
      (x.spelling ++ " ").toList <+: (y.spelling ++ " ").toList → x = y := by
    intro x y
    cases x <;> cases y <;> decide
  exact tells_code free k k'

theorem Comparison.text_left (k : Comparator) (n : Int) (name : String) :
    Comparison.text ⟨.left, k, n, name⟩ = name ++ " " ++ (k.spelling ++ " ") ++ toString n := by
  show name ++ " " ++ k.spelling ++ " " ++ toString n = _
  simp only [String.append_assoc]

theorem Comparison.text_right (k : Comparator) (n : Int) (name : String) :
    Comparison.text ⟨.right, k, n, name⟩ = toString n ++ " " ++ (k.spelling ++ " " ++ name) := by
  show toString n ++ " " ++ k.spelling ++ " " ++ name = _
  simp only [String.append_assoc]

theorem Comparison.begins_left (k : Comparator) (n : Int) :
    Begins (isChar 'I') (Comparison.text ⟨.left, k, n, addressName⟩) := by
  rw [text_left]
  exact ((Begins.append ⟨'I', _, rfl, rfl⟩ _).append _).append _

theorem Comparison.begins_right {n : Int} (hn : OnBus w n) (k : Comparator) (name : String) :
    Begins isHexDigit (Comparison.text ⟨.right, k, n, name⟩) := by
  rw [text_right]
  exact (hn.begins.append _).append _

theorem Comparison.tells {c c' : Comparison} (h : c.Fits w) (h' : c'.Fits w') :
    Tells c.text c'.text Apart (c = c') := by
  obtain ⟨side, k, n, name⟩ := c
  obtain ⟨side', k', n', name'⟩ := c'
  obtain ⟨rfl, hn⟩ : name = addressName ∧ OnBus w n := h
  obtain ⟨rfl, hn'⟩ : name' = addressName ∧ OnBus w' n' := h'
  cases side with
  | left =>
    cases side' with
    | left =>
      have both := ((Comparator.tells k k').lead (addressName ++ " ")).followed (hn.tells hn')
      rw [text_left, text_left]
      exact both.imp fun ⟨comparator, literal⟩ => by rw [comparator, literal]
    | right => exact (Tells.differ (begins_right hn' k' _) (begins_left k n) rfl).symm
  | right =>
    cases side' with
    | left => exact .differ (begins_right hn k _) (begins_left k' n') rfl
    | right =>
      have behind := (Comparator.tells k k').before addressName fun _ => trivial
      have both := (hn.tells hn').between " " begins_space.apart behind
      rw [text_right, text_right]
      refine (both.imp ?_).weaken
      rintro ⟨rfl, rfl⟩
      rfl

/-- what the text of a comparison begins with -/
def opensComparison (c : Char) : Bool := isChar 'I' c || isHexDigit c

theorem Comparison.begins_text {c : Comparison} (h : c.Fits w) : Begins opensComparison c.text := by
  obtain ⟨side, k, n, name⟩ := c
  obtain ⟨rfl, hn⟩ : name = addressName ∧ OnBus w n := h
  cases side with
  | left => exact (begins_left k n).or_left
  | right => exact (begins_right hn k addressName).or_right

/-! ## chains -/

theorem Chain.fits_operands (c : Chain α) (h : c.Fits w) : ∀ g ∈ c.operands, g.Fits w := by
  cases c with
  | pair a k b => exact List.forall_mem_cons.mpr ⟨h.1, List.forall_mem_singleton.mpr h.2⟩
  | snoc c k b =>
    exact List.forall_mem_append.mpr
      ⟨Chain.fits_operands c h.1, List.forall_mem_singleton.mpr h.2⟩

variable [Alien α]

/-- a guard behind its connective -/
def linkText (link : Connective × Guard α) : String :=
  " " ++ link.1.spelling ++ " " ++ link.2.text

theorem begins_linkText (link : Connective × Guard α) : Begins (isChar ' ') (linkText link) :=
  ((Begins.append ⟨' ', [], rfl, rfl⟩ _).append _).append _

theorem Connective.tells (k k' : Connective) : Tells k.spelling k'.spelling anyText (k = k') := by
  have free : ∀ x y : Connective, x.spelling.toList <+: y.spelling.toList → x = y := by
    intro x y
    cases x <;> cases y <;> decide
  exact tells_code free k k'

theorem Chain.text_extend (c : Chain α) (more : List (Connective × Guard α)) :
    (c.extend more).text = c.text ++ joined (more.map linkText) := by
  induction more generalizing c with
  | nil => exact String.append_empty.symm
  | cons link more ih =>
    obtain ⟨k, g⟩ := link
    rw [Chain.extend_cons, ih, Chain.text]
    show _ = c.text ++ (linkText (k, g) ++ joined (more.map linkText))
    simp only [linkText, String.append_assoc]

theorem Chain.text_flat (g h : Guard α) (k : Connective) (more : List (Connective × Guard α)) :
    ((Chain.pair g k h).extend more).text = g.text ++ joined (((k, h) :: more).map linkText) := by
  rw [Chain.text_extend, Chain.text]
  show _ = g.text ++ (linkText (k, h) ++ joined (more.map linkText))
  simp only [linkText, String.append_assoc]

/-- chains, if their guards can be told apart -/
theorem Chain.tells {c c' : Chain α}
    (told : ∀ g ∈ c.operands, ∀ g' ∈ c'.operands, Tells g.text g'.text Apart (g = g')) :
    Tells c.text c'.text (Starts (isChar ')')) (c = c') := by
  obtain ⟨g, k, h, more, rfl⟩ := c.flat
  obtain ⟨g', k', h', more', rfl⟩ := c'.flat
  rw [Chain.operands_extend, Chain.operands_extend] at told
  have links : ∀ x ∈ (k, h) :: more, ∀ x' ∈ (k', h') :: more',
      Tells (linkText x) (linkText x') Apart (x = x') := by
    intro x hx x' hx'
    have operand := told x.2 (List.mem_cons_of_mem g (List.mem_map_of_mem hx)) x'.2
      (List.mem_cons_of_mem g' (List.mem_map_of_mem hx'))
    have both := ((x.1.tells x'.1).lead " ").between " " (fun _ => trivial) operand
    exact both.imp fun ⟨connective, guard⟩ => Prod.ext connective guard
  have space : ∀ u, Starts (isChar ' ') u → Apart u := fun u hu => hu.apart_char rfl
  have closing : ∀ u, Starts (isChar ')') u → Apart u := fun u hu => hu.apart_char rfl
  have first := told g List.mem_cons_self g' List.mem_cons_self
  rw [Chain.text_flat, Chain.text_flat]
  refine (first.append_joined rfl space closing (fun x _ => begins_linkText x)
    (fun x _ => begins_linkText x) links).imp ?_
  rintro ⟨rfl, same⟩
  cases same
  rfl

/-! ## guards -/

theorem Guard.begins_negation (g : Guard α) : Begins (isChar '!') (Guard.negation g).text :=
  (Begins.append ⟨'!', ['('], rfl, rfl⟩ _).append _

theorem Guard.begins_chain (c : Chain α) : Begins (isChar '(') (Guard.chain c).text :=
  (Begins.append ⟨'(', [], rfl, rfl⟩ _).append _

/-- the text of the guard is not the one of another guard, nor the beginning of one -/
def Guard.Told (w' : Nat) (g : Guard α) : Prop :=
  ∀ g' : Guard α, g'.Fits w' → Tells g.text g'.text Apart (g = g')

theorem Guard.told_compare {c : Comparison} (h : c.Fits w) :
    (Guard.compare c : Guard α).Told w' := by
  have begins := Comparison.begins_text h
  intro g' h'
  cases g' with
  | compare c' => exact (Comparison.tells h h').imp (congrArg Guard.compare)
  | negation g' => exact .differ begins (begins_negation g') rfl
  | chain c' => exact .differ begins (begins_chain c') rfl
  | alien node => exact h'.elim

theorem Guard.told_negation {g : Guard α} (h : g.Told w') : (Guard.negation g).Told w' := by
  intro g' h'
  cases g' with
  | compare c' => exact (Tells.differ (Comparison.begins_text h') (begins_negation g) rfl).symm
  | negation g' =>
    have operand := (h g' h').before ")" begins_rightParen.apart
    rw [Guard.text, Guard.text, String.append_assoc, String.append_assoc]
    exact ((operand.lead "!(").imp (congrArg Guard.negation)).weaken
  | chain c' => exact .differ (begins_negation g) (begins_chain c') rfl
  | alien node => exact h'.elim

theorem Guard.told_chain {c : Chain α} (h : ∀ g ∈ c.operands, g.Told w') :
    (Guard.chain c).Told w' := by
  intro g' h'
  cases g' with
  | compare c' => exact (Tells.differ (Comparison.begins_text h') (begins_chain c) rfl).symm
  | negation g' => exact .differ (begins_chain c) (begins_negation g') rfl
  | chain c' =>
    have operands := Chain.tells fun g hg g' hg' => h g hg g' (c'.fits_operands h' g' hg')
    have inner := operands.before ")" fun u => ⟨')', u, rfl, rfl⟩
    rw [Guard.text, Guard.text, String.append_assoc, String.append_assoc]
    exact ((inner.lead "(").imp (congrArg Guard.chain)).weaken
  | alien node => exact h'.elim

mutual
theorem Guard.told : ∀ g : Guard α, g.Fits w → g.Told w'
  | .compare _, h => Guard.told_compare h
  | .negation g, h => Guard.told_negation (Guard.told g h)
  | .chain c, h => Guard.told_chain (Chain.told c h)
  | .alien _, h => h.elim

theorem Chain.told : ∀ c : Chain α, c.Fits w → ∀ g ∈ c.operands, g.Told w'
  | .pair a _ b, h => List.forall_mem_cons.mpr
    ⟨Guard.told a h.1, List.forall_mem_singleton.mpr (Guard.told b h.2)⟩
  | .snoc c _ b, h => List.forall_mem_append.mpr
    ⟨Chain.told c h.1, List.forall_mem_singleton.mpr (Guard.told b h.2)⟩
end

theorem Guard.tells {g g' : Guard α} (h : g.Fits w) (h' : g'.Fits w') :
    Tells g.text g'.text Apart (g = g') := Guard.told g h g' h'

/-- what the text of a guard begins with -/
def opensGuard (c : Char) : Bool := opensComparison c || isChar '!' c || isChar '(' c

theorem Guard.begins_text {g : Guard α} (h : g.Fits w) : Begins opensGuard g.text := by
  cases g with
  | compare c => exact (Comparison.begins_text h).or_left.or_left
  | negation g => exact (begins_negation g).or_right.or_left
  | chain c => exact (begins_chain c).or_right
  | alien node => exact h.elim

end BankSwitch
