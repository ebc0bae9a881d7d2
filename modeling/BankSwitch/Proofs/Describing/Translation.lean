import BankSwitch.Proofs.Describing.Guard

/-!
# Described translations

A primitive shows what it is by its first word, or by what stands behind its number: in front of a
minus a number is not the whole primitive, and nothing that follows a primitive goes on like that
(`Primitive.Ends`).  Sequences and switches are closed by a bracket and a brace.
-/

namespace BankSwitch

open CharClass (isHexDigit)

variable {w w' : Nat}

/-! ## primitives -/

namespace Primitive

/-- does not go on with the text of a primitive -/
structure Ends (u : List Char) : Prop where
  apart : Apart u
  minus : ¬ " -".toList <+: u

theorem ends_nil : Ends [] := ⟨apart_nil, fun h => nomatch h⟩

theorem ends_of_starts {c : Char} (hc : notWordChar c = true) (hs : ' ' ≠ c) {u : List Char}
    (h : Starts (isChar c) u) : Ends u := by
  refine ⟨h.apart_char hc, ?_⟩
  obtain ⟨d, r, rfl, hd⟩ := h
  rintro ⟨v, e⟩
  exact hs ((List.cons.inj e).1.trans (of_decide_eq_true hd))

/-- the operators that stand between the address and a number -/
inductive Operator where
  | plus
  | minus
  | shift
  deriving DecidableEq

def Operator.text : Operator → String
  | .plus => "INPUT + "
  | .minus => "INPUT - "
  | .shift => "INPUT >> "

def Operator.primitive : Operator → Int → Primitive
  | .plus => .add
  | .minus => .sub
  | .shift => .shiftRight

theorem Operator.text_primitive (k : Operator) (n : Int) :
    (k.primitive n).text = k.text ++ toString n := by
  cases k <;> rfl

theorem Operator.begins (k : Operator) (n : Int) : Begins (isChar 'I') (k.primitive n).text := by
  rw [text_primitive]
  refine Begins.append ?_ _
  cases k <;> exact ⟨'I', _, rfl, rfl⟩

theorem Operator.tells (k k' : Operator) : Tells k.text k'.text anyText (k = k') := by
  have free : ∀ x y : Operator, x.text.toList <+: y.text.toList → x = y := by
    intro x y
    cases x <;> cases y <;> decide
  exact tells_code free k k'

/-- a word, or a number on the bus: alone, in front of the address or behind it -/
inductive Shape (w : Nat) : Primitive → Prop
  | noop : Shape w .noop
  | constant {n : Int} (hn : OnBus w n) : Shape w (.constant n)
  | subFrom {n : Int} (hn : OnBus w n) : Shape w (.subFrom n)
  | behind (k : Operator) {n : Int} (hn : OnBus w n) : Shape w (k.primitive n)

theorem shape {p : Primitive} (h : p.Fits w) : Shape w p := by
  cases p with
  | noop => exact .noop
  | constant n => exact .constant h
  | subFrom n => exact .subFrom h
  | add n => exact .behind .plus h
  | sub n => exact .behind .minus h
  | shiftRight n => exact .behind .shift h

theorem begins_noop : Begins (isChar 'N') Primitive.noop.text := ⟨'N', _, rfl, rfl⟩

theorem begins_constant {n : Int} (hn : OnBus w n) : Begins isHexDigit (constant n).text := hn.begins

theorem begins_subFrom {n : Int} (hn : OnBus w n) : Begins isHexDigit (subFrom n).text :=
  hn.begins.append " - INPUT"

theorem apart_minus (u : List Char) : Apart (" - INPUT".toList ++ u) :=
  (begins_space.append "- INPUT").apart u

/-- a number alone does not go on with a minus -/
theorem constant_tells_subFrom {n n' : Int} (hn : OnBus w n) (hn' : OnBus w' n') {p : Prop} :
    Tells (constant n).text (subFrom n').text Ends p := by
  have behind : Tells "" " - INPUT" Ends p := by
    intro u v hu _ e
    exact absurd ⟨_, e.symm⟩ hu.minus
  have both := (hn.tells hn').append behind (fun _ hu => hu.apart) fun u _ => apart_minus u
  have text : (constant n).text = toString n ++ "" := String.append_empty.symm
  rw [text]
  exact both.imp And.right

theorem tells {p p' : Primitive} (h : p.Fits w) (h' : p'.Fits w') :
    Tells p.text p'.text Ends (p = p') := by
  cases shape h with
  | noop =>
    cases shape h' with
    | noop => exact ((tells_same "NOOP").imp fun _ => rfl).weaken
    | constant hn' => exact (Tells.differ (begins_constant hn') begins_noop rfl).symm
    | subFrom hn' => exact (Tells.differ (begins_subFrom hn') begins_noop rfl).symm
    | behind k' hn' => exact .differ begins_noop (k'.begins _) rfl
  | constant hn =>
    cases shape h' with
    | noop => exact .differ (begins_constant hn) begins_noop rfl
    | constant hn' => exact ((hn.tells hn').imp (congrArg constant)).restrict fun _ hu => hu.apart
    | subFrom hn' => exact constant_tells_subFrom hn hn'
    | behind k' hn' => exact .differ (begins_constant hn) (k'.begins _) rfl
  | subFrom hn =>
    cases shape h' with
    | noop => exact .differ (begins_subFrom hn) begins_noop rfl
    | constant hn' => exact (constant_tells_subFrom hn' hn).symm
    | subFrom hn' =>
      exact (((hn.tells hn').before " - INPUT" apart_minus).imp (congrArg subFrom)).weaken
    | behind k' hn' => exact .differ (begins_subFrom hn) (k'.begins _) rfl
  | behind k hn =>
    cases shape h' with
    | noop => exact .differ (k.begins _) begins_noop rfl
    | constant hn' => exact (Tells.differ (begins_constant hn') (k.begins _) rfl).symm
    | subFrom hn' => exact (Tells.differ (begins_subFrom hn') (k.begins _) rfl).symm
    | behind k' hn' =>
      have both := (k.tells k').followed (hn.tells hn')
      rw [k.text_primitive, k'.text_primitive]
      refine (both.restrict fun _ hu => hu.apart).imp ?_
      rintro ⟨rfl, rfl⟩
      rfl

/-- what the text of a primitive begins with -/
def opens (c : Char) : Bool := isHexDigit c || isChar 'N' c || isChar 'I' c

theorem begins_text {p : Primitive} (h : p.Fits w) : Begins opens p.text := by
  cases shape h with
  | noop => exact begins_noop.or_right.or_left
  | constant hn => exact (begins_constant hn).or_left.or_left
  | subFrom hn => exact (begins_subFrom hn).or_left.or_left
  | behind k hn => exact (k.begins _).or_right

end Primitive

/-! ## bodies -/

variable {α : Type} [Alien α]

theorem Body.begins_sequence (first : Primitive) (rest : List Primitive) :
    Begins (isChar '[') (Body.sequence first rest : Body α).text :=
  (Begins.append ⟨'[', [], rfl, rfl⟩ _).append _

theorem Body.tells_sequence {first first' : Primitive} {rest rest' : List Primitive}
    (h : (Body.sequence first rest : Body α).Fits w)
    (h' : (Body.sequence first' rest' : Body α).Fits w') :
    Tells (Body.sequence first rest : Body α).text (Body.sequence first' rest' : Body α).text anyText
      (first :: rest = first' :: rest') := by
  have steps : ∀ p ∈ first :: rest, ∀ p' ∈ first' :: rest',
      Tells p.text p'.text Primitive.Ends (p = p') := fun p hp p' hp' =>
    Primitive.tells (List.forall_mem_cons.mpr h p hp) (List.forall_mem_cons.mpr h' p' hp')
  have semicolon : Begins (isChar ';') "; " := ⟨';', [' '], rfl, rfl⟩
  have inner := tells_intercalate (d := ']') semicolon rfl
    (fun _ hu => Primitive.ends_of_starts rfl (by decide) hu)
    (fun _ hu => Primitive.ends_of_starts rfl (by decide) hu) steps
  have closed := inner.before "]" fun u => ⟨']', u, rfl, rfl⟩
  rw [Body.text, Body.text, sequenceText, sequenceText, String.append_assoc, String.append_assoc]
  exact closed.lead "["

theorem Body.tells {b b' : Body α} (h : b.Fits w) (h' : b'.Fits w') :
    Tells b.text b'.text Primitive.Ends (b = b') := by
  cases b with
  | primitive p =>
    cases b' with
    | primitive p' => exact (Primitive.tells h h').imp (congrArg Body.primitive)
    | sequence first' rest' =>
      exact .differ (Primitive.begins_text h) (begins_sequence first' rest') rfl
    | alien node => exact h'.elim
  | sequence first rest =>
    cases b' with
    | primitive p' =>
      exact (Tells.differ (Primitive.begins_text h') (begins_sequence first rest) rfl).symm
    | sequence first' rest' =>
      refine (tells_sequence h h').weaken.imp fun same => ?_
      cases same
      rfl
    | alien node => exact h'.elim
  | alien node => exact h.elim

/-- what the text of a body begins with -/
def Body.opens (c : Char) : Bool := Primitive.opens c || isChar '[' c

theorem Body.begins_text {b : Body α} (h : b.Fits w) : Begins Body.opens b.text := by
  cases b with
  | primitive p => exact (Primitive.begins_text h).or_left
  | sequence first rest => exact (begins_sequence first rest).or_right
  | alien node => exact h.elim

/-! ## switches -/

theorem Case.tells {c c' : Case α} (h : c.Fits w) (h' : c'.Fits w') :
    Tells (c.text ++ ", ") (c'.text ++ ", ") anyText (c = c') := by
  have arrow : Begins notWordChar " -> " := ⟨' ', _, rfl, rfl⟩
  have comma : Begins (isChar ',') ", " := ⟨',', [' '], rfl, rfl⟩
  have both := (Guard.tells h.guard h'.guard).between " -> " arrow.apart (Body.tells h.body h'.body)
  have closed := both.before ", " fun u => Primitive.ends_of_starts rfl (by decide) (comma.starts u)
  refine closed.imp fun ⟨guard, body⟩ => ?_
  cases c
  cases guard
  cases body
  rfl

theorem Case.begins_text {c : Case α} (h : c.Fits w) : Begins opensGuard (c.text ++ ", ") :=
  (((Guard.begins_text h.guard).append _).append _).append _

theorem Translation.text_switch (first : Case α) (rest : List (Case α)) (default : Body α) :
    (Translation.switch first rest default).text = "switch \x7b " ++
      (joined ((first :: rest).map fun c => c.text ++ ", ") ++ ("-> " ++ default.text) ++ " \x7d") := by
  rw [Translation.text, switchText, intercalate_before, List.map_map, String.append_assoc]
  rfl

theorem Primitive.ends_brace (u : List Char) : Primitive.Ends (" \x7d".toList ++ u) := by
  have space : Begins notWordChar " \x7d" := ⟨' ', ['}'], rfl, rfl⟩
  refine ⟨space.apart u, ?_⟩
  rintro ⟨v, e⟩
  have second : '-' = '}' := (List.cons.inj (List.cons.inj e).2).1
  exact absurd second (by decide)

theorem Translation.tells_switch {first first' : Case α} {rest rest' : List (Case α)}
    {default default' : Body α} (h : (Translation.switch first rest default).Fits w)
    (h' : (Translation.switch first' rest' default').Fits w') :
    Tells (Translation.switch first rest default).text
      (Translation.switch first' rest' default').text anyText
      (first :: rest = first' :: rest' ∧ default = default') := by
  obtain ⟨hfirst, hrest, hdefault⟩ := h
  obtain ⟨hfirst', hrest', hdefault'⟩ := h'
  have fits := List.forall_mem_cons.mpr ⟨hfirst, hrest⟩
  have fits' := List.forall_mem_cons.mpr ⟨hfirst', hrest'⟩
  have arrow : Begins (isChar '-') "-> " := ⟨'-', _, rfl, rfl⟩
  have guarded := tells_joined (d := '-') rfl (fun _ _ => trivial) (fun _ _ => trivial)
    (fun c hc => Case.begins_text (fits c hc)) (fun c hc => Case.begins_text (fits' c hc))
    fun c hc c' hc' => Case.tells (fits c hc) (fits' c' hc')
  have arms := guarded.append ((Body.tells hdefault hdefault').lead "-> ")
    (fun u _ => (arrow.append default.text).starts u) fun u _ => (arrow.append default'.text).starts u
  rw [text_switch, text_switch]
  exact (arms.before " \x7d" Primitive.ends_brace).lead "switch \x7b "

theorem Translation.tells {t t' : Translation α} (h : t.Fits w) (h' : t'.Fits w') :
    Tells t.text t'.text Primitive.Ends (t = t') := by
  have begins (first : Case α) (rest : List (Case α)) (default : Body α) :
      Begins (isChar 's') (Translation.switch first rest default).text := by
    rw [text_switch]
    exact Begins.append ⟨'s', _, rfl, rfl⟩ _
  cases t with
  | body b =>
    cases t' with
    | body b' => exact (Body.tells h h').imp (congrArg Translation.body)
    | switch first' rest' default' =>
      exact .differ (Body.begins_text h) (begins first' rest' default') rfl
  | switch first rest default =>
    cases t' with
    | body b' => exact (Tells.differ (Body.begins_text h') (begins first rest default) rfl).symm
    | switch first' rest' default' =>
      refine (tells_switch h h').weaken.imp fun ⟨same, default⟩ => ?_
      cases same
      cases default
      rfl

end BankSwitch
