import BankSwitch.Description.Text
import BankSwitch.Proofs.Describing.Telling

/-!
# Described layouts

A range ends at its bracket, and of several ranges the list begins with two brackets, so the text of a
layout shows its ranges and where it ends, whatever stands behind it (`Partition.tells`).
-/

namespace BankSwitch

/-! ## ranges -/

/-- what stands behind the bounds of a range -/
def Range.strideText : Option Nat → String
  | none => "]"
  | some k => ":" ++ (toString k ++ "]")

theorem Range.text_eq (r : Range) :
    r.text = "[" ++ (hexText r.start ++ ":" ++ hexText r.stop ++ strideText r.stride) := by
  unfold Range.text
  cases r.stride with
  | none =>
    show "[" ++ hexText r.start ++ ":" ++ hexText r.stop ++ "]" = _
    simp only [strideText, String.append_assoc]
  | some k =>
    show "[" ++ hexText r.start ++ ":" ++ hexText r.stop ++ ":" ++ toString k ++ "]" = _
    simp only [strideText, String.append_assoc]

theorem Range.begins_none : Begins (isChar ']') (strideText none) := ⟨']', [], rfl, rfl⟩

theorem Range.begins_some (k : Nat) : Begins (isChar ':') (strideText (some k)) :=
  Begins.append ⟨':', [], rfl, rfl⟩ _

theorem Range.apart_strideText (k : Option Nat) (u : List Char) :
    Apart ((strideText k).toList ++ u) := by
  cases k with
  | none => exact begins_rightBracket.apart u
  | some k => exact (begins_colon.append _).apart u

theorem Range.strideText_tells (k k' : Option Nat) :
    Tells (strideText k) (strideText k') anyText (k = k') := by
  cases k with
  | none =>
    cases k' with
    | none => exact (tells_same "]").imp fun _ => rfl
    | some n' => exact .differ begins_none (begins_some n') rfl
  | some n =>
    cases k' with
    | none => exact .differ (begins_some n) begins_none rfl
    | some n' =>
      have number := (tells_nat n n').before "]" begins_rightBracket.apart
      exact (number.lead ":").imp (congrArg some)

theorem Range.tells (r r' : Range) : Tells r.text r'.text anyText (r = r') := by
  rw [Range.text_eq, Range.text_eq]
  have bounds := (tells_hex r.start r'.start).between ":" begins_colon.apart
    (tells_hex r.stop r'.stop)
  have parts := bounds.append (strideText_tells r.stride r'.stride)
    (fun u _ => apart_strideText r.stride u) fun u _ => apart_strideText r'.stride u
  refine (parts.lead "[").imp ?_
  rintro ⟨⟨start, stop⟩, stride⟩
  cases r
  cases r'
  cases start
  cases stop
  cases stride
  rfl

/-! ## partitions -/

/-- the text of one range goes on with a number -/
theorem Range.text_opening (r : Range) : ∃ t, r.text = "[" ++ t ∧ Begins (isChar '0') t := by
  refine ⟨_, r.text_eq, ?_⟩
  rw [hexText_natCast]
  exact Begins.append (Begins.append (Begins.append (Begins.append ⟨'0', _, rfl, rfl⟩ _) _) _) _

theorem Range.begins_text (r : Range) : Begins (isChar '[') r.text := by
  rw [Range.text_eq]
  exact Begins.append ⟨'[', [], rfl, rfl⟩ _

/-- several ranges between brackets -/
def Range.listText (rs : List Range) : String := " ".intercalate (rs.map Range.text) ++ "]"

theorem Range.begins_listText (r : Range) (rs : List Range) :
    Begins (isChar '[') (listText (r :: rs)) := by
  unfold listText
  rw [List.map_cons, intercalate_behind]
  exact (r.begins_text.append _).append _

theorem Range.listText_tells (r r' : Range) (rs rs' : List Range) :
    Tells (listText (r :: rs)) (listText (r' :: rs')) anyText (r :: rs = r' :: rs') := by
  have each : ∀ z ∈ r :: rs, ∀ z' ∈ r' :: rs',
      Tells z.text z'.text anyText (z = z') := fun z _ z' _ => z.tells z'
  have space : Begins (isChar ' ') " " := ⟨' ', [], rfl, rfl⟩
  have inner := tells_intercalate (d := ']') space rfl (fun _ _ => trivial) (fun _ _ => trivial)
    each
  exact inner.before "]" fun u => ⟨']', u, rfl, rfl⟩

theorem Partition.tells (p p' : Partition) : Tells p.text p'.text anyText (p = p') := by
  obtain ⟨rs, hrs⟩ := p
  obtain ⟨rs', hrs'⟩ := p'
  match rs, rs' with
  | [], _ => exact absurd rfl hrs
  | _, [] => exact absurd rfl hrs'
  | [r], [r'] => exact (r.tells r').imp fun same => by cases same; rfl
  | [r], r' :: x' :: xs' =>
    obtain ⟨t, text, number⟩ := r.text_opening
    show Tells r.text ("[" ++ _ ++ "]") anyText _
    rw [text, String.append_assoc]
    exact .lead "[" (.differ number (r'.begins_listText (x' :: xs')) rfl)
  | r :: x :: xs, [r'] =>
    obtain ⟨t, text, number⟩ := r'.text_opening
    show Tells ("[" ++ _ ++ "]") r'.text anyText _
    rw [text, String.append_assoc]
    exact .lead "[" (.differ (r.begins_listText (x :: xs)) number rfl)
  | r :: x :: xs, r' :: x' :: xs' =>
    show Tells ("[" ++ _ ++ "]") ("[" ++ _ ++ "]") anyText _
    rw [String.append_assoc, String.append_assoc]
    refine (Tells.lead "[" (Range.listText_tells r r' (x :: xs) (x' :: xs'))).imp fun same => ?_
    cases same
    rfl

end BankSwitch
