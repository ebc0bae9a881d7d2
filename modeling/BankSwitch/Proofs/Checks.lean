import BankSwitch.Document.Check

/-!
# What passes a check

A document passes a check if nothing is wrong with it, and each kind of check says what passes it: a
value of its kind, a name that is bound, a number within bounds, items and alternatives that pass in
turn.
-/

namespace BankSwitch

namespace Document

/-! ## what passes a check -/

theorem passes_of_worst? {c : Check} {d : Document} (h : worst? (c d) = none) : c.Passes d := by
  unfold Check.Passes
  cases hc : c d with
  | nil => rfl
  | cons v vs =>
    rw [hc] at h
    cases h

namespace Check

variable {d : Document}

theorem passes_kind {k : Kind} {more : List Check} (h : (kind k more).Passes d) :
    d.hasKind k = true ∧ ∀ c ∈ more, c.Passes d := by
  obtain ⟨own, rest⟩ := List.append_eq_nil_iff.mp (List.map_eq_nil_iff.mp h)
  constructor
  · split at own
    · next has => exact has
    · cases own
  · exact List.flatMap_eq_nil_iff.mp rest

theorem passes_property {name : String} {c : Check} {es : List (Document × Document)}
    (h : (property name c).Passes (.mapping es)) {v : Document} (hv : get? es name = some v) :
    c.Passes v := by
  have violations : (property name c) (.mapping es) =
      (c v).map fun w => { w with path := .key name :: w.path } := by
    unfold property
    dsimp only
    rw [hv]
  exact List.map_eq_nil_iff.mp (violations.symm.trans h)

theorem passes_required {name : String} {es : List (Document × Document)}
    (h : (required name).Passes (.mapping es)) : ∃ v, get? es name = some v := by
  unfold Passes required at h
  dsimp only at h
  split at h
  · next bound => exact Option.isSome_iff_exists.mp bound
  · cases h

theorem passes_items {c : Check} {ds : List Document} (h : (items c).Passes (.list ds)) :
    ∀ d ∈ ds, c.Passes d := by
  intro d hd
  obtain ⟨i, inside, rfl⟩ := List.getElem_of_mem hd
  have passed := List.flatMap_eq_nil_iff.mp h (ds[i], i)
    (List.mk_mem_zipIdx_iff_getElem?.mpr (by simp))
  exact List.map_eq_nil_iff.mp passed

theorem passes_anyOf {cs : List Check} (h : (anyOf cs).Passes d) : ∃ c ∈ cs, c.Passes d := by
  unfold Passes anyOf at h
  dsimp only at h
  split at h
  · next passed =>
    obtain ⟨outcome, among, empty⟩ := List.any_eq_true.mp passed
    obtain ⟨c, hc, rfl⟩ := List.mem_map.mp among
    exact ⟨c, hc, List.isEmpty_iff.mp empty⟩
  · cases h

theorem passes_oneOf {names : List String} (h : (oneOf names).Passes d) :
    ∃ s, d = .text s ∧ s ∈ names := by
  cases d with
  | text s =>
    unfold Passes oneOf at h
    dsimp only at h
    split at h
    · next listed => exact ⟨s, rfl, List.contains_iff_mem.mp listed⟩
    · cases h
  | _ => cases h

end Check

end Document

/-! ## numbers within bounds -/

namespace Binary64

variable {x : Binary64} {n k : Int}

theorem scaled_pos {num den : Nat} (h : 0 < den) (e : Int) : 0 < (scaled num den e).2 := by
  unfold scaled
  split
  · show 0 < den <<< e.toNat
    rw [Nat.shiftLeft_eq]
    exact Nat.mul_pos h (Nat.two_pow_pos _)
  · exact h

/-- a number that is an integer is that many times its denominator -/
theorem toInt?_eq {negative : Bool} {s : Nat} {e : Int}
    (h : (finite negative s e).toInt? = some n) :
    (if negative then -((ratio s e).1 : Int) else (ratio s e).1) = n * (ratio s e).2 := by
  unfold toInt? at h
  dsimp only at h
  split at h
  · next whole =>
    have parts := Nat.div_mul_cancel (Nat.dvd_of_mod_eq_zero whole)
    have casted : (((ratio s e).1 / (ratio s e).2 : Nat) : Int) * (ratio s e).2 = (ratio s e).1 := by
      exact_mod_cast parts
    cases negative with
    | true =>
      cases h
      simp only [if_true, Int.neg_mul, casted]
    | false =>
      cases h
      simp only [Bool.false_eq_true, if_false, casted]
  · cases h

theorem ltInt_iff (h : x.toInt? = some n) : x.ltInt k = true ↔ n < k := by
  cases x with
  | finite negative s e =>
    have pos : (0 : Int) < (ratio s e).2 := by exact_mod_cast scaled_pos Nat.one_pos (-e)
    unfold ltInt
    simp only [decide_eq_true_eq, toInt?_eq h]
    exact Int.mul_lt_mul_right pos
  | infinite negative => cases h
  | undefined => cases h

theorem gtInt_iff (h : x.toInt? = some n) : x.gtInt k = true ↔ k < n := by
  cases x with
  | finite negative s e =>
    have pos : (0 : Int) < (ratio s e).2 := by exact_mod_cast scaled_pos Nat.one_pos (-e)
    unfold gtInt
    simp only [decide_eq_true_eq, toInt?_eq h]
    exact Int.mul_lt_mul_right pos
  | infinite negative => cases h
  | undefined => cases h

end Binary64

namespace Document

/-- the document counts as an integer, with or without a point -/
inductive IsInteger : Document → Int → Prop
  | integer (n : Int) : IsInteger (.integer n) n
  | real {x : Binary64} {n : Int} (same : x.toInt? = some n) : IsInteger (.real x) n

variable {d : Document} {n k : Int}

theorem isInteger_of_hasKind (h : d.hasKind .integer = true) : ∃ n, d.IsInteger n := by
  cases d with
  | integer n => exact ⟨n, .integer n⟩
  | real x =>
    obtain ⟨n, same⟩ := Option.isSome_iff_exists.mp h
    exact ⟨n, .real same⟩
  | _ => cases h

namespace Check

theorem passes_minimum (h : (minimum k).Passes d) (hd : d.IsInteger n) : k ≤ n := by
  unfold Passes minimum at h
  refine Int.not_lt.mp fun below => ?_
  cases hd with
  | integer n =>
    simp only [below, decide_true, if_true] at h
    cases h
  | real same =>
    simp only [(Binary64.ltInt_iff same).mpr below, if_true] at h
    cases h

theorem passes_maximum (h : (maximum k).Passes d) (hd : d.IsInteger n) : n ≤ k := by
  unfold Passes maximum at h
  refine Int.not_lt.mp fun above => ?_
  cases hd with
  | integer n =>
    simp only [above, decide_true, if_true] at h
    cases h
  | real same =>
    simp only [(Binary64.gtInt_iff same).mpr above, if_true] at h
    cases h

end Check

end Document

end BankSwitch
