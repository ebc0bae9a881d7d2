import BankSwitch.Source.Lexer

/-!
# Digits read back

Numbers are printed in base ten and in base sixteen.  Their digits are characters that no number may
stop before, and spell the number again.
-/

namespace BankSwitch

open CharClass

theorem digitValue?_digitChar {d : Nat} (h : d < 16) : digitValue? d.digitChar = some d := by
  have all : ∀ d < 16, digitValue? (Nat.digitChar d) = some d := by decide
  exact all d h

theorem isHexDigit_digitChar {d : Nat} (h : d < 16) : isHexDigit d.digitChar = true := by
  unfold isHexDigit
  rw [digitValue?_digitChar h]
  exact decide_eq_true h

theorem mem_toDigits {b n : Nat} (hb : 1 < b) {c : Char} (hc : c ∈ Nat.toDigits b n) :
    ∃ d, d < b ∧ c = d.digitChar := by
  induction n using Nat.base_induction b hb with
  | single m hm =>
    rw [Nat.toDigits_of_lt_base hm] at hc
    exact ⟨m, hm, List.mem_singleton.mp hc⟩
  | digit m k hk hm ih =>
    rw [← Nat.toDigits_append_toDigits hb hm hk, List.mem_append,
      Nat.toDigits_of_lt_base hk] at hc
    obtain hc | hc := hc
    · exact ih hc
    · exact ⟨k, hk, List.mem_singleton.mp hc⟩

theorem isHexDigit_of_mem_toDigits {b n : Nat} (hb : 1 < b) (hb' : b ≤ 16) {c : Char}
    (hc : c ∈ Nat.toDigits b n) : isHexDigit c = true := by
  obtain ⟨d, hd, rfl⟩ := mem_toDigits hb hc
  exact isHexDigit_digitChar (Nat.lt_of_lt_of_le hd hb')

/-- only zero is spelled with a zero in front -/
theorem eq_zero_of_toDigits {b n : Nat} (hb : 1 < b) (hb' : b ≤ 16) {r : List Char}
    (h : Nat.toDigits b n = '0' :: r) : n = 0 := by
  induction n using Nat.base_induction b hb generalizing r with
  | single m hm =>
    rw [Nat.toDigits_of_lt_base hm] at h
    have all : ∀ d < 16, Nat.digitChar d = '0' → d = 0 := by decide
    exact all m (Nat.lt_of_lt_of_le hm hb') (List.cons.inj h).1
  | digit m k hk hm ih =>
    rw [← Nat.toDigits_append_toDigits hb hm hk] at h
    cases hd : Nat.toDigits b m with
    | nil => exact absurd hd Nat.toDigits_ne_nil
    | cons d ds =>
      rw [hd] at h ih
      obtain ⟨rfl, -⟩ := List.cons.inj h
      exact absurd (ih rfl) (Nat.ne_of_gt hm)

theorem digitsValue_append (b : Nat) (ds es : List Char) :
    digitsValue b (ds ++ es) =
      es.foldl (fun n d => b * n + (digitValue? d).getD 0) (digitsValue b ds) :=
  List.foldl_append

theorem digitsValue_toDigits {b : Nat} (hb : 1 < b) (hb' : b ≤ 16) (n : Nat) :
    digitsValue b (Nat.toDigits b n) = n := by
  induction n using Nat.base_induction b hb with
  | single m hm =>
    rw [Nat.toDigits_of_lt_base hm]
    unfold digitsValue
    rw [List.foldl_cons, digitValue?_digitChar (Nat.lt_of_lt_of_le hm hb')]
    exact Nat.zero_add m
  | digit m k hk hm ih =>
    rw [← Nat.toDigits_append_toDigits hb hm hk, digitsValue_append, ih,
      Nat.toDigits_of_lt_base hk, List.foldl_cons,
      digitValue?_digitChar (Nat.lt_of_lt_of_le hk hb')]
    rfl

end BankSwitch
