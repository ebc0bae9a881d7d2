/-!
# Readings

What a reader took off the front of a list: a value, and a rest.  The rest of a `Reading` is shorter
than the list and the rest of a `Trailing` is no longer, so that readers which call one another on
rests come to an end.  Readings are put together by `after`, `behind` and `cons`, which carry the
bounds along.
-/

namespace BankSwitch

/-- a value read off the front of `s`, at least one element long -/
structure Reading {τ : Type} (α : Type) (s : List τ) where
  value : α
  rest : List τ
  shorter : rest.length < s.length

/-- a value read off the front of `s`, possibly off nothing -/
structure Trailing {τ : Type} (α : Type) (s : List τ) where
  value : α
  rest : List τ
  le : rest.length ≤ s.length

variable {τ α β : Type} {s t : List τ}

namespace Trailing

/-- a value read off nothing -/
def nothing (a : α) (s : List τ) : Trailing α s := ⟨a, s, Nat.le_refl _⟩

/-- what is read off a shorter list, as a reading of the longer one -/
def after (q : Trailing α t) (h : t.length < s.length) : Reading α s :=
  ⟨q.value, q.rest, Nat.lt_of_le_of_lt q.le h⟩

end Trailing

namespace Reading

/-- a value read off the first element alone -/
def front (x : τ) (s : List τ) (a : α) : Reading α (x :: s) := ⟨a, s, Nat.lt_succ_self _⟩

def map (f : α → β) (r : Reading α s) : Reading β s := ⟨f r.value, r.rest, r.shorter⟩

/-- the same reading with one more element in front -/
def behind (x : τ) (r : Reading α s) : Reading α (x :: s) :=
  ⟨r.value, r.rest, Nat.lt_succ_of_lt r.shorter⟩

def trailing (r : Reading α s) : Trailing α s := ⟨r.value, r.rest, Nat.le_of_lt r.shorter⟩

/-- a value in front of those that were read behind it -/
def cons (r : Reading α s) (q : Trailing (List α) r.rest) : Trailing (List α) s :=
  ⟨r.value :: q.value, q.rest, Nat.le_of_lt (Nat.lt_of_le_of_lt q.le r.shorter)⟩

end Reading

theorem length_dropWhile_le (p : τ → Bool) (s : List τ) : (s.dropWhile p).length ≤ s.length :=
  (List.dropWhile_sublist p).length_le

end BankSwitch
