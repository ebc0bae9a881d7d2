import BankSwitch.Proofs.Lexing.Places

/-!
# Tokens on wider buses

The width decides which numbers fit and nothing else, so what is read on a bus stays what it is on a
wider one, and so does a spot at which no token starts or ends.
-/

namespace BankSwitch

variable {β γ : Type} {v v' : Measure}

/-- on one host, a number that fits the first width fits the second -/
structure Measure.Within (v v' : Measure) : Prop where
  limit : ∀ n, v.limit = .ok n → ∃ n', v'.limit = .ok n' ∧ n ≤ n'
  digits : v'.digits = v.digits

theorem Measure.within_whole {w w' : Nat} (h : w ≤ w') (digits : Option Nat) :
    Within (.whole w digits) (.whole w' digits) where
  limit n hn := by
    rw [limit_whole] at hn
    cases hn
    exact ⟨_, limit_whole w' digits, addressCount_le h⟩
  digits := rfl

/-- an error of the text itself, which no width makes good -/
def ReadError.Syntactic : ReadError → Prop
  | .lexical _ _ => True
  | .decimal _ => True
  | .grammar _ _ _ => True
  | _ => False

/-- the second run ends as the first, if the first finds something or an error of the text itself -/
structure Persists (m m' : Except ReadError β) : Prop where
  ok : ∀ b, m = .ok b → m' = .ok b
  error : ∀ e : ReadError, e.Syntactic → m = .error e → m' = .error e

namespace Persists

theorem refl (m : Except ReadError β) : Persists m m := ⟨fun _ h => h, fun _ _ h => h⟩

theorem bind {m m' : Except ReadError β} {k k' : β → Except ReadError γ} (h : Persists m m')
    (hk : ∀ b, m = .ok b → Persists (k b) (k' b)) : Persists (m >>= k) (m' >>= k') where
  ok c e := by
    obtain ⟨b, e₁, e₂⟩ := bind_ok e
    rw [h.ok b e₁]
    exact (hk b e₁).ok c e₂
  error f hf e := by
    obtain e₁ | ⟨b, e₁, e₂⟩ := bind_error e
    · rw [h.error f hf e₁]
      rfl
    · rw [h.ok b e₁]
      exact (hk b e₁).error f hf e₂

end Persists

namespace Token

variable {p : Position} {c : Char} {r : List Char}

theorem fits_persists (hv : v.Within v') (n : Nat) :
    Persists (finishNumber.fits v p n) (finishNumber.fits v' p n) where
  ok x h := by
    unfold finishNumber.fits at h ⊢
    split at h
    · cases h
    · next l hl =>
      obtain ⟨l', hl', hle⟩ := hv.limit l hl
      rw [hl']
      split at h
      · next hn =>
        dsimp only
        rw [if_pos (Nat.lt_of_lt_of_le hn hle)]
        exact h
      · cases h
  error f hf h := by
    unfold finishNumber.fits at h
    split at h
    · cases h
      exact hf.elim
    · split at h
      · cases h
      · cases h
        exact hf.elim

theorem finishNumber_persists (hv : v.Within v') (spelling : List Char) (n : Nat)
    (rest : List Char) :
    Persists (finishNumber v p spelling n rest) (finishNumber v' p spelling n rest) := by
  obtain hs | ⟨c, r, rfl, hc⟩ := stops_or_suffix rest
  · rw [finishNumber_of_stops hs, finishNumber_of_stops hs]
    exact fits_persists hv n
  · rw [finishNumber_of_suffix hc, finishNumber_of_suffix hc]
    exact .refl _

theorem hexNumber_persists (hv : v.Within v') (r : List Char) :
    Persists (hexNumber v p r) (hexNumber v' p r) := by
  unfold hexNumber
  split
  · split
    · exact .refl _
    · exact (finishNumber_persists hv _ _ _).bind fun _ _ => .refl _
  · exact .refl _

theorem lexemeAt_persists (hv : v.Within v') (c : Char) (r : List Char) :
    Persists (lexemeAt v p c r) (lexemeAt v' p c r) := by
  unfold lexemeAt
  rw [hv.digits]
  split
  · dsimp only
    split
    · exact .refl _
    · exact (finishNumber_persists hv _ _ _).bind fun _ _ => .refl _
  split
  · next h =>
    subst h
    exact hexNumber_persists hv r
  split
  · exact .refl _
  split
  · exact .refl _
  · exact .refl _

theorem tokensFrom_persists (hv : v.Within v') (p : Position) (s : List Char) :
    Persists (tokensFrom v p s) (tokensFrom v' p s) := by
  induction p, s using tokensFrom.induct with
  | case1 p =>
    rw [tokensFrom, tokensFrom]
    exact .refl _
  | case2 p c r hc ih =>
    rw [tokensFrom, if_pos hc, tokensFrom, if_pos hc]
    exact ih
  | case3 p c r hc ih =>
    rw [tokensFrom, if_neg hc, tokensFrom, if_neg hc]
    exact (lexemeAt_persists hv c r).bind fun q _ =>
      (ih q.value q.rest q.shorter).bind fun _ _ => .refl _

/-- no number is among the tokens of a text that is read under a width that measures none -/
theorem not_number_of_error {f : WidthError} (hv : v.limit = .error f) {text : String}
    {ts : List Token} (h : tokens v text = .ok ts) : ∀ t ∈ ts, ∀ n, t.terminal ≠ .number n := by
  intro t ht n
  obtain ⟨u, w, rfl⟩ := List.append_of_mem ht
  cases tokens_reached h with
  | @lexeme a r c q more reach taken ahead =>
    have spelled := (lexemeAt_spelled taken).2
    generalize q.value.lexeme = x at spelled
    cases spelled with
    | number numeral stops read bound small =>
      rw [hv] at bound
      cases bound
    | word | symbol => rintro ⟨⟩
  | atEnd reach => rintro ⟨⟩

end Token

end BankSwitch
