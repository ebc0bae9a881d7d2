import BankSwitch.Proofs.Grammar.Terminal

/-!
# Text put together from pieces

What a text lexes to can be told piece by piece, as long as no piece runs into the next.
`Adds lexes follow t z` says that `t` puts `z` in front of what any text lexes to whose first
character `follow` admits; pieces go together if each admits the first character of the next
(`Adds.append`).
-/

namespace BankSwitch

variable {τ : Type} {lexes : List Char → List τ → Prop} {follow follow' : Char → Bool}
  {t u : String} {y z : List τ}

/-! ## pieces -/

def anyChar (_ : Char) : Bool := true

/-- the text puts `z` in front of what is lexed from text that begins with an admitted character -/
def Adds (lexes : List Char → List τ → Prop) (follow : Char → Bool) (t : String) (z : List τ) :
    Prop :=
  ∀ (s : List Char) (y : List τ), (∀ c ∈ s.head?, follow c = true) → lexes s y →
    lexes (t.toList ++ s) (z ++ y)

/-- the text is not empty and begins with an admitted character -/
def Begins (follow : Char → Bool) (t : String) : Prop :=
  ∃ c r, t.toList = c :: r ∧ follow c = true

/-- the text is empty or begins with an admitted character -/
def Admits (follow : Char → Bool) (t : String) : Prop := ∀ c ∈ t.toList.head?, follow c = true

theorem Begins.admits (h : Begins follow t) : Admits follow t := by
  obtain ⟨c, r, ht, hc⟩ := h
  unfold Admits
  rw [ht]
  intro c' hc'
  cases hc'
  exact hc

theorem admits_anyChar (t : String) : Admits anyChar t := fun _ _ => rfl

theorem admits_empty : Admits follow "" := by rintro c ⟨⟩

theorem Admits.append (ht : Admits follow t) (hu : Admits follow u) : Admits follow (t ++ u) := by
  unfold Admits at ht ⊢
  rw [String.toList_append]
  cases h : t.toList with
  | nil => exact hu
  | cons c r =>
    rw [h] at ht
    exact ht

theorem Adds.append_admits (ht : Adds lexes follow t z) (hu : Adds lexes follow u y)
    (ha : Admits follow u) : Adds lexes follow (t ++ u) (z ++ y) := by
  intro s x hs h
  rw [String.toList_append, List.append_assoc, List.append_assoc]
  refine ht _ _ ?_ (hu s x hs h)
  unfold Admits at ha
  cases hl : u.toList with
  | nil => exact hs
  | cons c r =>
    rw [hl] at ha
    exact ha

theorem Begins.append (h : Begins follow t) (u : String) : Begins follow (t ++ u) := by
  obtain ⟨c, r, ht, hc⟩ := h
  exact ⟨c, r ++ u.toList, by rw [String.toList_append, ht]; rfl, hc⟩

theorem Adds.append (ht : Adds lexes follow t z) (hu : Adds lexes follow' u y)
    (hb : Begins follow u) : Adds lexes follow' (t ++ u) (z ++ y) := by
  intro s x hs h
  rw [String.toList_append, List.append_assoc, List.append_assoc]
  refine ht _ _ ?_ (hu s x hs h)
  obtain ⟨c, r, hr, hc⟩ := hb
  rw [hr]
  intro c' hc'
  cases hc'
  exact hc

/-- text that anything may follow -/
theorem Adds.lead (ht : Adds lexes anyChar t z) (hu : Adds lexes follow u y) :
    Adds lexes follow (t ++ u) (z ++ y) := by
  intro s x hs h
  rw [String.toList_append, List.append_assoc, List.append_assoc]
  exact ht _ _ (fun _ _ => rfl) (hu s x hs h)

theorem Adds.weaken (h : Adds lexes anyChar t z) : Adds lexes follow t z :=
  fun s y _ => h s y fun _ _ => rfl

theorem adds_empty : Adds lexes follow "" [] := fun _ _ _ h => h

/-! ## lists of texts -/

/-- texts one behind the other -/
def joined (ts : List String) : String := ts.foldr (· ++ ·) ""

theorem intercalate_behind (sep t : String) (ts : List String) :
    sep.intercalate (t :: ts) = t ++ joined (ts.map (sep ++ ·)) := by
  induction ts generalizing t with
  | nil => rw [String.intercalate_singleton]; exact (String.append_empty).symm
  | cons u ts ih =>
    rw [String.intercalate_cons_cons, ih, String.append_assoc]
    exact congrArg (t ++ ·) String.append_assoc.symm

theorem intercalate_before (sep : String) (ts : List String) (t : String) :
    sep.intercalate (ts ++ [t]) = joined (ts.map (· ++ sep)) ++ t := by
  induction ts with
  | nil => exact String.intercalate_singleton.trans (String.empty_append).symm
  | cons u ts ih =>
    rw [List.cons_append, String.intercalate_cons_of_ne_nil (by simp), ih, ← String.append_assoc]
    rfl

/-- if some element cannot be printed, neither can the list, for the reason of one of them -/
theorem mapM_error {β γ ε : Type} {f : β → Except ε γ} {P : β → ε → Prop} {bs : List β}
    (h : ∀ b ∈ bs, (∃ t, f b = .ok t) ∨ ∃ e, f b = .error e ∧ P b e)
    (hex : ∃ b ∈ bs, ∃ e, f b = .error e) : ∃ b ∈ bs, ∃ e, bs.mapM f = .error e ∧ P b e := by
  induction bs with
  | nil =>
    obtain ⟨b, hb, -⟩ := hex
    cases hb
  | cons b bs ih =>
    obtain ⟨t, ht⟩ | ⟨e, he, hp⟩ := h b List.mem_cons_self
    · obtain ⟨b', hb', e', he'⟩ := hex
      have rest : ∃ b ∈ bs, ∃ e, f b = .error e := by
        obtain rfl | hb' := List.mem_cons.mp hb'
        · rw [ht] at he'
          cases he'
        · exact ⟨b', hb', e', he'⟩
      obtain ⟨b₁, hb₁, e₁, he₁, hp₁⟩ := ih (fun b hb => h b (List.mem_cons_of_mem _ hb)) rest
      refine ⟨b₁, List.mem_cons_of_mem b hb₁, e₁, ?_, hp₁⟩
      rw [List.mapM_cons, ht, ok_bind, he₁]
      rfl
    · refine ⟨b, List.mem_cons_self, e, ?_, hp⟩
      rw [List.mapM_cons, he]
      rfl

end BankSwitch
