import BankSwitch.Proofs.CommandLine.Words
import BankSwitch.Proofs.Grammar.Terminal

/-!
# What a reading shows

Words that were read with nothing wrong, looked at backwards.  Each option was one of the form, with its
value with it or in the operand behind it; operands were taken where they stand, and behind the last of
them there was nothing left to take (`readSlots_option`, `readSlots_taken`, `readSlots_over`).
-/

namespace BankSwitch

namespace Arguments

variable {κ : Type} {f : Form κ} {os : List (κ × Arity)}

/-! ## options of a form -/

theorem mem_of_named {name : String} {o : Opt κ} (h : (name, o) ∈ f.named) : o ∈ f.options := by
  obtain ⟨o', ho', h⟩ := List.mem_flatMap.mp h
  obtain ⟨n, -, h⟩ := List.mem_map.mp h
  cases h
  exact ho'

theorem mem_of_find? {name : String} {o : Opt κ} (h : f.find? name = some o) : o ∈ f.options := by
  obtain ⟨⟨n, o'⟩, found, rfl⟩ := Option.map_eq_some_iff.mp h
  exact mem_of_named (List.mem_of_find?_eq_some found)

theorem mem_of_candidates {w : List Char} {o : Opt κ} {a : Attached}
    (h : (o, a) ∈ candidates f w) : o ∈ f.options := by
  unfold candidates at h
  split at h
  · obtain ⟨⟨n, o'⟩, found, h⟩ := List.mem_map.mp h
    cases h
    exact mem_of_named (List.mem_filter.mp found).1
  · obtain ⟨⟨n, o'⟩, found, h⟩ := List.mem_filterMap.mp h
    have same : o = o' := by
      split at h
      · cases h
        rfl
      · split at h <;> cases h
        rfl
    exact same ▸ mem_of_named found

/-- an option that stands for a word is one of the form -/
theorem mem_of_classify {word w : String} {o : Opt κ} {a : Attached}
    (h : classify f word = some (.option w o a)) : o ∈ f.options := by
  have part (h : classifyPartial f word = some (.option w o a)) : o ∈ f.options := by
    unfold classifyPartial at h
    split at h
    · next o' a' only =>
      cases h
      exact mem_of_candidates (only ▸ List.mem_singleton_self _)
    · split at h <;> cases h
    · cases h
  unfold classify at h
  split at h
  · split at h
    · next found =>
      cases h
      exact mem_of_find? found
    · split at h
      · exact part h
      · split at h
        · next found =>
          cases h
          exact mem_of_find? found
        · exact part h
  · cases h

/-! ## what an option takes -/

/-- an option has its value with it or takes the operand behind it, and finds options of the form -/
structure Takes (f : Form κ) (rest : List (Slot κ)) (t : Taken κ) : Prop where
  count : t.count = 0 ∨ t.count = 1 ∧ ∃ w r, rest = .operand w :: r
  some : t.found ≠ []
  found : ∀ e ∈ t.found, e.1 ∈ f.options.map Opt.key

section

variable {o : Opt κ} {rest : List (Slot κ)} {t : Taken κ}

theorem takes_of_takeBare (ho : o ∈ f.options) (h : takeBare o rest = some t) : Takes f rest t := by
  have key : o.key ∈ f.options.map Opt.key := List.mem_map_of_mem ho
  unfold takeBare at h
  split at h
  · split at h
    · cases h
      exact ⟨.inr ⟨rfl, _, _, rfl⟩, nofun, List.forall_mem_singleton.mpr key⟩
    · cases h
  · cases h
    exact ⟨.inl rfl, nofun, List.forall_mem_singleton.mpr key⟩

theorem takes_of_takeAssigned {value : List Char} (ho : o ∈ f.options)
    (h : takeAssigned o value = some t) : Takes f rest t := by
  unfold takeAssigned at h
  split at h
  · cases h
    exact ⟨.inl rfl, nofun, List.forall_mem_singleton.mpr (List.mem_map_of_mem ho)⟩
  · cases h

theorem takes_of_takeShort {letters : List Char} (ho : o ∈ f.options)
    (h : takeShort f rest o letters = some t) : Takes f rest t := by
  induction letters generalizing o t with
  | nil => exact takes_of_takeBare ho h
  | cons c cs ih =>
    have key : o.key ∈ f.options.map Opt.key := List.mem_map_of_mem ho
    unfold takeShort at h
    split at h
    · exact takes_of_takeAssigned ho h
    · split at h
      · cases h
      · split at h
        · cases h
          exact ⟨.inl rfl, nofun, List.forall_mem_singleton.mpr key⟩
        · next next found =>
          have behind {more : Taken κ} (taken : Takes f rest more) :
              Takes f rest { more with found := (o.key, []) :: more.found } := by
            refine ⟨taken.count, nofun, fun e he => ?_⟩
            obtain rfl | he := List.mem_cons.mp he
            · exact key
            · exact taken.found e he
          dsimp only at h
          split at h
          · obtain ⟨more, hmore, h⟩ := Option.bind_eq_some_iff.mp h
            cases h
            exact behind (takes_of_takeAssigned (mem_of_find? found) hmore)
          · obtain ⟨more, hmore, h⟩ := Option.bind_eq_some_iff.mp h
            cases h
            exact behind (ih (mem_of_find? found) hmore)

theorem takes_of_takeOption {a : Attached} (ho : o ∈ f.options)
    (h : takeOption f o a rest = some t) : Takes f rest t := by
  cases a with
  | nothing => exact takes_of_takeBare ho h
  | glued letters => exact takes_of_takeShort ho h
  | assigned value => exact takes_of_takeAssigned ho h

end

theorem readSlots_option {w : String} {o : Opt κ} {a : Attached} {r : List (Slot κ)}
    {found : List (κ × List String)} (ho : o ∈ f.options)
    (h : readSlots f os (.option w o a :: r) = ⟨found, false⟩) :
    ∃ t found', Takes f r t ∧ readSlots f os (r.drop t.count) = ⟨found', false⟩ ∧
      found = t.found ++ found' := by
  rw [readSlots] at h
  cases ht : takeOption f o a r with
  | none =>
    rw [ht] at h
    cases h
  | some t =>
    rw [ht] at h
    dsimp only at h
    split at h
    · cases congrArg Understood.isFaulty h
    · cases hu : readSlots f os (r.drop t.count) with
      | mk found' faulty =>
        rw [hu] at h
        cases h
        exact ⟨t, found', takes_of_takeOption ho ht, hu, rfl⟩

theorem readSlots_taken {x : Slot κ} (hx : x.isOption = false) {ss : List (Slot κ)}
    {taken found : List (κ × List String)} {left : List (κ × Arity)} {n : Nat}
    (ht : takeOperands os (x :: ss) = (taken, left, n + 1))
    (h : readSlots f os (x :: ss) = ⟨found, false⟩) :
    ∃ found', readSlots f left (ss.drop n) = ⟨found', false⟩ ∧ found = taken ++ found' := by
  rw [readSlots_front hx ht] at h
  cases hu : readSlots f left (ss.drop n) with
  | mk found' faulty =>
    rw [hu] at h
    cases h
    exact ⟨found', rfl, rfl⟩

/-- an operand that fits nowhere -/
theorem readSlots_refused {x : Slot κ} (hx : x.isOption = false) {ss : List (Slot κ)}
    (ht : (takeOperands os (x :: ss)).2.2 = 0) : (readSlots f os (x :: ss)).isFaulty = true := by
  have none : ¬ 0 < (takeOperands os (x :: ss)).2.2 := by omega
  rw [readSlots]
  · dsimp only
    rw [if_neg none]
    rfl
  · rintro _ rfl
    cases hx
  · rintro _ _ _ rfl
    cases hx

theorem readSlots_stranger {w : String} {r : List (Slot κ)} :
    (readSlots f os (.stranger w :: r)).isFaulty = true := by
  rw [readSlots]
  rfl

/-- where no operand is left to hand out, nothing follows or an option does -/
theorem readSlots_over {ss : List (Slot κ)} {found : List (κ × List String)}
    (h : readSlots f [] ss = ⟨found, false⟩) :
    ss = [] ∧ found = [] ∨ ∃ w o a r, ss = .option w o a :: r := by
  have refused {x : Slot κ} {r : List (Slot κ)} (hx : x.isOption = false)
      (h : readSlots f [] (x :: r) = ⟨found, false⟩) : False := by
    have faulty : (readSlots f [] (x :: r)).isFaulty = true := readSlots_refused hx rfl
    cases faulty.symm.trans (congrArg Understood.isFaulty h)
  cases ss with
  | nil =>
    rw [readSlots_nil] at h
    cases h
    exact .inl ⟨rfl, rfl⟩
  | cons x r =>
    cases x with
    | operand w => exact (refused rfl h).elim
    | dashes => exact (refused rfl h).elim
    | option w o a => exact .inr ⟨w, o, a, r, rfl⟩
    | stranger w => cases readSlots_stranger.symm.trans (congrArg Understood.isFaulty h)

/-! ## words and their slots -/

theorem classify_ne_dashes {word : String} (hw : word ≠ "--") : classify f word ≠ some .dashes :=
  fun h => hw (word_of_classify h).symm

/-- a word in front of others has its slot in front of theirs -/
theorem cons_of_slots {word : String} {words : List String} {ss : List (Slot κ)} (hw : word ≠ "--")
    (h : slots f (word :: words) = some ss) :
    ∃ s r, classify f word = some s ∧ slots f words = some r ∧ ss = s :: r := by
  rw [slots, if_neg hw] at h
  obtain ⟨s, hs, h⟩ := Option.bind_eq_some_iff.mp h
  obtain ⟨r, hr, h⟩ := Option.bind_eq_some_iff.mp h
  cases h
  exact ⟨s, r, hs, hr, rfl⟩

/-- if nothing is wrong with the words, an option with a value has its value behind it -/
theorem value_of_read {name : String} {o : Opt κ} {v : Option String} {words : List String}
    {ss : List (Slot κ)} (hne : name ≠ "--")
    (ho : classify f name = some (.option name o .nothing)) (takes : o.takesValue = true)
    (hss : slots f (valueWords name v ++ words) = some ss)
    (sound : (readSlots f os ss).isFaulty = false) :
    ∃ rest, slots f words = some rest ∧ ss = valueSlots name o v ++ rest := by
  cases v with
  | none => exact ⟨ss, hss, rfl⟩
  | some x =>
    obtain ⟨s, r, hs, hr, rfl⟩ := cons_of_slots hne hss
    cases hs.symm.trans ho
    have value : ∃ w r', r = .operand w :: r' := by
      rw [readSlots] at sound
      cases ht : takeOption f o .nothing r with
      | none =>
        rw [ht] at sound
        cases sound
      | some t =>
        unfold takeOption takeBare at ht
        dsimp only at ht
        rw [if_pos takes] at ht
        split at ht
        · exact ⟨_, _, rfl⟩
        · cases ht
    obtain ⟨w, r', rfl⟩ := value
    have hx : x ≠ "--" := by
      rintro rfl
      cases hr
    obtain ⟨s, rest, hs, hrest, h⟩ := cons_of_slots hx hr
    cases h
    have same : w = x := word_of_classify hs
    subst same
    exact ⟨r', hrest, rfl⟩

end Arguments

open Arguments

/-! ## what was found -/

namespace Found

variable {f g : Found} {k : Field}

/-- the value that was given last is not empty -/
theorem last?_eq_some {v : String} (h : f.last? k = some v) :
    (f.all k).getLast? = some [v] ∧ v ≠ "" := by
  unfold last? at h
  split at h
  · next last =>
    split at h
    · cases h
    · next full =>
      cases h
      exact ⟨last, full⟩
  · cases h

theorem last?_append (h : f.all k = []) : last? (f ++ g) k = g.last? k := by
  unfold last?
  rw [all_append, h, List.nil_append]

end Found

/-- what a form finds in words, if nothing is wrong with them and nothing ends the reading -/
theorem readForm_eq_ok {form : Form Field} {words : List String} {found : Found} :
    readForm form words = .ok found ↔ ∃ ss, slots form words = some ss ∧
      readSlots form form.operands ss = ⟨found, false⟩ ∧ firstExit found = none := by
  unfold readForm Form.read
  cases slots form words with
  | none =>
    constructor
    · rintro ⟨⟩
    · rintro ⟨_, ⟨⟩, _⟩
  | some ss =>
    dsimp only
    constructor
    · intro h
      split at h
      · cases h
      · next goesOn =>
        cases hu : readSlots form form.operands ss with
        | mk found' faulty =>
          rw [hu] at h goesOn
          cases faulty with
          | true => cases h
          | false =>
            cases h
            exact ⟨ss, rfl, hu, goesOn⟩
    · rintro ⟨_, ⟨⟩, h, goesOn⟩
      rw [h]
      dsimp only
      rw [goesOn]
      rfl

end BankSwitch
