import BankSwitch.Proofs.CommandLine.Options

/-!
# The first reading

What is known of a command that words give, before any of them is read a second time: its settings and
its output are not empty, its style is one that may be asked for, and the output of `smt-constraints` is
not two dashes (`sound_of_once`).
-/

namespace BankSwitch

namespace Arguments

variable {κ : Type} {f : Form κ} {words : List String} {ss : List (Slot κ)}

/-! ## slots of words -/

/-- every option among the slots is one of the form -/
theorem options_of_slots (h : slots f words = some ss) {w : String} {o : Opt κ} {a : Attached}
    (mem : .option w o a ∈ ss) : o ∈ f.options := by
  induction words generalizing ss with
  | nil =>
    cases h
    cases mem
  | cons word words ih =>
    by_cases hw : word = "--"
    · rw [slots, if_pos hw] at h
      cases h
      obtain mem | mem := List.mem_cons.mp mem
      · cases mem
      · obtain ⟨_, -, same⟩ := List.mem_map.mp mem
        cases same
    · obtain ⟨s, r, hs, hr, rfl⟩ := cons_of_slots hw h
      obtain rfl | mem := List.mem_cons.mp mem
      · exact mem_of_classify hs
      · exact ih hr mem

/-- an operand in front of the mark for operands is no such mark -/
theorem ne_dashes_of_slots {front behind : List (Slot κ)} {w : String}
    (h : slots f words = some (front ++ .operand w :: .dashes :: behind)) : w ≠ "--" := by
  induction words generalizing front with
  | nil => cases front <;> cases h
  | cons word words ih =>
    by_cases hw : word = "--"
    · rw [slots, if_pos hw] at h
      cases front with
      | nil => cases h
      | cons s front =>
        have operands : words.map .operand = front ++ .operand w :: .dashes :: behind :=
          (List.cons.inj (Option.some.inj h)).2
        have mark : Slot.dashes ∈ words.map (Slot.operand (κ := κ)) := operands ▸ by simp
        obtain ⟨_, -, same⟩ := List.mem_map.mp mark
        cases same
    · obtain ⟨s, r, hs, hr, split⟩ := cons_of_slots hw h
      cases front with
      | nil =>
        cases split
        rintro rfl
        exact hw (word_of_classify hs).symm
      | cons s' front =>
        cases split
        exact ih hr

/-! ## two operands, the second of them optional -/

/-- the first operand takes the marks behind it, too -/
theorem takeWhile_of_take {s : List (Slot κ)} {n : Nat} (h : Arity.one.take s = some n) :
    0 < n ∧ (s.drop n).takeWhile Slot.isDashes = [] := by
  have behind (s : List (Slot κ)) :
      (s.drop (s.takeWhile Slot.isDashes).length).takeWhile Slot.isDashes = [] := by
    induction s with
    | nil => rfl
    | cons x s ih => cases x <;> first | rfl | exact ih
  unfold Arity.take at h
  dsimp only at h
  split at h
  · next w r operand =>
    cases h
    refine ⟨by omega, ?_⟩
    rw [Nat.add_assoc, ← List.drop_drop, operand, Nat.add_comm, List.drop_succ_cons]
    exact behind r
  · cases h

/-- what an optional operand finds is not two dashes -/
theorem takeOperands_optional_ne {k : κ} {s : List (Slot κ)} (first : s.takeWhile Slot.isDashes = [])
    (apart : ∀ w r, s = .operand w :: .dashes :: r → w ≠ "--") :
    ∃ values n, takeOperands [(k, .optional)] s = ([(k, values)], [], n) ∧ values ≠ ["--"] := by
  have nothing (h : Arity.optional.take s = some 0) :
      takeOperands [(k, .optional)] s = ([(k, [])], [], 0) := by
    unfold takeOperands
    rw [h]
    rfl
  have empty : ([] : List String) ≠ ["--"] := (List.cons_ne_nil "--" []).symm
  cases s with
  | nil => exact ⟨[], 0, nothing rfl, empty⟩
  | cons x r =>
    cases x with
    | dashes => cases first
    | option w o a => exact ⟨[], 0, nothing rfl, empty⟩
    | stranger w => exact ⟨[], 0, nothing rfl, empty⟩
    | operand w =>
      let n := 0 + 1 + (r.takeWhile Slot.isDashes).length
      have taken : takeOperands [(k, .optional)] (.operand w :: r) =
          ([(k, valuesOf (((Slot.operand w :: r).take n).map Slot.word))], [], n) := rfl
      refine ⟨_, _, taken, ?_⟩
      by_cases hw : w = "--"
      · -- no mark is behind it, and so it is the only word, and dropped
        have none : r.takeWhile Slot.isDashes = [] := by
          cases r with
          | nil => rfl
          | cons y r =>
            cases y with
            | dashes => exact absurd hw (apart w r rfl)
            | _ => rfl
        have one : n = 1 := congrArg (fun d => 0 + 1 + List.length d) none
        rw [one, hw]
        exact empty
      · have values : valuesOf (((Slot.operand w :: r).take n).map Slot.word) =
            w :: ((r.take (n - 1)).map Slot.word).erase "--" := by
          have count : n = (n - 1) + 1 := by omega
          rw [count, List.take_succ_cons, List.map_cons]
          exact List.erase_cons_tail (by simpa [Slot.word] using hw)
        rw [values]
        exact fun same => hw (List.cons.inj same).1

end Arguments

open Arguments

/-! ## the output of `smt-constraints` -/

/-- an option is a call for help -/
theorem help_of_option {os : List (Field × Arity)} {w : String} {o : Opt Field} {a : Attached}
    {r : List (Slot Field)} {found : Found} (ho : o ∈ constraintsForm.options)
    (h : readSlots constraintsForm os (.option w o a :: r) = ⟨found, false⟩) :
    firstExit found ≠ none := by
  obtain ⟨t, found', takes, -, rfl⟩ := readSlots_option ho h
  obtain ⟨e, he⟩ := List.exists_mem_of_ne_nil _ takes.some
  have help : e.1 = .help := List.mem_singleton.mp (takes.found e he)
  exact fun goesOn => (firstExit_eq_none.mp goesOn e (List.mem_append_left _ he)).1 help

/-- operands at the front are the file and the output, and nothing follows them -/
theorem found_of_front {words : List String} {found : Found} {x : Slot Field} {r : List (Slot Field)}
    (hx : x.isOption = false) (hss : slots constraintsForm words = some (x :: r))
    (hread : readSlots constraintsForm constraintsForm.operands (x :: r) = ⟨found, false⟩)
    (goesOn : firstExit found = none) :
    ∃ files outputs, found = [(.file, files), (.output, outputs)] ∧ outputs ≠ ["--"] := by
  cases count : Arity.one.take (x :: r) with
  | none =>
    have none : (takeOperands constraintsForm.operands (x :: r)).2.2 = 0 := by
      unfold constraintsForm takeOperands
      rw [count]
    cases (readSlots_refused hx none).symm.trans (congrArg Understood.isFaulty hread)
  | some n =>
    obtain ⟨pos, first⟩ := takeWhile_of_take count
    have apart (w : String) (behind : List (Slot Field))
        (split : (x :: r).drop n = .operand w :: .dashes :: behind) : w ≠ "--" := by
      rw [← List.take_append_drop n (x :: r), split] at hss
      exact ne_dashes_of_slots hss
    obtain ⟨outputs, m, optional, unmarked⟩ := takeOperands_optional_ne (k := Field.output) first apart
    have taken : ∃ files, takeOperands constraintsForm.operands (x :: r) =
        ([(.file, files), (.output, outputs)], [], (n + m - 1) + 1) := by
      have same : n + m - 1 + 1 = n + m := by omega
      unfold constraintsForm takeOperands
      rw [count]
      dsimp only
      rw [optional, same]
      exact ⟨_, rfl⟩
    obtain ⟨files, taken⟩ := taken
    obtain ⟨found', read, rfl⟩ := readSlots_taken hx taken hread
    obtain ⟨-, rfl⟩ | ⟨w, o, a, r', split⟩ := readSlots_over read
    · exact ⟨files, outputs, rfl, unmarked⟩
    · have mem : Slot.option w o a ∈ x :: r :=
        List.mem_cons_of_mem x (List.mem_of_mem_drop (split ▸ List.mem_cons_self))
      rw [split] at read
      exact absurd (firstExit_append.mp goesOn).2 (help_of_option (options_of_slots hss mem) read)

theorem output_of_read {words : List String} {found : Found}
    (h : readForm constraintsForm words = .ok found) : found.last? .output ≠ some "--" := by
  obtain ⟨ss, hss, hread, goesOn⟩ := readForm_eq_ok.mp h
  have front {x : Slot Field} {r : List (Slot Field)} (hx : x.isOption = false) (split : ss = x :: r) :
      found.last? .output ≠ some "--" := by
    subst split
    obtain ⟨files, outputs, rfl, unmarked⟩ := found_of_front hx hss hread goesOn
    intro last
    have only : some outputs = some ["--"] := (Found.last?_eq_some last).1
    exact unmarked (Option.some.inj only)
  cases ss with
  | nil =>
    rw [readSlots_nil] at hread
    cases congrArg Understood.isFaulty hread
  | cons x r =>
    cases x with
    | operand w => exact front rfl rfl
    | dashes => exact front rfl rfl
    | option w o a =>
      have mem := options_of_slots hss List.mem_cons_self
      exact absurd goesOn (help_of_option mem hread)
    | stranger w => cases readSlots_stranger.symm.trans (congrArg Understood.isFaulty hread)

/-! ## what a first reading finds -/

theorem given_last? (f : Found) (k : Field) : given (f.last? k) = f.last? k := by
  cases h : f.last? k with
  | none => rfl
  | some v => exact Option.filter_some_pos (decide_eq_true (Found.last?_eq_some h).2)

/-- a style that is asked for is one of those that may be -/
theorem style_of_found {found : Found} (goesOn : firstExit found = none) {v : String}
    (h : found.last? .style = some v) : v ∈ styleNames := by
  have mem : [v] ∈ found.all .style := List.mem_of_getLast? (Found.last?_eq_some h).1
  obtain ⟨e, he, same⟩ := List.mem_map.mp mem
  obtain ⟨he, key⟩ := List.mem_filter.mp he
  have listed := (firstExit_eq_none.mp goesOn e he).2 (of_decide_eq_true key)
  rw [same] at listed
  simpa using listed

/-- the style has a name to ask for it by -/
def Style.HasName (y : Style) : Prop := y.name ∈ styleNames ∧ Style.ofName y.name = y

instance (y : Style) : Decidable y.HasName := inferInstanceAs (Decidable (_ ∧ _))

theorem hasName_ofName : ∀ v ∈ styleNames, (Style.ofName v).HasName := by decide

/-- what is known of a task whose words were read -/
def Task.Sound : Task → Prop
  | .emit _ style _ => ∀ y ∈ style, y.HasName
  | .constraints _ output => given output = output ∧ output ≠ some "--"
  | _ => True

theorem sound_of_readTask {name : String} {rest : List String} {task : Task}
    (h : readTask name rest = .ok task) : task.Sound := by
  unfold readTask at h
  split at h
  · obtain ⟨f, -, h⟩ := bind_ok h
    cases h
    trivial
  split at h
  · obtain ⟨f, -, h⟩ := bind_ok h
    cases h
    trivial
  split at h
  · obtain ⟨f, -, h⟩ := bind_ok h
    cases h
    trivial
  split at h
  · obtain ⟨f, read, h⟩ := bind_ok h
    cases h
    obtain ⟨-, -, -, goesOn⟩ := readForm_eq_ok.mp read
    intro y hy
    obtain ⟨v, hv, rfl⟩ := Option.map_eq_some_iff.mp hy
    exact hasName_ofName v (style_of_found goesOn hv)
  split at h
  · obtain ⟨f, read, h⟩ := bind_ok h
    cases h
    exact ⟨given_last? f .output, output_of_read read⟩
  split at h
  · obtain ⟨f, -, h⟩ := bind_ok h
    cases h
    trivial
  · cases h

/-- what is known of a command that words give -/
structure Command.Sound (c : Command) : Prop where
  config : given c.config = c.config
  target : given c.target = c.target
  task : c.task.Sound

theorem sound_of_once {words : List String} {c : Command}
    (h : Command.once words = .ok (some c)) : c.Sound := by
  unfold Command.once at h
  dsimp only at h
  split at h
  · cases h
  · split at h
    · obtain ⟨task, read, h⟩ := bind_ok h
      split at h
      · cases h
      · cases h
        exact ⟨given_last? _ _, given_last? _ _, sound_of_readTask read⟩
    · split at h <;> cases h

end BankSwitch
