import BankSwitch.Proofs.Congruence

/-!
# What evaluation takes from names

Guards read the names that they compare, in an order that stops as soon as the outcome is settled; the
primitives of a body read none.  So what a host binds chooses the case of a switch and does nothing else.

* `Guard.eval_of_names`, `Translation.eval_of_names`   only the names that are compared count;
* `Guard.eval_extends`, `Translation.eval_extends`   a value stays when more names are bound;
* `Guard.misses`, `Translation.misses`   a name that evaluation asks for in vain is one of those that
  are compared, and is not bound;
* `Translation.eval_chooses`   the first case with a true guard, or the default, gives the body.
-/

namespace BankSwitch

variable {α β γ : Type} {w : Nat}

/-! ## the names that are compared -/

mutual
/-- the names that a guard compares, the address's among them -/
def Guard.names : Guard α → List String
  | .compare c => [c.operand]
  | .negation g => g.names
  | .chain c => c.names
  | .alien _ => []

def Chain.names : Chain α → List String
  | .pair a _ b => a.names ++ b.names
  | .snoc c _ b => c.names ++ b.names
end

def Translation.names : Translation α → List String
  | .body _ => []
  | .switch first rest _ => (first :: rest).flatMap fun c => c.guard.names

theorem Translation.names_of_case {first : Case α} {rest : List (Case α)} {default : Body α}
    {c : Case α} (hc : c ∈ first :: rest) :
    c.guard.names ⊆ (Translation.switch first rest default).names :=
  fun _ hn => List.mem_flatMap.mpr ⟨c, hc, hn⟩

/-! ## only these names count -/

variable {inputs inputs' : Inputs}

mutual
theorem Guard.eval_of_names : ∀ g : Guard α, (∀ name ∈ g.names, inputs name = inputs' name) →
    g.eval inputs = g.eval inputs'
  | .compare c, h => by
    show c.eval inputs = c.eval inputs'
    unfold Comparison.eval
    rw [h c.operand (List.mem_singleton.mpr rfl)]
  | .negation g, h => by
    rw [Guard.eval, Guard.eval, Guard.eval_of_names g h]
  | .chain c, h => by
    rw [Guard.eval, Guard.eval, Chain.eval_of_names c h]
  | .alien _, _ => rfl

theorem Chain.eval_of_names : ∀ c : Chain α, (∀ name ∈ c.names, inputs name = inputs' name) →
    c.eval inputs = c.eval inputs'
  | .pair a _ b, h => by
    rw [Chain.eval, Chain.eval, Guard.eval_of_names a fun n hn => h n (List.mem_append_left _ hn),
      Guard.eval_of_names b fun n hn => h n (List.mem_append_right _ hn)]
  | .snoc c _ b, h => by
    rw [Chain.eval, Chain.eval, Chain.eval_of_names c fun n hn => h n (List.mem_append_left _ hn),
      Guard.eval_of_names b fun n hn => h n (List.mem_append_right _ hn)]
end

theorem firstTrue_of_names {cs : List (Case α)}
    (h : ∀ c ∈ cs, ∀ name ∈ c.guard.names, inputs name = inputs' name) (i : Nat) :
    firstTrue inputs i cs = firstTrue inputs' i cs := by
  induction cs generalizing i with
  | nil => rfl
  | cons c cs ih =>
    rw [firstTrue, firstTrue, c.guard.eval_of_names (h c List.mem_cons_self),
      ih fun d hd => h d (List.mem_cons_of_mem c hd)]

/-- the same of these names are bound, to congruent values -/
def Inputs.CongruentOn (w : Nat) (names : List String) (inputs inputs' : Inputs) : Prop :=
  ∀ name ∈ names, Option.Rel (· ≡ · [ZMOD addressCount w]) (inputs name) (inputs' name)

/-- under a name that is bound alike up to residues, or not at all, guards see the same -/
theorem guardInputs_of_name {name : String}
    (h : Option.Rel (· ≡ · [ZMOD addressCount w]) (inputs name) (inputs' name)) (v : Int) :
    guardInputs w v inputs name = guardInputs w v inputs' name := by
  unfold guardInputs
  generalize inputs name = value, inputs' name = value' at h
  cases h with
  | none => rfl
  | some same =>
    show some (wrap w _ : Int) = some (wrap w _ : Int)
    rw [wrap_congr same]

theorem Translation.eval_of_names {t : Translation α} (h : inputs.CongruentOn w t.names inputs')
    (v : Int) : t.eval w v inputs = t.eval w v inputs' := by
  cases t with
  | body b => rfl
  | switch first rest default =>
    have seen : ∀ c ∈ first :: rest, ∀ name ∈ c.guard.names,
        guardInputs w v inputs name = guardInputs w v inputs' name := by
      intro c hc name hn
      exact guardInputs_of_name (h name (names_of_case hc hn)) v
    unfold Translation.eval choose
    dsimp only
    rw [firstTrue_of_names seen]

/-! ## more names -/

/-- the second inputs bind all names that the first do, to the same values -/
def Inputs.Extends (inputs more : Inputs) : Prop :=
  ∀ name v, inputs name = some v → more name = some v

/-- a value of the first run is one of the second -/
def Stays (m m' : Except (EvalError α) β) : Prop := ∀ b, m = .ok b → m' = .ok b

theorem Stays.refl (m : Except (EvalError α) β) : Stays m m := fun _ h => h

theorem Stays.bind {m m' : Except (EvalError α) β} {k k' : β → Except (EvalError α) γ}
    (h : Stays m m') (hk : ∀ b, Stays (k b) (k' b)) : Stays (m >>= k) (m' >>= k') := by
  intro c hc
  obtain ⟨b, hb, hc⟩ := bind_ok hc
  rw [h b hb]
  exact hk b c hc

theorem Connective.stays_join (k : Connective) {left left' right right' : Except (EvalError α) Bool}
    (hl : Stays left left') (hr : Stays right right') :
    Stays (do let l ← left; if k.settles l then return l else right)
      (do let l ← left'; if k.settles l then return l else right') := by
  apply hl.bind
  intro l
  split
  · exact .refl _
  · exact hr

variable {inputs more : Inputs}

theorem Comparison.eval_extends (ext : inputs.Extends more) (c : Comparison) :
    Stays (c.eval inputs : Except (EvalError α) Bool) (c.eval more) := by
  unfold Comparison.eval
  cases h : inputs c.operand with
  | none => rintro b ⟨⟩
  | some v =>
    rw [ext _ v h]
    exact .refl _

mutual
theorem Guard.eval_extends (ext : inputs.Extends more) :
    ∀ g : Guard α, Stays (g.eval inputs) (g.eval more)
  | .compare c => c.eval_extends ext
  | .negation g => by
    rw [Guard.eval, Guard.eval]
    exact (Guard.eval_extends ext g).bind fun _ => .refl _
  | .chain c => by
    rw [Guard.eval, Guard.eval]
    exact Chain.eval_extends ext c
  | .alien _ => .refl _

theorem Chain.eval_extends (ext : inputs.Extends more) :
    ∀ c : Chain α, Stays (c.eval inputs) (c.eval more)
  | .pair a k b => by
    rw [Chain.eval, Chain.eval]
    exact k.stays_join (Guard.eval_extends ext a) (Guard.eval_extends ext b)
  | .snoc c k b => by
    rw [Chain.eval, Chain.eval]
    exact k.stays_join (Chain.eval_extends ext c) (Guard.eval_extends ext b)
end

theorem firstTrue_extends (ext : inputs.Extends more) (cs : List (Case α)) (i : Nat) :
    Stays (firstTrue inputs i cs) (firstTrue more i cs) := by
  induction cs generalizing i with
  | nil => exact .refl _
  | cons c cs ih =>
    rw [firstTrue, firstTrue]
    apply (c.guard.eval_extends ext).bind
    intro holds
    cases holds with
    | true => exact .refl _
    | false => exact ih (i + 1)

/-- guards see what they saw, unless the host now binds the address -/
theorem guardInputs_extends (ext : inputs.Extends more)
    (address : more addressName = inputs addressName) (v : Int) :
    (guardInputs w v inputs).Extends (guardInputs w v more) := by
  intro name x hx
  unfold guardInputs at hx ⊢
  cases h : inputs name with
  | some y =>
    rw [ext name y h]
    rw [h] at hx
    exact hx
  | none =>
    rw [h] at hx
    by_cases here : name = addressName
    · subst here
      rw [address, h]
      exact hx
    · rw [if_neg here] at hx
      cases hx

theorem Translation.eval_extends (ext : inputs.Extends more)
    (address : more addressName = inputs addressName) (v : Int) (t : Translation α) :
    Stays (t.eval w v inputs) (t.eval w v more) := by
  cases t with
  | body b => exact .refl _
  | switch first rest default =>
    unfold Translation.eval choose
    dsimp only
    apply Stays.bind
    · exact (firstTrue_extends (guardInputs_extends ext address v) _ _).bind fun _ => .refl _
    · exact fun _ => .refl _

/-! ## names that are not bound -/

/-- a name that the run asks for in vain is one of these, and is not bound -/
def Misses (names : List String) (inputs : Inputs) (m : Except (EvalError α) β) : Prop :=
  ∀ name, m = .error (.missingInput name) → name ∈ names ∧ inputs name = none

theorem Misses.mono {names names' : List String} {inputs : Inputs} {m : Except (EvalError α) β}
    (h : Misses names inputs m) (sub : names ⊆ names') : Misses names' inputs m :=
  fun name he => ⟨sub (h name he).1, (h name he).2⟩

theorem Misses.ok (names : List String) (inputs : Inputs) (b : β) :
    Misses names inputs (.ok b : Except (EvalError α) β) := by
  rintro name ⟨⟩

theorem Misses.bind {names : List String} {inputs : Inputs} {m : Except (EvalError α) β}
    {k : β → Except (EvalError α) γ} (h : Misses names inputs m)
    (hk : ∀ b, Misses names inputs (k b)) : Misses names inputs (m >>= k) := by
  intro name he
  obtain he | ⟨b, -, he⟩ := bind_error he
  · exact h name he
  · exact hk b name he

variable {names : List String}

theorem Connective.misses_join (k : Connective) {left right : Except (EvalError α) Bool}
    (hl : Misses names inputs left) (hr : Misses names inputs right) :
    Misses names inputs (do let l ← left; if k.settles l then return l else right) := by
  apply hl.bind
  intro l
  split
  · exact .ok names inputs l
  · exact hr

theorem Comparison.misses (c : Comparison) :
    Misses [c.operand] inputs (c.eval inputs : Except (EvalError α) Bool) := by
  unfold Comparison.eval
  cases h : inputs c.operand with
  | none =>
    rintro name ⟨⟩
    exact ⟨List.mem_singleton.mpr rfl, h⟩
  | some v =>
    cases c.side with
    | left => exact .ok _ _ _
    | right => exact .ok _ _ _

mutual
theorem Guard.misses : ∀ g : Guard α, Misses g.names inputs (g.eval inputs)
  | .compare c => c.misses
  | .negation g => by
    rw [Guard.eval, Guard.names]
    exact (Guard.misses g).bind fun b => .ok _ _ _
  | .chain c => by
    rw [Guard.eval, Guard.names]
    exact Chain.misses c
  | .alien _ => by rintro name ⟨⟩

theorem Chain.misses : ∀ c : Chain α, Misses c.names inputs (c.eval inputs)
  | .pair a k b => by
    rw [Chain.eval, Chain.names]
    exact k.misses_join ((Guard.misses a).mono (List.subset_append_left _ _))
      ((Guard.misses b).mono (List.subset_append_right _ _))
  | .snoc c k b => by
    rw [Chain.eval, Chain.names]
    exact k.misses_join ((Chain.misses c).mono (List.subset_append_left _ _))
      ((Guard.misses b).mono (List.subset_append_right _ _))
end

theorem firstTrue_misses {cs : List (Case α)} (h : ∀ c ∈ cs, c.guard.names ⊆ names) (i : Nat) :
    Misses names inputs (firstTrue inputs i cs) := by
  induction cs generalizing i with
  | nil => exact .ok _ _ _
  | cons c cs ih =>
    rw [firstTrue]
    apply (c.guard.misses.mono (h c List.mem_cons_self)).bind
    intro holds
    cases holds with
    | true => exact .ok _ _ _
    | false => exact ih (fun d hd => h d (List.mem_cons_of_mem c hd)) (i + 1)

theorem Primitive.misses (names : List String) (inputs : Inputs) (v : Int) (p : Primitive) :
    Misses names inputs (p.apply w v : Except (EvalError α) Nat) := by
  cases p with
  | shiftRight k =>
    unfold Primitive.apply
    dsimp only
    split
    · rintro name ⟨⟩
    · exact .ok _ _ _
  | _ => exact .ok _ _ _

theorem foldlM_misses (names : List String) (inputs : Inputs) (rest : List Primitive) (x : Nat) :
    Misses names inputs
      (rest.foldlM (fun (x : Nat) p => p.apply w x) x : Except (EvalError α) Nat) := by
  induction rest generalizing x with
  | nil => exact .ok _ _ _
  | cons p rest ih =>
    rw [List.foldlM_cons]
    exact (p.misses names inputs x).bind ih

theorem Body.misses (names : List String) (inputs : Inputs) (v : Int) (b : Body α) :
    Misses names inputs (b.eval w v) := by
  cases b with
  | primitive p => exact p.misses names inputs v
  | sequence first rest => exact (first.misses names inputs v).bind (foldlM_misses names inputs rest)
  | alien node => rintro name ⟨⟩

theorem Translation.misses (t : Translation α) (v : Int) (inputs : Inputs) :
    Misses t.names (guardInputs w v inputs) (t.eval w v inputs) := by
  unfold Translation.eval
  apply Misses.bind
  · unfold choose
    cases t with
    | body b => exact .ok _ _ _
    | switch first rest default =>
      apply (firstTrue_misses (fun c hc => names_of_case hc) 0).bind
      intro found
      cases found with
      | none => exact .ok _ _ _
      | some p => exact .ok _ _ _
  · rintro ⟨-, b⟩
    exact b.misses _ _ v

/-- the guard of the case is the first true one; those before it are false -/
structure Case.IsFirst (seen : Inputs) (before : List (Case α)) (c : Case α) : Prop where
  earlier : ∀ d ∈ before, d.guard.eval seen = .ok false
  holds : c.guard.eval seen = .ok true

/-- the body of the first case with a true guard, or the default where all guards are false -/
inductive Chosen (seen : Inputs) (cases : List (Case α)) (default : Body α) : Body α → Prop
  | case {before after : List (Case α)} {c : Case α} (split : cases = before ++ c :: after)
      (first : c.IsFirst seen before) : Chosen seen cases default c.body
  | default (none : ∀ d ∈ cases, d.guard.eval seen = .ok false) : Chosen seen cases default default

theorem firstTrue_of_isFirst {seen : Inputs} {before : List (Case α)} {c : Case α}
    (h : c.IsFirst seen before) (after : List (Case α)) (i : Nat) :
    ∃ j, firstTrue seen i (before ++ c :: after) = .ok (some (j, c.body)) := by
  obtain ⟨earlier, holds⟩ := h
  induction before generalizing i with
  | nil =>
    refine ⟨i, ?_⟩
    show firstTrue seen i (c :: after) = _
    rw [firstTrue, holds]
    rfl
  | cons d before ih =>
    obtain ⟨hd, earlier⟩ := List.forall_mem_cons.mp earlier
    show ∃ j, firstTrue seen i (d :: (before ++ c :: after)) = _
    rw [firstTrue, hd]
    exact ih (i + 1) earlier

theorem isFirst_of_firstTrue {seen : Inputs} {cs : List (Case α)} {i j : Nat} {b : Body α}
    (h : firstTrue seen i cs = .ok (some (j, b))) :
    ∃ before c after, cs = before ++ c :: after ∧ c.IsFirst seen before ∧ c.body = b := by
  induction cs generalizing i with
  | nil => cases h
  | cons c cs ih =>
    rw [firstTrue] at h
    obtain ⟨holds, hc, h⟩ := bind_ok h
    cases holds with
    | true =>
      cases h
      exact ⟨[], c, cs, rfl, ⟨List.forall_mem_nil _, hc⟩, rfl⟩
    | false =>
      obtain ⟨before, d, after, rfl, first, hb⟩ := ih h
      exact ⟨c :: before, d, after, rfl,
        ⟨List.forall_mem_cons.mpr ⟨hc, first.earlier⟩, first.holds⟩, hb⟩

theorem all_false_of_firstTrue {seen : Inputs} {cs : List (Case α)} {i : Nat}
    (h : firstTrue seen i cs = .ok none) : ∀ d ∈ cs, d.guard.eval seen = .ok false := by
  induction cs generalizing i with
  | nil => exact List.forall_mem_nil _
  | cons c cs ih =>
    rw [firstTrue] at h
    obtain ⟨holds, hc, h⟩ := bind_ok h
    cases holds with
    | true => cases h
    | false => exact List.forall_mem_cons.mpr ⟨hc, ih h⟩

namespace Translation

theorem eval_of_isFirst {v : Int} {inputs : Inputs} {before : List (Case α)} {c : Case α}
    (h : c.IsFirst (guardInputs w v inputs) before) {first : Case α} {rest after : List (Case α)}
    (split : first :: rest = before ++ c :: after) (default : Body α) :
    (switch first rest default).eval w v inputs = c.body.eval w v := by
  unfold Translation.eval choose
  dsimp only
  obtain ⟨i, found⟩ := firstTrue_of_isFirst h after 0
  rw [split, found]
  rfl

theorem chosen_of_eval {v : Int} {inputs : Inputs} {first : Case α} {rest : List (Case α)}
    {default : Body α} {n : Nat} (h : (switch first rest default).eval w v inputs = .ok n) :
    ∃ b, Chosen (guardInputs w v inputs) (first :: rest) default b ∧ b.eval w v = .ok n := by
  unfold Translation.eval choose at h
  obtain ⟨⟨_, b⟩, hb, h⟩ := bind_ok h
  obtain ⟨found, hf, hb⟩ := bind_ok hb
  cases found with
  | none =>
    cases hb
    exact ⟨default, .default (all_false_of_firstTrue hf), h⟩
  | some p =>
    cases hb
    obtain ⟨before, c, after, split, first, hc⟩ := isFirst_of_firstTrue hf
    exact ⟨c.body, .case split first, by rw [hc]; exact h⟩

/-- inputs do no more than choose the case of a switch.  Those that agree up to residues on the names
that guards compare have the same outcome, and a body takes nothing from them.  What a switch comes to is
what the chosen body comes to without inputs, and cases behind the first with a true guard, and the
default, may be any others. -/
theorem eval_chooses (w : Nat) (v : Int) (t : Translation α) :
    (∀ inputs inputs' : Inputs, inputs.CongruentOn w t.names inputs' →
        t.eval w v inputs = t.eval w v inputs') ∧
      match t with
      | .body b => ∀ inputs inputs' : Inputs, (body b).eval w v inputs = (body b).eval w v inputs'
      | .switch first rest default => ∀ inputs : Inputs,
        (∀ n, (switch first rest default).eval w v inputs = .ok n →
          ∃ b, Chosen (guardInputs w v inputs) (first :: rest) default b ∧
            (body b).eval w v Inputs.none = .ok n) ∧
        ∀ before c after, first :: rest = before ++ c :: after →
          c.IsFirst (guardInputs w v inputs) before →
            ∀ first' rest' after' default', first' :: rest' = before ++ c :: after' →
              (switch first' rest' default').eval w v inputs =
                (switch first rest default).eval w v inputs := by
  refine ⟨fun inputs inputs' same => eval_of_names same v, ?_⟩
  cases t with
  | body b => exact fun _ _ => rfl
  | switch first rest default =>
    refine fun inputs => ⟨fun n hn => chosen_of_eval hn, ?_⟩
    intro before c after split isFirst first' rest' after' default' split'
    rw [eval_of_isFirst isFirst split, eval_of_isFirst isFirst split']

/-- eight up, for addresses below eight on the first page -/
def firstPage : Case Empty :=
  ⟨.chain (.pair (.compare ⟨.left, .equal, 1, "page"⟩) .and
    (.compare ⟨.left, .below, 8, addressName⟩)), .primitive (.add 8)⟩

def paging : Translation Empty :=
  .switch firstPage [⟨.compare ⟨.right, .equal, 2, "page"⟩, .primitive (.subFrom 255)⟩]
    (.primitive .noop)

/-- address 9 passes for 7 in guards, and is 9 in the sum; behind the case that is chosen a guard may
compare a name that is not bound -/
theorem eval_chooses_paging :
    (Inputs.ofList [("page", 1), (addressName, 7)]).CongruentOn 8 paging.names
        (Inputs.ofList [("page", 257), ("bank", 3), (addressName, -249)]) ∧
      paging.eval 8 9 (Inputs.ofList [("page", 1), (addressName, 7)]) = .ok 17 ∧
      paging.eval 8 9 (Inputs.ofList [("page", 257), ("bank", 3), (addressName, -249)]) = .ok 17 ∧
      (switch firstPage [⟨.compare ⟨.left, .equal, 0, "line"⟩, .primitive .noop⟩]
          (.primitive (.constant 0))).eval 8 9 (Inputs.ofList [("page", 1), (addressName, 7)]) =
        .ok 17 := by
  have congruent : (Inputs.ofList [("page", 1), (addressName, 7)]).CongruentOn 8 paging.names
      (Inputs.ofList [("page", 257), ("bank", 3), (addressName, -249)]) := by
    have names : paging.names = ["page", addressName, "page"] := rfl
    have page : (1 : Int) ≡ 257 [ZMOD addressCount 8] := by decide
    have address : (7 : Int) ≡ -249 [ZMOD addressCount 8] := by decide
    unfold Inputs.CongruentOn
    rw [names]
    simp only [List.forall_mem_cons, List.not_mem_nil, false_implies, implies_true, and_true]
    exact ⟨.some page, .some address, .some page⟩
  have slot : paging.eval 8 9 (Inputs.ofList [("page", 1), (addressName, 7)]) = .ok 17 := rfl
  obtain ⟨same, chosen⟩ := eval_chooses 8 9 paging
  have replaced := (chosen (Inputs.ofList [("page", 1), (addressName, 7)])).2 [] firstPage _ rfl
    ⟨List.forall_mem_nil _, rfl⟩ firstPage [⟨.compare ⟨.left, .equal, 0, "line"⟩, .primitive .noop⟩]
    _ (.primitive (.constant 0)) rfl
  exact ⟨congruent, slot, (same _ _ congruent).symm.trans slot, replaced.trans slot⟩

end Translation

end BankSwitch
