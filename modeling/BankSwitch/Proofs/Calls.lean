import BankSwitch.Calls
import BankSwitch.Proofs.Scanning.Text

/-!
# Calls one after the other

Calls to the readers of the grammar go forward: one that returns has taken a token or more and has
left the tokens behind it, and one that does not names a token (`Call.runAll_orderly`).  When the end
of the text has been taken and nothing is left, most calls name the end of the text; the three that
look at the token in front without asking whether there is one are `exhausted`, and name no place.

* `Call.follows_read`    what is asked for follows its form;
* `Call.outcome_run`     the outcome of one call;
* `Call.runAll_orderly`  the outcomes of all calls on the tokens of a text.
-/

namespace BankSwitch

open Grammar Scanner

variable {α β : Type} {w w' : Nat} {x x' : Source} {ts : List Token} {pos : Nat}

/-! ## what is left of a text -/

theorem Source.endOf_eq {t : Token} (h : ts.getLast? = some t) : endOf ts = t.position := by
  induction ts using endOf.induct with
  | case1 => cases h
  | case2 t' =>
    cases h
    rfl
  | case3 t' u r ih => exact ih (by simpa using h)

namespace Ended

theorem ne_nil (h : Ended ts) : ts ≠ [] := by
  rintro rfl
  obtain ⟨front, hfront, -⟩ := h
  simp [terminals] at hfront

theorem drop (h : Ended ts) (hpos : pos < ts.length) : Ended (ts.drop pos) := by
  obtain ⟨front, hfront, inner⟩ := h
  have length : ts.length = front.length + 1 := by
    simpa [terminals] using congrArg List.length hfront
  refine ⟨front.drop pos, ?_, fun mem => inner (List.mem_of_mem_drop mem)⟩
  rw [← List.drop_append_of_le_length (by omega), ← hfront]
  exact List.map_drop

/-- the last token is where the text ends -/
theorem getLast? (h : Ended ts) : ∃ t, ts.getLast? = some t :=
  ⟨ts.getLast h.ne_nil, List.getLast?_eq_some_getLast h.ne_nil⟩

/-- whatever can go on to a phrase, some of the tokens remain behind it -/
theorem left {f : Form} {u r : List Token} (h : Ended ts) (split : ts = u ++ r)
    (hf : .mark .endOfInput ∉ f) (unfinished : Unfinished f (terminals u)) : ∃ t v, r = t :: v := by
  cases r with
  | cons t v => exact ⟨t, v, rfl⟩
  | nil =>
    rw [List.append_nil] at split
    subst split
    exact absurd (unfinished.append_right _) (h.not_unfinished hf)

end Ended

/-! ## what is asked for -/

namespace Scanner

theorem ofReading_map {read : (s : List Token) → Except ReadError (Reading α s)} (f : α → β) :
    ofReading (fun s => (read s).map (Reading.map f)) = ofReading read >>= fun a => pure (f a) := by
  funext s
  rw [bind_apply]
  show ((read s).map (Reading.map f)).map _ = (read s).map _ >>= _
  cases read s <;> rfl

theorem Follows.map {read read' : (s : List Token) → Except ReadError (Reading α s)} {g : Form}
    {s : List Token} (h : Follows x w (ofReading read) (ofReading read') g s) (f : α → β) :
    Follows x w (ofReading fun s => (read s).map (.map f))
      (ofReading fun s => (read' s).map (.map f)) g s := by
  rw [ofReading_map, ofReading_map, ← List.append_nil g]
  exact h.bind fun a _ _ => .done (f a)

end Scanner

theorem Component.follows_read (hx : Source.Widens w w x x) (hpos : 0 < w) (s : List Token) :
    Follows x w (ofReading (read (α := α) x)) (ofReading (read x)) [.one .component] s := by
  rw [ofReading_read]
  refine .judge (follows_scanParts hx s) (fun _ h => h) fun {p _ _} _ h => ?_
  have built : p.build x.settings.width.value = .ok (p.component w hpos) := by
    rw [hx.width]
    exact p.build_pos hpos
  cases built.symm.trans h

namespace Call

theorem follows_sequence (hx : Source.Widens w w' x x') (s : List Token) :
    Follows x w (ofReading (Body.readSequence (α := α) x)) (ofReading (Body.readSequence x'))
      [.mark .leftBracket, .one .primitive, .many .step, .mark .rightBracket] s :=
  (Source.follows_enclosed hx rfl rfl (Primitive.follows_read hx) (Primitive.follows_readMore hx)
    s).map _

/-- whatever is asked for, if it is more than a token, has a form of the grammar -/
theorem follows_read (hx : Source.Widens w w x x) (hpos : 0 < w) {c : Call}
    (hc : ∀ k, c ≠ .token k) (s : List Token) :
    ∃ f, .mark .endOfInput ∉ f ∧ Follows x w (ofReading fun s => c.read (α := α) x s)
      (ofReading fun s => c.read x s) f s := by
  cases c with
  | component => exact ⟨_, by simp, (Component.follows_read hx hpos s).map _⟩
  | bank => exact ⟨_, by simp, (Bank.follows_read hx s).map _⟩
  | partition => exact ⟨_, by simp, (Partition.follows_read hx s).map _⟩
  | range => exact ⟨_, by simp, (Range.follows_read hx s).map _⟩
  | rangeTerm => exact ⟨_, by simp, (Range.follows_readTerm hx s).map _⟩
  | rangeBracket => exact ⟨_, by simp, (Range.follows_readBracket hx s).map _⟩
  | comparison => exact ⟨_, by simp, (Comparison.follows_read hx s).map _⟩
  | comparator => exact ⟨_, by simp, (Comparator.follows_read hx s).map _⟩
  | guard => exact ⟨_, by simp, (Guard.follows_read hx s).map _⟩
  | guardTerm => exact ⟨_, by simp, (Guard.follows_readTerm hx s).map _⟩
  | translation => exact ⟨_, by simp, (Translation.follows_read hx s).map _⟩
  | body => exact ⟨_, by simp, (Body.follows_read hx s).map _⟩
  | sequence => exact ⟨_, by simp, (follows_sequence hx s).map _⟩
  | primitive => exact ⟨_, by simp, (Primitive.follows_read hx s).map _⟩
  | primitiveTerm => exact ⟨_, by simp, (Primitive.follows_readTerm hx s).map _⟩
  | switch => exact ⟨_, by simp, (Translation.follows_readSwitch hx s).map _⟩
  | number => exact ⟨_, by simp, (Follows.number hx s).map _⟩
  | token k => exact absurd rfl (hc k)

/-! ## the outcome of one call -/

/-- whether there is a token in front is asked before its kind is -/
def heeds : Call → Bool
  | .translation | .body | .primitive => false
  | _ => true

/-- what may come of a call behind the first `pos` tokens -/
inductive Outcome (x : Source) (ts : List Token) (pos : Nat) (c : Call) :
    Except ReadError (Answer α × Nat) → Prop
  /-- what was read lies between the two places -/
  | returns {a : Answer α} {next : Nat} (forward : pos < next) (within : next ≤ ts.length)
      (reads : ∃ h, c.read x (ts.drop pos) = .ok ⟨a, ts.drop next, h⟩) :
      Outcome x ts pos c (.ok (a, next))
  | fault {t : Token} (g : GrammarFault) (ahead : t ∈ ts.drop pos) :
      Outcome x ts pos c (.error (.grammar g t.position (t.kind = .endOfInput)))
  | range {t : Token} (m : Range.Malformed) (ahead : t ∈ ts.drop pos) :
      Outcome x ts pos c (.error (.range m t.position))
  /-- nothing is left, and the error names the end of the text -/
  | spent {t : Token} (g : GrammarFault) (nothing : pos = ts.length) (heeds : c.heeds = true)
      (last : ts.getLast? = some t) : Outcome x ts pos c (.error (.grammar g t.position true))
  /-- nothing is left, and that was not asked -/
  | exhausted (nothing : pos = ts.length) (heedless : c.heeds = false) :
      Outcome x ts pos c (.error .exhausted)

/-- with a token left, or asked for, an error names one of the tokens -/
theorem Outcome.position? {c : Call} {e : ReadError}
    (h : Outcome (α := α) x ts pos c (.error e)) (ready : pos < ts.length ∨ c.heeds = true) :
    ∃ t ∈ ts, e.position? = some t.position := by
  cases h with
  | fault g ahead => exact ⟨_, List.mem_of_mem_drop ahead, rfl⟩
  | range m ahead => exact ⟨_, List.mem_of_mem_drop ahead, rfl⟩
  | spent g nothing heeds last => exact ⟨_, List.mem_of_getLast? last, rfl⟩
  | exhausted nothing heedless => simp [nothing, heedless] at ready

/-- a call with nothing left -/
theorem read_nil (x : Source) (c : Call) :
    (c.heeds = true ∧ ∃ g, c.read (α := α) x [] = .error (x.fault [] g)) ∨
      (c.heeds = false ∧ c.read (α := α) x [] = .error .exhausted) := by
  cases c with
  | translation | body | primitive => exact .inr ⟨rfl, rfl⟩
  | guard =>
    refine .inl ⟨rfl, .noComparison, ?_⟩
    unfold read Guard.read Guard.readTerm
    rfl
  | guardTerm =>
    refine .inl ⟨rfl, .noComparison, ?_⟩
    unfold read Guard.readTerm
    rfl
  | _ => exact .inl ⟨rfl, _, rfl⟩

theorem outcome_nil (ended : Ended ts) (hx : x.ending = Source.endOf ts) (c : Call) :
    Outcome (α := α) x ts ts.length c (c.run x ts ts.length) := by
  obtain ⟨t, last⟩ := ended.getLast?
  unfold run
  rw [List.drop_length]
  obtain ⟨heeds, g, stops⟩ | ⟨heedless, stops⟩ := read_nil (α := α) x c
  · rw [stops]
    show Outcome x ts ts.length c (.error (.grammar g x.ending true))
    rw [hx, Source.endOf_eq last]
    exact .spent g rfl heeds last
  · rw [stops]
    exact .exhausted rfl heedless

/-- a call that leaves the end of the tokens -/
theorem outcome_of_suffix {s : List Token} (hs : ts.drop pos = s) {c : Call}
    {r : Reading (Answer α) s} (hr : c.read x s = .ok r) (suffix : r.rest <:+ s) :
    Outcome (α := α) x ts pos c (c.run x ts pos) := by
  subst hs
  have rest : r.rest = ts.drop (ts.length - r.rest.length) :=
    List.suffix_iff_eq_drop.mp (suffix.trans (List.drop_suffix _ _))
  have shorter := r.shorter
  rw [List.length_drop] at shorter
  unfold run
  rw [hr]
  refine .returns (by omega) (Nat.sub_le _ _) ?_
  rw [← rest]
  exact ⟨r.shorter, hr⟩

theorem outcome_of_follows (ended : Ended ts) (hpos : pos < ts.length) {c : Call} {f : Form}
    (hf : .mark .endOfInput ∉ f) (follows : Follows x w (ofReading fun s => c.read (α := α) x s)
      (ofReading fun s => c.read x s) f (ts.drop pos)) :
    Outcome (α := α) x ts pos c (c.run x ts pos) := by
  cases hr : c.read (α := α) x (ts.drop pos) with
  | ok r =>
    obtain ⟨u, split, -, -⟩ := follows.ok (ofReading_ok.mpr ⟨r.shorter, hr⟩)
    exact outcome_of_suffix rfl hr ⟨u, split.symm⟩
  | error e =>
    obtain ⟨u, v, split, stops⟩ := follows.error (ofReading_error.mpr hr)
    unfold run
    rw [hr]
    cases stops with
    | fault g unfinished again =>
      obtain ⟨t, v, rfl⟩ := (ended.drop hpos).left split hf unfinished
      exact .fault g (split ▸ List.mem_append_right u List.mem_cons_self)
    | range m opening offends =>
      subst opening
      exact .range m (split ▸ List.mem_append_right u List.mem_cons_self)
    | exhausted unfinished spent =>
      obtain ⟨t, v, rfl⟩ := (ended.drop hpos).left split hf unfinished
      cases spent

theorem outcome_token (hpos : pos < ts.length) (k : Token.Kind) :
    Outcome (α := α) x ts pos (.token k) ((Call.token k).run x ts pos) := by
  cases hs : ts.drop pos with
  | nil => exact absurd (List.drop_eq_nil_iff.mp hs) (by omega)
  | cons t r =>
    by_cases hk : t.kind = k
    · have taken : (Call.token k).read (α := α) x (t :: r) = .ok ⟨.token t, r, Nat.lt_succ_self _⟩ := by
        show (x.expect k (t :: r)).map _ = _
        rw [Source.expect_cons hk]
        rfl
      exact outcome_of_suffix hs taken (List.suffix_cons t r)
    · have refused : (Call.token k).read (α := α) x (t :: r) = .error (x.mismatch k (t :: r)) := by
        show (x.expect k (t :: r)).map _ = _
        rw [expect_of_ne (s := t :: r) fun h => hk (Option.some.inj h)]
        rfl
      unfold run
      rw [hs, refused]
      exact .fault _ (hs ▸ List.mem_cons_self)

theorem outcome_run (hw : x.settings.width = .whole w) (hpos : 0 < w)
    (hx : x.ending = Source.endOf ts) (ended : Ended ts) (within : pos ≤ ts.length) (c : Call) :
    Outcome (α := α) x ts pos c (c.run x ts pos) := by
  obtain ahead | rfl := Nat.lt_or_eq_of_le within
  · by_cases hc : ∃ k, c = .token k
    · obtain ⟨k, rfl⟩ := hc
      exact outcome_token ahead k
    · obtain ⟨f, hf, follows⟩ := follows_read (α := α) (.refl hw) hpos
        (fun k hk => hc ⟨k, hk⟩) (ts.drop pos)
      exact outcome_of_follows ended ahead hf follows
  · exact outcome_nil ended hx c

/-! ## calls on a text -/

/-- outcomes of calls, each behind what the one before it has left, up to the first that fails -/
inductive Orderly (x : Source) (ts : List Token) :
    Nat → List Call → List (Except ReadError (Answer α × Nat)) → Prop
  | done (pos : Nat) : Orderly x ts pos [] []
  | returns {pos next : Nat} {c : Call} {cs : List Call} {a : Answer α}
      {os : List (Except ReadError (Answer α × Nat))} (outcome : Outcome x ts pos c (.ok (a, next)))
      (more : Orderly x ts next cs os) : Orderly x ts pos (c :: cs) (.ok (a, next) :: os)
  | fails {pos : Nat} {c : Call} {e : ReadError} (cs : List Call)
      (outcome : Outcome (α := α) x ts pos c (.error e)) : Orderly x ts pos (c :: cs) [.error e]

theorem orderly_from (hw : x.settings.width = .whole w) (hpos : 0 < w)
    (hx : x.ending = Source.endOf ts) (ended : Ended ts) (cs : List Call)
    (within : pos ≤ ts.length) : Orderly (α := α) x ts pos cs (runAll x ts pos cs) := by
  induction cs generalizing pos with
  | nil => exact .done pos
  | cons c cs ih =>
    have outcome := outcome_run (α := α) hw hpos hx ended within c
    unfold runAll
    cases hc : c.run (α := α) x ts pos with
    | error e =>
      rw [hc] at outcome
      exact .fails cs outcome
    | ok r =>
      obtain ⟨a, next⟩ := r
      rw [hc] at outcome
      refine .returns outcome (ih ?_)
      cases outcome with
      | returns forward within reads => exact within

/-- calls on the tokens of a text, on a bus with lines -/
theorem runAll_orderly {settings : Settings} {text : String} (hw : settings.width = .whole w)
    (hpos : 0 < w) (lexes : Source.ofText settings text = .ok (x, ts)) (cs : List Call) :
    Orderly (α := α) x ts 0 cs (runAll x ts 0 cs) := by
  obtain ⟨ts', ht, h⟩ := bind_ok lexes
  cases h
  exact orderly_from hw hpos rfl (Token.tokensFrom_ended ht) cs (Nat.zero_le _)

theorem ofText_number : Source.ofText Settings.standard "5" =
    .ok (⟨Settings.standard, ⟨1, 2⟩⟩, [⟨.number 5, ⟨1, 1⟩⟩, Token.atEnd ⟨1, 2⟩]) := by
  have tokens : Token.tokens Settings.standard.toMeasure "5" =
      .ok [⟨.number 5, ⟨1, 1⟩⟩, Token.atEnd ⟨1, 2⟩] := ok_of_toOption (by decide +kernel)
  unfold Source.ofText
  rw [tokens]
  rfl

/-- a number, the end of the text, and a comparison for which nothing is left -/
theorem runAll_orderly_number :
    Orderly (α := Empty) ⟨Settings.standard, ⟨1, 2⟩⟩ [⟨.number 5, ⟨1, 1⟩⟩, Token.atEnd ⟨1, 2⟩] 0
      [.number, .token .endOfInput, .comparison]
      [.ok (.number 5, 1), .ok (.token (Token.atEnd ⟨1, 2⟩), 2),
        .error (.grammar .noComparison ⟨1, 2⟩ true)] :=
  runAll_orderly (w := 64) rfl (by decide) ofText_number _

/-- a primitive for which nothing is left: the error is none of the text, and has no place -/
theorem runAll_exhausted :
    Source.ofText Settings.standard "5" =
        .ok (⟨Settings.standard, ⟨1, 2⟩⟩, [⟨.number 5, ⟨1, 1⟩⟩, Token.atEnd ⟨1, 2⟩]) ∧
      runAll (α := Empty) ⟨Settings.standard, ⟨1, 2⟩⟩ [⟨.number 5, ⟨1, 1⟩⟩, Token.atEnd ⟨1, 2⟩] 0
          [.number, .token .endOfInput, .primitive] =
        [.ok (.number 5, 1), .ok (.token (Token.atEnd ⟨1, 2⟩), 2), .error .exhausted] ∧
      ReadError.exhausted.position? = none :=
  ⟨ofText_number, rfl, rfl⟩

end Call

end BankSwitch
