import BankSwitch.Proofs.Grammar.Text
import BankSwitch.Proofs.Scanning.Phrases

/-!
# Scanning layouts

The readers of ranges and partitions as scanners, and the forms that they follow.
-/

namespace BankSwitch

open Grammar Scanner

variable {w w' : Nat} {x x' : Source}

/-! ## range terms -/

namespace Range

/-- the parenthesis and the numbers of a term -/
def termParts (x : Source) : Scanner (Token × Nat × Nat × Nat) := do
  let t ← ofReading (x.expect .leftParen)
  let _ ← ofReading (x.expect .range)
  let base ← ofReading x.number
  let extent ← ofReading x.number
  let stride ← ofReading x.number
  let _ ← ofReading (x.expect .rightParen)
  return (t, base, extent, stride)

/-- the range of a term, if it is one of the bus -/
def termVerdict (x : Source) : Token × Nat × Nat × Nat → Except ReadError Range
  | (t, base, extent, stride) => do
    let (start, stop) := x.settings.rangeForm.bounds base extent
    let limit ← x.limit
    if limit < stop then
      .error (.range ⟨.pastBus base extent x.settings.width.value, start, stop, some stride⟩
        t.position)
    else checked start stop (some stride) t.position

theorem ofReading_readTerm :
    ofReading (readTerm x) = termParts x >>= fun a => judge (termVerdict x a) := by
  funext s
  show (readTerm x s).map _ = _
  unfold readTerm termParts
  simp only [bind_assoc, pure_bind]
  refine ofReading_bind fun t s₁ h₁ => ?_
  refine ofReading_bind fun _ s₂ h₂ => ?_
  refine ofReading_bind fun base s₃ h₃ => ?_
  refine ofReading_bind fun extent s₄ h₄ => ?_
  refine ofReading_bind fun stride s₅ h₅ => ?_
  refine ofReading_bind fun _ s₆ h₆ => ?_
  unfold termVerdict judge
  dsimp only
  generalize x.settings.rangeForm.bounds base extent = b
  cases x.limit with
  | error e => rfl
  | ok limit =>
    dsimp only [ok_bind]
    split
    · rfl
    · cases checked b.1 b.2 (some stride) t.position <;> rfl

theorem follows_termParts (hx : Source.Widens w w' x x') (s : List Token) :
    Follows x w (termParts x) (termParts x') [.one .range] s := by
  refine .rule (f := [.mark .leftParen, .mark .range, .number, .number, .number,
    .mark .rightParen]) (by decide) ?_
  exact (Follows.expect hx s rfl).bind fun t s₁ _ => (Follows.expect hx s₁ rfl).bind fun _ s₂ _ =>
    (Follows.number hx s₂).bind fun base s₃ _ => (Follows.number hx s₃).bind fun extent s₄ _ =>
    (Follows.number hx s₄).bind fun stride s₅ _ =>
    (Follows.expect hx s₅ rfl).bind fun _ s₆ _ => .done _

/-- what a term that was scanned is made of -/
theorem termParts_ok {s v : List Token} {t : Token} {base extent stride : Nat}
    (h : termParts x s = .ok ((t, base, extent, stride), v)) :
    (∃ r, s = t :: r) ∧ terminals s = .mark .leftParen :: .mark .range :: .number base ::
      .number extent :: .number stride :: .mark .rightParen :: terminals v := by
  unfold termParts at h
  obtain ⟨⟨t₁, s₁⟩, e₁, h⟩ := bind_ok h
  obtain ⟨⟨t₂, s₂⟩, e₂, h⟩ := bind_ok h
  obtain ⟨⟨n₃, s₃⟩, e₃, h⟩ := bind_ok h
  obtain ⟨⟨n₄, s₄⟩, e₄, h⟩ := bind_ok h
  obtain ⟨⟨n₅, s₅⟩, e₅, h⟩ := bind_ok h
  obtain ⟨⟨t₆, s₆⟩, e₆, h⟩ := bind_ok h
  cases h
  obtain ⟨rfl, k₁⟩ := expect_ok e₁
  obtain ⟨rfl, k₂⟩ := expect_ok e₂
  obtain ⟨q₃, rfl⟩ := number_ok e₃
  obtain ⟨q₄, rfl⟩ := number_ok e₄
  obtain ⟨q₅, rfl⟩ := number_ok e₅
  obtain ⟨rfl, k₆⟩ := expect_ok e₆
  refine ⟨⟨_, rfl⟩, ?_⟩
  simp only [terminals_cons, terminal_number, terminal_of_kind k₁ rfl, terminal_of_kind k₂ rfl,
    terminal_of_kind k₆ rfl]

/-! ## bounds that bound no range -/

theorem ofBounds_error {start stop : Int} {stride : Option Int} {m : Malformed}
    (h : ofBounds start stop stride = .error m) :
    m.start = start ∧ m.stop = stop ∧ m.stride = stride ∧
      (start < 0 ∨ stop < start ∨ ∃ k, stride = some k ∧ k ≤ 0) := by
  unfold ofBounds at h
  split at h
  · next h₁ =>
    cases h
    exact ⟨rfl, rfl, rfl, .inl h₁⟩
  split at h
  · next h₂ =>
    cases h
    exact ⟨rfl, rfl, rfl, .inr (.inl h₂)⟩
  cases stride with
  | none => cases h
  | some k =>
    dsimp only at h
    split at h
    · next h₃ =>
      cases h
      exact ⟨rfl, rfl, rfl, .inr (.inr ⟨k, rfl, h₃⟩)⟩
    · cases h

theorem checked_error {start stop : Int} {stride : Option Int} {p : Position} {e : ReadError}
    (h : checked start stop stride p = .error e) :
    ∃ m : Malformed, e = .range m p ∧ m.start = start ∧ m.stop = stop ∧ m.stride = stride ∧
      (start < 0 ∨ stop < start ∨ ∃ k, stride = some k ∧ k ≤ 0) := by
  unfold checked at h
  split at h
  · cases h
  · next m hm =>
    cases h
    exact ⟨m, rfl, ofBounds_error hm⟩

/-- the base of a term is its start, whatever its second number means -/
theorem bounds_fst (form : RangeForm) (base extent : Int) :
    (form.bounds base extent).1 = base := by
  cases form <;> rfl

theorem termVerdict_ok (hx : Source.Widens w w' x x') {a : Token × Nat × Nat × Nat} {r : Range}
    (h : termVerdict x a = .ok r) : termVerdict x' a = .ok r := by
  have hle := addressCount_le hx.le
  unfold termVerdict at h ⊢
  dsimp only at h ⊢
  rw [Source.limit_of_width hx.width] at h
  rw [Source.limit_of_width hx.width', hx.form]
  dsimp only [ok_bind] at h ⊢
  split at h
  · cases h
  · rw [if_neg (by omega)]
    exact h

theorem termVerdict_error (hx : Source.Widens w w' x x') {s v : List Token}
    {a : Token × Nat × Nat × Nat} {e : ReadError} (ha : termParts x s = .ok (a, v))
    (h : termVerdict x a = .error e) : ∃ t r m, s = t :: r ∧ e = .range m t.position ∧
      Offends x.settings.rangeForm w (terminals s) m := by
  obtain ⟨t, base, extent, stride⟩ := a
  obtain ⟨⟨r, rfl⟩, hs⟩ := termParts_ok ha
  have hb := bounds_fst x.settings.rangeForm base extent
  unfold termVerdict at h
  dsimp only at h
  rw [Source.limit_of_width hx.width] at h
  dsimp only [ok_bind] at h
  rw [hs]
  split at h
  · next past =>
    cases h
    exact ⟨t, r, _, rfl, rfl, .term _ rfl rfl (.inl past)⟩
  · obtain ⟨m, rfl, hstart, hstop, hstride, wrong⟩ := checked_error h
    refine ⟨t, r, m, rfl, rfl, .term _ (Prod.ext hstart.symm hstop.symm) hstride ?_⟩
    obtain hneg | hlt | ⟨k, hk, hle⟩ := wrong
    · omega
    · exact .inr (.inl (by omega))
    · cases hk
      exact .inr (.inr (by omega))

theorem follows_readTerm (hx : Source.Widens w w' x x') (s : List Token) :
    Follows x w (ofReading (readTerm x)) (ofReading (readTerm x')) [.one .range] s := by
  rw [ofReading_readTerm, ofReading_readTerm]
  exact .judge (follows_termParts hx s) (fun _ h => termVerdict_ok hx h)
    (fun e h => termVerdict_error hx e h)

/-! ## bracketed ranges -/

/-- the bracket and the numbers of a bracketed range -/
def bracketParts (x : Source) : Scanner (Token × Nat × Nat × Option Nat) := do
  let t ← ofReading (x.expect .leftBracket)
  let start ← ofReading x.number
  let _ ← ofReading (x.expect .colon)
  let stop ← ofReading x.number
  let stride ← ofTrailing (readStride x)
  let _ ← ofReading (x.expect .rightBracket)
  return (t, start, stop, stride)

def bracketVerdict : Token × Nat × Nat × Option Nat → Except ReadError Range
  | (t, start, stop, stride) =>
    checked start stop (stride.map fun (n : Nat) => (n : Int)) t.position

theorem ofReading_readBracket :
    ofReading (readBracket x) = bracketParts x >>= fun a => judge (bracketVerdict a) := by
  funext s
  show (readBracket x s).map _ = _
  unfold readBracket bracketParts
  simp only [bind_assoc, pure_bind]
  refine ofReading_bind fun t s₁ h₁ => ?_
  refine ofReading_bind fun start s₂ h₂ => ?_
  refine ofReading_bind fun _ s₃ h₃ => ?_
  refine ofReading_bind fun stop s₄ h₄ => ?_
  refine ofTrailing_bind fun stride s₅ h₅ => ?_
  refine ofReading_bind fun _ s₆ h₆ => ?_
  unfold bracketVerdict judge
  dsimp only
  cases checked start stop (stride.map fun (n : Nat) => (n : Int)) t.position <;> rfl

theorem ofTrailing_readStride :
    ofTrailing (readStride x) = choose x (fun k => if k = .colon then some () else none)
      (fun _ => do
        let n ← ofReading x.number
        return some n) (pure none) := by
  funext s
  show (readStride x s).map _ = _
  cases s with
  | nil => rfl
  | cons t r =>
    unfold readStride
    dsimp only
    split
    · next hk =>
      rw [choose_some (if_pos hk)]
      exact ofReading_bind fun n v hv => rfl
    · next hk =>
      rw [choose_none (if_neg hk)]
      rfl

theorem follows_readStride (hx : Source.Widens w w' x x') (s : List Token) :
    Follows x w (ofTrailing (readStride x)) (ofTrailing (readStride x')) [.one .stride] s := by
  rw [ofTrailing_readStride, ofTrailing_readStride]
  refine .choose hx rfl (f := [.number]) (g := []) ?_ (fun _ t _ => ?_) ?_ (.done none)
  · intro k b hk z hz
    split at hk
    · next hc =>
      subst hc
      exact hz.of_rule (by decide)
    · cases hk
  · exact (Follows.number hx t).bind fun n v _ => .done _
  · exact fun z hz => hz.of_rule (by decide)

theorem follows_bracketParts (hx : Source.Widens w w' x x') (s : List Token) :
    Follows x w (bracketParts x) (bracketParts x') [.one .range] s := by
  refine .rule (f := [.mark .leftBracket, .number, .mark .colon, .number, .one .stride,
    .mark .rightBracket]) (by decide) ?_
  exact (Follows.expect hx s rfl).bind fun t s₁ _ => (Follows.number hx s₁).bind fun start s₂ _ =>
    (Follows.expect hx s₂ rfl).bind fun _ s₃ _ => (Follows.number hx s₃).bind fun stop s₄ _ =>
    (follows_readStride hx s₄).bind fun stride s₅ _ =>
    (Follows.expect hx s₅ rfl).bind fun _ s₆ _ => .done _

/-- what a bracketed range that was scanned is made of -/
theorem bracketParts_ok {s v : List Token} {t : Token} {start stop : Nat} {stride : Option Nat}
    (h : bracketParts x s = .ok ((t, start, stop, stride), v)) :
    (∃ r, s = t :: r) ∧
      (stride = none ∧ terminals s = .mark .leftBracket :: .number start :: .mark .colon ::
        .number stop :: .mark .rightBracket :: terminals v ∨
      ∃ n, stride = some n ∧ terminals s = .mark .leftBracket :: .number start :: .mark .colon ::
        .number stop :: .mark .colon :: .number n :: .mark .rightBracket :: terminals v) := by
  unfold bracketParts at h
  obtain ⟨⟨t₁, s₁⟩, e₁, h⟩ := bind_ok h
  obtain ⟨⟨n₂, s₂⟩, e₂, h⟩ := bind_ok h
  obtain ⟨⟨t₃, s₃⟩, e₃, h⟩ := bind_ok h
  obtain ⟨⟨n₄, s₄⟩, e₄, h⟩ := bind_ok h
  obtain ⟨⟨k₅, s₅⟩, e₅, h⟩ := bind_ok h
  obtain ⟨⟨t₆, s₆⟩, e₆, h⟩ := bind_ok h
  cases h
  obtain ⟨rfl, k₁⟩ := expect_ok e₁
  obtain ⟨q₂, rfl⟩ := number_ok e₂
  obtain ⟨rfl, k₃⟩ := expect_ok e₃
  obtain ⟨q₄, rfl⟩ := number_ok e₄
  obtain ⟨h₅, e₅⟩ := ofTrailing_ok.mp e₅
  obtain ⟨rfl, k₆⟩ := expect_ok e₆
  refine ⟨⟨_, rfl⟩, ?_⟩
  obtain ⟨rfl, rfl⟩ | ⟨t, n, p, rfl, k, rfl⟩ := eq_of_readStride e₅
  · refine .inl ⟨rfl, ?_⟩
    simp only [terminals_cons, terminal_number, terminal_of_kind k₁ rfl, terminal_of_kind k₃ rfl,
      terminal_of_kind k₆ rfl]
  · refine .inr ⟨n, rfl, ?_⟩
    simp only [terminals_cons, terminal_number, terminal_of_kind k₁ rfl, terminal_of_kind k₃ rfl,
      terminal_of_kind k rfl, terminal_of_kind k₆ rfl]

theorem bracketVerdict_error {form : RangeForm} {s v : List Token}
    {a : Token × Nat × Nat × Option Nat} {e : ReadError} (ha : bracketParts x s = .ok (a, v))
    (h : bracketVerdict a = .error e) : ∃ t r m, s = t :: r ∧ e = .range m t.position ∧
      Offends form w (terminals s) m := by
  obtain ⟨t, start, stop, stride⟩ := a
  obtain ⟨⟨r, rfl⟩, hs⟩ := bracketParts_ok ha
  obtain ⟨m, rfl, hstart, hstop, hstride, wrong⟩ := checked_error h
  refine ⟨t, r, m, rfl, rfl, ?_⟩
  obtain ⟨rfl, hs⟩ | ⟨n, rfl, hs⟩ := hs
  · rw [hs]
    refine .plain _ hstart hstop hstride ?_
    obtain hneg | hlt | ⟨k, hk, -⟩ := wrong
    · omega
    · omega
    · cases hk
  · rw [hs]
    refine .strided _ hstart hstop hstride ?_
    obtain hneg | hlt | ⟨k, hk, hle⟩ := wrong
    · omega
    · exact .inl (by omega)
    · cases hk
      exact .inr (by dsimp only at hle; omega)

theorem follows_readBracket (hx : Source.Widens w w' x x') (s : List Token) :
    Follows x w (ofReading (readBracket x)) (ofReading (readBracket x')) [.one .range] s := by
  rw [ofReading_readBracket, ofReading_readBracket]
  exact .judge (follows_bracketParts hx s) (fun _ h => h) (fun e h => bracketVerdict_error e h)

/-! ## ranges and partitions -/

theorem ofReading_read : ofReading (read x) = front fun
    | some .leftParen => ofReading (readTerm x)
    | some .leftBracket => ofReading (readBracket x)
    | _ => fail x .noRange := by
  funext s
  show (read x s).map _ = _
  unfold read front
  cases Source.next? s with
  | none => rfl
  | some k => cases k <;> rfl

theorem follows_read (hx : Source.Widens w w' x x') (s : List Token) :
    Follows x w (ofReading (read x)) (ofReading (read x')) [.one .range] s := by
  rw [ofReading_read, ofReading_read]
  refine .front ?_
  split
  · exact follows_readTerm hx s
  · exact follows_readBracket hx s
  · exact .fail hx (by simp) _

theorem follows_readMore (hx : Source.Widens w w' x x') (s : List Token) :
    Follows x w (ofTrailing (readMore x)) (ofTrailing (readMore x')) [.many .range] s :=
  .loop (fun k => k ≠ some .rightBracket) (ofTrailing_loop loops (by simp))
    (ofTrailing_loop loops (by simp))
    (follows_read hx) ofReading_shorter s

end Range

namespace Source

variable {α : Type} {opening closing : Token.Kind}
  {first first' : (s : List Token) → Except ReadError (Reading α s)}
  {more more' : (s : List Token) → Except ReadError (Trailing (List α) s)}

theorem ofReading_enclosed : ofReading (x.enclosed opening closing first more) = do
    let _ ← ofReading (x.expect opening)
    let a ← ofReading first
    let as ← ofTrailing more
    let _ ← ofReading (x.expect closing)
    return (a, as) := by
  funext s
  show (x.enclosed opening closing first more s).map _ = _
  unfold enclosed
  refine ofReading_bind fun _ s₁ h₁ => ?_
  refine ofReading_bind fun a s₂ h₂ => ?_
  refine ofTrailing_bind fun as s₃ h₃ => ?_
  refine ofReading_bind fun _ s₄ h₄ => ?_
  rfl

theorem follows_enclosed (hx : Source.Widens w w' x x') {a b : Grammar.Symbol}
    (ho : (opening == .number) = false) (hc : (closing == .number) = false)
    (hf : ∀ s, Follows x w (ofReading first) (ofReading first') [.one a] s)
    (hm : ∀ s, Follows x w (ofTrailing more) (ofTrailing more') [.many b] s) (s : List Token) :
    Follows x w (ofReading (x.enclosed opening closing first more))
      (ofReading (x'.enclosed opening closing first' more'))
      [.mark opening, .one a, .many b, .mark closing] s := by
  rw [ofReading_enclosed, ofReading_enclosed]
  exact (Follows.expect hx s ho).bind fun _ s₁ _ => (hf s₁).bind fun _ s₂ _ =>
    (hm s₂).bind fun _ s₃ _ => (Follows.expect hx s₃ hc).bind fun _ s₄ _ => .done _

end Source

/-! ## partitions

Which kind of partition is read depends on two tokens, the bracket in front and the one behind it.
A list that begins with a bracket can always be completed to either kind, so no reader stops at the
bracket itself.
-/

namespace Partition

/-- the readings of ranges between brackets, as a partition -/
def scanList (x : Source) : Scanner Partition := do
  let (r, rs) ← ofReading (x.enclosed .leftBracket .rightBracket (Range.read x) (Range.readMore x))
  return ⟨r :: rs, List.cons_ne_nil r rs⟩

def scanSingle (x : Source) : Scanner Partition := do
  let r ← ofReading (Range.read x)
  return single r

theorem ofReading_read (s : List Token) :
    ofReading (read x) s = if opensList s then scanList x s else scanSingle x s := by
  show (read x s).map _ = _
  unfold read
  split
  · exact ofReading_bind fun a v hv => rfl
  · exact ofReading_bind fun a v hv => rfl

theorem follows_scanList (hx : Source.Widens w w' x x') (s : List Token) :
    Follows x w (scanList x) (scanList x') [.one .partition] s := by
  refine .rule (f := [.mark .leftBracket, .one .range, .many .range, .mark .rightBracket])
    (by decide) ?_
  exact (Source.follows_enclosed hx rfl rfl (Range.follows_read hx)
    (Range.follows_readMore hx) s).bind fun a t _ => .done _

theorem follows_scanSingle (hx : Source.Widens w w' x x') (s : List Token) :
    Follows x w (scanSingle x) (scanSingle x') [.one .partition] s := by
  refine .rule (f := [.one .range]) (by decide) ?_
  exact (Range.follows_read hx s).bind fun a t _ => .done _

theorem opensList_congr {u v v' : List Token} (h : v'.head? = v.head?)
    (hu : u = [] → Source.next? v ≠ some .leftBracket) :
    opensList (u ++ v') = opensList (u ++ v) := by
  match u, v, v' with
  | [], [], [] => rfl
  | [], a :: v, a' :: v' =>
    cases h
    have ha : a.kind ≠ .leftBracket := fun hk => hu rfl (congrArg some hk)
    cases v <;> cases v' <;> simp [opensList, ha]
  | [a], [], [] => rfl
  | [a], b :: v, b' :: v' =>
    cases h
    rfl
  | a :: b :: u, v, v' => rfl

/-- behind a bracket a range can follow, and a list of ranges -/
theorem exists_scan (hx : Source.Widens w w' x x') {t : Token} (ht : t.kind = .leftBracket) :
    (∃ r a v, scanSingle x' (t :: r) = .ok (a, v)) ∧
      ∃ r a v, scanList x' (t :: r) = .ok (a, v) := by
  let range : Range := ⟨0, 0, none, Nat.le_refl 0, Nat.one_pos⟩
  have hr (v : List Terminal) : Range.Derives x'.settings.rangeForm w' (.mark .leftBracket ::
      .number 0 :: .mark .colon :: .number 0 :: .mark .rightBracket :: v) range v :=
    .plain v rfl rfl rfl
  constructor
  · obtain ⟨r, hs⟩ :=
      terminals_surjective [.number 0, .mark .colon, .number 0, .mark .rightBracket]
    have ho : opensList (t :: r) ≠ true := by
      rw [ne_eq, opensList_iff, terminals_cons, hs]
      rintro ⟨k, v, h, -⟩
      cases (List.cons.inj (List.cons.inj h).2).1
    have hp : Derives x'.settings.rangeForm w' (terminals (t :: r)) (single range) [] := by
      rw [terminals_cons, terminal_of_kind ht rfl, hs]
      exact .range (hr []) rfl
    obtain ⟨u, hu, -, e⟩ := read_of_derives hx.width' hp
    have e' := ofReading_ok.mpr ⟨hu, e⟩
    rw [ofReading_read, if_neg ho] at e'
    exact ⟨r, _, _, e'⟩
  · obtain ⟨r, hs⟩ := terminals_surjective
      [.mark .leftBracket, .number 0, .mark .colon, .number 0, .mark .rightBracket,
        .mark .rightBracket]
    have hs' : terminals (t :: r) = [.mark .leftBracket, .mark .leftBracket, .number 0,
        .mark .colon, .number 0, .mark .rightBracket, .mark .rightBracket] := by
      rw [terminals_cons, terminal_of_kind ht rfl, hs]
    have hp : Derives x'.settings.rangeForm w' (terminals (t :: r)) (single range) [] := by
      rw [hs']
      exact .list (hr _) (.nil _) rfl
    obtain ⟨u, hu, -, e⟩ := read_of_derives hx.width' hp
    have e' := ofReading_ok.mpr ⟨hu, e⟩
    rw [ofReading_read, if_pos (opensList_iff.mpr ⟨_, _, hs', .inl rfl⟩)] at e'
    exact ⟨r, _, _, e'⟩

/-- the kind of partition that was chosen is chosen on every list with the tokens looked at -/
theorem follows_chosen {p p' : Scanner Partition} {f : Form} {s : List Token}
    (hp : ofReading (read x) s = p s)
    (hp' : ∀ z, opensList z = opensList s → ofReading (read x') z = p' z)
    (opens : ∀ t r, s = t :: r → t.kind = .leftBracket → ∃ r' a v, p' (t :: r') = .ok (a, v))
    (followed : Follows x w p p' f s) :
    Follows x w (ofReading (read x)) (ofReading (read x')) f s where
  ok e := by
    have shorter := ofReading_shorter e
    rw [hp] at e
    obtain ⟨u, rfl, y, again⟩ := followed.ok e
    refine ⟨u, rfl, y, fun v' h => ?_⟩
    have hu : u ≠ [] := fun hu => by simp [hu] at shorter
    rw [hp' _ (opensList_congr h fun hu' => absurd hu' hu)]
    exact again v' h
  error e := by
    rw [hp] at e
    obtain ⟨u, r, rfl, stops⟩ := followed.error e
    refine ⟨u, r, rfl, ?_⟩
    cases stops with
    | fault g unfinished again =>
      refine .fault g unfinished fun r' hr => ?_
      rw [hp' _ (opensList_congr hr ?_)]
      · exact again r' hr
      · rintro rfl hb
        obtain ⟨t, r, rfl, ht⟩ := eq_cons_of_next? hb
        obtain ⟨v, a, z, accepted⟩ := opens t r rfl ht
        have rejected := again (t :: v) rfl
        rw [List.nil_append, accepted] at rejected
        cases rejected
    | range m opening offends => exact .range m opening offends
    | exhausted unfinished spent => exact .exhausted unfinished spent

theorem follows_read (hx : Source.Widens w w' x x') (s : List Token) :
    Follows x w (ofReading (read x)) (ofReading (read x')) [.one .partition] s := by
  by_cases ho : opensList s = true
  · refine follows_chosen ?_ (fun z hz => ?_) (fun t r _ ht => (exists_scan hx ht).2)
      (follows_scanList hx s)
    · rw [ofReading_read, if_pos ho]
    · rw [ofReading_read, if_pos (hz.trans ho)]
  · refine follows_chosen ?_ (fun z hz => ?_) (fun t r _ ht => (exists_scan hx ht).1)
      (follows_scanSingle hx s)
    · rw [ofReading_read, if_neg ho]
    · rw [ofReading_read, if_neg (hz ▸ ho)]

end Partition

/-! ## every phrase is scanned -/

namespace Range

theorem termVerdict_malformed (hw : x.settings.width = .whole w) (a : Token × Nat × Nat × Nat)
    (e : ReadError) (h : termVerdict x a = .error e) : ∃ m i, e = .range m i := by
  unfold termVerdict at h
  dsimp only at h
  rw [Source.limit_of_width hw] at h
  dsimp only [ok_bind] at h
  split at h
  · cases h
    exact ⟨_, _, rfl⟩
  · obtain ⟨m, rfl, -⟩ := checked_error h
    exact ⟨m, _, rfl⟩

theorem bracketVerdict_malformed (a : Token × Nat × Nat × Option Nat) (e : ReadError)
    (h : bracketVerdict a = .error e) : ∃ m i, e = .range m i := by
  obtain ⟨m, rfl, -⟩ := checked_error h
  exact ⟨m, _, rfl⟩

variable {f : Form} {s : List Token}

theorem leaves_readTerm (hw : x.settings.width = .whole w)
    (h : Yields (.mark .leftParen :: .mark .range :: .number :: .number :: .number ::
      .mark .rightParen :: f) (terminals s)) : Leaves (ofReading (readTerm x)) f s := by
  rw [ofReading_readTerm]
  refine .judge ?_ (termVerdict_malformed hw)
  exact (Leaves.expect h).bind fun t s₁ _ h => (Leaves.expect h).bind fun _ s₂ _ h =>
    (Leaves.number h).bind fun base s₃ _ h => (Leaves.number h).bind fun extent s₄ _ h =>
    (Leaves.number h).bind fun stride s₅ _ h => (Leaves.expect h).bind fun _ s₆ _ h => .done _ h

theorem leaves_readStride (h : Yields (.one .stride :: .mark .rightBracket :: f) (terminals s)) :
    Leaves (ofTrailing (readStride x)) (.mark .rightBracket :: f) s := by
  rw [ofTrailing_readStride]
  obtain h | h := h.of_either rfl
  · exact .passed (fun k hk => by cases (next?_mark h).symm.trans hk; rfl) (.done none h)
  · exact .chosen rfl h fun t _ h => (Leaves.number h).bind fun n v _ h => .done _ h

theorem leaves_readBracket
    (h : Yields (.mark .leftBracket :: .number :: .mark .colon :: .number :: .one .stride ::
      .mark .rightBracket :: f) (terminals s)) : Leaves (ofReading (readBracket x)) f s := by
  rw [ofReading_readBracket]
  refine .judge ?_ bracketVerdict_malformed
  exact (Leaves.expect h).bind fun t s₁ _ h => (Leaves.number h).bind fun start s₂ _ h =>
    (Leaves.expect h).bind fun _ s₃ _ h => (Leaves.number h).bind fun stop s₄ _ h =>
    (leaves_readStride h).bind fun stride s₅ _ h => (Leaves.expect h).bind fun _ s₆ _ h => .done _ h

theorem leaves_read (hw : x.settings.width = .whole w)
    (h : Yields (.one .range :: f) (terminals s)) : Leaves (ofReading (read x)) f s := by
  rw [ofReading_read]
  refine .front ?_
  obtain h | h := h.of_either rfl
  · rw [next?_mark h]
    exact leaves_readTerm hw h
  · rw [next?_mark h]
    exact leaves_readBracket h

theorem leaves_readMore (hw : x.settings.width = .whole w)
    (h : Yields (.many .range :: .mark .rightBracket :: f) (terminals s)) :
    Leaves (ofTrailing (readMore x)) (.mark .rightBracket :: f) s :=
  .loop (fun k => k ≠ some .rightBracket) (ofTrailing_loop loops (by simp))
    ofReading_shorter (leaves_read hw) (by decide) (by decide)
    (fun _ h => by simp [next?_mark h]) s h

end Range

theorem Source.leaves_enclosed {α : Type} {opening closing : Token.Kind}
    {first : (s : List Token) → Except ReadError (Reading α s)}
    {more : (s : List Token) → Except ReadError (Trailing (List α) s)} {a b : Grammar.Symbol}
    {f : Form} {s : List Token}
    (hf : ∀ {s}, Yields (.one a :: .many b :: .mark closing :: f) (terminals s) →
      Leaves (ofReading first) (.many b :: .mark closing :: f) s)
    (hm : ∀ {s}, Yields (.many b :: .mark closing :: f) (terminals s) →
      Leaves (ofTrailing more) (.mark closing :: f) s)
    (h : Yields (.mark opening :: .one a :: .many b :: .mark closing :: f) (terminals s)) :
    Leaves (ofReading (x.enclosed opening closing first more)) f s := by
  rw [ofReading_enclosed]
  exact (Leaves.expect h).bind fun _ s₁ _ h => (hf h).bind fun _ s₂ _ h =>
    (hm h).bind fun _ s₃ _ h => (Leaves.expect h).bind fun _ s₄ _ h => .done _ h

namespace Partition

variable {f : Form} {s : List Token}

theorem opensList_of_range (h : Yields (.one .range :: f) (terminals s)) : opensList s ≠ true := by
  rw [ne_eq, opensList_iff]
  rintro ⟨k, v, hs, hk⟩
  rw [hs] at h
  obtain h | h := h.of_either rfl
  · cases h
  · cases h with
    | mark k tail => cases tail

theorem opensList_of_ranges (h : Yields (.mark .leftBracket :: .one .range :: f) (terminals s)) :
    opensList s = true := by
  obtain ⟨a, r, rfl, ha, hr⟩ := cons_of_mark h
  obtain ⟨k, hk, hn⟩ := next?_one hr (by decide)
  obtain ⟨b, r, rfl, rfl⟩ := eq_cons_of_next? hn
  have hb : b.kind = .leftParen ∨ b.kind = .leftBracket := by simpa [Symbol.opens] using hk
  simpa [opensList, ha] using hb.symm

theorem leaves_read (hw : x.settings.width = .whole w)
    (h : Yields (.one .partition :: f) (terminals s)) : Leaves (ofReading (read x)) f s := by
  obtain h | h := h.of_either rfl
  · refine .of_eq ?_ ((ofReading_read s).trans (if_neg (opensList_of_range h)))
    exact (Range.leaves_read hw h).bind fun r t _ h => .done _ h
  · refine .of_eq ?_ ((ofReading_read s).trans (if_pos (opensList_of_ranges h)))
    exact (Source.leaves_enclosed (Range.leaves_read hw) (Range.leaves_readMore hw) h).bind
      fun r t _ h => .done _ h

end Partition

end BankSwitch
