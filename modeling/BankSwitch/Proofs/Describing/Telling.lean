import BankSwitch.Proofs.Fits
import BankSwitch.Proofs.Printing.Scan

/-!
# Texts that tell things apart

A text shows what it was put together from only if no piece of it can be mistaken for another one.
`Tells s t follow p` says that if `s` and `t` both begin one text, each in front of something that
`follow` admits, then `p` holds and the same is left of that text.

* `Tells.append`, `Tells.followed`, `Tells.lead`, `Tells.before`, `Tells.between`   pieces in a row;
* `Tells.differ`, `tells_code`   pieces that cannot both begin a text, as they differ at once or as no
  word of a code begins another;
* `tells_nat`, `tells_hex`   numbers, in front of what is no digit;
* `tells_joined`, `tells_intercalate`   lists, in front of what begins no element.
-/

namespace BankSwitch

variable {s s' t t' : String} {follow follow' : List Char → Prop} {p q : Prop}

/-! ## pieces -/

/-- where both texts begin one text, `p` holds and they are the same piece of it; `follow` admits what
may stand behind them -/
def Tells (s t : String) (follow : List Char → Prop) (p : Prop) : Prop :=
  ∀ u v, follow u → follow v → s.toList ++ u = t.toList ++ v → p ∧ u = v

/-- anything may follow -/
def anyText (_ : List Char) : Prop := True

theorem tells_same (s : String) : Tells s s anyText True := by
  intro u v _ _ e
  exact ⟨trivial, List.append_cancel_left e⟩

namespace Tells

theorem imp (h : Tells s t follow p) (hpq : p → q) : Tells s t follow q := by
  intro u v hu hv e
  obtain ⟨hp, same⟩ := h u v hu hv e
  exact ⟨hpq hp, same⟩

theorem restrict (h : Tells s t follow p) (hf : ∀ u, follow' u → follow u) :
    Tells s t follow' p := by
  intro u v hu hv e
  exact h u v (hf u hu) (hf v hv) e

theorem weaken (h : Tells s t anyText p) : Tells s t follow p := h.restrict fun _ _ => trivial

theorem symm (h : Tells s t follow p) : Tells t s follow p := by
  intro u v hu hv e
  obtain ⟨hp, same⟩ := h v u hv hu e.symm
  exact ⟨hp, same.symm⟩

theorem append (h : Tells s t follow p) (h' : Tells s' t' follow' q)
    (hs : ∀ u, follow' u → follow (s'.toList ++ u))
    (ht : ∀ u, follow' u → follow (t'.toList ++ u)) :
    Tells (s ++ s') (t ++ t') follow' (p ∧ q) := by
  intro u v hu hv e
  rw [String.toList_append, String.toList_append, List.append_assoc, List.append_assoc] at e
  obtain ⟨hp, behind⟩ := h _ _ (hs u hu) (ht v hv) e
  obtain ⟨hq, same⟩ := h' u v hu hv behind
  exact ⟨⟨hp, hq⟩, same⟩

/-- pieces of which the first may stand before anything -/
theorem followed (h : Tells s t anyText p) (h' : Tells s' t' follow q) :
    Tells (s ++ s') (t ++ t') follow (p ∧ q) := h.append h' (fun _ _ => trivial) fun _ _ => trivial

/-- the same text in front -/
theorem lead (l : String) (h : Tells s t follow p) : Tells (l ++ s) (l ++ t) follow p :=
  ((tells_same l).followed h).imp And.right

/-- the same text behind -/
theorem before (h : Tells s t follow p) (l : String) (hl : ∀ u, follow (l.toList ++ u)) :
    Tells (s ++ l) (t ++ l) anyText p := by
  have both := h.append (tells_same l) (fun u _ => hl u) fun u _ => hl u
  exact both.imp And.left

/-- the same text between -/
theorem between (h : Tells s t follow p) (l : String) (hl : ∀ u, follow (l.toList ++ u))
    (h' : Tells s' t' follow' q) : Tells (s ++ l ++ s') (t ++ l ++ t') follow' (p ∧ q) :=
  (h.before l hl).followed h'

/-- nothing stands behind -/
theorem of_eq (h : Tells s t follow p) (hnil : follow []) (e : s = t) : p := by
  refine (h [] [] hnil hnil ?_).1
  rw [e]

end Tells

/-! ## what cannot both begin a text -/

def isChar (c d : Char) : Bool := decide (d = c)

/-- the list is not empty and begins with an admitted character -/
def Starts (a : Char → Bool) (u : List Char) : Prop := ∃ c r, u = c :: r ∧ a c = true

theorem Begins.starts {a : Char → Bool} (h : Begins a s) (u : List Char) :
    Starts a (s.toList ++ u) := by
  obtain ⟨c, r, hs, hc⟩ := h
  exact ⟨c, r ++ u, by rw [hs]; rfl, hc⟩

theorem Begins.mono {a b : Char → Bool} (h : Begins a s) (hab : ∀ c, a c = true → b c = true) :
    Begins b s := by
  obtain ⟨c, r, hs, hc⟩ := h
  exact ⟨c, r, hs, hab c hc⟩

theorem Begins.or_left {a b : Char → Bool} (h : Begins a s) : Begins (fun c => a c || b c) s := by
  refine h.mono fun c hc => ?_
  rw [hc, Bool.true_or]

theorem Begins.or_right {a b : Char → Bool} (h : Begins b s) : Begins (fun c => a c || b c) s := by
  refine h.mono fun c hc => ?_
  rw [hc, Bool.or_true]

theorem Starts.differ {a : Char → Bool} {d : Char} {u : List Char} (had : a d = false)
    (h : Starts a u) : ¬ Starts (isChar d) u := by
  rintro ⟨c, r, rfl, hc⟩
  obtain ⟨c', r', e, hc'⟩ := h
  cases e
  cases of_decide_eq_true hc
  rw [had] at hc'
  cases hc'

theorem Tells.differ {a : Char → Bool} {d : Char} (hs : Begins a s) (ht : Begins (isChar d) t)
    (had : a d = false) : Tells s t follow p := by
  intro u v _ _ e
  have first := hs.starts u
  rw [e] at first
  exact absurd (ht.starts v) (first.differ had)

/-- none of the words begins another one -/
theorem tells_code {β : Type} {code : β → String}
    (free : ∀ x y, (code x).toList <+: (code y).toList → x = y) (x y : β) :
    Tells (code x) (code y) anyText (x = y) := by
  intro u v _ _ e
  have same : x = y := by
    have hx : (code x).toList <+: (code y).toList ++ v := ⟨u, e⟩
    obtain h | h := List.prefix_or_prefix_of_prefix hx (List.prefix_append _ v)
    · exact free x y h
    · exact (free y x h).symm
  subst same
  exact ⟨rfl, List.append_cancel_left e⟩

/-! ## numbers -/

open CharClass (isHexDigit)

/-- does not go on with a number -/
def Apart (u : List Char) : Prop := ∀ c ∈ u.head?, notWordChar c = true

theorem Starts.apart {a : Char → Bool} {u : List Char} (h : Starts a u)
    (ha : ∀ c, a c = true → notWordChar c = true) : Apart u := by
  obtain ⟨c, r, rfl, hc⟩ := h
  rintro d ⟨⟩
  exact ha c hc

theorem Starts.apart_char {c : Char} {u : List Char} (h : Starts (isChar c) u)
    (hc : notWordChar c = true) : Apart u := by
  refine h.apart fun d hd => ?_
  cases of_decide_eq_true hd
  exact hc

theorem apart_nil : Apart [] := fun _ hc => nomatch hc

theorem Begins.apart (h : Begins notWordChar s) (u : List Char) : Apart (s.toList ++ u) :=
  (h.starts u).apart fun _ hc => hc

theorem digits_tell {b n m : Nat} (hb : 1 < b) (hb' : b ≤ 16) {u v : List Char} (hu : Apart u)
    (hv : Apart v) (e : Nat.toDigits b n ++ u = Nat.toDigits b m ++ v) : n = m ∧ u = v := by
  -- the numbers are the longest runs of digits that the two sides begin with
  obtain ⟨digits, left⟩ := takeWhile_stop
    (fun c (hc : c ∈ Nat.toDigits b n) => isHexDigit_of_mem_toDigits hb hb' hc)
    fun c hc => isHexDigit_of_notWordChar (hu c hc)
  obtain ⟨digits', left'⟩ := takeWhile_stop
    (fun c (hc : c ∈ Nat.toDigits b m) => isHexDigit_of_mem_toDigits hb hb' hc)
    fun c hc => isHexDigit_of_notWordChar (hv c hc)
  rw [e, digits'] at digits
  rw [e, left'] at left
  refine ⟨?_, left.symm⟩
  rw [← digitsValue_toDigits hb hb' n, ← digits, digitsValue_toDigits hb hb' m]

theorem tells_nat (n m : Nat) : Tells (toString n) (toString m) Apart (n = m) := by
  intro u v hu hv e
  rw [Nat.toString_eq_repr, Nat.toString_eq_repr, Nat.toList_repr, Nat.toList_repr] at e
  exact digits_tell (by decide) (by decide) hu hv e

theorem hexText_natCast (n : Nat) : hexText n = "0x" ++ String.ofList (Nat.toDigits 16 n) := by
  unfold hexText
  rw [if_neg (by omega)]
  rfl

theorem tells_hex (n m : Nat) : Tells (hexText n) (hexText m) Apart (n = m) := by
  rw [hexText_natCast, hexText_natCast]
  refine Tells.lead "0x" fun u v hu hv e => ?_
  rw [String.toList_ofList, String.toList_ofList] at e
  exact digits_tell (by decide) (by decide) hu hv e

theorem OnBus.tells {w w' : Nat} {v v' : Int} (hv : OnBus w v) (hv' : OnBus w' v') :
    Tells (toString v) (toString v') Apart (v = v') := by
  obtain ⟨n, rfl, -⟩ := hv
  obtain ⟨m, rfl, -⟩ := hv'
  exact (tells_nat n m).imp fun same => congrArg Int.ofNat same

theorem OnBus.begins {w : Nat} {v : Int} (hv : OnBus w v) : Begins isHexDigit (toString v) := by
  obtain ⟨n, rfl, -⟩ := hv
  exact begins_decimal (by decide) n

/-! ## lists -/

section

variable {β : Type} {text : β → String} {a : Char → Bool} {d : Char} {xs ys : List β}

theorem begins_joined {x : β} (hx : Begins a (text x)) : Begins a (joined ((x :: xs).map text)) :=
  hx.append (joined (xs.map text))

theorem follow_joined {u : List Char} (hu : follow u) (hx : ∀ x ∈ xs, Begins a (text x))
    (hlead : ∀ u, Starts a u → follow u) : follow ((joined (xs.map text)).toList ++ u) := by
  cases xs with
  | nil => exact hu
  | cons x xs => exact hlead _ ((begins_joined (hx x List.mem_cons_self)).starts u)

theorem tells_joined_nil (had : a d = false) {y : β} (hy : Begins a (text y)) :
    Tells "" (joined ((y :: ys).map text)) (Starts (isChar d)) p := by
  intro u v hu _ e
  have first : Starts a u := by
    rw [show u = _ from e]
    exact (begins_joined hy).starts v
  exact absurd hu (first.differ had)

/-- elements one behind the other, in front of a character that begins none of them -/
theorem tells_joined (had : a d = false) (hlead : ∀ u, Starts a u → follow u)
    (hlast : ∀ u, Starts (isChar d) u → follow u) (hx : ∀ x ∈ xs, Begins a (text x))
    (hy : ∀ y ∈ ys, Begins a (text y))
    (told : ∀ x ∈ xs, ∀ y ∈ ys, Tells (text x) (text y) follow (x = y)) :
    Tells (joined (xs.map text)) (joined (ys.map text)) (Starts (isChar d)) (xs = ys) := by
  -- where one list is at its end, `d` is next, so the other has no element left either
  induction xs generalizing ys with
  | nil =>
    cases ys with
    | nil => exact (tells_same "").weaken.imp fun _ => rfl
    | cons y ys => exact tells_joined_nil had (hy y List.mem_cons_self)
  | cons x xs ih =>
    cases ys with
    | nil => exact (tells_joined_nil had (hx x List.mem_cons_self)).symm
    | cons y ys =>
      have hx' : ∀ z ∈ xs, Begins a (text z) := fun z hz => hx z (List.mem_cons_of_mem x hz)
      have hy' : ∀ z ∈ ys, Begins a (text z) := fun z hz => hy z (List.mem_cons_of_mem y hz)
      have rest := ih hx' hy' fun z hz z' hz' =>
        told z (List.mem_cons_of_mem x hz) z' (List.mem_cons_of_mem y hz')
      have both := (told x List.mem_cons_self y List.mem_cons_self).append rest
        (fun u hu => follow_joined (hlast u hu) hx' hlead)
        (fun u hu => follow_joined (hlast u hu) hy' hlead)
      exact both.imp fun ⟨head, tail⟩ => by rw [head, tail]

/-- elements behind a piece that they may follow -/
theorem Tells.append_joined (first : Tells s t follow p) (had : a d = false)
    (hlead : ∀ u, Starts a u → follow u) (hlast : ∀ u, Starts (isChar d) u → follow u)
    (hx : ∀ x ∈ xs, Begins a (text x)) (hy : ∀ y ∈ ys, Begins a (text y))
    (told : ∀ x ∈ xs, ∀ y ∈ ys, Tells (text x) (text y) follow (x = y)) :
    Tells (s ++ joined (xs.map text)) (t ++ joined (ys.map text)) (Starts (isChar d))
      (p ∧ xs = ys) :=
  first.append (tells_joined had hlead hlast hx hy told)
    (fun u hu => follow_joined (hlast u hu) hx hlead)
    fun u hu => follow_joined (hlast u hu) hy hlead

/-- elements with a separator between them -/
theorem tells_intercalate {sep : String} {c : Char} {x y : β} (hsep : Begins (isChar c) sep)
    (hcd : isChar c d = false) (hlead : ∀ u, Starts (isChar c) u → follow u)
    (hlast : ∀ u, Starts (isChar d) u → follow u)
    (told : ∀ z ∈ x :: xs, ∀ z' ∈ y :: ys, Tells (text z) (text z') follow (z = z')) :
    Tells (sep.intercalate ((x :: xs).map text)) (sep.intercalate ((y :: ys).map text))
      (Starts (isChar d)) (x :: xs = y :: ys) := by
  have behind (z : β) (zs : List β) : sep.intercalate ((z :: zs).map text) =
      text z ++ joined (zs.map fun z => sep ++ text z) := by
    rw [List.map_cons, intercalate_behind, List.map_map]
    rfl
  have begins (z : β) : Begins (isChar c) (sep ++ text z) := hsep.append (text z)
  have first := told x List.mem_cons_self y List.mem_cons_self
  rw [behind x xs, behind y ys]
  have both := first.append_joined hcd hlead hlast (fun z (_ : z ∈ xs) => begins z)
    (fun z (_ : z ∈ ys) => begins z) fun z hz z' hz' =>
      (told z (List.mem_cons_of_mem x hz) z' (List.mem_cons_of_mem y hz')).lead sep
  exact both.imp fun ⟨head, tail⟩ => by rw [head, tail]

end

end BankSwitch
