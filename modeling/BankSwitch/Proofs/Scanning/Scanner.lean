import BankSwitch.Layout.Reader
import BankSwitch.Proofs.Grammar.Phrase

/-!
# Scanners

A scanner is a reader without the bound on what it leaves, so that readers can be put together by
`do`.  `Follows` says how a scanner stands to the grammar and to a second run of itself: on `s` it
takes a phrase, or stops at a token behind the beginning of one; and a scanner of the same kind on a
bus that is no narrower does the same on every list that begins with the tokens looked at.

Every scanner of the grammar follows its form, which `bind`, `rule`, `front` and `loop` put together
from the forms of its parts.
-/

namespace BankSwitch

open Grammar

variable {α β : Type}

/-! ## scanners -/

abbrev Scanner (α : Type) := StateT (List Token) (Except ReadError) α

namespace Scanner

def ofReading (read : (s : List Token) → Except ReadError (Reading α s)) : Scanner α :=
  fun s => (read s).map fun r => (r.value, r.rest)

def ofTrailing (read : (s : List Token) → Except ReadError (Trailing α s)) : Scanner α :=
  fun s => (read s).map fun q => (q.value, q.rest)

/-- a scanner chosen by the kind of the token in front -/
def front (p : Option Token.Kind → Scanner α) : Scanner α := fun s => p (Source.next? s) s

/-- the error of the token in front -/
def fail (x : Source) (g : GrammarFault) : Scanner α := fun s => .error (x.fault s g)

/-- the error of a scanner that was asked for more behind the end of the text -/
def exhausted : Scanner α := fun _ => .error .exhausted

/-- a verdict on what was scanned, which looks at no token -/
def judge (v : Except ReadError α) : Scanner α := fun s => v.map fun a => (a, s)

theorem bind_apply (p : Scanner α) (q : α → Scanner β) (s : List Token) :
    (p >>= q) s = p s >>= fun r => q r.1 r.2 := rfl

theorem bind_apply_ok {p : Scanner α} {s v : List Token} {a : α} (h : p s = .ok (a, v))
    (q : α → Scanner β) : (p >>= q) s = q a v := by
  rw [bind_apply, h]
  rfl

theorem bind_apply_error {p : Scanner α} {s : List Token} {e : ReadError} (h : p s = .error e)
    (q : α → Scanner β) : (p >>= q) s = .error e := by
  rw [bind_apply, h]
  rfl

theorem bind_congr_apply {p p' : Scanner α} {s : List Token} (h : p s = p' s)
    (q : α → Scanner β) : (p >>= q) s = (p' >>= q) s := by
  rw [bind_apply, bind_apply, h]

theorem judge_bind_ok {v : Except ReadError α} {a : α} (hv : v = .ok a) (q : α → Scanner β)
    (s : List Token) : (judge v >>= q) s = q a s := by
  subst hv
  rfl

theorem judge_bind_error {v : Except ReadError α} {e : ReadError} (hv : v = .error e)
    (q : α → Scanner β) (s : List Token) : (judge v >>= q) s = .error e := by
  subst hv
  rfl

theorem ofReading_ok {read : (s : List Token) → Except ReadError (Reading α s)} {s v : List Token}
    {a : α} : ofReading read s = .ok (a, v) ↔ ∃ hv, read s = .ok ⟨a, v, hv⟩ := by
  unfold ofReading
  cases read s with
  | error e => simp [Except.map]
  | ok r =>
    obtain ⟨b, u, hu⟩ := r
    constructor
    · intro h
      cases h
      exact ⟨hu, rfl⟩
    · rintro ⟨hv, h⟩
      cases h
      rfl

theorem ofReading_error {read : (s : List Token) → Except ReadError (Reading α s)}
    {s : List Token} {e : ReadError} : ofReading read s = .error e ↔ read s = .error e := by
  unfold ofReading
  cases read s <;> simp [Except.map]

theorem ofReading_shorter {read : (s : List Token) → Except ReadError (Reading α s)}
    {s v : List Token} {a : α} (h : ofReading read s = .ok (a, v)) : v.length < s.length :=
  (ofReading_ok.mp h).1

theorem ofTrailing_ok {read : (s : List Token) → Except ReadError (Trailing α s)}
    {s v : List Token} {a : α} : ofTrailing read s = .ok (a, v) ↔ ∃ hv, read s = .ok ⟨a, v, hv⟩ := by
  unfold ofTrailing
  cases read s with
  | error e => simp [Except.map]
  | ok r =>
    obtain ⟨b, u, hu⟩ := r
    constructor
    · intro h
      cases h
      exact ⟨hu, rfl⟩
    · rintro ⟨hv, h⟩
      cases h
      rfl

theorem expect_ok {x : Source} {k : Token.Kind} {t : Token} {s v : List Token}
    (h : ofReading (x.expect k) s = .ok (t, v)) : s = t :: v ∧ t.kind = k := by
  obtain ⟨hv, h⟩ := ofReading_ok.mp h
  obtain ⟨t', r, hr, rfl, hk, e⟩ := Source.expect_bind (f := pure) (bind_pure _ |>.trans h)
  cases e
  exact ⟨rfl, hk⟩

theorem expect_step {x : Source} {k : Token.Kind} {t : Token} (ht : t.kind = k)
    (q : Token → Scanner β) (r : List Token) : (ofReading (x.expect k) >>= q) (t :: r) = q t r :=
  bind_apply_ok (ofReading_ok.mpr ⟨_, Source.expect_cons ht r⟩) q

theorem number_ok {x : Source} {n : Nat} {s v : List Token}
    (h : ofReading x.number s = .ok (n, v)) : ∃ q, s = ⟨.number n, q⟩ :: v := by
  obtain ⟨hv, h⟩ := ofReading_ok.mp h
  obtain ⟨n', q, r, hr, rfl, e⟩ := Source.number_bind (f := pure) (bind_pure _ |>.trans h)
  cases e
  exact ⟨q, rfl⟩

/-- a step of a reader is a step of its scanner, whatever the reader makes of the rest -/
theorem ofReading_bind {γ : Type} {read : (s : List Token) → Except ReadError (Reading α s)}
    {t : List Token} {f : Reading α t → Except ReadError γ} {out : γ → β × List Token}
    {q : α → Scanner β} (h : ∀ a v hv, (f ⟨a, v, hv⟩).map out = q a v) :
    (read t >>= f).map out = (ofReading read >>= q) t := by
  rw [bind_apply]
  unfold ofReading
  cases read t with
  | error e => rfl
  | ok r => exact h r.value r.rest r.shorter

theorem ofTrailing_bind {γ : Type} {read : (s : List Token) → Except ReadError (Trailing α s)}
    {t : List Token} {f : Trailing α t → Except ReadError γ} {out : γ → β × List Token}
    {q : α → Scanner β} (h : ∀ a v hv, (f ⟨a, v, hv⟩).map out = q a v) :
    (read t >>= f).map out = (ofTrailing read >>= q) t := by
  rw [bind_apply]
  unfold ofTrailing
  cases read t with
  | error e => rfl
  | ok r => exact h r.value r.rest r.le

end Scanner

/-! ## malformed ranges -/

/-- a range term or a bracketed range in front whose bounds are those of `m` and bound no range of
the bus -/
inductive Range.Offends (form : RangeForm) (w : Nat) : List Terminal → Range.Malformed → Prop
  | term {m : Range.Malformed} {base extent stride : Nat} (v : List Terminal)
      (bounds : form.bounds base extent = (m.start, m.stop)) (step : m.stride = some (stride : Int))
      (wrong : addressCount w < m.stop ∨ m.stop < m.start ∨ stride = 0) :
      Offends form w (.mark .leftParen :: .mark .range :: .number base :: .number extent ::
        .number stride :: .mark .rightParen :: v) m
  | plain {m : Range.Malformed} {start stop : Nat} (v : List Terminal) (first : m.start = start)
      (last : m.stop = stop) (step : m.stride = none) (wrong : stop < start) :
      Offends form w (.mark .leftBracket :: .number start :: .mark .colon :: .number stop ::
        .mark .rightBracket :: v) m
  | strided {m : Range.Malformed} {start stop stride : Nat} (v : List Terminal)
      (first : m.start = start) (last : m.stop = stop) (step : m.stride = some (stride : Int))
      (wrong : stop < start ∨ stride = 0) :
      Offends form w (.mark .leftBracket :: .number start :: .mark .colon :: .number stop ::
        .mark .colon :: .number stride :: .mark .rightBracket :: v) m

/-! ## following the grammar -/

/-- the second source is on a bus that is no narrower; all else is the same -/
structure Source.Widens (w w' : Nat) (x x' : Source) : Prop where
  width : x.settings.width = .whole w
  width' : x'.settings.width = .whole w'
  le : w ≤ w'
  form : x'.settings.rangeForm = x.settings.rangeForm
  ending : x'.ending = x.ending

theorem Source.Widens.refl {w : Nat} {x : Source} (hw : x.settings.width = .whole w) :
    Source.Widens w w x x :=
  ⟨hw, hw, Nat.le_refl w, rfl, rfl⟩

namespace Scanner

variable {w w' : Nat} {x x' : Source}

/-- how a scanner may end in front of `r`, having taken `u` -/
inductive Stops (x : Source) (w : Nat) (p' : Scanner α) (f : Form) (u r : List Token) :
    ReadError → Prop
  | fault (g : GrammarFault) (unfinished : Unfinished f (terminals u))
      (again : ∀ r', r'.head? = r.head? → p' (u ++ r') = .error (x.fault r g)) :
      Stops x w p' f u r (x.fault r g)
  | range {t : Token} {v : List Token} (m : Range.Malformed) (opening : r = t :: v)
      (offends : Range.Offends x.settings.rangeForm w (terminals r) m) :
      Stops x w p' f u r (.range m t.position)
  | exhausted (unfinished : Unfinished f (terminals u)) (spent : r = []) :
      Stops x w p' f u r .exhausted

/-- on `s`, the scanner `p` takes a phrase of the form or stops for one of the reasons above, and
`p'` goes along -/
structure Follows (x : Source) (w : Nat) (p p' : Scanner α) (f : Form) (s : List Token) : Prop where
  ok : ∀ {a v}, p s = .ok (a, v) → ∃ u, s = u ++ v ∧ Yields f (terminals u) ∧
    ∀ v', v'.head? = v.head? → p' (u ++ v') = .ok (a, v')
  error : ∀ {e}, p s = .error e → ∃ u r, s = u ++ r ∧ Stops x w p' f u r e

theorem terminals_append (s t : List Token) : terminals (s ++ t) = terminals s ++ terminals t :=
  List.map_append

theorem head?_append_congr {u v v' : List Token} (h : v'.head? = v.head?) :
    (u ++ v').head? = (u ++ v).head? := by
  cases u with
  | nil => exact h
  | cons t u => rfl

theorem next?_congr {s s' : List Token} (h : s'.head? = s.head?) :
    Source.next? s' = Source.next? s := by
  cases s <;> cases s' <;> simp_all [Source.next?]

theorem fault_congr (hx : Source.Widens w w' x x') {r r' : List Token} (h : r'.head? = r.head?)
    (g : GrammarFault) : x'.fault r' g = x.fault r g := by
  cases r <;> cases r' <;> simp_all [Source.fault, hx.ending]

theorem mismatch_eq (x : Source) (k : Token.Kind) (s : List Token) :
    x.mismatch k s = x.fault s (.mismatch k ((s.head?.map Token.lexeme).getD .endOfInput)) := by
  cases s <;> rfl

theorem mismatch_congr (hx : Source.Widens w w' x x') {k : Token.Kind} {r r' : List Token}
    (h : r'.head? = r.head?) : x'.mismatch k r' = x.mismatch k r := by
  rw [mismatch_eq, mismatch_eq, h, fault_congr hx h]

theorem eq_cons_of_next? {s : List Token} {k : Token.Kind} (h : Source.next? s = some k) :
    ∃ t r, s = t :: r ∧ t.kind = k := by
  cases s with
  | nil => cases h
  | cons t r => exact ⟨t, r, rfl, Option.some.inj h⟩

theorem eq_nil_of_next? {s : List Token} (h : Source.next? s = none) : s = [] := by
  cases s with
  | nil => rfl
  | cons t r => cases h

theorem expect_of_ne {s : List Token} {k : Token.Kind} (h : Source.next? s ≠ some k) :
    x.expect k s = .error (x.mismatch k s) := by
  cases s with
  | nil => rfl
  | cons t r => exact if_neg fun ht => h (congrArg some ht)

theorem number_of_ne {s : List Token} (h : ∀ n q r, s ≠ ⟨.number n, q⟩ :: r) :
    x.number s = .error (x.mismatch .number s) := by
  unfold Source.number
  split
  · next n q r => exact absurd rfl (h _ _ _)
  · rfl

/-- a scanner stops where another does, if it fails with the same errors there -/
theorem Stops.imp {p' : Scanner α} {q' : Scanner β} {f g : Form} {u u' r : List Token}
    {e : ReadError} (h : Stops x w p' f u r e)
    (phrase : Unfinished f (terminals u) → Unfinished g (terminals u'))
    (fails : ∀ {r' e}, r'.head? = r.head? → p' (u ++ r') = .error e → q' (u' ++ r') = .error e) :
    Stops x w q' g u' r e := by
  cases h with
  | fault k unfinished again =>
    exact .fault k (phrase unfinished) fun r' hr => fails hr (again r' hr)
  | range m opening offends => exact .range m opening offends
  | exhausted unfinished spent => exact .exhausted (phrase unfinished) spent

namespace Follows

variable {p p' : Scanner α} {q q' : α → Scanner β} {f g : Form} {s : List Token}

theorem weaken (h : Follows x w p p' f s) (hfg : ∀ z, Yields f z → Yields g z) :
    Follows x w p p' g s where
  ok e := by
    obtain ⟨u, hs, hu, again⟩ := h.ok e
    exact ⟨u, hs, hfg _ hu, again⟩
  error e := by
    obtain ⟨u, r, hs, stops⟩ := h.error e
    exact ⟨u, r, hs, stops.imp (fun unfinished => unfinished.weaken hfg) fun _ again => again⟩

theorem rule {a : Symbol} (hf : f ∈ a.rules) (h : Follows x w p p' f s) :
    Follows x w p p' [.one a] s :=
  h.weaken fun _ hz => hz.of_rule hf

theorem done (a : α) : Follows x w (pure a) (pure a) [] s where
  ok e := by
    cases e
    exact ⟨[], rfl, .nil, fun v' _ => rfl⟩
  error e := by cases e

theorem fail (hx : Source.Widens w w' x x') (hf : f ≠ []) (g : GrammarFault) :
    Follows x w (Scanner.fail x g : Scanner α) (Scanner.fail x' g) f s where
  ok e := by cases e
  error e := by
    cases e
    refine ⟨[], s, rfl, .fault g (.start hf) fun r' h => ?_⟩
    exact congrArg Except.error (fault_congr hx h g)

theorem exhausted (hf : f ≠ []) (hs : s = []) :
    Follows x w (Scanner.exhausted : Scanner α) Scanner.exhausted f s where
  ok e := by cases e
  error e := by
    cases e
    exact ⟨[], s, rfl, .exhausted (.start hf) hs⟩

theorem bind (hp : Follows x w p p' f s)
    (hq : ∀ a t, p s = .ok (a, t) → Follows x w (q a) (q' a) g t) :
    Follows x w (p >>= q) (p' >>= q') (f ++ g) s where
  ok := by
    intro b v e
    obtain ⟨⟨a, t⟩, e₁, e₂⟩ := bind_ok e
    obtain ⟨u₁, rfl, y₁, again₁⟩ := hp.ok e₁
    obtain ⟨u₂, rfl, y₂, again₂⟩ := (hq a t e₁).ok e₂
    refine ⟨u₁ ++ u₂, (List.append_assoc ..).symm, ?_, fun v' h => ?_⟩
    · rw [terminals_append]
      exact y₁.append y₂
    · rw [List.append_assoc, bind_apply_ok (again₁ _ (head?_append_congr h))]
      exact again₂ v' h
  error := by
    intro e h
    cases e₁ : p s with
    | error e' =>
      rw [bind_apply_error e₁] at h
      cases h
      obtain ⟨u, r, hs, stops⟩ := hp.error e₁
      exact ⟨u, r, hs, stops.imp (fun unfinished => unfinished.append_right g)
        fun _ again => bind_apply_error again q'⟩
    | ok at' =>
      obtain ⟨a, t⟩ := at'
      rw [bind_apply_ok e₁] at h
      obtain ⟨u₁, rfl, y₁, again₁⟩ := hp.ok e₁
      obtain ⟨u₂, r, rfl, stops⟩ := (hq a t e₁).error h
      refine ⟨u₁ ++ u₂, r, (List.append_assoc ..).symm, stops.imp (fun unfinished => ?_) ?_⟩
      · rw [terminals_append]
        exact unfinished.append_left y₁
      · intro r' e hr again
        rw [List.append_assoc, bind_apply_ok (again₁ _ (head?_append_congr hr))]
        exact again

theorem one_more {a : Symbol} (h : Follows x w p p' [.one a, .many a] s) :
    Follows x w p p' [.many a] s :=
  h.weaken fun _ hz => hz.of_many

theorem no_more (a : α) (b : Symbol) :
    Follows x w (pure a) (pure a) [.many b] s :=
  (done a).weaken fun _ hz => .none b hz

/-- a verdict, on the values of the scanner before it -/
theorem judge {v v' : α → Except ReadError β} (hp : Follows x w p p' f s)
    (keeps : ∀ {a t b}, p s = .ok (a, t) → v a = .ok b → v' a = .ok b)
    (rejects : ∀ {a t e}, p s = .ok (a, t) → v a = .error e → ∃ t r m, s = t :: r ∧
      e = .range m t.position ∧ Range.Offends x.settings.rangeForm w (terminals s) m) :
    Follows x w (p >>= fun a => Scanner.judge (v a)) (p' >>= fun a => Scanner.judge (v' a)) f s where
  ok := by
    intro b z e
    obtain ⟨⟨a, t⟩, e₁, e₂⟩ := bind_ok e
    obtain ⟨u, hs, y, again⟩ := hp.ok e₁
    cases hb : v a with
    | error e => simp [Scanner.judge, hb, Except.map] at e₂
    | ok b' =>
      simp only [Scanner.judge, hb, Except.map, Except.ok.injEq, Prod.mk.injEq] at e₂
      obtain ⟨rfl, rfl⟩ := e₂
      refine ⟨u, hs, y, fun v' h => ?_⟩
      rw [bind_apply_ok (again v' h)]
      simp [Scanner.judge, keeps e₁ hb, Except.map]
  error := by
    intro e h
    cases e₁ : p s with
    | error e' =>
      rw [bind_apply_error e₁] at h
      cases h
      obtain ⟨u, r, hs, stops⟩ := hp.error e₁
      exact ⟨u, r, hs, stops.imp id fun _ again => bind_apply_error again _⟩
    | ok at' =>
      obtain ⟨a, t⟩ := at'
      rw [bind_apply_ok e₁] at h
      cases hb : v a with
      | ok b => simp [Scanner.judge, hb, Except.map] at h
      | error e' =>
        simp only [Scanner.judge, hb, Except.map, Except.error.injEq] at h
        subst h
        obtain ⟨t, r, m, hs, rfl, offends⟩ := rejects e₁ hb
        exact ⟨[], s, rfl, .range m hs offends⟩

theorem front {p p' : Option Token.Kind → Scanner α}
    (h : Follows x w (p (Source.next? s)) (p' (Source.next? s)) f s) :
    Follows x w (Scanner.front p) (Scanner.front p') f s where
  ok e := by
    obtain ⟨u, rfl, y, again⟩ := h.ok e
    refine ⟨u, rfl, y, fun v' hv => ?_⟩
    rw [← again v' hv]
    exact congrArg (p' · _) (next?_congr (head?_append_congr hv))
  error e := by
    obtain ⟨u, r, rfl, stops⟩ := h.error e
    refine ⟨u, r, rfl, stops.imp id fun hr again => ?_⟩
    rw [← again]
    exact congrArg (p' · _) (next?_congr (head?_append_congr hr))

/-! ## single tokens -/

/-- a scanner that takes the token in front, whatever stands behind it -/
theorem takes {t : Token} {r : List Token} {a : α} (hy : Yields f [t.terminal])
    (h : p (t :: r) = .ok (a, r)) (h' : ∀ v, p' (t :: v) = .ok (a, v)) :
    Follows x w p p' f (t :: r) where
  ok e := by
    rw [h] at e
    cases e
    exact ⟨[t], rfl, hy, fun v' _ => h' v'⟩
  error e := by
    rw [h] at e
    cases e

/-- a scanner that asks for another kind of token than the one in front -/
theorem rejects (hx : Source.Widens w w' x x') (k : Token.Kind) (hf : f ≠ [])
    (h : p s = .error (x.mismatch k s))
    (h' : ∀ r, r.head? = s.head? → p' r = .error (x'.mismatch k r)) : Follows x w p p' f s where
  ok e := by
    rw [h] at e
    cases e
  error e := by
    rw [h, mismatch_eq] at e
    cases e
    refine ⟨[], s, rfl, .fault _ (.start hf) fun r hr => ?_⟩
    rw [← mismatch_eq, ← mismatch_congr hx hr]
    exact h' r hr

theorem expect (hx : Source.Widens w w' x x') {k : Token.Kind} (s : List Token)
    (hk : (k == .number) = false) :
    Follows x w (ofReading (x.expect k)) (ofReading (x'.expect k)) [.mark k] s := by
  by_cases hn : Source.next? s = some k
  · obtain ⟨t, r, rfl, ht⟩ := eq_cons_of_next? hn
    have take (y : Source) (v : List Token) : ofReading (y.expect k) (t :: v) = .ok (t, v) :=
      ofReading_ok.mpr ⟨_, Source.expect_cons ht v⟩
    refine .takes ?_ (take x r) (take x')
    rw [terminal_of_kind ht hk]
    exact .mark k .nil
  · have reject (y : Source) (r : List Token) (hr : r.head? = s.head?) :
        ofReading (y.expect k) r = .error (y.mismatch k r) :=
      ofReading_error.mpr (expect_of_ne (next?_congr hr ▸ hn))
    exact .rejects hx k (by simp) (reject x s rfl) (reject x')

theorem number (hx : Source.Widens w w' x x') (s : List Token) :
    Follows x w (ofReading x.number) (ofReading x'.number) [.number] s := by
  by_cases hn : ∃ n q r, s = ⟨.number n, q⟩ :: r
  · obtain ⟨n, q, r, rfl⟩ := hn
    have take (y : Source) (v : List Token) : ofReading y.number (⟨.number n, q⟩ :: v) = .ok (n, v) :=
      ofReading_ok.mpr ⟨_, Source.number_cons n q v⟩
    exact .takes (.number n .nil) (take x r) (take x')
  · have reject (y : Source) (r : List Token) (hr : r.head? = s.head?) :
        ofReading y.number r = .error (y.mismatch .number r) := by
      refine ofReading_error.mpr (number_of_ne fun n q v e => hn ?_)
      subst e
      exact ⟨n, q, List.head?_eq_some_iff.mp hr.symm⟩
    exact .rejects hx .number (by simp) (reject x s rfl) (reject x')

end Follows

/-! ## scanners that a table chooses -/

/-- a token with an entry in the table, and what its entry asks for; another scanner if the token in
front has none -/
def choose (x : Source) (table : Token.Kind → Option α) (p : α → Scanner β)
    (otherwise : Scanner β) : Scanner β := front fun
  | none => otherwise
  | some k => match table k with
    | none => otherwise
    | some a => ofReading (x.expect k) >>= fun _ => p a

theorem choose_none {x : Source} {table : Token.Kind → Option α} {t : Token}
    (h : table t.kind = none) (p : α → Scanner β) (o : Scanner β) (r : List Token) :
    choose x table p o (t :: r) = o (t :: r) := by
  unfold choose front
  dsimp only [Source.next?]
  rw [h]

theorem choose_some {x : Source} {table : Token.Kind → Option α} {t : Token} {a : α}
    (h : table t.kind = some a) (p : α → Scanner β) (o : Scanner β) (r : List Token) :
    choose x table p o (t :: r) = p a r := by
  unfold choose front
  dsimp only [Source.next?]
  rw [h]
  exact expect_step rfl _ r

theorem Follows.choose (hx : Source.Widens w w' x x') {table : Token.Kind → Option α}
    {p p' : α → Scanner β} {o o' : Scanner β} {f g h : Form} {s : List Token}
    (plain : table .number = none)
    (chosen : ∀ k b, table k = some b → ∀ z, Yields (.mark k :: f) z → Yields h z)
    (hp : ∀ b t, t.length < s.length → Follows x w (p b) (p' b) f t)
    (other : ∀ z, Yields g z → Yields h z) (ho : Follows x w o o' g s) :
    Follows x w (Scanner.choose x table p o) (Scanner.choose x' table p' o') h s := by
  refine .front ?_
  cases hs : Source.next? s with
  | none => exact ho.weaken other
  | some k =>
    dsimp only
    cases hk : table k with
    | none => exact ho.weaken other
    | some b =>
      have mark : (k == .number) = false := by
        refine beq_eq_false_iff_ne.mpr ?_
        rintro rfl
        rw [plain] at hk
        cases hk
      have both : Follows x w (ofReading (x.expect k) >>= fun _ => p b)
          (ofReading (x'.expect k) >>= fun _ => p' b) (.mark k :: f) s :=
        (Follows.expect hx s mark).bind fun _ t e => hp b t (ofReading_shorter e)
      exact both.weaken (chosen k b hk)

/-! ## loops -/

/-- one turn of a loop that goes on for as long as the token in front asks for it -/
def turn (goesOn : Option Token.Kind → Bool) (p : Scanner α) (more : Scanner (List α)) :
    Scanner (List α) := front fun k =>
  if goesOn k then do
    let b ← p
    let bs ← more
    return b :: bs
  else pure []

theorem ofTrailing_loop {ahead : List Token → Prop} {goesOn : Option Token.Kind → Bool}
    {read : (s : List Token) → Except ReadError (Reading α s)}
    {more : (s : List Token) → Except ReadError (Trailing (List α) s)}
    (loop : Source.Loops ahead read more) (h : ∀ s, ahead s ↔ goesOn (Source.next? s) = true) :
    ofTrailing more = turn goesOn (ofReading read) (ofTrailing more) := by
  funext s
  unfold turn front
  show (more s).map _ = _
  by_cases hs : ahead s
  · rw [loop.step s hs]
    dsimp only
    rw [if_pos ((h s).mp hs)]
    exact ofReading_bind fun b t _ => ofTrailing_bind fun bs v _ => rfl
  · rw [loop.stop s hs]
    dsimp only
    rw [if_neg fun hg => hs ((h s).mpr hg)]
    rfl

theorem Follows.loop (goesOn : Option Token.Kind → Bool) {more more' : Scanner (List α)}
    {p p' : Scanner α} {a : Symbol} (hm : more = turn goesOn p more)
    (hm' : more' = turn goesOn p' more') (hp : ∀ s, Follows x w p p' [.one a] s)
    (shorter : ∀ {s b v}, p s = .ok (b, v) → v.length < s.length) (s : List Token) :
    Follows x w more more' [.many a] s := by
  rw [hm, hm']
  refine .front ?_
  split
  · refine .one_more ((hp s).bind fun b t e => ?_)
    have := shorter e
    have tail : Follows x w more more' [.many a] t := loop goesOn hm hm' hp shorter t
    exact tail.bind fun bs v _ => .done (b :: bs)
  · exact .no_more [] a
termination_by s.length

end Scanner

end BankSwitch
