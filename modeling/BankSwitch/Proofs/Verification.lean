import BankSwitch.Proofs.Evaluation
import BankSwitch.Trace.Basic

/-!
# Checking what is read against traces

A trace asks for the addresses in its entries, and checking a component that was read goes through
these requests in the order of cycles, within a cycle in the order of ports.  It reports those that
have no bank and those whose bank cannot be read, each of them once, and nothing else; it never fails
(`Component.verify_ofText`).  A trace behind another one is checked as it is alone, with its cycles
numbered further on.
-/

namespace BankSwitch

variable {α : Type} {w : Nat} {form : RangeForm}

/-! ## requests -/

namespace Request

/-- an earlier cycle, or a lower port in the same cycle -/
def Before (q r : Request) : Prop :=
  q.cycle < r.cycle ∨ q.cycle = r.cycle ∧ q.port < r.port

/-- the same request, `n` cycles later -/
def later (n : Nat) (q : Request) : Request := { q with cycle := n + q.cycle }

end Request

namespace Trace

/-- the entry in the cycle and at the port of the request is its address -/
def Asks (t : Trace) (q : Request) : Prop :=
  ∃ cycle, t.cycles[q.cycle]? = some cycle ∧ cycle[q.port]? = some (some q.address)

/-- one trace behind another -/
def append (t u : Trace) : Trace := ⟨t.cycles ++ u.cycles⟩

/-- the requests of one cycle -/
def cycleRequests (cycle : List (Option Nat)) (i : Nat) : List Request :=
  cycle.zipIdx.filterMap fun (a, p) => a.map fun a => ⟨i, p, a⟩

theorem requests_eq (t : Trace) :
    t.requests = t.cycles.zipIdx.flatMap fun c => cycleRequests c.1 c.2 := rfl

theorem mem_cycleRequests {cycle : List (Option Nat)} {i : Nat} {q : Request} :
    q ∈ cycleRequests cycle i ↔ q.cycle = i ∧ cycle[q.port]? = some (some q.address) := by
  unfold cycleRequests
  rw [List.mem_filterMap]
  constructor
  · rintro ⟨⟨entry, p⟩, hp, hq⟩
    obtain ⟨a, rfl, rfl⟩ := Option.map_eq_some_iff.mp hq
    exact ⟨rfl, List.mk_mem_zipIdx_iff_getElem?.mp hp⟩
  · rintro ⟨rfl, hq⟩
    exact ⟨(some q.address, q.port), List.mk_mem_zipIdx_iff_getElem?.mpr hq, rfl⟩

/-- what is requested is what the entries ask for -/
theorem mem_requests {t : Trace} {q : Request} : q ∈ t.requests ↔ t.Asks q := by
  rw [requests_eq, List.mem_flatMap]
  constructor
  · rintro ⟨⟨cycle, i⟩, hc, hq⟩
    obtain ⟨rfl, entry⟩ := mem_cycleRequests.mp hq
    exact ⟨cycle, List.mk_mem_zipIdx_iff_getElem?.mp hc, entry⟩
  · rintro ⟨cycle, hc, entry⟩
    exact ⟨(cycle, q.cycle), List.mk_mem_zipIdx_iff_getElem?.mpr hc,
      mem_cycleRequests.mpr ⟨rfl, entry⟩⟩

theorem pairwise_zipIdx {β : Type} (l : List β) : l.zipIdx.Pairwise fun a b => a.2 < b.2 := by
  have numbers : (l.zipIdx.map Prod.snd).Pairwise (· < ·) := by
    rw [List.zipIdx_map_snd]
    exact List.pairwise_lt_range'
  exact List.pairwise_map.mp numbers

theorem cycleRequests_ordered (cycle : List (Option Nat)) (i : Nat) :
    (cycleRequests cycle i).Pairwise Request.Before := by
  refine (pairwise_zipIdx cycle).filterMap _ fun a b hab q hq r hr => ?_
  obtain ⟨x, -, rfl⟩ := Option.map_eq_some_iff.mp hq
  obtain ⟨y, -, rfl⟩ := Option.map_eq_some_iff.mp hr
  exact .inr ⟨rfl, hab⟩

/-- requests stand in the order of cycles and ports, so none stands there twice -/
theorem requests_ordered (t : Trace) : t.requests.Pairwise Request.Before := by
  rw [requests_eq, List.pairwise_flatMap]
  refine ⟨fun c _ => cycleRequests_ordered c.1 c.2, ?_⟩
  refine (pairwise_zipIdx t.cycles).imp fun hab q hq r hr => .inl ?_
  rw [(mem_cycleRequests.mp hq).1, (mem_cycleRequests.mp hr).1]
  exact hab

theorem cycleRequests_later (cycle : List (Option Nat)) (n i : Nat) :
    cycleRequests cycle (n + i) = (cycleRequests cycle i).map (Request.later n) := by
  unfold cycleRequests
  rw [List.map_filterMap]
  simp only [Option.map_map]
  rfl

theorem requests_append (t u : Trace) :
    (t.append u).requests = t.requests ++ u.requests.map (Request.later t.cycles.length) := by
  have cycles : (t.append u).cycles = t.cycles ++ u.cycles := rfl
  simp only [requests_eq, cycles, List.zipIdx_append, Nat.zero_add, List.flatMap_append]
  rw [List.zipIdx_eq_map_add (i := t.cycles.length), List.flatMap_map, List.map_flatMap]
  simp only [cycleRequests_later]

end Trace

/-! ## verdicts -/

/-- the same violation, `n` cycles later -/
def TraceViolation.later (n : Nat) (v : TraceViolation) : TraceViolation :=
  { v with request := v.request.later n }

/-- a bank that fits can be read at an address, or cannot -/
theorem Bank.Fits.canRead_ok {b : Bank α} (h : b.Fits form w) (a : Int) :
    ∃ readable, b.canRead w a = .ok readable := by
  obtain ⟨slot, e, -⟩ := Translation.eval_ok h.translation a Inputs.none
  exact ⟨_, by unfold canRead; rw [e]; rfl⟩

namespace Component

/-- the request has no bank, or one that cannot be read at its address -/
inductive Refuses (c : Component α) : TraceViolation → Prop
  | noBank {q : Request} (behind : c.banks.length ≤ q.port) :
      Refuses c ⟨q, .noBank c.banks.length⟩
  | unreadable {q : Request} {b : Bank α} (bank : c.banks[q.port]? = some b)
      (unread : b.canRead c.width q.address = .ok false) : Refuses c ⟨q, .unreadable q.port⟩

/-- the violation that a request is, if it is one -/
def verdict (c : Component α) (q : Request) : Option TraceViolation :=
  match c.objection q with
  | .ok v => v
  | .error _ => none

theorem objection_ok {c : Component α} (h : c.Fits form w) (q : Request) :
    c.objection q = .ok (c.verdict q) := by
  have some_verdict : ∃ v, c.objection q = .ok v := by
    unfold objection
    cases hb : c.banks[q.port]? with
    | none => exact ⟨_, rfl⟩
    | some b =>
      obtain ⟨readable, e⟩ := (h.banks b (List.mem_of_getElem? hb)).canRead_ok q.address
      rw [h.width]
      dsimp only
      rw [e]
      exact ⟨_, rfl⟩
  obtain ⟨v, e⟩ := some_verdict
  unfold verdict
  rw [e]

theorem verdict_eq_some {c : Component α} (h : c.Fits form w) {q : Request} {v : TraceViolation} :
    c.verdict q = some v ↔ v.request = q ∧ c.Refuses v := by
  unfold verdict objection
  cases hb : c.banks[q.port]? with
  | none =>
    dsimp only
    have behind : c.banks.length ≤ q.port := List.getElem?_eq_none_iff.mp hb
    constructor
    · rintro ⟨⟩
      exact ⟨rfl, .noBank behind⟩
    · rintro ⟨rfl, refused⟩
      cases refused with
      | noBank => rfl
      | unreadable bank => rw [hb] at bank; cases bank
  | some b =>
    obtain ⟨readable, e⟩ := (h.banks b (List.mem_of_getElem? hb)).canRead_ok q.address
    rw [← h.width] at e
    have inside : ¬ c.banks.length ≤ q.port := fun behind => by
      rw [List.getElem?_eq_none_iff.mpr behind] at hb
      cases hb
    dsimp only
    rw [e]
    cases readable with
    | true =>
      constructor
      · rintro ⟨⟩
      · rintro ⟨rfl, refused⟩
        cases refused with
        | noBank behind => exact absurd behind inside
        | unreadable bank unread =>
          cases hb.symm.trans bank
          rw [e] at unread
          cases unread
    | false =>
      constructor
      · rintro ⟨⟩
        exact ⟨rfl, .unreadable hb e⟩
      · rintro ⟨rfl, refused⟩
        cases refused with
        | noBank behind => exact absurd behind inside
        | unreadable => rfl

theorem verdict_later (c : Component α) (n : Nat) (q : Request) :
    c.verdict (q.later n) = (c.verdict q).map (TraceViolation.later n) := by
  have port : (q.later n).port = q.port := rfl
  have address : (q.later n).address = q.address := rfl
  unfold verdict objection
  rw [port, address]
  cases c.banks[q.port]? with
  | none => rfl
  | some b =>
    dsimp only
    cases b.canRead c.width q.address with
    | error e => rfl
    | ok readable => cases readable <;> rfl

/-- checking a trace collects the verdicts on its requests -/
theorem verify_eq {c : Component α} (h : c.Fits form w) (t : Trace) :
    c.verify t = .ok (t.requests.filterMap c.verdict) := by
  have each : c.objection = fun q => pure (c.verdict q) := funext (objection_ok h)
  unfold verify
  rw [each, List.mapM_pure, pure_bind, List.filterMap_map]
  rfl

/-! ## traces of a component -/

/-- checking a component that was read against a trace gives the requests that it refuses, each once
and in the order of the trace, with the reason; and of two traces in a row it gives those of the
first and then those of the second, in cycles that follow the first -/
theorem verify_ofText {settings : Settings} {w : Nat} (hw : settings.width = .whole w)
    {text : String} {c : Component α} (h : ofText settings text = .ok c) :
    (∀ t : Trace, ∃ vs, c.verify t = .ok vs ∧
      vs.Pairwise (fun v u => v.request.Before u.request) ∧
      ∀ v, v ∈ vs ↔ t.Asks v.request ∧ c.Refuses v) ∧
    ∀ (t u : Trace) (vs us : List TraceViolation), c.verify t = .ok vs → c.verify u = .ok us →
      c.verify (t.append u) = .ok (vs ++ us.map (TraceViolation.later t.cycles.length)) := by
  have fits := fits_of_ofText hw h
  constructor
  · intro t
    refine ⟨_, verify_eq fits t, ?_, fun v => ?_⟩
    · refine t.requests_ordered.filterMap _ fun q r hqr v hv u hu => ?_
      rw [((verdict_eq_some fits).mp hv).1, ((verdict_eq_some fits).mp hu).1]
      exact hqr
    · rw [List.mem_filterMap]
      constructor
      · rintro ⟨q, hq, hv⟩
        obtain ⟨rfl, refused⟩ := (verdict_eq_some fits).mp hv
        exact ⟨Trace.mem_requests.mp hq, refused⟩
      · rintro ⟨asked, refused⟩
        exact ⟨v.request, Trace.mem_requests.mpr asked, (verdict_eq_some fits).mpr ⟨rfl, refused⟩⟩
  · intro t u vs us ht hu
    rw [verify_eq fits] at ht hu ⊢
    cases ht
    cases hu
    rw [Trace.requests_append, List.filterMap_append, List.filterMap_map, List.map_filterMap]
    congr 3
    exact funext (c.verdict_later _)

/-- the sample against a trace with an idle port and a port too many, and one more cycle behind it -/
theorem sample_verify :
    Settings.standard.width = .whole 64 ∧ ofText Settings.standard sampleText = .ok sample ∧
      (∀ v, v ∈ [⟨⟨0, 0, 3⟩, .unreadable 0⟩, ⟨⟨0, 2, 1⟩, .noBank 2⟩] ↔
        Trace.Asks ⟨[[some 3, none, some 1]]⟩ v.request ∧ sample.Refuses v) ∧
      sample.verify (Trace.append ⟨[[some 3, none, some 1]]⟩ ⟨[[none, some 8]]⟩) =
        .ok [⟨⟨0, 0, 3⟩, .unreadable 0⟩, ⟨⟨0, 2, 1⟩, .noBank 2⟩, ⟨⟨1, 1, 8⟩, .unreadable 1⟩] := by
  obtain ⟨each, behind⟩ := verify_ofText (w := 64) rfl ofText_sample
  have first : sample.verify ⟨[[some 3, none, some 1]]⟩ =
      .ok [⟨⟨0, 0, 3⟩, .unreadable 0⟩, ⟨⟨0, 2, 1⟩, .noBank 2⟩] := ok_of_toOption (by decide)
  have second : sample.verify ⟨[[none, some 8]]⟩ = .ok [⟨⟨0, 1, 8⟩, .unreadable 1⟩] :=
    ok_of_toOption (by decide)
  obtain ⟨vs, e, -, listed⟩ := each ⟨[[some 3, none, some 1]]⟩
  cases first.symm.trans e
  exact ⟨rfl, ofText_sample, listed, behind _ _ _ _ first second⟩

end Component

end BankSwitch
