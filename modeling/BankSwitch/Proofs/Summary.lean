import Mathlib.Order.Bounds.Basic
import BankSwitch.Proofs.Traces
import BankSwitch.Proofs.Verification

/-!
# Summary numbers of traces

The summary numbers are the least bounds of their kind: `size` bounds the addresses that the trace
asks for, `numPorts` the ports of its entries, and `bitsRequired` counts lines that carry the
addresses.

* `addresses_eq`   the addresses are those of the requests;
* `size_le_iff`, `numPorts_le_iff`, `bitsRequired_le_iff`   what each number is at most;
* `summary_of_ofDocument`   the numbers of a trace that was loaded, in terms of its document.
-/

namespace BankSwitch

namespace Trace

variable (t : Trace)

/-! ## the addresses -/

theorem addresses_cycleRequests (cycle : List (Option Nat)) (i : Nat) :
    (cycleRequests cycle i).map Request.address = cycle.filterMap id := by
  unfold cycleRequests
  rw [List.map_filterMap]
  simp only [Option.map_map, Function.comp_def, Option.map_id_fun']
  conv => rhs; rw [← List.zipIdx_map_fst 0 cycle, List.filterMap_map]
  rfl

theorem addresses_eq : t.addresses = t.requests.map Request.address := by
  unfold addresses
  rw [requests_eq, List.map_flatMap]
  simp only [addresses_cycleRequests]
  conv => lhs; rw [← List.zipIdx_map_fst 0 t.cycles, List.flatMap_map]

theorem mem_addresses {a : Nat} : a ∈ t.addresses ↔ ∃ q, t.Asks q ∧ q.address = a := by
  rw [addresses_eq, List.mem_map]
  simp only [mem_requests]

/-- the addresses are those in the entries -/
theorem mem_addresses_iff {a : Nat} : a ∈ t.addresses ↔ ∃ cycle ∈ t.cycles, some a ∈ cycle := by
  simp [addresses]

/-! ## the bounds -/

/-- an integer has at most `k` binary digits if it is below that power of two -/
theorem bitLength_le_iff {n : Int} {k : Nat} : bitLength n ≤ k ↔ n.natAbs < addressCount k := by
  have power : addressCount k = 2 ^ k := rfl
  unfold bitLength
  by_cases zero : n = 0
  · subst zero
    simp [addressCount_pos k]
  · rw [if_neg zero, Nat.succ_le_iff, Nat.log2_lt (by omega), power]

theorem foldl_max_le_iff {l : List Nat} {m n : Nat} :
    l.foldl max m ≤ n ↔ m ≤ n ∧ ∀ x ∈ l, x ≤ n := by
  induction l generalizing m with
  | nil => simp
  | cons x l ih => rw [List.foldl_cons, ih, Nat.max_le, List.forall_mem_cons, and_assoc]

theorem size_le_iff_addresses {n : Nat} : t.size ≤ n ↔ ∀ a ∈ t.addresses, a < n := by
  unfold size
  rw [foldl_max_le_iff, List.forall_mem_map]
  simp only [Nat.zero_le, true_and, Nat.succ_le_iff]

theorem size_le_iff {n : Nat} : t.size ≤ n ↔ ∀ q, t.Asks q → q.address < n := by
  rw [size_le_iff_addresses]
  simp only [mem_addresses]
  constructor
  · exact fun below q hq => below _ ⟨q, hq, rfl⟩
  · rintro below a ⟨q, hq, rfl⟩
    exact below q hq

theorem numPorts_le_iff {p : Nat} : t.numPorts ≤ p ↔ ∀ cycle ∈ t.cycles, cycle.length ≤ p := by
  unfold numPorts
  rw [foldl_max_le_iff, List.forall_mem_map]
  simp only [Nat.zero_le, true_and]

/-- there is always one line, and the lines carry all that is below the size -/
theorem bitsRequired_le_iff_size {b : Nat} :
    t.bitsRequired ≤ b ↔ 1 ≤ b ∧ t.size ≤ addressCount b := by
  unfold bitsRequired
  rw [Nat.max_le, bitLength_le_iff]
  refine and_congr_right fun hb => ?_
  -- without an address minus one is measured, which takes the one line that there is
  have one : 1 < addressCount b := Nat.one_lt_two_pow (by omega)
  omega

/-- there is always one line, and the lines carry every address that the trace asks for -/
theorem bitsRequired_le_iff {b : Nat} :
    t.bitsRequired ≤ b ↔ 1 ≤ b ∧ ∀ q, t.Asks q → q.address < addressCount b := by
  rw [bitsRequired_le_iff_size, size_le_iff]

/-! ## traces that were loaded -/

variable {t : Trace} {d : Document}

theorem isLeast_of_le_iff {P : Nat → Prop} {m : Nat} (h : ∀ n, m ≤ n ↔ P n) :
    IsLeast {n | P n} m :=
  ⟨(h m).mp (Nat.le_refl m), fun n hn => (h n).mpr hn⟩

/-- what was loaded with addresses that are whole numbers: `size` is the least bound of its addresses,
`numPorts` that of the places of its entries, and `bitsRequired` the least number of lines, at least
one, that carry its addresses -/
theorem summary_of_ofDocument (accepted : ofDocument d = .ok t) :
    ∃ cycles, Lists d cycles ∧ ((∀ cycle ∈ cycles, ∀ x, Document.real x ∉ cycle) →
      IsLeast {n : Nat | ∀ cycle ∈ cycles, ∀ a : Int, Document.integer a ∈ cycle → a < n} t.size ∧
      IsLeast {p : Nat | ∀ cycle ∈ cycles, ∀ i, p ≤ i → cycle[i]? = none} t.numPorts ∧
      IsLeast {b : Nat | 1 ≤ b ∧ ∀ cycle ∈ cycles, ∀ a : Int, Document.integer a ∈ cycle →
        a < addressCount b} t.bitsRequired) := by
  obtain ⟨cycles, lists, entries, same⟩ := lists_of_ofDocument accepted
  refine ⟨cycles, lists, fun whole => ?_⟩
  have asked (n : Nat) : (∀ a ∈ t.addresses, a < n) ↔
      ∀ cycle ∈ cycles, ∀ a : Int, Document.integer a ∈ cycle → a < n := by
    simp only [mem_addresses_iff, same, List.mem_map]
    constructor
    · intro below cycle hc a ha
      obtain none | ⟨k, number⟩ := entries cycle hc _ ha
      · cases none
      · cases number
        have asks := (some_mem_addressIn (entries cycle hc) (whole cycle hc)).mpr ha
        exact_mod_cast below k ⟨_, ⟨cycle, hc, rfl⟩, asks⟩
    · rintro below a ⟨_, ⟨cycle, hc, rfl⟩, asks⟩
      have ha := (some_mem_addressIn (entries cycle hc) (whole cycle hc)).mp asks
      exact_mod_cast below cycle hc a ha
  refine ⟨isLeast_of_le_iff fun n => ?_, isLeast_of_le_iff fun p => ?_, isLeast_of_le_iff fun b => ?_⟩
  · rw [size_le_iff_addresses, asked]
  · rw [numPorts_le_iff, same, List.forall_mem_map]
    refine forall₂_congr fun cycle hc => ?_
    rw [List.length_map]
    simp only [List.getElem?_eq_none_iff]
    exact ⟨fun short i hi => short.trans hi, fun bound => bound p (Nat.le_refl p)⟩
  · rw [bitsRequired_le_iff_size, size_le_iff_addresses, asked]

/-- three cycles, the second without an entry -/
def raggedCycles : List (List Document) :=
  [[.integer 0, .integer 7], [], [.null, .null, .integer 8]]

/-- eight is one more than three lines carry -/
theorem summary_of_ofDocument_ragged :
    ofDocument (.mapping [(.text "trace", .list (raggedCycles.map .list))]) =
        .ok ⟨[[some 0, some 7], [], [none, none, some 8]]⟩ ∧
      (∀ cycle ∈ raggedCycles, ∀ x, Document.real x ∉ cycle) ∧
      IsLeast {n : Nat | ∀ cycle ∈ raggedCycles, ∀ a : Int, Document.integer a ∈ cycle → a < n} 9 ∧
      IsLeast {p : Nat | ∀ cycle ∈ raggedCycles, ∀ i, p ≤ i → cycle[i]? = none} 3 ∧
      IsLeast {b : Nat | 1 ≤ b ∧ ∀ cycle ∈ raggedCycles, ∀ a : Int, Document.integer a ∈ cycle →
        a < addressCount b} 4 := by
  have accepted : ofDocument (.mapping [(.text "trace", .list (raggedCycles.map .list))]) =
      .ok ⟨[[some 0, some 7], [], [none, none, some 8]]⟩ := ok_of_toOption (by decide +kernel)
  have whole : ∀ cycle ∈ raggedCycles, ∀ x, Document.real x ∉ cycle := by simp [raggedCycles]
  obtain ⟨cycles, lists, tight⟩ := summary_of_ofDocument accepted
  obtain rfl : cycles = raggedCycles := lists.unique ⟨_, rfl, rfl⟩
  exact ⟨accepted, whole, tight whole⟩

end Trace

end BankSwitch
