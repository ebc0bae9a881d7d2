import Mathlib.Data.List.Basic
import Mathlib.Data.Set.List
import BankSwitch.Proofs.Checks
import BankSwitch.Trace.Basic

/-!
# What traces can be loaded

A document that holds a trace lists cycles under its name `trace`, and every entry of a cycle is nothing
or a number that is not negative.  The trace has these cycles and the addresses in them
(`Trace.lists_of_ofDocument`).
-/

namespace BankSwitch.Trace

open Document.Check

/-- the document lists the entries of cycles under its name -/
def Lists (d : Document) (cycles : List (List Document)) : Prop :=
  ∃ es, d = .mapping es ∧ Document.get? es "trace" = some (.list (cycles.map .list))

variable {d e : Document} {cycles : List (List Document)}

/-- a document lists its cycles in one way only -/
theorem Lists.unique {cycles' : List (List Document)} (h : Lists d cycles) (h' : Lists d cycles') :
    cycles = cycles' := by
  obtain ⟨es, rfl, hv⟩ := h
  obtain ⟨es', same, hv'⟩ := h'
  cases same
  have items := Document.list.inj (Option.some.inj (hv.symm.trans hv'))
  exact List.map_injective_iff.mpr (fun _ _ => Document.list.inj) items

theorem list_of_hasKind (h : d.hasKind .array = true) : ∃ ds, d = .list ds := by
  cases d with
  | list ds => exact ⟨ds, rfl⟩
  | _ => cases h

theorem null_of_hasKind (h : d.hasKind .null = true) : d = .null := by
  cases d with
  | null => rfl
  | _ => cases h

/-- an entry is nothing, or a number that is not negative -/
theorem entry_of_passes
    (h : (anyOf [.kind .integer [.minimum 0], .kind .null []]).Passes e) :
    e = .null ∨ ∃ a : Nat, e.IsInteger a := by
  obtain ⟨c, hc, passed⟩ := passes_anyOf h
  simp only [List.mem_cons, List.not_mem_nil, or_false] at hc
  rcases hc with rfl | rfl
  · obtain ⟨integer, bounds⟩ := passes_kind passed
    obtain ⟨n, hn⟩ := Document.isInteger_of_hasKind integer
    have least : 0 ≤ n := passes_minimum (bounds _ List.mem_cons_self) hn
    obtain ⟨a, rfl⟩ := Int.eq_ofNat_of_zero_le least
    exact .inr ⟨a, hn⟩
  · exact .inl (null_of_hasKind (passes_kind passed).1)

/-- an address that is a whole number stands in the document as it is in the trace -/
theorem some_mem_addressIn {cycle : List Document}
    (entries : ∀ e ∈ cycle, e = .null ∨ ∃ a : Nat, e.IsInteger a)
    (whole : ∀ x, Document.real x ∉ cycle) {a : Nat} :
    some a ∈ cycle.map addressIn ↔ Document.integer a ∈ cycle := by
  rw [List.mem_map]
  constructor
  · rintro ⟨e, he, address⟩
    rcases entries e he with rfl | ⟨k, number⟩
    · cases address
    · cases number with
      | integer =>
        cases address
        exact he
      | real => exact absurd he (whole _)
  · exact fun ha => ⟨.integer a, ha, rfl⟩

/-- lists of items that are lists are made of the items of these -/
theorem exists_cycles {items : List Document} (h : ∀ c ∈ items, ∃ entries, c = .list entries) :
    ∃ cycles : List (List Document), items = cycles.map .list := by
  have range : items ∈ Set.range (List.map Document.list) := by
    rw [Set.range_list_map]
    exact fun c hc => (h c hc).imp fun entries e => e.symm
  obtain ⟨cycles, rfl⟩ := range
  exact ⟨cycles, rfl⟩

theorem lists_of_ofDocument {t : Trace} (accepted : ofDocument d = .ok t) :
    ∃ cycles, Lists d cycles ∧
      (∀ cycle ∈ cycles, ∀ e ∈ cycle, e = .null ∨ ∃ a : Nat, e.IsInteger a) ∧
      t.cycles = cycles.map (List.map addressIn) := by
  unfold ofDocument at accepted
  split at accepted
  · cases accepted
  · next es sound =>
    obtain ⟨-, parts⟩ := passes_kind (Document.passes_of_worst? sound)
    simp only [List.forall_mem_cons] at parts
    obtain ⟨named, under, -⟩ := parts
    obtain ⟨v, hv⟩ := passes_required named
    obtain ⟨array, inside⟩ := passes_kind (passes_property under hv)
    obtain ⟨items, rfl⟩ := list_of_hasKind array
    have each := passes_items (inside _ List.mem_cons_self)
    obtain ⟨cycles, rfl⟩ := exists_cycles fun c hc => list_of_hasKind (passes_kind (each c hc)).1
    rw [hv] at accepted
    cases accepted
    refine ⟨cycles, ⟨es, rfl, hv⟩, fun cycle hc e he => ?_, ?_⟩
    · have entries := (passes_kind (each _ (List.mem_map_of_mem hc))).2 _ List.mem_cons_self
      exact entry_of_passes (passes_items entries e he)
    · simp
  · next d _ _ unmapped sound =>
    have object := (passes_kind (Document.passes_of_worst? sound)).1
    cases d with
    | mapping es => exact absurd rfl (unmapped es)
    | _ => cases object

end BankSwitch.Trace
