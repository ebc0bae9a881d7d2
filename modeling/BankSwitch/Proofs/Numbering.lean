import BankSwitch.Layout.Partition

/-!
# The numbers of addresses

A range and a partition each count, list, look up and number the same addresses: all five functions
are read off one list (`Numbers`).  For a range the list ascends by the step, for a partition it is
the lists of the ranges one behind the other, so that an address in two ranges stands in it twice and
has the number of its first place.

* `Range.addresses_eq`     the list of a range, in closed form;
* `Range.numbers`, `Partition.numbers`   the functions and the list;
* `Partition.numbered`     all of it, for partitions and for single ranges.
-/

namespace BankSwitch

/-! ## numbered lists -/

/-- the functions count the list, find its entries, and look them up by their places -/
structure Numbers (as : List Nat) (contains : Int → Bool) (size : Nat)
    (indexOf? get? : Int → Option Nat) : Prop where
  size_eq : size = as.length
  get_eq (i : Int) : get? i = if 0 ≤ i ∧ i < size then as[i.toNat]? else none
  contains_iff (a : Int) : contains a = true ↔ ∃ n ∈ as, a = (n : Int)
  /-- the number of an address is the first of its places -/
  index_some (a : Int) (i : Nat) : indexOf? a = some i ↔
    ∃ n : Nat, a = n ∧ as[i]? = some n ∧ ∀ j < i, as[j]? ≠ some n
  index_none (a : Int) : indexOf? a = none ↔ ∀ n ∈ as, a ≠ (n : Int)
  get_index (a : Int) (i : Nat) : indexOf? a = some i → ∃ n : Nat, a = n ∧ get? i = some n
  index_get : as.Nodup → ∀ i n : Nat, get? i = some n → indexOf? n = some i

/-- the first place of an entry -/
theorem idxOf?_eq_some {as : List Nat} {n i : Nat} :
    as.idxOf? n = some i ↔ as[i]? = some n ∧ ∀ j < i, as[j]? ≠ some n := by
  rw [List.idxOf?_eq_some_iff]
  constructor
  · rintro ⟨hi, rfl, first⟩
    refine ⟨List.getElem?_eq_getElem hi, fun j hj e => first j hj ?_⟩
    rw [List.getElem?_eq_getElem (Nat.lt_trans hj hi)] at e
    exact Option.some.inj e
  · rintro ⟨e, first⟩
    obtain ⟨hi, rfl⟩ := List.getElem?_eq_some_iff.mp e
    refine ⟨hi, rfl, fun j hj same => first j hj ?_⟩
    rw [List.getElem?_eq_getElem (Nat.lt_trans hj hi), same]

section

variable {as : List Nat} {contains : Int → Bool} {size : Nat} {indexOf? get? : Int → Option Nat}

/-- what a look-up says of integers, if it looks up natural numbers in the list -/
theorem indexOf?_eq_some (index : ∀ n : Nat, indexOf? n = as.idxOf? n)
    (noIndex : ∀ a < 0, indexOf? a = none) (a : Int) (i : Nat) : indexOf? a = some i ↔
      ∃ n : Nat, a = n ∧ as[i]? = some n ∧ ∀ j < i, as[j]? ≠ some n := by
  obtain ha | ha := Int.lt_or_le a 0
  · rw [noIndex a ha]
    refine ⟨nofun, ?_⟩
    rintro ⟨n, rfl, -⟩
    omega
  · obtain ⟨n, rfl⟩ := Int.eq_ofNat_of_zero_le ha
    rw [index, idxOf?_eq_some]
    refine ⟨fun h => ⟨n, rfl, h⟩, ?_⟩
    rintro ⟨m, same, h⟩
    rwa [Int.ofNat.inj same]

/-- an address is a natural number, and its number is found in the list -/
theorem Numbers.of_list (count : size = as.length)
    (found : ∀ a : Int, contains a = true ↔ ∃ n ∈ as, a = (n : Int))
    (index : ∀ n : Nat, indexOf? n = as.idxOf? n) (noIndex : ∀ a < 0, indexOf? a = none)
    (get : ∀ i : Nat, get? i = as[i]?) (noGet : ∀ i < 0, get? i = none) :
    Numbers as contains size indexOf? get? where
  size_eq := count
  get_eq i := by
    obtain hi | hi := Int.lt_or_le i 0
    · rw [noGet i hi, if_neg (by omega)]
    · obtain ⟨k, rfl⟩ := Int.eq_ofNat_of_zero_le hi
      rw [get, Int.toNat_natCast, count]
      split
      · rfl
      · exact List.getElem?_eq_none (by omega)
  contains_iff := found
  index_some := indexOf?_eq_some index noIndex
  index_none a := by
    obtain ha | ha := Int.lt_or_le a 0
    · rw [noIndex a ha]
      refine iff_of_true rfl fun n _ => ?_
      omega
    · obtain ⟨n, rfl⟩ := Int.eq_ofNat_of_zero_le ha
      rw [index, List.idxOf?_eq_none_iff]
      constructor
      · rintro absent m hm same
        exact absent (Int.ofNat.inj same ▸ hm)
      · exact fun absent hn => absent n hn rfl
  get_index a i h := by
    obtain ⟨n, same, place, -⟩ := (indexOf?_eq_some index noIndex a i).mp h
    exact ⟨n, same, (get i).trans place⟩
  index_get nodup i n h := by
    rw [get] at h
    rw [index, idxOf?_eq_some]
    refine ⟨h, fun j hj e => ?_⟩
    have inside := (List.getElem?_eq_some_iff.mp h).1
    have same : i = j := (List.getElem?_inj inside nodup).mp (h.trans e.symm)
    omega

end

/-! ## ranges -/

namespace Range

variable (r : Range)

/-- the range comes to the address from its start, step by step, before it stops -/
def Reaches (a : Int) : Prop := ∃ k : Nat, a = r.start + k * r.step ∧ a < r.stop

/-- how many addresses there are from `a` on -/
def countFrom (a : Nat) : Nat := (r.stop - a + r.step - 1) / r.step

theorem countFrom_eq_zero {a : Nat} (h : ¬ a < r.stop) : r.countFrom a = 0 := by
  have step := r.step_pos'
  unfold countFrom
  exact Nat.div_eq_of_lt (by omega)

theorem countFrom_step {a : Nat} (h : a < r.stop) :
    r.countFrom a = r.countFrom (a + r.step) + 1 := by
  have step := r.step_pos'
  unfold countFrom
  by_cases last : r.stop ≤ a + r.step
  · have rest : (r.stop - (a + r.step) + r.step - 1) / r.step = 0 := Nat.div_eq_of_lt (by omega)
    have split : r.stop - a + r.step - 1 = r.stop - a - 1 + r.step := by omega
    rw [rest, split, Nat.add_div_right _ step, Nat.div_eq_of_lt (by omega)]
  · have split : r.stop - a + r.step - 1 = r.stop - (a + r.step) + r.step - 1 + r.step := by omega
    rw [split, Nat.add_div_right _ step]

theorem countFrom_le (a : Nat) : r.countFrom a ≤ r.stop - a := by
  have step := r.step_pos'
  unfold countFrom
  rw [Nat.div_le_iff_le_mul_add_pred step, Nat.mul_comm]
  have := Nat.le_mul_of_pos_right (r.stop - a) step
  omega

/-- the walk from `a` on, in closed form -/
theorem enumerateFrom_eq (n a : Nat) : r.enumerateFrom n a =
    (List.range (min n (r.countFrom a))).map fun k => a + k * r.step := by
  induction n generalizing a with
  | zero => rw [enumerateFrom, Nat.zero_min]; rfl
  | succ n ih =>
    rw [enumerateFrom]
    split
    · next h =>
      rw [ih, r.countFrom_step h, Nat.succ_min_succ, List.range_succ_eq_map, List.map_cons,
        List.map_map, Nat.zero_mul, Nat.add_zero]
      refine congrArg _ (List.map_congr_left fun k _ => ?_)
      simp only [Function.comp_apply, Nat.succ_mul]
      omega
    · next h =>
      rw [r.countFrom_eq_zero h, Nat.min_zero]
      rfl

theorem addresses_eq : r.addresses = (List.range r.size).map fun k => r.start + k * r.step := by
  have count : min (r.stop - r.start) (r.countFrom r.start) = r.size :=
    Nat.min_eq_right (r.countFrom_le r.start)
  unfold addresses firstAddresses
  rw [enumerateFrom_eq, count]

/-- whoever asks for `n` addresses gets the first `n` of the list -/
theorem firstAddresses_eq (n : Nat) : r.firstAddresses n = r.addresses.take n := by
  rw [addresses_eq, ← List.map_take, List.take_range]
  exact r.enumerateFrom_eq n r.start

theorem length_addresses : r.addresses.length = r.size := by
  rw [addresses_eq, List.length_map, List.length_range]

theorem addresses_ascending : r.addresses.Pairwise (· < ·) := by
  have step := r.step_pos'
  rw [addresses_eq, List.pairwise_map]
  refine List.pairwise_lt_range.imp fun {k l} h => ?_
  have := Nat.mul_lt_mul_of_pos_right h step
  omega

/-- a number is that of an address if the address lies before the stop -/
theorem lt_size_iff {k : Nat} : k < r.size ↔ r.start + k * r.step < r.stop := by
  have step := r.step_pos'
  unfold size
  rw [Nat.lt_iff_add_one_le, Nat.le_div_iff_mul_le step, Nat.succ_mul]
  omega

theorem mem_addresses {n : Nat} : n ∈ r.addresses ↔ r.Reaches n := by
  rw [addresses_eq, List.mem_map]
  constructor
  · rintro ⟨k, hk, rfl⟩
    have inside := r.lt_size_iff.mp (List.mem_range.mp hk)
    exact ⟨k, by push_cast; rfl, by omega⟩
  · rintro ⟨k, e, inside⟩
    refine ⟨k, List.mem_range.mpr (r.lt_size_iff.mpr ?_), ?_⟩ <;> omega

theorem contains_iff {a : Int} : r.contains a = true ↔ r.Reaches a := by
  unfold contains Reaches
  rw [Bool.and_eq_true, Bool.and_eq_true, decide_eq_true_eq, decide_eq_true_eq, decide_eq_true_eq]
  constructor
  · rintro ⟨⟨first, inside⟩, steps⟩
    obtain ⟨d, hd⟩ := Int.eq_ofNat_of_zero_le (Int.sub_nonneg.mpr first)
    rw [hd, ← Int.natCast_emod] at steps
    obtain ⟨k, rfl⟩ := Nat.dvd_of_mod_eq_zero (Int.ofNat.inj steps)
    rw [Int.natCast_mul, Int.mul_comm] at hd
    exact ⟨k, by omega, inside⟩
  · rintro ⟨k, rfl, inside⟩
    have := Int.mul_nonneg (a := k) (b := r.step) (by omega) (by omega)
    have passed : (r.start + k * r.step - r.start : Int) = k * r.step := by omega
    exact ⟨⟨by omega, inside⟩, by rw [passed, Int.mul_emod_left]⟩

theorem contains_iff_mem {a : Int} : r.contains a = true ↔ ∃ n ∈ r.addresses, a = (n : Int) := by
  rw [contains_iff]
  constructor
  · rintro ⟨k, rfl, inside⟩
    refine ⟨r.start + k * r.step, r.mem_addresses.mpr ⟨k, ?_, ?_⟩, ?_⟩ <;> omega
  · rintro ⟨n, hn, rfl⟩
    exact r.mem_addresses.mp hn

/-! ### places in the list -/

theorem get?_natCast (i : Nat) : r.get? i = r.addresses[i]? := by
  rw [addresses_eq, List.getElem?_map]
  unfold get?
  by_cases h : i < r.size
  · rw [if_pos (by simpa using h), List.getElem?_range h]
    rfl
  · rw [if_neg (by simpa using h), List.getElem?_eq_none (by simpa using h)]
    rfl

theorem get?_of_neg {i : Int} (h : i < 0) : r.get? i = none := by
  have negative : ¬ 0 ≤ i := by omega
  unfold get?
  simp [negative]

theorem indexOf?_natCast (n : Nat) : r.indexOf? n = r.addresses.idxOf? n := by
  have step := r.step_pos'
  unfold indexOf?
  split
  · next h =>
    obtain ⟨k, e, inside⟩ := r.contains_iff.mp h
    have hn : n = r.start + k * r.step := by omega
    subst hn
    have place : (r.start + k * r.step - r.start) / r.step = k := by
      rw [Nat.add_sub_cancel_left, Nat.mul_div_cancel k step]
    rw [Int.toNat_natCast, place, eq_comm, idxOf?_eq_some, addresses_eq]
    have here : k < r.size := r.lt_size_iff.mpr (by omega)
    refine ⟨by rw [List.getElem?_map, List.getElem?_range here]; rfl, fun j hj same => ?_⟩
    rw [List.getElem?_map, List.getElem?_range (Nat.lt_trans hj here)] at same
    have behind : j * r.step < k * r.step := Nat.mul_lt_mul_of_pos_right hj step
    have : r.start + j * r.step = r.start + k * r.step := Option.some.inj same
    omega
  · next h =>
    rw [eq_comm, List.idxOf?_eq_none_iff]
    exact fun hn => h (r.contains_iff_mem.mpr ⟨n, hn, rfl⟩)

theorem indexOf?_of_neg {a : Int} (h : a < 0) : r.indexOf? a = none := by
  refine if_neg fun held => ?_
  obtain ⟨k, rfl, -⟩ := r.contains_iff.mp held
  have := Int.mul_nonneg (a := k) (b := r.step) (by omega) (by omega)
  omega

theorem numbers : Numbers r.addresses r.contains r.size r.indexOf? r.get? :=
  .of_list r.length_addresses.symm (fun _ => r.contains_iff_mem) r.indexOf?_natCast
    (fun _ => r.indexOf?_of_neg) r.get?_natCast (fun _ => r.get?_of_neg)

end Range

/-! ## partitions -/

namespace Partition

theorem sizeIn_eq (rs : List Range) : sizeIn rs = (rs.flatMap Range.addresses).length := by
  induction rs with
  | nil => rfl
  | cons r rs ih =>
    rw [sizeIn, ih, List.flatMap_cons, List.length_append, r.length_addresses]

theorem getIn?_eq (rs : List Range) (i : Nat) :
    getIn? rs i = (rs.flatMap Range.addresses)[i]? := by
  induction rs generalizing i with
  | nil => rfl
  | cons r rs ih =>
    rw [getIn?, List.flatMap_cons, List.getElem?_append, r.length_addresses]
    split
    · exact r.get?_natCast i
    · exact ih _

theorem indexIn?_eq (rs : List Range) (n : Nat) :
    indexIn? n rs = (rs.flatMap Range.addresses).idxOf? n := by
  induction rs with
  | nil => rfl
  | cons r rs ih =>
    have split : (r.addresses ++ rs.flatMap Range.addresses).idxOf? n =
        (r.addresses.idxOf? n).or
          (((rs.flatMap Range.addresses).idxOf? n).map (· + r.addresses.length)) :=
      List.findIdx?_append
    rw [indexIn?, List.flatMap_cons, split, r.indexOf?_natCast, ih, r.length_addresses]
    cases r.addresses.idxOf? n with
    | some i => rfl
    | none => simp only [Option.none_or, Nat.add_comm]

theorem indexIn?_of_neg (rs : List Range) {a : Int} (h : a < 0) : indexIn? a rs = none := by
  induction rs with
  | nil => rfl
  | cons r rs ih => rw [indexIn?, r.indexOf?_of_neg h, ih]; rfl

theorem firstIn_eq (rs : List Range) (n : Nat) :
    firstIn rs n = (rs.flatMap Range.addresses).take n := by
  induction rs generalizing n with
  | nil => exact List.take_nil.symm
  | cons r rs ih =>
    have rest : n - min n r.addresses.length = n - r.addresses.length := by omega
    rw [firstIn, List.flatMap_cons, List.take_append, ih, r.firstAddresses_eq, List.length_take,
      rest]

variable (p : Partition)

/-- no two ranges of the partition hold the same address -/
def Apart : Prop := p.ranges.Pairwise fun r s => ∀ a, ¬ (r.contains a = true ∧ s.contains a = true)

theorem contains_iff {a : Int} : p.contains a = true ↔ ∃ r ∈ p.ranges, r.Reaches a := by
  unfold contains
  simp only [List.any_eq_true, Range.contains_iff]

theorem contains_iff_mem {a : Int} : p.contains a = true ↔ ∃ n ∈ p.addresses, a = (n : Int) := by
  unfold contains addresses
  simp only [List.any_eq_true, Range.contains_iff_mem, List.mem_flatMap]
  constructor
  · rintro ⟨r, hr, n, hn, e⟩
    exact ⟨n, ⟨r, hr, hn⟩, e⟩
  · rintro ⟨n, ⟨r, hr, hn⟩, e⟩
    exact ⟨r, hr, n, hn, e⟩

theorem get?_natCast (i : Nat) : p.get? i = p.addresses[i]? := by
  unfold get?
  rw [if_neg (by omega), Int.toNat_natCast]
  exact getIn?_eq p.ranges i

theorem numbers : Numbers p.addresses p.contains p.size p.indexOf? p.get? :=
  .of_list (sizeIn_eq p.ranges) (fun _ => p.contains_iff_mem) (indexIn?_eq p.ranges)
    (fun _ => indexIn?_of_neg p.ranges) p.get?_natCast (fun _ h => if_pos h)

theorem apart_iff : p.Apart ↔ p.ranges.Pairwise fun r s => ∀ n ∈ r.addresses, n ∉ s.addresses := by
  refine List.Pairwise.iff fun {r s} => ?_
  simp only [Range.contains_iff_mem]
  constructor
  · exact fun apart n hn hs => apart n ⟨⟨n, hn, rfl⟩, n, hs, rfl⟩
  · rintro apart a ⟨⟨n, hn, rfl⟩, m, hm, same⟩
    exact apart n hn (Int.ofNat.inj same ▸ hm)

instance : Decidable p.Apart := decidable_of_iff _ p.apart_iff.symm

/-- ranges that share no address list none twice -/
theorem Apart.nodup {p : Partition} (h : p.Apart) : p.addresses.Nodup := by
  unfold addresses List.Nodup
  rw [List.pairwise_flatMap]
  refine ⟨fun r _ => r.addresses_ascending.imp Nat.ne_of_lt, (p.apart_iff.mp h).imp ?_⟩
  rintro r s apart n hn m hm rfl
  exact apart n hn hm

/-- the functions of a partition number one list, that of its ranges in order; where no address is
in two ranges, an address has one number only.  The same holds of a single range, whose list
ascends. -/
theorem numbered (p : Partition) :
    (p.addresses = p.ranges.flatMap Range.addresses ∧ ∀ n, p.firstAddresses n = p.addresses.take n) ∧
      Numbers p.addresses p.contains p.size p.indexOf? p.get? ∧
      (∀ a, p.contains a = true ↔ ∃ r ∈ p.ranges, r.Reaches a) ∧
      (p.Apart → ∀ i n : Nat, p.get? i = some n → p.indexOf? n = some i) ∧
      ∀ r : Range,
        (r.addresses.Pairwise (· < ·) ∧ ∀ n, r.firstAddresses n = r.addresses.take n) ∧
          Numbers r.addresses r.contains r.size r.indexOf? r.get? ∧
          (∀ a, r.contains a = true ↔ r.Reaches a) ∧
          ∀ i n : Nat, r.get? i = some n → r.indexOf? n = some i :=
  ⟨⟨rfl, firstIn_eq p.ranges⟩, p.numbers, fun _ => p.contains_iff,
    fun apart => p.numbers.index_get apart.nodup, fun r =>
      ⟨⟨r.addresses_ascending, r.firstAddresses_eq⟩, r.numbers, fun _ => r.contains_iff,
        r.numbers.index_get (r.addresses_ascending.imp Nat.ne_of_lt)⟩⟩

/-- the even addresses below seven, the odd ones below five, and an empty range between them -/
def interleaved : Partition where
  ranges := [⟨0, 7, some 2, by decide, Nat.two_pos⟩, ⟨3, 3, none, by decide, Nat.one_pos⟩,
    ⟨1, 5, some 2, by decide, Nat.two_pos⟩]
  nonempty := List.cons_ne_nil _ _

theorem numbered_interleaved :
    interleaved.addresses = [0, 2, 4, 6, 1, 3] ∧ interleaved.Apart ∧ interleaved.get? 4 = some 1 ∧
      interleaved.indexOf? 1 = some 4 :=
  ⟨rfl, by decide, rfl, (numbered interleaved).2.2.2.1 (by decide) 4 1 rfl⟩

/-- an address in two ranges is found in the second as well, and has the number of the first -/
example : (⟨[⟨0, 4, none, by decide, Nat.one_pos⟩, ⟨2, 6, none, by decide, Nat.one_pos⟩],
      List.cons_ne_nil _ _⟩ : Partition).addresses = [0, 1, 2, 3, 2, 3, 4, 5] ∧
    (⟨[⟨0, 4, none, by decide, Nat.one_pos⟩, ⟨2, 6, none, by decide, Nat.one_pos⟩],
      List.cons_ne_nil _ _⟩ : Partition).indexOf? 3 = some 3 := ⟨rfl, rfl⟩

end Partition

end BankSwitch
