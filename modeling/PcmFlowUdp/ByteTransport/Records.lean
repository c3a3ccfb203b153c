import PcmFlowUdp.ByteTransport.Buffer

/-! # Streams of fixed-size records

Flat storage that holds records of one size back to back. `records size l` cuts a flat list into its
whole records; laying records out again is `flatMap`. Because every record has the same length,
taking or dropping `k` records is taking or dropping `k * size` cells (`take_flatMap_uniform`,
`drop_flatMap_uniform`), cutting undoes laying out (`records_flatMap_uniform`), and whole-record
appends cut independently (`records_append`).

The second part is the exchange of adjacent cells (`swapPairs`), which is how a stream of two-byte
words changes byte order. -/

namespace ByteTransport

variable {α β : Type*} {size : ℕ}

/-! ## Laying records out -/

/-- Images of one size are counted by their number. -/
theorem length_flatMap_uniform {g : β → List α} (hg : ∀ x, (g x).length = size) (xs : List β) :
    (xs.flatMap g).length = xs.length * size := by
  induction xs with
  | nil => simp
  | cons x xs ih =>
    rw [List.flatMap_cons, List.length_append, hg, ih, List.length_cons, Nat.succ_mul, Nat.add_comm]

/-- Dropping whole images drops what they are images of. -/
theorem drop_flatMap_uniform {g : β → List α} (hg : ∀ x, (g x).length = size) (xs : List β)
    (k : ℕ) : (xs.flatMap g).drop (k * size) = (xs.drop k).flatMap g := by
  induction xs generalizing k with
  | nil => simp
  | cons x xs ih =>
    cases k with
    | zero => simp
    | succ k =>
      rw [List.flatMap_cons, Nat.succ_mul, Nat.add_comm, ← List.drop_drop, List.drop_left' (hg x), ih,
        List.drop_succ_cons]

/-- Taking whole images takes what they are images of. -/
theorem take_flatMap_uniform {g : β → List α} (hg : ∀ x, (g x).length = size) (xs : List β)
    (k : ℕ) : (xs.flatMap g).take (k * size) = (xs.take k).flatMap g := by
  induction xs generalizing k with
  | nil => simp
  | cons x xs ih =>
    cases k with
    | zero => simp
    | succ k =>
      rw [List.flatMap_cons, List.take_succ_cons, List.flatMap_cons, Nat.succ_mul,
        Nat.add_comm, List.take_add, List.take_left' (hg x), List.drop_left' (hg x), ih]

/-! ## Cutting into records -/

section Records

variable [Inhabited α]

/-- The whole records of a flat list. -/
def records (size : ℕ) (l : List α) : List (List α) :=
  (List.range (l.length / size)).map fun i => readMem l (i * size) size

/-- There are as many records as fit. -/
@[simp] theorem length_records (size : ℕ) (l : List α) :
    (records size l).length = l.length / size := by
  simp [records]

/-- Record `i` starts at cell `i * size`. -/
theorem records_getElem? {l : List α} {i : ℕ} (hi : i < l.length / size) :
    (records size l)[i]? = some ((l.drop (i * size)).take size) := by
  have hfit : i * size + size ≤ l.length := by
    rw [← Nat.succ_mul]
    exact le_trans (Nat.mul_le_mul_right size hi) (Nat.div_mul_le_self _ _)
  rw [records, List.getElem?_map, List.getElem?_range hi, Option.map_some, readMem_eq hfit]

/-- Cutting undoes laying out. -/
theorem records_flatMap_uniform (hpos : 0 < size) {g : β → List α} (hg : ∀ x, (g x).length = size)
    (xs : List β) : records size (xs.flatMap g) = xs.map g := by
  have hlen : (xs.flatMap g).length / size = xs.length := by
    rw [length_flatMap_uniform hg, Nat.mul_div_cancel _ hpos]
  apply List.ext_getElem?
  intro i
  by_cases hi : i < xs.length
  · rw [records_getElem? (by rw [hlen]; exact hi), drop_flatMap_uniform hg,
      List.getElem?_map, List.getElem?_eq_getElem hi, Option.map_some,
      List.drop_eq_getElem_cons hi, List.flatMap_cons, List.take_left' (hg _)]
  · rw [List.getElem?_eq_none (by rw [length_records, hlen]; omega),
      List.getElem?_eq_none (by rw [List.length_map]; omega)]

/-- Whole records in front of a list are cut off first. -/
theorem records_append (hpos : 0 < size) {a : List α} (ha : size ∣ a.length) (b : List α) :
    records size (a ++ b) = records size a ++ records size b := by
  obtain ⟨k, hk⟩ := ha
  have hak : a.length / size = k := by rw [hk, Nat.mul_div_cancel_left _ hpos]
  have hlen : (a ++ b).length / size = k + b.length / size := by
    rw [List.length_append, hk, Nat.add_comm, Nat.add_mul_div_left _ _ hpos, Nat.add_comm]
  apply List.ext_getElem?
  intro i
  by_cases hi : i < k
  · have hfit : i * size + size ≤ a.length := by
      rw [hk, ← Nat.succ_mul, Nat.mul_comm size k]
      exact Nat.mul_le_mul_right size hi
    have hia : i < a.length / size := by rw [hak]; exact hi
    rw [records_getElem? (by rw [hlen]; exact Nat.lt_add_right _ hi),
      List.getElem?_append_left (by rw [length_records]; exact hia), records_getElem? hia,
      List.drop_append_of_le_length (by omega),
      List.take_append_of_le_length (by rw [List.length_drop]; omega)]
  · by_cases hib : i < k + b.length / size
    · rw [records_getElem? (by omega),
        List.getElem?_append_right (by rw [length_records]; omega), length_records, hak,
        records_getElem? (by omega), List.drop_append, List.drop_eq_nil_of_le, List.nil_append, hk,
        Nat.mul_comm size k, ← Nat.sub_mul]
      rw [hk, Nat.mul_comm size k]
      exact Nat.mul_le_mul_right size (by omega)
    · rw [List.getElem?_eq_none (by rw [length_records]; omega),
        List.getElem?_eq_none (by rw [List.length_append, length_records, length_records]; omega)]

/-- A list of whole records is its records laid out. -/
theorem flatten_records (hpos : 0 < size) {l : List α} (h : size ∣ l.length) :
    (records size l).flatten = l := by
  obtain ⟨k, hk⟩ := h
  induction k generalizing l with
  | zero =>
    obtain rfl : l = [] := List.length_eq_zero_iff.mp (by simpa using hk)
    simp [records]
  | succ k ih =>
    have hsplit : l = l.take size ++ l.drop size := (List.take_append_drop size l).symm
    have htake : (l.take size).length = size := by
      rw [List.length_take, hk]
      exact min_eq_left (Nat.le_mul_of_pos_right size (Nat.succ_pos k))
    have hdrop : (l.drop size).length = size * k := by
      rw [List.length_drop, hk, Nat.mul_succ, Nat.add_sub_cancel]
    have hone : records size (l.take size) = [l.take size] := by
      have := records_flatMap_uniform hpos (g := fun _ : Unit => l.take size) (fun _ => htake) [()]
      simpa using this
    have hcut : records size l = records size (l.take size) ++ records size (l.drop size) := by
      conv_lhs => rw [hsplit]
      exact records_append hpos (by rw [htake]) _
    rw [hcut, List.flatten_append, ih hdrop, hone]
    simp

end Records

/-! ## Exchanging adjacent cells -/

/-- Exchange the two cells of every adjacent pair. -/
def swapPairs : List α → List α
  | a :: b :: t => b :: a :: swapPairs t
  | l => l

/-- Swapping keeps the length. -/
@[simp] theorem length_swapPairs (l : List α) : (swapPairs l).length = l.length := by
  induction l using swapPairs.induct with
  | case1 a b t ih => simp [swapPairs, ih]
  | case2 l h => rw [swapPairs]; exact h

/-- Exchanging twice restores the order. -/
@[simp] theorem swapPairs_swapPairs (l : List α) : swapPairs (swapPairs l) = l := by
  induction l using swapPairs.induct with
  | case1 a b t ih => rw [swapPairs, swapPairs, ih]
  | case2 l h =>
    have hid : swapPairs l = l := by rw [swapPairs]; exact h
    rw [hid, hid]

/-- A whole number of pairs in front is exchanged independently. -/
theorem swapPairs_append {a : List α} (ha : 2 ∣ a.length) (b : List α) :
    swapPairs (a ++ b) = swapPairs a ++ swapPairs b := by
  induction a using swapPairs.induct with
  | case1 x y t ih =>
    rw [List.length_cons, List.length_cons] at ha
    rw [List.cons_append, List.cons_append, swapPairs, swapPairs, ih (by omega),
      List.cons_append, List.cons_append]
  | case2 l h =>
    match l, h, ha with
    | [], _, _ => simp [swapPairs]
    | [x], _, ha => simp at ha
    | x :: y :: t, h, _ => exact absurd rfl (h x y t)

/-- The two cells of pair `i`, exchanged. -/
theorem swapPairs_getElem? (l : List α) (i : ℕ) (h : 2 * i + 1 < l.length) :
    (swapPairs l)[2 * i]? = l[2 * i + 1]? ∧ (swapPairs l)[2 * i + 1]? = l[2 * i]? := by
  induction l using swapPairs.induct generalizing i with
  | case1 a b t ih =>
    rw [swapPairs]
    cases i with
    | zero => exact ⟨rfl, rfl⟩
    | succ i =>
      rw [List.length_cons, List.length_cons] at h
      exact ih i (by omega)
  | case2 l hl =>
    match l, hl, h with
    | [], _, h => simp at h
    | [x], _, h => simp at h
    | x :: y :: t, hl, _ => exact absurd rfl (hl x y t)

/-- Cutting off whole pairs commutes with exchanging. -/
theorem swapPairs_take (l : List α) (k : ℕ) (h : 2 ∣ k) :
    swapPairs (l.take k) = (swapPairs l).take k := by
  by_cases hk : k ≤ l.length
  · have hlen : (l.take k).length = k := by rw [List.length_take]; omega
    conv_rhs => rw [← List.take_append_drop k l, swapPairs_append (by rw [hlen]; exact h)]
    rw [List.take_left' (by rw [length_swapPairs, hlen])]
  · rw [List.take_of_length_le (by omega), List.take_of_length_le (by rw [length_swapPairs]; omega)]

end ByteTransport
