import Mathlib.Data.List.Rotate
import Mathlib.Data.Nat.ModEq
import PcmFlowUdp.ByteTransport.DropOldest

/-! # Circular buffers

A ring of `cap` cells with a read index `head`, a write index `tail` and a separately kept `count`.
`Ring.push` appends and discards the oldest entries first when there is no room; `Ring.pop` removes
from the front. Both are written as the index loops they are in code. `Ring.WF` relates the three
counters and `Ring.contents` reads the queue off the cells; under `WF` the loops are the list
operations:

* **`contents_push`** — pushing is `keepLast cap (contents ++ src)`;
* **`pop_fst`, `contents_pop`** — popping takes a prefix and leaves the rest.

`RingBuffer` packages a ring with its `WF` proof, so that a ring whose counters disagree cannot be
built. Two of them are `Alike` if they have the same capacity and hold the same queue, wherever in the
cells; no operation tells them apart. -/

namespace ByteTransport

variable {α : Type*}

/-- The cells and counters of a circular buffer. -/
structure Ring (α : Type*) where
  /-- The storage; its length is the capacity. -/
  store : List α
  /-- The next cell to read. -/
  head : ℕ
  /-- The next cell to write. -/
  tail : ℕ
  /-- The number of queued entries. -/
  count : ℕ
  deriving DecidableEq, Repr

namespace Ring

/-- The capacity of a ring. -/
def cap (r : Ring α) : ℕ := r.store.length

/-- Set the count and nothing else. -/
def withCount (r : Ring α) (c : ℕ) : Ring α := { r with count := c }

/-- Write `src` at the tail, one cell at a time, without touching `head` or `count`. -/
def fill (r : Ring α) : List α → Ring α
  | [] => r
  | x :: xs => fill { r with store := r.store.set r.tail x, tail := (r.tail + 1) % r.cap } xs

/-- Forget every queued entry and start over at cell zero. -/
def clear (r : Ring α) : Ring α := { r with head := 0, tail := 0, count := 0 }

/-- Advance the head past the entries for which `n` more leave no room. -/
def makeRoom (r : Ring α) (n : ℕ) : Ring α :=
  if r.cap < r.count + n then
    { r with
      head := (r.head + (r.count + n - r.cap)) % r.cap
      count := r.count - (r.count + n - r.cap) }
  else r

/-- Append `src`, discarding the oldest entries first if there is no room. A source that alone
overruns the ring empties it and is cut to its own last `cap` entries. -/
def push (r : Ring α) (src : List α) : Ring α :=
  let (r, src) :=
    if r.cap ≤ src.length then (r.clear, src.drop (src.length - r.cap)) else (r, src)
  let r := r.makeRoom src.length
  (r.fill src).withCount (r.count + src.length)

/-- Read `k` cells from the head on, without touching `count`. -/
def drain [Inhabited α] (r : Ring α) : ℕ → List α × Ring α
  | 0 => ([], r)
  | k + 1 =>
      let x := r.store.getD r.head default
      let (xs, r') := drain { r with head := (r.head + 1) % r.cap } k
      (x :: xs, r')

/-- Remove and return the first `n` entries, or all of them if there are fewer. -/
def pop [Inhabited α] (r : Ring α) (n : ℕ) : List α × Ring α :=
  let take := if n < r.count then n else r.count
  let (out, r') := r.drain take
  (out, r'.withCount (r.count - take))

/-! ## The invariant and the queue it denotes -/

/-- The relation between the counters of a ring. -/
structure WF (r : Ring α) : Prop where
  cap_pos : 0 < r.cap
  head_lt : r.head < r.cap
  tail_eq : r.tail = (r.head + r.count) % r.cap
  count_le : r.count ≤ r.cap

/-- The tail points into the storage. -/
theorem WF.tail_lt {r : Ring α} (h : r.WF) : r.tail < r.cap := by
  rw [h.tail_eq]
  exact Nat.mod_lt _ h.cap_pos

/-- The queued entries, oldest first. -/
def contents (r : Ring α) : List α := (r.store.rotate r.head).take r.count

/-- The contents lie behind the head, around the end of the storage. -/
theorem contents_getElem? {r : Ring α} (h : r.WF) {i : ℕ} (hi : i < r.count) :
    r.contents[i]? = r.store[(r.head + i) % r.cap]? := by
  rw [contents, List.getElem?_take_of_lt hi,
    List.getElem?_rotate (show i < r.store.length from lt_of_lt_of_le hi h.count_le), Nat.add_comm]
  rfl

/-- There are as many items as the count says. -/
theorem length_contents {r : Ring α} (h : r.WF) : r.contents.length = r.count := by
  rw [contents, List.length_take, List.length_rotate]
  exact min_eq_left h.count_le

/-- Distinct offsets within one revolution are distinct cells. -/
theorem cell_ne {cap head i j : ℕ} (hij : i < j) (hj : j < cap) :
    (head + i) % cap ≠ (head + j) % cap := by
  intro heq
  have hmod : Nat.ModEq cap i j := Nat.ModEq.add_left_cancel' head heq
  rw [Nat.ModEq, Nat.mod_eq_of_lt (by omega), Nat.mod_eq_of_lt hj] at hmod
  omega

/-- Clearing keeps the counters sound. -/
theorem wf_clear {r : Ring α} (h : r.WF) : r.clear.WF :=
  ⟨h.cap_pos, h.cap_pos, by simp [clear], Nat.zero_le _⟩

/-- A cleared ring is empty. -/
@[simp] theorem contents_clear (r : Ring α) : r.clear.contents = [] := by
  simp [clear, contents]

/-! ## Pushing -/

/-- Filling does not change the size of the storage. -/
@[simp] theorem cap_fill (r : Ring α) (src : List α) : (r.fill src).cap = r.cap := by
  induction src generalizing r with
  | nil => rfl
  | cons x xs ih => rw [fill, ih]; simp [cap]

/-- Nor does making room. -/
@[simp] theorem cap_makeRoom (r : Ring α) (n : ℕ) : (r.makeRoom n).cap = r.cap := by
  unfold makeRoom; split <;> rfl

/-- Filling does not read the count. -/
theorem fill_withCount (r : Ring α) (c : ℕ) (src : List α) :
    (r.withCount c).fill src = (r.fill src).withCount c := by
  induction src generalizing r with
  | nil => rfl
  | cons x xs ih => exact ih { r with store := r.store.set r.tail x, tail := (r.tail + 1) % r.cap }

/-- Write one entry at the tail and count it. -/
def snoc (r : Ring α) (x : α) : Ring α := (r.fill [x]).withCount (r.count + 1)

/-- Nor does one item more. -/
@[simp] theorem cap_snoc (r : Ring α) (x : α) : (r.snoc x).cap = r.cap := cap_fill r [x]

/-- One item more keeps the counters sound, if there is room for it. -/
theorem wf_snoc {r : Ring α} (h : r.WF) (hroom : r.count < r.cap) (x : α) : (r.snoc x).WF := by
  refine ⟨cap_snoc r x ▸ h.cap_pos, cap_snoc r x ▸ h.head_lt, ?_, cap_snoc r x ▸ hroom⟩
  rw [cap_snoc]
  show (r.tail + 1) % r.cap = (r.head + (r.count + 1)) % r.cap
  rw [h.tail_eq, Nat.mod_add_mod, Nat.add_assoc]

/-- Writing at the tail appends to the queue: no queued cell is the tail cell. -/
theorem contents_snoc {r : Ring α} (h : r.WF) (hroom : r.count < r.cap) (x : α) :
    (r.snoc x).contents = r.contents ++ [x] := by
  have hwf := wf_snoc h hroom x
  have hstore : (r.snoc x).store = r.store.set r.tail x := rfl
  have hcell : ∀ i < r.count + 1, (r.snoc x).contents[i]?
      = (r.store.set r.tail x)[(r.head + i) % r.cap]? := by
    intro i hi
    rw [contents_getElem? hwf hi, cap_snoc, hstore]
    rfl
  apply List.ext_getElem?
  intro i
  -- an entry queued before, the new one, or no entry
  rcases Nat.lt_trichotomy i r.count with hi | rfl | hi
  · have hne : (r.head + i) % r.cap ≠ r.tail := h.tail_eq ▸ cell_ne hi hroom
    rw [hcell i (Nat.lt_succ_of_lt hi), List.getElem?_append_left (by rwa [length_contents h]),
      contents_getElem? h hi, List.getElem?_set_ne (Ne.symm hne)]
  · rw [hcell _ (Nat.lt_succ_self _), ← h.tail_eq,
      List.getElem?_append_right (by rw [length_contents h]), length_contents h, Nat.sub_self,
      List.getElem?_cons_zero]
    exact List.getElem?_set_self h.tail_lt
  · have hlen : (r.snoc x).contents.length = r.count + 1 := length_contents hwf
    rw [List.getElem?_eq_none (by omega),
      List.getElem?_eq_none (by rw [List.length_append, length_contents h]; exact hi)]

/-- Filling with room for all of `src`, then counting it, appends `src`. -/
theorem fill_spec {r : Ring α} (h : r.WF) (src : List α) (hroom : r.count + src.length ≤ r.cap) :
    ((r.fill src).withCount (r.count + src.length)).WF ∧
      ((r.fill src).withCount (r.count + src.length)).contents = r.contents ++ src := by
  induction src generalizing r with
  | nil => exact ⟨h, by rw [List.append_nil]; rfl⟩
  | cons x xs ih =>
    rw [List.length_cons] at hroom
    -- counting each entry as it is written is counting them all at the end
    have hfill : (r.fill (x :: xs)).withCount (r.count + (x :: xs).length)
        = ((r.snoc x).fill xs).withCount ((r.snoc x).count + xs.length) := by
      rw [snoc, fill_withCount, List.length_cons]
      show (r.fill (x :: xs)).withCount (r.count + (xs.length + 1))
        = (r.fill (x :: xs)).withCount (r.count + 1 + xs.length)
      rw [Nat.add_comm xs.length 1, Nat.add_assoc]
    have hroom' : (r.snoc x).count + xs.length ≤ (r.snoc x).cap := by
      rw [cap_snoc]
      show r.count + 1 + xs.length ≤ r.cap
      omega
    obtain ⟨hwf, hcont⟩ := ih (wf_snoc h (by omega) x) hroom'
    rw [hfill]
    refine ⟨hwf, ?_⟩
    rw [hcont, contents_snoc h (by omega), List.append_assoc, List.singleton_append]

/-- Making room drops from the front exactly what will not fit. -/
theorem makeRoom_spec {r : Ring α} (h : r.WF) {n : ℕ} (hn : n ≤ r.cap) :
    (r.makeRoom n).WF ∧ (r.makeRoom n).contents = r.contents.drop (r.count + n - r.cap) ∧
      (r.makeRoom n).count + n ≤ r.cap := by
  by_cases hover : r.cap < r.count + n
  · -- the head skips the `d` oldest entries, the tail stays where it is
    set d := r.count + n - r.cap with hd
    have hroom : r.makeRoom n = { r with head := (r.head + d) % r.cap, count := r.count - d } := by
      rw [makeRoom, if_pos hover]
    rw [hroom]
    have hle := h.count_le
    have hwf : ({ r with head := (r.head + d) % r.cap, count := r.count - d } : Ring α).WF := by
      refine ⟨h.cap_pos, Nat.mod_lt _ h.cap_pos, ?_, le_trans (Nat.sub_le _ _) hle⟩
      show r.tail = ((r.head + d) % r.cap + (r.count - d)) % r.cap
      rw [h.tail_eq, Nat.mod_add_mod]
      congr 1
      omega
    refine ⟨hwf, ?_, show r.count - d + n ≤ r.cap by omega⟩
    have hlen : ({ r with head := (r.head + d) % r.cap, count := r.count - d } : Ring α).contents.length
        = r.count - d := length_contents hwf
    -- cell by cell: the wrapped indices of both agree
    apply List.ext_getElem?
    intro i
    by_cases hi : i < r.count - d
    · rw [contents_getElem? hwf hi, List.getElem?_drop, contents_getElem? h (by omega)]
      show r.store[((r.head + d) % r.cap + i) % r.cap]? = _
      rw [Nat.mod_add_mod, Nat.add_assoc]
    · rw [List.getElem?_eq_none (by omega),
        List.getElem?_eq_none (by rw [List.length_drop, length_contents h]; omega)]
  · have hid : r.makeRoom n = r := by rw [makeRoom, if_neg hover]
    rw [hid, Nat.sub_eq_zero_of_le (by omega), List.drop_zero]
    exact ⟨h, rfl, by omega⟩

/-- Appending with at most `cap` new entries: make room, then fill. -/
theorem makeRoom_fill_spec {r : Ring α} (h : r.WF) {src : List α} (hsrc : src.length ≤ r.cap) :
    (((r.makeRoom src.length).fill src).withCount ((r.makeRoom src.length).count + src.length)).WF ∧
      (((r.makeRoom src.length).fill src).withCount
        ((r.makeRoom src.length).count + src.length)).contents
          = keepLast r.cap (r.contents ++ src) := by
  obtain ⟨hwf, hcont, hroom⟩ := makeRoom_spec h hsrc
  obtain ⟨hwf', hcont'⟩ := fill_spec hwf src (by rwa [cap_makeRoom])
  refine ⟨hwf', ?_⟩
  rw [hcont', hcont, keepLast, List.length_append, length_contents h,
    List.drop_append_of_le_length (by rw [length_contents h]; omega)]

/-- **A push keeps the invariant and is a drop-oldest append.** -/
theorem push_spec {r : Ring α} (h : r.WF) (src : List α) :
    (r.push src).WF ∧ (r.push src).contents = keepLast r.cap (r.contents ++ src) := by
  unfold push
  by_cases hbig : r.cap ≤ src.length
  · -- the source alone overruns the ring: restart empty with its last `cap` entries
    rw [if_pos hbig]
    have hlen : (src.drop (src.length - r.cap)).length ≤ r.clear.cap := by
      show _ ≤ r.cap
      rw [List.length_drop]
      omega
    obtain ⟨hwf, hcont⟩ := makeRoom_fill_spec (wf_clear h) hlen
    refine ⟨hwf, hcont.trans ?_⟩
    rw [contents_clear, List.nil_append, keepLast_of_le hlen, keepLast_append_of_le _ hbig]
    rfl
  · rw [if_neg hbig]
    exact makeRoom_fill_spec h (by omega)

/-- A push does not change the size of the storage. -/
@[simp] theorem cap_push (r : Ring α) (src : List α) : (r.push src).cap = r.cap := by
  have hcap : ∀ (s : Ring α) (c : ℕ), (s.withCount c).cap = s.cap := fun _ _ => rfl
  unfold push
  split_ifs <;> simp only [hcap, cap_fill, cap_makeRoom]
  rfl

/-! ## Popping -/

/-- Draining reads consecutive cells modulo the capacity and moves only the head. -/
theorem drain_eq [Inhabited α] (r : Ring α) (h : r.head < r.cap) (k : ℕ) :
    r.drain k = ((List.range k).map fun i => r.store.getD ((r.head + i) % r.cap) default,
      { r with head := (r.head + k) % r.cap }) := by
  induction k generalizing r with
  | zero => simp [drain, Nat.mod_eq_of_lt h]
  | succ k ih =>
    have hpos : 0 < r.cap := by omega
    have hcell : ∀ i, ((r.head + 1) % r.cap + i) % r.cap = (r.head + (i + 1)) % r.cap := by
      intro i
      rw [Nat.mod_add_mod, Nat.add_assoc, Nat.add_comm 1 i]
    -- the rest is drained from the next cell on
    have hih := ih { r with head := (r.head + 1) % r.cap } (Nat.mod_lt _ hpos)
    have hcap : ({ r with head := (r.head + 1) % r.cap } : Ring α).cap = r.cap := rfl
    simp only [hcap, hcell] at hih
    have hfirst : (r.head + 0) % r.cap = r.head := Nat.mod_eq_of_lt h
    rw [List.range_succ_eq_map, List.map_cons, List.map_map, hfirst]
    simp only [drain, hih]
    rfl

/-- **A pop returns a prefix of the queue and leaves the rest.** -/
theorem pop_spec [Inhabited α] {r : Ring α} (h : r.WF) (n : ℕ) :
    (r.pop n).1 = r.contents.take n ∧ (r.pop n).2.WF ∧
      (r.pop n).2.contents = r.contents.drop n := by
  set k := if n < r.count then n else r.count with hk
  have hkc : k ≤ r.count := by rw [hk]; split <;> omega
  -- the head moves past `k` entries, so the tail is where the counters say
  have hpop : r.pop n = ((List.range k).map fun i => r.store.getD ((r.head + i) % r.cap) default,
      { r with head := (r.head + k) % r.cap, count := r.count - k }) := by
    rw [pop, ← hk, drain_eq r h.head_lt k]
    rfl
  have hlen := length_contents h
  have hle := h.count_le
  have hwf : ({ r with head := (r.head + k) % r.cap, count := r.count - k } : Ring α).WF := by
    refine ⟨h.cap_pos, Nat.mod_lt _ h.cap_pos, ?_, le_trans (Nat.sub_le _ _) hle⟩
    show r.tail = ((r.head + k) % r.cap + (r.count - k)) % r.cap
    rw [h.tail_eq, Nat.mod_add_mod]
    congr 1
    omega
  rw [hpop]
  refine ⟨?_, hwf, ?_⟩
  · apply List.ext_getElem?
    intro i
    by_cases hi : i < k
    · have hcell : (r.head + i) % r.cap < r.store.length := Nat.mod_lt _ h.cap_pos
      rw [List.getElem?_map, List.getElem?_range hi, Option.map_some,
        List.getElem?_take_of_lt (by rw [hk] at hi; split at hi <;> omega),
        contents_getElem? h (by omega), List.getD_eq_getElem?_getD,
        List.getElem?_eq_getElem hcell, Option.getD_some]
    · rw [List.getElem?_eq_none (by simpa using hi), List.getElem?_eq_none]
      rw [List.length_take, hlen]
      rw [hk] at hi
      split at hi <;> omega
  · have hlen' : ({ r with head := (r.head + k) % r.cap, count := r.count - k } : Ring α).contents.length
        = r.count - k := length_contents hwf
    apply List.ext_getElem?
    intro i
    by_cases hi : i < r.count - k
    · -- something is left only if `n` entries were there
      have hkn : k = n := by rw [hk] at hi ⊢; split at hi <;> [rw [if_pos ‹_›]; omega]
      rw [contents_getElem? hwf hi, List.getElem?_drop, ← hkn, contents_getElem? h (by omega)]
      show r.store[((r.head + k) % r.cap + i) % r.cap]? = _
      rw [Nat.mod_add_mod, Nat.add_assoc]
    · rw [List.getElem?_eq_none (by rw [hlen']; omega), List.getElem?_eq_none]
      rw [List.length_drop, hlen]
      rw [hk] at hi
      split at hi <;> omega

/-- Nor does a pop. -/
@[simp] theorem cap_pop [Inhabited α] {r : Ring α} (h : r.WF) (n : ℕ) :
    (r.pop n).2.cap = r.cap := by
  rw [pop, drain_eq r h.head_lt]
  rfl

/-! ## Alignment -/

/-- Filling leaves the head where it is. -/
theorem head_fill (r : Ring α) (src : List α) : (r.fill src).head = r.head := by
  induction src generalizing r with
  | nil => rfl
  | cons x xs ih => exact ih _

/-- Filling leaves the count to the caller. -/
theorem count_fill (r : Ring α) (src : List α) : (r.fill src).count = r.count := by
  induction src generalizing r with
  | nil => rfl
  | cons x xs ih => exact ih _

/-- A push in whole blocks leaves the head at the start of a block. -/
theorem dvd_head_push {b : ℕ} {r : Ring α} (hcap : b ∣ r.cap) (hhead : b ∣ r.head)
    (hcount : b ∣ r.count) {src : List α} (hsrc : b ∣ src.length) : b ∣ (r.push src).head := by
  have hroom : ∀ (s : Ring α) (n : ℕ), s.cap = r.cap → b ∣ s.head → b ∣ s.count → b ∣ n →
      b ∣ (s.makeRoom n).head := by
    intro s n hs hh hc hn
    unfold makeRoom
    split
    · show b ∣ (s.head + (s.count + n - s.cap)) % s.cap
      rw [hs, Nat.dvd_mod_iff hcap]
      exact Nat.dvd_add hh (Nat.dvd_sub (Nat.dvd_add hc hn) hcap)
    · exact hh
  have hpush : ∀ (s : Ring α) (l : List α) (c : ℕ),
      (((s.makeRoom l.length).fill l).withCount c).head = (s.makeRoom l.length).head :=
    fun s l c => head_fill _ _
  unfold push
  by_cases hbig : r.cap ≤ src.length
  · rw [if_pos hbig]
    dsimp only
    rw [hpush]
    refine hroom r.clear _ rfl (Nat.dvd_zero b) (Nat.dvd_zero b) ?_
    rw [List.length_drop]
    exact Nat.dvd_sub hsrc (Nat.dvd_sub hsrc hcap)
  · rw [if_neg hbig]
    dsimp only
    rw [hpush]
    exact hroom r _ rfl hhead hcount hsrc

/-- A pop of whole blocks leaves the head at the start of a block. -/
theorem dvd_head_pop [Inhabited α] {b : ℕ} {r : Ring α} (h : r.WF) (hcap : b ∣ r.cap)
    (hhead : b ∣ r.head) (hcount : b ∣ r.count) {n : ℕ} (hn : b ∣ n) : b ∣ (r.pop n).2.head := by
  rw [pop, drain_eq r h.head_lt]
  show b ∣ (r.head + if n < r.count then n else r.count) % r.cap
  rw [Nat.dvd_mod_iff hcap]
  split
  · exact Nat.dvd_add hhead hn
  · exact Nat.dvd_add hhead hcount

end Ring

/-! ## Rings that carry their invariant -/

/-- A ring together with the proof that its counters agree. -/
structure RingBuffer (α : Type*) where
  /-- The cells and counters. -/
  ring : Ring α
  /-- The counters agree. -/
  wf : ring.WF

namespace RingBuffer

/-- The capacity. -/
def cap (q : RingBuffer α) : ℕ := q.ring.cap

/-- The number of queued entries. -/
def count (q : RingBuffer α) : ℕ := q.ring.count

/-- The queued entries, oldest first. -/
def contents (q : RingBuffer α) : List α := q.ring.contents

/-- An empty ring over storage that initially holds `x` in each of its `cap` cells. -/
def empty (cap : ℕ) (h : 0 < cap) (x : α) : RingBuffer α where
  ring := { store := List.replicate cap x, head := 0, tail := 0, count := 0 }
  wf := by constructor <;> simp [Ring.cap, h]

/-- Forget every queued entry. -/
def clear (q : RingBuffer α) : RingBuffer α := ⟨q.ring.clear, Ring.wf_clear q.wf⟩

/-- Append `src`, discarding the oldest entries first if there is no room. -/
def push (q : RingBuffer α) (src : List α) : RingBuffer α :=
  ⟨q.ring.push src, (Ring.push_spec q.wf src).1⟩

/-- Remove and return the first `n` entries, or all of them if there are fewer. -/
def pop [Inhabited α] (q : RingBuffer α) (n : ℕ) : List α × RingBuffer α :=
  ((q.ring.pop n).1, ⟨(q.ring.pop n).2, (Ring.pop_spec q.wf n).2.1⟩)

/-- There are as many items as the count says. -/
@[simp] theorem length_contents (q : RingBuffer α) : q.contents.length = q.count :=
  Ring.length_contents q.wf

/-- There are no more items than cells. -/
theorem count_le (q : RingBuffer α) : q.count ≤ q.cap := q.wf.count_le

/-- An empty ring has the size that was asked for. -/
@[simp] theorem cap_empty (cap : ℕ) (h : 0 < cap) (x : α) : (empty cap h x).cap = cap := by
  simp [empty, RingBuffer.cap, Ring.cap]

/-- A cleared ring is empty. -/
@[simp] theorem contents_clear (q : RingBuffer α) : q.clear.contents = [] :=
  Ring.contents_clear q.ring

/-- Pushing is a drop-oldest append. -/
theorem contents_push (q : RingBuffer α) (src : List α) :
    (q.push src).contents = keepLast q.cap (q.contents ++ src) :=
  (Ring.push_spec q.wf src).2

/-- A push does not change the size of the storage. -/
@[simp] theorem cap_push (q : RingBuffer α) (src : List α) : (q.push src).cap = q.cap :=
  Ring.cap_push q.ring src

/-- Pushing what fits appends it. -/
theorem contents_push_of_le (q : RingBuffer α) {src : List α} (h : q.count + src.length ≤ q.cap) :
    (q.push src).contents = q.contents ++ src := by
  rw [contents_push, keepLast_of_le]
  rwa [List.length_append, length_contents]

/-- Popping returns a prefix of the queue. -/
theorem pop_fst [Inhabited α] (q : RingBuffer α) (n : ℕ) : (q.pop n).1 = q.contents.take n :=
  (Ring.pop_spec q.wf n).1

/-- Popping leaves the rest of the queue. -/
theorem contents_pop [Inhabited α] (q : RingBuffer α) (n : ℕ) :
    (q.pop n).2.contents = q.contents.drop n :=
  (Ring.pop_spec q.wf n).2.2

/-- Nor does a pop. -/
@[simp] theorem cap_pop [Inhabited α] (q : RingBuffer α) (n : ℕ) : (q.pop n).2.cap = q.cap :=
  Ring.cap_pop q.wf n

/-- The same queue in rings of the same capacity. -/
structure Alike (q q' : RingBuffer α) : Prop where
  cap : q.cap = q'.cap
  contents : q.contents = q'.contents

/-- Rings that are alike hold as many items. -/
theorem Alike.count {q q' : RingBuffer α} (h : q.Alike q') : q.count = q'.count := by
  rw [← length_contents, ← length_contents, h.contents]

/-- A push keeps rings alike. -/
theorem Alike.push {q q' : RingBuffer α} (h : q.Alike q') (src : List α) : (q.push src).Alike (q'.push src) where
  cap := by rw [cap_push, cap_push, h.cap]
  contents := by rw [contents_push, contents_push, h.cap, h.contents]

/-- Cleared rings of one size are alike. -/
theorem alike_clear {q q' : RingBuffer α} (hcap : q.cap = q'.cap) : q.clear.Alike q'.clear where
  cap := hcap
  contents := by rw [contents_clear, contents_clear]

/-- The three counters are multiples of the block size `b`. -/
structure Aligned (b : ℕ) (q : RingBuffer α) : Prop where
  head : b ∣ q.ring.head
  tail : b ∣ q.ring.tail
  count : b ∣ q.ring.count

/-- The tail is where the other two counters say. -/
theorem aligned_of_head_count {b : ℕ} {q : RingBuffer α} (hcap : b ∣ q.cap) (hhead : b ∣ q.ring.head)
    (hcount : b ∣ q.count) : q.Aligned b := by
  refine ⟨hhead, ?_, hcount⟩
  rw [q.wf.tail_eq]
  exact (Nat.dvd_mod_iff hcap).mpr (Nat.dvd_add hhead hcount)

/-- A cleared ring is aligned to any frame size. -/
theorem aligned_clear (b : ℕ) (q : RingBuffer α) : q.clear.Aligned b :=
  ⟨Nat.dvd_zero b, Nat.dvd_zero b, Nat.dvd_zero b⟩

section Aligned

variable {b : ℕ} {q : RingBuffer α} (h : q.Aligned b) (hcap : b ∣ q.cap)

include h hcap

/-- Pushing whole blocks keeps the counters aligned. -/
theorem Aligned.push {src : List α} (hsrc : b ∣ src.length) : (q.push src).Aligned b := by
  refine aligned_of_head_count (by rwa [cap_push]) (Ring.dvd_head_push hcap h.head h.count hsrc) ?_
  rw [← length_contents, contents_push, length_keepLast, List.length_append, length_contents]
  rcases Nat.le_total q.cap (q.count + src.length) with hle | hle
  · rwa [min_eq_left hle]
  · rw [min_eq_right hle]
    exact Nat.dvd_add h.count hsrc

/-- Popping whole blocks keeps the counters aligned. -/
theorem Aligned.pop [Inhabited α] {n : ℕ} (hn : b ∣ n) : (q.pop n).2.Aligned b := by
  refine aligned_of_head_count (by rwa [cap_pop]) (Ring.dvd_head_pop q.wf hcap h.head h.count hn) ?_
  rw [← length_contents, contents_pop, List.length_drop, length_contents]
  exact Nat.dvd_sub h.count hn

end Aligned

end RingBuffer

end ByteTransport
