import Mathlib.Data.List.Basic
import Mathlib.Tactic.Linarith

/-! # Fixed-size memory buffers

A `Buffer α n` is a block of exactly `n` cells; the size is a field, so no operation can change it.
`blit` copies a list of cells into the block at an offset (what `memcpy` does to its destination) and
`slice` reads a stretch of it back. A copy is described once, cell by cell (`blit_getElem?`), and the
reading rules follow from it: what was just copied is read back (`slice_blit_same`), what lies before
or after is untouched (`slice_blit_before`, `slice_blit_after`), and two adjoining copies are one
copy (`blit_append`). -/

namespace ByteTransport

variable {α : Type*}

/-- A block of exactly `n` cells. -/
structure Buffer (α : Type*) (n : ℕ) where
  /-- The cells, in address order. -/
  cells : List α
  /-- The block never changes size. -/
  size : cells.length = n

namespace Buffer

variable {n : ℕ}

/-- Buffers with the same cells are the same. -/
@[ext] theorem ext {a b : Buffer α n} (h : a.cells = b.cells) : a = b := by
  cases a; cases b; cases h; rfl

/-- The block with every cell equal to `x`. -/
def filled (n : ℕ) (x : α) : Buffer α n := ⟨List.replicate n x, List.length_replicate ..⟩

/-- Copy `src` into the block at offset `off`; cells that would fall outside are not written. -/
def blit (b : Buffer α n) (off : ℕ) (src : List α) : Buffer α n where
  cells := ((b.cells.take off ++ src) ++ b.cells.drop (off + src.length)).take n
  size := by
    have h := b.size
    simp only [List.length_take, List.length_append, List.length_drop]
    omega

/-- The `len` cells that start at `off`. -/
def slice (b : Buffer α n) (off len : ℕ) : List α := (b.cells.drop off).take len

/-- A copy, cell by cell: inside the copied stretch the source is read, outside the old block. -/
theorem blit_getElem? (b : Buffer α n) (off : ℕ) (src : List α) (i : ℕ) :
    (b.blit off src).cells[i]?
      = if i < n ∧ off ≤ i ∧ i < off + src.length then src[i - off]? else b.cells[i]? := by
  have hb := b.size
  rw [blit, List.getElem?_take]
  by_cases hn : i < n
  · rw [if_pos hn]
    by_cases ho : off ≤ i
    · have htake : (b.cells.take off).length = off := by rw [List.length_take]; omega
      by_cases hs : i < off + src.length
      · rw [if_pos ⟨hn, ho, hs⟩, List.getElem?_append_left (by rw [List.length_append, htake]; omega),
          List.getElem?_append_right (by omega), htake]
      · rw [if_neg (by omega), List.getElem?_append_right (by rw [List.length_append, htake]; omega),
          List.length_append, htake, List.getElem?_drop]
        congr 1
        omega
    · rw [if_neg (by omega), List.append_assoc, List.getElem?_append_left
        (by rw [List.length_take]; omega), List.getElem?_take, if_pos (by omega)]
  · rw [if_neg hn, if_neg (by omega), List.getElem?_eq_none (by omega)]

/-- Copying nothing changes nothing. -/
@[simp] theorem blit_nil (b : Buffer α n) (off : ℕ) : b.blit off [] = b := by
  ext1
  apply List.ext_getElem?
  intro i
  rw [blit_getElem?, if_neg (by rw [List.length_nil]; omega)]

/-- The cells of a slice. -/
theorem slice_getElem? (b : Buffer α n) (off len i : ℕ) :
    (b.slice off len)[i]? = if i < len then b.cells[off + i]? else none := by
  rw [slice, List.getElem?_take]
  split
  · rw [List.getElem?_drop]
  · rfl

/-- A slice inside the buffer has all its cells. -/
theorem length_slice (b : Buffer α n) {off len : ℕ} (h : off + len ≤ n) :
    (b.slice off len).length = len := by
  have hb := b.size
  simp only [slice, List.length_take, List.length_drop]
  omega

/-- An empty slice. -/
@[simp] theorem slice_zero (b : Buffer α n) (off : ℕ) : b.slice off 0 = [] := by simp [slice]

/-- A stretch is read in two adjoining parts. -/
theorem slice_append (b : Buffer α n) (off k l : ℕ) :
    b.slice off (k + l) = b.slice off k ++ b.slice (off + k) l := by
  rw [slice, slice, slice, List.take_add, List.drop_drop]

/-- What was just copied is read back. -/
theorem slice_blit_same (b : Buffer α n) {off : ℕ} {src : List α} (h : off + src.length ≤ n) :
    (b.blit off src).slice off src.length = src := by
  apply List.ext_getElem?
  intro i
  rw [slice_getElem?]
  by_cases hi : i < src.length
  · rw [if_pos hi, blit_getElem?, if_pos (by omega), Nat.add_sub_cancel_left]
  · rw [if_neg hi, List.getElem?_eq_none (by omega)]

/-- What was just copied to the front is read back. -/
theorem slice_blit_front (b : Buffer α n) {src : List α} {k : ℕ} (hk : src.length = k) (hn : k ≤ n) :
    (b.blit 0 src).slice 0 k = src := by
  subst hk
  exact b.slice_blit_same (by rw [Nat.zero_add]; exact hn)

/-- What was just copied to the front is where the cells begin. -/
theorem take_cells_blit (b : Buffer α n) {src : List α} (h : src.length ≤ n) :
    (b.blit 0 src).cells.take src.length = src := by
  have hfront := b.slice_blit_front rfl h
  rwa [slice, List.drop_zero] at hfront

/-- A stretch of what was just copied to the front is read back. -/
theorem slice_blit_within (b : Buffer α n) {src : List α} (h : src.length ≤ n) {off k : ℕ}
    (hk : off + k ≤ src.length) : (b.blit 0 src).slice off k = (src.drop off).take k := by
  conv_rhs => rw [← b.take_cells_blit h]
  rw [slice, List.drop_take, List.take_take, min_eq_left (by omega)]

/-- A copy leaves untouched what it does not reach. -/
theorem slice_blit_apart (b : Buffer α n) {off o len : ℕ} {src : List α}
    (h : o + len ≤ off ∨ off + src.length ≤ o) : (b.blit off src).slice o len = b.slice o len := by
  apply List.ext_getElem?
  intro i
  rw [slice_getElem?, slice_getElem?]
  by_cases hi : i < len
  · rw [if_pos hi, if_pos hi, blit_getElem?, if_neg (by omega)]
  · rw [if_neg hi, if_neg hi]

/-- A copy leaves everything before it untouched. -/
theorem slice_blit_before (b : Buffer α n) {off o len : ℕ} (src : List α) (h : o + len ≤ off) :
    (b.blit off src).slice o len = b.slice o len :=
  b.slice_blit_apart (.inl h)

/-- A copy leaves everything after it untouched. -/
theorem slice_blit_after (b : Buffer α n) {off o : ℕ} (len : ℕ) {src : List α}
    (h : off + src.length ≤ o) : (b.blit off src).slice o len = b.slice o len :=
  b.slice_blit_apart (.inr h)

/-- A prefix that a copy extends: reading through the end of the copy gives the old prefix, then the
copied cells. -/
theorem slice_blit_extend (b : Buffer α n) {off k : ℕ} {src : List α}
    (h : off + k + src.length ≤ n) :
    (b.blit (off + k) src).slice off (k + src.length) = b.slice off k ++ src := by
  rw [slice_append, slice_blit_before _ _ le_rfl, slice_blit_same _ h]

/-- Two adjoining copies are one copy. -/
theorem blit_append (b : Buffer α n) (off : ℕ) (xs ys : List α) :
    (b.blit off xs).blit (off + xs.length) ys = b.blit off (xs ++ ys) := by
  ext1
  apply List.ext_getElem?
  intro i
  simp only [blit_getElem?, List.length_append]
  -- a cell up to the end of the first copy, of the second one, or behind both
  by_cases hx : i < off + xs.length
  · by_cases hn : i < n ∧ off ≤ i
    · rw [if_neg (by omega), if_pos ⟨hn.1, hn.2, hx⟩, if_pos (by omega),
        List.getElem?_append_left (by omega)]
    · rw [if_neg (by omega), if_neg (by omega), if_neg (by omega)]
  · by_cases hy : i < n ∧ i < off + xs.length + ys.length
    · rw [if_pos (by omega), if_pos (by omega), List.getElem?_append_right (by omega)]
      congr 1
      omega
    · rw [if_neg (by omega), if_neg (by omega), if_neg (by omega)]

/-- **Copying over a stretch.** The front of the stretch is what was copied, the back is what it held. -/
theorem slice_blit_over (b : Buffer α n) {off len : ℕ} {src : List α} (hsrc : off + src.length ≤ n)
    (hlen : off + len ≤ n) :
    (b.blit off src).slice off len = src.take len ++ (b.slice off len).drop src.length := by
  rcases Nat.le_total src.length len with hle | hle
  · -- the copy ends inside the stretch
    obtain ⟨k, rfl⟩ := Nat.exists_eq_add_of_le hle
    rw [slice_append, slice_blit_same b hsrc, slice_blit_after _ _ le_rfl, slice_append,
      List.take_of_length_le hle, List.drop_left' (b.length_slice hsrc)]
  · -- the copy covers the stretch
    have htake : (src.take len).length = len := by rw [List.length_take, min_eq_left hle]
    have hover := (b.blit off (src.take len)).slice_blit_before (o := off) (src.drop len)
      (le_refl (off + len))
    have hsame := b.slice_blit_same (show off + (src.take len).length ≤ n by rw [htake]; exact hlen)
    have hjoin := b.blit_append off (src.take len) (src.drop len)
    rw [htake] at hsame hjoin
    rw [hjoin, List.take_append_drop, hsame] at hover
    rw [hover, List.drop_of_length_le (by rw [b.length_slice hlen]; exact hle), List.append_nil]

/-- A copy to the start of a uniform block. -/
theorem cells_blit_filled (n : ℕ) (x : α) (src : List α) (h : src.length ≤ n) :
    ((filled n x).blit 0 src).cells = src ++ List.replicate (n - src.length) x := by
  have hlen : (src ++ (List.replicate n x).drop src.length).length ≤ n := by
    rw [List.length_append, List.length_drop, List.length_replicate]
    omega
  show (([] ++ src) ++ (List.replicate n x).drop (0 + src.length)).take n = _
  rw [List.nil_append, Nat.zero_add, List.take_of_length_le hlen, List.drop_replicate]

end Buffer

/-- The `len` cells of memory `src` that start at `off`, a cell past its end reading as `default`. -/
def readMem [Inhabited α] (src : List α) (off len : ℕ) : List α :=
  (List.range len).map fun i => src.getD (off + i) default

/-- As much is read as was asked for. -/
@[simp] theorem length_readMem [Inhabited α] (src : List α) (off len : ℕ) :
    (readMem src off len).length = len := by
  simp [readMem]

/-- Inside the source, reading memory is taking a stretch of it. -/
theorem readMem_eq [Inhabited α] {src : List α} {off len : ℕ} (h : off + len ≤ src.length) :
    readMem src off len = (src.drop off).take len := by
  apply List.ext_getElem?
  intro i
  rw [List.getElem?_take, readMem, List.getElem?_map]
  by_cases hi : i < len
  · have hlt : off + i < src.length := by omega
    rw [if_pos hi, List.getElem?_drop, List.getElem?_range hi, List.getElem?_eq_getElem hlt,
      Option.map_some, List.getD_eq_getElem?_getD, List.getElem?_eq_getElem hlt, Option.getD_some]
  · rw [if_neg hi, List.getElem?_eq_none (by simpa using hi), Option.map_none]

/-- A stretch of memory just read is the memory at the combined offset. -/
theorem take_drop_readMem [Inhabited α] (src : List α) {off len o k : ℕ} (h : o + k ≤ len) :
    ((readMem src off len).drop o).take k = readMem src (off + o) k := by
  apply List.ext_getElem?
  intro i
  rw [List.getElem?_take]
  by_cases hi : i < k
  · rw [if_pos hi, List.getElem?_drop, readMem, readMem, List.getElem?_map, List.getElem?_map,
      List.getElem?_range (by omega), List.getElem?_range hi, Option.map_some, Option.map_some,
      Nat.add_assoc]
  · rw [if_neg hi, List.getElem?_eq_none (by rw [length_readMem]; omega)]

/-- Stretches inside a common prefix are equal. -/
theorem readMem_congr [Inhabited α] {src src' : List α} {n off len : ℕ}
    (h : src.take n = src'.take n) (hlen : off + len ≤ n) : readMem src off len = readMem src' off len := by
  apply List.map_congr_left
  intro i hi
  have hget : src[off + i]? = src'[off + i]? := by
    have hlt : off + i < n := by
      rw [List.mem_range] at hi
      omega
    rw [← List.getElem?_take_of_lt hlt, h, List.getElem?_take_of_lt hlt]
  rw [List.getD_eq_getElem?_getD, List.getD_eq_getElem?_getD, hget]

/-- Byte `i` of memory `mem`. -/
def byteAt (mem : List UInt8) (i : ℕ) : UInt8 := mem.getD i 0

/-- A byte depends on the memory up to it only. -/
theorem byteAt_congr {mem mem' : List UInt8} {len i : ℕ} (h : mem.take len = mem'.take len)
    (hi : i < len) : byteAt mem i = byteAt mem' i := by
  have hget : mem[i]? = mem'[i]? := by
    rw [← List.getElem?_take_of_lt hi, h, List.getElem?_take_of_lt hi]
  rw [byteAt, byteAt, List.getD_eq_getElem?_getD, List.getD_eq_getElem?_getD, hget]

/-- A byte of memory that is there. -/
theorem getElem?_eq_byteAt {mem : List UInt8} {i : ℕ} (hi : i < mem.length) :
    mem[i]? = some (byteAt mem i) := by
  rw [byteAt, List.getD_eq_getElem?_getD, List.getElem?_eq_getElem hi, Option.getD_some]

/-- A stretch of memory, byte by byte. -/
theorem take_drop_eq_map_byteAt {mem : List UInt8} {off len : ℕ} (h : off + len ≤ mem.length) :
    (mem.drop off).take len = (List.range len).map fun i => byteAt mem (off + i) :=
  (readMem_eq h).symm

/-- A byte of a stretch of memory. -/
theorem byteAt_readMem (mem : List UInt8) {off len i : ℕ} (hi : i < len) :
    byteAt (readMem mem off len) i = byteAt mem (off + i) := by
  rw [byteAt, readMem, List.getD_eq_getElem?_getD, List.getElem?_map, List.getElem?_range hi,
    Option.map_some, Option.getD_some]
  rfl

/-- A string is a front of memory if it agrees with it byte by byte. -/
theorem eq_take_iff_byteAt {l mem : List UInt8} {n : ℕ} (hl : l.length = n) (hn : n ≤ mem.length) :
    l = mem.take n ↔ ∀ i < n, byteAt l i = byteAt mem i := by
  have hcells : ∀ m : List UInt8, n ≤ m.length → m.take n = (List.range n).map (byteAt m) := by
    intro m hm
    have hmap := @take_drop_eq_map_byteAt m 0 n (by omega)
    simpa using hmap
  constructor
  · rintro rfl i hi
    exact byteAt_congr (by rw [List.take_take, min_self]) hi
  · intro h
    rw [hcells mem hn, ← List.take_of_length_le hl.le, hcells l hl.ge]
    exact List.map_congr_left fun i hi => h i (List.mem_range.mp hi)

end ByteTransport
