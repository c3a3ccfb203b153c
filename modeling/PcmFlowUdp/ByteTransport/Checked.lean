import PcmFlowUdp.ByteTransport.Buffer
import PcmFlowUdp.ByteTransport.CircularBuffer

/-! # Checked operations

Lean's `ℕ` subtraction stops at zero, `Buffer.blit` writes no cell that is not there, and a fixed-width number
made from a large one is cut off, so a model that uses them gives some answer where the code would wrap around or
write out of bounds. The checked operations here are `none` in those cases. A program written with them either
does what the unchecked one does or is `none`; `sub?_eq` and its companions say when it is not, and

* **`foldlM_eq_foldl`** — a checked loop is the unchecked one if every step of it is;
* **`Ring.push?_eq`** — pushing to a ring with sound counters writes inside it. -/

namespace ByteTransport

/-- Subtraction of unsigned numbers, `none` if it would wrap around. -/
def sub? (a b : ℕ) : Option ℕ := if b ≤ a then some (a - b) else none

/-- The quotient, `none` if the divisor is zero. -/
def div? (a b : ℕ) : Option ℕ := if b = 0 then none else some (a / b)

/-- The remainder, `none` if the divisor is zero. -/
def mod? (a b : ℕ) : Option ℕ := if b = 0 then none else some (a % b)

/-- Narrowing to 16 bits, `none` if that would lose anything. -/
def narrow16? (k : ℕ) : Option UInt16 := if k < 2 ^ 16 then some (UInt16.ofNat k) else none

/-- Narrowing to 8 bits, `none` if that would lose anything. -/
def narrow8? (k : ℕ) : Option UInt8 := if k < 2 ^ 8 then some (UInt8.ofNat k) else none

/-- A difference does not wrap if it is not negative. -/
theorem sub?_eq {a b : ℕ} (h : b ≤ a) : sub? a b = some (a - b) := if_pos h

/-- A quotient is there if the divisor is not zero. -/
theorem div?_eq {a b : ℕ} (h : b ≠ 0) : div? a b = some (a / b) := if_neg h

/-- So is a remainder. -/
theorem mod?_eq {a b : ℕ} (h : b ≠ 0) : mod? a b = some (a % b) := if_neg h

/-- A number below `2 ^ 16` loses nothing in 16 bits. -/
theorem narrow16?_eq {k : ℕ} (h : k < 2 ^ 16) : narrow16? k = some (UInt16.ofNat k) := if_pos h

/-- A number below `2 ^ 8` loses nothing in 8 bits. -/
theorem narrow8?_eq {k : ℕ} (h : k < 2 ^ 8) : narrow8? k = some (UInt8.ofNat k) := if_pos h

namespace Buffer

variable {α : Type*} {n : ℕ}

/-- Copy `src` to offset `off`, `none` if a cell of it would fall outside. -/
def blit? (b : Buffer α n) (off : ℕ) (src : List α) : Option (Buffer α n) :=
  if off + src.length ≤ n then some (b.blit off src) else none

/-- The `len` cells from `off` on, `none` if one of them is not there. -/
def slice? (b : Buffer α n) (off len : ℕ) : Option (List α) :=
  if off + len ≤ n then some (b.slice off len) else none

/-- What fits behind the offset is copied. -/
theorem blit?_eq (b : Buffer α n) {off : ℕ} {src : List α} (h : off + src.length ≤ n) :
    b.blit? off src = some (b.blit off src) := if_pos h

/-- Cells that are there are read. -/
theorem slice?_eq (b : Buffer α n) {off len : ℕ} (h : off + len ≤ n) :
    b.slice? off len = some (b.slice off len) := if_pos h

end Buffer

/-- A checked loop is the unchecked one if every step of it is, wherever the loop is. -/
theorem foldlM_eq_foldl {σ ι : Type*} {f? : σ → ι → Option σ} {f : σ → ι → σ} {is : List ι}
    (h : ∀ s, ∀ i ∈ is, f? s i = some (f s i)) (s : σ) : is.foldlM f? s = some (is.foldl f s) := by
  induction is generalizing s with
  | nil => rfl
  | cons i is ih =>
    rw [List.foldlM_cons, h s i List.mem_cons_self, List.foldl_cons]
    exact ih (fun s j hj => h s j (List.mem_cons_of_mem _ hj)) (f s i)

namespace Ring

variable {α : Type*}

/-- `fill`, `none` if a cell to write is not there. -/
def fill? (r : Ring α) : List α → Option (Ring α)
  | [] => some r
  | x :: xs =>
      if r.tail < r.cap then
        (mod? (r.tail + 1) r.cap).bind fun tail =>
          fill? { r with store := r.store.set r.tail x, tail } xs
      else none

/-- `makeRoom`, `none` if the capacity is zero or the count would wrap around. -/
def makeRoom? (r : Ring α) (n : ℕ) : Option (Ring α) :=
  if r.cap < r.count + n then
    (sub? (r.count + n) r.cap).bind fun drop =>
      (mod? (r.head + drop) r.cap).bind fun head =>
        (sub? r.count drop).bind fun count => some { r with head, count }
  else some r

/-- `push`, `none` if an index or a counter leaves its range. -/
def push? (r : Ring α) (src : List α) : Option (Ring α) :=
  let (r, src) :=
    if r.cap ≤ src.length then (r.clear, src.drop (src.length - r.cap)) else (r, src)
  (r.makeRoom? src.length).bind fun r =>
    (r.fill? src).bind fun filled => some (filled.withCount (r.count + src.length))

/-- Filling from a cell of the ring stays inside it. -/
theorem fill?_eq {r : Ring α} (hpos : 0 < r.cap) (htail : r.tail < r.cap) (src : List α) :
    r.fill? src = some (r.fill src) := by
  induction src generalizing r with
  | nil => rfl
  | cons x xs ih =>
    have hcap : ({ r with store := r.store.set r.tail x, tail := (r.tail + 1) % r.cap } : Ring α).cap
        = r.cap := List.length_set ..
    rw [fill?, if_pos htail, mod?_eq hpos.ne', fill]
    apply ih
    · rw [hcap]
      exact hpos
    · rw [hcap]
      exact Nat.mod_lt _ hpos

/-- Making room for what the ring can hold wraps nowhere. -/
theorem makeRoom?_eq {r : Ring α} (h : r.WF) {n : ℕ} (hn : n ≤ r.cap) :
    r.makeRoom? n = some (r.makeRoom n) := by
  have hle := h.count_le
  rw [makeRoom?, makeRoom]
  split
  · rename_i hover
    rw [sub?_eq hover.le, Option.bind_some, mod?_eq h.cap_pos.ne', Option.bind_some,
      sub?_eq (show r.count + n - r.cap ≤ r.count by omega), Option.bind_some]
  · rfl

/-- **Every index that a push uses is below the capacity.** -/
theorem push?_eq {r : Ring α} (h : r.WF) (src : List α) : r.push? src = some (r.push src) := by
  have hsound : ∀ (r : Ring α) (src : List α), r.WF → src.length ≤ r.cap →
      ((r.makeRoom? src.length).bind fun r => (r.fill? src).bind fun filled =>
        some (filled.withCount (r.count + src.length)))
        = some (((r.makeRoom src.length).fill src).withCount ((r.makeRoom src.length).count + src.length)) := by
    intro r src hwf hle
    obtain ⟨hwf', -, -⟩ := makeRoom_spec hwf hle
    rw [makeRoom?_eq hwf hle, Option.bind_some, fill?_eq hwf'.cap_pos hwf'.tail_lt, Option.bind_some]
  rw [push?, push]
  by_cases hbig : r.cap ≤ src.length
  · rw [if_pos hbig]
    refine hsound r.clear _ (wf_clear h) ?_
    rw [List.length_drop]
    show src.length - (src.length - r.cap) ≤ r.cap
    omega
  · rw [if_neg hbig]
    exact hsound r src h (by omega)

/-- Whether the counters of a ring agree can be computed. -/
instance (r : Ring α) : Decidable r.WF :=
  decidable_of_iff (0 < r.cap ∧ r.head < r.cap ∧ r.tail = (r.head + r.count) % r.cap ∧ r.count ≤ r.cap)
    ⟨fun ⟨h1, h2, h3, h4⟩ => ⟨h1, h2, h3, h4⟩, fun h => ⟨h.1, h.2, h.3, h.4⟩⟩

end Ring

namespace RingBuffer

variable {α : Type*}

/-- The ring with these cells and counters, `none` if the counters do not agree. -/
def ofRing? (r : Ring α) : Option (RingBuffer α) := if h : r.WF then some ⟨r, h⟩ else none

/-- The counters agree after a push. -/
theorem ofRing?_push (q : RingBuffer α) (src : List α) : ofRing? (q.ring.push src) = some (q.push src) :=
  dif_pos (q.push src).wf

/-- And after a pop. -/
theorem ofRing?_pop [Inhabited α] (q : RingBuffer α) (n : ℕ) :
    ofRing? (q.ring.pop n).2 = some (q.pop n).2 :=
  dif_pos (q.pop n).2.wf

end RingBuffer

end ByteTransport
