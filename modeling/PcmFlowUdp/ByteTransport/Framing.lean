import Mathlib.Data.List.Basic

/-! # Framing a stream by a bounded buffer

A `Framer` accumulates items in a buffer of a given capacity until a flush makes a frame of them. A write
that does not fit is cut short, and it is for the caller to flush and offer the rest again (`send`).

* **`contents_write`, `contents_flush`** — frames and buffer hold what was accepted, in order;
* **`Bounded.write`, `Bounded.flush`** — no frame is empty or larger than the capacity;
* **`send_frames`** — the caller's loop terminates, and frames exactly what it was given. -/

namespace ByteTransport

variable {α : Type*}

/-- What a framer has accepted: the items since the last flush, and the frames before that. -/
structure Framer (α : Type*) where
  pending : List α := []
  frames : List (List α) := []

namespace Framer

/-- Everything accepted, in order. -/
def contents (f : Framer α) : List α := f.frames.flatten ++ f.pending

/-- Put items behind the pending ones. -/
def accept (f : Framer α) (xs : List α) : Framer α := { f with pending := f.pending ++ xs }

/-- How many of `n` items offered are accepted. -/
def room (capacity : ℕ) (f : Framer α) (n : ℕ) : ℕ := min n (capacity - f.pending.length)

/-- Offer items: those that fit are accepted. -/
def write (capacity : ℕ) (f : Framer α) (xs : List α) : Framer α :=
  f.accept (xs.take (f.room capacity xs.length))

/-- Make a frame of what is pending, if there is anything. -/
def flush (f : Framer α) : Framer α :=
  match f.pending with
  | [] => f
  | x :: xs => { pending := [], frames := f.frames ++ [x :: xs] }

/-- Accepting nothing changes nothing. -/
@[simp] theorem accept_nil (f : Framer α) : f.accept [] = f := by simp [accept]

/-- What is accepted is appended to the contents. -/
@[simp] theorem contents_accept (f : Framer α) (xs : List α) :
    (f.accept xs).contents = f.contents ++ xs := by
  simp [contents, accept]

/-- A write appends what it accepts. -/
theorem contents_write (capacity : ℕ) (f : Framer α) (xs : List α) :
    (f.write capacity xs).contents = f.contents ++ xs.take (f.room capacity xs.length) :=
  contents_accept f _

/-- With nothing pending a flush does nothing. -/
theorem flush_of_nil {f : Framer α} (h : f.pending = []) : f.flush = f := by
  rw [flush, h]

/-- A flush makes one frame of what is pending. -/
theorem flush_of_ne_nil {f : Framer α} (h : f.pending ≠ []) :
    f.flush = { pending := [], frames := f.frames ++ [f.pending] } := by
  rw [flush]
  split
  · exact absurd ‹_› h
  · rename_i hcons
    rw [hcons]

/-- Nothing is pending after a flush. -/
@[simp] theorem pending_flush (f : Framer α) : f.flush.pending = [] := by
  by_cases h : f.pending = []
  · rw [flush_of_nil h, h]
  · rw [flush_of_ne_nil h]

/-- A flush moves the contents, and changes none of them. -/
@[simp] theorem contents_flush (f : Framer α) : f.flush.contents = f.contents := by
  by_cases h : f.pending = []
  · rw [flush_of_nil h]
  · simp [flush_of_ne_nil h, contents]

/-- What is pending fits the buffer, and so do the frames, of which none is empty. -/
structure Bounded (capacity : ℕ) (f : Framer α) : Prop where
  pending : f.pending.length ≤ capacity
  frames : ∀ frame ∈ f.frames, frame ≠ [] ∧ frame.length ≤ capacity

/-- The framer starts within its bounds. -/
theorem bounded_empty (capacity : ℕ) : ({} : Framer α).Bounded capacity where
  pending := Nat.zero_le _
  frames := by simp

namespace Bounded

variable {capacity : ℕ} {f : Framer α} (h : f.Bounded capacity)

include h

/-- A write keeps the bounds. -/
theorem write (xs : List α) : (f.write capacity xs).Bounded capacity where
  pending := by
    have hle := h.pending
    simp only [Framer.write, accept, room, List.length_append, List.length_take]
    omega
  frames := h.frames

/-- So does a flush. -/
theorem flush : f.flush.Bounded capacity := by
  by_cases hnil : f.pending = []
  · rwa [flush_of_nil hnil]
  · rw [flush_of_ne_nil hnil]
    refine ⟨Nat.zero_le _, fun frame hmem => ?_⟩
    rcases List.mem_append.mp hmem with hold | hnew
    · exact h.frames frame hold
    · obtain rfl := List.mem_singleton.mp hnew
      exact ⟨hnil, h.pending⟩

end Bounded

/-! ## The caller's loop -/

/-- Offer items; when they do not fit, flush and offer the rest; flush at the end. -/
def send (capacity : ℕ) : ℕ → Framer α → List α → Option (Framer α)
  | 0, _, _ => none
  | fuel + 1, f, xs =>
      let n := f.room capacity xs.length
      if n < xs.length then send capacity fuel (f.write capacity xs).flush (xs.drop n)
      else some (f.write capacity xs).flush

/-- One round of the loop, if the rounds after it do what they should. -/
theorem send_round {capacity fuel : ℕ} {f : Framer α} {xs : List α}
    (hrest : f.room capacity xs.length < xs.length →
      ∃ f', send capacity fuel (f.write capacity xs).flush (xs.drop (f.room capacity xs.length)) = some f' ∧
        f'.pending = [] ∧
        f'.contents = (f.write capacity xs).flush.contents ++ xs.drop (f.room capacity xs.length)) :
    ∃ f', send capacity (fuel + 1) f xs = some f' ∧ f'.pending = [] ∧ f'.contents = f.contents ++ xs := by
  rw [send]
  by_cases hshort : f.room capacity xs.length < xs.length
  · obtain ⟨f', hsend, hpending, hcontents⟩ := hrest hshort
    refine ⟨f', by rw [if_pos hshort]; exact hsend, hpending, ?_⟩
    rw [hcontents, contents_flush, contents_write, List.append_assoc, List.take_append_drop]
  · refine ⟨_, if_neg hshort, pending_flush _, ?_⟩
    rw [contents_flush, contents_write, List.take_of_length_le (by omega)]

/-- With an empty buffer every round takes an item. -/
theorem send_of_empty {capacity : ℕ} (hpos : 0 < capacity) (fuel : ℕ) {f : Framer α}
    (hempty : f.pending = []) {xs : List α} (hfuel : xs.length < fuel) :
    ∃ f', send capacity fuel f xs = some f' ∧ f'.pending = [] ∧ f'.contents = f.contents ++ xs := by
  induction fuel generalizing f xs with
  | zero => exact absurd hfuel (Nat.not_lt_zero _)
  | succ fuel ih =>
    have hroom : f.room capacity xs.length = min xs.length capacity := by
      rw [room, hempty, List.length_nil, Nat.sub_zero]
    apply send_round
    intro hshort
    have hprogress : 0 < f.room capacity xs.length := by omega
    apply ih (f.write capacity xs).pending_flush
    rw [List.length_drop]
    omega

/-- **The loop terminates**, and leaves nothing pending. -/
theorem send_spec {capacity : ℕ} (hpos : 0 < capacity) (f : Framer α) (xs : List α) :
    ∃ f', send capacity (xs.length + 2) f xs = some f' ∧ f'.pending = [] ∧
      f'.contents = f.contents ++ xs := by
  apply send_round
  intro _
  -- after the first flush the buffer is empty
  apply send_of_empty hpos (xs.length + 1) (f.write capacity xs).pending_flush
  rw [List.length_drop]
  omega

/-- Frames that were made stay. -/
theorem flush_prefix (f : Framer α) : f.frames <+: f.flush.frames := by
  by_cases h : f.pending = []
  · simp [flush_of_nil h]
  · rw [flush_of_ne_nil h]
    exact List.prefix_append _ _

/-- Sending takes no frame back. -/
theorem send_prefix (capacity fuel : ℕ) {f f' : Framer α} {xs : List α}
    (h : send capacity fuel f xs = some f') : f.frames <+: f'.frames := by
  induction fuel generalizing f xs with
  | zero => cases h
  | succ fuel ih =>
    have hflush : f.frames <+: (f.write capacity xs).flush.frames :=
      flush_prefix (f.write capacity xs)
    rw [send] at h
    by_cases hshort : f.room capacity xs.length < xs.length
    · rw [if_pos hshort] at h
      exact hflush.trans (ih h)
    · rw [if_neg hshort, Option.some.injEq] at h
      rwa [← h]

/-- **What the loop sends.** Its frames are what was pending and what it was given, in order. -/
theorem send_frames {capacity : ℕ} (hpos : 0 < capacity) (f : Framer α) (xs : List α) :
    ∃ f' frames, send capacity (xs.length + 2) f xs = some f' ∧ f'.pending = [] ∧
      f'.frames = f.frames ++ frames ∧ frames.flatten = f.pending ++ xs := by
  obtain ⟨f', hsend, hpending, hcontents⟩ := send_spec hpos f xs
  obtain ⟨frames, hframes⟩ := send_prefix _ _ hsend
  refine ⟨f', frames, hsend, hpending, hframes.symm, ?_⟩
  rw [contents, contents, ← hframes, hpending, List.flatten_append, List.append_nil, List.append_assoc]
    at hcontents
  exact List.append_cancel_left hcontents

end Framer

end ByteTransport
