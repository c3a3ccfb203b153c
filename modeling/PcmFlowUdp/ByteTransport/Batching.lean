import Mathlib.Data.List.Basic
import Mathlib.Tactic.Linarith

/-! # Batched accumulation

A *batcher* accumulates items and emits whenever `limit` of them are pending. Code that accepts many
items at once copies as large a batch as there is room for, emits if that filled the store, and goes
round again (`Batcher.loop`); the same component fed one item at a time is a fold of `Batcher.push`.
`Batcher.loop_eq_foldl` says that the two agree, so that how a caller chunks its items never matters,
and that the loop finishes. -/

namespace ByteTransport

variable {σ α : Type*}

/-- A component that accumulates items of type `α` in a state of type `σ`. -/
structure Batcher (σ α : Type*) where
  /-- How many items are pending. -/
  pending : σ → ℕ
  /-- How many items are emitted together. -/
  limit : σ → ℕ
  /-- Add a batch to the pending items. -/
  put : σ → List α → σ
  /-- Emit the pending items. -/
  emit : σ → σ

namespace Batcher

/-- The laws of a batcher on the states of `Ok`. -/
structure Lawful (B : Batcher σ α) (Ok : σ → Prop) : Prop where
  /-- Adding in two steps is adding at once. -/
  put_append : ∀ s xs ys, Ok s → B.put (B.put s xs) ys = B.put s (xs ++ ys)
  pending_put : ∀ s xs, Ok s → B.pending (B.put s xs) = B.pending s + xs.length
  limit_put : ∀ s xs, Ok s → B.limit (B.put s xs) = B.limit s
  pending_emit : ∀ s, Ok s → B.pending (B.emit s) = 0
  limit_emit : ∀ s, Ok s → B.limit (B.emit s) = B.limit s
  ok_put : ∀ s xs, Ok s → Ok (B.put s xs)
  ok_emit : ∀ s, Ok s → Ok (B.emit s)

variable (B : Batcher σ α)

/-- Emit if the store is full. -/
def settle (s : σ) : σ := if B.limit s ≤ B.pending s then B.emit s else s

/-- Accept one item. -/
def push (s : σ) (x : α) : σ := B.settle (B.put s [x])

/-- Accept a list of items in batches, for at most `fuel` rounds. -/
def loop : ℕ → σ → List α → Option σ
  | _, s, [] => some s
  | 0, _, _ :: _ => none
  | fuel + 1, s, x :: xs =>
      let room := B.limit s - B.pending s
      let batch := if (x :: xs).length < room then (x :: xs).length else room
      loop fuel (B.settle (B.put s ((x :: xs).take batch))) ((x :: xs).drop batch)

variable {B} {Ok : σ → Prop}

/-- Settling keeps the states good. -/
theorem Lawful.ok_settle (h : B.Lawful Ok) {s : σ} (hs : Ok s) : Ok (B.settle s) := by
  unfold settle
  split
  · exact h.ok_emit s hs
  · exact hs

/-- So does pushing. -/
theorem Lawful.ok_push (h : B.Lawful Ok) {s : σ} (hs : Ok s) (x : α) : Ok (B.push s x) :=
  h.ok_settle (h.ok_put s [x] hs)

/-- Settling keeps the limit. -/
theorem Lawful.limit_settle (h : B.Lawful Ok) {s : σ} (hs : Ok s) :
    B.limit (B.settle s) = B.limit s := by
  unfold settle
  split
  · exact h.limit_emit s hs
  · rfl

/-- Settling leaves the store below its limit. -/
theorem Lawful.pending_settle_lt (h : B.Lawful Ok) {s : σ} (hs : Ok s) (hpos : 0 < B.limit s) :
    B.pending (B.settle s) < B.limit (B.settle s) := by
  rw [h.limit_settle hs, settle]
  split
  · rwa [h.pending_emit s hs]
  · omega

/-- Items that fit are accepted one at a time as they are accepted in one batch. -/
theorem Lawful.foldl_push_of_le (h : B.Lawful Ok) {xs : List α} (hne : xs ≠ []) {s : σ} (hs : Ok s)
    (hfit : B.pending s + xs.length ≤ B.limit s) :
    xs.foldl B.push s = B.settle (B.put s xs) := by
  induction xs generalizing s with
  | nil => exact absurd rfl hne
  | cons x xs ih =>
    rw [List.length_cons] at hfit
    cases xs with
    | nil => rfl
    | cons y ys =>
      rw [List.length_cons] at hfit
      -- the first item does not fill the store
      have hpush : B.push s x = B.put s [x] := by
        rw [push, settle, if_neg]
        rw [h.limit_put s _ hs, h.pending_put s _ hs, List.length_singleton]
        omega
      rw [List.foldl_cons, hpush, ih (List.cons_ne_nil y ys) (h.ok_put s _ hs), h.put_append s _ _ hs]
      · rfl
      · rw [h.limit_put s _ hs, h.pending_put s _ hs, List.length_singleton, List.length_cons]
        omega

/-- Pushing keeps the states good, the limit, and room for one more. -/
theorem Lawful.foldl_push_inv (h : B.Lawful Ok) {s : σ} (hs : Ok s)
    (hlt : B.pending s < B.limit s) (xs : List α) :
    Ok (xs.foldl B.push s) ∧ B.limit (xs.foldl B.push s) = B.limit s ∧
      B.pending (xs.foldl B.push s) < B.limit s := by
  induction xs generalizing s with
  | nil => exact ⟨hs, rfl, hlt⟩
  | cons x xs ih =>
    have hput := h.ok_put s [x] hs
    have hlim : B.limit (B.push s x) = B.limit s := by
      rw [push, h.limit_settle hput, h.limit_put s _ hs]
    -- a store that the item filled has been emitted, so there is room for the next item
    have hlt' := h.pending_settle_lt hput (by rw [h.limit_put s _ hs]; omega)
    obtain ⟨hok, hl, hp⟩ := ih (h.ok_push hs x) hlt'
    exact ⟨hok, hl.trans hlim, hlim ▸ hp⟩

/-- **Related stores stay related**, item by item, if adding an item that fits and emitting keep them so. -/
theorem Lawful.foldl_push_rel (h : B.Lawful Ok) {R : σ → σ → Prop}
    (hread : ∀ s t, R s t → B.pending t = B.pending s ∧ B.limit t = B.limit s)
    (hput : ∀ s t x, Ok s → B.pending s < B.limit s → R s t → R (B.put s [x]) (B.put t [x]))
    (hemit : ∀ s t, Ok s → B.pending s ≤ B.limit s → R s t → R (B.emit s) (B.emit t)) {s t : σ} (hs : Ok s)
    (hlt : B.pending s < B.limit s) (hrel : R s t) (xs : List α) :
      R (xs.foldl B.push s) (xs.foldl B.push t) := by
  induction xs generalizing s t with
  | nil => exact hrel
  | cons x xs ih =>
    have hadded := hput s t x hs hlt hrel
    have hok := h.ok_put s [x] hs
    obtain ⟨hpending, hlimit⟩ := hread _ _ hadded
    have hlt' := h.pending_settle_lt hok (by rw [h.limit_put s _ hs]; omega)
    -- both stores are full, or neither
    have hpush : R (B.push s x) (B.push t x) := by
      rw [push, push, settle, settle, hpending, hlimit]
      split
      · refine hemit _ _ hok ?_ hadded
        rw [h.pending_put s _ hs, h.limit_put s _ hs, List.length_singleton]
        exact hlt
      · exact hadded
    exact ih (h.ok_push hs x) hlt' hpush

/-- **Chunking never matters.** From a store below its limit the batched loop finishes, with the
state of accepting the items one at a time. -/
theorem Lawful.loop_eq_foldl (h : B.Lawful Ok) (fuel : ℕ) {s : σ} (hs : Ok s)
    (hlt : B.pending s < B.limit s) {xs : List α} (hfuel : xs.length ≤ fuel) :
    B.loop fuel s xs = some (xs.foldl B.push s) := by
  induction fuel generalizing s xs with
  | zero =>
    obtain rfl : xs = [] := List.length_eq_zero_iff.mp (by omega)
    rfl
  | succ fuel ih =>
    cases xs with
    | nil => rfl
    | cons x xs =>
      set batch := if (x :: xs).length < B.limit s - B.pending s then (x :: xs).length
        else B.limit s - B.pending s with hbatch
      -- there is room for an item, so every round makes progress
      have hpos : 0 < batch := by
        rw [hbatch]
        split
        · exact Nat.succ_pos _
        · omega
      have hroom : batch ≤ B.limit s - B.pending s := by rw [hbatch]; split <;> omega
      have hle : batch ≤ (x :: xs).length := by rw [hbatch]; split <;> omega
      have htake : ((x :: xs).take batch).length = batch := by rw [List.length_take]; omega
      have hne : (x :: xs).take batch ≠ [] := by
        intro hnil
        rw [hnil, List.length_nil] at htake
        omega
      have hput := h.ok_put s ((x :: xs).take batch) hs
      -- one round accepts `batch` items and leaves the others to the next
      have hstep : B.loop (fuel + 1) s (x :: xs)
          = B.loop fuel (B.settle (B.put s ((x :: xs).take batch))) ((x :: xs).drop batch) := rfl
      rw [hstep, ih (h.ok_settle hput) (h.pending_settle_lt hput (by rw [h.limit_put s _ hs]; omega))
        (by rw [List.length_drop]; omega), ← h.foldl_push_of_le hne hs (by rw [htake]; omega),
        ← List.foldl_append, List.take_append_drop]

end Batcher

end ByteTransport
