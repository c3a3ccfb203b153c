import Mathlib.Data.List.Basic
import Mathlib.Tactic.Linarith

/-! # Bounded queues that drop their oldest entries

The purpose of a drop-oldest ring, stated on plain lists: pushing `xs` on a queue of capacity `cap`
leaves the last `cap` entries of everything queued (`keepLast`), and pushing in several steps is pushing
at once (`keepLast_append_keepLast`). -/

namespace ByteTransport

variable {α : Type*}

/-- The last `cap` entries of `l` (all of them if there are fewer). -/
def keepLast (cap : ℕ) (l : List α) : List α := l.drop (l.length - cap)

/-- No more are kept than there are, and no more than there is room for. -/
@[simp] theorem length_keepLast (cap : ℕ) (l : List α) :
    (keepLast cap l).length = min cap l.length := by
  simp only [keepLast, List.length_drop]
  omega

/-- A queue within its capacity drops nothing. -/
theorem keepLast_of_le {cap : ℕ} {l : List α} (h : l.length ≤ cap) : keepLast cap l = l := by
  rw [keepLast, Nat.sub_eq_zero_of_le h, List.drop_zero]

/-- Dropping does not look at the entries. -/
theorem map_keepLast {β : Type*} (f : α → β) (cap : ℕ) (l : List α) :
    (keepLast cap l).map f = keepLast cap (l.map f) := by
  simp [keepLast]

/-- What is kept are the last ones. -/
theorem keepLast_suffix (cap : ℕ) (l : List α) : keepLast cap l <:+ l := List.drop_suffix _ _

/-- Pushing in two steps drops what pushing at once drops. -/
theorem keepLast_append_keepLast (cap : ℕ) (a b : List α) :
    keepLast cap (keepLast cap a ++ b) = keepLast cap (a ++ b) := by
  simp only [keepLast, List.length_append, List.length_drop, List.drop_append, List.drop_drop]
  congr 2 <;> omega

/-- A push that alone exceeds the capacity keeps only its own last entries. -/
theorem keepLast_append_of_le {cap : ℕ} {b : List α} (a : List α) (h : cap ≤ b.length) :
    keepLast cap (a ++ b) = keepLast cap b := by
  simp only [keepLast, List.length_append]
  rw [List.drop_append, List.drop_eq_nil_of_le (by omega), List.nil_append]
  congr 1
  omega

end ByteTransport
