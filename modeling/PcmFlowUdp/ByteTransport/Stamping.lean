import Mathlib.Data.List.Basic

/-! # Logs stamped by a running state

A source keeps a state, stamps every entry of its log with it, and moves the state on after each entry.
`Stamped next carries s log` says that each entry carries the state that `s` has moved to by then.

* **`stamped_append`** — a log may be stamped in two parts;
* **`Stamped.carries`** — what an entry carries, read off the entries before it;
* **`Stamped.pair`** — how the stamps of two entries differ, read off the entries between them. -/

namespace ByteTransport

variable {σ ε : Type*}

/-- Every entry of the log carries the state that the entries before it lead to. -/
def Stamped (next : σ → ε → σ) (carries : σ → ε → Prop) (s : σ) : List ε → Prop
  | [] => True
  | e :: log => carries s e ∧ Stamped next carries (next s e) log

section Log

variable {next : σ → ε → σ} {carry : σ → ε → Prop} {s : σ}

/-- The second part of a log goes on from where the first part ended. -/
theorem stamped_append (log log' : List ε) :
    Stamped next carry s (log ++ log') ↔
      Stamped next carry s log ∧ Stamped next carry (log.foldl next s) log' := by
  induction log generalizing s with
  | nil => simp [Stamped]
  | cons e log ih => simp [Stamped, ih, and_assoc]

/-- **The stamp of an entry.** -/
theorem Stamped.carries {pre : List ε} {e : ε} {post : List ε}
    (h : Stamped next carry s (pre ++ e :: post)) : carry (pre.foldl next s) e := by
  rw [stamped_append] at h
  exact h.2.1

/-- **The stamps of two entries.** The later one carries what the entries from the earlier one on make of
the stamp of that one. -/
theorem Stamped.pair {pre : List ε} {e : ε} {mid : List ε} {e' : ε} {post : List ε}
    (h : Stamped next carry s (pre ++ e :: (mid ++ e' :: post))) :
    carry (pre.foldl next s) e ∧ carry ((e :: mid).foldl next (pre.foldl next s)) e' := by
  refine ⟨h.carries, ?_⟩
  rw [← List.cons_append, ← List.append_assoc] at h
  have hlater := h.carries
  rwa [List.foldl_append] at hlater

end Log

end ByteTransport
