import PcmFlowUdp.ByteTransport.Answers
import PcmFlowUdp.ByteTransport.DropOldest

/-! # Playing from a bounded queue that drops its oldest entries

A drop-oldest queue forgets what it drops. `PlayLog` forgets nothing: it keeps everything that ever arrived and
the position of the next entry to play, and the queue is the rest from there on. An arrival moves the position
on only as far as the room forces it to, so

* **`PlayLog.Sound`** — the position is never more than the room behind what arrived, what was played is in
  order, and every entry in front of the position was either played or skipped;
* **`transcript_plays`** — a machine that is such a queue holds what the log leaves to play. -/

namespace ByteTransport

variable {α : Type*}

/-- What happens to a queue. -/
inductive PlayEvent (α : Type*)
  /-- Entries arrive at a queue with this room. -/
  | arrive (room : ℕ) (xs : List α)
  /-- Up to so many entries are played. -/
  | play (k : ℕ)

/-- All that ever arrived at a queue, and what became of it. -/
structure PlayLog (α : Type*) where
  all : List α := []
  /-- The position of the next entry to play. -/
  next : ℕ := 0
  played : List α := []
  /-- How many entries were dropped before they were played. -/
  skipped : ℕ := 0

namespace PlayLog

/-- What is left to play. -/
def window (l : PlayLog α) : List α := l.all.drop l.next

/-- How many entries have to go when `n` have arrived in all and there is room for `room`. -/
def overflow (l : PlayLog α) (room n : ℕ) : ℕ := n - room - l.next

/-- Record an event. -/
def record (l : PlayLog α) : PlayEvent α → PlayLog α
  | .arrive room xs =>
      let lost := l.overflow room (l.all.length + xs.length)
      { l with all := l.all ++ xs, next := l.next + lost, skipped := l.skipped + lost }
  | .play k =>
      { l with next := l.next + (l.window.take k).length, played := l.played ++ l.window.take k }

/-- What is queued is what arrived behind the position. -/
theorem length_window (l : PlayLog α) : l.window.length = l.all.length - l.next := List.length_drop

/-- What is left after an arrival are the last entries of what was left and what arrived. -/
theorem window_arrive {l : PlayLog α} (h : l.next ≤ l.all.length) (room : ℕ) (xs : List α) :
    (l.record (.arrive room xs)).window = keepLast room (l.window ++ xs) := by
  have hdrop : l.window ++ xs = (l.all ++ xs).drop l.next := by
    rw [window, List.drop_append_of_le_length h]
  rw [hdrop, keepLast, List.drop_drop, List.length_drop, List.length_append]
  show (l.all ++ xs).drop (l.next + (l.all.length + xs.length - room - l.next)) = _
  congr 1
  omega

/-- Playing takes entries off the front. -/
theorem window_play (l : PlayLog α) (k : ℕ) : (l.record (.play k)).window = l.window.drop k := by
  show l.all.drop (l.next + (l.window.take k).length) = (l.all.drop l.next).drop k
  rw [← List.drop_drop, List.length_take, length_window]
  rcases Nat.le_total k (l.all.length - l.next) with hle | hle
  · rw [min_eq_left hle]
  · rw [min_eq_right hle, List.drop_eq_nil_of_le (by rw [List.length_drop]),
      List.drop_eq_nil_of_le (by rw [List.length_drop]; exact hle)]

end PlayLog

/-- The event takes the queue `held` with this room to `held'` and `room'`, and hands out `given`. -/
def PlayEvent.Follows (held : List α) (room : ℕ) (given held' : List α) (room' : ℕ) : PlayEvent α → Prop
  | .arrive room₁ xs => given = [] ∧ held' = keepLast room₁ (held ++ xs) ∧ room' = room₁
  | .play k => given = held.take k ∧ held' = held.drop k ∧ room' = room

/-- The log of a queue with this room. -/
structure PlayLog.Sound (room : ℕ) (l : PlayLog α) : Prop where
  next_le : l.next ≤ l.all.length
  /-- The next entry to play is one of the last that arrived. -/
  fresh : l.all.length ≤ l.next + room
  /-- Every entry in front of it was played or skipped. -/
  balance : l.next = l.played.length + l.skipped
  /-- What was played is in order. -/
  order : l.played.Sublist (l.all.take l.next)

/-- An empty log is sound. -/
theorem PlayLog.sound_new (room : ℕ) : ({} : PlayLog α).Sound room :=
  ⟨le_rfl, Nat.zero_le _, rfl, List.Sublist.refl _⟩

section Record

variable {room room' : ℕ} {l : PlayLog α} {given held' : List α} (h : l.Sound room)

include h

/-- **One event** of a queue that is what the log leaves to play. -/
theorem PlayLog.Sound.record {e : PlayEvent α} (hfollows : e.Follows l.window room given held' room') :
    (l.record e).Sound room' ∧ held' = (l.record e).window ∧
      (l.record e).played = l.played ++ given := by
  have hnext := h.next_le
  cases e with
  | arrive room₁ xs =>
    -- an arrival that overflows moves the position over what is dropped
    obtain ⟨rfl, rfl, rfl⟩ := hfollows
    refine ⟨⟨?_, ?_, ?_, ?_⟩, (PlayLog.window_arrive hnext room' xs).symm, (List.append_nil _).symm⟩
    · show l.next + (l.all.length + xs.length - room' - l.next) ≤ (l.all ++ xs).length
      rw [List.length_append]
      omega
    · show (l.all ++ xs).length ≤ l.next + (l.all.length + xs.length - room' - l.next) + room'
      rw [List.length_append]
      omega
    · show l.next + l.overflow room' _ = l.played.length + (l.skipped + l.overflow room' _)
      rw [h.balance, Nat.add_assoc]
    · -- what lies in front of the position only grows
      have htake : (l.all ++ xs).take l.next = l.all.take l.next := List.take_append_of_le_length hnext
      have hfront : (l.all ++ xs).take l.next
          <+: (l.all ++ xs).take (l.next + l.overflow room' (l.all.length + xs.length)) :=
        List.take_prefix_take_left (Nat.le_add_right _ _)
      rw [htake] at hfront
      exact h.order.trans hfront.sublist
  | play k =>
    obtain ⟨rfl, rfl, rfl⟩ := hfollows
    -- playing moves the position over what is handed out
    have hlen : (l.window.take k).length ≤ l.all.length - l.next := by
      rw [← l.length_window]
      exact List.length_take_le' _ _
    refine ⟨⟨?_, ?_, ?_, ?_⟩, (l.window_play k).symm, rfl⟩
    · show l.next + (l.window.take k).length ≤ l.all.length
      omega
    · show l.all.length ≤ l.next + (l.window.take k).length + room'
      have hfresh := h.fresh
      omega
    · show l.next + (l.window.take k).length = (l.played ++ l.window.take k).length + l.skipped
      rw [List.length_append, h.balance]
      omega
    · -- what is handed out is the next piece of the log
      have hpiece : l.all.take (l.next + (l.window.take k).length) = l.all.take l.next ++ l.window.take k := by
        rw [List.take_add]
        congr 1
        show l.window.take _ = _
        rw [List.length_take, ← List.take_take, List.take_length]
      show (l.played ++ l.window.take k).Sublist (l.all.take (l.next + (l.window.take k).length))
      rw [hpiece]
      exact h.order.append_right _

end Record

/-- **Runs of a drop-oldest queue.** If every step of a machine is one event for what it holds, the machine holds
what the log of these events leaves to play and has handed out what the log has played. -/
theorem transcript_plays {σ ι ω : Type*} {step : σ → ι → ω × σ} (held : σ → List α) (room : σ → ℕ)
    (given : ι × ω → List α) (event : ι × ω → PlayEvent α)
    (hstep : ∀ s i, (event (i, (step s i).1)).Follows (held s) (room s) (given (i, (step s i).1))
      (held (step s i).2) (room (step s i).2))
    {s : σ} {l : PlayLog α} (hl : l.Sound (room s)) (hheld : held s = l.window) (is : List ι) :
    let es := transcript step s is
    let log := es.foldl (fun l e => l.record (event e)) l
    log.Sound (room (after step s is)) ∧ held (after step s is) = log.window ∧
      log.played = l.played ++ es.flatMap given := by
  induction is generalizing s l with
  | nil => exact ⟨hl, hheld, (List.append_nil _).symm⟩
  | cons i is ih =>
    have hfollows := hstep s i
    rw [hheld] at hfollows
    obtain ⟨hsound, hwindow, hplayed⟩ := hl.record hfollows
    obtain ⟨hsound', hwindow', hplayed'⟩ := ih hsound hwindow
    rw [hplayed, List.append_assoc] at hplayed'
    exact ⟨hsound', hwindow', hplayed'⟩

end ByteTransport
