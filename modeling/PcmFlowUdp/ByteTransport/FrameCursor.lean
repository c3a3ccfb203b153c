import Mathlib.Data.List.Basic
import Mathlib.Data.List.Flatten
import Mathlib.Order.Nat

/-! # Reading a queue of frames

A `FrameCursor` is a queue of labelled frames that are read one at a time: `advance` gives up what is left of
the current frame and makes the next one current, `skip` moves on within it. A log of `FrameRead`s records
what was taken, from which frame, and under which label.

* **`Reads`** — the law of the log: what was taken from a frame is a prefix of it, frames are visited in the
  order of their arrival, and labels are right; kept by `arrive`, `advance` and `take`;
* **`Sequential`** — if no frame is given up before its end, what was taken is the frames in a row;
* **`Flows`** — both for the frames of some labels: what was taken of them is what they hold, with gaps, or
  without if no frame is given up. -/

namespace ByteTransport

variable {α β : Type*}

/-- A queue of labelled frames, of which one is being read. -/
structure FrameCursor (α β : Type*) where
  /-- All frames that have arrived. -/
  arrived : List (List α × β) := []
  /-- How many of them have been made current. -/
  next : ℕ := 0
  /-- What is left of the current frame. -/
  unread : List α := []

/-- Items taken from the frame at position `visit`. -/
structure FrameRead (α β : Type*) where
  visit : ℕ
  items : List α
  label : β
  deriving DecidableEq, Repr

/-- What was taken from the frame at position `k`. -/
def takenFrom (k : ℕ) (log : List (FrameRead α β)) : List α :=
  (log.filter fun r => r.visit == k).flatMap FrameRead.items

/-- What was taken of a frame adds up over the log. -/
theorem takenFrom_append (k : ℕ) (log log' : List (FrameRead α β)) :
    takenFrom k (log ++ log') = takenFrom k log ++ takenFrom k log' := by
  simp [takenFrom]

/-- One read takes of the frame that it visits. -/
theorem takenFrom_singleton (k : ℕ) (r : FrameRead α β) :
    takenFrom k [r] = if r.visit = k then r.items else [] := by
  by_cases hk : r.visit = k <;> simp [takenFrom, hk]

/-- Nothing is taken of a frame that no read has come to. -/
theorem takenFrom_eq_nil {k : ℕ} {log : List (FrameRead α β)} (h : ∀ r ∈ log, r.visit < k) :
    takenFrom k log = [] := by
  have hnone : log.filter (fun r => r.visit == k) = [] := by
    rw [List.filter_eq_nil_iff]
    intro r hr
    simpa using (h r hr).ne
  rw [takenFrom, hnone, List.flatMap_nil]

namespace FrameCursor

/-- A frame arrives. -/
def arrive (q : FrameCursor α β) (frame : List α × β) : FrameCursor α β :=
  { q with arrived := q.arrived ++ [frame] }

/-- Give up the current frame and make the next one current, if there is one. -/
def advance (q : FrameCursor α β) : FrameCursor α β :=
  match q.arrived[q.next]? with
  | none => { q with unread := [] }
  | some frame => { q with next := q.next + 1, unread := frame.1 }

/-- Advancing makes nothing arrive. -/
@[simp] theorem arrived_advance (q : FrameCursor α β) : q.advance.arrived = q.arrived := by
  rw [advance]
  split <;> rfl

/-- Move on within the current frame. -/
def skip (q : FrameCursor α β) (n : ℕ) : FrameCursor α β := { q with unread := q.unread.drop n }

/-- A frame that was read to its end is left as it is. -/
theorem skip_of_nil {q : FrameCursor α β} (h : q.unread = []) (n : ℕ) : q.skip n = q := by
  rw [skip, h, List.drop_nil, ← h]

/-- The current frame. -/
def current (q : FrameCursor α β) : Option (List α × β) :=
  match q.next with
  | 0 => none
  | k + 1 => q.arrived[k]?

/-- What is left after `advance` is all of the frame that it made current. -/
theorem advance_current {q : FrameCursor α β} (h : q.advance.unread ≠ []) :
    ∃ frame, q.advance.next = q.next + 1 ∧ q.advance.arrived[q.next]? = some frame ∧
      q.advance.current = some frame := by
  cases hx : q.arrived[q.next]? with
  | none => simp [advance, hx] at h
  | some frame => exact ⟨frame, by simp [advance, hx], by simp [advance, hx], by simp [advance, hx, current]⟩

/-- The law of a log of reads. -/
structure Reads (q : FrameCursor α β) (log : List (FrameRead α β)) : Prop where
  next_le : q.next ≤ q.arrived.length
  visit_lt : ∀ r ∈ log, r.visit < q.next
  /-- Frames are visited in the order of their arrival. -/
  sorted : log.Pairwise fun r r' => r.visit ≤ r'.visit
  /-- Each read has the label of the frame it was taken from. -/
  labels : ∀ r ∈ log, ∃ items, q.arrived[r.visit]? = some (items, r.label)
  /-- What was taken from a frame is a prefix of it. -/
  prefixes : ∀ k frame, q.arrived[k]? = some frame → takenFrom k log <+: frame.1
  /-- What is left of the current frame follows what was taken from it. -/
  unread : q.unread = [] ∨
    ∃ k frame, q.next = k + 1 ∧ q.arrived[k]? = some frame ∧ takenFrom k log ++ q.unread = frame.1

/-- Nothing was taken yet. -/
theorem reads_nil {q : FrameCursor α β} (hnext : q.next ≤ q.arrived.length) (hunread : q.unread = []) :
    q.Reads [] where
  next_le := hnext
  visit_lt := by simp
  sorted := List.Pairwise.nil
  labels := by simp
  prefixes _ _ _ := List.nil_prefix
  unread := .inl hunread

namespace Reads

variable {log : List (FrameRead α β)} {q : FrameCursor α β} (h : q.Reads log)

include h

/-- From the frames that are not current yet nothing was taken. -/
theorem takenFrom_next {k : ℕ} (hk : q.next ≤ k) : takenFrom k log = [] :=
  takenFrom_eq_nil fun r hr => (h.visit_lt r hr).trans_le hk

/-- An arrival keeps the account of the reads. -/
theorem arrive (frame : List α × β) : (q.arrive frame).Reads log where
  next_le := by
    have hle := h.next_le
    simp only [FrameCursor.arrive, List.length_append]
    omega
  visit_lt := h.visit_lt
  sorted := h.sorted
  labels r hr := by
    obtain ⟨items, hitems⟩ := h.labels r hr
    refine ⟨items, ?_⟩
    rw [FrameCursor.arrive, List.getElem?_append_left ((h.visit_lt r hr).trans_le h.next_le), hitems]
  prefixes k x hx := by
    rcases lt_or_ge k q.arrived.length with hlt | hge
    · refine h.prefixes k x ?_
      rwa [FrameCursor.arrive, List.getElem?_append_left hlt] at hx
    · rw [h.takenFrom_next (h.next_le.trans hge)]
      exact List.nil_prefix
  unread := by
    rcases h.unread with hnil | ⟨k, x, hnext, hx, hrest⟩
    · exact .inl hnil
    · have hlt : k < q.arrived.length := by
        have hle := h.next_le
        omega
      exact .inr ⟨k, x, hnext, by rw [FrameCursor.arrive, List.getElem?_append_left hlt, hx], hrest⟩

/-- So does a step to the next frame. -/
theorem advance : q.advance.Reads log := by
  rw [FrameCursor.advance]
  cases hx : q.arrived[q.next]? with
  | none => exact ⟨h.next_le, h.visit_lt, h.sorted, h.labels, h.prefixes, .inl rfl⟩
  | some x =>
    obtain ⟨hlt, -⟩ := List.getElem?_eq_some_iff.mp hx
    refine ⟨hlt, fun r hr => Nat.lt_succ_of_lt (h.visit_lt r hr), h.sorted, h.labels, h.prefixes,
      .inr ⟨q.next, x, rfl, hx, ?_⟩⟩
    rw [h.takenFrom_next le_rfl, List.nil_append]

/-- What was taken of the current frame, followed by what is left of it. -/
theorem taken_current {k : ℕ} {items : List α} {label : β} (hnext : q.next = k + 1)
    (hlabel : q.arrived[k]? = some (items, label)) :
    q.unread = [] ∨ takenFrom k log ++ q.unread = items := by
  rcases h.unread with hnil | ⟨k', x, hnext', hx, hrest⟩
  · exact .inl hnil
  · obtain rfl : k = k' := by omega
    rw [hlabel, Option.some.injEq] at hx
    subst hx
    exact .inr hrest

/-- Taking items from the current frame under its label. -/
theorem take {k : ℕ} {items : List α} {label : β} (hnext : q.next = k + 1)
    (hlabel : q.arrived[k]? = some (items, label)) (n : ℕ) :
    (q.skip n).Reads (log ++ [⟨k, q.unread.take n, label⟩]) := by
  -- only visit `k` gains a read: there the items read are a prefix, everywhere else nothing changes
  have hcurrent := h.taken_current hnext hlabel
  refine ⟨h.next_le, ?_, ?_, ?_, ?_, ?_⟩
  · intro r hr
    rcases List.mem_append.mp hr with hold | hnew
    · exact h.visit_lt r hold
    · obtain rfl := List.mem_singleton.mp hnew
      show k < q.next
      omega
  · refine List.pairwise_append.mpr ⟨h.sorted, List.pairwise_singleton _ _, fun r hr r' hr' => ?_⟩
    obtain rfl := List.mem_singleton.mp hr'
    have hlt := h.visit_lt r hr
    show r.visit ≤ k
    omega
  · intro r hr
    rcases List.mem_append.mp hr with hold | hnew
    · exact h.labels r hold
    · obtain rfl := List.mem_singleton.mp hnew
      exact ⟨items, hlabel⟩
  · intro j x hx
    rw [takenFrom_append, takenFrom_singleton]
    split
    · rename_i hkj
      subst hkj
      obtain rfl : (items, label) = x := Option.some.inj (hlabel.symm.trans hx)
      rcases hcurrent with hnil | hrest
      · rw [hnil, List.take_nil, List.append_nil]
        exact h.prefixes k _ hx
      · refine ⟨q.unread.drop n, ?_⟩
        rw [List.append_assoc, List.take_append_drop, hrest]
    · rw [List.append_nil]
      exact h.prefixes j x hx
  · rcases hcurrent with hnil | hrest
    · left
      show q.unread.drop n = []
      rw [hnil, List.drop_nil]
    · right
      refine ⟨k, (items, label), hnext, hlabel, ?_⟩
      show takenFrom k (log ++ _) ++ q.unread.drop n = items
      rw [takenFrom_append, takenFrom_singleton, if_pos rfl, List.append_assoc, List.take_append_drop, hrest]

end Reads

/-! ## Reading every frame to its end -/

/-- What was taken, and what is left of the current frame, is the frames from position `base` on up to the
current one. -/
structure Sequential (q : FrameCursor α β) (base : ℕ) (log : List (FrameRead α β)) : Prop where
  base_le : base ≤ q.next
  next_le : q.next ≤ q.arrived.length
  taken : log.flatMap FrameRead.items ++ q.unread
    = ((q.arrived.take q.next).drop base).flatMap Prod.fst

/-- Before the first read everything is in order. -/
theorem sequential_nil {q : FrameCursor α β} (hnext : q.next ≤ q.arrived.length) (hunread : q.unread = []) :
    q.Sequential q.next [] where
  base_le := le_rfl
  next_le := hnext
  taken := by
    rw [hunread, List.drop_of_length_le (List.length_take_le _ _)]
    rfl

namespace Sequential

variable {base : ℕ} {log : List (FrameRead α β)} {q : FrameCursor α β} (h : q.Sequential base log)

include h

/-- The cursor is not in front of where it started. -/
theorem base_le_length : base ≤ (q.arrived.take q.next).length := by
  rw [List.length_take_of_le h.next_le]
  exact h.base_le

/-- An arrival keeps the reads in order. -/
theorem arrive (frame : List α × β) : (q.arrive frame).Sequential base log where
  base_le := h.base_le
  next_le := by
    have hle := h.next_le
    simp only [FrameCursor.arrive, List.length_append]
    omega
  taken := by
    show _ = (((q.arrived ++ [frame]).take q.next).drop base).flatMap Prod.fst
    rw [List.take_append_of_le_length h.next_le]
    exact h.taken

/-- Nothing is lost if the current frame was read to its end. -/
theorem advance (hunread : q.unread = []) : q.advance.Sequential base log := by
  have htaken := h.taken
  rw [hunread, List.append_nil] at htaken
  rw [FrameCursor.advance]
  cases hx : q.arrived[q.next]? with
  | none => exact ⟨h.base_le, h.next_le, by rw [List.append_nil]; exact htaken⟩
  | some x =>
    obtain ⟨hlt, -⟩ := List.getElem?_eq_some_iff.mp hx
    refine ⟨h.base_le.trans (Nat.le_succ _), hlt, ?_⟩
    show log.flatMap FrameRead.items ++ x.1 = ((q.arrived.take (q.next + 1)).drop base).flatMap Prod.fst
    rw [List.take_add_one, hx, List.drop_append_of_le_length h.base_le_length, List.flatMap_append, htaken]
    simp

/-- A read that skips what was read keeps them in order. -/
theorem take (k n : ℕ) (label : β) :
    (q.skip n).Sequential base (log ++ [⟨k, q.unread.take n, label⟩]) where
  base_le := h.base_le
  next_le := h.next_le
  taken := by
    show (log ++ [_]).flatMap FrameRead.items ++ q.unread.drop n = _
    rw [List.flatMap_append, List.flatMap_singleton, List.append_assoc, List.take_append_drop]
    exact h.taken

/-- What was taken is a prefix of the frames in a row. -/
theorem isPrefix : log.flatMap FrameRead.items <+: (q.arrived.drop base).flatMap Prod.fst := by
  have hsplit : (q.arrived.drop base).flatMap Prod.fst
      = ((q.arrived.take q.next).drop base).flatMap Prod.fst
        ++ (q.arrived.drop q.next).flatMap Prod.fst := by
    conv_lhs => rw [← List.take_append_drop q.next q.arrived]
    rw [List.drop_append_of_le_length h.base_le_length, List.flatMap_append]
  rw [hsplit, ← h.taken, List.append_assoc]
  exact List.prefix_append _ _

end Sequential

/-! ## Frames of some labels -/

section Labels

variable (p : β → Bool)

/-- What was taken from the frames with such a label. -/
def takenOf (log : List (FrameRead α β)) : List α := (log.filter fun r => p r.label).flatMap FrameRead.items

/-- What the frames with such a label hold. -/
def heldBy (frames : List (List α × β)) : List α := (frames.filter fun f => p f.2).flatMap Prod.fst

/-- What is left of the current frame, if it has such a label. -/
def unreadOf (q : FrameCursor α β) : List α := if q.current.any fun f => p f.2 then q.unread else []

/-- No reads, nothing taken. -/
@[simp] theorem takenOf_nil : takenOf p ([] : List (FrameRead α β)) = [] := rfl

/-- What was taken under a label adds up over the log. -/
@[simp] theorem takenOf_append (log log' : List (FrameRead α β)) :
    takenOf p (log ++ log') = takenOf p log ++ takenOf p log' := by
  simp [takenOf]

/-- What frames of a label hold adds up. -/
@[simp] theorem heldBy_append (frames frames' : List (List α × β)) :
    heldBy p (frames ++ frames') = heldBy p frames ++ heldBy p frames' := by
  simp [heldBy]

/-- One frame holds its items if it has the label. -/
theorem heldBy_singleton (frame : List α × β) : heldBy p [frame] = if p frame.2 then frame.1 else [] := by
  by_cases hp : p frame.2 = true <;> simp [heldBy, hp]

/-- What was taken of the frames with such a label, and what is left of the current one, is related to what they
hold. -/
def Flows (R : List α → List α → Prop) (q : FrameCursor α β) (log : List (FrameRead α β)) : Prop :=
  R (takenOf p log ++ q.unreadOf p) (heldBy p (q.arrived.take q.next))

variable {p} {R : List α → List α → Prop} {q : FrameCursor α β} {log : List (FrameRead α β)}

/-- An arrival behind the current frame. -/
theorem Flows.arrive (h : Flows p R q log) (hnext : q.next ≤ q.arrived.length) (frame : List α × β) :
    Flows p R (q.arrive frame) log := by
  have hcurrent : (q.arrive frame).current = q.current := by
    rw [current, current]
    cases hk : q.next with
    | zero => simp [FrameCursor.arrive, hk]
    | succ k =>
      have hlt : k < q.arrived.length := by omega
      simp [FrameCursor.arrive, hk, List.getElem?_append_left hlt]
  have hleft : (q.arrive frame).unreadOf p = q.unreadOf p := by
    rw [unreadOf, hcurrent]
    rfl
  rw [Flows, hleft]
  show R _ (heldBy p ((q.arrived ++ [frame]).take q.next))
  rw [List.take_append_of_le_length hnext]
  exact h

/-- Taking from the current frame, whose label the log shows. -/
theorem Flows.take (h : Flows p R q log) {label : β} (hlabel : ∃ items, q.current = some (items, label))
    (k n : ℕ) :
    Flows p R (q.skip n) (log ++ [⟨k, q.unread.take n, label⟩]) := by
  obtain ⟨items, hcurrent⟩ := hlabel
  have hsame : (q.skip n).current = some (items, label) := hcurrent
  have hflow : takenOf p (log ++ [⟨k, q.unread.take n, label⟩]) ++ (q.skip n).unreadOf p
      = takenOf p log ++ q.unreadOf p := by
    rw [takenOf_append, List.append_assoc, unreadOf, unreadOf, hsame, hcurrent]
    by_cases hp : p label = true
    · simp [takenOf, hp, skip, List.take_append_drop]
    · simp [takenOf, hp]
  rw [Flows, hflow]
  exact h

/-- The frames up to the next one. -/
theorem heldBy_advance (q : FrameCursor α β) :
    heldBy p (q.advance.arrived.take q.advance.next)
      = heldBy p (q.arrived.take q.next) ++ q.advance.unreadOf p := by
  rw [FrameCursor.advance]
  cases hx : q.arrived[q.next]? with
  | none => simp [unreadOf]
  | some frame =>
    have hunread : ({ q with next := q.next + 1, unread := frame.1 } : FrameCursor α β).unreadOf p
        = if p frame.2 then frame.1 else [] := by
      simp [unreadOf, current, hx]
    rw [hunread, ← heldBy_singleton, ← heldBy_append]
    show heldBy p (q.arrived.take (q.next + 1)) = _
    rw [List.take_add_one, hx]
    rfl

/-- Giving up the current frame loses what is left of it. -/
theorem Flows.advance (h : Flows p List.Sublist q log) : Flows p List.Sublist q.advance log := by
  rw [Flows, heldBy_advance]
  exact ((List.sublist_append_left _ _).trans h).append (List.Sublist.refl _)

/-- If nothing is left of it, nothing is lost. -/
theorem Flows.advance_of_nil (h : Flows p Eq q log) (hunread : q.unread = []) : Flows p Eq q.advance log := by
  have hleft : q.unreadOf p = [] := by simp [unreadOf, hunread]
  rw [Flows, hleft, List.append_nil] at h
  rw [Flows, heldBy_advance, h]

/-- **What was taken of such frames** is what those that arrived hold, with gaps. -/
theorem Flows.sublist (h : Flows p List.Sublist q log) : List.Sublist (takenOf p log) (heldBy p q.arrived) := by
  refine ((List.sublist_append_left _ _).trans h).trans ?_
  exact ((List.take_sublist _ _).filter _).flatMap _

/-- **Without gaps** it is a prefix of that. -/
theorem Flows.isPrefix (h : Flows p Eq q log) : takenOf p log <+: heldBy p q.arrived := by
  have hsplit : heldBy p q.arrived = heldBy p (q.arrived.take q.next) ++ heldBy p (q.arrived.drop q.next) := by
    rw [← heldBy_append, List.take_append_drop]
  rw [hsplit, ← h, List.append_assoc]
  exact List.prefix_append _ _

end Labels

end FrameCursor

end ByteTransport
