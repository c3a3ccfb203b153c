import Mathlib.Data.List.Basic

/-! # A one-slot mailbox

A mailbox holds at most one message: posting replaces what it holds, and taking hands the message out
once, if the taker has room for it. The history says what was posted and what was taken.

* **`Kept.sublist`** — every message is taken at most once, and in the order of posting;
* **`Complete`** — as long as every post finds the slot empty, nothing is lost. -/

namespace ByteTransport

variable {α : Type*}

/-- A one-slot mailbox with its history. -/
structure Mailbox (α : Type*) where
  /-- The message that is held. -/
  slot : Option α := none
  /-- Everything posted so far. -/
  posted : List α := []
  /-- Everything taken so far. -/
  taken : List α := []

namespace Mailbox

variable {m : Mailbox α}

/-- Post a message: the newest wins. -/
def post (m : Mailbox α) (x : α) : Mailbox α :=
  { m with slot := some x, posted := m.posted ++ [x] }

/-- Take the message if it fits; otherwise it stays. -/
def take (m : Mailbox α) (fits : α → Bool) : Option α × Mailbox α :=
  match m.slot with
  | none => (none, m)
  | some x => if fits x then (some x, { m with slot := none, taken := m.taken ++ [x] }) else (none, m)

/-- An empty slot gives nothing. -/
theorem take_of_empty (h : m.slot = none) (fits : α → Bool) : m.take fits = (none, m) := by
  rw [take, h]

/-- What fits is handed over, and the slot is empty. -/
theorem take_of_fits {x : α} (h : m.slot = some x) {fits : α → Bool} (hfits : fits x = true) :
    m.take fits = (some x, { m with slot := none, taken := m.taken ++ [x] }) := by
  rw [take, h]
  exact if_pos hfits

/-- What does not fit stays where it is. -/
theorem take_of_not_fits {x : α} (h : m.slot = some x) {fits : α → Bool} (hfits : ¬ fits x = true) :
    m.take fits = (none, m) := by
  rw [take, h]
  exact if_neg hfits

/-- Taking posts nothing. -/
@[simp] theorem posted_take (m : Mailbox α) (fits : α → Bool) : (m.take fits).2.posted = m.posted := by
  unfold take
  split
  · rfl
  · split <;> rfl

/-! ## No message twice -/

/-- What was taken, and what is held, was posted, each message once and in order. -/
def Kept (m : Mailbox α) : Prop := List.Sublist (m.taken ++ m.slot.toList) m.posted

/-- The messages taken are among those posted, in the same order. -/
theorem Kept.sublist (h : m.Kept) : List.Sublist m.taken m.posted :=
  (List.sublist_append_left _ _).trans h

/-- Posting keeps the account: what was in the slot is overwritten. -/
theorem Kept.post (h : m.Kept) (x : α) : (m.post x).Kept :=
  h.sublist.append (List.Sublist.refl [x])

/-- Taking keeps the account. -/
theorem Kept.take (h : m.Kept) (fits : α → Bool) : (m.take fits).2.Kept := by
  cases hslot : m.slot with
  | none => rwa [take_of_empty hslot]
  | some x =>
    by_cases hfits : fits x = true
    · -- the message moves from the slot behind those taken
      rw [take_of_fits hslot hfits]
      rw [Kept, hslot] at h
      simpa [Kept] using h
    · rwa [take_of_not_fits hslot hfits]

/-! ## No message lost -/

/-- Everything posted was taken or is held. -/
def Complete (m : Mailbox α) : Prop := m.taken ++ m.slot.toList = m.posted

/-- A post that finds the slot empty loses nothing. -/
theorem Complete.post (h : m.Complete) (hslot : m.slot = none) (x : α) : (m.post x).Complete := by
  rw [Complete, hslot, Option.toList_none, List.append_nil] at h
  rw [Complete, Mailbox.post, h]
  rfl

/-- Taking loses nothing. -/
theorem Complete.take (h : m.Complete) (fits : α → Bool) : (m.take fits).2.Complete := by
  cases hslot : m.slot with
  | none => rwa [take_of_empty hslot]
  | some x =>
    by_cases hfits : fits x = true
    · rw [take_of_fits hslot hfits]
      rw [Complete, hslot] at h
      simpa [Complete] using h
    · rwa [take_of_not_fits hslot hfits]

end Mailbox

end ByteTransport
