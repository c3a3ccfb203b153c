import Mathlib.Data.List.Basic
import Mathlib.Data.List.Flatten
import Mathlib.Data.List.Forall2
import Mathlib.Data.List.Infix

/-! # A network that loses, repeats and reorders

A sender keeps a log of the messages it sent, and a network delivers some of them: any of them, in any
order and any number of times. `arrivals` is what the messages with the given numbers hold, in the order in
which they arrived.

* **`mem_of_mem_arrivals`** — nothing arrives that was not sent;
* **`arrivals_sublist`** — what arrives in the order of sending is what was sent, with gaps;
* **`arrivals_append_log`** — what has arrived stays the same while the log grows;
* **`arrivals_sublistForall₂`** — what arrives in the order of sending, of messages that lost something on the
  way, is related to what was sent one by one, with gaps. -/

namespace ByteTransport

variable {α β : Type*} (contents : α → List β)

/-- The contents of the messages of `log` with the numbers `ks`. -/
def arrivals (log : List α) (ks : List ℕ) : List β :=
  ks.flatMap fun k => (log[k]?).elim [] contents

variable {contents} {log : List α} {ks : List ℕ}

/-- Nothing arrived, nothing is there. -/
@[simp] theorem arrivals_nil : arrivals contents log [] = [] := rfl

/-- One more message arrives. -/
theorem arrivals_snoc {k : ℕ} {m : α} (hk : log[k]? = some m) (ks : List ℕ) :
    arrivals contents log (ks ++ [k]) = arrivals contents log ks ++ contents m := by
  simp [arrivals, hk]

/-- **While the log grows**, the messages that have arrived stay. -/
theorem arrivals_append_log (hks : ∀ k ∈ ks, k < log.length) (more : List α) :
    arrivals contents (log ++ more) ks = arrivals contents log ks := by
  rw [arrivals, arrivals, List.flatMap_def, List.flatMap_def]
  refine congrArg List.flatten (List.map_congr_left fun k hk => ?_)
  rw [List.getElem?_append_left (hks k hk)]

/-- **Nothing arrives that was not sent.** -/
theorem mem_of_mem_arrivals {x : β} (hx : x ∈ arrivals contents log ks) : x ∈ log.flatMap contents := by
  obtain ⟨k, -, hk⟩ := List.mem_flatMap.mp hx
  cases hget : log[k]? with
  | none =>
    rw [hget] at hk
    exact absurd hk List.not_mem_nil
  | some m =>
    rw [hget] at hk
    exact List.mem_flatMap.mpr ⟨m, List.mem_of_getElem? hget, hk⟩

/-- From message `n` on. -/
theorem arrivals_sublist_drop (hks : ks.Pairwise (· < ·)) {n : ℕ} (hn : ∀ k ∈ ks, n ≤ k) :
    List.Sublist (arrivals contents log ks) ((log.drop n).flatMap contents) := by
  induction ks generalizing n with
  | nil => exact List.nil_sublist _
  | cons k ks ih =>
    obtain ⟨hk, hrest⟩ := List.pairwise_cons.mp hks
    have hlater := ih hrest hk
    have hnk : n ≤ k := hn k List.mem_cons_self
    -- what is in front of message `k` is passed over
    have hskip : List.Sublist ((log.drop k).flatMap contents) ((log.drop n).flatMap contents) :=
      (List.drop_sublist_drop_left log hnk).flatMap contents
    refine List.Sublist.trans ?_ hskip
    rw [arrivals, List.flatMap_cons, ← arrivals]
    rcases Nat.lt_or_ge k log.length with hlt | hge
    · rw [List.drop_eq_getElem_cons hlt, List.flatMap_cons, List.getElem?_eq_getElem hlt]
      exact hlater.append_left _
    · rw [List.getElem?_eq_none hge]
      refine hlater.trans ?_
      exact (List.drop_sublist_drop_left log (Nat.le_succ k)).flatMap contents

/-- **What arrives in the order of sending** is what was sent, with gaps. -/
theorem arrivals_sublist (hks : ks.Pairwise (· < ·)) :
    List.Sublist (arrivals contents log ks) (log.flatMap contents) :=
  arrivals_sublist_drop hks fun _ _ => Nat.zero_le _

/-- If the first messages arrive, each once and in order, nothing of them is missing. -/
theorem arrivals_range {n : ℕ} (hn : n ≤ log.length) :
    arrivals contents log (List.range n) = (log.take n).flatMap contents := by
  induction n with
  | zero => rfl
  | succ n ih =>
    have hlt : n < log.length := hn
    rw [List.range_succ, arrivals_snoc (List.getElem?_eq_getElem hlt), ih (Nat.le_of_succ_le hn),
      List.take_add_one, List.getElem?_eq_getElem hlt, List.flatMap_append]
    simp

/-! ## Messages that lost something on the way -/

section Related

variable {γ : Type*} {R : β → γ → Prop}

/-- Each of the first ones is related to one of the second. -/
theorem exists_mem_of_sublistForall₂ {xs : List β} {ys : List γ} (h : List.SublistForall₂ R xs ys) {x : β}
    (hx : x ∈ xs) : ∃ y ∈ ys, R x y := by
  induction h with
  | nil => exact absurd hx List.not_mem_nil
  | cons hxy _ ih =>
    rcases List.mem_cons.mp hx with rfl | hx
    · exact ⟨_, List.mem_cons_self, hxy⟩
    · obtain ⟨y, hy, hr⟩ := ih hx
      exact ⟨y, List.mem_cons_of_mem _ hy, hr⟩
  | cons_right _ ih =>
    obtain ⟨y, hy, hr⟩ := ih hx
    exact ⟨y, List.mem_cons_of_mem _ hy, hr⟩

/-- Matches with gaps lie one behind the other. -/
theorem sublistForall₂_append {xs xs' : List β} {ys ys' : List γ} (h : List.SublistForall₂ R xs ys)
    (h' : List.SublistForall₂ R xs' ys') : List.SublistForall₂ R (xs ++ xs') (ys ++ ys') := by
  obtain ⟨zs, hzs, hsub⟩ := List.sublistForall₂_iff.mp h
  obtain ⟨zs', hzs', hsub'⟩ := List.sublistForall₂_iff.mp h'
  exact List.sublistForall₂_iff.mpr ⟨zs ++ zs', List.rel_append hzs hzs', hsub.append hsub'⟩

/-- And so do any number of them. -/
theorem sublistForall₂_flatMap {f : α → List β} {g : α → List γ}
    (h : ∀ m ∈ log, List.SublistForall₂ R (f m) (g m)) :
    List.SublistForall₂ R (log.flatMap f) (log.flatMap g) := by
  induction log with
  | nil => exact .nil
  | cons m log ih =>
    rw [List.flatMap_cons, List.flatMap_cons]
    exact sublistForall₂_append (h m List.mem_cons_self) (ih fun m' hm' => h m' (List.mem_cons_of_mem _ hm'))

end Related

/-- **Messages that lost something on the way**, if they arrive in the order of sending: what is kept of them is
related to what they held when they were sent. -/
theorem arrivals_sublistForall₂ {R : β → β → Prop} [Std.Refl R] [IsTrans β R] {left : α → List β} {xs : List β}
    (hleft : ∀ m ∈ log, List.SublistForall₂ R (left m) (contents m)) (hks : ks.Pairwise (· < ·))
    (hxs : List.Sublist xs (arrivals left log ks)) : List.SublistForall₂ R xs (log.flatMap contents) :=
  IsTrans.trans _ _ _ (hxs.trans (arrivals_sublist hks)).sublistForall₂ (sublistForall₂_flatMap hleft)

end ByteTransport
