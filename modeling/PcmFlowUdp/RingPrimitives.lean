import PcmFlowUdp.ByteTransport.Checked
import PcmFlowUdp.ByteTransport.Runs

/-! # The ring primitives of the receivers

`ringPush` and `ringPop`, the index loops behind both receivers' PCM queues, on the memory that they are
handed. `RtpReceiver.cpp` and `VbanReceiver.cpp` each have a copy.

* `RingOk cap r` — the relation between the counters; `queued cap r` — the bytes read from the head on;
* **`ringPush_eq`**, **`ringPop_eq`** — the loops are `Ring.push` and `Ring.pop`, the operations that the
  receivers' models use;
* **`ring_primitives`** — both copies are bounded byte queues;
* **`BoundedByteQueue.run`** — and stay so over whole runs. -/

namespace PcmFlowUdp

open ByteTransport

/-! ## The code -/

/-- The queue memory and the counters that the primitives are handed. -/
abbrev ByteRing := ByteTransport.Ring UInt8

/-- `q[i]`, `none` unless `i` is below the capacity and the cell is there. -/
def ringCell? (cap : ℕ) (q : List UInt8) (i : ℕ) : Option UInt8 := if i < cap then q[i]? else none

/-- `q[i] = x`, `none` unless `i` is below the capacity and the cell is there. -/
def setRingCell? (cap : ℕ) (q : List UInt8) (i : ℕ) (x : UInt8) : Option (List UInt8) :=
  if i < cap ∧ i < q.length then some (q.set i x) else none

/-- A sum of sizes, `none` if it is over twice the capacity: up to there nothing wraps around. -/
def ringSum? (cap a b : ℕ) : Option ℕ := if a + b ≤ 2 * cap then some (a + b) else none

/-- The loop of `ringPush` with `k` bytes to go, from `src[i]` on. -/
def ringPushLoop (cap : ℕ) (src : List UInt8) : ℕ → ℕ → ByteRing → Option ByteRing
  | 0, _, r => some r
  | k + 1, i, r => do
      let x ← src[i]?
      let store ← setRingCell? cap r.store r.tail x
      let next ← ringSum? cap r.tail 1
      let tail ← mod? next cap
      ringPushLoop cap src k (i + 1) { r with store, tail }

/-- The second branch of `ringPush`: drop what leaves no room for `n` bytes. -/
def ringMakeRoom (cap : ℕ) (r : ByteRing) (n : ℕ) : Option ByteRing := do
  let total ← ringSum? cap r.count n
  if cap < total then
    let drop ← sub? total cap
    let next ← ringSum? cap r.head drop
    let head ← mod? next cap
    let count ← sub? r.count drop
    pure { r with head, count }
  else pure r

/-- `ringPush` behind its first branch. -/
def ringAppend (cap : ℕ) (r : ByteRing) (src : List UInt8) (n : ℕ) : Option ByteRing := do
  let r ← ringMakeRoom cap r n
  let r ← ringPushLoop cap src n 0 r
  let count ← ringSum? cap r.count n
  pure { r with count }

/-- `ringPush`: append the `n` bytes at `src`; `none` if it leaves the memory it is given. -/
def ringPush (cap : ℕ) (r : ByteRing) (src : List UInt8) (n : ℕ) : Option ByteRing :=
  if cap ≤ n then do
    -- the source alone overruns the ring
    let skip ← sub? n cap
    ringAppend cap { r with head := 0, tail := 0, count := 0 } (src.drop skip) cap
  else ringAppend cap r src n

/-- The loop of `ringPop` with `k` bytes to go, to `dst[i]` on. -/
def ringPopLoop {m : ℕ} (cap : ℕ) :
    ℕ → ℕ → ByteRing → Buffer UInt8 m → Option (ByteRing × Buffer UInt8 m)
  | 0, _, r, dst => some (r, dst)
  | k + 1, i, r, dst => do
      let x ← ringCell? cap r.store r.head
      let dst ← dst.blit? i [x]
      let next ← ringSum? cap r.head 1
      let head ← mod? next cap
      ringPopLoop cap k (i + 1) { r with head } dst

/-- `ringPop`: move up to `n` bytes to `dst`; `none` if it leaves the memory it is given. -/
def ringPop {m : ℕ} (cap : ℕ) (r : ByteRing) (dst : Buffer UInt8 m) (n : ℕ) :
    Option (ℕ × ByteRing × Buffer UInt8 m) := do
  let take := if n < r.count then n else r.count
  let (r, dst) ← ringPopLoop cap take 0 r dst
  let count ← sub? r.count take
  pure (take, { r with count }, dst)

/-- The copy in `RtpReceiver.cpp`. -/
def RtpReceiver.ringPush (cap : ℕ) (r : ByteRing) (src : List UInt8) (n : ℕ) : Option ByteRing :=
  PcmFlowUdp.ringPush cap r src n

/-- The copy in `RtpReceiver.cpp`. -/
def RtpReceiver.ringPop {m : ℕ} (cap : ℕ) (r : ByteRing) (dst : Buffer UInt8 m) (n : ℕ) :
    Option (ℕ × ByteRing × Buffer UInt8 m) := PcmFlowUdp.ringPop cap r dst n

/-- The copy in `VbanReceiver.cpp`. -/
def VbanReceiver.ringPush (cap : ℕ) (r : ByteRing) (src : List UInt8) (n : ℕ) : Option ByteRing :=
  PcmFlowUdp.ringPush cap r src n

/-- The copy in `VbanReceiver.cpp`. -/
def VbanReceiver.ringPop {m : ℕ} (cap : ℕ) (r : ByteRing) (dst : Buffer UInt8 m) (n : ℕ) :
    Option (ℕ × ByteRing × Buffer UInt8 m) := PcmFlowUdp.ringPop cap r dst n

/-- A sum of counters of one ring does not wrap. -/
theorem ringSum?_eq {cap a b : ℕ} (h : a + b ≤ 2 * cap) : ringSum? cap a b = some (a + b) := if_pos h

/-! ## The loops -/

/-- The push loop writes the next `k` bytes of the source at the tail. -/
theorem ringPushLoop_eq {src : List UInt8} {k i : ℕ} {r : ByteRing} (htail : r.tail < r.cap)
    (hsrc : i + k ≤ src.length) :
    ringPushLoop r.cap src k i r = some (r.fill ((src.drop i).take k)) := by
  induction k generalizing i r with
  | zero => rfl
  | succ k ih =>
    have hi : i < src.length := by omega
    have hpos : 0 < r.cap := by omega
    -- the ring behind the first of the bytes
    set r₁ : ByteRing := { r with store := r.store.set r.tail src[i], tail := (r.tail + 1) % r.cap } with hr₁
    have hcap : r₁.cap = r.cap := List.length_set ..
    have htail₁ : r₁.tail < r₁.cap := by
      rw [hcap]
      exact Nat.mod_lt _ hpos
    have hset : setRingCell? r.cap r.store r.tail src[i] = some (r.store.set r.tail src[i]) :=
      if_pos ⟨htail, htail⟩
    have hrest := @ih (i + 1) r₁ htail₁ (by omega)
    rw [hcap] at hrest
    simp only [ringPushLoop, List.getElem?_eq_getElem hi, Option.bind_eq_bind, Option.bind_some, hset,
      ringSum?_eq (show r.tail + 1 ≤ 2 * r.cap by omega), mod?_eq hpos.ne', ← hr₁, hrest]
    rw [List.drop_eq_getElem_cons hi, List.take_succ_cons, Ring.fill]

/-- The pop loop moves the next `k` bytes from the head on to the destination. -/
theorem ringPopLoop_eq {m k i : ℕ} {r : ByteRing} (hhead : r.head < r.cap) (dst : Buffer UInt8 m)
    (hdst : i + k ≤ m) :
    ringPopLoop r.cap k i r dst = some ((r.drain k).2, dst.blit i (r.drain k).1) := by
  induction k generalizing i r dst with
  | zero =>
    rw [ringPopLoop, Ring.drain, Buffer.blit_nil]
  | succ k ih =>
    have hpos : 0 < r.cap := by omega
    have hcell : ringCell? r.cap r.store r.head = some (byteAt r.store r.head) := by
      rw [ringCell?, if_pos hhead, getElem?_eq_byteAt hhead]
    have hput : dst.blit? i [byteAt r.store r.head] = some (dst.blit i [byteAt r.store r.head]) :=
      dst.blit?_eq (by rw [List.length_singleton]; omega)
    -- the rest is moved from the next cell on
    set r₁ : ByteRing := { r with head := (r.head + 1) % r.cap } with hr₁
    have hrest := @ih (i + 1) r₁ (Nat.mod_lt _ hpos) (dst.blit i [byteAt r.store r.head]) (by omega)
    rw [show r₁.cap = r.cap from rfl] at hrest
    simp only [ringPopLoop, Option.bind_eq_bind, Option.bind_some, hcell, hput,
      ringSum?_eq (show r.head + 1 ≤ 2 * r.cap by omega), mod?_eq hpos.ne', ← hr₁, hrest]
    rw [Ring.drain, ← hr₁]
    have happend := dst.blit_append i [byteAt r.store r.head] (r₁.drain k).1
    rw [List.length_singleton, List.singleton_append] at happend
    rw [happend]
    rfl

/-! ## The primitives -/

/-- Making room does what it does on a ring. -/
theorem ringMakeRoom_eq {r : ByteRing} (h : r.WF) {n : ℕ} (hn : n ≤ r.cap) :
    ringMakeRoom r.cap r n = some (r.makeRoom n) := by
  have hcount := h.count_le
  have hhead := h.head_lt
  rw [ringMakeRoom, Ring.makeRoom, ringSum?_eq (show r.count + n ≤ 2 * r.cap by omega), Option.bind_eq_bind,
    Option.bind_some]
  by_cases hover : r.cap < r.count + n
  · simp only [if_pos hover, sub?_eq hover.le, Option.bind_some,
      ringSum?_eq (show r.head + (r.count + n - r.cap) ≤ 2 * r.cap by omega), mod?_eq h.cap_pos.ne',
      sub?_eq (show r.count + n - r.cap ≤ r.count by omega)]
    rfl
  · rw [if_neg hover, if_neg hover]
    rfl

/-- Appending does what it does on a ring. -/
theorem ringAppend_eq {r : ByteRing} (h : r.WF) {src : List UInt8} {n : ℕ} (hn : n ≤ r.cap)
    (hsrc : n ≤ src.length) :
    ringAppend r.cap r src n
      = some (((r.makeRoom n).fill (src.take n)).withCount ((r.makeRoom n).count + n)) := by
  obtain ⟨hwf, -, hroom⟩ := Ring.makeRoom_spec h hn
  have hloop := @ringPushLoop_eq src n 0 (r.makeRoom n) hwf.tail_lt (by omega)
  rw [Ring.cap_makeRoom, List.drop_zero] at hloop
  -- the loop leaves the count alone
  have hcount : ((r.makeRoom n).fill (src.take n)).count = (r.makeRoom n).count :=
    Ring.count_fill _ _
  have hsum : ringSum? r.cap (r.makeRoom n).count n = some ((r.makeRoom n).count + n) :=
    ringSum?_eq (by omega)
  rw [ringAppend, ringMakeRoom_eq h hn]
  simp only [Option.bind_eq_bind, Option.bind_some, hloop, hcount, hsum]
  rfl

/-- **`ringPush` appends the source**, with every index inside the ring. -/
theorem ringPush_eq {r : ByteRing} (h : r.WF) (src behind : List UInt8) :
    ringPush r.cap r (src ++ behind) src.length = some (r.push src) := by
  rw [ringPush, Ring.push]
  by_cases hbig : r.cap ≤ src.length
  · rw [if_pos hbig, if_pos hbig, sub?_eq hbig, Option.bind_eq_bind, Option.bind_some]
    have hlast : (src.drop (src.length - r.cap)).length = r.cap := by
      rw [List.length_drop]
      omega
    have hread : ((src ++ behind).drop (src.length - r.cap)).take r.cap = src.drop (src.length - r.cap) := by
      rw [List.drop_append_of_le_length (Nat.sub_le _ _), List.take_left' hlast]
    have hsrc : r.cap ≤ ((src ++ behind).drop (src.length - r.cap)).length := by
      rw [List.length_drop, List.length_append]
      omega
    have happend := @ringAppend_eq r.clear (Ring.wf_clear h) _ r.cap le_rfl hsrc
    rw [hread] at happend
    dsimp only
    rw [hlast]
    exact happend
  · rw [if_neg hbig, if_neg hbig, ringAppend_eq h (by omega) (by rw [List.length_append]; omega),
      List.take_left]

/-- **`ringPop` moves the front of the queue to the destination**, with every index inside the ring. -/
theorem ringPop_eq {r : ByteRing} (h : r.WF) {m n : ℕ} (dst : Buffer UInt8 m) (hn : n ≤ m) :
    ringPop r.cap r dst n = some (min n r.count, (r.pop n).2, dst.blit 0 (r.pop n).1) := by
  have htake : (if n < r.count then n else r.count) = min n r.count := by
    split <;> omega
  have hcount : (r.drain (min n r.count)).2.count = r.count := by
    rw [Ring.drain_eq r h.head_lt]
  have hloop := ringPopLoop_eq h.head_lt dst (show 0 + min n r.count ≤ m by omega)
  rw [ringPop, htake, Ring.pop, htake]
  simp only [Option.bind_eq_bind, Option.bind_some, hloop, hcount, sub?_eq (min_le_right n r.count)]
  rfl

/-! ## Bounded byte queues -/

/-- The relation between the counters of a ring with `cap` cells. -/
structure RingOk (cap : ℕ) (r : ByteRing) : Prop where
  length_store : r.store.length = cap
  head_lt : r.head < cap
  tail_lt : r.tail < cap
  count_le : r.count ≤ cap
  tail_eq : r.tail = (r.head + r.count) % cap

/-- The queued bytes: `count` bytes read from the head on, modulo the capacity. -/
def queued (cap : ℕ) (r : ByteRing) : List UInt8 :=
  (List.range r.count).map fun i => byteAt r.store ((r.head + i) % cap)

/-- `push` and `pop` are the operations of a queue that holds the last `cap` bytes: they keep the relation
between the counters, use no index outside the ring, and write nothing else. -/
structure BoundedByteQueue (push : ℕ → ByteRing → List UInt8 → ℕ → Option ByteRing)
    (pop : ∀ {m : ℕ}, ℕ → ByteRing → Buffer UInt8 m → ℕ → Option (ℕ × ByteRing × Buffer UInt8 m)) :
    Prop where
  /-- A push of the bytes `src`, whatever lies behind them in memory. -/
  push : ∀ (cap : ℕ) (r : ByteRing), RingOk cap r → ∀ src behind : List UInt8,
    ∃ r', push cap r (src ++ behind) src.length = some r' ∧ RingOk cap r' ∧
      queued cap r' = keepLast cap (queued cap r ++ src)
  /-- A pop of `n` bytes to a destination that holds so many. -/
  pop : ∀ (cap : ℕ) (r : ByteRing), RingOk cap r → ∀ (m : ℕ) (dst : Buffer UInt8 m) (n : ℕ), n ≤ m →
    ∃ r', pop cap r dst n
        = some (min n (queued cap r).length, r', dst.blit 0 ((queued cap r).take n)) ∧
      RingOk cap r' ∧ queued cap r' = (queued cap r).drop n

/-- The counters are checked against the capacity. -/
theorem ringOk_iff {cap : ℕ} {r : ByteRing} : RingOk cap r ↔ r.WF ∧ r.cap = cap := by
  constructor
  · rintro ⟨rfl, hhead, -, hcount, htail⟩
    exact ⟨⟨Nat.zero_lt_of_lt hhead, hhead, htail, hcount⟩, rfl⟩
  · rintro ⟨h, rfl⟩
    exact ⟨rfl, h.head_lt, h.tail_lt, h.count_le, h.tail_eq⟩

/-- The queued bytes are the contents of the ring. -/
theorem queued_eq {r : ByteRing} (h : r.WF) : queued r.cap r = r.contents := by
  apply List.ext_getElem?
  intro i
  by_cases hi : i < r.count
  · have hcell : (r.head + i) % r.cap < r.store.length := Nat.mod_lt _ h.cap_pos
    rw [Ring.contents_getElem? h hi, getElem?_eq_byteAt hcell, queued, List.getElem?_map,
      List.getElem?_range hi, Option.map_some]
  · rw [List.getElem?_eq_none (by simpa [queued] using hi),
      List.getElem?_eq_none (by rw [Ring.length_contents h]; omega)]

/-- `ringPush` and `ringPop` are a bounded byte queue. -/
theorem boundedByteQueue : BoundedByteQueue ringPush ringPop := by
  constructor
  · intro cap r hok src behind
    obtain ⟨h, rfl⟩ := ringOk_iff.mp hok
    obtain ⟨hwf, hcontents⟩ := Ring.push_spec h src
    refine ⟨r.push src, ringPush_eq h src behind, ringOk_iff.mpr ⟨hwf, Ring.cap_push r src⟩, ?_⟩
    rw [queued_eq h, ← hcontents, ← queued_eq hwf, Ring.cap_push]
  · intro cap r hok m dst n hn
    obtain ⟨h, rfl⟩ := ringOk_iff.mp hok
    obtain ⟨htaken, hwf, hcontents⟩ := Ring.pop_spec h n
    refine ⟨(r.pop n).2, ?_, ringOk_iff.mpr ⟨hwf, Ring.cap_pop h n⟩, ?_⟩
    · rw [ringPop_eq h dst hn, queued_eq h, htaken, Ring.length_contents h]
    · rw [queued_eq h, ← hcontents, ← queued_eq hwf, Ring.cap_pop h]

/-- **The ring primitives.** For every capacity and every state in which head and tail are cells, at most `cap`
bytes are counted and the tail is where the head and the count say: `ringPush` of any bytes keeps these
relations and leaves the last `cap` bytes of the queued ones followed by the source; `ringPop` of `n` bytes
moves the first `n`, or all of them if there are fewer, to the destination, removes exactly those and keeps
the relations. No index of the loops is outside the ring, the source or the destination. This holds for the
copies in both receivers. -/
theorem ring_primitives :
    BoundedByteQueue RtpReceiver.ringPush RtpReceiver.ringPop ∧
      BoundedByteQueue VbanReceiver.ringPush VbanReceiver.ringPop :=
  ⟨boundedByteQueue, boundedByteQueue⟩

/-- The oldest byte makes room, and the second of the new ones goes to cell zero. -/
example : RtpReceiver.ringPush 3 ⟨[1, 2, 0], 0, 2, 2⟩ [7, 8] 2 = some ⟨[8, 2, 7], 1, 1, 3⟩ := by decide

/-! ## Runs -/

/-- A call of one of the primitives. -/
inductive RingCall
  | push (src : List UInt8)
  | pop (n : ℕ)

/-- The queue that a ring stands for, with the bytes taken from it so far. -/
def queueStep (cap : ℕ) (s : List UInt8 × List UInt8) : RingCall → List UInt8 × List UInt8
  | .push src => (keepLast cap (s.1 ++ src), s.2)
  | .pop n => (s.1.drop n, s.2 ++ s.1.take n)

section Runs

variable (push : ℕ → ByteRing → List UInt8 → ℕ → Option ByteRing)
  (pop : ∀ {m : ℕ}, ℕ → ByteRing → Buffer UInt8 m → ℕ → Option (ℕ × ByteRing × Buffer UInt8 m))

/-- One call on a ring, with the bytes handed out so far. -/
def ringStep (cap : ℕ) (s : ByteRing × List UInt8) : RingCall → Option (ByteRing × List UInt8)
  | .push src => (push cap s.1 src src.length).map fun r => (r, s.2)
  | .pop n => (pop cap s.1 (Buffer.filled n 0) n).map fun (taken, r, dst) => (r, s.2 ++ dst.slice 0 taken)

variable {push pop}

/-- One call does to the ring what it does to the queue. -/
theorem BoundedByteQueue.step (h : BoundedByteQueue push pop) {cap : ℕ} {r : ByteRing} (hok : RingOk cap r)
    (out : List UInt8) (call : RingCall) :
    ∃ r' out', ringStep push pop cap (r, out) call = some (r', out') ∧ RingOk cap r' ∧
      (queued cap r', out') = queueStep cap (queued cap r, out) call := by
  cases call with
  | push src =>
    obtain ⟨r', hpush, hok', hqueued⟩ := h.push cap r hok src []
    rw [List.append_nil] at hpush
    refine ⟨r', out, ?_, hok', by rw [hqueued, queueStep]⟩
    rw [ringStep, hpush, Option.map_some]
  | pop n =>
    obtain ⟨r', hpop, hok', hqueued⟩ := h.pop cap r hok n (Buffer.filled n 0) n le_rfl
    refine ⟨r', out ++ (queued cap r).take n, ?_, hok', by rw [hqueued, queueStep]⟩
    rw [ringStep, hpop, Option.map_some]
    dsimp only
    rw [Buffer.slice_blit_front _ List.length_take (min_le_left _ _)]

/-- **Whole runs.** Whatever calls are made, every one completes inside the ring, and the bytes handed out and
those still queued are the ones of the queue. -/
theorem BoundedByteQueue.run (h : BoundedByteQueue push pop) {cap : ℕ} {r : ByteRing} (hok : RingOk cap r)
    (calls : List RingCall) :
    ∃ r' out, ByteTransport.run (ringStep push pop cap) (r, []) calls = some (r', out) ∧ RingOk cap r' ∧
      (queued cap r', out) = calls.foldl (queueStep cap) (queued cap r, []) := by
  have hstep : ∀ (s : ByteRing × List UInt8) (t : List UInt8 × List UInt8) (call : RingCall),
      RingOk cap s.1 ∧ (queued cap s.1, s.2) = t → True →
        ∃ s', ringStep push pop cap s call = some s' ∧
          RingOk cap s'.1 ∧ (queued cap s'.1, s'.2) = queueStep cap t call := by
    rintro ⟨r, out⟩ t call ⟨hok, rfl⟩ -
    obtain ⟨r', out', hcall, hok', hqueued⟩ := h.step hok out call
    exact ⟨(r', out'), hcall, hok', hqueued⟩
  have hsim := run_simulates hstep ⟨hok, rfl⟩ (admissible_of_forall (fun _ _ => trivial) (r, []) calls)
  obtain ⟨⟨r', out⟩, hrun, hok', hqueued⟩ := hsim
  exact ⟨r', out, hrun, hok', hqueued⟩

end Runs

end PcmFlowUdp
