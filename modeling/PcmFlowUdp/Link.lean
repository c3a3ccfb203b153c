import PcmFlowUdp.ByteTransport.CircularBuffer
import PcmFlowUdp.ByteTransport.Runs
import PcmFlowUdp.Pcm
import PcmFlowUdp.Udp

/-! # A PCM stream from a sender to a receiver

A `Carrier` names the calls of a sender and a receiver that a PCM stream passes through. `Link` puts
one of each at the two ends of a network that delivers every datagram in order, and records what was
handed in, what was polled and what was read; `Carrier.step` is one call, at either end.

`Carrier.Delivers` says what each call does to the frames in flight. From these one-step laws,

* **`Delivers.identity`** — in every run in which the receiver's ring never has to overflow, what was
  read, followed by what is queued, is exactly what the polled datagrams carry, and that is a prefix
  of what was written. -/

namespace PcmFlowUdp

open ByteTransport PcmFrame

/-- The calls of a sender with state `S` and a receiver with state `R` that a PCM stream passes
through. -/
structure Carrier (S R : Type) where
  writeFrames : S → Option (List UInt8) → ℕ → Option (ℕ × S)
  flush : S → Bool × S
  udp : S → Udp
  poll : R → Inbound → Bool × R
  readFrames : R → Bool → ℕ → ℕ × List UInt8 × R
  /-- The PCM ring of the receiver. -/
  queue : R → RingBuffer UInt8
  format : R → PCMFormat
  /-- The size of the header in front of every payload. -/
  headerBytes : ℕ

/-- One call at either end of a link. -/
inductive LinkOp (c : ℕ)
  /-- `writeFrames` with all of these frames. -/
  | write (frames : List (PcmFrame c))
  | flush
  /-- `poll`, with the next datagram if it has arrived. -/
  | poll (arrived : Bool)
  | read (frameCount : ℕ)

/-- A sender and a receiver, with the history of the calls made. -/
structure Link (S R : Type) (c : ℕ) where
  sender : S
  receiver : R
  /-- The datagrams that left before the stream began. -/
  base : ℕ
  /-- The frames handed to `writeFrames`. -/
  written : List (PcmFrame c) := []
  /-- No frame was handed over since the last `flush`. -/
  flushed : Bool := true
  /-- How many datagrams `poll` has taken. -/
  polled : ℕ := 0
  /-- What those polls returned. -/
  acks : List Bool := []
  /-- The sum of what `readFrames` returned. -/
  framesRead : ℕ := 0
  /-- The bytes that `readFrames` copied out. -/
  returned : List UInt8 := []

namespace Carrier

variable {S R : Type} {c : ℕ} (C : Carrier S R)

/-- A link over which nothing has been sent yet. -/
def start (sender : S) (receiver : R) : Link S R c :=
  { sender, receiver, base := (C.udp sender).datagrams.length }

/-- The datagrams of the stream, in order. -/
def sent (l : Link S R c) : List (List UInt8) := (C.udp l.sender).datagrams.drop l.base

/-- One call. -/
def step (l : Link S R c) : LinkOp c → Option (Link S R c)
  | .write frames =>
      (C.writeFrames l.sender (some (hostImage frames)) frames.length).map fun (_, sender) =>
        { l with sender, written := l.written ++ frames, flushed := false }
  | .flush => some { l with sender := (C.flush l.sender).2, flushed := true }
  | .poll arrived =>
      match if arrived then (C.sent l)[l.polled]? else none with
      | none => some { l with receiver := (C.poll l.receiver Inbound.empty).2 }
      | some d =>
          let (ack, receiver) := C.poll l.receiver (Inbound.ofDatagram d)
          some { l with receiver, polled := l.polled + 1, acks := l.acks ++ [ack] }
  | .read frameCount =>
      let (k, out, receiver) := C.readFrames l.receiver true frameCount
      some { l with receiver, framesRead := l.framesRead + k, returned := l.returned ++ out }

/-- A poll does not need more room than the ring has. -/
def Fits (l : Link S R c) : LinkOp c → Prop
  | .poll true => ∀ d, (C.sent l)[l.polled]? = some d →
      (C.queue l.receiver).count + (d.length - C.headerBytes) ≤ (C.queue l.receiver).cap
  | _ => True

instance (l : Link S R c) (op : LinkOp c) : Decidable (C.Fits l op) :=
  match op with
  | .poll true =>
      match h : (C.sent l)[l.polled]? with
      | none => isTrue (by simp [Fits, h])
      | some d =>
          decidable_of_iff
            ((C.queue l.receiver).count + (d.length - C.headerBytes) ≤ (C.queue l.receiver).cap)
            (by simp [Fits, h])
  | .poll false => isTrue trivial
  | .write _ => isTrue trivial
  | .flush => isTrue trivial
  | .read _ => isTrue trivial

/-- The frames carried by the datagrams polled so far; `payload` reads the frames of a datagram. -/
def carried (payload : List UInt8 → List (PcmFrame c)) (l : Link S R c) : List (PcmFrame c) :=
  ((C.sent l).take l.polled).flatMap payload

/-- The stream arrives as it was written. -/
structure Identity (fmt : PCMFormat) (payload : List UInt8 → List (PcmFrame c)) (l : Link S R c) :
    Prop where
  /-- Every poll that took a datagram returned true. -/
  acks : l.acks.length = l.polled ∧ ∀ ack ∈ l.acks, ack = true
  format : l.polled ≠ 0 → C.format l.receiver = fmt
  /-- `readFrames` copied out whole frames, as many as it said. -/
  returned : l.returned.length = l.framesRead * (c * 2)
  delivered : hostFrames c l.returned ++ hostFrames c (C.queue l.receiver).contents
    = C.carried payload l
  isPrefix : C.carried payload l <+: l.written
  /-- After a flush, once everything is polled and drained, everything written has been read. -/
  complete : l.flushed = true → l.polled = (C.sent l).length → (C.queue l.receiver).count = 0 →
    hostFrames c l.returned = l.written

/-- What each call does to the frames in flight. `SOk s fs` holds of a sender with the frames `fs`
pending, `ROk r fs b` of a receiver with the frames `fs` queued that has (`b`) or has not accepted a
datagram, and `Wire d` of the datagrams between them. -/
structure Delivers (fmt : PCMFormat) (payload : List UInt8 → List (PcmFrame c))
    (SOk : S → List (PcmFrame c) → Prop) (Wire : List UInt8 → Prop)
    (ROk : R → List (PcmFrame c) → Bool → Prop) : Prop where
  channels_pos : 0 < c
  write : ∀ s fs gs, SOk s fs → ∃ s' ds fs',
    C.writeFrames s (some (hostImage gs)) gs.length = some (gs.length, s') ∧ SOk s' fs' ∧
      (C.udp s').datagrams = (C.udp s).datagrams ++ ds ∧ (∀ d ∈ ds, Wire d) ∧
      ds.flatMap payload ++ fs' = fs ++ gs
  flush : ∀ s fs, SOk s fs → ∃ ds, SOk (C.flush s).2 [] ∧
    (C.udp (C.flush s).2).datagrams = (C.udp s).datagrams ++ ds ∧ (∀ d ∈ ds, Wire d) ∧
      ds.flatMap payload = fs
  idle : ∀ r fs b, ROk r fs b → ROk (C.poll r Inbound.empty).2 fs b
  poll : ∀ r fs b d, ROk r fs b → Wire d →
    (C.queue r).count + (d.length - C.headerBytes) ≤ (C.queue r).cap →
      (C.poll r (Inbound.ofDatagram d)).1 = true ∧
        ROk (C.poll r (Inbound.ofDatagram d)).2 (fs ++ payload d) true
  read : ∀ r fs b n, ROk r fs b → ∃ k r', k ≤ fs.length ∧
    C.readFrames r true n = (k, hostImage (fs.take k), r') ∧ ROk r' (fs.drop k) b
  queue : ∀ r fs b, ROk r fs b → (C.queue r).contents = hostImage fs
  format : ∀ r fs, ROk r fs true → C.format r = fmt

section Identity

variable {C} {fmt : PCMFormat} {payload : List UInt8 → List (PcmFrame c)}
  {SOk : S → List (PcmFrame c) → Prop} {Wire : List UInt8 → Prop}
  {ROk : R → List (PcmFrame c) → Bool → Prop}

/-- What every step keeps: the frames read, queued, in flight, pending and written fit together. -/
structure Inv (C : Carrier S R) (payload : List UInt8 → List (PcmFrame c))
    (SOk : S → List (PcmFrame c) → Prop) (Wire : List UInt8 → Prop)
    (ROk : R → List (PcmFrame c) → Bool → Prop) (l : Link S R c)
    (read queued pending : List (PcmFrame c)) : Prop where
  base_le : l.base ≤ (C.udp l.sender).datagrams.length
  sender : SOk l.sender pending
  receiver : ROk l.receiver queued (decide (l.polled ≠ 0))
  wire : ∀ d ∈ C.sent l, Wire d
  sent : (C.sent l).flatMap payload ++ pending = l.written
  polled_le : l.polled ≤ (C.sent l).length
  returned : l.returned = hostImage read
  framesRead : l.framesRead = read.length
  delivered : read ++ queued = C.carried payload l
  flushed : l.flushed = true → pending = []
  acks : l.acks.length = l.polled ∧ ∀ ack ∈ l.acks, ack = true

/-- New datagrams go behind the ones sent. -/
theorem sent_of_append {l l' : Link S R c} {ds : List (List UInt8)} (hbase : l'.base = l.base)
    (hle : l.base ≤ (C.udp l.sender).datagrams.length)
    (h : (C.udp l'.sender).datagrams = (C.udp l.sender).datagrams ++ ds) :
    C.sent l' = C.sent l ++ ds := by
  rw [sent, h, hbase, List.drop_append_of_le_length hle]
  rfl

/-- A sender call that sends `ds` keeps the invariant. -/
theorem Inv.send {l : Link S R c} {rd qd pd : List (PcmFrame c)}
    (h : Inv C payload SOk Wire ROk l rd qd pd) {s' : S} {ds : List (List UInt8)}
    {fs gs : List (PcmFrame c)} (hs' : SOk s' fs)
    (hds : (C.udp s').datagrams = (C.udp l.sender).datagrams ++ ds) (hwire : ∀ d ∈ ds, Wire d)
    (hflat : ds.flatMap payload ++ fs = pd ++ gs) {flushed : Bool} (hfl : flushed = true → fs = []) :
    Inv C payload SOk Wire ROk { l with sender := s', written := l.written ++ gs, flushed } rd qd
      fs := by
  have hsent : C.sent { l with sender := s', written := l.written ++ gs, flushed } = C.sent l ++ ds :=
    sent_of_append rfl h.base_le hds
  constructor
  · rw [hds, List.length_append]
    exact Nat.le_add_right_of_le h.base_le
  · exact hs'
  · exact h.receiver
  · intro d hd
    rw [hsent] at hd
    rcases List.mem_append.mp hd with hold | hnew
    · exact h.wire d hold
    · exact hwire d hnew
  · rw [hsent, List.flatMap_append, List.append_assoc, hflat, ← List.append_assoc, h.sent]
  · rw [hsent, List.length_append]
    exact Nat.le_add_right_of_le h.polled_le
  · exact h.returned
  · exact h.framesRead
  · -- the datagrams polled so far were sent before
    rw [h.delivered, carried, carried, hsent, List.take_append_of_le_length h.polled_le]
  · exact hfl
  · exact h.acks

/-- **One step.** Every call completes and keeps the invariant. -/
theorem Delivers.step_inv (hC : C.Delivers fmt payload SOk Wire ROk) {l : Link S R c}
    {rd qd pd : List (PcmFrame c)} (h : Inv C payload SOk Wire ROk l rd qd pd) (op : LinkOp c)
    (hfits : C.Fits l op) :
    ∃ l', C.step l op = some l' ∧ ∃ rd' qd' pd', Inv C payload SOk Wire ROk l' rd' qd' pd' := by
  cases op with
  | write frames =>
    -- the carrier splits the frames into the datagrams it sends and what it keeps pending
    obtain ⟨s', ds, fs', hwrite, hs', hds, hwire, hflat⟩ := hC.write _ _ frames h.sender
    exact ⟨_, by rw [step, hwrite]; rfl, rd, qd, fs', h.send hs' hds hwire hflat (by simp)⟩
  | flush =>
    obtain ⟨ds, hs', hds, hwire, hflat⟩ := hC.flush _ _ h.sender
    have hsend : Inv C payload SOk Wire ROk
        { l with sender := (C.flush l.sender).2, written := l.written ++ [], flushed := true }
        rd qd [] := h.send hs' hds hwire (by simpa using hflat) fun _ => rfl
    rw [List.append_nil] at hsend
    exact ⟨_, rfl, rd, qd, [], hsend⟩
  | poll arrived =>
    -- a poll moves the payload of the next datagram to the queue, if one is there
    rw [step]
    cases hnext : (if arrived then (C.sent l)[l.polled]? else none) with
    | none =>
      exact ⟨_, rfl, rd, qd, pd, { h with receiver := hC.idle _ _ _ h.receiver }⟩
    | some d =>
      obtain rfl : arrived = true := by
        cases arrived
        · simp at hnext
        · rfl
      rw [if_pos rfl] at hnext
      obtain ⟨hlt, hget⟩ := List.getElem?_eq_some_iff.mp hnext
      obtain ⟨hack, hrecv⟩ := hC.poll _ _ _ d h.receiver
        (h.wire d (hget ▸ List.getElem_mem hlt)) (hfits d hnext)
      refine ⟨_, rfl, rd, qd ++ payload d, pd, ?_⟩
      refine ⟨h.base_le, h.sender, ?_, h.wire, h.sent, hlt, h.returned, h.framesRead, ?_, h.flushed,
        ?_⟩
      · simpa using hrecv
      · show rd ++ (qd ++ payload d) = ((C.sent l).take (l.polled + 1)).flatMap payload
        rw [← List.append_assoc, h.delivered, carried, List.take_add_one, hnext,
          List.flatMap_append]
        simp
      · refine ⟨by simp [h.acks.1], fun ack hmem => ?_⟩
        rcases List.mem_append.mp hmem with hold | hnew
        · exact h.acks.2 ack hold
        · exact (List.mem_singleton.mp hnew).trans hack
  | read frameCount =>
    -- a read takes the first `k` frames of the queue
    obtain ⟨k, r', hk, hread, hr'⟩ := hC.read _ _ _ frameCount h.receiver
    rw [step, hread]
    refine ⟨_, rfl, rd ++ qd.take k, qd.drop k, pd, ?_⟩
    refine ⟨h.base_le, h.sender, hr', h.wire, h.sent, h.polled_le, ?_, ?_, ?_, h.flushed, h.acks⟩
    · rw [h.returned, hostImage_append]
    · rw [h.framesRead, List.length_append, List.length_take, min_eq_left hk]
    · rw [List.append_assoc, List.take_append_drop]
      exact h.delivered

/-- **Stream identity.** From a link over which nothing was sent, every run whose polls fit the ring
completes, and the stream has arrived as it was written. -/
theorem Delivers.identity (hC : C.Delivers fmt payload SOk Wire ROk) {s : S} {r : R} (hs : SOk s [])
    (hr : ROk r [] false) {ops : List (LinkOp c)} (hfits : Admissible C.step C.Fits (C.start s r) ops) :
    ∃ l, run C.step (C.start s r) ops = some l ∧ C.Identity fmt payload l := by
  have hstart : Inv C payload SOk Wire ROk (C.start s r) [] [] [] := by
    have hsent : C.sent (C.start s r : Link S R c) = [] := List.drop_length
    exact ⟨le_rfl, hs, hr, by simp [hsent], by rw [hsent]; rfl, Nat.zero_le _, rfl, rfl,
      by rw [carried, hsent]; rfl, fun _ => rfl, rfl, by simp [start]⟩
  have hstep : ∀ (l : Link S R c) op,
      (∃ rd qd pd, Inv C payload SOk Wire ROk l rd qd pd) → C.Fits l op →
        ∃ l', C.step l op = some l' ∧ ∃ rd qd pd, Inv C payload SOk Wire ROk l' rd qd pd := by
    rintro l op ⟨rd, qd, pd, h⟩ hok
    exact hC.step_inv h op hok
  obtain ⟨l, hrun, rd, qd, pd, h⟩ := run_total hstep ⟨[], [], [], hstart⟩ hfits
  have hc := hC.channels_pos
  have hqueue := hC.queue _ _ _ h.receiver
  -- what the invariant says in frames, read off the octets
  have hret : hostFrames c l.returned = rd := by rw [h.returned, hostFrames_hostImage hc]
  have hque : hostFrames c (C.queue l.receiver).contents = qd := by
    rw [hqueue, hostFrames_hostImage hc]
  have hpre : C.carried payload l <+: l.written := by
    rw [← h.sent, carried]
    conv_rhs => rw [← List.take_append_drop l.polled (C.sent l)]
    rw [List.flatMap_append, List.append_assoc]
    exact List.prefix_append _ _
  refine ⟨l, hrun, ⟨h.acks, fun hne => ?_, ?_, ?_, hpre, fun hfl hall hempty => ?_⟩⟩
  · have hlock := h.receiver
    rw [decide_eq_true hne] at hlock
    exact hC.format _ _ hlock
  · rw [h.returned, length_hostImage, h.framesRead]
  · rw [hret, hque, h.delivered]
  · have hnil : (C.queue l.receiver).contents = [] :=
      List.length_eq_zero_iff.mp (by rw [RingBuffer.length_contents, hempty])
    have hqd : qd = [] := by
      rw [← hque, hnil]
      exact hostFrames_hostImage hc []
    rw [hret, ← h.sent, h.flushed hfl, List.append_nil, ← List.append_nil rd, ← hqd, h.delivered,
      carried, hall, List.take_length]

end Identity

end Carrier

end PcmFlowUdp
