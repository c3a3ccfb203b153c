import PcmFlowUdp.ByteTransport.Framing
import PcmFlowUdp.ByteTransport.Runs
import PcmFlowUdp.RawUdp.Sink

/-! # The datagrams of a `RawUdpSink`

A sink with a packet buffer of `capacity` bytes is a `Framer`: what it has accepted and not yet flushed lies
at the start of the buffer, and every frame is the packet of one send attempt (`Accumulates`).

* **`raw_sink_framing`** — what each `write` and `flush` of a run does, what the datagrams are, and that
  the caller's loop sends what it is given. -/

namespace PcmFlowUdp

open ByteTransport

namespace RawUdpSink

/-- `begin` has just succeeded, with a packet buffer of `capacity` bytes. -/
structure Opened (s : RawUdpSink) (capacity : ℕ) : Prop where
  begun : ∃ (s₀ : RawUdpSink) (destPort : UInt16), (s₀.begin destPort).1 = true ∧ s = (s₀.begin destPort).2
  cap : s.cap = capacity
  capacity_pos : 1 ≤ capacity
  /-- The buffer has the size that the sink was told. -/
  buf : ∃ block, s.buf = some block ∧ capacity ≤ block.size

/-- `begin` opens a sink without a packet buffer with the internal one. -/
theorem opened_default {s : RawUdpSink} (hbuf : s.buf = none) {destPort : UInt16} (hport : destPort ≠ 0) :
    (s.begin destPort).2.Opened kDefaultCapacity := by
  refine ⟨⟨s, destPort, bne_iff_ne.mpr hport, rfl⟩, ?_, by decide, defaultBuf, ?_, le_rfl⟩ <;>
    simp [begin, hbuf]

/-- Since `start` the UDP object was offered these packets, one after the other. -/
structure Offered (start : Udp) (packets : List (List UInt8)) (udp : Udp) : Prop where
  script : udp.script = start.script
  attempts : ∃ new : List SendAttempt, udp.attempts = start.attempts ++ new ∧
    new.map SendAttempt.packet = packets ∧ ∀ a ∈ new, ∃ k, a.tx = start.script k

/-- Nothing is offered at first. -/
theorem Offered.refl (udp : Udp) : Offered udp [] udp where
  script := rfl
  attempts := ⟨[], (List.append_nil _).symm, rfl, by simp⟩

/-- One more packet is offered. -/
theorem Offered.transmit {start udp : Udp} {packets : List (List UInt8)} (h : Offered start packets udp)
    (packet : List UInt8) : Offered start (packets ++ [packet]) (udp.transmit packet).2 where
  script := h.script
  attempts := by
    obtain ⟨new, hnew, hpackets, htx⟩ := h.attempts
    refine ⟨new ++ [⟨packet, udp.next⟩], ?_, by rw [List.map_append, hpackets]; rfl, fun a ha => ?_⟩
    · rw [Udp.transmit_attempts, hnew, List.append_assoc]
    · rcases List.mem_append.mp ha with hold | hlast
      · exact htx a hold
      · obtain rfl := List.mem_singleton.mp hlast
        exact ⟨udp.attempts.length, congrFun h.script _⟩

/-- The sink is ready and has accepted what the framer has, since the UDP object was `start`. -/
structure Accumulates (capacity : ℕ) (start : Udp) (s : RawUdpSink) (f : Framer UInt8) : Prop where
  ready : s.ready = true
  cap : s.cap = capacity
  buf : ∃ block, s.buf = some block ∧ capacity ≤ block.size ∧ block.bytes.slice 0 s.used = f.pending
  used : s.used = f.pending.length
  bounded : f.Bounded capacity
  offered : Offered start f.frames s.udp

/-- A sink that was opened has nothing pending. -/
theorem Opened.accumulates {s : RawUdpSink} {capacity : ℕ} (h : s.Opened capacity) :
    Accumulates capacity s.udp s {} := by
  obtain ⟨s₀, destPort, hbegin, rfl⟩ := h.begun
  obtain ⟨block, hblock, hsize⟩ := h.buf
  have hused : (s₀.begin destPort).2.used = 0 := rfl
  exact ⟨hbegin, h.cap, ⟨block, hblock, hsize, by rw [hused, Buffer.slice_zero]⟩, hused,
    Framer.bounded_empty capacity, Offered.refl _⟩

namespace Accumulates

variable {capacity : ℕ} {start : Udp} {s : RawUdpSink} {f : Framer UInt8}
  (h : Accumulates capacity start s f)

include h

/-- What the sink has in its buffer is what the framer has pending. -/
theorem packet_eq : s.packet = f.pending := by
  obtain ⟨block, hblock, -, hslice⟩ := h.buf
  rw [packet, hblock]
  exact hslice

/-- Bytes that fit are copied behind the pending ones; if there are none the copy is left out. -/
theorem copy_fits {bytes : List UInt8} (hfit : s.used + bytes.length ≤ capacity) :
    ∃ block, (if 0 < bytes.length then s.copy bytes else some s) = some { s with buf := some block } ∧
      capacity ≤ block.size ∧ block.bytes.slice 0 (s.used + bytes.length) = f.pending ++ bytes := by
  obtain ⟨block, hblock, hsize, hslice⟩ := h.buf
  rcases Nat.eq_zero_or_pos bytes.length with hzero | hpos
  · obtain rfl := List.length_eq_zero_iff.mp hzero
    refine ⟨block, ?_, hsize, by rw [hzero, List.append_nil]; exact hslice⟩
    rw [if_neg (Nat.not_lt.mpr hzero.le), ← hblock]
  · have hroom : 0 + s.used + bytes.length ≤ block.size := by omega
    have hext := Buffer.slice_blit_extend block.bytes hroom
    rw [Nat.zero_add, hslice] at hext
    refine ⟨⟨block.size, block.bytes.blit s.used bytes⟩, ?_, hsize, hext⟩
    rw [if_pos hpos, copy, hblock]
    exact if_pos (by omega)

/-- The number of bytes that `write` accepts. -/
theorem room_eq (n : ℕ) :
    (if n < (if s.used < s.cap then s.cap - s.used else 0) then n
      else if s.used < s.cap then s.cap - s.used else 0) = f.room capacity n := by
  rw [Framer.room, h.cap, h.used]
  split_ifs <;> omega

/-- **What `write` does.** It accepts the bytes that fit, sends nothing, and reports an overflow if some do
not fit. -/
theorem write (bytes : List UInt8) :
    ∃ s', s.write (some bytes) bytes.length = some (f.room capacity bytes.length, s') ∧
      Accumulates capacity start s' (f.write capacity bytes) ∧ s'.udp = s.udp ∧
      s'.error = if f.room capacity bytes.length < bytes.length then .bufferOverflow else s.error := by
  have hle := h.bounded.pending
  have hroom : f.room capacity bytes.length = min bytes.length (capacity - s.used) := by
    rw [Framer.room, h.used]
  rcases eq_or_ne bytes [] with rfl | hne
  · refine ⟨s, by simp [RawUdpSink.write, h.ready, Framer.room], ?_, rfl, by simp⟩
    rwa [Framer.write, List.take_nil, Framer.accept_nil]
  have hcount : ¬ bytes.length = 0 := fun h0 => hne (List.length_eq_zero_iff.mp h0)
  have hread : readMem bytes 0 (f.room capacity bytes.length)
      = bytes.take (f.room capacity bytes.length) := by
    rw [readMem_eq (by omega), List.drop_zero]
  have htake : (bytes.take (f.room capacity bytes.length)).length = f.room capacity bytes.length := by
    rw [List.length_take]
    omega
  -- what is copied fits behind what is pending
  obtain ⟨block, hcopy, hsize, hslice⟩ :=
    h.copy_fits (show s.used + (bytes.take (f.room capacity bytes.length)).length ≤ capacity by
      rw [htake, hroom, h.used]; omega)
  rw [htake] at hcopy hslice
  refine ⟨{ s with
      buf := some block
      used := s.used + f.room capacity bytes.length
      error := if f.room capacity bytes.length < bytes.length then .bufferOverflow else s.error }, ?_, ?_,
    rfl, rfl⟩
  · simp only [RawUdpSink.write, h.ready, Bool.not_true, Bool.false_eq_true, if_false, if_neg hcount,
      h.room_eq, hread, hcopy, Option.map_some]
  · refine ⟨h.ready, h.cap, ⟨block, rfl, hsize, hslice⟩, ?_, h.bounded.write bytes, h.offered⟩
    show s.used + _ = (f.pending ++ _).length
    rw [List.length_append, htake, h.used]

/-- **What `flush` does.** With nothing pending it does nothing; otherwise it makes one attempt to send what is
pending, says whether that succeeded, and leaves nothing pending. -/
theorem flush :
    Accumulates capacity start s.flush.2 f.flush ∧
      (f.pending = [] → s.flush = (true, s)) ∧
      (f.pending ≠ [] → s.flush.1 = s.udp.next.ok ∧
        s.flush.2.udp.attempts = s.udp.attempts ++ [⟨f.pending, s.udp.next⟩]) := by
  rcases eq_or_ne f.pending [] with hnil | hne
  · have hused : s.used = 0 := by rw [h.used, hnil]; rfl
    have hflush : s.flush = (true, s) := by
      rw [RawUdpSink.flush, if_neg (by rw [h.ready]; decide), if_pos hused]
    refine ⟨?_, fun _ => hflush, fun hne => absurd hnil hne⟩
    rw [hflush, Framer.flush_of_nil hnil]
    exact h
  · have hused : s.used ≠ 0 := fun h0 => hne (List.length_eq_zero_iff.mp (h.used.symm.trans h0))
    obtain ⟨block, hblock, hsize, -⟩ := h.buf
    rw [RawUdpSink.flush_eq h.ready hused, h.packet_eq]
    refine ⟨⟨h.ready, h.cap, ⟨block, hblock, hsize, ?_⟩, ?_, h.bounded.flush, ?_⟩,
      fun hnil => absurd hnil hne, fun _ => ⟨rfl, rfl⟩⟩
    · rw [Framer.pending_flush, Buffer.slice_zero]
    · rw [Framer.pending_flush]
      rfl
    · rw [Framer.flush_of_ne_nil hne]
      exact h.offered.transmit f.pending

end Accumulates

/-! ## The caller's loop -/

/-- The loop that the class comment asks of the caller, for at most `fuel` rounds: write; on a short return
flush and write the remainder; finally flush. -/
def sendAll : ℕ → RawUdpSink → List UInt8 → Option RawUdpSink
  | 0, _, _ => none
  | fuel + 1, s, bytes =>
      match s.write (some bytes) bytes.length with
      | none => none
      | some (n, s) => if n < bytes.length then sendAll fuel s.flush.2 (bytes.drop n) else some s.flush.2

/-- The loop over the sink is the loop over the framer. -/
theorem Accumulates.sendAll {capacity : ℕ} {start : Udp} (fuel : ℕ) {s : RawUdpSink} {f f' : Framer UInt8}
    (h : Accumulates capacity start s f) {bytes : List UInt8}
    (hsend : f.send capacity fuel bytes = some f') :
    ∃ s', s.sendAll fuel bytes = some s' ∧ Accumulates capacity start s' f' := by
  induction fuel generalizing s f bytes with
  | zero => cases hsend
  | succ fuel ih =>
    obtain ⟨s₁, hwrite, hacc, -⟩ := h.write bytes
    rw [Framer.send] at hsend
    rw [RawUdpSink.sendAll, hwrite]
    by_cases hshort : f.room capacity bytes.length < bytes.length
    · rw [if_pos hshort] at hsend
      obtain ⟨s', hloop, hacc'⟩ := ih hacc.flush.1 hsend
      exact ⟨s', by simp only [if_pos hshort]; exact hloop, hacc'⟩
    · rw [if_neg hshort, Option.some.injEq] at hsend
      subst hsend
      exact ⟨_, if_neg hshort, hacc.flush.1⟩

/-- A UDP object that accepts all bytes offered puts whole packets on the wire. -/
theorem Offered.datagram {start udp : Udp} {packets : List (List UInt8)} (h : Offered start packets udp)
    (hwrite : ∀ k, (start.script k).write = none) {a : SendAttempt}
    (ha : a ∈ udp.attempts.drop start.attempts.length) {d : List UInt8} (hd : a.datagram = some d) :
    d ∈ packets := by
  obtain ⟨new, hnew, hpackets, htx⟩ := h.attempts
  rw [hnew, List.drop_left] at ha
  obtain ⟨k, hk⟩ := htx a ha
  rw [SendAttempt.datagram, hk, hwrite k] at hd
  obtain ⟨-, hpacket⟩ := Option.ite_none_right_eq_some.mp hd
  rw [← Option.some.inj hpacket, ← hpackets]
  exact List.mem_map_of_mem ha

/-- A reliable UDP object sends every packet. -/
theorem Offered.datagrams {start udp : Udp} {packets : List (List UInt8)} (h : Offered start packets udp)
    (hreliable : start.Reliable) : udp.datagrams = start.datagrams ++ packets := by
  obtain ⟨new, hnew, hpackets, htx⟩ := h.attempts
  have hall : ∀ a ∈ new, a.datagram = some a.packet := by
    intro a ha
    obtain ⟨k, hk⟩ := htx a ha
    obtain ⟨hok, hwrite⟩ := hreliable k
    simp [SendAttempt.datagram, SendAttempt.ok, hk, hok, hwrite]
  rw [Udp.datagrams, hnew, List.filterMap_append, Udp.datagrams, ← hpackets]
  congr 1
  rw [List.filterMap_congr hall]
  simp

end RawUdpSink

/-! ## Runs -/

/-- A call on an open sink. -/
inductive SinkOp
  | write (bytes : List UInt8)
  | flush

/-- A sink with what the caller knows: the bytes accepted since the previous flush, and what had been
accumulated at each flush before that. -/
structure SinkSession where
  sink : RawUdpSink
  framer : Framer UInt8 := {}

namespace SinkSession

/-- One call. The caller counts as accepted the bytes that `write` says it accepted. -/
def step (m : SinkSession) : SinkOp → Option SinkSession
  | .write bytes =>
      (m.sink.write (some bytes) bytes.length).map fun (n, sink) =>
        { sink, framer := m.framer.accept (bytes.take n) }
  | .flush => some { sink := m.sink.flush.2, framer := m.framer.flush }

/-- The framing of datagrams, for a sink with a packet buffer of `capacity` bytes over a UDP object that was
`start` when it was opened. -/
structure FramingLaw (capacity : ℕ) (start : Udp) (m : SinkSession) : Prop where
  used : m.sink.used = m.framer.pending.length ∧ m.sink.used ≤ capacity
  /-- `write` accepts the bytes that fit, sends nothing, and flags an overflow exactly if some did not fit. -/
  write : ∀ bytes, ∃ s', m.sink.write (some bytes) bytes.length
      = some (min bytes.length (capacity - m.sink.used), s') ∧ s'.udp = m.sink.udp ∧
    s'.error = if min bytes.length (capacity - m.sink.used) < bytes.length then .bufferOverflow
      else m.sink.error
  /-- A flush with nothing accumulated does nothing. -/
  flush_empty : m.framer.pending = [] → m.sink.flush = (true, m.sink)
  /-- Any other flush makes one attempt to send what was accepted since the previous one, says whether that
  succeeded, and leaves the buffer empty. -/
  flush : m.framer.pending ≠ [] →
    m.sink.flush.2.udp.attempts = m.sink.udp.attempts ++ [⟨m.framer.pending, m.sink.udp.next⟩] ∧
      m.sink.flush.1 = m.sink.udp.next.ok ∧ m.sink.flush.2.used = 0
  /-- There are no other attempts. -/
  attempts : (m.sink.udp.attempts.drop start.attempts.length).map SendAttempt.packet = m.framer.frames
  /-- No datagram is empty or larger than the buffer. -/
  datagrams : (∀ k, (start.script k).write = none) →
    ∀ a ∈ m.sink.udp.attempts.drop start.attempts.length, ∀ d, a.datagram = some d →
      d ≠ [] ∧ d.length ≤ capacity
  /-- The caller's loop terminates; if sends succeed, the datagrams that it sends are what was pending and
  the input, in order. -/
  sendAll : ∀ bytes, ∃ s', m.sink.sendAll (bytes.length + 2) bytes = some s' ∧ s'.used = 0 ∧
    (start.Reliable → ∃ ds, s'.udp.datagrams = m.sink.udp.datagrams ++ ds ∧
      ds.flatten = m.framer.pending ++ bytes)

/-- A sink that follows its framer keeps the framing law. -/
theorem framingLaw {capacity : ℕ} (hpos : 1 ≤ capacity) {start : Udp} {m : SinkSession}
    (h : RawUdpSink.Accumulates capacity start m.sink m.framer) : m.FramingLaw capacity start where
  used := ⟨h.used, h.used.trans_le h.bounded.pending⟩
  write bytes := by
    obtain ⟨s', hwrite, -, hudp, herror⟩ := h.write bytes
    rw [Framer.room, ← h.used] at hwrite herror
    exact ⟨s', hwrite, hudp, herror⟩
  flush_empty := h.flush.2.1
  flush hne := by
    obtain ⟨hacc, -, hsends⟩ := h.flush
    obtain ⟨hok, hattempts⟩ := hsends hne
    exact ⟨hattempts, hok, by rw [hacc.used, Framer.pending_flush]; rfl⟩
  attempts := by
    obtain ⟨new, hnew, hpackets, -⟩ := h.offered.attempts
    rw [hnew, List.drop_left, hpackets]
  datagrams hwrite a ha d hd := h.bounded.frames d (h.offered.datagram hwrite ha hd)
  sendAll bytes := by
    obtain ⟨f', frames, hsend, hpending, hframes, hflatten⟩ := m.framer.send_frames hpos bytes
    obtain ⟨s', hloop, hacc⟩ := h.sendAll _ hsend
    refine ⟨s', hloop, by rw [hacc.used, hpending]; rfl, fun hreliable => ⟨frames, ?_, hflatten⟩⟩
    rw [hacc.offered.datagrams hreliable, h.offered.datagrams hreliable, hframes, List.append_assoc]

/-- One call. -/
theorem step_accumulates {capacity : ℕ} {start : Udp} {m : SinkSession}
    (h : RawUdpSink.Accumulates capacity start m.sink m.framer) (op : SinkOp) :
    ∃ m', m.step op = some m' ∧ RawUdpSink.Accumulates capacity start m'.sink m'.framer := by
  cases op with
  | write bytes =>
    obtain ⟨s', hwrite, hacc, -⟩ := h.write bytes
    refine ⟨{ sink := s', framer := m.framer.write capacity bytes }, ?_, hacc⟩
    simp only [step, hwrite]
    rfl
  | flush => exact ⟨_, rfl, h.flush.1⟩

end SinkSession

/-- **The framing of datagrams.** In every run of `write` and `flush` since `begin` succeeded, with a packet
buffer of any capacity and whatever the UDP object answers. -/
theorem raw_sink_framing {s : RawUdpSink} {capacity : ℕ} (hopen : s.Opened capacity) (ops : List SinkOp) :
    ∃ m, run SinkSession.step { sink := s } ops = some m ∧ m.FramingLaw capacity s.udp := by
  have hstart : RawUdpSink.Accumulates capacity s.udp ({ sink := s } : SinkSession).sink {} :=
    hopen.accumulates
  obtain ⟨m, hrun, h⟩ := run_total (fun m op h _ => SinkSession.step_accumulates h op) hstart
    (admissible_of_forall (fun _ _ => trivial) _ ops)
  exact ⟨m, hrun, SinkSession.framingLaw hopen.capacity_pos h⟩

/-- The default packet buffer, with two writes and a flush in between. -/
theorem raw_sink_framing_default :
    ∃ m, run SinkSession.step { sink := ((RawUdpSink.new fun _ => {}).begin 5004).2 }
        [.write [0xDE, 0xAD], .flush, .write [0xBE, 0xEF]] = some m ∧
      m.FramingLaw 1500 (((RawUdpSink.new fun _ => {}).begin 5004).2).udp :=
  raw_sink_framing (RawUdpSink.opened_default rfl (by decide)) _

end PcmFlowUdp
