import PcmFlowUdp.ByteTransport.Runs
import PcmFlowUdp.Rtp.Reception

/-! # L16 audio in and out of an `RtpReceiver`

A `PcmSession` polls L16 packets, reads frames and may set the format, and records the frames that came
in and the frames that went out, each with its number of channels. The receiver queues untagged bytes;
as long as no call puts them out of step with the frames they came from (`Keeps`),

* **`Inv.step`** — what is queued are whole frames, and what was read and is queued came in, in that
  order. -/

namespace PcmFlowUdp

open ByteTransport PcmFrame

/-- One call. -/
inductive PcmOp
  /-- `poll`, with this packet arrived. -/
  | poll (p : RtpPacket)
  | setFormat (fmt : PCMFormat)
  | read (frameCount : ℕ)

/-- A receiver with the audio that went through it. -/
structure PcmSession where
  receiver : RtpReceiver × RtpPollMemory
  /-- The frames of the packets that `poll` accepted. -/
  received : List AudioFrame := []
  /-- The frames that reads returned, with the channels that `format()` reported then. -/
  returned : List AudioFrame := []

/-- The whole frames of an L16 packet, of the channel count that the receiver takes it to have. -/
def RtpReceiver.packetFrames (r : RtpReceiver) (p : RtpPacket) :
    List (PcmFrame (r.l16Channels p.payloadType).toNat) :=
  netFrames _ (wholeFrames ((r.l16Channels p.payloadType).toNat * 2) p.payload)

namespace PcmSession

/-- One call. -/
def step [PCMFlow] (s : PcmSession) : PcmOp → Option PcmSession
  | .poll p =>
      let (ok, receiver) := s.receiver.1.poll s.receiver.2 (Inbound.ofDatagram p.wire)
      some
        { s with
          receiver
          received :=
            if ok then s.received ++ (s.receiver.1.packetFrames p).map audio else s.received }
  | .setFormat fmt => some { s with receiver := ((s.receiver.1.setFormat fmt).2, s.receiver.2) }
  | .read frameCount =>
      let (_, out, receiver) := s.receiver.1.readFrames true frameCount
      some
        { s with
          receiver := (receiver, s.receiver.2)
          returned := s.returned
            ++ (hostFrames s.receiver.1.format.channels.toNat out).map audio }

/-- What is polled is an L16 packet. -/
def PollsL16 (s : PcmSession) : PcmOp → Prop
  | .poll p => s.receiver.1.treatsAsL16 p.payloadType = true
  | _ => True

/-- The whole frames of the packet fit the ring as it is, or the ring holds a whole number of them. -/
def FitsRing (s : PcmSession) (p : RtpPacket) : Prop :=
  (s.receiver.1.l16Channels p.payloadType).toNat * 2 ∣ s.receiver.1.queue.cap ∨
    s.receiver.1.queue.count + (s.receiver.1.packetFrames p).length
      * ((s.receiver.1.l16Channels p.payloadType).toNat * 2) ≤ s.receiver.1.queue.cap

/-- The channel count of the last packet polled. -/
def lastChannels (s : PcmSession) : UInt8 := s.receiver.1.l16Channels s.receiver.1.lastPt

/-- The call does not put the bytes queued out of step with the frames they came from: while frames are
queued, only packets with their channel count are polled and frames are only read in that channel count;
a packet that overflows the ring drops whole frames, and padding does not show. A packet whose header is
longer than the receive buffer may be any, since it is rejected. -/
def Keeps (s : PcmSession) : PcmOp → Prop
  | .poll p => kRtpMaxPacketBytes < p.front.length ∨ s.receiver.1.PaddingHarmless p ∧ s.FitsRing p ∧
      (s.receiver.1.queue.count = 0 ∨ s.receiver.1.l16Channels p.payloadType = s.lastChannels)
  | .setFormat _ => True
  | .read _ => s.receiver.1.queue.count = 0 ∨ s.receiver.1.format.channels = s.lastChannels

instance (s : PcmSession) (op : PcmOp) : Decidable (s.PollsL16 op) :=
  match op with
  | .poll p => inferInstanceAs (Decidable (s.receiver.1.treatsAsL16 p.payloadType = true))
  | .setFormat _ => isTrue trivial
  | .read _ => isTrue trivial

instance (s : PcmSession) (p : RtpPacket) : Decidable (s.FitsRing p) :=
  inferInstanceAs (Decidable (_ ∨ _))

instance (s : PcmSession) (op : PcmOp) : Decidable (s.Keeps op) :=
  match op with
  | .poll p => inferInstanceAs (Decidable (kRtpMaxPacketBytes < p.front.length ∨
      s.receiver.1.PaddingHarmless p ∧ s.FitsRing p ∧
        (s.receiver.1.queue.count = 0 ∨ s.receiver.1.l16Channels p.payloadType = s.lastChannels)))
  | .setFormat _ => isTrue trivial
  | .read _ => inferInstanceAs (Decidable
      (s.receiver.1.queue.count = 0 ∨ s.receiver.1.format.channels = s.lastChannels))

/-- What every such call keeps. -/
structure Inv (s : PcmSession) : Prop where
  ready : s.receiver.1.ready = true
  declared : s.receiver.1.Declared
  /-- Frames are queued, of the channel count of the last packet. -/
  queue : ∃ (c : ℕ) (queued : List (PcmFrame c)), 0 < c ∧
    s.receiver.1.queue.contents = hostImage queued ∧
    (queued ≠ [] → s.lastChannels.toNat = c ∧ s.receiver.1.format.bitsPerSample = 16) ∧
    List.Sublist (s.returned ++ queued.map audio) s.received

/-- What was returned came in, in the order in which it came in. -/
theorem Inv.sublist {s : PcmSession} (h : s.Inv) : List.Sublist s.returned s.received := by
  obtain ⟨c, queued, -, -, -, hsub⟩ := h.queue
  exact (List.sublist_append_left _ _).trans hsub

/-- A session with a ready receiver whose ring is empty. -/
theorem inv_start {r : RtpReceiver} (hready : r.ready = true) (hdeclared : r.Declared)
    (hempty : r.queue.count = 0) (mem : RtpPollMemory) :
    ({ receiver := (r, mem) } : PcmSession).Inv := by
  have hnil : r.queue.contents = [] :=
    List.length_eq_zero_iff.mp (by rw [RingBuffer.length_contents, hempty])
  exact ⟨hready, hdeclared, 1, [], Nat.one_pos, hnil, fun h => absurd rfl h, List.Sublist.refl []⟩

section PacketFrames

variable {r : RtpReceiver} {p : RtpPacket} (hc : 0 < (r.l16Channels p.payloadType).toNat)

include hc

/-- The bytes queued are those of the frames of the packet. -/
theorem hostImage_packetFrames : hostImage (r.packetFrames p)
    = swapPairs (wholeFrames ((r.l16Channels p.payloadType).toNat * 2) p.payload) := by
  apply hostImage_hostFrames hc
  rw [length_swapPairs, length_wholeFrames]
  exact Nat.dvd_mul_left _ _

/-- A packet has as many frames as fit its payload whole. -/
theorem length_packetFrames : (r.packetFrames p).length
    = p.payload.length / ((r.l16Channels p.payloadType).toNat * 2) := by
  have hlen := length_hostImage (r.packetFrames p)
  rw [hostImage_packetFrames hc, length_swapPairs, length_wholeFrames] at hlen
  exact (Nat.eq_of_mul_eq_mul_right (by omega) hlen).symm

end PacketFrames

/-- A ring that queues frames is not empty. -/
theorem count_ne_zero {c : ℕ} {q : RingBuffer UInt8} {queued : List (PcmFrame c)}
    (h : q.contents = hostImage queued) (hc : 0 < c) (hne : queued ≠ []) : q.count ≠ 0 := by
  have hlen := List.length_pos_iff.mpr hne
  rw [count_frames h]
  exact (Nat.mul_pos hlen (by omega)).ne'

section Queue

variable {s : PcmSession}

/-- The frames queued, in a channel count that is theirs if there are any. -/
theorem Inv.queuedIn (h : s.Inv) {channels : UInt8}
    (hchannels : s.receiver.1.queue.count = 0 ∨ channels = s.lastChannels) :
    ∃ queued : List (PcmFrame channels.toNat),
      s.receiver.1.queue.contents = hostImage queued ∧
        (queued ≠ [] → 0 < channels.toNat ∧ s.lastChannels.toNat = channels.toNat ∧
          s.receiver.1.format.bitsPerSample = 16) ∧
        List.Sublist (s.returned ++ queued.map audio) s.received := by
  obtain ⟨c, queued, hc, hqueue, hformat, hsub⟩ := h.queue
  rcases eq_or_ne queued [] with rfl | hne
  · exact ⟨[], hqueue, fun hne => absurd rfl hne, hsub⟩
  · have hsame : channels.toNat = c := by
      rw [hchannels.resolve_left (count_ne_zero hqueue hc hne)]
      exact (hformat hne).1
    subst hsame
    exact ⟨queued, hqueue, fun hne => ⟨hc, hformat hne⟩, hsub⟩

/-- The channel count of an empty queue does not matter. -/
theorem inv_of_queued (hready : s.receiver.1.ready = true) (hdeclared : s.receiver.1.Declared) {c : ℕ}
    {queued : List (PcmFrame c)} (hqueue : s.receiver.1.queue.contents = hostImage queued)
    (hformat : queued ≠ [] → 0 < c ∧ s.lastChannels.toNat = c ∧ s.receiver.1.format.bitsPerSample = 16)
    (hsub : List.Sublist (s.returned ++ queued.map audio) s.received) : s.Inv := by
  refine ⟨hready, hdeclared, ?_⟩
  rcases eq_or_ne queued [] with rfl | hne
  · exact ⟨1, [], Nat.one_pos, hqueue, fun hne => absurd rfl hne, hsub⟩
  · exact ⟨c, queued, (hformat hne).1, hqueue, fun hne => (hformat hne).2, hsub⟩

/-- A packet that fits, or overflows a ring of whole frames, drops whole frames off the front, if any. -/
theorem FitsRing.push {p : RtpPacket} (h : s.FitsRing p)
    {old frames : List (PcmFrame (s.receiver.1.l16Channels p.payloadType).toNat)}
    (hold : s.receiver.1.queue.contents = hostImage old)
    (hframes : List.Sublist frames (s.receiver.1.packetFrames p)) :
    ∃ new : List (PcmFrame (s.receiver.1.l16Channels p.payloadType).toNat),
      (s.receiver.1.queue.push (hostImage frames)).contents = hostImage new ∧
        List.Sublist new (old ++ frames) := by
  rcases h with hdvd | hroom
  · exact ⟨_, push_frames_of_dvd hold hdvd _, (keepLast_suffix _ _).sublist⟩
  · have hle := Nat.mul_le_mul_right ((s.receiver.1.l16Channels p.payloadType).toNat * 2)
      hframes.length_le
    exact ⟨_, push_frames hold (by omega), List.Sublist.refl _⟩

end Queue

section Steps

variable [PCMFlow] {s : PcmSession}

/-- A packet whose header does not fit the receive buffer is rejected, and nothing else happens. -/
theorem poll_cut (hready : s.receiver.1.ready = true) {p : RtpPacket}
    (hcut : kRtpMaxPacketBytes < p.front.length) :
    ∃ mem, step s (.poll p) = some { s with receiver := ({ s.receiver.1 with error := .badHeader }, mem) } := by
  have hpoll := RtpReceiver.poll_wire hready s.receiver.2 p
  rw [if_pos hcut] at hpoll
  rw [step]
  generalize s.receiver.1.poll s.receiver.2 (Inbound.ofDatagram p.wire) = res at hpoll
  obtain ⟨ok, r, mem⟩ := res
  obtain ⟨rfl, rfl⟩ := Prod.mk.inj hpoll
  exact ⟨mem, rfl⟩

/-- What polling an L16 packet whose padding does not show does: it is rejected, or its frames are
queued, all of them unless the receive buffer cut the packet off. -/
theorem poll_l16 (hready : s.receiver.1.ready = true) (hdeclared : s.receiver.1.Declared)
    {p : RtpPacket} (hl16 : s.receiver.1.treatsAsL16 p.payloadType = true)
    (hpad : s.receiver.1.PaddingHarmless p) :
    ∃ mem, kRtpMaxPacketBytes < p.front.length ∧ step s (.poll p) = some
        { s with receiver := ({ s.receiver.1 with error := .badHeader }, mem) } ∨
      ∃ k, (p.wire.length ≤ kRtpMaxPacketBytes → (s.receiver.1.packetFrames p).length ≤ k) ∧
        step s (.poll p) = some
          { s with
            receiver :=
              ({ s.receiver.1.noteHeader p.header with
                  format := s.receiver.1.l16Format p.payloadType
                  queue := s.receiver.1.queue.push
                    (hostImage ((s.receiver.1.packetFrames p).take k)) }, mem)
            received := s.received ++ (s.receiver.1.packetFrames p).map audio } := by
  -- a header that does not fit the buffer is refused; else the payload is cut at the end of the buffer
  by_cases hcut : kRtpMaxPacketBytes < p.front.length
  · obtain ⟨mem, hstep⟩ := poll_cut hready hcut
    exact ⟨mem, .inl ⟨hcut, hstep⟩⟩
  · have hpoll := RtpReceiver.poll_wire hready s.receiver.2 p
    have hc := hdeclared.l16Channels_pos p.payloadType_le
    rw [RtpReceiver.PaddingHarmless, if_pos hl16] at hpad
    rw [if_neg hcut] at hpoll
    rw [step]
    generalize s.receiver.1.poll s.receiver.2 (Inbound.ofDatagram p.wire) = res at hpoll
    obtain ⟨ok, r, mem⟩ := res
    obtain ⟨rfl, rfl⟩ := Prod.mk.inj hpoll
    set c := (s.receiver.1.l16Channels p.payloadType).toNat with hcdef
    set n := kRtpMaxPacketBytes - p.front.length with hn
    refine ⟨mem, .inr ⟨n / (c * 2), fun hlen => ?_, ?_⟩⟩
    · have hwire := p.length_wire
      rw [List.length_append] at hwire
      rw [length_packetFrames hc]
      exact Nat.div_le_div_right (by omega)
    · have hbpf : ((s.receiver.1.noteHeader p.header).l16Format p.payloadType).bytesPerFrame = c * 2 :=
        RtpReceiver.bytesPerFrame_l16Format _ _
      have hpush : hostImage ((s.receiver.1.packetFrames p).take (n / (c * 2)))
          = swapPairs (wholeFrames (c * 2) ((p.payload ++ p.paddingBytes).take n)) := by
        rw [wholeFrames_take, wholeFrames_append hpad, swapPairs_take _ _ (by
          rw [← Nat.mul_assoc]; exact Nat.dvd_mul_left _ _), ← hostImage_packetFrames hc, hostImage_take]
      rw [hpush, ← hbpf, RtpReceiver.dispatch, if_pos (show s.receiver.1.treatsAsL16
        p.header.payloadType = true from hl16)]
      rfl

/-- Polling. -/
theorem Inv.poll (h : s.Inv) {p : RtpPacket}
    (hl16 : s.receiver.1.treatsAsL16 p.payloadType = true) (hkeeps : s.Keeps (.poll p)) :
    ∃ s', PcmSession.step s (.poll p) = some s' ∧ s'.Inv := by
  rcases hkeeps with hcut | ⟨hpad, hfits, hchannels⟩
  · obtain ⟨mem, hstep⟩ := poll_cut h.ready hcut
    exact ⟨_, hstep, h.ready, h.declared, h.queue⟩
  have hcp := h.declared.l16Channels_pos p.payloadType_le
  obtain ⟨mem, ⟨-, hstep⟩ | ⟨k, -, hstep⟩⟩ := poll_l16 h.ready h.declared hl16 hpad
  · exact ⟨_, hstep, h.ready, h.declared, h.queue⟩
  -- what is queued before has the channel count of the packet
  obtain ⟨old, hold, -, hsub⟩ := h.queuedIn hchannels
  have htake := List.take_sublist k (s.receiver.1.packetFrames p)
  obtain ⟨new, hnew, hnewsub⟩ := hfits.push hold htake
  refine ⟨_, hstep, h.ready, h.declared, _, new, hcp, hnew, fun _ => ⟨rfl, rfl⟩, ?_⟩
  have hmap := (hnewsub.trans ((List.Sublist.refl old).append htake)).map audio
  rw [List.map_append] at hmap
  calc List.Sublist (s.returned ++ new.map audio)
        (s.returned ++ (old.map audio ++ (s.receiver.1.packetFrames p).map audio)) :=
      (List.Sublist.refl _).append hmap
    List.Sublist _ (s.received ++ (s.receiver.1.packetFrames p).map audio) := by
      rw [← List.append_assoc]
      exact hsub.append (List.Sublist.refl _)

/-- `setFormat`, which does not touch the queue. -/
theorem Inv.setFormat (h : s.Inv) (fmt : PCMFormat) :
    ∃ s', PcmSession.step s (.setFormat fmt) = some s' ∧ s'.Inv := by
  obtain ⟨c, queued, hc, hqueue, hformat, hsub⟩ := h.queue
  rw [PcmSession.step, RtpReceiver.setFormat]
  split
  · exact ⟨_, rfl, h.ready, h.declared, h.queue⟩
  · rename_i hok
    have hbits := (PCMFormat.not_rejected_iff.mp hok).2
    exact ⟨_, rfl, h.ready, h.declared, c, queued, hc, hqueue, fun hne => ⟨(hformat hne).1, hbits⟩, hsub⟩

/-- Reading, which counts in the frames that are queued. -/
theorem Inv.read (h : s.Inv) {frameCount : ℕ} (hkeeps : s.Keeps (.read frameCount)) :
    ∃ s', PcmSession.step s (.read frameCount) = some s' ∧ s'.Inv := by
  obtain ⟨queued, hqueue, hformat, hsub⟩ := h.queuedIn hkeeps
  obtain ⟨k, queue, hk, hread, hrest, -⟩ := RtpReceiver.readFrames_frames hqueue
    (fun hne => PCMFormat.bytesPerFrame_pcm16 (hformat hne).2.2) true frameCount
  have hout : hostFrames s.receiver.1.format.channels.toNat (hostImage (queued.take k)) = queued.take k := by
    rcases eq_or_ne queued [] with rfl | hne
    · rw [List.take_nil, hostImage_nil, hostFrames_nil]
    · exact hostFrames_hostImage (hformat hne).1 _
  rw [PcmSession.step, hread]
  refine ⟨_, rfl, inv_of_queued h.ready h.declared hrest (fun hne => ?_) ?_⟩
  · exact hformat fun hnil => hne (by rw [hnil, List.drop_nil])
  · dsimp only
    rw [hout, List.append_assoc, ← List.map_append, List.take_append_drop]
    exact hsub

/-- **One step.** A call that keeps the queue in step completes and keeps the invariant. -/
theorem Inv.step (h : s.Inv) {op : PcmOp} (hl16 : s.PollsL16 op) (hkeeps : s.Keeps op) :
    ∃ s', PcmSession.step s op = some s' ∧ s'.Inv := by
  cases op with
  | poll p => exact h.poll hl16 hkeeps
  | setFormat fmt => exact h.setFormat fmt
  | read frameCount => exact h.read hkeeps

end Steps

end PcmSession

end PcmFlowUdp
