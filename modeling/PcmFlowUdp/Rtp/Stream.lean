import PcmFlowUdp.ByteTransport.Stamping
import PcmFlowUdp.Rtp.Packetizer

/-! # An RTP stream as a stamped log

Every packet that a sender offers to its UDP object carries the sender's marker, sequence number, timestamp
and SSRC (`RtpStamp`), and these move on only if the packet is sent (`RtpStamp.next`). So the offers of a
stream are a log stamped by a running state:

* **`RtpOutlet.send_streams`** — one packet, on either path;
* **`RtpOutlet.sendAll_streams`** — the packets of the L16 path, with the frames they carry
  (`Emission`). -/

namespace PcmFlowUdp

open ByteTransport PcmFrame

/-- The header fields that tell the packets of a stream apart. -/
structure RtpStamp where
  marker : Bool
  sequenceNumber : UInt16
  timestamp : UInt32
  ssrc : UInt32
  deriving DecidableEq, Repr

/-- The stamp that a header carries. -/
def RtpHeader.stamp (h : RtpHeader) : RtpStamp := ⟨h.marker, h.sequenceNumber, h.timestamp, h.ssrc⟩

/-- What happens on a stream. -/
inductive StreamEvent
  /-- `setMarker(true)`. -/
  | armed
  /-- `setMarker(false)`. -/
  | disarmed
  /-- A packet is offered to the UDP object; if it is sent, it adds `advance` to the timestamp. -/
  | offered (attempt : SendAttempt) (advance : UInt32)
  deriving DecidableEq, Repr

namespace StreamEvent

/-- The attempt to send a packet. -/
def attempt : StreamEvent → Option SendAttempt
  | .armed => none
  | .disarmed => none
  | .offered a _ => some a

/-- A packet was sent. -/
def IsSent : StreamEvent → Prop
  | .armed => False
  | .disarmed => False
  | .offered a _ => a.ok = true

end StreamEvent

/-- The packet is an RTP packet with this header and a payload of at most 1440 bytes right behind it. -/
structure IsRtpPacket (packet : List UInt8) (h : RtpHeader) : Prop where
  parse : parseRtpHeader packet packet.length = .ok h
  version : h.version = 2
  payloadOffset : h.payloadOffset = kRtpHeaderBytes
  payload_pos : 0 < (packet.drop h.payloadOffset).length
  payload_le : (packet.drop h.payloadOffset).length ≤ kRtpMaxPayloadBytes

/-- What a sender puts on the wire is one. -/
theorem isRtpPacket_encoded {h : RtpHeader} (hpt : h.payloadType ≤ 0x7F) {payload : List UInt8}
    (hpos : 0 < payload.length) (hmax : payload.length ≤ kRtpMaxPayloadBytes) :
    IsRtpPacket (rtpHeaderBytes h ++ payload) h.emitted := by
  have hdrop : (rtpHeaderBytes h ++ payload).drop h.emitted.payloadOffset = payload :=
    List.drop_left' (length_rtpHeaderBytes h)
  have hlen : 12 ≤ (rtpHeaderBytes h ++ payload).length := by
    rw [List.length_append, length_rtpHeaderBytes]
    exact Nat.le_add_right _ _
  exact ⟨parseRtpHeader_encoded hpt payload hlen, rfl, rfl, by rwa [hdrop], by rwa [hdrop]⟩

namespace RtpStamp

/-- The stamp of the next packet. -/
def next (st : RtpStamp) : StreamEvent → RtpStamp
  | .armed => { st with marker := true }
  | .disarmed => { st with marker := false }
  | .offered a advance =>
      -- a failed send leaves the marker armed and the counters where they are
      if a.ok then
        { st with
          marker := false
          sequenceNumber := st.sequenceNumber + 1
          timestamp := st.timestamp + advance }
      else st

/-- The packet that is offered carries this stamp. -/
def On (st : RtpStamp) : StreamEvent → Prop
  | .armed => True
  | .disarmed => True
  | .offered a _ => ∃ h, IsRtpPacket a.packet h ∧ h.stamp = st

/-- The SSRC of a stream stays. -/
theorem foldl_next_ssrc (events : List StreamEvent) (st : RtpStamp) :
    (events.foldl next st).ssrc = st.ssrc := by
  induction events generalizing st with
  | nil => rfl
  | cons e events ih =>
    rw [List.foldl_cons, ih]
    cases e with
    | armed => rfl
    | disarmed => rfl
    | offered a advance =>
      rw [next]
      split <;> rfl

/-- While nothing is sent only the marker changes, and it is set from the first `setMarker(true)` on, unless a
`setMarker(false)` takes it back. -/
theorem foldl_next_of_not_sent {events : List StreamEvent} (h : ∀ e ∈ events, ¬ e.IsSent)
    (hkept : .disarmed ∉ events) (st : RtpStamp) :
    (events.foldl next st).sequenceNumber = st.sequenceNumber ∧
      (events.foldl next st).timestamp = st.timestamp ∧
      ((events.foldl next st).marker = true ↔ st.marker = true ∨ .armed ∈ events) := by
  induction events generalizing st with
  | nil => simp
  | cons e events ih =>
    obtain ⟨hseq, hts, hmarker⟩ := ih (fun e' he' => h e' (List.mem_cons_of_mem _ he'))
      (fun hmem => hkept (List.mem_cons_of_mem _ hmem)) (st.next e)
    rw [List.foldl_cons, hseq, hts, hmarker]
    cases e with
    | armed => exact ⟨rfl, rfl, by simp [next]⟩
    | disarmed => exact absurd List.mem_cons_self hkept
    | offered a advance =>
      have hfailed : ¬ a.ok = true := h _ List.mem_cons_self
      rw [next, if_neg hfailed]
      exact ⟨rfl, rfl, by simp⟩

end RtpStamp

namespace RtpSender

/-- The attempts between two states of a sender. -/
def attemptsSince (s s' : RtpSender) : List SendAttempt :=
  s'.udp.attempts.drop s.udp.attempts.length

/-- The attempts that calls add to the UDP object are those behind the old ones. -/
theorem attemptsSince_eq {s s' : RtpSender} {new : List SendAttempt}
    (h : s'.udp.attempts = s.udp.attempts ++ new) : s.attemptsSince s' = new := by
  rw [attemptsSince, h, List.drop_left]

end RtpSender

/-! ## From one outlet to another -/

/-- From `o` to `o'` the packets of `events` were offered, each with the stamp it had to have. -/
structure Streams (o : RtpOutlet) (events : List StreamEvent) (o' : RtpOutlet) : Prop where
  attempts : o'.udp.attempts = o.udp.attempts ++ events.filterMap StreamEvent.attempt
  stamped : Stamped RtpStamp.next RtpStamp.On o.header.stamp events
  stamp : o'.header.stamp = events.foldl RtpStamp.next o.header.stamp

namespace Streams

variable {o o' o'' : RtpOutlet} {events events' : List StreamEvent}

/-- Nothing is offered. -/
theorem of_eq (hudp : o'.udp = o.udp) (hstamp : o'.header.stamp = o.header.stamp) : Streams o [] o' where
  attempts := by rw [hudp]; exact (List.append_nil _).symm
  stamped := trivial
  stamp := hstamp

/-- What happens to the stream adds up. -/
theorem trans (h : Streams o events o') (h' : Streams o' events' o'') :
    Streams o (events ++ events') o'' where
  attempts := by rw [h'.attempts, h.attempts, List.filterMap_append, List.append_assoc]
  stamped := (stamped_append events events').mpr ⟨h.stamped, h.stamp ▸ h'.stamped⟩
  stamp := by rw [h'.stamp, h.stamp, List.foldl_append]

end Streams

/-- **One packet**, on either path. -/
theorem RtpOutlet.send_streams {o : RtpOutlet} (hpt : o.header.payloadType ≤ 0x7F)
    {payload : List UInt8} (hpos : 0 < payload.length) (hmax : payload.length ≤ kRtpMaxPayloadBytes)
    (advance : UInt32) :
    Streams o [.offered ⟨rtpHeaderBytes o.header ++ payload, o.udp.next⟩ advance]
      (o.send payload advance) where
  attempts := rfl
  stamped := ⟨⟨_, isRtpPacket_encoded hpt hpos hmax, rfl⟩, trivial⟩
  stamp := by
    -- the header and the stamp move on together
    show (if o.udp.next.ok then o.header.advance advance else o.header).stamp
      = if o.udp.next.ok then _ else _
    split <;> rfl

/-- An attempt on the L16 path, and the frames that its packet carries. -/
structure Emission (c : ℕ) where
  frames : List (PcmFrame c)
  attempt : SendAttempt
  carries : attempt.packet.drop kRtpHeaderBytes = netImage frames

namespace Emission

variable {c : ℕ}

/-- The packet was sent. -/
def ok (e : Emission c) : Bool := e.attempt.ok

/-- A packet of the L16 path adds its frames to the timestamp. -/
def event (e : Emission c) : StreamEvent := .offered e.attempt (UInt32.ofNat e.frames.length)

/-- The timestamp moves by the frames that were sent. -/
theorem foldl_next_timestamp (es : List (Emission c)) (st : RtpStamp) :
    ((es.map event).foldl RtpStamp.next st).timestamp
      = st.timestamp + UInt32.ofNat ((es.filter ok).flatMap frames).length := by
  induction es generalizing st with
  | nil => simp
  | cons e es ih =>
    rw [List.map_cons, List.foldl_cons, ih, event, RtpStamp.next]
    by_cases hok : e.ok = true
    · rw [if_pos (show e.attempt.ok = true from hok), List.filter_cons_of_pos hok, List.flatMap_cons,
        List.length_append, UInt32.ofNat_add, ← UInt32.add_assoc]
    · rw [if_neg (show ¬ e.attempt.ok = true from hok), List.filter_cons_of_neg hok]

/-- The attempts of the L16 path in its log. -/
theorem filterMap_attempt (es : List (Emission c)) :
    (es.map event).filterMap StreamEvent.attempt = es.map attempt := by
  rw [List.filterMap_map, ← List.filterMap_eq_map]
  rfl

/-- The frames are counted off the packet. -/
theorem length_frames (hc : 0 < c) (e : Emission c) :
    e.frames.length = (e.attempt.packet.length - kRtpHeaderBytes) / (c * 2) := by
  rw [← List.length_drop, e.carries, length_netImage, Nat.mul_div_cancel _ (by omega)]

end Emission

/-- **The packets of the L16 path.** -/
theorem RtpOutlet.sendAll_streams {c : ℕ} (hc : 0 < c) (packets : List (List (PcmFrame c)))
    {o : RtpOutlet} (hpt : o.header.payloadType ≤ 0x7F)
    (hsizes : ∀ frames ∈ packets, frames ≠ [] ∧ frames.length * (c * 2) ≤ kRtpMaxPayloadBytes) :
    ∃ es : List (Emission c), es.map Emission.frames = packets ∧
      Streams o (es.map Emission.event) (o.sendAll packets) := by
  induction packets generalizing o with
  | nil => exact ⟨[], rfl, Streams.of_eq rfl rfl⟩
  | cons frames packets ih =>
    obtain ⟨hne, hle⟩ := hsizes frames List.mem_cons_self
    have hlen := length_netImage frames
    have hpos : 0 < (netImage frames).length := by
      rw [hlen]
      exact Nat.mul_pos (List.length_pos_iff.mpr hne) (by omega)
    have hsend := RtpOutlet.send_streams hpt hpos (by rw [hlen]; exact hle)
      (UInt32.ofNat frames.length)
    have hpt' : (o.send (netImage frames) (UInt32.ofNat frames.length)).header.payloadType ≤ 0x7F := by
      rw [RtpOutlet.send]
      dsimp only
      split <;> exact hpt
    obtain ⟨es, hframes, hrest⟩ := ih hpt' fun fs hmem => hsizes fs (List.mem_cons_of_mem _ hmem)
    -- the first emission is the packet just sent
    refine ⟨⟨frames, ⟨rtpHeaderBytes o.header ++ netImage frames, o.udp.next⟩,
      List.drop_left' (length_rtpHeaderBytes o.header)⟩ :: es, ?_, hsend.trans hrest⟩
    rw [List.map_cons, hframes]

/-- What `writeFrames` or `flush` emits. -/
theorem RtpSender.Emits.streams {c : ℕ} {s s' : RtpSender} {packets : List (List (PcmFrame c))}
    (h : RtpSender.Emits s packets s') (hmode : RtpSender.L16Mode c s) :
    ∃ es : List (Emission c), es.map Emission.frames = packets ∧
      Streams s.outlet (es.map Emission.event) s'.outlet := by
  rw [h.outlet]
  refine RtpOutlet.sendAll_streams hmode.channels_pos packets hmode.payloadType_le fun frames hmem => ?_
  obtain ⟨hne, hle⟩ := h.sizes frames hmem
  exact ⟨hne, (Nat.mul_le_mul_right _ hle).trans hmode.fits⟩

end PcmFlowUdp
