import PcmFlowUdp.Rtp.Packet
import PcmFlowUdp.Rtp.Receiver

/-! # What the calls of `RtpReceiver` do

`receive_emitted` says what receiving a packet of an `RtpSender` does; for an L16 packet that is queueing
the frames it carries (`queueL16_netImage`), on which the byte swap of the sender and that of the
receiver cancel. `poll_wire` says the same of any RTP packet: `poll` takes its padding for payload. -/

namespace PcmFlowUdp

open ByteTransport PcmFrame

/-! ## Whole frames -/

/-- The whole frames at the start of an L16 payload. -/
def wholeFrames (bytesPerFrame : ℕ) (payload : List UInt8) : List UInt8 :=
  payload.take (payload.length - payload.length % bytesPerFrame)

/-- Padding that completes no frame is trimmed off with what is left of the payload. -/
theorem wholeFrames_append {bytesPerFrame : ℕ} {payload padding : List UInt8}
    (h : (payload ++ padding).length / bytesPerFrame = payload.length / bytesPerFrame) :
    wholeFrames bytesPerFrame (payload ++ padding) = wholeFrames bytesPerFrame payload := by
  have hall := Nat.div_add_mod (payload ++ padding).length bytesPerFrame
  have hpay := Nat.div_add_mod payload.length bytesPerFrame
  rw [h] at hall
  have haligned : (payload ++ padding).length - (payload ++ padding).length % bytesPerFrame
      = payload.length - payload.length % bytesPerFrame := by omega
  rw [wholeFrames, haligned, List.take_append_of_le_length (Nat.sub_le _ _), wholeFrames]

/-- The whole frames take a multiple of the frame size. -/
theorem length_wholeFrames (bytesPerFrame : ℕ) (payload : List UInt8) :
    (wholeFrames bytesPerFrame payload).length
      = payload.length / bytesPerFrame * bytesPerFrame := by
  have hpay := Nat.div_add_mod payload.length bytesPerFrame
  rw [wholeFrames, List.length_take, min_eq_left (Nat.sub_le _ _), Nat.mul_comm]
  omega

/-- The whole frames of a payload that is cut off are the first ones of the payload. -/
theorem wholeFrames_take (bytesPerFrame n : ℕ) (payload : List UInt8) :
    wholeFrames bytesPerFrame (payload.take n)
      = (wholeFrames bytesPerFrame payload).take (n / bytesPerFrame * bytesPerFrame) := by
  have hwhole : ∀ l : List UInt8, wholeFrames bytesPerFrame l
      = l.take (l.length / bytesPerFrame * bytesPerFrame) := by
    intro l
    have hdiv := Nat.div_add_mod l.length bytesPerFrame
    rw [wholeFrames, Nat.mul_comm (l.length / bytesPerFrame)]
    congr 1
    omega
  rw [hwhole, hwhole, List.take_take, List.take_take, List.length_take]
  congr 1
  -- cutting off whole frames and cutting off at whole frames is the same
  rcases Nat.le_total n payload.length with hle | hle
  · have hdiv := Nat.mul_le_mul_right bytesPerFrame (Nat.div_le_div_right hle (c := bytesPerFrame))
    have hself := Nat.div_mul_le_self n bytesPerFrame
    rw [min_eq_left hle]
    omega
  · have hdiv := Nat.mul_le_mul_right bytesPerFrame (Nat.div_le_div_right hle (c := bytesPerFrame))
    have hself := Nat.div_mul_le_self payload.length bytesPerFrame
    rw [min_eq_right hle]
    omega

namespace RtpReceiver

/-- What a read does, in every state. -/
theorem readFrames_spec [PCMFlow] (r : RtpReceiver) (nonNull : Bool) (frameCount : ℕ) :
    ∃ out queue, r.readFrames nonNull frameCount
        = (framesToRead r.ready nonNull r.format.bytesPerFrame r.queue frameCount, out,
            { r with queue }) ∧
      ReadsFrames r.format.bytesPerFrame r.queue
        (framesToRead r.ready nonNull r.format.bytesPerFrame r.queue frameCount)
        (framesToRead r.ready nonNull r.format.bytesPerFrame r.queue frameCount, out, queue) := by
  have hspec := readQueue_spec r.ready nonNull r.format.bytesPerFrame r.queue frameCount
  rw [readFrames]
  generalize readQueue r.ready nonNull r.format.bytesPerFrame r.queue frameCount = res at hspec
  obtain ⟨k, out, queue⟩ := res
  obtain rfl : k = _ := hspec.frames
  exact ⟨out, queue, rfl, hspec⟩

/-- Reading while the queue holds frames of the current channel count returns the oldest of them. -/
theorem readFrames_frames [PCMFlow] {r : RtpReceiver} {c : ℕ} {fs : List (PcmFrame c)}
    (hq : r.queue.contents = hostImage fs) (hbpf : fs ≠ [] → r.format.bytesPerFrame = c * 2)
    (nonNull : Bool) (frameCount : ℕ) :
    ∃ k queue, k ≤ fs.length ∧
      r.readFrames nonNull frameCount = (k, hostImage (fs.take k), { r with queue }) ∧
      queue.contents = hostImage (fs.drop k) ∧ queue.cap = r.queue.cap := by
  obtain ⟨k, queue, hk, hread, hcont, hcap⟩ := readQueue_frames hq hbpf r.ready nonNull frameCount
  exact ⟨k, queue, hk, by rw [readFrames, hread], hcont, hcap⟩

/-- Reading what is held: it is handed out whole, or not at all. -/
theorem readEncoded_of_held {r : RtpReceiver} (hready : r.encodedReady = true)
    (nonNull : Bool) (maxBytes : ℕ) :
    r.readEncoded nonNull maxBytes
      = if (nonNull && decide (r.encodedBytes ≤ maxBytes)) = true then
          (r.encodedBytes, r.encoded.slice 0 r.encodedBytes,
            { r with encodedReady := false, encodedBytes := 0 })
        else (0, [], r) := by
  rw [readEncoded, hready]
  by_cases hle : r.encodedBytes ≤ maxBytes
  · cases nonNull <;> simp [hle]
  · cases nonNull <;> simp [hle, Nat.lt_of_not_le hle]

/-- The padding of a packet does not show: there is none, or none that completes another L16 frame. -/
def PaddingHarmless (r : RtpReceiver) (p : RtpPacket) : Prop :=
  if r.treatsAsL16 p.payloadType then
    (p.payload ++ p.paddingBytes).length / ((r.l16Channels p.payloadType).toNat * 2)
      = p.payload.length / ((r.l16Channels p.payloadType).toNat * 2)
  else p.paddingBytes = []

/-- No padding, no harm. -/
theorem paddingHarmless_of_unpadded (r : RtpReceiver) {p : RtpPacket} (h : p.paddingBytes = []) :
    r.PaddingHarmless p := by
  rw [PaddingHarmless, h, List.append_nil]
  split <;> rfl

instance (r : RtpReceiver) (p : RtpPacket) : Decidable (r.PaddingHarmless p) := by
  unfold PaddingHarmless
  infer_instance

/-! ## Receiving -/

section Receive

variable [PCMFlow]

/-- **What receiving a packet of an `RtpSender` does.** -/
theorem receive_emitted (r : RtpReceiver) {h : RtpHeader} (hpt : h.payloadType ≤ 0x7F)
    (payload : List UInt8) :
    r.receive (rtpHeaderBytes h ++ payload) = (true, r.dispatch h.emitted payload) := by
  have hlen : (rtpHeaderBytes h ++ payload).length = 12 + payload.length := by
    rw [List.length_append, length_rtpHeaderBytes]
  rw [receive, if_neg (by rw [hlen]; exact Nat.not_lt.mpr (Nat.le_add_right _ _)),
    parseRtpHeader_encoded hpt payload (by omega)]
  rfl

/-- Polling a packet of an `RtpSender` that respects the payload cap. -/
theorem poll_emitted {r : RtpReceiver} (hready : r.ready = true) (mem : RtpPollMemory)
    {h : RtpHeader} (hpt : h.payloadType ≤ 0x7F) {payload : List UInt8}
    (hmax : payload.length ≤ kRtpMaxPayloadBytes) :
    (r.poll mem (Inbound.ofDatagram (rtpHeaderBytes h ++ payload))).1 = true ∧
      (r.poll mem (Inbound.ofDatagram (rtpHeaderBytes h ++ payload))).2.1
        = r.dispatch h.emitted payload := by
  have hne : rtpHeaderBytes h ++ payload ≠ [] := by simp [rtpHeaderBytes]
  have hpoll := poll_ofDatagram hready mem hne
  have hall : (rtpHeaderBytes h ++ payload).take kRtpMaxPacketBytes
      = rtpHeaderBytes h ++ payload := by
    apply List.take_of_length_le
    rw [List.length_append, length_rtpHeaderBytes]
    exact Nat.add_le_add_left hmax 12
  rw [hall, r.receive_emitted hpt] at hpoll
  exact ⟨congrArg Prod.fst hpoll, congrArg Prod.snd hpoll⟩

/-- Queueing an L16 payload of whole frames queues its frames, in host byte order. -/
theorem queueL16_netImage (r : RtpReceiver) {pt : UInt8} {c : ℕ}
    (hc : (r.l16Channels pt).toNat = c) (fs : List (PcmFrame c)) :
    r.queueL16 pt (netImage fs)
      = { r with format := r.l16Format pt, queue := r.queue.push (hostImage fs) } := by
  have haligned : (netImage fs).length - (netImage fs).length % (r.l16Format pt).bytesPerFrame
      = (netImage fs).length := by
    rw [bytesPerFrame_l16Format, hc, length_netImage, Nat.mul_mod_left, Nat.sub_zero]
  simp only [queueL16, haligned, List.take_length, swapPairs_netImage]

/-- **What polling an RTP packet does.** Of a packet whose payload begins within the receive buffer
whatever follows there is dispatched, padding included; another packet is rejected. -/
theorem poll_wire {r : RtpReceiver} (hready : r.ready = true) (mem : RtpPollMemory) (p : RtpPacket) :
    ((r.poll mem (Inbound.ofDatagram p.wire)).1, (r.poll mem (Inbound.ofDatagram p.wire)).2.1)
      = if kRtpMaxPacketBytes < p.front.length then (false, { r with error := .badHeader })
        else (true, r.dispatch p.header
          ((p.payload ++ p.paddingBytes).take (kRtpMaxPacketBytes - p.front.length))) := by
  have hfront := p.length_front
  have hwire := p.length_wire
  have hmax : kRtpMaxPacketBytes = 1452 := rfl
  have hfixed : kRtpHeaderBytes = 12 := rfl
  -- a packet has at least its fixed header
  have hne : p.wire ≠ [] := by
    intro hnil
    rw [hnil, List.length_nil] at hwire
    omega
  have hlen : (p.wire.take kRtpMaxPacketBytes).length = min kRtpMaxPacketBytes p.wire.length :=
    List.length_take
  -- the parser sees the first 1452 octets and looks at no others
  have hparse : parseRtpHeader (p.wire.take kRtpMaxPacketBytes)
      (p.wire.take kRtpMaxPacketBytes).length
        = if kRtpMaxPacketBytes < p.front.length then .error .tooShort else .ok p.header := by
    have hcongr : (p.wire.take kRtpMaxPacketBytes).take (p.wire.take kRtpMaxPacketBytes).length
        = p.wire.take (p.wire.take kRtpMaxPacketBytes).length := by
      rw [List.take_length, hlen, List.take_eq_take_min]
    rw [parseRtpHeader_congr hcongr, p.parse, hlen]
    by_cases hcut : kRtpMaxPacketBytes < p.front.length
    · rw [if_pos hcut, if_pos (by omega)]
    · rw [if_neg hcut, if_neg (by omega)]
  rw [poll_ofDatagram hready mem hne, receive, if_neg (by rw [hlen]; omega), hparse]
  by_cases hcut : kRtpMaxPacketBytes < p.front.length
  · rw [if_pos hcut, if_pos hcut]
  · rw [if_neg hcut, if_neg hcut]
    have hdrop : (p.wire.take kRtpMaxPacketBytes).drop p.header.payloadOffset
        = (p.payload ++ p.paddingBytes).take (kRtpMaxPacketBytes - p.front.length) := by
      rw [List.drop_take, RtpPacket.wire, show p.header.payloadOffset = p.front.length from rfl,
        List.drop_left]
    dsimp only
    rw [hdrop]

/-- Polling a packet of at most 1452 octets dispatches its payload and its padding. -/
theorem poll_wire_of_le {r : RtpReceiver} (hready : r.ready = true) (mem : RtpPollMemory)
    {p : RtpPacket} (hlen : p.wire.length ≤ kRtpMaxPacketBytes) :
    (r.poll mem (Inbound.ofDatagram p.wire)).1 = true ∧
      (r.poll mem (Inbound.ofDatagram p.wire)).2.1
        = r.dispatch p.header (p.payload ++ p.paddingBytes) := by
  have hpoll := poll_wire hready mem p
  have hwire := p.length_wire
  rw [if_neg (by omega), List.take_of_length_le (by omega)] at hpoll
  exact ⟨congrArg Prod.fst hpoll, congrArg Prod.snd hpoll⟩

/-- What the ring holds after an L16 packet: padding counts as samples. -/
theorem contents_dispatch_l16 {r : RtpReceiver} {h : RtpHeader}
    (hl16 : r.treatsAsL16 h.payloadType = true) (payload : List UInt8) :
    (r.dispatch h payload).queue.contents = keepLast r.queue.cap (r.queue.contents ++
      swapPairs (wholeFrames ((r.l16Channels h.payloadType).toNat * 2) payload)) := by
  have hbpf : ((r.noteHeader h).l16Format h.payloadType).bytesPerFrame
      = (r.l16Channels h.payloadType).toNat * 2 := bytesPerFrame_l16Format _ _
  rw [dispatch, if_pos hl16, queueL16]
  simp only [hbpf]
  exact r.queue.contents_push _

/-- What the hold holds after a packet of another payload type: padding counts as payload. -/
theorem readEncoded_dispatch {r : RtpReceiver} {h : RtpHeader}
    (hl16 : ¬ r.treatsAsL16 h.payloadType = true) {payload : List UInt8}
    (hmax : payload.length ≤ kRtpMaxPayloadBytes) {maxBytes : ℕ} (hroom : payload.length ≤ maxBytes) :
    (((r.dispatch h payload).readEncoded true maxBytes).1,
      ((r.dispatch h payload).readEncoded true maxBytes).2.1) = (payload.length, payload) := by
  have hslice : (r.encoded.blit 0 payload).slice 0 payload.length = payload :=
    Buffer.slice_blit_same _ (by rwa [Nat.zero_add])
  have hfits : (true && decide (payload.length ≤ maxBytes)) = true := by simpa using hroom
  have hread := readEncoded_of_held (show ((r.noteHeader h).hold payload).encodedReady = true from rfl)
    true maxBytes
  rw [show ((r.noteHeader h).hold payload).encodedBytes = payload.length from rfl,
    if_pos hfits] at hread
  rw [dispatch, if_neg hl16, hread]
  exact Prod.ext rfl hslice

end Receive

end RtpReceiver

end PcmFlowUdp
