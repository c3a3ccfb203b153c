import PcmFlowUdp.Rtp.Reception

/-! # Payload delimitation on receive

The parser finds where the payload of an RTP packet begins (`RtpPacket.parse`), but `poll` takes
everything behind that point for payload, padding included (`RtpReceiver.poll_wire`).

* **`rtp_payload_delimitation`** — so the payload is delivered exactly when there is no padding, or, for
  L16, when the padding does not complete another frame. -/

namespace PcmFlowUdp

open ByteTransport

namespace RtpReceiver

section Poll

variable [PCMFlow]

/-- `poll` accepts the packet and delivers exactly its payload: on the encoded path `readEncoded` returns
those bytes, whatever room it is given beyond theirs; on the L16 path their whole frames enter the ring,
byte-swapped. -/
def DeliversPayload (r : RtpReceiver) (mem : RtpPollMemory) (p : RtpPacket) : Prop :=
  (r.poll mem (Inbound.ofDatagram p.wire)).1 = true ∧
    if r.treatsAsL16 p.payloadType then
      (r.poll mem (Inbound.ofDatagram p.wire)).2.1.queue.contents
        = keepLast r.queue.cap (r.queue.contents ++
            swapPairs (wholeFrames ((r.l16Channels p.payloadType).toNat * 2) p.payload))
    else
      ∀ maxBytes, p.payload.length ≤ maxBytes →
        (((r.poll mem (Inbound.ofDatagram p.wire)).2.1.readEncoded true maxBytes).1,
          ((r.poll mem (Inbound.ofDatagram p.wire)).2.1.readEncoded true maxBytes).2.1)
            = (p.payload.length, p.payload)

section Delimitation

variable {r : RtpReceiver} (hready : r.ready = true) (mem : RtpPollMemory) {p : RtpPacket}
  (hlen : p.wire.length ≤ kRtpMaxPacketBytes)

include hready hlen

/-- Harmless padding is not delivered, whatever the ring holds. -/
theorem deliversPayload_of_paddingHarmless (h : r.PaddingHarmless p) : r.DeliversPayload mem p := by
  obtain ⟨hok, hrecv⟩ := poll_wire_of_le hready mem hlen
  have hmax := p.length_payload_le hlen
  rw [PaddingHarmless] at h
  rw [DeliversPayload, hrecv]
  refine ⟨hok, ?_⟩
  by_cases hl16 : r.treatsAsL16 p.payloadType = true
  · rw [if_pos hl16] at h ⊢
    rw [contents_dispatch_l16 hl16]
    exact congrArg (fun x => keepLast _ (_ ++ swapPairs x)) (wholeFrames_append h)
  · rw [if_neg hl16] at h ⊢
    rw [h, List.append_nil] at hmax ⊢
    exact fun maxBytes hroom => readEncoded_dispatch hl16 hmax hroom

/-- Any other padding is delivered: given room, in the ring or in the caller's buffer, it shows. -/
theorem paddingHarmless_of_deliversPayload
    (hroom : r.queue.count + (p.payload ++ p.paddingBytes).length ≤ r.queue.cap)
    (h : r.DeliversPayload mem p) : r.PaddingHarmless p := by
  obtain ⟨-, hrecv⟩ := poll_wire_of_le hready mem hlen
  have hpt : p.header.payloadType = p.payloadType := rfl
  have hmax := p.length_payload_le hlen
  rw [DeliversPayload, hrecv] at h
  obtain ⟨-, hdelivered⟩ := h
  rw [PaddingHarmless]
  by_cases hl16 : r.treatsAsL16 p.payloadType = true
  · rw [if_pos hl16] at hdelivered ⊢
    rw [contents_dispatch_l16 hl16, hpt] at hdelivered
    set bytesPerFrame := (r.l16Channels p.payloadType).toNat * 2
    -- the ring drops nothing, so what was pushed has the length of the payload's whole frames
    have hkeep : ∀ payload : List UInt8, payload.length ≤ (p.payload ++ p.paddingBytes).length →
        keepLast r.queue.cap (r.queue.contents ++ swapPairs (wholeFrames bytesPerFrame payload))
          = r.queue.contents ++ swapPairs (wholeFrames bytesPerFrame payload) := by
      intro payload hle
      have hdiv := Nat.div_mul_le_self payload.length bytesPerFrame
      apply keepLast_of_le
      rw [List.length_append, RingBuffer.length_contents, length_swapPairs, length_wholeFrames]
      omega
    have hlength := congrArg List.length hdelivered
    rw [hkeep _ le_rfl, hkeep p.payload (by rw [List.length_append]; omega), List.length_append,
      List.length_append, length_swapPairs, length_swapPairs, length_wholeFrames,
      length_wholeFrames] at hlength
    rcases Nat.eq_zero_or_pos bytesPerFrame with hzero | hpos
    · rw [hzero, Nat.div_zero, Nat.div_zero]
    · exact Nat.eq_of_mul_eq_mul_right hpos (Nat.add_left_cancel hlength)
  · rw [if_neg hl16] at hdelivered ⊢
    have hall := hdelivered (p.payload ++ p.paddingBytes).length
      (by rw [List.length_append]; exact Nat.le_add_right _ _)
    rw [readEncoded_dispatch hl16 hmax le_rfl] at hall
    exact List.append_right_eq_self.mp (congrArg Prod.snd hall)

end Delimitation

/-- **Payload delimitation.** For every well-formed RTP packet of at most 1452 octets, with any CSRC
list, header extension and padding: `poll` delivers exactly its payload, on every ready receiver with the
given declaration of a dynamic L16 payload type, if and only if the packet has no padding or is an L16
packet whose padding does not complete another frame. -/
theorem rtp_payload_delimitation (r : RtpReceiver) {p : RtpPacket}
    (hlen : p.wire.length ≤ kRtpMaxPacketBytes) :
    (∀ (r' : RtpReceiver) (mem : RtpPollMemory), r'.ready = true →
        r'.dynamicL16Pt = r.dynamicL16Pt → r'.dynamicL16Channels = r.dynamicL16Channels →
        r'.DeliversPayload mem p) ↔ r.PaddingHarmless p := by
  have hsame : ∀ r' : RtpReceiver, r'.dynamicL16Pt = r.dynamicL16Pt →
      r'.dynamicL16Channels = r.dynamicL16Channels →
      (r'.PaddingHarmless p ↔ r.PaddingHarmless p) := by
    intro r' hpt hchannels
    have hl16 : r'.treatsAsL16 p.payloadType = r.treatsAsL16 p.payloadType := by
      rw [treatsAsL16, treatsAsL16, hpt, hchannels]
    have hcount : r'.l16Channels p.payloadType = r.l16Channels p.payloadType := by
      rw [l16Channels, l16Channels, hpt, hchannels]
    rw [PaddingHarmless, PaddingHarmless, hl16, hcount]
  constructor
  · -- the internal ring of a fresh receiver has room for any payload
    intro h
    set fresh : RtpReceiver :=
      { ready := true, dynamicL16Pt := r.dynamicL16Pt, dynamicL16Channels := r.dynamicL16Channels }
    have hroom : fresh.queue.count + (p.payload ++ p.paddingBytes).length ≤ fresh.queue.cap := by
      have hmax := p.length_payload_le hlen
      have hcount : fresh.queue.count = 0 := rfl
      have hcap : fresh.queue.cap = kRtpQueueBytes := RingBuffer.cap_empty kRtpQueueBytes (by decide) 0
      rw [hcount, hcap, Nat.zero_add]
      exact hmax.trans (by decide)
    exact (hsame fresh rfl rfl).mp
      (paddingHarmless_of_deliversPayload rfl {} hlen hroom (h fresh {} rfl rfl rfl))
  · intro h r' mem hready hpt hchannels
    exact deliversPayload_of_paddingHarmless hready mem hlen ((hsame r' hpt hchannels).mpr h)

end Poll

/-- A PCMU packet of two payload octets with a CSRC, an extension and four octets of padding. -/
def paddedPacket : RtpPacket where
  marker := false
  payloadType := 0
  payloadType_le := by decide
  sequenceNumber := 1
  timestamp := 160
  ssrc := 7
  csrcs := [8]
  csrcs_le := by decide
  extension := some ⟨0xBEDE, [9], by decide⟩
  payload := [0xAA, 0xBB]
  padding := some ⟨[0, 0, 0], by decide⟩

/-- The padding of `paddedPacket` is read as payload. -/
theorem paddedPacket_not_delivered :
    paddedPacket.wire.length ≤ kRtpMaxPacketBytes ∧
      ((@poll PCMFlow.documented (begin {} 1).2 {}
        (Inbound.ofDatagram paddedPacket.wire)).2.1.readEncoded true 160).2.1
          = [0xAA, 0xBB, 0, 0, 0, 4] ∧
      ¬ @DeliversPayload PCMFlow.documented (begin {} 1).2 {} paddedPacket := by
  have hread : ((@poll PCMFlow.documented (begin {} 1).2 {}
      (Inbound.ofDatagram paddedPacket.wire)).2.1.readEncoded true 160).2.1
        = [0xAA, 0xBB, 0, 0, 0, 4] := by
    decide +kernel
  refine ⟨by decide, hread, fun h => ?_⟩
  have hpay := congrArg Prod.snd (h.2 160 (by decide))
  dsimp only at hpay
  rw [hread] at hpay
  exact absurd hpay (by decide)

/-- The same packet without its padding is delivered. -/
theorem rtp_payload_delimitation_unpadded :
    (∀ (r' : RtpReceiver) (mem : RtpPollMemory), r'.ready = true → r'.dynamicL16Pt = 0xFF →
        r'.dynamicL16Channels = 0 →
        @DeliversPayload PCMFlow.documented r' mem { paddedPacket with padding := none }) ↔
      RtpReceiver.PaddingHarmless {} { paddedPacket with padding := none } :=
  @rtp_payload_delimitation PCMFlow.documented {} { paddedPacket with padding := none } (by decide)

end RtpReceiver

end PcmFlowUdp
