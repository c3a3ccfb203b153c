import PcmFlowUdp.Rtp.Reception

/-! # Encoded payloads that are cut off

`poll` reads at most 1452 octets of a datagram. The header may fill any part of them, up to all, and what is
left is dispatched as the payload; nothing in the receiver says whether that was all of it.

* **`poll_encoded`** — what `poll` and `readEncoded` make of an unpadded packet of an encoded payload type;
* **`rtp_encoded_whole`** — what is handed out is the whole payload, exactly if the packet fits or nothing
  of the payload does. -/

namespace PcmFlowUdp

open ByteTransport

namespace RtpReceiver

section Poll

variable [PCMFlow]

/-- If `poll` accepts the packet, whatever `readEncoded` then hands out is all of its payload. -/
def HandsOutWhole (r : RtpReceiver) (mem : RtpPollMemory) (p : RtpPacket) : Prop :=
  (r.poll mem (Inbound.ofDatagram p.wire)).1 = true →
    ∀ maxBytes, 0 < ((r.poll mem (Inbound.ofDatagram p.wire)).2.1.readEncoded true maxBytes).1 →
      (((r.poll mem (Inbound.ofDatagram p.wire)).2.1.readEncoded true maxBytes).1,
        ((r.poll mem (Inbound.ofDatagram p.wire)).2.1.readEncoded true maxBytes).2.1)
          = (p.payload.length, p.payload)

/-- What the hold holds after a packet, whatever room the caller has. -/
theorem readEncoded_dispatch_cases {r : RtpReceiver} {h : RtpHeader}
    (hl16 : ¬ r.treatsAsL16 h.payloadType = true) {payload : List UInt8}
    (hmax : payload.length ≤ kRtpMaxPayloadBytes) (maxBytes : ℕ) :
    (((r.dispatch h payload).readEncoded true maxBytes).1,
      ((r.dispatch h payload).readEncoded true maxBytes).2.1)
        = if payload.length ≤ maxBytes then (payload.length, payload) else (0, []) := by
  split
  · rename_i hroom
    exact readEncoded_dispatch hl16 hmax hroom
  · rename_i hroom
    have hheld : ((r.noteHeader h).hold payload).encodedReady = true := rfl
    have hread := readEncoded_of_held hheld true maxBytes
    have hbytes : ((r.noteHeader h).hold payload).encodedBytes = payload.length := rfl
    rw [hbytes, if_neg (by simpa using hroom)] at hread
    rw [dispatch, if_neg hl16, hread]

section Encoded

variable {r : RtpReceiver} (hready : r.ready = true) (mem : RtpPollMemory) {p : RtpPacket}
  (hpad : p.padding = none) (hl16 : ¬ r.treatsAsL16 p.payloadType = true)

include hready hpad hl16

/-- **What `poll` and `readEncoded` make of an encoded packet.** It is rejected if its header does not fit
the receive buffer, and otherwise what fits of its payload is handed out. -/
theorem poll_encoded :
    (r.poll mem (Inbound.ofDatagram p.wire)).1 = decide (p.front.length ≤ kRtpMaxPacketBytes) ∧
    (p.front.length ≤ kRtpMaxPacketBytes → ∀ maxBytes,
      (((r.poll mem (Inbound.ofDatagram p.wire)).2.1.readEncoded true maxBytes).1,
        ((r.poll mem (Inbound.ofDatagram p.wire)).2.1.readEncoded true maxBytes).2.1)
          = if (p.payload.take (kRtpMaxPacketBytes - p.front.length)).length ≤ maxBytes then
              ((p.payload.take (kRtpMaxPacketBytes - p.front.length)).length,
                p.payload.take (kRtpMaxPacketBytes - p.front.length))
            else (0, [])) := by
  have hpoll := poll_wire hready mem p
  rw [RtpPacket.paddingBytes_of_none hpad, List.append_nil] at hpoll
  -- a header longer than the buffer cannot be parsed, any other one is
  by_cases hcut : kRtpMaxPacketBytes < p.front.length
  · rw [if_pos hcut] at hpoll
    refine ⟨?_, fun hle => absurd hcut (Nat.not_lt.mpr hle)⟩
    rw [congrArg Prod.fst hpoll]
    exact (decide_eq_false (Nat.not_le.mpr hcut)).symm
  · rw [if_neg hcut] at hpoll
    refine ⟨?_, fun _ maxBytes => ?_⟩
    · rw [congrArg Prod.fst hpoll]
      exact (decide_eq_true (Nat.not_lt.mp hcut)).symm
    · -- the fixed part of the header leaves room for 1440 octets at most
      have hfront := p.length_front
      have hfixed : kRtpMaxPacketBytes = kRtpHeaderBytes + kRtpMaxPayloadBytes := rfl
      have hmax : (p.payload.take (kRtpMaxPacketBytes - p.front.length)).length
          ≤ kRtpMaxPayloadBytes := by
        rw [List.length_take]
        omega
      have hpt : ¬ r.treatsAsL16 p.header.payloadType = true := hl16
      have hstate : (r.poll mem (Inbound.ofDatagram p.wire)).2.1 = _ := congrArg Prod.snd hpoll
      rw [hstate]
      exact readEncoded_dispatch_cases hpt hmax maxBytes

/-- **Handing out the whole payload.** -/
theorem handsOutWhole_iff :
    r.HandsOutWhole mem p ↔
      p.wire.length ≤ kRtpMaxPacketBytes ∨ kRtpMaxPacketBytes ≤ p.front.length := by
  have hwire := p.length_wire
  rw [RtpPacket.paddingBytes_of_none hpad, List.append_nil] at hwire
  obtain ⟨hok, hread⟩ := poll_encoded hready mem hpad hl16
  rw [HandsOutWhole, hok, decide_eq_true_iff]
  constructor
  · intro hwhole
    by_contra hnot
    rw [not_or, Nat.not_le, Nat.not_le] at hnot
    -- a caller with room for the payload is handed what fits the receive buffer
    have hfits := hread (by omega) p.payload.length
    rw [if_pos (List.length_take_le' _ _)] at hfits
    have hlen : (p.payload.take (kRtpMaxPacketBytes - p.front.length)).length
        = kRtpMaxPacketBytes - p.front.length := by
      rw [List.length_take]
      omega
    have hall := hwhole (by omega) p.payload.length
      (by rw [congrArg Prod.fst hfits]; dsimp only; omega)
    rw [hfits] at hall
    have hcount := congrArg Prod.fst hall
    dsimp only at hcount
    omega
  · intro hcond hfront maxBytes hpos
    have hfits := hread hfront maxBytes
    rcases hcond with hfit | hfull
    · -- nothing was cut off
      rw [List.take_of_length_le (by omega)] at hfits
      split at hfits
      · exact hfits
      · rw [congrArg Prod.fst hfits] at hpos
        exact absurd hpos (Nat.lt_irrefl 0)
    · -- nothing is left of the payload
      have hnil : kRtpMaxPacketBytes - p.front.length = 0 := by omega
      rw [hnil, List.take_zero] at hfits
      have hzero : ((r.poll mem (Inbound.ofDatagram p.wire)).2.1.readEncoded true maxBytes).1 = 0 := by
        rw [congrArg Prod.fst hfits]
        split <;> rfl
      rw [hzero] at hpos
      exact absurd hpos (Nat.lt_irrefl 0)

end Encoded

/-- **Whole payloads.** For every well-formed, unpadded RTP packet of a payload type that the receiver does
not take for L16, of any length: whatever `readEncoded` hands out after `poll` accepted it is its entire
payload, if and only if the receiver is not ready, the packet has at most 1452 octets, or its header alone
has that many. -/
theorem rtp_encoded_whole (r : RtpReceiver) (mem : RtpPollMemory) {p : RtpPacket}
    (hpad : p.padding = none) (hl16 : ¬ r.treatsAsL16 p.payloadType = true) :
    r.HandsOutWhole mem p ↔
      (r.ready = true → p.wire.length ≤ kRtpMaxPacketBytes ∨ kRtpMaxPacketBytes ≤ p.front.length) := by
  by_cases hready : r.ready = true
  · rw [handsOutWhole_iff hready mem hpad hl16]
    exact ⟨fun h _ => h, fun h => h hready⟩
  · have hpoll : (r.poll mem (Inbound.ofDatagram p.wire)).1 = false := by simp [poll, hready]
    rw [HandsOutWhole, hpoll]
    exact ⟨fun _ h => absurd h hready, fun _ h => absurd h (by decide)⟩

end Poll

/-- A packet of two octets is handed out whole. -/
theorem rtp_encoded_whole_short :
    @HandsOutWhole PCMFlow.documented (begin {} 1).2 {} (RtpPacket.plain 0 (by decide) [0xAA, 0xBB]) :=
  (@rtp_encoded_whole PCMFlow.documented (begin {} 1).2 {} (RtpPacket.plain 0 (by decide) [0xAA, 0xBB])
    rfl (by decide)).mpr fun _ => .inl (by decide)

/-- The payload type of PCMU has seven bits. -/
theorem pcmu_le : (0 : UInt8) ≤ 0x7F := UInt8.zero_le

/-- A PCMU packet whose payload is one octet longer than the cap. -/
def oversizePacket : RtpPacket := RtpPacket.plain 0 pcmu_le (List.replicate 1441 0x55)

/-- **A cut payload is handed out.** `poll` accepts `oversizePacket`, and `readEncoded` returns 1440 of its
1441 octets. -/
theorem oversizePacket_cut :
    oversizePacket.padding = none ∧
      (begin {} 1).2.treatsAsL16 oversizePacket.payloadType = false ∧
      oversizePacket.payload.length = 1441 ∧
      (@poll PCMFlow.documented (begin {} 1).2 {} (Inbound.ofDatagram oversizePacket.wire)).1 = true ∧
      ((@poll PCMFlow.documented (begin {} 1).2 {}
        (Inbound.ofDatagram oversizePacket.wire)).2.1.readEncoded true 2000).1 = 1440 ∧
      ¬ @HandsOutWhole PCMFlow.documented (begin {} 1).2 {} oversizePacket := by
  have hready : (begin {} 1).2.ready = true := rfl
  have hl16 : ¬ (begin {} 1).2.treatsAsL16 oversizePacket.payloadType = true := by decide
  have hfront : oversizePacket.front.length = 12 := rfl
  have hpayload : oversizePacket.payload.length = 1441 := List.length_replicate
  have hmax : kRtpMaxPacketBytes = 1452 := rfl
  have htake : (oversizePacket.payload.take (kRtpMaxPacketBytes - oversizePacket.front.length)).length
      = 1440 := by
    rw [List.length_take, hpayload]
    rfl
  obtain ⟨hok, hread⟩ := @poll_encoded PCMFlow.documented (begin {} 1).2 hready {} oversizePacket rfl hl16
  have haccepted : (@poll PCMFlow.documented (begin {} 1).2 {}
      (Inbound.ofDatagram oversizePacket.wire)).1 = true := by
    rw [hok, hfront]
    rfl
  have hcut := hread (by omega) 2000
  rw [htake, if_pos (by decide)] at hcut
  have hcount := congrArg Prod.fst hcut
  dsimp only at hcount
  refine ⟨rfl, by decide, hpayload, haccepted, hcount, fun hwhole => ?_⟩
  have hall := congrArg Prod.fst (hwhole haccepted 2000 (by omega))
  dsimp only at hall
  omega

end RtpReceiver

end PcmFlowUdp
