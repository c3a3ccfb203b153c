import Mathlib.Tactic.Ring
import PcmFlowUdp.ByteTransport.Runs
import PcmFlowUdp.FrameWriting
import PcmFlowUdp.Rtp.Sender

/-! # What the calls of `RtpSender` do

Both emission paths end in the same update of the sender (`RtpSender.attempt`): one packet is offered
to the UDP object, and the header counters move on only if that succeeded. `emitL16Packet_eq` and
`writeEncoded_eq` reduce the two paths to it; the in-place conversion loop becomes `swapPairs`.

What the packets depend on is the UDP object and the next header (`RtpOutlet`); `Emits` says which L16
packets left between two states.

* **`writeFrames_spec`, `flush_spec`** — what is sent and what stays pending is what was pending and
  what was accepted, in order;
* **`wf_step`** — every call completes and keeps the invariant `RtpSender.WF` of the member
  variables. -/

namespace PcmFlowUdp

open ByteTransport PcmFrame

/-! ## The conversion loop -/

/-- Two adjoining bytes of a buffer. -/
theorem slice_two {n : ℕ} (b : Buffer UInt8 n) {off : ℕ} (h : off + 2 ≤ n) :
    b.slice off 2 = [byteAt b.cells off, byteAt b.cells (off + 1)] := by
  have hsize := b.size
  have h0 : off < b.cells.length := by omega
  have h1 : off + 1 < b.cells.length := by omega
  rw [Buffer.slice, List.drop_eq_getElem_cons h0, List.drop_eq_getElem_cons h1, byteAt, byteAt,
    List.getD_eq_getElem?_getD, List.getD_eq_getElem?_getD, List.getElem?_eq_getElem h0,
    List.getElem?_eq_getElem h1]
  rfl

/-- Converting one sample exchanges its two bytes. -/
theorem sampleToNetwork_eq {n : ℕ} (p : Buffer UInt8 n) (off : ℕ) :
    sampleToNetwork p off = p.blit off [byteAt p.cells (off + 1), byteAt p.cells off] := by
  have hcast : ∀ v : UInt16, v.toInt16.toUInt16 = v := fun _ => rfl
  -- going through `int16_t` and back changes nothing
  rw [sampleToNetwork]
  simp only [hcast, hi16_word16, lo16_word16]

/-- After `k` iterations the first `k` samples of the payload area are converted and the bytes behind
them are as before. -/
theorem payloadToNetwork_spec {n : ℕ} (p : Buffer UInt8 n) (k : ℕ)
    (h : kRtpHeaderBytes + 2 * k ≤ n) :
    (payloadToNetwork p k).slice kRtpHeaderBytes (2 * k)
        = swapPairs (p.slice kRtpHeaderBytes (2 * k)) ∧
      ∀ o l, kRtpHeaderBytes + 2 * k ≤ o → (payloadToNetwork p k).slice o l = p.slice o l := by
  induction k with
  | zero => exact ⟨by simp [swapPairs], fun _ _ _ => rfl⟩
  | succ k ih =>
    rw [Nat.mul_succ] at h ⊢
    obtain ⟨hdone, hrest⟩ := ih (by omega)
    have hstep : payloadToNetwork p (k + 1)
        = sampleToNetwork (payloadToNetwork p k) (kRtpHeaderBytes + 2 * k) := by
      rw [payloadToNetwork, List.range_succ, List.foldl_append]
      rfl
    have hpair := hrest (kRtpHeaderBytes + 2 * k) 2 le_rfl
    rw [slice_two _ (by omega), slice_two _ (by omega)] at hpair
    have hfst := (List.cons.inj hpair).1
    have hsnd := (List.cons.inj (List.cons.inj hpair).2).1
    rw [hstep, sampleToNetwork_eq, hfst, hsnd]
    constructor
    · have hext := Buffer.slice_blit_extend (payloadToNetwork p k)
        (show kRtpHeaderBytes + 2 * k + [byteAt p.cells (kRtpHeaderBytes + 2 * k + 1),
          byteAt p.cells (kRtpHeaderBytes + 2 * k)].length ≤ n from h)
      have heven : 2 ∣ (p.slice kRtpHeaderBytes (2 * k)).length := by
        rw [Buffer.length_slice _ (by omega)]
        exact Nat.dvd_mul_right _ _
      refine hext.trans ?_
      rw [hdone, Buffer.slice_append, swapPairs_append heven, slice_two _ (by omega)]
      rfl
    · intro o l ho
      rw [Buffer.slice_blit_after _ _ (by simp only [List.length_cons, List.length_nil]; omega)]
      exact hrest o l (by omega)

namespace RtpSender

/-! ## One send attempt -/

/-- The state after offering a packet with the next header and the given payload; `advance` is what a
successful send adds to the timestamp. -/
def attempt (s : RtpSender) (payload : List UInt8) (advance : UInt32)
    (packet : Buffer UInt8 kRtpMaxPacketBytes) (pendingFrames : ℕ) : RtpSender :=
  { s with
    udp := (s.udp.transmit (rtpHeaderBytes s.nextHeader ++ payload)).2
    sequenceNumber := if s.udp.next.ok then s.sequenceNumber + 1 else s.sequenceNumber
    timestamp := if s.udp.next.ok then s.timestamp + advance else s.timestamp
    armMarker := if s.udp.next.ok then false else s.armMarker
    error := if s.udp.next.ok then s.error else .sendFailed
    packet
    pendingFrames }

/-- A scratch whose header is written and whose payload area holds `payload` is the packet. -/
theorem slice_encoded {s : RtpSender} (packet : Buffer UInt8 kRtpMaxPacketBytes)
    {payload : List UInt8}
    (h : (packet.blit 0 (rtpHeaderBytes s.nextHeader)).slice kRtpHeaderBytes payload.length
      = payload) :
    (packet.blit 0 (rtpHeaderBytes s.nextHeader)).slice 0 (kRtpHeaderBytes + payload.length)
      = rtpHeaderBytes s.nextHeader ++ payload := by
  have hhead : (packet.blit 0 (rtpHeaderBytes s.nextHeader)).slice 0 kRtpHeaderBytes
      = rtpHeaderBytes s.nextHeader :=
    Buffer.slice_blit_same packet (by rw [length_rtpHeaderBytes]; decide)
  rw [Buffer.slice_append, hhead, Nat.zero_add, h]

/-- `sendPacket` advances the header if the send succeeds, and reports it if not. -/
theorem sendPacket_eq (s : RtpSender) (totalBytes : ℕ) :
    s.sendPacket totalBytes = (s.udp.next.ok,
      { s with
        udp := (s.udp.transmit (s.packet.slice 0 totalBytes)).2
        error := if s.udp.next.ok then s.error else .sendFailed }) := by
  rw [sendPacket]
  cases h : s.udp.next.ok <;> simp only [Udp.transmit, h] <;> rfl

/-- The packet that `writeEncoded` offers: the caller's bytes overwrite what the scratch holds behind the
header. -/
def encodedPacket (s : RtpSender) (bytes : List UInt8) (count : ℕ) : List UInt8 :=
  ((encodeRtpHeader s.nextHeader s.packet).2.blit kRtpHeaderBytes (readMem bytes 0 count)).slice 0
    (kRtpHeaderBytes + count)

/-- Header and payload fit the scratch. -/
theorem length_encodedPacket (s : RtpSender) (bytes : List UInt8) {count : ℕ}
    (hmax : count ≤ kRtpMaxPayloadBytes) : (s.encodedPacket bytes count).length = kRtpHeaderBytes + count := by
  refine Buffer.length_slice _ ?_
  rw [Nat.zero_add]
  exact Nat.add_le_add_left hmax 12

/-- The encoder takes a 7-bit payload type. -/
theorem encodeRtpHeader_nextHeader {s : RtpSender} (hpt : s.payloadType ≤ 0x7F) :
    encodeRtpHeader s.nextHeader s.packet = (true, s.packet.blit 0 (rtpHeaderBytes s.nextHeader)) :=
  if_neg (UInt8.not_lt.mpr hpt)

/-- It is the next header and the caller's bytes. -/
theorem encodedPacket_eq {s : RtpSender} (hpt : s.payloadType ≤ 0x7F) (bytes : List UInt8) {count : ℕ}
    (hmax : count ≤ kRtpMaxPayloadBytes) :
    s.encodedPacket bytes count = rtpHeaderBytes s.nextHeader ++ readMem bytes 0 count := by
  have hcopy : 0 + (rtpHeaderBytes s.nextHeader ++ readMem bytes 0 count).length ≤ kRtpMaxPacketBytes := by
    rw [Nat.zero_add, List.length_append, length_rtpHeaderBytes, length_readMem]
    exact Nat.add_le_add_left hmax 12
  -- header and payload are copied side by side
  have hsame := Buffer.slice_blit_same s.packet hcopy
  rw [← Buffer.blit_append, List.length_append, length_readMem] at hsame
  rw [encodedPacket, encodeRtpHeader_nextHeader hpt]
  exact hsame

/-- **The encoded path.** The packet carries exactly the caller's bytes. -/
theorem writeEncoded_eq {s : RtpSender} (hready : s.ready = true) (hpt : s.payloadType ≤ 0x7F)
    (bytes : List UInt8) {count : ℕ} (hpos : 0 < count) (hmax : count ≤ kRtpMaxPayloadBytes) :
    s.writeEncoded (some bytes) count = (s.udp.next.ok,
      s.attempt (readMem bytes 0 count) s.tsIncrement
        ((s.packet.blit 0 (rtpHeaderBytes s.nextHeader)).blit kRtpHeaderBytes
          (readMem bytes 0 count)) s.pendingFrames) := by
  -- a 7-bit payload type counts as set
  have hset : ¬ (s.payloadType == 0xFF) = true := by
    intro h
    rw [beq_iff_eq.mp h] at hpt
    exact absurd hpt (by decide)
  have hslice := encodedPacket_eq hpt bytes hmax
  rw [encodedPacket, encodeRtpHeader_nextHeader hpt] at hslice
  rw [writeEncoded, if_neg (by rw [hready]; decide), if_neg hset]
  simp only [if_neg (show ¬ (count = 0 ∨ kRtpMaxPayloadBytes < count) by omega),
    encodeRtpHeader_nextHeader hpt, sendPacket_eq, hslice, attempt]
  cases s.udp.next.ok <;> rfl

/-! ## The L16 path -/

/-- The sender is set up for L16 with `c` channels: what `setFormat` establishes. -/
structure L16Mode (c : ℕ) (s : RtpSender) : Prop where
  isL16 : s.isL16 = true
  payloadType_le : s.payloadType ≤ 0x7F
  bitsPerSample : s.format.bitsPerSample = 16
  channels : s.format.channels.toNat = c
  channels_pos : 0 < c
  samplesPerPacket_pos : 0 < s.samplesPerPacket.toNat
  /-- A full packet respects the payload cap. -/
  fits : s.samplesPerPacket.toNat * (c * 2) ≤ kRtpMaxPayloadBytes

namespace L16Mode

variable {c : ℕ} {s : RtpSender}

/-- The packet size is set. -/
theorem samplesPerPacket_ne_zero (h : L16Mode c s) : s.samplesPerPacket ≠ 0 := by
  intro hzero
  have hpos := h.samplesPerPacket_pos
  rw [hzero] at hpos
  exact absurd hpos (by decide)

/-- A frame takes two bytes a channel. -/
theorem bytesPerFrame [PCMFlow] (h : L16Mode c s) : s.format.bytesPerFrame = c * 2 := by
  rw [PCMFormat.bytesPerFrame_pcm16 h.bitsPerSample, h.channels]

/-- Any number of frames up to a full packet fits the scratch. -/
theorem room (h : L16Mode c s) {k : ℕ} (hk : k ≤ s.samplesPerPacket.toNat) :
    kRtpHeaderBytes + k * (c * 2) ≤ kRtpMaxPacketBytes :=
  Nat.add_le_add_left ((Nat.mul_le_mul_right _ hk).trans h.fits) _

/-- The pending frames lie in the scratch. -/
theorem length_pendingBytes (h : L16Mode c s) (hle : s.pendingFrames ≤ s.samplesPerPacket.toNat) :
    (scratch.pendingBytes c s).length = s.pendingFrames * (c * 2) :=
  Buffer.length_slice _ (h.room hle)

end L16Mode

/-- **The L16 path.** The packet carries exactly the pending frames, in network byte order, and
nothing is pending afterwards whether or not the send succeeded. -/
theorem emitL16Packet_eq {c : ℕ} {s : RtpSender} (h : L16Mode c s) (hpos : 0 < s.pendingFrames)
    (hle : s.pendingFrames ≤ s.samplesPerPacket.toNat) :
    ∃ packet, s.emitL16Packet
      = s.attempt (swapPairs (scratch.pendingBytes c s)) (UInt32.ofNat s.pendingFrames) packet 0 := by
  set total := s.pendingFrames * s.format.channels.toNat with htotal
  have hbytes : 2 * total = s.pendingFrames * (c * 2) := by
    rw [htotal, h.channels]
    ring
  have hroom := h.room hle
  obtain ⟨hconv, -⟩ := payloadToNetwork_spec s.packet total (by rw [hbytes]; exact hroom)
  rw [hbytes] at hconv
  have henc : encodeRtpHeader s.nextHeader (payloadToNetwork s.packet total)
      = (true, (payloadToNetwork s.packet total).blit 0 (rtpHeaderBytes s.nextHeader)) :=
    if_neg (UInt8.not_lt.mpr h.payloadType_le)
  -- the header is written in front of the converted payload
  have hlen : (swapPairs (scratch.pendingBytes c s)).length = s.pendingFrames * (c * 2) := by
    rw [length_swapPairs, h.length_pendingBytes hle]
  have hpay : ((payloadToNetwork s.packet total).blit 0 (rtpHeaderBytes s.nextHeader)).slice
      kRtpHeaderBytes (swapPairs (scratch.pendingBytes c s)).length
        = swapPairs (scratch.pendingBytes c s) := by
    rw [hlen, Buffer.slice_blit_after _ _ (show 0 + 12 ≤ kRtpHeaderBytes from le_rfl), hconv]
    rfl
  have hslice := slice_encoded (payloadToNetwork s.packet total) hpay
  rw [hlen] at hslice
  refine ⟨(payloadToNetwork s.packet total).blit 0 (rtpHeaderBytes s.nextHeader), ?_⟩
  have htwo : total * 2 = s.pendingFrames * (c * 2) := by rw [← hbytes, Nat.mul_comm]
  rw [emitL16Packet, if_neg hpos.ne']
  simp only [← htotal, henc, htwo, sendPacket_eq, hslice, RtpSender.attempt]
  cases s.udp.next.ok <;> rfl

/-- An emission keeps the configuration and leaves nothing pending. -/
theorem emitL16Packet_config (s : RtpSender) :
    s.emitL16Packet.isL16 = s.isL16 ∧ s.emitL16Packet.payloadType = s.payloadType ∧
      s.emitL16Packet.format = s.format ∧
      s.emitL16Packet.samplesPerPacket = s.samplesPerPacket ∧ s.emitL16Packet.pendingFrames = 0 := by
  unfold emitL16Packet
  split
  · exact ⟨rfl, rfl, rfl, rfl, ‹_›⟩
  · simp only [sendPacket_eq]
    cases s.udp.next.ok <;> simp

/-- An emission leaves the mode. -/
theorem L16Mode.emit {c : ℕ} {s : RtpSender} (h : L16Mode c s) : L16Mode c s.emitL16Packet := by
  obtain ⟨h1, h2, h3, h4, -⟩ := s.emitL16Packet_config
  constructor
  · rw [h1]; exact h.isL16
  · rw [h2]; exact h.payloadType_le
  · rw [h3]; exact h.bitsPerSample
  · rw [h3]; exact h.channels
  · exact h.channels_pos
  · rw [h4]; exact h.samplesPerPacket_pos
  · rw [h4]; exact h.fits

end RtpSender

/-! ## What leaves the sender -/

/-- The header of the packet after one that was sent; `inc` is what that packet adds to the
timestamp. -/
def RtpHeader.advance (h : RtpHeader) (inc : UInt32) : RtpHeader :=
  { h with
    marker := false
    sequenceNumber := h.sequenceNumber + 1
    timestamp := h.timestamp + inc }

/-- What the packets of a sender depend on: the UDP object and the next header. -/
structure RtpOutlet where
  udp : Udp
  header : RtpHeader

namespace RtpOutlet

/-- Offer one packet. The header moves on only if the send succeeds. -/
def send (o : RtpOutlet) (payload : List UInt8) (advance : UInt32) : RtpOutlet where
  udp := (o.udp.transmit (rtpHeaderBytes o.header ++ payload)).2
  header := if o.udp.next.ok then o.header.advance advance else o.header

/-- A send that succeeds advances the header. -/
theorem send_of_ok {o : RtpOutlet} (hok : o.udp.next.ok = true) (payload : List UInt8)
    (advance : UInt32) : o.send payload advance
      = ⟨(o.udp.transmit (rtpHeaderBytes o.header ++ payload)).2, o.header.advance advance⟩ := by
  rw [send, if_pos hok]

/-- Offer L16 packets with the given frames, one after the other. -/
def sendAll {c : ℕ} (o : RtpOutlet) (packets : List (List (PcmFrame c))) : RtpOutlet :=
  packets.foldl (fun o frames => o.send (netImage frames) (UInt32.ofNat frames.length)) o

/-- Packets are sent one after the other. -/
theorem sendAll_append {c : ℕ} (o : RtpOutlet) (ps qs : List (List (PcmFrame c))) :
    o.sendAll (ps ++ qs) = (o.sendAll ps).sendAll qs := List.foldl_append

end RtpOutlet

namespace RtpSender

/-- The outlet of a sender. -/
def outlet (s : RtpSender) : RtpOutlet := ⟨s.udp, s.nextHeader⟩

/-- An attempt is a send at the outlet. -/
@[simp] theorem outlet_attempt (s : RtpSender) (payload : List UInt8) (advance : UInt32)
    (packet : Buffer UInt8 kRtpMaxPacketBytes) (pendingFrames : ℕ) :
    (s.attempt payload advance packet pendingFrames).outlet = s.outlet.send payload advance := by
  -- both move on together, or not at all
  by_cases hok : s.udp.next.ok = true
  · simp only [outlet, attempt, RtpOutlet.send, RtpHeader.advance, nextHeader, hok, if_true]
  · simp only [outlet, attempt, RtpOutlet.send, nextHeader, Bool.not_eq_true _ ▸ hok,
      Bool.false_eq_true, if_false]

/-- The members that only the setters change. -/
structure SameSetup (s s' : RtpSender) : Prop where
  format : s'.format = s.format
  payloadType : s'.payloadType = s.payloadType
  samplesPerPacket : s'.samplesPerPacket = s.samplesPerPacket
  isL16 : s'.isL16 = s.isL16
  tsIncrement : s'.tsIncrement = s.tsIncrement
  ready : s'.ready = s.ready

/-- The setup stays the same from call to call. -/
theorem SameSetup.trans {s t u : RtpSender} (h : SameSetup s t) (k : SameSetup t u) :
    SameSetup s u :=
  ⟨k.1.trans h.1, k.2.trans h.2, k.3.trans h.3, k.4.trans h.4, k.5.trans h.5, k.6.trans h.6⟩

/-- It decides about the mode. -/
theorem SameSetup.l16Mode {c : ℕ} {s s' : RtpSender} (h : SameSetup s s') (hs : L16Mode c s) :
    L16Mode c s' := by
  constructor
  · rw [h.isL16]; exact hs.isL16
  · rw [h.payloadType]; exact hs.payloadType_le
  · rw [h.format]; exact hs.bitsPerSample
  · rw [h.format]; exact hs.channels
  · exact hs.channels_pos
  · rw [h.samplesPerPacket]; exact hs.samplesPerPacket_pos
  · rw [h.samplesPerPacket]; exact hs.fits

/-- From `s` to `s'` the sender emitted L16 packets with the frames of `packets`, in that order, and
sent nothing else. -/
structure Emits {c : ℕ} (s : RtpSender) (packets : List (List (PcmFrame c))) (s' : RtpSender) :
    Prop where
  setup : SameSetup s s'
  outlet : s'.outlet = s.outlet.sendAll packets
  sizes : ∀ frames ∈ packets, frames ≠ [] ∧ frames.length ≤ s.samplesPerPacket.toNat

/-- Nothing is emitted when nothing is done. -/
theorem Emits.refl {c : ℕ} (s : RtpSender) : Emits s ([] : List (List (PcmFrame c))) s where
  setup := ⟨rfl, rfl, rfl, rfl, rfl, rfl⟩
  outlet := rfl
  sizes := by simp

/-- What is emitted adds up. -/
theorem Emits.trans {c : ℕ} {s t u : RtpSender} {ps qs : List (List (PcmFrame c))}
    (h : Emits s ps t) (k : Emits t qs u) : Emits s (ps ++ qs) u where
  setup := h.setup.trans k.setup
  outlet := by rw [k.outlet, h.outlet, RtpOutlet.sendAll_append]
  sizes := by
    intro frames hmem
    rcases List.mem_append.mp hmem with hp | hq
    · exact h.sizes frames hp
    · rw [← h.setup.samplesPerPacket]
      exact k.sizes frames hq

/-- Emitting sends the pending frames. -/
theorem emitL16Packet_emits {c : ℕ} {s : RtpSender} (h : L16Mode c s) (hpos : 0 < s.pendingFrames)
    (hle : s.pendingFrames ≤ s.samplesPerPacket.toNat) :
    Emits s [scratch.pending c s] s.emitL16Packet := by
  have hroom : scratch.headerBytes + scratch.pendingFrames s * (c * 2) ≤ scratch.maxBytes :=
    h.room hle
  have hlen : (scratch.pending c s).length = s.pendingFrames :=
    PacketScratch.length_pending hroom h.channels_pos
  obtain ⟨packet, heq⟩ := emitL16Packet_eq h hpos hle
  refine ⟨?_, ?_, ?_⟩
  · rw [heq]
    exact ⟨rfl, rfl, rfl, rfl, rfl, rfl⟩
  · rw [heq, outlet_attempt, ← PacketScratch.hostImage_pending hroom h.channels_pos,
      swapPairs_hostImage, ← hlen]
    rfl
  · intro frames hmem
    obtain rfl := List.mem_singleton.mp hmem
    refine ⟨fun hnil => ?_, by rw [hlen]; exact hle⟩
    rw [hnil, List.length_nil] at hlen
    omega

/-- `writeFrames` packs frames into the scratch the way `PacketScratch` describes. -/
theorem scratch_lawful {c : ℕ} (hc : 0 < c) : scratch.Lawful c (L16Mode c) Emits where
  channels_pos := hc
  packet_store _ _ _ := rfl
  pendingFrames_store _ _ _ := rfl
  samplesPerPacket_store _ _ _ := rfl
  store_store _ _ _ _ _ := rfl
  ok_store _ _ _ h := { h with }
  samplesPerPacket_pos _ h := h.samplesPerPacket_pos
  fits _ h := h.room le_rfl
  samplesPerPacket_emit s _ := congrArg UInt16.toNat s.emitL16Packet_config.2.2.2.1
  pendingFrames_emit s _ := s.emitL16Packet_config.2.2.2.2
  ok_emit _ h := h.emit
  emits_refl := Emits.refl
  emits_store _ _ _ _ := ⟨⟨rfl, rfl, rfl, rfl, rfl, rfl⟩, rfl, by simp⟩
  emits_emit _ h hpos hle := emitL16Packet_emits h hpos hle
  emits_trans _ _ _ _ _ h k := h.trans k

/-! ## The invariant -/

/-- What holds of the member variables between calls. -/
structure WF (s : RtpSender) : Prop where
  payloadType_le : s.payloadType = 0xFF ∨ s.payloadType ≤ 0x7F
  /-- A packet size is only set in L16 mode, and then suits the format. -/
  l16Mode : s.samplesPerPacket ≠ 0 → L16Mode s.format.channels.toNat s
  /-- Full packets do not stay pending. -/
  pending : s.pendingFrames = 0 ∨ s.pendingFrames < s.samplesPerPacket.toNat

/-- A new sender keeps the invariant. -/
theorem wf_new (script : ℕ → UdpTx) : (new script).WF where
  payloadType_le := .inl rfl
  l16Mode h := absurd rfl h
  pending := .inl rfl

/-- L16 mode determines the channel count, and pending frames are short of a packet in it. -/
theorem L16Mode.wf {c : ℕ} {s : RtpSender} (h : L16Mode c s)
    (hlt : s.pendingFrames < s.samplesPerPacket.toNat) : s.WF where
  payloadType_le := .inr h.payloadType_le
  l16Mode _ := h.channels.symm ▸ h
  pending := .inr hlt

/-- There is always room for one more frame. -/
theorem WF.pending_lt {c : ℕ} {s : RtpSender} (h : s.WF) (hmode : L16Mode c s) :
    s.pendingFrames < s.samplesPerPacket.toNat := by
  have hpos := hmode.samplesPerPacket_pos
  rcases h.pending with hzero | hlt
  · omega
  · exact hlt

/-- Frames are only pending in L16 mode. -/
theorem WF.l16Mode_of_pending {s : RtpSender} (h : s.WF) (hpending : s.pendingFrames ≠ 0) :
    L16Mode s.format.channels.toNat s := by
  have hlt := h.pending.resolve_left hpending
  refine h.l16Mode fun h0 => ?_
  rw [h0] at hlt
  exact absurd hlt (Nat.not_lt_zero _)

/-- Setters that leave the packetization alone keep the invariant. -/
theorem WF.of_eq {s s' : RtpSender} (h : s.WF) (hpt : s'.payloadType = s.payloadType)
    (hspp : s'.samplesPerPacket = s.samplesPerPacket) (hl16 : s'.isL16 = s.isL16)
    (hfmt : s'.format = s.format) (hpend : s'.pendingFrames = s.pendingFrames) : s'.WF where
  payloadType_le := hpt ▸ h.payloadType_le
  l16Mode h0 := by
    have hmode := h.l16Mode (hspp ▸ h0)
    constructor
    · rw [hl16]; exact hmode.isL16
    · rw [hpt]; exact hmode.payloadType_le
    · rw [hfmt]; exact hmode.bitsPerSample
    · rfl
    · rw [hfmt]; exact hmode.channels_pos
    · rw [hspp]; exact hmode.samplesPerPacket_pos
    · rw [hspp, hfmt]; exact hmode.fits
  pending := by rw [hpend, hspp]; exact h.pending

/-- The packet size respects the payload cap and is at least one frame. -/
theorem rtpSamplesPerPacket_spec (clockRate : UInt32) {channels : UInt8} (h : channels ≠ 0) :
    0 < (rtpSamplesPerPacket clockRate channels).toNat ∧
      (rtpSamplesPerPacket clockRate channels).toNat * (channels.toNat * 2)
        ≤ kRtpMaxPayloadBytes := by
  have hcap : kRtpMaxPayloadBytes = 1440 := rfl
  have hpos : 0 < channels.toNat := UInt8.lt_iff_toNat_lt.mp (UInt8.pos_iff_ne_zero.mpr h)
  have hlt := channels.toNat_lt
  have hpay : kRtpMaxPayloadBytes / (channels.toNat * 2) * (channels.toNat * 2)
      ≤ kRtpMaxPayloadBytes := Nat.div_mul_le_self _ _
  have hpay_le : kRtpMaxPayloadBytes / (channels.toNat * 2) ≤ 1440 := by
    rw [hcap]
    exact Nat.div_le_self _ _
  dsimp only [rtpSamplesPerPacket]
  generalize kRtpMaxPayloadBytes / (channels.toNat * 2) = maxByPayload at hpay hpay_le ⊢
  generalize (clockRate / 50).toNat = maxByTime
  -- a packet below one frame is rounded up, and one frame always fits
  have hcase : ∀ spp, spp = (if maxByTime < maxByPayload then maxByTime else maxByPayload) →
      0 < (UInt16.ofNat (if spp = 0 then 1 else spp)).toNat ∧
        (UInt16.ofNat (if spp = 0 then 1 else spp)).toNat * (channels.toNat * 2)
          ≤ kRtpMaxPayloadBytes := by
    intro spp hspp
    have hle : spp ≤ maxByPayload := by rw [hspp]; split <;> omega
    rw [UInt16.toNat_ofNat']
    split
    · exact ⟨by decide, by rw [hcap]; omega⟩
    · rw [Nat.mod_eq_of_lt (by omega)]
      exact ⟨by omega, (Nat.mul_le_mul_right _ hle).trans hpay⟩
  exact hcase _ rfl

/-- `setPayloadType` accepts a 7-bit payload type, and leaves nothing pending. -/
theorem wf_setPayloadType {s : RtpSender} (h : s.WF) (pt : UInt8) (clockRate : UInt32) :
    (s.setPayloadType pt clockRate).2.WF := by
  unfold setPayloadType
  split
  · exact h.of_eq rfl rfl rfl rfl rfl
  · rename_i hok
    have hpt : pt ≤ 0x7F := UInt8.not_lt.mp fun hlt => hok (.inl hlt)
    refine ⟨.inr hpt, fun h0 => ?_, .inl rfl⟩
    dsimp only at h0
    split at h0
    · have hmode := h.l16Mode h0
      rename_i hl16
      exact ⟨hl16, hpt, hmode.bitsPerSample, rfl, hmode.channels_pos,
        by dsimp only; rw [if_pos hl16]; exact hmode.samplesPerPacket_pos,
        by dsimp only; rw [if_pos hl16]; exact hmode.fits⟩
    · exact absurd rfl h0

/-- What `flush` looks at. -/
def flusher : Flusher RtpSender RtpSenderError where
  toPacketScratch := scratch
  ready s := s.ready
  error s := s.error
  setError s error := { s with error }
  notReady := .notReady

/-- `flush` is that of a flusher. -/
theorem flush_flusher (s : RtpSender) : s.flush = flusher.flush s := rfl

/-- A `flush` with frames pending emits them, and says whether the last error is as it was. -/
theorem flush_eq {s : RtpSender} (hready : s.ready = true) (hpending : s.pendingFrames ≠ 0) :
    s.flush = (s.emitL16Packet.error == s.error, s.emitL16Packet) :=
  (flush_flusher s).trans (Flusher.flush_eq hready hpending)

/-- With nothing pending there is nothing to do. -/
theorem flush_empty {s : RtpSender} (hready : s.ready = true) (hzero : s.pendingFrames = 0) :
    s.flush = (true, s) :=
  (flush_flusher s).trans (Flusher.flush_empty hready hzero)

/-- Any `flush` that does not emit leaves all but the last error alone. -/
theorem flush_idle {s : RtpSender} (hidle : ¬ (s.ready = true ∧ s.pendingFrames ≠ 0)) :
    ∃ error, s.flush.2 = { s with error } :=
  Flusher.flush_idle (F := flusher) hidle

/-- A call of `flush` leaves the stream alone, or the sender is in L16 mode. -/
theorem flush_cases {s : RtpSender} (h : s.WF) :
    (∃ error, s.flush.2 = { s with error }) ∨ s.ready = true ∧
      L16Mode s.format.channels.toNat s ∧ s.pendingFrames < s.samplesPerPacket.toNat := by
  by_cases hsends : s.ready = true ∧ s.pendingFrames ≠ 0
  · obtain ⟨hready, hpending⟩ := hsends
    exact .inr ⟨hready, h.l16Mode_of_pending hpending, h.pending.resolve_left hpending⟩
  · exact .inl (flush_idle hsends)

/-- A call of `writeEncoded` is rejected without touching the stream, or its arguments are valid. -/
theorem writeEncoded_cases {s : RtpSender} (h : s.WF) (bytes : Option (List UInt8)) (count : ℕ) :
    (∃ error, s.writeEncoded bytes count = (false, { s with error })) ∨
      ∃ mem, bytes = some mem ∧ s.ready = true ∧ s.payloadType ≤ 0x7F ∧ 0 < count ∧
        count ≤ kRtpMaxPayloadBytes := by
  unfold writeEncoded
  split
  · exact .inl ⟨_, rfl⟩
  · rename_i hready
    split
    · exact .inl ⟨_, rfl⟩
    · rename_i hset
      have hpt : s.payloadType ≤ 0x7F := by
        rcases h.payloadType_le with hff | hle
        · rw [hff] at hset
          exact absurd rfl hset
        · exact hle
      cases bytes with
      | none => exact .inl ⟨_, rfl⟩
      | some mem =>
        by_cases hcount : count = 0 ∨ kRtpMaxPayloadBytes < count
        · simp only [if_pos hcount]
          exact .inl ⟨_, rfl⟩
        · exact .inr ⟨mem, rfl, by simpa using hready, hpt, by omega, by omega⟩

section Calls

variable [PCMFlow]

/-- **`setFormat` establishes L16 mode** for every format it accepts. -/
theorem setFormat_spec (s : RtpSender) {fmt : PCMFormat} (hvalid : fmt.isValid = true)
    (hbits : fmt.bitsPerSample = 16) :
    (s.setFormat fmt).1 = true ∧ L16Mode fmt.channels.toNat (s.setFormat fmt).2 ∧
      (s.setFormat fmt).2.format = fmt ∧ (s.setFormat fmt).2.pendingFrames = 0 ∧
      (s.setFormat fmt).2.ready = s.ready ∧ (s.setFormat fmt).2.udp = s.udp ∧
      (s.setFormat fmt).2.payloadType
        = if fmt.channels = 2 then ptL16Stereo else ptL16Mono := by
  have hrate := PCMFormat.sampleRate_ne_zero hvalid
  have hch := PCMFormat.channels_ne_zero hvalid
  obtain ⟨hpos, hfits⟩ := rtpSamplesPerPacket_spec fmt.sampleRate hch
  have hcpos := PCMFormat.channels_pos hvalid
  have hpt : (if fmt.channels = 2 then ptL16Stereo else ptL16Mono) ≤ 0x7F := by
    split <;> decide
  have hguard := PCMFormat.not_rejected_iff.mpr ⟨hvalid, hbits⟩
  have hset : ¬ ((if fmt.channels = 2 then ptL16Stereo else ptL16Mono) > 0x7F
      ∨ fmt.sampleRate = 0) := by
    rintro (hlt | h0)
    · exact UInt8.not_lt.mpr hpt hlt
    · exact hrate h0
  simp only [setFormat, if_neg hguard, setPayloadType, if_neg hset, Bool.not_true,
    Bool.false_eq_true, if_false]
  exact ⟨trivial, ⟨rfl, hpt, hbits, rfl, hcpos, hpos, hfits⟩, trivial, trivial, trivial, trivial,
    trivial⟩

/-- `setFormat` accepts a format or changes nothing but the error. -/
theorem setFormat_cases (s : RtpSender) (fmt : PCMFormat) :
    (∃ error, s.setFormat fmt = (false, { s with error })) ∨
      fmt.isValid = true ∧ fmt.bitsPerSample = 16 := by
  by_cases hguard : (!fmt.isValid || fmt.bitsPerSample != 16) = true
  · rw [setFormat, if_pos hguard]
    exact .inl ⟨_, rfl⟩
  · exact .inr (PCMFormat.not_rejected_iff.mp hguard)

/-- `setFormat` keeps the invariant. -/
theorem wf_setFormat {s : RtpSender} (h : s.WF) (fmt : PCMFormat) : (s.setFormat fmt).2.WF := by
  rcases s.setFormat_cases fmt with ⟨error, heq⟩ | ⟨hvalid, hbits⟩
  · rw [heq]
    exact h.of_eq rfl rfl rfl rfl rfl
  · obtain ⟨-, hmode, -, hpend, -⟩ := s.setFormat_spec hvalid hbits
    exact hmode.wf (by rw [hpend]; exact hmode.samplesPerPacket_pos)

/-- What `writeFrames` looks at besides. -/
def writer : FrameWriter RtpSender RtpSenderError where
  toFlusher := flusher
  unset s := !s.isL16 || s.samplesPerPacket == 0 || s.format.bytesPerFrame == 0
  unsetError := .wrongPath
  bytesPerFrame s := s.format.bytesPerFrame

/-- `writeFrames` is that of a writer. -/
theorem writeFrames_writer (s : RtpSender) (src : Option (List UInt8)) (frameCount : ℕ) :
    s.writeFrames src frameCount = (writer).writeFrames s src frameCount := by
  cases src <;> rfl

/-- In L16 mode a sender keeps what a writer promises. -/
theorem writer_lawful {c : ℕ} (hc : 0 < c) : (writer).Lawful c (L16Mode c) Emits where
  toLawful := scratch_lawful hc
  set s h := by
    show (!s.isL16 || s.samplesPerPacket == 0 || s.format.bytesPerFrame == 0) = false
    rw [h.bytesPerFrame, h.isL16, Bool.not_true, Bool.false_or, Bool.or_eq_false_iff, beq_eq_false_iff_ne,
      beq_eq_false_iff_ne]
    exact ⟨h.samplesPerPacket_ne_zero, by omega⟩
  bytesPerFrame _ h := h.bytesPerFrame
  ready_of_emits _ _ _ h := h.setup.ready

/-- In L16 mode a ready sender passes the checks of `writeFrames`. -/
theorem writeFrames_loop {c : ℕ} {s : RtpSender} (h : L16Mode c s) (hready : s.ready = true)
    (src : List UInt8) (frameCount : ℕ) :
    s.writeFrames (some src) frameCount
      = scratch.writeLoop (c * 2) src frameCount frameCount 0 s :=
  (writer_lawful h.channels_pos).writeFrames_loop h hready src frameCount

/-- `writeFrames` accepts frames as it accepts them one by one. -/
theorem writeFrames_foldl {c : ℕ} {s : RtpSender} (h : L16Mode c s) (hready : s.ready = true)
    (hlt : s.pendingFrames < s.samplesPerPacket.toNat) (src : List UInt8) (frameCount : ℕ) :
    s.writeFrames (some src) frameCount
      = some (frameCount, (memFrames c src frameCount).foldl (scratch.batcher c).push s) :=
  (writer_lawful h.channels_pos).writeFrames_foldl ⟨h, hready, hlt⟩ src frameCount

/-- **What `writeFrames` does.** In L16 mode it accepts everything; what it sends and what stays
pending is what was pending and everything accepted, in order. -/
theorem writeFrames_spec {c : ℕ} {s : RtpSender} (h : L16Mode c s) (hready : s.ready = true)
    (hlt : s.pendingFrames < s.samplesPerPacket.toNat) (src : List UInt8) (frameCount : ℕ) :
    ∃ packets s', s.writeFrames (some src) frameCount = some (frameCount, s') ∧
      Emits s packets s' ∧
      packets.flatten ++ scratch.pending c s'
        = scratch.pending c s ++ memFrames c src frameCount ∧
      s'.pendingFrames < s'.samplesPerPacket.toNat :=
  (writer_lawful h.channels_pos).writeFrames_spec ⟨h, hready, hlt⟩ src frameCount

/-- **What `flush` does.** It sends what is pending. -/
theorem flush_spec {c : ℕ} {s : RtpSender} (h : L16Mode c s) (hready : s.ready = true)
    (hlt : s.pendingFrames < s.samplesPerPacket.toNat) :
    ∃ packets, Emits s packets s.flush.2 ∧ packets.flatten = scratch.pending c s ∧
      s.flush.2.pendingFrames = 0 :=
  (writer_lawful h.channels_pos).flush_spec ⟨h, hready, hlt⟩

/-- The same with a pointer that may be null, for which nothing is accepted. -/
theorem writeFrames_accepted {c : ℕ} {s : RtpSender} (h : L16Mode c s) (hready : s.ready = true)
    (hlt : s.pendingFrames < s.samplesPerPacket.toNat) (src : Option (List UInt8))
    (frameCount : ℕ) :
    ∃ n packets s', s.writeFrames src frameCount = some (n, s') ∧ Emits s packets s' ∧
      packets.flatten ++ scratch.pending c s'
        = scratch.pending c s ++ memFrames c (src.getD []) n ∧
      s'.pendingFrames < s'.samplesPerPacket.toNat := by
  cases src with
  | none =>
    have hnone : s.writeFrames none frameCount = some (0, s) :=
      FrameWriter.writeFrames_eq (W := writer) hready ((writer_lawful h.channels_pos).set s h) none frameCount
    refine ⟨0, [], s, hnone, Emits.refl s, ?_, hlt⟩
    simp [memFrames, readMem]
  | some mem =>
    obtain ⟨packets, s', hspec⟩ := writeFrames_spec h hready hlt mem frameCount
    exact ⟨frameCount, packets, s', hspec⟩

/-- Whoever passes the checks of `writeFrames` accepts everything. -/
theorem WF.accepts {s : RtpSender} (h : s.WF) (mem : List UInt8) (frameCount : ℕ)
    (hready : (writer).ready s = true) (hset : (writer).unset s = false) :
    ∃ s', (writer).writeFrames s (some mem) frameCount = some (frameCount, s') := by
  have hmode : L16Mode s.format.channels.toNat s := h.l16Mode fun h0 => by simp [writer, h0] at hset
  exact ⟨_, (writer_lawful hmode.channels_pos).writeFrames_foldl
    ⟨hmode, hready, h.pending_lt hmode⟩ mem frameCount⟩

/-- A call of `writeFrames` is rejected without touching the stream, or the sender is in L16 mode. -/
theorem writeFrames_cases {s : RtpSender} (h : s.WF) (src : Option (List UInt8)) (frameCount : ℕ) :
    (∃ error, s.writeFrames src frameCount = some (0, { s with error })) ∨
      ∃ mem, src = some mem ∧ s.ready = true ∧ L16Mode s.format.channels.toNat s := by
  rw [writeFrames_writer]
  rcases (writer).writeFrames_cases s src frameCount with hdown | ⟨mem, rfl, hready, hset⟩
  · exact .inl hdown
  · exact .inr ⟨mem, rfl, hready, h.l16Mode fun h0 => by simp [writer, h0] at hset⟩

/-- **Every call completes and keeps the invariant.** -/
theorem wf_step {s : RtpSender} (h : s.WF) (call : Call) : ∃ s', step s call = some s' ∧ s'.WF := by
  cases call with
  | begin destPort ssrc rnd =>
    exact ⟨_, rfl, h.payloadType_le, fun h0 => { h.l16Mode h0 with }, .inl rfl⟩
  | end_ => exact ⟨_, rfl, h.payloadType_le, fun h0 => { h.l16Mode h0 with }, .inl rfl⟩
  | setPayloadType pt clockRate => exact ⟨_, rfl, wf_setPayloadType h pt clockRate⟩
  | setFormat fmt => exact ⟨_, rfl, wf_setFormat h fmt⟩
  | setTimestampIncrement inc => exact ⟨_, rfl, h.of_eq rfl rfl rfl rfl rfl⟩
  | setMarker m => exact ⟨_, rfl, h.of_eq rfl rfl rfl rfl rfl⟩
  | setSsrc ssrc => exact ⟨_, rfl, h.of_eq rfl rfl rfl rfl rfl⟩
  | setTimestamp ts => exact ⟨_, rfl, h.of_eq rfl rfl rfl rfl rfl⟩
  | setSequenceNumber seq => exact ⟨_, rfl, h.of_eq rfl rfl rfl rfl rfl⟩
  | writeFrames src frameCount =>
    rcases writeFrames_cases h src frameCount with ⟨error, heq⟩ | ⟨mem, rfl, hready, hmode⟩
    · exact ⟨{ s with error }, by rw [step, heq]; rfl, h.of_eq rfl rfl rfl rfl rfl⟩
    · obtain ⟨packets, s', heq, hemits, -, hlt⟩ :=
        writeFrames_spec hmode hready (h.pending_lt hmode) mem frameCount
      exact ⟨s', by rw [step, heq]; rfl, (hemits.setup.l16Mode hmode).wf hlt⟩
  | writeEncoded bytes count =>
    rcases writeEncoded_cases h bytes count with ⟨error, heq⟩ | ⟨mem, rfl, hready, hpt, hpos, hmax⟩
    · exact ⟨{ s with error }, by rw [step, heq], h.of_eq rfl rfl rfl rfl rfl⟩
    · refine ⟨_, by rw [step, writeEncoded_eq hready hpt mem hpos hmax], ?_⟩
      exact h.of_eq rfl rfl rfl rfl rfl
  | flush =>
    refine ⟨_, rfl, ?_⟩
    rcases flush_cases h with ⟨error, heq⟩ | ⟨hready, hmode, hlt⟩
    · rw [heq]
      exact h.of_eq rfl rfl rfl rfl rfl
    · obtain ⟨packets, hemits, -, hpend⟩ := flush_spec hmode hready hlt
      have hmode' := hemits.setup.l16Mode hmode
      exact hmode'.wf (by rw [hpend]; exact hmode'.samplesPerPacket_pos)

/-- The invariant holds in every reachable state. -/
theorem Reachable.wf {s : RtpSender} (h : s.Reachable) : s.WF := by
  obtain ⟨script, calls, hrun⟩ := h
  have hadm : Admissible step (fun _ _ => True) (new script) calls :=
    admissible_of_forall (fun _ _ => trivial) _ _
  obtain ⟨s', hrun', hwf⟩ :=
    run_total (fun s call hs _ => wf_step hs call) (wf_new script) hadm
  rw [hrun, Option.some.injEq] at hrun'
  rwa [hrun']

end Calls

end RtpSender

end PcmFlowUdp
