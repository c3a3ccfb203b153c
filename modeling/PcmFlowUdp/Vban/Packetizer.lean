import PcmFlowUdp.FrameWriting
import PcmFlowUdp.Vban.Sender

/-! # What the calls of `VbanSender` do

`emitPacket_eq` reduces an emission to offering one packet, which `nextPacket_eq` describes: an audio header and
the pending frames as they lie in the scratch. What the packets depend on is the UDP object and the next header
(`VbanOutlet`); `Emits` says which packets left between two states.

* **`writeFrames_spec`, `flush_spec`** — what is sent and what stays pending is what was pending and
  what was accepted, in order;
* **`wf_step`** — every call completes and keeps the invariant `VbanSender.WF` of the member
  variables. -/

namespace PcmFlowUdp

open ByteTransport PcmFrame

/-! ## What leaves the sender -/

/-- What the packets of a sender depend on: the UDP object and the next header, whose number of
samples is filled in when it is sent. -/
structure VbanOutlet where
  udp : Udp
  header : VbanAudioHeader

namespace VbanOutlet

/-- The packet that carries the given frames next. -/
def packet {c : ℕ} (o : VbanOutlet) (frames : List (PcmFrame c)) : List UInt8 :=
  audioHeaderBytes { o.header with numSamples := UInt16.ofNat frames.length } ++ hostImage frames

/-- Offer one packet. The frame counter moves on in any case. -/
def send {c : ℕ} (o : VbanOutlet) (frames : List (PcmFrame c)) : VbanOutlet where
  udp := (o.udp.transmit (o.packet frames)).2
  header := { o.header with frameCounter := o.header.frameCounter + 1 }

/-- Offer packets with the given frames, one after the other. -/
def sendAll {c : ℕ} (o : VbanOutlet) (packets : List (List (PcmFrame c))) : VbanOutlet :=
  packets.foldl send o

/-- Packets are sent one after the other. -/
theorem sendAll_append {c : ℕ} (o : VbanOutlet) (ps qs : List (List (PcmFrame c))) :
    o.sendAll (ps ++ qs) = (o.sendAll ps).sendAll qs := List.foldl_append

end VbanOutlet

namespace VbanSender

/-- The outlet of a sender. -/
def outlet (s : VbanSender) : VbanOutlet := ⟨s.udp, s.nextHeader 0⟩

/-- The members that only the setters change. -/
structure SameSetup (s s' : VbanSender) : Prop where
  format : s'.format = s.format
  sampleRateIndex : s'.sampleRateIndex = s.sampleRateIndex
  samplesPerPacket : s'.samplesPerPacket = s.samplesPerPacket
  ready : s'.ready = s.ready

/-- The setup stays the same from call to call. -/
theorem SameSetup.trans {s t u : VbanSender} (h : SameSetup s t) (k : SameSetup t u) :
    SameSetup s u :=
  ⟨k.1.trans h.1, k.2.trans h.2, k.3.trans h.3, k.4.trans h.4⟩

/-- From `s` to `s'` the sender emitted packets with the frames of `packets`, in that order. -/
structure Emits {c : ℕ} (s : VbanSender) (packets : List (List (PcmFrame c))) (s' : VbanSender) :
    Prop where
  setup : SameSetup s s'
  outlet : s'.outlet = s.outlet.sendAll packets
  sizes : ∀ frames ∈ packets, frames ≠ [] ∧ frames.length ≤ s.samplesPerPacket.toNat

/-- Nothing is emitted when nothing is done. -/
theorem Emits.refl {c : ℕ} (s : VbanSender) : Emits s ([] : List (List (PcmFrame c))) s where
  setup := ⟨rfl, rfl, rfl, rfl⟩
  outlet := rfl
  sizes := by simp

/-- What is emitted adds up. -/
theorem Emits.trans {c : ℕ} {s t u : VbanSender} {ps qs : List (List (PcmFrame c))}
    (h : Emits s ps t) (k : Emits t qs u) : Emits s (ps ++ qs) u where
  setup := h.setup.trans k.setup
  outlet := by rw [k.outlet, h.outlet, VbanOutlet.sendAll_append]
  sizes := by
    intro frames hmem
    rcases List.mem_append.mp hmem with hp | hq
    · exact h.sizes frames hp
    · rw [← h.setup.samplesPerPacket]
      exact k.sizes frames hq

/-! ## Emission -/

/-- The sender is set up for frames of `c` channels: what `setFormat` establishes. -/
structure AudioMode (c : ℕ) (s : VbanSender) : Prop where
  bitsPerSample : s.format.bitsPerSample = 16
  channels : s.format.channels.toNat = c
  channels_pos : 0 < c
  sampleRateIndex_le : s.sampleRateIndex ≤ 20
  samplesPerPacket_pos : 0 < s.samplesPerPacket.toNat
  /-- The number of samples fits its one-byte field. -/
  samplesPerPacket_le : s.samplesPerPacket.toNat ≤ 256
  /-- A full packet respects the payload cap. -/
  fits : s.samplesPerPacket.toNat * (c * 2) ≤ kVbanMaxPayloadBytes

namespace AudioMode

variable {c : ℕ} {s : VbanSender}

/-- The packet size is set. -/
theorem samplesPerPacket_ne_zero (h : AudioMode c s) : s.samplesPerPacket ≠ 0 := by
  intro hzero
  have hpos := h.samplesPerPacket_pos
  rw [hzero] at hpos
  exact absurd hpos (by decide)

/-- A frame takes two bytes a channel. -/
theorem bytesPerFrame [PCMFlow] (h : AudioMode c s) : s.format.bytesPerFrame = c * 2 := by
  rw [PCMFormat.bytesPerFrame_pcm16 h.bitsPerSample, h.channels]

/-- Any number of frames up to a full packet fits the scratch. -/
theorem room (h : AudioMode c s) {k : ℕ} (hk : k ≤ s.samplesPerPacket.toNat) :
    kVbanHeaderBytes + k * (c * 2) ≤ kVbanMaxPacketBytes :=
  Nat.add_le_add_left ((Nat.mul_le_mul_right _ hk).trans h.fits) _

/-- The setup decides about the mode. -/
theorem of_setup {s' : VbanSender} (h : AudioMode c s) (hs : SameSetup s s') : AudioMode c s' := by
  constructor
  · rw [hs.format]; exact h.bitsPerSample
  · rw [hs.format]; exact h.channels
  · exact h.channels_pos
  · rw [hs.sampleRateIndex]; exact h.sampleRateIndex_le
  · rw [hs.samplesPerPacket]; exact h.samplesPerPacket_pos
  · rw [hs.samplesPerPacket]; exact h.samplesPerPacket_le
  · rw [hs.samplesPerPacket]; exact h.fits

/-- The channel count is in the range that a header can say. -/
theorem channels_range (h : AudioMode c s) :
    1 ≤ s.format.channels.toUInt16 ∧ s.format.channels.toUInt16 ≤ 256 := by
  rw [UInt16.le_iff_toNat_le, UInt16.le_iff_toNat_le, UInt8.toNat_toUInt16]
  exact ⟨h.channels.symm ▸ h.channels_pos, s.format.channels.toNat_lt.le⟩

/-- The encoder accepts the header of every packet. -/
theorem encodes (h : AudioMode c s) {k : ℕ} (hpos : 0 < k) (hle : k ≤ s.samplesPerPacket.toNat)
    {n : ℕ} (out : Buffer UInt8 n) :
    encodeAudioHeader (s.nextHeader k) out = (true, out.blit 0 (audioHeaderBytes (s.nextHeader k))) :=
  encodeAudioHeader_eq h.sampleRateIndex_le (numSamples_range hpos (hle.trans h.samplesPerPacket_le)).2
    h.channels_range out

end AudioMode

section Emission

variable [PCMFlow]

/-- An emission keeps the setup and leaves nothing pending. -/
theorem emitPacket_setup (s : VbanSender) :
    SameSetup s s.emitPacket ∧ s.emitPacket.pendingFrames = 0 := by
  unfold emitPacket
  split
  · exact ⟨⟨rfl, rfl, rfl, rfl⟩, ‹_›⟩
  · exact ⟨⟨rfl, rfl, rfl, rfl⟩, rfl⟩

/-- The bytes that `emitPacket` offers. -/
def nextPacket (s : VbanSender) : List UInt8 :=
  (encodeAudioHeader (s.nextHeader s.pendingFrames) s.packet).2.slice 0
    (kVbanHeaderBytes + s.pendingFrames * s.format.bytesPerFrame)

/-- An emission with frames pending makes one attempt, and the last error says if it failed. -/
theorem emitPacket_eq {s : VbanSender} (hpending : s.pendingFrames ≠ 0) :
    s.emitPacket =
      { s with
        udp := (s.udp.transmit s.nextPacket).2
        packet := (encodeAudioHeader (s.nextHeader s.pendingFrames) s.packet).2
        frameCounter := s.frameCounter + 1
        error := if s.udp.next.ok then s.error else .sendFailed
        pendingFrames := 0 } := by
  rw [emitPacket, if_neg hpending]
  rfl

/-- What is offered is a header that names the number of pending frames, and those frames. -/
theorem nextPacket_eq {c : ℕ} {s : VbanSender} (h : AudioMode c s) (hpos : 0 < s.pendingFrames)
    (hle : s.pendingFrames ≤ s.samplesPerPacket.toNat) :
    s.nextPacket = s.outlet.packet (scratch.pending c s) := by
  have hroom : scratch.headerBytes + scratch.pendingFrames s * (c * 2) ≤ scratch.maxBytes :=
    h.room hle
  have hlen : (scratch.pending c s).length = s.pendingFrames :=
    PacketScratch.length_pending hroom h.channels_pos
  have himage : hostImage (scratch.pending c s)
      = s.packet.slice kVbanHeaderBytes (s.pendingFrames * (c * 2)) :=
    PacketScratch.hostImage_pending hroom h.channels_pos
  -- the header is written in front of the pending frames
  have hsame : (s.packet.blit 0 (audioHeaderBytes (s.nextHeader s.pendingFrames))).slice 0
      (audioHeaderBytes (s.nextHeader s.pendingFrames)).length
        = audioHeaderBytes (s.nextHeader s.pendingFrames) :=
    Buffer.slice_blit_same s.packet (show 0 + (vbanHeaderBytes _ _ _ _ _ _).length ≤ _ by
      rw [length_vbanHeaderBytes]; decide)
  have hlen28 : (audioHeaderBytes (s.nextHeader s.pendingFrames)).length = kVbanHeaderBytes :=
    length_vbanHeaderBytes _ _ _ _ _ _
  rw [hlen28] at hsame
  rw [nextPacket, h.encodes hpos hle, h.bytesPerFrame, Buffer.slice_append, hsame,
    Buffer.slice_blit_after _ _ (by rw [hlen28]), Nat.zero_add, ← himage, VbanOutlet.packet, hlen]
  rfl

/-- **An emission** offers the pending frames behind a header that names their number, and uses up a
frame counter value whether or not the send succeeds. -/
theorem emitPacket_emits {c : ℕ} {s : VbanSender} (h : AudioMode c s) (hpos : 0 < s.pendingFrames)
    (hle : s.pendingFrames ≤ s.samplesPerPacket.toNat) :
    Emits s [scratch.pending c s] s.emitPacket := by
  have hlen : (scratch.pending c s).length = s.pendingFrames :=
    PacketScratch.length_pending (h.room hle) h.channels_pos
  refine ⟨s.emitPacket_setup.1, ?_, ?_⟩
  · have hsend : s.emitPacket.outlet
        = ⟨(s.udp.transmit s.nextPacket).2,
            { s.nextHeader 0 with frameCounter := s.frameCounter + 1 }⟩ := by
      rw [emitPacket_eq hpos.ne']
      rfl
    rw [hsend, nextPacket_eq h hpos hle]
    rfl
  · intro frames hmem
    obtain rfl := List.mem_singleton.mp hmem
    refine ⟨fun hnil => ?_, by rw [hlen]; exact hle⟩
    rw [hnil, List.length_nil] at hlen
    omega

/-- `writeFrames` packs frames into the scratch the way `PacketScratch` describes. -/
theorem scratch_lawful {c : ℕ} (hc : 0 < c) : (scratch).Lawful c (AudioMode c) Emits where
  channels_pos := hc
  packet_store _ _ _ := rfl
  pendingFrames_store _ _ _ := rfl
  samplesPerPacket_store _ _ _ := rfl
  store_store _ _ _ _ _ := rfl
  ok_store _ _ _ h := { h with }
  samplesPerPacket_pos _ h := h.samplesPerPacket_pos
  fits _ h := h.room le_rfl
  samplesPerPacket_emit s _ := congrArg UInt16.toNat s.emitPacket_setup.1.samplesPerPacket
  pendingFrames_emit s _ := s.emitPacket_setup.2
  ok_emit s h := h.of_setup s.emitPacket_setup.1
  emits_refl := Emits.refl
  emits_store _ _ _ _ := ⟨⟨rfl, rfl, rfl, rfl⟩, rfl, by simp⟩
  emits_emit _ h hpos hle := emitPacket_emits h hpos hle
  emits_trans _ _ _ _ _ h k := h.trans k

/-- What `writeFrames` and `flush` look at. -/
def writer : FrameWriter VbanSender VbanSenderError where
  toPacketScratch := scratch
  ready s := s.ready
  error s := s.error
  setError s error := { s with error }
  notReady := .notReady
  unset s := s.samplesPerPacket == 0 || s.format.bytesPerFrame == 0
  unsetError := .unsupportedFormat
  bytesPerFrame s := s.format.bytesPerFrame

/-- `writeFrames` is that of a writer. -/
theorem writeFrames_writer (s : VbanSender) (src : Option (List UInt8)) (frameCount : ℕ) :
    s.writeFrames src frameCount = (writer).writeFrames s src frameCount := by
  cases src <;> rfl

/-- So is `flush`. -/
theorem flush_writer (s : VbanSender) : s.flush = (writer).flush s := rfl

/-- A sender that is set up keeps what a writer promises. -/
theorem writer_lawful {c : ℕ} (hc : 0 < c) : (writer).Lawful c (AudioMode c) Emits where
  toLawful := scratch_lawful hc
  set s h := by
    show (s.samplesPerPacket == 0 || s.format.bytesPerFrame == 0) = false
    rw [h.bytesPerFrame, Bool.or_eq_false_iff, beq_eq_false_iff_ne, beq_eq_false_iff_ne]
    exact ⟨h.samplesPerPacket_ne_zero, by omega⟩
  bytesPerFrame _ h := h.bytesPerFrame
  ready_of_emits _ _ _ h := h.setup.ready

/-- A ready sender that is set up passes the checks of `writeFrames`. -/
theorem writeFrames_loop {c : ℕ} {s : VbanSender} (h : AudioMode c s) (hready : s.ready = true)
    (src : List UInt8) (frameCount : ℕ) :
    s.writeFrames (some src) frameCount
      = (scratch).writeLoop (c * 2) src frameCount frameCount 0 s :=
  (writer_lawful h.channels_pos).writeFrames_loop h hready src frameCount

/-- `writeFrames` accepts frames as it accepts them one by one. -/
theorem writeFrames_foldl {c : ℕ} {s : VbanSender} (h : AudioMode c s) (hready : s.ready = true)
    (hlt : s.pendingFrames < s.samplesPerPacket.toNat) (src : List UInt8) (frameCount : ℕ) :
    s.writeFrames (some src) frameCount
      = some (frameCount, (memFrames c src frameCount).foldl ((scratch).batcher c).push s) :=
  (writer_lawful h.channels_pos).writeFrames_foldl ⟨h, hready, hlt⟩ src frameCount

/-- **What `writeFrames` does.** It accepts everything; what it sends and what stays pending is what was
pending and everything accepted, in order. -/
theorem writeFrames_spec {c : ℕ} {s : VbanSender} (h : AudioMode c s) (hready : s.ready = true)
    (hlt : s.pendingFrames < s.samplesPerPacket.toNat) (src : List UInt8) (frameCount : ℕ) :
    ∃ packets s', s.writeFrames (some src) frameCount = some (frameCount, s') ∧
      Emits s packets s' ∧
      packets.flatten ++ (scratch).pending c s'
        = (scratch).pending c s ++ memFrames c src frameCount ∧
      s'.pendingFrames < s'.samplesPerPacket.toNat :=
  (writer_lawful h.channels_pos).writeFrames_spec ⟨h, hready, hlt⟩ src frameCount

/-- A `flush` with frames pending emits them, and says whether the last error is as it was. -/
theorem flush_eq {s : VbanSender} (hready : s.ready = true) (hpending : s.pendingFrames ≠ 0) :
    s.flush = (s.emitPacket.error == s.error, s.emitPacket) :=
  (flush_writer s).trans (Flusher.flush_eq hready hpending)

/-- With nothing pending there is nothing to do. -/
theorem flush_empty {s : VbanSender} (hready : s.ready = true) (hzero : s.pendingFrames = 0) :
    s.flush = (true, s) :=
  (flush_writer s).trans (Flusher.flush_empty hready hzero)

/-- Any `flush` that does not emit leaves all but the last error alone. -/
theorem flush_idle {s : VbanSender} (hidle : ¬ (s.ready = true ∧ s.pendingFrames ≠ 0)) :
    ∃ error, s.flush.2 = { s with error } :=
  Flusher.flush_idle (F := (writer).toFlusher) hidle

/-- **What `flush` does.** It sends what is pending. -/
theorem flush_spec {c : ℕ} {s : VbanSender} (h : AudioMode c s) (hready : s.ready = true)
    (hlt : s.pendingFrames < s.samplesPerPacket.toNat) :
    ∃ packets, Emits s packets s.flush.2 ∧ packets.flatten = (scratch).pending c s ∧
      s.flush.2.pendingFrames = 0 :=
  (writer_lawful h.channels_pos).flush_spec ⟨h, hready, hlt⟩

end Emission

/-! ## The invariant -/

/-- What holds of the member variables between calls. -/
structure WF (s : VbanSender) : Prop where
  /-- A packet size is only set together with a format that it suits. -/
  audioMode : s.samplesPerPacket ≠ 0 → AudioMode s.format.channels.toNat s
  /-- Full packets do not stay pending. -/
  pending : s.pendingFrames = 0 ∨ s.pendingFrames < s.samplesPerPacket.toNat

/-- A new sender keeps the invariant. -/
theorem wf_new (script : ℕ → UdpTx) : (new script).WF where
  audioMode h := absurd rfl h
  pending := .inl rfl

/-- A setup determines the channel count, and pending frames are short of a packet in it. -/
theorem AudioMode.wf {c : ℕ} {s : VbanSender} (h : AudioMode c s)
    (hlt : s.pendingFrames < s.samplesPerPacket.toNat) : s.WF where
  audioMode _ := h.channels.symm ▸ h
  pending := .inr hlt

/-- There is always room for one more frame. -/
theorem WF.pending_lt {c : ℕ} {s : VbanSender} (h : s.WF) (hmode : AudioMode c s) :
    s.pendingFrames < s.samplesPerPacket.toNat := by
  have hpos := hmode.samplesPerPacket_pos
  rcases h.pending with hzero | hlt
  · omega
  · exact hlt

/-- Frames are only pending in a setup. -/
theorem WF.audioMode_of_pending {s : VbanSender} (h : s.WF) (hpending : s.pendingFrames ≠ 0) :
    AudioMode s.format.channels.toNat s := by
  have hlt := h.pending.resolve_left hpending
  refine h.audioMode fun h0 => ?_
  rw [h0] at hlt
  exact absurd hlt (Nat.not_lt_zero _)

/-- Calls that leave the packetization alone keep the invariant. -/
theorem WF.of_setup {s s' : VbanSender} (h : s.WF) (hfmt : s'.format = s.format)
    (hidx : s'.sampleRateIndex = s.sampleRateIndex)
    (hspp : s'.samplesPerPacket = s.samplesPerPacket)
    (hpend : s'.pendingFrames = s.pendingFrames ∨ s'.pendingFrames = 0) : s'.WF where
  audioMode h0 := by
    have hmode := h.audioMode (hspp ▸ h0)
    constructor
    · rw [hfmt]; exact hmode.bitsPerSample
    · rfl
    · rw [hfmt]; exact hmode.channels_pos
    · rw [hidx]; exact hmode.sampleRateIndex_le
    · rw [hspp]; exact hmode.samplesPerPacket_pos
    · rw [hspp]; exact hmode.samplesPerPacket_le
    · rw [hspp, hfmt]; exact hmode.fits
  pending := by
    rcases hpend with hsame | hzero
    · rw [hsame, hspp]
      exact h.pending
    · exact .inl hzero

/-- The packet size respects both caps and is at least one frame. -/
theorem vbanSamplesPerPacket_spec {channels : UInt8} (h : channels ≠ 0) :
    0 < (vbanSamplesPerPacket channels).toNat ∧ (vbanSamplesPerPacket channels).toNat ≤ 256 ∧
      (vbanSamplesPerPacket channels).toNat * (channels.toNat * 2) ≤ kVbanMaxPayloadBytes := by
  -- checked for every channel count
  have hall : ∀ k : Fin 256, k ≠ 0 → 0 < (vbanSamplesPerPacket (UInt8.ofNat k)).toNat ∧
      (vbanSamplesPerPacket (UInt8.ofNat k)).toNat ≤ 256 ∧
        (vbanSamplesPerPacket (UInt8.ofNat k)).toNat * ((UInt8.ofNat k).toNat * 2)
          ≤ kVbanMaxPayloadBytes := by
    decide +kernel
  have hchan := hall ⟨channels.toNat, channels.toNat_lt⟩ fun h0 =>
    h (UInt8.toNat_inj.mp (congrArg Fin.val h0))
  simpa using hchan

section Calls

variable [PCMFlow]

/-- `setFormat` accepts a format or changes nothing but the error. -/
theorem setFormat_cases (s : VbanSender) (fmt : PCMFormat) :
    (∃ error, s.setFormat fmt = (false, { s with error })) ∨
      fmt.isValid = true ∧ fmt.bitsPerSample = 16 ∧
        vbanSampleRateIndex fmt.sampleRate ≠ kVbanSampleRateInvalid := by
  by_cases hguard : (!fmt.isValid || fmt.bitsPerSample != 16) = true
  · rw [setFormat, if_pos hguard]
    exact .inl ⟨_, rfl⟩
  · by_cases hidx : vbanSampleRateIndex fmt.sampleRate = kVbanSampleRateInvalid
    · rw [setFormat, if_neg hguard]
      simp only [if_pos hidx]
      exact .inl ⟨_, rfl⟩
    · obtain ⟨hvalid, hbits⟩ := PCMFormat.not_rejected_iff.mp hguard
      exact .inr ⟨hvalid, hbits, hidx⟩

/-- **`setFormat` sets up audio** for every format it accepts. -/
theorem setFormat_spec (s : VbanSender) {fmt : PCMFormat} (hvalid : fmt.isValid = true)
    (hbits : fmt.bitsPerSample = 16)
    (hidx : vbanSampleRateIndex fmt.sampleRate ≠ kVbanSampleRateInvalid) :
    (s.setFormat fmt).1 = true ∧ AudioMode fmt.channels.toNat (s.setFormat fmt).2 ∧
      (s.setFormat fmt).2
        = { s with
            format := fmt
            sampleRateIndex := vbanSampleRateIndex fmt.sampleRate
            samplesPerPacket := vbanSamplesPerPacket fmt.channels
            pendingFrames := 0 } := by
  have hch := PCMFormat.channels_ne_zero hvalid
  obtain ⟨hpos, hmax, hfits⟩ := vbanSamplesPerPacket_spec hch
  have hcpos := PCMFormat.channels_pos hvalid
  have hle := (sampleRates_lookup _ (mem_sampleRates hidx)).2.1
  have hguard := PCMFormat.not_rejected_iff.mpr ⟨hvalid, hbits⟩
  rw [setFormat, if_neg hguard]
  simp only [if_neg hidx]
  exact ⟨trivial, ⟨hbits, rfl, hcpos, hle, hpos, hmax, hfits⟩, trivial⟩

/-- A call of `writeFrames` is rejected without touching the stream, or the sender is set up. -/
theorem writeFrames_cases {s : VbanSender} (h : s.WF) (src : Option (List UInt8))
    (frameCount : ℕ) :
    (∃ error, s.writeFrames src frameCount = some (0, { s with error })) ∨
      ∃ mem, src = some mem ∧ s.ready = true ∧ AudioMode s.format.channels.toNat s := by
  rw [writeFrames_writer]
  rcases (writer).writeFrames_cases s src frameCount with hdown | ⟨mem, rfl, hready, hset⟩
  · exact .inl hdown
  · exact .inr ⟨mem, rfl, hready, h.audioMode fun h0 => by simp [writer, h0] at hset⟩

/-- Whoever passes the checks of `writeFrames` accepts everything. -/
theorem WF.accepts {s : VbanSender} (h : s.WF) (mem : List UInt8) (frameCount : ℕ)
    (hready : (writer).ready s = true) (hset : (writer).unset s = false) :
    ∃ s', (writer).writeFrames s (some mem) frameCount = some (frameCount, s') := by
  have hmode : AudioMode s.format.channels.toNat s := h.audioMode fun h0 => by simp [writer, h0] at hset
  exact ⟨_, (writer_lawful hmode.channels_pos).writeFrames_foldl
    ⟨hmode, hready, h.pending_lt hmode⟩ mem frameCount⟩

/-- A call of `flush` sends nothing, or the sender is set up and ready. -/
theorem flush_cases {s : VbanSender} (h : s.WF) :
    (∃ error, s.flush.2 = { s with error }) ∨
      s.ready = true ∧ AudioMode s.format.channels.toNat s ∧
        s.pendingFrames < s.samplesPerPacket.toNat := by
  by_cases hsends : s.ready = true ∧ s.pendingFrames ≠ 0
  · obtain ⟨hready, hpending⟩ := hsends
    exact .inr ⟨hready, h.audioMode_of_pending hpending, h.pending.resolve_left hpending⟩
  · exact .inl (flush_idle hsends)

/-- **Every call completes and keeps the invariant.** -/
theorem wf_step {s : VbanSender} (h : s.WF) (call : Call) :
    ∃ s', step s call = some s' ∧ s'.WF := by
  cases call with
  | begin destPort streamName => exact ⟨_, rfl, h.of_setup rfl rfl rfl (.inr rfl)⟩
  | end_ => exact ⟨_, rfl, h.of_setup rfl rfl rfl (.inr rfl)⟩
  | setFormat fmt =>
    refine ⟨_, rfl, ?_⟩
    rcases s.setFormat_cases fmt with ⟨error, heq⟩ | ⟨hvalid, hbits, hidx⟩
    · rw [heq]
      exact h.of_setup rfl rfl rfl (.inl rfl)
    · obtain ⟨-, hmode, heq⟩ := s.setFormat_spec hvalid hbits hidx
      have hzero : (s.setFormat fmt).2.pendingFrames = 0 := by rw [heq]
      exact hmode.wf (by rw [hzero]; exact hmode.samplesPerPacket_pos)
  | setStreamName name => exact ⟨_, rfl, h.of_setup rfl rfl rfl (.inl rfl)⟩
  | writeFrames src frameCount =>
    rcases writeFrames_cases h src frameCount with ⟨error, heq⟩ | ⟨mem, rfl, hready, hmode⟩
    · exact ⟨{ s with error }, by rw [step, heq]; rfl, h.of_setup rfl rfl rfl (.inl rfl)⟩
    · obtain ⟨packets, s', heq, hemits, -, hlt⟩ :=
        writeFrames_spec hmode hready (h.pending_lt hmode) mem frameCount
      exact ⟨s', by rw [step, heq]; rfl, (hmode.of_setup hemits.setup).wf hlt⟩
  | flush =>
    refine ⟨_, rfl, ?_⟩
    rcases flush_cases h with ⟨error, heq⟩ | ⟨hready, hmode, hlt⟩
    · rw [heq]
      exact h.of_setup rfl rfl rfl (.inl rfl)
    · obtain ⟨packets, hemits, -, hpend⟩ := flush_spec hmode hready hlt
      have hmode' := hmode.of_setup hemits.setup
      exact hmode'.wf (by rw [hpend]; exact hmode'.samplesPerPacket_pos)

/-- The invariant holds in every reachable state. -/
theorem Reachable.wf {s : VbanSender} (h : s.Reachable) : s.WF := by
  obtain ⟨script, calls, hrun⟩ := h
  have hadm : Admissible step (fun _ _ => True) (new script) calls :=
    admissible_of_forall (fun _ _ => trivial) _ _
  obtain ⟨s', hrun', hwf⟩ :=
    run_total (fun s call hs _ => wf_step hs call) (wf_new script) hadm
  rw [hrun, Option.some.injEq] at hrun'
  rwa [hrun']

end Calls

end VbanSender

end PcmFlowUdp
