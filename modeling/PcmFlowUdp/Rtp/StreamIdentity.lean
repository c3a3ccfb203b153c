import PcmFlowUdp.Link
import PcmFlowUdp.Rtp.Packetizer
import PcmFlowUdp.Rtp.Reception

/-! # RTP L16 end to end

`rtpCarrier` puts an `RtpSender` and an `RtpReceiver` at the two ends of a link. On the L16 path with
payload type 10 or 11 it delivers what is written (`rtpCarrier_delivers`), whatever the chunking, the
flushes and the order of polls and reads:

* **`rtp_stream_identity`** — the frames read and queued are exactly the frames carried by the
  datagrams polled, and these are a prefix of the frames written. -/

namespace PcmFlowUdp

open ByteTransport PcmFrame

/-- The state of a sender on which `begin` and `setFormat fmt` have just succeeded, in either
order. -/
def RtpSender.Opened [PCMFlow] (fmt : PCMFormat) (s : RtpSender) : Prop :=
  ∃ (s₀ : RtpSender) (destPort : UInt16) (ssrc : UInt32) (rnd : RtpRandom),
    (s₀.begin destPort ssrc rnd).1 = true ∧ (s₀.setFormat fmt).1 = true ∧
      (s = ((s₀.begin destPort ssrc rnd).2.setFormat fmt).2 ∨
        s = ((s₀.setFormat fmt).2.begin destPort ssrc rnd).2)

/-- The L16 payload type of a format. -/
def l16PayloadType (fmt : PCMFormat) : UInt8 := if fmt.channels = 2 then ptL16Stereo else ptL16Mono

/-- What `begin` and `setFormat` establish. -/
theorem RtpSender.Opened.spec [PCMFlow] {fmt : PCMFormat} {s : RtpSender} (h : s.Opened fmt) :
    RtpSender.L16Mode fmt.channels.toNat s ∧ s.ready = true ∧ s.pendingFrames = 0 ∧
      s.payloadType = l16PayloadType fmt := by
  obtain ⟨s₀, destPort, ssrc, rnd, hbegin, hset, hs⟩ := h
  have hready : (destPort != 0) = true := hbegin
  have hfmt : fmt.isValid = true ∧ fmt.bitsPerSample = 16 := by
    rcases s₀.setFormat_cases fmt with ⟨error, heq⟩ | hok
    · rw [heq] at hset
      exact absurd hset Bool.false_ne_true
    · exact hok
  -- `begin` and `setFormat` do not undo one another
  rcases hs with rfl | rfl
  · obtain ⟨-, hmode, -, hpend, hrdy, -, hpt⟩ :=
      (s₀.begin destPort ssrc rnd).2.setFormat_spec hfmt.1 hfmt.2
    exact ⟨hmode, hrdy.trans hready, hpend, hpt⟩
  · obtain ⟨-, hmode, -, -, -, -, hpt⟩ := s₀.setFormat_spec hfmt.1 hfmt.2
    exact ⟨{ hmode with }, hready, rfl, hpt⟩

/-- An RTP sender and receiver at the two ends of a link. -/
def rtpCarrier [PCMFlow] : Carrier RtpSender (RtpReceiver × RtpPollMemory) where
  writeFrames := RtpSender.writeFrames
  flush := RtpSender.flush
  udp s := s.udp
  poll r io :=
    let (ok, receiver, mem) := r.1.poll r.2 io
    (ok, (receiver, mem))
  readFrames r nonNull frameCount :=
    let (k, out, receiver) := r.1.readFrames nonNull frameCount
    (k, out, (receiver, r.2))
  queue r := r.1.queue
  format r := r.1.format
  headerBytes := kRtpHeaderBytes

/-! ## The sender's end -/

/-- A datagram of the stream: whole frames in network byte order behind a header. -/
def IsL16Packet (c : ℕ) (pt : UInt8) (d : List UInt8) : Prop :=
  ∃ (h : RtpHeader) (fs : List (PcmFrame c)), h.payloadType = pt ∧
    fs.length * (c * 2) ≤ kRtpMaxPayloadBytes ∧ d = rtpHeaderBytes h ++ netImage fs

/-- The frames that a datagram carries. -/
def l16Frames (c : ℕ) (d : List UInt8) : List (PcmFrame c) := netFrames c (d.drop kRtpHeaderBytes)

/-- The frames that were put in a packet are those in it. -/
theorem l16Frames_encoded {c : ℕ} (hc : 0 < c) (h : RtpHeader) (fs : List (PcmFrame c)) :
    l16Frames c (rtpHeaderBytes h ++ netImage fs) = fs := by
  have hdrop : (rtpHeaderBytes h ++ netImage fs).drop kRtpHeaderBytes = netImage fs :=
    List.drop_left' (length_rtpHeaderBytes h)
  rw [l16Frames, hdrop, netFrames_netImage hc]

/-- Over a reliable UDP object every packet leaves, in order. -/
theorem RtpOutlet.sendAll_datagrams {c : ℕ} (hc : 0 < c) (packets : List (List (PcmFrame c)))
    {o : RtpOutlet} (hrel : o.udp.Reliable)
    (hmax : ∀ frames ∈ packets, frames.length * (c * 2) ≤ kRtpMaxPayloadBytes) :
    ∃ ds, (o.sendAll packets).udp.datagrams = o.udp.datagrams ++ ds ∧
      (o.sendAll packets).udp.Reliable ∧ (∀ d ∈ ds, IsL16Packet c o.header.payloadType d) ∧
      ds.flatMap (l16Frames c) = packets.flatten := by
  induction packets generalizing o with
  | nil => exact ⟨[], (List.append_nil _).symm, hrel, by simp, rfl⟩
  | cons frames packets ih =>
    set d := rtpHeaderBytes o.header ++ netImage frames with hd
    set o' := o.send (netImage frames) (UInt32.ofNat frames.length) with ho'
    have hsent : o'.udp.datagrams = o.udp.datagrams ++ [d] := hrel.datagrams_transmit d
    -- the payload type stays, the counters move on
    have hpt : o'.header.payloadType = o.header.payloadType := by
      rw [ho', RtpOutlet.send]
      dsimp only
      split <;> rfl
    have hrel' : o'.udp.Reliable := hrel
    obtain ⟨ds, hds, hrel'', hwire, hflat⟩ :=
      ih hrel' fun frames hmem => hmax frames (List.mem_cons_of_mem _ hmem)
    have hcons : o.sendAll (frames :: packets) = o'.sendAll packets := rfl
    refine ⟨d :: ds, ?_, hcons ▸ hrel'', ?_, ?_⟩
    · rw [hcons, hds, hsent, List.append_assoc, List.singleton_append]
    · intro d' hmem
      rcases List.mem_cons.mp hmem with rfl | hold
      · exact ⟨o.header, frames, rfl, hmax frames List.mem_cons_self, hd⟩
      · rw [← hpt]
        exact hwire d' hold
    · rw [List.flatMap_cons, hflat, hd, l16Frames_encoded hc, List.flatten_cons]

/-- The sender's end of the link, with the frames `fs` pending. -/
structure RtpSenderOk (c : ℕ) (pt : UInt8) (s : RtpSender) (fs : List (PcmFrame c)) : Prop where
  mode : RtpSender.L16Mode c s
  ready : s.ready = true
  payloadType : s.payloadType = pt
  pending_lt : s.pendingFrames < s.samplesPerPacket.toNat
  pending : RtpSender.scratch.pending c s = fs
  reliable : s.udp.Reliable

/-- Emissions over a reliable UDP object put their frames on the wire. -/
theorem RtpSenderOk.emits {c : ℕ} {pt : UInt8} {s s' : RtpSender} {fs : List (PcmFrame c)}
    (h : RtpSenderOk c pt s fs) {packets : List (List (PcmFrame c))}
    (hemits : RtpSender.Emits s packets s') (hlt : s'.pendingFrames < s'.samplesPerPacket.toNat) :
    RtpSenderOk c pt s' (RtpSender.scratch.pending c s') ∧
      ∃ ds, s'.udp.datagrams = s.udp.datagrams ++ ds ∧ (∀ d ∈ ds, IsL16Packet c pt d) ∧
        ds.flatMap (l16Frames c) = packets.flatten := by
  have hmax : ∀ frames ∈ packets, frames.length * (c * 2) ≤ kRtpMaxPayloadBytes := fun frames hmem =>
    (Nat.mul_le_mul_right _ (hemits.sizes frames hmem).2).trans h.mode.fits
  obtain ⟨ds, hds, hrel, hwire, hflat⟩ :=
    RtpOutlet.sendAll_datagrams (o := s.outlet) h.mode.channels_pos packets h.reliable hmax
  have hout : s'.udp = (s.outlet.sendAll packets).udp := congrArg RtpOutlet.udp hemits.outlet
  refine ⟨⟨hemits.setup.l16Mode h.mode, hemits.setup.ready.trans h.ready,
    hemits.setup.payloadType.trans h.payloadType, hlt, rfl, hout ▸ hrel⟩, ds, hout ▸ hds, ?_, hflat⟩
  rw [← h.payloadType]
  exact hwire

/-! ## The receiver's end -/

/-- The receiver's end of the link, with the frames `fs` queued; `accepted` says that it has taken a
datagram. -/
structure RtpReceiverOk (fmt : PCMFormat) (r : RtpReceiver × RtpPollMemory)
    (fs : List (PcmFrame fmt.channels.toNat)) (accepted : Bool) : Prop where
  ready : r.1.ready = true
  noDynamicPt : r.1.dynamicL16Pt = 0xFF
  noDynamicChannels : r.1.dynamicL16Channels = 0
  queue : r.1.queue.contents = hostImage fs
  /-- The sample rate is the caller's, or the default once a packet has come in. -/
  rate : fmt.sampleRate = if r.1.format.sampleRate = 0 then 8000 else r.1.format.sampleRate
  locked : accepted = true → r.1.format = fmt
  fresh : accepted = false → fs = []

/-- The payload type determines the channel count. -/
theorem l16Channels_l16PayloadType {r : RtpReceiver} (hdyn : r.dynamicL16Pt = 0xFF)
    {fmt : PCMFormat} (hch : fmt.channels = 1 ∨ fmt.channels = 2) :
    r.l16Channels (l16PayloadType fmt) = fmt.channels ∧
      r.treatsAsL16 (l16PayloadType fmt) = true ∧ l16PayloadType fmt ≤ 0x7F := by
  rcases hch with h | h <;>
    simp [RtpReceiver.l16Channels, RtpReceiver.treatsAsL16, l16PayloadType, h, hdyn, ptL16Mono,
      ptL16Stereo]

section Carrier

variable [PCMFlow] {fmt : PCMFormat}

/-- Polling a datagram of the stream queues its frames. -/
theorem RtpReceiverOk.poll (hch : fmt.channels = 1 ∨ fmt.channels = 2)
    (hbits : fmt.bitsPerSample = 16) {r : RtpReceiver × RtpPollMemory}
    {fs : List (PcmFrame fmt.channels.toNat)} {accepted : Bool} (h : RtpReceiverOk fmt r fs accepted)
    {d : List UInt8} (hd : IsL16Packet fmt.channels.toNat (l16PayloadType fmt) d)
    (hfits : r.1.queue.count + (d.length - kRtpHeaderBytes) ≤ r.1.queue.cap) :
    (rtpCarrier.poll r (Inbound.ofDatagram d)).1 = true ∧
      RtpReceiverOk fmt (rtpCarrier.poll r (Inbound.ofDatagram d)).2
        (fs ++ l16Frames fmt.channels.toNat d) true := by
  obtain ⟨hdr, gs, hpt, hmax, rfl⟩ := hd
  obtain ⟨hchan, hl16, hle⟩ := l16Channels_l16PayloadType h.noDynamicPt hch
  have hc : 0 < fmt.channels.toNat := by rcases hch with hc | hc <;> rw [hc] <;> decide
  have hlen := length_netImage gs
  obtain ⟨hack, hrecv⟩ := RtpReceiver.poll_emitted h.ready r.2 (hpt ▸ hle)
    (show (netImage gs).length ≤ kRtpMaxPayloadBytes by rw [hlen]; exact hmax)
  have hpt' : hdr.emitted.payloadType = l16PayloadType fmt := hpt
  have hchan' : (r.1.noteHeader hdr.emitted).l16Channels (l16PayloadType fmt) = fmt.channels := hchan
  have hroom : r.1.queue.count + gs.length * (fmt.channels.toNat * 2) ≤ r.1.queue.cap := by
    rw [List.length_append, hlen, length_rtpHeaderBytes] at hfits
    rwa [show 12 + gs.length * (fmt.channels.toNat * 2) - kRtpHeaderBytes
      = gs.length * (fmt.channels.toNat * 2) from Nat.add_sub_cancel_left _ _] at hfits
  -- the wire format is the sender's, so the frames are queued as they were sent
  have hformat : r.1.l16Format (l16PayloadType fmt) = fmt := by
    rw [RtpReceiver.l16Format, hchan, ← h.rate, ← hbits]
  have hqueue : r.1.dispatch hdr.emitted (netImage gs)
      = { r.1.noteHeader hdr.emitted with
          format := fmt, queue := r.1.queue.push (hostImage gs) } := by
    have hq := RtpReceiver.queueL16_netImage (r.1.noteHeader hdr.emitted)
      (congrArg UInt8.toNat hchan') gs
    rw [RtpReceiver.dispatch, hpt', if_pos hl16, hq]
    congr 1
  rw [l16Frames_encoded hc]
  refine ⟨hack, ?_⟩
  have hstate : (rtpCarrier.poll r (Inbound.ofDatagram (rtpHeaderBytes hdr ++ netImage gs))).2.1
      = { r.1.noteHeader hdr.emitted with
          format := fmt, queue := r.1.queue.push (hostImage gs) } := hrecv.trans hqueue
  constructor
  · rw [hstate]; exact h.ready
  · rw [hstate]; exact h.noDynamicPt
  · rw [hstate]; exact h.noDynamicChannels
  · rw [hstate]; exact push_frames h.queue hroom
  · rw [hstate]
    have hne : fmt.sampleRate ≠ 0 := by
      rw [h.rate]
      split
      · decide
      · assumption
    exact (if_neg hne).symm
  · rw [hstate]; exact fun _ => rfl
  · simp

/-- **Every call moves the frames as `Carrier.Delivers` says.** -/
theorem rtpCarrier_delivers (hch : fmt.channels = 1 ∨ fmt.channels = 2)
    (hbits : fmt.bitsPerSample = 16) :
    (rtpCarrier).Delivers fmt (l16Frames fmt.channels.toNat)
      (RtpSenderOk fmt.channels.toNat (l16PayloadType fmt))
      (IsL16Packet fmt.channels.toNat (l16PayloadType fmt)) (RtpReceiverOk fmt) where
  channels_pos := by rcases hch with h | h <;> rw [h] <;> decide
  write s fs gs h := by
    obtain ⟨packets, s', hwrite, hemits, hflat, hlt⟩ :=
      RtpSender.writeFrames_spec h.mode h.ready h.pending_lt (hostImage gs) gs.length
    obtain ⟨hs', ds, hds, hwire, hpay⟩ := h.emits hemits hlt
    refine ⟨s', ds, _, hwrite, hs', hds, hwire, ?_⟩
    rw [hpay, hflat, memFrames_hostImage h.mode.channels_pos, h.pending]
  flush s fs h := by
    obtain ⟨packets, hemits, hflat, hzero⟩ := RtpSender.flush_spec h.mode h.ready h.pending_lt
    have hlt : s.flush.2.pendingFrames < s.flush.2.samplesPerPacket.toNat := by
      rw [hzero]
      exact (hemits.setup.l16Mode h.mode).samplesPerPacket_pos
    obtain ⟨hs', ds, hds, hwire, hpay⟩ := h.emits hemits hlt
    rw [RtpSender.scratch.pending_eq_nil h.mode.channels_pos hzero] at hs'
    exact ⟨ds, hs', hds, hwire, by rw [hpay, hflat, h.pending]⟩
  idle r fs b h := by
    have hid : (rtpCarrier.poll r Inbound.empty).2 = r := by
      show ((r.1.poll r.2 Inbound.empty).2.1, (r.1.poll r.2 Inbound.empty).2.2) = r
      rw [RtpReceiver.poll_empty]
    rwa [hid]
  poll r fs b d h hd hfits := h.poll hch hbits hd hfits
  read r fs b n h := by
    have hbpf : fs ≠ [] → r.1.format.bytesPerFrame = fmt.channels.toNat * 2 := by
      intro hne
      have hacc : b = true := by
        cases b
        · exact absurd (h.fresh rfl) hne
        · rfl
      rw [h.locked hacc, PCMFormat.bytesPerFrame_pcm16 hbits]
    obtain ⟨k, queue, hk, hread, hcont, -⟩ := RtpReceiver.readFrames_frames h.queue hbpf true n
    refine ⟨k, ({ r.1 with queue }, r.2), hk, ?_, ?_⟩
    · show ((r.1.readFrames true n).1, (r.1.readFrames true n).2.1,
        ((r.1.readFrames true n).2.2, r.2)) = _
      rw [hread]
    · exact ⟨h.ready, h.noDynamicPt, h.noDynamicChannels, hcont, h.rate, h.locked,
        fun hb => by rw [h.fresh hb, List.drop_nil]⟩
  queue r fs b h := h.queue
  format r fs h := h.locked rfl

/-- The format that a receiver reports once it has taken an L16 packet with that many channels: RTP does
not carry the sample rate, which is the caller's or else 8000. -/
def lockedFormat (r : RtpReceiver) (channels : UInt8) : PCMFormat where
  sampleRate := if r.format.sampleRate = 0 then 8000 else r.format.sampleRate
  channels := channels
  bitsPerSample := 16

/-- **RTP L16 stream identity.** A sender opened with one or two channels over a UDP object on which
every send succeeds, and a freshly begun receiver with no dynamic L16 payload type: whatever the
calls at both ends, as long as the ring never has to overflow, every poll of a datagram returns true,
the receiver's channel count is the sender's, and the frames arrive as they were written. -/
theorem rtp_stream_identity (hch : fmt.channels = 1 ∨ fmt.channels = 2) {s : RtpSender}
    (hopen : s.Opened fmt) (hrel : s.udp.Reliable) {r : RtpReceiver}
    (hdyn : r.dynamicL16Pt = 0xFF ∧ r.dynamicL16Channels = 0) (mem : RtpPollMemory)
    (ops : List (LinkOp fmt.channels.toNat))
    (hfits : Admissible (rtpCarrier).step (rtpCarrier).Fits
      ((rtpCarrier).start s ((r.begin 1).2, mem)) ops) :
    ∃ l, run (rtpCarrier).step ((rtpCarrier).start s ((r.begin 1).2, mem)) ops = some l ∧
      (rtpCarrier).Identity (lockedFormat r fmt.channels) (l16Frames fmt.channels.toNat) l := by
  obtain ⟨hmode, hready, hpend, hpt⟩ := hopen.spec
  have hsender : RtpSenderOk fmt.channels.toNat (l16PayloadType fmt) s [] :=
    { mode := hmode
      ready := hready
      payloadType := hpt
      pending_lt := by rw [hpend]; exact hmode.samplesPerPacket_pos
      pending := RtpSender.scratch.pending_eq_nil hmode.channels_pos hpend
      reliable := hrel }
  have hreceiver : RtpReceiverOk (lockedFormat r fmt.channels) ((r.begin 1).2, mem) [] false :=
    { ready := rfl
      noDynamicPt := hdyn.1
      noDynamicChannels := hdyn.2
      queue := r.queue.contents_clear
      rate := rfl
      locked := fun h => absurd h Bool.false_ne_true
      fresh := fun _ => rfl }
  have hlocked : (lockedFormat r fmt.channels).channels = 1 ∨
      (lockedFormat r fmt.channels).channels = 2 := hch
  exact (rtpCarrier_delivers hlocked rfl).identity hsender hreceiver hfits

end Carrier

/-- Two writes, a flush, and a read between two polls. -/
theorem rtp_stream_identity_mono :
    ∃ l, run (@rtpCarrier PCMFlow.documented).step
        ((@rtpCarrier PCMFlow.documented).start
          (@RtpSender.setFormat PCMFlow.documented
            ((RtpSender.new fun _ => {}).begin 5004 1 ⟨2, 3, 4⟩).2 ⟨50, 1, 16⟩).2
          ((RtpReceiver.begin {} 1).2, {}))
        [.write [⟨[1], rfl⟩], .poll true, .write [⟨[-2], rfl⟩], .read 5, .flush, .poll true] = some l ∧
      (@rtpCarrier PCMFlow.documented).Identity (lockedFormat {} 1) (l16Frames 1) l := by
  refine @rtp_stream_identity PCMFlow.documented ⟨50, 1, 16⟩ (.inl rfl) _
    ⟨RtpSender.new fun _ => {}, 5004, 1, ⟨2, 3, 4⟩, by decide, by decide, .inl rfl⟩
    (fun _ => ⟨rfl, rfl⟩) {} ⟨rfl, rfl⟩ {} _ ?_
  decide +kernel

end PcmFlowUdp
