import PcmFlowUdp.Link
import PcmFlowUdp.Vban.Packetizer
import PcmFlowUdp.Vban.Reception

/-! # VBAN end to end

`vbanCarrier` puts a `VbanSender` and a `VbanReceiver` at the two ends of a link. With one or two
channels, a sample rate of the table and a receiver that does not filter the stream out, it delivers
what is written (`vbanCarrier_delivers`):

* **`vban_stream_identity`** — the frames read and queued are exactly the frames carried by the
  datagrams polled, and these are a prefix of the frames written. -/

namespace PcmFlowUdp

open ByteTransport PcmFrame

/-- The name array that a C string pointer is stored as. -/
def storedName : Option (List UInt8) → VbanName
  | none => VbanName.zero
  | some name => VbanName.ofCString name

/-- A stored name is stored unchanged. -/
theorem ofCString_storedName (streamName : Option (List UInt8)) :
    VbanName.ofCString (storedName streamName).cells = storedName streamName := by
  cases streamName with
  | none => exact Buffer.ext (by decide +kernel)
  | some name => exact VbanName.ofCString_cells name

/-- The state of a sender on which `begin` with this name and `setFormat fmt` have just succeeded, in
either order. -/
def VbanSender.Opened [PCMFlow] (fmt : PCMFormat) (streamName : Option (List UInt8))
    (s : VbanSender) : Prop :=
  ∃ (s₀ : VbanSender) (destPort : UInt16),
    (s₀.begin destPort streamName).1 = true ∧ (s₀.setFormat fmt).1 = true ∧
      (s = ((s₀.begin destPort streamName).2.setFormat fmt).2 ∨
        s = ((s₀.setFormat fmt).2.begin destPort streamName).2)

/-- What `begin` and `setFormat` establish. -/
theorem VbanSender.Opened.spec [PCMFlow] {fmt : PCMFormat} {streamName : Option (List UInt8)}
    {s : VbanSender} (h : s.Opened fmt streamName) :
    VbanSender.AudioMode fmt.channels.toNat s ∧ s.ready = true ∧ s.pendingFrames = 0 ∧
      s.format = fmt ∧ s.streamName = storedName streamName ∧
      vbanSampleRateHz s.sampleRateIndex = fmt.sampleRate ∧ fmt.sampleRate ≠ 0 ∧
      fmt.bitsPerSample = 16 := by
  obtain ⟨s₀, destPort, hbegin, hset, hs⟩ := h
  have hready : (destPort != 0) = true := hbegin
  have hfmt : fmt.isValid = true ∧ fmt.bitsPerSample = 16 ∧
      vbanSampleRateIndex fmt.sampleRate ≠ kVbanSampleRateInvalid := by
    rcases s₀.setFormat_cases fmt with ⟨error, heq⟩ | hok
    · rw [heq] at hset
      exact absurd hset Bool.false_ne_true
    · exact hok
  have hrate := vbanSampleRateHz_index hfmt.2.2
  have hne := PCMFormat.sampleRate_ne_zero hfmt.1
  have hname : (s₀.begin destPort streamName).2.streamName = storedName streamName := by
    cases streamName <;> rfl
  -- `begin` and `setFormat` do not undo one another
  rcases hs with rfl | rfl
  · obtain ⟨-, hmode, heq⟩ :=
      (s₀.begin destPort streamName).2.setFormat_spec hfmt.1 hfmt.2.1 hfmt.2.2
    rw [heq] at hmode ⊢
    exact ⟨hmode, hready, rfl, rfl, hname, hrate, hne, hfmt.2.1⟩
  · obtain ⟨-, hmode, heq⟩ := s₀.setFormat_spec hfmt.1 hfmt.2.1 hfmt.2.2
    rw [heq] at hmode ⊢
    exact ⟨{ hmode with }, hready, rfl, rfl, hname, hrate, hne, hfmt.2.1⟩

/-- A VBAN sender and receiver at the two ends of a link. -/
def vbanCarrier [PCMFlow] : Carrier VbanSender (VbanReceiver × VbanPollMemory) where
  writeFrames := VbanSender.writeFrames
  flush := VbanSender.flush
  udp s := s.udp
  poll r io :=
    let (ok, receiver, buf) := r.1.poll r.2 io
    (ok, (receiver, buf))
  readFrames r nonNull frameCount :=
    let (k, out, receiver) := r.1.readFrames nonNull frameCount
    (k, out, (receiver, r.2))
  queue r := r.1.queue
  format r := r.1.format
  headerBytes := kVbanHeaderBytes

/-! ## The sender's end -/

/-- The header of a packet of the stream, up to its frame counter and number of samples. -/
structure IsStreamHeader (fmt : PCMFormat) (name : VbanName) (h : VbanAudioHeader) : Prop where
  sampleRateIndex_le : h.sampleRateIndex ≤ 20
  rate : vbanSampleRateHz h.sampleRateIndex = fmt.sampleRate
  numChannels : h.numChannels = fmt.channels.toUInt16
  subCodec : h.subCodec = .pcm16
  streamName : h.streamName = name

/-- A datagram of the stream: whole frames in host byte order behind a header that counts them. -/
def IsVbanPacket (fmt : PCMFormat) (name : VbanName) (d : List UInt8) : Prop :=
  ∃ (h : VbanAudioHeader) (fs : List (PcmFrame fmt.channels.toNat)), IsStreamHeader fmt name h ∧
    fs ≠ [] ∧ fs.length ≤ 256 ∧ fs.length * (fmt.channels.toNat * 2) ≤ kVbanMaxPayloadBytes ∧
    d = audioHeaderBytes { h with numSamples := UInt16.ofNat fs.length } ++ hostImage fs

/-- The frames that a datagram carries. -/
def vbanFrames (c : ℕ) (d : List UInt8) : List (PcmFrame c) :=
  hostFrames c (d.drop kVbanHeaderBytes)

/-- The frames that were put in a packet are those in it. -/
theorem vbanFrames_encoded {c : ℕ} (hc : 0 < c) (h : VbanAudioHeader) (fs : List (PcmFrame c)) :
    vbanFrames c (audioHeaderBytes h ++ hostImage fs) = fs := by
  have hdrop : (audioHeaderBytes h ++ hostImage fs).drop kVbanHeaderBytes = hostImage fs :=
    List.drop_left' (length_vbanHeaderBytes _ _ _ _ _ _)
  rw [vbanFrames, hdrop, hostFrames_hostImage hc]

/-- Over a reliable UDP object every packet leaves, in order. -/
theorem VbanOutlet.sendAll_datagrams {fmt : PCMFormat} {name : VbanName}
    (hc : 0 < fmt.channels.toNat) (packets : List (List (PcmFrame fmt.channels.toNat)))
    {o : VbanOutlet} (hhead : IsStreamHeader fmt name o.header) (hrel : o.udp.Reliable)
    (hmax : ∀ frames ∈ packets, frames ≠ [] ∧ frames.length ≤ 256 ∧
      frames.length * (fmt.channels.toNat * 2) ≤ kVbanMaxPayloadBytes) :
    ∃ ds, (o.sendAll packets).udp.datagrams = o.udp.datagrams ++ ds ∧
      (o.sendAll packets).udp.Reliable ∧ IsStreamHeader fmt name (o.sendAll packets).header ∧
      (∀ d ∈ ds, IsVbanPacket fmt name d) ∧
      ds.flatMap (vbanFrames fmt.channels.toNat) = packets.flatten := by
  induction packets generalizing o with
  | nil => exact ⟨[], by simp [sendAll], hrel, hhead, by simp, rfl⟩
  | cons frames packets ih =>
    have hsent : (o.send frames).udp.datagrams = o.udp.datagrams ++ [o.packet frames] :=
      hrel.datagrams_transmit _
    have hhead' : IsStreamHeader fmt name (o.send frames).header := { hhead with }
    have hrel' : (o.send frames).udp.Reliable := hrel
    obtain ⟨ds, hds, hrel'', hhead'', hwire, hflat⟩ :=
      ih hhead' hrel' fun frames hmem => hmax frames (List.mem_cons_of_mem _ hmem)
    have hcons : o.sendAll (frames :: packets) = (o.send frames).sendAll packets := rfl
    obtain ⟨hne, hle, hcap⟩ := hmax frames List.mem_cons_self
    refine ⟨o.packet frames :: ds, ?_, hcons ▸ hrel'', hcons ▸ hhead'', ?_, ?_⟩
    · rw [hcons, hds, hsent, List.append_assoc, List.singleton_append]
    · intro d hmem
      rcases List.mem_cons.mp hmem with rfl | hold
      · exact ⟨o.header, frames, hhead, hne, hle, hcap, rfl⟩
      · exact hwire d hold
    · rw [List.flatMap_cons, hflat, packet, vbanFrames_encoded hc, List.flatten_cons]

/-- The sender's end of the link, with the frames `fs` pending. -/
structure VbanSenderOk (fmt : PCMFormat) (name : VbanName) (s : VbanSender)
    (fs : List (PcmFrame fmt.channels.toNat)) [PCMFlow] : Prop where
  mode : VbanSender.AudioMode fmt.channels.toNat s
  ready : s.ready = true
  header : IsStreamHeader fmt name s.outlet.header
  pending_lt : s.pendingFrames < s.samplesPerPacket.toNat
  pending : (VbanSender.scratch).pending fmt.channels.toNat s = fs
  reliable : s.udp.Reliable

/-- Emissions over a reliable UDP object put their frames on the wire. -/
theorem VbanSenderOk.emits [PCMFlow] {fmt : PCMFormat} {name : VbanName} {s s' : VbanSender}
    {fs : List (PcmFrame fmt.channels.toNat)} (h : VbanSenderOk fmt name s fs)
    {packets : List (List (PcmFrame fmt.channels.toNat))} (hemits : VbanSender.Emits s packets s')
    (hlt : s'.pendingFrames < s'.samplesPerPacket.toNat) :
    VbanSenderOk fmt name s' ((VbanSender.scratch).pending fmt.channels.toNat s') ∧
      ∃ ds, s'.udp.datagrams = s.udp.datagrams ++ ds ∧ (∀ d ∈ ds, IsVbanPacket fmt name d) ∧
        ds.flatMap (vbanFrames fmt.channels.toNat) = packets.flatten := by
  have hmax : ∀ frames ∈ packets, frames ≠ [] ∧ frames.length ≤ 256 ∧
      frames.length * (fmt.channels.toNat * 2) ≤ kVbanMaxPayloadBytes := by
    intro frames hmem
    obtain ⟨hne, hle⟩ := hemits.sizes frames hmem
    exact ⟨hne, hle.trans h.mode.samplesPerPacket_le, (Nat.mul_le_mul_right _ hle).trans h.mode.fits⟩
  have hrel : s.outlet.udp.Reliable := h.reliable
  obtain ⟨ds, hds, hrel', hhead, hwire, hflat⟩ :=
    VbanOutlet.sendAll_datagrams h.mode.channels_pos packets h.header hrel hmax
  have hout : s'.udp = (s.outlet.sendAll packets).udp := congrArg VbanOutlet.udp hemits.outlet
  exact ⟨⟨h.mode.of_setup hemits.setup, hemits.setup.ready.trans h.ready, hemits.outlet ▸ hhead, hlt,
    rfl, hout ▸ hrel'⟩, ds, hout ▸ hds, hwire, hflat⟩

/-! ## The receiver's end -/

/-- The receiver's end of the link, with the frames `fs` queued; `accepted` says that it has taken a
datagram. -/
structure VbanReceiverOk (fmt : PCMFormat) (name : VbanName) (r : VbanReceiver × VbanPollMemory)
    (fs : List (PcmFrame fmt.channels.toNat)) (accepted : Bool) : Prop where
  ready : r.1.ready = true
  filter : r.1.filterEnabled = true → r.1.filterName = name
  queue : r.1.queue.contents = hostImage fs
  locked : accepted = true → r.1.format = fmt
  fresh : accepted = false → r.1.format.sampleRate = 0 ∧ fs = []

section Carrier

variable [PCMFlow] {fmt : PCMFormat} {name : VbanName}

/-- Polling a datagram of the stream queues its frames. -/
theorem VbanReceiverOk.poll (hch : fmt.channels = 1 ∨ fmt.channels = 2)
    (hbits : fmt.bitsPerSample = 16) (hne : fmt.sampleRate ≠ 0)
    (hname : VbanName.ofCString name.cells = name) {r : VbanReceiver × VbanPollMemory}
    {fs : List (PcmFrame fmt.channels.toNat)} {accepted : Bool}
    (h : VbanReceiverOk fmt name r fs accepted) {d : List UInt8} (hd : IsVbanPacket fmt name d)
    (hfits : r.1.queue.count + (d.length - kVbanHeaderBytes) ≤ r.1.queue.cap) :
    ((vbanCarrier).poll r (Inbound.ofDatagram d)).1 = true ∧
      VbanReceiverOk fmt name ((vbanCarrier).poll r (Inbound.ofDatagram d)).2
        (fs ++ vbanFrames fmt.channels.toNat d) true := by
  obtain ⟨hdr, gs, hhead, hgs, hle, hmax, rfl⟩ := hd
  have hc : 0 < fmt.channels.toNat := by rcases hch with hc | hc <;> rw [hc] <;> decide
  have hpos : 0 < gs.length := List.length_pos_iff.mpr hgs
  obtain ⟨hnum, hsamples⟩ := numSamples_range hpos hle
  have hchannels : 1 ≤ hdr.numChannels ∧ hdr.numChannels ≤ 256 := by
    rw [hhead.numChannels]
    rcases hch with hc | hc <;> rw [hc] <;> decide
  set h' : VbanAudioHeader := { hdr with numSamples := UInt16.ofNat gs.length } with hh'
  have hlen28 : (audioHeaderBytes h').length = kVbanHeaderBytes := length_vbanHeaderBytes _ _ _ _ _ _
  have himage := length_hostImage gs
  -- the whole datagram fits the receive buffer
  have hwhole : (audioHeaderBytes h' ++ hostImage gs).take kVbanMaxPacketBytes
      = audioHeaderBytes h' ++ hostImage gs := by
    apply List.take_of_length_le
    rw [List.length_append, hlen28, himage]
    exact Nat.add_le_add_left hmax _
  have hne0 : audioHeaderBytes h' ++ hostImage gs ≠ [] := by
    intro h0
    have hl := congrArg List.length h0
    rw [List.length_append, hlen28] at hl
    exact absurd hl (by simp [kVbanHeaderBytes])
  have hpoll := VbanReceiver.poll_ofDatagram h.ready r.2 hne0
  have hlock : r.1.format.sampleRate = 0 ∨ r.1.format = fmt := by
    cases accepted
    · exact .inl (h.fresh rfl).1
    · exact .inr (h.locked rfl)
  have hacc := VbanReceiver.pollAudio_accepts (r := r.1)
    (h := { h' with streamName := VbanName.ofCString h'.streamName.cells })
    (fun hen => by rw [h.filter hen, hh', ← hname, ← hhead.streamName])
    hhead.subCodec hhead.rate hne hhead.numChannels hch hbits hlock hnum
  have hrecv : r.1.receive (audioHeaderBytes h' ++ hostImage gs)
      = r.1.pollAudio { h' with streamName := VbanName.ofCString h'.streamName.cells } (hostImage gs) :=
    r.1.receive_emitted (h := h') hhead.sampleRateIndex_le hsamples hchannels _
  rw [hwhole, hrecv, hacc] at hpoll
  have hack : (r.1.poll r.2 (Inbound.ofDatagram (audioHeaderBytes h' ++ hostImage gs))).1 = true :=
    congrArg Prod.fst hpoll
  have hstate := congrArg Prod.snd hpoll
  have hroom : r.1.queue.count + gs.length * (fmt.channels.toNat * 2) ≤ r.1.queue.cap := by
    rw [List.length_append, hlen28, himage, Nat.add_sub_cancel_left] at hfits
    exact hfits
  rw [vbanFrames_encoded hc]
  refine ⟨hack, ?_⟩
  constructor
  · exact (congrArg VbanReceiver.ready hstate).trans h.ready
  · intro hen
    exact (congrArg VbanReceiver.filterName hstate).trans
      (h.filter ((congrArg VbanReceiver.filterEnabled hstate).symm.trans hen))
  · exact (congrArg (fun r => r.queue.contents) hstate).trans (push_frames h.queue hroom)
  · exact fun _ => congrArg VbanReceiver.format hstate
  · simp

/-- **Every call moves the frames as `Carrier.Delivers` says.** -/
theorem vbanCarrier_delivers (hch : fmt.channels = 1 ∨ fmt.channels = 2)
    (hbits : fmt.bitsPerSample = 16) (hne : fmt.sampleRate ≠ 0)
    (hname : VbanName.ofCString name.cells = name) :
    (vbanCarrier).Delivers fmt (vbanFrames fmt.channels.toNat)
      (VbanSenderOk fmt name · ·) (IsVbanPacket fmt name) (VbanReceiverOk fmt name) where
  channels_pos := by rcases hch with h | h <;> rw [h] <;> decide
  write s fs gs h := by
    obtain ⟨packets, s', hwrite, hemits, hflat, hlt⟩ :=
      VbanSender.writeFrames_spec h.mode h.ready h.pending_lt (hostImage gs) gs.length
    obtain ⟨hs', ds, hds, hwire, hpay⟩ := h.emits hemits hlt
    refine ⟨s', ds, _, hwrite, hs', hds, hwire, ?_⟩
    rw [hpay, hflat, memFrames_hostImage h.mode.channels_pos, h.pending]
  flush s fs h := by
    obtain ⟨packets, hemits, hflat, hzero⟩ := VbanSender.flush_spec h.mode h.ready h.pending_lt
    have hlt : s.flush.2.pendingFrames < s.flush.2.samplesPerPacket.toNat := by
      rw [hzero]
      exact (h.mode.of_setup hemits.setup).samplesPerPacket_pos
    obtain ⟨hs', ds, hds, hwire, hpay⟩ := h.emits hemits hlt
    rw [(VbanSender.scratch).pending_eq_nil h.mode.channels_pos hzero] at hs'
    exact ⟨ds, hs', hds, hwire, by rw [hpay, hflat, h.pending]⟩
  idle r fs b h := by
    have hid : ((vbanCarrier).poll r Inbound.empty).2 = r := by
      show ((r.1.poll r.2 Inbound.empty).2.1, (r.1.poll r.2 Inbound.empty).2.2) = r
      rw [VbanReceiver.poll_empty]
    rwa [hid]
  poll r fs b d h hd hfits := h.poll hch hbits hne hname hd hfits
  read r fs b n h := by
    -- frames are queued only after an accepted packet, and that one has locked the format
    have hbpf : fs ≠ [] → r.1.format.bytesPerFrame = fmt.channels.toNat * 2 := by
      intro hfs
      have hacc : b = true := by
        cases b
        · exact absurd (h.fresh rfl).2 hfs
        · rfl
      rw [h.locked hacc, PCMFormat.bytesPerFrame_pcm16 hbits]
    obtain ⟨k, queue, hk, hread, hcont, -⟩ := VbanReceiver.readFrames_frames h.queue hbpf true n
    refine ⟨k, ({ r.1 with queue }, r.2), hk, ?_, ?_⟩
    · show ((r.1.readFrames true n).1, (r.1.readFrames true n).2.1,
        ((r.1.readFrames true n).2.2, r.2)) = _
      rw [hread]
    · exact ⟨h.ready, h.filter, hcont, h.locked,
        fun hb => ⟨(h.fresh hb).1, by rw [(h.fresh hb).2, List.drop_nil]⟩⟩
  queue r fs b h := h.queue
  format r fs h := h.locked rfl

/-- **VBAN stream identity.** A sender opened with a sample rate of the table and one or two channels
over a UDP object on which every send succeeds, and a freshly begun receiver with no filter or the
same name: whatever the calls at both ends, as long as the ring never has to overflow, every poll of
a datagram returns true, the receiver's format is the sender's, and the frames arrive as they were
written. -/
theorem vban_stream_identity (hch : fmt.channels = 1 ∨ fmt.channels = 2)
    {streamName : Option (List UInt8)} {s : VbanSender} (hopen : s.Opened fmt streamName)
    (hrel : s.udp.Reliable) (r : VbanReceiver) {filter : Option (List UInt8)}
    (hfilter : filter = none ∨ filter = some [] ∨ filter = streamName) (buf : VbanPollMemory)
    (ops : List (LinkOp fmt.channels.toNat))
    (hfits : Admissible (vbanCarrier).step (vbanCarrier).Fits
      ((vbanCarrier).start s ((r.begin filter 1).2, buf)) ops) :
    ∃ l, run (vbanCarrier).step ((vbanCarrier).start s ((r.begin filter 1).2, buf)) ops = some l ∧
      (vbanCarrier).Identity fmt (vbanFrames fmt.channels.toNat) l := by
  obtain ⟨hmode, hready, hpend, hfmt, hname, hrate, hne, hbits⟩ := hopen.spec
  have hsender : VbanSenderOk fmt (storedName streamName) s [] :=
    { mode := hmode
      ready := hready
      header := ⟨hmode.sampleRateIndex_le, hrate, congrArg (fun f => f.channels.toUInt16) hfmt, rfl,
        hname⟩
      pending_lt := by rw [hpend]; exact hmode.samplesPerPacket_pos
      pending := (VbanSender.scratch).pending_eq_nil hmode.channels_pos hpend
      reliable := hrel }
  -- of the three filters only the one of the same name is in force
  have hpasses : (r.begin filter 1).2.filterEnabled = true →
      (r.begin filter 1).2.filterName = storedName streamName := by
    rcases hfilter with rfl | rfl | hsame
    · exact fun h => absurd h Bool.false_ne_true
    · exact fun h => absurd (show (byteAt [] 0 != 0) = true from h) (by decide)
    · rw [← hsame]
      cases filter with
      | none => exact fun h => absurd h Bool.false_ne_true
      | some name => exact fun h => if_pos h
  have hreceiver : VbanReceiverOk fmt (storedName streamName) ((r.begin filter 1).2, buf) [] false :=
    { ready := rfl
      filter := hpasses
      queue := r.queue.contents_clear
      locked := fun h => absurd h Bool.false_ne_true
      fresh := fun _ => ⟨rfl, rfl⟩ }
  exact (vbanCarrier_delivers hch hbits hne (ofCString_storedName streamName)).identity hsender
    hreceiver hfits

end Carrier

/-- Two writes, a flush, and a read between two polls, under a name. -/
theorem vban_stream_identity_stereo :
    ∃ l, run (@vbanCarrier PCMFlow.documented).step
        ((@vbanCarrier PCMFlow.documented).start
          (@VbanSender.setFormat PCMFlow.documented
            ((VbanSender.new fun _ => {}).begin 6980 (some [0x61])).2 ⟨48000, 2, 16⟩).2
          ((VbanReceiver.begin {} (some [0x61]) 1).2, Buffer.filled _ 0))
        [.write [⟨[1, -1], rfl⟩], .flush, .poll true, .write [⟨[-2, 3], rfl⟩, ⟨[4, 5], rfl⟩], .read 5,
          .flush, .poll true] = some l ∧
      (@vbanCarrier PCMFlow.documented).Identity ⟨48000, 2, 16⟩ (vbanFrames 2) l := by
  refine @vban_stream_identity PCMFlow.documented ⟨48000, 2, 16⟩ (.inr rfl) (some [0x61]) _
    ⟨VbanSender.new fun _ => {}, 6980, by decide, by decide, .inl rfl⟩
    (fun _ => ⟨rfl, rfl⟩) {} (some [0x61]) (.inr (.inr rfl)) _ _ ?_
  decide +kernel

end PcmFlowUdp
