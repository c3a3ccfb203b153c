import PcmFlowUdp.Rtp.StreamIdentity

/-! # Both paths of one `RtpSender`

`writeFrames` keeps samples of a partial packet in the packet scratch, and `writeEncoded` builds its packet
in the same scratch. A `MixedSession` makes calls of both kinds and records what each path accepted and
sent.

* **`rtp_mixed_use`** — every `writeEncoded` sends one packet with its own bytes, and the samples on the
  L16 path are those accepted exactly as long as no `writeEncoded` writes other bytes over pending ones
  (`LeavesPending`);
* `encoded_over_pending` — a pending sample replaced by encoded bytes. -/

namespace PcmFlowUdp

open ByteTransport PcmFrame

/-- One call. -/
inductive MixedOp
  | writeFrames (src : Option (List UInt8)) (frameCount : ℕ)
  /-- `writeEncoded` with all of these bytes. -/
  | writeEncoded (bytes : List UInt8)
  | flush

/-- The arguments of a `writeEncoded` are valid. -/
def MixedOp.Valid : MixedOp → Prop
  | .writeEncoded bytes => 0 < bytes.length ∧ bytes.length ≤ kRtpMaxPayloadBytes
  | _ => True

/-- The datagrams that left between two states of a sender. -/
def RtpSender.sentSince (s s' : RtpSender) : List (List UInt8) :=
  s'.udp.datagrams.drop s.udp.datagrams.length

/-- A sender with what went into it and came out of it. -/
structure MixedSession (c : ℕ) where
  sender : RtpSender
  /-- The frames that `writeFrames` accepted. -/
  accepted : List (PcmFrame c) := []
  /-- The datagrams of the L16 path. -/
  l16 : List (List UInt8) := []
  /-- The bytes that `writeEncoded` was given. -/
  written : List (List UInt8) := []
  /-- The datagrams of the encoded path. -/
  encoded : List (List UInt8) := []

namespace MixedSession

variable {c : ℕ}

/-- One call. -/
def step [PCMFlow] (m : MixedSession c) : MixedOp → Option (MixedSession c)
  | .writeFrames src frameCount =>
      (m.sender.writeFrames src frameCount).map fun (n, sender) =>
        { m with
          sender
          accepted := m.accepted ++ memFrames c (src.getD []) n
          l16 := m.l16 ++ m.sender.sentSince sender }
  | .writeEncoded bytes =>
      let sender := (m.sender.writeEncoded (some bytes) bytes.length).2
      some
        { m with
          sender
          written := m.written ++ [bytes]
          encoded := m.encoded ++ m.sender.sentSince sender }
  | .flush =>
      let sender := m.sender.flush.2
      some { m with sender, l16 := m.l16 ++ m.sender.sentSince sender }

/-- The frames that left on the L16 path, then those that are pending. -/
def audio (m : MixedSession c) : List (PcmFrame c) :=
  m.l16.flatMap (l16Frames c) ++ RtpSender.scratch.pending c m.sender

/-- PCM integrity: the audio is what was accepted, and every `writeEncoded` sent one packet with its own
bytes. -/
structure Integrity (m : MixedSession c) : Prop where
  audio : m.audio = m.accepted
  packets : m.encoded.map (List.drop kRtpHeaderBytes) = m.written

/-- The bytes that a `writeEncoded` writes over pending ones are those that are there. This is so if
nothing is pending. -/
def LeavesPending (m : MixedSession c) : MixedOp → Prop
  | .writeEncoded bytes =>
      bytes.take (RtpSender.scratch.pendingBytes c m.sender).length
        = (RtpSender.scratch.pendingBytes c m.sender).take bytes.length
  | _ => True

instance (m : MixedSession c) (op : MixedOp) : Decidable (m.LeavesPending op) :=
  match op with
  | .writeFrames _ _ => isTrue trivial
  | .writeEncoded _ => inferInstanceAs (Decidable (_ = _))
  | .flush => isTrue trivial

/-- What every call keeps, whatever it writes over. -/
structure Inv (pt : UInt8) (m : MixedSession c) : Prop where
  sender : RtpSenderOk c pt m.sender (RtpSender.scratch.pending c m.sender)
  packets : m.encoded.map (List.drop kRtpHeaderBytes) = m.written

end MixedSession

/-! ## The encoded path over pending frames -/

namespace RtpSender

variable {c : ℕ} {s : RtpSender}

/-- What `writeEncoded` does to the pending bytes: its own bytes come first. -/
theorem pendingBytes_writeEncoded (h : L16Mode c s) (hready : s.ready = true)
    (hle : s.pendingFrames ≤ s.samplesPerPacket.toNat) {bytes : List UInt8} (hpos : 0 < bytes.length)
    (hmax : bytes.length ≤ kRtpMaxPayloadBytes) :
    scratch.pendingBytes c (s.writeEncoded (some bytes) bytes.length).2
      = bytes.take (scratch.pendingBytes c s).length
        ++ (scratch.pendingBytes c s).drop bytes.length := by
  have hread : readMem bytes 0 bytes.length = bytes := by
    rw [readMem_eq (by omega), List.drop_zero, List.take_length]
  have hroom := h.room hle
  rw [writeEncoded_eq hready h.payloadType_le bytes hpos hmax, hread, h.length_pendingBytes hle]
  have hover := (s.packet.blit 0 (rtpHeaderBytes s.nextHeader)).slice_blit_over
    (Nat.add_le_add_left hmax kRtpHeaderBytes) hroom
  -- the header ends where the payload area begins
  rw [Buffer.slice_blit_after s.packet _ (show 0 + 12 ≤ kRtpHeaderBytes from le_rfl)] at hover
  exact hover

/-- The pending frames survive a `writeEncoded` exactly if it writes the bytes that are there. -/
theorem pending_writeEncoded_iff (h : L16Mode c s) (hready : s.ready = true)
    (hle : s.pendingFrames ≤ s.samplesPerPacket.toNat) {bytes : List UInt8} (hpos : 0 < bytes.length)
    (hmax : bytes.length ≤ kRtpMaxPayloadBytes) :
    scratch.pending c (s.writeEncoded (some bytes) bytes.length).2 = scratch.pending c s ↔
      bytes.take (scratch.pendingBytes c s).length
        = (scratch.pendingBytes c s).take bytes.length := by
  have hbytes := pendingBytes_writeEncoded h hready hle hpos hmax
  have hlen := h.length_pendingBytes hle
  have hafter : (scratch.pendingBytes c (s.writeEncoded (some bytes) bytes.length).2).length
      = s.pendingFrames * (c * 2) := by
    rw [hbytes, List.length_append, List.length_take, List.length_drop, hlen]
    omega
  -- frames are equal exactly if their bytes are
  have hframes : scratch.pending c (s.writeEncoded (some bytes) bytes.length).2 = scratch.pending c s ↔
      scratch.pendingBytes c (s.writeEncoded (some bytes) bytes.length).2
        = scratch.pendingBytes c s := by
    constructor
    · intro heq
      have himage := congrArg hostImage heq
      rwa [PacketScratch.pending, PacketScratch.pending,
        hostImage_hostFrames h.channels_pos (Dvd.intro_left _ hafter.symm),
        hostImage_hostFrames h.channels_pos (Dvd.intro_left _ hlen.symm)] at himage
    · intro heq
      rw [PacketScratch.pending, PacketScratch.pending, heq]
  rw [hframes, hbytes]
  constructor
  · intro heq
    have htake := congrArg (List.take bytes.length) heq
    rcases Nat.le_total bytes.length (scratch.pendingBytes c s).length with hshort | hlong
    · rw [List.take_of_length_le hshort] at htake ⊢
      rwa [List.take_left' rfl] at htake
    · rwa [List.drop_of_length_le hlong, List.append_nil, List.take_take,
        min_eq_right hlong] at htake
  · intro heq
    rw [heq, List.take_append_drop]

end RtpSender

namespace MixedSession

section Steps

variable [PCMFlow] {c : ℕ} {pt : UInt8} {m : MixedSession c} (h : Inv pt m)

include h

omit [PCMFlow] in
/-- The L16 path moves frames from what is pending to what was sent. -/
theorem Inv.emits {s' : RtpSender} {packets : List (List (PcmFrame c))}
    (hemits : RtpSender.Emits m.sender packets s')
    (hlt : s'.pendingFrames < s'.samplesPerPacket.toNat) :
    RtpSenderOk c pt s' (RtpSender.scratch.pending c s') ∧
      (m.l16 ++ m.sender.sentSince s').flatMap (l16Frames c)
        = m.l16.flatMap (l16Frames c) ++ packets.flatten := by
  obtain ⟨hs', ds, hds, -, hflat⟩ := h.sender.emits hemits hlt
  refine ⟨hs', ?_⟩
  rw [RtpSender.sentSince, hds, List.drop_left, List.flatMap_append, hflat]

/-- **`writeFrames`** adds the frames it accepts to the audio. -/
theorem Inv.step_writeFrames (src : Option (List UInt8)) (frameCount : ℕ) :
    ∃ m', step m (.writeFrames src frameCount) = some m' ∧ Inv pt m' ∧
      ∃ fs, m'.accepted = m.accepted ++ fs ∧ m'.audio = m.audio ++ fs := by
  have hs := h.sender
  obtain ⟨n, packets, s', heq, hemits, hflat, hlt⟩ :=
    RtpSender.writeFrames_accepted hs.mode hs.ready hs.pending_lt src frameCount
  obtain ⟨hs', hl16⟩ := h.emits hemits hlt
  rw [step, heq]
  refine ⟨_, rfl, ⟨hs', h.packets⟩, memFrames c (src.getD []) n, rfl, ?_⟩
  rw [audio, audio]
  dsimp only
  rw [hl16, List.append_assoc, hflat, List.append_assoc]

/-- **`flush`** leaves the audio as it is. -/
theorem Inv.step_flush :
    ∃ m', step m .flush = some m' ∧ Inv pt m' ∧ m'.accepted = m.accepted ∧ m'.audio = m.audio := by
  have hs := h.sender
  obtain ⟨packets, hemits, hflat, hzero⟩ := RtpSender.flush_spec hs.mode hs.ready hs.pending_lt
  have hlt : m.sender.flush.2.pendingFrames < m.sender.flush.2.samplesPerPacket.toNat := by
    rw [hzero]
    exact (hemits.setup.l16Mode hs.mode).samplesPerPacket_pos
  obtain ⟨hs', hl16⟩ := h.emits hemits hlt
  refine ⟨_, rfl, ⟨hs', h.packets⟩, rfl, ?_⟩
  rw [audio, audio]
  show (m.l16 ++ m.sender.sentSince m.sender.flush.2).flatMap (l16Frames c)
    ++ RtpSender.scratch.pending c m.sender.flush.2 = _
  rw [hl16, hflat, RtpSender.scratch.pending_eq_nil hs.mode.channels_pos hzero, List.append_nil]

/-- **`writeEncoded`** sends its bytes, and leaves the audio as it is exactly if it writes no other bytes
over pending ones. -/
theorem Inv.step_writeEncoded {bytes : List UInt8} (hpos : 0 < bytes.length)
    (hmax : bytes.length ≤ kRtpMaxPayloadBytes) :
    ∃ m', step m (.writeEncoded bytes) = some m' ∧ Inv pt m' ∧ m'.accepted = m.accepted ∧
      (m'.audio = m.audio ↔ m.LeavesPending (.writeEncoded bytes)) := by
  have hs := h.sender
  have hread : readMem bytes 0 bytes.length = bytes := by
    rw [readMem_eq (by omega), List.drop_zero, List.take_length]
  have hiff := RtpSender.pending_writeEncoded_iff hs.mode hs.ready hs.pending_lt.le hpos hmax
  have heq := RtpSender.writeEncoded_eq hs.ready hs.mode.payloadType_le bytes hpos hmax
  rw [hread] at heq
  -- one datagram leaves
  have hsent : m.sender.sentSince (m.sender.writeEncoded (some bytes) bytes.length).2
      = [rtpHeaderBytes m.sender.nextHeader ++ bytes] := by
    have hds := hs.reliable.datagrams_transmit (rtpHeaderBytes m.sender.nextHeader ++ bytes)
    rw [RtpSender.sentSince, heq]
    exact (congrArg (List.drop _) hds).trans List.drop_left
  refine ⟨_, rfl, ⟨?_, ?_⟩, rfl, ?_⟩
  · dsimp only
    rw [heq]
    exact ⟨{ hs.mode with }, hs.ready, hs.payloadType, hs.pending_lt, rfl, hs.reliable⟩
  · have hdrop : (rtpHeaderBytes m.sender.nextHeader ++ bytes).drop kRtpHeaderBytes = bytes :=
      List.drop_left' (length_rtpHeaderBytes m.sender.nextHeader)
    dsimp only
    rw [hsent, List.map_append, h.packets, List.map_cons, List.map_nil, hdrop]
  · rw [audio, audio, LeavesPending, ← hiff]
    exact List.append_right_inj _

/-- **One step.** A valid call completes, and adds to the audio what it accepts exactly if it writes no
other bytes over pending ones. -/
theorem Inv.step {op : MixedOp} (hop : op.Valid) :
    ∃ m' fs, MixedSession.step m op = some m' ∧ Inv pt m' ∧ m'.accepted = m.accepted ++ fs ∧
      (m'.audio = m.audio ++ fs ↔ m.LeavesPending op) := by
  cases op with
  | writeFrames src frameCount =>
    obtain ⟨m', hstep, hinv, fs, haccepted, haudio⟩ := h.step_writeFrames src frameCount
    exact ⟨m', fs, hstep, hinv, haccepted, fun _ => trivial, fun _ => haudio⟩
  | writeEncoded bytes =>
    obtain ⟨m', hstep, hinv, haccepted, hiff⟩ := h.step_writeEncoded hop.1 hop.2
    exact ⟨m', [], hstep, hinv, by rw [haccepted, List.append_nil], by rwa [List.append_nil]⟩
  | flush =>
    obtain ⟨m', hstep, hinv, haccepted, haudio⟩ := h.step_flush
    exact ⟨m', [], hstep, hinv, by rw [haccepted, List.append_nil], fun _ => trivial,
      fun _ => by rw [haudio, List.append_nil]⟩

end Steps

/-- A session with a freshly opened sender. -/
theorem inv_start [PCMFlow] {fmt : PCMFormat} {s : RtpSender} (hopen : s.Opened fmt)
    (hrel : s.udp.Reliable) :
    Inv (l16PayloadType fmt) ({ sender := s } : MixedSession fmt.channels.toNat) ∧
      ({ sender := s } : MixedSession fmt.channels.toNat).audio = [] := by
  obtain ⟨hmode, hready, hpend, hpt⟩ := hopen.spec
  have hlt : s.pendingFrames < s.samplesPerPacket.toNat := by
    rw [hpend]
    exact hmode.samplesPerPacket_pos
  exact ⟨⟨⟨hmode, hready, hpt, hlt, rfl, hrel⟩, rfl⟩,
    RtpSender.scratch.pending_eq_nil hmode.channels_pos hpend⟩

/-- **PCM integrity under mixed use.** For a sender opened with any channel count over a UDP object on
which every send succeeds, and any valid calls: every `writeEncoded` sends one packet with its own bytes;
and the L16 path keeps the samples it accepted in every state of the run exactly if no `writeEncoded`
writes other bytes over pending ones. -/
theorem rtp_mixed_use [PCMFlow] {fmt : PCMFormat} {s : RtpSender} (hopen : s.Opened fmt)
    (hrel : s.udp.Reliable) {ops : List MixedOp} (hops : ∀ op ∈ ops, op.Valid) :
    (∃ m, run step ({ sender := s } : MixedSession fmt.channels.toNat) ops = some m ∧
      m.encoded.map (List.drop kRtpHeaderBytes) = m.written) ∧
    ((∀ js, js <+: ops → ∃ m,
        run step ({ sender := s } : MixedSession fmt.channels.toNat) js = some m ∧ m.Integrity) ↔
      Admissible step LeavesPending ({ sender := s } : MixedSession fmt.channels.toNat) ops) := by
  obtain ⟨hinv, haudio⟩ := inv_start hopen hrel
  have hvalid : Admissible step (fun _ op => op.Valid)
      ({ sender := s } : MixedSession fmt.channels.toNat) ops := admissible_of_mem hops _
  constructor
  · obtain ⟨m, hrun, h⟩ := run_total (fun m op (h : Inv (l16PayloadType fmt) m) hop => by
      obtain ⟨m', -, hstep, hinv', -⟩ := h.step hop
      exact ⟨m', hstep, hinv'⟩) hinv hvalid
    exact ⟨m, hrun, h.packets⟩
  · refine (admissible_iff_good_states (fun m op (h : Inv (l16PayloadType fmt) m) hgood hop => ?_)
      hinv ⟨haudio, rfl⟩ hvalid).symm
    obtain ⟨m', fs, hstep, hinv', haccepted, hiff⟩ := h.step hop
    refine ⟨m', hstep, hinv', ?_⟩
    rw [← hiff, hgood.audio, ← haccepted]
    exact ⟨fun hm => hm.audio, fun hm => ⟨hm, hinv'.packets⟩⟩

/-- A `writeEncoded` between two flushed frames. -/
theorem rtp_mixed_use_flushed :
    ∃ m, run (@step 1 PCMFlow.documented)
        { sender := (@RtpSender.setFormat PCMFlow.documented
            ((RtpSender.new fun _ => {}).begin 5004 1 ⟨2, 3, 4⟩).2 ⟨8000, 1, 16⟩).2 }
        [.writeFrames (some [1, 0]) 1, .flush, .writeEncoded [9, 9], .writeFrames (some [2, 0]) 1]
          = some m ∧ m.Integrity := by
  refine ((@rtp_mixed_use PCMFlow.documented ⟨8000, 1, 16⟩ _
    ⟨RtpSender.new fun _ => {}, 5004, 1, ⟨2, 3, 4⟩, by decide, by decide, .inl rfl⟩
    (fun _ => ⟨rfl, rfl⟩) _ ?_).2.mpr ?_) _ List.prefix_rfl
  · simp only [List.forall_mem_cons, MixedOp.Valid]
    exact ⟨trivial, trivial, by decide, trivial, List.forall_mem_nil _⟩
  · decide +kernel

/-- A frame is pending when two bytes are sent on the encoded path: the packet that then leaves on the L16
path carries those bytes. -/
theorem encoded_over_pending :
    ∃ m, run (@step 1 PCMFlow.documented)
        { sender := (@RtpSender.setFormat PCMFlow.documented
            ((RtpSender.new fun _ => {}).begin 5004 1 ⟨2, 3, 4⟩).2 ⟨8000, 1, 16⟩).2 }
        [.writeFrames (some [1, 0]) 1, .writeEncoded [9, 9], .flush] = some m ∧
      m.audio = [⟨[0x0909], rfl⟩] ∧ m.accepted = [⟨[1], rfl⟩] ∧ ¬ m.Integrity := by
  have hrun : (run (@step 1 PCMFlow.documented)
      { sender := (@RtpSender.setFormat PCMFlow.documented
          ((RtpSender.new fun _ => {}).begin 5004 1 ⟨2, 3, 4⟩).2 ⟨8000, 1, 16⟩).2 }
      [.writeFrames (some [1, 0]) 1, .writeEncoded [9, 9], .flush]).map
        (fun m => (m.audio, m.accepted)) = some ([⟨[0x0909], rfl⟩], [⟨[1], rfl⟩]) := by
    decide +kernel
  obtain ⟨m, hm, heq⟩ := Option.map_eq_some_iff.mp hrun
  obtain ⟨haudio, haccepted⟩ := Prod.mk.inj heq
  refine ⟨m, hm, haudio, haccepted, fun hintegrity => ?_⟩
  have hsame := hintegrity.audio
  rw [haudio, haccepted] at hsame
  exact absurd hsame (by decide)

end MixedSession

end PcmFlowUdp
