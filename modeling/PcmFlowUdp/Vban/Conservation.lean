import PcmFlowUdp.Vban.HeaderCodec
import PcmFlowUdp.Vban.ValidPackets

/-! # What becomes of the frames that a `VbanSender` accepts

A frame that `writeFrames` accepts waits in the packet scratch until a packet is full or `flush` is called;
`begin`, `end` and an accepted `setFormat` throw away what waits. A `VbanAccount` keeps the books beside a
sender: the frames accepted, and what became of them, read off the packets on the wire (`packetAudio`).

* **`step_frames`** — one call: what was pending and what it accepts is what it offers, throws away and
  leaves pending, in that order;
* **`vban_conservation`** — so is every run: no frame is lost, made up, sent twice or moved. -/

namespace PcmFlowUdp

open ByteTransport PcmFrame

/-! ## The frames of a packet -/

/-- The frames that a receiver finds in an audio packet. -/
def packetAudio (d : List UInt8) : List AudioFrame := (packetFrames d).map audio

/-- The frames of a packet with `c` channels. -/
theorem packetAudio_eq {d : List UInt8} {c : ℕ} (hc : (wireFormat d).channels.toNat = c) :
    packetAudio d = (hostFrames c ((d.drop kVbanHeaderBytes).take
      (min ((byteAt d 5).toNat + 1) ((d.drop kVbanHeaderBytes).length / (c * 2)) * (c * 2)))).map
        audio := by
  subst hc
  rfl

/-- A packet that was cut short behind its header holds the first of its frames. -/
theorem packetAudio_cut {d p : List UInt8} (hpre : d <+: p) (hlen : kVbanHeaderBytes ≤ d.length) :
    packetAudio d <+: packetAudio p := by
  have hbyte : ∀ i < kVbanHeaderBytes, byteAt d i = byteAt p i := fun i hi =>
    byteAt_congr (List.prefix_iff_eq_take.mp hpre ▸ by rw [List.take_take, min_eq_left hlen]) hi
  have hchan : (wireFormat p).channels = (wireFormat d).channels := by
    rw [wireFormat, wireFormat, hbyte 6 (by decide)]
  obtain ⟨rest, rfl⟩ := hpre
  rw [packetAudio_eq rfl, packetAudio_eq (congrArg UInt8.toNat hchan), ← hbyte 5 (by decide),
    List.drop_append_of_le_length hlen]
  generalize (wireFormat d).channels.toNat = c
  generalize (byteAt d 5).toNat + 1 = n
  generalize d.drop kVbanHeaderBytes = payload
  rcases Nat.eq_zero_or_pos c with rfl | hc
  · simp
  -- the frames that are whole in the part that is left
  have hle : min n (payload.length / (c * 2)) ≤ min n ((payload ++ rest).length / (c * 2)) := by
    refine min_le_min le_rfl (Nat.div_le_div_right ?_)
    rw [List.length_append]
    exact Nat.le_add_right _ _
  have hfit : min n (payload.length / (c * 2)) * (c * 2) ≤ payload.length :=
    (Nat.mul_le_mul_right _ (min_le_right _ _)).trans (Nat.div_mul_le_self _ _)
  have hfit' : min n ((payload ++ rest).length / (c * 2)) * (c * 2) ≤ (payload ++ rest).length :=
    (Nat.mul_le_mul_right _ (min_le_right _ _)).trans (Nat.div_mul_le_self _ _)
  have hdvd : c * 2 ∣ ((payload ++ rest).take
      (min n ((payload ++ rest).length / (c * 2)) * (c * 2))).length := by
    rw [List.length_take, min_eq_left hfit']
    exact Nat.dvd_mul_left _ _
  have hcut : payload.take (min n (payload.length / (c * 2)) * (c * 2))
      = ((payload ++ rest).take (min n ((payload ++ rest).length / (c * 2)) * (c * 2))).take
          (min n (payload.length / (c * 2)) * (c * 2)) := by
    rw [List.take_take, min_eq_left (Nat.mul_le_mul_right _ hle), List.take_append_of_le_length hfit]
  rw [hcut, hostFrames_take hc hdvd]
  exact (List.take_prefix _ _).map audio

/-- The frames of a packet that was built from a header and frames. -/
theorem packetAudio_encoded {c : ℕ} (hc : 0 < c) {h : VbanAudioHeader} (hidx : h.sampleRateIndex ≤ 20)
    (hsamples : 1 ≤ h.numSamples ∧ h.numSamples ≤ 256)
    (hchannels : 1 ≤ h.numChannels ∧ h.numChannels ≤ 256) (hlt : c < 256)
    (hchan : h.numChannels.toNat = c) {fs : List (PcmFrame c)} (hnum : h.numSamples.toNat = fs.length) :
    packetAudio (audioHeaderBytes h ++ hostImage fs) = fs.map audio := by
  have hhead : (audioHeaderBytes h).length = kVbanHeaderBytes := length_vbanHeaderBytes _ _ _ _ _ _
  have hlong : 28 ≤ (audioHeaderBytes h ++ hostImage fs).length := by
    rw [List.length_append, hhead]
    exact Nat.le_add_right _ _
  have hparse := parseAudioHeader_encoded hidx hsamples hchannels (hostImage fs) hlong
  have hfields := (parseAudioHeader_ok_iff.mp hparse).2
  have hpayload : (audioHeaderBytes h ++ hostImage fs).drop kVbanHeaderBytes = hostImage fs :=
    List.drop_left' hhead
  generalize audioHeaderBytes h ++ hostImage fs = d at hfields hpayload
  have hcount : (byteAt d 5).toNat + 1 = fs.length := by
    have hfield : (byteAt d 5).toUInt16 + 1 = h.numSamples := (congrArg VbanAudioHeader.numSamples hfields).symm
    have hbyte := (byteAt d 5).toNat_lt
    rw [← hnum, ← hfield, UInt16.toNat_add, UInt8.toNat_toUInt16]
    exact (Nat.mod_eq_of_lt (show (byteAt d 5).toNat + 1 < 2 ^ 16 by omega)).symm
  have hwire : (wireFormat d).channels.toNat = c := by
    have hfield : (byteAt d 6).toUInt16 + 1 = h.numChannels :=
      (congrArg VbanAudioHeader.numChannels hfields).symm
    have hbyte := (channelByte_fields ⟨(byteAt d 6).toNat, (byteAt d 6).toNat_lt⟩).1
    simp only [UInt8.ofNat_toNat] at hbyte
    show (byteAt d 6 + 1).toNat = c
    rw [← hbyte, hfield, UInt16.toNat_toUInt8, hchan]
    exact Nat.mod_eq_of_lt hlt
  rw [packetAudio_eq hwire, hpayload, hcount, length_hostImage, Nat.mul_div_cancel _ (by omega), min_self,
    ← length_hostImage, List.take_length, hostFrames_hostImage hc]

/-! ## One call -/

namespace VbanSender

section Calls

variable [PCMFlow]

/-- The frames that wait in the packet scratch. -/
def pendingAudio (s : VbanSender) : List AudioFrame :=
  ((scratch).pending s.format.channels.toNat s).map audio

/-- The frames that a call accepts: as many as `writeFrames` returns. -/
def accepts (s : VbanSender) : Call → List AudioFrame
  | .writeFrames (some src) frameCount =>
      match s.writeFrames (some src) frameCount with
      | some (n, _) => (memFrames s.format.channels.toNat src n).map audio
      | none => []
  | _ => []

/-- The frames that a call throws away. -/
def discards (s : VbanSender) : Call → List AudioFrame
  | .begin _ _ => s.pendingAudio
  | .end_ => s.pendingAudio
  | .setFormat fmt => if (s.setFormat fmt).1 then s.pendingAudio else []
  | _ => []

/-- None counted, none pending. -/
theorem pendingAudio_eq_nil {s : VbanSender} (hzero : s.pendingFrames = 0) : s.pendingAudio = [] := by
  have hbytes : (scratch).pendingBytes s.format.channels.toNat s = [] := by
    show s.packet.slice kVbanHeaderBytes (s.pendingFrames * _) = []
    rw [hzero, Nat.zero_mul, Buffer.slice_zero]
  rw [pendingAudio, PacketScratch.pending, hbytes, hostFrames_nil]
  rfl

/-- Fewer frames wait than fit one packet, which are at most 256. -/
theorem WF.length_pendingAudio {s : VbanSender} (h : s.WF) : s.pendingAudio.length < 256 := by
  by_cases hzero : s.pendingFrames = 0
  · rw [pendingAudio_eq_nil hzero]
    decide
  · have hmode := h.audioMode_of_pending hzero
    have hlt := h.pending.resolve_left hzero
    have hlen : ((scratch).pending s.format.channels.toNat s).length = s.pendingFrames :=
      PacketScratch.length_pending (hmode.room hlt.le) hmode.channels_pos
    rw [pendingAudio, List.length_map, hlen]
    exact hlt.trans_le hmode.samplesPerPacket_le

/-- What is offered in the middle of a call are the frames pending then. -/
theorem EmittedIn.packetAudio_eq {s e : VbanSender} (h : s.EmittedIn e) :
    packetAudio e.nextPacket = ((scratch).pending s.format.channels.toNat e).map audio := by
  have hlen : ((scratch).pending s.format.channels.toNat e).length = e.pendingFrames :=
    PacketScratch.length_pending (h.mode.room h.le) h.mode.channels_pos
  obtain ⟨hnum, hsamples⟩ := numSamples_range h.pos (h.le.trans h.mode.samplesPerPacket_le)
  rw [nextPacket_eq h.mode h.pos h.le, VbanOutlet.packet, hlen]
  refine packetAudio_encoded h.mode.channels_pos h.mode.sampleRateIndex_le hsamples h.mode.channels_range
    s.format.channels.toNat_lt ?_ (hnum.trans hlen.symm)
  exact (UInt8.toNat_toUInt16 _).trans h.mode.channels

/-- What is offered in the middle of a call is at least one frame and at most 256. -/
theorem EmittedIn.length_packetAudio {s e : VbanSender} (h : s.EmittedIn e) :
    0 < (packetAudio e.nextPacket).length ∧ (packetAudio e.nextPacket).length ≤ 256 := by
  have hlen : ((scratch).pending s.format.channels.toNat e).length = e.pendingFrames :=
    PacketScratch.length_pending (h.mode.room h.le) h.mode.channels_pos
  rw [h.packetAudio_eq, List.length_map, hlen]
  exact ⟨h.pos, h.le.trans h.mode.samplesPerPacket_le⟩

/-- A call of `writeFrames` offers what was pending and what it accepts, up to what is pending then. -/
theorem writeFrames_frames {s s' : VbanSender} (h : s.WF) {src : Option (List UInt8)} {frameCount n : ℕ}
    (hwrite : s.writeFrames src frameCount = some (n, s')) :
    (s.emissions (.writeFrames src frameCount)).flatMap (fun e => packetAudio e.nextPacket)
        ++ s'.pendingAudio
      = s.pendingAudio ++ s.accepts (.writeFrames src frameCount) := by
  rcases writeFrames_guard h src frameCount with
    ⟨⟨error, heq⟩, hnone⟩ | ⟨mem, rfl, hready, hmode, hemissions⟩
  · -- rejected
    rw [heq] at hwrite
    obtain ⟨rfl, rfl⟩ := Prod.mk.inj (Option.some.inj hwrite)
    have haccepts : s.accepts (.writeFrames src frameCount) = [] := by
      cases src with
      | none => rfl
      | some mem =>
        rw [accepts, heq]
        simp [memFrames, readMem]
    rw [hnone, haccepts, List.append_nil]
    rfl
  · -- accepted: the loop deals the pending and the new frames out to full packets and a rest
    obtain ⟨s₁, hloop, hall, hemits, -, hflat, -⟩ :=
      (scratch_lawful hmode.channels_pos).writeLoop_emissions (fun _ _ _ => rfl)
        (fun _ _ hpos _ => offered_emitPacket hpos) hmode (h.pending_lt hmode) mem frameCount
    have heq := (writeFrames_loop hmode hready mem frameCount).trans hloop
    rw [heq] at hwrite
    obtain ⟨rfl, rfl⟩ := Prod.mk.inj (Option.some.inj hwrite)
    have haccepts : s.accepts (.writeFrames (some mem) frameCount)
        = (memFrames s.format.channels.toNat mem frameCount).map audio := by
      rw [accepts, heq]
    have hpackets : (s.emissions (.writeFrames (some mem) frameCount)).flatMap
        (fun e => packetAudio e.nextPacket)
          = (((scratch).loopEmissions (s.format.channels.toNat * 2) mem frameCount s).map
              ((scratch).pending s.format.channels.toNat)).flatten.map audio := by
      rw [hemissions, List.map_flatten, List.map_map, List.flatMap_def]
      refine congrArg List.flatten (List.map_congr_left fun e he => ?_)
      obtain ⟨hok, hpos, hle, packets, hbefore⟩ := hall e he
      exact EmittedIn.packetAudio_eq ⟨hok, hbefore.setup, hpos, hle⟩
    rw [hpackets, haccepts, pendingAudio, pendingAudio, hemits.setup.format, ← List.map_append, hflat,
      List.map_append]

/-- A call of `flush` offers what is pending. -/
theorem flush_frames {s : VbanSender} (h : s.WF) :
    (s.emissions .flush).flatMap (fun e => packetAudio e.nextPacket) ++ s.flush.2.pendingAudio
      = s.pendingAudio := by
  have hoffers := flush_emissions h
  by_cases hsends : s.ready = true ∧ s.pendingFrames ≠ 0
  · obtain ⟨hready, hzero⟩ := hsends
    have hone : s.emissions .flush = [s] := by simp [emissions, hready, hzero]
    have hmem : s ∈ s.emissions .flush := by rw [hone]; exact List.mem_singleton_self s
    rw [hone, List.flatMap_singleton, flush_eq hready hzero, pendingAudio_eq_nil s.emitPacket_setup.2,
      List.append_nil, (hoffers.emitted s hmem).packetAudio_eq]
    rfl
  · have hnone : s.emissions .flush = [] := by simpa [emissions] using hsends
    obtain ⟨error, heq⟩ := flush_idle hsends
    rw [hnone, heq]
    rfl

/-- **One call.** What was pending and what it accepts is what it offers, throws away and leaves pending, in
that order. -/
theorem step_frames {s s' : VbanSender} (h : s.WF) {call : Call} (hstep : step s call = some s') :
    (s.emissions call).flatMap (fun e => packetAudio e.nextPacket) ++ s.discards call ++ s'.pendingAudio
      = s.pendingAudio ++ s.accepts call := by
  cases call with
  | begin destPort streamName =>
    -- a call that restarts the packet throws away what is pending, and offers nothing
    obtain rfl := Option.some.inj hstep
    have hnone : (s.begin destPort streamName).2.pendingAudio = [] := pendingAudio_eq_nil rfl
    rw [hnone, List.append_nil]
    exact (List.append_nil _).symm
  | end_ =>
    obtain rfl := Option.some.inj hstep
    have hnone : s.end_.pendingAudio = [] := pendingAudio_eq_nil rfl
    rw [hnone, List.append_nil]
    exact (List.append_nil _).symm
  | setFormat fmt =>
    obtain rfl := Option.some.inj hstep
    rcases s.setFormat_cases fmt with ⟨error, heq⟩ | ⟨hvalid, hbits, hidx⟩
    · rw [discards, heq]
      exact (List.append_nil _).symm
    · obtain ⟨hok, -, heq⟩ := s.setFormat_spec hvalid hbits hidx
      have hnone : (s.setFormat fmt).2.pendingAudio = [] := pendingAudio_eq_nil (by rw [heq])
      rw [discards, hok, hnone, List.append_nil]
      exact (List.append_nil _).symm
  | setStreamName streamName =>
    obtain rfl := Option.some.inj hstep
    exact (List.append_nil _).symm
  | writeFrames src frameCount =>
    obtain ⟨n, s₁, heq, -⟩ := writeFrames_emissions h src frameCount
    rw [step, heq] at hstep
    obtain rfl := Option.some.inj hstep
    have hkept : s.discards (.writeFrames src frameCount) = [] := rfl
    rw [hkept, List.append_nil]
    exact writeFrames_frames h heq
  | flush =>
    obtain rfl := Option.some.inj hstep
    have hkept : s.discards .flush = [] := rfl
    have hnone : s.accepts .flush = [] := rfl
    rw [hkept, hnone, List.append_nil, List.append_nil]
    exact flush_frames h

end Calls

end VbanSender

/-! ## Runs -/

/-- What became of frames that were accepted. -/
inductive FrameFate
  /-- A packet with them was offered to the UDP object. -/
  | offered (packet : List UInt8)
  /-- They were pending when they were thrown away. -/
  | discarded (frames : List AudioFrame)

/-- The frames. -/
def FrameFate.frames : FrameFate → List AudioFrame
  | .offered packet => packetAudio packet
  | .discarded frames => frames

/-- The packet that was offered, if any. -/
def FrameFate.packet : FrameFate → Option (List UInt8)
  | .offered packet => some packet
  | .discarded _ => none

/-- A sender with the books about the frames it accepted. -/
structure VbanAccount where
  sender : VbanSender
  /-- The frames that `writeFrames` accepted. -/
  accepted : List AudioFrame := []
  /-- What became of them. -/
  fates : List FrameFate := []

namespace VbanAccount

variable [PCMFlow]

/-- Enter a call that led to `sender`: its packets are those that it added to the attempts of the UDP
object. -/
def enter (l : VbanAccount) (call : VbanSender.Call) (sender : VbanSender) : VbanAccount where
  sender
  accepted := l.accepted ++ l.sender.accepts call
  fates := l.fates ++ (sender.offered.drop l.sender.offered.length).map .offered
    ++ [.discarded (l.sender.discards call)]

/-- One call. -/
def step (l : VbanAccount) (call : VbanSender.Call) : Option VbanAccount :=
  (VbanSender.step l.sender call).map (l.enter call)

/-- What holds after every run. -/
structure Inv (l : VbanAccount) : Prop where
  wf : l.sender.WF
  /-- Every frame accepted is accounted for. -/
  balance : l.accepted = l.fates.flatMap FrameFate.frames ++ l.sender.pendingAudio
  /-- Every packet is in the books. -/
  packets : l.fates.filterMap FrameFate.packet = l.sender.offered
  /-- A packet has frames, but not more than 256. -/
  sizes : ∀ p ∈ l.sender.offered, 0 < (packetAudio p).length ∧ (packetAudio p).length ≤ 256
  /-- Less than a packet is thrown away at a time. -/
  losses : ∀ fs, .discarded fs ∈ l.fates → fs.length < 256

/-- A new sender keeps the invariant. -/
theorem inv_new (script : ℕ → UdpTx) : ({ sender := VbanSender.new script } : VbanAccount).Inv where
  wf := VbanSender.wf_new script
  balance := (VbanSender.pendingAudio_eq_nil rfl).symm
  packets := rfl
  sizes _ hp := absurd hp List.not_mem_nil
  losses _ hfs := absurd hfs List.not_mem_nil

/-- **One call.** It completes, and the books stay balanced. -/
theorem Inv.step {l : VbanAccount} (h : l.Inv) (call : VbanSender.Call) :
    ∃ l', l.step call = some l' ∧ l'.Inv := by
  obtain ⟨s', hstep, hwf⟩ := VbanSender.wf_step h.wf call
  obtain ⟨-, hoffered, hemitted⟩ := VbanSender.step_emissions h.wf hstep
  have hframes := VbanSender.step_frames h.wf hstep
  have hnew : s'.offered.drop l.sender.offered.length = (l.sender.emissions call).map VbanSender.nextPacket := by
    rw [hoffered, List.drop_left]
  refine ⟨l.enter call s', by rw [VbanAccount.step, hstep]; rfl, hwf, ?_, ?_, ?_, ?_⟩
  · -- what was pending is offered, thrown away or still pending
    show l.accepted ++ _ = List.flatMap _ (_ ++ _ ++ [_]) ++ s'.pendingAudio
    rw [h.balance, List.append_assoc, ← hframes, hnew]
    simp [List.flatMap_append, List.flatMap_map, FrameFate.frames]
  · show List.filterMap _ (_ ++ _ ++ [_]) = s'.offered
    rw [hnew, List.filterMap_append, List.filterMap_append, h.packets, hoffered]
    simp [FrameFate.packet, List.filterMap_map, Function.comp_def]
  · intro p (hp : p ∈ s'.offered)
    rw [hoffered] at hp
    rcases List.mem_append.mp hp with hold | hadded
    · exact h.sizes p hold
    · obtain ⟨e, he, rfl⟩ := List.mem_map.mp hadded
      exact (hemitted e he).length_packetAudio
  · -- what is thrown away at once was pending, and less than a packet can be pending
    intro fs hfs
    rcases List.mem_append.mp hfs with hrest | hlast
    · rcases List.mem_append.mp hrest with hold | hoffer
      · exact h.losses fs hold
      · obtain ⟨p, -, heq⟩ := List.mem_map.mp hoffer
        cases heq
    · obtain rfl : fs = l.sender.discards call := by simpa using hlast
      have hlt := h.wf.length_pendingAudio
      have hle : (l.sender.discards call).length ≤ l.sender.pendingAudio.length := by
        unfold VbanSender.discards
        split
        · exact le_rfl
        · exact le_rfl
        · split
          · exact le_rfl
          · exact Nat.zero_le _
        · exact Nat.zero_le _
      exact hle.trans_lt hlt

/-- The books leave the sender alone. -/
theorem run_sender (l : VbanAccount) (calls : List VbanSender.Call) :
    (run VbanAccount.step l calls).map VbanAccount.sender = run VbanSender.step l.sender calls := by
  refine run_map (fun l call => ?_) l calls
  rw [VbanAccount.step, Option.map_map]
  exact Option.map_id'

end VbanAccount

/-- **Frames are conserved.** In every run from construction, whatever the calls, their arguments and the
answers of the UDP object: the frames that `writeFrames` accepted are, in order, those of the packets offered,
those thrown away and those still pending. A packet carries between 1 and 256 of them, fewer than 256 wait,
and fewer than 256 are thrown away at a time, which only `begin`, `end` and an accepted `setFormat` do. -/
theorem vban_conservation [PCMFlow] (script : ℕ → UdpTx) (calls : List VbanSender.Call) :
    ∃ l : VbanAccount, run VbanAccount.step { sender := VbanSender.new script } calls = some l ∧
      run VbanSender.step (VbanSender.new script) calls = some l.sender ∧
      l.accepted = l.fates.flatMap FrameFate.frames ++ l.sender.pendingAudio ∧
      l.fates.filterMap FrameFate.packet = l.sender.offered ∧
      (∀ p ∈ l.sender.offered, 0 < (packetAudio p).length ∧ (packetAudio p).length ≤ 256) ∧
      (∀ fs, .discarded fs ∈ l.fates → fs.length < 256) ∧ l.sender.pendingAudio.length < 256 := by
  obtain ⟨l, hrun, hinv⟩ := run_total (fun l call hl _ => hl.step call) (VbanAccount.inv_new script)
    (admissible_of_forall (fun _ _ => trivial) _ calls)
  have hsender := VbanAccount.run_sender { sender := VbanSender.new script } calls
  rw [hrun] at hsender
  exact ⟨l, hrun, hsender.symm, hinv.balance, hinv.packets, hinv.sizes, hinv.losses,
    hinv.wf.length_pendingAudio⟩

end PcmFlowUdp
