import PcmFlowUdp.Emissions
import PcmFlowUdp.Vban.Packetizer

/-! # Every packet of a `VbanSender` is a valid VBAN audio packet

`emitPacket` ignores whether `encodeAudioHeader` succeeded: if it did not, a stale header would be sent.
A `VbanHistory` keeps, beside a sender, the states in which it emitted (`emissions`), so that what happened
in the middle of a call can be looked at.

* **`validPacket`** — in every state that the invariant allows, the encoder succeeds and the packet is
  valid;
* **`vban_valid_packets`** — so is every packet of every run. -/

namespace PcmFlowUdp

open ByteTransport PcmFrame

namespace VbanSender

section Emissions

variable [PCMFlow]

/-- The packets offered to the UDP object so far. -/
def offered (s : VbanSender) : List (List UInt8) := s.udp.attempts.map SendAttempt.packet

/-- The states in which a call emits a packet. -/
def emissions (s : VbanSender) : Call → List VbanSender
  | .writeFrames (some src) frameCount =>
      if s.ready && s.samplesPerPacket != 0 && s.format.bytesPerFrame != 0 then
        (scratch).loopEmissions s.format.bytesPerFrame src frameCount s
      else []
  | .flush => if s.ready && s.pendingFrames != 0 then [s] else []
  | _ => []

/-- An emission offers one packet. -/
theorem offered_emitPacket {s : VbanSender} (hpos : 0 < s.pendingFrames) :
    s.emitPacket.offered = s.offered ++ [s.nextPacket] := by
  rw [emitPacket_eq hpos.ne']
  simp [offered]

/-- A state in the middle of a call on `s`, in which frames that fit a packet are emitted. -/
structure EmittedIn (s e : VbanSender) : Prop where
  mode : AudioMode s.format.channels.toNat e
  setup : SameSetup s e
  pos : 0 < e.pendingFrames
  le : e.pendingFrames ≤ e.samplesPerPacket.toNat

/-- From `s` to `s'` the sender emitted in the states `es`, and offered one packet in each. -/
structure Offers (s : VbanSender) (es : List VbanSender) (s' : VbanSender) : Prop where
  wf : s'.WF
  setup : SameSetup s s'
  offered : s'.offered = s.offered ++ es.map nextPacket
  emitted : ∀ e ∈ es, s.EmittedIn e

/-- A call that is rejected offers nothing. -/
theorem offers_error {s : VbanSender} (h : s.WF) (error : VbanSenderError) :
    Offers s [] { s with error } where
  wf := h.of_setup rfl rfl rfl (.inl rfl)
  setup := ⟨rfl, rfl, rfl, rfl⟩
  offered := (List.append_nil _).symm
  emitted := by simp

/-- The call is rejected, which offers nothing, or the sender is set up and ready. -/
theorem writeFrames_guard {s : VbanSender} (h : s.WF) (src : Option (List UInt8)) (frameCount : ℕ) :
    ((∃ error, s.writeFrames src frameCount = some (0, { s with error })) ∧
        s.emissions (.writeFrames src frameCount) = []) ∨
      ∃ mem, src = some mem ∧ s.ready = true ∧ AudioMode s.format.channels.toNat s ∧
        s.emissions (.writeFrames src frameCount)
          = (scratch).loopEmissions (s.format.channels.toNat * 2) mem frameCount s := by
  by_cases hready : s.ready = true
  swap
  · refine .inl ⟨⟨.notReady, by simp [writeFrames, hready]⟩, ?_⟩
    cases src <;> simp [emissions, hready]
  by_cases hpath : s.samplesPerPacket = 0 ∨ s.format.bytesPerFrame = 0
  · refine .inl ⟨⟨.unsupportedFormat, by simp [writeFrames, hready, hpath]⟩, ?_⟩
    cases src <;> rcases hpath with hzero | hzero <;> simp [emissions, hzero]
  obtain ⟨hspp, hbpf⟩ := not_or.mp hpath
  cases src with
  | none =>
    have hnull : s.writeFrames none frameCount = some (0, s) := by
      simp [writeFrames, hready, hspp, hbpf]
    exact .inl ⟨⟨s.error, hnull⟩, rfl⟩
  | some mem =>
    have hmode := h.audioMode hspp
    refine .inr ⟨mem, rfl, hready, hmode, ?_⟩
    rw [← hmode.bytesPerFrame]
    simp [emissions, hready, hspp, hbpf]

/-- **A call of `writeFrames`** offers one packet for each of its emissions. -/
theorem writeFrames_emissions {s : VbanSender} (h : s.WF) (src : Option (List UInt8)) (frameCount : ℕ) :
    ∃ n s', s.writeFrames src frameCount = some (n, s') ∧
      Offers s (s.emissions (.writeFrames src frameCount)) s' := by
  rcases writeFrames_guard h src frameCount with
    ⟨⟨error, heq⟩, hnone⟩ | ⟨mem, rfl, hready, hmode, hemissions⟩
  · rw [hnone]
    exact ⟨0, _, heq, offers_error h error⟩
  · obtain ⟨s', hres, hall, hemits, hoffered, -, hlt⟩ :=
      (scratch_lawful hmode.channels_pos).writeLoop_emissions (fun _ _ _ => rfl)
        (fun _ _ hpos _ => offered_emitPacket hpos) hmode (h.pending_lt hmode) mem frameCount
    rw [hemissions]
    refine ⟨frameCount, s', (writeFrames_loop hmode hready mem frameCount).trans hres,
      (hmode.of_setup hemits.setup).wf hlt, hemits.setup, hoffered, fun e he => ?_⟩
    obtain ⟨hok, hpos, hle, packets, hbefore⟩ := hall e he
    exact ⟨hok, hbefore.setup, hpos, hle⟩

/-- **A call of `flush`** offers one packet for each of its emissions. -/
theorem flush_emissions {s : VbanSender} (h : s.WF) : Offers s (s.emissions .flush) s.flush.2 := by
  by_cases hsends : s.ready = true ∧ s.pendingFrames ≠ 0
  swap
  · have hnone : s.emissions .flush = [] := by simpa [emissions] using hsends
    obtain ⟨error, heq⟩ := flush_idle hsends
    rw [hnone, heq]
    exact offers_error h error
  · obtain ⟨hready, hzero⟩ := hsends
    have hone : s.emissions .flush = [s] := by simp [emissions, hready, hzero]
    have hlt : s.pendingFrames < s.samplesPerPacket.toNat := h.pending.resolve_left hzero
    have hmode := h.audioMode_of_pending hzero
    obtain ⟨hsetup, hempty⟩ := s.emitPacket_setup
    have hmode' := hmode.of_setup hsetup
    rw [hone, flush_eq hready hzero]
    refine ⟨hmode'.wf (by rw [hempty]; exact hmode'.samplesPerPacket_pos), hsetup,
      offered_emitPacket (Nat.pos_of_ne_zero hzero), fun e he => ?_⟩
    obtain rfl := List.mem_singleton.mp he
    exact ⟨hmode, ⟨rfl, rfl, rfl, rfl⟩, Nat.pos_of_ne_zero hzero, hlt.le⟩

/-! ## Validity -/

/-- The rate index of the headers is that of the format. -/
def RateOk (s : VbanSender) : Prop :=
  s.samplesPerPacket ≠ 0 → vbanSampleRateHz s.sampleRateIndex = s.format.sampleRate

omit [PCMFlow] in
/-- The setup decides about the rate. -/
theorem RateOk.of_setup {s s' : VbanSender} (h : s.RateOk) (hs : SameSetup s s') : s'.RateOk := by
  intro hne
  rw [hs.sampleRateIndex, hs.format]
  exact h (hs.samplesPerPacket ▸ hne)

/-- **A call** offers one packet for each of its emissions, and keeps the rate index in step. -/
theorem step_emissions {s s' : VbanSender} (h : s.WF) {call : Call} (hstep : step s call = some s') :
    (s.RateOk → s'.RateOk) ∧ s'.offered = s.offered ++ (s.emissions call).map nextPacket ∧
      ∀ e ∈ s.emissions call, s.EmittedIn e := by
  -- a call that offers nothing has only the rate to keep
  have hsilent : ∀ s₁ : VbanSender, (s.RateOk → s₁.RateOk) → s₁.udp = s.udp → s.emissions call = [] →
      (s.RateOk → s₁.RateOk) ∧ s₁.offered = s.offered ++ (s.emissions call).map nextPacket ∧
        ∀ e ∈ s.emissions call, s.EmittedIn e := by
    intro s₁ hrate hudp hnone
    rw [offered, hudp, hnone]
    exact ⟨hrate, (List.append_nil _).symm, by simp⟩
  cases call with
  | begin destPort streamName =>
    obtain rfl := Option.some.inj hstep
    exact hsilent _ id rfl rfl
  | end_ =>
    obtain rfl := Option.some.inj hstep
    exact hsilent _ id rfl rfl
  | setFormat fmt =>
    obtain rfl := Option.some.inj hstep
    rcases s.setFormat_cases fmt with ⟨error, heq⟩ | ⟨hvalid, hbits, hidx⟩
    · rw [heq]
      exact hsilent _ id rfl rfl
    · -- the rate index is that of the new format
      rw [(s.setFormat_spec hvalid hbits hidx).2.2]
      exact hsilent _ (fun _ _ => vbanSampleRateHz_index hidx) rfl rfl
  | setStreamName streamName =>
    obtain rfl := Option.some.inj hstep
    exact hsilent _ id rfl rfl
  | writeFrames src frameCount =>
    obtain ⟨n, s₁, heq, hoffers⟩ := writeFrames_emissions h src frameCount
    rw [step, heq] at hstep
    obtain rfl := Option.some.inj hstep
    exact ⟨fun hrate => hrate.of_setup hoffers.setup, hoffers.offered, hoffers.emitted⟩
  | flush =>
    obtain rfl := Option.some.inj hstep
    have hoffers := flush_emissions h
    exact ⟨fun hrate => hrate.of_setup hoffers.setup, hoffers.offered, hoffers.emitted⟩

/-- What the sender offers in state `e` is a valid VBAN audio packet for its format. -/
structure ValidPacket (e : VbanSender) : Prop where
  /-- `encodeAudioHeader` succeeded. -/
  encodes : (encodeAudioHeader (e.nextHeader e.pendingFrames) e.packet).1 = true
  length_le : e.nextPacket.length ≤ kVbanMaxPacketBytes
  /-- The packet parses, names the rate and the channels of the format and carries whole frames. -/
  parses : ∃ h, parseAudioHeader e.nextPacket e.nextPacket.length = .ok h ∧
    vbanSampleRateHz h.sampleRateIndex = e.format.sampleRate ∧
    h.numChannels.toNat = e.format.channels.toNat ∧
    1 ≤ h.numSamples.toNat ∧ h.numSamples.toNat ≤ 256 ∧
    e.nextPacket.length = kVbanHeaderBytes + h.numSamples.toNat * h.numChannels.toNat * 2

/-- **What is emitted is valid.** -/
theorem EmittedIn.validPacket {s e : VbanSender} (h : s.EmittedIn e) (hrate : s.RateOk) :
    e.ValidPacket := by
  have hrate' : vbanSampleRateHz e.sampleRateIndex = e.format.sampleRate :=
    hrate.of_setup h.setup h.mode.samplesPerPacket_ne_zero
  have hlen : ((scratch).pending s.format.channels.toNat e).length = e.pendingFrames :=
    PacketScratch.length_pending (h.mode.room h.le) h.mode.channels_pos
  obtain ⟨hnum, hsamples⟩ := numSamples_range h.pos (h.le.trans h.mode.samplesPerPacket_le)
  -- the packet is a header and the image of the pending frames
  have hpacket := nextPacket_eq h.mode h.pos h.le
  rw [VbanOutlet.packet, hlen] at hpacket
  have hbytes : e.nextPacket.length
      = kVbanHeaderBytes + e.pendingFrames * (s.format.channels.toNat * 2) := by
    rw [hpacket, List.length_append, length_hostImage, hlen]
    exact congrArg (· + _) (length_vbanHeaderBytes _ _ _ _ _ _)
  have hparse : parseAudioHeader e.nextPacket e.nextPacket.length
      = .ok { e.nextHeader e.pendingFrames with
          streamName := VbanName.ofCString e.streamName.cells } := by
    have hlong : 28 ≤ e.nextPacket.length := by
      rw [hbytes]
      exact Nat.le_add_right _ _
    generalize e.nextPacket.length = len at hlong
    rw [hpacket]
    exact parseAudioHeader_encoded h.mode.sampleRateIndex_le hsamples h.mode.channels_range _ hlong
  have hchan : e.format.channels.toUInt16.toNat = e.format.channels.toNat := UInt8.toNat_toUInt16 _
  refine ⟨by rw [h.mode.encodes h.pos h.le], ?_, _, hparse, hrate', hchan, ?_, ?_, ?_⟩
  · rw [hbytes]
    exact h.mode.room h.le
  · show 1 ≤ (UInt16.ofNat e.pendingFrames).toNat
    rw [hnum]
    exact h.pos
  · show (UInt16.ofNat e.pendingFrames).toNat ≤ 256
    rw [hnum]
    exact h.le.trans h.mode.samplesPerPacket_le
  · show _ = kVbanHeaderBytes + (UInt16.ofNat e.pendingFrames).toNat * e.format.channels.toUInt16.toNat * 2
    rw [hbytes, hnum, hchan, h.mode.channels, Nat.mul_assoc]

end Emissions

end VbanSender

/-! ## Runs -/

/-- A sender with the states in which it emitted. -/
structure VbanHistory where
  sender : VbanSender
  emitted : List VbanSender := []

namespace VbanHistory

variable [PCMFlow]

/-- One call, in which the sender may emit. -/
def step (l : VbanHistory) (call : VbanSender.Call) : Option VbanHistory :=
  (VbanSender.step l.sender call).map fun sender =>
    { sender, emitted := l.emitted ++ l.sender.emissions call }

/-- What holds after every run. -/
structure Inv (l : VbanHistory) : Prop where
  wf : l.sender.WF
  rate : l.sender.RateOk
  /-- One packet was offered in each state in which the sender emitted, and no other. -/
  offered : l.sender.offered = l.emitted.map VbanSender.nextPacket
  valid : ∀ e ∈ l.emitted, e.ValidPacket

/-- The first state. -/
theorem inv_new (script : ℕ → UdpTx) : ({ sender := VbanSender.new script } : VbanHistory).Inv where
  wf := VbanSender.wf_new script
  rate h := absurd rfl h
  offered := rfl
  valid := by simp

/-- **One call.** It completes, and what it emits is valid. -/
theorem Inv.step {l : VbanHistory} (h : l.Inv) (call : VbanSender.Call) :
    ∃ l', l.step call = some l' ∧ l'.Inv := by
  obtain ⟨s', hstep, hwf⟩ := VbanSender.wf_step h.wf call
  obtain ⟨hrate, hoffered, hemitted⟩ := VbanSender.step_emissions h.wf hstep
  refine ⟨{ sender := s', emitted := l.emitted ++ l.sender.emissions call },
    by rw [VbanHistory.step, hstep]; rfl, hwf, hrate h.rate, ?_, ?_⟩
  · rw [hoffered, h.offered, List.map_append]
  · intro e he
    rcases List.mem_append.mp he with hold | hnew
    · exact h.valid e hold
    · exact (hemitted e hnew).validPacket h.rate

/-- The history leaves the sender alone. -/
theorem run_sender (l : VbanHistory) (calls : List VbanSender.Call) :
    (run VbanHistory.step l calls).map VbanHistory.sender = run VbanSender.step l.sender calls := by
  refine run_map (fun l call => ?_) l calls
  rw [VbanHistory.step, Option.map_map]
  exact Option.map_id'

end VbanHistory

/-- **Every packet is a valid VBAN audio packet.** In every run from construction, whatever the calls, their
arguments and the answers of the UDP object, the packets offered are those of the states in which the
sender emitted, and each of these is valid for the format set then. -/
theorem vban_valid_packets [PCMFlow] (script : ℕ → UdpTx) (calls : List VbanSender.Call) :
    ∃ l : VbanHistory,
      run VbanHistory.step { sender := VbanSender.new script } calls = some l ∧
      run VbanSender.step (VbanSender.new script) calls = some l.sender ∧
      l.sender.offered = l.emitted.map VbanSender.nextPacket ∧
      ∀ e ∈ l.emitted, e.ValidPacket := by
  obtain ⟨l, hrun, hinv⟩ := run_total (fun l call hl _ => hl.step call) (VbanHistory.inv_new script)
    (admissible_of_forall (fun _ _ => trivial) _ calls)
  have hsender := VbanHistory.run_sender { sender := VbanSender.new script } calls
  rw [hrun] at hsender
  exact ⟨l, hrun, hsender.symm, hinv.offered, hinv.valid⟩

end PcmFlowUdp
