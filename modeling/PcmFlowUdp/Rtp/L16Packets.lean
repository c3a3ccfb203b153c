import PcmFlowUdp.Emissions
import PcmFlowUdp.Rtp.Packetizer

/-! # The L16 packets of an `RtpSender` and the frames written for them

An `L16History` keeps, beside a sender, the frames that the caller wrote and that are pending, with the
channel count they were written with, and every packet of the L16 path: the state in which it was emitted
and the frames written for it. Which frames are pending is booked by number only (`deal`), so that whether
a packet carries the frames written for it is something to prove:

* **`writeFrames_emissions`, `flush_emissions`** — what a call emits;
* **`L16History.Inv.step`** — each packet is offered once, and carries the frames written for it. -/

namespace PcmFlowUdp

open ByteTransport PcmFrame

namespace RtpSender

/-- The packets offered to the UDP object so far. -/
def offered (s : RtpSender) : List (List UInt8) := s.udp.attempts.map SendAttempt.packet

/-- The bytes that `emitL16Packet` offers. -/
def nextPacket (s : RtpSender) : List UInt8 :=
  (encodeRtpHeader s.nextHeader
    (payloadToNetwork s.packet (s.pendingFrames * s.format.channels.toNat))).2.slice 0
      (kRtpHeaderBytes + s.pendingFrames * s.format.channels.toNat * 2)

/-- The pending frames, with their number of channels. -/
def framesPending (s : RtpSender) : List AudioFrame :=
  (scratch.pending s.format.channels.toNat s).map PcmFrame.audio

/-- None counted, none pending. -/
theorem framesPending_eq_nil {s : RtpSender} (h : s.pendingFrames = 0) : s.framesPending = [] := by
  simp [framesPending, PacketScratch.pending, PacketScratch.pendingBytes, scratch, h]

/-- An emission with frames pending makes one attempt; the sequence number says if it succeeded, the last error
if it failed. -/
theorem emitL16Packet_attempt {s : RtpSender} (hpending : s.pendingFrames ≠ 0) :
    s.emitL16Packet.udp = (s.udp.transmit s.nextPacket).2 ∧
      s.emitL16Packet.sequenceNumber
        = (if s.udp.next.ok then s.sequenceNumber + 1 else s.sequenceNumber) ∧
      s.emitL16Packet.error = if s.udp.next.ok then s.error else .sendFailed := by
  rw [emitL16Packet, if_neg hpending]
  simp only [sendPacket_eq]
  cases s.udp.next.ok <;> simp [nextPacket]

/-- An emission offers one packet. -/
theorem offered_emitL16Packet {s : RtpSender} (hpos : 0 < s.pendingFrames) :
    s.emitL16Packet.offered = s.offered ++ [s.nextPacket] := by
  rw [offered, (emitL16Packet_attempt hpos.ne').1]
  simp [offered]

/-- A state in which an L16 packet is emitted. -/
structure Emitting (e : RtpSender) : Prop where
  mode : L16Mode e.format.channels.toNat e
  pos : 0 < e.pendingFrames
  le : e.pendingFrames ≤ e.samplesPerPacket.toNat

namespace Emitting

variable {e : RtpSender} (h : e.Emitting)

include h

/-- There are as many of them as are counted. -/
theorem length_framesPending : e.framesPending.length = e.pendingFrames := by
  rw [framesPending, List.length_map]
  exact PacketScratch.length_pending (h.mode.room h.le) h.mode.channels_pos

/-- The packet is the next header and the pending frames in network byte order. -/
theorem nextPacket_eq : e.nextPacket = rtpHeaderBytes e.nextHeader ++ AudioFrame.netImage e.framesPending := by
  have hoffered := offered_emitL16Packet h.pos
  obtain ⟨packet, heq⟩ := emitL16Packet_eq h.mode h.pos h.le
  have himage : AudioFrame.netImage e.framesPending
      = swapPairs (scratch.pendingBytes e.format.channels.toNat e) := by
    rw [framesPending, AudioFrame.netImage_map_audio, ← swapPairs_hostImage,
      PacketScratch.hostImage_pending (h.mode.room h.le) h.mode.channels_pos]
  rw [heq] at hoffered
  simp only [offered, attempt, Udp.transmit_attempts, List.map_append, List.map_cons, List.map_nil,
    List.append_cancel_left_eq, List.cons.injEq, and_true] at hoffered
  rw [himage, ← hoffered]

end Emitting

/-- The call is one of the encoded path. -/
def Call.encoded : Call → Bool
  | .writeEncoded _ _ => true
  | _ => false

/-! ## The emissions of a call -/

/-- From `s` to `s'` the sender emitted in the states `es`: it offered one packet in each, and these carry
what was pending and the frames `accepted`, in order, up to what is pending now. -/
structure Offers (s : RtpSender) (es : List RtpSender) (accepted : List AudioFrame) (s' : RtpSender) :
    Prop where
  wf : s'.WF
  setup : SameSetup s s'
  offered : s'.offered = s.offered ++ es.map nextPacket
  emitting : ∀ e ∈ es, SameSetup s e ∧ e.Emitting
  frames : (es.map framesPending).flatten ++ s'.framesPending = s.framesPending ++ accepted

/-- A call that is rejected emits and accepts nothing. -/
theorem offers_error {s : RtpSender} (h : s.WF) (error : RtpSenderError) :
    Offers s [] [] { s with error } where
  wf := h.of_eq rfl rfl rfl rfl rfl
  setup := ⟨rfl, rfl, rfl, rfl, rfl, rfl⟩
  offered := (List.append_nil _).symm
  emitting := by simp
  frames := (List.append_nil _).symm

section Emissions

variable [PCMFlow]

/-- The states in which a call emits an L16 packet. -/
def emissions (s : RtpSender) : Call → List RtpSender
  | .writeFrames (some src) frameCount =>
      if s.ready && s.isL16 && s.samplesPerPacket != 0 && s.format.bytesPerFrame != 0 then
        scratch.loopEmissions s.format.bytesPerFrame src frameCount s
      else []
  | .flush => if s.ready && s.pendingFrames != 0 then [s] else []
  | _ => []

/-- The frames that a call accepts. -/
def accepted (s : RtpSender) : Call → List AudioFrame
  | .writeFrames (some src) frameCount =>
      match s.writeFrames (some src) frameCount with
      | none => []
      | some (n, _) => (memFrames s.format.channels.toNat src n).map PcmFrame.audio
  | _ => []

/-- The call is rejected, which emits and accepts nothing, or the sender is in L16 mode and ready. -/
theorem writeFrames_guard {s : RtpSender} (h : s.WF) (src : Option (List UInt8)) (frameCount : ℕ) :
    ((∃ error, s.writeFrames src frameCount = some (0, { s with error })) ∧
        s.emissions (.writeFrames src frameCount) = []) ∨
      ∃ mem, src = some mem ∧ s.ready = true ∧ L16Mode s.format.channels.toNat s ∧
        s.emissions (.writeFrames src frameCount)
          = scratch.loopEmissions (s.format.channels.toNat * 2) mem frameCount s := by
  by_cases hready : s.ready = true
  swap
  · refine .inl ⟨⟨.notReady, by simp [writeFrames, hready]⟩, ?_⟩
    cases src <;> simp [emissions, hready]
  by_cases hpath : s.isL16 = false ∨ s.samplesPerPacket = 0 ∨ s.format.bytesPerFrame = 0
  · refine .inl ⟨⟨.wrongPath, by simp [writeFrames, hready, or_assoc, hpath]⟩, ?_⟩
    cases src <;> rcases hpath with hzero | hzero | hzero <;> simp [emissions, hzero]
  obtain ⟨hl16, hspp, hbpf⟩ : s.isL16 = true ∧ s.samplesPerPacket ≠ 0 ∧ s.format.bytesPerFrame ≠ 0 := by
    simpa using hpath
  cases src with
  | none =>
    have hnull : s.writeFrames none frameCount = some (0, s) := by
      simp [writeFrames, hready, hl16, hspp, hbpf]
    exact .inl ⟨⟨s.error, hnull⟩, rfl⟩
  | some mem =>
    have hmode := h.l16Mode hspp
    refine .inr ⟨mem, rfl, hready, hmode, ?_⟩
    rw [← hmode.bytesPerFrame]
    simp [emissions, hready, hl16, hspp, hbpf]

/-- In L16 mode all frames are accepted. -/
theorem accepted_writeFrames {s : RtpSender} (h : s.WF) (hmode : L16Mode s.format.channels.toNat s)
    (hready : s.ready = true) (mem : List UInt8) (frameCount : ℕ) :
    s.accepted (.writeFrames (some mem) frameCount)
      = (memFrames s.format.channels.toNat mem frameCount).map PcmFrame.audio := by
  obtain ⟨packets, s', hspec, -⟩ := writeFrames_spec hmode hready (h.pending_lt hmode) mem frameCount
  rw [accepted, hspec]

/-- **A call of `writeFrames`.** -/
theorem writeFrames_emissions {s : RtpSender} (h : s.WF) (src : Option (List UInt8)) (frameCount : ℕ) :
    ∃ n s', s.writeFrames src frameCount = some (n, s') ∧
      Offers s (s.emissions (.writeFrames src frameCount)) (s.accepted (.writeFrames src frameCount)) s' := by
  rcases writeFrames_guard h src frameCount with
    ⟨⟨error, heq⟩, hnone⟩ | ⟨mem, rfl, hready, hmode, hemissions⟩
  · have haccepted : s.accepted (.writeFrames src frameCount) = [] := by
      cases src with
      | none => rfl
      | some mem => simp [accepted, heq, memFrames, readMem]
    rw [hnone, haccepted]
    exact ⟨0, _, heq, offers_error h error⟩
  · obtain ⟨s', hres, hall, hemits, hoffered, hframes, hlt⟩ :=
      (scratch_lawful hmode.channels_pos).writeLoop_emissions (fun _ _ _ => rfl)
        (fun _ _ hpos _ => offered_emitL16Packet hpos) hmode (h.pending_lt hmode) mem frameCount
    have hloop := (writeFrames_loop hmode hready mem frameCount).trans hres
    -- the states of the loop have the format of the call
    have hsame : ∀ e ∈ scratch.loopEmissions (s.format.channels.toNat * 2) mem frameCount s,
        SameSetup s e ∧ e.Emitting := by
      intro e he
      obtain ⟨hok, hpos, hle, packets, hbefore⟩ := hall e he
      exact ⟨hbefore.setup, by rw [hbefore.setup.format]; exact hok, hpos, hle⟩
    have hmap : ∀ t : RtpSender, t.format = s.format →
        t.framesPending = (scratch.pending s.format.channels.toNat t).map PcmFrame.audio := by
      intro t ht
      rw [framesPending, ht]
    rw [hemissions, accepted_writeFrames h hmode hready]
    refine ⟨frameCount, s', hloop, (hemits.setup.l16Mode hmode).wf hlt, hemits.setup, hoffered, hsame, ?_⟩
    rw [List.map_congr_left fun e he => hmap e (hsame e he).1.format, hmap s' hemits.setup.format,
      hmap s rfl, ← List.map_append, ← hframes, List.map_append, List.map_flatten, List.map_map]
    rfl

/-- **A call of `flush`.** -/
theorem flush_emissions {s : RtpSender} (h : s.WF) : Offers s (s.emissions .flush) [] s.flush.2 := by
  by_cases hsends : s.ready = true ∧ s.pendingFrames ≠ 0
  swap
  · have hnone : s.emissions .flush = [] := by simpa [emissions] using hsends
    obtain ⟨error, heq⟩ := flush_idle hsends
    rw [hnone, heq]
    exact offers_error h error
  · obtain ⟨hready, hzero⟩ := hsends
    have hone : s.emissions .flush = [s] := by simp [emissions, hready, hzero]
    have hlt : s.pendingFrames < s.samplesPerPacket.toNat := h.pending.resolve_left hzero
    have hmode := h.l16Mode_of_pending hzero
    have hemits := emitL16Packet_emits hmode (Nat.pos_of_ne_zero hzero) hlt.le
    obtain ⟨-, -, -, -, hempty⟩ := s.emitL16Packet_config
    have hmode' := hemits.setup.l16Mode hmode
    rw [hone, flush_eq hready hzero]
    refine ⟨hmode'.wf (by rw [hempty]; exact hmode'.samplesPerPacket_pos), hemits.setup,
      offered_emitL16Packet (Nat.pos_of_ne_zero hzero), fun e he => ?_, ?_⟩
    · obtain rfl := List.mem_singleton.mp he
      exact ⟨⟨rfl, rfl, rfl, rfl, rfl, rfl⟩, hmode, Nat.pos_of_ne_zero hzero, hlt.le⟩
    · simp [framesPending_eq_nil hempty]

end Emissions

end RtpSender

/-! ## Runs -/

/-- A packet of the L16 path: the state in which it was emitted, and the frames written for it. -/
structure L16Packet where
  state : RtpSender
  frames : List AudioFrame

/-- A sender with the frames written and pending, and the packets of the L16 path. -/
structure L16History where
  sender : RtpSender
  pending : List AudioFrame := []
  emitted : List L16Packet := []

/-- Deal frames out to the states in which packets were emitted, to each as many as were pending in it;
the rest stays pending. -/
def deal : List RtpSender → List AudioFrame → List L16Packet × List AudioFrame
  | [], fs => ([], fs)
  | e :: es, fs =>
      let (packets, rest) := deal es (fs.drop e.pendingFrames)
      (⟨e, fs.take e.pendingFrames⟩ :: packets, rest)

/-- Dealing out what was pending in each state gives each state its own. -/
theorem deal_flatten {es : List RtpSender} (h : ∀ e ∈ es, e.Emitting) (rest : List AudioFrame) :
    deal es ((es.map RtpSender.framesPending).flatten ++ rest)
      = (es.map fun e => ⟨e, e.framesPending⟩, rest) := by
  induction es with
  | nil => rfl
  | cons e es ih =>
    have hlen := (h e List.mem_cons_self).length_framesPending
    have hrest := ih fun e' he' => h e' (List.mem_cons_of_mem _ he')
    rw [deal, List.map_cons, List.flatten_cons, List.append_assoc, List.drop_left' hlen,
      List.take_left' hlen, hrest]
    rfl

namespace L16History

variable [PCMFlow]

/-- One call. What is accepted queues behind what is pending; whatever leaves the sender with nothing pending
leaves nothing pending here. -/
def step (l : L16History) (call : RtpSender.Call) : Option L16History :=
  (l.sender.step call).map fun sender =>
    let (packets, rest) := deal (l.sender.emissions call) (l.pending ++ l.sender.accepted call)
    { sender
      pending := if sender.pendingFrames = 0 then [] else rest
      emitted := l.emitted ++ packets }

/-- The history leaves the sender alone. -/
theorem run_sender (l : L16History) (calls : List RtpSender.Call) :
    (run L16History.step l calls).map L16History.sender = run RtpSender.step l.sender calls := by
  refine run_map (fun l call => ?_) l calls
  rw [L16History.step, Option.map_map]
  exact Option.map_id'

/-- What holds after every run that stays off the encoded path. -/
structure Inv (l : L16History) : Prop where
  wf : l.sender.WF
  /-- What is booked as pending is. -/
  pending : l.pending = l.sender.framesPending
  /-- One packet was offered in each state in which the sender emitted, and no other. -/
  offered : l.sender.offered = l.emitted.map fun p => p.state.nextPacket
  /-- Each packet carries the frames written for it. -/
  carried : ∀ p ∈ l.emitted, p.state.Emitting ∧ p.frames = p.state.framesPending

omit [PCMFlow] in
/-- A new sender keeps the invariant. -/
theorem inv_new (script : ℕ → UdpTx) : ({ sender := RtpSender.new script } : L16History).Inv where
  wf := RtpSender.wf_new script
  pending := (RtpSender.framesPending_eq_nil rfl).symm
  offered := rfl
  carried := by simp

/-- A call that takes `l` to `l'` and keeps the invariant: what it emits is emitted in the setup that the
call was made in, and becomes the end of the log. -/
structure Steps (l : L16History) (call : RtpSender.Call) (l' : L16History) : Prop where
  step : l.step call = some l'
  sender : l.sender.step call = some l'.sender
  inv : l'.Inv
  emitted : l'.emitted = l.emitted ++ (l.sender.emissions call).map fun e => ⟨e, e.framesPending⟩
  setup : ∀ e ∈ l.sender.emissions call, RtpSender.SameSetup l.sender e

/-- A call that emits. -/
theorem Inv.of_offers {l : L16History} (h : l.Inv) {call : RtpSender.Call} {s' : RtpSender}
    (hstep : l.sender.step call = some s')
    (ho : RtpSender.Offers l.sender (l.sender.emissions call) (l.sender.accepted call) s') :
    ∃ l', l.Steps call l' := by
  have hdeal := deal_flatten (fun e he => (ho.emitting e he).2) s'.framesPending
  rw [ho.frames, ← h.pending] at hdeal
  refine ⟨_, by rw [L16History.step, hstep]; rfl, hstep, ?_, by rw [hdeal],
    fun e he => (ho.emitting e he).1⟩
  rw [hdeal]
  refine ⟨ho.wf, ?_, ?_, ?_⟩
  · dsimp only
    split
    · exact (RtpSender.framesPending_eq_nil ‹_›).symm
    · rfl
  · rw [ho.offered, h.offered, List.map_append, List.map_map]
    rfl
  · intro p hp
    rcases List.mem_append.mp hp with hold | hnew
    · exact h.carried p hold
    · obtain ⟨e, he, rfl⟩ := List.mem_map.mp hnew
      exact ⟨(ho.emitting e he).2, rfl⟩

/-- A call that emits nothing, and keeps the pending frames or drops them all. -/
theorem Inv.of_silent {l : L16History} (h : l.Inv) {call : RtpSender.Call} {s' : RtpSender}
    (hstep : l.sender.step call = some s') (hemissions : l.sender.emissions call = [])
    (haccepted : l.sender.accepted call = []) (hwf : s'.WF) (hoffered : s'.offered = l.sender.offered)
    (hpending : s'.pendingFrames = 0 ∨ s'.framesPending = l.sender.framesPending) :
    ∃ l', l.Steps call l' := by
  refine ⟨_, by rw [L16History.step, hstep]; rfl, hstep, ?_, by rw [hemissions]; rfl,
    by simp [hemissions]⟩
  rw [hemissions, haccepted, deal, List.append_nil]
  refine ⟨hwf, ?_, ?_, by simpa using h.carried⟩
  · dsimp only
    rcases hpending with hzero | hsame
    · rw [if_pos hzero, RtpSender.framesPending_eq_nil hzero]
    · split
      · exact (RtpSender.framesPending_eq_nil ‹_›).symm
      · rw [hsame, h.pending]
  · dsimp only
    rw [List.append_nil, hoffered, h.offered]

/-- **One call** off the encoded path. It completes, and each packet that it emits carries the frames written
for it. -/
theorem Inv.step {l : L16History} (h : l.Inv) {call : RtpSender.Call} (hpath : call.encoded = false) :
    ∃ l', l.Steps call l' := by
  obtain ⟨s', hstep, hwf⟩ := RtpSender.wf_step h.wf call
  cases call with
  | begin destPort ssrc rnd =>
    -- configuring offers nothing, and keeps what is pending or drops all of it
    obtain rfl := Option.some.inj hstep
    exact h.of_silent hstep rfl rfl hwf rfl (.inl rfl)
  | end_ =>
    obtain rfl := Option.some.inj hstep
    exact h.of_silent hstep rfl rfl hwf rfl (.inl rfl)
  | setPayloadType pt clockRate =>
    obtain rfl := Option.some.inj hstep
    have hkeeps : (l.sender.setPayloadType pt clockRate).2.offered = l.sender.offered ∧
        ((l.sender.setPayloadType pt clockRate).2.pendingFrames = 0 ∨
          (l.sender.setPayloadType pt clockRate).2.framesPending = l.sender.framesPending) := by
      unfold RtpSender.setPayloadType
      split
      · exact ⟨rfl, .inr rfl⟩
      · exact ⟨rfl, .inl rfl⟩
    exact h.of_silent hstep rfl rfl hwf hkeeps.1 hkeeps.2
  | setFormat fmt =>
    obtain rfl := Option.some.inj hstep
    rcases l.sender.setFormat_cases fmt with ⟨error, heq⟩ | ⟨hvalid, hbits⟩
    · refine h.of_silent hstep rfl rfl hwf ?_ (.inr ?_) <;> rw [heq] <;> rfl
    · obtain ⟨-, -, -, hpend, -, hudp, -⟩ := l.sender.setFormat_spec hvalid hbits
      exact h.of_silent hstep rfl rfl hwf (by rw [RtpSender.offered, hudp]; rfl) (.inl hpend)
  | setTimestampIncrement inc =>
    obtain rfl := Option.some.inj hstep
    exact h.of_silent hstep rfl rfl hwf rfl (.inr rfl)
  | setMarker m =>
    obtain rfl := Option.some.inj hstep
    exact h.of_silent hstep rfl rfl hwf rfl (.inr rfl)
  | setSsrc ssrc =>
    obtain rfl := Option.some.inj hstep
    exact h.of_silent hstep rfl rfl hwf rfl (.inr rfl)
  | setTimestamp ts =>
    obtain rfl := Option.some.inj hstep
    exact h.of_silent hstep rfl rfl hwf rfl (.inr rfl)
  | setSequenceNumber seq =>
    obtain rfl := Option.some.inj hstep
    exact h.of_silent hstep rfl rfl hwf rfl (.inr rfl)
  | writeFrames src frameCount =>
    -- only these two calls offer packets
    obtain ⟨n, s'', heq, hoffers⟩ := RtpSender.writeFrames_emissions h.wf src frameCount
    exact h.of_offers (by rw [RtpSender.step, heq]; rfl) hoffers
  | writeEncoded bytes count => exact absurd hpath (by simp [RtpSender.Call.encoded])
  | flush =>
    obtain rfl := Option.some.inj hstep
    exact h.of_offers hstep (RtpSender.flush_emissions h.wf)

end L16History

end PcmFlowUdp
