import PcmFlowUdp.Rtp.L16Packets
import PcmFlowUdp.Vban.Packetizer

/-! # Rejected calls leave no trace

A call that a sender rejects before it attempts a send sets the last error and nothing else, and nothing that
a sender puts on the wire depends on the last error, so the run goes on as if the call had not been made.

* `SameButError` — two states that differ in the last error at most; every call keeps them so;
* `Rejected` — a call that returns failure and makes no attempt to send; `Refuses` lists the reasons;
* **`rejected_calls_silent`** — inserting rejected calls anywhere in a run changes nothing but the last
  error. -/

namespace PcmFlowUdp

open ByteTransport

/-- The states in results that are related. -/
theorem rel_map_snd {α σ : Type} {R : σ → σ → Prop} {a b : Option (α × σ)}
    (h : Option.Rel (fun a b => a.1 = b.1 ∧ R a.2 b.2) a b) :
    Option.Rel R (a.map Prod.snd) (b.map Prod.snd) := by
  cases h with
  | none => exact .none
  | some h => exact .some h.2

/-! ## What either sender does with frames -/

namespace Flusher

variable {σ ε : Type} {F : Flusher σ ε} {s t : σ}

/-- The states differ in the last error at most. -/
def SameButError (F : Flusher σ ε) (s t : σ) : Prop := ∃ error, t = F.setError s error

/-- An error that is set hides the one before. -/
theorem SameButError.setError (h : F.SameButError s t) (error : ε) :
    F.SameButError (F.setError s error) (F.setError t error) := by
  obtain ⟨error', rfl⟩ := h
  exact ⟨error, by rw [F.setError_setError, F.setError_setError]⟩

/-- Errors that are set one after the other count as one. -/
theorem SameButError.trans {u : σ} (h : F.SameButError s t) (h' : F.SameButError t u) : F.SameButError s u := by
  obtain ⟨error, rfl⟩ := h
  obtain ⟨error', rfl⟩ := h'
  exact ⟨error', F.setError_setError s error error'⟩

end Flusher

namespace FrameWriter

variable {σ ε : Type} {W : FrameWriter σ ε} {s t : σ}

section SameButError

variable (hemit : ∀ s t, W.SameButError s t → W.SameButError (W.emit s) (W.emit t)) (h : W.SameButError s t)

include hemit h

/-- `writeFrames` does not depend on the last error, if an emission does not. -/
theorem SameButError.writeFrames (src : Option (List UInt8)) (frameCount : ℕ) :
    Option.Rel (fun a b => a.1 = b.1 ∧ W.SameButError a.2 b.2) (W.writeFrames s src frameCount)
      (W.writeFrames t src frameCount) := by
  have herror := h.setError
  obtain ⟨error, rfl⟩ := h
  refine writeFrames_rel (W.ready_setError s error) (W.unset_setError s error) (W.bytesPerFrame_setError s error)
    ⟨error, rfl⟩ herror src frameCount fun mem _ _ => ?_
  refine W.writeLoop_rel ?_ ?_ hemit _ mem frameCount frameCount 0 ⟨error, rfl⟩
  · rintro s t ⟨error, rfl⟩
    exact ⟨W.packet_setError s error, W.pendingFrames_setError s error, W.samplesPerPacket_setError s error⟩
  · rintro s t packet k ⟨error, rfl⟩
    exact ⟨error, W.store_setError s error packet k⟩

/-- Nor does `flush`. -/
theorem SameButError.flush [BEq ε] : W.SameButError (W.flush s).2 (W.flush t).2 := by
  have herror := h.setError
  obtain ⟨error, rfl⟩ := h
  exact Flusher.flush_rel (W.ready_setError s error) (W.pendingFrames_setError s error) ⟨error, rfl⟩ herror
    fun _ _ => hemit _ _ ⟨error, rfl⟩

end SameButError

/-- A call that accepts no frames sets the last error at most, if one that passes the checks accepts all. -/
theorem writeFrames_zero {src : Option (List UInt8)} {frameCount : ℕ}
    (haccepts : ∀ mem, W.ready s = true → W.unset s = false →
      ∃ s', W.writeFrames s (some mem) frameCount = some (frameCount, s'))
    (hfails : (W.writeFrames s src frameCount).map Prod.fst = some 0) :
    ∃ error, W.writeFrames s src frameCount = some (0, W.setError s error) := by
  rcases writeFrames_cases s src frameCount with hdown | ⟨mem, rfl, hready, hset⟩
  · exact hdown
  · obtain ⟨s', haccepted⟩ := haccepts mem hready hset
    rw [haccepted] at hfails
    exact writeFrames_refused (.inr (.inr (.inr (Option.some.inj hfails))))

end FrameWriter

/-- A failing call that leaves the attempts as they are is rejected: this is all that there is to show of a call
that sets the last error and nothing else. -/
theorem attempts_of_step {σ ι : Type} {step : σ → ι → Option σ} {udp : σ → Udp} {s t : σ} {call : ι}
    (hstep : step s call = some t) (hudp : udp t = udp s) :
    ∀ s', step s call = some s' → (udp s').attempts = (udp s).attempts := by
  intro s' h
  obtain rfl : t = s' := Option.some.inj (hstep.symm.trans h)
  rw [hudp]

/-! ## `VbanSender` -/

namespace VbanSender

/-- The states differ in the last error at most. -/
def SameButError (s t : VbanSender) : Prop := ∃ error, t = { s with error }

section Calls

variable [PCMFlow]

/-- An emission does not depend on the last error. -/
theorem SameButError.emitPacket {s t : VbanSender} (h : SameButError s t) :
    SameButError s.emitPacket t.emitPacket := by
  obtain ⟨error, rfl⟩ := h
  by_cases hpending : s.pendingFrames = 0
  · rw [VbanSender.emitPacket, if_pos hpending, VbanSender.emitPacket, if_pos hpending]
    exact ⟨error, rfl⟩
  · rw [emitPacket_eq hpending, emitPacket_eq (s := { s with error }) hpending]
    exact ⟨_, rfl⟩

/-- Nor does a call. -/
theorem SameButError.step {s t : VbanSender} (h : SameButError s t) (call : Call) :
    Option.Rel SameButError (step s call) (step t call) := by
  obtain ⟨error, rfl⟩ := h
  cases call with
  | begin destPort streamName => exact .some ⟨_, rfl⟩
  | end_ => exact .some ⟨_, rfl⟩
  | setFormat fmt =>
    refine .some ?_
    unfold VbanSender.setFormat
    dsimp only
    split
    · exact ⟨_, rfl⟩
    split
    · exact ⟨_, rfl⟩
    · exact ⟨error, rfl⟩
  | setStreamName name => exact .some ⟨error, rfl⟩
  | writeFrames src frameCount =>
    rw [VbanSender.step, VbanSender.step, writeFrames_writer, writeFrames_writer]
    exact rel_map_snd (FrameWriter.SameButError.writeFrames (W := writer)
      (fun _ _ h => SameButError.emitPacket h)
      ⟨error, rfl⟩ src frameCount)
  | flush =>
    exact .some (FrameWriter.SameButError.flush (W := writer) (fun _ _ h => SameButError.emitPacket h) (s := s)
      ⟨error, rfl⟩)

/-- The call returns failure: `false`, or no frames accepted. -/
def Fails (s : VbanSender) : Call → Prop
  | .setFormat fmt => (s.setFormat fmt).1 = false
  | .writeFrames src frameCount => (s.writeFrames src frameCount).map Prod.fst = some 0
  | .flush => s.flush.1 = false
  | _ => False

/-- The call is rejected: it fails, and no send is attempted. -/
def Rejected (s : VbanSender) (call : Call) : Prop :=
  s.Fails call ∧ ∀ s', step s call = some s' → s'.udp.attempts = s.udp.attempts

/-- The reasons that the code has to reject a call. -/
def Refuses (s : VbanSender) : Call → Prop
  | .setFormat fmt => fmt.isValid = false ∨ fmt.bitsPerSample ≠ 16 ∨
      vbanSampleRateIndex fmt.sampleRate = kVbanSampleRateInvalid
  | .writeFrames src frameCount => s.ready = false ∨ s.samplesPerPacket = 0 ∨ s.format.bytesPerFrame = 0 ∨
      src = none ∨ frameCount = 0
  | .flush => s.ready = false
  | _ => False

/-- A failing call that sets the last error and nothing else is rejected. -/
theorem Rejected.of_step {s : VbanSender} {call : Call} (hfails : s.Fails call) {error : VbanSenderError}
    (hstep : step s call = some { s with error }) : s.Rejected call :=
  ⟨hfails, attempts_of_step hstep rfl⟩

/-- A call for which there is a reason is rejected. -/
theorem Refuses.rejected {s : VbanSender} {call : Call} (h : s.Refuses call) : s.Rejected call := by
  cases call with
  | setFormat fmt =>
    rcases s.setFormat_cases fmt with ⟨error, heq⟩ | ⟨hvalid, hbits, hidx⟩
    · exact .of_step (congrArg Prod.fst heq) (congrArg (some ∘ Prod.snd) heq)
    · simp [Refuses, hvalid, hbits, hidx] at h
  | writeFrames src frameCount =>
    have hreason : s.ready = false ∨ (writer).unset s = true ∨ src = none ∨ frameCount = 0 := by
      simpa [Refuses, writer, or_assoc] using h
    obtain ⟨error, heq⟩ := FrameWriter.writeFrames_refused (W := writer) hreason
    rw [← writeFrames_writer] at heq
    exact .of_step (by rw [Fails, heq]; rfl) (congrArg (Option.map Prod.snd) heq)
  | flush =>
    have heq := Flusher.flush_notReady (F := (writer).toFlusher) (show s.ready = false from h)
    exact .of_step (congrArg Prod.fst heq) (congrArg (some ∘ Prod.snd) heq)
  | _ => exact h.elim

/-- **A rejected call sets the last error and nothing else.** -/
theorem Rejected.sameButError {s s' : VbanSender} (hwf : s.WF) {call : Call} (h : s.Rejected call)
    (hstep : step s call = some s') : SameButError s s' := by
  obtain ⟨hfails, hattempts⟩ := h
  have hnone := hattempts s' hstep
  cases call with
  | begin destPort streamName => exact hfails.elim
  | end_ => exact hfails.elim
  | setFormat fmt =>
    obtain rfl := Option.some.inj hstep
    rcases s.setFormat_cases fmt with ⟨error, heq⟩ | ⟨hvalid, hbits, hidx⟩
    · rw [heq]
      exact ⟨error, rfl⟩
    · exact absurd ((s.setFormat_spec hvalid hbits hidx).1.symm.trans hfails) (by decide)
  | setStreamName name => exact hfails.elim
  | writeFrames src frameCount =>
    -- whoever passes the checks accepts everything, so there was nothing to accept
    rw [Fails, writeFrames_writer] at hfails
    obtain ⟨error, heq⟩ := FrameWriter.writeFrames_zero (fun mem => hwf.accepts mem frameCount) hfails
    rw [step, writeFrames_writer, heq] at hstep
    obtain rfl := Option.some.inj hstep
    exact ⟨error, rfl⟩
  | flush =>
    obtain rfl := Option.some.inj hstep
    by_cases hsends : s.ready = true ∧ s.pendingFrames ≠ 0
    · obtain ⟨hready, hpending⟩ := hsends
      rw [flush_eq hready hpending, emitPacket_eq hpending] at hnone
      simp at hnone
    · exact flush_idle hsends

/-- **Insertion.** -/
theorem run_rejected {s : VbanSender} {script : ℕ → UdpTx} {calls calls' : List Call}
    (hrun : run step (new script) calls = some s)
    (hins : Inserts step Rejected (new script) calls calls') :
    ∃ s', run step (new script) calls' = some s' ∧ SameButError s s' := by
  exact run_inserts (W := WF) (R := SameButError) (fun s call hwf => wf_step hwf call)
    (fun s t call h => h.step call) (fun s call s' hwf hrejected hstep => hrejected.sameButError hwf hstep)
    (fun _ _ _ => Flusher.SameButError.trans (F := (writer).toFlusher)) ⟨_, rfl⟩ (wf_new script) hins hrun

end Calls

end VbanSender

/-! ## `RtpSender` -/

namespace RtpSender

/-- The states differ in the last error at most. -/
def SameButError (s t : RtpSender) : Prop := ∃ error, t = { s with error }

/-- An emission does not depend on the last error. -/
theorem SameButError.emitL16Packet {s t : RtpSender} (h : SameButError s t) :
    SameButError s.emitL16Packet t.emitL16Packet := by
  obtain ⟨error, rfl⟩ := h
  unfold RtpSender.emitL16Packet
  dsimp only
  split
  · exact ⟨error, rfl⟩
  · simp only [sendPacket_eq]
    split
    · exact ⟨_, rfl⟩
    · exact ⟨_, rfl⟩

/-- Nor does a call of `writeEncoded`. -/
theorem SameButError.writeEncoded {s t : RtpSender} (h : SameButError s t) (bytes : Option (List UInt8))
    (count : ℕ) : SameButError (s.writeEncoded bytes count).2 (t.writeEncoded bytes count).2 := by
  obtain ⟨error, rfl⟩ := h
  unfold RtpSender.writeEncoded
  dsimp only
  split
  · exact ⟨_, rfl⟩
  split
  · exact ⟨_, rfl⟩
  cases bytes with
  | none => exact ⟨_, rfl⟩
  | some bytes =>
    dsimp only
    split
    · exact ⟨_, rfl⟩
    · simp only [sendPacket_eq]
      split
      · exact ⟨_, rfl⟩
      · exact ⟨_, rfl⟩

/-- Nor does one of the setters of the configuration. -/
theorem SameButError.setPayloadType {s t : RtpSender} (h : SameButError s t) (pt : UInt8)
    (clockRate : UInt32) :
    SameButError (s.setPayloadType pt clockRate).2 (t.setPayloadType pt clockRate).2 := by
  obtain ⟨error, rfl⟩ := h
  unfold RtpSender.setPayloadType
  split
  · exact ⟨_, rfl⟩
  · exact ⟨error, rfl⟩

section Calls

variable [PCMFlow]

/-- Nor does `setFormat`. -/
theorem SameButError.setFormat {s t : RtpSender} (h : SameButError s t) (fmt : PCMFormat) :
    SameButError (s.setFormat fmt).2 (t.setFormat fmt).2 := by
  obtain ⟨error, rfl⟩ := h
  unfold RtpSender.setFormat RtpSender.setPayloadType
  split
  · exact ⟨_, rfl⟩
  generalize (if fmt.channels = 2 then ptL16Stereo else ptL16Mono) = pt
  by_cases hbad : pt > 0x7F ∨ fmt.sampleRate = 0
  · simp only [if_pos hbad]
    exact ⟨_, rfl⟩
  · simp only [if_neg hbad]
    exact ⟨error, rfl⟩

/-- No call depends on the last error. -/
theorem SameButError.step {s t : RtpSender} (h : SameButError s t) (call : Call) :
    Option.Rel SameButError (step s call) (step t call) := by
  cases call with
  | setPayloadType pt clockRate => exact .some (h.setPayloadType pt clockRate)
  | setFormat fmt => exact .some (h.setFormat fmt)
  | writeEncoded bytes count => exact .some (h.writeEncoded bytes count)
  | writeFrames src frameCount =>
    rw [RtpSender.step, RtpSender.step, writeFrames_writer, writeFrames_writer]
    exact rel_map_snd (FrameWriter.SameButError.writeFrames (W := writer)
      (fun _ _ h => SameButError.emitL16Packet h) h src frameCount)
  | flush =>
    exact .some (FrameWriter.SameButError.flush (W := writer) (fun _ _ h => SameButError.emitL16Packet h) h)
  | _ =>
    obtain ⟨error, rfl⟩ := h
    exact .some ⟨_, rfl⟩

/-- The call returns failure: `false`, or no frames accepted. -/
def Fails (s : RtpSender) : Call → Prop
  | .setPayloadType pt clockRate => (s.setPayloadType pt clockRate).1 = false
  | .setFormat fmt => (s.setFormat fmt).1 = false
  | .writeFrames src frameCount => (s.writeFrames src frameCount).map Prod.fst = some 0
  | .writeEncoded bytes count => (s.writeEncoded bytes count).1 = false
  | .flush => s.flush.1 = false
  | _ => False

/-- The call is rejected: it fails, and no send is attempted. -/
def Rejected (s : RtpSender) (call : Call) : Prop :=
  s.Fails call ∧ ∀ s', step s call = some s' → s'.udp.attempts = s.udp.attempts

/-- The reasons that the code has to reject a call. -/
def Refuses (s : RtpSender) : Call → Prop
  | .setPayloadType pt clockRate => pt > 0x7F ∨ clockRate = 0
  | .setFormat fmt => fmt.isValid = false ∨ fmt.bitsPerSample ≠ 16
  | .writeFrames src frameCount => s.ready = false ∨ s.isL16 = false ∨ s.samplesPerPacket = 0 ∨
      s.format.bytesPerFrame = 0 ∨ src = none ∨ frameCount = 0
  | .writeEncoded bytes count => s.ready = false ∨ s.payloadType = 0xFF ∨ bytes = none ∨ count = 0 ∨
      kRtpMaxPayloadBytes < count
  | .flush => s.ready = false
  | _ => False

/-- A failing call that sets the last error and nothing else is rejected. -/
theorem Rejected.of_step {s : RtpSender} {call : Call} (hfails : s.Fails call) {error : RtpSenderError}
    (hstep : step s call = some { s with error }) : s.Rejected call :=
  ⟨hfails, attempts_of_step hstep rfl⟩

/-- A call for which there is a reason is rejected. -/
theorem Refuses.rejected {s : RtpSender} {call : Call} (h : s.Refuses call) : s.Rejected call := by
  cases call with
  | setPayloadType pt clockRate =>
    have heq : s.setPayloadType pt clockRate = (false, { s with error := .unsupportedFormat }) := if_pos h
    exact .of_step (congrArg Prod.fst heq) (congrArg (some ∘ Prod.snd) heq)
  | setFormat fmt =>
    rcases s.setFormat_cases fmt with ⟨error, heq⟩ | ⟨hvalid, hbits⟩
    · exact .of_step (congrArg Prod.fst heq) (congrArg (some ∘ Prod.snd) heq)
    · simp [Refuses, hvalid, hbits] at h
  | writeFrames src frameCount =>
    have hreason : s.ready = false ∨ (writer).unset s = true ∨ src = none ∨ frameCount = 0 := by
      simpa [Refuses, writer, or_assoc] using h
    obtain ⟨error, heq⟩ := FrameWriter.writeFrames_refused (W := writer) hreason
    rw [← writeFrames_writer] at heq
    exact .of_step (by rw [Fails, heq]; rfl) (congrArg (Option.map Prod.snd) heq)
  | writeEncoded bytes count =>
    have hrefused : ∃ error, s.writeEncoded bytes count = (false, { s with error }) := by
      unfold writeEncoded
      split
      · exact ⟨_, rfl⟩
      rename_i hready
      split
      · exact ⟨_, rfl⟩
      rename_i hset
      cases bytes with
      | none => exact ⟨_, rfl⟩
      | some bytes =>
        simp only [Bool.not_eq_true', beq_iff_eq] at hready hset
        have hcount : count = 0 ∨ kRtpMaxPayloadBytes < count := by simpa [Refuses, hready, hset] using h
        exact ⟨_, if_pos hcount⟩
    obtain ⟨error, heq⟩ := hrefused
    exact .of_step (congrArg Prod.fst heq) (congrArg (some ∘ Prod.snd) heq)
  | flush =>
    have heq := Flusher.flush_notReady (F := flusher) (show s.ready = false from h)
    exact .of_step (congrArg Prod.fst heq) (congrArg (some ∘ Prod.snd) heq)
  | _ => exact h.elim

/-- **A rejected call sets the last error and nothing else.** -/
theorem Rejected.sameButError {s s' : RtpSender} (hwf : s.WF) {call : Call} (h : s.Rejected call)
    (hstep : step s call = some s') : SameButError s s' := by
  obtain ⟨hfails, hattempts⟩ := h
  have hnone := hattempts s' hstep
  cases call with
  | setPayloadType pt clockRate =>
    obtain rfl := Option.some.inj hstep
    rw [Fails, setPayloadType] at hfails
    rw [setPayloadType]
    split at hfails
    · rename_i hbad
      rw [if_pos hbad]
      exact ⟨_, rfl⟩
    · cases hfails
  | setFormat fmt =>
    obtain rfl := Option.some.inj hstep
    rcases s.setFormat_cases fmt with ⟨error, heq⟩ | ⟨hvalid, hbits⟩
    · rw [heq]
      exact ⟨error, rfl⟩
    · exact absurd ((s.setFormat_spec hvalid hbits).1.symm.trans hfails) (by decide)
  | writeFrames src frameCount =>
    -- whoever passes the checks accepts everything, so there was nothing to accept
    rw [Fails, writeFrames_writer] at hfails
    obtain ⟨error, heq⟩ := FrameWriter.writeFrames_zero (fun mem => hwf.accepts mem frameCount) hfails
    rw [step, writeFrames_writer, heq] at hstep
    obtain rfl := Option.some.inj hstep
    exact ⟨error, rfl⟩
  | writeEncoded bytes count =>
    obtain rfl := Option.some.inj hstep
    rcases writeEncoded_cases hwf bytes count with ⟨error, heq⟩ | ⟨mem, rfl, hready, hpt, hpos, hmax⟩
    · rw [heq]
      exact ⟨error, rfl⟩
    · rw [writeEncoded_eq hready hpt mem hpos hmax] at hnone
      simp [attempt] at hnone
  | flush =>
    obtain rfl := Option.some.inj hstep
    by_cases hsends : s.ready = true ∧ s.pendingFrames ≠ 0
    · obtain ⟨hready, hpending⟩ := hsends
      rw [flush_eq hready hpending, (emitL16Packet_attempt hpending).1] at hnone
      simp at hnone
    · exact flush_idle hsends
  | _ => exact hfails.elim

/-- **Insertion.** -/
theorem run_rejected {s : RtpSender} {script : ℕ → UdpTx} {calls calls' : List Call}
    (hrun : run step (new script) calls = some s)
    (hins : Inserts step Rejected (new script) calls calls') :
    ∃ s', run step (new script) calls' = some s' ∧ SameButError s s' := by
  exact run_inserts (W := WF) (R := SameButError) (fun s call hwf => wf_step hwf call)
    (fun s t call h => h.step call) (fun s call s' hwf hrejected hstep => hrejected.sameButError hwf hstep)
    (fun _ _ _ => Flusher.SameButError.trans (F := (writer).toFlusher)) ⟨_, rfl⟩ (wf_new script) hins hrun

end Calls

end RtpSender

/-! ## Both senders -/

/-- **Rejected calls leave no trace.** Take any run of either sender and insert rejected calls anywhere: the
run goes through, and its state is the same but for the last error. So the same attempts were made and the same
datagrams left, and every getter and the pending frames are the same. -/
theorem rejected_calls_silent [PCMFlow] (script : ℕ → UdpTx) :
    (∀ (calls calls' : List VbanSender.Call) (s : VbanSender),
      run VbanSender.step (VbanSender.new script) calls = some s →
      Inserts VbanSender.step VbanSender.Rejected (VbanSender.new script) calls calls' →
        ∃ s', run VbanSender.step (VbanSender.new script) calls' = some s' ∧
          VbanSender.SameButError s s') ∧
    (∀ (calls calls' : List RtpSender.Call) (s : RtpSender),
      run RtpSender.step (RtpSender.new script) calls = some s →
      Inserts RtpSender.step RtpSender.Rejected (RtpSender.new script) calls calls' →
        ∃ s', run RtpSender.step (RtpSender.new script) calls' = some s' ∧
          RtpSender.SameButError s s') :=
  ⟨fun _ _ _ hrun hins => VbanSender.run_rejected hrun hins,
    fun _ _ _ hrun hins => RtpSender.run_rejected hrun hins⟩

/-- A `flush` before `begin`, a payload type of eight bits and an empty payload are rejected around the calls
that send one packet. -/
theorem rejected_calls_silent_three :
    ∃ s s', run (@RtpSender.step PCMFlow.documented) (RtpSender.new fun _ => {})
        [.begin 5004 1 ⟨1, 0, 0⟩, .setPayloadType 96 48000, .writeEncoded (some [1, 2]) 2] = some s ∧
      run (@RtpSender.step PCMFlow.documented) (RtpSender.new fun _ => {})
        [.flush, .begin 5004 1 ⟨1, 0, 0⟩, .setPayloadType 96 48000, .setPayloadType 128 48000,
          .writeEncoded (some [1, 2]) 2, .writeEncoded (some [1, 2]) 0] = some s' ∧
      RtpSender.SameButError s s' := by
  obtain ⟨-, hrtp⟩ := @rejected_calls_silent PCMFlow.documented fun _ => {}
  have hrefused := @RtpSender.Refuses.rejected PCMFlow.documented
  obtain ⟨s', hrun', hsame⟩ := hrtp
    [.begin 5004 1 ⟨1, 0, 0⟩, .setPayloadType 96 48000, .writeEncoded (some [1, 2]) 2]
    [.flush, .begin 5004 1 ⟨1, 0, 0⟩, .setPayloadType 96 48000, .setPayloadType 128 48000,
      .writeEncoded (some [1, 2]) 2, .writeEncoded (some [1, 2]) 0] _ rfl
    (.insert (hrefused rfl) rfl
      (.keep rfl (.keep rfl (.insert (hrefused (.inl (by decide))) rfl
        (.keep rfl (.insert (hrefused (.inr (.inr (.inr (.inl rfl))))) rfl (.nil _)))))))
  exact ⟨_, s', rfl, hrun', hsame⟩

end PcmFlowUdp
