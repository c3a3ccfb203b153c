import PcmFlowUdp.ByteTransport.Checked
import PcmFlowUdp.RejectedCalls

/-! # The senders stay inside their packet scratch

The calls of both senders once more, with every subtraction, division, cast to `uint16_t` and access to
`packet_` checked: `step?` is `none` where the code would wrap around, cut a number off or leave the array. The
header itself is written at fixed offsets and needs no check.

* `Lawful.writeLoop?_eq` — the loop of `writeFrames` passes its checks;
* **`senders_safe`** — in every reachable state the invariant of the pending frames holds, every call passes all
  checks, and `writeFrames` accepts every frame of a call that it does not reject. -/

namespace PcmFlowUdp

open ByteTransport PcmFrame

namespace PacketScratch

variable {σ : Type} (P : PacketScratch σ) (emit? : σ → Option σ)

/-- `writeLoop`, checked; `emit?` is the checked emission. -/
def writeLoop? (bytesPerFrame : ℕ) (src : List UInt8) (frameCount : ℕ) : ℕ → ℕ → σ → Option (ℕ × σ)
  | 0, consumed, s => if consumed < frameCount then none else some (consumed, s)
  | fuel + 1, consumed, s =>
      if consumed < frameCount then do
        let roomFrames ← sub? (P.samplesPerPacket s) (P.pendingFrames s)
        let batch := if frameCount - consumed < roomFrames then frameCount - consumed else roomFrames
        -- the bytes copied are the caller's
        let _ ← sub? frameCount (consumed + batch)
        let packet ← (P.packet s).blit? (P.headerBytes + P.pendingFrames s * bytesPerFrame)
          (readMem src (consumed * bytesPerFrame) (batch * bytesPerFrame))
        let s := P.store s packet (P.pendingFrames s + batch)
        let s ← if P.samplesPerPacket s ≤ P.pendingFrames s then emit? s else some s
        writeLoop? bytesPerFrame src frameCount fuel (consumed + batch) s
      else some (consumed, s)

variable {P emit?} {c : ℕ} {Ok : σ → Prop} {Emits : σ → List (List (PcmFrame c)) → σ → Prop}

/-- **The loop passes its checks**, from a scratch short of a full packet. -/
theorem Lawful.writeLoop?_eq (h : P.Lawful c Ok Emits)
    (hemit : ∀ s, Ok s → P.pendingFrames s ≤ P.samplesPerPacket s → emit? s = some (P.emit s))
    (src : List UInt8) (frameCount fuel : ℕ) {consumed : ℕ} {s : σ} (hs : Ok s)
    (hlt : P.pendingFrames s < P.samplesPerPacket s) :
    P.writeLoop? emit? (c * 2) src frameCount fuel consumed s
      = P.writeLoop (c * 2) src frameCount fuel consumed s := by
  induction fuel generalizing consumed s with
  | zero => rfl
  | succ fuel ih =>
    rw [writeLoop?, writeLoop]
    by_cases hmore : consumed < frameCount
    swap
    · rw [if_neg hmore, if_neg hmore]
    rw [if_pos hmore, if_pos hmore]
    simp only [sub?_eq hlt.le, Option.bind_eq_bind, Option.bind_some]
    generalize hbatch : (if frameCount - consumed < P.samplesPerPacket s - P.pendingFrames s then
      frameCount - consumed else P.samplesPerPacket s - P.pendingFrames s) = batch
    have hroom : P.pendingFrames s + batch ≤ P.samplesPerPacket s := by
      rw [← hbatch]
      split <;> omega
    have hcaller : consumed + batch ≤ frameCount := by
      rw [← hbatch]
      split <;> omega
    -- the copy ends where the pending frames will
    have hcopy : P.headerBytes + P.pendingFrames s * (c * 2)
        + (readMem src (consumed * (c * 2)) (batch * (c * 2))).length ≤ P.maxBytes := by
      have hfits := h.room hs hroom
      rw [Nat.add_mul] at hfits
      rw [length_readMem]
      omega
    simp only [sub?_eq hcaller, Buffer.blit?_eq _ hcopy, Option.bind_some]
    generalize (P.packet s).blit (P.headerBytes + P.pendingFrames s * (c * 2))
      (readMem src (consumed * (c * 2)) (batch * (c * 2))) = packet
    have hok : Ok (P.store s packet (P.pendingFrames s + batch)) := h.ok_store _ _ _ hs
    have hpend : P.pendingFrames (P.store s packet (P.pendingFrames s + batch)) = P.pendingFrames s + batch :=
      h.pendingFrames_store _ _ _
    have hlim : P.samplesPerPacket (P.store s packet (P.pendingFrames s + batch)) = P.samplesPerPacket s :=
      h.samplesPerPacket_store _ _ _
    split
    · -- a full packet is emitted, and nothing is pending
      rw [hemit _ hok (by rw [hpend, hlim]; exact hroom), Option.bind_some]
      apply ih (h.ok_emit _ hok)
      rw [h.pendingFrames_emit _ hok, h.samplesPerPacket_emit _ hok]
      exact h.samplesPerPacket_pos _ hok
    · rename_i hshort
      exact ih hok (Nat.not_le.mp hshort)

end PacketScratch

/-! ## `flush` and `writeFrames` -/

/-- `flush`, checked. -/
def Flusher.flush? {σ ε : Type} [BEq ε] (F : Flusher σ ε) (emit? : σ → Option σ) (s : σ) : Option (Bool × σ) :=
  if !F.ready s then some (false, F.setError s F.notReady)
  else if F.pendingFrames s = 0 then some (true, s)
  else do
    let pre := F.error s
    let s ← emit? s
    some (F.error s == pre, s)

/-- It passes its checks if the emission does. -/
theorem Flusher.flush?_eq {σ ε : Type} [BEq ε] {F : Flusher σ ε} {emit? : σ → Option σ} {s : σ}
    (hemit : F.pendingFrames s ≠ 0 → emit? s = some (F.emit s)) : F.flush? emit? s = some (F.flush s) := by
  rw [flush?, flush]
  split
  · rfl
  split
  · rfl
  · rename_i hpending
    rw [hemit hpending]
    rfl

namespace FrameWriter

variable {σ ε : Type} {W : FrameWriter σ ε} {emit? : σ → Option σ} {c : ℕ} {Ok : σ → Prop}
  {Emits : σ → List (List (PcmFrame c)) → σ → Prop} {s : σ}

/-- `writeFrames`, checked. -/
def writeFrames? (W : FrameWriter σ ε) (emit? : σ → Option σ) (s : σ) (src : Option (List UInt8))
    (frameCount : ℕ) : Option (ℕ × σ) :=
  if !W.ready s then some (0, W.setError s W.notReady)
  else if W.unset s then some (0, W.setError s W.unsetError)
  else
    match src with
    | none => some (0, s)
    | some src =>
        if frameCount = 0 then some (0, s)
        else W.writeLoop? emit? (W.bytesPerFrame s) src frameCount frameCount 0 s

/-- **It passes its checks** in a lawful setup that is short of a full packet, if the emission does. -/
theorem Lawful.writeFrames?_eq (h : W.Lawful c Ok Emits)
    (hemit : ∀ s, Ok s → W.pendingFrames s ≤ W.samplesPerPacket s → emit? s = some (W.emit s)) (hs : Ok s)
    (hlt : W.pendingFrames s < W.samplesPerPacket s) (src : Option (List UInt8)) (frameCount : ℕ) :
    W.writeFrames? emit? s src frameCount = W.writeFrames s src frameCount := by
  unfold writeFrames? writeFrames
  rw [h.bytesPerFrame s hs]
  cases src with
  | none => rfl
  | some mem => simp only [h.writeLoop?_eq hemit mem frameCount frameCount hs hlt]

/-- A setup without a packet size is turned down before anything is checked. -/
theorem writeFrames?_unset (hset : W.unset s = true) (src : Option (List UInt8)) (frameCount : ℕ) :
    W.writeFrames? emit? s src frameCount = W.writeFrames s src frameCount := by
  unfold writeFrames? writeFrames
  rw [hset]
  rfl

end FrameWriter

/-! ## `VbanSender` -/

/-- `computeSamplesPerPacket`, checked. -/
def vbanSamplesPerPacket? (channels : UInt8) : Option UInt16 := do
  let bytesPerFrame := channels.toNat * 2
  let fitsInPayload ← div? kVbanMaxPayloadBytes bytesPerFrame
  narrow16? (if fitsInPayload < 256 then fitsInPayload else 256)

/-- The packet size is computed without a division by zero. -/
theorem vbanSamplesPerPacket?_eq {channels : UInt8} (h : channels ≠ 0) :
    vbanSamplesPerPacket? channels = some (vbanSamplesPerPacket channels) := by
  have hpos : 0 < channels.toNat := UInt8.lt_iff_toNat_lt.mp (UInt8.pos_iff_ne_zero.mpr h)
  rw [vbanSamplesPerPacket?, div?_eq (show channels.toNat * 2 ≠ 0 by omega), Option.bind_eq_bind,
    Option.bind_some]
  exact narrow16?_eq (by split <;> omega)

namespace VbanSender

section Checked

variable [PCMFlow]

/-- `setFormat`, checked. -/
def setFormat? (s : VbanSender) (fmt : PCMFormat) : Option (Bool × VbanSender) :=
  if !fmt.isValid || fmt.bitsPerSample != 16 then some (false, { s with error := .unsupportedFormat })
  else
    let idx := vbanSampleRateIndex fmt.sampleRate
    if idx = kVbanSampleRateInvalid then some (false, { s with error := .unsupportedFormat })
    else do
      let samplesPerPacket ← vbanSamplesPerPacket? fmt.channels
      some (true, { s with format := fmt, sampleRateIndex := idx, samplesPerPacket, pendingFrames := 0 })

/-- `emitPacket`, checked. -/
def emitPacket? (s : VbanSender) : Option VbanSender :=
  if s.pendingFrames = 0 then some s
  else do
    let numSamples ← narrow16? s.pendingFrames
    let (_, packet) := encodeAudioHeader { s.nextHeader 0 with numSamples } s.packet
    let payloadBytes := s.pendingFrames * s.format.bytesPerFrame
    let totalBytes := kVbanHeaderBytes + payloadBytes
    let bytes ← packet.slice? 0 totalBytes
    let (ok, udp) := s.udp.transmit bytes
    some
      { s with
        udp
        packet
        frameCounter := s.frameCounter + 1
        error := if ok then s.error else .sendFailed
        pendingFrames := 0 }

/-- `writeFrames`, checked. -/
def writeFrames? (s : VbanSender) (src : Option (List UInt8)) (frameCount : ℕ) :
    Option (ℕ × VbanSender) :=
  if !s.ready then some (0, { s with error := .notReady })
  else if s.samplesPerPacket == 0 || s.format.bytesPerFrame == 0 then
    some (0, { s with error := .unsupportedFormat })
  else
    match src with
    | none => some (0, s)
    | some src =>
        if frameCount = 0 then some (0, s)
        else (scratch).writeLoop? emitPacket? s.format.bytesPerFrame src frameCount frameCount 0 s

/-- `flush`, checked. -/
def flush? (s : VbanSender) : Option (Bool × VbanSender) :=
  if !s.ready then some (false, { s with error := .notReady })
  else if s.pendingFrames = 0 then some (true, s)
  else do
    let pre := s.error
    let s ← s.emitPacket?
    some (s.error == pre, s)

/-- The state after one call, `none` if a check fails. -/
def step? (s : VbanSender) : Call → Option VbanSender
  | .setFormat fmt => (s.setFormat? fmt).map Prod.snd
  | .writeFrames src frameCount => (s.writeFrames? src frameCount).map Prod.snd
  | .flush => s.flush?.map Prod.snd
  | call => step s call

/-- An emission of frames that fit a packet passes its checks. -/
theorem AudioMode.emitPacket?_eq {c : ℕ} {s : VbanSender} (h : AudioMode c s)
    (hle : s.pendingFrames ≤ s.samplesPerPacket.toNat) : s.emitPacket? = some s.emitPacket := by
  have hnarrow : s.pendingFrames < 2 ^ 16 := hle.trans_lt s.samplesPerPacket.toNat_lt
  have hroom := h.room hle
  rw [← h.bytesPerFrame] at hroom
  rw [emitPacket?, emitPacket]
  split
  · rfl
  · rw [narrow16?_eq hnarrow, Option.bind_eq_bind, Option.bind_some]
    dsimp only
    rw [Buffer.slice?_eq _ (by rw [Nat.zero_add]; exact hroom), Option.bind_eq_bind, Option.bind_some]
    rfl

/-- `setFormat` passes its checks. -/
theorem setFormat?_eq (s : VbanSender) (fmt : PCMFormat) : s.setFormat? fmt = some (s.setFormat fmt) := by
  rw [setFormat?, setFormat]
  split
  · rfl
  · rename_i hguard
    obtain ⟨hvalid, -⟩ := PCMFormat.not_rejected_iff.mp hguard
    dsimp only
    split
    · rfl
    · rw [vbanSamplesPerPacket?_eq (PCMFormat.channels_ne_zero hvalid)]
      rfl

/-- `writeFrames?` is that of a writer. -/
theorem writeFrames?_writer (s : VbanSender) (src : Option (List UInt8)) (frameCount : ℕ) :
    s.writeFrames? src frameCount = (writer).writeFrames? emitPacket? s src frameCount := by
  cases src <;> rfl

/-- `writeFrames` passes its checks. -/
theorem WF.writeFrames?_eq {s : VbanSender} (h : s.WF) (src : Option (List UInt8)) (frameCount : ℕ) :
    s.writeFrames? src frameCount = s.writeFrames src frameCount := by
  rw [writeFrames?_writer, writeFrames_writer]
  by_cases hzero : s.samplesPerPacket = 0
  · exact FrameWriter.writeFrames?_unset (by simp [writer, hzero]) src frameCount
  · have hmode := h.audioMode hzero
    exact (writer_lawful hmode.channels_pos).writeFrames?_eq (fun _ hs hle => hs.emitPacket?_eq hle) hmode
      (h.pending_lt hmode) src frameCount

/-- `flush` passes its checks. -/
theorem WF.flush?_eq {s : VbanSender} (h : s.WF) : s.flush? = some s.flush :=
  Flusher.flush?_eq (F := (writer).toFlusher) fun hpending =>
    have hmode := h.audioMode_of_pending hpending
    hmode.emitPacket?_eq (h.pending_lt hmode).le

/-- **Every call passes its checks.** -/
theorem WF.step?_eq {s : VbanSender} (h : s.WF) (call : Call) : s.step? call = step s call := by
  cases call with
  | setFormat fmt =>
    rw [step?, setFormat?_eq]
    rfl
  | writeFrames src frameCount => rw [step?, h.writeFrames?_eq, step]
  | flush =>
    rw [step?, h.flush?_eq]
    rfl
  | _ => rfl

/-- What keeps the copies inside the packet. -/
structure Bounded (s : VbanSender) : Prop where
  pending : s.pendingFrames < s.samplesPerPacket.toNat ∨ s.pendingFrames = 0
  /-- Frames are pending only in a setup that `setFormat` made. -/
  configured : s.pendingFrames ≠ 0 → AudioMode s.format.channels.toNat s
  fits : kVbanHeaderBytes + s.samplesPerPacket.toNat * s.format.bytesPerFrame ≤ kVbanMaxPacketBytes

/-- The invariant gives the bounds. -/
theorem WF.bounded {s : VbanSender} (h : s.WF) : s.Bounded where
  pending := h.pending.symm
  configured := h.audioMode_of_pending
  fits := by
    by_cases hzero : s.samplesPerPacket = 0
    · rw [hzero]
      simp [kVbanMaxPacketBytes]
    · have hmode := h.audioMode hzero
      rw [hmode.bytesPerFrame]
      exact hmode.room le_rfl

/-- A call of `writeFrames` that is not rejected accepts every frame. -/
theorem WF.writeFrames_all {s : VbanSender} (h : s.WF) {src : Option (List UInt8)} {frameCount : ℕ}
    (haccepted : ¬ s.Refuses (.writeFrames src frameCount)) :
    ∃ s', s.writeFrames src frameCount = some (frameCount, s') := by
  simp only [Refuses, not_or, Bool.not_eq_false] at haccepted
  obtain ⟨hready, hspp, hbpf, hsrc, -⟩ := haccepted
  obtain ⟨mem, rfl⟩ := Option.ne_none_iff_exists'.mp hsrc
  exact h.accepts mem frameCount hready (by simp [writer, hspp, hbpf])

end Checked

end VbanSender

/-! ## `RtpSender` -/

/-- `computeSamplesPerPacket`, checked. -/
def rtpSamplesPerPacket? (clockRate : UInt32) (channels : UInt8) : Option UInt16 := do
  let bytesPerFrame := channels.toNat * 2
  let maxByPayload ← div? kRtpMaxPayloadBytes bytesPerFrame
  let maxByTime := (clockRate / 50).toNat
  let spp := if maxByTime < maxByPayload then maxByTime else maxByPayload
  narrow16? (if spp = 0 then 1 else spp)

/-- The packet size is computed without a division by zero. -/
theorem rtpSamplesPerPacket?_eq (clockRate : UInt32) {channels : UInt8} (h : channels ≠ 0) :
    rtpSamplesPerPacket? clockRate channels = some (rtpSamplesPerPacket clockRate channels) := by
  have hpos : 0 < channels.toNat := UInt8.lt_iff_toNat_lt.mp (UInt8.pos_iff_ne_zero.mpr h)
  have hcap : kRtpMaxPayloadBytes / (channels.toNat * 2) ≤ 1440 := Nat.div_le_self _ _
  rw [rtpSamplesPerPacket?, div?_eq (show channels.toNat * 2 ≠ 0 by omega), Option.bind_eq_bind,
    Option.bind_some]
  exact narrow16?_eq (by split <;> split <;> omega)

/-- `sampleToNetwork`, checked: the two bytes are read and written in place. -/
def sampleToNetwork? {n : ℕ} (packet : Buffer UInt8 n) (off : ℕ) : Option (Buffer UInt8 n) :=
  let v := (word16 (byteAt packet.cells (off + 1)) (byteAt packet.cells off)).toInt16.toUInt16
  packet.blit? off [hi16 v, lo16 v]

/-- `payloadToNetwork`, checked. -/
def payloadToNetwork? {n : ℕ} (packet : Buffer UInt8 n) (totalSamples : ℕ) : Option (Buffer UInt8 n) :=
  (List.range totalSamples).foldlM (fun p i => sampleToNetwork? p (kRtpHeaderBytes + 2 * i)) packet

/-- **The byte swap in place** stays inside the packet. -/
theorem payloadToNetwork?_eq {n : ℕ} (packet : Buffer UInt8 n) {totalSamples : ℕ}
    (h : kRtpHeaderBytes + 2 * totalSamples ≤ n) :
    payloadToNetwork? packet totalSamples = some (payloadToNetwork packet totalSamples) := by
  refine foldlM_eq_foldl (fun p i hi => ?_) packet
  have hlt := List.mem_range.mp hi
  exact Buffer.blit?_eq _ (show kRtpHeaderBytes + 2 * i + 2 ≤ n by omega)

namespace RtpSender

/-- `sendPacket`, checked. -/
def sendPacket? (s : RtpSender) (totalBytes : ℕ) : Option (Bool × RtpSender) := do
  let bytes ← s.packet.slice? 0 totalBytes
  let (ok, udp) := s.udp.transmit bytes
  if ok then some (true, { s with udp })
  else some (false, { s with udp, error := .sendFailed })

/-- `emitL16Packet`, checked. -/
def emitL16Packet? (s : RtpSender) : Option RtpSender :=
  if s.pendingFrames = 0 then some s
  else do
    let totalSamples := s.pendingFrames * s.format.channels.toNat
    let packet ← payloadToNetwork? s.packet totalSamples
    let (_, packet) := encodeRtpHeader s.nextHeader packet
    let payloadBytes := totalSamples * 2
    let (ok, s) ← { s with packet }.sendPacket? (kRtpHeaderBytes + payloadBytes)
    let s :=
      if ok then
        { s with
          sequenceNumber := s.sequenceNumber + 1
          timestamp := s.timestamp + UInt32.ofNat s.pendingFrames
          armMarker := false }
      else s
    some { s with pendingFrames := 0 }

/-- `writeEncoded`, checked. -/
def writeEncoded? (s : RtpSender) (bytes : Option (List UInt8)) (count : ℕ) : Option (Bool × RtpSender) :=
  if !s.ready then some (false, { s with error := .notReady })
  else if s.payloadType == 0xFF then some (false, { s with error := .wrongPath })
  else
    match bytes with
    | none => some (false, { s with error := .unsupportedFormat })
    | some bytes =>
        if count = 0 ∨ kRtpMaxPayloadBytes < count then
          some (false, { s with error := .unsupportedFormat })
        else do
          let (_, packet) := encodeRtpHeader s.nextHeader s.packet
          let packet ← packet.blit? kRtpHeaderBytes (readMem bytes 0 count)
          let (ok, s) ← { s with packet }.sendPacket? (kRtpHeaderBytes + count)
          if !ok then some (false, s)
          else
            some (true,
              { s with
                sequenceNumber := s.sequenceNumber + 1
                timestamp := s.timestamp + s.tsIncrement
                armMarker := false })

/-- `flush`, checked. -/
def flush? (s : RtpSender) : Option (Bool × RtpSender) :=
  if !s.ready then some (false, { s with error := .notReady })
  else if s.pendingFrames = 0 then some (true, s)
  else do
    let pre := s.error
    let s ← s.emitL16Packet?
    some (s.error == pre, s)

/-- A packet that fits the scratch is read inside it. -/
theorem sendPacket?_eq (s : RtpSender) {totalBytes : ℕ} (h : totalBytes ≤ kRtpMaxPacketBytes) :
    s.sendPacket? totalBytes = some (s.sendPacket totalBytes) := by
  rw [sendPacket?, sendPacket, Buffer.slice?_eq _ (by rwa [Nat.zero_add]), Option.bind_eq_bind,
    Option.bind_some]
  dsimp only
  split <;> rfl

/-- An emission of frames that fit a packet passes its checks. -/
theorem L16Mode.emitL16Packet?_eq {c : ℕ} {s : RtpSender} (h : L16Mode c s)
    (hle : s.pendingFrames ≤ s.samplesPerPacket.toNat) : s.emitL16Packet? = some s.emitL16Packet := by
  have hroom : kRtpHeaderBytes + 2 * (s.pendingFrames * s.format.channels.toNat) ≤ kRtpMaxPacketBytes := by
    have hfits := h.room hle
    rw [h.channels]
    have hcomm : s.pendingFrames * (c * 2) = 2 * (s.pendingFrames * c) := by ring
    rwa [hcomm] at hfits
  rw [emitL16Packet?, emitL16Packet]
  split
  · rfl
  · dsimp only
    rw [payloadToNetwork?_eq _ hroom, Option.bind_eq_bind, Option.bind_some]
    rw [sendPacket?_eq _ (by rwa [Nat.mul_comm _ 2]), Option.bind_eq_bind, Option.bind_some]

/-- `writeEncoded` passes its checks for every payload that it accepts. -/
theorem writeEncoded?_eq (s : RtpSender) (bytes : Option (List UInt8)) (count : ℕ) :
    s.writeEncoded? bytes count = some (s.writeEncoded bytes count) := by
  unfold writeEncoded? writeEncoded
  split
  · rfl
  split
  · rfl
  cases bytes with
  | none => rfl
  | some bytes =>
    dsimp only
    split
    · rfl
    · rename_i hcount
      have hmax : kRtpHeaderBytes + count ≤ kRtpMaxPacketBytes := by
        rw [not_or, Nat.not_lt] at hcount
        exact Nat.add_le_add_left hcount.2 _
      rw [Buffer.blit?_eq _ (by rwa [length_readMem]), Option.bind_eq_bind, Option.bind_some,
        sendPacket?_eq _ hmax, Option.bind_eq_bind, Option.bind_some]
      split <;> rfl

/-- `flush` passes its checks. -/
theorem WF.flush?_eq {s : RtpSender} (h : s.WF) : s.flush? = some s.flush :=
  Flusher.flush?_eq (F := flusher) fun hpending =>
    have hmode := h.l16Mode_of_pending hpending
    hmode.emitL16Packet?_eq (h.pending_lt hmode).le

section Checked

variable [PCMFlow]

/-- `setFormat`, checked. -/
def setFormat? (s : RtpSender) (fmt : PCMFormat) : Option (Bool × RtpSender) :=
  if !fmt.isValid || fmt.bitsPerSample != 16 then some (false, { s with error := .unsupportedFormat })
  else
    let pt := if fmt.channels = 2 then ptL16Stereo else ptL16Mono
    let (ok, s) := s.setPayloadType pt fmt.sampleRate
    if !ok then some (false, s)
    else do
      let samplesPerPacket ← rtpSamplesPerPacket? fmt.sampleRate fmt.channels
      some (true, { s with format := fmt, isL16 := true, samplesPerPacket, pendingFrames := 0 })

/-- `writeFrames`, checked. -/
def writeFrames? (s : RtpSender) (src : Option (List UInt8)) (frameCount : ℕ) :
    Option (ℕ × RtpSender) :=
  if !s.ready then some (0, { s with error := .notReady })
  else if !s.isL16 || s.samplesPerPacket == 0 || s.format.bytesPerFrame == 0 then
    some (0, { s with error := .wrongPath })
  else
    match src with
    | none => some (0, s)
    | some src =>
        if frameCount = 0 then some (0, s)
        else scratch.writeLoop? emitL16Packet? s.format.bytesPerFrame src frameCount frameCount 0 s

/-- The state after one call, `none` if a check fails. -/
def step? (s : RtpSender) : Call → Option RtpSender
  | .setFormat fmt => (s.setFormat? fmt).map Prod.snd
  | .writeFrames src frameCount => (s.writeFrames? src frameCount).map Prod.snd
  | .writeEncoded bytes count => (s.writeEncoded? bytes count).map Prod.snd
  | .flush => s.flush?.map Prod.snd
  | call => step s call

/-- `setFormat` passes its checks. -/
theorem setFormat?_eq (s : RtpSender) (fmt : PCMFormat) : s.setFormat? fmt = some (s.setFormat fmt) := by
  rw [setFormat?, setFormat]
  split
  · rfl
  · rename_i hguard
    obtain ⟨hvalid, -⟩ := PCMFormat.not_rejected_iff.mp hguard
    dsimp only
    generalize (if fmt.channels = 2 then ptL16Stereo else ptL16Mono) = pt
    split
    · rfl
    · rw [rtpSamplesPerPacket?_eq _ (PCMFormat.channels_ne_zero hvalid)]
      rfl

/-- `writeFrames?` is that of a writer. -/
theorem writeFrames?_writer (s : RtpSender) (src : Option (List UInt8)) (frameCount : ℕ) :
    s.writeFrames? src frameCount = (writer).writeFrames? emitL16Packet? s src frameCount := by
  cases src <;> rfl

/-- `writeFrames` passes its checks. -/
theorem WF.writeFrames?_eq {s : RtpSender} (h : s.WF) (src : Option (List UInt8)) (frameCount : ℕ) :
    s.writeFrames? src frameCount = s.writeFrames src frameCount := by
  rw [writeFrames?_writer, writeFrames_writer]
  by_cases hzero : s.samplesPerPacket = 0
  · exact FrameWriter.writeFrames?_unset (by simp [writer, hzero]) src frameCount
  · have hmode := h.l16Mode hzero
    exact (writer_lawful hmode.channels_pos).writeFrames?_eq (fun _ hs hle => hs.emitL16Packet?_eq hle) hmode
      (h.pending_lt hmode) src frameCount

/-- **Every call passes its checks.** -/
theorem WF.step?_eq {s : RtpSender} (h : s.WF) (call : Call) : s.step? call = step s call := by
  cases call with
  | setFormat fmt =>
    rw [step?, setFormat?_eq]
    rfl
  | writeFrames src frameCount => rw [step?, h.writeFrames?_eq, step]
  | writeEncoded bytes count =>
    rw [step?, writeEncoded?_eq]
    rfl
  | flush =>
    rw [step?, h.flush?_eq]
    rfl
  | _ => rfl

/-- What keeps the copies inside the packet. -/
structure Bounded (s : RtpSender) : Prop where
  pending : s.pendingFrames < s.samplesPerPacket.toNat ∨ s.pendingFrames = 0
  /-- Frames are pending only in L16 mode. -/
  configured : s.pendingFrames ≠ 0 → L16Mode s.format.channels.toNat s
  fits : kRtpHeaderBytes + s.samplesPerPacket.toNat * s.format.bytesPerFrame ≤ kRtpMaxPacketBytes

/-- The invariant gives the bounds. -/
theorem WF.bounded {s : RtpSender} (h : s.WF) : s.Bounded where
  pending := h.pending.symm
  configured := h.l16Mode_of_pending
  fits := by
    by_cases hzero : s.samplesPerPacket = 0
    · rw [hzero]
      simp [kRtpMaxPacketBytes]
    · have hmode := h.l16Mode hzero
      rw [hmode.bytesPerFrame]
      exact hmode.room le_rfl

/-- A call of `writeFrames` that is not rejected accepts every frame. -/
theorem WF.writeFrames_all {s : RtpSender} (h : s.WF) {src : Option (List UInt8)} {frameCount : ℕ}
    (haccepted : ¬ s.Refuses (.writeFrames src frameCount)) :
    ∃ s', s.writeFrames src frameCount = some (frameCount, s') := by
  simp only [Refuses, not_or, Bool.not_eq_false] at haccepted
  obtain ⟨hready, hl16, hspp, hbpf, hsrc, -⟩ := haccepted
  obtain ⟨mem, rfl⟩ := Option.ne_none_iff_exists'.mp hsrc
  exact h.accepts mem frameCount hready (by simp [writer, hl16, hspp, hbpf])

end Checked

end RtpSender

/-! ## Both senders -/

/-- **The senders are safe.** In every state that public calls can lead to, whatever their arguments and the
answers of the UDP object: the pending frames are short of a packet or none, they are there only in a setup
for PCM, and a full packet fits the array; every call completes and passes all its checks; and `writeFrames`
accepts every frame of a call that it does not reject. -/
theorem senders_safe [PCMFlow] :
    (∀ s : VbanSender, s.Reachable → s.Bounded ∧
      (∀ call, ∃ s', s.step? call = some s' ∧ VbanSender.step s call = some s') ∧
      ∀ src frameCount, ¬ s.Refuses (.writeFrames src frameCount) →
        ∃ s', s.writeFrames src frameCount = some (frameCount, s')) ∧
    (∀ s : RtpSender, s.Reachable → s.Bounded ∧
      (∀ call, ∃ s', s.step? call = some s' ∧ RtpSender.step s call = some s') ∧
      ∀ src frameCount, ¬ s.Refuses (.writeFrames src frameCount) →
        ∃ s', s.writeFrames src frameCount = some (frameCount, s')) := by
  constructor
  · intro s hs
    have hwf := hs.wf
    refine ⟨hwf.bounded, fun call => ?_, fun src frameCount h => hwf.writeFrames_all h⟩
    obtain ⟨s', hstep, -⟩ := VbanSender.wf_step hwf call
    exact ⟨s', (hwf.step?_eq call).trans hstep, hstep⟩
  · intro s hs
    have hwf := hs.wf
    refine ⟨hwf.bounded, fun call => ?_, fun src frameCount h => hwf.writeFrames_all h⟩
    obtain ⟨s', hstep, -⟩ := RtpSender.wf_step hwf call
    exact ⟨s', (hwf.step?_eq call).trans hstep, hstep⟩

/-- So many frames of 255 channels. -/
def frames255 (frameCount : ℕ) : List UInt8 := List.replicate (frameCount * (255 * 2)) 7

/-- A sender of 255 channels, for which two frames fill a packet, with one of them pending. -/
def calls255 : List RtpSender.Call :=
  [.begin 5004 1 ⟨1, 0, 0⟩, .setFormat ⟨48000, 255, 16⟩, .writeFrames (some (frames255 1)) 1]

/-- It accepts any number of frames. -/
theorem senders_safe_255 : ∃ s : RtpSender,
    run (@RtpSender.step PCMFlow.documented) (RtpSender.new fun _ => {}) calls255 = some s ∧
    s.samplesPerPacket = 2 ∧ s.pendingFrames = 1 ∧ ∀ frameCount, 0 < frameCount →
      ∃ s', @RtpSender.writeFrames PCMFlow.documented s (some (frames255 frameCount)) frameCount
        = some (frameCount, s') := by
  obtain ⟨-, hrtp⟩ := @senders_safe PCMFlow.documented
  refine ⟨_, rfl, rfl, rfl, fun frameCount hpos => ?_⟩
  obtain ⟨-, -, haccepts⟩ := hrtp _ ⟨fun _ => {}, calls255, rfl⟩
  refine haccepts (some (frames255 frameCount)) frameCount ?_
  rintro (h | h | h | h | h | h)
  · exact absurd h (by decide)
  · exact absurd h (by decide)
  · exact absurd h (by decide)
  · exact absurd h (by decide)
  · cases h
  · omega

end PcmFlowUdp
