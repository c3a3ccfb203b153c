import PcmFlowUdp.Isolation
import PcmFlowUdp.RingPrimitives
import PcmFlowUdp.Rtp.PollSafety
import PcmFlowUdp.Vban.Classification

/-! # The receivers stay inside their memory

The public calls of both receivers once more, on memory: `call?` reads and writes byte by byte, runs the ring
primitives on the cells and counters that they are handed, and is `none` where the code would leave an array,
wrap around, cut a number off, divide by zero or leave ring counters that disagree.

* `readQueue?_eq` — reading takes whole frames out of the ring into the caller's memory;
* `VbanReceiver.Inv.call?_eq`, `RtpReceiver.Sound.call?_eq` — a call passes its checks;
* **`receivers_safe`** — so does every run of any number of receivers over the shared static buffers. -/

namespace PcmFlowUdp

open ByteTransport

/-! ## Reading memory -/

/-- `readMem`, `none` if a byte of it is not there. -/
def readMem? (mem : List UInt8) (off len : ℕ) : Option (List UInt8) :=
  if off + len ≤ mem.length then some (readMem mem off len) else none

/-- `strnlen`, checked: it examines no byte behind the first NUL, and at most `maxLen`. -/
def strnlen? : List UInt8 → ℕ → Option ℕ
  | _, 0 => some 0
  | [], _ + 1 => none
  | x :: s, n + 1 => if x = 0 then some 0 else (strnlen? s n).map (· + 1)

/-- `strncmp`, checked. -/
def strncmp? : List UInt8 → List UInt8 → ℕ → Option Int
  | _, _, 0 => some 0
  | x :: a, y :: b, n + 1 =>
      if x ≠ y then some (x.toNat - y.toNat) else if x = 0 then some 0 else strncmp? a b n
  | _, _, _ + 1 => none

/-- Memory that is there is read. -/
theorem readMem?_eq {mem : List UInt8} {off len : ℕ} (h : off + len ≤ mem.length) :
    readMem? mem off len = some (readMem mem off len) := if_pos h

/-- A string that ends, or that fills the field, can be measured. -/
theorem strnlen?_eq {s : List UInt8} {n : ℕ} (h : 0 ∈ s ∨ n ≤ s.length) :
    strnlen? s n = some (strnlen s n) := by
  induction n generalizing s with
  | zero => simp [strnlen?, strnlen]
  | succ n ih =>
    cases s with
    | nil => simp at h
    | cons x s =>
      rw [strnlen?]
      split
      · rename_i hzero
        simp [strnlen, hzero]
      · rename_i hne
        have hrest : 0 ∈ s ∨ n ≤ s.length := by
          rcases h with hmem | hlen
          · exact .inl ((List.mem_cons.mp hmem).resolve_left (Ne.symm hne))
          · exact .inr (Nat.le_of_succ_le_succ hlen)
        rw [ih hrest]
        simp [strnlen, hne]

/-- Two fields of `n` bytes can be compared. -/
theorem strncmp?_eq {a b : List UInt8} {n : ℕ} (ha : n ≤ a.length) (hb : n ≤ b.length) :
    strncmp? a b n = some (strncmp a b n) := by
  induction n generalizing a b with
  | zero => simp [strncmp?, strncmp]
  | succ n ih =>
    cases a with
    | nil => simp at ha
    | cons x a =>
      cases b with
      | nil => simp at hb
      | cons y b =>
        have hcons : strncmp (x :: a) (y :: b) (n + 1)
            = if x ≠ y then (x.toNat : Int) - y.toNat else if x = 0 then 0 else strncmp a b n := rfl
        rw [strncmp?, hcons, ih (Nat.le_of_succ_le_succ ha) (Nat.le_of_succ_le_succ hb)]
        split
        · rfl
        · split <;> rfl

/-! ## Reading frames -/

/-- The body of `readFrames` on memory, with the `ringPop` of the receiver; the caller's memory has room for the
frames that it asks for. -/
def readQueue? (pop : ∀ {m : ℕ}, ℕ → ByteRing → Buffer UInt8 m → ℕ → Option (ℕ × ByteRing × Buffer UInt8 m))
    (ready nonNull : Bool) (bytesPerFrame : ℕ) (q : RingBuffer UInt8) (frameCount : ℕ) :
    Option (ℕ × List UInt8 × RingBuffer UInt8) :=
  if !ready || !nonNull || frameCount == 0 then some (0, [], q)
  else if bytesPerFrame = 0 then some (0, [], q)
  else do
    let availFrames ← div? q.count bytesPerFrame
    let takeFrames := if frameCount < availFrames then frameCount else availFrames
    if takeFrames = 0 then some (0, [], q)
    else do
      let (bytes, ring, out) ←
        pop q.cap q.ring (Buffer.filled (frameCount * bytesPerFrame) 0) (takeFrames * bytesPerFrame)
      let queue ← RingBuffer.ofRing? ring
      let frames ← div? bytes bytesPerFrame
      some (frames, out.slice 0 bytes, queue)

/-- **Reading passes its checks.** -/
theorem readQueue?_eq (ready nonNull : Bool) (bytesPerFrame : ℕ) (q : RingBuffer UInt8) (frameCount : ℕ) :
    readQueue? ringPop ready nonNull bytesPerFrame q frameCount
      = some (readQueue ready nonNull bytesPerFrame q frameCount) := by
  unfold readQueue? readQueue
  split
  · rfl
  split
  · rfl
  rename_i hbpf
  dsimp only
  rw [div?_eq hbpf, Option.bind_eq_bind, Option.bind_some]
  generalize htake : (if frameCount < q.count / bytesPerFrame then frameCount else q.count / bytesPerFrame) = k
  have hk : k ≤ frameCount ∧ k ≤ q.count / bytesPerFrame := by
    rw [← htake]
    split <;> omega
  split
  · rfl
  -- what is taken is there, and fits the caller's memory
  have hthere : k * bytesPerFrame ≤ q.ring.count := (Nat.le_div_iff_mul_le (Nat.pos_of_ne_zero hbpf)).mp hk.2
  have hfits : k * bytesPerFrame ≤ frameCount * bytesPerFrame := Nat.mul_le_mul_right _ hk.1
  have hpop := ringPop_eq q.wf (Buffer.filled (frameCount * bytesPerFrame) 0) hfits
  have hlen : (q.ring.pop (k * bytesPerFrame)).1.length = k * bytesPerFrame := by
    rw [(Ring.pop_spec q.wf _).1, List.length_take, Ring.length_contents q.wf, min_eq_left hthere]
  rw [min_eq_left hthere] at hpop
  rw [show q.cap = q.ring.cap from rfl, hpop]
  simp only [Option.bind_eq_bind, Option.bind_some, RingBuffer.ofRing?_pop, div?_eq hbpf]
  rw [Buffer.slice_blit_front _ hlen hfits]
  show some (k * bytesPerFrame / bytesPerFrame, (q.ring.pop (k * bytesPerFrame)).1, _)
    = some ((q.ring.pop (k * bytesPerFrame)).1.length / bytesPerFrame, _, _)
  rw [hlen]
  rfl

/-! ## `VbanReceiver` -/

/-- `vbanSampleRateHz`, checked. -/
def vbanSampleRateHz? (index : UInt8) : Option UInt32 :=
  if 21 ≤ index then some 0 else kVbanSampleRates[index.toNat]?

/-- The table is not left, whatever the index. -/
theorem vbanSampleRateHz?_eq (index : UInt8) : vbanSampleRateHz? index = some (vbanSampleRateHz index) := by
  unfold vbanSampleRateHz? vbanSampleRateHz
  split
  · rfl
  · rename_i hlt
    have hin : index.toNat < kVbanSampleRates.length := UInt8.lt_iff_toNat_lt.mp (UInt8.not_le.mp hlt)
    rw [List.getElem?_eq_getElem hin, List.getD_eq_getElem _ _ hin]

/-- The name in header bytes 8 to 23, checked. -/
def parsedName? (mem : List UInt8) : Option VbanName := do
  let field ← readMem? mem 8 kVbanStreamNameBytes
  let name ← VbanName.zero.blit? 0 field
  name.blit? kVbanStreamNameBytes [0]

/-- The frame counter in header bytes 24 to 27, checked. -/
def parsedCounter? (mem : List UInt8) : Option UInt32 := do
  let b3 ← mem[27]?
  let b2 ← mem[26]?
  let b1 ← mem[25]?
  let b0 ← mem[24]?
  some (word32 b3 b2 b1 b0)

/-- `parseAudioHeader`, checked. -/
def parseAudioHeader? (mem : List UInt8) (len : ℕ) : Option (Except VbanParseResult VbanAudioHeader) :=
  if len < kVbanHeaderBytes then some (.error .tooShort)
  else do
    let signature ← readMem? mem 0 4
    if signature ≠ kVbanSignature then some (.error .badSignature)
    else do
      let rate ← mem[4]?
      if rate &&& 0xE0 ≠ VbanSubProtocol.audio.code then some (.error .notAudio)
      else if rate &&& 0x1F > 20 then some (.error .sampleRateInvalid)
      else do
        let samples ← mem[5]?
        let channels ← mem[6]?
        let codec ← mem[7]?
        let streamName ← parsedName? mem
        let frameCounter ← parsedCounter? mem
        some
          (.ok
            { sampleRateIndex := rate &&& 0x1F
              numSamples := samples.toUInt16 + 1
              numChannels := channels.toUInt16 + 1
              subCodec := ⟨codec⟩
              streamName
              frameCounter })

/-- `parseServiceHeader`, checked. -/
def parseServiceHeader? (mem : List UInt8) (len : ℕ) : Option (Except VbanParseResult VbanServiceHeader) :=
  if len < kVbanHeaderBytes then some (.error .tooShort)
  else do
    let signature ← readMem? mem 0 4
    if signature ≠ kVbanSignature then some (.error .badSignature)
    else do
      let function ← mem[4]?
      if function &&& 0xE0 ≠ VbanSubProtocol.service.code then some (.error .notService)
      else do
        let serviceFlags ← mem[5]?
        let rawByte6 ← mem[6]?
        let rawByte7 ← mem[7]?
        let streamName ← parsedName? mem
        let frameCounter ← parsedCounter? mem
        some
          (.ok
            { serviceFunction := function &&& kVbanServiceFunctionMask
              serviceFlags
              rawByte6
              rawByte7
              streamName
              frameCounter })

section Parse

variable {mem : List UInt8} (h : 28 ≤ mem.length)

include h

/-- The name field is there. -/
theorem parsedName?_eq : parsedName? mem = some (parsedName mem) := by
  have hfield : 8 + kVbanStreamNameBytes ≤ mem.length := le_trans (by decide) h
  rw [parsedName?, readMem?_eq hfield, Option.bind_eq_bind, Option.bind_some,
    Buffer.blit?_eq _ (by rw [length_readMem]; decide), Option.bind_eq_bind, Option.bind_some]
  exact Buffer.blit?_eq _ (by decide)

/-- So is the counter. -/
theorem parsedCounter?_eq : parsedCounter? mem = some (parsedCounter mem) := by
  rw [parsedCounter?, getElem?_eq_byteAt (show 27 < mem.length by omega),
    getElem?_eq_byteAt (show 26 < mem.length by omega), getElem?_eq_byteAt (show 25 < mem.length by omega),
    getElem?_eq_byteAt (show 24 < mem.length by omega)]
  rfl

end Parse

/-- **The header parsers read the packet only.** -/
theorem parseAudioHeader?_eq (mem : List UInt8) :
    parseAudioHeader? mem mem.length = some (parseAudioHeader mem mem.length) := by
  unfold parseAudioHeader? parseAudioHeader
  split
  · rfl
  rename_i hlen
  have h28 : 28 ≤ mem.length := Nat.not_lt.mp hlen
  rw [readMem?_eq (show 0 + 4 ≤ mem.length by omega), getElem?_eq_byteAt (show 4 < mem.length by omega),
    getElem?_eq_byteAt (show 5 < mem.length by omega), getElem?_eq_byteAt (show 6 < mem.length by omega),
    getElem?_eq_byteAt (show 7 < mem.length by omega), parsedName?_eq h28, parsedCounter?_eq h28]
  simp only [Option.bind_eq_bind, Option.bind_some]
  split
  · rfl
  split
  · rfl
  split
  · rfl
  · rfl

/-- Parsing a service header passes its checks. -/
theorem parseServiceHeader?_eq (mem : List UInt8) :
    parseServiceHeader? mem mem.length = some (parseServiceHeader mem mem.length) := by
  unfold parseServiceHeader? parseServiceHeader
  split
  · rfl
  rename_i hlen
  have h28 : 28 ≤ mem.length := Nat.not_lt.mp hlen
  rw [readMem?_eq (show 0 + 4 ≤ mem.length by omega), getElem?_eq_byteAt (show 4 < mem.length by omega),
    getElem?_eq_byteAt (show 5 < mem.length by omega), getElem?_eq_byteAt (show 6 < mem.length by omega),
    getElem?_eq_byteAt (show 7 < mem.length by omega), parsedName?_eq h28, parsedCounter?_eq h28]
  simp only [Option.bind_eq_bind, Option.bind_some]
  split
  · rfl
  split
  · rfl
  · rfl

namespace VbanReceiver

/-- The filter that `begin` sets, checked: whether there is one, and the name. -/
def filter? : Option (List UInt8) → Option (Bool × VbanName)
  | none => some (false, VbanName.zero)
  | some name => do
      let first ← name[0]?
      if first != 0 then do
        let n ← strnlen? name kVbanStreamNameBytes
        let bytes ← readMem? name 0 n
        let filterName ← VbanName.zero.blit? 0 bytes
        some (true, filterName)
      else some (false, VbanName.zero)

/-- `begin`, checked. -/
def begin? (r : VbanReceiver) (streamName : Option (List UInt8)) (bound : Int) :
    Option (Bool × VbanReceiver) := do
  let (filterEnabled, filterName) ← filter? streamName
  if bound ≠ 1 then some (false, { r with filterEnabled, filterName, error := .bindFailed, ready := false })
  else
    some
      (true,
        { r with
          filterEnabled
          filterName
          queue := r.queue.clear
          lastFrameCounter := 0
          format := {}
          currentStream := VbanName.zero
          ready := true
          error := .none })

/-- Whether the filter drops the packet, checked. -/
def filtersOut? (r : VbanReceiver) (h : VbanAudioHeader) : Option Bool :=
  if r.filterEnabled then
    (strncmp? h.streamName.cells r.filterName.cells kVbanStreamNameBytes).map (· != 0)
  else some false

/-- The audio branch of `poll`, checked; `src` is the memory behind the header, of which `payloadBytes` bytes
were received. -/
def pollAudio? [PCMFlow] (r : VbanReceiver) (h : VbanAudioHeader) (src : List UInt8) (payloadBytes : ℕ) :
    Option (Bool × VbanReceiver) := do
  let other ← r.filtersOut? h
  if other then some (false, r)
  else if h.subCodec ≠ .pcm16 then some (false, { r with error := .formatUnsupported })
  else do
    let rate ← vbanSampleRateHz? h.sampleRateIndex
    if rate = 0 ∨ h.numChannels < 1 ∨ h.numChannels > 2 then
      some (false, { r with error := .formatUnsupported })
    else do
      let channels ← narrow8? h.numChannels.toNat
      if r.format.sampleRate ≠ 0 ∧ (r.format.sampleRate ≠ rate ∨ r.format.channels ≠ channels) then
        some (false, r)
      else do
        let format :=
          if r.format.sampleRate = 0 then { sampleRate := rate, channels, bitsPerSample := 16 }
          else r.format
        let expectedPayload := h.numSamples.toNat * format.bytesPerFrame
        let usable := if payloadBytes < expectedPayload then payloadBytes else expectedPayload
        let rest ← mod? usable format.bytesPerFrame
        let aligned ← sub? usable rest
        let ring ← ringPush r.queue.cap r.queue.ring src aligned
        let queue ← RingBuffer.ofRing? ring
        some
          (true, { r with format, queue, currentStream := h.streamName, lastFrameCounter := h.frameCounter })

/-- `poll`, checked; the parsers are handed the bytes received. -/
def poll? [PCMFlow] (r : VbanReceiver) (buf : VbanPollMemory) (io : Inbound) :
    Option (Bool × VbanReceiver × VbanPollMemory) :=
  if !r.ready then some (false, r, buf)
  else if io.parsePacket ≤ 0 then some (false, r, buf)
  else
    let toRead :=
      if io.parsePacket.toNat < kVbanMaxPacketBytes then io.parsePacket.toNat
      else kVbanMaxPacketBytes
    match io.read toRead with
    | none => some (false, r, buf)
    | some bytes => do
        let buf ← buf.blit? 0 bytes
        let got := bytes.length
        let packet ← buf.slice? 0 got
        if got < kVbanHeaderBytes then some (false, r, buf)
        else do
          let selector ← packet[4]?
          if selector &&& 0xE0 = VbanSubProtocol.service.code then do
            match ← parseServiceHeader? packet got with
            | .error _ => some (false, r, buf)
            | .ok header =>
                if r.serviceCb then do
                  let payloadBytes ← sub? got kVbanHeaderBytes
                  let payload ← buf.slice? kVbanHeaderBytes payloadBytes
                  some (true, { r with served := r.served ++ [{ header, payload }] }, buf)
                else some (true, r, buf)
          else do
            match ← parseAudioHeader? packet got with
            | .error _ => some (false, r, buf)
            | .ok h => do
                let payloadBytes ← sub? got kVbanHeaderBytes
                let (ok, r) ← r.pollAudio? h (buf.cells.drop kVbanHeaderBytes) payloadBytes
                some (ok, r, buf)

/-- `readFrames`, checked. -/
def readFrames? [PCMFlow] (r : VbanReceiver) (nonNull : Bool) (frameCount : ℕ) :
    Option (ℕ × List UInt8 × VbanReceiver) := do
  let (k, out, queue) ←
    readQueue? VbanReceiver.ringPop r.ready nonNull r.format.bytesPerFrame r.queue frameCount
  some (k, out, { r with queue })

/-- A call, checked. -/
def call? [PCMFlow] (r : VbanReceiver) (buf : VbanPollMemory) :
    Call → Option (CallAnswer × VbanReceiver × VbanPollMemory)
  | .begin streamName bound => (r.begin? streamName bound).map fun t => (.flag t.1, t.2, buf)
  | .poll io => (r.poll? buf io).map fun t => (.flag t.1, t.2)
  | .readFrames nonNull frameCount =>
      (r.readFrames? nonNull frameCount).map fun t => (.read t.1 t.2.1, t.2.2, buf)
  | c => some (r.call buf c)

/-! ### The checks pass -/

/-- The name given to `begin` is a C string, or fills the field. -/
def Call.Readable : Call → Prop
  | .begin (some name) _ => 0 ∈ name ∨ kVbanStreamNameBytes ≤ name.length
  | _ => True

/-- The filter is set from a name that can be read. -/
theorem begin?_eq (r : VbanReceiver) {streamName : Option (List UInt8)} {bound : Int}
    (h : (Call.begin streamName bound).Readable) :
      r.begin? streamName bound = some (r.begin streamName bound) := by
  cases streamName with
  | none =>
    unfold begin? begin
    dsimp only [filter?]
    rw [Option.bind_eq_bind, Option.bind_some]
    split <;> rfl
  | some name =>
    -- the scan for the terminator ends at a zero or after sixteen cells, so it stays inside the string
    have hname : 0 ∈ name ∨ kVbanStreamNameBytes ≤ name.length := h
    have hpos : 0 < name.length := by
      rcases hname with hmem | hlen
      · exact List.length_pos_of_mem hmem
      · exact Nat.lt_of_lt_of_le (by decide) hlen
    have hread : 0 + strnlen name kVbanStreamNameBytes ≤ name.length := by
      rw [Nat.zero_add]
      exact (List.takeWhile_sublist _).length_le.trans (List.length_take_le' _ _)
    have hfield : VbanName.zero.blit? 0 (readMem name 0 (strnlen name kVbanStreamNameBytes))
        = some (VbanName.ofCString name) := by
      refine Buffer.blit?_eq _ ?_
      rw [length_readMem, Nat.zero_add]
      exact (strnlen_le _ _).trans (Nat.le_succ _)
    have hfilter : filter? (some name) = some (byteAt name 0 != 0,
        if (byteAt name 0 != 0) = true then VbanName.ofCString name else VbanName.zero) := by
      simp only [filter?, getElem?_eq_byteAt hpos, Option.bind_eq_bind, Option.bind_some, strnlen?_eq hname,
        readMem?_eq hread, hfield]
      cases hfirst : byteAt name 0 != 0 with
      | false => rfl
      | true => rfl
    unfold begin? begin
    rw [hfilter, Option.bind_eq_bind, Option.bind_some]
    dsimp only
    split <;> rfl

section Poll

variable [PCMFlow] {r : VbanReceiver}

/-- The audio branch: a locked format has frames, and the frames queued lie in the packet. -/
theorem LockOk.pollAudio?_eq (hlock : r.LockOk) (h : VbanAudioHeader) {src : List UInt8} {payloadBytes : ℕ}
    (hsrc : payloadBytes ≤ src.length) :
    r.pollAudio? h src payloadBytes = some (r.pollAudio h (src.take payloadBytes)) := by
  have hcells : ∀ n : VbanName, kVbanStreamNameBytes ≤ n.cells.length := fun n => by
    rw [n.size]
    exact Nat.le_succ _
  have hfilter : r.filtersOut? h = some (r.filterEnabled &&
      strncmp h.streamName.cells r.filterName.cells kVbanStreamNameBytes != 0) := by
    rw [filtersOut?, strncmp?_eq (hcells _) (hcells _)]
    cases r.filterEnabled <;> rfl
  unfold pollAudio? pollAudio
  rw [hfilter, Option.bind_eq_bind, Option.bind_some]
  split
  · rfl
  split
  · rfl
  rw [vbanSampleRateHz?_eq, Option.bind_eq_bind, Option.bind_some]
  dsimp only
  split
  · rfl
  rename_i hok
  rw [not_or] at hok
  have hnarrow : narrow8? h.numChannels.toNat = some h.numChannels.toUInt8 := by
    rw [not_or, UInt16.not_lt, UInt16.not_lt] at hok
    have htwo : h.numChannels.toNat ≤ 2 := UInt16.le_iff_toNat_le.mp hok.2.2
    rw [narrow8?_eq (by omega), UInt8.ofNat_uInt16ToNat]
  rw [hnarrow, Option.bind_eq_bind, Option.bind_some]
  split
  · rfl
  -- the format is an audio format, so its frames have bytes
  have haudio : IsAudioFormat (if r.format.sampleRate = 0 then
      { sampleRate := vbanSampleRateHz h.sampleRateIndex
        channels := h.numChannels.toUInt8
        bitsPerSample := 16 }
      else r.format) := by
    split
    · exact isAudioFormat_lock hok.1 hok.2
    · rename_i hset
      exact hlock.resolve_left fun hnone => hset (by rw [hnone])
  revert haudio
  generalize (if r.format.sampleRate = 0 then
    ({ sampleRate := vbanSampleRateHz h.sampleRateIndex
       channels := h.numChannels.toUInt8
       bitsPerSample := 16 } : PCMFormat)
    else r.format) = format
  intro haudio
  have hbpf : format.bytesPerFrame ≠ 0 := by
    rw [PCMFormat.bytesPerFrame_pcm16 haudio.bits]
    rcases haudio.channels with hc | hc <;> rw [hc] <;> decide
  rw [mod?_eq hbpf, Option.bind_eq_bind, Option.bind_some, sub?_eq (Nat.mod_le _ _), Option.bind_eq_bind,
    Option.bind_some, List.length_take, min_eq_left hsrc]
  -- no more is queued than was received
  have husable : (if payloadBytes < h.numSamples.toNat * format.bytesPerFrame then payloadBytes
      else h.numSamples.toNat * format.bytesPerFrame) ≤ payloadBytes := by
    split <;> omega
  generalize (if payloadBytes < h.numSamples.toNat * format.bytesPerFrame then payloadBytes
    else h.numSamples.toNat * format.bytesPerFrame) = usable at husable ⊢
  have haligned := (Nat.sub_le usable (usable % format.bytesPerFrame)).trans husable
  generalize usable - usable % format.bytesPerFrame = aligned at haligned ⊢
  have hpush := ringPush_eq r.queue.wf (src.take aligned) (src.drop aligned)
  rw [List.take_append_drop, List.length_take, min_eq_left (haligned.trans hsrc)] at hpush
  rw [show ringPush r.queue.cap r.queue.ring src aligned = _ from hpush, Option.bind_eq_bind, Option.bind_some,
    RingBuffer.ofRing?_push, Option.bind_some, List.take_take, min_eq_left haligned]

/-- **Polling passes its checks.** -/
theorem LockOk.poll?_eq (hlock : r.LockOk) (buf : VbanPollMemory) {io : Inbound} (hio : io.Honest) :
    r.poll? buf io = some (r.poll buf io) := by
  unfold poll? poll
  split
  · rfl
  split
  · rfl
  dsimp only
  cases hread : io.read (if io.parsePacket.toNat < kVbanMaxPacketBytes then io.parsePacket.toNat
    else kVbanMaxPacketBytes) with
  | none => rfl
  | some bytes =>
    have hcap : bytes.length ≤ kVbanMaxPacketBytes := hio.length_le hread
    dsimp only
    rw [Buffer.blit?_eq _ (by rwa [Nat.zero_add]), Option.bind_eq_bind, Option.bind_some,
      Buffer.slice?_eq _ (by rwa [Nat.zero_add]), Option.bind_eq_bind, Option.bind_some,
      Buffer.slice_blit_front _ rfl hcap]
    -- the packet is at the start of the static buffer
    have hcells : (buf.blit 0 bytes).cells.take bytes.length = bytes.take bytes.length := by
      rw [buf.take_cells_blit hcap, List.take_length]
    have hsize : (buf.blit 0 bytes).cells.length = kVbanMaxPacketBytes := (buf.blit 0 bytes).size
    generalize buf.blit 0 bytes = buf' at hcells hsize ⊢
    rw [parseServiceHeader_congr hcells, parseAudioHeader_congr hcells]
    split
    · rfl
    rename_i hlong
    have h28 : 28 ≤ bytes.length := Nat.not_lt.mp hlong
    rw [getElem?_eq_byteAt (show 4 < bytes.length by omega), Option.bind_eq_bind, Option.bind_some,
      byteAt_congr hcells (show 4 < bytes.length by omega), parseServiceHeader?_eq, parseAudioHeader?_eq,
      sub?_eq (show kVbanHeaderBytes ≤ bytes.length from h28)]
    simp only [Option.bind_eq_bind, Option.bind_some]
    have hpayload : kVbanHeaderBytes + (bytes.length - kVbanHeaderBytes) ≤ kVbanMaxPacketBytes := by
      rw [Nat.add_sub_of_le (show kVbanHeaderBytes ≤ bytes.length from h28)]
      exact hcap
    rw [Buffer.slice?_eq _ hpayload]
    split
    · cases parseServiceHeader bytes bytes.length with
      | error err => rfl
      | ok header =>
        cases hcb : r.serviceCb <;> rfl
    · cases parseAudioHeader bytes bytes.length with
      | error err => rfl
      | ok h =>
        have hsrc : bytes.length - kVbanHeaderBytes ≤ (buf'.cells.drop kVbanHeaderBytes).length := by
          rw [List.length_drop, hsize]
          omega
        dsimp only
        rw [hlock.pollAudio?_eq h hsrc]
        rfl

/-- Reading passes its checks. -/
theorem readFrames?_eq (r : VbanReceiver) (nonNull : Bool) (frameCount : ℕ) :
    r.readFrames? nonNull frameCount = some (r.readFrames nonNull frameCount) := by
  rw [readFrames?, show readQueue? VbanReceiver.ringPop r.ready nonNull r.format.bytesPerFrame r.queue frameCount
    = _ from readQueue?_eq _ _ _ _ _]
  rfl

/-- **A call passes its checks.** -/
theorem Inv.call?_eq (hinv : r.Inv) (buf : VbanPollMemory) {c : Call} (hc : c.Honest) (hname : c.Readable) :
    r.call? buf c = some (r.call buf c) := by
  cases c with
  | begin streamName bound =>
    rw [call?, r.begin?_eq hname]
    rfl
  | poll io =>
    rw [call?, hinv.lock.poll?_eq buf hc]
    rfl
  | readFrames nonNull frameCount =>
    rw [call?, r.readFrames?_eq]
    rfl
  | _ => rfl

end Poll

end VbanReceiver

/-! ## `RtpReceiver` -/

namespace RtpReceiver

/-- `poll` on memory: the parser is handed the bytes received, the ring its cells and counters. -/
def pollInMemory? [PCMFlow] (r : RtpReceiver) (mem : RtpPollMemory) (io : Inbound) :
    Option (Bool × RtpReceiver × RtpPollMemory) :=
  if !r.ready then some (false, r, mem)
  else if io.parsePacket ≤ 0 then some (false, r, mem)
  else
    let toRead :=
      if io.parsePacket.toNat < kRtpMaxPacketBytes then io.parsePacket.toNat else kRtpMaxPacketBytes
    match io.read toRead with
    | none => some (false, r, mem)
    | some bytes => do
        let buf ← mem.buf.blit? 0 bytes
        let mem := { mem with buf }
        let got := bytes.length
        let packet ← buf.slice? 0 got
        if got < kRtpHeaderBytes then some (false, r, mem)
        else do
          match ← parseRtpHeaderWithin (fun i => packet[i]?) got with
          | .error _ => some (false, { r with error := .badHeader }, mem)
          | .ok h => do
              let r := r.noteHeader h
              let payloadStart := h.payloadOffset
              let payloadBytes ← sub? got payloadStart
              if r.isPcm then do
                let format := r.l16Format h.payloadType
                let rest ← mod? payloadBytes format.bytesPerFrame
                let aligned ← sub? payloadBytes rest
                let scratch ← swapToScratch? buf mem.scratch payloadStart aligned
                let ring ← ringPush r.queue.cap r.queue.ring scratch.cells aligned
                let queue ← RingBuffer.ofRing? ring
                some (true, { r with format, queue }, { mem with scratch })
              else do
                let encodedBytes :=
                  if payloadBytes < kRtpMaxPayloadBytes then payloadBytes else kRtpMaxPayloadBytes
                let payload ← buf.slice? payloadStart encodedBytes
                let encoded ← r.encoded.blit? 0 payload
                some (true, { r with encoded, encodedBytes, encodedReady := true }, mem)

/-- `readFrames`, checked. -/
def readFrames? [PCMFlow] (r : RtpReceiver) (nonNull : Bool) (frameCount : ℕ) :
    Option (ℕ × List UInt8 × RtpReceiver) := do
  let (k, out, queue) ←
    readQueue? RtpReceiver.ringPop r.ready nonNull r.format.bytesPerFrame r.queue frameCount
  some (k, out, { r with queue })

/-- `availableFrames`, checked. -/
def availableFrames? [PCMFlow] (r : RtpReceiver) : Option ℕ :=
  if r.format.bytesPerFrame = 0 then some 0 else div? r.queue.count r.format.bytesPerFrame

/-- `readEncoded`, checked; the caller's memory has room for `maxBytes` bytes. -/
def readEncoded? (r : RtpReceiver) (nonNull : Bool) (maxBytes : ℕ) : Option (ℕ × List UInt8 × RtpReceiver) :=
  if !r.encodedReady || !nonNull || decide (maxBytes < r.encodedBytes) then some (0, [], r)
  else do
    let held ← r.encoded.slice? 0 r.encodedBytes
    let out ← (Buffer.filled maxBytes 0).blit? 0 held
    some (r.encodedBytes, out.slice 0 r.encodedBytes, { r with encodedReady := false, encodedBytes := 0 })

/-- A call, checked. -/
def call? [PCMFlow] (r : RtpReceiver) (mem : RtpPollMemory) :
    Call → Option (CallAnswer × RtpReceiver × RtpPollMemory)
  | .poll io => (r.pollInMemory? mem io).map fun t => (.flag t.1, t.2)
  | .readFrames nonNull frameCount =>
      (r.readFrames? nonNull frameCount).map fun t => (.read t.1 t.2.1, t.2.2, mem)
  | .readEncoded nonNull maxBytes =>
      (r.readEncoded? nonNull maxBytes).map fun t => (.read t.1 t.2.1, t.2.2, mem)
  | c => some (r.call mem c)

/-! ### The checks pass -/

/-- What the checks need: a declared payload type has channels, and the hold is no longer than its array. -/
structure Sound (r : RtpReceiver) : Prop where
  declared : r.Declared
  held : r.encodedBytes ≤ kRtpMaxPayloadBytes

/-- Reading what is held passes its checks. -/
theorem Sound.readEncoded?_eq {r : RtpReceiver} (h : r.Sound) (nonNull : Bool) (maxBytes : ℕ) :
    r.readEncoded? nonNull maxBytes = some (r.readEncoded nonNull maxBytes) := by
  unfold readEncoded? readEncoded
  split
  · rfl
  · rename_i hguard
    have hfits : r.encodedBytes ≤ maxBytes := by
      simp only [Bool.or_eq_true, decide_eq_true_eq, not_or, Nat.not_lt] at hguard
      exact hguard.2
    have hheld : 0 + r.encodedBytes ≤ kRtpMaxPayloadBytes := by
      rw [Nat.zero_add]
      exact h.held
    have hlen : (r.encoded.slice 0 r.encodedBytes).length = r.encodedBytes := Buffer.length_slice _ hheld
    rw [Buffer.slice?_eq _ hheld, Option.bind_eq_bind, Option.bind_some,
      Buffer.blit?_eq _ (by rwa [Nat.zero_add, hlen]), Option.bind_eq_bind, Option.bind_some,
      Buffer.slice_blit_front _ hlen hfits]

section Poll

variable [PCMFlow] {r : RtpReceiver}

/-- **Polling passes its checks.** -/
theorem Declared.pollInMemory?_eq (h : r.Declared) (mem : RtpPollMemory) {io : Inbound} (hio : io.Honest) :
    r.pollInMemory? mem io = some (r.poll mem io) := by
  unfold pollInMemory? poll
  split
  · rfl
  split
  · rfl
  dsimp only
  cases hread : io.read (if io.parsePacket.toNat < kRtpMaxPacketBytes then io.parsePacket.toNat
    else kRtpMaxPacketBytes) with
  | none => rfl
  | some bytes =>
    have hk : kRtpMaxPacketBytes = 12 + kRtpMaxPayloadBytes := rfl
    have hcap : bytes.length ≤ kRtpMaxPacketBytes := hio.length_le hread
    dsimp only
    rw [Buffer.blit?_eq _ (by rwa [Nat.zero_add]), Option.bind_eq_bind, Option.bind_some,
      Buffer.slice?_eq _ (by rwa [Nat.zero_add]), Option.bind_eq_bind, Option.bind_some,
      Buffer.slice_blit_front _ rfl hcap]
    have hcells : (mem.buf.blit 0 bytes).cells.take bytes.length = bytes.take bytes.length := by
      rw [mem.buf.take_cells_blit hcap, List.take_length]
    generalize mem.buf.blit 0 bytes = buf at hcells ⊢
    rw [parseRtpHeader_congr hcells, parseRtpHeaderWithin_eq]
    split
    · rfl
    rw [Option.bind_eq_bind, Option.bind_some]
    cases hparse : parseRtpHeader bytes bytes.length with
    | error err => rfl
    | ok hdr =>
      obtain ⟨-, hoff, hle⟩ := parseRtpHeader_offset hparse
      dsimp only
      rw [sub?_eq hle, Option.bind_eq_bind, Option.bind_some]
      simp only [Option.bind_eq_bind]
      split
      · have hbpf := h.bytesPerFrame_l16Format_ne_zero hparse
        generalize ((r.noteHeader hdr).l16Format hdr.payloadType).bytesPerFrame = bytesPerFrame at hbpf ⊢
        have haligned := Nat.sub_le (bytes.length - hdr.payloadOffset)
          ((bytes.length - hdr.payloadOffset) % bytesPerFrame)
        rw [mod?_eq hbpf, Option.bind_some, sub?_eq (Nat.mod_le _ _), Option.bind_some]
        generalize bytes.length - hdr.payloadOffset - (bytes.length - hdr.payloadOffset) % bytesPerFrame
          = aligned at haligned ⊢
        rw [swapToScratch?_eq _ _ (by omega) (by omega), Option.bind_some]
        generalize swapToScratch buf mem.scratch hdr.payloadOffset aligned = scratch
        -- what is pushed is the front of the scratch
        have hfront : scratch.slice 0 aligned = scratch.cells.take aligned := by
          rw [Buffer.slice, List.drop_zero]
        have hlen : (scratch.cells.take aligned).length = aligned := by
          rw [List.length_take, scratch.size]
          omega
        have hpush := ringPush_eq (r.noteHeader hdr).queue.wf (scratch.cells.take aligned)
          (scratch.cells.drop aligned)
        rw [List.take_append_drop, hlen] at hpush
        rw [show ringPush (r.noteHeader hdr).queue.cap (r.noteHeader hdr).queue.ring scratch.cells aligned = _
          from hpush, Option.bind_some, RingBuffer.ofRing?_push, Option.bind_some, hfront]
      · have hmin : (if bytes.length - hdr.payloadOffset < kRtpMaxPayloadBytes then
            bytes.length - hdr.payloadOffset else kRtpMaxPayloadBytes) ≤ bytes.length - hdr.payloadOffset := by
          split <;> omega
        generalize (if bytes.length - hdr.payloadOffset < kRtpMaxPayloadBytes then
          bytes.length - hdr.payloadOffset else kRtpMaxPayloadBytes) = encodedBytes at hmin ⊢
        have hslice : hdr.payloadOffset + encodedBytes ≤ kRtpMaxPacketBytes := by omega
        rw [Buffer.slice?_eq _ hslice, Option.bind_some,
          Buffer.blit?_eq _ (by rw [Buffer.length_slice _ hslice]; omega), Option.bind_some]

/-- Reading passes its checks. -/
theorem readFrames?_eq (r : RtpReceiver) (nonNull : Bool) (frameCount : ℕ) :
    r.readFrames? nonNull frameCount = some (r.readFrames nonNull frameCount) := by
  rw [readFrames?, show readQueue? RtpReceiver.ringPop r.ready nonNull r.format.bytesPerFrame r.queue frameCount
    = _ from readQueue?_eq _ _ _ _ _]
  rfl

/-- Counting frames divides by no zero, in whatever state. -/
theorem availableFrames?_eq (r : RtpReceiver) : r.availableFrames? = some r.availableFrames := by
  unfold availableFrames? availableFrames
  split
  · rfl
  · rename_i hbpf
    exact div?_eq hbpf

/-- **A call passes its checks.** -/
theorem Sound.call?_eq (h : r.Sound) (mem : RtpPollMemory) {c : Call} (hc : c.Honest) :
    r.call? mem c = some (r.call mem c) := by
  cases c with
  | poll io =>
    rw [call?, h.declared.pollInMemory?_eq mem hc]
    rfl
  | readFrames nonNull frameCount =>
    rw [call?, r.readFrames?_eq]
    rfl
  | readEncoded nonNull maxBytes =>
    rw [call?, h.readEncoded?_eq]
    rfl
  | _ => rfl

/-- The hold never outgrows its array. -/
theorem held_poll (hheld : r.encodedBytes ≤ kRtpMaxPayloadBytes) (mem : RtpPollMemory) (io : Inbound) :
    (r.poll mem io).2.1.encodedBytes ≤ kRtpMaxPayloadBytes := by
  unfold poll
  split
  · exact hheld
  split
  · exact hheld
  dsimp only
  split
  · exact hheld
  split
  · exact hheld
  split
  · exact hheld
  · split
    · exact hheld
    · dsimp only
      split <;> omega

/-- A call keeps a receiver sound. -/
theorem Sound.call (h : r.Sound) (mem : RtpPollMemory) (c : Call) : (r.call mem c).2.1.Sound := by
  refine ⟨declared_step (s := (r, mem)) h.declared c, ?_⟩
  have hheld := h.held
  cases c with
  | begin bound =>
    show (r.begin bound).2.encodedBytes ≤ _
    unfold RtpReceiver.begin
    split
    · exact hheld
    · exact Nat.zero_le _
  | end_ => exact Nat.zero_le _
  | setPcmBuffer nonNull bytes =>
    show (r.setPcmBuffer nonNull bytes).2.encodedBytes ≤ _
    unfold RtpReceiver.setPcmBuffer
    split
    · exact hheld
    · split <;> exact hheld
  | setFormat fmt =>
    show (r.setFormat fmt).2.encodedBytes ≤ _
    unfold RtpReceiver.setFormat
    split <;> exact hheld
  | setDynamicL16PayloadType payloadType channels =>
    show (r.setDynamicL16PayloadType payloadType channels).2.encodedBytes ≤ _
    unfold RtpReceiver.setDynamicL16PayloadType
    split <;> exact hheld
  | poll io => exact held_poll hheld mem io
  | readFrames nonNull frameCount => exact hheld
  | readEncoded nonNull maxBytes =>
    show (r.readEncoded nonNull maxBytes).2.2.encodedBytes ≤ _
    unfold RtpReceiver.readEncoded
    split
    · exact hheld
    · exact Nat.zero_le _

end Poll

end RtpReceiver

/-! ## Programs with receivers -/

/-- **The receivers stay inside their memory.** A program has any number of receivers of each class over the
shared static buffers, whatever these hold, and makes any calls on them in any order; whatever the UDP objects
deliver, as long as they read no more than asked for, and whatever names and sizes the caller passes, as long as
names are C strings or fill the field and the caller's memory has room for what it asks for: no call reads or
writes outside an array, wraps around, cuts a number off or divides by zero, the ring counters agree after every
one of them, and each returns and does what the receiver's model says. And in no state does `availableFrames`
divide by zero. -/
theorem receivers_safe [PCMFlow] {κ : Type*} [DecidableEq κ] :
    (∀ (mem : RtpPollMemory) (calls : List (κ × RtpReceiver.Call)), (∀ c ∈ calls, c.2.Honest) →
      checked (checkedFamily RtpReceiver.call?) (fun _ => {}, mem) calls
        = some (transcript (family RtpReceiver.call) (fun _ => {}, mem) calls,
            after (family RtpReceiver.call) (fun _ => {}, mem) calls)) ∧
      (∀ (buf : VbanPollMemory) (calls : List (κ × VbanReceiver.Call)),
        (∀ c ∈ calls, c.2.Honest ∧ c.2.Readable) →
        checked (checkedFamily VbanReceiver.call?) (fun _ => {}, buf) calls
          = some (transcript (family VbanReceiver.call) (fun _ => {}, buf) calls,
              after (family VbanReceiver.call) (fun _ => {}, buf) calls)) ∧
      ∀ r : RtpReceiver, r.availableFrames? = some r.availableFrames := by
  refine ⟨?_, ?_, RtpReceiver.availableFrames?_eq⟩
  · intro mem calls hcalls
    refine checked_family RtpReceiver.Sound RtpReceiver.Call.Honest ?_ (fun _ => ?_) mem hcalls
    · exact fun r m c hc hr => ⟨hr.call?_eq m hc, hr.call m c⟩
    · exact ⟨fun _ => rfl, Nat.zero_le _⟩
  · intro buf calls hcalls
    refine checked_family VbanReceiver.Inv (fun c => c.Honest ∧ c.Readable) ?_ (fun _ => ?_) buf hcalls
    · exact fun r m c hc hr => ⟨hr.call?_eq m hc.1 hc.2, hr.step (s := (r, m)) c⟩
    · exact VbanReceiver.inv_new

/-- Two receivers of each class over buffers full of old bytes: a name that fills its field without a NUL, a
packet cut off in its header, an L16 and an audio packet, and reads of more than there is. -/
theorem receivers_safe_two :
    (let calls : List (Bool × RtpReceiver.Call) :=
        [(true, .begin 1), (false, .begin 1),
          (true, .poll (.ofDatagram (rtpHeaderBytes { payloadType := 0 } ++ [1, 2]))),
          (false, .poll (.ofDatagram [0x90, 10, 0])),
          (false, .poll (.ofDatagram (rtpHeaderBytes { payloadType := 10 } ++ [1, 2, 3, 4, 5, 6, 7, 8]))),
          (true, .readEncoded true 1440), (false, .readFrames true 9)]
      let mem : RtpPollMemory := { buf := Buffer.filled _ 0xFF, scratch := Buffer.filled _ 0xFF }
      (transcriptOf false (transcript (family (@RtpReceiver.call PCMFlow.documented))
        (fun _ => {}, mem) calls)).map
          Prod.snd = [.flag true, .flag false, .flag true, .read 2 [2, 1, 4, 3, 6, 5, 8, 7]] ∧
        checked (checkedFamily (@RtpReceiver.call? PCMFlow.documented)) (fun _ => {}, mem) calls
          = some (transcript (family (@RtpReceiver.call PCMFlow.documented)) (fun _ => {}, mem) calls,
              after (family (@RtpReceiver.call PCMFlow.documented)) (fun _ => {}, mem) calls)) ∧
      (let calls : List (Bool × VbanReceiver.Call) :=
          [(true, .begin (some (List.replicate 16 65)) 1), (false, .begin (some [66, 0]) 1),
            (true, .poll (.ofDatagram (kVbanSignature ++ [0, 0, 0]))),
            (false, .poll (.ofDatagram (VbanReceiver.monoPacket [66]))), (false, .readFrames true 9)]
        let buf : VbanPollMemory := Buffer.filled _ 0xFF
        (transcriptOf false (transcript (family (@VbanReceiver.call PCMFlow.documented))
          (fun _ => {}, buf) calls)).map
            Prod.snd = [.flag true, .flag true, .read 1 [1, 2]] ∧
          checked (checkedFamily (@VbanReceiver.call? PCMFlow.documented)) (fun _ => {}, buf) calls
            = some (transcript (family (@VbanReceiver.call PCMFlow.documented)) (fun _ => {}, buf) calls,
                after (family (@VbanReceiver.call PCMFlow.documented)) (fun _ => {}, buf) calls)) := by
  obtain ⟨hrtp, hvban, -⟩ := @receivers_safe PCMFlow.documented Bool _
  constructor
  · intro calls mem
    refine ⟨by decide +kernel, hrtp mem calls ?_⟩
    simp [calls, RtpReceiver.Call.Honest, Inbound.honest_ofDatagram]
  · intro calls buf
    refine ⟨by decide +kernel, hvban buf calls ?_⟩
    simp [calls, VbanReceiver.Call.Honest, VbanReceiver.Call.Readable, Inbound.honest_ofDatagram,
      kVbanStreamNameBytes]

end PcmFlowUdp
