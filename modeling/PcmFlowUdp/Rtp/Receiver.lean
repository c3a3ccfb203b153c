import PcmFlowUdp.PcmQueue
import PcmFlowUdp.Rtp.Protocol
import PcmFlowUdp.Udp

/-! # `RtpReceiver`

`RtpReceiver.h` / `RtpReceiver.cpp`, member by member. `poll` reads one datagram and dispatches it: an
L16 payload is converted to host order and queued in the PCM ring, any other payload replaces the
one-packet hold.

`poll` works in two function-static buffers that all receivers share (`RtpPollMemory`); they are
threaded through explicitly and never cleared. `receive` is what `poll` does to the receiver alone,
and `poll_read` says that the buffers' earlier content makes no difference. The local port,
which no member reads, is left out. -/

namespace PcmFlowUdp

open ByteTransport

/-- `RtpReceiver::Error`. -/
inductive RtpReceiverError
  | none
  | notReady
  | bindFailed
  | badHeader
  deriving DecidableEq, Repr

/-- `kQueueBytes`: the size of the internal PCM ring. -/
def kRtpQueueBytes : ℕ := 2048

/-- The PCM ring over `bytes` bytes of storage. -/
def pcmRing (bytes : ℕ) (h : 0 < bytes) : RingBuffer UInt8 := RingBuffer.empty bytes h 0

/-- `RtpReceiver`: the member variables. `queue` stands for the ring storage, its capacity and its
three counters. -/
structure RtpReceiver where
  ready : Bool := false
  error : RtpReceiverError := .notReady
  format : PCMFormat := {}
  dynamicL16Pt : UInt8 := 0xFF
  dynamicL16Channels : UInt8 := 0
  lastPt : UInt8 := 0xFF
  lastSeq : UInt16 := 0
  lastTs : UInt32 := 0
  lastSsrc : UInt32 := 0
  lastMarker : Bool := false
  /-- The L16 ring: PCM in host byte order. -/
  queue : RingBuffer UInt8 := pcmRing kRtpQueueBytes (by decide)
  /-- The one-packet hold of the encoded path. -/
  encoded : Buffer UInt8 kRtpMaxPayloadBytes := Buffer.filled _ 0
  encodedBytes : ℕ := 0
  encodedReady : Bool := false

/-- The function-static buffers of `RtpReceiver::poll`. -/
structure RtpPollMemory where
  buf : Buffer UInt8 kRtpMaxPacketBytes := Buffer.filled _ 0
  scratch : Buffer UInt8 kRtpMaxPayloadBytes := Buffer.filled _ 0

namespace RtpReceiver

/-! ## Configuration -/

/-- `begin`, given what `UDP::begin` returns. -/
def begin (r : RtpReceiver) (bound : Int) : Bool × RtpReceiver :=
  if bound ≠ 1 then (false, { r with error := .bindFailed, ready := false })
  else
    (true,
      { r with
        queue := r.queue.clear
        encodedBytes := 0
        encodedReady := false
        lastPt := 0xFF
        ready := true
        error := .none })

/-- `end`. -/
def end_ (r : RtpReceiver) : RtpReceiver :=
  { r with
    queue := r.queue.clear
    encodedBytes := 0
    encodedReady := false
    ready := false
    error := .notReady }

/-- `setPcmBuffer`; `nonNull` says that the pointer is not null. -/
def setPcmBuffer (r : RtpReceiver) (nonNull : Bool) (bytes : ℕ) : Bool × RtpReceiver :=
  if r.ready then (false, { r with error := .notReady })
  else if h : nonNull = false ∨ bytes = 0 then
    (true, { r with queue := pcmRing kRtpQueueBytes (by decide) })
  else (true, { r with queue := pcmRing bytes (by omega) })

/-- `setFormat`. -/
def setFormat [PCMFlow] (r : RtpReceiver) (fmt : PCMFormat) : Bool × RtpReceiver :=
  if !fmt.isValid || fmt.bitsPerSample != 16 then (false, { r with error := .badHeader })
  else (true, { r with format := fmt })

/-- `setDynamicL16PayloadType`. -/
def setDynamicL16PayloadType (r : RtpReceiver) (payloadType channels : UInt8) :
    Bool × RtpReceiver :=
  if payloadType > 0x7F ∨ channels = 0 then (false, { r with error := .badHeader })
  else (true, { r with dynamicL16Pt := payloadType, dynamicL16Channels := channels })

/-! ## Polling -/

/-- The payload types that the receiver treats as L16. -/
def treatsAsL16 (r : RtpReceiver) (pt : UInt8) : Bool :=
  pt == ptL16Mono || pt == ptL16Stereo || (r.dynamicL16Channels != 0 && pt == r.dynamicL16Pt)

/-- `isPcm`. -/
def isPcm (r : RtpReceiver) : Bool := r.treatsAsL16 r.lastPt

/-- The channel count of an L16 packet with payload type `pt`. -/
def l16Channels (r : RtpReceiver) (pt : UInt8) : UInt8 :=
  if pt == r.dynamicL16Pt then r.dynamicL16Channels else if pt == ptL16Stereo then 2 else 1

/-- The format that `poll` sets for an L16 packet with payload type `pt`. -/
def l16Format (r : RtpReceiver) (pt : UInt8) : PCMFormat where
  sampleRate := if r.format.sampleRate = 0 then 8000 else r.format.sampleRate
  channels := r.l16Channels pt
  bitsPerSample := 16

/-- Record the metadata of the last packet. -/
def noteHeader (r : RtpReceiver) (h : RtpHeader) : RtpReceiver :=
  { r with
    lastPt := h.payloadType
    lastSeq := h.sequenceNumber
    lastTs := h.timestamp
    lastSsrc := h.ssrc
    lastMarker := h.marker }

/-- The byte-swap loop of `poll`: the first `aligned` payload bytes, in host order, into the scratch. -/
def swapToScratch {n m : ℕ} (buf : Buffer UInt8 n) (scratch : Buffer UInt8 m)
    (payloadStart aligned : ℕ) : Buffer UInt8 m :=
  (List.range (aligned / 2)).foldl
    (fun s i => s.blit (2 * i)
      [byteAt buf.cells (payloadStart + 2 * i + 1), byteAt buf.cells (payloadStart + 2 * i)])
    scratch

/-- `poll`, given what the UDP object answers. -/
def poll [PCMFlow] (r : RtpReceiver) (mem : RtpPollMemory) (io : Inbound) :
    Bool × RtpReceiver × RtpPollMemory :=
  if !r.ready then (false, r, mem)
  else if io.parsePacket ≤ 0 then (false, r, mem)
  else
    -- a longer datagram is cut off
    let toRead :=
      if io.parsePacket.toNat < kRtpMaxPacketBytes then io.parsePacket.toNat else kRtpMaxPacketBytes
    match io.read toRead with
    | none => (false, r, mem)
    | some bytes =>
        let mem := { mem with buf := mem.buf.blit 0 bytes }
        let got := bytes.length
        if got < kRtpHeaderBytes then (false, r, mem)
        else
          match parseRtpHeader mem.buf.cells got with
          | .error _ => (false, { r with error := .badHeader }, mem)
          | .ok h =>
              let r := r.noteHeader h
              let payloadStart := h.payloadOffset
              let payloadBytes := got - payloadStart
              -- the payload type just recorded decides the path
              if r.isPcm then
                -- the format follows the packet, whatever is queued
                let format := r.l16Format h.payloadType
                let aligned := payloadBytes - payloadBytes % format.bytesPerFrame
                let scratch := swapToScratch mem.buf mem.scratch payloadStart aligned
                (true, { r with format, queue := r.queue.push (scratch.slice 0 aligned) },
                  { mem with scratch })
              else
                -- the packet replaces whatever is held
                let encodedBytes :=
                  if payloadBytes < kRtpMaxPayloadBytes then payloadBytes else kRtpMaxPayloadBytes
                (true,
                  { r with
                    encoded := r.encoded.blit 0 (mem.buf.slice payloadStart encodedBytes)
                    encodedBytes
                    encodedReady := true },
                  mem)

/-! ## Reading -/

/-- `availableFrames`. -/
def availableFrames [PCMFlow] (r : RtpReceiver) : ℕ :=
  if r.format.bytesPerFrame = 0 then 0 else r.queue.count / r.format.bytesPerFrame

/-- `framesForMs`, where `size_t` has `wordBits` bits: rate and duration are multiplied in that type. -/
def framesForMs (wordBits : ℕ) (r : RtpReceiver) (ms : UInt16) : ℕ :=
  if r.format.sampleRate = 0 then 0
  else (r.format.sampleRate.toNat % 2 ^ wordBits * ms.toNat) % 2 ^ wordBits / 1000

/-- `readFrames`: the number of frames returned, the bytes copied out, and the receiver afterwards;
`nonNull` says that the output pointer is not null. -/
def readFrames [PCMFlow] (r : RtpReceiver) (nonNull : Bool) (frameCount : ℕ) :
    ℕ × List UInt8 × RtpReceiver :=
  let (k, out, queue) := readQueue r.ready nonNull r.format.bytesPerFrame r.queue frameCount
  (k, out, { r with queue })

/-- `hasEncoded`. -/
def hasEncoded (r : RtpReceiver) : Bool := r.encodedReady

/-- `readEncoded`: the number of bytes returned, the bytes copied out, and the receiver afterwards;
`nonNull` says that the output pointer is not null. -/
def readEncoded (r : RtpReceiver) (nonNull : Bool) (maxBytes : ℕ) : ℕ × List UInt8 × RtpReceiver :=
  if !r.encodedReady || !nonNull || decide (maxBytes < r.encodedBytes) then (0, [], r)
  else
    (r.encodedBytes, r.encoded.slice 0 r.encodedBytes,
      { r with encodedReady := false, encodedBytes := 0 })

/-! ## Runs -/

/-- The public calls of a receiver that change its state. -/
inductive Call
  | begin (bound : Int)
  | end_
  | setPcmBuffer (nonNull : Bool) (bytes : ℕ)
  | setFormat (fmt : PCMFormat)
  | setDynamicL16PayloadType (payloadType channels : UInt8)
  | poll (io : Inbound)
  | readFrames (nonNull : Bool) (frameCount : ℕ)
  | readEncoded (nonNull : Bool) (maxBytes : ℕ)

/-- The receiver and the buffers of `poll` after one call. -/
def step [PCMFlow] (s : RtpReceiver × RtpPollMemory) : Call → RtpReceiver × RtpPollMemory
  | .begin bound => ((s.1.begin bound).2, s.2)
  | .end_ => (s.1.end_, s.2)
  | .setPcmBuffer nonNull bytes => ((s.1.setPcmBuffer nonNull bytes).2, s.2)
  | .setFormat fmt => ((s.1.setFormat fmt).2, s.2)
  | .setDynamicL16PayloadType payloadType channels =>
      ((s.1.setDynamicL16PayloadType payloadType channels).2, s.2)
  | .poll io => (s.1.poll s.2 io).2
  | .readFrames nonNull frameCount => ((s.1.readFrames nonNull frameCount).2.2, s.2)
  | .readEncoded nonNull maxBytes => ((s.1.readEncoded nonNull maxBytes).2.2, s.2)

/-- The states that public calls lead to from construction. -/
def Reachable [PCMFlow] (s : RtpReceiver × RtpPollMemory) : Prop :=
  ∃ calls : List Call, calls.foldl step ({}, {}) = s

/-- A dynamic L16 payload type is only declared with a channel count. -/
def Declared (r : RtpReceiver) : Prop := r.dynamicL16Channels = 0 → r.dynamicL16Pt = 0xFF

/-- A 7-bit payload type has a channel. -/
theorem Declared.l16Channels_ne_zero {r : RtpReceiver} (h : r.Declared) {pt : UInt8} (hpt : pt ≤ 0x7F) :
    r.l16Channels pt ≠ 0 := by
  rw [l16Channels]
  split
  · -- the declared type would be unset, which no 7-bit type is
    rename_i hdyn
    intro hzero
    rw [beq_iff_eq.mp hdyn, h hzero] at hpt
    exact absurd hpt (by decide)
  · split <;> decide

/-- An L16 packet is taken to have channels. -/
theorem Declared.l16Channels_pos {r : RtpReceiver} (h : r.Declared) {pt : UInt8} (hpt : pt ≤ 0x7F) :
    0 < (r.l16Channels pt).toNat :=
  UInt8.lt_iff_toNat_lt.mp (UInt8.pos_iff_ne_zero.mpr (h.l16Channels_ne_zero hpt))

/-- Polling never changes the declaration. -/
theorem poll_dynamic [PCMFlow] (r : RtpReceiver) (mem : RtpPollMemory) (io : Inbound) :
    (r.poll mem io).2.1.dynamicL16Pt = r.dynamicL16Pt ∧
      (r.poll mem io).2.1.dynamicL16Channels = r.dynamicL16Channels := by
  unfold poll
  split
  · exact ⟨rfl, rfl⟩
  split
  · exact ⟨rfl, rfl⟩
  dsimp only
  split
  · exact ⟨rfl, rfl⟩
  split
  · exact ⟨rfl, rfl⟩
  split
  · exact ⟨rfl, rfl⟩
  · split <;> exact ⟨rfl, rfl⟩

/-- No call declares a dynamic type without channels. -/
theorem declared_step [PCMFlow] {s : RtpReceiver × RtpPollMemory} (h : s.1.Declared) (call : Call) :
    (step s call).1.Declared := by
  cases call with
  | begin bound =>
    rw [step, begin]
    split <;> exact h
  | end_ => exact h
  | setPcmBuffer nonNull bytes =>
    rw [step, setPcmBuffer]
    split
    · exact h
    · split <;> exact h
  | setFormat fmt =>
    rw [step, setFormat]
    split <;> exact h
  | setDynamicL16PayloadType payloadType channels =>
    rw [step, setDynamicL16PayloadType]
    split
    · exact h
    · rename_i hok
      exact fun hzero => absurd (.inr hzero) hok
  | poll io =>
    obtain ⟨hpt, hchannels⟩ := s.1.poll_dynamic s.2 io
    rw [step, Declared, hpt, hchannels]
    exact h
  | readFrames nonNull frameCount => exact h
  | readEncoded nonNull maxBytes =>
    rw [step, readEncoded]
    split <;> exact h

/-- In every reachable state a declared payload type has channels. -/
theorem Reachable.declared [PCMFlow] {s : RtpReceiver × RtpPollMemory} (h : Reachable s) :
    s.1.Declared := by
  obtain ⟨calls, rfl⟩ := h
  have hinv : ∀ (calls : List Call) (t : RtpReceiver × RtpPollMemory), t.1.Declared →
      (calls.foldl step t).1.Declared := by
    intro calls
    induction calls with
    | nil => exact fun t ht => ht
    | cons call calls ih => exact fun t ht => ih _ (declared_step ht call)
  exact hinv calls _ fun _ => rfl

/-! ## What `poll` does to the receiver -/

/-- Queue an L16 payload: whole frames only, in host byte order. -/
def queueL16 [PCMFlow] (r : RtpReceiver) (pt : UInt8) (payload : List UInt8) : RtpReceiver :=
  let format := r.l16Format pt
  let aligned := payload.length - payload.length % format.bytesPerFrame
  { r with format, queue := r.queue.push (swapPairs (payload.take aligned)) }

/-- Hold the payload of an encoded packet. -/
def hold (r : RtpReceiver) (payload : List UInt8) : RtpReceiver :=
  { r with
    encoded := r.encoded.blit 0 payload, encodedBytes := payload.length, encodedReady := true }

/-- Dispatch an accepted packet by its payload type. -/
def dispatch [PCMFlow] (r : RtpReceiver) (h : RtpHeader) (payload : List UInt8) : RtpReceiver :=
  if r.treatsAsL16 h.payloadType then (r.noteHeader h).queueL16 h.payloadType payload
  else (r.noteHeader h).hold payload

/-- What polling the bytes `d` read from a datagram does: whether they are accepted, and the receiver
afterwards. -/
def receive [PCMFlow] (r : RtpReceiver) (d : List UInt8) : Bool × RtpReceiver :=
  if d.length < kRtpHeaderBytes then (false, r)
  else
    match parseRtpHeader d d.length with
    | .error _ => (false, { r with error := .badHeader })
    | .ok h => (true, r.dispatch h (d.drop h.payloadOffset))

/-- The swap loop leaves the payload in the scratch with every byte pair exchanged. -/
theorem swapToScratch_slice {n m : ℕ} (buf : Buffer UInt8 n) (scratch : Buffer UInt8 m)
    {start len : ℕ} (hbuf : start + len ≤ n) (hscratch : len ≤ m) (k : ℕ) (hk : 2 * k ≤ len) :
    ((List.range k).foldl
      (fun s i => s.blit (2 * i) [byteAt buf.cells (start + 2 * i + 1),
        byteAt buf.cells (start + 2 * i)]) scratch).slice 0 (2 * k)
      = (swapPairs (buf.slice start len)).take (2 * k) := by
  induction k with
  | zero => simp
  | succ k ih =>
    have hlen := buf.length_slice hbuf
    have hpair := swapPairs_getElem? (buf.slice start len) k (by omega)
    have hbyte : ∀ i < len, (buf.slice start len)[i]? = some (byteAt buf.cells (start + i)) := by
      intro i hi
      have hlt : start + i < buf.cells.length := by rw [buf.size]; omega
      rw [Buffer.slice_getElem?, if_pos hi, List.getElem?_eq_getElem hlt, byteAt,
        List.getD_eq_getElem?_getD, List.getElem?_eq_getElem hlt, Option.getD_some]
    -- iteration `k` extends the converted prefix by one pair
    rw [List.range_succ, List.foldl_append, List.foldl_cons, List.foldl_nil]
    generalize (List.range k).foldl _ scratch = done at ih ⊢
    have hext : (done.blit (0 + 2 * k) [byteAt buf.cells (start + 2 * k + 1),
        byteAt buf.cells (start + 2 * k)]).slice 0 (2 * k + 2)
          = done.slice 0 (2 * k) ++ [byteAt buf.cells (start + 2 * k + 1),
            byteAt buf.cells (start + 2 * k)] :=
      Buffer.slice_blit_extend done (by simp only [List.length_cons, List.length_nil]; omega)
    rw [Nat.zero_add] at hext
    rw [Nat.mul_succ, hext, ih (by omega)]
    show _ = (swapPairs (buf.slice start len)).take (2 * k + 1 + 1)
    rw [List.take_add_one, List.take_add_one, hpair.1, hpair.2,
      hbyte _ (by omega), hbyte _ (by omega), List.append_assoc]
    rfl

section Poll

variable [PCMFlow]

/-- Polling while no datagram is there does nothing. -/
theorem poll_none (r : RtpReceiver) (mem : RtpPollMemory) {io : Inbound} (h : io.parsePacket ≤ 0) :
    r.poll mem io = (false, r, mem) := by
  cases hready : r.ready <;> simp [poll, hready, h]

/-- Polling an object without a datagram does nothing. -/
theorem poll_empty (r : RtpReceiver) (mem : RtpPollMemory) :
    r.poll mem Inbound.empty = (false, r, mem) :=
  r.poll_none mem le_rfl

/-- What an L16 packet with payload type `pt` is taken to hold: a positive number of two-byte
samples a frame. -/
theorem bytesPerFrame_l16Format (r : RtpReceiver) (pt : UInt8) :
    (r.l16Format pt).bytesPerFrame = (r.l16Channels pt).toNat * 2 :=
  PCMFormat.bytesPerFrame_pcm16 rfl

/-- Whole frames are whole samples. -/
theorem two_dvd_aligned (r : RtpReceiver) (pt : UInt8) (payloadBytes : ℕ) :
    2 ∣ payloadBytes - payloadBytes % (r.l16Format pt).bytesPerFrame := by
  rw [bytesPerFrame_l16Format]
  exact (Nat.dvd_mul_left 2 _).trans (Nat.dvd_sub_mod _)

/-- **Polling is receiving the bytes read.** What earlier polls left in the static buffers makes no
difference. -/
theorem poll_read {r : RtpReceiver} (hready : r.ready = true) (mem : RtpPollMemory) {io : Inbound}
    (hsize : 0 < io.parsePacket) {e : List UInt8}
    (hread : io.read (if io.parsePacket.toNat < kRtpMaxPacketBytes then io.parsePacket.toNat
      else kRtpMaxPacketBytes) = some e) (hcap : e.length ≤ kRtpMaxPacketBytes) :
    ((r.poll mem io).1, (r.poll mem io).2.1) = r.receive e := by
  have hnot : ¬ (!r.ready) = true := by rw [hready]; decide
  -- the bytes just read are at the start of the static buffer
  have hcells := mem.buf.take_cells_blit hcap
  simp only [poll, if_neg hnot, if_neg hsize.not_ge, hread]
  by_cases hshort : e.length < kRtpHeaderBytes
  · rw [receive, if_pos hshort]
    simp only [if_pos hshort]
  · rw [receive, if_neg hshort]
    simp only [if_neg hshort, parseRtpHeader_congr (hcells.trans (List.take_length).symm)]
    cases hh : parseRtpHeader e e.length with
    | error err => rfl
    | ok h =>
      have hk : kRtpMaxPacketBytes = 12 + kRtpMaxPayloadBytes := rfl
      obtain ⟨-, hoff, hle⟩ := parseRtpHeader_offset hh
      have hdrop : (e.drop h.payloadOffset).length = e.length - h.payloadOffset := List.length_drop
      have hpcm : (r.noteHeader h).isPcm = r.treatsAsL16 h.payloadType := rfl
      dsimp only
      rw [dispatch, hpcm]
      by_cases hl16 : r.treatsAsL16 h.payloadType = true
      · -- the swap loop stops at the last whole frame, which ends on a whole sample
        simp only [if_pos hl16, queueL16, hdrop]
        have heven := (r.noteHeader h).two_dvd_aligned h.payloadType (e.length - h.payloadOffset)
        generalize (r.noteHeader h).l16Format h.payloadType = fmt at heven ⊢
        generalize ha : e.length - h.payloadOffset
            - (e.length - h.payloadOffset) % fmt.bytesPerFrame = aligned at heven
        have hal : aligned ≤ e.length - h.payloadOffset := by rw [← ha]; exact Nat.sub_le _ _
        have hslice : (swapToScratch (mem.buf.blit 0 e) mem.scratch h.payloadOffset aligned).slice 0
            aligned = swapPairs ((e.drop h.payloadOffset).take aligned) := by
          have htwo : 2 * (aligned / 2) = aligned := Nat.mul_div_cancel' heven
          have hloop := swapToScratch_slice (mem.buf.blit 0 e) mem.scratch
            (show h.payloadOffset + aligned ≤ kRtpMaxPacketBytes by omega) (by omega)
            (aligned / 2) (by omega)
          rw [htwo] at hloop
          rw [swapToScratch, hloop, Buffer.slice_blit_within _ hcap (by omega), ← swapPairs_take _ _ heven,
            List.take_take, min_self]
        rw [hslice]
      · -- the hold has room for whatever fits a packet behind the header
        simp only [if_neg hl16, hold]
        have hmin : (if e.length - h.payloadOffset < kRtpMaxPayloadBytes then e.length - h.payloadOffset
            else kRtpMaxPayloadBytes) = e.length - h.payloadOffset := by
          split <;> omega
        rw [hmin, Buffer.slice_blit_within _ hcap (by omega), hdrop, List.take_of_length_le (by rw [hdrop])]

/-- Polling a datagram is receiving its first 1452 bytes. -/
theorem poll_ofDatagram {r : RtpReceiver} (hready : r.ready = true) (mem : RtpPollMemory)
    {d : List UInt8} (hd : d ≠ []) :
    ((r.poll mem (Inbound.ofDatagram d)).1, (r.poll mem (Inbound.ofDatagram d)).2.1)
      = r.receive (d.take kRtpMaxPacketBytes) := by
  have hpos : 0 < d.length := List.length_pos_iff.mpr hd
  apply poll_read hready mem (Int.natCast_pos.mpr hpos)
  · exact Inbound.read_ofDatagram d kRtpMaxPacketBytes
  · rw [List.length_take]
    exact min_le_left _ _

/-- A poll is the reception of what it reads. -/
theorem poll_received (r : RtpReceiver) (mem : RtpPollMemory) {io : Inbound} (hio : io.Honest) :
    ((r.poll mem io).1, (r.poll mem io).2.1)
      = match io.received kRtpMaxPacketBytes with
        | none => (false, r)
        | some e => if r.ready then r.receive e else (false, r) := by
  unfold Inbound.received
  cases hready : r.ready with
  | false =>
    have hidle : r.poll mem io = (false, r, mem) := by simp [poll, hready]
    rw [hidle]
    cases (if io.parsePacket ≤ 0 then none else io.read _) with
    | none => rfl
    | some e => rfl
  | true =>
    by_cases hsize : io.parsePacket ≤ 0
    · rw [if_pos hsize, r.poll_none mem hsize]
    · rw [if_neg hsize]
      cases hread : io.read (if io.parsePacket.toNat < kRtpMaxPacketBytes then io.parsePacket.toNat
          else kRtpMaxPacketBytes) with
      | none => simp [poll, hready, hsize, hread]
      | some e => exact poll_read hready mem (Int.not_le.mp hsize) hread (hio.length_le hread)

/-- **The static buffers make no difference**, whatever they hold from earlier polls, of this receiver or of
others, as long as `read` copies no more than it is asked for. -/
theorem poll_memory (r : RtpReceiver) (mem mem' : RtpPollMemory) {io : Inbound} (hio : io.Honest) :
    (r.poll mem io).1 = (r.poll mem' io).1 ∧ (r.poll mem io).2.1 = (r.poll mem' io).2.1 :=
  Prod.ext_iff.mp ((r.poll_received mem hio).trans (r.poll_received mem' hio).symm)

end Poll

end RtpReceiver

end PcmFlowUdp
