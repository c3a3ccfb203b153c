import PcmFlowUdp.PcmQueue
import PcmFlowUdp.Udp
import PcmFlowUdp.Vban.Protocol

/-! # `VbanReceiver`

`VbanReceiver.h` / `VbanReceiver.cpp`, member by member. `poll` reads one datagram: an audio packet
that passes the name filter and carries PCM16 in the locked format is queued, a service packet is
handed to the callback, anything else is dropped.

The callback belongs to the user and is not part of this repository. The model keeps whether one is
set and which packets it was given; the remote address of a packet, which `poll` only passes on, and
the local port, which no member reads, are left out. As in `RtpReceiver`, the function-static receive
buffer of `poll` is threaded through, and `poll_read` says that its earlier content makes no
difference. -/

namespace PcmFlowUdp

open ByteTransport

/-- `VbanReceiver::Error`. -/
inductive VbanReceiverError
  | none
  | notReady
  | bindFailed
  | formatUnsupported
  deriving DecidableEq, Repr

/-- `VbanServicePacket`, as the callback sees it. -/
structure VbanServicePacket where
  header : VbanServiceHeader
  payload : List UInt8

/-- `kQueueBytes`: the size of the PCM ring. -/
def kVbanQueueBytes : ℕ := 2048

/-- `VbanReceiver`: the member variables. `queue` stands for the ring storage and its three
counters. -/
structure VbanReceiver where
  filterName : VbanName := VbanName.zero
  filterEnabled : Bool := false
  ready : Bool := false
  error : VbanReceiverError := .notReady
  format : PCMFormat := {}
  currentStream : VbanName := VbanName.zero
  lastFrameCounter : UInt32 := 0
  /-- Whether a service callback is set. -/
  serviceCb : Bool := false
  /-- The service packets handed to the callback so far. -/
  served : List VbanServicePacket := []
  queue : RingBuffer UInt8 := RingBuffer.empty kVbanQueueBytes (by decide) 0

/-- The function-static receive buffer of `VbanReceiver::poll`. -/
abbrev VbanPollMemory := Buffer UInt8 kVbanMaxPacketBytes

namespace VbanReceiver

/-! ## Configuration -/

/-- `begin`, given what `UDP::begin` returns. -/
def begin (r : VbanReceiver) (streamName : Option (List UInt8)) (bound : Int) :
    Bool × VbanReceiver :=
  let filterEnabled :=
    match streamName with
    | none => false
    | some name => byteAt name 0 != 0
  let filterName :=
    match streamName with
    | none => VbanName.zero
    | some name => if filterEnabled then VbanName.ofCString name else VbanName.zero
  if bound ≠ 1 then (false, { r with filterEnabled, filterName, error := .bindFailed, ready := false })
  else
    (true,
      { r with
        filterEnabled
        filterName
        queue := r.queue.clear
        lastFrameCounter := 0
        format := {}
        currentStream := VbanName.zero
        ready := true
        error := .none })

/-- `end`. -/
def end_ (r : VbanReceiver) : VbanReceiver :=
  { r with queue := r.queue.clear, ready := false, error := .notReady }

/-- `setServiceCallback`. -/
def setServiceCallback (r : VbanReceiver) (cb : Bool) : VbanReceiver := { r with serviceCb := cb }

/-! ## Polling -/

/-- The audio branch of `poll`, for a packet whose header parsed as `h` with `payload` behind it. -/
def pollAudio [PCMFlow] (r : VbanReceiver) (h : VbanAudioHeader) (payload : List UInt8) :
    Bool × VbanReceiver :=
  if r.filterEnabled && strncmp h.streamName.cells r.filterName.cells kVbanStreamNameBytes != 0 then
    (false, r)
  else if h.subCodec ≠ .pcm16 then (false, { r with error := .formatUnsupported })
  else
    let rate := vbanSampleRateHz h.sampleRateIndex
    if rate = 0 ∨ h.numChannels < 1 ∨ h.numChannels > 2 then
      (false, { r with error := .formatUnsupported })
    else if r.format.sampleRate ≠ 0 ∧
        (r.format.sampleRate ≠ rate ∨ r.format.channels ≠ h.numChannels.toUInt8) then
      -- the format is locked and the packet does not match it
      (false, r)
    else
      -- the first packet accepted locks the format
      let format :=
        if r.format.sampleRate = 0 then
          { sampleRate := rate, channels := h.numChannels.toUInt8, bitsPerSample := 16 }
        else r.format
      let payloadBytes := payload.length
      -- no more is queued than the header announces, and whole frames only
      let expectedPayload := h.numSamples.toNat * format.bytesPerFrame
      let usable := if payloadBytes < expectedPayload then payloadBytes else expectedPayload
      let aligned := usable - usable % format.bytesPerFrame
      (true,
        { r with
          format
          queue := r.queue.push (payload.take aligned)
          currentStream := h.streamName
          lastFrameCounter := h.frameCounter })

/-- `poll`, given what the UDP object answers. -/
def poll [PCMFlow] (r : VbanReceiver) (buf : VbanPollMemory) (io : Inbound) :
    Bool × VbanReceiver × VbanPollMemory :=
  if !r.ready then (false, r, buf)
  else if io.parsePacket ≤ 0 then (false, r, buf)
  else
    -- a longer datagram is cut off
    let toRead :=
      if io.parsePacket.toNat < kVbanMaxPacketBytes then io.parsePacket.toNat
      else kVbanMaxPacketBytes
    match io.read toRead with
    | none => (false, r, buf)
    | some bytes =>
        let buf := buf.blit 0 bytes
        let got := bytes.length
        if got < kVbanHeaderBytes then (false, r, buf)
        else if byteAt buf.cells 4 &&& 0xE0 = VbanSubProtocol.service.code then
          match parseServiceHeader buf.cells got with
          | .error _ => (false, r, buf)
          | .ok header =>
              -- a service packet is handed to the callback, and accepted without one too
              if r.serviceCb then
                let pkt := { header, payload := buf.slice kVbanHeaderBytes (got - kVbanHeaderBytes) }
                (true, { r with served := r.served ++ [pkt] }, buf)
              else (true, r, buf)
        else
          match parseAudioHeader buf.cells got with
          | .error _ => (false, r, buf)
          | .ok h =>
              let (ok, r) := r.pollAudio h (buf.slice kVbanHeaderBytes (got - kVbanHeaderBytes))
              (ok, r, buf)

/-! ## Reading -/

/-- `readFrames`: the number of frames returned, the bytes copied out, and the receiver afterwards;
`nonNull` says that the output pointer is not null. -/
def readFrames [PCMFlow] (r : VbanReceiver) (nonNull : Bool) (frameCount : ℕ) :
    ℕ × List UInt8 × VbanReceiver :=
  let (k, out, queue) := readQueue r.ready nonNull r.format.bytesPerFrame r.queue frameCount
  (k, out, { r with queue })

/-! ## Runs -/

/-- The public calls of a receiver that change its state. -/
inductive Call
  | begin (streamName : Option (List UInt8)) (bound : Int)
  | end_
  | setServiceCallback (cb : Bool)
  | poll (io : Inbound)
  | readFrames (nonNull : Bool) (frameCount : ℕ)

/-- The receiver and the buffer of `poll` after one call. -/
def step [PCMFlow] (s : VbanReceiver × VbanPollMemory) : Call → VbanReceiver × VbanPollMemory
  | .begin streamName bound => ((s.1.begin streamName bound).2, s.2)
  | .end_ => (s.1.end_, s.2)
  | .setServiceCallback cb => (s.1.setServiceCallback cb, s.2)
  | .poll io => (s.1.poll s.2 io).2
  | .readFrames nonNull frameCount => ((s.1.readFrames nonNull frameCount).2.2, s.2)

/-- The states that public calls lead to from construction. -/
def Reachable [PCMFlow] (s : VbanReceiver × VbanPollMemory) : Prop :=
  ∃ calls : List Call, calls.foldl step ({}, Buffer.filled _ 0) = s

/-! ## What `poll` does to the receiver -/

/-- What polling the bytes `d` read from a datagram does: whether they are accepted, and the receiver
afterwards. -/
def receive [PCMFlow] (r : VbanReceiver) (d : List UInt8) : Bool × VbanReceiver :=
  if d.length < kVbanHeaderBytes then (false, r)
  else if byteAt d 4 &&& 0xE0 = VbanSubProtocol.service.code then
    match parseServiceHeader d d.length with
    | .error _ => (false, r)
    | .ok header =>
        if r.serviceCb then
          (true, { r with served := r.served ++ [{ header, payload := d.drop kVbanHeaderBytes }] })
        else (true, r)
  else
    match parseAudioHeader d d.length with
    | .error _ => (false, r)
    | .ok h => r.pollAudio h (d.drop kVbanHeaderBytes)

section Poll

variable [PCMFlow]

/-- Polling while no datagram is there does nothing. -/
theorem poll_none (r : VbanReceiver) (buf : VbanPollMemory) {io : Inbound} (h : io.parsePacket ≤ 0) :
    r.poll buf io = (false, r, buf) := by
  cases hready : r.ready <;> simp [poll, hready, h]

/-- Polling an object without a datagram does nothing. -/
theorem poll_empty (r : VbanReceiver) (buf : VbanPollMemory) :
    r.poll buf Inbound.empty = (false, r, buf) :=
  r.poll_none buf le_rfl

/-- **Polling is receiving the bytes read.** What earlier polls left in the static buffer makes no
difference. -/
theorem poll_read {r : VbanReceiver} (hready : r.ready = true) (buf : VbanPollMemory) {io : Inbound}
    (hsize : 0 < io.parsePacket) {e : List UInt8}
    (hread : io.read (if io.parsePacket.toNat < kVbanMaxPacketBytes then io.parsePacket.toNat
      else kVbanMaxPacketBytes) = some e) (hcap : e.length ≤ kVbanMaxPacketBytes) :
    ((r.poll buf io).1, (r.poll buf io).2.1) = r.receive e := by
  have hnot : ¬ (!r.ready) = true := by rw [hready]; decide
  -- the bytes just read are at the start of the static buffer
  have hcells : (buf.blit 0 e).cells.take e.length = e.take e.length := by
    rw [buf.take_cells_blit hcap, List.take_length]
  simp only [poll, if_neg hnot, if_neg hsize.not_ge, hread]
  by_cases hshort : e.length < kVbanHeaderBytes
  · rw [receive, if_pos hshort]
    simp only [if_pos hshort]
  · have hk : kVbanHeaderBytes = 28 := rfl
    have hpayload : (buf.blit 0 e).slice kVbanHeaderBytes (e.length - kVbanHeaderBytes)
        = e.drop kVbanHeaderBytes := by
      rw [Buffer.slice_blit_within buf hcap (by omega), List.take_of_length_le (by rw [List.length_drop])]
    rw [receive, if_neg hshort]
    simp only [if_neg hshort, parseServiceHeader_congr hcells, parseAudioHeader_congr hcells,
      byteAt_congr hcells (show 4 < e.length by omega), hpayload]
    -- a service packet, or any other
    split
    · cases parseServiceHeader e e.length with
      | error err => rfl
      | ok header => cases hcb : r.serviceCb <;> rfl
    · cases parseAudioHeader e e.length with
      | error err => rfl
      | ok h => rfl

/-- Polling a datagram is receiving its first 1436 bytes. -/
theorem poll_ofDatagram {r : VbanReceiver} (hready : r.ready = true) (buf : VbanPollMemory)
    {d : List UInt8} (hd : d ≠ []) :
    ((r.poll buf (Inbound.ofDatagram d)).1, (r.poll buf (Inbound.ofDatagram d)).2.1)
      = r.receive (d.take kVbanMaxPacketBytes) := by
  have hpos : 0 < d.length := List.length_pos_iff.mpr hd
  apply poll_read hready buf (Int.natCast_pos.mpr hpos)
  · exact Inbound.read_ofDatagram d kVbanMaxPacketBytes
  · rw [List.length_take]
    exact min_le_left _ _

/-- A poll is the reception of what it reads. -/
theorem poll_received (r : VbanReceiver) (buf : VbanPollMemory) {io : Inbound} (hio : io.Honest) :
    ((r.poll buf io).1, (r.poll buf io).2.1)
      = match io.received kVbanMaxPacketBytes with
        | none => (false, r)
        | some e => if r.ready then r.receive e else (false, r) := by
  unfold Inbound.received
  cases hready : r.ready with
  | false =>
    have hidle : r.poll buf io = (false, r, buf) := by simp [poll, hready]
    rw [hidle]
    cases (if io.parsePacket ≤ 0 then none else io.read _) with
    | none => rfl
    | some e => rfl
  | true =>
    by_cases hsize : io.parsePacket ≤ 0
    · rw [if_pos hsize, r.poll_none buf hsize]
    · rw [if_neg hsize]
      cases hread : io.read (if io.parsePacket.toNat < kVbanMaxPacketBytes then io.parsePacket.toNat
          else kVbanMaxPacketBytes) with
      | none => simp [poll, hready, hsize, hread]
      | some e => exact poll_read hready buf (Int.not_le.mp hsize) hread (hio.length_le hread)

/-- **The static buffer makes no difference**, whatever it holds from earlier polls, of this receiver or of
others, as long as `read` copies no more than it is asked for. -/
theorem poll_memory (r : VbanReceiver) (buf buf' : VbanPollMemory) {io : Inbound} (hio : io.Honest) :
    (r.poll buf io).1 = (r.poll buf' io).1 ∧ (r.poll buf io).2.1 = (r.poll buf' io).2.1 :=
  Prod.ext_iff.mp ((r.poll_received buf hio).trans (r.poll_received buf' hio).symm)

end Poll

end VbanReceiver

end PcmFlowUdp
