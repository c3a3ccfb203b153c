import PcmFlowUdp.ByteTransport.Runs
import PcmFlowUdp.Packetization
import PcmFlowUdp.Rtp.Protocol
import PcmFlowUdp.Udp

/-! # `RtpSender`

`RtpSender.h` / `RtpSender.cpp`, member by member. Two input paths share the packet scratch and the
header state: `writeFrames` packs PCM16 samples and emits a packet whenever `samplesPerPacket` frames
are pending; `writeEncoded` sends one packet per call. `flush` sends a partial L16 packet.

Calls that return a value return it with the state afterwards. `writeFrames` is `none` if its loop
does not reach its end within one iteration per frame. Pointers are `Option`s, `none` for a null
pointer; the destination address, which no member reads, is left out. -/

namespace PcmFlowUdp

open ByteTransport

/-- `RtpSender::Error`. -/
inductive RtpSenderError
  | none
  | notReady
  | unsupportedFormat
  | wrongPath
  | sendFailed
  deriving DecidableEq, Repr

/-- `RtpSender`: the member variables. -/
structure RtpSender where
  udp : Udp
  destPort : UInt16 := 0
  format : PCMFormat := {}
  /-- `0xFF` is unset. -/
  payloadType : UInt8 := 0xFF
  clockRate : UInt32 := 0
  samplesPerPacket : UInt16 := 0
  isL16 : Bool := false
  ssrc : UInt32 := 0
  sequenceNumber : UInt16 := 0
  timestamp : UInt32 := 0
  tsIncrement : UInt32 := 0
  armMarker : Bool := false
  ready : Bool := false
  error : RtpSenderError := .notReady
  /-- Packet scratch: header and payload. -/
  packet : Buffer UInt8 kRtpMaxPacketBytes := Buffer.filled _ 0
  /-- Pending L16 frames, in host byte order until they are emitted. -/
  pendingFrames : ℕ := 0

/-- What `randomSsrc()`, `randomSeqStart()` and `randomTsStart()` return to one `begin`. -/
structure RtpRandom where
  ssrc : UInt32
  sequenceNumber : UInt16
  timestamp : UInt32

/-- `computeSamplesPerPacket`: about 20 ms at the configured clock, capped by the payload size. -/
def rtpSamplesPerPacket (clockRate : UInt32) (channels : UInt8) : UInt16 :=
  let bytesPerFrame := channels.toNat * 2
  let maxByPayload := kRtpMaxPayloadBytes / bytesPerFrame
  let maxByTime := (clockRate / 50).toNat
  let spp := if maxByTime < maxByPayload then maxByTime else maxByPayload
  UInt16.ofNat (if spp = 0 then 1 else spp)

/-- Convert the `int16_t` in host order at byte `off` of the scratch to network order in place. -/
def sampleToNetwork {n : ℕ} (packet : Buffer UInt8 n) (off : ℕ) : Buffer UInt8 n :=
  let v := (word16 (byteAt packet.cells (off + 1)) (byteAt packet.cells off)).toInt16.toUInt16
  packet.blit off [hi16 v, lo16 v]

/-- Convert the first `totalSamples` samples of the payload area to network order in place. -/
def payloadToNetwork {n : ℕ} (packet : Buffer UInt8 n) (totalSamples : ℕ) : Buffer UInt8 n :=
  (List.range totalSamples).foldl (fun p i => sampleToNetwork p (kRtpHeaderBytes + 2 * i)) packet

namespace RtpSender

/-- A freshly constructed sender. -/
def new (script : ℕ → UdpTx) : RtpSender := { udp := { script } }

/-! ## Configuration -/

/-- `begin`. -/
def begin (s : RtpSender) (destPort : UInt16) (ssrc : UInt32) (rnd : RtpRandom) :
    Bool × RtpSender :=
  let ready := destPort != 0
  (ready,
    { s with
      destPort
      ssrc := if ssrc ≠ 0 then ssrc else rnd.ssrc
      sequenceNumber := rnd.sequenceNumber
      timestamp := rnd.timestamp
      pendingFrames := 0
      armMarker := true
      ready
      error := if ready then .none else .notReady })

/-- `end`. -/
def end_ (s : RtpSender) : RtpSender :=
  { s with pendingFrames := 0, ready := false, error := .notReady }

/-- `setPayloadType`. -/
def setPayloadType (s : RtpSender) (pt : UInt8) (clockRate : UInt32) : Bool × RtpSender :=
  if pt > 0x7F ∨ clockRate = 0 then (false, { s with error := .unsupportedFormat })
  else
    let isL16 := pt == ptL16Mono || pt == ptL16Stereo
    (true,
      { s with
        payloadType := pt
        clockRate
        isL16
        pendingFrames := 0
        -- the packet size of an earlier L16 format stays for another L16 type
        samplesPerPacket := if isL16 then s.samplesPerPacket else 0 })

/-- `setFormat`. -/
def setFormat [PCMFlow] (s : RtpSender) (fmt : PCMFormat) : Bool × RtpSender :=
  if !fmt.isValid || fmt.bitsPerSample != 16 then
    (false, { s with error := .unsupportedFormat })
  else
    let pt := if fmt.channels = 2 then ptL16Stereo else ptL16Mono
    let (ok, s) := s.setPayloadType pt fmt.sampleRate
    if !ok then (false, s)
    else
      (true,
        { s with
          format := fmt
          isL16 := true
          samplesPerPacket := rtpSamplesPerPacket fmt.sampleRate fmt.channels
          pendingFrames := 0 })

/-- `setTimestampIncrement`. -/
def setTimestampIncrement (s : RtpSender) (inc : UInt32) : RtpSender := { s with tsIncrement := inc }

/-- `setMarker`. -/
def setMarker (s : RtpSender) (m : Bool) : RtpSender := { s with armMarker := m }

/-- `setSsrc`. -/
def setSsrc (s : RtpSender) (ssrc : UInt32) : RtpSender := { s with ssrc }

/-- `setTimestamp`. -/
def setTimestamp (s : RtpSender) (ts : UInt32) : RtpSender := { s with timestamp := ts }

/-- `setSequenceNumber`. -/
def setSequenceNumber (s : RtpSender) (seq : UInt16) : RtpSender := { s with sequenceNumber := seq }

/-! ## Emission -/

/-- The header of the next packet on either path. -/
def nextHeader (s : RtpSender) : RtpHeader :=
  { marker := s.armMarker, payloadType := s.payloadType, sequenceNumber := s.sequenceNumber,
    timestamp := s.timestamp, ssrc := s.ssrc }

/-- `sendPacket`. -/
def sendPacket (s : RtpSender) (totalBytes : ℕ) : Bool × RtpSender :=
  let (ok, udp) := s.udp.transmit (s.packet.slice 0 totalBytes)
  if ok then (true, { s with udp })
  else (false, { s with udp, error := .sendFailed })

/-- `emitL16Packet`. -/
def emitL16Packet (s : RtpSender) : RtpSender :=
  if s.pendingFrames = 0 then s
  else
    let totalSamples := s.pendingFrames * s.format.channels.toNat
    let packet := payloadToNetwork s.packet totalSamples
    let (_, packet) := encodeRtpHeader s.nextHeader packet
    let payloadBytes := totalSamples * 2
    -- the counters move on only if the packet was sent, the pending frames are gone either way
    let (ok, s) := { s with packet }.sendPacket (kRtpHeaderBytes + payloadBytes)
    let s :=
      if ok then
        { s with
          sequenceNumber := s.sequenceNumber + 1
          timestamp := s.timestamp + UInt32.ofNat s.pendingFrames
          armMarker := false }
      else s
    { s with pendingFrames := 0 }

/-- The packet scratch that `writeFrames` fills. -/
def scratch : PacketScratch RtpSender where
  headerBytes := kRtpHeaderBytes
  maxBytes := kRtpMaxPacketBytes
  packet s := s.packet
  pendingFrames s := s.pendingFrames
  samplesPerPacket s := s.samplesPerPacket.toNat
  store s packet pendingFrames := { s with packet, pendingFrames }
  emit := emitL16Packet

/-- `writeFrames`. -/
def writeFrames [PCMFlow] (s : RtpSender) (src : Option (List UInt8)) (frameCount : ℕ) :
    Option (ℕ × RtpSender) :=
  if !s.ready then some (0, { s with error := .notReady })
  else if !s.isL16 || s.samplesPerPacket == 0 || s.format.bytesPerFrame == 0 then
    some (0, { s with error := .wrongPath })
  else
    match src with
    -- a null pointer is no error
    | none => some (0, s)
    | some src =>
        if frameCount = 0 then some (0, s)
        else scratch.writeLoop s.format.bytesPerFrame src frameCount frameCount 0 s

/-- `flush`. -/
def flush (s : RtpSender) : Bool × RtpSender :=
  if !s.ready then (false, { s with error := .notReady })
  else if s.pendingFrames = 0 then (true, s)
  else
    let pre := s.error
    let s := s.emitL16Packet
    -- a failure shows as a change of the last error
    (s.error == pre, s)

/-- `writeEncoded`. -/
def writeEncoded (s : RtpSender) (bytes : Option (List UInt8)) (count : ℕ) : Bool × RtpSender :=
  if !s.ready then (false, { s with error := .notReady })
  else if s.payloadType == 0xFF then (false, { s with error := .wrongPath })
  else
    match bytes with
    | none => (false, { s with error := .unsupportedFormat })
    | some bytes =>
        if count = 0 ∨ kRtpMaxPayloadBytes < count then
          (false, { s with error := .unsupportedFormat })
        else
          let (_, packet) := encodeRtpHeader s.nextHeader s.packet
          -- the payload goes where pending frames are kept
          let packet := packet.blit kRtpHeaderBytes (readMem bytes 0 count)
          let (ok, s) := { s with packet }.sendPacket (kRtpHeaderBytes + count)
          if !ok then (false, s)
          else
            (true,
              { s with
                sequenceNumber := s.sequenceNumber + 1
                timestamp := s.timestamp + s.tsIncrement
                armMarker := false })

/-! ## Runs -/

/-- The public calls of a sender that change its state. -/
inductive Call
  | begin (destPort : UInt16) (ssrc : UInt32) (rnd : RtpRandom)
  | end_
  | setPayloadType (pt : UInt8) (clockRate : UInt32)
  | setFormat (fmt : PCMFormat)
  | setTimestampIncrement (inc : UInt32)
  | setMarker (m : Bool)
  | setSsrc (ssrc : UInt32)
  | setTimestamp (ts : UInt32)
  | setSequenceNumber (seq : UInt16)
  | writeFrames (src : Option (List UInt8)) (frameCount : ℕ)
  | writeEncoded (bytes : Option (List UInt8)) (count : ℕ)
  | flush

/-- The state after one call. -/
def step [PCMFlow] (s : RtpSender) : Call → Option RtpSender
  | .begin destPort ssrc rnd => some (s.begin destPort ssrc rnd).2
  | .end_ => some s.end_
  | .setPayloadType pt clockRate => some (s.setPayloadType pt clockRate).2
  | .setFormat fmt => some (s.setFormat fmt).2
  | .setTimestampIncrement inc => some (s.setTimestampIncrement inc)
  | .setMarker m => some (s.setMarker m)
  | .setSsrc ssrc => some (s.setSsrc ssrc)
  | .setTimestamp ts => some (s.setTimestamp ts)
  | .setSequenceNumber seq => some (s.setSequenceNumber seq)
  | .writeFrames src frameCount => (s.writeFrames src frameCount).map Prod.snd
  | .writeEncoded bytes count => some (s.writeEncoded bytes count).2
  | .flush => some s.flush.2

/-- The states that public calls lead to from construction. -/
def Reachable [PCMFlow] (s : RtpSender) : Prop :=
  ∃ script calls, run step (new script) calls = some s

end RtpSender

end PcmFlowUdp
