import PcmFlowUdp.ByteTransport.Runs
import PcmFlowUdp.Packetization
import PcmFlowUdp.Udp
import PcmFlowUdp.Vban.Protocol

/-! # `VbanSender`

`VbanSender.h` / `VbanSender.cpp`, member by member. `writeFrames` packs PCM16 samples and emits a
packet whenever `samplesPerPacket` frames are pending; `flush` sends a partial packet. Every emission
uses up a frame counter value, whatever becomes of the send.

As in `RtpSender`, calls return their value with the state afterwards, `writeFrames` is `none` if its
loop does not reach its end within one iteration per frame, pointers are `Option`s and the destination
address is left out. -/

namespace PcmFlowUdp

open ByteTransport

/-- `VbanSender::Error`. -/
inductive VbanSenderError
  | none
  | notReady
  | unsupportedFormat
  | sendFailed
  deriving DecidableEq, Repr

/-- `VbanSender`: the member variables. -/
structure VbanSender where
  udp : Udp
  destPort : UInt16 := 0
  streamName : VbanName := VbanName.zero
  format : PCMFormat := {}
  sampleRateIndex : UInt8 := 0
  samplesPerPacket : UInt16 := 0
  pendingFrames : ℕ := 0
  frameCounter : UInt32 := 0
  ready : Bool := false
  error : VbanSenderError := .notReady
  /-- Packet scratch: header and payload. -/
  packet : Buffer UInt8 kVbanMaxPacketBytes := Buffer.filled _ 0

/-- `computeSamplesPerPacket`: capped by the payload size and by the one-byte sample count. -/
def vbanSamplesPerPacket (channels : UInt8) : UInt16 :=
  let bytesPerFrame := channels.toNat * 2
  let fitsInPayload := kVbanMaxPayloadBytes / bytesPerFrame
  UInt16.ofNat (if fitsInPayload < 256 then fitsInPayload else 256)

namespace VbanSender

/-- A freshly constructed sender. -/
def new (script : ℕ → UdpTx) : VbanSender := { udp := { script } }

/-! ## Configuration -/

/-- `setStreamName`. -/
def setStreamName (s : VbanSender) (name : Option (List UInt8)) : VbanSender :=
  { s with
    streamName :=
      match name with
      | none => VbanName.zero
      | some name => VbanName.ofCString name }

/-- `begin`. -/
def begin (s : VbanSender) (destPort : UInt16) (streamName : Option (List UInt8)) :
    Bool × VbanSender :=
  let s := { s with destPort }.setStreamName streamName
  let ready := destPort != 0
  (ready,
    { s with
      frameCounter := 0
      pendingFrames := 0
      ready
      error := if ready then .none else .notReady })

/-- `end`. -/
def end_ (s : VbanSender) : VbanSender :=
  { s with pendingFrames := 0, ready := false, error := .notReady }

/-- `setFormat`. -/
def setFormat [PCMFlow] (s : VbanSender) (fmt : PCMFormat) : Bool × VbanSender :=
  if !fmt.isValid || fmt.bitsPerSample != 16 then
    (false, { s with error := .unsupportedFormat })
  else
    let idx := vbanSampleRateIndex fmt.sampleRate
    if idx = kVbanSampleRateInvalid then (false, { s with error := .unsupportedFormat })
    else
      (true,
        { s with
          format := fmt
          sampleRateIndex := idx
          samplesPerPacket := vbanSamplesPerPacket fmt.channels
          pendingFrames := 0 })

/-! ## Emission -/

/-- The header of the next packet, with the given number of samples. -/
def nextHeader (s : VbanSender) (numSamples : ℕ) : VbanAudioHeader :=
  { sampleRateIndex := s.sampleRateIndex, numSamples := UInt16.ofNat numSamples,
    numChannels := s.format.channels.toUInt16, subCodec := .pcm16, streamName := s.streamName,
    frameCounter := s.frameCounter }

/-- `emitPacket`. -/
def emitPacket [PCMFlow] (s : VbanSender) : VbanSender :=
  if s.pendingFrames = 0 then s
  else
    let (_, packet) := encodeAudioHeader (s.nextHeader s.pendingFrames) s.packet
    let payloadBytes := s.pendingFrames * s.format.bytesPerFrame
    let totalBytes := kVbanHeaderBytes + payloadBytes
    let (ok, udp) := s.udp.transmit (packet.slice 0 totalBytes)
    { s with
      udp
      packet
      -- the counter moves on whether or not the packet was sent
      frameCounter := s.frameCounter + 1
      error := if ok then s.error else .sendFailed
      pendingFrames := 0 }

/-- The packet scratch that `writeFrames` fills. -/
def scratch [PCMFlow] : PacketScratch VbanSender where
  headerBytes := kVbanHeaderBytes
  maxBytes := kVbanMaxPacketBytes
  packet s := s.packet
  pendingFrames s := s.pendingFrames
  samplesPerPacket s := s.samplesPerPacket.toNat
  store s packet pendingFrames := { s with packet, pendingFrames }
  emit := emitPacket

/-- `writeFrames`. -/
def writeFrames [PCMFlow] (s : VbanSender) (src : Option (List UInt8)) (frameCount : ℕ) :
    Option (ℕ × VbanSender) :=
  if !s.ready then some (0, { s with error := .notReady })
  else if s.samplesPerPacket == 0 || s.format.bytesPerFrame == 0 then
    some (0, { s with error := .unsupportedFormat })
  else
    match src with
    -- a null pointer is no error
    | none => some (0, s)
    | some src =>
        if frameCount = 0 then some (0, s)
        else scratch.writeLoop s.format.bytesPerFrame src frameCount frameCount 0 s

/-- `flush`. -/
def flush [PCMFlow] (s : VbanSender) : Bool × VbanSender :=
  if !s.ready then (false, { s with error := .notReady })
  else if s.pendingFrames = 0 then (true, s)
  else
    let pre := s.error
    let s := s.emitPacket
    -- a failure shows as a change of the last error
    (s.error == pre, s)

/-! ## Runs -/

/-- The public calls of a sender that change its state. -/
inductive Call
  | begin (destPort : UInt16) (streamName : Option (List UInt8))
  | end_
  | setFormat (fmt : PCMFormat)
  | setStreamName (name : Option (List UInt8))
  | writeFrames (src : Option (List UInt8)) (frameCount : ℕ)
  | flush

/-- The state after one call. -/
def step [PCMFlow] (s : VbanSender) : Call → Option VbanSender
  | .begin destPort streamName => some (s.begin destPort streamName).2
  | .end_ => some s.end_
  | .setFormat fmt => some (s.setFormat fmt).2
  | .setStreamName name => some (s.setStreamName name)
  | .writeFrames src frameCount => (s.writeFrames src frameCount).map Prod.snd
  | .flush => some s.flush.2

/-- The states that public calls lead to from construction. -/
def Reachable [PCMFlow] (s : VbanSender) : Prop :=
  ∃ script calls, run step (new script) calls = some s

end VbanSender

end PcmFlowUdp
