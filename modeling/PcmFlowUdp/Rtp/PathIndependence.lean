import PcmFlowUdp.ByteTransport.Answers
import PcmFlowUdp.Rtp.Reception

/-! # The two paths of an `RtpReceiver`

An L16 packet goes into the PCM ring, any other packet into the one-packet hold, and `poll` decides by the
payload type that it has just recorded. The two paths share `poll`, the metadata of the last packet and
two static buffers. `SamePcm` and `SameEncoded` say of two receivers that they are the same to the calls
of one path; a packet of the other path leaves a receiver the same (`SamePcm.hold`,
`SameEncoded.queueL16`).

* **`rtp_path_independence`** — what the calls of a path return is what they return in the run in which
  no packet of the other path, and no malformed one, arrives. -/

namespace PcmFlowUdp

open ByteTransport

/-- What happens to a receiver whose configuration is left alone. -/
inductive RtpOp
  /-- `poll`, with this datagram arrived. -/
  | poll (d : List UInt8)
  | readFrames (nonNull : Bool) (frameCount : ℕ)
  | availableFrames
  | format
  | readEncoded (nonNull : Bool) (maxBytes : ℕ)
  | hasEncoded

/-- What the receiver answers. -/
inductive RtpAnswer
  | flag (ok : Bool)
  | read (count : ℕ) (out : List UInt8)
  | count (frames : ℕ)
  | format (fmt : PCMFormat)
  deriving DecidableEq, Repr

namespace RtpReceiver

/-- The call and its answer. -/
def answer [PCMFlow] (s : RtpReceiver × RtpPollMemory) :
    RtpOp → RtpAnswer × RtpReceiver × RtpPollMemory
  | .poll d =>
      let (ok, s') := s.1.poll s.2 (Inbound.ofDatagram d)
      (.flag ok, s')
  | .readFrames nonNull frameCount =>
      let (k, out, r) := s.1.readFrames nonNull frameCount
      (.read k out, r, s.2)
  | .availableFrames => (.count s.1.availableFrames, s)
  | .format => (.format s.1.format, s)
  | .readEncoded nonNull maxBytes =>
      let (k, out, r) := s.1.readEncoded nonNull maxBytes
      (.read k out, r, s.2)
  | .hasEncoded => (.flag s.1.hasEncoded, s)

/-- The header of a well-formed packet; no more than 1452 bytes of a datagram are looked at. -/
def headerOf (d : List UInt8) : Option RtpHeader :=
  match parseRtpHeader (d.take kRtpMaxPacketBytes) (d.take kRtpMaxPacketBytes).length with
  | .ok h => some h
  | .error _ => none

/-- A header that is found was parsed. -/
theorem headerOf_eq_some {d : List UInt8} {h : RtpHeader} (hh : headerOf d = some h) :
    parseRtpHeader (d.take kRtpMaxPacketBytes) (d.take kRtpMaxPacketBytes).length = .ok h := by
  rw [headerOf] at hh
  split at hh
  · rename_i hparse
    rw [hparse, Option.some.inj hh]
  · cases hh

/-- Where none is found, parsing fails. -/
theorem headerOf_eq_none {d : List UInt8} (hh : headerOf d = none) :
    ∃ err, parseRtpHeader (d.take kRtpMaxPacketBytes) (d.take kRtpMaxPacketBytes).length = .error err := by
  rw [headerOf] at hh
  split at hh
  · cases hh
  · rename_i err hparse
    exact ⟨err, hparse⟩

/-- The datagram is an L16 packet to the receiver. -/
def isL16 (r : RtpReceiver) (d : List UInt8) : Bool :=
  (headerOf d).any fun h => r.treatsAsL16 h.payloadType

/-- The datagram is a well-formed packet, and no L16 packet to the receiver. -/
def isEncoded (r : RtpReceiver) (d : List UInt8) : Bool :=
  (headerOf d).any fun h => !r.treatsAsL16 h.payloadType

/-- Everything but the datagrams that are no L16 packets. -/
def keepsPcm (r : RtpReceiver) : RtpOp → Bool
  | .poll d => r.isL16 d
  | _ => true

/-- Everything but the datagrams that are no well-formed packets of another payload type. -/
def keepsEncoded (r : RtpReceiver) : RtpOp → Bool
  | .poll d => r.isEncoded d
  | _ => true

end RtpReceiver

/-- The calls of the PCM path. -/
def RtpOp.isPcmCall : RtpOp → Bool
  | .readFrames _ _ | .availableFrames | .format => true
  | _ => false

/-- The calls of the encoded path. -/
def RtpOp.isEncodedCall : RtpOp → Bool
  | .readEncoded _ _ | .hasEncoded => true
  | _ => false

namespace RtpReceiver

section Poll

variable [PCMFlow] {r : RtpReceiver} (hready : r.ready = true) (mem : RtpPollMemory) {d : List UInt8}

include hready

/-- Polling a well-formed packet dispatches what is behind its header. -/
theorem poll_headerOf {h : RtpHeader} (hh : headerOf d = some h) :
    (r.poll mem (Inbound.ofDatagram d)).2.1
      = r.dispatch h ((d.take kRtpMaxPacketBytes).drop h.payloadOffset) := by
  have hparse := headerOf_eq_some hh
  have hlen : ¬ (d.take kRtpMaxPacketBytes).length < kRtpHeaderBytes := fun hshort => by
    rw [parseRtpHeader, if_pos hshort] at hparse
    cases hparse
  have hd : d ≠ [] := by
    rintro rfl
    exact hlen (by decide)
  have hpoll := poll_ofDatagram hready mem hd
  rw [receive, if_neg hlen, hparse] at hpoll
  exact congrArg Prod.snd hpoll

/-- Polling anything else changes nothing but the last error. -/
theorem poll_malformed (hh : headerOf d = none) :
    ∃ error, (r.poll mem (Inbound.ofDatagram d)).2.1 = { r with error } := by
  rcases eq_or_ne d [] with rfl | hd
  · exact ⟨r.error, by rw [r.poll_none mem (show (Inbound.ofDatagram []).parsePacket ≤ 0 from le_rfl)]⟩
  · have hpoll := congrArg Prod.snd (poll_ofDatagram hready mem hd)
    obtain ⟨err, hparse⟩ := headerOf_eq_none hh
    rw [receive, hparse] at hpoll
    by_cases hlen : (d.take kRtpMaxPacketBytes).length < kRtpHeaderBytes
    · rw [if_pos hlen] at hpoll
      exact ⟨r.error, hpoll⟩
    · rw [if_neg hlen] at hpoll
      exact ⟨.badHeader, hpoll⟩

end Poll

/-- What is accepted are the well-formed packets. -/
theorem poll_accepts [PCMFlow] {r : RtpReceiver} (hready : r.ready = true) (mem : RtpPollMemory)
    (d : List UInt8) : (r.poll mem (Inbound.ofDatagram d)).1 = (headerOf d).isSome := by
  rcases eq_or_ne d [] with rfl | hd
  · rw [r.poll_none mem (show (Inbound.ofDatagram []).parsePacket ≤ 0 from le_rfl)]
    rfl
  · have hpoll := congrArg Prod.fst (poll_ofDatagram hready mem hd)
    dsimp only at hpoll
    rw [hpoll, receive, headerOf]
    cases hparse : parseRtpHeader (d.take kRtpMaxPacketBytes) (d.take kRtpMaxPacketBytes).length with
    | error err => split <;> rfl
    | ok h =>
      have hoffset := (parseRtpHeader_offset hparse).2
      have hk : kRtpHeaderBytes = 12 := rfl
      rw [if_neg (by omega)]
      rfl

/-! ## What each path depends on -/

/-- The receiver is ready, in the configuration of `r₀`. -/
structure ConfiguredAs (r₀ r : RtpReceiver) : Prop where
  ready : r.ready = true
  dynamicL16Pt : r.dynamicL16Pt = r₀.dynamicL16Pt
  dynamicL16Channels : r.dynamicL16Channels = r₀.dynamicL16Channels

/-- They read the same types as L16. -/
theorem ConfiguredAs.treatsAsL16 {r₀ r : RtpReceiver} (h : ConfiguredAs r₀ r) (pt : UInt8) :
    r.treatsAsL16 pt = r₀.treatsAsL16 pt := by
  simp [RtpReceiver.treatsAsL16, h.dynamicL16Pt, h.dynamicL16Channels]

/-- They take a packet to hold the same. -/
theorem ConfiguredAs.l16Channels {r₀ r : RtpReceiver} (h : ConfiguredAs r₀ r) (pt : UInt8) :
    r.l16Channels pt = r₀.l16Channels pt := by
  simp [RtpReceiver.l16Channels, h.dynamicL16Pt, h.dynamicL16Channels]

/-- Two receivers are the same to the calls of the PCM path. -/
structure SamePcm (r₀ r r' : RtpReceiver) : Prop where
  left : ConfiguredAs r₀ r
  right : ConfiguredAs r₀ r'
  format : r.format = r'.format
  queue : r.queue = r'.queue

/-- Two receivers are the same to the calls of the encoded path. -/
structure SameEncoded (r₀ r r' : RtpReceiver) : Prop where
  left : ConfiguredAs r₀ r
  right : ConfiguredAs r₀ r'
  encoded : r.encoded = r'.encoded
  encodedBytes : r.encodedBytes = r'.encodedBytes
  encodedReady : r.encodedReady = r'.encodedReady

section Paths

variable {r₀ r r' : RtpReceiver}

/-- Only the two fields that declare a dynamic type, and `ready`, make up the configuration. -/
theorem ConfiguredAs.congr (h : ConfiguredAs r₀ r) (hready : r'.ready = r.ready)
    (hpt : r'.dynamicL16Pt = r.dynamicL16Pt) (hch : r'.dynamicL16Channels = r.dynamicL16Channels) :
    ConfiguredAs r₀ r' :=
  ⟨hready.trans h.ready, hpt.trans h.dynamicL16Pt, hch.trans h.dynamicL16Channels⟩

/-- Holding a packet does not show on the PCM path. -/
theorem SamePcm.hold (h : SamePcm r₀ r r') (hd : RtpHeader) (payload : List UInt8) :
    SamePcm r₀ ((r.noteHeader hd).hold payload) r' :=
  ⟨h.left.congr rfl rfl rfl, h.right, h.format, h.queue⟩

variable [PCMFlow]

/-- Queueing the same packet leaves the PCM path the same. -/
theorem SamePcm.queueL16 (h : SamePcm r₀ r r') (hd : RtpHeader) (payload : List UInt8) :
    SamePcm r₀ ((r.noteHeader hd).queueL16 hd.payloadType payload)
      ((r'.noteHeader hd).queueL16 hd.payloadType payload) := by
  have hfmt : (r.noteHeader hd).l16Format hd.payloadType
      = (r'.noteHeader hd).l16Format hd.payloadType := by
    have hch : (r.noteHeader hd).l16Channels hd.payloadType
        = (r'.noteHeader hd).l16Channels hd.payloadType :=
      (h.left.l16Channels hd.payloadType).trans (h.right.l16Channels hd.payloadType).symm
    have hf : (r.noteHeader hd).format = (r'.noteHeader hd).format := h.format
    rw [l16Format, l16Format, hf, hch]
  refine ⟨h.left.congr rfl rfl rfl, h.right.congr rfl rfl rfl, hfmt, ?_⟩
  show r.queue.push _ = r'.queue.push _
  rw [h.queue, hfmt]

/-- Queueing a packet does not show on the encoded path. -/
theorem SameEncoded.queueL16 (h : SameEncoded r₀ r r') (hd : RtpHeader) (payload : List UInt8) :
    SameEncoded r₀ ((r.noteHeader hd).queueL16 hd.payloadType payload) r' :=
  ⟨h.left.congr rfl rfl rfl, h.right, h.encoded, h.encodedBytes, h.encodedReady⟩

omit [PCMFlow] in
/-- Holding the same packet leaves the encoded path the same. -/
theorem SameEncoded.hold (h : SameEncoded r₀ r r') (hd : RtpHeader) (payload : List UInt8) :
    SameEncoded r₀ ((r.noteHeader hd).hold payload) ((r'.noteHeader hd).hold payload) := by
  refine ⟨h.left.congr rfl rfl rfl, h.right.congr rfl rfl rfl, ?_, rfl, rfl⟩
  show r.encoded.blit 0 payload = r'.encoded.blit 0 payload
  rw [h.encoded]

/-! ## One call -/

/-- A datagram that is no L16 packet does not show on the PCM path. -/
theorem SamePcm.poll_other (h : SamePcm r₀ r r') (mem : RtpPollMemory) {d : List UInt8}
    (hd : r₀.isL16 d = false) : SamePcm r₀ (r.poll mem (Inbound.ofDatagram d)).2.1 r' := by
  cases hh : headerOf d with
  | none =>
    obtain ⟨error, hpoll⟩ := poll_malformed h.left.ready mem hh
    rw [hpoll]
    exact ⟨h.left.congr rfl rfl rfl, h.right, h.format, h.queue⟩
  | some hdr =>
    have hother : ¬ r.treatsAsL16 hdr.payloadType = true := by
      rw [h.left.treatsAsL16]
      simpa [isL16, hh] using hd
    rw [poll_headerOf h.left.ready mem hh, dispatch, if_neg hother]
    exact h.hold hdr _

/-- An L16 packet leaves the PCM path the same. -/
theorem SamePcm.poll_l16 (h : SamePcm r₀ r r') (mem mem' : RtpPollMemory) {d : List UInt8}
    (hd : r₀.isL16 d = true) :
    SamePcm r₀ (r.poll mem (Inbound.ofDatagram d)).2.1 (r'.poll mem' (Inbound.ofDatagram d)).2.1 := by
  cases hh : headerOf d with
  | none => simp [isL16, hh] at hd
  | some hdr =>
    have hl16 : r₀.treatsAsL16 hdr.payloadType = true := by simpa [isL16, hh] using hd
    rw [poll_headerOf h.left.ready mem hh, poll_headerOf h.right.ready mem' hh, dispatch, dispatch,
      h.left.treatsAsL16, h.right.treatsAsL16, if_pos hl16, if_pos hl16]
    exact h.queueL16 hdr _

/-- A datagram that is no packet of another payload type does not show on the encoded path. -/
theorem SameEncoded.poll_other (h : SameEncoded r₀ r r') (mem : RtpPollMemory) {d : List UInt8}
    (hd : r₀.isEncoded d = false) : SameEncoded r₀ (r.poll mem (Inbound.ofDatagram d)).2.1 r' := by
  cases hh : headerOf d with
  | none =>
    obtain ⟨error, hpoll⟩ := poll_malformed h.left.ready mem hh
    rw [hpoll]
    exact ⟨h.left.congr rfl rfl rfl, h.right, h.encoded, h.encodedBytes, h.encodedReady⟩
  | some hdr =>
    have hl16 : r.treatsAsL16 hdr.payloadType = true := by
      rw [h.left.treatsAsL16]
      simpa [isEncoded, hh] using hd
    rw [poll_headerOf h.left.ready mem hh, dispatch, if_pos hl16]
    exact h.queueL16 hdr _

/-- A packet of another payload type leaves the encoded path the same. -/
theorem SameEncoded.poll_encoded (h : SameEncoded r₀ r r') (mem mem' : RtpPollMemory) {d : List UInt8}
    (hd : r₀.isEncoded d = true) :
    SameEncoded r₀ (r.poll mem (Inbound.ofDatagram d)).2.1
      (r'.poll mem' (Inbound.ofDatagram d)).2.1 := by
  cases hh : headerOf d with
  | none => simp [isEncoded, hh] at hd
  | some hdr =>
    have hother : ¬ r₀.treatsAsL16 hdr.payloadType = true := by simpa [isEncoded, hh] using hd
    rw [poll_headerOf h.left.ready mem hh, poll_headerOf h.right.ready mem' hh, dispatch, dispatch,
      h.left.treatsAsL16, h.right.treatsAsL16, if_neg hother, if_neg hother]
    exact h.hold hdr _

end Paths

section Calls

variable [PCMFlow] {r₀ : RtpReceiver} {s t : RtpReceiver × RtpPollMemory}

/-- A call that the PCM path keeps is answered the same way, if it is one of that path. -/
theorem SamePcm.answer (h : SamePcm r₀ s.1 t.1) {op : RtpOp} (hop : r₀.keepsPcm op = true) :
    (op.isPcmCall = true → (answer s op).1 = (answer t op).1) ∧
      SamePcm r₀ (answer s op).2.1 (answer t op).2.1 := by
  have hready := h.left.ready.trans h.right.ready.symm
  cases op with
  | poll d => exact ⟨fun hcall => (by cases hcall), h.poll_l16 s.2 t.2 hop⟩
  | readFrames nonNull frameCount =>
    have hread : readQueue s.1.ready nonNull s.1.format.bytesPerFrame s.1.queue frameCount
        = readQueue t.1.ready nonNull t.1.format.bytesPerFrame t.1.queue frameCount := by
      rw [hready, h.format, h.queue]
    constructor
    · intro _
      simp only [RtpReceiver.answer, readFrames, hread]
    · refine ⟨h.left.congr rfl rfl rfl, h.right.congr rfl rfl rfl, h.format, ?_⟩
      simp only [RtpReceiver.answer, readFrames, hread]
  | availableFrames =>
    have hcount : s.1.availableFrames = t.1.availableFrames := by
      simp only [RtpReceiver.availableFrames, h.format, h.queue]
    exact ⟨fun _ => congrArg RtpAnswer.count hcount, h⟩
  | format => exact ⟨fun _ => congrArg RtpAnswer.format h.format, h⟩
  | readEncoded nonNull maxBytes =>
    refine ⟨fun hcall => (by cases hcall), ?_⟩
    -- reading a payload changes the slot only
    have hkept : ∀ r : RtpReceiver, (r.readEncoded nonNull maxBytes).2.2.ready = r.ready ∧
        (r.readEncoded nonNull maxBytes).2.2.dynamicL16Pt = r.dynamicL16Pt ∧
        (r.readEncoded nonNull maxBytes).2.2.dynamicL16Channels = r.dynamicL16Channels ∧
        (r.readEncoded nonNull maxBytes).2.2.format = r.format ∧
        (r.readEncoded nonNull maxBytes).2.2.queue = r.queue := fun r => by
      rw [readEncoded]
      split <;> simp
    obtain ⟨h1, h2, h3, h4, h5⟩ := hkept s.1
    obtain ⟨h1', h2', h3', h4', h5'⟩ := hkept t.1
    exact ⟨h.left.congr h1 h2 h3, h.right.congr h1' h2' h3', h4.trans (h.format.trans h4'.symm),
      h5.trans (h.queue.trans h5'.symm)⟩
  | hasEncoded => exact ⟨fun hcall => (by cases hcall), h⟩

/-- A call that the encoded path keeps is answered the same way, if it is one of that path. -/
theorem SameEncoded.answer (h : SameEncoded r₀ s.1 t.1) {op : RtpOp} (hop : r₀.keepsEncoded op = true) :
    (op.isEncodedCall = true → (answer s op).1 = (answer t op).1) ∧
      SameEncoded r₀ (answer s op).2.1 (answer t op).2.1 := by
  cases op with
  | poll d => exact ⟨fun hcall => (by cases hcall), h.poll_encoded s.2 t.2 hop⟩
  | readFrames nonNull frameCount =>
    exact ⟨fun hcall => (by cases hcall), h.left.congr rfl rfl rfl, h.right.congr rfl rfl rfl, h.encoded,
      h.encodedBytes, h.encodedReady⟩
  | availableFrames => exact ⟨fun hcall => (by cases hcall), h⟩
  | format => exact ⟨fun hcall => (by cases hcall), h⟩
  | readEncoded nonNull maxBytes =>
    simp only [RtpReceiver.answer, readEncoded, h.encoded, h.encodedBytes, h.encodedReady]
    -- both reads are refused, or none
    cases hrefused : (!t.1.encodedReady || !nonNull || decide (maxBytes < t.1.encodedBytes)) with
    | true =>
      simp only [if_true]
      exact ⟨fun _ => trivial, h⟩
    | false =>
      simp only [Bool.false_eq_true, if_false]
      exact ⟨fun _ => trivial, h.left.congr rfl rfl rfl, h.right.congr rfl rfl rfl, rfl, rfl, rfl⟩
  | hasEncoded => exact ⟨fun _ => congrArg RtpAnswer.flag h.encodedReady, h⟩

end Calls

/-- **The two paths do not interfere.** On a ready receiver, whatever arrives and whatever is called, the
calls of the PCM path return what they return when every datagram is removed that is no L16 packet, and
the calls of the encoded path what they return when every datagram is removed that is no well-formed
packet of another payload type. -/
theorem rtp_path_independence [PCMFlow] {r : RtpReceiver} (hready : r.ready = true) (mem : RtpPollMemory)
    (ops : List RtpOp) :
    (transcript answer (r, mem) ops).filter (fun e => e.1.isPcmCall)
        = (transcript answer (r, mem) (ops.filter r.keepsPcm)).filter (fun e => e.1.isPcmCall) ∧
      (transcript answer (r, mem) ops).filter (fun e => e.1.isEncodedCall)
        = (transcript answer (r, mem) (ops.filter r.keepsEncoded)).filter
            (fun e => e.1.isEncodedCall) := by
  have hconf : ConfiguredAs r r := ⟨hready, rfl, rfl⟩
  constructor
  · apply transcript_purge (V := fun s t => SamePcm r s.1 t.1)
    · intro op hcall
      cases op <;> first | rfl | cases hcall
    · intro s t op hop h
      cases op with
      | poll d => exact h.poll_other s.2 hop
      | _ => cases hop
    · intro s t op hop h
      exact h.answer hop
    · exact ⟨hconf, hconf, rfl, rfl⟩
  · apply transcript_purge (V := fun s t => SameEncoded r s.1 t.1)
    · intro op hcall
      cases op <;> first | rfl | cases hcall
    · intro s t op hop h
      cases op with
      | poll d => exact h.poll_other s.2 hop
      | _ => cases hop
    · intro s t op hop h
      exact h.answer hop
    · exact ⟨hconf, hconf, rfl, rfl, rfl⟩

/-- An L16 packet and a PCMU packet, polled before either is read. -/
theorem rtp_path_independence_mixed :
    let s : RtpReceiver × RtpPollMemory := ((begin {} 1).2, {})
    let ops : List RtpOp :=
      [.poll (rtpHeaderBytes { payloadType := 11 } ++ [0, 1]),
        .poll (rtpHeaderBytes { payloadType := 0 } ++ [7]), .readFrames true 4, .readEncoded true 160]
    (transcript (@answer PCMFlow.documented) s ops).filter (fun e => e.1.isPcmCall)
        = (transcript (@answer PCMFlow.documented) s (ops.filter s.1.keepsPcm)).filter
            (fun e => e.1.isPcmCall) ∧
      (transcript (@answer PCMFlow.documented) s ops).filter (fun e => e.1.isEncodedCall)
        = (transcript (@answer PCMFlow.documented) s (ops.filter s.1.keepsEncoded)).filter
            (fun e => e.1.isEncodedCall) :=
  @rtp_path_independence PCMFlow.documented _ rfl _ _

end RtpReceiver

end PcmFlowUdp
