import PcmFlowUdp.ByteTransport.Records
import PcmFlowUdp.Rtp.Protocol

/-! # RFC 3550 packets

`RtpPacket` is a well-formed RTP version-2 packet with any CSRC list, header extension and padding, and
`RtpPacket.wire` is its octets. The encoder writes none of the three; the parser has to find its way past
the first two.

* **`RtpPacket.parse`** — the parser finds where the payload begins. -/

namespace PcmFlowUdp

open ByteTransport

/-- The octets of a 32-bit word in network byte order. -/
def be32 (v : UInt32) : List UInt8 := [byte32 24 v, byte32 16 v, byte32 8 v, byte32 0 v]

/-- A 32-bit word takes four bytes. -/
theorem length_be32 (v : UInt32) : (be32 v).length = 4 := rfl

/-- A header extension: a profile number and a counted list of words. -/
structure RtpExtension where
  profile : UInt16
  words : List UInt32
  /-- The count takes 16 bits. -/
  length_lt : words.length < 65536

/-- Padding: filler octets, and a last octet that counts them and itself. -/
structure RtpPadding where
  filler : List UInt8
  /-- The count takes 8 bits. -/
  length_lt : filler.length < 255

/-- A well-formed RTP version-2 packet. -/
structure RtpPacket where
  marker : Bool
  payloadType : UInt8
  payloadType_le : payloadType ≤ 0x7F
  sequenceNumber : UInt16
  timestamp : UInt32
  ssrc : UInt32
  csrcs : List UInt32
  /-- The CSRC count takes four bits. -/
  csrcs_le : csrcs.length < 16
  extension : Option RtpExtension
  payload : List UInt8
  padding : Option RtpPadding

/-- The bytes of an extension. -/
def RtpExtension.wire (e : RtpExtension) : List UInt8 :=
  [hi16 e.profile, lo16 e.profile, hi16 (UInt16.ofNat e.words.length),
    lo16 (UInt16.ofNat e.words.length)] ++ e.words.flatMap be32

/-- The bytes of the padding. -/
def RtpPadding.wire (p : RtpPadding) : List UInt8 :=
  p.filler ++ [UInt8.ofNat (p.filler.length + 1)]

namespace RtpPacket

/-- Octet 0: version, padding bit, extension bit, CSRC count. -/
def firstOctet (padding extension : Bool) (csrcCount : UInt8) : UInt8 :=
  0x80 ||| (if padding then 0x20 else 0x00) ||| (if extension then 0x10 else 0x00) ||| csrcCount

/-- The fixed header. -/
def fixed (p : RtpPacket) : List UInt8 :=
  [firstOctet p.padding.isSome p.extension.isSome (UInt8.ofNat p.csrcs.length),
    markerByte p.marker p.payloadType, hi16 p.sequenceNumber, lo16 p.sequenceNumber] ++
    be32 p.timestamp ++ be32 p.ssrc

/-- The header extension on the wire, empty if there is none. -/
def extensionBytes (p : RtpPacket) : List UInt8 := (p.extension.map RtpExtension.wire).getD []

/-- The padding on the wire, empty if there is none. -/
def paddingBytes (p : RtpPacket) : List UInt8 := (p.padding.map RtpPadding.wire).getD []

/-- Everything in front of the payload. -/
def front (p : RtpPacket) : List UInt8 := p.fixed ++ p.csrcs.flatMap be32 ++ p.extensionBytes

/-- The packet on the wire. -/
def wire (p : RtpPacket) : List UInt8 := p.front ++ (p.payload ++ p.paddingBytes)

/-- A packet without CSRCs, extension and padding. -/
def plain (payloadType : UInt8) (h : payloadType ≤ 0x7F) (payload : List UInt8) : RtpPacket where
  marker := false
  payloadType
  payloadType_le := h
  sequenceNumber := 0
  timestamp := 0
  ssrc := 0
  csrcs := []
  csrcs_le := by decide
  extension := none
  payload
  padding := none

/-- A packet without padding has no padding bytes. -/
theorem paddingBytes_of_none {p : RtpPacket} (h : p.padding = none) : p.paddingBytes = [] := by
  rw [paddingBytes, h]
  rfl

/-- A plain packet is its header and its payload. -/
theorem length_wire_plain (payloadType : UInt8) (h : payloadType ≤ 0x7F) (payload : List UInt8) :
    (plain payloadType h payload).wire.length = kRtpHeaderBytes + payload.length := by
  have hwire : (plain payloadType h payload).wire
      = (plain payloadType h payload).fixed ++ [] ++ [] ++ (payload ++ []) := rfl
  rw [hwire, List.append_nil, List.append_nil, List.append_nil, List.length_append]
  rfl

/-- Octet 0 yields its four fields back. -/
theorem firstOctet_fields : ∀ (padding extension : Bool) (n : Fin 16),
    (firstOctet padding extension (UInt8.ofNat n) >>> 6) &&& 0x03 = 2 ∧
      (firstOctet padding extension (UInt8.ofNat n) &&& 0x20 != 0) = padding ∧
      (firstOctet padding extension (UInt8.ofNat n) &&& 0x10 != 0) = extension ∧
      firstOctet padding extension (UInt8.ofNat n) &&& 0x0F = UInt8.ofNat n := by
  decide +kernel

/-- The header that the parser reports. -/
def header (p : RtpPacket) : RtpHeader where
  padding := p.padding.isSome
  extension := p.extension.isSome
  csrcCount := UInt8.ofNat p.csrcs.length
  marker := p.marker
  payloadType := p.payloadType
  sequenceNumber := p.sequenceNumber
  timestamp := p.timestamp
  ssrc := p.ssrc
  payloadOffset := p.front.length

/-- The fixed header of the packet is read back. -/
theorem fixedHeader_wire (p : RtpPacket) :
    fixedHeader p.wire = { p.header with payloadOffset := kRtpHeaderBytes } := by
  obtain ⟨hversion, hpadding, hextension, hcount⟩ :=
    firstOctet_fields p.padding.isSome p.extension.isSome ⟨p.csrcs.length, p.csrcs_le⟩
  have hmarker := markerByte_marker p.marker p.payloadType_le
  have hpt := markerByte_payloadType p.marker p.payloadType_le
  simp only [fixedHeader, wire, front, fixed, header, be32, byteAt, List.cons_append, List.nil_append,
    List.getD_cons_zero, List.getD_cons_succ, word16_hi_lo, word32_bytes, hversion, hpadding,
    hextension, hcount, hmarker, hpt]

/-- A CSRC takes four bytes. -/
theorem length_csrcs (p : RtpPacket) : (p.csrcs.flatMap be32).length = p.csrcs.length * 4 :=
  length_flatMap_uniform length_be32 _

/-- What lies in front of the payload. -/
theorem length_front (p : RtpPacket) :
    p.front.length = kRtpHeaderBytes + p.csrcs.length * 4 + p.extensionBytes.length := by
  rw [front, List.length_append, List.length_append, length_csrcs]
  rfl

/-- A packet is its front, its payload and its padding. -/
theorem length_wire (p : RtpPacket) :
    p.wire.length = p.front.length + (p.payload ++ p.paddingBytes).length := by
  rw [wire, List.length_append]

/-- A byte behind a list. -/
theorem byteAt_append_right (a b : List UInt8) (i : ℕ) :
    byteAt (a ++ b) (a.length + i) = byteAt b i := by
  rw [byteAt, byteAt, List.getD_append_right _ _ _ _ (Nat.le_add_right _ _),
    Nat.add_sub_cancel_left]

/-- A header extension takes four octets and counts its words. -/
theorem extension_spec (p : RtpPacket) {e : RtpExtension} (h : p.extension = some e) :
    p.extensionBytes.length = 4 + e.words.length * 4 ∧
      (word16 (byteAt p.wire (kRtpHeaderBytes + p.csrcs.length * 4 + 2))
        (byteAt p.wire (kRtpHeaderBytes + p.csrcs.length * 4 + 3))).toNat = e.words.length := by
  have hext : p.extensionBytes = e.wire := by rw [extensionBytes, h]; rfl
  have hbase : (p.fixed ++ p.csrcs.flatMap be32).length
      = kRtpHeaderBytes + p.csrcs.length * 4 := by
    rw [List.length_append, length_csrcs]
    rfl
  have hbyte : ∀ i, byteAt p.wire (kRtpHeaderBytes + p.csrcs.length * 4 + i)
      = byteAt (e.wire ++ (p.payload ++ p.paddingBytes)) i := by
    intro i
    rw [wire, front, List.append_assoc, hext, ← hbase, byteAt_append_right]
  constructor
  · rw [hext, RtpExtension.wire, List.length_append, length_flatMap_uniform length_be32]
    rfl
  · rw [hbyte, hbyte]
    show (word16 (hi16 (UInt16.ofNat e.words.length)) (lo16 (UInt16.ofNat e.words.length))).toNat = _
    rw [word16_hi_lo, UInt16.toNat_ofNat']
    exact Nat.mod_eq_of_lt e.length_lt

/-- **The parser finds the payload** behind any CSRCs and extension, unless the packet is cut off in
front of it. -/
theorem parse (p : RtpPacket) (len : ℕ) :
    parseRtpHeader p.wire len
      = if len < p.front.length then .error .tooShort else .ok p.header := by
  have hfront := p.length_front
  have hcount : (UInt8.ofNat p.csrcs.length).toNat = p.csrcs.length := by
    rw [UInt8.toNat_ofNat']
    exact Nat.mod_eq_of_lt (by have := p.csrcs_le; omega)
  unfold parseRtpHeader
  by_cases hfixed : len < kRtpHeaderBytes
  · rw [if_pos hfixed, if_pos (by omega)]
  rw [if_neg hfixed, fixedHeader_wire]
  dsimp only [header]
  rw [if_neg (by decide), hcount]
  by_cases hcsrcs : len < kRtpHeaderBytes + p.csrcs.length * 4
  · rw [if_pos hcsrcs, if_pos (by omega)]
  rw [if_neg hcsrcs]
  -- without an extension the payload follows the CSRCs
  cases hext : p.extension with
  | none =>
    have hnil : p.extensionBytes = [] := by rw [extensionBytes, hext]; rfl
    rw [hnil, List.length_nil, Nat.add_zero] at hfront
    rw [if_neg (by simp), hfront, if_neg hcsrcs]
  | some e =>
    obtain ⟨hlen, hwords⟩ := p.extension_spec hext
    rw [hlen] at hfront
    rw [if_pos (show (some e).isSome = true from rfl), hwords]
    -- cut off in the extension header, or behind it
    by_cases hhead : len < kRtpHeaderBytes + p.csrcs.length * 4 + 4
    · rw [if_pos hhead, if_pos (by omega)]
    rw [if_neg hhead, hfront]

/-- Payload and padding of a packet of at most 1452 octets respect the payload cap. -/
theorem length_payload_le (p : RtpPacket) (hlen : p.wire.length ≤ kRtpMaxPacketBytes) :
    (p.payload ++ p.paddingBytes).length ≤ kRtpMaxPayloadBytes := by
  have hmax : kRtpMaxPacketBytes = 12 + kRtpMaxPayloadBytes := rfl
  have hfixed : p.fixed.length = 12 := rfl
  rw [wire, front, List.length_append, List.length_append, List.length_append, hfixed] at hlen
  omega

end RtpPacket

end PcmFlowUdp
