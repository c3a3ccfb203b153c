import Mathlib.Data.Fintype.Basic
import PcmFlowUdp.ByteTransport.Buffer
import PcmFlowUdp.ByteTransport.ByteOrder

/-! # RTP fixed-header encode and parse

`RtpProtocol.h` / `RtpProtocol.cpp`: the 12-byte fixed header of RFC 3550 in network byte order. The
encoder always writes V=2, P=0, X=0, CC=0; the parser accepts CSRCs and a header extension and reports
where the payload begins.

The parser reads memory by index (`byteAt`) and is told how many bytes were received. It looks at no
byte beyond that (`parseRtpHeader_congr`), the payload offset it reports is inside them
(`parseRtpHeader_offset`), and it inverts the encoder (`parseRtpHeader_encoded`). -/

namespace PcmFlowUdp

open ByteTransport

/-- `kRtpHeaderBytes`: the size of the fixed header. -/
def kRtpHeaderBytes : ℕ := 12

/-- `kRtpMaxPayloadBytes`: the payload cap. -/
def kRtpMaxPayloadBytes : ℕ := 1440

/-- `kRtpMaxPacketBytes`: the largest packet. -/
def kRtpMaxPacketBytes : ℕ := kRtpHeaderBytes + kRtpMaxPayloadBytes

/-- `RtpPayloadType::L16Stereo`. -/
def ptL16Stereo : UInt8 := 10

/-- `RtpPayloadType::L16Mono`. -/
def ptL16Mono : UInt8 := 11

/-- `RtpHeader`: the fields of the fixed header, and where the payload begins. -/
structure RtpHeader where
  version : UInt8 := 2
  padding : Bool := false
  extension : Bool := false
  csrcCount : UInt8 := 0
  marker : Bool := false
  payloadType : UInt8 := 0
  sequenceNumber : UInt16 := 0
  timestamp : UInt32 := 0
  ssrc : UInt32 := 0
  /-- Computed by `parseRtpHeader`, ignored by `encodeRtpHeader`. -/
  payloadOffset : ℕ := kRtpHeaderBytes
  deriving DecidableEq, Repr

/-- The failures of `RtpParseResult`; its `Ok` is `Except.ok`. -/
inductive RtpParseResult
  | tooShort
  | badVersion
  deriving DecidableEq, Repr

/-! ## The encoder -/

/-- Header byte 1: the marker bit and the payload type. -/
def markerByte (marker : Bool) (payloadType : UInt8) : UInt8 :=
  (if marker then 0x80 else 0x00) ||| (payloadType &&& 0x7F)

/-- The twelve bytes that `encodeRtpHeader` writes. -/
def rtpHeaderBytes (h : RtpHeader) : List UInt8 :=
  [0x80, markerByte h.marker h.payloadType,
    hi16 h.sequenceNumber, lo16 h.sequenceNumber,
    byte32 24 h.timestamp, byte32 16 h.timestamp, byte32 8 h.timestamp, byte32 0 h.timestamp,
    byte32 24 h.ssrc, byte32 16 h.ssrc, byte32 8 h.ssrc, byte32 0 h.ssrc]

/-- `encodeRtpHeader`: pack the fixed header at the start of `out`; refuse a payload type over 7
bits. -/
def encodeRtpHeader {n : ℕ} (h : RtpHeader) (out : Buffer UInt8 n) : Bool × Buffer UInt8 n :=
  if h.payloadType > 0x7F then (false, out)
  else (true, out.blit 0 (rtpHeaderBytes h))

/-- A header takes twelve bytes. -/
@[simp] theorem length_rtpHeaderBytes (h : RtpHeader) : (rtpHeaderBytes h).length = 12 := rfl

/-! ## The parser -/

/-- The fields of the fixed header at the start of `mem`. -/
def fixedHeader (mem : List UInt8) : RtpHeader where
  version := (byteAt mem 0 >>> 6) &&& 0x03
  padding := byteAt mem 0 &&& 0x20 != 0
  extension := byteAt mem 0 &&& 0x10 != 0
  csrcCount := byteAt mem 0 &&& 0x0F
  marker := byteAt mem 1 &&& 0x80 != 0
  payloadType := byteAt mem 1 &&& 0x7F
  sequenceNumber := word16 (byteAt mem 2) (byteAt mem 3)
  timestamp := word32 (byteAt mem 4) (byteAt mem 5) (byteAt mem 6) (byteAt mem 7)
  ssrc := word32 (byteAt mem 8) (byteAt mem 9) (byteAt mem 10) (byteAt mem 11)

/-- `parseRtpHeader`: parse the header of the packet in the first `len` bytes of `mem`. -/
def parseRtpHeader (mem : List UInt8) (len : ℕ) : Except RtpParseResult RtpHeader :=
  if len < kRtpHeaderBytes then .error .tooShort
  else
    let h := fixedHeader mem
    if h.version ≠ 2 then .error .badVersion
    else
      -- CSRCs occupy four bytes each after the fixed header
      let offset := kRtpHeaderBytes + h.csrcCount.toNat * 4
      if len < offset then .error .tooShort
      else if h.extension then
        if len < offset + 4 then .error .tooShort
        else
          let extWords := word16 (byteAt mem (offset + 2)) (byteAt mem (offset + 3))
          let extBytes := 4 + extWords.toNat * 4
          if len < offset + extBytes then .error .tooShort
          else .ok { h with payloadOffset := offset + extBytes }
      else .ok { h with payloadOffset := offset }

/-- The fixed header is read from the first twelve bytes. -/
theorem fixedHeader_congr {mem mem' : List UInt8} {len : ℕ} (h : mem.take len = mem'.take len)
    (hlen : 12 ≤ len) : fixedHeader mem = fixedHeader mem' := by
  have hb : ∀ i < 12, byteAt mem i = byteAt mem' i := fun i hi => byteAt_congr h (by omega)
  simp only [fixedHeader, hb 0 (by omega), hb 1 (by omega), hb 2 (by omega), hb 3 (by omega),
    hb 4 (by omega), hb 5 (by omega), hb 6 (by omega), hb 7 (by omega), hb 8 (by omega),
    hb 9 (by omega), hb 10 (by omega), hb 11 (by omega)]

/-- **No byte at or past `len` is examined.** -/
theorem parseRtpHeader_congr {mem mem' : List UInt8} {len : ℕ}
    (h : mem.take len = mem'.take len) : parseRtpHeader mem len = parseRtpHeader mem' len := by
  unfold parseRtpHeader
  by_cases hlen : len < kRtpHeaderBytes
  · rw [if_pos hlen, if_pos hlen]
  · rw [if_neg hlen, if_neg hlen, fixedHeader_congr h (Nat.not_lt.mp hlen)]
    by_cases hext : len < kRtpHeaderBytes + (fixedHeader mem').csrcCount.toNat * 4 + 4
    · simp only [if_pos hext]
    · -- the extension length is only read once four bytes of it are known to be there
      simp only [if_neg hext]
      rw [byteAt_congr h (by omega), byteAt_congr h (by omega)]

/-- The header that the parser accepts is the fixed header with a payload offset inside the packet. -/
theorem parseRtpHeader_offset {mem : List UInt8} {len : ℕ} {h : RtpHeader}
    (hok : parseRtpHeader mem len = .ok h) :
    h = { fixedHeader mem with payloadOffset := h.payloadOffset } ∧
      12 ≤ h.payloadOffset ∧ h.payloadOffset ≤ len := by
  have hk : kRtpHeaderBytes = 12 := rfl
  simp only [parseRtpHeader] at hok
  split at hok
  · cases hok
  split at hok
  · cases hok
  split at hok
  · cases hok
  split at hok
  · -- an extension header follows the CSRCs
    split at hok
    · cases hok
    split at hok
    · cases hok
    obtain rfl := Except.ok.inj hok
    exact ⟨rfl, by dsimp only; omega, by dsimp only; omega⟩
  · obtain rfl := Except.ok.inj hok
    exact ⟨rfl, by dsimp only; omega, by dsimp only; omega⟩

/-! ## Round trip -/

/-- The marker byte yields its two fields back. -/
theorem markerByte_fields :
    ∀ (m : Bool) (pt : Fin 128), ((markerByte m (UInt8.ofNat pt) &&& 0x80 != 0) = m) ∧
      markerByte m (UInt8.ofNat pt) &&& 0x7F = UInt8.ofNat pt := by
  decide +kernel

/-- The marker is read back. -/
theorem markerByte_marker (m : Bool) {pt : UInt8} (h : pt ≤ 0x7F) :
    (markerByte m pt &&& 0x80 != 0) = m := by
  have hlt : pt.toNat < 128 := Nat.lt_succ_of_le (UInt8.le_iff_toNat_le.mp h)
  simpa using (markerByte_fields m ⟨pt.toNat, hlt⟩).1

/-- So is the payload type. -/
theorem markerByte_payloadType (m : Bool) {pt : UInt8} (h : pt ≤ 0x7F) :
    markerByte m pt &&& 0x7F = pt := by
  have hlt : pt.toNat < 128 := Nat.lt_succ_of_le (UInt8.le_iff_toNat_le.mp h)
  simpa using (markerByte_fields m ⟨pt.toNat, hlt⟩).2

/-- The header that the parser reports for an encoded one: the caller's marker, payload type, sequence
number, timestamp and SSRC, no CSRC, extension or padding, payload right behind. -/
def RtpHeader.emitted (h : RtpHeader) : RtpHeader :=
  { marker := h.marker, payloadType := h.payloadType, sequenceNumber := h.sequenceNumber,
    timestamp := h.timestamp, ssrc := h.ssrc }

/-- So is the whole header. -/
theorem fixedHeader_encoded {h : RtpHeader} (hpt : h.payloadType ≤ 0x7F) (rest : List UInt8) :
    fixedHeader (rtpHeaderBytes h ++ rest) = h.emitted := by
  have hm := markerByte_marker h.marker hpt
  have ht := markerByte_payloadType h.marker hpt
  simp only [fixedHeader, rtpHeaderBytes, byteAt, List.cons_append, List.getD_cons_zero,
    List.getD_cons_succ, word16_hi_lo, word32_bytes, hm, ht]
  rfl

/-- **The parser inverts the encoder**, whatever follows the header. -/
theorem parseRtpHeader_encoded {h : RtpHeader} (hpt : h.payloadType ≤ 0x7F) (rest : List UInt8)
    {len : ℕ} (hlen : 12 ≤ len) :
    parseRtpHeader (rtpHeaderBytes h ++ rest) len = .ok h.emitted := by
  have hlt : ¬ len < kRtpHeaderBytes := Nat.not_lt.mpr hlen
  have hoff : ¬ len < kRtpHeaderBytes + h.emitted.csrcCount.toNat * 4 := hlt
  unfold parseRtpHeader
  rw [fixedHeader_encoded hpt, if_neg hlt]
  simp only [if_neg hoff]
  rfl

end PcmFlowUdp
