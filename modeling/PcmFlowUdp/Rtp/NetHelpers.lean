import PcmFlowUdp.ByteTransport.PythonBytes
import PcmFlowUdp.Rtp.HeaderGrammar

/-! # The Python reference of the RTP header

`tests/net_helpers/rtp.py` encodes and parses RTP headers a second time, in Python, and the tests let the two
implementations talk to each other.

* **`NetHelpers.parseRtpHeader_eq`**, **`NetHelpers.encodeRtpHeader_eq`** — the Python functions against the
  grammar and against the twelve octets of the C++ encoder;
* **`rtp_codecs_agree`** — the two parsers agree on every byte string, the two encoders on every header. -/

namespace PcmFlowUdp

open ByteTransport

namespace NetHelpers

open Python

/-! ## `rtp.py` -/

/-- `RTP_HEADER_BYTES`. -/
def rtpHeaderBytes : ℤ := 12

/-- `RtpHeader`: the fields are Python integers of any size. -/
structure RtpHeader where
  version : ℤ := 2
  padding : Bool := false
  extension : Bool := false
  csrcCount : ℤ := 0
  marker : Bool := false
  payloadType : ℤ := 0
  sequenceNumber : ℤ := 0
  timestamp : ℤ := 0
  ssrc : ℤ := 0
  /-- Set by `parse_rtp_header`, ignored by `encode_rtp_header`. -/
  payloadOffset : ℤ := rtpHeaderBytes
  deriving DecidableEq

/-- What the functions can raise. -/
inductive PyError
  | valueError (message : String)
  | structError
  | indexError
  deriving DecidableEq

/-- The result of a `struct` function, or its exception. -/
def raising {α : Type} : Option α → Except PyError α
  | some a => .ok a
  | none => .error .structError

/-- The format `">BBHII"` of the fixed header. -/
def headerFormat : List FieldCode := [.B, .B, .H, .I, .I]

/-- `encode_rtp_header`. -/
def encodeRtpHeader (h : RtpHeader) : Except PyError (List UInt8) :=
  if ¬ (0 ≤ h.payloadType ∧ h.payloadType ≤ 0x7F) then .error (.valueError "payload_type must be 0..127")
  else
    let b0 : ℤ := 0x80
    let b1 := Int.lor (if h.marker then 0x80 else 0x00) (Int.land h.payloadType 0x7F)
    raising (pack headerFormat
      [b0, b1, Int.land h.sequenceNumber 0xFFFF, Int.land h.timestamp 0xFFFFFFFF, Int.land h.ssrc 0xFFFFFFFF])

/-- `parse_rtp_header`: `none` is `None`. -/
def parseRtpHeader (data : List UInt8) : Except PyError (Option RtpHeader) :=
  if (data.length : ℤ) < rtpHeaderBytes then .ok none
  else do
    match ← raising (unpack headerFormat (slice data 0 rtpHeaderBytes)) with
    | [b0, b1, seq, ts, ssrc] =>
        let version := Int.land (Int.shiftRight b0 6) 0x03
        if version ≠ 2 then .ok none
        else
          let h : RtpHeader :=
            { version
              padding := Int.land b0 0x20 != 0
              extension := Int.land b0 0x10 != 0
              csrcCount := Int.land b0 0x0F
              marker := Int.land b1 0x80 != 0
              payloadType := Int.land b1 0x7F
              sequenceNumber := seq
              timestamp := ts
              ssrc }
          let offset := rtpHeaderBytes + h.csrcCount * 4
          if (data.length : ℤ) < offset then .ok none
          else if h.extension then
            if (data.length : ℤ) < offset + 4 then .ok none
            else do
              match ← raising (unpack [.H] (slice data (offset + 2) (offset + 4))) with
              | extWords :: _ =>
                  let extBytes := 4 + extWords * 4
                  if (data.length : ℤ) < offset + extBytes then .ok none
                  else .ok (some { h with payloadOffset := offset + extBytes })
              | [] => .error .indexError
          else .ok (some { h with payloadOffset := offset })
    | _ => .error (.valueError "not enough values to unpack")

/-! ## The parser -/

/-- The bit fields of an octet, by Python's operators and by arithmetic. -/
theorem octet_bits : ∀ n : Fin 256,
    Int.land (Int.shiftRight (n.val : ℤ) 6) 0x03 = (n.val / 64 : ℕ) ∧
      (Int.land (n.val : ℤ) 0x20 != 0) = (n.val / 32 % 2 == 1) ∧
      (Int.land (n.val : ℤ) 0x10 != 0) = (n.val / 16 % 2 == 1) ∧
      Int.land (n.val : ℤ) 0x0F = (n.val % 16 : ℕ) ∧
      (Int.land (n.val : ℤ) 0x80 != 0) = (n.val / 128 == 1) ∧
      Int.land (n.val : ℤ) 0x7F = (n.val % 128 : ℕ) := by
  decide +kernel

/-- The bit fields of the first two octets. -/
theorem header_bits (b : List UInt8) :
    Int.land (Int.shiftRight (byteAt b 0).toNat 6) 0x03 = (RtpGrammar.version b : ℤ) ∧
      (Int.land (byteAt b 0).toNat 0x20 != 0) = RtpGrammar.padding b ∧
      (Int.land (byteAt b 0).toNat 0x10 != 0) = RtpGrammar.extension b ∧
      Int.land (byteAt b 0).toNat 0x0F = (RtpGrammar.csrcCount b : ℤ) ∧
      (Int.land (byteAt b 1).toNat 0x80 != 0) = RtpGrammar.marker b ∧
      Int.land (byteAt b 1).toNat 0x7F = (RtpGrammar.payloadType b : ℤ) := by
  obtain ⟨hversion, hpadding, hextension, hcount, -, -⟩ :=
    octet_bits ⟨(byteAt b 0).toNat, (byteAt b 0).toNat_lt⟩
  obtain ⟨-, -, -, -, hmarker, hpt⟩ := octet_bits ⟨(byteAt b 1).toNat, (byteAt b 1).toNat_lt⟩
  exact ⟨hversion, hpadding, hextension, hcount, hmarker, hpt⟩

/-- A field of one octet. -/
theorem field_one {b : List UInt8} {off : ℕ} (h : off + 1 ≤ b.length) :
    RtpGrammar.field b off 1 = (byteAt b off).toNat := by
  rw [RtpGrammar.field, take_drop_eq_map_byteAt h]
  simp [bigEndian]

/-- The five numbers of the fixed header. -/
theorem unpack_header {b : List UInt8} (h : 12 ≤ b.length) :
    unpack headerFormat (slice b 0 rtpHeaderBytes)
      = some [((byteAt b 0).toNat : ℤ), ((byteAt b 1).toNat : ℤ), (RtpGrammar.field b 2 2 : ℤ),
          (RtpGrammar.field b 4 4 : ℤ), (RtpGrammar.field b 8 4 : ℤ)] := by
  have hslice : slice b 0 rtpHeaderBytes = b.take 12 := slice_of_le (Nat.zero_le 12) h
  have hlen : (b.take 12).length = calcsize headerFormat := by
    rw [List.length_take, min_eq_left h]
    rfl
  rw [hslice, unpack_eq hlen, ← field_one (show 0 + 1 ≤ b.length by omega),
    ← field_one (show 1 + 1 ≤ b.length by omega)]
  simp [headerFormat, unpackFields, FieldCode.size, RtpGrammar.field, List.take_take, List.drop_take]

/-- The number of 32-bit words of the extension at `off`. -/
theorem unpack_words {b : List UInt8} {off : ℕ} (h : off + 4 ≤ b.length) :
    unpack [.H] (slice b ((off : ℤ) + 2) ((off : ℤ) + 4)) = some [(RtpGrammar.field b (off + 2) 2 : ℤ)] := by
  have hslice : slice b ((off : ℤ) + 2) ((off : ℤ) + 4) = (b.drop (off + 2)).take 2 := by
    have hcut := slice_of_le (i := off + 2) (j := off + 4) (by omega) h
    rwa [show off + 4 - (off + 2) = 2 by omega] at hcut
  have hlen : ((b.drop (off + 2)).take 2).length = calcsize [.H] := by
    rw [List.length_take, List.length_drop]
    show min 2 _ = 2
    omega
  rw [hslice, unpack_eq hlen]
  simp [unpackFields, FieldCode.size, RtpGrammar.field, List.take_take]

/-- The header that the grammar finds. -/
def grammarHeader (b : List UInt8) : RtpHeader where
  version := RtpGrammar.version b
  padding := RtpGrammar.padding b
  extension := RtpGrammar.extension b
  csrcCount := RtpGrammar.csrcCount b
  marker := RtpGrammar.marker b
  payloadType := RtpGrammar.payloadType b
  sequenceNumber := RtpGrammar.field b 2 2
  timestamp := RtpGrammar.field b 4 4
  ssrc := RtpGrammar.field b 8 4
  payloadOffset := RtpGrammar.headerEnd b

/-- **What `parse_rtp_header` returns**; it raises nothing. -/
theorem parseRtpHeader_eq (b : List UInt8) :
    parseRtpHeader b = .ok (if RtpGrammar.Accepted b then some (grammarHeader b) else none) := by
  have hk : rtpHeaderBytes = (12 : ℕ) := rfl
  unfold parseRtpHeader
  -- the same guards in the same order as the grammar: length, version, CSRC list, extension
  by_cases hshort : b.length < 12
  · have hnot : ¬ RtpGrammar.Accepted b := fun h => absurd h.2.1 (Nat.not_le.mpr hshort)
    rw [if_pos (by rw [hk]; exact_mod_cast hshort), if_neg hnot]
  have h12 : 12 ≤ b.length := Nat.not_lt.mp hshort
  obtain ⟨hversion, hpadding, hextension, hcount, hmarker, hpt⟩ := header_bits b
  have hcsrcs : rtpHeaderBytes + (RtpGrammar.csrcCount b : ℤ) * 4 = (RtpGrammar.csrcEnd b : ℕ) := by
    rw [hk, RtpGrammar.csrcEnd]
    push_cast
    omega
  rw [if_neg (by rw [hk]; exact_mod_cast hshort), unpack_header h12]
  dsimp only [raising, Bind.bind, Except.bind]
  rw [hversion, hpadding, hextension, hcount, hmarker, hpt, hcsrcs]
  by_cases hv : RtpGrammar.version b = 2
  swap
  · rw [if_pos (by exact_mod_cast hv), if_neg (fun h : RtpGrammar.Accepted b => hv h.1)]
  have haccepted : RtpGrammar.Accepted b ↔ RtpGrammar.Complete b := and_iff_right hv
  rw [if_neg (not_not.mpr (by exact_mod_cast hv)), if_congr haccepted rfl rfl, apply_ite Except.ok]
  have hlen : ∀ k : ℕ, ((b.length : ℤ) < (k : ℤ)) = (b.length < k) := fun k => propext Nat.cast_lt
  have hhead : (RtpGrammar.csrcEnd b : ℤ) + 4 = (RtpGrammar.csrcEnd b + 4 : ℕ) := rfl
  simp only [hlen, hhead]
  apply RtpGrammar.checks_eq h12
  · intro hend
    rw [grammarHeader, hend]
  · -- the extension header is there, so its length field can be unpacked
    intro hx hfits
    have hend : (RtpGrammar.csrcEnd b : ℤ) + (4 + (RtpGrammar.field b (RtpGrammar.csrcEnd b + 2) 2 : ℤ) * 4)
        = (RtpGrammar.headerEnd b : ℕ) := by
      rw [RtpGrammar.headerEnd, if_pos hx, RtpGrammar.extensionWords]
      push_cast
      omega
    rw [← hhead, unpack_words hfits]
    dsimp only
    simp only [hend, hlen]
    rfl

/-! ## The encoder -/

/-- The fields that are encoded, with the values that fit them. -/
structure RtpHeader.InWireRange (hp : RtpHeader) : Prop where
  payloadType : 0 ≤ hp.payloadType ∧ hp.payloadType < 2 ^ 8
  sequenceNumber : 0 ≤ hp.sequenceNumber ∧ hp.sequenceNumber < 2 ^ 16
  timestamp : 0 ≤ hp.timestamp ∧ hp.timestamp < 2 ^ 32
  ssrc : 0 ≤ hp.ssrc ∧ hp.ssrc < 2 ^ 32

/-- The Python header has the fields of the C++ one, as far as they are encoded. -/
structure RtpHeader.Denotes (hp : RtpHeader) (h : PcmFlowUdp.RtpHeader) : Prop where
  marker : hp.marker = h.marker
  payloadType : hp.payloadType = h.payloadType.toNat
  sequenceNumber : hp.sequenceNumber = h.sequenceNumber.toNat
  timestamp : hp.timestamp = h.timestamp.toNat
  ssrc : hp.ssrc = h.ssrc.toNat

/-- The C++ headers have the values that fit the fields, and all of them. -/
theorem inWireRange_iff (hp : RtpHeader) : hp.InWireRange ↔ ∃ h, hp.Denotes h := by
  constructor
  · rintro ⟨hpt, hseq, hts, hssrc⟩
    obtain ⟨payloadType, hpt⟩ := fits_uint8_iff.mp hpt
    obtain ⟨sequenceNumber, hseq⟩ := fits_uint16_iff.mp hseq
    obtain ⟨timestamp, hts⟩ := fits_uint32_iff.mp hts
    obtain ⟨ssrc, hssrc⟩ := fits_uint32_iff.mp hssrc
    exact ⟨{ marker := hp.marker, payloadType, sequenceNumber, timestamp, ssrc }, rfl, hpt, hseq, hts, hssrc⟩
  · rintro ⟨h, -, hpt, hseq, hts, hssrc⟩
    exact ⟨fits_uint8_iff.mpr ⟨_, hpt⟩, fits_uint16_iff.mpr ⟨_, hseq⟩, fits_uint32_iff.mpr ⟨_, hts⟩,
      fits_uint32_iff.mpr ⟨_, hssrc⟩⟩

/-- The second octet is computed alike. -/
theorem octet_one : ∀ (marker : Bool) (pt : Fin 128),
    Int.lor (if marker then 0x80 else 0x00) (Int.land pt.val 0x7F)
      = ((markerByte marker (UInt8.ofNat pt)).toNat : ℤ) := by
  decide +kernel

/-- The numbers in the twelve octets. -/
theorem unpack_rtpHeaderBytes (h : PcmFlowUdp.RtpHeader) :
    unpack headerFormat (PcmFlowUdp.rtpHeaderBytes h)
      = some [0x80, ((markerByte h.marker h.payloadType).toNat : ℤ), (h.sequenceNumber.toNat : ℤ),
          (h.timestamp.toNat : ℤ), (h.ssrc.toNat : ℤ)] := by
  have hseq := word16_bigEndian (hi16 h.sequenceNumber) (lo16 h.sequenceNumber)
  have hts := word32_bigEndian (byte32 24 h.timestamp) (byte32 16 h.timestamp) (byte32 8 h.timestamp)
    (byte32 0 h.timestamp)
  have hssrc := word32_bigEndian (byte32 24 h.ssrc) (byte32 16 h.ssrc) (byte32 8 h.ssrc) (byte32 0 h.ssrc)
  rw [word16_hi_lo] at hseq
  rw [word32_bytes] at hts hssrc
  rw [unpack_eq rfl, hseq, hts, hssrc]
  simp [headerFormat, unpackFields, FieldCode.size, PcmFlowUdp.rtpHeaderBytes, bigEndian]

/-- **`encode_rtp_header` writes the octets of the C++ encoder.** -/
theorem encodeRtpHeader_eq {hp : RtpHeader} {h : PcmFlowUdp.RtpHeader} (hsame : hp.Denotes h)
    (hpt : h.payloadType ≤ 0x7F) : encodeRtpHeader hp = .ok (PcmFlowUdp.rtpHeaderBytes h) := by
  have hlt : h.payloadType.toNat < 128 := Nat.lt_succ_of_le (UInt8.le_iff_toNat_le.mp hpt)
  have hfit : 0 ≤ hp.payloadType ∧ hp.payloadType ≤ 0x7F := by
    rw [hsame.payloadType]
    omega
  have hone := octet_one h.marker ⟨h.payloadType.toNat, hlt⟩
  rw [UInt8.ofNat_toNat] at hone
  have hseq : Int.land h.sequenceNumber.toNat 0xFFFF = h.sequenceNumber.toNat :=
    land_mask_of_lt h.sequenceNumber.toNat_lt
  have hts : Int.land h.timestamp.toNat 0xFFFFFFFF = h.timestamp.toNat := land_mask_of_lt h.timestamp.toNat_lt
  have hssrc : Int.land h.ssrc.toNat 0xFFFFFFFF = h.ssrc.toNat := land_mask_of_lt h.ssrc.toNat_lt
  rw [encodeRtpHeader, if_neg (not_not.mpr hfit), hsame.marker, hsame.payloadType, hsame.sequenceNumber,
    hsame.timestamp, hsame.ssrc]
  dsimp only
  rw [hone, hseq, hts, hssrc, pack_of_unpack (unpack_rtpHeaderBytes h)]
  rfl

/-- **When `encode_rtp_header` raises**, whatever the integers in the header. -/
theorem encodeRtpHeader_raises_iff (hp : RtpHeader) (e : PyError) :
    encodeRtpHeader hp = .error e ↔
      ¬ (0 ≤ hp.payloadType ∧ hp.payloadType ≤ 127) ∧ e = .valueError "payload_type must be 0..127" := by
  rw [encodeRtpHeader]
  split
  · rename_i hbad
    simp [hbad, eq_comm]
  rename_i hgood
  obtain ⟨pt, hpt⟩ := Int.eq_ofNat_of_zero_le (not_not.mp hgood).1
  have hlt : pt < 128 := by omega
  have hone := octet_one hp.marker ⟨pt, hlt⟩
  have hone_lt := (markerByte hp.marker (UInt8.ofNat pt)).toNat_lt
  have hpacked : ∃ data, pack headerFormat
      [0x80, Int.lor (if hp.marker then 0x80 else 0x00) (Int.land hp.payloadType 0x7F),
        Int.land hp.sequenceNumber 0xFFFF, Int.land hp.timestamp 0xFFFFFFFF, Int.land hp.ssrc 0xFFFFFFFF]
        = some data := by
    apply exists_pack
    refine .cons (by decide) (.cons ?_ (.cons ?_ (.cons ?_ (.cons ?_ .nil))))
    · rw [hpt, hone]
      exact ⟨Int.natCast_nonneg _, by exact_mod_cast hone_lt⟩
    · exact land_mask_bounds hp.sequenceNumber 16
    · exact land_mask_bounds hp.timestamp 32
    · exact land_mask_bounds hp.ssrc 32
  obtain ⟨data, hdata⟩ := hpacked
  dsimp only
  rw [hdata]
  constructor
  · rintro ⟨⟩
  · rintro ⟨hbad, -⟩
    exact absurd hbad hgood

end NetHelpers

/-! ## Agreement -/

/-- The Python header with the same fields. -/
def RtpHeader.toPython (h : RtpHeader) : NetHelpers.RtpHeader where
  version := h.version.toNat
  padding := h.padding
  extension := h.extension
  csrcCount := h.csrcCount.toNat
  marker := h.marker
  payloadType := h.payloadType.toNat
  sequenceNumber := h.sequenceNumber.toNat
  timestamp := h.timestamp.toNat
  ssrc := h.ssrc.toNat
  payloadOffset := h.payloadOffset

/-- The two parsers report the same header. -/
theorem toPython_of_parseRtpHeader {b : List UInt8} {h : RtpHeader}
    (hok : parseRtpHeader b b.length = .ok h) : h.toPython = NetHelpers.grammarHeader b := by
  obtain ⟨haccepted, rfl⟩ := parseRtpHeader_ok_iff.mp hok
  have hreads := fixedHeader_reads haccepted.2.1
  simp only [RtpHeader.toPython, NetHelpers.grammarHeader, hreads.version, hreads.padding,
    hreads.extension, hreads.csrcCount, hreads.marker, hreads.payloadType, hreads.sequenceNumber,
    hreads.timestamp, hreads.ssrc]

/-- The two parsers accept the same packets. -/
theorem parseRtpHeader_python (b : List UInt8) :
    (NetHelpers.parseRtpHeader b = .ok none ↔ ¬ ∃ h, parseRtpHeader b b.length = .ok h) ∧
      ∀ h, parseRtpHeader b b.length = .ok h → NetHelpers.parseRtpHeader b = .ok (some h.toPython) := by
  have hok : (∃ h, parseRtpHeader b b.length = .ok h) ↔ RtpGrammar.Accepted b :=
    ⟨fun ⟨h, hparse⟩ => (parseRtpHeader_ok_iff.mp hparse).1,
      fun haccepted => ⟨_, parseRtpHeader_ok_iff.mpr ⟨haccepted, rfl⟩⟩⟩
  rw [NetHelpers.parseRtpHeader_eq]
  constructor
  · rw [hok]
    split <;> simp [*]
  · intro h hparse
    rw [if_pos (hok.mp ⟨h, hparse⟩), toPython_of_parseRtpHeader hparse]

/-- The two encoders refuse the same headers and write the same octets. -/
theorem encodeRtpHeader_python {hp : NetHelpers.RtpHeader} {h : RtpHeader} (hsame : hp.Denotes h) {n : ℕ}
    (out : Buffer UInt8 n) (hn : kRtpHeaderBytes ≤ n) :
    ((encodeRtpHeader h out).1 = false ↔ 127 < h.payloadType) ∧
      ((∃ e, NetHelpers.encodeRtpHeader hp = .error e) ↔ 127 < h.payloadType) ∧
      (h.payloadType ≤ 127 → ∃ octets : List UInt8, octets.length = 12 ∧
        NetHelpers.encodeRtpHeader hp = .ok octets ∧ (encodeRtpHeader h out).2.slice 0 12 = octets) := by
  refine ⟨?_, ?_, ?_⟩
  · rw [encodeRtpHeader]
    split
    · rename_i hbig
      exact iff_of_true rfl hbig
    · rename_i hfit
      exact iff_of_false Bool.noConfusion hfit
  · have hbig : 127 < h.payloadType ↔ 127 < h.payloadType.toNat := UInt8.lt_iff_toNat_lt
    have hpt := hsame.payloadType
    simp only [NetHelpers.encodeRtpHeader_raises_iff, exists_and_left, exists_eq, and_true, hbig]
    omega
  · intro hpt
    exact ⟨rtpHeaderBytes h, length_rtpHeaderBytes h, NetHelpers.encodeRtpHeader_eq hsame hpt,
      (slice_encodeRtpHeader hpt out hn).2⟩

/-- **The C++ codec and the Python reference agree.** For every byte string, `parse_rtp_header` returns `None`
if and only if `parseRtpHeader` does not answer Ok, and it raises nothing; when the one accepts so does the
other, with the same header in all ten fields. The headers with their encoded fields in wire range are those
of the C++ structure; for each of them both encoders refuse exactly the payload types above 127, and
otherwise produce the same twelve octets. With fields of any size, `encode_rtp_header` refuses exactly the
payload types outside 0..127. -/
theorem rtp_codecs_agree :
    (∀ b : List UInt8,
      (NetHelpers.parseRtpHeader b = .ok none ↔ ¬ ∃ h, parseRtpHeader b b.length = .ok h) ∧
      ∀ h, parseRtpHeader b b.length = .ok h →
        NetHelpers.parseRtpHeader b = .ok (some h.toPython)) ∧
    (∀ hp : NetHelpers.RtpHeader, hp.InWireRange ↔ ∃ h, hp.Denotes h) ∧
    (∀ (hp : NetHelpers.RtpHeader) (h : RtpHeader), hp.Denotes h →
      ∀ (n : ℕ) (out : Buffer UInt8 n), kRtpHeaderBytes ≤ n →
        ((encodeRtpHeader h out).1 = false ↔ 127 < h.payloadType) ∧
        ((∃ e, NetHelpers.encodeRtpHeader hp = .error e) ↔ 127 < h.payloadType) ∧
        (h.payloadType ≤ 127 → ∃ octets : List UInt8, octets.length = 12 ∧
          NetHelpers.encodeRtpHeader hp = .ok octets ∧
          (encodeRtpHeader h out).2.slice 0 12 = octets)) ∧
    ∀ (hp : NetHelpers.RtpHeader) (e : NetHelpers.PyError),
      NetHelpers.encodeRtpHeader hp = .error e ↔
        ¬ (0 ≤ hp.payloadType ∧ hp.payloadType ≤ 127) ∧
          e = .valueError "payload_type must be 0..127" :=
  ⟨parseRtpHeader_python, NetHelpers.inWireRange_iff,
    fun _ _ hsame _ out hn => encodeRtpHeader_python hsame out hn, NetHelpers.encodeRtpHeader_raises_iff⟩

end PcmFlowUdp
