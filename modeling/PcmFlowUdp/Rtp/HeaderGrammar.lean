import PcmFlowUdp.Rtp.Protocol

/-! # The RTP header grammar

`RtpGrammar` states the header grammar of RFC 3550 on the octets of a packet, in arithmetic: bit fields
as quotients and remainders, multi-octet fields as the numbers they spell. `parseRtpHeader` is compared
with it.

* **`parseRtpHeader_eq`** — what the parser answers, as a function of the grammar;
* **`parseRtpHeaderWithin_eq`** — the parser run on a packet of which only the received octets can be
  read gives the same answer, so it never reads behind them;
* **`rtp_header_codec`** — the parser accepts the grammar and nothing else, and inverts the encoder. -/

namespace PcmFlowUdp

open ByteTransport

/-! ## The grammar -/

namespace RtpGrammar

variable (b : List UInt8)

/-- The version field: the two top bits of octet 0. -/
def version : ℕ := (byteAt b 0).toNat / 64

/-- The padding bit P. -/
def padding : Bool := (byteAt b 0).toNat / 32 % 2 == 1

/-- The extension bit X. -/
def extension : Bool := (byteAt b 0).toNat / 16 % 2 == 1

/-- The CSRC count CC: the four low bits of octet 0. -/
def csrcCount : ℕ := (byteAt b 0).toNat % 16

/-- The marker bit M. -/
def marker : Bool := (byteAt b 1).toNat / 128 == 1

/-- The payload type: the seven low bits of octet 1. -/
def payloadType : ℕ := (byteAt b 1).toNat % 128

/-- The number in the `k` octets at `off`. -/
def field (off k : ℕ) : ℕ := bigEndian ((b.drop off).take k)

/-- Where the CSRC list ends. -/
def csrcEnd : ℕ := 12 + 4 * csrcCount b

/-- The length field of the header extension, in 32-bit words. -/
def extensionWords : ℕ := field b (csrcEnd b + 2) 2

/-- Where the header ends. -/
def headerEnd : ℕ :=
  if extension b then csrcEnd b + (4 + 4 * extensionWords b) else csrcEnd b

/-- The packet holds all of its header: the fixed part, the CSRC list and, when X is set, the extension
header and the extension. -/
def Complete : Prop :=
  12 ≤ b.length ∧ csrcEnd b ≤ b.length ∧
    (extension b = true → csrcEnd b + 4 ≤ b.length ∧ headerEnd b ≤ b.length)

instance : Decidable (Complete b) := by unfold Complete; infer_instance

/-- The packets with an RTP header. -/
def Accepted : Prop := version b = 2 ∧ Complete b

instance : Decidable (Accepted b) := by unfold Accepted; infer_instance

end RtpGrammar

/-! ## The parsed fields -/

/-- Bit fields of an octet, read by mask and shift and by arithmetic. -/
theorem octet_fields : ∀ n : Fin 256,
    ((UInt8.ofNat n >>> 6) &&& 0x03).toNat = n / 64 ∧
      (UInt8.ofNat n &&& 0x20 != 0) = (n.val / 32 % 2 == 1) ∧
      (UInt8.ofNat n &&& 0x10 != 0) = (n.val / 16 % 2 == 1) ∧
      (UInt8.ofNat n &&& 0x0F).toNat = n % 16 ∧
      (UInt8.ofNat n &&& 0x80 != 0) = (n.val / 128 == 1) ∧
      (UInt8.ofNat n &&& 0x7F).toNat = n % 128 := by
  decide +kernel

/-- The wire values that a parsed header reports. -/
structure RtpHeader.Reads (h : RtpHeader) (b : List UInt8) : Prop where
  version : h.version.toNat = RtpGrammar.version b
  padding : h.padding = RtpGrammar.padding b
  extension : h.extension = RtpGrammar.extension b
  csrcCount : h.csrcCount.toNat = RtpGrammar.csrcCount b
  marker : h.marker = RtpGrammar.marker b
  payloadType : h.payloadType.toNat = RtpGrammar.payloadType b
  sequenceNumber : h.sequenceNumber.toNat = RtpGrammar.field b 2 2
  timestamp : h.timestamp.toNat = RtpGrammar.field b 4 4
  ssrc : h.ssrc.toNat = RtpGrammar.field b 8 4

/-- A field of two octets is a 16-bit word. -/
theorem field_two {b : List UInt8} {off : ℕ} (h : off + 2 ≤ b.length) :
    RtpGrammar.field b off 2 = (word16 (byteAt b off) (byteAt b (off + 1))).toNat := by
  rw [word16_bigEndian, RtpGrammar.field, take_drop_eq_map_byteAt h]
  rfl

/-- One of four octets is a 32-bit word. -/
theorem field_four {b : List UInt8} {off : ℕ} (h : off + 4 ≤ b.length) :
    RtpGrammar.field b off 4
      = (word32 (byteAt b off) (byteAt b (off + 1)) (byteAt b (off + 2)) (byteAt b (off + 3))).toNat := by
  rw [word32_bigEndian, RtpGrammar.field, take_drop_eq_map_byteAt h]
  rfl

/-- The fixed header holds the wire values. -/
theorem fixedHeader_reads {b : List UInt8} (h : 12 ≤ b.length) : (fixedHeader b).Reads b := by
  have h0 := octet_fields ⟨(byteAt b 0).toNat, (byteAt b 0).toNat_lt⟩
  have h1 := octet_fields ⟨(byteAt b 1).toNat, (byteAt b 1).toNat_lt⟩
  rw [UInt8.ofNat_toNat] at h0 h1
  obtain ⟨hversion, hpadding, hextension, hcount, -, -⟩ := h0
  obtain ⟨-, -, -, -, hmarker, hpt⟩ := h1
  exact
    { version := hversion
      padding := hpadding
      extension := hextension
      csrcCount := hcount
      marker := hmarker
      payloadType := hpt
      sequenceNumber := (field_two (by omega)).symm
      timestamp := (field_four (by omega)).symm
      ssrc := (field_four (by omega)).symm }

/-! ## What the parser answers -/

/-- The length checks of a parser, in the order of the header: what it answers at the end of the checks is what
it answers for a complete header. -/
theorem RtpGrammar.checks_eq {α : Type} {b : List UInt8} (h12 : 12 ≤ b.length) {short found plain ext : α}
    (hplain : RtpGrammar.headerEnd b = RtpGrammar.csrcEnd b → plain = found)
    (hext : RtpGrammar.extension b = true → RtpGrammar.csrcEnd b + 4 ≤ b.length →
      ext = if b.length < RtpGrammar.headerEnd b then short else found) :
    (if b.length < RtpGrammar.csrcEnd b then short
      else if RtpGrammar.extension b = true then
        if b.length < RtpGrammar.csrcEnd b + 4 then short else ext
      else plain) = if RtpGrammar.Complete b then found else short := by
  by_cases hcut : b.length < RtpGrammar.csrcEnd b
  · rw [if_pos hcut, if_neg (fun hc => absurd hc.2.1 (Nat.not_le.mpr hcut))]
  rw [if_neg hcut]
  -- without an extension the header ends with the CSRC list
  by_cases hx : RtpGrammar.extension b = true
  swap
  · rw [if_neg hx, if_pos ⟨h12, Nat.not_lt.mp hcut, fun hc => absurd hc hx⟩]
    exact hplain (by rw [RtpGrammar.headerEnd, if_neg hx])
  rw [if_pos hx]
  by_cases hhead : b.length < RtpGrammar.csrcEnd b + 4
  · rw [if_pos hhead, if_neg (fun hc => absurd (hc.2.2 hx).1 (Nat.not_le.mpr hhead))]
  rw [if_neg hhead, hext hx (Nat.not_lt.mp hhead)]
  by_cases hbody : b.length < RtpGrammar.headerEnd b
  · rw [if_pos hbody, if_neg (fun hc => absurd (hc.2.2 hx).2 (Nat.not_le.mpr hbody))]
  · rw [if_neg hbody,
      if_pos ⟨h12, Nat.not_lt.mp hcut, fun _ => ⟨Nat.not_lt.mp hhead, Nat.not_lt.mp hbody⟩⟩]

/-- **The parser's answer.** -/
theorem parseRtpHeader_eq (b : List UInt8) :
    parseRtpHeader b b.length
      = if 12 ≤ b.length ∧ RtpGrammar.version b ≠ 2 then .error .badVersion
        else if RtpGrammar.Complete b then
          .ok { fixedHeader b with payloadOffset := RtpGrammar.headerEnd b }
        else .error .tooShort := by
  have hk : kRtpHeaderBytes = 12 := rfl
  unfold parseRtpHeader
  by_cases hshort : b.length < kRtpHeaderBytes
  · have hincomplete : ¬ RtpGrammar.Complete b := fun hc => by have := hc.1; omega
    rw [if_pos hshort, if_neg (by omega), if_neg hincomplete]
  have h12 : 12 ≤ b.length := by omega
  have hreads := fixedHeader_reads h12
  have hversion : (fixedHeader b).version = 2 ↔ RtpGrammar.version b = 2 := by
    rw [← hreads.version, ← UInt8.toNat_inj]
    rfl
  rw [if_neg hshort]
  dsimp only
  by_cases hv : RtpGrammar.version b = 2
  swap
  · rw [if_pos (fun he => hv (hversion.mp he)), if_pos ⟨h12, hv⟩]
  have hgood : ¬ (12 ≤ b.length ∧ RtpGrammar.version b ≠ 2) := fun hbad => hbad.2 hv
  rw [if_neg (not_not.mpr (hversion.mpr hv)), if_neg hgood]
  -- from here on the source and the grammar make the same checks of the length
  have hcsrcs : kRtpHeaderBytes + (fixedHeader b).csrcCount.toNat * 4 = RtpGrammar.csrcEnd b := by
    rw [hreads.csrcCount, hk, RtpGrammar.csrcEnd, Nat.mul_comm]
  rw [hcsrcs, hreads.extension]
  apply RtpGrammar.checks_eq h12
  · intro hend
    rw [hend]
  · -- the extension header is there, so its length field can be read
    intro hx hhead
    have hend : RtpGrammar.csrcEnd b
          + (4 + (word16 (byteAt b (RtpGrammar.csrcEnd b + 2))
            (byteAt b (RtpGrammar.csrcEnd b + 3))).toNat * 4) = RtpGrammar.headerEnd b := by
      rw [RtpGrammar.headerEnd, if_pos hx, RtpGrammar.extensionWords, field_two (by omega),
        Nat.mul_comm]
    rw [hend]

/-- The packets that are accepted, and what is read of them. -/
theorem parseRtpHeader_ok_iff {b : List UInt8} {h : RtpHeader} :
    parseRtpHeader b b.length = .ok h ↔
      RtpGrammar.Accepted b ∧ h = { fixedHeader b with payloadOffset := RtpGrammar.headerEnd b } := by
  rw [parseRtpHeader_eq, RtpGrammar.Accepted]
  constructor
  · intro hok
    split at hok
    · cases hok
    rename_i hgood
    split at hok
    · rename_i hcomplete
      refine ⟨⟨?_, hcomplete⟩, (Except.ok.inj hok).symm⟩
      exact not_not.mp fun hv => hgood ⟨hcomplete.1, hv⟩
    · cases hok
  · rintro ⟨⟨hv, hcomplete⟩, rfl⟩
    rw [if_neg (fun hbad => hbad.2 hv), if_pos hcomplete]

/-- Those that are turned down for their version. -/
theorem parseRtpHeader_badVersion_iff (b : List UInt8) :
    parseRtpHeader b b.length = .error .badVersion ↔ 12 ≤ b.length ∧ RtpGrammar.version b ≠ 2 := by
  rw [parseRtpHeader_eq]
  split
  · rename_i hbad
    simp [hbad]
  · rename_i hgood
    split <;> simp [hgood]

/-- Those that are turned down for their length: all others. -/
theorem parseRtpHeader_tooShort_iff (b : List UInt8) :
    parseRtpHeader b b.length = .error .tooShort ↔
      ¬ RtpGrammar.Accepted b ∧ ¬ (12 ≤ b.length ∧ RtpGrammar.version b ≠ 2) := by
  rw [parseRtpHeader_eq, RtpGrammar.Accepted]
  split
  · rename_i hbad
    simp [hbad]
  · rename_i hgood
    split
    · rename_i hcomplete
      have hv : RtpGrammar.version b = 2 := not_not.mp fun hv => hgood ⟨hcomplete.1, hv⟩
      simp [hcomplete, hv]
    · rename_i hincomplete
      simp [hincomplete, hgood]

/-- The header ends inside an accepted packet, behind its fixed part. -/
theorem RtpGrammar.Accepted.headerEnd_bounds {b : List UInt8} (h : RtpGrammar.Accepted b) :
    12 ≤ RtpGrammar.headerEnd b ∧ RtpGrammar.headerEnd b ≤ b.length := by
  obtain ⟨-, h12, hcsrcs, hext⟩ := h
  have hstart : RtpGrammar.csrcEnd b = 12 + 4 * RtpGrammar.csrcCount b := rfl
  by_cases hx : RtpGrammar.extension b = true
  · refine ⟨?_, (hext hx).2⟩
    rw [RtpGrammar.headerEnd, if_pos hx]
    omega
  · rw [RtpGrammar.headerEnd, if_neg hx]
    exact ⟨by omega, hcsrcs⟩

/-! ## The bytes that are read -/

/-- The fixed header with every read made explicit: `peek i` is octet `i`, if it can be read. -/
def fixedHeaderWithin (peek : ℕ → Option UInt8) : Option RtpHeader := do
  let b0 ← peek 0
  let b1 ← peek 1
  let b2 ← peek 2
  let b3 ← peek 3
  let b4 ← peek 4
  let b5 ← peek 5
  let b6 ← peek 6
  let b7 ← peek 7
  let b8 ← peek 8
  let b9 ← peek 9
  let b10 ← peek 10
  let b11 ← peek 11
  some
    { version := (b0 >>> 6) &&& 0x03
      padding := b0 &&& 0x20 != 0
      extension := b0 &&& 0x10 != 0
      csrcCount := b0 &&& 0x0F
      marker := b1 &&& 0x80 != 0
      payloadType := b1 &&& 0x7F
      sequenceNumber := word16 b2 b3
      timestamp := word32 b4 b5 b6 b7
      ssrc := word32 b8 b9 b10 b11 }

/-- `parseRtpHeader` with every read made explicit: it fails as a whole when it reads an octet that is
not there. -/
def parseRtpHeaderWithin (peek : ℕ → Option UInt8) (len : ℕ) :
    Option (Except RtpParseResult RtpHeader) :=
  if len < kRtpHeaderBytes then some (.error .tooShort)
  else do
    let b0 ← peek 0
    if (b0 >>> 6) &&& 0x03 ≠ 2 then some (.error .badVersion)
    else
      let h ← fixedHeaderWithin peek
      let offset := kRtpHeaderBytes + h.csrcCount.toNat * 4
      if len < offset then some (.error .tooShort)
      else if h.extension then
        if len < offset + 4 then some (.error .tooShort)
        else
          let hi ← peek (offset + 2)
          let lo ← peek (offset + 3)
          let extBytes := 4 + (word16 hi lo).toNat * 4
          if len < offset + extBytes then some (.error .tooShort)
          else some (.ok { h with payloadOffset := offset + extBytes })
      else some (.ok { h with payloadOffset := offset })

/-- The fixed header lies within the first twelve octets. -/
theorem fixedHeaderWithin_eq {b : List UInt8} (h : 12 ≤ b.length) :
    fixedHeaderWithin (fun i => b[i]?) = some (fixedHeader b) := by
  have hbyte : ∀ i < 12, b[i]? = some (byteAt b i) := fun i hi => getElem?_eq_byteAt (by omega)
  simp only [fixedHeaderWithin, hbyte 0 (by omega), hbyte 1 (by omega), hbyte 2 (by omega),
    hbyte 3 (by omega), hbyte 4 (by omega), hbyte 5 (by omega), hbyte 6 (by omega),
    hbyte 7 (by omega), hbyte 8 (by omega), hbyte 9 (by omega), hbyte 10 (by omega),
    hbyte 11 (by omega)]
  rfl

/-- **Every octet that is read is one of the received ones.** -/
theorem parseRtpHeaderWithin_eq (b : List UInt8) :
    parseRtpHeaderWithin (fun i => b[i]?) b.length = some (parseRtpHeader b b.length) := by
  have hk : kRtpHeaderBytes = 12 := rfl
  unfold parseRtpHeaderWithin parseRtpHeader
  by_cases hshort : b.length < kRtpHeaderBytes
  · simp only [if_pos hshort]
  have h12 : 12 ≤ b.length := by omega
  have hversion : (byteAt b 0 >>> 6) &&& 0x03 = (fixedHeader b).version := rfl
  simp only [if_neg hshort, getElem?_eq_byteAt (show 0 < b.length by omega), Option.bind_eq_bind,
    Option.bind_some, fixedHeaderWithin_eq h12, hversion]
  by_cases hv : (fixedHeader b).version = 2
  swap
  · simp only [if_pos hv]
  simp only [if_neg (not_not.mpr hv)]
  set offset := kRtpHeaderBytes + (fixedHeader b).csrcCount.toNat * 4
  by_cases hcsrcs : b.length < offset
  · simp only [if_pos hcsrcs]
  simp only [if_neg hcsrcs]
  by_cases hx : (fixedHeader b).extension = true
  swap
  · simp only [if_neg hx]
  simp only [if_pos hx]
  by_cases hhead : b.length < offset + 4
  · simp only [if_pos hhead]
  -- the extension header is there when its length field is read
  simp only [if_neg hhead, getElem?_eq_byteAt (show offset + 2 < b.length by omega),
    getElem?_eq_byteAt (show offset + 3 < b.length by omega), Option.bind_some]
  split <;> rfl

/-! ## Encoder and parser -/

/-- A front of the output block that the encoder filled. -/
theorem slice_encodeRtpHeader {n : ℕ} {h : RtpHeader} (hpt : h.payloadType ≤ 0x7F)
    (out : Buffer UInt8 n) (hn : kRtpHeaderBytes ≤ n) :
    (encodeRtpHeader h out).1 = true ∧
      (encodeRtpHeader h out).2.slice 0 kRtpHeaderBytes = rtpHeaderBytes h := by
  have hfit : ¬ h.payloadType > 0x7F := UInt8.not_lt.mpr hpt
  rw [encodeRtpHeader, if_neg hfit]
  exact ⟨rfl, out.slice_blit_front (length_rtpHeaderBytes h) hn⟩

/-- An octet is the marker byte of its own fields. -/
theorem markerByte_octet : ∀ n : Fin 256,
    markerByte (UInt8.ofNat n &&& 0x80 != 0) (UInt8.ofNat n &&& 0x7F) = UInt8.ofNat n ∧
      UInt8.ofNat n &&& 0x7F ≤ 0x7F := by
  decide +kernel

/-- The parsed payload type takes seven bits. -/
theorem fixedHeader_payloadType_le (b : List UInt8) : (fixedHeader b).payloadType ≤ 0x7F := by
  have hoctet := (markerByte_octet ⟨(byteAt b 1).toNat, (byteAt b 1).toNat_lt⟩).2
  rwa [UInt8.ofNat_toNat] at hoctet

/-- **The octets of a parsed header.** With P, X and CC zero, the encoder writes the octets that were
parsed. -/
theorem rtpHeaderBytes_fixedHeader {b : List UInt8} (hb : 12 ≤ b.length)
    (hv : RtpGrammar.version b = 2) (hp : RtpGrammar.padding b = false)
    (hx : RtpGrammar.extension b = false) (hcc : RtpGrammar.csrcCount b = 0) (offset : ℕ) :
    rtpHeaderBytes { fixedHeader b with payloadOffset := offset } = b.take 12 := by
  have hfirst : byteAt b 0 = 0x80 := by
    simp only [RtpGrammar.version, RtpGrammar.padding, RtpGrammar.extension, RtpGrammar.csrcCount,
      beq_eq_false_iff_ne] at hv hp hx hcc
    apply UInt8.toNat_inj.mp
    show (byteAt b 0).toNat = 128
    omega
  have hmarker := (markerByte_octet ⟨(byteAt b 1).toNat, (byteAt b 1).toNat_lt⟩).1
  rw [UInt8.ofNat_toNat] at hmarker
  have htime := byte32_word32 (byteAt b 4) (byteAt b 5) (byteAt b 6) (byteAt b 7)
  have hssrc := byte32_word32 (byteAt b 8) (byteAt b 9) (byteAt b 10) (byteAt b 11)
  simp only [List.cons.injEq, and_true] at htime hssrc
  have htake : b.take 12
      = [byteAt b 0, byteAt b 1, byteAt b 2, byteAt b 3, byteAt b 4, byteAt b 5, byteAt b 6,
        byteAt b 7, byteAt b 8, byteAt b 9, byteAt b 10, byteAt b 11] :=
    @take_drop_eq_map_byteAt b 0 12 (by omega)
  rw [htake, hfirst]
  simp only [rtpHeaderBytes, fixedHeader, hmarker, hi16_word16, lo16_word16, htime, hssrc]

/-- **The header codec.** For every byte string: `parseRtpHeader` answers Ok exactly on the grammar,
BadVersion exactly when twelve octets are there and the version is not 2, TooShort otherwise; on Ok the
payload offset is the end of the header, inside the packet, and the fields are the wire values; every
octet it reads is one of the received ones. Encoding and then parsing, whatever follows the header, gives
the caller's fields back with the payload at octet 12; and parsing and then encoding a header without
padding, extension and CSRCs gives its twelve octets back. -/
theorem rtp_header_codec :
    (∀ b : List UInt8,
      ((∃ h, parseRtpHeader b b.length = .ok h) ↔ RtpGrammar.Accepted b) ∧
      (parseRtpHeader b b.length = .error .badVersion ↔
        12 ≤ b.length ∧ RtpGrammar.version b ≠ 2) ∧
      (parseRtpHeader b b.length = .error .tooShort ↔
        ¬ RtpGrammar.Accepted b ∧ ¬ (12 ≤ b.length ∧ RtpGrammar.version b ≠ 2)) ∧
      (∀ h, parseRtpHeader b b.length = .ok h →
        12 ≤ h.payloadOffset ∧ h.payloadOffset ≤ b.length ∧
          h.payloadOffset = RtpGrammar.headerEnd b ∧ h.Reads b) ∧
      parseRtpHeaderWithin (fun i => b[i]?) b.length = some (parseRtpHeader b b.length) ∧
      ∀ behind, parseRtpHeader (b ++ behind) b.length = parseRtpHeader b b.length) ∧
    (∀ (h : RtpHeader) (payload : List UInt8) (n : ℕ) (out : Buffer UInt8 n),
      h.payloadType ≤ 127 → kRtpHeaderBytes ≤ n →
        (encodeRtpHeader h out).1 = true ∧
        ∃ h', parseRtpHeader ((encodeRtpHeader h out).2.slice 0 kRtpHeaderBytes ++ payload)
            (kRtpHeaderBytes + payload.length) = .ok h' ∧
          h'.marker = h.marker ∧ h'.payloadType = h.payloadType ∧
          h'.sequenceNumber = h.sequenceNumber ∧ h'.timestamp = h.timestamp ∧ h'.ssrc = h.ssrc ∧
          h'.payloadOffset = 12) ∧
    (∀ (b : List UInt8) (h : RtpHeader) (n : ℕ) (out : Buffer UInt8 n),
      parseRtpHeader b b.length = .ok h → RtpGrammar.padding b = false →
        RtpGrammar.extension b = false → RtpGrammar.csrcCount b = 0 → kRtpHeaderBytes ≤ n →
        (encodeRtpHeader h out).1 = true ∧
          (encodeRtpHeader h out).2.slice 0 kRtpHeaderBytes = b.take 12) := by
  refine ⟨?_, ?_, ?_⟩
  · -- parsing against the grammar: the outcome, the offset, and that nothing behind the length is read
    intro b
    refine ⟨?_, parseRtpHeader_badVersion_iff b, parseRtpHeader_tooShort_iff b, ?_,
      parseRtpHeaderWithin_eq b, ?_⟩
    · constructor
      · rintro ⟨h, hok⟩
        exact (parseRtpHeader_ok_iff.mp hok).1
      · intro h
        exact ⟨_, parseRtpHeader_ok_iff.mpr ⟨h, rfl⟩⟩
    · intro h hok
      obtain ⟨haccepted, rfl⟩ := parseRtpHeader_ok_iff.mp hok
      obtain ⟨hlow, hhigh⟩ := haccepted.headerEnd_bounds
      have hreads := fixedHeader_reads haccepted.2.1
      exact ⟨hlow, hhigh, rfl, { hreads with }⟩
    · intro behind
      exact parseRtpHeader_congr (by rw [List.take_left, List.take_length])
  · -- an encoded header is parsed back
    intro h payload n out hpt hn
    obtain ⟨hok, hbytes⟩ := slice_encodeRtpHeader hpt out hn
    refine ⟨hok, h.emitted, ?_, rfl, rfl, rfl, rfl, rfl, rfl⟩
    rw [hbytes]
    exact parseRtpHeader_encoded hpt payload (Nat.le_add_right _ _)
  · -- a parsed header without options is encoded back
    intro b h n out hparse hp hx hcc hn
    obtain ⟨⟨hv, hcomplete⟩, rfl⟩ := parseRtpHeader_ok_iff.mp hparse
    obtain ⟨hok, hbytes⟩ := slice_encodeRtpHeader
      (h := { fixedHeader b with payloadOffset := RtpGrammar.headerEnd b })
      (fixedHeader_payloadType_le b) out hn
    refine ⟨hok, ?_⟩
    rw [hbytes]
    exact rtpHeaderBytes_fixedHeader hcomplete.1 hv hp hx hcc _

end PcmFlowUdp
