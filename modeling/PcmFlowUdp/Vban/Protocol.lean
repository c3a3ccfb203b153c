import PcmFlowUdp.ByteTransport.Buffer
import PcmFlowUdp.ByteTransport.ByteOrder

/-! # VBAN header encode and parse

`VbanProtocol.h` / `VbanProtocol.cpp`: the sample-rate table and the 28-byte header of the audio and
service sub-protocols. Names are C strings: a `List UInt8` is the memory a `char *` points to, read up
to its first NUL, and a memory that ends is taken to be followed by one.

* **`vbanSampleRateHz_index`** — looking up the index of a rate in the table yields the rate;
* **`parseAudioHeader_encoded`** — the parser inverts the encoder on every header that the encoder
  accepts. -/

namespace PcmFlowUdp

open ByteTransport

/-! ## Constants -/

/-- `kVbanHeaderBytes`: the size of the header. -/
def kVbanHeaderBytes : ℕ := 28

/-- `kVbanMaxPayloadBytes`: the payload cap. -/
def kVbanMaxPayloadBytes : ℕ := 1408

/-- `kVbanMaxPacketBytes`: the largest packet. -/
def kVbanMaxPacketBytes : ℕ := kVbanHeaderBytes + kVbanMaxPayloadBytes

/-- `kVbanStreamNameBytes`: the size of the name field. -/
def kVbanStreamNameBytes : ℕ := 16

/-- `kVbanSignature`: the ASCII codes of `VBAN`. -/
def kVbanSignature : List UInt8 := [0x56, 0x42, 0x41, 0x4E]

/-- `kVbanServiceFunctionMask`. -/
def kVbanServiceFunctionMask : UInt8 := 0x1F

/-- `VbanSubProtocol`. -/
inductive VbanSubProtocol
  | audio
  | serial
  | midi
  | service
  deriving DecidableEq, Repr

/-- The value of a sub-protocol in the high three bits of header byte 4. -/
def VbanSubProtocol.code : VbanSubProtocol → UInt8
  | .audio => 0x00
  | .serial => 0x20
  | .midi => 0x40
  | .service => 0x60

/-- `VbanSubCodec`, which can hold any byte. -/
structure VbanSubCodec where
  code : UInt8
  deriving DecidableEq, Repr

/-- `VbanSubCodec::PCM16`. -/
def VbanSubCodec.pcm16 : VbanSubCodec := ⟨0x01⟩

/-! ## The sample-rate table -/

/-- `kVbanSampleRates`. -/
def kVbanSampleRates : List UInt32 :=
  [6000, 12000, 24000, 48000, 96000, 192000, 384000,
    8000, 16000, 32000, 64000, 128000, 256000, 512000,
    11025, 22050, 44100, 88200, 176400, 352800, 705600]

/-- `kVbanSampleRateInvalid`. -/
def kVbanSampleRateInvalid : UInt8 := 0xFF

/-- `vbanSampleRateIndex`. -/
def vbanSampleRateIndex (hz : UInt32) : UInt8 :=
  match kVbanSampleRates.findIdx? (· == hz) with
  | some i => UInt8.ofNat i
  | none => kVbanSampleRateInvalid

/-- `vbanSampleRateHz`. -/
def vbanSampleRateHz (index : UInt8) : UInt32 :=
  if 21 ≤ index then 0 else kVbanSampleRates.getD index.toNat 0

/-- The table lists no rate twice, and none is zero. -/
theorem sampleRates_lookup :
    ∀ hz ∈ kVbanSampleRates, vbanSampleRateHz (vbanSampleRateIndex hz) = hz ∧
      vbanSampleRateIndex hz ≤ 20 ∧ hz ≠ 0 := by
  intro hz hmem
  -- checked entry by entry, not by trying every 32-bit number
  have hall : (kVbanSampleRates.all fun hz => decide (vbanSampleRateHz (vbanSampleRateIndex hz) = hz ∧
      vbanSampleRateIndex hz ≤ 20 ∧ hz ≠ 0)) = true := by
    decide +kernel
  exact of_decide_eq_true (List.all_eq_true.mp hall hz hmem)

/-- A rate that has an index stands in the table. -/
theorem mem_sampleRates {hz : UInt32} (h : vbanSampleRateIndex hz ≠ kVbanSampleRateInvalid) :
    hz ∈ kVbanSampleRates := by
  unfold vbanSampleRateIndex at h
  cases hfind : kVbanSampleRates.findIdx? (· == hz) with
  | none =>
    rw [hfind] at h
    exact absurd rfl h
  | some i =>
    obtain ⟨hlt, heq, -⟩ := List.findIdx?_eq_some_iff_getElem.mp hfind
    rw [← beq_iff_eq.mp heq]
    exact List.getElem_mem hlt

/-- **The table inverts its own lookup.** -/
theorem vbanSampleRateHz_index {hz : UInt32} (h : vbanSampleRateIndex hz ≠ kVbanSampleRateInvalid) :
    vbanSampleRateHz (vbanSampleRateIndex hz) = hz :=
  (sampleRates_lookup hz (mem_sampleRates h)).1

/-! ## Names -/

/-- `strnlen`. -/
def strnlen (s : List UInt8) (maxLen : ℕ) : ℕ := ((s.take maxLen).takeWhile (· != 0)).length

/-- `strncmp`: the difference of the first bytes that differ, up to a common NUL or `n` bytes. -/
def strncmp : List UInt8 → List UInt8 → ℕ → Int
  | _, _, 0 => 0
  | a, b, n + 1 =>
      if a.headD 0 ≠ b.headD 0 then (a.headD 0).toNat - (b.headD 0).toNat
      else if a.headD 0 = 0 then 0
      else strncmp a.tail b.tail n

/-- A `char` array for a name and its NUL. -/
abbrev VbanName := Buffer UInt8 (kVbanStreamNameBytes + 1)

/-- The name of all NULs. -/
def VbanName.zero : VbanName := Buffer.filled _ 0

/-- Clear the array, then copy at most sixteen bytes of a C string. -/
def VbanName.ofCString (s : List UInt8) : VbanName :=
  VbanName.zero.blit 0 (readMem s 0 (strnlen s kVbanStreamNameBytes))

/-- The name field: the bytes of the name, zero-padded. -/
def nameField (s : List UInt8) : List UInt8 :=
  readMem s 0 (strnlen s kVbanStreamNameBytes) ++
    List.replicate (kVbanStreamNameBytes - strnlen s kVbanStreamNameBytes) 0

/-- `strnlen` stops at the limit. -/
theorem strnlen_le (s : List UInt8) (maxLen : ℕ) : strnlen s maxLen ≤ maxLen := by
  have hle := (List.takeWhile_sublist (fun b : UInt8 => b != 0) (l := s.take maxLen)).length_le
  rw [List.length_take] at hle
  exact hle.trans (min_le_left _ _)

/-- The name field takes 16 bytes. -/
theorem length_nameField (s : List UInt8) : (nameField s).length = 16 := by
  have hle := strnlen_le s kVbanStreamNameBytes
  rw [nameField, List.length_append, length_readMem, List.length_replicate,
    Nat.add_sub_of_le hle]
  rfl

/-- Equal strings compare equal. -/
theorem strncmp_self (s : List UInt8) (n : ℕ) : strncmp s s n = 0 := by
  induction n generalizing s with
  | zero => rfl
  | succ n ih =>
    rw [strncmp, if_neg (by simp)]
    split
    · rfl
    · exact ih s.tail

/-! ## Headers -/

/-- `VbanAudioHeader`. -/
structure VbanAudioHeader where
  sampleRateIndex : UInt8 := 0
  numSamples : UInt16 := 1
  numChannels : UInt16 := 1
  subCodec : VbanSubCodec := .pcm16
  streamName : VbanName := VbanName.zero
  frameCounter : UInt32 := 0

/-- `VbanServiceHeader`. -/
structure VbanServiceHeader where
  serviceFunction : UInt8 := 0
  serviceFlags : UInt8 := 0
  rawByte6 : UInt8 := 0
  rawByte7 : UInt8 := 0
  streamName : VbanName := VbanName.zero
  frameCounter : UInt32 := 0

/-- The failures of `VbanParseResult`; its `Ok` is `Except.ok`. -/
inductive VbanParseResult
  | tooShort
  | badSignature
  | notAudio
  | notService
  | sampleRateInvalid
  deriving DecidableEq, Repr

/-- The common shape of both headers: signature, bytes 4 to 7, name and little-endian frame
counter. -/
def vbanHeaderBytes (b4 b5 b6 b7 : UInt8) (streamName : VbanName) (frameCounter : UInt32) :
    List UInt8 :=
  kVbanSignature ++ [b4, b5, b6, b7] ++ nameField streamName.cells ++
    [byte32 0 frameCounter, byte32 8 frameCounter, byte32 16 frameCounter, byte32 24 frameCounter]

/-- A header takes 28 bytes. -/
theorem length_vbanHeaderBytes (b4 b5 b6 b7 : UInt8) (streamName : VbanName)
    (frameCounter : UInt32) :
    (vbanHeaderBytes b4 b5 b6 b7 streamName frameCounter).length = 28 := by
  simp [vbanHeaderBytes, kVbanSignature, length_nameField]

/-- The bytes that `encodeAudioHeader` writes. -/
def audioHeaderBytes (h : VbanAudioHeader) : List UInt8 :=
  vbanHeaderBytes (VbanSubProtocol.audio.code ||| (h.sampleRateIndex &&& 0x1F))
    (h.numSamples - 1).toUInt8 (h.numChannels - 1).toUInt8 h.subCodec.code h.streamName
    h.frameCounter

/-- `encodeAudioHeader`: pack the header at the start of `out`; refuse a field out of range. -/
def encodeAudioHeader {n : ℕ} (h : VbanAudioHeader) (out : Buffer UInt8 n) :
    Bool × Buffer UInt8 n :=
  if h.sampleRateIndex > 20 then (false, out)
  else if h.numSamples < 1 ∨ h.numSamples > 256 then (false, out)
  else if h.numChannels < 1 ∨ h.numChannels > 256 then (false, out)
  else (true, out.blit 0 (audioHeaderBytes h))

/-- `encodeServiceHeader`. -/
def encodeServiceHeader {n : ℕ} (h : VbanServiceHeader) (out : Buffer UInt8 n) :
    Bool × Buffer UInt8 n :=
  if h.serviceFunction > kVbanServiceFunctionMask then (false, out)
  else
    (true, out.blit 0 (vbanHeaderBytes
      (VbanSubProtocol.service.code ||| (h.serviceFunction &&& kVbanServiceFunctionMask))
      h.serviceFlags h.rawByte6 h.rawByte7 h.streamName h.frameCounter))

/-- The name in header bytes 8 to 23, with a NUL behind it. -/
def parsedName (mem : List UInt8) : VbanName :=
  (VbanName.zero.blit 0 (readMem mem 8 kVbanStreamNameBytes)).blit kVbanStreamNameBytes [0]

/-- The frame counter in header bytes 24 to 27. -/
def parsedCounter (mem : List UInt8) : UInt32 :=
  word32 (byteAt mem 27) (byteAt mem 26) (byteAt mem 25) (byteAt mem 24)

/-- `parseAudioHeader`: parse the header of the packet in the first `len` bytes of `mem`. -/
def parseAudioHeader (mem : List UInt8) (len : ℕ) : Except VbanParseResult VbanAudioHeader :=
  if len < kVbanHeaderBytes then .error .tooShort
  else if readMem mem 0 4 ≠ kVbanSignature then .error .badSignature
  else if byteAt mem 4 &&& 0xE0 ≠ VbanSubProtocol.audio.code then .error .notAudio
  else if byteAt mem 4 &&& 0x1F > 20 then .error .sampleRateInvalid
  else
    .ok
      { sampleRateIndex := byteAt mem 4 &&& 0x1F
        numSamples := (byteAt mem 5).toUInt16 + 1
        numChannels := (byteAt mem 6).toUInt16 + 1
        subCodec := ⟨byteAt mem 7⟩
        streamName := parsedName mem
        frameCounter := parsedCounter mem }

/-- `parseServiceHeader`. -/
def parseServiceHeader (mem : List UInt8) (len : ℕ) : Except VbanParseResult VbanServiceHeader :=
  if len < kVbanHeaderBytes then .error .tooShort
  else if readMem mem 0 4 ≠ kVbanSignature then .error .badSignature
  else if byteAt mem 4 &&& 0xE0 ≠ VbanSubProtocol.service.code then .error .notService
  else
    .ok
      { serviceFunction := byteAt mem 4 &&& kVbanServiceFunctionMask
        serviceFlags := byteAt mem 5
        rawByte6 := byteAt mem 6
        rawByte7 := byteAt mem 7
        streamName := parsedName mem
        frameCounter := parsedCounter mem }

section Congr

variable {mem mem' : List UInt8} {len : ℕ} (h : mem.take len = mem'.take len)

include h

/-- The name is read from the header. -/
theorem parsedName_congr (hlen : 28 ≤ len) : parsedName mem = parsedName mem' := by
  have hfield : readMem mem 8 kVbanStreamNameBytes = readMem mem' 8 kVbanStreamNameBytes :=
    readMem_congr h (show 8 + 16 ≤ len by omega)
  rw [parsedName, parsedName, hfield]

/-- So is the counter. -/
theorem parsedCounter_congr (hlen : 28 ≤ len) : parsedCounter mem = parsedCounter mem' := by
  rw [parsedCounter, parsedCounter, byteAt_congr h (by omega), byteAt_congr h (by omega),
    byteAt_congr h (by omega), byteAt_congr h (by omega)]

/-- No byte at or past `len` is examined. -/
theorem parseAudioHeader_congr : parseAudioHeader mem len = parseAudioHeader mem' len := by
  unfold parseAudioHeader
  by_cases hlen : len < kVbanHeaderBytes
  · rw [if_pos hlen, if_pos hlen]
  · have hlen' : 28 ≤ len := Nat.not_lt.mp hlen
    have hb : ∀ i < 28, byteAt mem i = byteAt mem' i := fun i hi => byteAt_congr h (by omega)
    have hsig : readMem mem 0 4 = readMem mem' 0 4 := readMem_congr h (by omega)
    rw [if_neg hlen, if_neg hlen, hsig, parsedName_congr h hlen', parsedCounter_congr h hlen',
      hb 4 (by omega), hb 5 (by omega), hb 6 (by omega), hb 7 (by omega)]

/-- No byte at or past `len` is examined. -/
theorem parseServiceHeader_congr : parseServiceHeader mem len = parseServiceHeader mem' len := by
  unfold parseServiceHeader
  by_cases hlen : len < kVbanHeaderBytes
  · rw [if_pos hlen, if_pos hlen]
  · have hlen' : 28 ≤ len := Nat.not_lt.mp hlen
    have hb : ∀ i < 28, byteAt mem i = byteAt mem' i := fun i hi => byteAt_congr h (by omega)
    have hsig : readMem mem 0 4 = readMem mem' 0 4 := readMem_congr h (by omega)
    rw [if_neg hlen, if_neg hlen, hsig, parsedName_congr h hlen', parsedCounter_congr h hlen',
      hb 4 (by omega), hb 5 (by omega), hb 6 (by omega), hb 7 (by omega)]

end Congr

/-! ## Round trip -/

/-- What an encoded header looks like from inside a packet. -/
theorem vbanHeaderBytes_getD (b4 b5 b6 b7 : UInt8) (streamName : VbanName) (frameCounter : UInt32)
    (rest : List UInt8) :
    (∀ i < 4, byteAt (vbanHeaderBytes b4 b5 b6 b7 streamName frameCounter ++ rest) (4 + i)
      = [b4, b5, b6, b7].getD i 0) ∧
      (∀ i < 4, byteAt (vbanHeaderBytes b4 b5 b6 b7 streamName frameCounter ++ rest) (24 + i)
        = [byte32 0 frameCounter, byte32 8 frameCounter, byte32 16 frameCounter,
          byte32 24 frameCounter].getD i 0) ∧
      readMem (vbanHeaderBytes b4 b5 b6 b7 streamName frameCounter ++ rest) 0 4 = kVbanSignature ∧
      readMem (vbanHeaderBytes b4 b5 b6 b7 streamName frameCounter ++ rest) 8 16
        = nameField streamName.cells := by
  have hlen := length_vbanHeaderBytes b4 b5 b6 b7 streamName frameCounter
  have hname := length_nameField streamName.cells
  set tail := [byte32 0 frameCounter, byte32 8 frameCounter, byte32 16 frameCounter,
    byte32 24 frameCounter] with htail
  have hsplit : vbanHeaderBytes b4 b5 b6 b7 streamName frameCounter ++ rest
      = kVbanSignature ++ ([b4, b5, b6, b7] ++ (nameField streamName.cells ++ (tail ++ rest))) := by
    simp only [vbanHeaderBytes, List.append_assoc, htail]
  -- bytes 4 to 7 and 24 to 27, the signature, and the name
  refine ⟨fun i hi => ?_, fun i hi => ?_, ?_, ?_⟩
  · rw [byteAt, hsplit, List.getD_append_right _ _ _ _ (by simp [kVbanSignature]),
      List.getD_append _ _ _ _ (by simp [kVbanSignature]; omega)]
    congr 1
    simp [kVbanSignature]
  · rw [byteAt, hsplit, List.getD_append_right _ _ _ _ (by simp [kVbanSignature]; omega),
      List.getD_append_right _ _ _ _ (by simp [kVbanSignature]; omega),
      List.getD_append_right _ _ _ _ (by rw [hname]; simp [kVbanSignature]; omega),
      List.getD_append _ _ _ _ (by rw [hname]; simp [kVbanSignature, htail]; omega), hname]
    congr 1
    simp [kVbanSignature]
    omega
  · rw [readMem_eq (by rw [List.length_append, hlen]; omega), hsplit, List.drop_zero]
    exact List.take_left' rfl
  · rw [readMem_eq (by rw [List.length_append, hlen]; omega), hsplit, ← List.append_assoc,
      List.drop_left' (by simp [kVbanSignature]), List.take_left' hname]

/-- A name array holds the name field and a NUL. -/
theorem VbanName.cells_ofCString (s : List UInt8) :
    (VbanName.ofCString s).cells = nameField s ++ [0] := by
  have hle := strnlen_le s kVbanStreamNameBytes
  have hpad : List.replicate (kVbanStreamNameBytes - strnlen s kVbanStreamNameBytes) (0 : UInt8) ++ [0]
      = List.replicate (kVbanStreamNameBytes + 1 - strnlen s kVbanStreamNameBytes) 0 := by
    rw [← List.replicate_succ', Nat.succ_sub hle]
  have hblit := Buffer.cells_blit_filled (kVbanStreamNameBytes + 1) (0 : UInt8)
    (readMem s 0 (strnlen s kVbanStreamNameBytes)) (by rw [length_readMem]; omega)
  rw [length_readMem] at hblit
  rw [nameField, List.append_assoc, hpad]
  exact hblit

/-- A parsed name holds header bytes 8 to 23 and a NUL. -/
theorem cells_parsedName (mem : List UInt8) : (parsedName mem).cells = readMem mem 8 16 ++ [0] := by
  have hlen : (readMem mem 8 kVbanStreamNameBytes).length = kVbanStreamNameBytes := length_readMem _ _ _
  have hcat : (VbanName.zero.blit 0 (readMem mem 8 kVbanStreamNameBytes)).blit kVbanStreamNameBytes [0]
      = VbanName.zero.blit 0 (readMem mem 8 kVbanStreamNameBytes ++ [0]) := by
    rw [← Buffer.blit_append, hlen, Nat.zero_add]
  rw [parsedName, hcat]
  exact (Buffer.cells_blit_filled _ _ _ (by rw [List.length_append, hlen]; rfl)).trans
    (by simp [kVbanStreamNameBytes])

/-- The parsed name is the encoded name. -/
theorem parsedName_encoded {mem s : List UInt8} (h : readMem mem 8 16 = nameField s) :
    parsedName mem = VbanName.ofCString s := by
  ext1
  rw [VbanName.cells_ofCString, cells_parsedName, h]

/-- **An encoded header, field by field**, whatever follows it. -/
theorem vbanHeader_fields (b4 b5 b6 b7 : UInt8) (streamName : VbanName) (frameCounter : UInt32)
    (rest : List UInt8) {d : List UInt8}
    (hd : d = vbanHeaderBytes b4 b5 b6 b7 streamName frameCounter ++ rest) :
    readMem d 0 4 = kVbanSignature ∧ byteAt d 4 = b4 ∧ byteAt d 5 = b5 ∧ byteAt d 6 = b6 ∧
      byteAt d 7 = b7 ∧ parsedName d = VbanName.ofCString streamName.cells ∧
      parsedCounter d = frameCounter := by
  obtain ⟨hmid, htail, hsig, hname⟩ :=
    vbanHeaderBytes_getD b4 b5 b6 b7 streamName frameCounter rest
  rw [← hd] at hmid htail hsig hname
  have h24 := htail 0 (by omega)
  have h25 := htail 1 (by omega)
  have h26 := htail 2 (by omega)
  have h27 := htail 3 (by omega)
  simp only [Nat.reduceAdd, List.getD_cons_zero, List.getD_cons_succ] at h24 h25 h26 h27
  refine ⟨hsig, hmid 0 (by omega), hmid 1 (by omega), hmid 2 (by omega), hmid 3 (by omega),
    parsedName_encoded hname, ?_⟩
  rw [parsedCounter, h24, h25, h26, h27, word32_bytes]

/-- The sample-rate index survives in the low five bits of byte 4. -/
theorem rateByte_fields : ∀ i : Fin 21,
    (VbanSubProtocol.audio.code ||| (UInt8.ofNat i &&& 0x1F)) &&& 0xE0 = VbanSubProtocol.audio.code ∧
      (VbanSubProtocol.audio.code ||| (UInt8.ofNat i &&& 0x1F)) &&& 0x1F = UInt8.ofNat i := by
  decide +kernel

/-- A count from 1 to 256 survives as one less in a byte. -/
theorem minusOne_roundTrip {k : UInt16} (hpos : 1 ≤ k) (hmax : k ≤ 256) :
    (k - 1).toUInt8.toUInt16 + 1 = k := by
  have h1 : 1 ≤ k.toNat := UInt16.le_iff_toNat_le.mp hpos
  have h2 : k.toNat ≤ 256 := UInt16.le_iff_toNat_le.mp hmax
  have hsub : (k - 1).toNat = k.toNat - 1 := UInt16.toNat_sub_of_le k 1 hpos
  apply UInt16.toNat_inj.mp
  rw [UInt16.toNat_add, UInt8.toNat_toUInt16, UInt16.toNat_toUInt8, hsub]
  show ((k.toNat - 1) % 2 ^ 8 + 1) % 2 ^ 16 = k.toNat
  omega

/-- A number of samples up to 256 survives as a `uint16_t`, and is in the range that a header can say. -/
theorem numSamples_range {k : ℕ} (hpos : 0 < k) (hle : k ≤ 256) :
    (UInt16.ofNat k).toNat = k ∧ 1 ≤ UInt16.ofNat k ∧ UInt16.ofNat k ≤ 256 := by
  have hk : (UInt16.ofNat k).toNat = k := by
    rw [UInt16.toNat_ofNat']
    exact Nat.mod_eq_of_lt (by omega)
  rw [UInt16.le_iff_toNat_le, UInt16.le_iff_toNat_le, hk]
  exact ⟨rfl, hpos, hle⟩

/-- The encoder accepts every header whose fields are in range. -/
theorem encodeAudioHeader_eq {h : VbanAudioHeader} (hidx : h.sampleRateIndex ≤ 20)
    (hsamples : 1 ≤ h.numSamples ∧ h.numSamples ≤ 256)
    (hchannels : 1 ≤ h.numChannels ∧ h.numChannels ≤ 256) {n : ℕ} (out : Buffer UInt8 n) :
    encodeAudioHeader h out = (true, out.blit 0 (audioHeaderBytes h)) := by
  rw [encodeAudioHeader, if_neg (UInt8.not_lt.mpr hidx)]
  rw [if_neg (not_or.mpr ⟨UInt16.not_lt.mpr hsamples.1, UInt16.not_lt.mpr hsamples.2⟩)]
  rw [if_neg (not_or.mpr ⟨UInt16.not_lt.mpr hchannels.1, UInt16.not_lt.mpr hchannels.2⟩)]

/-- **The parser inverts the encoder** on every header it accepts, whatever follows; the name comes
back cut at its first NUL. -/
theorem parseAudioHeader_encoded {h : VbanAudioHeader} (hidx : h.sampleRateIndex ≤ 20)
    (hsamples : 1 ≤ h.numSamples ∧ h.numSamples ≤ 256)
    (hchannels : 1 ≤ h.numChannels ∧ h.numChannels ≤ 256) (rest : List UInt8) {len : ℕ}
    (hlen : 28 ≤ len) :
    parseAudioHeader (audioHeaderBytes h ++ rest) len
      = .ok { h with streamName := VbanName.ofCString h.streamName.cells } := by
  have hlt : h.sampleRateIndex.toNat < 21 := Nat.lt_succ_of_le (UInt8.le_iff_toNat_le.mp hidx)
  have hrate := rateByte_fields ⟨h.sampleRateIndex.toNat, hlt⟩
  simp only [UInt8.ofNat_toNat] at hrate
  obtain ⟨hsig, h4, h5, h6, h7, hname, hcounter⟩ := vbanHeader_fields _ _ _ _ _ _ rest
    (d := audioHeaderBytes h ++ rest) rfl
  have hpos : ¬ len < kVbanHeaderBytes := Nat.not_lt.mpr hlen
  have hgt : ¬ h.sampleRateIndex > 20 := UInt8.not_lt.mpr hidx
  -- every check passes, and the counts come back from one less
  rw [parseAudioHeader, if_neg hpos, if_neg (not_not.mpr hsig), hcounter, hname, h4, h5, h6, h7]
  simp only [hrate, ne_eq, not_true_eq_false, if_false, if_neg hgt,
    minusOne_roundTrip hsamples.1 hsamples.2, minusOne_roundTrip hchannels.1 hchannels.2]

end PcmFlowUdp
