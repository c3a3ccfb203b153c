import PcmFlowUdp.ByteTransport.PythonBytes
import PcmFlowUdp.Vban.StreamNames

/-! # The Python reference of the VBAN audio header

`tests/net_helpers/vban.py` encodes and parses VBAN audio headers a second time, in Python. Its parser knows no
range of the sample-rate index, keeps what stands behind a NUL in the name, and replaces what is not ASCII.

* **`NetHelpers.Vban.parseAudioHeader_eq`**, **`NetHelpers.Vban.encodeAudioHeader_eq`** — the Python functions
  against the datagrams that speak VBAN audio and against the octets of the C++ encoder;
* **`vban_codecs_agree`** — where the two codecs agree and where they do not. -/

namespace PcmFlowUdp

open ByteTransport

namespace NetHelpers.Vban

open Python

/-! ## `vban.py` -/

/-- `VBAN_SIGNATURE`. -/
def vbanSignature : List UInt8 := [0x56, 0x42, 0x41, 0x4E]

/-- `VBAN_HEADER_BYTES`. -/
def vbanHeaderBytes : ℤ := 28

/-- `VBAN_STREAM_NAME_BYTES`. -/
def vbanStreamNameBytes : ℕ := 16

/-- `VBAN_SUBPROTOCOL_AUDIO`. -/
def vbanSubprotocolAudio : ℤ := 0x00

/-- `VBAN_SUBCODEC_PCM16`. -/
def vbanSubcodecPcm16 : ℤ := 0x01

/-- `VBAN_SAMPLE_RATES`. -/
def vbanSampleRates : List ℤ :=
  [6000, 12000, 24000, 48000, 96000, 192000, 384000,
    8000, 16000, 32000, 64000, 128000, 256000, 512000,
    11025, 22050, 44100, 88200, 176400, 352800, 705600]

/-- What the functions can raise. -/
inductive PyError
  | valueError (message : String)
  | unicodeEncodeError
  | structError
  deriving DecidableEq

/-- A result, or this exception. -/
def raising {α : Type} (e : PyError) : Option α → Except PyError α
  | some a => .ok a
  | none => .error e

/-- `sample_rate_index`. -/
def sampleRateIndex (hz : ℤ) : Except PyError ℤ :=
  match vbanSampleRates.idxOf? hz with
  | some i => .ok i
  | none => .error (.valueError s!"sample rate {hz} Hz is not in the VBAN table")

/-- `VbanAudioHeader`: the numbers are Python integers of any size, the name is a text. -/
structure AudioHeader where
  sampleRateIndex : ℤ := 0
  numSamples : ℤ := 1
  numChannels : ℤ := 1
  subCodec : ℤ := vbanSubcodecPcm16
  streamName : List ℕ := []
  frameCounter : ℤ := 0
  deriving DecidableEq

/-- `encode_audio_header`. -/
def encodeAudioHeader (h : AudioHeader) : Except PyError (List UInt8) :=
  if ¬ (0 ≤ h.sampleRateIndex ∧ h.sampleRateIndex ≤ 20) then
    .error (.valueError "sample_rate_index out of range")
  else if ¬ (1 ≤ h.numSamples ∧ h.numSamples ≤ 256) then .error (.valueError "num_samples out of range")
  else if ¬ (1 ≤ h.numChannels ∧ h.numChannels ≤ 256) then .error (.valueError "num_channels out of range")
  else do
    let encoded ← raising .unicodeEncodeError (encodeAscii h.streamName)
    let name := ljust (slice encoded 0 vbanStreamNameBytes) vbanStreamNameBytes 0x00
    let noByte := PyError.valueError "byte must be in range(0, 256)"
    let buf := setSlice (List.replicate 28 0) 0 4 vbanSignature
    let buf ← raising noByte (setItem buf 4 (Int.lor vbanSubprotocolAudio (Int.land h.sampleRateIndex 0x1F)))
    let buf ← raising noByte (setItem buf 5 (h.numSamples - 1))
    let buf ← raising noByte (setItem buf 6 (h.numChannels - 1))
    let buf ← raising noByte (setItem buf 7 (Int.land h.subCodec 0xFF))
    let buf := setSlice buf 8 24 name
    let counter ← raising .structError (packField .little .I (Int.land h.frameCounter 0xFFFFFFFF))
    .ok (setSlice buf 24 28 counter)

/-- `parse_audio_header`: `none` is `None`. -/
def parseAudioHeader (data : List UInt8) : Except PyError (Option AudioHeader) :=
  if (data.length : ℤ) < vbanHeaderBytes ∨ slice data 0 4 ≠ vbanSignature then .ok none
  else if Int.land (byteAt data 4).toNat 0xE0 ≠ vbanSubprotocolAudio then .ok none
  else do
    let name := decodeAscii (rstrip (slice data 8 24) 0x00)
    let counter ← raising .structError (unpackField .little .I (slice data 24 28))
    .ok (some
      { sampleRateIndex := Int.land (byteAt data 4).toNat 0x1F
        numSamples := (byteAt data 5).toNat + 1
        numChannels := (byteAt data 6).toNat + 1
        subCodec := (byteAt data 7).toNat
        streamName := name
        frameCounter := counter })

/-! ## The parser -/

/-- The text in a name array: Python strips the NULs at the end, and no others. -/
def nameText (name : VbanName) : List ℕ := decodeAscii (rstrip name.cells 0)

/-- The bit fields of an octet, by Python's operators and by those of C++. -/
theorem octet_bits : ∀ n : Fin 256,
    (Int.land (n.val : ℤ) 0xE0 = 0 ↔ UInt8.ofNat n &&& 0xE0 = 0) ∧
      Int.land (n.val : ℤ) 0x1F = ((UInt8.ofNat n &&& 0x1F).toNat : ℤ) := by
  decide +kernel

end NetHelpers.Vban

/-- The Python header with the same fields. -/
def VbanAudioHeader.toPython (h : VbanAudioHeader) : NetHelpers.Vban.AudioHeader where
  sampleRateIndex := h.sampleRateIndex.toNat
  numSamples := h.numSamples.toNat
  numChannels := h.numChannels.toNat
  subCodec := h.subCodec.code.toNat
  streamName := NetHelpers.Vban.nameText h.streamName
  frameCounter := h.frameCounter.toNat

namespace NetHelpers.Vban

open Python

/-- **What `parse_audio_header` returns**; it raises nothing, and looks at no range of the index. -/
theorem parseAudioHeader_eq (b : List UInt8) :
    parseAudioHeader b = .ok (if SpeaksVban .audio b then some (audioHeader b).toPython else none) := by
  have hk : vbanHeaderBytes = (28 : ℕ) := rfl
  unfold parseAudioHeader
  -- the three guards of the Python parser: the length, the signature and the sub-protocol
  by_cases hshort : b.length < 28
  · have hnot : ¬ SpeaksVban .audio b := fun h => absurd h.length (Nat.not_le.mpr hshort)
    rw [if_pos (.inl (by rw [hk]; exact_mod_cast hshort)), if_neg hnot]
  have h28 : 28 ≤ b.length := Nat.not_lt.mp hshort
  have hlong : ¬ (b.length : ℤ) < vbanHeaderBytes := by rw [hk]; exact_mod_cast hshort
  have hsig : slice b 0 4 = b.take 4 := slice_of_le (i := 0) (j := 4) (by omega) (by omega)
  obtain ⟨haudio, hrate⟩ := octet_bits ⟨(byteAt b 4).toNat, (byteAt b 4).toNat_lt⟩
  simp only [UInt8.ofNat_toNat] at haudio hrate
  rw [hsig]
  by_cases hspeaks : SpeaksVban .audio b
  swap
  · rw [if_neg hspeaks]
    by_cases hmark : b.take 4 = vbanSignature
    · have hother : Int.land (byteAt b 4).toNat 0xE0 ≠ vbanSubprotocolAudio := fun h =>
        hspeaks ⟨h28, hmark, haudio.mp h⟩
      rw [if_neg (not_or.mpr ⟨hlong, not_not.mpr hmark⟩), if_pos hother]
    · rw [if_pos (.inr hmark)]
  -- past the guards: every field is the one that the device reads
  have hname : slice b 8 24 = readMem b 8 16 := by
    rw [readMem_eq (show 8 + 16 ≤ b.length by omega)]
    exact slice_of_le (i := 8) (j := 24) (by omega) (by omega)
  have hcounter : slice b 24 28 = [byteAt b 24, byteAt b 25, byteAt b 26, byteAt b 27] := by
    have hcut : slice b 24 28 = (b.drop 24).take 4 := slice_of_le (i := 24) (j := 28) (by omega) h28
    rw [hcut, take_drop_eq_map_byteAt (show 24 + 4 ≤ b.length by omega)]
    rfl
  have htext : rstrip (slice b 8 24) 0 = rstrip (parsedName b).cells 0 := by
    rw [hname, cells_parsedName, rstrip, rstrip, List.rdropWhile_concat_pos _ _ _ rfl]
  have hword := word32_bigEndian (byteAt b 27) (byteAt b 26) (byteAt b 25) (byteAt b 24)
  have hmark : b.take 4 = vbanSignature := hspeaks.signature
  have hsub : Int.land (byteAt b 4).toNat 0xE0 = vbanSubprotocolAudio := haudio.mpr hspeaks.subProtocol
  rw [if_neg (not_or.mpr ⟨hlong, not_not.mpr hmark⟩), if_neg (not_not.mpr hsub), if_pos hspeaks, hcounter, htext,
    hrate]
  have hunpack : unpackField .little .I [byteAt b 24, byteAt b 25, byteAt b 26, byteAt b 27]
      = some ((parsedCounter b).toNat : ℤ) := by
    rw [parsedCounter, hword]
    rfl
  have hcount : ∀ x : UInt8, ((x.toUInt16 + 1).toNat : ℤ) = x.toNat + 1 := by
    intro x
    have hx := x.toNat_lt
    have hsum : (x.toUInt16 + 1).toNat = (x.toNat + 1) % 2 ^ 16 := by
      rw [UInt16.toNat_add, UInt8.toNat_toUInt16]
      rfl
    rw [hsum]
    omega
  rw [hunpack, VbanAudioHeader.toPython, audioHeader, hcount, hcount]
  rfl

/-- **When the text is the C string**: when that is ASCII, and nothing stands behind it. -/
theorem nameText_eq_iff (name : VbanName) :
    nameText name = name.cString.map UInt8.toNat ↔
      (∀ x ∈ name.cString, x < 128) ∧ ∀ x ∈ name.cells.dropWhile (· != 0), x = 0 := by
  rw [nameText, VbanName.cString, ← rstrip_eq_takeWhile_iff]
  constructor
  · intro heq
    -- both are first parts of the array, and of one length
    have hlen : (rstrip name.cells 0).length = (name.cells.takeWhile (· != 0)).length := by
      have hcount := congrArg List.length heq
      rwa [decodeAscii, List.length_map, List.length_map] at hcount
    have hsame : rstrip name.cells 0 = name.cells.takeWhile (· != 0) := by
      have hpre : rstrip name.cells 0 <+: name.cells := List.rdropWhile_prefix ..
      exact (List.prefix_of_prefix_length_le hpre (List.takeWhile_prefix _) hlen.le).eq_of_length hlen
    rw [hsame, decodeAscii_eq_iff] at heq
    exact ⟨heq, hsame⟩
  · rintro ⟨hascii, hsame⟩
    rw [hsame, decodeAscii_eq_iff]
    exact hascii

/-! ## The encoder -/

/-- The fields are in the range of the encoder. -/
structure AudioHeader.InRange (h : AudioHeader) : Prop where
  sampleRateIndex : 0 ≤ h.sampleRateIndex ∧ h.sampleRateIndex ≤ 20
  numSamples : 1 ≤ h.numSamples ∧ h.numSamples ≤ 256
  numChannels : 1 ≤ h.numChannels ∧ h.numChannels ≤ 256

/-- The octets in front of the name of a header in range. -/
def headOctets (h : AudioHeader) : List UInt8 :=
  vbanSignature ++ [UInt8.ofNat h.sampleRateIndex.toNat, UInt8.ofNat (h.numSamples - 1).toNat,
    UInt8.ofNat (h.numChannels - 1).toNat, UInt8.ofNat (Int.land h.subCodec 0xFF).toNat]

/-- The octets of a header in range, with the name as octets. -/
def headerOctets (h : AudioHeader) (text : List UInt8) : List UInt8 :=
  headOctets h ++ ljust (text.take vbanStreamNameBytes) vbanStreamNameBytes 0
    ++ (octets 4 (Int.land h.frameCounter 0xFFFFFFFF).toNat).reverse

/-- The first octet behind the signature. -/
theorem rateOctet : ∀ n : Fin 21,
    Int.lor vbanSubprotocolAudio (Int.land (n.val : ℤ) 0x1F) = n.val := by
  decide +kernel

/-- A name fills its field. -/
theorem length_nameField (text : List UInt8) :
    (ljust (text.take vbanStreamNameBytes) vbanStreamNameBytes 0).length = 16 := by
  have hle : (text.take vbanStreamNameBytes).length ≤ 16 := List.length_take_le _ _
  rw [ljust, List.length_append, List.length_replicate]
  exact Nat.add_sub_of_le hle

/-- **What `encode_audio_header` writes**, when every field is in range and the name is ASCII. -/
theorem encodeAudioHeader_ok {h : AudioHeader} (hrange : h.InRange) {text : List UInt8}
    (htext : encodeAscii h.streamName = some text) : encodeAudioHeader h = .ok (headerOctets h text) := by
  obtain ⟨⟨hidx, hidx'⟩, ⟨hsamples, hsamples'⟩, ⟨hchannels, hchannels'⟩⟩ := hrange
  have hfour : Int.lor vbanSubprotocolAudio (Int.land h.sampleRateIndex 0x1F) = h.sampleRateIndex := by
    have hbyte := rateOctet ⟨h.sampleRateIndex.toNat, by omega⟩
    dsimp only at hbyte
    rwa [Int.toNat_of_nonneg hidx] at hbyte
  have hset : ∀ {buf : List UInt8} {i : ℕ} {v : ℤ}, i < buf.length → 0 ≤ v → v < 256 →
      setItem buf i v = some (buf.set i (UInt8.ofNat v.toNat)) := fun hi h0 hlt => if_pos ⟨hi, h0, hlt⟩
  obtain ⟨hcodec, hcodec'⟩ : 0 ≤ Int.land h.subCodec 0xFF ∧ Int.land h.subCodec 0xFF < 256 :=
    land_mask_bounds h.subCodec 8
  have hcounter : packField .little .I (Int.land h.frameCounter 0xFFFFFFFF)
      = some (octets 4 (Int.land h.frameCounter 0xFFFFFFFF).toNat).reverse :=
    if_pos (land_mask_bounds h.frameCounter 32)
  have hname := length_nameField text
  rw [encodeAudioHeader, if_neg (not_not.mpr ⟨hidx, hidx'⟩), if_neg (not_not.mpr ⟨hsamples, hsamples'⟩),
    if_neg (not_not.mpr ⟨hchannels, hchannels'⟩), htext, hfour, hcounter]
  have hslice : slice text 0 vbanStreamNameBytes = text.take vbanStreamNameBytes := slice_zero _ _
  -- the array after each of the four assignments
  have h4 : setItem (setSlice (List.replicate 28 0) 0 4 vbanSignature) 4 h.sampleRateIndex
      = some (vbanSignature ++ UInt8.ofNat h.sampleRateIndex.toNat :: List.replicate 23 0) :=
    hset (by decide) hidx (by omega)
  have h5 : setItem (vbanSignature ++ UInt8.ofNat h.sampleRateIndex.toNat :: List.replicate 23 0) 5
      (h.numSamples - 1) = some (vbanSignature ++ UInt8.ofNat h.sampleRateIndex.toNat ::
        UInt8.ofNat (h.numSamples - 1).toNat :: List.replicate 22 0) :=
    hset (by simp [vbanSignature]) (by omega) (by omega)
  have h6 : setItem (vbanSignature ++ UInt8.ofNat h.sampleRateIndex.toNat ::
      UInt8.ofNat (h.numSamples - 1).toNat :: List.replicate 22 0) 6 (h.numChannels - 1)
        = some (vbanSignature ++ UInt8.ofNat h.sampleRateIndex.toNat :: UInt8.ofNat (h.numSamples - 1).toNat ::
          UInt8.ofNat (h.numChannels - 1).toNat :: List.replicate 21 0) :=
    hset (by simp [vbanSignature]) (by omega) (by omega)
  have h7 : setItem (vbanSignature ++ UInt8.ofNat h.sampleRateIndex.toNat ::
      UInt8.ofNat (h.numSamples - 1).toNat :: UInt8.ofNat (h.numChannels - 1).toNat :: List.replicate 21 0) 7
        (Int.land h.subCodec 0xFF)
        = some (headOctets h ++ List.replicate 16 0 ++ List.replicate 4 0) :=
    hset (by simp [vbanSignature]) hcodec hcodec'
  have hhead : (headOctets h).length = 8 := rfl
  have hmid : (headOctets h ++ List.replicate 16 0).length = 24 := rfl
  have hall : (headOctets h ++ ljust (text.take vbanStreamNameBytes) vbanStreamNameBytes 0).length = 24 := by
    rw [List.length_append, hhead, length_nameField]
  dsimp only [raising, Bind.bind, Except.bind]
  rw [hslice, h4]
  dsimp only
  rw [h5]
  dsimp only
  rw [h6]
  dsimp only
  rw [h7]
  dsimp only
  rw [setSlice_append hhead hmid]
  have hend : (headOctets h ++ ljust (text.take vbanStreamNameBytes) vbanStreamNameBytes 0
      ++ List.replicate 4 0).length = 28 := by
    rw [List.length_append, hall, List.length_replicate]
  have hlast := setSlice_append hall hend [] (octets 4 (Int.land h.frameCounter 0xFFFFFFFF).toNat).reverse
  rw [List.append_nil, List.append_nil] at hlast
  rw [hlast]
  rfl

/-- An encoder that raises nothing found every field in range. -/
theorem inRange_of_ok {h : AudioHeader} {octets : List UInt8} (hok : encodeAudioHeader h = .ok octets) :
    h.InRange := by
  rw [encodeAudioHeader] at hok
  split at hok
  · cases hok
  rename_i hidx
  split at hok
  · cases hok
  rename_i hsamples
  split at hok
  · cases hok
  rename_i hchannels
  exact ⟨not_not.mp hidx, not_not.mp hsamples, not_not.mp hchannels⟩

/-- **When `encode_audio_header` raises**, whatever the integers in the header and the text of the name. -/
theorem encodeAudioHeader_raises_iff (h : AudioHeader) (e : PyError) :
    encodeAudioHeader h = .error e ↔
      ¬ (0 ≤ h.sampleRateIndex ∧ h.sampleRateIndex ≤ 20) ∧ e = .valueError "sample_rate_index out of range" ∨
      (0 ≤ h.sampleRateIndex ∧ h.sampleRateIndex ≤ 20) ∧ ¬ (1 ≤ h.numSamples ∧ h.numSamples ≤ 256) ∧
        e = .valueError "num_samples out of range" ∨
      (0 ≤ h.sampleRateIndex ∧ h.sampleRateIndex ≤ 20) ∧ (1 ≤ h.numSamples ∧ h.numSamples ≤ 256) ∧
        ¬ (1 ≤ h.numChannels ∧ h.numChannels ≤ 256) ∧ e = .valueError "num_channels out of range" ∨
      h.InRange ∧ (∃ c ∈ h.streamName, 128 ≤ c) ∧ e = .unicodeEncodeError := by
  -- the guards in the order in which Python raises, the text of the name last
  by_cases hidx : 0 ≤ h.sampleRateIndex ∧ h.sampleRateIndex ≤ 20
  swap
  · have hraise : encodeAudioHeader h = .error (.valueError "sample_rate_index out of range") := if_pos hidx
    have hnot : ¬ h.InRange := fun hrange => hidx hrange.sampleRateIndex
    simp [hraise, hidx, hnot, eq_comm]
  by_cases hsamples : 1 ≤ h.numSamples ∧ h.numSamples ≤ 256
  swap
  · have hraise : encodeAudioHeader h = .error (.valueError "num_samples out of range") := by
      rw [encodeAudioHeader, if_neg (not_not.mpr hidx), if_pos hsamples]
    have hnot : ¬ h.InRange := fun hrange => hsamples hrange.numSamples
    simp [hraise, hidx, hsamples, hnot, eq_comm]
  by_cases hchannels : 1 ≤ h.numChannels ∧ h.numChannels ≤ 256
  swap
  · have hraise : encodeAudioHeader h = .error (.valueError "num_channels out of range") := by
      rw [encodeAudioHeader, if_neg (not_not.mpr hidx), if_neg (not_not.mpr hsamples), if_pos hchannels]
    have hnot : ¬ h.InRange := fun hrange => hchannels hrange.numChannels
    simp [hraise, hidx, hsamples, hchannels, hnot, eq_comm]
  have hrange : h.InRange := ⟨hidx, hsamples, hchannels⟩
  by_cases hascii : ∀ c ∈ h.streamName, c < 128
  · have htext : encodeAscii h.streamName = some (h.streamName.map UInt8.ofNat) := if_pos hascii
    have hnone : ¬ ∃ c ∈ h.streamName, 128 ≤ c := fun ⟨c, hc, hbig⟩ => absurd (hascii c hc) (Nat.not_lt.mpr hbig)
    simp [encodeAudioHeader_ok hrange htext, hidx, hsamples, hchannels, hnone]
  · have htext : encodeAscii h.streamName = none := if_neg hascii
    have hraise : encodeAudioHeader h = .error .unicodeEncodeError := by
      rw [encodeAudioHeader, if_neg (not_not.mpr hidx), if_neg (not_not.mpr hsamples),
        if_neg (not_not.mpr hchannels), htext]
      rfl
    have hsome : ∃ c ∈ h.streamName, 128 ≤ c := by simpa using hascii
    simp [hraise, hidx, hsamples, hchannels, hrange, hsome, eq_comm]

/-- What `encode_audio_header` accepts. -/
theorem encodeAudioHeader_accepts_iff (h : AudioHeader) :
    (∃ octets, encodeAudioHeader h = .ok octets) ↔ h.InRange ∧ ∀ c ∈ h.streamName, c < 128 := by
  constructor
  · rintro ⟨octets, hok⟩
    refine ⟨inRange_of_ok hok, fun c hc => ?_⟩
    by_contra hbig
    have hraise := (encodeAudioHeader_raises_iff h .unicodeEncodeError).mpr
      (.inr (.inr (.inr ⟨inRange_of_ok hok, ⟨c, hc, Nat.not_lt.mp hbig⟩, rfl⟩)))
    rw [hok] at hraise
    cases hraise
  · rintro ⟨hrange, hascii⟩
    exact ⟨_, encodeAudioHeader_ok hrange (if_pos hascii)⟩

/-- The Python header has the fields of the C++ one; the name is ASCII without a NUL, and was stored in the name
array. -/
structure AudioHeader.Denotes (hp : AudioHeader) (h : VbanAudioHeader) : Prop where
  sampleRateIndex : hp.sampleRateIndex = h.sampleRateIndex.toNat
  numSamples : hp.numSamples = h.numSamples.toNat
  numChannels : hp.numChannels = h.numChannels.toNat
  subCodec : hp.subCodec = h.subCodec.code.toNat
  streamName : ∃ text, encodeAscii hp.streamName = some text ∧ 0 ∉ text ∧ h.streamName = VbanName.ofCString text
  frameCounter : hp.frameCounter = h.frameCounter.toNat

/-- The fields have values that fit those of the C++ header. -/
structure AudioHeader.InWireRange (hp : AudioHeader) : Prop where
  sampleRateIndex : 0 ≤ hp.sampleRateIndex ∧ hp.sampleRateIndex < 2 ^ 8
  numSamples : 0 ≤ hp.numSamples ∧ hp.numSamples < 2 ^ 16
  numChannels : 0 ≤ hp.numChannels ∧ hp.numChannels < 2 ^ 16
  subCodec : 0 ≤ hp.subCodec ∧ hp.subCodec < 2 ^ 8
  streamName : ∀ c ∈ hp.streamName, 0 < c ∧ c < 128
  frameCounter : 0 ≤ hp.frameCounter ∧ hp.frameCounter < 2 ^ 32

/-- The names of ASCII characters without a NUL are those that can be stored. -/
theorem encodeAscii_iff (name : List ℕ) :
    (∀ c ∈ name, 0 < c ∧ c < 128) ↔ ∃ text, encodeAscii name = some text ∧ 0 ∉ text := by
  constructor
  · intro hname
    refine ⟨_, if_pos fun c hc => (hname c hc).2, fun hnul => ?_⟩
    obtain ⟨c, hc, h0⟩ := List.mem_map.mp hnul
    have hcode : (UInt8.ofNat c).toNat = c := UInt8.toNat_ofNat_of_lt' (lt_trans (hname c hc).2 (by decide))
    rw [h0] at hcode
    exact absurd hcode (hname c hc).1.ne
  · rintro ⟨text, htext, hnul⟩ c hc
    obtain ⟨hascii, hcodes⟩ := decodeAscii_encodeAscii htext
    rw [← hcodes] at hc
    obtain ⟨x, hx, rfl⟩ := List.mem_map.mp hc
    refine ⟨Nat.pos_of_ne_zero fun h0 => hnul ?_, UInt8.lt_iff_toNat_lt.mp (hascii x hx)⟩
    rwa [UInt8.toNat_inj.mp (show x.toNat = (0 : UInt8).toNat from h0)] at hx

/-- The C++ headers have the values that fit the fields, and all of them. -/
theorem inWireRange_iff (hp : AudioHeader) : hp.InWireRange ↔ ∃ h, hp.Denotes h := by
  constructor
  · rintro ⟨hidx, hsamples, hchannels, hcodec, hname, hcounter⟩
    obtain ⟨sampleRateIndex, hidx⟩ := fits_uint8_iff.mp hidx
    obtain ⟨numSamples, hsamples⟩ := fits_uint16_iff.mp hsamples
    obtain ⟨numChannels, hchannels⟩ := fits_uint16_iff.mp hchannels
    obtain ⟨code, hcodec⟩ := fits_uint8_iff.mp hcodec
    obtain ⟨text, htext, hnul⟩ := (encodeAscii_iff _).mp hname
    obtain ⟨frameCounter, hcounter⟩ := fits_uint32_iff.mp hcounter
    exact ⟨{ sampleRateIndex, numSamples, numChannels, subCodec := ⟨code⟩, streamName := VbanName.ofCString text,
             frameCounter }, hidx, hsamples, hchannels, hcodec, ⟨text, htext, hnul, rfl⟩, hcounter⟩
  · rintro ⟨h, hidx, hsamples, hchannels, hcodec, ⟨text, htext, hnul, -⟩, hcounter⟩
    exact ⟨fits_uint8_iff.mpr ⟨_, hidx⟩, fits_uint16_iff.mpr ⟨_, hsamples⟩, fits_uint16_iff.mpr ⟨_, hchannels⟩,
      fits_uint8_iff.mpr ⟨_, hcodec⟩, (encodeAscii_iff _).mpr ⟨text, htext, hnul⟩,
        fits_uint32_iff.mpr ⟨_, hcounter⟩⟩

/-- A name without a NUL is laid out alike. -/
theorem nameField_ofCString {text : List UInt8} (hnul : 0 ∉ text) :
    nameField (VbanName.ofCString text).cells = ljust (text.take vbanStreamNameBytes) vbanStreamNameBytes 0 := by
  have hname : cName text = text.take kVbanStreamNameBytes := by
    apply List.takeWhile_eq_self_iff.mpr
    intro x hx
    exact bne_iff_ne.mpr fun h0 => hnul (h0 ▸ List.mem_of_mem_take hx)
  rw [VbanName.cells_ofCString, nameField_eq, cName_nameField, hname]
  rfl

/-- The rate index stands in its octet as it is. -/
theorem rateOctet_cpp : ∀ i : Fin 21,
    VbanSubProtocol.audio.code ||| (UInt8.ofNat i &&& 0x1F) = UInt8.ofNat i := by
  decide +kernel

/-- **`encode_audio_header` writes the octets of the C++ encoder.** -/
theorem encodeAudioHeader_eq {hp : AudioHeader} {h : VbanAudioHeader} (hsame : hp.Denotes h)
    (hrange : hp.InRange) : encodeAudioHeader hp = .ok (audioHeaderBytes h) := by
  obtain ⟨text, htext, hnul, hname⟩ := hsame.streamName
  -- each octet that Python computes over the integers is the one of the machine words
  have hfour : UInt8.ofNat hp.sampleRateIndex.toNat
      = VbanSubProtocol.audio.code ||| (h.sampleRateIndex &&& 0x1F) := by
    have hidx := hrange.sampleRateIndex
    rw [hsame.sampleRateIndex] at hidx ⊢
    have hbyte := rateOctet_cpp ⟨h.sampleRateIndex.toNat, by omega⟩
    rw [UInt8.ofNat_toNat] at hbyte
    rw [Int.toNat_natCast, UInt8.ofNat_toNat, hbyte]
  have hcount : ∀ {v : ℤ} {k : UInt16}, v = k.toNat → 1 ≤ v ∧ v ≤ 256 →
      UInt8.ofNat (v - 1).toNat = (k - 1).toUInt8 := by
    intro v k hv hv'
    have hsub : (k - 1).toNat = k.toNat - 1 :=
      UInt16.toNat_sub_of_le k 1 (UInt16.le_iff_toNat_le.mpr (show 1 ≤ k.toNat by omega))
    apply UInt8.toNat_inj.mp
    rw [UInt8.toNat_ofNat', UInt16.toNat_toUInt8, hsub]
    omega
  have hcodec : Int.land hp.subCodec 0xFF = h.subCodec.code.toNat := by
    rw [hsame.subCodec]
    exact land_mask_of_lt h.subCodec.code.toNat_lt
  have hcounter : (octets 4 (Int.land hp.frameCounter 0xFFFFFFFF).toNat).reverse
      = [byte32 0 h.frameCounter, byte32 8 h.frameCounter, byte32 16 h.frameCounter,
        byte32 24 h.frameCounter] := by
    have hmask : Int.land hp.frameCounter 0xFFFFFFFF = h.frameCounter.toNat := by
      rw [hsame.frameCounter]
      exact land_mask_of_lt h.frameCounter.toNat_lt
    have hword := word32_bigEndian (byte32 24 h.frameCounter) (byte32 16 h.frameCounter)
      (byte32 8 h.frameCounter) (byte32 0 h.frameCounter)
    have hback := octets_bigEndian [byte32 24 h.frameCounter, byte32 16 h.frameCounter,
      byte32 8 h.frameCounter, byte32 0 h.frameCounter]
    rw [word32_bytes] at hword
    rw [hmask, Int.toNat_natCast, hword]
    exact congrArg List.reverse hback
  rw [encodeAudioHeader_ok hrange htext, headerOctets, headOctets, hfour,
    hcount hsame.numSamples hrange.numSamples, hcount hsame.numChannels hrange.numChannels, hcodec, hcounter,
    Int.toNat_natCast, UInt8.ofNat_toNat,
    ← nameField_ofCString hnul, ← hname]
  rfl

/-- The rates are those of the C++ table. -/
theorem idxOf_vbanSampleRates (hz : UInt32) :
    vbanSampleRates.idxOf? (hz.toNat : ℤ) = kVbanSampleRates.findIdx? (· == hz) := by
  have htable : vbanSampleRates = kVbanSampleRates.map fun r => (r.toNat : ℤ) := by decide
  rw [htable, List.idxOf?, List.findIdx?_map]
  congr 1
  funext r
  rw [Bool.eq_iff_iff, Function.comp_apply, beq_iff_eq, beq_iff_eq, Nat.cast_inj]
  exact UInt32.toNat_inj

/-- **`sample_rate_index` returns what `vbanSampleRateIndex` does**, and raises where that answers `0xFF`, or
where the rate is no 32-bit number. -/
theorem sampleRateIndex_ok_iff (hz i : ℤ) :
    sampleRateIndex hz = .ok i ↔ ∃ rate : UInt32, hz = rate.toNat ∧
      vbanSampleRateIndex rate ≠ kVbanSampleRateInvalid ∧ i = (vbanSampleRateIndex rate).toNat := by
  have hindex : ∀ {rate : UInt32} {k : ℕ}, kVbanSampleRates.findIdx? (· == rate) = some k →
      vbanSampleRateIndex rate ≠ kVbanSampleRateInvalid ∧ (vbanSampleRateIndex rate).toNat = k := by
    intro rate k hk
    have hlt : k < 21 := (List.findIdx?_eq_some_iff_getElem.mp hk).1
    have hvalue : (vbanSampleRateIndex rate).toNat = k := by
      rw [vbanSampleRateIndex, hk]
      exact UInt8.toNat_ofNat_of_lt' (lt_trans hlt (by decide))
    refine ⟨fun hinvalid => ?_, hvalue⟩
    rw [hinvalid] at hvalue
    exact absurd (show 255 = k from hvalue) (by omega)
  constructor
  · intro hok
    rw [sampleRateIndex] at hok
    split at hok
    swap
    · cases hok
    rename_i k hk
    obtain rfl := Except.ok.inj hok
    -- the rate stands in the table, so it is a 32-bit number
    obtain ⟨hlt, hrate, -⟩ := List.findIdx?_eq_some_iff_getElem.mp hk
    have hmem : hz ∈ vbanSampleRates := eq_of_beq hrate ▸ List.getElem_mem hlt
    have hbounds : ∀ r ∈ vbanSampleRates, 0 ≤ r ∧ r.toNat < 2 ^ 32 := by decide
    obtain ⟨h0, hword⟩ := hbounds hz hmem
    have hcast : hz = (UInt32.ofNat hz.toNat).toNat := by
      rw [UInt32.toNat_ofNat_of_lt' hword, Int.toNat_of_nonneg h0]
    rw [hcast, idxOf_vbanSampleRates] at hk
    obtain ⟨hvalid, hvalue⟩ := hindex hk
    exact ⟨_, hcast, hvalid, by rw [hvalue]⟩
  · rintro ⟨rate, rfl, hvalid, rfl⟩
    cases hk : kVbanSampleRates.findIdx? (· == rate) with
    | none =>
      rw [vbanSampleRateIndex, hk] at hvalid
      exact absurd rfl hvalid
    | some k => rw [sampleRateIndex, idxOf_vbanSampleRates, hk, (hindex hk).2]

end NetHelpers.Vban

/-! ## Agreement -/

/-- A datagram that speaks VBAN audio is refused for its rate, or not at all. -/
theorem parseAudioHeader_speaks {b : List UInt8} (h : SpeaksVban .audio b) :
    parseAudioHeader b b.length
      = if byteAt b 4 &&& 0x1F > 20 then .error .sampleRateInvalid else .ok (audioHeader b) := by
  rw [parseAudioHeader, if_neg h.length.not_gt, if_neg (not_not.mpr h.readMem_signature),
    if_neg (not_not.mpr h.subProtocol)]
  rfl

/-- Any other is refused for something else. -/
theorem parseAudioHeader_other {b : List UInt8} (h : ¬ SpeaksVban .audio b) :
    ∃ err, err ≠ .sampleRateInvalid ∧ parseAudioHeader b b.length = .error err := by
  rw [parseAudioHeader]
  by_cases hlen : b.length < kVbanHeaderBytes
  · exact ⟨_, by decide, if_pos hlen⟩
  have hread : readMem b 0 4 = b.take 4 := by
    rw [readMem_eq (le_trans (by decide) (Nat.not_lt.mp hlen)), List.drop_zero]
  rw [if_neg hlen, hread]
  by_cases hsig : b.take 4 = kVbanSignature
  swap
  · exact ⟨_, by decide, if_pos hsig⟩
  have hsub : byteAt b 4 &&& 0xE0 ≠ VbanSubProtocol.audio.code := fun hsub => h ⟨Nat.not_lt.mp hlen, hsig, hsub⟩
  rw [if_neg (not_not.mpr hsig)]
  exact ⟨_, by decide, if_pos hsub⟩

/-- The two parsers. -/
theorem parseAudioHeader_python (b : List UInt8) :
    (∀ h, parseAudioHeader b b.length = .ok h → NetHelpers.Vban.parseAudioHeader b = .ok (some h.toPython)) ∧
      (parseAudioHeader b b.length = .error .sampleRateInvalid →
        ∃ hp, NetHelpers.Vban.parseAudioHeader b = .ok (some hp) ∧ 20 < hp.sampleRateIndex) ∧
      ∀ err, err ≠ .sampleRateInvalid → parseAudioHeader b b.length = .error err →
        NetHelpers.Vban.parseAudioHeader b = .ok none := by
  rw [NetHelpers.Vban.parseAudioHeader_eq]
  by_cases hspeaks : SpeaksVban .audio b
  · rw [parseAudioHeader_speaks hspeaks, if_pos hspeaks]
    by_cases hrate : byteAt b 4 &&& 0x1F > 20
    · rw [if_pos hrate]
      refine ⟨fun h heq => (by cases heq), fun _ => ⟨_, rfl, ?_⟩, fun err hne heq => ?_⟩
      · have hlt : 20 < (byteAt b 4 &&& 0x1F).toNat := UInt8.lt_iff_toNat_lt.mp hrate
        show (20 : ℤ) < ((byteAt b 4 &&& 0x1F).toNat : ℕ)
        exact_mod_cast hlt
      · exact absurd (Except.error.inj heq).symm hne
    · rw [if_neg hrate]
      refine ⟨fun h heq => ?_, fun heq => (by cases heq), fun err _ heq => (by cases heq)⟩
      rw [Except.ok.inj heq]
  · obtain ⟨err, hne, herr⟩ := parseAudioHeader_other hspeaks
    rw [herr, if_neg hspeaks]
    refine ⟨fun h heq => (by cases heq), fun heq => ?_, fun _ _ _ => rfl⟩
    exact absurd (Except.error.inj heq) hne

/-- The two encoders refuse the same headers and write the same octets. -/
theorem encodeAudioHeader_python {hp : NetHelpers.Vban.AudioHeader} {h : VbanAudioHeader} (hsame : hp.Denotes h)
    {n : ℕ} (out : Buffer UInt8 n) (hn : kVbanHeaderBytes ≤ n) :
    ((encodeAudioHeader h out).1 = false ↔ ∃ e, NetHelpers.Vban.encodeAudioHeader hp = .error e) ∧
      ((encodeAudioHeader h out).1 = true → ∃ octets : List UInt8, octets.length = 28 ∧
        NetHelpers.Vban.encodeAudioHeader hp = .ok octets ∧
          (encodeAudioHeader h out).2.slice 0 28 = octets) := by
  -- the guards of the two encoders are the same ranges, in machine words and in integers
  have hrange : (encodeAudioHeader h out).1 = true ↔ hp.InRange := by
    rw [encodeAudioHeader_accepts_iff, UInt8.le_iff_toNat_le, UInt16.le_iff_toNat_le, UInt16.le_iff_toNat_le,
      UInt16.le_iff_toNat_le, UInt16.le_iff_toNat_le]
    have hidx := hsame.sampleRateIndex
    have hsamples := hsame.numSamples
    have hchannels := hsame.numChannels
    constructor
    · rintro ⟨h1, ⟨h2, h3⟩, h4, h5⟩
      change h.sampleRateIndex.toNat ≤ 20 at h1
      change 1 ≤ h.numSamples.toNat at h2
      change h.numSamples.toNat ≤ 256 at h3
      change 1 ≤ h.numChannels.toNat at h4
      change h.numChannels.toNat ≤ 256 at h5
      exact ⟨by omega, by omega, by omega⟩
    · rintro ⟨h1, h2, h3⟩
      refine ⟨show h.sampleRateIndex.toNat ≤ 20 by omega, ⟨show 1 ≤ h.numSamples.toNat by omega,
        show h.numSamples.toNat ≤ 256 by omega⟩, show 1 ≤ h.numChannels.toNat by omega,
        show h.numChannels.toNat ≤ 256 by omega⟩
  constructor
  · rw [← Bool.not_eq_true, hrange]
    constructor
    · intro hnot
      cases hencode : NetHelpers.Vban.encodeAudioHeader hp with
      | error e => exact ⟨e, rfl⟩
      | ok octets => exact absurd (NetHelpers.Vban.inRange_of_ok hencode) hnot
    · rintro ⟨e, hraise⟩ hin
      rw [NetHelpers.Vban.encodeAudioHeader_eq hsame hin] at hraise
      cases hraise
  · intro hok
    obtain ⟨hidx, hsamples, hchannels⟩ := (encodeAudioHeader_accepts_iff out).mp hok
    refine ⟨audioHeaderBytes h, length_vbanHeaderBytes _ _ _ _ _ _,
      NetHelpers.Vban.encodeAudioHeader_eq hsame (hrange.mp hok), ?_⟩
    rw [encodeAudioHeader_eq hidx hsamples hchannels]
    exact out.slice_blit_front (length_vbanHeaderBytes _ _ _ _ _ _) hn

/-- **The C++ codec and the Python reference of VBAN audio.** On every byte string the Python parser raises
nothing; it returns the header that `parseAudioHeader` accepts, a header with an index above 20 where that
answers `SampleRateInvalid`, and `None` where that refuses for any other reason. The name that it shows is the
C string in the header exactly if that is ASCII and the name field holds zeros behind it. The Python encoder
accepts a header if its index, its samples and its channels are in range and its name is ASCII, whatever its
other fields, and otherwise raises the error of the first check that fails. The Python headers with their
fields in wire range and an ASCII name without a NUL are those of the C++ structure, some of which are not in
range; for each of them both encoders refuse together, and otherwise write the same octets. And
`sample_rate_index` returns `vbanSampleRateIndex`, where that is valid, and raises elsewhere. -/
theorem vban_codecs_agree :
    (∀ b : List UInt8,
      (∀ h, parseAudioHeader b b.length = .ok h → NetHelpers.Vban.parseAudioHeader b = .ok (some h.toPython)) ∧
      (parseAudioHeader b b.length = .error .sampleRateInvalid →
        ∃ hp, NetHelpers.Vban.parseAudioHeader b = .ok (some hp) ∧ 20 < hp.sampleRateIndex) ∧
      ∀ err, err ≠ .sampleRateInvalid → parseAudioHeader b b.length = .error err →
        NetHelpers.Vban.parseAudioHeader b = .ok none) ∧
    (∀ h : VbanAudioHeader, h.toPython.streamName = h.streamName.cString.map UInt8.toNat ↔
      (∀ x ∈ h.streamName.cString, x < 128) ∧ ∀ x ∈ h.streamName.cells.dropWhile (· != 0), x = 0) ∧
    (∀ hp : NetHelpers.Vban.AudioHeader, (∃ octets, NetHelpers.Vban.encodeAudioHeader hp = .ok octets) ↔
      hp.InRange ∧ ∀ c ∈ hp.streamName, c < 128) ∧
    (∀ (hp : NetHelpers.Vban.AudioHeader) (e : NetHelpers.Vban.PyError),
      NetHelpers.Vban.encodeAudioHeader hp = .error e ↔
        ¬ (0 ≤ hp.sampleRateIndex ∧ hp.sampleRateIndex ≤ 20) ∧ e = .valueError "sample_rate_index out of range" ∨
        (0 ≤ hp.sampleRateIndex ∧ hp.sampleRateIndex ≤ 20) ∧ ¬ (1 ≤ hp.numSamples ∧ hp.numSamples ≤ 256) ∧
          e = .valueError "num_samples out of range" ∨
        (0 ≤ hp.sampleRateIndex ∧ hp.sampleRateIndex ≤ 20) ∧ (1 ≤ hp.numSamples ∧ hp.numSamples ≤ 256) ∧
          ¬ (1 ≤ hp.numChannels ∧ hp.numChannels ≤ 256) ∧ e = .valueError "num_channels out of range" ∨
        hp.InRange ∧ (∃ c ∈ hp.streamName, 128 ≤ c) ∧ e = .unicodeEncodeError) ∧
    (∀ hp : NetHelpers.Vban.AudioHeader, hp.InWireRange ↔ ∃ h, hp.Denotes h) ∧
    (∀ (hp : NetHelpers.Vban.AudioHeader) (h : VbanAudioHeader), hp.Denotes h →
      ∀ (n : ℕ) (out : Buffer UInt8 n), kVbanHeaderBytes ≤ n →
        ((encodeAudioHeader h out).1 = false ↔ ∃ e, NetHelpers.Vban.encodeAudioHeader hp = .error e) ∧
        ((encodeAudioHeader h out).1 = true → ∃ octets : List UInt8, octets.length = 28 ∧
          NetHelpers.Vban.encodeAudioHeader hp = .ok octets ∧
          (encodeAudioHeader h out).2.slice 0 28 = octets)) ∧
    ∀ hz i : ℤ, NetHelpers.Vban.sampleRateIndex hz = .ok i ↔ ∃ rate : UInt32, hz = rate.toNat ∧
      vbanSampleRateIndex rate ≠ kVbanSampleRateInvalid ∧ i = (vbanSampleRateIndex rate).toNat :=
  ⟨parseAudioHeader_python, fun h => NetHelpers.Vban.nameText_eq_iff h.streamName,
    NetHelpers.Vban.encodeAudioHeader_accepts_iff, NetHelpers.Vban.encodeAudioHeader_raises_iff,
    NetHelpers.Vban.inWireRange_iff, fun _ _ hsame _ out hn => encodeAudioHeader_python hsame out hn,
      NetHelpers.Vban.sampleRateIndex_ok_iff⟩

end PcmFlowUdp
