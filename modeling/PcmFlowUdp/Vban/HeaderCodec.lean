import PcmFlowUdp.Vban.Classification

/-! # The VBAN header codecs

The two headers differ in bytes 4 to 7 only. The encoder stores the name up to its first NUL and pads it
with zeros, the parser copies all sixteen bytes; so parsing undoes encoding up to what the name array
held behind its first NUL, and encoding undoes parsing up to what the name field held behind its own.

* **`byteAt_reencoded`** — what encoding a parsed header makes of each of its bytes;
* **`vban_header_codec`** — both round trips of both codecs, and what the parsers accept. -/

namespace PcmFlowUdp

open ByteTransport

/-! ## The name field, byte by byte -/

/-- Position `i` is in front of the end of the string if no NUL stands up to it. -/
theorem lt_strnlen_iff (s : List UInt8) {i n : ℕ} (hi : i < n) :
    i < strnlen s n ↔ ∀ k ≤ i, byteAt s k ≠ 0 := by
  induction n generalizing s i with
  | zero => omega
  | succ n ih =>
    cases s with
    | nil => simpa [strnlen, byteAt] using ⟨0, Nat.zero_le i⟩
    | cons x s =>
      by_cases hx : x = 0
      · -- the string is empty
        subst hx
        simp only [strnlen, List.take_succ_cons, List.takeWhile_cons]
        simpa [byteAt] using ⟨0, Nat.zero_le i, rfl⟩
      · have hcons : strnlen (x :: s) (n + 1) = strnlen s n + 1 := by
          simp [strnlen, hx]
        rw [hcons]
        cases i with
        | zero => simpa [byteAt] using hx
        | succ i =>
          rw [Nat.add_lt_add_iff_right, ih s (by omega)]
          constructor
          · intro h k hk
            cases k with
            | zero => simpa [byteAt] using hx
            | succ k => simpa [byteAt] using h k (by omega)
          · intro h k hk
            simpa [byteAt] using h (k + 1) (by omega)

/-- The name field is the name, with zeros from its first NUL on. -/
theorem byteAt_nameField (s : List UInt8) {i : ℕ} (hi : i < kVbanStreamNameBytes) :
    byteAt (nameField s) i = if ∃ k < i, byteAt s k = 0 then 0 else byteAt s i := by
  have hiff := lt_strnlen_iff s hi
  have hlen : (readMem s 0 (strnlen s kVbanStreamNameBytes)).length
      = strnlen s kVbanStreamNameBytes := length_readMem _ _ _
  rw [nameField, byteAt]
  by_cases hin : i < strnlen s kVbanStreamNameBytes
  · -- in front of the first NUL
    have hnone : ¬ ∃ k < i, byteAt s k = 0 := by
      rintro ⟨k, hk, h0⟩
      exact hiff.mp hin k hk.le h0
    rw [if_neg hnone, List.getD_append _ _ _ _ (by rw [hlen]; exact hin), readMem,
      List.getD_eq_getElem?_getD, List.getElem?_map, List.getElem?_range hin, Option.map_some,
      Option.getD_some, Nat.zero_add]
    rfl
  · have hpad : i - strnlen s kVbanStreamNameBytes
        < kVbanStreamNameBytes - strnlen s kVbanStreamNameBytes := by omega
    rw [List.getD_append_right _ _ _ _ (by rw [hlen]; omega), hlen, List.getD_replicate 0 hpad]
    -- the first NUL is at `i` or in front of it
    split
    · rfl
    · rename_i hnone
      by_contra hne
      exact hin (hiff.mpr fun k hk => by
        rcases Nat.lt_or_eq_of_le hk with hlt | rfl
        · exact fun h0 => hnone ⟨k, hlt, h0⟩
        · exact fun h0 => hne h0.symm)

/-! ## Encoding what was parsed -/

/-- Byte `i` stands in the name field, bytes 8 to 23, behind a NUL of it. -/
def AfterNul (b : List UInt8) (i : ℕ) : Prop :=
  8 ≤ i ∧ i < 24 ∧ ∃ k < i, 8 ≤ k ∧ byteAt b k = 0

instance (b : List UInt8) (i : ℕ) : Decidable (AfterNul b i) := by unfold AfterNul; infer_instance

/-- The bytes that encoding the parsed header of `b` gives. -/
def reencoded (b : List UInt8) : List UInt8 :=
  vbanHeaderBytes (byteAt b 4) (byteAt b 5) (byteAt b 6) (byteAt b 7) (parsedName b) (parsedCounter b)

/-- The items of a list of four. -/
theorem getD_four (f : ℕ → UInt8) {j : ℕ} (hj : j < 4) : [f 0, f 1, f 2, f 3].getD j 0 = f j := by
  match j, hj with
  | 0, _ | 1, _ | 2, _ | 3, _ => rfl

section Reencoded

variable {b : List UInt8} (hsig : readMem b 0 4 = kVbanSignature)

include hsig

/-- **Encoding a parsed header** clears the bytes behind the first NUL of the name and leaves the
others. -/
theorem byteAt_reencoded {i : ℕ} (hi : i < 28) :
    byteAt (reencoded b) i = if AfterNul b i then 0 else byteAt b i := by
  -- octet by octet: 0 to 3, 4 to 7, 8 to 23 and 24 to 27 each have their own field
  obtain ⟨hmid, htail, hhead, hname⟩ := vbanHeaderBytes_getD (byteAt b 4) (byteAt b 5) (byteAt b 6)
    (byteAt b 7) (parsedName b) (parsedCounter b) []
  rw [List.append_nil] at hmid htail hhead hname
  rcases Nat.lt_or_ge i 8 with h8 | h8
  · have hbefore : ¬ AfterNul b i := fun h => by have := h.1; omega
    rw [if_neg hbefore]
    rcases Nat.lt_or_ge i 4 with h4 | h4
    · -- the signature
      have hread := @byteAt_readMem (reencoded b) 0 4 i h4
      have hread' := @byteAt_readMem b 0 4 i h4
      rw [Nat.zero_add] at hread hread'
      rw [← hread, ← hread', hsig]
      exact congrArg (byteAt · i) hhead
    · -- rate, samples, channels and format
      obtain ⟨j, rfl⟩ := Nat.exists_eq_add_of_le h4
      have hj : j < 4 := by omega
      exact (hmid j hj).trans (getD_four (fun j => byteAt b (4 + j)) hj)
  · rcases Nat.lt_or_ge i 24 with h24 | h24
    · -- the name
      obtain ⟨j, rfl⟩ := Nat.exists_eq_add_of_le h8
      have hj : j < 16 := by omega
      have hcell : ∀ k < 16, byteAt (parsedName b).cells k = byteAt b (8 + k) := by
        intro k hk
        rw [← byteAt_readMem b hk, cells_parsedName]
        exact List.getD_append _ _ _ _ (by rw [length_readMem]; exact hk)
      have hnul : (∃ k < j, byteAt (parsedName b).cells k = 0) ↔ AfterNul b (8 + j) := by
        constructor
        · rintro ⟨k, hk, h0⟩
          rw [hcell k (by omega)] at h0
          exact ⟨h8, h24, 8 + k, by omega, by omega, h0⟩
        · rintro ⟨-, -, k, hk, hk8, h0⟩
          obtain ⟨m, rfl⟩ := Nat.exists_eq_add_of_le hk8
          exact ⟨m, by omega, by rw [hcell m (by omega)]; exact h0⟩
      have hread := @byteAt_readMem (reencoded b) 8 16 j hj
      have hfield : readMem (reencoded b) 8 16 = nameField (parsedName b).cells := hname
      rw [← hread, hfield, byteAt_nameField _ hj, hcell j hj]
      simp only [hnul]
    · -- the frame counter
      have hbehind : ¬ AfterNul b i := fun h => by have := h.2.1; omega
      rw [if_neg hbehind]
      obtain ⟨j, rfl⟩ := Nat.exists_eq_add_of_le h24
      have hj : j < 4 := by omega
      have hcounter := byte32_word32 (byteAt b 27) (byteAt b 26) (byteAt b 25) (byteAt b 24)
      simp only [List.cons.injEq, and_true] at hcounter
      obtain ⟨e3, e2, e1, e0⟩ := hcounter
      refine (htail j hj).trans ?_
      rw [parsedCounter, e3, e2, e1, e0]
      exact getD_four (fun j => byteAt b (24 + j)) hj

/-- The header is reproduced if the name field is zero behind its first NUL. -/
theorem reencoded_eq_iff (hb : 28 ≤ b.length) :
    reencoded b = b.take 28 ↔ ∀ i, AfterNul b i → byteAt b i = 0 := by
  have hlen : (reencoded b).length = 28 := length_vbanHeaderBytes _ _ _ _ _ _
  rw [eq_take_iff_byteAt hlen hb]
  constructor
  · intro h i hafter
    have hi : i < 28 := by have := hafter.2.1; omega
    have hbyte := h i hi
    rw [byteAt_reencoded hsig hi, if_pos hafter] at hbyte
    exact hbyte.symm
  · intro h i hi
    rw [byteAt_reencoded hsig hi]
    split
    · rename_i hafter
      exact (h i hafter).symm
    · rfl

end Reencoded

/-- Bits 5 to 7 and bits 0 to 4 make up the byte; a count survives one more and one less. -/
theorem headerByte_fields : ∀ n : Fin 256,
    (UInt8.ofNat n &&& 0xE0) ||| ((UInt8.ofNat n &&& 0x1F) &&& 0x1F) = UInt8.ofNat n ∧
      UInt8.ofNat n &&& 0x1F ≤ 0x1F ∧
      ((UInt8.ofNat n).toUInt16 + 1 - 1).toUInt8 = UInt8.ofNat n ∧
      1 ≤ (UInt8.ofNat n).toUInt16 + 1 ∧ (UInt8.ofNat n).toUInt16 + 1 ≤ 256 := by
  decide +kernel

/-- `r` is the result of encoding the header that `b` parses to: the encoder succeeds, what it writes is
the header of `b` if and only if the name field is zero behind its first NUL, and the other bytes are
those of `b` in any case. -/
structure Reproduces {n : ℕ} (b : List UInt8) (r : Bool × Buffer UInt8 n) : Prop where
  succeeds : r.1 = true
  exactly : r.2.slice 0 kVbanHeaderBytes = b.take kVbanHeaderBytes ↔
    ∀ i, AfterNul b i → byteAt b i = 0
  elsewhere : ∀ i < kVbanHeaderBytes, ¬ AfterNul b i →
    byteAt (r.2.slice 0 kVbanHeaderBytes) i = byteAt b i

/-- An encoder that writes `reencoded b` reproduces `b`. -/
theorem reproduces_reencoded {n : ℕ} {b : List UInt8} (hb : kVbanHeaderBytes ≤ b.length)
    (hsig : readMem b 0 4 = kVbanSignature) (out : Buffer UInt8 n) (hn : kVbanHeaderBytes ≤ n) :
    Reproduces b (true, out.blit 0 (reencoded b)) := by
  have hbytes : (out.blit 0 (reencoded b)).slice 0 kVbanHeaderBytes = reencoded b :=
    out.slice_blit_front (length_vbanHeaderBytes _ _ _ _ _ _) hn
  refine ⟨rfl, ?_, ?_⟩
  · dsimp only
    rw [hbytes]
    exact reencoded_eq_iff hsig hb
  · intro i hi hafter
    dsimp only
    rw [hbytes, byteAt_reencoded hsig hi, if_neg hafter]

/-- What a name array stores: the string up to its first NUL, filled up with NULs. -/
theorem VbanName.cells_ofCString_eq (s : List UInt8) :
    (VbanName.ofCString s).cells
      = cName s ++ List.replicate (kVbanStreamNameBytes + 1 - (cName s).length) 0 := by
  have hle : (cName s).length ≤ kVbanStreamNameBytes := strnlen_le s kVbanStreamNameBytes
  rw [cells_ofCString, nameField_eq, List.append_assoc, ← List.replicate_succ', Nat.succ_sub hle]

/-! ## The audio codec -/

/-- The audio headers that are encoded. -/
theorem encodeAudioHeader_accepts_iff {h : VbanAudioHeader} {n : ℕ} (out : Buffer UInt8 n) :
    (encodeAudioHeader h out).1 = true ↔ h.sampleRateIndex ≤ 20 ∧
      (1 ≤ h.numSamples ∧ h.numSamples ≤ 256) ∧ (1 ≤ h.numChannels ∧ h.numChannels ≤ 256) := by
  constructor
  · intro hok
    rw [encodeAudioHeader] at hok
    split at hok
    · cases hok
    rename_i hidx
    split at hok
    · cases hok
    rename_i hsamples
    split at hok
    · cases hok
    rename_i hchannels
    simp only [not_or, UInt16.not_lt] at hsamples hchannels
    exact ⟨UInt8.not_lt.mp hidx, hsamples, hchannels⟩
  · rintro ⟨hidx, hsamples, hchannels⟩
    rw [encodeAudioHeader_eq hidx hsamples hchannels]

/-- The packets that are read as audio, and what is read. -/
theorem parseAudioHeader_ok_iff {b : List UInt8} {h : VbanAudioHeader} :
    parseAudioHeader b b.length = .ok h ↔
      (SpeaksVban .audio b ∧ byteAt b 4 &&& 0x1F ≤ 20) ∧ h = audioHeader b := by
  rcases parseAudioHeader_cases b with ⟨haudio, hrate, hok⟩ | ⟨hnot, err, herr⟩
  · rw [hok]
    constructor
    · intro heq
      exact ⟨⟨haudio, hrate⟩, (Except.ok.inj heq).symm⟩
    · rintro ⟨-, rfl⟩
      rfl
  · rw [herr]
    simp [hnot]

/-- Encoding a parsed audio header. -/
theorem encodeAudioHeader_audioHeader {b : List UInt8} (haudio : SpeaksVban .audio b)
    (hrate : byteAt b 4 &&& 0x1F ≤ 20) {n : ℕ} (out : Buffer UInt8 n) :
    encodeAudioHeader (audioHeader b) out = (true, out.blit 0 (reencoded b)) := by
  have h4 := (headerByte_fields ⟨(byteAt b 4).toNat, (byteAt b 4).toNat_lt⟩).1
  obtain ⟨-, -, h5, hsamples⟩ := headerByte_fields ⟨(byteAt b 5).toNat, (byteAt b 5).toNat_lt⟩
  obtain ⟨-, -, h6, hchannels⟩ := headerByte_fields ⟨(byteAt b 6).toNat, (byteAt b 6).toNat_lt⟩
  rw [UInt8.ofNat_toNat] at h4 h5 h6 hsamples hchannels
  rw [encodeAudioHeader_eq (h := audioHeader b) hrate hsamples hchannels]
  rw [haudio.subProtocol] at h4
  simp only [audioHeaderBytes, audioHeader, h4, h5, h6]
  rfl

/-! ## The service codec -/

/-- The bytes that `encodeServiceHeader` writes. -/
def serviceHeaderBytes (h : VbanServiceHeader) : List UInt8 :=
  vbanHeaderBytes (VbanSubProtocol.service.code ||| (h.serviceFunction &&& kVbanServiceFunctionMask))
    h.serviceFlags h.rawByte6 h.rawByte7 h.streamName h.frameCounter

/-- The header of a service packet, as the parser reads it. -/
def serviceHeader (d : List UInt8) : VbanServiceHeader where
  serviceFunction := byteAt d 4 &&& kVbanServiceFunctionMask
  serviceFlags := byteAt d 5
  rawByte6 := byteAt d 6
  rawByte7 := byteAt d 7
  streamName := parsedName d
  frameCounter := parsedCounter d

/-- A service header that is in range is written in one piece. -/
theorem encodeServiceHeader_eq {h : VbanServiceHeader}
    (hfn : h.serviceFunction ≤ kVbanServiceFunctionMask) {n : ℕ} (out : Buffer UInt8 n) :
    encodeServiceHeader h out = (true, out.blit 0 (serviceHeaderBytes h)) := by
  rw [encodeServiceHeader, if_neg (UInt8.not_lt.mpr hfn)]
  rfl

/-- The service headers that are encoded. -/
theorem encodeServiceHeader_accepts_iff {h : VbanServiceHeader} {n : ℕ} (out : Buffer UInt8 n) :
    (encodeServiceHeader h out).1 = true ↔ h.serviceFunction ≤ kVbanServiceFunctionMask := by
  constructor
  · intro hok
    rw [encodeServiceHeader] at hok
    split at hok
    · cases hok
    · rename_i hfn
      exact UInt8.not_lt.mp hfn
  · intro hfn
    rw [encodeServiceHeader_eq hfn]

/-- The service function survives in the low five bits of byte 4. -/
theorem functionByte_fields : ∀ i : Fin 32,
    (VbanSubProtocol.service.code ||| (UInt8.ofNat i &&& kVbanServiceFunctionMask)) &&& 0xE0
        = VbanSubProtocol.service.code ∧
      (VbanSubProtocol.service.code ||| (UInt8.ofNat i &&& kVbanServiceFunctionMask)) &&&
          kVbanServiceFunctionMask = UInt8.ofNat i := by
  decide +kernel

/-- **The parser inverts the encoder** on every service header it accepts, whatever follows. -/
theorem parseServiceHeader_encoded {h : VbanServiceHeader}
    (hfn : h.serviceFunction ≤ kVbanServiceFunctionMask) (rest : List UInt8) {len : ℕ}
    (hlen : 28 ≤ len) :
    parseServiceHeader (serviceHeaderBytes h ++ rest) len
      = .ok { h with streamName := VbanName.ofCString h.streamName.cells } := by
  have hlt : h.serviceFunction.toNat < 32 := Nat.lt_succ_of_le (UInt8.le_iff_toNat_le.mp hfn)
  have hbyte := functionByte_fields ⟨h.serviceFunction.toNat, hlt⟩
  simp only [UInt8.ofNat_toNat] at hbyte
  obtain ⟨hsig, h4, h5, h6, h7, hname, hcounter⟩ := vbanHeader_fields _ _ _ _ _ _ rest
    (d := serviceHeaderBytes h ++ rest) rfl
  have hpos : ¬ len < kVbanHeaderBytes := Nat.not_lt.mpr hlen
  rw [parseServiceHeader, if_neg hpos, if_neg (not_not.mpr hsig), hcounter, hname, h4, h5, h6, h7,
    hbyte.1, hbyte.2, if_neg (not_not.mpr rfl)]

/-- The packets that are read as service, and what is read. -/
theorem parseServiceHeader_ok_iff {b : List UInt8} {h : VbanServiceHeader} :
    parseServiceHeader b b.length = .ok h ↔ SpeaksVban .service b ∧ h = serviceHeader b := by
  by_cases hservice : SpeaksVban .service b
  · rw [parseServiceHeader, if_neg hservice.length.not_gt, if_neg (not_not.mpr hservice.readMem_signature),
      if_neg (not_not.mpr hservice.subProtocol)]
    constructor
    · intro heq
      exact ⟨hservice, (Except.ok.inj heq).symm⟩
    · rintro ⟨-, rfl⟩
      rfl
  · obtain ⟨err, herr⟩ := parseServiceHeader_error hservice
    rw [herr]
    simp [hservice]

/-- Encoding a parsed service header. -/
theorem encodeServiceHeader_serviceHeader {b : List UInt8} (hservice : SpeaksVban .service b) {n : ℕ}
    (out : Buffer UInt8 n) :
    encodeServiceHeader (serviceHeader b) out = (true, out.blit 0 (reencoded b)) := by
  obtain ⟨h4, hmask, -⟩ := headerByte_fields ⟨(byteAt b 4).toNat, (byteAt b 4).toNat_lt⟩
  rw [UInt8.ofNat_toNat] at h4 hmask
  rw [encodeServiceHeader_eq (h := serviceHeader b) hmask]
  rw [hservice.subProtocol] at h4
  have hbytes : serviceHeaderBytes (serviceHeader b) = reencoded b :=
    congrArg (fun x => vbanHeaderBytes x _ _ _ _ _) h4
  rw [hbytes]

/-! ## Both codecs -/

/-- **The header codecs.** Parsing what an encoder accepted, whatever follows it, gives the same fields
back, with the name cut at its first NUL or its sixteenth byte and filled up with NULs. Encoding what a
parser accepted reproduces the header up to the bytes behind the first NUL of the name. And a parser
accepts the packets of its sub-protocol, the audio parser those with a rate of the table. -/
theorem vban_header_codec :
    (∀ (h : VbanAudioHeader) (payload : List UInt8) (n : ℕ) (out : Buffer UInt8 n),
      kVbanHeaderBytes ≤ n → (encodeAudioHeader h out).1 = true →
        ∃ name : VbanName, name.cells = cName h.streamName.cells
            ++ List.replicate (kVbanStreamNameBytes + 1 - (cName h.streamName.cells).length) 0 ∧
          parseAudioHeader ((encodeAudioHeader h out).2.slice 0 kVbanHeaderBytes ++ payload)
            (kVbanHeaderBytes + payload.length) = .ok { h with streamName := name }) ∧
    (∀ (h : VbanServiceHeader) (payload : List UInt8) (n : ℕ) (out : Buffer UInt8 n),
      kVbanHeaderBytes ≤ n → (encodeServiceHeader h out).1 = true →
        ∃ name : VbanName, name.cells = cName h.streamName.cells
            ++ List.replicate (kVbanStreamNameBytes + 1 - (cName h.streamName.cells).length) 0 ∧
          parseServiceHeader ((encodeServiceHeader h out).2.slice 0 kVbanHeaderBytes ++ payload)
            (kVbanHeaderBytes + payload.length) = .ok { h with streamName := name }) ∧
    (∀ (b : List UInt8) (h : VbanAudioHeader) (n : ℕ) (out : Buffer UInt8 n),
      parseAudioHeader b b.length = .ok h → kVbanHeaderBytes ≤ n →
        Reproduces b (encodeAudioHeader h out)) ∧
    (∀ (b : List UInt8) (h : VbanServiceHeader) (n : ℕ) (out : Buffer UInt8 n),
      parseServiceHeader b b.length = .ok h → kVbanHeaderBytes ≤ n →
        Reproduces b (encodeServiceHeader h out)) ∧
    (∀ b : List UInt8, (∃ h, parseAudioHeader b b.length = .ok h) ↔
      SpeaksVban .audio b ∧ byteAt b 4 &&& 0x1F ≤ 20) ∧
    (∀ b : List UInt8, (∃ h, parseServiceHeader b b.length = .ok h) ↔ SpeaksVban .service b) := by
  refine ⟨?_, ?_, ?_, ?_, ?_, ?_⟩
  · -- what is encoded is parsed again, the name cut at its first zero
    intro h payload n out hn hok
    obtain ⟨hidx, hsamples, hchannels⟩ := (encodeAudioHeader_accepts_iff out).mp hok
    refine ⟨VbanName.ofCString h.streamName.cells, VbanName.cells_ofCString_eq _, ?_⟩
    have hbytes : (out.blit 0 (audioHeaderBytes h)).slice 0 kVbanHeaderBytes = audioHeaderBytes h :=
      out.slice_blit_front (length_vbanHeaderBytes _ _ _ _ _ _) hn
    rw [encodeAudioHeader_eq hidx hsamples hchannels]
    dsimp only
    rw [hbytes]
    exact parseAudioHeader_encoded hidx hsamples hchannels payload (Nat.le_add_right _ _)
  · intro h payload n out hn hok
    have hfn := (encodeServiceHeader_accepts_iff out).mp hok
    refine ⟨VbanName.ofCString h.streamName.cells, VbanName.cells_ofCString_eq _, ?_⟩
    have hbytes : (out.blit 0 (serviceHeaderBytes h)).slice 0 kVbanHeaderBytes = serviceHeaderBytes h :=
      out.slice_blit_front (length_vbanHeaderBytes _ _ _ _ _ _) hn
    rw [encodeServiceHeader_eq hfn]
    dsimp only
    rw [hbytes]
    exact parseServiceHeader_encoded hfn payload (Nat.le_add_right _ _)
  · -- what is parsed is encoded again, but for the octets behind the zero that ends the name
    intro b h n out hparse hn
    obtain ⟨⟨haudio, hrate⟩, rfl⟩ := parseAudioHeader_ok_iff.mp hparse
    rw [encodeAudioHeader_audioHeader haudio hrate]
    exact reproduces_reencoded haudio.length haudio.readMem_signature out hn
  · intro b h n out hparse hn
    obtain ⟨hservice, rfl⟩ := parseServiceHeader_ok_iff.mp hparse
    rw [encodeServiceHeader_serviceHeader hservice]
    exact reproduces_reencoded hservice.length hservice.readMem_signature out hn
  · -- exactly the well formed octets are parsed
    intro b
    constructor
    · rintro ⟨h, hok⟩
      exact (parseAudioHeader_ok_iff.mp hok).1
    · intro h
      exact ⟨_, parseAudioHeader_ok_iff.mpr ⟨h, rfl⟩⟩
  · intro b
    constructor
    · rintro ⟨h, hok⟩
      exact (parseServiceHeader_ok_iff.mp hok).1
    · intro h
      exact ⟨_, parseServiceHeader_ok_iff.mpr ⟨h, rfl⟩⟩

end PcmFlowUdp
