import PcmFlowUdp.Vban.Reception

/-! # What a `VbanReceiver` makes of a datagram

`poll` leaves through some ten exits, but there are only three things that it does: a service packet is
handed to the callback (`receive_service`), an audio packet that the receiver accepts is queued
(`receive_accepted`), and anything else changes nothing but the last error (`receive_dropped`). Which of
the three is read off the datagram, the filter and the format that the receiver is locked to.

* **`vban_poll_classification`** — the three cases, in every reachable state, and that a locked format
  stays until the next `begin`. -/

namespace PcmFlowUdp

open ByteTransport PcmFrame

/-! ## Names as C strings -/

/-- `strncmp` finds no difference exactly between equal C strings. -/
theorem strncmp_eq_zero_iff (a b : List UInt8) (n : ℕ) :
    strncmp a b n = 0 ↔ (a.take n).takeWhile (· != 0) = (b.take n).takeWhile (· != 0) := by
  -- `strncmp` stops at a difference or at a common zero, the cut at the first zero of each
  induction n generalizing a b with
  | zero => simp [strncmp]
  | succ n ih =>
    cases a with
    | nil =>
      cases b with
      | nil => simp [strncmp]
      | cons y b =>
        rcases eq_or_ne y 0 with rfl | hy
        · simp [strncmp]
        · have hne : y.toNat ≠ 0 := fun h0 => hy (UInt8.toNat_inj.mp h0)
          simp [strncmp, hy, hy.symm, hne]
    | cons x a =>
      cases b with
      | nil =>
        rcases eq_or_ne x 0 with rfl | hx
        · simp [strncmp]
        · have hne : x.toNat ≠ 0 := fun h0 => hx (UInt8.toNat_inj.mp h0)
          simp [strncmp, hx, hne]
      | cons y b =>
        rcases eq_or_ne x y with rfl | hxy
        · rcases eq_or_ne x 0 with rfl | hx
          · simp [strncmp]
          · simp [strncmp, hx, ih]
        · have hne : (x.toNat : Int) - y.toNat ≠ 0 := fun h0 =>
            hxy (UInt8.toNat_inj.mp (by omega))
          simp only [strncmp, List.headD_cons, ne_eq, hxy, not_false_eq_true, if_true, hne,
            false_iff, List.take_succ_cons]
          rcases eq_or_ne x 0 with rfl | hx
          · have hy : y ≠ 0 := hxy.symm
            simp [hy]
          · rcases eq_or_ne y 0 with rfl | hy
            · simp [hx]
            · simp [hx, hy, hxy]

/-! ## Datagrams -/

/-- The datagram has the VBAN signature and the given sub-protocol, in a whole header. -/
structure SpeaksVban (sub : VbanSubProtocol) (d : List UInt8) : Prop where
  length : kVbanHeaderBytes ≤ d.length
  signature : d.take 4 = kVbanSignature
  subProtocol : byteAt d 4 &&& 0xE0 = sub.code

instance (sub : VbanSubProtocol) (d : List UInt8) : Decidable (SpeaksVban sub d) :=
  decidable_of_iff (kVbanHeaderBytes ≤ d.length ∧ d.take 4 = kVbanSignature ∧
    byteAt d 4 &&& 0xE0 = sub.code) ⟨fun ⟨h1, h2, h3⟩ => ⟨h1, h2, h3⟩, fun h => ⟨h.1, h.2, h.3⟩⟩

/-- The sample format that the header of an audio packet announces. -/
def wireFormat (d : List UInt8) : PCMFormat where
  sampleRate := vbanSampleRateHz (byteAt d 4 &&& 0x1F)
  channels := byteAt d 6 + 1
  bitsPerSample := 16

/-- An audio packet that a receiver takes which filters by `filter`, if by any name, and is locked to the
format `locked`, if its rate is not zero. -/
structure AcceptedBy (filter : Option (List UInt8)) (locked : PCMFormat) (d : List UInt8) : Prop where
  audio : SpeaksVban .audio d
  rate : byteAt d 4 &&& 0x1F ≤ 20
  name : ∀ n ∈ filter, cName (d.drop 8) = n
  codec : byteAt d 7 = VbanSubCodec.pcm16.code
  channels : (wireFormat d).channels = 1 ∨ (wireFormat d).channels = 2
  lock : locked.sampleRate = 0 ∨ locked.sampleRate = (wireFormat d).sampleRate ∧
    locked.channels = (wireFormat d).channels

instance (filter : Option (List UInt8)) (locked : PCMFormat) (d : List UInt8) :
    Decidable (AcceptedBy filter locked d) :=
  decidable_of_iff (SpeaksVban .audio d ∧ byteAt d 4 &&& 0x1F ≤ 20 ∧
      (∀ n ∈ filter, cName (d.drop 8) = n) ∧ byteAt d 7 = VbanSubCodec.pcm16.code ∧
      ((wireFormat d).channels = 1 ∨ (wireFormat d).channels = 2) ∧
      (locked.sampleRate = 0 ∨ locked.sampleRate = (wireFormat d).sampleRate ∧
        locked.channels = (wireFormat d).channels))
    ⟨fun ⟨h1, h2, h3, h4, h5, h6⟩ => ⟨h1, h2, h3, h4, h5, h6⟩,
      fun h => ⟨h.1, h.2, h.3, h.4, h.5, h.6⟩⟩

/-- The frames of an audio packet: as many as the header announces, or as the payload holds if that is
less. -/
def packetFrames (d : List UInt8) : List (PcmFrame (wireFormat d).channels.toNat) :=
  let bytesPerFrame := (wireFormat d).channels.toNat * 2
  let payload := d.drop kVbanHeaderBytes
  hostFrames _ (payload.take
    (min ((byteAt d 5).toNat + 1) (payload.length / bytesPerFrame) * bytesPerFrame))

section Header

variable {d : List UInt8}

/-- The parsers find the signature. -/
theorem SpeaksVban.readMem_signature {sub : VbanSubProtocol} (h : SpeaksVban sub d) :
    readMem d 0 4 = kVbanSignature := by
  rw [readMem_eq (le_trans (by decide) h.length), List.drop_zero, h.signature]

/-- A parser that finds its sub-protocol accepts the header. -/
theorem parseServiceHeader_ok (h : SpeaksVban .service d) :
    ∃ header, parseServiceHeader d d.length = .ok header := by
  rw [parseServiceHeader, if_neg h.length.not_gt, if_neg (not_not.mpr h.readMem_signature),
    if_neg (not_not.mpr h.subProtocol)]
  exact ⟨_, rfl⟩

/-- Only a service packet parses as one. -/
theorem parseServiceHeader_error (h : ¬ SpeaksVban .service d) :
    ∃ err, parseServiceHeader d d.length = .error err := by
  rw [parseServiceHeader]
  by_cases hlen : d.length < kVbanHeaderBytes
  · exact ⟨_, if_pos hlen⟩
  rw [if_neg hlen]
  by_cases hsig : readMem d 0 4 = kVbanSignature
  · rw [if_neg (not_not.mpr hsig)]
    by_cases hsub : byteAt d 4 &&& 0xE0 = VbanSubProtocol.service.code
    · have hle : kVbanHeaderBytes ≤ d.length := Nat.not_lt.mp hlen
      rw [readMem_eq (le_trans (by decide) hle), List.drop_zero] at hsig
      exact absurd ⟨hle, hsig, hsub⟩ h
    · exact ⟨_, if_pos hsub⟩
  · exact ⟨_, if_pos hsig⟩

/-- The header of an audio packet, as the parser reads it. -/
def audioHeader (d : List UInt8) : VbanAudioHeader where
  sampleRateIndex := byteAt d 4 &&& 0x1F
  numSamples := (byteAt d 5).toUInt16 + 1
  numChannels := (byteAt d 6).toUInt16 + 1
  subCodec := ⟨byteAt d 7⟩
  streamName := parsedName d
  frameCounter := parsedCounter d

/-- What parses as an audio header is an audio packet with a rate of the table. -/
theorem parseAudioHeader_cases (d : List UInt8) :
    (SpeaksVban .audio d ∧ byteAt d 4 &&& 0x1F ≤ 20 ∧
        parseAudioHeader d d.length = .ok (audioHeader d)) ∨
      (¬ (SpeaksVban .audio d ∧ byteAt d 4 &&& 0x1F ≤ 20) ∧
        ∃ err, parseAudioHeader d d.length = .error err) := by
  rw [parseAudioHeader]
  by_cases hlen : d.length < kVbanHeaderBytes
  · exact .inr ⟨fun h => hlen.not_ge h.1.length, _, if_pos hlen⟩
  have hread : readMem d 0 4 = d.take 4 := by
    rw [readMem_eq (le_trans (by decide) (Nat.not_lt.mp hlen)), List.drop_zero]
  rw [if_neg hlen, hread]
  by_cases hsig : d.take 4 = kVbanSignature
  · rw [if_neg (not_not.mpr hsig)]
    by_cases hsub : byteAt d 4 &&& 0xE0 = VbanSubProtocol.audio.code
    · rw [if_neg (not_not.mpr hsub)]
      by_cases hrate : byteAt d 4 &&& 0x1F > 20
      · exact .inr ⟨fun h => UInt8.not_lt.mpr h.2 hrate, _, if_pos hrate⟩
      · exact .inl ⟨⟨Nat.not_lt.mp hlen, hsig, hsub⟩, UInt8.not_lt.mp hrate, if_neg hrate⟩
    · exact .inr ⟨fun h => hsub h.1.subProtocol, _, if_pos hsub⟩
  · exact .inr ⟨fun h => hsig h.1.signature, _, if_pos hsig⟩

/-- No datagram is of two sub-protocols. -/
theorem SpeaksVban.unique {sub sub' : VbanSubProtocol} (h : SpeaksVban sub d)
    (h' : SpeaksVban sub' d) : sub = sub' := by
  have hcode := h.subProtocol.symm.trans h'.subProtocol
  cases sub <;> cases sub' <;> first | rfl | exact absurd hcode (by decide)

/-- An audio packet is no service packet. -/
theorem AcceptedBy.not_service {filter : Option (List UInt8)} {locked : PCMFormat}
    (h : AcceptedBy filter locked d) : ¬ SpeaksVban .service d := by
  intro hservice
  cases hservice.unique h.audio

end Header

/-! ## The part of a datagram that is read -/

section Take

variable {d : List UInt8} {sub : VbanSubProtocol}

/-- Cutting off what does not fit the buffer leaves the header. -/
theorem take_header (d : List UInt8) :
    (d.take kVbanMaxPacketBytes).take kVbanHeaderBytes = d.take kVbanHeaderBytes := by
  rw [List.take_take]
  rfl

/-- The header bytes of the part read are those of the datagram. -/
theorem byteAt_take (d : List UInt8) {i : ℕ} (hi : i < kVbanHeaderBytes) :
    byteAt (d.take kVbanMaxPacketBytes) i = byteAt d i :=
  byteAt_congr (take_header d) hi

/-- It leaves the protocol that a packet speaks. -/
theorem speaksVban_take : SpeaksVban sub (d.take kVbanMaxPacketBytes) ↔ SpeaksVban sub d := by
  have hlen : kVbanHeaderBytes ≤ (d.take kVbanMaxPacketBytes).length ↔ kVbanHeaderBytes ≤ d.length := by
    rw [List.length_take, le_min_iff]
    exact and_iff_right (by decide)
  have hsig : (d.take kVbanMaxPacketBytes).take 4 = d.take 4 := by
    rw [List.take_take]
    rfl
  have hbyte : byteAt (d.take kVbanMaxPacketBytes) 4 = byteAt d 4 := byteAt_take d (by decide)
  constructor
  · rintro ⟨h1, h2, h3⟩
    exact ⟨hlen.mp h1, hsig ▸ h2, hbyte ▸ h3⟩
  · rintro ⟨h1, h2, h3⟩
    exact ⟨hlen.mpr h1, hsig.symm ▸ h2, hbyte.symm ▸ h3⟩

/-- It leaves the format that the header names. -/
theorem wireFormat_take (d : List UInt8) : wireFormat (d.take kVbanMaxPacketBytes) = wireFormat d := by
  simp [wireFormat, byteAt_take d (show 4 < kVbanHeaderBytes by decide),
    byteAt_take d (show 6 < kVbanHeaderBytes by decide)]

/-- It leaves the name. -/
theorem cName_take (d : List UInt8) : cName ((d.take kVbanMaxPacketBytes).drop 8) = cName (d.drop 8) := by
  rw [cName, cName, List.drop_take, List.take_take]
  rfl

/-- It makes no difference to whether the packet is accepted. -/
theorem acceptedBy_take {filter : Option (List UInt8)} {locked : PCMFormat} :
    AcceptedBy filter locked (d.take kVbanMaxPacketBytes) ↔ AcceptedBy filter locked d := by
  have h4 : byteAt (d.take kVbanMaxPacketBytes) 4 = byteAt d 4 := byteAt_take d (by decide)
  have h7 : byteAt (d.take kVbanMaxPacketBytes) 7 = byteAt d 7 := byteAt_take d (by decide)
  have hfmt := wireFormat_take d
  have hname := cName_take d
  constructor
  · rintro ⟨haudio, hrate, hn, hcodec, hch, hlock⟩
    rw [h4] at hrate
    rw [hname] at hn
    rw [h7] at hcodec
    rw [hfmt] at hch hlock
    exact ⟨speaksVban_take.mp haudio, hrate, hn, hcodec, hch, hlock⟩
  · rintro ⟨haudio, hrate, hn, hcodec, hch, hlock⟩
    rw [← h4] at hrate
    rw [← hname] at hn
    rw [← h7] at hcodec
    rw [← hfmt] at hch hlock
    exact ⟨speaksVban_take.mpr haudio, hrate, hn, hcodec, hch, hlock⟩

/-- Behind the header, the length of a packet makes no difference. -/
theorem parseServiceHeader_len {mem : List UInt8} {len : ℕ} (h : kVbanHeaderBytes ≤ len) :
    parseServiceHeader mem len = parseServiceHeader mem kVbanHeaderBytes := by
  simp [parseServiceHeader, h.not_gt]

/-- It makes no difference to the service header. -/
theorem parseServiceHeader_take (h : kVbanHeaderBytes ≤ d.length) :
    parseServiceHeader (d.take kVbanMaxPacketBytes) (d.take kVbanMaxPacketBytes).length
      = parseServiceHeader d d.length := by
  have hlen : kVbanHeaderBytes ≤ (d.take kVbanMaxPacketBytes).length := by
    rw [List.length_take, le_min_iff]
    exact ⟨by decide, h⟩
  rw [parseServiceHeader_len hlen, parseServiceHeader_len h, parseServiceHeader_congr (take_header d)]

end Take

/-! ## The audio branch -/

/-- A channel byte names one or two channels exactly if the parsed count is in that range. -/
theorem channelByte_fields : ∀ b : Fin 256,
    ((UInt8.ofNat b).toUInt16 + 1).toUInt8 = UInt8.ofNat b + 1 ∧
      (((UInt8.ofNat b).toUInt16 + 1 < 1 ∨ (UInt8.ofNat b).toUInt16 + 1 > 2) ↔
        ¬ (UInt8.ofNat b + 1 = 1 ∨ UInt8.ofNat b + 1 = 2)) := by
  decide +kernel

/-- Every index of the table has a rate. -/
theorem vbanSampleRateHz_mem {i : UInt8} (h : i ≤ 20) : vbanSampleRateHz i ∈ kVbanSampleRates := by
  have hall : ∀ k : Fin 21, vbanSampleRateHz (UInt8.ofNat k) ∈ kVbanSampleRates := by decide +kernel
  have hi := hall ⟨i.toNat, Nat.lt_succ_of_le (UInt8.le_iff_toNat_le.mp h)⟩
  rwa [UInt8.ofNat_toNat] at hi

/-- No rate in the table is zero. -/
theorem vbanSampleRateHz_ne_zero {i : UInt8} (h : i ≤ 20) : vbanSampleRateHz i ≠ 0 :=
  (sampleRates_lookup _ (vbanSampleRateHz_mem h)).2.2

/-- What `poll` queues are the frames of the packet. -/
theorem take_payload_eq (n bytesPerFrame : ℕ) (payload : List UInt8) :
    payload.take ((if payload.length < n * bytesPerFrame then payload.length else n * bytesPerFrame)
        - (if payload.length < n * bytesPerFrame then payload.length else n * bytesPerFrame)
          % bytesPerFrame)
      = payload.take (min n (payload.length / bytesPerFrame) * bytesPerFrame) := by
  congr 1
  rcases Nat.eq_zero_or_pos bytesPerFrame with rfl | hpos
  · simp
  split
  · -- the payload ends before the frames announced do
    rename_i hshort
    have hle : payload.length / bytesPerFrame ≤ n :=
      Nat.le_of_lt (Nat.div_lt_of_lt_mul (by rwa [Nat.mul_comm] at hshort))
    rw [min_eq_right hle, Nat.sub_eq_of_eq_add (Nat.div_add_mod' _ _).symm]
  · rename_i hlong
    have hle : n ≤ payload.length / bytesPerFrame :=
      (Nat.le_div_iff_mul_le hpos).mpr (Nat.not_lt.mp hlong)
    rw [min_eq_left hle, Nat.mul_mod_left, Nat.sub_zero]

/-- The bytes queued are those of the frames of the packet. -/
theorem hostImage_packetFrames {d : List UInt8} (hc : 0 < (wireFormat d).channels.toNat) :
    hostImage (packetFrames d)
      = (d.drop kVbanHeaderBytes).take (min ((byteAt d 5).toNat + 1)
          ((d.drop kVbanHeaderBytes).length / ((wireFormat d).channels.toNat * 2))
            * ((wireFormat d).channels.toNat * 2)) := by
  apply hostImage_hostFrames hc
  have hle := Nat.div_mul_le_self (d.drop kVbanHeaderBytes).length ((wireFormat d).channels.toNat * 2)
  have hmin := Nat.mul_le_mul_right ((wireFormat d).channels.toNat * 2)
    (min_le_right ((byteAt d 5).toNat + 1)
      ((d.drop kVbanHeaderBytes).length / ((wireFormat d).channels.toNat * 2)))
  rw [List.length_take, min_eq_left (hmin.trans hle)]
  exact Nat.dvd_mul_left _ _

namespace VbanReceiver

/-- The name that a receiver filters by, if any. -/
def filter (r : VbanReceiver) : Option (List UInt8) :=
  if r.filterEnabled then some (cName r.filterName.cells) else none

/-- The filter is the name given to `begin`, unless that is null or empty. -/
theorem filter_begin (r : VbanReceiver) (streamName : Option (List UInt8)) (bound : Int) :
    (r.begin streamName bound).2.filter
      = streamName.bind fun name => if byteAt name 0 = 0 then none else some (cName name) := by
  have hcells : ∀ name : List UInt8, cName (VbanName.ofCString name).cells = cName name := fun name => by
    rw [VbanName.cells_ofCString, cName_nameField]
  cases streamName with
  | none => by_cases hbound : bound = 1 <;> simp [VbanReceiver.begin, filter, hbound]
  | some name =>
    by_cases hempty : byteAt name 0 = 0 <;> by_cases hbound : bound = 1 <;>
      simp [VbanReceiver.begin, filter, hempty, hbound, hcells]

/-- A format that a receiver locks to: PCM16 at a rate of the table, with one or two channels. -/
structure IsAudioFormat (fmt : PCMFormat) : Prop where
  rate : fmt.sampleRate ∈ kVbanSampleRates
  channels : fmt.channels = 1 ∨ fmt.channels = 2
  bits : fmt.bitsPerSample = 16

/-- An audio format has a sample rate. -/
theorem IsAudioFormat.rate_ne_zero {fmt : PCMFormat} (h : IsAudioFormat fmt) : fmt.sampleRate ≠ 0 :=
  (sampleRates_lookup _ h.rate).2.2

/-- The receiver is not locked, or locked to an audio format. -/
def LockOk (r : VbanReceiver) : Prop := r.format = {} ∨ IsAudioFormat r.format

/-- An audio packet is accepted in an audio format. -/
theorem isAudioFormat_wireFormat {filter : Option (List UInt8)} {locked : PCMFormat} {d : List UInt8}
    (h : AcceptedBy filter locked d) : IsAudioFormat (wireFormat d) :=
  ⟨vbanSampleRateHz_mem h.rate, h.channels, rfl⟩

/-- What `poll` locks to is an audio format. -/
theorem isAudioFormat_lock {h : VbanAudioHeader}
    (hok : ¬ vbanSampleRateHz h.sampleRateIndex = 0) (hch : ¬ (h.numChannels < 1 ∨ h.numChannels > 2)) :
    IsAudioFormat
      { sampleRate := vbanSampleRateHz h.sampleRateIndex
        channels := h.numChannels.toUInt8
        bitsPerSample := 16 } := by
  refine ⟨vbanSampleRateHz_mem ?_, ?_, rfl⟩
  · -- past the table there is no rate
    refine UInt8.not_lt.mp fun hlt => hok ?_
    have hpast : 21 ≤ h.sampleRateIndex :=
      UInt8.le_iff_toNat_le.mpr (Nat.succ_le_of_lt (UInt8.lt_iff_toNat_lt.mp hlt))
    rw [vbanSampleRateHz, if_pos hpast]
  · rw [not_or, UInt16.not_lt, UInt16.le_iff_toNat_le, gt_iff_lt, UInt16.not_lt,
      UInt16.le_iff_toNat_le] at hch
    have hcases : h.numChannels = 1 ∨ h.numChannels = 2 := by
      rw [← UInt16.toNat_inj, ← UInt16.toNat_inj]
      show h.numChannels.toNat = 1 ∨ h.numChannels.toNat = 2
      have h1 : 1 ≤ h.numChannels.toNat := hch.1
      have h2 : h.numChannels.toNat ≤ 2 := hch.2
      omega
    rcases hcases with hc | hc
    · exact .inl (by show h.numChannels.toUInt8 = 1; rw [hc]; rfl)
    · exact .inr (by show h.numChannels.toUInt8 = 2; rw [hc]; rfl)

/-- A receiver is locked to the format of every packet that it accepts. -/
theorem LockOk.format_eq {r : VbanReceiver} (h : r.LockOk) {filter : Option (List UInt8)}
    {d : List UInt8} (hacc : AcceptedBy filter r.format d) :
    (if r.format.sampleRate = 0 then wireFormat d else r.format) = wireFormat d := by
  by_cases hzero : r.format.sampleRate = 0
  · rw [if_pos hzero]
  · rw [if_neg hzero]
    rcases h with hnone | hlocked
    · rw [hnone] at hzero
      exact absurd rfl hzero
    · obtain ⟨hrate, hch⟩ := hacc.lock.resolve_left hzero
      have hbits : r.format.bitsPerSample = (wireFormat d).bitsPerSample := hlocked.bits
      cases hfmt : r.format
      rw [hfmt] at hrate hch hbits
      subst hrate hch hbits
      rfl

/-- The receiver after accepting an audio packet. -/
def accept (r : VbanReceiver) (d : List UInt8) : VbanReceiver :=
  { r with
    format := wireFormat d
    queue := r.queue.push (hostImage (packetFrames d))
    currentStream := parsedName d
    lastFrameCounter := parsedCounter d }

/-- The filter lets through the name that it names. -/
theorem passes_iff (r : VbanReceiver) {d : List UInt8} (hlen : kVbanHeaderBytes ≤ d.length) :
    (r.filterEnabled &&
        strncmp (audioHeader d).streamName.cells r.filterName.cells kVbanStreamNameBytes != 0) = true
      ↔ ¬ ∀ n ∈ r.filter, cName (d.drop 8) = n := by
  have hk : kVbanHeaderBytes = 28 := rfl
  have hread : readMem d 8 16 = (d.drop 8).take 16 := readMem_eq (by omega)
  have htake : (audioHeader d).streamName.cells.take kVbanStreamNameBytes
      = (d.drop 8).take kVbanStreamNameBytes := by
    show (parsedName d).cells.take 16 = _
    rw [cells_parsedName, List.take_left' (length_readMem d 8 16), hread]
    rfl
  have hcmp : strncmp (audioHeader d).streamName.cells r.filterName.cells kVbanStreamNameBytes = 0 ↔
      cName (d.drop 8) = cName r.filterName.cells := by
    rw [strncmp_eq_zero_iff, htake]
    rfl
  cases hen : r.filterEnabled
  · simp [filter, hen]
  · simp [filter, hen, hcmp]

/-- **What polling a datagram comes to**: the answer, and the receiver afterwards. No more than the
first 1436 bytes are looked at. -/
inductive Polled (r : VbanReceiver) (d : List UInt8) : Bool → VbanReceiver → Prop
  /-- A service packet is accepted, and handed to the callback if one is set. -/
  | service {header : VbanServiceHeader} (h : SpeaksVban .service d)
      (hparse : parseServiceHeader d d.length = .ok header) :
      Polled r d true
        { r with
          served :=
            if r.serviceCb then
              r.served ++ [{ header, payload := (d.take kVbanMaxPacketBytes).drop kVbanHeaderBytes }]
            else r.served }
  /-- An audio packet is accepted and queued. -/
  | audio (h : AcceptedBy r.filter r.format d) :
      Polled r d true (r.accept (d.take kVbanMaxPacketBytes))
  /-- Anything else is dropped; the last error may change. -/
  | dropped (hservice : ¬ SpeaksVban .service d) (haudio : ¬ AcceptedBy r.filter r.format d)
      (error : VbanReceiverError) : Polled r d false { r with error }

/-- What a datagram is shows in the part that is read. -/
theorem Polled.of_take {r r' : VbanReceiver} {d : List UInt8} {ok : Bool}
    (h : Polled r (d.take kVbanMaxPacketBytes) ok r') : Polled r d ok r' := by
  have htake : (d.take kVbanMaxPacketBytes).take kVbanMaxPacketBytes = d.take kVbanMaxPacketBytes := by
    rw [List.take_take, min_self]
  cases h with
  | @service header h hparse =>
    have hservice : SpeaksVban .service d := speaksVban_take.mp h
    rw [parseServiceHeader_take hservice.length] at hparse
    rw [htake]
    exact .service hservice hparse
  | audio h =>
    rw [htake]
    exact .audio (acceptedBy_take.mp h)
  | dropped hservice haudio error =>
    exact .dropped (mt speaksVban_take.mpr hservice) (mt acceptedBy_take.mpr haudio) error

section Receive

variable [PCMFlow] {r : VbanReceiver}

/-- A service packet is handed to the callback, if there is one, and touches nothing else. -/
theorem receive_service {d : List UInt8} (h : SpeaksVban .service d) {header : VbanServiceHeader}
    (hparse : parseServiceHeader d d.length = .ok header) :
    r.receive d = (true,
      { r with
        served := if r.serviceCb then
          r.served ++ [{ header, payload := d.drop kVbanHeaderBytes }] else r.served }) := by
  rw [receive, if_neg h.length.not_gt, if_pos h.subProtocol, hparse]
  cases hcb : r.serviceCb
  · cases r
    subst hcb
    rfl
  · rfl

variable (hlock : r.LockOk)

include hlock

/-- **The audio branch.** A packet that is accepted is queued, any other changes nothing but the last
error. -/
theorem pollAudio_cases {d : List UInt8} (haudio : SpeaksVban .audio d)
    (hrate : byteAt d 4 &&& 0x1F ≤ 20) :
    (AcceptedBy r.filter r.format d ∧
        r.pollAudio (audioHeader d) (d.drop kVbanHeaderBytes) = (true, r.accept d)) ∨
      (¬ AcceptedBy r.filter r.format d ∧
        ∃ error, r.pollAudio (audioHeader d) (d.drop kVbanHeaderBytes)
          = (false, { r with error })) := by
  have hbyte := channelByte_fields ⟨(byteAt d 6).toNat, (byteAt d 6).toNat_lt⟩
  simp only [UInt8.ofNat_toNat] at hbyte
  obtain ⟨hchan, hrange⟩ := hbyte
  have hne : vbanSampleRateHz (byteAt d 4 &&& 0x1F) ≠ 0 := vbanSampleRateHz_ne_zero hrate
  rw [pollAudio]
  by_cases hname : ∀ n ∈ r.filter, cName (d.drop 8) = n
  swap
  · exact .inr ⟨fun h => hname h.name, _, if_pos ((r.passes_iff haudio.length).mpr hname)⟩
  rw [if_neg (mt (r.passes_iff haudio.length).mp (not_not.mpr hname))]
  by_cases hcodec : byteAt d 7 = VbanSubCodec.pcm16.code
  swap
  · exact .inr ⟨fun h => hcodec h.codec, _, if_pos fun h => hcodec (congrArg VbanSubCodec.code h)⟩
  have hcodec' : (audioHeader d).subCodec = .pcm16 := congrArg VbanSubCodec.mk hcodec
  rw [if_neg (not_not.mpr hcodec')]
  by_cases hch : (wireFormat d).channels = 1 ∨ (wireFormat d).channels = 2
  swap
  · exact .inr ⟨fun h => hch h.channels, _, if_pos (.inr (hrange.mpr hch))⟩
  have hok : ¬ (vbanSampleRateHz (audioHeader d).sampleRateIndex = 0 ∨ (audioHeader d).numChannels < 1
      ∨ (audioHeader d).numChannels > 2) := fun h => h.elim hne fun h => hrange.mp h hch
  have hsame : (audioHeader d).numChannels.toUInt8 = (wireFormat d).channels := hchan
  simp only [if_neg hok, hsame]
  by_cases hlocked : r.format.sampleRate = 0 ∨ r.format.sampleRate = (wireFormat d).sampleRate ∧
    r.format.channels = (wireFormat d).channels
  swap
  · refine .inr ⟨fun h => hlocked h.lock, r.error, if_pos ?_⟩
    rw [not_or, not_and_or] at hlocked
    exact hlocked
  have hacc : AcceptedBy r.filter r.format d := ⟨haudio, hrate, hname, hcodec, hch, hlocked⟩
  have hmatch : ¬ (r.format.sampleRate ≠ 0 ∧
      (r.format.sampleRate ≠ vbanSampleRateHz (audioHeader d).sampleRateIndex ∨
        r.format.channels ≠ (wireFormat d).channels)) := by
    rintro ⟨hset, hdiff⟩
    obtain ⟨hr, hc⟩ := hlocked.resolve_left hset
    exact hdiff.elim (fun h => h hr) fun h => h hc
  -- the format is that of the packet, and so is the number of bytes that a frame takes
  have hformat : (if r.format.sampleRate = 0 then
      { sampleRate := vbanSampleRateHz (audioHeader d).sampleRateIndex
        channels := (wireFormat d).channels
        bitsPerSample := 16 }
      else r.format) = wireFormat d := hlock.format_eq hacc
  have hbpf : (wireFormat d).bytesPerFrame = (wireFormat d).channels.toNat * 2 :=
    PCMFormat.bytesPerFrame_pcm16 rfl
  have hnum : (audioHeader d).numSamples.toNat = (byteAt d 5).toNat + 1 := by
    have hlt := (byteAt d 5).toNat_lt
    show ((byteAt d 5).toUInt16 + 1).toNat = _
    rw [UInt16.toNat_add, UInt8.toNat_toUInt16]
    exact Nat.mod_eq_of_lt (show (byteAt d 5).toNat + 1 < 2 ^ 16 by omega)
  have hpos : 0 < (wireFormat d).channels.toNat := by
    rcases hch with hc | hc <;> rw [hc] <;> decide
  refine .inl ⟨hacc, ?_⟩
  simp only [if_neg hmatch, hformat, hbpf, hnum, take_payload_eq, ← hostImage_packetFrames hpos]
  rfl

/-- **Three things can happen.** -/
theorem receive_cases {e : List UInt8} (hcap : e.length ≤ kVbanMaxPacketBytes) :
    Polled r e (r.receive e).1 (r.receive e).2 := by
  have htake : e.take kVbanMaxPacketBytes = e := List.take_of_length_le hcap
  -- `poll` looks at byte 4 first and parses then; the classification asks whether the whole header is there
  by_cases hservice : SpeaksVban .service e
  · obtain ⟨header, hparse⟩ := parseServiceHeader_ok hservice
    have hpolled := Polled.service (r := r) hservice hparse
    rw [htake] at hpolled
    rw [receive_service hservice hparse]
    exact hpolled
  have hdropped : ∀ error, ¬ AcceptedBy r.filter r.format e → Polled r e false { r with error } :=
    fun error hacc => .dropped hservice hacc error
  rw [receive]
  by_cases hlen : e.length < kVbanHeaderBytes
  · rw [if_pos hlen]
    exact hdropped r.error fun h => hlen.not_ge h.audio.length
  rw [if_neg hlen]
  by_cases hsub : byteAt e 4 &&& 0xE0 = VbanSubProtocol.service.code
  · -- byte 4 says service, but the signature is missing
    obtain ⟨err, hparse⟩ := parseServiceHeader_error hservice
    rw [if_pos hsub, hparse]
    refine hdropped r.error fun h => ?_
    exact absurd (h.audio.subProtocol.symm.trans hsub) (by decide)
  rw [if_neg hsub]
  rcases parseAudioHeader_cases e with ⟨haudio, hrate, hparse⟩ | ⟨hnot, err, hparse⟩
  · rw [hparse]
    rcases pollAudio_cases hlock haudio hrate with ⟨hacc, hres⟩ | ⟨hacc, error, hres⟩
    · have hpolled := Polled.audio hacc
      rw [htake] at hpolled
      simp only [hres]
      exact hpolled
    · simp only [hres]
      exact hdropped error hacc
  · rw [hparse]
    exact hdropped r.error fun h => hnot ⟨h.audio, h.rate⟩

/-- **Three things can come of polling a datagram.** -/
theorem poll_cases (hready : r.ready = true) (buf : VbanPollMemory) {d : List UInt8} (hd : d ≠ []) :
    Polled r d (r.poll buf (Inbound.ofDatagram d)).1 (r.poll buf (Inbound.ofDatagram d)).2.1 := by
  obtain ⟨hok, hrest⟩ := Prod.ext_iff.mp (poll_ofDatagram hready buf hd)
  dsimp only at hok hrest
  rw [hok, hrest]
  exact (receive_cases hlock (List.length_take_le _ _)).of_take

end Receive

/-! ## The lock -/

/-- What holds of a receiver in every state: its lock is an audio format, and its ring keeps its
size. -/
structure Inv (r : VbanReceiver) : Prop where
  lock : r.LockOk
  cap : r.queue.cap = kVbanQueueBytes

/-- A new receiver keeps the invariant. -/
theorem inv_new : Inv {} := ⟨.inl rfl, RingBuffer.cap_empty kVbanQueueBytes (by decide) 0⟩

section Runs

variable [PCMFlow]

/-- **The rule for polls.** What handing over a service packet and the audio branch keep, `poll`
keeps, whatever the UDP object answers. -/
theorem poll_rule {P : VbanReceiver → Prop} (hserved : ∀ r served, P r → P { r with served })
    (haudio : ∀ r h payload, P r → P (r.pollAudio h payload).2) {r : VbanReceiver} (hr : P r)
    (buf : VbanPollMemory) (io : Inbound) : P (r.poll buf io).2.1 := by
  unfold poll
  split
  · exact hr
  split
  · exact hr
  dsimp only
  split
  · exact hr
  split
  · exact hr
  split
  · split
    · exact hr
    · split
      · exact hserved r _ hr
      · exact hr
  · split
    · exact hr
    · exact haudio r _ _ hr

/-- What the audio branch does to the format and to the size of the ring. -/
theorem pollAudio_format (r : VbanReceiver) (h : VbanAudioHeader) (payload : List UInt8) :
    (r.pollAudio h payload).2.queue.cap = r.queue.cap ∧
      ((r.pollAudio h payload).2.format = r.format ∨
        r.format.sampleRate = 0 ∧ IsAudioFormat (r.pollAudio h payload).2.format) := by
  unfold pollAudio
  split
  · exact ⟨rfl, .inl rfl⟩
  split
  · exact ⟨rfl, .inl rfl⟩
  dsimp only
  split
  · exact ⟨rfl, .inl rfl⟩
  rename_i hok
  split
  · exact ⟨rfl, .inl rfl⟩
  refine ⟨RingBuffer.cap_push _ _, ?_⟩
  dsimp only
  by_cases hzero : r.format.sampleRate = 0
  · rw [if_pos hzero]
    rw [not_or] at hok
    exact .inr ⟨hzero, isAudioFormat_lock hok.1 hok.2⟩
  · rw [if_neg hzero]
    exact .inl rfl

/-- An audio packet keeps it. -/
theorem Inv.pollAudio {r : VbanReceiver} (hinv : r.Inv) (h : VbanAudioHeader) (payload : List UInt8) :
    (r.pollAudio h payload).2.Inv := by
  obtain ⟨hcap, hfmt⟩ := r.pollAudio_format h payload
  refine ⟨?_, hcap.trans hinv.cap⟩
  rcases hfmt with hsame | ⟨-, hlocked⟩
  · rw [LockOk, hsame]
    exact hinv.lock
  · exact .inr hlocked

/-- Every call keeps it. -/
theorem Inv.step {s : VbanReceiver × VbanPollMemory} (hinv : s.1.Inv) (c : Call) : (step s c).1.Inv := by
  obtain ⟨r, buf⟩ := s
  cases c with
  | begin streamName bound =>
    show (r.begin streamName bound).2.Inv
    unfold VbanReceiver.begin
    dsimp only
    split
    · exact ⟨hinv.lock, hinv.cap⟩
    · exact ⟨.inl rfl, hinv.cap⟩
  | end_ => exact ⟨hinv.lock, hinv.cap⟩
  | setServiceCallback cb => exact ⟨hinv.lock, hinv.cap⟩
  | poll io =>
    exact poll_rule (fun r _ h => ⟨h.lock, h.cap⟩) (fun r h payload hinv => hinv.pollAudio h payload)
      hinv buf io
  | readFrames nonNull frameCount =>
    refine ⟨hinv.lock, ?_⟩
    obtain ⟨-, -, -, hcap⟩ := readQueue_spec r.ready nonNull r.format.bytesPerFrame r.queue frameCount
    exact hcap.trans hinv.cap

/-- **The invariant holds in every reachable state.** -/
theorem Reachable.inv {s : VbanReceiver × VbanPollMemory} (h : Reachable s) : s.1.Inv := by
  obtain ⟨calls, rfl⟩ := h
  suffices hall : ∀ s : VbanReceiver × VbanPollMemory, s.1.Inv → (calls.foldl VbanReceiver.step s).1.Inv by
    exact hall _ inv_new
  induction calls with
  | nil => exact fun s hs => hs
  | cons c calls ih => exact fun s hs => ih _ (hs.step c)

/-- The call is a `begin`. -/
def Call.isBegin : Call → Bool
  | .begin _ _ => true
  | _ => false

/-- A locked format outlives every call but `begin`. -/
theorem step_format {s : VbanReceiver × VbanPollMemory} (hlocked : s.1.format.sampleRate ≠ 0) {c : Call}
    (hc : c.isBegin = false) : (step s c).1.format = s.1.format := by
  obtain ⟨r, buf⟩ := s
  cases c with
  | begin streamName bound => exact absurd hc (by simp [Call.isBegin])
  | end_ => rfl
  | setServiceCallback cb => rfl
  | poll io =>
    refine poll_rule (P := fun r' => r'.format = r.format) (fun _ _ h => h) ?_ rfl buf io
    intro r' h payload hsame
    rcases (r'.pollAudio_format h payload).2 with hkept | ⟨hzero, -⟩
    · exact hkept.trans hsame
    · exact absurd (hsame ▸ hzero) hlocked
  | readFrames nonNull frameCount => rfl

/-- A locked format outlives every run without a `begin`. -/
theorem run_format {s : VbanReceiver × VbanPollMemory} (hlocked : s.1.format.sampleRate ≠ 0)
    {calls : List Call} (hcalls : ∀ c ∈ calls, c.isBegin = false) :
    (calls.foldl step s).1.format = s.1.format := by
  induction calls generalizing s with
  | nil => rfl
  | cons c calls ih =>
    have hstep : (step s c).1.format = s.1.format := step_format hlocked (hcalls c List.mem_cons_self)
    have hrest := ih (s := step s c) (by rwa [hstep]) fun c' hc' => hcalls c' (List.mem_cons_of_mem c hc')
    exact hrest.trans hstep

/-! ## The classification -/

/-- **What `poll` makes of a datagram.** In every state a receiver can be in, a service packet, an audio
packet that it accepts and anything else are told apart, in exactly one way, and each changes what it
must and nothing else; the format that the first packet locked stays until the next `begin`. -/
theorem vban_poll_classification {r : VbanReceiver} {buf : VbanPollMemory} (hr : Reachable (r, buf))
    (hready : r.ready = true) :
    (∀ d, d ≠ [] →
      Polled r d (r.poll buf (Inbound.ofDatagram d)).1 (r.poll buf (Inbound.ofDatagram d)).2.1) ∧
      (∀ d, ¬ (SpeaksVban .service d ∧ AcceptedBy r.filter r.format d)) ∧
      (r.format.sampleRate ≠ 0 → ∀ calls : List Call, (∀ c ∈ calls, c.isBegin = false) →
        (calls.foldl step (r, buf)).1.format = r.format) := by
  refine ⟨fun d hd => poll_cases hr.inv.lock hready buf hd, fun d => ?_,
    fun hlocked calls hcalls => run_format hlocked hcalls⟩
  rintro ⟨hservice, haccepted⟩
  exact haccepted.not_service hservice

end Runs

/-- A packet of one mono frame of a stream with this name. -/
def monoPacket (streamName : List UInt8) : List UInt8 :=
  audioHeaderBytes { sampleRateIndex := 3, streamName := VbanName.zero.blit 0 streamName } ++ [1, 2]

/-- A receiver that listens to one stream and is locked to its format by a packet. It takes the next packet of
the stream, and turns down one with another name and one of another rate. -/
theorem vban_poll_classification_locked :
    let s := [Call.begin (some [65, 0]) 1, .poll (.ofDatagram (monoPacket [65]))].foldl
      (@step PCMFlow.documented) ({}, Buffer.filled _ 0)
    (s.1.filter = some [65] ∧ s.1.format = ⟨48000, 1, 16⟩) ∧
      (AcceptedBy s.1.filter s.1.format (monoPacket [65]) ∧
        ¬ AcceptedBy s.1.filter s.1.format (monoPacket [66]) ∧
        ¬ AcceptedBy s.1.filter ⟨44100, 1, 16⟩ (monoPacket [65])) ∧
      (∀ d, d ≠ [] →
        Polled s.1 d (@poll PCMFlow.documented s.1 s.2 (Inbound.ofDatagram d)).1
          (@poll PCMFlow.documented s.1 s.2 (Inbound.ofDatagram d)).2.1) ∧
      (∀ d, ¬ (SpeaksVban .service d ∧ AcceptedBy s.1.filter s.1.format d)) ∧
      (s.1.format.sampleRate ≠ 0 → ∀ calls : List Call, (∀ c ∈ calls, c.isBegin = false) →
        (calls.foldl (@step PCMFlow.documented) s).1.format = s.1.format) := by
  intro s
  exact ⟨by decide +kernel, by decide +kernel,
    @vban_poll_classification PCMFlow.documented s.1 s.2 ⟨_, rfl⟩ (by decide +kernel)⟩

end VbanReceiver

end PcmFlowUdp
