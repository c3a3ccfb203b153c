import PcmFlowUdp.Vban.Receiver

/-! # What the calls of `VbanReceiver` do

`receive_emitted` says what receiving a packet of a `VbanSender` does: no packet of a sender is taken
for a service packet, and its header parses. `pollAudio_accepts` says when such a packet is accepted
and what is queued then; `pollAudio_frameCounter` says that the recorded frame counter is that of the
last packet accepted. -/

namespace PcmFlowUdp

open ByteTransport PcmFrame

/-! ## Names -/

/-- The C string in a name field: up to its first NUL, or all sixteen bytes. -/
def cName (s : List UInt8) : List UInt8 := (s.take kVbanStreamNameBytes).takeWhile (· != 0)

/-- A name field holds the C string, padded with NULs. -/
theorem nameField_eq (s : List UInt8) :
    nameField s = cName s ++ List.replicate (kVbanStreamNameBytes - (cName s).length) 0 := by
  have hpre : cName s <+: s := (List.takeWhile_prefix _).trans (List.take_prefix _ _)
  -- the bytes copied are those in front of the first NUL
  have hcopy : readMem s 0 (cName s).length = cName s := by
    rw [readMem_eq (by rw [Nat.zero_add]; exact hpre.length_le), List.drop_zero]
    exact (List.prefix_iff_eq_take.mp hpre).symm
  have hk : strnlen s kVbanStreamNameBytes = (cName s).length := rfl
  rw [nameField, hk, hcopy]

/-- A name field reads back as the C string that it was stored from. -/
theorem cName_nameField (s rest : List UInt8) : cName (nameField s ++ rest) = cName s := by
  have hlen : (nameField s).length = kVbanStreamNameBytes := length_nameField s
  have hnonzero : ∀ b ∈ cName s, (b != 0) = true := List.all_eq_true.mp List.all_takeWhile
  rw [cName, List.take_left' hlen, nameField_eq, List.takeWhile_append_of_pos hnonzero]
  -- the padding begins with a NUL, or the name fills the field
  cases kVbanStreamNameBytes - (cName s).length with
  | zero => simp
  | succ k => simp [List.replicate_succ]

/-- A name that was stored once is stored unchanged from then on. -/
theorem nameField_nameField (s rest : List UInt8) : nameField (nameField s ++ rest) = nameField s := by
  rw [nameField_eq, cName_nameField, ← nameField_eq]

/-- Storing a stored name stores the same array. -/
theorem VbanName.ofCString_cells (s : List UInt8) :
    VbanName.ofCString (VbanName.ofCString s).cells = VbanName.ofCString s := by
  ext1
  rw [VbanName.cells_ofCString, VbanName.cells_ofCString, nameField_nameField]

namespace VbanReceiver

section Receive

variable [PCMFlow]

/-- **What receiving a packet of a `VbanSender` does.** -/
theorem receive_emitted (r : VbanReceiver) {h : VbanAudioHeader} (hidx : h.sampleRateIndex ≤ 20)
    (hsamples : 1 ≤ h.numSamples ∧ h.numSamples ≤ 256)
    (hchannels : 1 ≤ h.numChannels ∧ h.numChannels ≤ 256) (payload : List UInt8) :
    r.receive (audioHeaderBytes h ++ payload)
      = r.pollAudio { h with streamName := VbanName.ofCString h.streamName.cells } payload := by
  have hhead : (audioHeaderBytes h).length = kVbanHeaderBytes := length_vbanHeaderBytes _ _ _ _ _ _
  have hlen : 28 ≤ (audioHeaderBytes h ++ payload).length := by
    rw [List.length_append, hhead]
    exact Nat.le_add_right _ _
  -- byte 4 says audio
  have hlt : h.sampleRateIndex.toNat < 21 := Nat.lt_succ_of_le (UInt8.le_iff_toNat_le.mp hidx)
  have hrate := (rateByte_fields ⟨h.sampleRateIndex.toNat, hlt⟩).1
  simp only [UInt8.ofNat_toNat] at hrate
  have h4 : byteAt (audioHeaderBytes h ++ payload) 4
      = VbanSubProtocol.audio.code ||| (h.sampleRateIndex &&& 0x1F) :=
    (vbanHeaderBytes_getD _ _ _ _ _ _ payload).1 0 (by omega)
  have haudio : ¬ byteAt (audioHeaderBytes h ++ payload) 4 &&& 0xE0
      = VbanSubProtocol.service.code := by
    rw [h4, hrate]
    decide
  have hshort : ¬ (audioHeaderBytes h ++ payload).length < kVbanHeaderBytes := Nat.not_lt.mpr hlen
  rw [receive, if_neg hshort, if_neg haudio,
    parseAudioHeader_encoded hidx hsamples hchannels payload hlen]
  show r.pollAudio _ ((audioHeaderBytes h ++ payload).drop kVbanHeaderBytes) = _
  rw [List.drop_left' hhead]

/-- An accepted audio packet sets the recorded frame counter, a rejected one does not. -/
theorem pollAudio_frameCounter (r : VbanReceiver) (h : VbanAudioHeader) (payload : List UInt8) :
    (r.pollAudio h payload).2.lastFrameCounter
      = if (r.pollAudio h payload).1 = true then h.frameCounter else r.lastFrameCounter := by
  -- only the last branch touches the counter
  unfold pollAudio
  split
  · rfl
  split
  · rfl
  dsimp only
  split
  · rfl
  split
  · rfl
  · rfl

/-- **When an audio packet is accepted** and what is queued: the name passes the filter, the samples
are PCM16 in the format locked or to be locked, and the payload holds the announced frames. -/
theorem pollAudio_accepts {r : VbanReceiver} {h : VbanAudioHeader} {fmt : PCMFormat}
    (hfilter : r.filterEnabled = true → h.streamName = r.filterName) (hcodec : h.subCodec = .pcm16)
    (hrate : vbanSampleRateHz h.sampleRateIndex = fmt.sampleRate) (hne : fmt.sampleRate ≠ 0)
    (hchan : h.numChannels = fmt.channels.toUInt16) (hch : fmt.channels = 1 ∨ fmt.channels = 2)
    (hbits : fmt.bitsPerSample = 16) (hlock : r.format.sampleRate = 0 ∨ r.format = fmt)
    {fs : List (PcmFrame fmt.channels.toNat)} (hnum : h.numSamples.toNat = fs.length) :
    r.pollAudio h (hostImage fs)
      = (true,
        { r with
          format := fmt
          queue := r.queue.push (hostImage fs)
          currentStream := h.streamName
          lastFrameCounter := h.frameCounter }) := by
  have hname : ¬ (r.filterEnabled &&
      strncmp h.streamName.cells r.filterName.cells kVbanStreamNameBytes != 0) = true := by
    cases hen : r.filterEnabled
    · simp
    · rw [hfilter hen, strncmp_self]
      decide
  have hrange : ¬ (fmt.sampleRate = 0 ∨ fmt.channels.toUInt16 < 1 ∨ fmt.channels.toUInt16 > 2) := by
    rintro (h0 | hrest)
    · exact hne h0
    · rcases hch with hc | hc <;> rw [hc] at hrest <;> revert hrest <;> decide
  have hbyte : fmt.channels.toUInt16.toUInt8 = fmt.channels := by
    rcases hch with hc | hc <;> rw [hc] <;> rfl
  -- the format is not locked, or locked to this one
  have hmatch : ¬ (r.format.sampleRate ≠ 0 ∧
      (r.format.sampleRate ≠ fmt.sampleRate ∨ r.format.channels ≠ fmt.channels)) := by
    rintro ⟨hset, hdiff⟩
    rcases hlock with h0 | heq
    · exact hset h0
    · rw [heq] at hdiff
      rcases hdiff with hd | hd <;> exact hd rfl
  have hformat : (if r.format.sampleRate = 0 then
      { sampleRate := fmt.sampleRate, channels := fmt.channels, bitsPerSample := 16 }
      else r.format) = fmt := by
    split
    · rw [← hbits]
    · rcases hlock with h0 | heq
      · exact absurd h0 ‹_›
      · exact heq
  have hbpf : fmt.bytesPerFrame = fmt.channels.toNat * 2 := PCMFormat.bytesPerFrame_pcm16 hbits
  -- the payload is exactly what the header announces
  have hlen : (hostImage fs).length = fs.length * fmt.bytesPerFrame := by
    rw [length_hostImage, hbpf]
  have htake : (hostImage fs).take (fs.length * fmt.bytesPerFrame
      - fs.length * fmt.bytesPerFrame % fmt.bytesPerFrame) = hostImage fs := by
    rw [Nat.mul_mod_left, Nat.sub_zero, ← hlen, List.take_length]
  rw [pollAudio, if_neg hname, if_neg (not_not.mpr hcodec)]
  simp only [hrate, hchan, hbyte, if_neg hrange, if_neg hmatch, hformat, hnum, hlen, lt_self_iff_false,
    if_false, htake]

end Receive

/-- Reading while the queue holds frames of the current channel count returns the oldest of them. -/
theorem readFrames_frames [PCMFlow] {r : VbanReceiver} {c : ℕ} {fs : List (PcmFrame c)}
    (hq : r.queue.contents = hostImage fs) (hbpf : fs ≠ [] → r.format.bytesPerFrame = c * 2)
    (nonNull : Bool) (frameCount : ℕ) :
    ∃ k queue, k ≤ fs.length ∧
      r.readFrames nonNull frameCount = (k, hostImage (fs.take k), { r with queue }) ∧
      queue.contents = hostImage (fs.drop k) ∧ queue.cap = r.queue.cap := by
  obtain ⟨k, queue, hk, hread, hcont, hcap⟩ := readQueue_frames hq hbpf r.ready nonNull frameCount
  exact ⟨k, queue, hk, by rw [readFrames, hread], hcont, hcap⟩

end VbanReceiver

end PcmFlowUdp
