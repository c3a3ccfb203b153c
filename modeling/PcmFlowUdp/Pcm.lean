import PcmFlowUdp.ByteTransport.ByteOrder
import PcmFlowUdp.ByteTransport.Records

/-! # PCM formats, frames and their memory images

`PCMFormat` comes from the parent library PCMFlow, whose code is not part of this repository. Its two
methods are a parameter (`PCMFlow`), with what the carriers rely on as fields; `PCMFlow.documented` is
the implementation its documentation describes.

A PCM16 frame is one `Int16` sample per channel. In host memory (little-endian) and on an RTP wire
(big-endian) a list of frames is a flat byte image; `hostFrames` and `netFrames` read such an image
back, and the two images are exchanged by swapping adjacent bytes (`swapPairs_hostImage`). -/

namespace PcmFlowUdp

open ByteTransport

/-! ## Formats -/

/-- `PCMFormat`: a PCM layout. The value-initialised format is all zero. -/
structure PCMFormat where
  sampleRate : UInt32 := 0
  channels : UInt8 := 0
  bitsPerSample : UInt8 := 0
  deriving DecidableEq, Repr

/-- The methods of `PCMFormat` that PCMFlow supplies. -/
class PCMFlow where
  /-- `PCMFormat::isValid`. -/
  isValid : PCMFormat → Bool
  /-- `PCMFormat::bytesPerFrame`. -/
  bytesPerFrame : PCMFormat → ℕ
  /-- A valid format has a sample rate. -/
  sampleRate_ne_zero : ∀ fmt, isValid fmt = true → fmt.sampleRate ≠ 0
  /-- A valid format has a channel. -/
  channels_ne_zero : ∀ fmt, isValid fmt = true → fmt.channels ≠ 0
  /-- A 16-bit frame takes two bytes per channel. -/
  bytesPerFrame_pcm16 : ∀ fmt, fmt.bitsPerSample = 16 → bytesPerFrame fmt = fmt.channels.toNat * 2

/-- PCMFlow as documented: nonzero rate and channels at a supported depth, whole bytes per sample. -/
@[reducible] def PCMFlow.documented : PCMFlow where
  isValid fmt := fmt.sampleRate != 0 && fmt.channels != 0 &&
    (fmt.bitsPerSample == 8 || fmt.bitsPerSample == 16 || fmt.bitsPerSample == 24 ||
      fmt.bitsPerSample == 32)
  bytesPerFrame fmt := fmt.channels.toNat * (fmt.bitsPerSample.toNat / 8)
  sampleRate_ne_zero fmt h := by simp at h; exact h.1.1
  channels_ne_zero fmt h := by simp at h; exact h.1.2
  bytesPerFrame_pcm16 fmt h := by rw [h]; rfl

namespace PCMFormat

variable [PCMFlow]

/-- `PCMFormat::isValid`. -/
def isValid (fmt : PCMFormat) : Bool := PCMFlow.isValid fmt

/-- `PCMFormat::bytesPerFrame`. -/
def bytesPerFrame (fmt : PCMFormat) : ℕ := PCMFlow.bytesPerFrame fmt

/-- A valid format has a sample rate. -/
theorem sampleRate_ne_zero {fmt : PCMFormat} (h : fmt.isValid = true) : fmt.sampleRate ≠ 0 :=
  PCMFlow.sampleRate_ne_zero fmt h

/-- It has channels. -/
theorem channels_ne_zero {fmt : PCMFormat} (h : fmt.isValid = true) : fmt.channels ≠ 0 :=
  PCMFlow.channels_ne_zero fmt h

/-- It has at least one channel. -/
theorem channels_pos {fmt : PCMFormat} (h : fmt.isValid = true) : 0 < fmt.channels.toNat :=
  UInt8.lt_iff_toNat_lt.mp (UInt8.pos_iff_ne_zero.mpr (channels_ne_zero h))

/-- A frame of PCM16 takes two bytes a channel. -/
theorem bytesPerFrame_pcm16 {fmt : PCMFormat} (h : fmt.bitsPerSample = 16) :
    fmt.bytesPerFrame = fmt.channels.toNat * 2 :=
  PCMFlow.bytesPerFrame_pcm16 fmt h

/-- Every `setFormat` begins with this check: valid and of 16 bits. -/
theorem not_rejected_iff {fmt : PCMFormat} :
    ¬ (!fmt.isValid || fmt.bitsPerSample != 16) = true ↔ fmt.isValid = true ∧ fmt.bitsPerSample = 16 := by
  simp

end PCMFormat

/-! ## Samples -/

/-- An `int16_t` in host memory: less significant byte first. -/
def hostSample (x : Int16) : List UInt8 := [lo16 x.toUInt16, hi16 x.toUInt16]

/-- A sample takes two bytes. -/
theorem length_hostSample (x : Int16) : (hostSample x).length = 2 := rfl

/-- A sample on an RTP wire: more significant byte first. -/
def netSample (x : Int16) : List UInt8 := [hi16 x.toUInt16, lo16 x.toUInt16]

/-- Read a stretch of host memory as `int16_t` values. -/
def hostSamples : List UInt8 → List Int16
  | b0 :: b1 :: t => (word16 b1 b0).toInt16 :: hostSamples t
  | _ => []

/-- Reading back the samples just stored. -/
@[simp] theorem hostSamples_flatMap (xs : List Int16) : hostSamples (xs.flatMap hostSample) = xs := by
  induction xs with
  | nil => rfl
  | cons x xs ih =>
    show (word16 (hi16 x.toUInt16) (lo16 x.toUInt16)).toInt16
      :: hostSamples (xs.flatMap hostSample) = x :: xs
    rw [word16_hi_lo, ih]
    rfl

/-- The wire image of a sample is its host image with the two bytes exchanged. -/
theorem swapPairs_flatMap_hostSample (xs : List Int16) :
    swapPairs (xs.flatMap hostSample) = xs.flatMap netSample := by
  induction xs with
  | nil => rfl
  | cons x xs ih =>
    show hi16 x.toUInt16 :: lo16 x.toUInt16 :: swapPairs (xs.flatMap hostSample) = _
    rw [ih]
    rfl

/-! ## Frames -/

/-- An interleaved PCM16 frame: one sample for each of `c` channels. -/
structure PcmFrame (c : ℕ) where
  /-- The samples in channel order. -/
  samples : List Int16
  /-- One sample per channel. -/
  size : samples.length = c
  deriving DecidableEq, Repr

namespace PcmFrame

variable {c : ℕ}

/-- Frames with the same samples are the same. -/
@[ext] theorem ext {f g : PcmFrame c} (h : f.samples = g.samples) : f = g := by
  cases f; cases g; cases h; rfl

/-- The frame in host memory. -/
def hostBytes (f : PcmFrame c) : List UInt8 := f.samples.flatMap hostSample

/-- A frame takes two bytes a channel. -/
theorem length_hostBytes (f : PcmFrame c) : f.hostBytes.length = c * 2 := by
  rw [hostBytes, length_flatMap_uniform length_hostSample, f.size]

/-- Frames in host memory, back to back. -/
def hostImage (fs : List (PcmFrame c)) : List UInt8 := fs.flatMap hostBytes

/-- Frames on an RTP wire, back to back. -/
def netImage (fs : List (PcmFrame c)) : List UInt8 := fs.flatMap fun f => f.samples.flatMap netSample

/-- No frames, no bytes. -/
@[simp] theorem hostImage_nil : hostImage ([] : List (PcmFrame c)) = [] := rfl

/-- Frames lie one behind the other. -/
@[simp] theorem hostImage_append (fs gs : List (PcmFrame c)) :
    hostImage (fs ++ gs) = hostImage fs ++ hostImage gs := List.flatMap_append

/-- The bytes of frames are counted by the frames. -/
theorem length_hostImage (fs : List (PcmFrame c)) :
    (hostImage fs).length = fs.length * (c * 2) :=
  length_flatMap_uniform length_hostBytes fs

/-- Dropping the bytes of frames drops the frames. -/
theorem hostImage_drop (fs : List (PcmFrame c)) (k : ℕ) :
    (hostImage fs).drop (k * (c * 2)) = hostImage (fs.drop k) :=
  drop_flatMap_uniform length_hostBytes fs k

/-- Taking the bytes of frames takes the frames. -/
theorem hostImage_take (fs : List (PcmFrame c)) (k : ℕ) :
    (hostImage fs).take (k * (c * 2)) = hostImage (fs.take k) :=
  take_flatMap_uniform length_hostBytes fs k

/-- Laying out frames is laying out their samples. -/
theorem hostImage_eq_flatMap (fs : List (PcmFrame c)) :
    hostImage fs = (fs.flatMap samples).flatMap hostSample := by
  rw [List.flatMap_assoc]
  rfl

/-- The samples of an image in host memory are those of its frames, in order. -/
theorem hostSamples_hostImage (fs : List (PcmFrame c)) :
    hostSamples (hostImage fs) = fs.flatMap samples := by
  rw [hostImage_eq_flatMap, hostSamples_flatMap]

/-- **The byte orders differ by exchanging adjacent bytes.** -/
theorem swapPairs_hostImage (fs : List (PcmFrame c)) : swapPairs (hostImage fs) = netImage fs := by
  rw [hostImage_eq_flatMap, swapPairs_flatMap_hostSample, List.flatMap_assoc]
  rfl

/-- Swapped back, frames from the network lie in host order. -/
theorem swapPairs_netImage (fs : List (PcmFrame c)) : swapPairs (netImage fs) = hostImage fs := by
  rw [← swapPairs_hostImage, swapPairs_swapPairs]

/-- The byte order does not change the size. -/
theorem length_netImage (fs : List (PcmFrame c)) :
    (netImage fs).length = fs.length * (c * 2) := by
  rw [← swapPairs_hostImage, length_swapPairs, length_hostImage]

/-- Group interleaved samples into whole frames. -/
def ofSamples (c : ℕ) (xs : List Int16) : List (PcmFrame c) :=
  (List.range (xs.length / c)).map fun i => ⟨readMem xs (i * c) c, length_readMem _ _ _⟩

/-- Frames cut from samples have these samples. -/
theorem map_samples_ofSamples (c : ℕ) (xs : List Int16) :
    (ofSamples c xs).map samples = records c xs := by
  rw [ofSamples, List.map_map]
  rfl

/-- Grouping undoes laying frames out. -/
theorem ofSamples_flatMap (hc : 0 < c) (fs : List (PcmFrame c)) :
    ofSamples c (fs.flatMap samples) = fs := by
  -- frames are equal if their samples are
  have hinj : Function.Injective (List.map (samples (c := c))) :=
    List.map_injective_iff.mpr fun _ _ h => PcmFrame.ext h
  apply hinj
  rw [map_samples_ofSamples, records_flatMap_uniform hc size]

end PcmFrame

/-- The frames of an image in host memory. -/
def hostFrames (c : ℕ) (bytes : List UInt8) : List (PcmFrame c) :=
  PcmFrame.ofSamples c (hostSamples bytes)

/-- The frames of an image on an RTP wire. -/
def netFrames (c : ℕ) (bytes : List UInt8) : List (PcmFrame c) := hostFrames c (swapPairs bytes)

/-- No bytes, no frames. -/
@[simp] theorem hostFrames_nil (c : ℕ) : hostFrames c [] = [] := by
  simp [hostFrames, hostSamples, PcmFrame.ofSamples]

/-- Reading back the frames just stored. -/
@[simp] theorem hostFrames_hostImage {c : ℕ} (hc : 0 < c) (fs : List (PcmFrame c)) :
    hostFrames c (PcmFrame.hostImage fs) = fs := by
  rw [hostFrames, PcmFrame.hostSamples_hostImage, PcmFrame.ofSamples_flatMap hc]

/-- A whole number of samples is laid out as it was read. -/
theorem flatMap_hostSamples {bytes : List UInt8} (h : 2 ∣ bytes.length) :
    (hostSamples bytes).flatMap hostSample = bytes := by
  -- two bytes at a time, as `hostSamples` goes
  induction bytes using hostSamples.induct with
  | case1 b0 b1 t ih =>
    rw [List.length_cons, List.length_cons] at h
    have hv : hostSample (word16 b1 b0).toInt16 = [b0, b1] := by
      show [lo16 (word16 b1 b0), hi16 (word16 b1 b0)] = [b0, b1]
      rw [lo16_word16, hi16_word16]
    rw [hostSamples, List.flatMap_cons, hv, ih (by omega)]
    rfl
  | case2 l hl =>
    match l, hl, h with
    | [], _, _ => rfl
    | [b], _, h => simp at h
    | b0 :: b1 :: t, hl, _ => exact absurd rfl (hl b0 b1 t)

/-- A whole number of frames is laid out as it was read. -/
theorem hostImage_hostFrames {c : ℕ} (hc : 0 < c) {bytes : List UInt8}
    (h : c * 2 ∣ bytes.length) : PcmFrame.hostImage (hostFrames c bytes) = bytes := by
  have heven : 2 ∣ bytes.length := (Nat.dvd_mul_left 2 c).trans h
  have hsamples : (hostSamples bytes).flatMap hostSample = bytes := flatMap_hostSamples heven
  have hlen : (hostSamples bytes).length * 2 = bytes.length := by
    rw [← length_flatMap_uniform length_hostSample, hsamples]
  have hdvd : c ∣ (hostSamples bytes).length :=
    Nat.dvd_of_mul_dvd_mul_right Nat.two_pos (hlen ▸ h)
  have hflat : (hostFrames c bytes).flatMap PcmFrame.samples = hostSamples bytes := by
    rw [hostFrames, List.flatMap_def, PcmFrame.map_samples_ofSamples, flatten_records hc hdvd]
  rw [PcmFrame.hostImage_eq_flatMap, hflat, hsamples]

/-- Of whole frames, the first are those in the first bytes. -/
theorem hostFrames_take {c : ℕ} (hc : 0 < c) {bytes : List UInt8} (h : c * 2 ∣ bytes.length) (k : ℕ) :
    hostFrames c (bytes.take (k * (c * 2))) = (hostFrames c bytes).take k := by
  conv_lhs => rw [← hostImage_hostFrames hc h]
  rw [PcmFrame.hostImage_take, hostFrames_hostImage hc]

/-! ## Frames of any channel count -/

/-- The samples of a frame, one for each channel. -/
structure AudioFrame where
  channels : ℕ
  samples : List Int16
  deriving DecidableEq, Repr

/-- A frame together with its number of channels. -/
def PcmFrame.audio {c : ℕ} (f : PcmFrame c) : AudioFrame := ⟨c, f.samples⟩

/-- Frames in host memory, back to back. -/
def AudioFrame.hostImage (fs : List AudioFrame) : List UInt8 :=
  fs.flatMap fun f => f.samples.flatMap hostSample

/-- The bytes of frames do not depend on whether the channel count is in the type. -/
@[simp] theorem AudioFrame.hostImage_map_audio {c : ℕ} (fs : List (PcmFrame c)) :
    AudioFrame.hostImage (fs.map PcmFrame.audio) = PcmFrame.hostImage fs := by
  rw [AudioFrame.hostImage, List.flatMap_map]
  rfl

/-- Frames on the wire, back to back. -/
def AudioFrame.netImage (fs : List AudioFrame) : List UInt8 :=
  fs.flatMap fun f => f.samples.flatMap netSample

/-- Nor do those on the network. -/
@[simp] theorem AudioFrame.netImage_map_audio {c : ℕ} (fs : List (PcmFrame c)) :
    AudioFrame.netImage (fs.map PcmFrame.audio) = PcmFrame.netImage fs := by
  rw [AudioFrame.netImage, List.flatMap_map]
  rfl

/-! ## The caller's memory -/

/-- The frames that a caller's memory holds from its start. -/
def memFrames (c : ℕ) (src : List UInt8) (frameCount : ℕ) : List (PcmFrame c) :=
  hostFrames c (readMem src 0 (frameCount * (c * 2)))

/-- The frames in memory have the bytes that lie there. -/
theorem hostImage_memFrames {c : ℕ} (hc : 0 < c) (src : List UInt8) (frameCount : ℕ) :
    PcmFrame.hostImage (memFrames c src frameCount) = readMem src 0 (frameCount * (c * 2)) :=
  hostImage_hostFrames hc (by rw [length_readMem]; exact Nat.dvd_mul_left _ _)

/-- There are as many frames in memory as were asked for. -/
theorem length_memFrames {c : ℕ} (hc : 0 < c) (src : List UInt8) (frameCount : ℕ) :
    (memFrames c src frameCount).length = frameCount := by
  have h := PcmFrame.length_hostImage (memFrames c src frameCount)
  rw [hostImage_memFrames hc, length_readMem] at h
  exact (Nat.eq_of_mul_eq_mul_right (by omega) h).symm

/-- A stretch of whole frames in the caller's memory. -/
theorem readMem_memFrames {c : ℕ} (hc : 0 < c) (src : List UInt8) {frameCount i k : ℕ}
    (h : i + k ≤ frameCount) :
    readMem src (i * (c * 2)) (k * (c * 2))
      = PcmFrame.hostImage (((memFrames c src frameCount).drop i).take k) := by
  rw [← PcmFrame.hostImage_take, ← PcmFrame.hostImage_drop, hostImage_memFrames hc,
    take_drop_readMem src (by rw [← Nat.add_mul]; exact Nat.mul_le_mul_right _ h), Nat.zero_add]

/-- The frames of an image given to a carrier are those it holds. -/
@[simp] theorem memFrames_hostImage {c : ℕ} (hc : 0 < c) (fs : List (PcmFrame c)) :
    memFrames c (PcmFrame.hostImage fs) fs.length = fs := by
  rw [memFrames, ← PcmFrame.length_hostImage, readMem_eq (by omega), List.drop_zero,
    List.take_length, hostFrames_hostImage hc]

/-- Reading back the frames just sent. -/
@[simp] theorem netFrames_netImage {c : ℕ} (hc : 0 < c) (fs : List (PcmFrame c)) :
    netFrames c (PcmFrame.netImage fs) = fs := by
  rw [netFrames, PcmFrame.swapPairs_netImage, hostFrames_hostImage hc]

end PcmFlowUdp
