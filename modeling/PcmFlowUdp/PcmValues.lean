import Mathlib.Data.List.Flatten
import PcmFlowUdp.ByteTransport.DropOldest
import PcmFlowUdp.ByteTransport.PythonBytes
import PcmFlowUdp.Pcm

/-! # Audio as lists of numbers

Python has a PCM16 sample as an integer and a packet's samples as a flat list. `pcmValues` lists the samples of
frames so; in the memory of the library and on either wire they are shorts of `struct`, least significant octet
first in memory and on a VBAN wire, most significant octet first on an RTP wire.

* **`unpackShorts_hostImage`, `unpackShorts_netImage`** — `struct.unpack` reads the samples of frames;
* **`pcmValues_hostFrames`** — the frames of packed shorts have the numbers that were packed. -/

namespace PcmFlowUdp

open ByteTransport PcmFrame Python

/-- The values of the samples of frames, interleaved. -/
def pcmValues (fs : List AudioFrame) : List ℤ := fs.flatMap fun f => f.samples.map Int16.toInt

/-- The values of frames lie one behind the other. -/
@[simp] theorem pcmValues_append (fs gs : List AudioFrame) :
    pcmValues (fs ++ gs) = pcmValues fs ++ pcmValues gs :=
  List.flatMap_append

/-- They are the values of the samples. -/
theorem pcmValues_eq {c : ℕ} (fs : List (PcmFrame c)) :
    pcmValues (fs.map audio) = (fs.flatMap PcmFrame.samples).map Int16.toInt := by
  rw [pcmValues, List.flatMap_map, List.map_flatMap]
  rfl

/-- A frame has as many values as channels. -/
theorem length_pcmValues {c : ℕ} (fs : List (PcmFrame c)) :
    (pcmValues (fs.map audio)).length = fs.length * c := by
  rw [pcmValues_eq, List.length_map]
  induction fs with
  | nil => exact (Nat.zero_mul c).symm
  | cons f fs ih =>
    rw [List.flatMap_cons, List.length_append, ih, f.size, List.length_cons, Nat.succ_mul, Nat.add_comm]

/-- **What a ring of `cap` bytes keeps** of frames of `c` samples: the last of their values, and all of them if
there is room. -/
theorem pcmValues_keepLast {c cap : ℕ} (hc : 0 < c) {fs : List AudioFrame}
    (hsize : (pcmValues fs).length = fs.length * c) :
    List.Sublist (pcmValues (keepLast (cap / (c * 2)) fs)) (pcmValues fs) ∧
      ((pcmValues fs).length * 2 ≤ cap → pcmValues (keepLast (cap / (c * 2)) fs) = pcmValues fs) := by
  refine ⟨(keepLast_suffix _ _).sublist.flatMap _, fun hroom => ?_⟩
  rw [hsize, Nat.mul_assoc] at hroom
  rw [keepLast_of_le ((Nat.le_div_iff_mul_le (by omega)).mpr hroom)]

/-- The values in host memory. -/
theorem hostSamples_audio (fs : List AudioFrame) :
    (hostSamples (AudioFrame.hostImage fs)).map Int16.toInt = pcmValues fs := by
  have himage : AudioFrame.hostImage fs = (fs.flatMap AudioFrame.samples).flatMap hostSample := by
    rw [AudioFrame.hostImage, List.flatMap_assoc]
  rw [himage, hostSamples_flatMap, pcmValues, List.map_flatMap]

/-- The frames of packed shorts. -/
theorem pcmValues_hostFrames {c : ℕ} (hc : 0 < c) {xs : List Int16} (hdvd : c ∣ xs.length) :
    pcmValues ((hostFrames c (xs.flatMap hostSample)).map audio) = xs.map Int16.toInt := by
  have hbytes : c * 2 ∣ (xs.flatMap hostSample).length := by
    rw [length_flatMap_uniform length_hostSample]
    exact Nat.mul_dvd_mul_right hdvd 2
  rw [pcmValues_eq, ← hostSamples_hostImage, hostImage_hostFrames hc hbytes, hostSamples_flatMap]

/-! ## What `struct` makes of them -/

/-- Samples in host memory are packed shorts, least significant octet first. -/
theorem flatMap_hostSample (xs : List Int16) :
    xs.flatMap hostSample = xs.flatMap fun x => Order.little.arrange (shortOctets x) :=
  rfl

/-- Samples on an RTP wire are packed shorts, most significant octet first. -/
theorem flatMap_netSample (xs : List Int16) :
    xs.flatMap netSample = xs.flatMap fun x => Order.big.arrange (shortOctets x) :=
  rfl

/-- **Reading host memory**, all of it. -/
theorem unpackShorts_hostImage {c : ℕ} (fs : List (PcmFrame c)) :
    unpackShorts .little ((hostImage fs).length / 2)
        (slice (hostImage fs) 0 ((hostImage fs).length / 2 * 2 : ℕ)) = some (pcmValues (fs.map audio)) := by
  rw [hostImage_eq_flatMap, flatMap_hostSample, unpackShorts_slice, pcmValues_eq]

/-- **Reading an RTP payload**, all of it. -/
theorem unpackShorts_netImage {c : ℕ} (fs : List (PcmFrame c)) :
    unpackShorts .big ((netImage fs).length / 2)
        (slice (netImage fs) 0 ((netImage fs).length / 2 * 2 : ℕ)) = some (pcmValues (fs.map audio)) := by
  have himage : netImage fs = (fs.flatMap PcmFrame.samples).flatMap netSample := by
    rw [netImage, List.flatMap_assoc]
  rw [himage, flatMap_netSample, unpackShorts_slice, pcmValues_eq]

end PcmFlowUdp
