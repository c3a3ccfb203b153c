import PcmFlowUdp.Rtp.Receiver

/-! # Durations in frames

`framesForMs` multiplies a 32-bit rate by a 16-bit duration in `size_t`, then divides. A 64-bit `size_t`
holds every product; a 32-bit one wraps, and a long prebuffer becomes a short one.

* **`framesForMs_exact_iff`** — in any word that holds the rate, the result is exact if and only if the
  word holds the product;
* **`frames_for_ms_32`** — on 32 bits, for every rate that `setFormat` accepts. -/

namespace PcmFlowUdp

/-- Dividing a value that wrapped gives less than dividing the value. -/
theorem mod_div_eq_iff {x m d : ℕ} (hd : 0 < d) (hdm : d ≤ m) : x % m / d = x / d ↔ x < m := by
  constructor
  · intro heq
    by_contra hge
    -- what wrapped lost at least `m`, so the quotient lost at least one
    have hsub : x % m + m ≤ x := by
      have hdiv := Nat.mod_add_div x m
      have hone : 1 ≤ x / m := Nat.div_pos (Nat.not_lt.mp hge) (hd.trans_le hdm)
      have hmul : m * 1 ≤ m * (x / m) := Nat.mul_le_mul_left m hone
      omega
    have hless : x % m / d + 1 ≤ x / d := by
      rw [← Nat.add_div_right _ hd]
      exact Nat.div_le_div_right (by omega)
    omega
  · intro hlt
    rw [Nat.mod_eq_of_lt hlt]

namespace RtpReceiver

/-- **In a word that holds the rate, the result is exact if and only if the word holds the product.** -/
theorem framesForMs_exact_iff {wordBits : ℕ} (hbits : 32 ≤ wordBits) (r : RtpReceiver) (ms : UInt16) :
    r.framesForMs wordBits ms = r.format.sampleRate.toNat * ms.toNat / 1000 ↔
      r.format.sampleRate.toNat * ms.toNat < 2 ^ wordBits := by
  have hpow : 2 ^ 32 ≤ 2 ^ wordBits := Nat.pow_le_pow_right (by decide) hbits
  have hrate : r.format.sampleRate.toNat % 2 ^ wordBits = r.format.sampleRate.toNat :=
    Nat.mod_eq_of_lt (r.format.sampleRate.toNat_lt.trans_le hpow)
  rw [framesForMs, hrate]
  split
  · -- nothing is multiplied
    rename_i hzero
    rw [hzero]
    simp
  · exact mod_div_eq_iff (by decide) (le_trans (by decide) hpow)

/-- A 64-bit word holds every product. -/
theorem framesForMs_64 (r : RtpReceiver) (ms : UInt16) :
    r.framesForMs 64 ms = r.format.sampleRate.toNat * ms.toNat / 1000 := by
  rw [framesForMs_exact_iff (by decide)]
  calc r.format.sampleRate.toNat * ms.toNat
      ≤ 2 ^ 32 * 2 ^ 16 := Nat.mul_le_mul r.format.sampleRate.toNat_lt.le ms.toNat_lt.le
    _ < 2 ^ 64 := by decide

/-- Below the bound a longer duration has no fewer frames. -/
theorem framesForMs_mono {wordBits : ℕ} (hbits : 32 ≤ wordBits) (r : RtpReceiver) {ms ms' : UInt16}
    (hle : ms ≤ ms') (hfit : r.format.sampleRate.toNat * ms'.toNat < 2 ^ wordBits) :
    r.framesForMs wordBits ms ≤ r.framesForMs wordBits ms' := by
  have hmul : r.format.sampleRate.toNat * ms.toNat ≤ r.format.sampleRate.toNat * ms'.toNat :=
    Nat.mul_le_mul_left _ (UInt16.le_iff_toNat_le.mp hle)
  rw [(framesForMs_exact_iff hbits r ms).mpr (hmul.trans_lt hfit),
    (framesForMs_exact_iff hbits r ms').mpr hfit]
  exact Nat.div_le_div_right hmul

/-- **Durations on a 32-bit target.** Once `setFormat` has accepted a format, `framesForMs` is the exact
number of frames, rounded down, if and only if the rate times the duration is less than 2^32; and up to
there it grows with the duration. -/
theorem frames_for_ms_32 [PCMFlow] (r : RtpReceiver) {fmt : PCMFormat}
    (haccept : (r.setFormat fmt).1 = true) :
    (∀ ms : UInt16,
      (r.setFormat fmt).2.framesForMs 32 ms = fmt.sampleRate.toNat * ms.toNat / 1000 ↔
        fmt.sampleRate.toNat * ms.toNat < 2 ^ 32) ∧
    ∀ ms ms' : UInt16, ms ≤ ms' → fmt.sampleRate.toNat * ms'.toNat < 2 ^ 32 →
      (r.setFormat fmt).2.framesForMs 32 ms ≤ (r.setFormat fmt).2.framesForMs 32 ms' := by
  have hformat : (r.setFormat fmt).2.format = fmt := by
    rw [setFormat] at haccept ⊢
    split at haccept
    · cases haccept
    · rename_i hok
      rw [if_neg hok]
  refine ⟨?_, ?_⟩
  · intro ms
    have hiff := framesForMs_exact_iff (le_refl 32) (r.setFormat fmt).2 ms
    rwa [hformat] at hiff
  · intro ms ms' hle hfit
    exact framesForMs_mono le_rfl _ hle (by rw [hformat]; exact hfit)

/-- Stereo at 96 kHz. -/
def stereo96k : PCMFormat := { sampleRate := 96000, channels := 2, bitsPerSample := 16 }

/-- At 96 kHz a prebuffer of 80 ms is exact. -/
theorem frames_for_ms_32_speaker :
    (@setFormat PCMFlow.documented {} stereo96k).1 = true ∧
      framesForMs 32 (@setFormat PCMFlow.documented {} stereo96k).2 80
        = stereo96k.sampleRate.toNat * 80 / 1000 :=
  ⟨by decide, ((@frames_for_ms_32 PCMFlow.documented {} stereo96k (by decide)).1 80).mpr (by decide)⟩

/-- At 96 kHz the product wraps between 44739 ms and 44740 ms, and the longer duration has 72 frames. -/
theorem frames_for_ms_wraps :
    (@setFormat PCMFlow.documented {} stereo96k).1 = true ∧
      framesForMs 32 (@setFormat PCMFlow.documented {} stereo96k).2 44740 = 72 ∧
      stereo96k.sampleRate.toNat * 44740 / 1000 = 4295040 ∧
      framesForMs 32 (@setFormat PCMFlow.documented {} stereo96k).2 44739 = 4294944 := by
  decide +kernel

end RtpReceiver

end PcmFlowUdp
