import Mathlib.Data.Nat.Bitwise
import Mathlib.Tactic.NormNum

/-! # Byte order of 16- and 32-bit words

Splitting a machine word into octets by shift-and-mask and reassembling it by shift-and-or, in both
byte orders. Every fact is read off one arithmetic description of each operation (`hi16_toNat`,
`byte32_toNat`, `word16_toNat`, `word32_toNat`): an octet is a base-256 digit and a word is the
positional sum of its octets. The two round trips then hold for each width:

* **`word16_hi_lo`, `word32_bytes`** — reassembling the octets of a word returns the word;
* **`hi16_word16`, `lo16_word16`, `byte32_word32`** — the octets of a reassembled word are the octets
  it was built from;
* **`bigEndian`** — the number a string of octets spells, and a word is the number its octets spell. -/

namespace ByteTransport

/-! ## Splitting -/

/-- The more significant octet of a 16-bit word, `(v >> 8) & 0xFF`. -/
def hi16 (v : UInt16) : UInt8 := ((v >>> 8) &&& 0xFF).toUInt8

/-- The less significant octet of a 16-bit word, `v & 0xFF`. -/
def lo16 (v : UInt16) : UInt8 := (v &&& 0xFF).toUInt8

/-- The octet of a 32-bit word that starts at bit `s`, `(v >> s) & 0xFF`. -/
def byte32 (s : UInt32) (v : UInt32) : UInt8 := ((v >>> s) &&& 0xFF).toUInt8

/-- Masking with `0xFF` keeps the last base-256 digit. -/
theorem and_mask8 (n : ℕ) : n &&& 255 = n % 256 := Nat.and_two_pow_sub_one_eq_mod n 8

/-- The high byte is the quotient by 256. -/
theorem hi16_toNat (v : UInt16) : (hi16 v).toNat = v.toNat / 256 := by
  have h := v.toNat_lt
  simp only [hi16, UInt16.toNat_toUInt8, UInt16.toNat_and, UInt16.toNat_shiftRight]
  simp [and_mask8, Nat.shiftRight_eq_div_pow]
  omega

/-- The low byte is the remainder. -/
theorem lo16_toNat (v : UInt16) : (lo16 v).toNat = v.toNat % 256 := by
  simp [lo16, and_mask8]

/-- The lowest byte of four. -/
theorem byte32_zero_toNat (v : UInt32) : (byte32 0 v).toNat = v.toNat % 256 := by
  simp [byte32, and_mask8]

/-- The one above it. -/
theorem byte32_8_toNat (v : UInt32) : (byte32 8 v).toNat = v.toNat / 256 % 256 := by
  simp [byte32, and_mask8, Nat.shiftRight_eq_div_pow]

/-- The next one. -/
theorem byte32_16_toNat (v : UInt32) : (byte32 16 v).toNat = v.toNat / 65536 % 256 := by
  simp [byte32, and_mask8, Nat.shiftRight_eq_div_pow]

/-- The highest one. -/
theorem byte32_24_toNat (v : UInt32) : (byte32 24 v).toNat = v.toNat / 16777216 % 256 := by
  simp [byte32, and_mask8, Nat.shiftRight_eq_div_pow]

/-! ## Reassembling -/

/-- The 16-bit word with the given octets, `(hi << 8) | lo`. -/
def word16 (hi lo : UInt8) : UInt16 := (hi.toUInt16 <<< 8) ||| lo.toUInt16

/-- The 32-bit word with the given octets, most significant first. -/
def word32 (b3 b2 b1 b0 : UInt8) : UInt32 :=
  (b3.toUInt32 <<< 24) ||| (b2.toUInt32 <<< 16) ||| (b1.toUInt32 <<< 8) ||| b0.toUInt32

/-- Or-ing a shifted value with something that fits below the shift is addition. -/
theorem shiftLeft_or (a : ℕ) {k b : ℕ} (hb : b < 2 ^ k) : a <<< k ||| b = a * 2 ^ k + b := by
  rw [← Nat.shiftLeft_add_eq_or_of_lt hb, Nat.shiftLeft_eq]

/-- A 16-bit word is the positional sum of its octets. -/
theorem word16_toNat (hi lo : UInt8) : (word16 hi lo).toNat = hi.toNat * 256 + lo.toNat := by
  have hhi := hi.toNat_lt
  have hshift : (hi.toUInt16 <<< 8).toNat = hi.toNat <<< 8 := by
    simp [Nat.shiftLeft_eq]; omega
  rw [word16, UInt16.toNat_or, hshift, UInt8.toNat_toUInt16, shiftLeft_or _ lo.toNat_lt,
    show 2 ^ 8 = 256 from rfl]

/-- A 32-bit word is the positional sum of its octets. -/
theorem word32_toNat (b3 b2 b1 b0 : UInt8) :
    (word32 b3 b2 b1 b0).toNat
      = b3.toNat * 16777216 + b2.toNat * 65536 + b1.toNat * 256 + b0.toNat := by
  have h3 := b3.toNat_lt
  have h2 := b2.toNat_lt
  have h1 := b1.toNat_lt
  have h0 := b0.toNat_lt
  have s3 : (b3.toUInt32 <<< 24).toNat = b3.toNat <<< 24 := by simp [Nat.shiftLeft_eq]; omega
  have s2 : (b2.toUInt32 <<< 16).toNat = b2.toNat <<< 16 := by simp [Nat.shiftLeft_eq]; omega
  have s1 : (b1.toUInt32 <<< 8).toNat = b1.toNat <<< 8 := by simp [Nat.shiftLeft_eq]; omega
  -- or-ing from the right, each tail fits below the next shift
  have t1 : b1.toNat <<< 8 ||| b0.toNat = b1.toNat * 2 ^ 8 + b0.toNat := shiftLeft_or _ h0
  have t2 : b2.toNat <<< 16 ||| (b1.toNat * 2 ^ 8 + b0.toNat)
      = b2.toNat * 2 ^ 16 + (b1.toNat * 2 ^ 8 + b0.toNat) := shiftLeft_or _ (by omega)
  have t3 : b3.toNat <<< 24 ||| (b2.toNat * 2 ^ 16 + (b1.toNat * 2 ^ 8 + b0.toNat))
      = b3.toNat * 2 ^ 24 + (b2.toNat * 2 ^ 16 + (b1.toNat * 2 ^ 8 + b0.toNat)) :=
    shiftLeft_or _ (by omega)
  rw [word32, UInt32.toNat_or, UInt32.toNat_or, UInt32.toNat_or, s3, s2, s1,
    UInt8.toNat_toUInt32, Nat.or_assoc, Nat.or_assoc, t1, t2, t3]
  omega

/-! ## Round trips -/

/-- Reassembling the octets of a 16-bit word returns it. -/
@[simp] theorem word16_hi_lo (v : UInt16) : word16 (hi16 v) (lo16 v) = v := by
  apply UInt16.toNat_inj.mp
  rw [word16_toNat, hi16_toNat, lo16_toNat]
  omega

/-- The high byte is read back. -/
@[simp] theorem hi16_word16 (hi lo : UInt8) : hi16 (word16 hi lo) = hi := by
  have hlo := lo.toNat_lt
  apply UInt8.toNat_inj.mp
  rw [hi16_toNat, word16_toNat]
  omega

/-- So is the low one. -/
@[simp] theorem lo16_word16 (hi lo : UInt8) : lo16 (word16 hi lo) = lo := by
  have hlo := lo.toNat_lt
  apply UInt8.toNat_inj.mp
  rw [lo16_toNat, word16_toNat]
  omega

/-- Reassembling the octets of a 32-bit word returns it. -/
@[simp] theorem word32_bytes (v : UInt32) :
    word32 (byte32 24 v) (byte32 16 v) (byte32 8 v) (byte32 0 v) = v := by
  have h := v.toNat_lt
  apply UInt32.toNat_inj.mp
  rw [word32_toNat, byte32_24_toNat, byte32_16_toNat, byte32_8_toNat, byte32_zero_toNat]
  omega

/-- The octets of a reassembled 32-bit word are the octets it was built from. -/
theorem byte32_word32 (b3 b2 b1 b0 : UInt8) :
    [byte32 24 (word32 b3 b2 b1 b0), byte32 16 (word32 b3 b2 b1 b0), byte32 8 (word32 b3 b2 b1 b0),
      byte32 0 (word32 b3 b2 b1 b0)] = [b3, b2, b1, b0] := by
  have h3 := b3.toNat_lt
  have h2 := b2.toNat_lt
  have h1 := b1.toNat_lt
  have h0 := b0.toNat_lt
  have e3 : byte32 24 (word32 b3 b2 b1 b0) = b3 := by
    apply UInt8.toNat_inj.mp
    rw [byte32_24_toNat, word32_toNat]
    omega
  have e2 : byte32 16 (word32 b3 b2 b1 b0) = b2 := by
    apply UInt8.toNat_inj.mp
    rw [byte32_16_toNat, word32_toNat]
    omega
  have e1 : byte32 8 (word32 b3 b2 b1 b0) = b1 := by
    apply UInt8.toNat_inj.mp
    rw [byte32_8_toNat, word32_toNat]
    omega
  have e0 : byte32 0 (word32 b3 b2 b1 b0) = b0 := by
    apply UInt8.toNat_inj.mp
    rw [byte32_zero_toNat, word32_toNat]
    omega
  rw [e3, e2, e1, e0]

/-! ## Numbers spelled by octets -/

/-- The number that a string of octets spells, most significant first. -/
def bigEndian (octets : List UInt8) : ℕ := octets.foldl (fun acc x => acc * 256 + x.toNat) 0

/-- A 16-bit word is the number its octets spell. -/
theorem word16_bigEndian (hi lo : UInt8) : (word16 hi lo).toNat = bigEndian [hi, lo] := by
  rw [word16_toNat]
  simp [bigEndian]

/-- A 32-bit word is the number its octets spell. -/
theorem word32_bigEndian (b3 b2 b1 b0 : UInt8) :
    (word32 b3 b2 b1 b0).toNat = bigEndian [b3, b2, b1, b0] := by
  rw [word32_toNat]
  simp [bigEndian]
  omega

end ByteTransport
