import Mathlib.Algebra.Order.Group.Nat
import Mathlib.Data.Int.Bitwise
import Mathlib.Data.List.DropRight
import Mathlib.Data.List.Induction
import PcmFlowUdp.ByteTransport.ByteOrder

/-! # Python's integers, `bytes` and `struct`

A Python integer is an `ℤ` and a `bytes` object is a list of octets. `Int.land` and `Int.lor` are Python's `&`
and `|`, on negative numbers too.

* `slice` — `data[i:j]`;
* `pack`, `unpack` — `struct.pack` and `struct.unpack` for big-endian formats of unsigned fields;
* `packField`, `packShorts` and their inverses — one unsigned field, and a list of signed shorts, in either byte
  order;
* `setItem`, `setSlice` — assignments to a `bytearray`; `encodeAscii`, `decodeAscii` — text;
* **`pack_of_unpack`** — packing what was unpacked gives the data back;
* **`packShorts_map`**, **`unpackShorts_map`** — shorts that were packed are unpacked, on either side. -/

namespace ByteTransport

namespace Python

/-! ## Slices -/

/-- The offset that a bound of a slice names: negative bounds count from the end, all are clipped. -/
def sliceBound (len : ℕ) (i : ℤ) : ℕ := if i < 0 then (i + len).toNat else min i.toNat len

/-- `data[i:j]`. -/
def slice (data : List UInt8) (i j : ℤ) : List UInt8 :=
  (data.take (sliceBound data.length j)).drop (sliceBound data.length i)

/-- A slice inside the data. -/
theorem slice_of_le {data : List UInt8} {i j : ℕ} (hij : i ≤ j) (hj : j ≤ data.length) :
    slice data i j = (data.drop i).take (j - i) := by
  have hbound : ∀ k : ℕ, k ≤ data.length → sliceBound data.length k = k := by
    intro k hk
    rw [sliceBound, if_neg (Int.not_lt.mpr (Int.natCast_nonneg k)), Int.toNat_natCast, min_eq_left hk]
  rw [slice, hbound j hj, hbound i (hij.trans hj), List.drop_take]

/-- The first of the data. -/
theorem slice_zero (data : List UInt8) (n : ℕ) : slice data 0 n = data.take n := by
  have hbound : sliceBound data.length n = min n data.length := by
    rw [sliceBound, if_neg (Int.not_lt.mpr (Int.natCast_nonneg n)), Int.toNat_natCast]
  have hzero : sliceBound data.length 0 = 0 := by simp [sliceBound]
  rw [slice, hbound, hzero, List.drop_zero, ← List.take_eq_take_min]

/-! ## Masks -/

/-- Masking the low bits leaves what they can hold. -/
theorem land_mask_bounds (x : ℤ) (w : ℕ) :
    0 ≤ Int.land x ((2 ^ w - 1 : ℕ) : ℤ) ∧ Int.land x ((2 ^ w - 1 : ℕ) : ℤ) < 2 ^ w := by
  have hmask : 2 ^ w - 1 < 2 ^ w := Nat.sub_lt (Nat.two_pow_pos w) Nat.one_pos
  have hnat : ∃ k < 2 ^ w, Int.land x ((2 ^ w - 1 : ℕ) : ℤ) = (k : ℕ) := by
    cases x with
    | ofNat m => exact ⟨_, lt_of_le_of_lt Nat.and_le_right hmask, rfl⟩
    | negSucc m =>
      refine ⟨_, Nat.lt_pow_two_of_testBit _ fun i hi => ?_, rfl⟩
      rw [Nat.testBit_ldiff, Nat.testBit_lt_two_pow (hmask.trans_le (Nat.pow_le_pow_right Nat.two_pos hi))]
      rfl
  obtain ⟨k, hk, heq⟩ := hnat
  rw [heq]
  exact ⟨Int.natCast_nonneg k, by exact_mod_cast hk⟩

/-- What the low bits hold is not changed by masking them. -/
theorem land_mask_of_lt {m w : ℕ} (h : m < 2 ^ w) : Int.land m ((2 ^ w - 1 : ℕ) : ℤ) = m := by
  show ((m &&& (2 ^ w - 1) : ℕ) : ℤ) = m
  rw [Nat.and_two_pow_sub_one_eq_mod, Nat.mod_eq_of_lt h]

/-! ## Numbers in words -/

/-- A number that fits `w` bits is a natural number below `2 ^ w`. -/
theorem fits_iff {v : ℤ} {w : ℕ} : 0 ≤ v ∧ v < 2 ^ w ↔ ∃ n < 2 ^ w, v = (n : ℕ) := by
  constructor
  · rintro ⟨h0, hlt⟩
    obtain ⟨n, rfl⟩ := Int.eq_ofNat_of_zero_le h0
    exact ⟨n, by exact_mod_cast hlt, rfl⟩
  · rintro ⟨n, hn, rfl⟩
    exact ⟨Int.natCast_nonneg n, by exact_mod_cast hn⟩

/-- The numbers that fit 8 bits are those of the octets. -/
theorem fits_uint8_iff {v : ℤ} : 0 ≤ v ∧ v < 2 ^ 8 ↔ ∃ x : UInt8, v = x.toNat := by
  rw [fits_iff]
  constructor
  · rintro ⟨n, hn, rfl⟩
    exact ⟨UInt8.ofNat n, by rw [UInt8.toNat_ofNat_of_lt' hn]⟩
  · rintro ⟨x, rfl⟩
    exact ⟨x.toNat, x.toNat_lt, rfl⟩

/-- And so with 16 bits. -/
theorem fits_uint16_iff {v : ℤ} : 0 ≤ v ∧ v < 2 ^ 16 ↔ ∃ x : UInt16, v = x.toNat := by
  rw [fits_iff]
  constructor
  · rintro ⟨n, hn, rfl⟩
    exact ⟨UInt16.ofNat n, by rw [UInt16.toNat_ofNat_of_lt' hn]⟩
  · rintro ⟨x, rfl⟩
    exact ⟨x.toNat, x.toNat_lt, rfl⟩

/-- And with 32 bits. -/
theorem fits_uint32_iff {v : ℤ} : 0 ≤ v ∧ v < 2 ^ 32 ↔ ∃ x : UInt32, v = x.toNat := by
  rw [fits_iff]
  constructor
  · rintro ⟨n, hn, rfl⟩
    exact ⟨UInt32.ofNat n, by rw [UInt32.toNat_ofNat_of_lt' hn]⟩
  · rintro ⟨x, rfl⟩
    exact ⟨x.toNat, x.toNat_lt, rfl⟩

/-! ## Numbers and octets -/

/-- The last `size` octets of `n`, most significant first. -/
def octets : ℕ → ℕ → List UInt8
  | 0, _ => []
  | size + 1, n => octets size (n / 256) ++ [UInt8.ofNat (n % 256)]

/-- The last octet counts least. -/
theorem bigEndian_snoc (xs : List UInt8) (x : UInt8) :
    bigEndian (xs ++ [x]) = bigEndian xs * 256 + x.toNat := by
  rw [bigEndian, bigEndian, List.foldl_append, List.foldl_cons, List.foldl_nil]

/-- Octets spell no number that needs more of them. -/
theorem bigEndian_lt (xs : List UInt8) : bigEndian xs < 256 ^ xs.length := by
  induction xs using List.reverseRecOn with
  | nil => exact Nat.one_pos
  | append_singleton xs x ih =>
    have hx := x.toNat_lt
    rw [bigEndian_snoc, List.length_append, List.length_singleton, pow_succ]
    omega

/-- The octets of the number that a string of octets spells. -/
theorem octets_bigEndian (xs : List UInt8) : octets xs.length (bigEndian xs) = xs := by
  induction xs using List.reverseRecOn with
  | nil => rfl
  | append_singleton xs x ih =>
    have hx := x.toNat_lt
    have hdiv : (bigEndian xs * 256 + x.toNat) / 256 = bigEndian xs := by omega
    have hmod : (bigEndian xs * 256 + x.toNat) % 256 = x.toNat := by omega
    rw [bigEndian_snoc, List.length_append, List.length_singleton, octets, hdiv, hmod, ih, UInt8.ofNat_toNat]

/-! ## `struct` -/

/-- The format characters for unsigned fields. -/
inductive FieldCode
  | B
  | H
  | I
  deriving DecidableEq, Repr

/-- The standard size of a field. -/
def FieldCode.size : FieldCode → ℕ
  | .B => 1
  | .H => 2
  | .I => 4

/-- `struct.calcsize`. -/
def calcsize (format : List FieldCode) : ℕ := (format.map FieldCode.size).sum

/-- `struct.pack`, big-endian: `none` if a number does not fit its field or their numbers differ. -/
def pack : List FieldCode → List ℤ → Option (List UInt8)
  | [], [] => some []
  | c :: format, v :: values =>
      if 0 ≤ v ∧ v < 256 ^ c.size then (pack format values).map (octets c.size v.toNat ++ ·) else none
  | _, _ => none

/-- The numbers in the fields of `data`. -/
def unpackFields : List FieldCode → List UInt8 → List ℤ
  | [], _ => []
  | c :: format, data => (bigEndian (data.take c.size) : ℤ) :: unpackFields format (data.drop c.size)

/-- `struct.unpack`, big-endian: `none` if the data is not of the size of the format. -/
def unpack (format : List FieldCode) (data : List UInt8) : Option (List ℤ) :=
  if data.length = calcsize format then some (unpackFields format data) else none

/-- Data of the size of the format are unpacked. -/
theorem unpack_eq {format : List FieldCode} {data : List UInt8} (h : data.length = calcsize format) :
    unpack format data = some (unpackFields format data) := if_pos h

/-- Numbers that fit their fields are packed. -/
theorem exists_pack {format : List FieldCode} {values : List ℤ}
    (h : List.Forall₂ (fun c v => 0 ≤ v ∧ v < 256 ^ FieldCode.size c) format values) :
    ∃ data, pack format values = some data := by
  induction h with
  | nil => exact ⟨[], rfl⟩
  | cons hfit hrest ih =>
    obtain ⟨data, hdata⟩ := ih
    exact ⟨_, by rw [pack, if_pos hfit, hdata, Option.map_some]⟩

/-- **Packing what was unpacked** gives the data back. -/
theorem pack_of_unpack {format : List FieldCode} {data : List UInt8} {values : List ℤ}
    (h : unpack format data = some values) : pack format values = some data := by
  rw [unpack] at h
  split at h
  swap
  · cases h
  rename_i hlen
  obtain rfl := Option.some.inj h
  clear h
  induction format generalizing data with
  | nil =>
    obtain rfl := List.length_eq_zero_iff.mp hlen
    rfl
  | cons c format ih =>
    have hsize : data.length = c.size + calcsize format := hlen
    have htake : (data.take c.size).length = c.size := by
      rw [List.length_take]
      omega
    have hfit := bigEndian_lt (data.take c.size)
    have hback := octets_bigEndian (data.take c.size)
    rw [htake] at hfit hback
    have hrest := @ih (data.drop c.size) (by rw [List.length_drop]; omega)
    rw [unpackFields, pack, if_pos ⟨Int.natCast_nonneg _, by exact_mod_cast hfit⟩, hrest, Option.map_some,
      Int.toNat_natCast, hback, List.take_append_drop]

/-! ## Byte order -/

/-- The first character of a format, `>` or `<`. -/
inductive Order
  | big
  | little
  deriving DecidableEq, Repr

/-- The octets of a field in this order, or back in network order. -/
def Order.arrange (order : Order) (octets : List UInt8) : List UInt8 :=
  match order with
  | .big => octets
  | .little => octets.reverse

/-- The order does not change the size. -/
@[simp] theorem Order.length_arrange (order : Order) (octets : List UInt8) :
    (order.arrange octets).length = octets.length := by
  cases order with
  | big => rfl
  | little => exact List.length_reverse

/-- As many octets as were asked for. -/
@[simp] theorem length_octets (size n : ℕ) : (octets size n).length = size := by
  induction size generalizing n with
  | zero => rfl
  | succ size ih => rw [octets, List.length_append, ih, List.length_singleton]

/-- `struct.pack` of one unsigned field. -/
def packField (order : Order) (c : FieldCode) (v : ℤ) : Option (List UInt8) :=
  if 0 ≤ v ∧ v < 256 ^ c.size then some (order.arrange (octets c.size v.toNat)) else none

/-- `struct.unpack` of one unsigned field. -/
def unpackField (order : Order) (c : FieldCode) (data : List UInt8) : Option ℤ :=
  if data.length = c.size then some (bigEndian (order.arrange data)) else none

/-! ## Shorts -/

/-- The signed value of 16 bits. -/
def signedShort (n : ℕ) : ℤ := if n < 32768 then n else n - 65536

/-- The format `f"{n}h"`: `struct.pack` of signed shorts. -/
def packShorts (order : Order) : List ℤ → Option (List UInt8)
  | [] => some []
  | v :: values =>
      if -32768 ≤ v ∧ v < 32768 then
        (packShorts order values).map (order.arrange (octets 2 (v % 65536).toNat) ++ ·)
      else none

/-- The signed shorts in `data`. -/
def shorts (order : Order) : List UInt8 → List ℤ
  | a :: b :: data => signedShort (bigEndian (order.arrange [a, b])) :: shorts order data
  | _ => []

/-- The format `f"{n}h"`: `struct.unpack` of `n` signed shorts. -/
def unpackShorts (order : Order) (n : ℕ) (data : List UInt8) : Option (List ℤ) :=
  if data.length = n * 2 then some (shorts order data) else none

/-- The octets of a signed short, most significant first. -/
def shortOctets (x : Int16) : List UInt8 := [hi16 x.toUInt16, lo16 x.toUInt16]

/-- The number that the octets of a short spell. -/
theorem bigEndian_shortOctets (x : Int16) : bigEndian (shortOctets x) = x.toUInt16.toNat := by
  rw [shortOctets, ← word16_bigEndian, word16_hi_lo]

/-- A short is in the range of one, and is the 16 bits that its octets spell. -/
theorem short_range (x : Int16) :
    (-32768 ≤ x.toInt ∧ x.toInt < 32768) ∧ (x.toInt % 65536).toNat = x.toUInt16.toNat ∧
      signedShort x.toUInt16.toNat = x.toInt := by
  have hlow := x.le_toInt
  have hhigh := x.toInt_lt
  have hbits : x.toInt = Int.bmod x.toUInt16.toNat 65536 := by
    rw [Int16.toInt, BitVec.toInt_eq_toNat_bmod]
    rfl
  have hlt := x.toUInt16.toNat_lt
  rw [Int.bmod_def] at hbits
  refine ⟨by omega, by omega, ?_⟩
  rw [signedShort]
  split <;> omega

/-- Packing shorts. -/
theorem packShorts_map (order : Order) (xs : List Int16) :
    packShorts order (xs.map Int16.toInt) = some (xs.flatMap fun x => order.arrange (shortOctets x)) := by
  induction xs with
  | nil => rfl
  | cons x xs ih =>
    obtain ⟨hrange, hbits, -⟩ := short_range x
    have hoctets : octets 2 x.toUInt16.toNat = shortOctets x := by
      rw [← bigEndian_shortOctets]
      exact octets_bigEndian (shortOctets x)
    rw [List.map_cons, packShorts, if_pos hrange, ih, hbits, hoctets, Option.map_some, List.flatMap_cons]

/-- The first short and the others. -/
theorem shorts_cons (order : Order) (x : Int16) (data : List UInt8) :
    shorts order (order.arrange (shortOctets x) ++ data) = x.toInt :: shorts order data := by
  have hvalue : signedShort (bigEndian (shortOctets x)) = x.toInt := by
    rw [bigEndian_shortOctets, (short_range x).2.2]
  cases order with
  | big =>
    show signedShort (bigEndian (shortOctets x)) :: _ = _
    rw [hvalue]
    rfl
  | little =>
    show signedShort (bigEndian (shortOctets x)) :: _ = _
    rw [hvalue]
    rfl

/-- Unpacking what was packed of shorts. -/
theorem shorts_flatMap (order : Order) (xs : List Int16) :
    shorts order (xs.flatMap fun x => order.arrange (shortOctets x)) = xs.map Int16.toInt := by
  induction xs with
  | nil => rfl
  | cons x xs ih => rw [List.flatMap_cons, shorts_cons, ih, List.map_cons]

/-- **Shorts are unpacked** from what was packed of them. -/
theorem unpackShorts_map (order : Order) (xs : List Int16) :
    unpackShorts order xs.length (xs.flatMap fun x => order.arrange (shortOctets x))
      = some (xs.map Int16.toInt) := by
  have hlen : (xs.flatMap fun x => order.arrange (shortOctets x)).length = xs.length * 2 := by
    induction xs with
    | nil => rfl
    | cons x xs ih =>
      rw [List.flatMap_cons, List.length_append, ih, Order.length_arrange, List.length_cons]
      show 2 + _ = _
      omega
  rw [unpackShorts, if_pos hlen, shorts_flatMap]

/-- Unpacking as many shorts as there is room for in some data that is packed shorts. -/
theorem unpackShorts_slice (order : Order) (xs : List Int16) :
    let data := xs.flatMap fun x => order.arrange (shortOctets x)
    unpackShorts order (data.length / 2) (slice data 0 (data.length / 2 * 2 : ℕ))
      = some (xs.map Int16.toInt) := by
  intro data
  have hshorts : unpackShorts order xs.length data = some (xs.map Int16.toInt) := unpackShorts_map order xs
  have hlen : data.length = xs.length * 2 := by
    by_contra hne
    rw [unpackShorts, if_neg hne] at hshorts
    cases hshorts
  have hcount : data.length / 2 = xs.length := by rw [hlen, Nat.mul_div_cancel _ Nat.two_pos]
  rw [hcount, slice_zero, ← hlen, List.take_length, hshorts]

/-- What can be packed are the shorts. -/
theorem packShorts_isSome_iff (order : Order) (values : List ℤ) :
    (∃ data, packShorts order values = some data) ↔ ∃ xs : List Int16, values = xs.map Int16.toInt := by
  constructor
  · rintro ⟨data, hdata⟩
    induction values generalizing data with
    | nil => exact ⟨[], rfl⟩
    | cons v values ih =>
      rw [packShorts] at hdata
      split at hdata
      · rename_i hrange
        obtain ⟨rest, hrest, -⟩ := Option.map_eq_some_iff.mp hdata
        obtain ⟨xs, rfl⟩ := ih rest hrest
        refine ⟨Int16.ofInt v :: xs, ?_⟩
        rw [List.map_cons, Int16.toInt_ofInt_of_le (by omega) (by omega)]
      · cases hdata
  · rintro ⟨xs, rfl⟩
    exact ⟨_, packShorts_map order xs⟩

/-! ## `bytearray` -/

/-- `buf[i] = v`. -/
def setItem (buf : List UInt8) (i : ℕ) (v : ℤ) : Option (List UInt8) :=
  if i < buf.length ∧ 0 ≤ v ∧ v < 256 then some (buf.set i (UInt8.ofNat v.toNat)) else none

/-- `buf[i:j] = data`. -/
def setSlice (buf : List UInt8) (i j : ℕ) (data : List UInt8) : List UInt8 := buf.take i ++ data ++ buf.drop j

/-- Assigning to a part in the middle. -/
theorem setSlice_append {front mid : List UInt8} {i j : ℕ} (hi : front.length = i)
    (hj : (front ++ mid).length = j) (back data : List UInt8) :
    setSlice (front ++ mid ++ back) i j data = front ++ data ++ back := by
  have hfront : (front ++ mid ++ back).take i = front := by
    rw [List.append_assoc]
    exact List.take_left' hi
  rw [setSlice, hfront, List.drop_left' hj]

/-! ## Text -/

/-- `text.encode("ascii")`, with the text as its code points. -/
def encodeAscii (text : List ℕ) : Option (List UInt8) :=
  if ∀ c ∈ text, c < 128 then some (text.map UInt8.ofNat) else none

/-- `data.decode("ascii", errors="replace")`. -/
def decodeAscii (data : List UInt8) : List ℕ := data.map fun b => if b < 128 then b.toNat else 0xFFFD

/-- `data.ljust(n, fill)`. -/
def ljust (data : List UInt8) (n : ℕ) (fill : UInt8) : List UInt8 :=
  data ++ List.replicate (n - data.length) fill

/-- `data.rstrip(fill)` with one octet. -/
def rstrip (data : List UInt8) (fill : UInt8) : List UInt8 := data.rdropWhile (· == fill)

/-- Stripping leaves what is in front of the first fill octet, if there is nothing else behind it. -/
theorem rstrip_eq_takeWhile_iff (data : List UInt8) (fill : UInt8) :
    rstrip data fill = data.takeWhile (· != fill) ↔ ∀ x ∈ data.dropWhile (· != fill), x = fill := by
  have hfront : rstrip (data.takeWhile (· != fill)) fill = data.takeWhile (· != fill) := by
    apply List.rdropWhile_eq_self_iff.mpr
    intro hne hlast
    have hkept := List.mem_takeWhile_imp (List.getLast_mem hne)
    simp [eq_of_beq hlast] at hkept
  have hback := List.takeWhile_append_dropWhile (p := (· != fill)) (l := data)
  constructor
  · intro heq x hx
    -- what was stripped is what is behind
    have hsplit : data.takeWhile (· != fill) ++ data.rtakeWhile (· == fill)
        = data.takeWhile (· != fill) ++ data.dropWhile (· != fill) := by
      rw [hback, ← heq]
      exact List.rdropWhile_append_rtakeWhile ..
    rw [← List.append_cancel_left hsplit] at hx
    have hfill : (x == fill) = true := List.mem_rtakeWhile_imp (p := (· == fill)) hx
    exact eq_of_beq hfill
  · intro hall
    have hstrip : rstrip (data.takeWhile (· != fill) ++ data.dropWhile (· != fill)) fill
        = rstrip (data.takeWhile (· != fill)) fill := by
      generalize data.dropWhile (· != fill) = tail at hall
      induction tail using List.reverseRecOn with
      | nil => rw [List.append_nil]
      | append_singleton tail x ih =>
        have hx : x = fill := hall x (by simp)
        rw [← List.append_assoc, rstrip, List.rdropWhile_concat_pos (· == fill) _ x (beq_iff_eq.mpr hx)]
        exact ih fun y hy => hall y (List.mem_append_left _ hy)
    rwa [hback, hfront] at hstrip

/-- What is not ASCII is not decoded to its code. -/
theorem decodeAscii_eq_iff (data : List UInt8) :
    decodeAscii data = data.map UInt8.toNat ↔ ∀ x ∈ data, x < 128 := by
  rw [decodeAscii, List.map_inj_left]
  refine forall₂_congr fun x _ => ?_
  have hx := x.toNat_lt
  split
  · simp [*]
  · simp only [*, iff_false]
    omega

/-- Encoded text is decoded to the text. -/
theorem decodeAscii_encodeAscii {text : List ℕ} {data : List UInt8} (h : encodeAscii text = some data) :
    (∀ x ∈ data, x < 128) ∧ data.map UInt8.toNat = text := by
  rw [encodeAscii] at h
  split at h
  swap
  · cases h
  rename_i hascii
  obtain rfl := Option.some.inj h
  have hcode : ∀ c ∈ text, (UInt8.ofNat c).toNat = c := fun c hc =>
    UInt8.toNat_ofNat_of_lt' (lt_trans (hascii c hc) (by decide))
  constructor
  · intro x hx
    obtain ⟨c, hc, rfl⟩ := List.mem_map.mp hx
    rw [UInt8.lt_iff_toNat_lt, hcode c hc]
    exact hascii c hc
  · rw [List.map_map]
    exact (List.map_congr_left hcode).trans (List.map_id _)

end Python

end ByteTransport
