import IrohWebRtc.Lib.PrefixCode
import Mathlib.Data.Nat.ModEq
import Mathlib.Tactic.Ring

/-!
# Byte strings

Byte strings are lists of `UInt8`.  Three things are needed of them here: fixed-length strings,
which keep their length as a field so that a value of the wrong length cannot be built, unsigned
integers written most significant byte first, and hexadecimal texts.

* `FixedBytes n`: the strings of length `n`, with `FixedBytes.ofList?` as the only way in from
  an unchecked list.
* `slice bs i j`: the bytes `bs[i..j]`.
* `toBe w n`, `fromBe`: the `w`-byte big-endian form of `n` and its value, with
  `fromBe_toBe` and `toBe_fromBe`: the two are mutually inverse on `n < 256 ^ w`.
* `toHex`, `ofHex`: two hexadecimal digits for a byte, with `ofHex_toHex`.
-/

namespace Bytes

/-! ## Fixed length -/

/-- A byte string of length `n`. -/
structure FixedBytes (n : ℕ) where
  toList : List UInt8
  length_toList : toList.length = n
  deriving DecidableEq

namespace FixedBytes

variable {n : ℕ}

attribute [simp] length_toList

@[ext] theorem ext {a b : FixedBytes n} (h : a.toList = b.toList) : a = b := by
  cases a; cases b; simpa using h

theorem toList_injective : Function.Injective (toList : FixedBytes n → List UInt8) :=
  fun _ _ => ext

/-- A string of fixed length can be read off the front of a byte string. -/
theorem prefixFree_toList : PrefixCode.PrefixFree (toList : FixedBytes n → List UInt8) :=
  PrefixCode.prefixFree_of_length length_toList toList_injective

/-- The checked conversion from a list: it fails exactly when the length is not `n`. -/
def ofList? (n : ℕ) (bs : List UInt8) : Option (FixedBytes n) :=
  if h : bs.length = n then some ⟨bs, h⟩ else none

theorem ofList?_eq_some {bs : List UInt8} {a : FixedBytes n} :
    ofList? n bs = some a ↔ bs = a.toList := by
  unfold ofList?
  split
  · rename_i h
    rw [Option.some.injEq, FixedBytes.ext_iff]
  · rename_i h
    refine iff_of_false (by simp) fun hbs => h ?_
    rw [hbs, a.length_toList]

@[simp] theorem ofList?_toList (a : FixedBytes n) : ofList? n a.toList = some a :=
  ofList?_eq_some.mpr rfl

/-- The constant string, `[b; n]`. -/
def replicate (n : ℕ) (b : UInt8) : FixedBytes n := ⟨List.replicate n b, List.length_replicate⟩

end FixedBytes

/-! ## Slices -/

/-- The bytes at the positions from `i` up to, not including, `j`. -/
def slice (bs : List UInt8) (i j : ℕ) : List UInt8 := (bs.drop i).take (j - i)

theorem length_slice {bs : List UInt8} {i j : ℕ} (h : j ≤ bs.length) :
    (slice bs i j).length = j - i := by
  rw [slice, List.length_take, List.length_drop]
  omega

/-- A slice followed by what comes after it. -/
theorem slice_append_drop {bs : List UInt8} {i j : ℕ} (h : i ≤ j) :
    slice bs i j ++ bs.drop j = bs.drop i := by
  have hj : j = i + (j - i) := by omega
  rw [slice]
  nth_rewrite 2 [hj]
  rw [← List.drop_drop, List.take_append_drop]

/-- The slice that starts after `a` and has the length of `b`. -/
theorem slice_middle {a b c : List UInt8} {i j : ℕ} (hi : a.length = i) (hj : i + b.length = j) :
    slice (a ++ (b ++ c)) i j = b := by
  have hb : j - i = b.length := by omega
  rw [slice, hb, ← hi, List.drop_left, List.take_left]

/-! ## Big-endian integers -/

/-- The value of a byte string read with the most significant byte first. -/
def fromBe : List UInt8 → ℕ
  | [] => 0
  | b :: bs => b.toNat * 256 ^ bs.length + fromBe bs

/-- The low `w` base-`256` digits of `n`, most significant first. -/
def toBe : ℕ → ℕ → List UInt8
  | 0, _ => []
  | w + 1, n => UInt8.ofNat (n / 256 ^ w) :: toBe w n

@[simp] theorem length_toBe (w n : ℕ) : (toBe w n).length = w := by
  induction w with
  | zero => rfl
  | succ w ih => rw [toBe, List.length_cons, ih]

theorem fromBe_lt (bs : List UInt8) : fromBe bs < 256 ^ bs.length := by
  induction bs with
  | nil => simp [fromBe]
  | cons b bs ih =>
    have hb : b.toNat + 1 ≤ 256 := b.toNat_lt
    calc fromBe (b :: bs) < b.toNat * 256 ^ bs.length + 256 ^ bs.length := by
          rw [fromBe]; omega
      _ = (b.toNat + 1) * 256 ^ bs.length := by ring
      _ ≤ 256 * 256 ^ bs.length := Nat.mul_le_mul_right _ hb
      _ = 256 ^ (b :: bs).length := by rw [List.length_cons, pow_succ']

theorem fromBe_toBe_mod (w n : ℕ) : fromBe (toBe w n) = n % 256 ^ w := by
  induction w with
  | zero => rw [toBe, fromBe, pow_zero, Nat.mod_one]
  | succ w ih =>
    have hd : (UInt8.ofNat (n / 256 ^ w)).toNat = n / 256 ^ w % 256 := UInt8.toNat_ofNat'
    rw [toBe, fromBe, ih, length_toBe, hd, pow_succ, Nat.mod_mul]
    ring

/-- Reading back what was written gives the value, when it fits. -/
theorem fromBe_toBe {w n : ℕ} (h : n < 256 ^ w) : fromBe (toBe w n) = n := by
  rw [fromBe_toBe_mod, Nat.mod_eq_of_lt h]

theorem toBe_add_mul (w k n : ℕ) : toBe w (k * 256 ^ w + n) = toBe w n := by
  induction w generalizing k with
  | zero => rfl
  | succ w ih =>
    have hk : k * 256 ^ (w + 1) + n = k * 256 * 256 ^ w + n := by ring
    rw [toBe, toBe, hk, ih]
    congr 1
    rw [add_comm, Nat.add_mul_div_right _ _ (pow_pos (by norm_num) w)]
    apply UInt8.toNat_inj.mp
    rw [UInt8.toNat_ofNat', UInt8.toNat_ofNat', Nat.add_mul_mod_self_right]

/-- Writing back what was read gives the bytes. -/
theorem toBe_fromBe (bs : List UInt8) : toBe bs.length (fromBe bs) = bs := by
  induction bs with
  | nil => rfl
  | cons b bs ih =>
    rw [List.length_cons, toBe, fromBe, toBe_add_mul, ih]
    congr 1
    rw [add_comm, Nat.add_mul_div_right _ _ (pow_pos (by norm_num) _),
      Nat.div_eq_of_lt (fromBe_lt bs), zero_add, UInt8.ofNat_toNat]

/-! ## Hexadecimal digits -/

/-- The value of a hexadecimal digit. -/
def hexValue (c : Char) : Option ℕ :=
  if c.isDigit then some (c.toNat - 48)
  else if 'a' ≤ c && c ≤ 'f' then some (c.toNat - 87)
  else if 'A' ≤ c && c ≤ 'F' then some (c.toNat - 55)
  else none

theorem hexValue_digitChar : ∀ n < 16, hexValue (Nat.digitChar n) = some n := by decide

/-- Two digits for each byte. -/
def toHex (bs : List UInt8) : List Char :=
  bs.flatMap fun b => [Nat.digitChar (b.toNat / 16), Nat.digitChar (b.toNat % 16)]

/-- The bytes of an even number of digits. -/
def ofHex : List Char → Option (List UInt8)
  | [] => some []
  | [_] => none
  | high :: low :: cs =>
    (hexValue high).bind fun high => (hexValue low).bind fun low =>
      (ofHex cs).map (UInt8.ofNat (16 * high + low) :: ·)

theorem length_toHex (bs : List UInt8) : (toHex bs).length = 2 * bs.length := by
  induction bs with
  | nil => rfl
  | cons b bs ih =>
    show (toHex bs).length + 2 = 2 * (bs.length + 1)
    omega

/-- The digits are the sixteen hexadecimal ones. -/
theorem exists_digit_of_mem_toHex {bs : List UInt8} {c : Char} (h : c ∈ toHex bs) :
    ∃ n < 16, c = Nat.digitChar n := by
  obtain ⟨b, -, hc⟩ := List.mem_flatMap.mp h
  have hb := b.toNat_lt
  simp only [List.mem_cons, List.not_mem_nil, or_false] at hc
  rcases hc with rfl | rfl
  · exact ⟨b.toNat / 16, by omega, rfl⟩
  · exact ⟨b.toNat % 16, by omega, rfl⟩

theorem ofHex_toHex (bs : List UInt8) : ofHex (toHex bs) = some bs := by
  induction bs with
  | nil => rfl
  | cons b bs ih =>
    have hb := b.toNat_lt
    have hhigh := hexValue_digitChar (b.toNat / 16) (by omega)
    have hlow := hexValue_digitChar (b.toNat % 16) (by omega)
    show ofHex (_ :: _ :: toHex bs) = _
    simp only [ofHex, hhigh, hlow, ih, Option.bind_some, Option.map_some, Nat.div_add_mod,
      UInt8.ofNat_toNat]

end Bytes
