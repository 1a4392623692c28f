import Mathlib.Data.List.Basic
import Mathlib.Data.Nat.Digits.Defs

/-!
# RuntimeTemplates.Lib.Bytes

Numbers as byte strings of a fixed length, and fixed-width words as byte strings.

* `toLE n v`: the `n` low bytes of `v`, least significant first; `ofLE` reads them back.
* `wordOfBytes w`: the word that a byte string is, most significant byte first; `bytesOfWord n` is
  the byte string of a word.
* `padTo n`: the first `n` bytes of a string that zeros follow without end.
-/

namespace Bytes

/-! ## Little-endian numbers -/

def toLE : Nat → Nat → List UInt8
  | 0, _ => []
  | n + 1, v => UInt8.ofNat (v % 256) :: toLE n (v / 256)

def ofLE (bytes : List UInt8) : Nat := Nat.ofDigits 256 (bytes.map UInt8.toNat)

@[simp] theorem toLE_length (n v : Nat) : (toLE n v).length = n := by
  induction n generalizing v with
  | zero => rfl
  | succ n ih => rw [toLE, List.length_cons, ih]

theorem ofLE_toLE {n v : Nat} (h : v < 256 ^ n) : ofLE (toLE n v) = v := by
  induction n generalizing v with
  | zero =>
    have hv : v = 0 := by simpa using h
    rw [hv]
    rfl
  | succ n ih =>
    have hdiv : v / 256 < 256 ^ n := by
      rw [Nat.pow_succ] at h
      exact Nat.div_lt_of_lt_mul (by omega)
    have hbyte : (UInt8.ofNat (v % 256)).toNat = v % 256 := by simp
    have hrest := ih hdiv
    rw [ofLE] at hrest
    rw [toLE, ofLE, List.map_cons, Nat.ofDigits_cons, hrest, hbyte]
    omega

theorem toLE_injective {n v w : Nat} (hv : v < 256 ^ n) (hw : w < 256 ^ n)
    (h : toLE n v = toLE n w) : v = w := by
  rw [← ofLE_toLE hv, ← ofLE_toLE hw, h]

theorem digit_lt (bytes : List UInt8) : ∀ d ∈ bytes.map UInt8.toNat, d < 256 := by
  intro d hd
  obtain ⟨b, -, rfl⟩ := List.mem_map.mp hd
  exact b.toNat_lt

theorem ofLE_lt (bytes : List UInt8) : ofLE bytes < 256 ^ bytes.length := by
  have h := Nat.ofDigits_lt_base_pow_length (b := 256) (by decide) (digit_lt bytes)
  rwa [List.length_map] at h

theorem ofLE_injective {a b : List UInt8} (hlen : a.length = b.length) (h : ofLE a = ofLE b) :
    a = b := by
  have hmap : a.map UInt8.toNat = b.map UInt8.toNat :=
    Nat.ofDigits_inj_of_len_eq (by decide) (by simpa using hlen) (digit_lt a) (digit_lt b) h
  exact (List.map_injective_iff.mpr fun x y => UInt8.toNat_inj.mp) hmap

theorem toLE_ofLE (bytes : List UInt8) : toLE bytes.length (ofLE bytes) = bytes :=
  ofLE_injective (toLE_length _ _) (ofLE_toLE (ofLE_lt bytes))

/-! ## Words -/

def wordOfBytes (w : Nat) (bytes : List UInt8) : BitVec w := .ofNat w (ofLE bytes.reverse)

def bytesOfWord {w : Nat} (n : Nat) (x : BitVec w) : List UInt8 := (toLE n x.toNat).reverse

@[simp] theorem bytesOfWord_length {w : Nat} (n : Nat) (x : BitVec w) :
    (bytesOfWord n x).length = n := by
  rw [bytesOfWord, List.length_reverse, toLE_length]

theorem pow_mul_eight (n : Nat) : 2 ^ (8 * n) = 256 ^ n := by
  rw [Nat.pow_mul]

/-- A word of whole bytes is the word of its bytes. -/
@[simp] theorem wordOfBytes_bytesOfWord {n : Nat} (x : BitVec (8 * n)) :
    wordOfBytes (8 * n) (bytesOfWord n x) = x := by
  have hlt : x.toNat < 256 ^ n := pow_mul_eight n ▸ x.isLt
  rw [wordOfBytes, bytesOfWord, List.reverse_reverse, ofLE_toLE hlt]
  rw [BitVec.ofNat_toNat, BitVec.setWidth_eq]

theorem bytesOfWord_wordOfBytes {n : Nat} {bytes : List UInt8} (h : bytes.length = n) :
    bytesOfWord n (wordOfBytes (8 * n) bytes) = bytes := by
  have hlen : bytes.reverse.length = n := by rw [List.length_reverse, h]
  have hlt : ofLE bytes.reverse < 2 ^ (8 * n) := by
    have := ofLE_lt bytes.reverse
    rwa [hlen, ← pow_mul_eight] at this
  have hnat : (wordOfBytes (8 * n) bytes).toNat = ofLE bytes.reverse := by
    rw [wordOfBytes, BitVec.toNat_ofNat, Nat.mod_eq_of_lt hlt]
  calc bytesOfWord n (wordOfBytes (8 * n) bytes)
      = (toLE bytes.reverse.length (ofLE bytes.reverse)).reverse := by
        rw [bytesOfWord, hnat, hlen]
    _ = bytes := by rw [toLE_ofLE, List.reverse_reverse]

theorem wordOfBytes_eq_iff {n : Nat} {bytes : List UInt8} (h : bytes.length = n)
    (x : BitVec (8 * n)) : wordOfBytes (8 * n) bytes = x ↔ bytes = bytesOfWord n x := by
  constructor
  · rintro rfl
    exact (bytesOfWord_wordOfBytes h).symm
  · rintro rfl
    exact wordOfBytes_bytesOfWord x

/-- A word determines the bytes that fit into it. -/
theorem wordOfBytes_injective {w : Nat} {a b : List UInt8} (hlen : a.length = b.length)
    (hfit : 256 ^ a.length ≤ 2 ^ w) (h : wordOfBytes w a = wordOfBytes w b) : a = b := by
  have ha : ofLE a.reverse < 2 ^ w := by
    have hlt := ofLE_lt a.reverse
    rw [List.length_reverse] at hlt
    omega
  have hb : ofLE b.reverse < 2 ^ w := by
    have hlt := ofLE_lt b.reverse
    rw [List.length_reverse, ← hlen] at hlt
    omega
  have hnat : ofLE a.reverse = ofLE b.reverse := by
    have := congrArg BitVec.toNat h
    rwa [wordOfBytes, wordOfBytes, BitVec.toNat_ofNat, BitVec.toNat_ofNat, Nat.mod_eq_of_lt ha,
      Nat.mod_eq_of_lt hb] at this
  exact List.reverse_injective (ofLE_injective (by simpa using hlen) hnat)

/-! ## Padding -/

def padTo (n : Nat) (bytes : List UInt8) : List UInt8 := (bytes ++ List.replicate n 0).take n

@[simp] theorem padTo_length (n : Nat) (bytes : List UInt8) : (padTo n bytes).length = n := by
  rw [padTo, List.length_take, List.length_append, List.length_replicate]
  omega

/-- Strings of one length that are not cut off stay apart. -/
theorem take_padTo {n : Nat} {bytes : List UInt8} (h : bytes.length ≤ n) :
    (padTo n bytes).take bytes.length = bytes := by
  rw [padTo, List.take_take, Nat.min_eq_left h, List.take_left]

theorem padTo_injective {n : Nat} {a b : List UInt8} (hlen : a.length = b.length)
    (ha : a.length ≤ n) (h : padTo n a = padTo n b) : a = b := by
  have hb : b.length ≤ n := hlen ▸ ha
  calc a = (padTo n a).take a.length := (take_padTo ha).symm
    _ = (padTo n b).take b.length := by rw [h, hlen]
    _ = b := take_padTo hb

end Bytes
