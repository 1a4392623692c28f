import RuntimeTemplates.Lib.Bytes

/-!
# RuntimeTemplates.Lib.Scale

The part of the SCALE codec that writes byte strings: their length, in one of four forms, and then
the bytes.

* `encodeCompact`, `decodeCompact`: a 32-bit length. The two low bits of the first byte say which
  form it has, and only the shortest form of a length is read.
* `ByteVec`: a byte string whose length is such a number. `encodeBytes`, `decodeBytes`.
* `decodeBytes_encodeBytes`: what was written is read, and nothing after it.
-/

namespace Scale

open Bytes

def readLE (n : Nat) (input : List UInt8) : Option (Nat × List UInt8) :=
  if n ≤ input.length then some (ofLE (input.take n), input.drop n) else none

def encodeCompact (n : UInt32) : List UInt8 :=
  if n.toNat < 64 then toLE 1 (n.toNat * 4)
  else if n.toNat < 16384 then toLE 2 (n.toNat * 4 + 1)
  else if n.toNat < 1073741824 then toLE 4 (n.toNat * 4 + 2)
  else 3 :: toLE 4 n.toNat

/-- A number of at least `least`, above its form's two bits, and what follows it. -/
def canonical (least : Nat) (x : Nat × List UInt8) : Option (UInt32 × List UInt8) :=
  if least ≤ x.1 then some (UInt32.ofNat x.1, x.2) else none

def decodeCompact : List UInt8 → Option (UInt32 × List UInt8)
  | [] => none
  | first :: rest =>
    if first.toNat % 4 = 0 then some (UInt32.ofNat (first.toNat / 4), rest)
    else if first.toNat % 4 = 1 then
      match readLE 2 (first :: rest) with
      | some (x, rest) => canonical 64 (x / 4, rest)
      | none => none
    else if first.toNat % 4 = 2 then
      match readLE 4 (first :: rest) with
      | some (x, rest) => canonical 16384 (x / 4, rest)
      | none => none
    else if first.toNat / 4 = 0 then
      match readLE 4 rest with
      | some x => canonical 1073741824 x
      | none => none
    else none

/-- A byte string that has a length of 32 bits. -/
structure ByteVec where
  bytes : List UInt8
  length_lt : bytes.length < UInt32.size

def encodeBytes (v : ByteVec) : List UInt8 := encodeCompact (.ofNat v.bytes.length) ++ v.bytes

def decodeBytes (input : List UInt8) : Option (ByteVec × List UInt8) :=
  match decodeCompact input with
  | some (n, rest) =>
    if n.toNat ≤ rest.length then
      some (⟨rest.take n.toNat, (List.length_take_le _ _).trans_lt n.toNat_lt⟩, rest.drop n.toNat)
    else none
  | none => none

/-! ## Lengths -/

theorem readLE_toLE {n v : Nat} (h : v < 256 ^ n) (rest : List UInt8) :
    readLE n (toLE n v ++ rest) = some (v, rest) := by
  have hlen : n ≤ (toLE n v ++ rest).length := by
    rw [List.length_append, toLE_length]
    exact Nat.le_add_right n _
  rw [readLE, if_pos hlen, List.take_left' (toLE_length n v), List.drop_left' (toLE_length n v),
    ofLE_toLE h]

theorem canonical_ofNat {least : Nat} {n : UInt32} (h : least ≤ n.toNat) (rest : List UInt8) :
    canonical least (n.toNat, rest) = some (n, rest) := by
  rw [canonical, if_pos h, UInt32.ofNat_toNat]

/-- The form of a length is that of the number its first bytes are. -/
theorem form_toLE (v : Nat) : (UInt8.ofNat (v % 256)).toNat % 4 = v % 4 := by
  have hbyte : (UInt8.ofNat (v % 256)).toNat = v % 256 := by simp
  rw [hbyte]
  omega

theorem decodeCompact_one {n : UInt32} (h : n.toNat < 64) (rest : List UInt8) :
    decodeCompact (toLE 1 (n.toNat * 4) ++ rest) = some (n, rest) := by
  have hbyte : (UInt8.ofNat (n.toNat * 4 % 256)).toNat = n.toNat * 4 := by
    simp only [UInt8.toNat_ofNat']
    omega
  have hdiv : n.toNat * 4 / 4 = n.toNat := by omega
  simp only [toLE, List.cons_append, List.nil_append]
  rw [decodeCompact, hbyte, if_pos (by omega), hdiv, UInt32.ofNat_toNat]

theorem decodeCompact_two {n : UInt32} (hleast : 64 ≤ n.toNat) (h : n.toNat < 16384)
    (rest : List UInt8) : decodeCompact (toLE 2 (n.toNat * 4 + 1) ++ rest) = some (n, rest) := by
  have hform := form_toLE (n.toNat * 4 + 1)
  have hread := readLE_toLE (n := 2) (v := n.toNat * 4 + 1) (by omega) rest
  have hdiv : (n.toNat * 4 + 1) / 4 = n.toNat := by omega
  rw [toLE, List.cons_append] at hread ⊢
  rw [decodeCompact, if_neg (by omega), if_pos (by omega), hread]
  simp only [hdiv, canonical_ofNat hleast]

theorem decodeCompact_four {n : UInt32} (hleast : 16384 ≤ n.toNat) (h : n.toNat < 1073741824)
    (rest : List UInt8) : decodeCompact (toLE 4 (n.toNat * 4 + 2) ++ rest) = some (n, rest) := by
  have hform := form_toLE (n.toNat * 4 + 2)
  have hread := readLE_toLE (n := 4) (v := n.toNat * 4 + 2) (by omega) rest
  have hdiv : (n.toNat * 4 + 2) / 4 = n.toNat := by omega
  rw [toLE, List.cons_append] at hread ⊢
  rw [decodeCompact, if_neg (by omega), if_neg (by omega), if_pos (by omega), hread]
  simp only [hdiv, canonical_ofNat hleast]

theorem decodeCompact_big {n : UInt32} (hleast : 1073741824 ≤ n.toNat) (rest : List UInt8) :
    decodeCompact (3 :: toLE 4 n.toNat ++ rest) = some (n, rest) := by
  have hread := readLE_toLE (n := 4) (v := n.toNat) n.toNat_lt rest
  have hfirst : (3 : UInt8).toNat = 3 := rfl
  rw [List.cons_append, decodeCompact, hfirst, if_neg (by decide), if_neg (by decide),
    if_neg (by decide), if_pos (by decide), hread]
  exact canonical_ofNat hleast rest

/-- A case for each form. -/
theorem decodeCompact_encodeCompact (n : UInt32) (rest : List UInt8) :
    decodeCompact (encodeCompact n ++ rest) = some (n, rest) := by
  unfold encodeCompact
  split
  · rename_i h
    exact decodeCompact_one h rest
  · rename_i h₁
    split
    · rename_i h
      exact decodeCompact_two (Nat.le_of_not_lt h₁) h rest
    · rename_i h₂
      split
      · rename_i h
        exact decodeCompact_four (Nat.le_of_not_lt h₂) h rest
      · rename_i h₃
        exact decodeCompact_big (Nat.le_of_not_lt h₃) rest

/-! ## Byte strings -/

theorem toNat_length (v : ByteVec) : (UInt32.ofNat v.bytes.length).toNat = v.bytes.length :=
  UInt32.toNat_ofNat_of_lt' v.length_lt

theorem decodeBytes_encodeBytes (v : ByteVec) (rest : List UInt8) :
    decodeBytes (encodeBytes v ++ rest) = some (v, rest) := by
  have hlen : (UInt32.ofNat v.bytes.length).toNat = v.bytes.length := toNat_length v
  have hle : v.bytes.length ≤ (v.bytes ++ rest).length := by
    rw [List.length_append]
    exact Nat.le_add_right _ _
  rw [encodeBytes, List.append_assoc, decodeBytes, decodeCompact_encodeCompact]
  simp only [hlen, if_pos hle, List.take_left, List.drop_left]

end Scale
