import RuntimeTemplates.Lib.Bytes
import RuntimeTemplates.Template

/-!
# RuntimeTemplates.Assets.Address

The account of an asset: a fixed prefix and the bytes of the asset's id, most significant first.
The templates split an account at different places.

* `accountToAssetIdOver`, `assetIdToAccountOver`: the conversions, over the two lengths.
* `accountToAssetIdOver_some_iff`: an account is read as an id exactly if it is written from it.
* `asset_accounts_inverse`: the conversions of each template undo each other.
-/

namespace RuntimeTemplates

open Bytes

inductive SliceError where
  | lengthMismatch
  deriving DecidableEq

/-- `data[start..stop].copy_from_slice(src)`, which panics on a source of another length. -/
def copyFromSlice (data : List UInt8) (start stop : Nat) (src : List UInt8) :
    Except SliceError (List UInt8) :=
  if src.length = stop - start then .ok (data.take start ++ src ++ data.drop stop)
  else .error .lengthMismatch

/-! ## The conversions -/

section Conversions

variable (prefixLen idLen : Nat)

def accountToAssetIdOver (foreignPrefix : List UInt8) (account : BitVec (8 * (prefixLen + idLen))) :
    Except SliceError (Option (List UInt8 × BitVec (8 * idLen))) := do
  let bytes := bytesOfWord (prefixLen + idLen) account
  let prefixPart := bytes.take prefixLen
  let idPart := bytes.drop prefixLen
  if prefixPart = foreignPrefix then
    let data ← copyFromSlice (List.replicate idLen 0) 0 idLen idPart
    return some (prefixPart, wordOfBytes (8 * idLen) data)
  else
    return none

def assetIdToAccountOver (prefixPart : List UInt8) (assetId : BitVec (8 * idLen)) :
    Except SliceError (BitVec (8 * (prefixLen + idLen))) := do
  let data := List.replicate (prefixLen + idLen) 0
  let data ← copyFromSlice data 0 prefixLen prefixPart
  let data ← copyFromSlice data prefixLen (prefixLen + idLen) (bytesOfWord idLen assetId)
  return wordOfBytes (8 * (prefixLen + idLen)) data

end Conversions

namespace Evm

def foreignAssetPrecompileAddressPrefix : List UInt8 := List.replicate 4 255

def accountToAssetId : AccountId → Except SliceError (Option (List UInt8 × AssetId)) :=
  accountToAssetIdOver 4 16 foreignAssetPrecompileAddressPrefix

def assetIdToAccount : List UInt8 → AssetId → Except SliceError AccountId :=
  assetIdToAccountOver 4 16

end Evm

namespace Generic

def foreignAssetPrecompileAddressPrefix : List UInt8 := List.replicate 28 255

def accountToAssetId : AccountId → Except SliceError (Option (List UInt8 × AssetId)) :=
  accountToAssetIdOver 28 4 foreignAssetPrecompileAddressPrefix

def assetIdToAccount : List UInt8 → AssetId → Except SliceError AccountId :=
  assetIdToAccountOver 28 4

end Generic

namespace Template

def foreignAssetPrecompileAddressPrefix : Template → List UInt8
  | .evm => Evm.foreignAssetPrecompileAddressPrefix
  | .generic => Generic.foreignAssetPrecompileAddressPrefix

def accountToAssetId : (t : Template) → t.AccountId →
    Except SliceError (Option (List UInt8 × t.AssetId))
  | .evm => Evm.accountToAssetId
  | .generic => Generic.accountToAssetId

def assetIdToAccount : (t : Template) → List UInt8 → t.AssetId → Except SliceError t.AccountId
  | .evm => Evm.assetIdToAccount
  | .generic => Generic.assetIdToAccount

/-- The bytes of an account up to the id of an asset. -/
def leadingBytes : (t : Template) → t.AccountId → List UInt8
  | .evm, account => (bytesOfWord 20 (w := 160) account).take 4
  | .generic, account => (bytesOfWord 32 (w := 256) account).take 28

end Template

/-! ## The conversions undo each other -/

theorem copyFromSlice_ok {data src : List UInt8} {start stop : Nat}
    (h : src.length = stop - start) :
    copyFromSlice data start stop src = .ok (data.take start ++ src ++ data.drop stop) := if_pos h

section Inverse

variable {prefixLen idLen : Nat}

theorem accountToAssetIdOver_eq (foreignPrefix : List UInt8)
    (account : BitVec (8 * (prefixLen + idLen))) :
    accountToAssetIdOver prefixLen idLen foreignPrefix account =
      .ok (if (bytesOfWord (prefixLen + idLen) account).take prefixLen = foreignPrefix then
        some ((bytesOfWord (prefixLen + idLen) account).take prefixLen,
          wordOfBytes (8 * idLen) ((bytesOfWord (prefixLen + idLen) account).drop prefixLen))
      else none) := by
  have hlen : ((bytesOfWord (prefixLen + idLen) account).drop prefixLen).length = idLen - 0 := by
    rw [List.length_drop, bytesOfWord_length]
    omega
  have hdata : (List.replicate idLen (0 : UInt8)).drop idLen = [] := by simp
  simp only [accountToAssetIdOver]
  split
  · rw [copyFromSlice_ok hlen, hdata, List.append_nil]
    rfl
  · rfl

theorem assetIdToAccountOver_eq {prefixPart : List UInt8} (h : prefixPart.length = prefixLen)
    (assetId : BitVec (8 * idLen)) :
    assetIdToAccountOver prefixLen idLen prefixPart assetId =
      .ok (wordOfBytes (8 * (prefixLen + idLen)) (prefixPart ++ bytesOfWord idLen assetId)) := by
  have hpart : prefixPart.length = prefixLen - 0 := h
  have hidLen : prefixLen + idLen - prefixLen = idLen := by omega
  have hid : (bytesOfWord idLen assetId).length = prefixLen + idLen - prefixLen := by
    rw [bytesOfWord_length, hidLen]
  have hdrop : (prefixPart ++ List.replicate idLen (0 : UInt8)).drop (prefixLen + idLen) = [] := by
    rw [List.drop_eq_nil_iff, List.length_append, List.length_replicate, h]
  have hhead : copyFromSlice (List.replicate (prefixLen + idLen) 0) 0 prefixLen prefixPart =
      .ok (prefixPart ++ List.replicate idLen 0) := by
    rw [copyFromSlice_ok hpart, List.take_zero, List.nil_append, List.drop_replicate, hidLen]
  have htail : copyFromSlice (prefixPart ++ List.replicate idLen 0) prefixLen (prefixLen + idLen)
      (bytesOfWord idLen assetId) = .ok (prefixPart ++ bytesOfWord idLen assetId) := by
    rw [copyFromSlice_ok hid, hdrop, List.take_left' h, List.append_nil]
  rw [assetIdToAccountOver, hhead]
  simp only [bind, Except.bind]
  rw [htail]
  rfl

theorem assetIdToAccountOver_ok_iff {prefixPart : List UInt8} (h : prefixPart.length = prefixLen)
    (assetId : BitVec (8 * idLen)) (account : BitVec (8 * (prefixLen + idLen))) :
    assetIdToAccountOver prefixLen idLen prefixPart assetId = .ok account ↔
      prefixPart ++ bytesOfWord idLen assetId = bytesOfWord (prefixLen + idLen) account := by
  have hlen : (prefixPart ++ bytesOfWord idLen assetId).length = prefixLen + idLen := by
    rw [List.length_append, bytesOfWord_length, h]
  rw [assetIdToAccountOver_eq h, Except.ok.injEq, wordOfBytes_eq_iff hlen]

/-- An account is read as an id exactly if the id and the known prefix are written as it. -/
theorem accountToAssetIdOver_some_iff {foreignPrefix : List UInt8}
    (h : foreignPrefix.length = prefixLen) (account : BitVec (8 * (prefixLen + idLen)))
    (prefixPart : List UInt8) (assetId : BitVec (8 * idLen)) :
    accountToAssetIdOver prefixLen idLen foreignPrefix account = .ok (some (prefixPart, assetId)) ↔
      prefixPart = foreignPrefix ∧
        assetIdToAccountOver prefixLen idLen prefixPart assetId = .ok account := by
  have hid : ((bytesOfWord (prefixLen + idLen) account).drop prefixLen).length = idLen := by
    rw [List.length_drop, bytesOfWord_length]
    omega
  rw [accountToAssetIdOver_eq]
  constructor
  · intro hread
    split at hread
    · rename_i hleading
      simp only [Except.ok.injEq, Option.some.injEq, Prod.mk.injEq] at hread
      obtain ⟨rfl, hword⟩ := hread
      refine ⟨hleading, (assetIdToAccountOver_ok_iff (hleading ▸ h) assetId account).mpr ?_⟩
      rw [← (wordOfBytes_eq_iff hid assetId).mp hword, List.take_append_drop]
    · cases hread
  · rintro ⟨rfl, hwrite⟩
    have hbytes := (assetIdToAccountOver_ok_iff h assetId account).mp hwrite
    rw [← hbytes, List.take_left' h, List.drop_left' h, if_pos rfl, wordOfBytes_bytesOfWord]

theorem take_eq_replicate_iff (account : BitVec (8 * (prefixLen + idLen))) (b : UInt8) :
    (bytesOfWord (prefixLen + idLen) account).take prefixLen = List.replicate prefixLen b ↔
      ∀ x ∈ (bytesOfWord (prefixLen + idLen) account).take prefixLen, x = b := by
  have hlen : ((bytesOfWord (prefixLen + idLen) account).take prefixLen).length = prefixLen := by
    rw [List.length_take, bytesOfWord_length]
    omega
  exact List.eq_replicate_iff.trans (and_iff_right hlen)

end Inverse

/-! ## Asset accounts -/

/-- Two conversions between ids and the accounts whose leading bytes are all `b`. -/
structure InverseEncodings {Account Id : Type} (b : UInt8) (pre : List UInt8)
    (leading : Account → List UInt8) (read : Account → Except SliceError (Option (List UInt8 × Id)))
    (write : List UInt8 → Id → Except SliceError Account) : Prop where
  read_total : ∀ account, ∃ r, read account = .ok r
  read_write : ∀ id, ∃ account, write pre id = .ok account ∧ read account = .ok (some (pre, id))
  read_iff : ∀ account, (∃ p id, read account = .ok (some (p, id))) ↔ ∀ x ∈ leading account, x = b
  write_read : ∀ account p id, read account = .ok (some (p, id)) →
    p = leading account ∧ p = pre ∧ write p id = .ok account
  write_injective : ∀ id id' account,
    write pre id = .ok account → write pre id' = .ok account → id = id'

theorem inverseEncodings_over (prefixLen idLen : Nat) (b : UInt8) :
    InverseEncodings b (List.replicate prefixLen b)
      (fun account => (bytesOfWord (prefixLen + idLen) account).take prefixLen)
      (accountToAssetIdOver prefixLen idLen (List.replicate prefixLen b))
      (assetIdToAccountOver prefixLen idLen) := by
  have hpre : (List.replicate prefixLen b).length = prefixLen := List.length_replicate
  have hread : ∀ (account : BitVec (8 * (prefixLen + idLen))) (id : BitVec (8 * idLen)),
      assetIdToAccountOver prefixLen idLen (List.replicate prefixLen b) id = .ok account →
      accountToAssetIdOver prefixLen idLen (List.replicate prefixLen b) account =
        .ok (some (List.replicate prefixLen b, id)) := by
    intro account id h
    exact (accountToAssetIdOver_some_iff hpre account _ id).mpr ⟨rfl, h⟩
  constructor
  · intro account
    exact ⟨_, accountToAssetIdOver_eq _ account⟩
  · intro id
    have hwrite := assetIdToAccountOver_eq hpre id
    exact ⟨_, hwrite, hread _ id hwrite⟩
  · intro account
    rw [← take_eq_replicate_iff, accountToAssetIdOver_eq]
    split
    · rename_i hleading
      exact iff_of_true ⟨_, _, rfl⟩ hleading
    · rename_i hother
      exact iff_of_false (by simp) hother
  · intro account p id h
    obtain ⟨hp, hwrite⟩ := (accountToAssetIdOver_some_iff hpre account p id).mp h
    rw [accountToAssetIdOver_eq] at h
    split at h
    · cases h
      exact ⟨rfl, hp, hwrite⟩
    · cases h
  · intro id id' account h h'
    have hid := hread account id h
    rw [hread account id' h'] at hid
    cases hid
    rfl

/-- An account stands for an asset exactly if its leading bytes are all 255, and then for one. -/
theorem asset_accounts_inverse (t : Template) :
    InverseEncodings 255 t.foreignAssetPrecompileAddressPrefix t.leadingBytes t.accountToAssetId
      t.assetIdToAccount := by
  cases t with
  | evm => exact inverseEncodings_over 4 16 255
  | generic => exact inverseEncodings_over 28 4 255

end RuntimeTemplates
