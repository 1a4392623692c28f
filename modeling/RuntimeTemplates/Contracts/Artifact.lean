import RuntimeTemplates.Contracts.Abi
import RuntimeTemplates.Xcm.Location

/-!
# RuntimeTemplates.Contracts.Artifact

`contracts/mod.rs`, `hardhat.rs`, `forge.rs`: one compiled contract, in one of two formats, and the
decoding of its bytecode.

* `sliceFrom`: `&s[n..]`, which panics outside a character boundary.
* `deserializeBytecode`: the bytecode field. It asks for a `&str`.
* `Artifact`: a well-formed artifact and the bytes it stands for.
* `artifact_decodes`, `contract_rejected`: such an artifact decodes from borrowed strings, and
  nothing decodes from a reader.
-/

namespace RuntimeTemplates
namespace Contracts

open Serde Xcm

/-! ## Hex -/

def hexDigit (c : Char) : Option Nat :=
  if '0' ≤ c ∧ c ≤ '9' then some (c.toNat - '0'.toNat)
  else if 'a' ≤ c ∧ c ≤ 'f' then some (c.toNat - 'a'.toNat + 10)
  else if 'A' ≤ c ∧ c ≤ 'F' then some (c.toNat - 'A'.toNat + 10)
  else none

/-- `hex::decode`: an even number of hex digits, of either case. -/
def hexDecode : List Char → Option (List UInt8)
  | [] => some []
  | [_] => none
  | hi :: lo :: rest => do
    let hi ← hexDigit hi
    let lo ← hexDigit lo
    let bytes ← hexDecode rest
    return .ofNat (16 * hi + lo) :: bytes

inductive Panic where
  | sliceOutsideCharBoundary
  deriving DecidableEq

/-- `&s[n..]`: drops `n` bytes of a string. -/
def sliceFrom : List Char → Nat → Decode Panic (List Char)
  | s, 0 => .ok s
  | [], _ + 1 => .error (.panic .sliceOutsideCharBoundary)
  | c :: s, n + 1 =>
    if c.utf8Size ≤ n + 1 then sliceFrom s (n + 1 - c.utf8Size)
    else .error (.panic .sliceOutsideCharBoundary)

/-! ## The two formats -/

structure HardhatContract where
  abi : List AbiItem
  bytecode : List UInt8

structure ForgeBytecode where
  object : List UInt8

structure ForgeContract where
  abi : List AbiItem
  bytecode : ForgeBytecode

inductive Contract where
  | hardhat (c : HardhatContract)
  | forge (c : ForgeContract)

def Contract.bytecode : Contract → List UInt8
  | .hardhat c => c.bytecode
  | .forge c => c.bytecode.object

/-- What follows the string in `deserialize_bytecode`. -/
def decodeBytecode (s : String) : Decode Panic (List UInt8) := do
  let digits ← sliceFrom s.toList 2
  match hexDecode digits with
  | some bytes => .ok bytes
  | none => reject

def deserializeBytecode (form : StrForm) (v : Json) : Decode Panic (List UInt8) := do
  let s ← decodeStr form v
  decodeBytecode s

def decodeAbi (v : Json) : Decode Panic (List AbiItem) := total (decodeVec decodeAbiItem v)

def decodeHardhat (form : StrForm) : Json → Decode Panic HardhatContract
  | .obj entries => do
    let abi ← requiredField "abi" decodeAbi entries
    let bytecode ← requiredField "bytecode" (deserializeBytecode form) entries
    return { abi, bytecode }
  | .arr [abi, bytecode] => do
    let abi ← decodeAbi abi
    let bytecode ← deserializeBytecode form bytecode
    return { abi, bytecode }
  | _ => reject

def decodeForgeBytecode (form : StrForm) : Json → Decode Panic ForgeBytecode
  | .obj entries => do
    let object ← requiredField "object" (deserializeBytecode form) entries
    return { object }
  | .arr [object] => do
    let object ← deserializeBytecode form object
    return { object }
  | _ => reject

def decodeForge (form : StrForm) : Json → Decode Panic ForgeContract
  | .obj entries => do
    let abi ← requiredField "abi" decodeAbi entries
    let bytecode ← requiredField "bytecode" (decodeForgeBytecode form) entries
    return { abi, bytecode }
  | .arr [abi, bytecode] => do
    let abi ← decodeAbi abi
    let bytecode ← decodeForgeBytecode form bytecode
    return { abi, bytecode }
  | _ => reject

/-- An untagged enum buffers the value, then tries its variants in order. -/
def decodeContract (form : StrForm) (v : Json) : Decode Panic Contract :=
  untagged (.hardhat <$> decodeHardhat form.buffered v) fun _ =>
    .forge <$> decodeForge form.buffered v

/-! ## Well-formed artifacts -/

/-- `0x` and an even number of hex digits, which encode `code`. -/
def IsBytecode (s : String) (code : List UInt8) : Prop :=
  ∃ digits, s.toList = '0' :: 'x' :: digits ∧ hexDecode digits = some code

def HasField (entries : List (String × Json)) (key : String) (v : Json) : Prop :=
  valuesOf key entries = [v]

/-- A well-formed artifact of Hardhat or of Forge with bytecode `code`. -/
inductive Artifact (code : List UInt8) : Json → Prop where
  | hardhat (entries : List (String × Json)) (abi : Json) (items : List AbiItem) (s : String) :
      HasField entries "abi" abi → decodeAbi abi = .ok items →
      HasField entries "bytecode" (.str s) → IsBytecode s code →
      Artifact code (.obj entries)
  | forge (entries bytecode : List (String × Json)) (abi : Json) (items : List AbiItem)
      (s : String) :
      HasField entries "abi" abi → decodeAbi abi = .ok items →
      HasField entries "bytecode" (.obj bytecode) → HasField bytecode "object" (.str s) →
      IsBytecode s code → Artifact code (.obj entries)

theorem decodeBytecode_ok {s : String} {code : List UInt8} (h : IsBytecode s code) :
    decodeBytecode s = .ok code := by
  obtain ⟨digits, hs, hd⟩ := h
  have hslice : sliceFrom s.toList 2 = .ok digits := by
    have h0 : Char.utf8Size '0' = 1 := by decide
    have hx : Char.utf8Size 'x' = 1 := by decide
    rw [hs]
    simp [sliceFrom, h0, hx]
  rw [decodeBytecode, hslice]
  simp only [Except.bind, bind, hd]

/-- From borrowed strings, a well-formed artifact decodes to its bytecode. -/
theorem artifact_decodes {code : List UInt8} {v : Json} (h : Artifact code v) :
    ∃ c, decodeContract .borrowed v = .ok c ∧ c.bytecode = code := by
  cases h with
  | hardhat entries abi items s habi hitems hcode hs =>
    refine ⟨.hardhat ⟨items, code⟩, ?_, rfl⟩
    have hh : decodeHardhat .borrowed (.obj entries) = .ok ⟨items, code⟩ := by
      rw [decodeHardhat, requiredField_single habi, requiredField_single hcode, hitems]
      simp only [deserializeBytecode, decodeStr_borrowed, Except.bind, bind, decodeBytecode_ok hs]
      rfl
    rw [decodeContract, buffered_borrowed, hh]
    rfl
  | forge entries bytecode abi items s habi hitems hcode hobj hs =>
    refine ⟨.forge ⟨items, ⟨code⟩⟩, ?_, rfl⟩
    have hh : decodeHardhat .borrowed (.obj entries) = reject := by
      rw [decodeHardhat, requiredField_single habi, requiredField_single hcode, hitems]
      rfl
    have hf : decodeForge .borrowed (.obj entries) = .ok ⟨items, ⟨code⟩⟩ := by
      rw [decodeForge, requiredField_single habi, requiredField_single hcode, hitems]
      simp only [decodeForgeBytecode, requiredField_single hobj, deserializeBytecode,
        decodeStr_borrowed, Except.bind, bind, decodeBytecode_ok hs]
      rfl
    rw [decodeContract, buffered_borrowed, hh, hf]
    rfl

/-! ## Nothing decodes from a reader -/

section Reader

variable {form : StrForm}

theorem deserializeBytecode_reject (h : form ≠ .borrowed) (v : Json) :
    deserializeBytecode form v = reject := by
  rw [deserializeBytecode, decodeStr_reject h]
  rfl

/-- An ABI decodes or is rejected, so a struct whose other field is rejected is rejected. -/
theorem decodeAbi_bind_reject {α : Type} (v : Json) :
    (decodeAbi v >>= fun _ => (reject : Decode Panic α)) = reject := by
  rcases total_cases (π := Panic) (decodeVec decodeAbiItem v) with ⟨items, -, h⟩ | h
  · rw [decodeAbi, h]; rfl
  · rw [decodeAbi, h]; rfl

theorem requiredAbi_bind_reject {α : Type} (entries : List (String × Json)) :
    (requiredField "abi" decodeAbi entries >>= fun _ => (reject : Decode Panic α)) = reject := by
  unfold requiredField
  split
  · exact decodeAbi_bind_reject _
  · rfl

theorem decodeHardhat_reject (h : form ≠ .borrowed) (v : Json) :
    decodeHardhat form v = reject := by
  unfold decodeHardhat
  split
  · rw [requiredField_reject (deserializeBytecode_reject h)]
    exact requiredAbi_bind_reject _
  · rw [deserializeBytecode_reject h]
    exact decodeAbi_bind_reject _
  · rfl

theorem decodeForgeBytecode_reject (h : form ≠ .borrowed) (v : Json) :
    decodeForgeBytecode form v = reject := by
  unfold decodeForgeBytecode
  split
  · rw [requiredField_reject (deserializeBytecode_reject h)]
    rfl
  · rw [deserializeBytecode_reject h]
    rfl
  · rfl

theorem decodeForge_reject (h : form ≠ .borrowed) (v : Json) : decodeForge form v = reject := by
  unfold decodeForge
  split
  · rw [requiredField_reject (decodeForgeBytecode_reject h)]
    exact requiredAbi_bind_reject _
  · rw [decodeForgeBytecode_reject h]
    exact decodeAbi_bind_reject _
  · rfl

/-- Neither format reads its bytecode from a buffered string that was not borrowed. -/
theorem contract_rejected (h : form ≠ .borrowed) (v : Json) : decodeContract form v = reject := by
  have hb : form.buffered ≠ .borrowed := by
    cases form <;> simp [StrForm.buffered] at h ⊢
  rw [decodeContract, decodeHardhat_reject hb, decodeForge_reject hb]
  rfl

end Reader

end Contracts
end RuntimeTemplates
