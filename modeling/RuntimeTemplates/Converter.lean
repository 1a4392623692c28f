import RuntimeTemplates.Lib.Scale

/-!
# RuntimeTemplates.Converter

The two `TransactionConverter`s of the EVM template. Both wrap an Ethereum transaction in a call of
the runtime and this in a bare extrinsic; one hands out the extrinsic, the other the opaque one that
it reads from the bytes of the extrinsic, with a panic where they are none.

* `convertTransaction`, `convertTransactionToOpaque`: the converters.
* `encode_eq_encodeBytes`: a bare extrinsic is written as the byte string that its body is.
* `conversions_agree`: the opaque converter never panics, and both extrinsics have the same bytes.
-/

namespace RuntimeTemplates
namespace Evm

open Scale

inductive EthereumCall (Transaction : Type) where
  | transact (transaction : Transaction)

/-- `Preamble::Bare` with the version of the format, and a call. -/
structure UncheckedExtrinsic (RuntimeCall : Type) where
  bare : UInt8
  function : RuntimeCall

/-- An extrinsic of which only the bytes are known. -/
abbrev OpaqueExtrinsic := ByteVec

/-- What the runtime fixes of its extrinsics: the version of their format, where the calls of
`Ethereum` are among its calls, and how a call is written. -/
structure ExtrinsicFormat (Transaction RuntimeCall : Type) where
  version : UInt8
  ethereum : EthereumCall Transaction → RuntimeCall
  encodeCall : RuntimeCall → List UInt8

variable {Transaction RuntimeCall : Type} (f : ExtrinsicFormat Transaction RuntimeCall)

namespace UncheckedExtrinsic

def newBare (function : RuntimeCall) : UncheckedExtrinsic RuntimeCall := ⟨f.version, function⟩

def body (x : UncheckedExtrinsic RuntimeCall) : List UInt8 := x.bare :: f.encodeCall x.function

/-- The length, cut to 32 bits, and the body. -/
def encode (x : UncheckedExtrinsic RuntimeCall) : List UInt8 :=
  encodeCompact (.ofNat (x.body f).length) ++ x.body f

end UncheckedExtrinsic

def convertTransaction (transaction : Transaction) : UncheckedExtrinsic RuntimeCall :=
  .newBare f (f.ethereum (.transact transaction))

def convertTransactionToOpaque (transaction : Transaction) : Except String OpaqueExtrinsic :=
  let extrinsic : UncheckedExtrinsic RuntimeCall :=
    .newBare f (f.ethereum (.transact transaction))
  let encoded := extrinsic.encode f
  -- what the decoder leaves of the slice is dropped
  match decodeBytes encoded with
  | some (extrinsic, _) => .ok extrinsic
  | none => .error "Encoded extrinsic is always valid"

/-- A length of 32 bits is not cut. -/
theorem encode_eq_encodeBytes (x : UncheckedExtrinsic RuntimeCall)
    (h : (x.body f).length < UInt32.size) : x.encode f = encodeBytes ⟨x.body f, h⟩ := rfl

theorem conversions_agree (transaction : Transaction)
    (h : ((convertTransaction f transaction).body f).length < UInt32.size) :
    ∃ extrinsic, convertTransactionToOpaque f transaction = .ok extrinsic ∧
      encodeBytes extrinsic = (convertTransaction f transaction).encode f := by
  have hencoded : (convertTransaction f transaction).encode f =
      encodeBytes ⟨(convertTransaction f transaction).body f, h⟩ :=
    encode_eq_encodeBytes f (convertTransaction f transaction) h
  have hdecode : decodeBytes ((convertTransaction f transaction).encode f) =
      some (⟨(convertTransaction f transaction).body f, h⟩, []) := by
    rw [hencoded, ← List.append_nil (encodeBytes _)]
    exact decodeBytes_encodeBytes _ []
  have hconvert : convertTransactionToOpaque f transaction =
      match decodeBytes ((convertTransaction f transaction).encode f) with
      | some (extrinsic, _) => .ok extrinsic
      | none => .error "Encoded extrinsic is always valid" := rfl
  refine ⟨⟨(convertTransaction f transaction).body f, h⟩, ?_, hencoded.symm⟩
  rw [hconvert, hdecode]

/-- Transactions by their bytes, as the call `transact` of a pallet with an index of 9. -/
def sampleFormat : ExtrinsicFormat (List UInt8) (EthereumCall (List UInt8)) where
  version := 5
  ethereum call := call
  encodeCall
    | .transact transaction => 9 :: 0 :: transaction

/-- A body of 103 bytes, whose length has the form of two. -/
theorem sample_conversions_agree :
    ∃ extrinsic, convertTransactionToOpaque sampleFormat (List.replicate 100 7) = .ok extrinsic ∧
      encodeBytes extrinsic =
        (convertTransaction sampleFormat (List.replicate 100 7)).encode sampleFormat :=
  conversions_agree sampleFormat (List.replicate 100 7) (by decide)

end Evm
end RuntimeTemplates
