import RuntimeTemplates.Lib.Serde

/-!
# RuntimeTemplates.Contracts.Abi

`contracts/abi.rs`: the entries of a contract's ABI and their deserialization. An entry is an
internally tagged enum, so its `type` selects the variant and the rest of the object is the
variant's content. A struct may also be written as an array of its fields.
-/

namespace RuntimeTemplates
namespace Contracts

open Serde

inductive StateMutability where
  | pure
  | view
  | nonpayable
  | payable
  deriving DecidableEq

inductive Input where
  | mk (name : String) (type : String) (components : Option (List Input)) (indexed : Option Bool)

structure AbiError where
  name : String
  inputs : List Input

structure Receive where
  stateMutability : StateMutability

structure AbiEvent where
  name : String
  inputs : List Input
  anonymous : Bool

structure Function where
  name : String
  inputs : List Input
  outputs : List Input
  stateMutability : StateMutability

inductive AbiItem where
  | error (e : AbiError)
  | function (f : Function)
  | constructor
  | event (e : AbiEvent)
  | receive (r : Receive)
  | default (f : Function)

def decodeStateMutability : Json → Decode Empty StateMutability
  | .str "pure" => .ok .pure
  | .str "view" => .ok .view
  | .str "nonpayable" => .ok .nonpayable
  | .str "payable" => .ok .payable
  | _ => reject

def decodeOptionBool : Json → Decode Empty (Option Bool)
  | .null => .ok none
  | v => some <$> decodeBool v

mutual

/-- The components of an input nest: `components: Option<Vec<Input>>`. -/
def decodeInput : Json → Decode Empty Input
  | .obj entries => do
    let name ← requiredField "name" decodeString entries
    let type ← requiredField "type" decodeString entries
    let components ← decodeComponentsOf entries
    let indexed ← optionalField "indexed" decodeBool entries
    match components with
    | [] => return .mk name type none indexed
    | [components] => return .mk name type components indexed
    | _ => reject
  | .arr [name, type, components, indexed] => do
    let name ← decodeString name
    let type ← decodeString type
    let components ← decodeComponents components
    let indexed ← decodeOptionBool indexed
    return .mk name type components indexed
  | _ => reject

/-- What an input has under `components`, each occurrence decoded. -/
def decodeComponentsOf : List (String × Json) → Decode Empty (List (Option (List Input)))
  | [] => .ok []
  | (key, v) :: entries => do
    if key = "components" then
      let c ← decodeComponents v
      let cs ← decodeComponentsOf entries
      return c :: cs
    else
      decodeComponentsOf entries

def decodeComponents : Json → Decode Empty (Option (List Input))
  | .null => .ok none
  | .arr items => some <$> decodeInputs items
  | _ => reject

def decodeInputs : List Json → Decode Empty (List Input)
  | [] => .ok []
  | item :: items => do
    let input ← decodeInput item
    let inputs ← decodeInputs items
    return input :: inputs

end

def decodeError : Json → Decode Empty AbiError
  | .obj entries => do
    let name ← requiredField "name" decodeString entries
    let inputs ← requiredField "inputs" (decodeVec decodeInput) entries
    return { name, inputs }
  | .arr [name, inputs] => do
    let name ← decodeString name
    let inputs ← decodeVec decodeInput inputs
    return { name, inputs }
  | _ => reject

def decodeReceive : Json → Decode Empty Receive
  | .obj entries => do
    let stateMutability ← requiredField "stateMutability" decodeStateMutability entries
    return { stateMutability }
  | .arr [stateMutability] => do
    let stateMutability ← decodeStateMutability stateMutability
    return { stateMutability }
  | _ => reject

def decodeEvent : Json → Decode Empty AbiEvent
  | .obj entries => do
    let name ← requiredField "name" decodeString entries
    let inputs ← requiredField "inputs" (decodeVec decodeInput) entries
    let anonymous ← requiredField "anonymous" decodeBool entries
    return { name, inputs, anonymous }
  | .arr [name, inputs, anonymous] => do
    let name ← decodeString name
    let inputs ← decodeVec decodeInput inputs
    let anonymous ← decodeBool anonymous
    return { name, inputs, anonymous }
  | _ => reject

def decodeFunction : Json → Decode Empty Function
  | .obj entries => do
    let name ← requiredField "name" decodeString entries
    let inputs ← requiredField "inputs" (decodeVec decodeInput) entries
    let outputs ← requiredField "outputs" (decodeVec decodeInput) entries
    let stateMutability ← requiredField "stateMutability" decodeStateMutability entries
    return { name, inputs, outputs, stateMutability }
  | .arr [name, inputs, outputs, stateMutability] => do
    let name ← decodeString name
    let inputs ← decodeVec decodeInput inputs
    let outputs ← decodeVec decodeInput outputs
    let stateMutability ← decodeStateMutability stateMutability
    return { name, inputs, outputs, stateMutability }
  | _ => reject

/-- `rename_all = "lowercase"`. A unit variant ignores its content. -/
def decodeVariant (type : String) (content : Json) : Decode Empty AbiItem :=
  match type with
  | "error" => .error <$> decodeError content
  | "function" => .function <$> decodeFunction content
  | "constructor" => .ok .constructor
  | "event" => .event <$> decodeEvent content
  | "receive" => .receive <$> decodeReceive content
  | "default" => .default <$> decodeFunction content
  | _ => reject

def decodeAbiItem : Json → Decode Empty AbiItem
  | .obj entries => do
    let type ← requiredField "type" decodeString entries
    decodeVariant type (.obj (entries.filter fun e => e.1 ≠ "type"))
  | .arr (type :: content) => do
    let type ← decodeString type
    decodeVariant type (.arr content)
  | _ => reject

end Contracts
end RuntimeTemplates
