import Mathlib.Logic.Function.Basic
import RuntimeTemplates.Contracts.Artifact

/-!
# RuntimeTemplates.Contracts.Parse

`parse_contracts`: the contracts that the node puts into the genesis, from a directory with a list
`contracts.json` and one artifact for each entry. An entry whose file cannot be opened or decoded
is skipped; a repeated address keeps the last entry that was not.

* `Directory`: a directory whose list and artifacts are all well formed.
* `LoadsExactly`: what loading it should give.
* `loadContracts_borrowed`, `parse_loads_exactly_iff`: the loop loads a directory exactly if it is
  handed borrowed strings; it reads its files through a reader, and loads nothing.
-/

namespace RuntimeTemplates
namespace Contracts

open Serde Xcm

structure ContractMetadata where
  address : H160
  filename : String
  deriving DecidableEq

/-- A text form of an `H160`: 40 hex digits, with or without the marker. -/
def parseH160 (s : String) : Option H160 :=
  let digits := match s.toList with
    | '0' :: 'x' :: digits => digits
    | digits => digits
  match hexDecode digits with
  | some bytes =>
    if bytes.length = 20 then
      some (bytes.foldl (fun acc b => acc <<< 8 ||| b.toBitVec.setWidth 160) 0)
    else none
  | none => none

def decodeH160 (v : Json) : Decode Empty H160 := do
  let s ← decodeString v
  match parseH160 s with
  | some address => .ok address
  | none => reject

def decodeContractMetadata : Json → Decode Empty ContractMetadata
  | .obj entries => do
    let address ← requiredField "address" decodeH160 entries
    let filename ← requiredField "filename" decodeString entries
    return { address, filename }
  | .arr [address, filename] => do
    let address ← decodeH160 address
    let filename ← decodeString filename
    return { address, filename }
  | _ => reject

inductive ContractParsingError where
  | metadataReadError
  | metadataParseError
  deriving DecidableEq

inductive ContractsPath where
  | none
  | default
  | some (path : String)
  deriving DecidableEq

abbrev ContractMap := H160 → Option Contract

/-- A file that was opened: its content as JSON, if it is that. The limit of `serde_json`'s text
reader, 128 levels of nesting, lies outside the model. -/
abbrev File := Option Json

/-- `path.join(file)`: an absolute file name replaces the path. -/
def join (path file : String) : String :=
  if file.toList.head? = some '/' ∨ path.toList = [] then file
  else if path.toList.getLast? = some '/' then path ++ file
  else path ++ "/" ++ file

def fromReader {π α : Type} (decode : Json → Decode π α) : File → Decode π α
  | .some v => decode v
  | .none => reject

def entrypointAddress : H160 := 0x81ead4918134AE386dbd04346216E20AB8F822C4

section Parse

variable (openFile : String → Option File)

/-- One pass of the loop. `form` is how the strings of the artifact are handed over. -/
def loadContract (form : StrForm) (path : String) (res : ContractMap) (m : ContractMetadata) :
    Except Panic ContractMap :=
  match openFile (join path m.filename) with
  | .none => .ok res
  | .some file =>
    match fromReader (decodeContract form) file with
    | .ok contract => .ok (Function.update res m.address (some contract))
    | .error .error => .ok res
    | .error (.panic p) => .error p

def loadContracts (form : StrForm) (path : String) :
    List ContractMetadata → ContractMap → Except Panic ContractMap
  | [], res => .ok res
  | m :: metadatas, res => do
    let res ← loadContract openFile form path res m
    loadContracts form path metadatas res

def parseContracts (entrypointContract : Contract) :
    ContractsPath → Except Panic (Except ContractParsingError ContractMap)
  | .none => .ok (.ok fun _ => none)
  | .default => .ok (.ok (Function.update (fun _ => none) entrypointAddress entrypointContract))
  | .some path =>
    match openFile (join path "contracts.json") with
    | .none => .ok (.error .metadataReadError)
    | .some file =>
      match fromReader (decodeVec decodeContractMetadata) file with
      | .error _ => .ok (.error .metadataParseError)
      | .ok metadatas => do
        let res ← loadContracts openFile .transient path metadatas fun _ => none
        return .ok res

end Parse

/-! ## Directories -/

/-- The last entry that lists the address. -/
def lastEntry (metadatas : List ContractMetadata) (a : H160) : Option ContractMetadata :=
  metadatas.reverse.find? fun m => m.address = a

theorem lastEntry_cons (m : ContractMetadata) (ms : List ContractMetadata) (a : H160) :
    lastEntry (m :: ms) a = (lastEntry ms a).or (if m.address = a then some m else none) := by
  simp only [lastEntry, List.reverse_cons, List.find?_append, List.find?_cons, List.find?_nil]
  by_cases h : m.address = a <;> simp [h]

/-- A directory that lists `metadatas`, where every file named is an artifact with its `code`. -/
structure Directory (openFile : String → Option File) (path : String)
    (metadatas : List ContractMetadata) (code : String → List UInt8) : Prop where
  listed : ∃ v, openFile (join path "contracts.json") = some (some v) ∧
    decodeVec decodeContractMetadata v = .ok metadatas
  artifacts : ∀ m ∈ metadatas, ∃ v, openFile (join path m.filename) = some (some v) ∧
    Artifact (code m.filename) v

/-- The map has exactly the listed addresses, each with the bytecode of its last entry. -/
def MapsExactly (metadatas : List ContractMetadata) (code : String → List UInt8)
    (res : ContractMap) : Prop :=
  ∀ a, (res a).map Contract.bytecode = (lastEntry metadatas a).map fun m => code m.filename

def LoadsExactly (metadatas : List ContractMetadata) (code : String → List UInt8)
    (r : Except Panic (Except ContractParsingError ContractMap)) : Prop :=
  ∃ res, r = .ok (.ok res) ∧ MapsExactly metadatas code res

section Loop

variable {openFile : String → Option File} {path : String} {code : String → List UInt8}

/-- From borrowed strings, the loop adds the listed contracts to what it started with. -/
theorem loadContracts_borrowed {ms : List ContractMetadata}
    (h : ∀ m ∈ ms, ∃ v, openFile (join path m.filename) = some (some v) ∧
      Artifact (code m.filename) v) (res₀ : ContractMap) :
    ∃ res, loadContracts openFile .borrowed path ms res₀ = .ok res ∧
      ∀ a, (res a).map Contract.bytecode =
        ((lastEntry ms a).map fun m => code m.filename).or ((res₀ a).map Contract.bytecode) := by
  induction ms generalizing res₀ with
  | nil => exact ⟨res₀, rfl, fun a => rfl⟩
  | cons m ms ih =>
    obtain ⟨v, hv, hart⟩ := h m (by simp)
    obtain ⟨c, hc, hcode⟩ := artifact_decodes hart
    have hstep : loadContract openFile .borrowed path res₀ m =
        .ok (Function.update res₀ m.address (some c)) := by
      simp only [loadContract, hv, fromReader, hc]
    obtain ⟨res, hres, hmap⟩ := ih (fun m' hm' => h m' (by simp [hm']))
      (Function.update res₀ m.address (some c))
    refine ⟨res, ?_, fun a => ?_⟩
    · rw [loadContracts, hstep]
      exact hres
    · rw [hmap a, lastEntry_cons]
      by_cases ha : m.address = a
      · subst ha
        cases lastEntry ms m.address <;> simp [hcode]
      · rw [Function.update_of_ne (Ne.symm ha), if_neg ha, Option.or_none]

/-- Through a reader, the loop skips every entry. -/
theorem loadContracts_reader (ms : List ContractMetadata) (res : ContractMap) :
    loadContracts openFile .transient path ms res = .ok res := by
  induction ms with
  | nil => rfl
  | cons m ms ih =>
    have hstep : loadContract openFile .transient path res m = .ok res := by
      unfold loadContract
      split
      · rfl
      · rename_i file _
        have hrej : fromReader (decodeContract .transient) file = reject := by
          cases file with
          | none => rfl
          | some v => exact contract_rejected (by decide) v
        rw [hrej]
        rfl
    rw [loadContracts, hstep]
    exact ih

end Loop

/-- A directory with a valid list gives the empty map, whatever is in its files. -/
theorem parseContracts_empty {openFile : String → Option File} {path : String} {v : Json}
    {ms : List ContractMetadata} (c : Contract)
    (hopen : openFile (join path "contracts.json") = some (some v))
    (hlist : decodeVec decodeContractMetadata v = .ok ms) :
    parseContracts openFile c (.some path) = .ok (.ok fun _ => none) := by
  simp only [parseContracts, hopen, fromReader, hlist, loadContracts_reader]
  rfl

/-- No directory panics, and none has a contract: the list is refused, or every entry skipped. -/
theorem parseContracts_ok (openFile : String → Option File) (c : Contract) (path : ContractsPath) :
    ∃ r, parseContracts openFile c path = .ok r ∧ ∀ a, (r.toOption.getD fun _ => none) a =
      if path = .default ∧ a = entrypointAddress then some c else none := by
  cases path with
  | none => exact ⟨_, rfl, fun a => by simp [Except.toOption]⟩
  | default => exact ⟨_, rfl, fun a => by simp [Except.toOption, Function.update_apply]⟩
  | some path =>
    have hnone : ∀ a, (none : Option Contract) =
        if ContractsPath.some path = .default ∧ a = entrypointAddress then some c else none := by
      simp
    cases hopen : openFile (join path "contracts.json") with
    | none => exact ⟨.error .metadataReadError, by simp only [parseContracts, hopen], hnone⟩
    | some file =>
      cases hlist : fromReader (decodeVec decodeContractMetadata) file with
      | error e =>
        exact ⟨.error .metadataParseError, by simp only [parseContracts, hopen, hlist], hnone⟩
      | ok metadatas =>
        refine ⟨.ok fun _ => none, ?_, hnone⟩
        simp only [parseContracts, hopen, hlist, loadContracts_reader]
        rfl

/-- A well-formed directory is loaded exactly if and only if its list is empty. -/
theorem parse_loads_exactly_iff (openFile : String → Option File) (c : Contract) (path : String)
    (metadatas : List ContractMetadata) (code : String → List UInt8)
    (h : Directory openFile path metadatas code) :
    LoadsExactly metadatas code (parseContracts openFile c (.some path)) ↔ metadatas = [] := by
  obtain ⟨v, hopen, hlist⟩ := h.listed
  rw [parseContracts_empty c hopen hlist]
  constructor
  · rintro ⟨res, hres, hmap⟩
    cases metadatas with
    | nil => rfl
    | cons m ms =>
      -- the first listed address has an entry, and the map has none
      obtain rfl : (fun _ => none) = res := by simpa using hres
      have hm := hmap m.address
      rw [lastEntry_cons, if_pos rfl] at hm
      cases hl : lastEntry ms m.address <;> simp [hl] at hm
  · rintro rfl
    exact ⟨fun _ => none, rfl, fun a => rfl⟩

/-- A directory with one Hardhat artifact, for the address the shipped list names. -/
def sampleFiles (path : String) : Option File :=
  if path = "contracts/contracts.json" then
    some (some (.arr [.obj [("address", .str "0x81ead4918134AE386dbd04346216E20AB8F822C4"),
      ("filename", .str "EntryPoint.json")]]))
  else if path = "contracts/EntryPoint.json" then
    some (some (.obj [("contractName", .str "EntryPoint"), ("abi", .arr []),
      ("bytecode", .str "0x60Fd")]))
  else none

theorem sampleFiles_directory :
    Directory sampleFiles "contracts" [⟨entrypointAddress, "EntryPoint.json"⟩]
      fun _ => [0x60, 0xfd] := by
  refine ⟨⟨_, rfl, by decide⟩, fun m hm => ?_⟩
  obtain rfl := List.mem_singleton.mp hm
  exact ⟨_, rfl, .hardhat _ (.arr []) [] "0x60Fd" rfl rfl rfl ⟨['6', '0', 'F', 'd'], by decide⟩⟩

theorem parse_loads_samples :
    LoadsExactly [] (fun _ => [])
        (parseContracts (fun _ => some (some (.arr []))) (.hardhat ⟨[], []⟩) (.some "contracts")) ∧
      ¬ LoadsExactly [⟨entrypointAddress, "EntryPoint.json"⟩] (fun _ => [0x60, 0xfd])
        (parseContracts sampleFiles (.hardhat ⟨[], []⟩) (.some "contracts")) := by
  constructor
  · exact (parse_loads_exactly_iff (fun _ => some (some (.arr []))) (.hardhat ⟨[], []⟩) "contracts"
      [] (fun _ => []) ⟨⟨.arr [], rfl, rfl⟩, fun _ h => nomatch h⟩).mpr rfl
  · rw [parse_loads_exactly_iff sampleFiles (.hardhat ⟨[], []⟩) "contracts" _ _
      sampleFiles_directory]
    exact List.cons_ne_nil _ _

theorem artifact_skipped :
    Directory sampleFiles "contracts" [⟨entrypointAddress, "EntryPoint.json"⟩]
        (fun _ => [0x60, 0xfd]) ∧
      ¬ LoadsExactly [⟨entrypointAddress, "EntryPoint.json"⟩] (fun _ => [0x60, 0xfd])
        (parseContracts sampleFiles (.hardhat ⟨[], []⟩) (.some "contracts")) := by
  refine ⟨sampleFiles_directory, ?_⟩
  obtain ⟨v, hopen, hlist⟩ := sampleFiles_directory.listed
  rw [parseContracts_empty _ hopen hlist]
  rintro ⟨res, hres, hmap⟩
  obtain rfl : (fun _ => none) = res := by simpa using hres
  exact absurd (hmap entrypointAddress) (by decide)

end Contracts
end RuntimeTemplates
