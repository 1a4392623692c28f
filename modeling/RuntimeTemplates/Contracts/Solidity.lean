import RuntimeTemplates.Contracts.Parse

/-!
# RuntimeTemplates.Contracts.Solidity

The ABI a Solidity compiler emits, and which of it `abi.rs` reads.

* `IsParam`: an input or output; the components of a tuple nest to any depth. `IsEntry kind`: an
  entry of one of the six kinds. Further fields, such as `internalType`, are free.
* `accepts_entry_iff`: every entry is read except a `fallback` one. The variant meant for it is
  named `Default`, so it goes by the tag `default`, which no compiler emits.
* `standard_abi_decodes_iff`: an artifact decodes exactly if its ABI has no `fallback` entry. It is
  about JSON values: that a text reader stops at 128 levels of nesting lies outside the model.
* `fallback_contract_skipped`: `parse_contracts` leaves out a contract with such an entry.
-/

namespace RuntimeTemplates
namespace Contracts

open Serde

/-! ## The ABI of a compiler -/

/-- A field that may be absent, and is a boolean where it is not. -/
def HasOptionalBool (entries : List (String × Json)) (key : String) : Prop :=
  valuesOf key entries = [] ∨ ∃ b, HasField entries key (.bool b)

inductive IsParam : Json → Prop where
  | elementary (entries : List (String × Json)) (name type : String) :
      HasField entries "name" (.str name) → HasField entries "type" (.str type) →
      valuesOf "components" entries = [] → HasOptionalBool entries "indexed" →
      IsParam (.obj entries)
  | tuple (entries : List (String × Json)) (name type : String) (components : List Json) :
      HasField entries "name" (.str name) → HasField entries "type" (.str type) →
      HasField entries "components" (.arr components) → (∀ c ∈ components, IsParam c) →
      HasOptionalBool entries "indexed" →
      IsParam (.obj entries)

/-- `key` holds a list of inputs or outputs. -/
def HasParams (entries : List (String × Json)) (key : String) : Prop :=
  ∃ params, HasField entries key (.arr params) ∧ ∀ p ∈ params, IsParam p

def HasMutability (entries : List (String × Json)) : Prop :=
  ∃ m ∈ ["pure", "view", "nonpayable", "payable"], HasField entries "stateMutability" (.str m)

def HasName (entries : List (String × Json)) : Prop := ∃ name, HasField entries "name" (.str name)

inductive EntryKind where
  | function
  | constructor
  | receive
  | fallback
  | event
  | error
  deriving DecidableEq

def EntryKind.tag : EntryKind → String
  | .function => "function"
  | .constructor => "constructor"
  | .receive => "receive"
  | .fallback => "fallback"
  | .event => "event"
  | .error => "error"

/-- What an entry of the kind holds besides its tag. -/
def EntryKind.HasContent (entries : List (String × Json)) : EntryKind → Prop
  | .function =>
    HasName entries ∧ HasParams entries "inputs" ∧ HasParams entries "outputs" ∧
      HasMutability entries
  | .constructor => HasParams entries "inputs" ∧ HasMutability entries
  | .receive => HasMutability entries
  | .fallback => HasMutability entries
  | .event =>
    HasName entries ∧ HasParams entries "inputs" ∧ ∃ b, HasField entries "anonymous" (.bool b)
  | .error => HasName entries ∧ HasParams entries "inputs"

inductive IsEntry (kind : EntryKind) : Json → Prop where
  | mk (entries : List (String × Json)) :
      HasField entries "type" (.str kind.tag) → kind.HasContent entries →
      IsEntry kind (.obj entries)

def IsAbi (items : List Json) : Prop := ∀ item ∈ items, ∃ kind, IsEntry kind item

/-! ## Inputs -/

theorem decodeComponentsOf_eq (entries : List (String × Json)) :
    decodeComponentsOf entries = decodeList decodeComponents (valuesOf "components" entries) := by
  induction entries with
  | nil => rw [decodeComponentsOf]; rfl
  | cons e entries ih =>
    obtain ⟨key, v⟩ := e
    rw [decodeComponentsOf]
    by_cases h : key = "components"
    · have hv : valuesOf "components" ((key, v) :: entries) =
          v :: valuesOf "components" entries := by simp [valuesOf, h]
      rw [if_pos h, hv, decodeList, ih]
    · have hv : valuesOf "components" ((key, v) :: entries) = valuesOf "components" entries := by
        simp [valuesOf, h]
      rw [if_neg h, hv, ih]

theorem decodeInputs_eq (items : List Json) : decodeInputs items = decodeList decodeInput items := by
  induction items with
  | nil => rw [decodeInputs, decodeList]
  | cons item items ih => rw [decodeInputs, decodeList, ih]

theorem optionalBool_ok {entries : List (String × Json)} {key : String}
    (h : HasOptionalBool entries key) :
    ∃ b, optionalField key (decodeBool : Json → Decode Empty Bool) entries = .ok b := by
  rcases h with h | ⟨b, h⟩
  · exact ⟨none, by rw [optionalField, h]⟩
  · exact ⟨some b, by rw [optionalField, h]; rfl⟩

theorem accepts_param {v : Json} (h : IsParam v) : Accepts decodeInput v := by
  induction h with
  | elementary entries name type hname htype hcomp hindexed =>
    obtain ⟨indexed, hi⟩ := optionalBool_ok hindexed
    refine ⟨.mk name type none indexed, ?_⟩
    rw [decodeInput, requiredField_single hname, requiredField_single htype,
      decodeComponentsOf_eq, hcomp, hi]
    rfl
  | tuple entries name type components hname htype hcomp _ hindexed ih =>
    obtain ⟨indexed, hi⟩ := optionalBool_ok hindexed
    obtain ⟨inputs, hin⟩ := (decodeList_isOk_iff decodeInput components).mpr ih
    have hc : decodeComponents (.arr components) = .ok (some inputs) := by
      rw [decodeComponents, decodeInputs_eq, hin]
      rfl
    refine ⟨.mk name type (some inputs) indexed, ?_⟩
    rw [decodeInput, requiredField_single hname, requiredField_single htype,
      decodeComponentsOf_eq, hcomp, hi, decodeList, hc]
    rfl

theorem params_ok {entries : List (String × Json)} {key : String} (h : HasParams entries key) :
    ∃ inputs, requiredField key (decodeVec decodeInput) entries = .ok inputs := by
  obtain ⟨params, hkey, hparams⟩ := h
  rw [requiredField_single hkey]
  exact (accepts_decodeVec_iff decodeInput params).mpr fun p hp => accepts_param (hparams p hp)

theorem mutability_ok {entries : List (String × Json)} (h : HasMutability entries) :
    ∃ m, requiredField "stateMutability" decodeStateMutability entries = .ok m := by
  obtain ⟨m, hm, hkey⟩ := h
  rw [requiredField_single hkey]
  simp only [List.mem_cons, List.not_mem_nil, or_false] at hm
  rcases hm with rfl | rfl | rfl | rfl
  · exact ⟨.pure, rfl⟩
  · exact ⟨.view, rfl⟩
  · exact ⟨.nonpayable, rfl⟩
  · exact ⟨.payable, rfl⟩

/-! ## Entries -/

/-- The content of the variant: the entry without its tag. -/
def content (entries : List (String × Json)) : List (String × Json) :=
  entries.filter fun e => e.1 ≠ "type"

theorem HasField.content {entries : List (String × Json)} {key : String} {v : Json}
    (h : HasField entries key v) (hkey : key ≠ "type") : HasField (content entries) key v :=
  (valuesOf_filter_ne hkey entries).trans h

theorem EntryKind.HasContent.content {kind : EntryKind} {entries : List (String × Json)}
    (h : kind.HasContent entries) : kind.HasContent (content entries) := by
  have hparams : ∀ key, key ≠ "type" → HasParams entries key →
      HasParams (Contracts.content entries) key := by
    rintro key hkey ⟨params, hf, hp⟩
    exact ⟨params, hf.content hkey, hp⟩
  have hname : HasName entries → HasName (Contracts.content entries) := by
    rintro ⟨name, hf⟩
    exact ⟨name, hf.content (by decide)⟩
  have hmut : HasMutability entries → HasMutability (Contracts.content entries) := by
    rintro ⟨m, hm, hf⟩
    exact ⟨m, hm, hf.content (by decide)⟩
  cases kind with
  | function =>
    obtain ⟨h1, h2, h3, h4⟩ := h
    exact ⟨hname h1, hparams _ (by decide) h2, hparams _ (by decide) h3, hmut h4⟩
  | constructor => exact ⟨hparams _ (by decide) h.1, hmut h.2⟩
  | receive => exact hmut h
  | fallback => exact hmut h
  | event =>
    obtain ⟨h1, h2, b, hb⟩ := h
    exact ⟨hname h1, hparams _ (by decide) h2, b, hb.content (by decide)⟩
  | error => exact ⟨hname h.1, hparams _ (by decide) h.2⟩

theorem accepts_content {kind : EntryKind} {entries : List (String × Json)}
    (h : kind.HasContent entries) (hkind : kind ≠ .fallback) :
    ∃ item, decodeVariant kind.tag (.obj entries) = .ok item := by
  cases kind with
  | function =>
    obtain ⟨⟨name, hname⟩, hinputs, houtputs, hmut⟩ := h
    obtain ⟨inputs, hi⟩ := params_ok hinputs
    obtain ⟨outputs, ho⟩ := params_ok houtputs
    obtain ⟨m, hm⟩ := mutability_ok hmut
    refine ⟨.function ⟨name, inputs, outputs, m⟩, ?_⟩
    rw [EntryKind.tag, decodeVariant, decodeFunction, requiredField_single hname, hi, ho, hm]
    rfl
  | constructor => exact ⟨.constructor, rfl⟩
  | receive =>
    obtain ⟨m, hm⟩ := mutability_ok h
    refine ⟨.receive ⟨m⟩, ?_⟩
    rw [EntryKind.tag, decodeVariant, decodeReceive, hm]
    rfl
  | fallback => exact absurd rfl hkind
  | event =>
    obtain ⟨⟨name, hname⟩, hinputs, anonymous, ha⟩ := h
    obtain ⟨inputs, hi⟩ := params_ok hinputs
    refine ⟨.event ⟨name, inputs, anonymous⟩, ?_⟩
    rw [EntryKind.tag, decodeVariant, decodeEvent, requiredField_single hname, hi,
      requiredField_single ha]
    rfl
  | error =>
    obtain ⟨⟨name, hname⟩, hinputs⟩ := h
    obtain ⟨inputs, hi⟩ := params_ok hinputs
    refine ⟨.error ⟨name, inputs⟩, ?_⟩
    rw [EntryKind.tag, decodeVariant, decodeError, requiredField_single hname, hi]
    rfl

theorem decodeAbiItem_eq {kind : EntryKind} {entries : List (String × Json)}
    (h : HasField entries "type" (.str kind.tag)) :
    decodeAbiItem (.obj entries) = decodeVariant kind.tag (.obj (content entries)) := by
  rw [decodeAbiItem, requiredField_single h]
  rfl

/-- Every entry of a compiler is read, unless it is a `fallback` entry. -/
theorem accepts_entry_iff {kind : EntryKind} {v : Json} (h : IsEntry kind v) :
    Accepts decodeAbiItem v ↔ kind ≠ .fallback := by
  cases h with
  | mk entries htype hcontent =>
    rw [Accepts, decodeAbiItem_eq htype]
    constructor
    · rintro ⟨item, hitem⟩ rfl
      -- no variant has this tag
      cases hitem
    · exact accepts_content hcontent.content

/-- The tag determines the kind of an entry. -/
theorem IsEntry.kind_unique {k k' : EntryKind} {v : Json} (h : IsEntry k v) (h' : IsEntry k' v) :
    k = k' := by
  cases h with
  | mk entries ht _ =>
    cases h' with
    | mk _ ht' _ =>
      have htags : k.tag = k'.tag := by
        have := ht.symm.trans ht'
        simpa using this
      cases k <;> cases k' <;> first | rfl | exact absurd htags (by decide)

theorem accepts_abi_iff {items : List Json} (h : IsAbi items) :
    Accepts (decodeVec decodeAbiItem) (.arr items) ↔ ∀ item ∈ items, ¬ IsEntry .fallback item := by
  rw [accepts_decodeVec_iff]
  refine forall₂_congr fun item hitem => ?_
  obtain ⟨kind, hkind⟩ := h item hitem
  rw [accepts_entry_iff hkind]
  constructor
  · rintro hne hfallback
    exact hne (hkind.kind_unique hfallback)
  · rintro hnot rfl
    exact hnot hkind

/-! ## Artifacts -/

/-- A bytecode field that `deserialize_bytecode` accepts, and the artifact it is read into: a string
is one of Hardhat, an object with `object` one of Forge. -/
inductive BytecodeField (form : StrForm) (code : List UInt8) :
    Json → (List AbiItem → Contract) → Prop where
  | hardhat (s : String) : deserializeBytecode form (.str s) = .ok code →
      BytecodeField form code (.str s) fun abi => .hardhat ⟨abi, code⟩
  | forge (bytecode : List (String × Json)) (s : String) :
      HasField bytecode "object" (.str s) → deserializeBytecode form (.str s) = .ok code →
      BytecodeField form code (.obj bytecode) fun abi => .forge ⟨abi, ⟨code⟩⟩

section Artifact

variable {form : StrForm} {code : List UInt8} {entries : List (String × Json)} {v abi : Json}
  {mk : List AbiItem → Contract}

theorem decodeContract_ok (hcode : HasField entries "bytecode" v)
    (hv : BytecodeField form.buffered code v mk) (habi : HasField entries "abi" abi)
    {items : List AbiItem} (hitems : decodeAbi abi = .ok items) :
    decodeContract form (.obj entries) = .ok (mk items) := by
  cases hv with
  | hardhat s hs =>
    have hh : decodeHardhat form.buffered (.obj entries) = .ok ⟨items, code⟩ := by
      rw [decodeHardhat, requiredField_single habi, requiredField_single hcode, hitems, hs]
      rfl
    rw [decodeContract, hh]
    rfl
  | forge bytecode s hobj hs =>
    -- Hardhat asks for a string, so the untagged enum goes on to Forge
    have hh : decodeHardhat form.buffered (.obj entries) = reject := by
      rw [decodeHardhat, requiredField_single habi, requiredField_single hcode, hitems]
      rfl
    have hf : decodeForge form.buffered (.obj entries) = .ok ⟨items, ⟨code⟩⟩ := by
      rw [decodeForge, requiredField_single habi, requiredField_single hcode, hitems,
        decodeForgeBytecode, requiredField_single hobj, hs]
      rfl
    rw [decodeContract, hh, hf]
    rfl

theorem decodeContract_reject (habi : HasField entries "abi" abi) (h : decodeAbi abi = reject) :
    decodeContract form (.obj entries) = reject := by
  rw [decodeContract, decodeHardhat, decodeForge, requiredField_single habi, h]
  rfl

end Artifact

theorem decodeAbi_fallback {items : List Json} (h : IsAbi items)
    (hf : ¬ ∀ item ∈ items, ¬ IsEntry .fallback item) : decodeAbi (.arr items) = reject := by
  rw [← accepts_abi_iff h] at hf
  rw [decodeAbi, reject_of_not_accepts hf]
  rfl

/-- An artifact with an ABI of a compiler and with good bytecode is read, in the format its
bytecode has, if and only if the ABI has no `fallback` entry. -/
theorem standard_abi_decodes_iff (form : StrForm) (items : List Json) (h : IsAbi items)
    (entries : List (String × Json)) (habi : HasField entries "abi" (.arr items)) (v : Json)
    (hcode : HasField entries "bytecode" v) (code : List UInt8) (mk : List AbiItem → Contract)
    (hv : BytecodeField form.buffered code v mk) :
    (∃ abi, decodeContract form (.obj entries) = .ok (mk abi)) ↔
      ∀ item ∈ items, ¬ IsEntry .fallback item := by
  constructor
  · rintro ⟨abi, hok⟩
    by_contra hf
    rw [decodeContract_reject habi (decodeAbi_fallback h hf)] at hok
    cases hok
  · intro hnone
    obtain ⟨abi, hdec⟩ := (accepts_abi_iff h).mpr hnone
    have hok : decodeAbi (.arr items) = .ok abi := by
      rw [decodeAbi, hdec]
      rfl
    exact ⟨abi, decodeContract_ok hcode hv habi hok⟩

/-- `withdraw((address to, uint256 amount)[] orders) returns (bool)` and an event. -/
def sampleAbi : List Json := [
  .obj [("type", .str "function"), ("name", .str "withdraw"),
    ("inputs", .arr [.obj [("name", .str "orders"), ("type", .str "tuple[]"),
      ("components", .arr [
        .obj [("name", .str "to"), ("type", .str "address")],
        .obj [("name", .str "amount"), ("type", .str "uint256")]])]]),
    ("outputs", .arr [.obj [("name", .str ""), ("type", .str "bool")]]),
    ("stateMutability", .str "nonpayable")],
  .obj [("type", .str "event"), ("name", .str "Withdrawn"),
    ("inputs", .arr [.obj [("name", .str "to"), ("type", .str "address"),
      ("indexed", .bool true)]]),
    ("anonymous", .bool false)]]

theorem sampleAbi_isAbi : IsAbi sampleAbi := by
  have hparam : ∀ name type, IsParam (.obj [("name", .str name), ("type", .str type)]) :=
    fun name type => .elementary _ name type rfl rfl rfl (.inl rfl)
  have htuple : IsParam (.obj [("name", .str "orders"), ("type", .str "tuple[]"),
      ("components", .arr [
        .obj [("name", .str "to"), ("type", .str "address")],
        .obj [("name", .str "amount"), ("type", .str "uint256")]])]) :=
    .tuple _ "orders" "tuple[]" _ rfl rfl rfl (by simp [hparam]) (.inl rfl)
  have hindexed : IsParam (.obj [("name", .str "to"), ("type", .str "address"),
      ("indexed", .bool true)]) :=
    .elementary _ "to" "address" rfl rfl rfl (.inr ⟨true, rfl⟩)
  rw [IsAbi, sampleAbi, List.forall_mem_cons, List.forall_mem_singleton]
  constructor
  · exact ⟨.function, .mk _ rfl ⟨⟨_, rfl⟩, ⟨_, rfl, by simp [htuple]⟩, ⟨_, rfl, by simp [hparam]⟩,
      "nonpayable", by simp, rfl⟩⟩
  · exact ⟨.event, .mk _ rfl ⟨⟨_, rfl⟩, ⟨_, rfl, by simp [hindexed]⟩, false, rfl⟩⟩

theorem sampleAbi_no_fallback : ∀ item ∈ sampleAbi, ¬ IsEntry .fallback item := by
  rw [sampleAbi, List.forall_mem_cons, List.forall_mem_singleton]
  constructor
  · rintro ⟨_, htype, -⟩; simp [HasField, valuesOf, EntryKind.tag] at htype
  · rintro ⟨_, htype, -⟩; simp [HasField, valuesOf, EntryKind.tag] at htype

def sampleArtifact : List (String × Json) :=
  [("abi", .arr sampleAbi), ("bytecode", .obj [("object", .str "0x60fd")])]

theorem sample_artifact_decodes :
    ∃ abi, decodeContract .borrowed (.obj sampleArtifact) = .ok (.forge ⟨abi, ⟨[0x60, 0xfd]⟩⟩) :=
  (standard_abi_decodes_iff .borrowed sampleAbi sampleAbi_isAbi sampleArtifact (by rfl)
    (.obj [("object", .str "0x60fd")]) (by rfl) [0x60, 0xfd]
    (fun abi => .forge ⟨abi, ⟨[0x60, 0xfd]⟩⟩) (.forge _ "0x60fd" (by rfl) (by decide))).mpr
    sampleAbi_no_fallback

/-- What a compiler emits for `contract C { fallback() external payable {} }`. -/
def fallbackAbi : List Json :=
  [.obj [("stateMutability", .str "payable"), ("type", .str "fallback")]]

/-- The ABI is standard and the bytecode good, and no format takes the artifact. -/
theorem fallback_rejected :
    IsAbi fallbackAbi ∧ deserializeBytecode .borrowed (.str "0x60fd") = .ok [0x60, 0xfd] ∧
      decodeContract .borrowed
        (.obj [("abi", .arr fallbackAbi), ("bytecode", .str "0x60fd")]) = reject := by
  have habi : IsAbi fallbackAbi := by
    rw [IsAbi, fallbackAbi, List.forall_mem_singleton]
    exact ⟨.fallback, .mk _ rfl ⟨"payable", by simp, rfl⟩⟩
  exact ⟨habi, by decide, rfl⟩

/-- `parse_contracts` skips a contract with a `fallback` entry, and goes on. -/
theorem fallback_contract_skipped {openFile : String → Option File} {path : String}
    {form : StrForm} {m : ContractMetadata} {entries : List (String × Json)} {items : List Json}
    (hopen : openFile (join path m.filename) = some (some (.obj entries))) (h : IsAbi items)
    (habi : HasField entries "abi" (.arr items))
    (hf : ¬ ∀ item ∈ items, ¬ IsEntry .fallback item) (res : ContractMap) :
    loadContract openFile form path res m = .ok res := by
  have hreject : decodeContract form (.obj entries) = reject :=
    decodeContract_reject habi (decodeAbi_fallback h hf)
  simp only [loadContract, hopen, fromReader, hreject]
  rfl

end Contracts
end RuntimeTemplates
