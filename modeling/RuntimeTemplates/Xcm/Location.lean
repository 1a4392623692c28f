import Mathlib.Data.List.DropRight

/-!
# RuntimeTemplates.Xcm.Location

Locations and assets of the XCM format, as far as the two runtimes read them. A location is a
number of parents (`u8`) and an interior of at most eight junctions; the bound is a field of
`Junctions`, so a longer interior cannot be built.

* `Location.chainLocation`: pops junctions from the end until the last one names a chain.
* `Location.Under`: one location lies inside another (same parents, prefix of the interior).
-/

namespace RuntimeTemplates
namespace Xcm

abbrev H256 := BitVec 256

abbrev H160 := BitVec 160

inductive NetworkId where
  | byGenesis (hash : H256)
  | byFork (blockNumber : UInt64) (blockHash : H256)
  | polkadot
  | kusama
  | ethereum (chainId : UInt64)
  | bitcoinCore
  | bitcoinCash
  | polkadotBulletin
  deriving DecidableEq

inductive BodyId where
  | unit
  | moniker (name : BitVec 32)
  | index (i : UInt32)
  | executive
  | technical
  | legislative
  | judicial
  | defense
  | administration
  | treasury
  deriving DecidableEq

inductive BodyPart where
  | voice
  | members (count : UInt32)
  | fraction (nom denom : UInt32)
  | atLeastProportion (nom denom : UInt32)
  | moreThanProportion (nom denom : UInt32)
  deriving DecidableEq

inductive Junction where
  | parachain (id : UInt32)
  | accountId32 (network : Option NetworkId) (id : H256)
  | accountIndex64 (network : Option NetworkId) (index : UInt64)
  | accountKey20 (network : Option NetworkId) (key : H160)
  | palletInstance (index : UInt8)
  | generalIndex (index : BitVec 128)
  | generalKey (length : UInt8) (data : H256)
  | onlyChild
  | plurality (id : BodyId) (part : BodyPart)
  | globalConsensus (network : NetworkId)
  deriving DecidableEq

namespace Junction

def isParachain : Junction → Bool
  | .parachain _ => true
  | _ => false

def isGlobalConsensus : Junction → Bool
  | .globalConsensus _ => true
  | _ => false

/-- The junctions that name a chain: `Parachain` and `GlobalConsensus`. -/
def isChain (j : Junction) : Bool := j.isParachain || j.isGlobalConsensus

@[simp] theorem isChain_parachain (id : UInt32) : (parachain id).isChain = true := rfl

end Junction

/-- An interior: at most `MAX_JUNCTIONS = 8` junctions. -/
@[ext] structure Junctions where
  items : List Junction
  bounded : items.length ≤ 8
  deriving DecidableEq

namespace Junctions

def here : Junctions := ⟨[], by simp⟩

def x1 (a : Junction) : Junctions := ⟨[a], by simp⟩

@[simp] theorem here_items : here.items = [] := rfl
@[simp] theorem x1_items (a : Junction) : (x1 a).items = [a] := rfl

end Junctions

@[ext] structure Location where
  parents : UInt8
  interior : Junctions
  deriving DecidableEq

namespace Location

/-- `Location::new(parents, [..])`. -/
def new (parents : UInt8) (items : List Junction)
    (h : items.length ≤ 8 := by exact Nat.le_of_ble_eq_true rfl) : Location :=
  ⟨parents, ⟨items, h⟩⟩

def here : Location := ⟨0, .here⟩

def parent : Location := ⟨1, .here⟩

/-- `(1, [Parachain(id)])`: the parachain `id` of the same relay chain, seen from any of them. -/
def sibling (id : UInt32) : Location := ⟨1, .x1 (.parachain id)⟩

@[simp] theorem new_parents (p : UInt8) (l : List Junction) (h : l.length ≤ 8) :
    (new p l h).parents = p := rfl

@[simp] theorem new_items (p : UInt8) (l : List Junction) (h : l.length ≤ 8) :
    (new p l h).interior.items = l := rfl

@[simp] theorem here_parents : here.parents = 0 := rfl
@[simp] theorem here_items : here.interior.items = [] := rfl
@[simp] theorem parent_parents : parent.parents = 1 := rfl
@[simp] theorem parent_items : parent.interior.items = [] := rfl
@[simp] theorem sibling_parents (id : UInt32) : (sibling id).parents = 1 := rfl
@[simp] theorem sibling_items (id : UInt32) : (sibling id).interior.items = [.parachain id] := rfl

theorem eq_iff {l m : Location} :
    l = m ↔ l.parents = m.parents ∧ l.interior.items = m.interior.items := by
  constructor
  · rintro rfl; exact ⟨rfl, rfl⟩
  · rintro ⟨hp, hi⟩
    exact Location.ext hp (Junctions.ext hi)

theorem sibling_ne_here (id : UInt32) : sibling id ≠ here := fun h =>
  absurd (congrArg parents h) (by simp)

theorem sibling_ne_parent (id : UInt32) : sibling id ≠ parent := fun h =>
  absurd (eq_iff.mp h).2 (by simp)

def firstInterior (l : Location) : Option Junction := l.interior.items.head?

/-- `interior.split_global().is_ok()`: the first junction is a `GlobalConsensus`. -/
def splitGlobalIsOk (l : Location) : Bool :=
  match l.interior.items with
  | .globalConsensus _ :: _ => true
  | _ => false

/-- `push_interior`: fails, leaving the location as it was, when the interior is full. -/
def pushInterior (l : Location) (j : Junction) : Except Junction Location :=
  if h : (l.interior.items ++ [j]).length ≤ 8 then
    .ok ⟨l.parents, ⟨l.interior.items ++ [j], h⟩⟩
  else .error j

/-- `append_with`: the location inside `l` that `suffix` leads to, if it has room. -/
def appendWith (l : Location) (suffix : Junctions) : Option Location :=
  if h : (l.interior.items ++ suffix.items).length ≤ 8 then
    some ⟨l.parents, ⟨l.interior.items ++ suffix.items, h⟩⟩
  else none

theorem appendWith_isSome {l : Location} {suffix : Junctions} :
    (l.appendWith suffix).isSome = true ↔
      l.interior.items.length + suffix.items.length ≤ 8 := by
  rw [← List.length_append, appendWith]
  split
  · rename_i h
    exact iff_of_true rfl h
  · rename_i h
    exact iff_of_false Bool.false_ne_true h

theorem appendWith_eq_some {l m : Location} {suffix : Junctions} :
    l.appendWith suffix = some m ↔
      m.parents = l.parents ∧ m.interior.items = l.interior.items ++ suffix.items := by
  unfold appendWith
  split
  · rw [Option.some.injEq, Location.eq_iff]
    exact ⟨fun ⟨hp, hi⟩ => ⟨hp.symm, hi.symm⟩, fun ⟨hp, hi⟩ => ⟨hp.symm, hi.symm⟩⟩
  · rename_i hlong
    refine iff_of_false (by simp) ?_
    rintro ⟨-, hi⟩
    exact hlong (hi ▸ m.interior.bounded)

/-! ## The chain part of a location -/

/-- Pops junctions from the end until the last one names a chain. -/
def chainPart (items : List Junction) : List Junction := items.rdropWhile fun j => !j.isChain

theorem chainPart_isPrefix (items : List Junction) : chainPart items <+: items :=
  List.rdropWhile_prefix _ _

theorem chainPart_length (items : List Junction) : (chainPart items).length ≤ items.length :=
  (chainPart_isPrefix items).length_le

theorem chainPart_eq_nil_iff {items : List Junction} :
    chainPart items = [] ↔ ∀ j ∈ items, j.isChain = false := by
  simp [chainPart, List.rdropWhile_eq_nil_iff]

/-- Popping never gets past a junction that names a chain. -/
theorem chainPart_cons {j : Junction} (hj : j.isChain = true) (items : List Junction) :
    chainPart (j :: items) = j :: chainPart items := by
  induction items using List.reverseRecOn with
  | nil => simp [chainPart, List.rdropWhile_singleton, hj]
  | append_singleton items k ih =>
    simp only [chainPart] at ih ⊢
    rw [← List.cons_append, List.rdropWhile_concat, List.rdropWhile_concat]
    split
    · exact ih
    · rfl

/-- `Location::chain_location`: the part of the location that names the chain it points into. -/
def chainLocation (l : Location) : Location :=
  ⟨l.parents, ⟨chainPart l.interior.items, (chainPart_length _).trans l.interior.bounded⟩⟩

@[simp] theorem chainLocation_parents (l : Location) : l.chainLocation.parents = l.parents := rfl

@[simp] theorem chainLocation_items (l : Location) :
    l.chainLocation.interior.items = chainPart l.interior.items := rfl

/-! ## Containment -/

/-- `l` lies under `o`: same parents, and `o`'s interior is a prefix of `l`'s. -/
def Under (l o : Location) : Prop :=
  l.parents = o.parents ∧ o.interior.items <+: l.interior.items

instance (l o : Location) : Decidable (l.Under o) := inferInstanceAs (Decidable (_ ∧ _))

theorem under_chainLocation (l : Location) : l.Under l.chainLocation :=
  ⟨rfl, chainPart_isPrefix _⟩

end Location

/-! ## Assets -/

inductive AssetInstance where
  | undefined
  | index (i : BitVec 128)
  | array4 (data : BitVec 32)
  | array8 (data : BitVec 64)
  | array16 (data : BitVec 128)
  | array32 (data : H256)
  deriving DecidableEq

inductive Fungibility where
  | fungible (amount : Nat)
  | nonFungible (inst : AssetInstance)
  deriving DecidableEq

structure Asset where
  id : Location
  fungibility : Fungibility
  deriving DecidableEq

namespace Asset

def fungible (id : Location) (amount : Nat) : Asset := ⟨id, .fungible amount⟩

def isFungible (a : Asset) : Bool :=
  match a.fungibility with
  | .fungible _ => true
  | .nonFungible _ => false

/-- `fungible_amount`. -/
def fungibleAmount (a : Asset) : Nat :=
  match a.fungibility with
  | .fungible amount => amount
  | .nonFungible _ => 0

@[simp] theorem fungible_id (l : Location) (n : Nat) : (fungible l n).id = l := rfl
@[simp] theorem fungible_isFungible (l : Location) (n : Nat) :
    (fungible l n).isFungible = true := rfl

end Asset

end Xcm
end RuntimeTemplates
