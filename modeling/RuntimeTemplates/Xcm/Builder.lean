import RuntimeTemplates.Xcm.Location

/-!
# RuntimeTemplates.Xcm.Builder

The combinators of `xcm-builder`, `orml-xcm-support` and `assets-common` that the two runtimes
compose in their `xcm_config.rs`, each by its documented behaviour. A Rust tuple of filters or of
transactors becomes a list; its members are tried in order.

* `ContainsPair`: a rule for reserve trust; a tuple of rules accepts what one of them accepts.
* `Reserve`: where an asset is held, if known.
* `Transactor`: which currency of this chain an asset is, if the transactor handles it; a tuple
  answers with the first member that does (`firstMatch`).
-/

namespace RuntimeTemplates
namespace Xcm

abbrev ContainsPair := Asset → Location → Bool

abbrev Reserve := Asset → Option Location

def anyOf (rules : List ContainsPair) : ContainsPair := fun a o => rules.any fun r => r a o

inductive WildFungibility where
  | fungible
  | nonFungible
  deriving DecidableEq

def Fungibility.isKind : Fungibility → WildFungibility → Bool
  | .fungible _, .fungible => true
  | .nonFungible _, .nonFungible => true
  | _, _ => false

/-- `AssetFilter::Wild`: every asset, or every asset of one id and kind. -/
inductive AssetFilter where
  | all
  | allOf (id : Location) (kind : WildFungibility)

def AssetFilter.isMatch : AssetFilter → Asset → Bool
  | .all, _ => true
  | .allOf id kind, a => a.fungibility.isKind kind && a.id == id

/-- `Case<T>`: the filter matches and the origin is the given location. -/
def case (t : AssetFilter × Location) : ContainsPair := fun a o => t.1.isMatch a && o == t.2

/-- `MultiNativeAsset<P>`: the origin is the asset's reserve. -/
def multiNativeAsset (provider : Reserve) : ContainsPair := fun a o =>
  match provider a with
  | some reserve => reserve == o
  | none => false

theorem case_fungible (id loc : Location) (a : Asset) (o : Location) :
    case (.allOf id .fungible, loc) a o = true ↔ a.isFungible = true ∧ a.id = id ∧ o = loc := by
  obtain ⟨aid, fung⟩ := a
  cases fung <;> simp [case, AssetFilter.isMatch, Fungibility.isKind, Asset.isFungible]

theorem multiNativeAsset_iff (p : Reserve) (a : Asset) (o : Location) :
    multiNativeAsset p a o = true ↔ p a = some o := by
  unfold multiNativeAsset
  cases p a with
  | none => simp
  | some r => simp

/-! ## Transactors -/

/-- A transactor: the currency it acts on for an asset it matches. -/
abbrev Transactor (Currency : Type) := Asset → Option Currency

/-- The first member of a tuple of transactors that handles the asset. -/
def firstMatch {Currency : Type} (ts : List (Transactor Currency)) : Transactor Currency :=
  fun a => ts.findSome? fun t => t a

/-- `IsConcrete<L>` as a fungible matcher: the amount of an asset whose id is `L`. -/
def isConcrete (loc : Location) (a : Asset) : Option Nat :=
  match a.fungibility with
  | .fungible amount => if a.id = loc then some amount else none
  | .nonFungible _ => none

/-- `ConvertedConcreteId<AssetId, _, C, JustTry>`: the id `C` gives for the asset's location. -/
def convertedConcreteId {Id : Type} (convert : Location → Option Id) (a : Asset) :
    Option (Id × Nat) :=
  match a.fungibility with
  | .fungible amount => (convert a.id).map fun id => (id, amount)
  | .nonFungible _ => none

/-- `AsPrefixedGeneralIndex<P, u32, TryConvertInto>`: the index in `P` extended by one
`GeneralIndex`, when it fits the id type. -/
def asPrefixedGeneralIndex (pallet : Location) (l : Location) : Option (BitVec 32) :=
  if l.parents = pallet.parents then
    match l.interior.items.dropLast == pallet.interior.items, l.interior.items.getLast? with
    | true, some (.generalIndex i) => if i.toNat < UInt32.size then some (i.setWidth 32) else none
    | _, _ => none
  else none

/-- `TrustBackedAssetsConvertedConcreteId<P, Balance>`. -/
def trustBackedAssetsConvertedConcreteId (pallet : Location) (a : Asset) :
    Option (BitVec 32 × Nat) :=
  convertedConcreteId (asPrefixedGeneralIndex pallet) a

/-- `FungibleAdapter<Currency, Matcher, ..>` acts on one currency. -/
def fungibleAdapter {Currency : Type} (currency : Currency) (matcher : Asset → Option Nat) :
    Transactor Currency := fun a => (matcher a).map fun _ => currency

/-- `FungiblesAdapter<Assets, Matcher, ..>` acts on the entry of `Assets` the matcher gives. -/
def fungiblesAdapter {Currency Id : Type} (entry : Id → Currency)
    (matcher : Asset → Option (Id × Nat)) : Transactor Currency :=
  fun a => (matcher a).map fun m => entry m.1

@[simp] theorem isConcrete_fungible (loc l : Location) (n : Nat) :
    isConcrete loc (.fungible l n) = if l = loc then some n else none := rfl

@[simp] theorem convertedConcreteId_fungible {Id : Type} (f : Location → Option Id) (l : Location)
    (n : Nat) : convertedConcreteId f (.fungible l n) = (f l).map fun id => (id, n) := rfl

@[simp] theorem firstMatch_nil {Currency : Type} (a : Asset) :
    firstMatch ([] : List (Transactor Currency)) a = none := rfl

theorem firstMatch_cons {Currency : Type} (t : Transactor Currency)
    (ts : List (Transactor Currency)) (a : Asset) :
    firstMatch (t :: ts) a = (t a).orElse fun _ => firstMatch ts a := by
  simp only [firstMatch, List.findSome?_cons]
  cases t a <;> rfl

/-- Only locations inside the pallet's own location name a trust-backed asset. -/
theorem asPrefixedGeneralIndex_parents {p l : Location} {i : BitVec 32}
    (h : asPrefixedGeneralIndex p l = some i) : l.parents = p.parents := by
  unfold asPrefixedGeneralIndex at h
  split at h
  · assumption
  · cases h

end Xcm
end RuntimeTemplates
