import RuntimeTemplates.Lib.Bytes
import RuntimeTemplates.Xcm.Location

/-!
# RuntimeTemplates.Xcm.Convert

The converters of `xcm-builder` and `pallet-xcm` that turn the location a message comes from into
an account or into a dispatch origin of this chain, each by its documented behaviour. A Rust tuple
of converters becomes a list; the first member that accepts answers.

* `ConvertLocation`: the account a location stands for.
* `ConvertOrigin`: the origin a location may act with, for the kind of origin the message asks for.
  A converter that refuses hands the location back, and the next one gets that.
-/

namespace RuntimeTemplates
namespace Xcm

inductive OriginKind where
  | native
  | sovereignAccount
  | superuser
  | xcm
  deriving DecidableEq

abbrev ConvertLocation (AccountId : Type) := Location → Option AccountId

abbrev ConvertOrigin (RuntimeOrigin : Type) := Location → OriginKind → Except Location RuntimeOrigin

def convertLocation {AccountId : Type} (cs : List (ConvertLocation AccountId)) :
    ConvertLocation AccountId := fun l => cs.findSome? fun c => c l

def convertOrigin {RuntimeOrigin : Type} :
    List (ConvertOrigin RuntimeOrigin) → ConvertOrigin RuntimeOrigin
  | [], origin, _ => .error origin
  | c :: cs, origin, kind =>
    match c origin kind with
    | .error origin => convertOrigin cs origin kind
    | .ok o => .ok o

/-! ## Accounts -/

section Accounts

variable {AccountId : Type} (decode : List UInt8 → AccountId) (network : Option NetworkId)

/-- The bytes of `b".."`. -/
def ascii (s : String) : List UInt8 := s.toList.map fun c => .ofNat c.toNat

def parentIsPreset : ConvertLocation AccountId := fun l =>
  if l.parents = 1 ∧ l.interior.items = [] then some (decode (ascii "Parent")) else none

/-- What `Sibling::into_account_truncating` encodes: the type's id, then the para id. -/
def siblingBytes (id : UInt32) : List UInt8 := ascii "sibl" ++ Bytes.toLE 4 id.toNat

def siblingParachainConvertsVia : ConvertLocation AccountId := fun l =>
  match l.interior.items with
  | [.parachain id] => if l.parents = 1 then some (decode (siblingBytes id)) else none
  | _ => none

def accountKey20Aliases : ConvertLocation H160 := fun l =>
  match l.interior.items with
  | [.accountKey20 n key] => if l.parents = 0 ∧ (n = none ∨ n = network) then some key else none
  | _ => none

def accountId32Aliases : ConvertLocation H256 := fun l =>
  match l.interior.items with
  | [.accountId32 n id] => if l.parents = 0 ∧ (n = none ∨ n = network) then some id else none
  | _ => none

end Accounts

/-! ## Origins -/

section Origins

variable {RuntimeOrigin AccountId : Type}

def sovereignSignedViaLocation (locationConverter : ConvertLocation AccountId)
    (signed : AccountId → RuntimeOrigin) : ConvertOrigin RuntimeOrigin := fun origin kind =>
  match kind with
  | .sovereignAccount =>
    match locationConverter origin with
    | some account => .ok (signed account)
    | none => .error origin
  | _ => .error origin

def relayChainAsNative (relayOrigin : RuntimeOrigin) : ConvertOrigin RuntimeOrigin :=
  fun origin kind =>
    if kind = .native ∧ origin.parents = 1 ∧ origin.interior.items = [] then .ok relayOrigin
    else .error origin

def siblingParachainAsNative (parachainOrigin : UInt32 → RuntimeOrigin) :
    ConvertOrigin RuntimeOrigin := fun origin kind =>
  match kind, origin.interior.items with
  | .native, [.parachain id] =>
    if origin.parents = 1 then .ok (parachainOrigin id) else .error origin
  | _, _ => .error origin

def signedAccountKey20AsNative (network : Option NetworkId) (signed : H160 → RuntimeOrigin) :
    ConvertOrigin RuntimeOrigin := fun origin kind =>
  match kind, origin.interior.items with
  | .native, [.accountKey20 n key] =>
    if origin.parents = 0 ∧ (n = none ∨ n = network) then .ok (signed key) else .error origin
  | _, _ => .error origin

def signedAccountId32AsNative (network : Option NetworkId) (signed : H256 → RuntimeOrigin) :
    ConvertOrigin RuntimeOrigin := fun origin kind =>
  match kind, origin.interior.items with
  | .native, [.accountId32 n id] =>
    if origin.parents = 0 ∧ (n = none ∨ n = network) then .ok (signed id) else .error origin
  | _, _ => .error origin

def xcmPassthrough (xcm : Location → RuntimeOrigin) : ConvertOrigin RuntimeOrigin :=
  fun origin kind =>
    match kind with
    | .xcm => .ok (xcm origin)
    | _ => .error origin

end Origins

/-! ## What a tuple of converters answers -/

section Tuple

variable {RuntimeOrigin AccountId : Type} {c : ConvertOrigin RuntimeOrigin}
  {cs : List (ConvertOrigin RuntimeOrigin)} {l : Location} {kind : OriginKind}

theorem convertLocation_cons (c : ConvertLocation AccountId)
    (cs : List (ConvertLocation AccountId)) (l : Location) :
    convertLocation (c :: cs) l = (c l).or (convertLocation cs l) := by
  rw [convertLocation, List.findSome?_cons]
  cases c l <;> rfl

@[simp] theorem convertLocation_nil (l : Location) :
    convertLocation ([] : List (ConvertLocation AccountId)) l = none := rfl

@[simp] theorem convertOrigin_nil :
    convertOrigin ([] : List (ConvertOrigin RuntimeOrigin)) l kind = .error l := rfl

theorem convertOrigin_ok {o : RuntimeOrigin} (h : c l kind = .ok o) :
    convertOrigin (c :: cs) l kind = .ok o := by
  rw [convertOrigin, h]

theorem convertOrigin_next (h : c l kind = .error l) :
    convertOrigin (c :: cs) l kind = convertOrigin cs l kind := by
  rw [convertOrigin, h]

end Tuple

/-! ## What each converter answers -/

section Answers

variable {RuntimeOrigin AccountId : Type} {l : Location} {kind : OriginKind}

theorem parentIsPreset_eq_some {decode : List UInt8 → AccountId} {x : AccountId} :
    parentIsPreset decode l = some x ↔ l = .parent ∧ decode (ascii "Parent") = x := by
  rw [Location.eq_iff]
  simp [parentIsPreset]

theorem siblingParachainConvertsVia_eq_some {decode : List UInt8 → AccountId} {x : AccountId} :
    siblingParachainConvertsVia decode l = some x ↔
      ∃ id, l = .sibling id ∧ decode (siblingBytes id) = x := by
  unfold siblingParachainConvertsVia
  constructor
  · intro h
    split at h
    · rename_i id hitems
      split at h
      · rename_i hp
        exact ⟨id, Location.eq_iff.mpr ⟨hp, hitems⟩, Option.some.inj h⟩
      · cases h
    · cases h
  · rintro ⟨id, rfl, rfl⟩
    simp

theorem accountKey20Aliases_eq_some {network : Option NetworkId} {x : H160} :
    accountKey20Aliases network l = some x ↔
      l.parents = 0 ∧ ∃ n, l.interior.items = [.accountKey20 n x] ∧ (n = none ∨ n = network) := by
  unfold accountKey20Aliases
  constructor
  · intro h
    split at h
    · rename_i n key hitems
      split at h
      · rename_i hp
        obtain rfl := Option.some.inj h
        exact ⟨hp.1, n, hitems, hp.2⟩
      · cases h
    · cases h
  · rintro ⟨hp, n, hitems, hn⟩
    simp [hitems, hp, hn]

theorem accountId32Aliases_eq_some {network : Option NetworkId} {x : H256} :
    accountId32Aliases network l = some x ↔
      l.parents = 0 ∧ ∃ n, l.interior.items = [.accountId32 n x] ∧ (n = none ∨ n = network) := by
  unfold accountId32Aliases
  constructor
  · intro h
    split at h
    · rename_i n id hitems
      split at h
      · rename_i hp
        obtain rfl := Option.some.inj h
        exact ⟨hp.1, n, hitems, hp.2⟩
      · cases h
    · cases h
  · rintro ⟨hp, n, hitems, hn⟩
    simp [hitems, hp, hn]

theorem relayChainAsNative_cases (relayOrigin : RuntimeOrigin) (l : Location) (kind : OriginKind) :
    relayChainAsNative relayOrigin l kind = .ok relayOrigin ∨
      relayChainAsNative relayOrigin l kind = .error l := by
  unfold relayChainAsNative
  split
  · exact .inl rfl
  · exact .inr rfl

theorem siblingParachainAsNative_cases (parachainOrigin : UInt32 → RuntimeOrigin) (l : Location)
    (kind : OriginKind) :
    (∃ id, siblingParachainAsNative parachainOrigin l kind = .ok (parachainOrigin id)) ∨
      siblingParachainAsNative parachainOrigin l kind = .error l := by
  unfold siblingParachainAsNative
  split
  · rename_i id _
    split
    · exact .inl ⟨id, rfl⟩
    · exact .inr rfl
  · exact .inr rfl

/-- The signed origins of local accounts are those of the accounts aliased to locations. -/
theorem signedAccountKey20AsNative_native (network : Option NetworkId)
    (signed : H160 → RuntimeOrigin) (l : Location) :
    signedAccountKey20AsNative network signed l .native =
      (accountKey20Aliases network l).elim (.error l) fun x => .ok (signed x) := by
  unfold signedAccountKey20AsNative accountKey20Aliases
  split
  · rename_i heq
    simp only [heq]
    split <;> rfl
  · rename_i hne
    split
    · rename_i n key hitems
      exact absurd hitems (hne n key rfl)
    · rfl

theorem signedAccountId32AsNative_native (network : Option NetworkId)
    (signed : H256 → RuntimeOrigin) (l : Location) :
    signedAccountId32AsNative network signed l .native =
      (accountId32Aliases network l).elim (.error l) fun x => .ok (signed x) := by
  unfold signedAccountId32AsNative accountId32Aliases
  split
  · rename_i heq
    simp only [heq]
    split <;> rfl
  · rename_i hne
    split
    · rename_i n id hitems
      exact absurd hitems (hne n id rfl)
    · rfl

end Answers

end Xcm
end RuntimeTemplates
