import RuntimeTemplates.Runtime.Origin

/-!
# RuntimeTemplates.Runtime.LocalOrigin

How the EVM template names its own accounts in XCM. `LocalOriginToLocation` turns a signed origin
into the location of its account; three converters that are configured elsewhere read such a
location back, as an account, as an `H160` and as an origin to dispatch with.

* `Origin.tryWithCaller`: a conversion of the caller, which hands the origin back when it fails.
* `signedToAccountId20`: the outgoing conversion.
* `local_origin_roundtrip`: a signed origin comes back through all three converters, and any other
  origin is handed back as it was.
* `Generic.accountIdToLocation`: the outgoing conversion of accounts in the generic template.
* `acts_as_account_iff`: in both templates, which messages act as an account.
* `Template.ensureXcmOrigin`: where the messages come from that a caller of this chain has executed.
-/

namespace RuntimeTemplates

open Xcm

/-- `TryFrom<OriginCaller>` for the raw origin of the system pallet. -/
def OriginCaller.tryInto {AccountId Ethereum : Type} :
    OriginCaller AccountId Ethereum →
      Except (OriginCaller AccountId Ethereum) (RawOrigin AccountId)
  | .system o => .ok o
  | caller => .error caller

namespace Runtime

/-- `OriginTrait::try_with_caller`: the filters stay on an origin that is handed back. -/
def Origin.tryWithCaller {t : Template} {R : Type} (o : Origin t)
    (f : t.RuntimeOrigin → Except t.RuntimeOrigin R) : Except (Origin t) R :=
  match f o.caller with
  | .ok r => .ok r
  | .error caller => .error { o with caller }

end Runtime

namespace Evm

/-- `From<AccountId20> for H160`: both are the same twenty bytes. -/
def AccountId.into (account : AccountId) : H160 := account

/-- `SignedToAccountId20::try_convert`. -/
def signedToAccountId20 (network : Option NetworkId) (o : Runtime.Origin .evm) :
    Except (Runtime.Origin .evm) Location :=
  o.tryWithCaller fun caller =>
    match caller.tryInto with
    | .ok (.signed who) => .ok ⟨0, .x1 (.accountKey20 network who)⟩
    | .ok other => .error (.system other)
    | .error other => .error other

def localOriginToLocation : Runtime.Origin .evm → Except (Runtime.Origin .evm) Location :=
  signedToAccountId20 relayNetwork

/-- `LocationToH160`. -/
def locationToH160 : ConvertLocation H160 := fun location =>
  (locationToAccountId location).map AccountId.into

/-! ## The location of an account -/

def accountLocation (who : AccountId) : Location := ⟨0, .x1 (.accountKey20 relayNetwork who)⟩

theorem localOriginToLocation_signed {o : Runtime.Origin .evm} {who : AccountId}
    (h : o.caller = .signed who) : localOriginToLocation o = .ok (accountLocation who) := by
  rw [localOriginToLocation, signedToAccountId20, Runtime.Origin.tryWithCaller, h]
  rfl

/-- Neither a raw origin that is not signed nor the origin of a pallet has a location. -/
theorem localOriginToLocation_other {o : Runtime.Origin .evm}
    (h : ∀ who, o.caller ≠ .signed who) : localOriginToLocation o = .error o := by
  obtain ⟨caller, filters⟩ := o
  cases caller with
  | system raw =>
    cases raw with
    | signed who => exact absurd rfl (h who)
    | root => rfl
    | none => rfl
  | origins c => rfl
  | polkadotXcm c => rfl
  | cumulusXcm c => rfl
  | ethereum c => rfl

/-! ## The location read back -/

variable (who : AccountId)

theorem accountKey20Aliases_accountLocation :
    accountKey20Aliases relayNetwork (accountLocation who) = some who :=
  accountKey20Aliases_eq_some.mpr ⟨rfl, relayNetwork, rfl, .inr rfl⟩

theorem locationToAccountId_accountLocation :
    locationToAccountId (accountLocation who) = some who :=
  local_account (accountKey20Aliases_accountLocation who)

theorem locationToH160_accountLocation :
    locationToH160 (accountLocation who) = some who.into := by
  rw [locationToH160, locationToAccountId_accountLocation]
  rfl

theorem dispatchOrigin_sovereign :
    xcmOriginToTransactDispatchOrigin (accountLocation who) .sovereignAccount =
      .ok (.signed who) := by
  have h := convert_sovereign .evm (accountLocation who)
  rw [Template.locationToAccountId, locationToAccountId_accountLocation] at h
  exact h

/-- No converter before the one for local accounts takes the location. -/
theorem dispatchOrigin_native :
    xcmOriginToTransactDispatchOrigin (accountLocation who) .native = .ok (.signed who) := by
  have hrelay : relayChainAsNative relayChainOrigin (accountLocation who) .native =
      .error (accountLocation who) := by
    simp [relayChainAsNative, accountLocation]
  have hlocal : signedAccountKey20AsNative relayNetwork .signed (accountLocation who) .native =
      .ok (OriginCaller.signed who : RuntimeOrigin) := by
    rw [signedAccountKey20AsNative_native, accountKey20Aliases_accountLocation]
    rfl
  rw [xcmOriginToTransactDispatchOrigin, convertOrigin_next rfl, convertOrigin_next hrelay,
    convertOrigin_next rfl, convertOrigin_ok hlocal]

/-- A signed origin survives the trip through its location; no other origin has one. -/
theorem local_origin_roundtrip (o : Runtime.Origin .evm) :
    (∀ who, o.caller = .signed who → ∃ l, localOriginToLocation o = .ok l ∧
      locationToAccountId l = some who ∧ locationToH160 l = some who.into ∧
      xcmOriginToTransactDispatchOrigin l .native = .ok (.signed who) ∧
      xcmOriginToTransactDispatchOrigin l .sovereignAccount = .ok (.signed who)) ∧
    ((∀ who, o.caller ≠ .signed who) → localOriginToLocation o = .error o) := by
  constructor
  · intro who h
    exact ⟨accountLocation who, localOriginToLocation_signed h,
      locationToAccountId_accountLocation who, locationToH160_accountLocation who,
      dispatchOrigin_native who, dispatchOrigin_sovereign who⟩
  · exact localOriginToLocation_other

end Evm

/-! ## Which messages act as an account -/

namespace Generic

/-- `AccountIdToLocation::convert`. -/
def accountIdToLocation (account : AccountId) : Location := ⟨0, .x1 (.accountId32 none account)⟩

/-- `SignedToAccountId32::try_convert`. -/
def signedToAccountId32 (network : Option NetworkId) (o : Runtime.Origin .generic) :
    Except (Runtime.Origin .generic) Location :=
  o.tryWithCaller fun caller =>
    match caller.tryInto with
    | .ok (.signed who) => .ok ⟨0, .x1 (.accountId32 network who)⟩
    | .ok other => .error (.system other)
    | .error other => .error other

def localOriginToLocation : Runtime.Origin .generic → Except (Runtime.Origin .generic) Location :=
  signedToAccountId32 relayNetwork

theorem accountId32Aliases_accountIdToLocation (who : AccountId) :
    accountId32Aliases relayNetwork (accountIdToLocation who) = some who :=
  accountId32Aliases_eq_some.mpr ⟨rfl, none, rfl, .inl rfl⟩

theorem dispatchOrigin_native (who : AccountId) :
    xcmOriginToTransactDispatchOrigin (accountIdToLocation who) .native = .ok (.signed who) := by
  have hrelay : relayChainAsNative relayChainOrigin (accountIdToLocation who) .native =
      .error (accountIdToLocation who) := by
    simp [relayChainAsNative, accountIdToLocation]
  have hlocal : signedAccountId32AsNative relayNetwork .signed (accountIdToLocation who) .native =
      .ok (OriginCaller.signed who : RuntimeOrigin) := by
    rw [signedAccountId32AsNative_native, accountId32Aliases_accountIdToLocation]
    rfl
  rw [xcmOriginToTransactDispatchOrigin, convertOrigin_next rfl, convertOrigin_next hrelay,
    convertOrigin_next rfl, convertOrigin_ok hlocal]

end Generic

section Accounts

/-- The location of an account of this chain. -/
def Template.accountLocation : (t : Template) → t.AccountId → Location
  | .evm => Evm.accountLocation
  | .generic => Generic.accountIdToLocation

variable {t : Template} {l : Location} {who : t.AccountId}

theorem accountLocation_parents (t : Template) (who : t.AccountId) :
    (t.accountLocation who).parents = 0 := by
  cases t with
  | evm => rfl
  | generic => rfl

/-- One location inside this chain is that of an account. -/
theorem local_account_iff (hp : l.parents = 0) :
    t.locationToAccountId l = some who ↔ l = t.accountLocation who := by
  cases t with
  | evm =>
    rw [Template.locationToAccountId, Evm.locationToAccountId_eq, parentIsPreset_local hp,
      siblingParachainConvertsVia_local hp, Option.none_or, Option.none_or,
      accountKey20Aliases_eq_some, Location.eq_iff]
    simp [hp, Template.accountLocation, Evm.accountLocation, Evm.relayNetwork]
  | generic =>
    rw [Template.locationToAccountId, Generic.locationToAccountId_eq, parentIsPreset_local hp,
      siblingParachainConvertsVia_local hp, Option.none_or, Option.none_or,
      accountId32Aliases_eq_some, Location.eq_iff]
    simp [hp, Template.accountLocation, Generic.accountIdToLocation, Generic.relayNetwork]

theorem relay_account (t : Template) :
    t.locationToAccountId .parent = some (t.decodeAccount (ascii "Parent")) := by
  cases t with
  | evm =>
    rw [Template.locationToAccountId, Evm.locationToAccountId_eq,
      parentIsPreset_eq_some.mpr ⟨rfl, rfl⟩, Option.some_or]
    rfl
  | generic =>
    rw [Template.locationToAccountId, Generic.locationToAccountId_eq,
      parentIsPreset_eq_some.mpr ⟨rfl, rfl⟩, Option.some_or]
    rfl

theorem sibling_account (t : Template) (id : UInt32) :
    t.locationToAccountId (.sibling id) = some (t.decodeAccount (siblingBytes id)) := by
  cases t with
  | evm =>
    have hparent : parentIsPreset Evm.decodeAccount (.sibling id) = none := by
      simp [parentIsPreset]
    rw [Template.locationToAccountId, Evm.locationToAccountId_eq, hparent, Option.none_or,
      siblingParachainConvertsVia_eq_some.mpr ⟨id, rfl, rfl⟩, Option.some_or]
    rfl
  | generic =>
    have hparent : parentIsPreset Generic.decodeAccount (.sibling id) = none := by
      simp [parentIsPreset]
    rw [Template.locationToAccountId, Generic.locationToAccountId_eq, hparent, Option.none_or,
      siblingParachainConvertsVia_eq_some.mpr ⟨id, rfl, rfl⟩, Option.some_or]
    rfl

/-- The location is that of an account, or of a chain with the account. -/
theorem location_of_account_iff : t.locationToAccountId l = some who ↔
    l = t.accountLocation who ∨ (l = .parent ∧ t.decodeAccount (ascii "Parent") = who) ∨
      ∃ id, l = .sibling id ∧ t.decodeAccount (siblingBytes id) = who := by
  constructor
  · intro h
    by_cases hp : l.parents = 0
    · exact .inl ((local_account_iff hp).mp h)
    · have hremote : 1 ≤ l.parents := by
        have hne : l.parents.toNat ≠ 0 := fun h0 => hp (UInt8.toNat_inj.mp h0)
        exact UInt8.le_iff_toNat_le.mpr (Nat.one_le_iff_ne_zero.mpr hne)
      exact .inr (remote_account_cases h hremote)
  · rintro (rfl | ⟨rfl, rfl⟩ | ⟨id, rfl, rfl⟩)
    · exact (local_account_iff (accountLocation_parents t who)).mpr rfl
    · exact relay_account t
    · exact sibling_account t id

theorem native_account (t : Template) (who : t.AccountId) :
    t.xcmOriginToTransactDispatchOrigin (t.accountLocation who) .native = .ok (.signed who) := by
  cases t with
  | evm => exact Evm.dispatchOrigin_native who
  | generic => exact Generic.dispatchOrigin_native who

theorem sovereign_account_iff :
    t.xcmOriginToTransactDispatchOrigin l .sovereignAccount = .ok (.signed who) ↔
      t.locationToAccountId l = some who := by
  rw [convert_sovereign]
  cases hx : t.locationToAccountId l with
  | none => simp
  | some x => simp [OriginCaller.signed]

/-- A message acts as an account if it comes from the account, and asks for its native or its
sovereign origin, or if it comes from the chain whose sovereign account it is and asks for that. -/
theorem acts_as_account_iff (t : Template) (l : Location) (kind : OriginKind) (who : t.AccountId) :
    t.xcmOriginToTransactDispatchOrigin l kind = .ok (.signed who) ↔
      (l = t.accountLocation who ∧ (kind = .native ∨ kind = .sovereignAccount)) ∨
        (kind = .sovereignAccount ∧ ((l = .parent ∧ t.decodeAccount (ascii "Parent") = who) ∨
          ∃ id, l = .sibling id ∧ t.decodeAccount (siblingBytes id) = who)) := by
  cases kind with
  | native =>
    constructor
    · intro h
      rcases convert_native_cases t l h with ⟨c, hc⟩ | ⟨x, hx, hp, hl⟩
      · cases hc
      · cases hx
        exact .inl ⟨(local_account_iff hp).mp hl, .inl rfl⟩
    · rintro (⟨rfl, -⟩ | ⟨hkind, -⟩)
      · exact native_account t who
      · cases hkind
  | sovereignAccount =>
    rw [sovereign_account_iff, location_of_account_iff]
    simp
  | superuser =>
    rw [convert_superuser]
    simp
  | xcm =>
    rw [convert_xcm]
    simp [OriginCaller.signed]

end Accounts

/-! ## Messages that this chain executes for its own callers -/

section Local

def Template.localOriginToLocation : (t : Template) →
    Runtime.Origin t → Except (Runtime.Origin t) Location
  | .evm => Evm.localOriginToLocation
  | .generic => Generic.localOriginToLocation

variable {t : Template}

/-- `EnsureXcmOrigin<RuntimeOrigin, LocalOriginToLocation>`: where a message of the caller comes
from. Root stands for the chain itself. -/
def Template.ensureXcmOrigin (t : Template) (caller : t.RuntimeOrigin) : Option Location :=
  match t.localOriginToLocation (.fresh caller) with
  | .ok location => some location
  | .error o => if Runtime.isRoot o.caller then some .here else none

theorem ensureXcmOrigin_signed {caller : t.RuntimeOrigin} {who : t.AccountId}
    (h : Runtime.signer caller = some who) :
    t.ensureXcmOrigin caller = some (t.accountLocation who) := by
  unfold Runtime.signer at h
  split at h
  · cases h
    cases t with
    | evm => rfl
    | generic => rfl
  · cases h

/-- Only accounts and root have a location. -/
theorem ensureXcmOrigin_other {caller : t.RuntimeOrigin} (h : Runtime.signer caller = none)
    (hroot : Runtime.isRoot caller = false) : t.ensureXcmOrigin caller = none := by
  cases caller with
  | system raw =>
    cases raw with
    | root => cases hroot
    | signed who => cases h
    | none => cases t <;> rfl
  | _ => cases t <;> rfl

theorem ensureXcmOrigin_parents {caller : t.RuntimeOrigin} {l : Location}
    (h : t.ensureXcmOrigin caller = some l) : l.parents = 0 := by
  cases hs : Runtime.signer caller with
  | some who =>
    rw [ensureXcmOrigin_signed hs] at h
    cases h
    exact accountLocation_parents t who
  | none =>
    unfold Template.ensureXcmOrigin at h
    cases hr : Runtime.isRoot caller with
    | true =>
      have hroot : caller = .root := by
        unfold Runtime.isRoot at hr
        split at hr
        · rfl
        · cases hr
      subst hroot
      cases t <;> (cases h; rfl)
    | false =>
      have hnone := ensureXcmOrigin_other hs hr
      rw [Template.ensureXcmOrigin, h] at hnone
      cases hnone

/-- From inside this chain, no native origin is that of another chain. -/
theorem converters_native_local {AccountId Ethereum : Type} (lc : ConvertLocation AccountId)
    {localNative : ConvertOrigin (OriginCaller AccountId Ethereum)} {l : Location}
    (hp : l.parents = 0) {o : OriginCaller AccountId Ethereum}
    (h : converters lc localNative l .native = .ok o) : localNative l .native = .ok o := by
  have hrelay : relayChainAsNative (.cumulusXcm .relay : OriginCaller AccountId Ethereum) l
      .native = .error l := by
    simp [relayChainAsNative, hp]
  have hsibling : siblingParachainAsNative (fun id => (.cumulusXcm (.siblingParachain id) :
      OriginCaller AccountId Ethereum)) l .native = .error l := by
    unfold siblingParachainAsNative
    split
    · simp [hp]
    · rfl
  rw [converters, convertOrigin_next rfl, convertOrigin_next hrelay,
    convertOrigin_next hsibling] at h
  cases hn : localNative l .native with
  | ok o' =>
    rw [convertOrigin_ok hn] at h
    exact h
  | error l' =>
    rw [convertOrigin, hn] at h
    cases h

theorem not_cumulus_of_local {l : Location} (hp : l.parents = 0) (c : CumulusXcmOrigin) :
    t.xcmOriginToTransactDispatchOrigin l .native ≠ .ok (.cumulusXcm c) := by
  intro h
  cases t with
  | evm =>
    have hlocal := converters_native_local Evm.locationToAccountId hp h
    rw [signedAccountKey20AsNative_native] at hlocal
    cases hx : accountKey20Aliases Evm.relayNetwork l with
    | none => rw [hx] at hlocal; cases hlocal
    | some x => rw [hx] at hlocal; cases hlocal
  | generic =>
    have hlocal := converters_native_local Generic.locationToAccountId hp h
    rw [signedAccountId32AsNative_native] at hlocal
    cases hx : accountId32Aliases Generic.relayNetwork l with
    | none => rw [hx] at hlocal; cases hlocal
    | some x => rw [hx] at hlocal; cases hlocal

theorem convert_cases {l : Location} {kind : OriginKind} {o : t.RuntimeOrigin}
    (h : t.xcmOriginToTransactDispatchOrigin l kind = .ok o) :
    (∃ x, o = .signed x ∧ t.locationToAccountId l = some x) ∨
      (kind = .native ∧ ∃ c, o = .cumulusXcm c) ∨ (kind = .xcm ∧ o = .polkadotXcm (.xcm l)) := by
  cases kind with
  | native =>
    rcases convert_native_cases t l h with ⟨c, rfl⟩ | ⟨x, rfl, -, hx⟩
    · exact .inr (.inl ⟨rfl, c, rfl⟩)
    · exact .inl ⟨x, rfl, hx⟩
  | sovereignAccount =>
    rw [convert_sovereign] at h
    cases hx : t.locationToAccountId l with
    | none =>
      rw [hx] at h
      cases h
    | some x =>
      rw [hx] at h
      cases h
      exact .inl ⟨x, rfl, rfl⟩
  | superuser =>
    rw [convert_superuser] at h
    cases h
  | xcm =>
    rw [convert_xcm] at h
    cases h
    exact .inr (.inr ⟨rfl, rfl⟩)

theorem convert_local {l : Location} {kind : OriginKind} {o : t.RuntimeOrigin}
    (hp : l.parents = 0) (h : t.xcmOriginToTransactDispatchOrigin l kind = .ok o) :
    (∃ x, o = .signed x ∧ t.locationToAccountId l = some x) ∨
      (kind = .xcm ∧ o = .polkadotXcm (.xcm l)) := by
  rcases convert_cases h with haccount | ⟨rfl, c, rfl⟩ | hxcm
  · exact .inl haccount
  · exact absurd h (not_cumulus_of_local hp c)
  · exact .inr hxcm

/-- Inside the location of an account, there is no other one. -/
theorem account_of_appendWith {who a : t.AccountId} {interior : Junctions} {l : Location}
    (h : (t.accountLocation who).appendWith interior = some l)
    (ha : t.locationToAccountId l = some a) : a = who := by
  obtain ⟨hparents, hitems⟩ := Location.appendWith_eq_some.mp h
  rw [accountLocation_parents] at hparents
  rw [(local_account_iff hparents).mp ha] at hitems
  cases t with
  | evm => simpa [Template.accountLocation, Evm.accountLocation] using (List.cons.inj hitems).1
  | generic =>
    simpa [Template.accountLocation, Generic.accountIdToLocation] using (List.cons.inj hitems).1

/-- There is room for seven junctions inside it. -/
theorem appendWith_accountLocation (who : t.AccountId) (interior : Junctions) :
    ((t.accountLocation who).appendWith interior).isSome = true ↔ interior.items.length < 8 := by
  have hlength : (t.accountLocation who).interior.items.length = 1 := by cases t <;> rfl
  rw [Location.appendWith_isSome, hlength]
  omega

end Local

end RuntimeTemplates
