import RuntimeTemplates.Template
import RuntimeTemplates.Xcm.Convert

/-!
# RuntimeTemplates.Origins

Which origin of this chain a message from another one may dispatch with: `LocationToAccountId` and
`XcmOriginToTransactDispatchOrigin` of `xcm_config.rs`.

* `OriginCaller`: the origins that `construct_runtime` collects from the pallets.
* `convert_native_cases`, `convert_sovereign`, `convert_superuser`, `convert_xcm`: what the five
  converters answer together, one lemma for each kind of origin.
* `remote_account_injective`: no two chains share an account.
* `transact_gains_no_privilege`: no message dispatches as Root or as an account that is not its own.
-/

namespace RuntimeTemplates

open Xcm

inductive RawOrigin (AccountId : Type) where
  | root
  | signed (who : AccountId)
  | none
  deriving DecidableEq

/-- `pallet_custom_origins::Origin`. -/
inductive CustomOrigin where
  | treasurer
  | referendumCanceller
  | referendumKiller
  | smallTipper
  | bigTipper
  | smallSpender
  | mediumSpender
  | bigSpender
  | whitelistedCaller
  deriving DecidableEq

inductive XcmOrigin where
  | xcm (l : Location)
  | response (l : Location)
  deriving DecidableEq

inductive CumulusXcmOrigin where
  | relay
  | siblingParachain (id : UInt32)
  deriving DecidableEq

inductive EthereumOrigin where
  | ethereumTransaction (source : H160)
  deriving DecidableEq

/-- `OriginCaller`; a runtime without the Ethereum pallet has an empty `Ethereum`. -/
inductive OriginCaller (AccountId Ethereum : Type) where
  | system (o : RawOrigin AccountId)
  | origins (o : CustomOrigin)
  | polkadotXcm (o : XcmOrigin)
  | cumulusXcm (o : CumulusXcmOrigin)
  | ethereum (o : Ethereum)
  deriving DecidableEq

namespace OriginCaller

variable {AccountId Ethereum : Type}

def root : OriginCaller AccountId Ethereum := .system .root

def signed (who : AccountId) : OriginCaller AccountId Ethereum := .system (.signed who)

end OriginCaller

namespace Evm

abbrev RuntimeOrigin := OriginCaller AccountId EthereumOrigin

def relayNetwork : Option NetworkId := none

def relayChainOrigin : RuntimeOrigin := .cumulusXcm .relay

/-- `AccountId::decode` from bytes that zeros follow without end. -/
def decodeAccount (bytes : List UInt8) : AccountId := Bytes.wordOfBytes 160 (Bytes.padTo 20 bytes)

def locationToAccountId : ConvertLocation AccountId := convertLocation [
  parentIsPreset decodeAccount,
  siblingParachainConvertsVia decodeAccount,
  accountKey20Aliases relayNetwork]

def xcmOriginToTransactDispatchOrigin : ConvertOrigin RuntimeOrigin := convertOrigin [
  sovereignSignedViaLocation locationToAccountId .signed,
  relayChainAsNative relayChainOrigin,
  siblingParachainAsNative fun id => .cumulusXcm (.siblingParachain id),
  signedAccountKey20AsNative relayNetwork .signed,
  xcmPassthrough fun l => .polkadotXcm (.xcm l)]

end Evm

namespace Generic

abbrev RuntimeOrigin := OriginCaller AccountId Empty

def relayNetwork : Option NetworkId := none

def relayChainOrigin : RuntimeOrigin := .cumulusXcm .relay

/-- `AccountId::decode` from bytes that zeros follow without end. -/
def decodeAccount (bytes : List UInt8) : AccountId := Bytes.wordOfBytes 256 (Bytes.padTo 32 bytes)

def locationToAccountId : ConvertLocation AccountId := convertLocation [
  parentIsPreset decodeAccount,
  siblingParachainConvertsVia decodeAccount,
  accountId32Aliases relayNetwork]

def xcmOriginToTransactDispatchOrigin : ConvertOrigin RuntimeOrigin := convertOrigin [
  sovereignSignedViaLocation locationToAccountId .signed,
  relayChainAsNative relayChainOrigin,
  siblingParachainAsNative fun id => .cumulusXcm (.siblingParachain id),
  signedAccountId32AsNative relayNetwork .signed,
  xcmPassthrough fun l => .polkadotXcm (.xcm l)]

end Generic

namespace Template

abbrev EthereumOrigin : Template → Type
  | .evm => RuntimeTemplates.EthereumOrigin
  | .generic => Empty

abbrev RuntimeOrigin (t : Template) := OriginCaller t.AccountId t.EthereumOrigin

def decodeAccount : (t : Template) → List UInt8 → t.AccountId
  | .evm => Evm.decodeAccount
  | .generic => Generic.decodeAccount

def locationToAccountId : (t : Template) → ConvertLocation t.AccountId
  | .evm => Evm.locationToAccountId
  | .generic => Generic.locationToAccountId

def xcmOriginToTransactDispatchOrigin : (t : Template) → ConvertOrigin t.RuntimeOrigin
  | .evm => Evm.xcmOriginToTransactDispatchOrigin
  | .generic => Generic.xcmOriginToTransactDispatchOrigin

end Template

/-! ## Accounts of locations -/

section Accounts

variable {t : Template} {l : Location}

theorem Evm.locationToAccountId_eq (l : Location) :
    Evm.locationToAccountId l = (parentIsPreset Evm.decodeAccount l).or
      ((siblingParachainConvertsVia Evm.decodeAccount l).or
        (accountKey20Aliases Evm.relayNetwork l)) := by
  rw [Evm.locationToAccountId, convertLocation_cons, convertLocation_cons, convertLocation_cons,
    convertLocation_nil, Option.or_none]

theorem Generic.locationToAccountId_eq (l : Location) :
    Generic.locationToAccountId l = (parentIsPreset Generic.decodeAccount l).or
      ((siblingParachainConvertsVia Generic.decodeAccount l).or
        (accountId32Aliases Generic.relayNetwork l)) := by
  rw [Generic.locationToAccountId, convertLocation_cons, convertLocation_cons,
    convertLocation_cons, convertLocation_nil, Option.or_none]

/-- The remote locations with an account: the relay chain and the siblings, each as a whole. -/
theorem remote_account_cases {x : t.AccountId} (h : t.locationToAccountId l = some x)
    (hp : 1 ≤ l.parents) :
    (l = .parent ∧ t.decodeAccount (ascii "Parent") = x) ∨
      ∃ id, l = .sibling id ∧ t.decodeAccount (siblingBytes id) = x := by
  have h0 : ¬ l.parents = 0 := by
    intro h0
    rw [h0] at hp
    exact absurd hp (by decide)
  cases t with
  | evm =>
    rw [Template.locationToAccountId, Evm.locationToAccountId_eq, Option.or_eq_some_iff,
      Option.or_eq_some_iff] at h
    rcases h with h | ⟨-, h | ⟨-, h⟩⟩
    · exact .inl (parentIsPreset_eq_some.mp h)
    · exact .inr (siblingParachainConvertsVia_eq_some.mp h)
    · exact absurd (accountKey20Aliases_eq_some.mp h).1 h0
  | generic =>
    rw [Template.locationToAccountId, Generic.locationToAccountId_eq, Option.or_eq_some_iff,
      Option.or_eq_some_iff] at h
    rcases h with h | ⟨-, h | ⟨-, h⟩⟩
    · exact .inl (parentIsPreset_eq_some.mp h)
    · exact .inr (siblingParachainConvertsVia_eq_some.mp h)
    · exact absurd (accountId32Aliases_eq_some.mp h).1 h0

theorem parentIsPreset_local {AccountId : Type} {decode : List UInt8 → AccountId}
    (hp : l.parents = 0) : parentIsPreset decode l = none := by
  simp [parentIsPreset, hp]

theorem siblingParachainConvertsVia_local {AccountId : Type} {decode : List UInt8 → AccountId}
    (hp : l.parents = 0) : siblingParachainConvertsVia decode l = none := by
  unfold siblingParachainConvertsVia
  split
  · simp [hp]
  · rfl

/-- A local account is the account of its own location: no earlier converter answers for it. -/
theorem Evm.local_account {x : Evm.AccountId}
    (h : accountKey20Aliases Evm.relayNetwork l = some x) : Evm.locationToAccountId l = some x := by
  have hp := (accountKey20Aliases_eq_some.mp h).1
  rw [Evm.locationToAccountId_eq, parentIsPreset_local hp, siblingParachainConvertsVia_local hp,
    Option.none_or, Option.none_or, h]

theorem Generic.local_account {x : Generic.AccountId}
    (h : accountId32Aliases Generic.relayNetwork l = some x) :
    Generic.locationToAccountId l = some x := by
  have hp := (accountId32Aliases_eq_some.mp h).1
  rw [Generic.locationToAccountId_eq, parentIsPreset_local hp,
    siblingParachainConvertsVia_local hp, Option.none_or, Option.none_or, h]

/-! ## No two chains share an account -/

theorem siblingBytes_length (id : UInt32) : (siblingBytes id).length = 8 := by
  rw [siblingBytes, List.length_append, Bytes.toLE_length]
  rfl

theorem siblingBytes_injective {p q : UInt32} (h : siblingBytes p = siblingBytes q) : p = q := by
  have hle : Bytes.toLE 4 p.toNat = Bytes.toLE 4 q.toNat := List.append_cancel_left h
  have hp : p.toNat < 256 ^ 4 := p.toNat_lt
  have hq : q.toNat < 256 ^ 4 := q.toNat_lt
  exact UInt32.toNat_inj.mp (Bytes.toLE_injective hp hq hle)

/-- The accounts of both templates have room for the bytes a chain's account is derived from. -/
theorem decodeAccount_injective {a b : List UInt8} (ha : a.length = 8) (hb : b.length = 8)
    (h : t.decodeAccount a = t.decodeAccount b) : a = b := by
  have hlen : a.length = b.length := ha.trans hb.symm
  cases t with
  | evm =>
    have hpad := Bytes.wordOfBytes_injective (by simp) (by simp) h
    exact Bytes.padTo_injective hlen (by omega) hpad
  | generic =>
    have hpad := Bytes.wordOfBytes_injective (by simp) (by simp) h
    exact Bytes.padTo_injective hlen (by omega) hpad

/-- Six bytes that zeros follow are eight bytes that zeros follow. -/
theorem decodeAccount_parent :
    t.decodeAccount (ascii "Parent") = t.decodeAccount (ascii "Parent" ++ [0, 0]) := by
  cases t <;> decide

theorem siblingBytes_ne_parent (id : UInt32) : siblingBytes id ≠ ascii "Parent" ++ [0, 0] := by
  intro h
  have h4 := congrArg (List.take 4) h
  rw [siblingBytes, List.take_append_of_le_length (by decide)] at h4
  exact absurd h4 (by decide)

theorem remote_account_injective {l₁ l₂ : Location} {x : t.AccountId} (h₁ : 1 ≤ l₁.parents)
    (h₂ : 1 ≤ l₂.parents) (hx₁ : t.locationToAccountId l₁ = some x)
    (hx₂ : t.locationToAccountId l₂ = some x) : l₁ = l₂ := by
  have hpreset : (ascii "Parent" ++ [0, 0]).length = 8 := by decide
  rcases remote_account_cases hx₁ h₁ with ⟨rfl, hd₁⟩ | ⟨p, rfl, hd₁⟩
  · rcases remote_account_cases hx₂ h₂ with ⟨rfl, -⟩ | ⟨q, rfl, hd₂⟩
    · rfl
    · rw [decodeAccount_parent] at hd₁
      exact absurd (decodeAccount_injective (siblingBytes_length q) hpreset (hd₂.trans hd₁.symm))
        (siblingBytes_ne_parent q)
  · rcases remote_account_cases hx₂ h₂ with ⟨rfl, hd₂⟩ | ⟨q, rfl, hd₂⟩
    · rw [decodeAccount_parent] at hd₂
      exact absurd (decodeAccount_injective (siblingBytes_length p) hpreset (hd₁.trans hd₂.symm))
        (siblingBytes_ne_parent p)
    · have hbytes := decodeAccount_injective (siblingBytes_length p) (siblingBytes_length q)
        (hd₁.trans hd₂.symm)
      rw [siblingBytes_injective hbytes]

end Accounts

/-! ## Dispatch origins -/

section Tuple

variable {AccountId Ethereum : Type} (locationConverter : ConvertLocation AccountId)
  (localNative : ConvertOrigin (OriginCaller AccountId Ethereum)) {l : Location}

/-- The tuple of both templates, over the converter for local accounts that each of them has. -/
def converters : ConvertOrigin (OriginCaller AccountId Ethereum) := convertOrigin [
  sovereignSignedViaLocation locationConverter .signed,
  relayChainAsNative (.cumulusXcm .relay),
  siblingParachainAsNative fun id => .cumulusXcm (.siblingParachain id),
  localNative,
  xcmPassthrough fun l => .polkadotXcm (.xcm l)]

theorem converters_sovereign (hlocal : localNative l .sovereignAccount = .error l) :
    converters locationConverter localNative l .sovereignAccount =
      (locationConverter l).elim (.error l) fun x => .ok (.signed x) := by
  cases hx : locationConverter l with
  | some x =>
    refine convertOrigin_ok ?_
    rw [sovereignSignedViaLocation, hx]
  | none =>
    have hsovereign : sovereignSignedViaLocation locationConverter OriginCaller.signed l
        .sovereignAccount = .error (l : Location) (α := OriginCaller AccountId Ethereum) := by
      rw [sovereignSignedViaLocation, hx]
    rw [converters, convertOrigin_next hsovereign,
      convertOrigin_next (by simp [relayChainAsNative]), convertOrigin_next rfl,
      convertOrigin_next hlocal, convertOrigin_next rfl]
    rfl

theorem converters_superuser (hlocal : localNative l .superuser = .error l) :
    converters locationConverter localNative l .superuser = .error l := by
  rw [converters, convertOrigin_next rfl, convertOrigin_next (by simp [relayChainAsNative]),
    convertOrigin_next rfl, convertOrigin_next hlocal, convertOrigin_next rfl]
  rfl

theorem converters_xcm (hlocal : localNative l .xcm = .error l) :
    converters locationConverter localNative l .xcm = .ok (.polkadotXcm (.xcm l)) := by
  rw [converters, convertOrigin_next rfl, convertOrigin_next (by simp [relayChainAsNative]),
    convertOrigin_next rfl, convertOrigin_next hlocal]
  rfl

/-- A native origin is one of the pallet of cumulus, or what the local converter answers. -/
theorem converters_native {o : OriginCaller AccountId Ethereum}
    (h : converters locationConverter localNative l .native = .ok o) :
    (∃ c, o = .cumulusXcm c) ∨ localNative l .native = .ok o := by
  rw [converters, convertOrigin_next rfl] at h
  rcases relayChainAsNative_cases (.cumulusXcm .relay : OriginCaller AccountId Ethereum) l .native
    with hr | hr
  · rw [convertOrigin_ok hr] at h
    exact .inl ⟨.relay, (Except.ok.inj h).symm⟩
  · rw [convertOrigin_next hr] at h
    rcases siblingParachainAsNative_cases (fun id => (.cumulusXcm (.siblingParachain id) :
      OriginCaller AccountId Ethereum)) l .native with ⟨id, hs⟩ | hs
    · rw [convertOrigin_ok hs] at h
      exact .inl ⟨.siblingParachain id, (Except.ok.inj h).symm⟩
    · rw [convertOrigin_next hs] at h
      cases hn : localNative l .native with
      | ok o' =>
        rw [convertOrigin_ok hn] at h
        exact .inr h
      | error l' =>
        rw [convertOrigin, hn] at h
        cases h

end Tuple

section Dispatch

variable (t : Template) (l : Location)

theorem convert_sovereign :
    t.xcmOriginToTransactDispatchOrigin l .sovereignAccount =
      (t.locationToAccountId l).elim (.error l) fun x => .ok (.signed x) := by
  cases t with
  | evm => exact converters_sovereign Evm.locationToAccountId _ rfl
  | generic => exact converters_sovereign Generic.locationToAccountId _ rfl

theorem convert_superuser : t.xcmOriginToTransactDispatchOrigin l .superuser = .error l := by
  cases t with
  | evm => exact converters_superuser Evm.locationToAccountId _ rfl
  | generic => exact converters_superuser Generic.locationToAccountId _ rfl

theorem convert_xcm :
    t.xcmOriginToTransactDispatchOrigin l .xcm = .ok (.polkadotXcm (.xcm l)) := by
  cases t with
  | evm => exact converters_xcm Evm.locationToAccountId _ rfl
  | generic => exact converters_xcm Generic.locationToAccountId _ rfl

/-- A native origin is one of the pallet of cumulus, or a local account for its own location. -/
theorem convert_native_cases {o : t.RuntimeOrigin}
    (h : t.xcmOriginToTransactDispatchOrigin l .native = .ok o) :
    (∃ c, o = .cumulusXcm c) ∨
      ∃ x, o = .signed x ∧ l.parents = 0 ∧ t.locationToAccountId l = some x := by
  cases t with
  | evm =>
    rcases converters_native Evm.locationToAccountId _ h with hc | hl
    · exact .inl hc
    · rw [signedAccountKey20AsNative_native] at hl
      cases hx : accountKey20Aliases Evm.relayNetwork l with
      | none => rw [hx] at hl; cases hl
      | some x =>
        rw [hx] at hl
        exact .inr ⟨x, (Except.ok.inj hl).symm, (accountKey20Aliases_eq_some.mp hx).1,
          Evm.local_account hx⟩
  | generic =>
    rcases converters_native Generic.locationToAccountId _ h with hc | hl
    · exact .inl hc
    · rw [signedAccountId32AsNative_native] at hl
      cases hx : accountId32Aliases Generic.relayNetwork l with
      | none => rw [hx] at hl; cases hl
      | some x =>
        rw [hx] at hl
        exact .inr ⟨x, (Except.ok.inj hl).symm, (accountId32Aliases_eq_some.mp hx).1,
          Generic.local_account hx⟩

variable {t l}

/-- What is signed is signed by the account of the location; from another chain, it was asked for
as its sovereign account. -/
theorem signed_is_own_account {kind : OriginKind} {x : t.AccountId}
    (h : t.xcmOriginToTransactDispatchOrigin l kind = .ok (.signed x)) :
    t.locationToAccountId l = some x := by
  cases kind with
  | native =>
    rcases convert_native_cases t l h with ⟨c, hc⟩ | ⟨y, hy, -, hx⟩
    · cases hc
    · cases hy
      exact hx
  | sovereignAccount =>
    rw [convert_sovereign] at h
    cases hx : t.locationToAccountId l with
    | none => rw [hx] at h; cases h
    | some y =>
      rw [hx] at h
      cases h
      rfl
  | superuser => rw [convert_superuser] at h; cases h
  | xcm => rw [convert_xcm] at h; cases h

theorem never_root {kind : OriginKind} :
    t.xcmOriginToTransactDispatchOrigin l kind ≠ .ok .root := by
  intro h
  cases kind with
  | native =>
    rcases convert_native_cases t l h with ⟨c, hc⟩ | ⟨y, hy, -⟩
    · cases hc
    · cases hy
  | sovereignAccount =>
    rw [convert_sovereign] at h
    cases hx : t.locationToAccountId l with
    | none => rw [hx] at h; cases h
    | some y => rw [hx] at h; cases h
  | superuser => rw [convert_superuser] at h; cases h
  | xcm => rw [convert_xcm] at h; cases h

end Dispatch

/-- The location names an account, of whichever chain it points into. -/
def NamesAccount (l : Location) : Prop :=
  ∃ j ∈ l.interior.items, (∃ n id, j = .accountId32 n id) ∨ (∃ n key, j = .accountKey20 n key) ∨
    ∃ n i, j = .accountIndex64 n i

theorem remote_signed_not_account {t : Template} {l : Location} {x : t.AccountId}
    (hp : 1 ≤ l.parents) (hx : t.locationToAccountId l = some x) : ¬ NamesAccount l := by
  rintro ⟨j, hj, haccount⟩
  rcases remote_account_cases hx hp with ⟨rfl, -⟩ | ⟨id, rfl, -⟩
  · cases hj
  · obtain rfl := List.mem_singleton.mp hj
    rcases haccount with ⟨n, k, h⟩ | ⟨n, k, h⟩ | ⟨n, k, h⟩ <;> cases h

/-- No message from elsewhere dispatches as Root or with an account that is not its own: the
account of its location, which no other chain has and no account of another chain. -/
theorem transact_gains_no_privilege (t : Template) :
    (∀ l kind, t.xcmOriginToTransactDispatchOrigin l kind ≠ .ok .root) ∧
    (∀ l, t.xcmOriginToTransactDispatchOrigin l .superuser = .error l) ∧
    (∀ l kind x, t.xcmOriginToTransactDispatchOrigin l kind = .ok (.signed x) →
      t.locationToAccountId l = some x) ∧
    (∀ l₁ l₂ kind₁ kind₂ x₁ x₂, 1 ≤ l₁.parents → 1 ≤ l₂.parents → l₁ ≠ l₂ →
      t.xcmOriginToTransactDispatchOrigin l₁ kind₁ = .ok (.signed x₁) →
      t.xcmOriginToTransactDispatchOrigin l₂ kind₂ = .ok (.signed x₂) → x₁ ≠ x₂) ∧
    (∀ l kind x, 1 ≤ l.parents → NamesAccount l →
      t.xcmOriginToTransactDispatchOrigin l kind ≠ .ok (.signed x)) := by
  refine ⟨fun l kind => never_root, convert_superuser t, fun l kind x => signed_is_own_account,
    ?_, ?_⟩
  · rintro l₁ l₂ kind₁ kind₂ x₁ x₂ hp₁ hp₂ hne h₁ h₂ rfl
    have hx₁ := signed_is_own_account h₁
    have hx₂ := signed_is_own_account h₂
    exact hne (remote_account_injective hp₁ hp₂ hx₁ hx₂)
  · intro l kind x hp haccount h
    exact remote_signed_not_account hp (signed_is_own_account h) haccount

/-- Two sibling chains, each with its own account. -/
theorem sibling_accounts_differ :
    Evm.decodeAccount (siblingBytes 2000) ≠ Evm.decodeAccount (siblingBytes 2001) :=
  (transact_gains_no_privilege .evm).2.2.2.1 (.sibling 2000) (.sibling 2001) .sovereignAccount
    .sovereignAccount _ _ (by decide) (by decide) (by decide) (by decide) (by decide)

end RuntimeTemplates
