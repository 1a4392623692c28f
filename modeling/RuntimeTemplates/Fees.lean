import RuntimeTemplates.Lib.Attempts
import RuntimeTemplates.Origins
import RuntimeTemplates.Transactors

/-!
# RuntimeTemplates.Fees

`XcmFeeToAccount` of the EVM template: what becomes of the fees that XCM execution charges. The
assets of a fee are deposited into one account, one after the other; a deposit that fails burns its
asset.

* `depositOrBurnFee`, `handleFee`: over any transactor, as the code has them.
* `LawfulDeposit`: what a transactor promises. `depositAsset_lawful`: the tuple of transactors of
  the template keeps the promise, over pallets that mint what they are asked to or fail.
* `fee_reaches_receiver`: where a fee ends up.
-/

namespace RuntimeTemplates

open Xcm

structure XcmContext where
  origin : Option Location
  messageId : H256
  topic : Option H256

inductive FeeReason where
  | report
  | transferReserveAsset
  | depositReserveAsset
  | initiateReserveWithdraw
  | initiateTeleport
  | queryPallet
  | exportMessage (network : NetworkId) (destination : Junctions)
  | chargeFees
  | lockAsset
  | requestUnlock

inductive XcmError where
  | assetNotFound
  | failedToTransactAsset (reason : String)
  deriving DecidableEq

/-- `TransactAsset::deposit_asset`, over the state it changes. -/
abbrev DepositAsset (σ : Type) :=
  Asset → Location → Option XcmContext → σ → Except XcmError Unit × σ

namespace Evm

/-! ## The handler -/

section Handler

variable {σ : Type} (depositAsset : DepositAsset σ)

def feeDestination (receiver : AccountId) : Location := ⟨0, .x1 (.accountKey20 none receiver)⟩

/-- The outcome of a deposit goes to the log only. -/
def depositOrBurnFee (fee : List Asset) (context : Option XcmContext) (receiver : AccountId)
    (s : σ) : σ :=
  let dest := feeDestination receiver
  fee.foldl (fun s asset => (depositAsset asset dest context s).2) s

/-- `XcmFeeToAccount::handle_fee`. -/
def handleFee (receiverAccount : AccountId) (fee : List Asset) (context : Option XcmContext)
    (_reason : FeeReason) (s : σ) : List Asset × σ :=
  ([], depositOrBurnFee depositAsset fee context receiverAccount s)

structure DepositCall where
  asset : Asset
  dest : Location
  context : Option XcmContext

def depositCall (c : DepositCall) : σ → Except XcmError Unit × σ :=
  depositAsset c.asset c.dest c.context

def recordedDeposit : DepositAsset (σ × List DepositCall) := fun asset dest context =>
  Attempts.recorded (depositCall depositAsset) ⟨asset, dest, context⟩

def feeCalls (fee : List Asset) (context : Option XcmContext) (receiver : AccountId) :
    List DepositCall := fee.map fun asset => ⟨asset, feeDestination receiver, context⟩

theorem depositOrBurnFee_eq (fee : List Asset) (context : Option XcmContext)
    (receiver : AccountId) (s : σ) :
    depositOrBurnFee depositAsset fee context receiver s =
      Attempts.attemptAll (depositCall depositAsset) (feeCalls fee context receiver) s := by
  rw [Attempts.attemptAll, feeCalls, List.foldl_map]
  rfl

/-- The handler calls the transactor once for each asset of the fee, in order. -/
theorem handleFee_recorded (receiver : AccountId) (fee : List Asset) (context : Option XcmContext)
    (reason : FeeReason) (s : σ) :
    (handleFee (recordedDeposit depositAsset) receiver fee context reason (s, [])).2 =
      ((handleFee depositAsset receiver fee context reason s).2, feeCalls fee context receiver) := by
  rw [handleFee, handleFee, depositOrBurnFee_eq, depositOrBurnFee_eq]
  exact Attempts.attemptAll_recorded (depositCall depositAsset) (feeCalls fee context receiver) s []

theorem locationToAccountId_feeDestination (receiver : AccountId) :
    locationToAccountId (feeDestination receiver) = some receiver :=
  local_account (accountKey20Aliases_eq_some.mpr ⟨rfl, none, rfl, .inl rfl⟩)

end Handler

/-! ## Lawful deposits -/

/-- A deposit adds exactly the asset's amount to the account of the location, or it fails and
changes nothing. -/
structure LawfulDeposit {σ : Type} (depositAsset : DepositAsset σ)
    (balance : σ → Location → AccountId → Nat) : Prop where
  ok : ∀ asset l context s s', depositAsset asset l context s = (.ok (), s') →
    ∃ who amount, locationToAccountId l = some who ∧ asset.fungibility = .fungible amount ∧
      ∀ id who', balance s' id who' =
        balance s id who' + if asset.id = id ∧ who' = who then amount else 0
  error : ∀ asset l context s s' e, depositAsset asset l context s = (.error e, s') → s' = s

/-- The part of an asset that counts for `id`. -/
def amountOf (id : Location) (asset : Asset) : Nat :=
  match asset.fungibility with
  | .fungible amount => if asset.id = id then amount else 0
  | .nonFungible _ => 0

section Accounting

variable {σ : Type} {depositAsset : DepositAsset σ} {balance : σ → Location → AccountId → Nat}

theorem rollsBack (h : LawfulDeposit depositAsset balance) :
    Attempts.RollsBack (depositCall depositAsset) := by
  intro c s hc
  cases hr : depositCall depositAsset c s with
  | mk r s' =>
    rw [Attempts.succeeds, hr] at hc
    cases r with
    | ok u => cases hc
    | error e => exact h.error c.asset c.dest c.context s s' e hr

def gain (receiver who : AccountId) (id : Location) (c : DepositCall) : Nat :=
  if who = receiver then amountOf id c.asset else 0

theorem gain_self (receiver : AccountId) (id : Location) :
    gain receiver receiver id = fun c => amountOf id c.asset := by
  funext c
  exact if_pos rfl

theorem gain_other {receiver who : AccountId} (h : who ≠ receiver) (id : Location) :
    gain receiver who id = fun _ => 0 := by
  funext c
  exact if_neg h

theorem gain_of_succeeds (h : LawfulDeposit depositAsset balance) {receiver who : AccountId}
    {id : Location} {c : DepositCall} {s : σ} (hdest : c.dest = feeDestination receiver)
    (hs : Attempts.succeeds (depositCall depositAsset) c s = true) :
    balance (depositCall depositAsset c s).2 id who = balance s id who + gain receiver who id c := by
  cases hr : depositCall depositAsset c s with
  | mk r s' =>
    rw [Attempts.succeeds, hr] at hs
    cases r with
    | error e => cases hs
    | ok u =>
      obtain ⟨who', amount, hwho, hamount, hbal⟩ := h.ok c.asset c.dest c.context s s' hr
      rw [hdest, locationToAccountId_feeDestination] at hwho
      obtain rfl := Option.some.inj hwho
      rw [hbal, gain, amountOf, hamount]
      by_cases hw : who = receiver
      · simp [hw]
      · simp [hw]

end Accounting

/-- A fee goes to the receiver, asset by asset. `paid` are the calls that succeeded. -/
theorem fee_reaches_receiver {σ : Type} (depositAsset : DepositAsset σ)
    (balance : σ → Location → AccountId → Nat) (h : LawfulDeposit depositAsset balance)
    (receiver : AccountId) (fee : List Asset) (context : Option XcmContext) (reason : FeeReason)
    (s : σ) :
    let calls := feeCalls fee context receiver
    let paid := Attempts.succeeded (depositCall depositAsset) calls s
    let final := (handleFee depositAsset receiver fee context reason s).2
    (handleFee depositAsset receiver fee context reason s).1 = [] ∧
      (handleFee (recordedDeposit depositAsset) receiver fee context reason (s, [])).2 =
        (final, calls) ∧
      (∀ c ∈ calls, locationToAccountId c.dest = some receiver) ∧
      (paid.Sublist calls ∧ final = paid.foldl (fun s c => (depositCall depositAsset c s).2) s) ∧
      ∀ id who, balance final id who = balance s id who +
        if who = receiver then (paid.map fun c => amountOf id c.asset).sum else 0 := by
  intro calls paid final
  have hroll := rollsBack h
  have hdest : ∀ c ∈ calls, c.dest = feeDestination receiver := by
    intro c hc
    obtain ⟨asset, -, rfl⟩ := List.mem_map.mp hc
    rfl
  have hfinal : final = Attempts.attemptAll (depositCall depositAsset) calls s :=
    depositOrBurnFee_eq depositAsset fee context receiver s
  refine ⟨rfl, handleFee_recorded depositAsset receiver fee context reason s, ?_, ?_, ?_⟩
  · intro c hc
    rw [hdest c hc]
    exact locationToAccountId_feeDestination receiver
  · have hfold := Attempts.attemptAll_eq_foldl hroll calls s
    exact ⟨Attempts.succeeded_sublist _ calls s, hfinal.trans hfold⟩
  · intro id who
    have hsum := Attempts.attemptAll_sum (fun s => balance s id who) (gain receiver who id) hroll
      (fun c hc s hs => gain_of_succeeds h (hdest c hc) hs) s
    rw [hfinal, hsum]
    by_cases hw : who = receiver
    · rw [if_pos hw, hw, gain_self]
    · rw [if_neg hw, gain_other hw]
      simp

/-! ## The transactors of the template -/

section Transactors

variable {σ : Type} (info : PalletInfo) (registry : AssetRegistry AssetId)
  (mint : Currency AssetId → AccountId → Nat → σ → Except String σ)

/-- `deposit_asset` of `AssetTransactors`: the currency the asset is routed to mints the amount for
the account of the location. -/
def depositAsset : DepositAsset σ := fun asset l _ s =>
  match asset.fungibility with
  | .fungible amount =>
    match assetTransactors info registry.locationToId asset with
    | some currency =>
      match locationToAccountId l with
      | some who =>
        match mint currency who amount s with
        | .ok s' => (.ok (), s')
        | .error e => (.error (.failedToTransactAsset e), s)
      | none => (.error (.failedToTransactAsset "AccountIdConversionFailed"), s)
    -- the second transactor takes every fungible asset, and has no id for this one
    | none => (.error (.failedToTransactAsset "AssetIdConversionFailed"), s)
  | .nonFungible _ => (.error .assetNotFound, s)

/-- A pallet mints exactly the amount, for the account, or it fails. -/
def LawfulMint (ledger : σ → Currency AssetId → AccountId → Nat) : Prop :=
  ∀ c who amount s s', mint c who amount s = .ok s' → ∀ c' who',
    ledger s' c' who' = ledger s c' who' + if c = c' ∧ who' = who then amount else 0

/-- What an account holds of the asset `id`: the balance in the currency it is routed to. -/
def balanceOf (ledger : σ → Currency AssetId → AccountId → Nat) (s : σ) (id : Location)
    (who : AccountId) : Nat :=
  match assetTransactors info registry.locationToId (.fungible id 0) with
  | some currency => ledger s currency who
  | none => 0

variable {info registry mint}

theorem assetTransactors_amount (id : Location) (n m : Nat) :
    assetTransactors info registry.locationToId (.fungible id n) =
      assetTransactors info registry.locationToId (.fungible id m) := by
  rw [assetTransactors_fungible, assetTransactors_fungible]

/-- Two assets that share a currency are one. -/
theorem assetTransactors_injective {l l' : Location} {n m : Nat} {c : Currency AssetId}
    (h : assetTransactors info registry.locationToId (.fungible l n) = some c)
    (h' : assetTransactors info registry.locationToId (.fungible l' m) = some c) : l = l' := by
  cases c with
  | balances => rw [assetTransactors_balances.mp h, assetTransactors_balances.mp h']
  | assets id =>
    rw [assetTransactors_fungible] at h h'
    split at h
    · cases h
    · split at h'
      · cases h'
      · obtain ⟨i, hi, hi'⟩ := Option.map_eq_some_iff.mp h
        obtain ⟨j, hj, hj'⟩ := Option.map_eq_some_iff.mp h'
        cases hi'
        cases hj'
        have hl := (registry.inverse l id).mp hi
        exact Option.some.inj (hl.symm.trans ((registry.inverse l' id).mp hj))
  | erc20 k =>
    rw [assetTransactors_fungible] at h
    split at h
    · cases h
    · obtain ⟨i, -, hi⟩ := Option.map_eq_some_iff.mp h
      cases hi

/-- A deposit fails and changes nothing, or the pallet of the routed currency mints. -/
theorem depositAsset_cases (asset : Asset) (l : Location) (context : Option XcmContext) (s : σ) :
    (∃ e, depositAsset info registry mint asset l context s = (.error e, s)) ∨
      ∃ amount c who s', asset = .fungible asset.id amount ∧
        assetTransactors info registry.locationToId asset = some c ∧
        locationToAccountId l = some who ∧ mint c who amount s = .ok s' ∧
        depositAsset info registry mint asset l context s = (.ok (), s') := by
  obtain ⟨id, fungibility⟩ := asset
  unfold depositAsset
  cases fungibility with
  | nonFungible instance_ => exact .inl ⟨_, rfl⟩
  | fungible amount =>
    simp only
    split
    · rename_i c hc
      split
      · rename_i who hwho
        split
        · rename_i s' hmint
          exact .inr ⟨amount, c, who, s', rfl, hc, hwho, hmint, rfl⟩
        · exact .inl ⟨_, rfl⟩
      · exact .inl ⟨_, rfl⟩
    · exact .inl ⟨_, rfl⟩

theorem depositAsset_lawful {ledger : σ → Currency AssetId → AccountId → Nat}
    (h : LawfulMint mint ledger) :
    LawfulDeposit (depositAsset info registry mint) (balanceOf info registry ledger) := by
  constructor
  · intro asset l context s s' hok
    rcases depositAsset_cases asset l context s with ⟨e, he⟩ | ⟨amount, c, who, s₁, hasset, hc,
      hwho, hmint, hdep⟩
    · rw [he] at hok
      cases hok
    · rw [hdep] at hok
      obtain rfl : s₁ = s' := congrArg Prod.snd hok
      refine ⟨who, amount, hwho, by rw [hasset]; rfl, fun id who' => ?_⟩
      rw [hasset] at hc
      have hledger := h c who amount s s₁ hmint
      unfold balanceOf
      cases hid : assetTransactors info registry.locationToId (.fungible id 0) with
      | none =>
        have hne : asset.id ≠ id := by
          rintro rfl
          rw [assetTransactors_amount asset.id amount 0, hid] at hc
          cases hc
        simp [hne]
      | some c' =>
        -- the routes of two assets agree exactly where the assets do
        have hroute : c = c' ↔ asset.id = id := by
          constructor
          · rintro rfl
            exact assetTransactors_injective hc hid
          · rintro rfl
            rw [assetTransactors_amount asset.id amount 0, hid] at hc
            exact (Option.some.inj hc).symm
        simp only [hledger, hroute]
  · intro asset l context s s' e herr
    rcases depositAsset_cases asset l context s with ⟨e', he⟩ | ⟨_, _, _, s₁, _, _, _, _, hdep⟩
    · rw [he] at herr
      exact (congrArg Prod.snd herr).symm
    · rw [hdep] at herr
      cases congrArg Prod.fst herr

end Transactors

/-- Pallets that do not open an account for less than ten units. -/
def sampleMint (c : Currency AssetId) (who : AccountId) (amount : Nat)
    (s : Currency AssetId → AccountId → Nat) :
    Except String (Currency AssetId → AccountId → Nat) :=
  if s c who + amount < 10 then .error "BelowMinimum"
  else .ok fun c' who' => s c' who' + if c = c' ∧ who' = who then amount else 0

theorem sampleMint_lawful : LawfulMint sampleMint fun s => s := by
  intro c who amount s s' h c' who'
  unfold sampleMint at h
  split at h
  · cases h
  · obtain rfl := Except.ok.inj h
    rfl

/-- The first deposit of the relay token is too small, and the one of an unknown asset is refused;
what comes after them arrives. -/
def sampleFee : List Asset :=
  [.fungible .parent 4, .fungible (.sibling 2001) 50, .fungible .parent 15, .fungible .parent 3]

theorem sampleFee_reaches_receiver :
    balanceOf samplePallets sampleRegistry (fun s => s)
      (handleFee (depositAsset samplePallets sampleRegistry sampleMint) 7#160 sampleFee none
        .chargeFees fun _ _ => 0).2 .parent 7#160 = 18 := by
  have h := fee_reaches_receiver (depositAsset samplePallets sampleRegistry sampleMint)
    (balanceOf samplePallets sampleRegistry fun s => s) (depositAsset_lawful sampleMint_lawful)
    7#160 sampleFee none .chargeFees fun _ _ => 0
  rw [h.2.2.2.2 .parent 7#160]
  decide

end Evm
end RuntimeTemplates
