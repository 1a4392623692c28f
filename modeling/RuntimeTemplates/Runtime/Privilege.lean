import RuntimeTemplates.Runtime.Handover

/-!
# RuntimeTemplates.Runtime.Privilege

What callers that are not root can become through the calls that their calls dispatch.

* `leavesAccounts_of_reached`, `follows_of_reached`, `Handover.caller_of_unprivileged`: one
  dispatch.
* `unsigned_reached_iff`: an account's call leads to a caller that is no account exactly if it leads
  to a `sudo` or `sudo_unchecked_weight`, a message that dispatches as its sender, or a proposal.
* `pallet_origin_reached_iff`: the origin of a pallet that a call did not enter with is one that a
  call on the way has named.
* `unprivileged_confined`: a caller that is no account, nor root or the origin of whitelisted
  calls, stays what it is, and moves no funds, unless it is the origin of an Ethereum transaction.
-/

namespace RuntimeTemplates
namespace Runtime

open Governance Xcm

variable {t : Template} {env : Environment t}

/-! ## Accounts -/

/-- `c` has `d` dispatched with the origin of no account, whichever account makes the call. -/
inductive LeavesAccounts (env : Environment t) (d : RuntimeCall t) : RuntimeCall t → Prop where
  | sudo : LeavesAccounts env d (.sudo (.sudo d))
  | sudoUncheckedWeight : LeavesAccounts env d (.sudo (.sudoUncheckedWeight d))
  | transact {message : List (Instruction (RuntimeCall t))} {interior : Junctions} :
      interior.items.length < 8 → .transact interior .xcm d ∈ message →
      env.baseCallFilter d = true → LeavesAccounts env d (.polkadotXcm (.execute message))
  | submit {p : t.RuntimeOrigin} : (trackFor p).isOk = true →
      (Origin.fresh p).filterCall env d = true → LeavesAccounts env d (.referenda (.submit p d))

theorem not_whitelisted_of_signed {caller : t.RuntimeOrigin} {who : t.AccountId}
    (h : signer caller = some who) : mayDispatchWhitelisted caller = false := by
  unfold signer at h
  split at h
  · rfl
  · cases h

theorem not_root_of_not_whitelisted {caller : t.RuntimeOrigin}
    (h : mayDispatchWhitelisted caller = false) : isRoot caller = false := by
  unfold isRoot
  split
  · cases h
  · rfl

/-- `sudo_as` goes on with an account. -/
theorem leavesAccounts_of_sudo {o o' : Origin t} {s : SudoCall t.AccountId (RuntimeCall t)}
    {d : RuntimeCall t} (h : (o', d) ∈ reached env o (.sudo s))
    (hunsigned : signer o'.caller = none) : LeavesAccounts env d (.sudo s) := by
  cases s with
  | «sudo» c =>
    cases List.mem_singleton.mp (of_mem_ite h).2
    exact .sudo
  | sudoUncheckedWeight c =>
    cases List.mem_singleton.mp (of_mem_ite h).2
    exact .sudoUncheckedWeight
  | sudoAs who c =>
    cases List.mem_singleton.mp (of_mem_ite h).2
    cases hunsigned
  | other c => cases h

/-- What no account dispatches for an account, one of the four calls has dispatched. -/
theorem leavesAccounts_of_reached {o o' : Origin t} {c d : RuntimeCall t} {who : t.AccountId}
    (h : (o', d) ∈ reached env o c) (hwho : signer o.caller = some who)
    (hunsigned : signer o'.caller = none) : LeavesAccounts env d c := by
  have hw : mayDispatchWhitelisted o.caller = false := not_whitelisted_of_signed hwho
  have hnot : ∀ x, signer o'.caller ≠ some x := by
    intro x hx
    rw [hunsigned] at hx
    cases hx
  cases handover_of_reached h with
  | kept hcaller => exact absurd (by rw [hcaller, hwho]) (hnot who)
  | derived _ ho => exact absurd (by rw [ho]; rfl) (hnot _)
  | multisig _ _ _ ho => exact absurd (by rw [ho]; rfl) (hnot _)
  | proxied _ _ ho => exact absurd (by rw [ho]; rfl) (hnot _)
  | transacted hl hc hmem ho hf =>
    obtain ⟨m, hm, ⟨x, rfl, -⟩ | ⟨rfl, rfl⟩⟩ := transactOrigin_local hl ho
    · exact absurd rfl (hnot x)
    · rw [ensureXcmOrigin_signed hwho] at hl
      cases hl
      rw [hc]
      have hroom := (appendWith_accountLocation who _).mp (by rw [hm]; rfl)
      exact .transact hroom hmem (by simpa [Origin.filterCall, Origin.fresh, isRoot] using hf)
  | enacted _ hc htrack ho hf =>
    rw [hc]
    exact .submit htrack (ho ▸ hf)
  | «sudo» _ hc =>
    rw [hc] at h ⊢
    exact leavesAccounts_of_sudo h hunsigned
  | whitelisted h =>
    rw [hw] at h
    cases h
  | root h =>
    rw [not_root_of_not_whitelisted hw] at h
    cases h

theorem signed_of_signer {caller : t.RuntimeOrigin} {who : t.AccountId}
    (h : signer caller = some who) : caller = .signed who := by
  unfold signer at h
  split at h
  · cases h
    rfl
  · cases h

theorem not_signed_of_track {p : t.RuntimeOrigin} (h : (trackFor p).isOk = true) :
    signer p = none := by
  cases htrack : trackFor p with
  | ok id =>
    rcases trackFor_cases htrack with ⟨rfl, -⟩ | ⟨x, rfl, -⟩
    · rfl
    · rfl
  | error e =>
    rw [htrack] at h
    cases h

theorem reached_of_leavesAccounts {o : Origin t} {c d : RuntimeCall t}
    (h : LeavesAccounts env d c) {who : t.AccountId} (hwho : signer o.caller = some who) :
    ∃ o', (o', d) ∈ reached env o c ∧ signer o'.caller = none := by
  have hsudo : mayBeSudo o.caller = true := by
    rw [signed_of_signer hwho]
    rfl
  cases h with
  | «sudo» => exact ⟨.fresh .root, by simp [reached, sudoReached, hsudo], rfl⟩
  | sudoUncheckedWeight => exact ⟨.fresh .root, by simp [reached, sudoReached, hsudo], rfl⟩
  | @transact message interior hroom hmem hbase =>
    obtain ⟨m, hm⟩ := Option.isSome_iff_exists.mp ((appendWith_accountLocation who _).mpr hroom)
    refine ⟨.fresh (.polkadotXcm (.xcm m)), ?_, rfl⟩
    rw [reached, polkadotXcmReached, ensureXcmOrigin_signed hwho]
    refine (mem_messageReached env).mpr ⟨interior, .xcm, hmem, ?_, ?_⟩
    · exact transactOrigin_eq_some.mpr ⟨m, _, hm, convert_xcm t m, rfl⟩
    · simpa [Origin.filterCall, Origin.fresh, isRoot] using hbase
  | @submit p htrack hf =>
    refine ⟨.fresh p, ?_, not_signed_of_track htrack⟩
    rw [reached, referendaReached, hwho]
    simp [htrack, admitted, hf]

/-- On the way from an account to a caller that is none, an account makes one of the four calls. -/
theorem leavesAccounts_of_unsigned {x y : Origin t × RuntimeCall t}
    (hx : ∃ who, signer x.1.caller = some who) (h : Leads env x y) (hy : signer y.1.caller = none) :
    ∃ z d, Leads env x z ∧ LeavesAccounts env d z.2 ∧ ∃ who, signer z.1.caller = some who := by
  have hend : ¬ ∃ who, signer y.1.caller = some who := by
    rintro ⟨who, hwho⟩
    rw [hy] at hwho
    cases hwho
  obtain ⟨z, ⟨o', d⟩, hz, ⟨who, hwho⟩, hd, hnot, -⟩ := Descent.inside_exit
    (P := fun z => ∃ who, signer z.1.caller = some who) h hx hend
  have hnone : signer o'.caller = none := Option.eq_none_iff_forall_ne_some.mpr fun a ha =>
    hnot ⟨a, ha⟩
  exact ⟨z, d, hz, leavesAccounts_of_reached hd hwho hnone, who, hwho⟩

/-- From a call of an account, dispatches lead to a caller that is no account exactly if they lead
to a call by an account that has another one made as root by `Sudo`, as what sends messages by a
message, or as the origin of a proposal. -/
theorem unsigned_reached_iff (env : Environment t) (who : t.AccountId) (filters : List CallFilter)
    (c : RuntimeCall t) :
    (∃ y, Leads env (⟨.signed who, filters⟩, c) y ∧ signer y.1.caller = none) ↔
      ∃ z d, Leads env (⟨.signed who, filters⟩, c) z ∧ LeavesAccounts env d z.2 ∧
        ∃ x, signer z.1.caller = some x := by
  constructor
  · rintro ⟨y, hy, hunsigned⟩
    exact leavesAccounts_of_unsigned ⟨who, rfl⟩ hy hunsigned
  · rintro ⟨z, d, hz, hd, x, hx⟩
    obtain ⟨o', hmem, hunsigned⟩ := reached_of_leavesAccounts hd hx
    exact ⟨(o', d), Descent.inside_tail hz hmem, hunsigned⟩

/-! ## The origins of pallets -/

section Pallets

variable {o o' : Origin t} {d : RuntimeCall t}

/-- `c` names the origin `p` for `d`, and its own origin may do that: root may name any in a
`dispatch_as`, an account one that has a track in a proposal, and what sends a message by
`PolkadotXcm.execute` names itself. -/
inductive Names (env : Environment t) (o : Origin t) (p : t.RuntimeOrigin) (d : RuntimeCall t) :
    RuntimeCall t → Prop where
  | dispatchAs : isRoot o.caller = true → Names env o p d (.utility (.dispatchAs p d))
  | dispatchAsFallible : isRoot o.caller = true →
      Names env o p d (.utility (.dispatchAsFallible p d))
  | transact {l m : Location} {message : List (Instruction (RuntimeCall t))}
      {interior : Junctions} : t.ensureXcmOrigin o.caller = some l →
      l.appendWith interior = some m → .transact interior .xcm d ∈ message →
      p = .polkadotXcm (.xcm m) → env.baseCallFilter d = true →
      Names env o p d (.polkadotXcm (.execute message))
  | submit {who : t.AccountId} : signer o.caller = some who → (trackFor p).isOk = true →
      env.baseCallFilter d = true → Names env o p d (.referenda (.submit p d))

/-- The caller of a call that another one dispatches: the same one, an account, root, or one that is
named. -/
inductive Follows (env : Environment t) (o : Origin t) (c : RuntimeCall t) (o' : Origin t)
    (d : RuntimeCall t) : Prop where
  | same : o'.caller = o.caller → Follows env o c o' d
  | account {who : t.AccountId} : signer o'.caller = some who → Follows env o c o' d
  | root : isRoot o'.caller = true → Follows env o c o' d
  | named : Names env o o'.caller d c → Follows env o c o' d

theorem filterCall_fresh {p : t.RuntimeOrigin} (hroot : isRoot p = false) (d : RuntimeCall t) :
    (Origin.fresh p).filterCall env d = env.baseCallFilter d := by
  simp [Origin.filterCall, Origin.fresh, hroot]

theorem follows_of_utilityReached {c : UtilityCall t.RuntimeOrigin (RuntimeCall t)}
    (h : (o', d) ∈ utilityReached env o c) : Follows env o (.utility c) o' d := by
  cases c with
  | dispatchAs asOrigin c =>
    obtain ⟨hroot, hmem⟩ := of_mem_ite h
    cases List.mem_singleton.mp hmem
    exact .named (.dispatchAs hroot)
  | dispatchAsFallible asOrigin c =>
    obtain ⟨hroot, hmem⟩ := of_mem_ite h
    cases List.mem_singleton.mp hmem
    exact .named (.dispatchAsFallible hroot)
  | withWeight c =>
    cases List.mem_singleton.mp (of_mem_ite h).2
    exact .root rfl
  | batch calls => exact .same (congrArg Origin.caller (of_batchReached (of_mem_ite h).2).1)
  | asDerivative index c =>
    simp only [utilityReached] at h
    split at h
    · obtain ⟨rfl, -⟩ := of_admitted h
      exact .account rfl
    · cases h
  | batchAll calls =>
    obtain ⟨c, -, heq⟩ := List.mem_map.mp (of_mem_ite h).2
    cases heq
    exact .same (batchAllOrigin_caller o)
  | forceBatch calls =>
    obtain ⟨c, -, hc⟩ := List.mem_flatMap.mp (of_mem_ite h).2
    exact .same (congrArg Origin.caller (of_admitted hc).1)
  | ifElse main fallback =>
    rcases List.mem_append.mp (of_mem_ite h).2 with hmain | hfallback
    · exact .same (congrArg Origin.caller (of_admitted hmain).1)
    · exact .same (congrArg Origin.caller (of_admitted (of_mem_ite hfallback).2).1)

theorem follows_of_referendaReached {c : ReferendaCall t.RuntimeOrigin (RuntimeCall t)}
    (h : (o', d) ∈ referendaReached env o c) : Follows env o (.referenda c) o' d := by
  cases c with
  | submit p proposal =>
    simp only [referendaReached] at h
    split at h
    · rename_i who hwho
      obtain ⟨htrack, hmem⟩ := of_mem_ite h
      obtain ⟨rfl, rfl, hf⟩ := (mem_admitted env).mp hmem
      cases hr : isRoot p with
      | true => exact .root hr
      | false => exact .named (.submit hwho htrack (filterCall_fresh hr d ▸ hf))
    · cases h
  | other c => cases h

theorem follows_of_polkadotXcmReached {c : PolkadotXcmCall (RuntimeCall t)}
    (h : (o', d) ∈ polkadotXcmReached env o c) : Follows env o (.polkadotXcm c) o' d := by
  cases c with
  | execute message =>
    simp only [polkadotXcmReached] at h
    split at h
    · rename_i l hl
      obtain ⟨interior, kind, hmem, ho, hf⟩ := (mem_messageReached env).mp h
      obtain ⟨m, hm, ⟨x, rfl, -⟩ | ⟨rfl, rfl⟩⟩ := transactOrigin_local hl ho
      · exact .account rfl
      · rw [filterCall_fresh rfl] at hf
        exact .named (.transact hl hm hmem rfl hf)
    · cases h
  | _ => cases h

theorem follows_of_reached {c : RuntimeCall t} (h : (o', d) ∈ reached env o c) :
    Follows env o c o' d := by
  cases c with
  | utility c => exact follows_of_utilityReached h
  | «sudo» s =>
    cases s with
    | sudoAs who c =>
      cases List.mem_singleton.mp (of_mem_ite h).2
      exact .account rfl
    | other c => cases h
    | _ =>
      cases List.mem_singleton.mp (of_mem_ite h).2
      exact .root rfl
  | scheduler s =>
    cases s with
    | other c => cases h
    | _ =>
      cases List.mem_singleton.mp (of_mem_ite h).2
      exact .root rfl
  | whitelist w =>
    cases w with
    | dispatchWhitelistedCallWithPreimage c =>
      cases List.mem_singleton.mp (of_mem_ite h).2
      exact .root rfl
    | _ => cases h
  | multisig m =>
    obtain ⟨who, others, threshold, -, -, rfl, -⟩ := of_multisigReached h
    exact .account rfl
  | proxy p =>
    obtain ⟨who, ty, real, -, rfl, -⟩ := of_proxyReached h
    exact .account rfl
  | referenda c => exact follows_of_referendaReached h
  | polkadotXcm c => exact follows_of_polkadotXcmReached h
  | _ => cases h

theorem named_of_leads {x y : Origin t × RuntimeCall t} (h : Leads env x y)
    (hsigned : signer y.1.caller = none) (hroot : isRoot y.1.caller = false)
    (hx : x.1.caller ≠ y.1.caller) :
    ∃ z d, Leads env x z ∧ Names env z.1 y.1.caller d z.2 := by
  obtain ⟨z, ⟨o', d⟩, hz, hne, hd, heq, -⟩ := Descent.inside_exit
    (P := fun z => z.1.caller ≠ y.1.caller) h hx (not_not.mpr rfl)
  have hcaller : o'.caller = y.1.caller := not_not.mp heq
  cases follows_of_reached hd with
  | same hsame => exact absurd (hsame.symm.trans hcaller) hne
  | account hwho =>
    rw [hcaller, hsigned] at hwho
    cases hwho
  | root hr =>
    rw [hcaller, hroot] at hr
    cases hr
  | named hnames => exact ⟨z, d, hz, hcaller ▸ hnames⟩

theorem reached_of_names {p : t.RuntimeOrigin} {c : RuntimeCall t} (hp : isRoot p = false)
    (h : Names env o p d c) : (.fresh p, d) ∈ reached env o c := by
  cases h with
  | dispatchAs hroot => simp [reached, utilityReached, hroot]
  | dispatchAsFallible hroot => simp [reached, utilityReached, hroot]
  | @transact l m message interior hl hm hmem hname hbase =>
    subst hname
    rw [reached, polkadotXcmReached, hl]
    refine (mem_messageReached env).mpr ⟨interior, .xcm, hmem, ?_, ?_⟩
    · exact transactOrigin_eq_some.mpr ⟨m, _, hm, convert_xcm t m, rfl⟩
    · rw [filterCall_fresh hp, hbase]
  | submit hwho htrack hbase =>
    rw [reached, referendaReached, hwho]
    simp [htrack, admitted, filterCall_fresh hp, hbase]

/-- No dispatch comes to have the origin of a pallet (of another chain, of governance, of an
Ethereum transaction, or none) that its first call did not have, unless a call that it comes from
names that origin. -/
theorem pallet_origin_reached_iff (env : Environment t) (o : Origin t) (c : RuntimeCall t)
    (p : t.RuntimeOrigin) (hsigned : signer p = none) (hroot : isRoot p = false)
    (ho : o.caller ≠ p) :
    (∃ y, Leads env (o, c) y ∧ y.1.caller = p) ↔
      ∃ z d, Leads env (o, c) z ∧ Names env z.1 p d z.2 := by
  constructor
  · rintro ⟨y, hy, rfl⟩
    exact named_of_leads hy hsigned hroot ho
  · rintro ⟨z, d, hz, hnames⟩
    exact ⟨(.fresh p, d), Descent.inside_tail hz (reached_of_names hroot hnames), rfl⟩

def sampleTransaction : Template.RuntimeOrigin .evm :=
  .ethereum (EthereumOrigin.ethereumTransaction 5)

/-- An account asks the sudo key to have a call made as an Ethereum transaction. -/
theorem ethereum_origin_named :
    (∃ y, Leads (openEnvironment .evm) (.fresh (.signed 1),
        .sudo (.sudo (.utility (.dispatchAs sampleTransaction remark)))) y ∧
          y.1.caller = sampleTransaction) ↔
      ∃ z d, Leads (openEnvironment .evm) (.fresh (.signed 1),
        .sudo (.sudo (.utility (.dispatchAs sampleTransaction remark)))) z ∧
          Names (openEnvironment .evm) z.1 sampleTransaction d z.2 :=
  pallet_origin_reached_iff (openEnvironment .evm) (.fresh (.signed 1))
    (.sudo (.sudo (.utility (.dispatchAs sampleTransaction remark)))) sampleTransaction rfl rfl
    (by decide)

end Pallets

/-! ## Callers that are neither accounts nor privileged -/

section Unprivileged

variable {o : Origin t}

theorem Handover.caller_of_unprivileged {o' : Origin t} {c c' : RuntimeCall t}
    (h : Handover env o c o' c') (hsigned : signer o.caller = none)
    (hw : mayDispatchWhitelisted o.caller = false) : o'.caller = o.caller := by
  have hroot : isRoot o.caller = false := not_root_of_not_whitelisted hw
  cases h with
  | kept hcaller => exact hcaller
  | derived hwho =>
    rw [hsigned] at hwho
    cases hwho
  | multisig hwho =>
    rw [hsigned] at hwho
    cases hwho
  | proxied hwho =>
    rw [hsigned] at hwho
    cases hwho
  | transacted hl =>
    rw [ensureXcmOrigin_other hsigned hroot] at hl
    cases hl
  | enacted hwho =>
    rw [hsigned] at hwho
    cases hwho
  | «sudo» hsudo =>
    unfold mayBeSudo at hsudo
    split at hsudo
    · rename_i heq
      rw [heq] at hroot
      cases hroot
    · rename_i heq
      rw [heq] at hsigned
      cases hsigned
    · cases hsudo
  | whitelisted h =>
    rw [hw] at h
    cases h
  | root h =>
    rw [hroot] at h
    cases h

theorem transferred_unsigned {caller : t.RuntimeOrigin} (h : signer caller = none)
    (moves : t.AccountId → Bool) : transferred caller moves = [] := by
  rw [transferred, h]

theorem entrusted_unsigned {caller : t.RuntimeOrigin} (h : signer caller = none) (moves : Bool)
    (p : Payer t.AccountId) : entrusted caller moves p = [] := by
  rw [entrusted, h]

theorem ensureEthereumTransaction_other {caller : Evm.RuntimeOrigin}
    (he : ∀ e, caller ≠ .ethereum e) : ensureEthereumTransaction caller = none := by
  cases caller with
  | ethereum e => exact absurd rfl (he e)
  | _ => rfl

theorem evmAbstractionMoved_unsigned {caller : t.RuntimeOrigin} (h : signer caller = none)
    (he : ∀ e, caller ≠ .ethereum e) (c : t.EvmAbstractionCall) :
    evmAbstractionMoved t caller c = [] := by
  cases t with
  | evm =>
    cases c with
    | evm c => cases c <;> simp [evmAbstractionMoved, evmMoved, spent, h]
    | ethereum c =>
      cases c with
      | transact action value =>
        rw [evmAbstractionMoved, ethereumMoved, ensureEthereumTransaction_other he]
    | baseFee c => rfl
  | generic => exact c.elim

theorem fundsMoved_unprivileged {caller : t.RuntimeOrigin} (hsigned : signer caller = none)
    (hw : mayDispatchWhitelisted caller = false) (he : ∀ e, caller ≠ .ethereum e)
    (c : RuntimeCall t) : fundsMoved caller c = [] := by
  have hroot : isRoot caller = false := not_root_of_not_whitelisted hw
  cases c with
  | balances c => cases c <;> simp [fundsMoved, balancesMoved, transferred_unsigned hsigned, hroot]
  | assets c =>
    cases c <;>
      simp [fundsMoved, assetsMoved, transferred_unsigned hsigned, entrusted_unsigned hsigned]
  | treasury c => cases c <;> simp [fundsMoved, treasuryMoved, entrusted_unsigned hsigned]
  | messageQueue c => cases c <;> simp [fundsMoved, messageQueueMoved, entrusted_unsigned hsigned]
  | polkadotXcm c =>
    cases c <;>
      simp [fundsMoved, polkadotXcmMoved, transferred_unsigned hsigned,
        ensureXcmOrigin_other hsigned hroot]
  | xTokens c => exact transferred_unsigned hsigned _
  | evmAbstraction c => exact evmAbstractionMoved_unsigned hsigned he c
  | whitelist c => cases c <;> simp [fundsMoved, hw]
  | _ => rfl

theorem leads_caller (hsigned : signer o.caller = none)
    (hw : mayDispatchWhitelisted o.caller = false) {c : RuntimeCall t}
    {y : Origin t × RuntimeCall t} (h : Leads env (o, c) y) : y.1.caller = o.caller := by
  have hstep : ∀ x : Origin t × RuntimeCall t, x.1.caller = o.caller →
      ∀ z ∈ reached env x.1 x.2, z.1.caller = o.caller := by
    intro x hx z hz
    have hcaller : z.1.caller = x.1.caller :=
      (handover_of_reached hz).caller_of_unprivileged (hx ▸ hsigned) (hx ▸ hw)
    rw [hcaller, hx]
  exact Descent.inside_invariant hstep h rfl

theorem not_payer_of_unprivileged (hsigned : signer o.caller = none)
    (hw : mayDispatchWhitelisted o.caller = false) (he : ∀ e, o.caller ≠ .ethereum e)
    {c : RuntimeCall t} {y : Origin t × RuntimeCall t} (h : Leads env (o, c) y)
    (p : Payer t.AccountId) : p ∉ fundsMoved y.1.caller y.2 := by
  rw [leads_caller hsigned hw h, fundsMoved_unprivileged hsigned hw he]
  exact List.not_mem_nil

theorem moved_of_unprivileged (hsigned : signer o.caller = none)
    (hw : mayDispatchWhitelisted o.caller = false) (he : ∀ e, o.caller ≠ .ethereum e)
    {c : RuntimeCall t} {moved : List (Payer t.AccountId)} (h : .done moved ∈ dispatch env o c) :
    moved = [] := by
  refine List.eq_nil_iff_forall_not_mem.mpr ?_
  intro p hp
  obtain ⟨-, y, hy, hfunds⟩ := leads_of_payer h hp
  exact not_payer_of_unprivileged hsigned hw he hy p hfunds

/-- What is dispatched with the origin of another chain or of a pallet, root and the origin of
whitelisted calls apart, is dispatched with that origin all the way down. It moves no funds, unless
it is dispatched for an Ethereum transaction. -/
theorem unprivileged_confined (env : Environment t) (o : Origin t) (c : RuntimeCall t)
    (hsigned : signer o.caller = none) (hw : mayDispatchWhitelisted o.caller = false) :
    (∀ y, Leads env (o, c) y → y.1.caller = o.caller) ∧
      ((∀ e, o.caller ≠ .ethereum e) →
        ∀ moved, .done moved ∈ dispatch env o c → moved = []) :=
  ⟨fun _ => leads_caller hsigned hw, fun he _ => moved_of_unprivileged hsigned hw he⟩

end Unprivileged

/-- A batch of the relay chain, with a transfer and a change of the code in it. -/
theorem relay_batch_confined :
    (∀ y, Leads (openEnvironment .evm) (.fresh (.cumulusXcm .relay),
        .utility (.batch [.balances (.transferAll 2), .sudo (.sudo (.system .setCode))])) y →
      y.1.caller = .cumulusXcm .relay) ∧
    ∀ moved, .done moved ∈ dispatch (openEnvironment .evm) (.fresh (.cumulusXcm .relay))
        (.utility (.batch [.balances (.transferAll 2), .sudo (.sudo (.system .setCode))])) →
      moved = [] :=
  ⟨(unprivileged_confined (openEnvironment .evm) (.fresh (.cumulusXcm .relay))
      (.utility (.batch [.balances (.transferAll 2), .sudo (.sudo (.system .setCode))])) rfl
      rfl).1,
    (unprivileged_confined (openEnvironment .evm) (.fresh (.cumulusXcm .relay))
      (.utility (.batch [.balances (.transferAll 2), .sudo (.sudo (.system .setCode))])) rfl
      rfl).2 fun _ h => nomatch h⟩

end Runtime
end RuntimeTemplates
