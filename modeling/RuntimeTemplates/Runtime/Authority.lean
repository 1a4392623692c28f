import RuntimeTemplates.Runtime.Privilege

/-!
# RuntimeTemplates.Runtime.Authority

For which accounts an account can act, and who pays for what it dispatches.

* `Controls`: the accounts that an account acts for: itself, accounts derived from one of them, and
  multisigs that one of them is a signatory of.
* `Accounted`: who answers for a payer: an account in control has signed the call that moves the
  funds, or has it made by a call of `Sudo`, `Proxy` or `Referenda`.
* `payer_controlled`: so it is for whatever a signed call moves.
* `remote_payer_controlled`: the same for the calls of messages from other chains.
* `proxied_confined`: the filter of a proxy stays on, until a call that enters with a new origin.
* `restricted_proxy_payer`: the two small types of proxy move funds through multisigs only.
-/

namespace RuntimeTemplates
namespace Runtime

open Xcm

variable {t : Template} {env : Environment t}

inductive Controls (env : Environment t) (who : t.AccountId) : t.AccountId → Prop where
  | self : Controls env who who
  | derivative {a : t.AccountId} (index : UInt16) : Controls env who a →
      Controls env who (env.derivativeAccountId a index)
  | multisig {a : t.AccountId} {others : List t.AccountId} (threshold : UInt16) :
      Controls env who a → env.validSignatories a others = true →
      Controls env who (env.multiAccountId a others threshold)

def ControlledBy (env : Environment t) (who : t.AccountId) (o : Origin t) : Prop :=
  ∃ a, signer o.caller = some a ∧ Controls env who a

/-- `c` has `d` dispatched for an account that the one which makes it need not control, or for
none. -/
inductive ActsForOthers (d : RuntimeCall t) : RuntimeCall t → Prop where
  | sudo {s : SudoCall t.AccountId (RuntimeCall t)} : d ∈ s.carried → ActsForOthers d (.sudo s)
  | proxy {p : ProxyCall t.AccountId (RuntimeCall t)} : d ∈ p.carried → ActsForOthers d (.proxy p)
  | submit {p : t.RuntimeOrigin} : ActsForOthers d (.referenda (.submit p d))

/-- The payers of a call other than the account that makes it. -/
inductive Entrusted : RuntimeCall t → Payer t.AccountId → Prop where
  | transferApproved {id : t.AssetId} {owner destination : t.AccountId} {amount : Nat} :
      Entrusted (.assets (.transferApproved id owner destination amount)) (.account owner)
  | forceTransfer {id : t.AssetId} {source dest : t.AccountId} {amount : Nat} :
      Entrusted (.assets (.forceTransfer id source dest amount)) (.account source)
  | payout : Entrusted (.treasury .payout) .treasury
  | executeOverweight : Entrusted (.messageQueue .executeOverweight) .queued
  | contract {c : t.EvmAbstractionCall} : Entrusted (.evmAbstraction c) .contract

/-- A call that `x` leads to makes `p` pay. An account that `who` controls has signed it, or has
handed on to it by a call that acts for others. -/
def Accounted (env : Environment t) (who : t.AccountId) (x : Origin t × RuntimeCall t)
    (p : Payer t.AccountId) : Prop :=
  ∃ y, Leads env x y ∧ p ∈ fundsMoved y.1.caller y.2 ∧
    ((∃ a, signer y.1.caller = some a ∧ Controls env who a ∧
        (p = .account a ∨ Entrusted y.2 p)) ∨
      ∃ z o' d, Leads env x z ∧ ControlledBy env who z.1 ∧ ActsForOthers d z.2 ∧
        (o', d) ∈ reached env z.1 z.2 ∧ Leads env (o', d) y)

/-! ## Who pays -/

section Payers

variable {who : t.AccountId}

theorem eq_of_transferred {caller : t.RuntimeOrigin} {a : t.AccountId}
    (ha : signer caller = some a) {moves : t.AccountId → Bool} {p : Payer t.AccountId}
    (hp : p ∈ transferred caller moves) : p = .account a := by
  rw [transferred, ha] at hp
  exact List.mem_singleton.mp (of_mem_ite hp).2

theorem eq_of_entrusted {caller : t.RuntimeOrigin} {moves : Bool} {p q : Payer t.AccountId}
    (hp : p ∈ entrusted caller moves q) : p = q := by
  unfold entrusted at hp
  split at hp
  · exact List.mem_singleton.mp (of_mem_ite hp).2
  · cases hp

theorem of_mem_spent {caller : Evm.RuntimeOrigin} {a source : H160} {moves : Bool}
    {code : List (Payer H160)} (ha : signer caller = some a) {p : Payer Evm.AccountId}
    (hp : p ∈ spent caller source moves code) : p = .account a ∨ p ∈ code := by
  unfold spent at hp
  split at hp
  · rename_i h
    obtain rfl : a = source := Option.some.inj (ha.symm.trans h)
    rcases List.mem_append.mp hp with hown | hcode
    · exact .inl (List.mem_singleton.mp (of_mem_ite hown).2)
    · exact .inr hcode
  · cases hp

theorem payer_of_evm {caller : Evm.RuntimeOrigin} {a : H160} (ha : signer caller = some a)
    {c : EvmCall} {p : Payer Evm.AccountId} (hp : p ∈ evmMoved caller c) :
    p = .account a ∨ p = .contract := by
  cases c with
  | withdraw address value => exact .inl ((of_mem_spent ha hp).resolve_right List.not_mem_nil)
  | _ => exact (of_mem_spent ha hp).imp_right List.mem_singleton.mp

theorem payer_of_message {a : t.AccountId} {message : List (Instruction (RuntimeCall t))}
    {p : Payer t.AccountId} (hp : p ∈ messageMoved (t.accountLocation a) message) :
    p = .account a := by
  obtain ⟨i, -, hi⟩ := List.mem_flatMap.mp hp
  cases i with
  | withdrawAsset interior =>
    obtain ⟨b, hb, rfl⟩ := Option.map_eq_some_iff.mp (Option.mem_toList.mp hi)
    obtain ⟨m, hm, haccount⟩ := Option.bind_eq_some_iff.mp hb
    rw [account_of_appendWith hm haccount]
  | transact interior kind call => cases hi

theorem payer_of_signed {caller : t.RuntimeOrigin} {a : t.AccountId} (ha : signer caller = some a)
    {c : RuntimeCall t} {p : Payer t.AccountId} (hp : p ∈ fundsMoved caller c) :
    p = .account a ∨ Entrusted c p := by
  have hw : mayDispatchWhitelisted caller = false := not_whitelisted_of_signed ha
  cases c with
  | balances c =>
    cases c with
    | transferAllowDeath dest value => exact .inl (eq_of_transferred ha hp)
    | forceTransfer source dest value =>
      simp [fundsMoved, balancesMoved, not_root_of_not_whitelisted hw] at hp
    | transferKeepAlive dest value => exact .inl (eq_of_transferred ha hp)
    | transferAll dest => exact .inl (eq_of_transferred ha hp)
    | _ => cases hp
  | assets c =>
    cases c with
    | transferApproved id owner destination amount =>
      exact .inr (eq_of_entrusted hp ▸ .transferApproved)
    | forceTransfer id source dest amount => exact .inr (eq_of_entrusted hp ▸ .forceTransfer)
    | other c => cases hp
    | _ => exact .inl (eq_of_transferred ha hp)
  | treasury c =>
    cases c with
    | payout => exact .inr (eq_of_entrusted hp ▸ .payout)
    | other c => cases hp
  | messageQueue c =>
    cases c with
    | executeOverweight => exact .inr (eq_of_entrusted hp ▸ .executeOverweight)
    | other c => cases hp
  | polkadotXcm c =>
    cases c with
    | execute message =>
      rw [fundsMoved, polkadotXcmMoved, ensureXcmOrigin_signed ha] at hp
      exact .inl (payer_of_message hp)
    | other c => cases hp
    | _ => exact .inl (eq_of_transferred ha hp)
  | xTokens c => exact .inl (eq_of_transferred ha hp)
  | evmAbstraction c =>
    cases t with
    | evm =>
      cases c with
      | evm c =>
        rcases payer_of_evm ha hp with rfl | rfl
        · exact .inl rfl
        · exact .inr .contract
      | ethereum c =>
        rw [signed_of_signer ha] at hp
        cases hp
      | baseFee c => cases hp
    | generic => exact c.elim
  | whitelist c =>
    cases c with
    | dispatchWhitelistedCall =>
      rw [fundsMoved, hw] at hp
      cases hp
    | _ => cases hp
  | _ => cases hp

theorem controlledBy_of_reached {o o' : Origin t} {c d : RuntimeCall t}
    (ho : ControlledBy env who o) (h : (o', d) ∈ reached env o c) :
    ControlledBy env who o' ∨ (∃ l, o' = .fresh (.polkadotXcm l)) ∨ ActsForOthers d c := by
  obtain ⟨a, ha, hcontrols⟩ := ho
  have hw : mayDispatchWhitelisted o.caller = false := not_whitelisted_of_signed ha
  have hd : d ∈ enclosed c := enclosed_of_reached env h
  cases handover_of_reached h with
  | kept hcaller => exact .inl ⟨a, by rw [hcaller, ha], hcontrols⟩
  | @derived b index hb ho' =>
    obtain rfl : a = b := Option.some.inj (ha.symm.trans hb)
    exact .inl ⟨_, by rw [ho']; rfl, hcontrols.derivative index⟩
  | @multisig b others threshold m hb _ hvalid ho' =>
    obtain rfl : a = b := Option.some.inj (ha.symm.trans hb)
    exact .inl ⟨_, by rw [ho']; rfl, hcontrols.multisig threshold hvalid⟩
  | transacted hl _ _ ho' =>
    -- the account itself dispatches, or what sends messages
    obtain ⟨m, hm, horigin⟩ := transactOrigin_local hl ho'
    obtain rfl := Option.some.inj ((ensureXcmOrigin_signed ha).symm.trans hl)
    rcases horigin with ⟨x, rfl, hx⟩ | ⟨-, rfl⟩
    · exact .inl ⟨x, rfl, account_of_appendWith hm hx ▸ hcontrols⟩
    · exact .inr (.inl ⟨_, rfl⟩)
  | proxied _ hc =>
    subst hc
    exact .inr (.inr (.proxy hd))
  | enacted _ hc =>
    rw [hc]
    exact .inr (.inr .submit)
  | «sudo» _ hc =>
    subst hc
    exact .inr (.inr (.sudo hd))
  | whitelisted h =>
    rw [hw] at h
    cases h
  | root h =>
    rw [not_root_of_not_whitelisted hw] at h
    cases h

theorem accounted_of_controlled {x y : Origin t × RuntimeCall t} (hx : ControlledBy env who x.1)
    (h : Leads env x y) {p : Payer t.AccountId} (hp : p ∈ fundsMoved y.1.caller y.2) :
    Accounted env who x p := by
  refine ⟨y, h, hp, ?_⟩
  by_cases hy : ControlledBy env who y.1
  · obtain ⟨a, ha, hcontrols⟩ := hy
    exact .inl ⟨a, ha, hcontrols, payer_of_signed ha hp⟩
  · obtain ⟨z, ⟨o', d⟩, hz, hcontrolled, hd, hnot, hdy⟩ := Descent.inside_exit
      (P := fun z => ControlledBy env who z.1) h hx hy
    rcases controlledBy_of_reached hcontrolled hd with hctl | ⟨l, rfl⟩ | hacts
    · exact absurd hctl hnot
    · -- what sends messages makes no one pay
      exact absurd hp (not_payer_of_unprivileged rfl rfl (by nofun) hdy p)
    · exact .inr ⟨z, o', d, hz, hcontrolled, hacts, hd, hdy⟩

/-- Whose funds a call that `who` has signed moves: an account that `who` controls has signed the
call that moves them, and they are its own or entrusted to that call; or the call that moves them is
made through a call of `Sudo`, `Proxy` or `Referenda` that such an account has made. -/
theorem payer_controlled (env : Environment t) (who : t.AccountId) (filters : List CallFilter)
    (c : RuntimeCall t) :
    ∀ moved, .done moved ∈ dispatch env ⟨.signed who, filters⟩ c → ∀ p ∈ moved,
      Accounted env who (⟨.signed who, filters⟩, c) p := by
  intro moved hmoved p hp
  obtain ⟨-, y, hy, hfunds⟩ := leads_of_payer hmoved hp
  exact accounted_of_controlled ⟨who, rfl, .self⟩ hy hfunds

/-- An account batches its own transfer with one by a multisig that it is a signatory of, out of an
allowance that the multisig has. -/
theorem multisig_batch_payer :
    Accounted (openEnvironment .evm) 1 (⟨.signed 1, []⟩,
      .utility (.batchAll [.balances (.transferAll 2),
        .multisig (.asMultiThreshold1 [2] (.assets (.transferApproved 7 3 2 5)))])) (.account 3) :=
  payer_controlled (openEnvironment .evm) 1 []
    (.utility (.batchAll [.balances (.transferAll 2),
      .multisig (.asMultiThreshold1 [2] (.assets (.transferApproved 7 3 2 5)))]))
    [.account 1, .account 3] (by decide) (.account 3) (by decide)

end Payers

/-! ## Messages from other chains -/

section Remote

variable {l : Location} {kind : OriginKind} {o : t.RuntimeOrigin}

/-- What a message from `l` has dispatched moves funds only if `l` has an account, and then as a
call that the account has signed. -/
theorem remote_payer_controlled (t : Template) (env : Environment t) (l : Location)
    (kind : OriginKind) (c : RuntimeCall t) :
    ∀ o, t.xcmOriginToTransactDispatchOrigin l kind = .ok o →
      ∀ moved, .done moved ∈ dispatch env (.fresh o) c → ∀ p ∈ moved,
        ∃ x, t.locationToAccountId l = some x ∧ Accounted env x (.fresh o, c) p := by
  intro o ho moved hmoved p hp
  obtain ⟨-, y, hy, hfunds⟩ := leads_of_payer hmoved hp
  rcases convert_cases ho with ⟨x, rfl, hx⟩ | ⟨-, c, rfl⟩ | ⟨-, rfl⟩
  · exact ⟨x, hx, accounted_of_controlled ⟨x, rfl, .self⟩ hy hfunds⟩
  · exact absurd hfunds (not_payer_of_unprivileged rfl rfl (by nofun) hy p)
  · exact absurd hfunds (not_payer_of_unprivileged rfl rfl (by nofun) hy p)

/-- `b"Parent"`, and zeros. -/
def relayAccount : Evm.AccountId := 0x506172656e740000000000000000000000000000

theorem relay_account_payer :
    ∃ x, Template.locationToAccountId .evm .parent = some x ∧
      Accounted (openEnvironment .evm) x (.fresh (.signed relayAccount),
        .balances (.transferAll 2)) (.account relayAccount) :=
  remote_payer_controlled .evm (openEnvironment .evm) .parent .sovereignAccount
    (.balances (.transferAll 2)) (.signed relayAccount) (by decide) [.account relayAccount]
    (by decide) (.account relayAccount) (by decide)

end Remote

/-! ## Proxies -/

section Proxies

variable {ty : ProxyType} {real : t.AccountId}

/-- `c` has `d` dispatched with an origin that has no filter of the proxy on it. -/
inductive EntersAnew (d : RuntimeCall t) : RuntimeCall t → Prop where
  | sudo {s : SudoCall t.AccountId (RuntimeCall t)} : d ∈ s.carried → EntersAnew d (.sudo s)
  | proxy {p : ProxyCall t.AccountId (RuntimeCall t)} : d ∈ p.carried → EntersAnew d (.proxy p)
  | multisig {m : MultisigCall t.AccountId (RuntimeCall t)} : d ∈ m.carried →
      EntersAnew d (.multisig m)
  | transact {message : List (Instruction (RuntimeCall t))} {interior : Junctions}
      {kind : OriginKind} : .transact interior kind d ∈ message →
      EntersAnew d (.polkadotXcm (.execute message))
  | submit {p : t.RuntimeOrigin} : EntersAnew d (.referenda (.submit p d))

structure UnderProxy (env : Environment t) (ty : ProxyType) (real : t.AccountId)
    (x : Origin t × RuntimeCall t) : Prop where
  controlled : ControlledBy env real x.1
  filtered : .proxy ty ∈ x.1.filters
  accepted : x.1.filterCall env x.2 = true

theorem UnderProxy.filter {x : Origin t × RuntimeCall t} (h : UnderProxy env ty real x) :
    ty.filter x.2 = true := by
  obtain ⟨a, ha, -⟩ := h.controlled
  have hroot := not_root_of_not_whitelisted (not_whitelisted_of_signed ha)
  have haccepted := h.accepted
  rw [Origin.filterCall, hroot, Bool.false_or, Bool.and_eq_true] at haccepted
  exact filter_of_proxyFilter (List.all_eq_true.mp haccepted.2 _ h.filtered)

theorem underProxy_start {c : RuntimeCall t}
    (h : (Origin.proxied ty real).filterCall env c = true) :
    UnderProxy env ty real (.proxied ty real, c) where
  controlled := ⟨real, rfl, .self⟩
  filtered := List.mem_singleton.mpr rfl
  accepted := h

theorem UnderProxy.reached {x : Origin t × RuntimeCall t} (hx : UnderProxy env ty real x)
    {o' : Origin t} {d : RuntimeCall t} (h : (o', d) ∈ reached env x.1 x.2) :
    UnderProxy env ty real (o', d) ∨ EntersAnew d x.2 := by
  obtain ⟨o, c⟩ := x
  obtain ⟨a, ha, hcontrols⟩ := hx.controlled
  have hw : mayDispatchWhitelisted o.caller = false := not_whitelisted_of_signed ha
  have hd : d ∈ enclosed c := enclosed_of_reached env h
  cases handover_of_reached h with
  | kept hcaller hfilters hf =>
    exact .inl ⟨⟨a, by rw [hcaller, ha], hcontrols⟩, hfilters hx.filtered, hf⟩
  | @derived b index hb ho' hf =>
    obtain rfl : a = b := Option.some.inj (ha.symm.trans hb)
    subst ho'
    exact .inl ⟨⟨_, rfl, hcontrols.derivative index⟩, hx.filtered, hf⟩
  | multisig _ hc =>
    subst hc
    exact .inr (.multisig hd)
  | proxied _ hc =>
    subst hc
    exact .inr (.proxy hd)
  | transacted _ hc hmem =>
    subst hc
    exact .inr (.transact hmem)
  | enacted _ hc =>
    subst hc
    exact .inr .submit
  | «sudo» _ hc =>
    subst hc
    exact .inr (.sudo hd)
  | whitelisted h =>
    rw [hw] at h
    cases h
  | root h =>
    rw [not_root_of_not_whitelisted hw] at h
    cases h

/-- Every call that a proxied call leads to is one that the proxy's filter accepts, made for an
account that the proxied one controls; or else it comes by a call of `Sudo`, `Proxy`, `Multisig`,
`PolkadotXcm` or `Referenda` that is both, and that has another call enter with a new origin. -/
theorem proxied_confined (env : Environment t) (ty : ProxyType) (real : t.AccountId)
    (c : RuntimeCall t) (hf : (Origin.proxied ty real).filterCall env c = true) :
    ∀ y, Leads env (.proxied ty real, c) y →
      (ty.filter y.2 = true ∧ ControlledBy env real y.1) ∨
        ∃ z o' d, Leads env (.proxied ty real, c) z ∧ EntersAnew d z.2 ∧ ty.filter z.2 = true ∧
          ControlledBy env real z.1 ∧ (o', d) ∈ reached env z.1 z.2 ∧ Leads env (o', d) y := by
  intro y hy
  by_cases hunder : UnderProxy env ty real y
  · exact .inl ⟨hunder.filter, hunder.controlled⟩
  · obtain ⟨z, ⟨o', d⟩, hz, hzunder, hd, hnot, hdy⟩ :=
      Descent.inside_exit hy (underProxy_start hf) hunder
    have hanew := (hzunder.reached hd).resolve_left hnot
    exact .inr ⟨z, o', d, hz, hanew, hzunder.filter, hzunder.controlled, hd, hdy⟩

theorem restricted_filter (hty : ty = .cancelProxy ∨ ty = .collator) {c : RuntimeCall t}
    (h : ty.filter c = true) : (∃ delegate, c = .proxy (.rejectAnnouncement delegate)) ∨
      (∃ k, c = .collatorSelection k) ∨ ∃ m, c = .multisig m := by
  cases c with
  | proxy c =>
    cases c with
    | rejectAnnouncement delegate => exact .inl ⟨delegate, rfl⟩
    | _ => rcases hty with rfl | rfl <;> cases h
  | collatorSelection k => exact .inr (.inl ⟨k, rfl⟩)
  | multisig m => exact .inr (.inr ⟨m, rfl⟩)
  | _ => rcases hty with rfl | rfl <;> cases h

theorem eq_of_leads {x y : Origin t × RuntimeCall t} (hx : reached env x.1 x.2 = [])
    (h : Leads env x y) : x = y := by
  rcases (Descent.inside_iff x y).mp h with heq | ⟨z, hz, -⟩
  · exact heq
  · rw [hx] at hz
    cases hz

/-- A proxy for canceling or for the collators moves funds only by way of a multisig that the
proxied account is a signatory of, and then as a call that the multisig has signed. -/
theorem restricted_proxy_payer (env : Environment t) (ty : ProxyType) (real : t.AccountId)
    (c : RuntimeCall t) (hty : ty = .cancelProxy ∨ ty = .collator) :
    ∀ moved, .done moved ∈ dispatch env (.proxied ty real) c → ∀ p ∈ moved,
      ∃ m others threshold d, c = .multisig m ∧ env.validSignatories real others = true ∧
        (.fresh (.signed (env.multiAccountId real others threshold)), d) ∈
          reached env (.proxied ty real) c ∧
        Accounted env (env.multiAccountId real others threshold)
          (.fresh (.signed (env.multiAccountId real others threshold)), d) p := by
  intro moved hmoved p hp
  obtain ⟨hf, y, hy, hfunds⟩ := leads_of_payer hmoved hp
  rcases restricted_filter hty (filter_of_filterCall env hf) with
    ⟨delegate, rfl⟩ | ⟨k, rfl⟩ | ⟨m, rfl⟩
  · cases eq_of_leads rfl hy
    cases hfunds
  · cases eq_of_leads rfl hy
    cases hfunds
  · rcases (Descent.inside_iff _ _).mp hy with rfl | ⟨⟨o', d⟩, hd, hdy⟩
    · cases hfunds
    · have hmem : (o', d) ∈ multisigReached env (.proxied ty real) m := hd
      obtain ⟨who, others, threshold, hwho, hvalid, rfl, -⟩ := of_multisigReached hmem
      cases hwho
      exact ⟨m, others, threshold, d, rfl, hvalid, hd,
        accounted_of_controlled ⟨_, rfl, .self⟩ hdy hfunds⟩

end Proxies

/-! ## Proxies at work -/

def sampleProxied : RuntimeCall .evm :=
  .utility (.batch [.utility (.asDerivative 0 remark), .sudo (.sudo remark)])

theorem sampleProxied_leads : Leads (openEnvironment .evm)
    (.proxied .nonTransfer 1, sampleProxied) (.fresh .root, remark) := by
  have hbatch : (Origin.proxied (t := .evm) .nonTransfer 1, .sudo (.sudo remark)) ∈
      reached (openEnvironment .evm) (.proxied .nonTransfer 1) sampleProxied :=
    List.mem_of_getElem? (i := 1) rfl
  refine Descent.inside_head hbatch ?_
  exact Descent.inside_head List.mem_cons_self (Descent.inside_refl _)

theorem nonTransfer_batch_confined :
    (ProxyType.nonTransfer.filter (t := .evm) remark = true ∧
        ControlledBy (openEnvironment .evm) 1 (.fresh .root)) ∨
      ∃ z o' d, Leads (openEnvironment .evm) (.proxied .nonTransfer 1, sampleProxied) z ∧
        EntersAnew d z.2 ∧ ProxyType.nonTransfer.filter z.2 = true ∧
        ControlledBy (openEnvironment .evm) 1 z.1 ∧
        (o', d) ∈ reached (openEnvironment .evm) z.1 z.2 ∧
        Leads (openEnvironment .evm) (o', d) (.fresh .root, remark) :=
  proxied_confined (openEnvironment .evm) .nonTransfer 1 sampleProxied (by decide)
    (.fresh .root, remark) sampleProxied_leads

theorem collator_multisig_payer :
    ∃ m others threshold d,
      (.multisig (.asMultiThreshold1 [2] (.balances (.transferAll 3))) : RuntimeCall .generic) =
        .multisig m ∧
      (openEnvironment .generic).validSignatories 1 others = true ∧
      (.fresh (.signed ((openEnvironment .generic).multiAccountId 1 others threshold)), d) ∈
        reached (openEnvironment .generic) (.proxied .collator 1)
          (.multisig (.asMultiThreshold1 [2] (.balances (.transferAll 3)))) ∧
      Accounted (openEnvironment .generic)
        ((openEnvironment .generic).multiAccountId 1 others threshold)
        (.fresh (.signed ((openEnvironment .generic).multiAccountId 1 others threshold)), d)
        (.account 1) :=
  restricted_proxy_payer (openEnvironment .generic) .collator 1
    (.multisig (.asMultiThreshold1 [2] (.balances (.transferAll 3)))) (.inr rfl) [.account 1]
    (by decide) (.account 1) (by decide)

end Runtime
end RuntimeTemplates
