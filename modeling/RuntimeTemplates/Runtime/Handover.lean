import RuntimeTemplates.Lib.Descent
import RuntimeTemplates.Runtime.NonTransfer

/-!
# RuntimeTemplates.Runtime.Handover

With which origin a call hands on to the calls it dispatches.

* `Handover`: what becomes of the origin from a call to one that it dispatches. One case for each
  kind of wrapper, with the checks that the wrapper makes.
* `handover_of_reached`: there are no other ways.
* `Leads`: one call leads to another through calls that dispatch the next one.
* `leads_of_payer`: whatever a call has moved, a call that it leads to moves.
-/

namespace RuntimeTemplates
namespace Runtime

open Governance Xcm

variable {t : Template}

/-! ## One dispatch -/

/-- The origin of a call `c'` that the call `c` dispatches, after `c` was dispatched with `o`. -/
inductive Handover (env : Environment t) (o : Origin t) (c : RuntimeCall t) (o' : Origin t)
    (c' : RuntimeCall t) : Prop where
  | kept : o'.caller = o.caller → o.filters ⊆ o'.filters → o'.filterCall env c' = true →
      Handover env o c o' c'
  | derived {who : t.AccountId} {index : UInt16} : signer o.caller = some who →
      o' = { o with caller := .signed (env.derivativeAccountId who index) } →
      o'.filterCall env c' = true → Handover env o c o' c'
  | multisig {who : t.AccountId} {others : List t.AccountId} {threshold : UInt16}
      {m : MultisigCall t.AccountId (RuntimeCall t)} : signer o.caller = some who →
      c = .multisig m → env.validSignatories who others = true →
      o' = .fresh (.signed (env.multiAccountId who others threshold)) →
      o'.filterCall env c' = true → Handover env o c o' c'
  | proxied {who real : t.AccountId} {ty : ProxyType}
      {p : ProxyCall t.AccountId (RuntimeCall t)} : signer o.caller = some who →
      c = .proxy p → o' = .proxied ty real → o'.filterCall env c' = true → Handover env o c o' c'
  | transacted {l : Location} {message : List (Instruction (RuntimeCall t))}
      {interior : Junctions} {kind : OriginKind} : t.ensureXcmOrigin o.caller = some l →
      c = .polkadotXcm (.execute message) → .transact interior kind c' ∈ message →
      transactOrigin t l interior kind = some o' → o'.filterCall env c' = true →
      Handover env o c o' c'
  | enacted {who : t.AccountId} {p : t.RuntimeOrigin} : signer o.caller = some who →
      c = .referenda (.submit p c') → (trackFor p).isOk = true → o' = .fresh p →
      o'.filterCall env c' = true → Handover env o c o' c'
  | sudo {s : SudoCall t.AccountId (RuntimeCall t)} : mayBeSudo o.caller = true →
      c = .sudo s → Handover env o c o' c'
  | whitelisted {w : WhitelistCall (RuntimeCall t)} : mayDispatchWhitelisted o.caller = true →
      c = .whitelist w → o' = .fresh .root → Handover env o c o' c'
  | root : isRoot o.caller = true → Handover env o c o' c'

section Reached

variable {env : Environment t} {o o' : Origin t} {c' : RuntimeCall t}

theorem of_admitted {c : RuntimeCall t} (h : (o', c') ∈ admitted env o c) :
    o' = o ∧ o'.filterCall env c' = true := by
  obtain ⟨ho, -, hf⟩ := (mem_admitted env).mp h
  exact ⟨ho, hf⟩

theorem of_batchReached {calls : List (RuntimeCall t)} (h : (o', c') ∈ batchReached env o calls) :
    o' = o ∧ o'.filterCall env c' = true := by
  induction calls with
  | nil => cases h
  | cons c cs ih =>
    rw [batchReached, List.mem_append] at h
    rcases h with h | h
    · exact of_admitted h
    · exact ih (of_mem_ite h).2

/-- What a call with the same origin, or with more filters on it, is dispatched with. -/
theorem Handover.ofSame {c : RuntimeCall t} (h : o' = o ∧ o'.filterCall env c' = true) :
    Handover env o c o' c' := by
  obtain ⟨rfl, hf⟩ := h
  exact .kept rfl (List.Subset.refl _) hf

theorem batchAllOrigin_caller (o : Origin t) : (batchAllOrigin o).caller = o.caller := by
  unfold batchAllOrigin
  split
  · rfl
  · rfl

theorem batchAllOrigin_filters (o : Origin t) : o.filters ⊆ (batchAllOrigin o).filters := by
  unfold batchAllOrigin
  split
  · exact List.Subset.refl _
  · exact List.subset_cons_self _ _

theorem of_proxiedReached {delegate real : t.AccountId} {forceProxyType : Option ProxyType}
    {c : RuntimeCall t} (h : (o', c') ∈ proxiedReached env delegate real forceProxyType c) :
    ∃ ty, o' = .proxied ty real ∧ o'.filterCall env c' = true := by
  obtain ⟨-, hmem⟩ := of_mem_ite h
  obtain ⟨ty, -, hty⟩ := List.mem_flatMap.mp hmem
  exact ⟨ty, of_admitted hty⟩

theorem handover_of_utilityReached {c : UtilityCall t.RuntimeOrigin (RuntimeCall t)}
    (h : (o', c') ∈ utilityReached env o c) : Handover env o (.utility c) o' c' := by
  cases c with
  | batch calls => exact .ofSame (of_batchReached (of_mem_ite h).2)
  | asDerivative index c =>
    simp only [utilityReached] at h
    split at h
    · rename_i who hwho
      obtain ⟨ho, hf⟩ := of_admitted h
      exact .derived hwho ho hf
    · cases h
  | batchAll calls =>
    obtain ⟨hall, hmem⟩ := of_mem_ite h
    obtain ⟨d, hd, heq⟩ := List.mem_map.mp hmem
    have hsucceeds := List.all_eq_true.mp (Bool.and_eq_true_iff.mp hall).2 d hd
    cases heq
    exact .kept (batchAllOrigin_caller o) (batchAllOrigin_filters o)
      (filterCall_of_succeeds env hsucceeds)
  | dispatchAs asOrigin c => exact .root (of_mem_ite h).1
  | forceBatch calls =>
    obtain ⟨d, -, hd⟩ := List.mem_flatMap.mp (of_mem_ite h).2
    exact .ofSame (of_admitted hd)
  | withWeight c => exact .root (of_mem_ite h).1
  | ifElse main fallback =>
    rcases List.mem_append.mp (of_mem_ite h).2 with hmain | hfallback
    · exact .ofSame (of_admitted hmain)
    · exact .ofSame (of_admitted (of_mem_ite hfallback).2)
  | dispatchAsFallible asOrigin c => exact .root (of_mem_ite h).1

/-- A proxied call is made for the proxied account, by an account. -/
theorem of_proxyReached {c : ProxyCall t.AccountId (RuntimeCall t)}
    (h : (o', c') ∈ proxyReached env o c) :
    ∃ who ty real, signer o.caller = some who ∧ o' = .proxied ty real ∧
      o'.filterCall env c' = true := by
  cases c with
  | proxy real forceProxyType c =>
    simp only [proxyReached] at h
    split at h
    · rename_i who hwho
      obtain ⟨ty, hproxied⟩ := of_proxiedReached h
      exact ⟨who, ty, real, hwho, hproxied⟩
    · cases h
  | proxyAnnounced delegate real forceProxyType c =>
    simp only [proxyReached] at h
    split at h
    · rename_i who hwho
      obtain ⟨ty, hproxied⟩ := of_proxiedReached h
      exact ⟨who, ty, real, hwho, hproxied⟩
    · cases h
  | _ => cases h

/-- A multisig is entered as its account, by one of its signatories. -/
theorem of_multisigReached {c : MultisigCall t.AccountId (RuntimeCall t)}
    (h : (o', c') ∈ multisigReached env o c) :
    ∃ who others threshold, signer o.caller = some who ∧ env.validSignatories who others = true ∧
      o' = .fresh (.signed (env.multiAccountId who others threshold)) ∧
      o'.filterCall env c' = true := by
  cases c with
  | asMultiThreshold1 others c =>
    simp only [multisigReached] at h
    split at h
    · rename_i who hwho
      obtain ⟨hvalid, hmem⟩ := of_mem_ite h
      exact ⟨who, others, 1, hwho, hvalid, of_admitted hmem⟩
    · cases h
  | asMulti threshold others maybeTimepoint c maxWeight =>
    simp only [multisigReached] at h
    split at h
    · rename_i who hwho
      obtain ⟨hchecks, hmem⟩ := of_mem_ite h
      have hvalid := (Bool.and_eq_true_iff.mp (Bool.and_eq_true_iff.mp hchecks).1).2
      exact ⟨who, others, threshold, hwho, hvalid, of_admitted hmem⟩
    · cases h
  | other c => cases h

theorem handover_of_sudoReached {c : SudoCall t.AccountId (RuntimeCall t)}
    (h : (o', c') ∈ sudoReached o c) : Handover env o (.sudo c) o' c' := by
  cases c with
  | other c => cases h
  | _ => exact .sudo (of_mem_ite h).1 rfl

theorem handover_of_scheduledReached {c : SchedulerCall (RuntimeCall t)}
    (h : (o', c') ∈ scheduledReached o c) : Handover env o (.scheduler c) o' c' := by
  cases c with
  | other c => cases h
  | _ => exact .root (of_mem_ite h).1

theorem handover_of_referendaReached {c : ReferendaCall t.RuntimeOrigin (RuntimeCall t)}
    (h : (o', c') ∈ referendaReached env o c) : Handover env o (.referenda c) o' c' := by
  cases c with
  | submit proposalOrigin proposal =>
    simp only [referendaReached] at h
    split at h
    · rename_i who hwho
      obtain ⟨htrack, hmem⟩ := of_mem_ite h
      obtain ⟨rfl, rfl, hf⟩ := (mem_admitted env).mp hmem
      exact .enacted hwho rfl htrack rfl hf
    · cases h
  | other c => cases h

theorem handover_of_polkadotXcmReached {c : PolkadotXcmCall (RuntimeCall t)}
    (h : (o', c') ∈ polkadotXcmReached env o c) : Handover env o (.polkadotXcm c) o' c' := by
  cases c with
  | execute message =>
    simp only [polkadotXcmReached] at h
    split at h
    · rename_i l hl
      obtain ⟨interior, kind, hmem, horigin, hf⟩ := (mem_messageReached env).mp h
      exact .transacted hl rfl hmem horigin hf
    · cases h
  | _ => cases h

/-- A case for each pallet whose calls dispatch others. -/
theorem handover_of_reached {c : RuntimeCall t} (h : (o', c') ∈ reached env o c) :
    Handover env o c o' c' := by
  cases c with
  | utility c => exact handover_of_utilityReached h
  | «sudo» c => exact handover_of_sudoReached h
  | proxy c =>
    obtain ⟨who, ty, real, hwho, ho, hf⟩ := of_proxyReached h
    exact .proxied hwho rfl ho hf
  | multisig c =>
    obtain ⟨who, others, threshold, hwho, hvalid, ho, hf⟩ := of_multisigReached h
    exact .multisig hwho rfl hvalid ho hf
  | scheduler c => exact handover_of_scheduledReached h
  | whitelist c =>
    cases c with
    | dispatchWhitelistedCallWithPreimage c =>
      obtain ⟨hw, hmem⟩ := of_mem_ite h
      cases List.mem_singleton.mp hmem
      exact .whitelisted hw rfl rfl
    | _ => cases h
  | referenda c => exact handover_of_referendaReached h
  | polkadotXcm c => exact handover_of_polkadotXcmReached h
  | _ => cases h

end Reached

/-! ## Chains of dispatches -/

/-- `x` leads to `y`: they are the same, or `x` dispatches a call that leads to `y`. -/
def Leads (env : Environment t) (x y : Origin t × RuntimeCall t) : Prop :=
  Descent.Inside (fun z => reached env z.1 z.2) x y

section Chains

variable {env : Environment t}

theorem leads_enclosed {x y : Origin t × RuntimeCall t} (h : Leads env x y) :
    Descent.Inside enclosed x.2 y.2 := by
  induction h with
  | refl => exact Descent.inside_refl _
  | tail _ hz ih => exact Descent.inside_tail ih (enclosed_of_reached env hz)

theorem mem_payers_of_leads {p : Payer t.AccountId} {x y : Origin t × RuntimeCall t}
    (h : Leads env x y) (hp : p ∈ fundsMoved y.1.caller y.2) : p ∈ payers env x.1 x.2 := by
  induction h using Relation.ReflTransGen.head_induction_on with
  | refl => exact (mem_payers env _ _).mpr (.inl hp)
  | head hz _ ih => exact (mem_payers env _ _).mpr (.inr ⟨_, hz, ih⟩)

/-- From payers to chains is by the size of the call, the other way by the chain. -/
theorem mem_payers_iff_leads {p : Payer t.AccountId} {o : Origin t} {c : RuntimeCall t} :
    p ∈ payers env o c ↔ ∃ y, Leads env (o, c) y ∧ p ∈ fundsMoved y.1.caller y.2 := by
  constructor
  · intro hp
    induction hn : sizeOf c using Nat.strong_induction_on generalizing o c with
    | _ n ih =>
      rcases (mem_payers env o c).mp hp with hown | ⟨⟨o', c'⟩, hreach, hp'⟩
      · exact ⟨(o, c), Descent.inside_refl _, hown⟩
      · have hlt : sizeOf c' < n := hn ▸ sizeOf_enclosed (enclosed_of_reached env hreach)
        obtain ⟨y, hy, hown⟩ := ih _ hlt hp' rfl
        exact ⟨y, Descent.inside_head hreach hy, hown⟩
  · rintro ⟨y, hy, hown⟩
    exact mem_payers_of_leads hy hown

/-- What a call has moved, a call that it leads to moves with its own origin. -/
theorem leads_of_payer {o : Origin t} {c : RuntimeCall t} {moved : List (Payer t.AccountId)}
    (h : .done moved ∈ dispatch env o c) {p : Payer t.AccountId} (hp : p ∈ moved) :
    o.filterCall env c = true ∧
      ∃ y, Leads env (o, c) y ∧ p ∈ fundsMoved y.1.caller y.2 := by
  have hcommits : Outcome.Commits (fun q => q = p) (dispatch env o c) := ⟨moved, h, p, hp, rfl⟩
  rw [(forecast_fits env o c).commits] at hcommits
  obtain ⟨q, hq, rfl⟩ := hcommits
  obtain ⟨hf, hmem⟩ := Interpretation.mem_predict_require.mp hq
  exact ⟨hf, mem_payers_iff_leads.mp hmem⟩

end Chains

end Runtime
end RuntimeTemplates
