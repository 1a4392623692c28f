import RuntimeTemplates.Runtime.Carried
import RuntimeTemplates.Runtime.Reach

/-!
# RuntimeTemplates.Runtime.NonTransfer

Whether a `NonTransfer` proxy can move the funds of the account it acts for. Its filter refuses the
calls of `Balances` and accepts every other call.

* `Moves`: a chain of dispatched calls that ends in one that moves the funds of an account.
* `commits_iff_moves`: some way of dispatching a call moves an account's funds exactly if there is
  such a chain.
* `nonTransfer_safe_iff`: a `NonTransfer` proxy cannot move funds through a call exactly if no chain
  leads from the call to a transfer by the account. `nonTransfer_moves_funds`: some do.
-/

namespace RuntimeTemplates
namespace Runtime

open Xcm

variable {t : Template}

/-! ## Chains of calls -/

section Chains

variable (env : Environment t)

/-- A chain of dispatches leads to a call that moves the funds of `who`. -/
inductive Moves (who : t.AccountId) : Origin t → RuntimeCall t → Prop where
  | own {o : Origin t} {c : RuntimeCall t} {p : Payer t.AccountId} :
      p ∈ fundsMoved o.caller c → p.Is who → Moves who o c
  | nested {o o' : Origin t} {c c' : RuntimeCall t} :
      (o', c') ∈ reached env o c → Moves who o' c' → Moves who o c

theorem of_mem_ite {α : Type} {b : Bool} {x : α} {l : List α}
    (h : x ∈ if b = true then l else []) : b = true ∧ x ∈ l := by
  cases b with
  | true => exact ⟨rfl, h⟩
  | false => cases h

theorem mem_admitted {o o' : Origin t} {c c' : RuntimeCall t} :
    (o', c') ∈ admitted env o c ↔ o' = o ∧ c' = c ∧ o'.filterCall env c' = true := by
  unfold admitted
  split
  · rename_i hf
    rw [List.mem_singleton, Prod.mk.injEq]
    constructor
    · rintro ⟨rfl, rfl⟩
      exact ⟨rfl, rfl, hf⟩
    · rintro ⟨rfl, rfl, -⟩
      exact ⟨rfl, rfl⟩
  · rename_i hf
    refine iff_of_false List.not_mem_nil ?_
    rintro ⟨rfl, rfl, hf'⟩
    exact hf hf'

theorem eq_of_admitted {o o' : Origin t} {c c' : RuntimeCall t}
    (h : (o', c') ∈ admitted env o c) : c' = c := ((mem_admitted env).mp h).2.1

theorem mem_batchReached {o o' : Origin t} {c' : RuntimeCall t} {calls : List (RuntimeCall t)}
    (h : (o', c') ∈ batchReached env o calls) : c' ∈ calls := by
  induction calls with
  | nil => cases h
  | cons c cs ih =>
    rw [batchReached, List.mem_append] at h
    rcases h with h | h
    · rw [eq_of_admitted env h]
      exact List.mem_cons_self
    · exact List.mem_cons_of_mem c (ih (of_mem_ite h).2)

theorem eq_of_proxiedReached {delegate real : t.AccountId} {forceProxyType : Option ProxyType}
    {o' : Origin t} {c c' : RuntimeCall t}
    (h : (o', c') ∈ proxiedReached env delegate real forceProxyType c) : c' = c := by
  obtain ⟨-, hmem⟩ := of_mem_ite h
  obtain ⟨ty, -, hty⟩ := List.mem_flatMap.mp hmem
  exact eq_of_admitted env hty

theorem eq_of_mem_ite {α β : Type} {b : Bool} {x x' : α} {y y' : β}
    (h : (x', y') ∈ if b = true then [(x, y)] else []) : y' = y :=
  congrArg Prod.snd (List.mem_singleton.mp (of_mem_ite h).2)

theorem carried_of_utilityReached {o o' : Origin t} {c' : RuntimeCall t}
    {c : UtilityCall t.RuntimeOrigin (RuntimeCall t)} (h : (o', c') ∈ utilityReached env o c) :
    c' ∈ c.carried := by
  cases c with
  | batch calls => exact mem_batchReached env (of_mem_ite h).2
  | asDerivative index c =>
    simp only [utilityReached] at h
    split at h
    · exact List.mem_singleton.mpr (eq_of_admitted env h)
    · cases h
  | batchAll calls =>
    obtain ⟨c, hc, heq⟩ := List.mem_map.mp (of_mem_ite h).2
    cases heq
    exact hc
  | dispatchAs asOrigin c => exact List.mem_singleton.mpr (eq_of_mem_ite h)
  | forceBatch calls =>
    obtain ⟨c, hc, hadm⟩ := List.mem_flatMap.mp (of_mem_ite h).2
    rw [eq_of_admitted env hadm]
    exact hc
  | withWeight c => exact List.mem_singleton.mpr (eq_of_mem_ite h)
  | ifElse main fallback =>
    rcases List.mem_append.mp (of_mem_ite h).2 with hmain | hfallback
    · exact List.mem_pair.mpr (.inl (eq_of_admitted env hmain))
    · exact List.mem_pair.mpr (.inr (eq_of_admitted env (of_mem_ite hfallback).2))
  | dispatchAsFallible asOrigin c => exact List.mem_singleton.mpr (eq_of_mem_ite h)

theorem carried_of_sudoReached {o o' : Origin t} {c' : RuntimeCall t}
    {c : SudoCall t.AccountId (RuntimeCall t)} (h : (o', c') ∈ sudoReached o c) :
    c' ∈ c.carried := by
  cases c with
  | other c => cases h
  | _ => exact List.mem_singleton.mpr (eq_of_mem_ite h)

theorem carried_of_proxyReached {o o' : Origin t} {c' : RuntimeCall t}
    {c : ProxyCall t.AccountId (RuntimeCall t)} (h : (o', c') ∈ proxyReached env o c) :
    c' ∈ c.carried := by
  cases c with
  | proxy real forceProxyType c =>
    simp only [proxyReached] at h
    split at h
    · exact List.mem_singleton.mpr (eq_of_proxiedReached env h)
    · cases h
  | proxyAnnounced delegate real forceProxyType c =>
    simp only [proxyReached] at h
    split at h
    · exact List.mem_singleton.mpr (eq_of_proxiedReached env h)
    · cases h
  | _ => cases h

theorem carried_of_multisigReached {o o' : Origin t} {c' : RuntimeCall t}
    {c : MultisigCall t.AccountId (RuntimeCall t)} (h : (o', c') ∈ multisigReached env o c) :
    c' ∈ c.carried := by
  cases c with
  | asMultiThreshold1 others c =>
    simp only [multisigReached] at h
    split at h
    · exact List.mem_singleton.mpr (eq_of_admitted env (of_mem_ite h).2)
    · cases h
  | asMulti threshold others maybeTimepoint c maxWeight =>
    simp only [multisigReached] at h
    split at h
    · exact List.mem_singleton.mpr (eq_of_admitted env (of_mem_ite h).2)
    · cases h
  | other c => cases h

theorem carried_of_scheduledReached {o o' : Origin t} {c' : RuntimeCall t}
    {c : SchedulerCall (RuntimeCall t)} (h : (o', c') ∈ scheduledReached o c) :
    c' ∈ c.carried := by
  cases c with
  | other c => cases h
  | _ => exact List.mem_singleton.mpr (eq_of_mem_ite h)

/-- What a message dispatches are its transacts, with the origins that these have. -/
theorem mem_messageReached {l : Location} {message : List (Instruction (RuntimeCall t))}
    {o' : Origin t} {c' : RuntimeCall t} : (o', c') ∈ messageReached env l message ↔
      ∃ interior kind, .transact interior kind c' ∈ message ∧
        transactOrigin t l interior kind = some o' ∧ o'.filterCall env c' = true := by
  rw [messageReached, List.mem_flatMap]
  constructor
  · rintro ⟨i, hi, hmem⟩
    cases i with
    | withdrawAsset interior => cases hmem
    | transact interior kind c =>
      simp only [Instruction.reached] at hmem
      split at hmem
      · rename_i ho
        obtain ⟨rfl, rfl, hf⟩ := (mem_admitted env).mp hmem
        exact ⟨interior, kind, hi, ho, hf⟩
      · cases hmem
  · rintro ⟨interior, kind, hi, ho, hf⟩
    refine ⟨_, hi, ?_⟩
    simp only [Instruction.reached, ho]
    exact (mem_admitted env).mpr ⟨rfl, rfl, hf⟩

theorem enclosed_of_polkadotXcmReached {o o' : Origin t} {c' : RuntimeCall t}
    {c : PolkadotXcmCall (RuntimeCall t)} (h : (o', c') ∈ polkadotXcmReached env o c) :
    c' ∈ enclosed (.polkadotXcm c) := by
  cases c with
  | execute message =>
    simp only [polkadotXcmReached] at h
    split at h
    · obtain ⟨interior, kind, hmem, -⟩ := (mem_messageReached env).mp h
      exact mem_message_carried.mpr ⟨interior, kind, hmem⟩
    · cases h
  | _ => cases h

theorem enclosed_of_referendaReached {o o' : Origin t} {c' : RuntimeCall t}
    {c : ReferendaCall t.RuntimeOrigin (RuntimeCall t)} (h : (o', c') ∈ referendaReached env o c) :
    c' ∈ enclosed (.referenda c) := by
  cases c with
  | submit proposalOrigin proposal =>
    simp only [referendaReached] at h
    split at h
    · exact List.mem_singleton.mpr (eq_of_admitted env (of_mem_ite h).2)
    · cases h
  | other c => cases h

/-- A call dispatches no call that is not inside it. -/
theorem enclosed_of_reached {o o' : Origin t} {c c' : RuntimeCall t}
    (h : (o', c') ∈ reached env o c) : c' ∈ enclosed c := by
  cases c with
  | utility c => exact carried_of_utilityReached env h
  | «sudo» c => exact carried_of_sudoReached h
  | proxy c => exact carried_of_proxyReached env h
  | multisig c => exact carried_of_multisigReached env h
  | scheduler c => exact carried_of_scheduledReached h
  | whitelist c =>
    cases c with
    | dispatchWhitelistedCallWithPreimage c => exact List.mem_singleton.mpr (eq_of_mem_ite h)
    | _ => cases h
  | referenda c => exact enclosed_of_referendaReached env h
  | polkadotXcm c => exact enclosed_of_polkadotXcmReached env h
  | _ => cases h

theorem filter_of_filterCall {ty : ProxyType} {real : t.AccountId} {c : RuntimeCall t}
    (h : (Origin.proxied ty real).filterCall env c = true) : ty.filter c = true := by
  -- a signed origin is not root, so its one filter counts
  have hboth : (env.baseCallFilter c && (proxyFilter ty c && true)) = true := h
  rw [Bool.and_true, Bool.and_eq_true] at hboth
  exact filter_of_proxyFilter hboth.2

/-- A forecast finds a payer that is `who` exactly if a chain of dispatches leads to a call that
moves the funds of `who`. Payers to chains is by the size of the call, the other way by the
chain. -/
theorem moves_iff (who : t.AccountId) (o : Origin t) (c : RuntimeCall t) :
    Moves env who o c ↔ ∃ p ∈ payers env o c, p.Is who := by
  constructor
  · intro h
    induction h with
    | own hp hwho => exact ⟨_, (mem_payers env _ _).mpr (.inl hp), hwho⟩
    | nested hreach _ ih =>
      obtain ⟨p, hp, hwho⟩ := ih
      exact ⟨p, (mem_payers env _ _).mpr (.inr ⟨_, hreach, hp⟩), hwho⟩
  · rintro ⟨p, hp, hwho⟩
    induction hn : sizeOf c using Nat.strong_induction_on generalizing o c with
    | _ n ih =>
      rcases (mem_payers env o c).mp hp with hown | ⟨⟨o', c'⟩, hreach, hp'⟩
      · exact .own hown hwho
      · have hlt : sizeOf c' < n := hn ▸ sizeOf_enclosed (enclosed_of_reached env hreach)
        exact .nested hreach (ih _ hlt o' c' hp' rfl)

/-- Some way of dispatching a call moves funds of `who` exactly if the origin may make the call and
a chain of dispatches leads from it to one that moves them. -/
theorem commits_iff_moves (who : t.AccountId) (o : Origin t) (c : RuntimeCall t) :
    Outcome.Commits (Payer.Is who) (dispatch env o c) ↔
      o.filterCall env c = true ∧ Moves env who o c := by
  rw [(forecast_fits env o c).commits, moves_iff]
  constructor
  · rintro ⟨p, hp, hwho⟩
    obtain ⟨hf, hmem⟩ := Interpretation.mem_predict_require.mp hp
    exact ⟨hf, p, hmem, hwho⟩
  · rintro ⟨hf, p, hmem, hwho⟩
    exact ⟨p, Interpretation.mem_predict_require.mpr ⟨hf, hmem⟩, hwho⟩

/-- A `NonTransfer` proxy for `real` moves no funds of `real` with a call it accepts exactly if no
chain of dispatches leads from the call to one that moves them. -/
theorem nonTransfer_safe_iff (env : Environment t) (real : t.AccountId) (c : RuntimeCall t) :
    (ProxyType.nonTransfer.filter c = true →
        ∀ moved, .done moved ∈ dispatch env (.proxied .nonTransfer real) c →
          ∀ p ∈ moved, ¬ p.Is real) ↔
      ¬ ((Origin.proxied .nonTransfer real).filterCall env c = true ∧
        Moves env real (.proxied .nonTransfer real) c) := by
  rw [← commits_iff_moves]
  constructor
  · intro h hmoves
    have hfilter : ProxyType.nonTransfer.filter c = true :=
      filter_of_filterCall env ((commits_iff_moves env real _ c).mp hmoves).1
    obtain ⟨moved, hmoved, p, hp, his⟩ := hmoves
    exact h hfilter moved hmoved p hp his
  · intro h _ moved hmoved p hp his
    exact h ⟨moved, hmoved, p, hp, his⟩

end Chains

/-! ## A transfer that the filter accepts -/

/-- A runtime that filters no call of its own. -/
def openEnvironment (t : Template) : Environment t where
  baseCallFilter _ := true
  derivativeAccountId who _ := who
  multiAccountId who _ _ := who
  validSignatories _ _ := true
  callWeight _ := ⟨0, 0⟩
  batchedCallsLimit := 10

/-- A transfer of an asset is no call of `Balances`. -/
theorem nonTransfer_moves_funds :
    ¬ (ProxyType.nonTransfer.filter (.assets (.transfer 7 2 5) : RuntimeCall .evm) = true →
        ∀ moved, .done moved ∈ dispatch (openEnvironment .evm) (.proxied .nonTransfer 1)
          (.assets (.transfer 7 2 5)) → ∀ p ∈ moved, ¬ p.Is 1) ∧
      ¬ (ProxyType.nonTransfer.filter (.assets (.transfer 7 2 5) : RuntimeCall .generic) = true →
        ∀ moved, .done moved ∈ dispatch (openEnvironment .generic) (.proxied .nonTransfer 1)
          (.assets (.transfer 7 2 5)) → ∀ p ∈ moved, ¬ p.Is 1) := by
  constructor
  · intro h
    exact h rfl [.account 1] (by decide) (.account 1) (by decide) (by decide)
  · intro h
    exact h rfl [.account 1] (by decide) (.account 1) (by decide) (by decide)

end Runtime
end RuntimeTemplates
