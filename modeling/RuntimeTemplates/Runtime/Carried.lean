import RuntimeTemplates.Runtime.Call

/-!
# RuntimeTemplates.Runtime.Carried

The calls inside a call, which it dispatches or has dispatched later.

* `carried`: these calls, for each wrapper.
* `enclosed`: also those of a message that the call has executed, and the proposal of a referendum.
* `sizeOf_carried`, `sizeOf_enclosed`: they are smaller than the call, so that descents end.
-/

namespace RuntimeTemplates
namespace Runtime

variable {t : Template}

def UtilityCall.carried {PalletsOrigin Call : Type} : UtilityCall PalletsOrigin Call → List Call
  | .batch calls => calls
  | .asDerivative _ call => [call]
  | .batchAll calls => calls
  | .dispatchAs _ call => [call]
  | .forceBatch calls => calls
  | .withWeight call => [call]
  | .ifElse main fallback => [main, fallback]
  | .dispatchAsFallible _ call => [call]

def SudoCall.carried {AccountId Call : Type} : SudoCall AccountId Call → List Call
  | .sudo call => [call]
  | .sudoUncheckedWeight call => [call]
  | .sudoAs _ call => [call]
  | .other _ => []

def ProxyCall.carried {AccountId Call : Type} : ProxyCall AccountId Call → List Call
  | .proxy _ _ call => [call]
  | .proxyAnnounced _ _ _ call => [call]
  | _ => []

def MultisigCall.carried {AccountId Call : Type} : MultisigCall AccountId Call → List Call
  | .asMultiThreshold1 _ call => [call]
  | .asMulti _ _ _ call _ => [call]
  | .other _ => []

def SchedulerCall.carried {Call : Type} : SchedulerCall Call → List Call
  | .schedule call => [call]
  | .scheduleNamed call => [call]
  | .scheduleAfter call => [call]
  | .scheduleNamedAfter call => [call]
  | .other _ => []

def WhitelistCall.carried {Call : Type} : WhitelistCall Call → List Call
  | .dispatchWhitelistedCallWithPreimage call => [call]
  | _ => []

/-- The calls that a wrapper carries, to dispatch or to schedule them. -/
def carried : RuntimeCall t → List (RuntimeCall t)
  | .utility c => c.carried
  | .sudo c => c.carried
  | .proxy c => c.carried
  | .multisig c => c.carried
  | .scheduler c => c.carried
  | .whitelist c => c.carried
  | _ => []

/-! ## Their sizes -/

theorem UtilityCall.sizeOf_carried {c : UtilityCall t.RuntimeOrigin (RuntimeCall t)}
    {d : RuntimeCall t} (h : d ∈ c.carried) : sizeOf d < sizeOf c := by
  cases c with
  | batch calls =>
    have hmem : sizeOf d < sizeOf calls := List.sizeOf_lt_of_mem h
    simp only [UtilityCall.batch.sizeOf_spec]
    omega
  | batchAll calls =>
    have hmem : sizeOf d < sizeOf calls := List.sizeOf_lt_of_mem h
    simp only [UtilityCall.batchAll.sizeOf_spec]
    omega
  | forceBatch calls =>
    have hmem : sizeOf d < sizeOf calls := List.sizeOf_lt_of_mem h
    simp only [UtilityCall.forceBatch.sizeOf_spec]
    omega
  | ifElse main fallback =>
    simp only [UtilityCall.ifElse.sizeOf_spec]
    rcases List.mem_pair.mp h with rfl | rfl
    · omega
    · omega
  | asDerivative index call =>
    rw [List.mem_singleton.mp h, UtilityCall.asDerivative.sizeOf_spec]
    omega
  | dispatchAs asOrigin call =>
    rw [List.mem_singleton.mp h, UtilityCall.dispatchAs.sizeOf_spec]
    omega
  | withWeight call =>
    rw [List.mem_singleton.mp h, UtilityCall.withWeight.sizeOf_spec]
    omega
  | dispatchAsFallible asOrigin call =>
    rw [List.mem_singleton.mp h, UtilityCall.dispatchAsFallible.sizeOf_spec]
    omega

theorem SudoCall.sizeOf_carried {c : SudoCall t.AccountId (RuntimeCall t)} {d : RuntimeCall t}
    (h : d ∈ c.carried) : sizeOf d < sizeOf c := by
  cases c with
  | other c => cases h
  | sudoAs who call =>
    rw [List.mem_singleton.mp h, SudoCall.sudoAs.sizeOf_spec]
    omega
  | _ =>
    rw [List.mem_singleton.mp h]
    simp

theorem ProxyCall.sizeOf_carried {c : ProxyCall t.AccountId (RuntimeCall t)} {d : RuntimeCall t}
    (h : d ∈ c.carried) : sizeOf d < sizeOf c := by
  cases c with
  | proxy real forceProxyType call =>
    rw [List.mem_singleton.mp h, ProxyCall.proxy.sizeOf_spec]
    omega
  | proxyAnnounced delegate real forceProxyType call =>
    rw [List.mem_singleton.mp h, ProxyCall.proxyAnnounced.sizeOf_spec]
    omega
  | _ => cases h

theorem MultisigCall.sizeOf_carried {c : MultisigCall t.AccountId (RuntimeCall t)}
    {d : RuntimeCall t} (h : d ∈ c.carried) : sizeOf d < sizeOf c := by
  cases c with
  | asMultiThreshold1 others call =>
    rw [List.mem_singleton.mp h, MultisigCall.asMultiThreshold1.sizeOf_spec]
    omega
  | asMulti threshold others maybeTimepoint call maxWeight =>
    rw [List.mem_singleton.mp h, MultisigCall.asMulti.sizeOf_spec]
    omega
  | other c => cases h

theorem SchedulerCall.sizeOf_carried {c : SchedulerCall (RuntimeCall t)} {d : RuntimeCall t}
    (h : d ∈ c.carried) : sizeOf d < sizeOf c := by
  cases c with
  | other c => cases h
  | _ =>
    rw [List.mem_singleton.mp h]
    simp

theorem sizeOf_carried {c d : RuntimeCall t} (h : d ∈ carried c) : sizeOf d < sizeOf c := by
  cases c with
  | utility c =>
    have hc := c.sizeOf_carried h
    rw [RuntimeCall.utility.sizeOf_spec]
    omega
  | «sudo» c =>
    have hc := c.sizeOf_carried h
    rw [RuntimeCall.sudo.sizeOf_spec]
    omega
  | proxy c =>
    have hc := c.sizeOf_carried h
    rw [RuntimeCall.proxy.sizeOf_spec]
    omega
  | multisig c =>
    have hc := c.sizeOf_carried h
    rw [RuntimeCall.multisig.sizeOf_spec]
    omega
  | scheduler c =>
    have hc := c.sizeOf_carried h
    rw [RuntimeCall.scheduler.sizeOf_spec]
    omega
  | whitelist c =>
    cases c with
    | dispatchWhitelistedCallWithPreimage call =>
      rw [List.mem_singleton.mp h, RuntimeCall.whitelist.sizeOf_spec,
        WhitelistCall.dispatchWhitelistedCallWithPreimage.sizeOf_spec]
      omega
    | _ => cases h
  | _ => cases h

/-! ## Messages and proposals -/

def Instruction.carried {Call : Type} : Instruction Call → List Call
  | .withdrawAsset _ => []
  | .transact _ _ call => [call]

/-- All the calls inside a call: besides those of a wrapper, the ones that its message has
dispatched, and the one that it proposes. -/
def enclosed : RuntimeCall t → List (RuntimeCall t)
  | .polkadotXcm (.execute message) => message.flatMap Instruction.carried
  | .referenda (.submit _ proposal) => [proposal]
  | c => carried c

theorem mem_message_carried {Call : Type} {message : List (Instruction Call)} {d : Call} :
    d ∈ message.flatMap Instruction.carried ↔
      ∃ interior kind, .transact interior kind d ∈ message := by
  rw [List.mem_flatMap]
  constructor
  · rintro ⟨i, hi, hd⟩
    cases i with
    | withdrawAsset interior => cases hd
    | transact interior kind call =>
      cases List.mem_singleton.mp hd
      exact ⟨interior, kind, hi⟩
  · rintro ⟨interior, kind, hi⟩
    exact ⟨_, hi, List.mem_singleton.mpr rfl⟩

theorem sizeOf_enclosed {c d : RuntimeCall t} (h : d ∈ enclosed c) : sizeOf d < sizeOf c := by
  unfold enclosed at h
  split at h
  · rename_i message
    obtain ⟨interior, kind, hi⟩ := mem_message_carried.mp h
    have hmem := List.sizeOf_lt_of_mem hi
    rw [Instruction.transact.sizeOf_spec] at hmem
    rw [RuntimeCall.polkadotXcm.sizeOf_spec, PolkadotXcmCall.execute.sizeOf_spec]
    omega
  · rw [List.mem_singleton.mp h, RuntimeCall.referenda.sizeOf_spec,
      ReferendaCall.submit.sizeOf_spec]
    omega
  · exact sizeOf_carried h

end Runtime
end RuntimeTemplates
