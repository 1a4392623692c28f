import RuntimeTemplates.Runtime.Call

/-!
# RuntimeTemplates.Runtime.Proxy

`ProxyType` and its `InstanceFilter` in `types.rs`, which both templates write with the same text.
The trait has a second method, `is_superset`, that neither template overrides; `pallet_proxy` asks
it whether a proxy may add or remove another one.

* `InstanceFilter`: the trait, with its default for `is_superset`.
* `superset_agrees_iff`: the pairs of types on which the default agrees with what the filters allow.
* `proxyFilter`: the filter a proxied origin carries.
-/

namespace RuntimeTemplates
namespace Runtime

/-- `frame_support::traits::InstanceFilter`. -/
structure InstanceFilter (Self T : Type) where
  filter : Self → T → Bool
  isSuperset : Self → Self → Bool := fun _ _ => false

section Types

variable {t : Template}

/-- `InstanceFilter<RuntimeCall> for ProxyType`: `filter`. -/
def ProxyType.filter (s : ProxyType) (c : RuntimeCall t) : Bool :=
  match s with
  | .any => true
  | .nonTransfer =>
    match c with
    | .balances _ => false
    | _ => true
  | .cancelProxy =>
    match c with
    | .proxy (.rejectAnnouncement _) => true
    | .multisig _ => true
    | _ => false
  | .collator =>
    match c with
    | .collatorSelection _ => true
    | .multisig _ => true
    | _ => false

/-- The instance: `filter` is all that it defines. -/
def instanceFilter (t : Template) : InstanceFilter ProxyType (RuntimeCall t) where
  filter := ProxyType.filter

def ProxyType.isSuperset (t : Template) (s o : ProxyType) : Bool := (instanceFilter t).isSuperset s o

@[simp] theorem isSuperset_eq (s o : ProxyType) : s.isSuperset t o = false := rfl

/-! ## The filters, by the calls they accept -/

/-- Every call that a proxy of type `o` may make, one of type `s` may make. -/
def Includes (t : Template) (s o : ProxyType) : Prop :=
  ∀ c : RuntimeCall t, o.filter c = true → s.filter c = true

theorem includes_any (o : ProxyType) : Includes t .any o := fun _ _ => rfl

theorem includes_self (s : ProxyType) : Includes t s s := fun _ h => h

/-- The two small types make no call of `Balances`. -/
theorem includes_nonTransfer {o : ProxyType} (h : o ≠ .any) : Includes t .nonTransfer o := by
  intro c hc
  cases o with
  | any => exact absurd rfl h
  | nonTransfer => exact hc
  | cancelProxy => cases c <;> first | rfl | cases hc
  | collator => cases c <;> first | rfl | cases hc

theorem not_includes {s o : ProxyType} (c : RuntimeCall t) (ho : o.filter c = true)
    (hs : s.filter c = false) : ¬ Includes t s o := by
  intro h
  rw [h c ho] at hs
  cases hs

def remark : RuntimeCall t := .system (.other ⟨true, true, true, true, false⟩)

theorem includes_iff (s o : ProxyType) :
    Includes t s o ↔ s = .any ∨ s = o ∨ (s = .nonTransfer ∧ o ≠ .any) := by
  constructor
  · intro h
    cases s with
    | any => exact .inl rfl
    | nonTransfer =>
      cases o with
      | any => exact absurd h (not_includes (.balances (.burn 1 true)) rfl rfl)
      | nonTransfer => exact .inr (.inl rfl)
      | cancelProxy => exact .inr (.inr ⟨rfl, by decide⟩)
      | collator => exact .inr (.inr ⟨rfl, by decide⟩)
    | cancelProxy =>
      cases o with
      | any => exact absurd h (not_includes remark rfl rfl)
      | nonTransfer => exact absurd h (not_includes remark rfl rfl)
      | cancelProxy => exact .inr (.inl rfl)
      | collator =>
        exact absurd h (not_includes (.collatorSelection (.setDesiredCandidates 10)) rfl rfl)
    | collator =>
      cases o with
      | any => exact absurd h (not_includes remark rfl rfl)
      | nonTransfer => exact absurd h (not_includes remark rfl rfl)
      | cancelProxy =>
        -- only an account is missing for the call; both templates number them with words
        cases t with
        | evm => exact absurd h (not_includes (.proxy (.rejectAnnouncement (0#160))) rfl rfl)
        | generic => exact absurd h (not_includes (.proxy (.rejectAnnouncement (0#256))) rfl rfl)
      | collator => exact .inr (.inl rfl)
  · rintro (rfl | rfl | ⟨rfl, ho⟩)
    · exact includes_any o
    · exact includes_self s
    · exact includes_nonTransfer ho

end Types

/-! ## The default against the filters -/

/-- The default agrees with the filters exactly where the first type does not include the second:
never for `Any`, nor for a type and itself, and for `NonTransfer` against `Any` only. -/
theorem superset_agrees_iff (t : Template) (s o : ProxyType) :
    (s.isSuperset t o = true ↔ ∀ c : RuntimeCall t, o.filter c = true → s.filter c = true) ↔
      s ≠ .any ∧ s ≠ o ∧ (s = .nonTransfer → o = .any) := by
  have hinc : (∀ c : RuntimeCall t, o.filter c = true → s.filter c = true) ↔
      s = .any ∨ s = o ∨ (s = .nonTransfer ∧ o ≠ .any) := includes_iff s o
  rw [hinc, isSuperset_eq]
  constructor
  · intro h
    have hnot : ¬ (s = .any ∨ s = o ∨ (s = .nonTransfer ∧ o ≠ .any)) := fun hc =>
      Bool.false_ne_true (h.mpr hc)
    obtain ⟨hany, hrest⟩ := not_or.mp hnot
    obtain ⟨hself, hnt⟩ := not_or.mp hrest
    exact ⟨hany, hself, fun hs => not_not.mp fun ho => hnt ⟨hs, ho⟩⟩
  · rintro ⟨hany, hself, hnt⟩
    refine iff_of_false Bool.false_ne_true ?_
    rintro (hs | hs | ⟨hs, ho⟩)
    · exact hany hs
    · exact hself hs
    · exact ho (hnt hs)

/-- `Any` proxies all calls, those of `NonTransfer` too, and is not a superset of it. -/
theorem any_not_superset :
    ¬ (ProxyType.any.isSuperset .evm .nonTransfer = true ↔
        ∀ c : RuntimeCall .evm, ProxyType.nonTransfer.filter c = true →
          ProxyType.any.filter c = true) ∧
      ¬ (ProxyType.any.isSuperset .generic .nonTransfer = true ↔
        ∀ c : RuntimeCall .generic, ProxyType.nonTransfer.filter c = true →
          ProxyType.any.filter c = true) :=
  ⟨fun h => Bool.false_ne_true (h.mpr fun _ _ => rfl),
    fun h => Bool.false_ne_true (h.mpr fun _ _ => rfl)⟩

/-! ## Proxied origins -/

variable {t : Template}

/-- The filter `do_proxy` adds to the origin, for a proxy of type `ty`. -/
def proxyFilter (ty : ProxyType) (c : RuntimeCall t) : Bool :=
  match c with
  | .proxy (.addProxy _ proxyType) => ty.isSuperset t proxyType && ty.filter c
  | .proxy (.removeProxy _ proxyType) => ty.isSuperset t proxyType && ty.filter c
  | .proxy .removeProxies => ty == .any && ty.filter c
  | .proxy .killPure => ty == .any && ty.filter c
  | _ => ty.filter c

/-- What a proxied origin may dispatch, the filter of the proxy accepts. -/
theorem filter_of_proxyFilter {ty : ProxyType} {c : RuntimeCall t} (h : proxyFilter ty c = true) :
    ty.filter c = true := by
  unfold proxyFilter at h
  split at h
  · cases h
  · cases h
  · exact (Bool.and_eq_true_iff.mp h).2
  · exact (Bool.and_eq_true_iff.mp h).2
  · exact h

end Runtime
end RuntimeTemplates
