import RuntimeTemplates.Runtime.Origin

/-!
# RuntimeTemplates.Governance.Checks

The checks on origins that the governance pallets are configured with: `governance/origins.rs`, and
`GovernanceConfig` in `configs/mod.rs`. Both templates write them with the same text.

* `EnsureOrigin`: a check, which gives the origin back when it refuses it. It decides by the caller
  and gives the same caller back, which is what lets checks be tried one after the other.
* `ensureCustom`: the checks that `decl_unit_ensures!` and `decl_ensure!` declare.
* `Check`: the checks of the configuration. `admits_custom_iff`: the origins of the referenda that
  each of them accepts.
-/

namespace RuntimeTemplates

namespace Evm

def dollars : Nat := 100 * cents

def grand : Nat := 1000 * dollars

end Evm

namespace Generic

def dollars : Nat := 100 * cents

def grand : Nat := 1000 * dollars

end Generic

namespace Template

def cents : Template → Nat
  | .evm => Evm.cents
  | .generic => Generic.cents

def grand : Template → Nat
  | .evm => Evm.grand
  | .generic => Generic.grand

end Template

namespace Governance

open RuntimeTemplates.Runtime

/-! ## Checks -/

/-- `EnsureOrigin<RuntimeOrigin>`. -/
structure EnsureOrigin (t : Template) (Success : Type) where
  tryOrigin : Origin t → Except (Origin t) Success
  caller_of_error : ∀ o o', tryOrigin o = .error o' → o'.caller = o.caller
  decided_by_caller : ∀ o o', o.caller = o'.caller →
    (tryOrigin o).toOption = (tryOrigin o').toOption

namespace EnsureOrigin

variable {t : Template} {S R : Type}

/-- `ensure_origin`, without its error. -/
def success (e : EnsureOrigin t S) (o : Origin t) : Option S := (e.tryOrigin o).toOption

def tryEither (l : EnsureOrigin t S) (r : EnsureOrigin t R) (o : Origin t) :
    Except (Origin t) (S ⊕ R) :=
  match l.tryOrigin o with
  | .ok s => .ok (.inl s)
  | .error o => (r.tryOrigin o).map .inr

theorem toOption_map {ε : Type} (f : S → R) (x : Except ε S) :
    (x.map f).toOption = x.toOption.map f := by
  cases x <;> rfl

theorem tryEither_toOption (l : EnsureOrigin t S) (r : EnsureOrigin t R) (o : Origin t) :
    (tryEither l r o).toOption = ((l.success o).map .inl).or ((r.success o).map .inr) := by
  cases hl : l.tryOrigin o with
  | ok s => simp [tryEither, success, hl, Except.toOption]
  | error o' =>
    -- the second check sees the origin that the first gives back
    have hr : r.success o = (r.tryOrigin o').toOption :=
      r.decided_by_caller o o' (l.caller_of_error o o' hl).symm
    have heither : tryEither l r o = (r.tryOrigin o').map .inr := by rw [tryEither, hl]
    rw [heither, toOption_map, hr, success, hl]
    rfl

theorem caller_of_tryEither_error (l : EnsureOrigin t S) (r : EnsureOrigin t R) (o o' : Origin t)
    (h : tryEither l r o = .error o') : o'.caller = o.caller := by
  unfold tryEither at h
  split at h
  · cases h
  · rename_i o₁ hl
    cases hr : r.tryOrigin o₁ with
    | ok s =>
      rw [hr] at h
      cases h
    | error o₂ =>
      rw [hr] at h
      cases h
      rw [r.caller_of_error o₁ o' hr, l.caller_of_error o o₁ hl]

/-- `EitherOfDiverse<L, R>`. -/
def eitherOfDiverse (l : EnsureOrigin t S) (r : EnsureOrigin t R) : EnsureOrigin t (S ⊕ R) where
  tryOrigin := tryEither l r
  caller_of_error := caller_of_tryEither_error l r
  decided_by_caller o o' h := by
    have hl : l.success o = l.success o' := l.decided_by_caller o o' h
    have hr : r.success o = r.success o' := r.decided_by_caller o o' h
    rw [tryEither_toOption, tryEither_toOption, hl, hr]

theorem eitherOfDiverse_success (l : EnsureOrigin t S) (r : EnsureOrigin t R) (o : Origin t) :
    (eitherOfDiverse l r).success o = ((l.success o).map .inl).or ((r.success o).map .inr) :=
  tryEither_toOption l r o

/-- `EitherOf<L, R>`. -/
def eitherOf (l r : EnsureOrigin t S) : EnsureOrigin t S where
  tryOrigin o := (tryEither l r o).map (Sum.elim id id)
  caller_of_error o o' h := by
    refine caller_of_tryEither_error l r o o' ?_
    cases he : tryEither l r o with
    | ok s =>
      rw [he] at h
      cases h
    | error o₁ =>
      rw [he] at h
      cases h
      rfl
  decided_by_caller o o' h := by
    have heither : (tryEither l r o).toOption = (tryEither l r o').toOption :=
      (eitherOfDiverse l r).decided_by_caller o o' h
    rw [toOption_map, toOption_map, heither]

theorem eitherOf_success (l r : EnsureOrigin t S) (o : Origin t) :
    (eitherOf l r).success o = (l.success o).or (r.success o) := by
  have hmap : (eitherOf l r).success o = (tryEither l r o).toOption.map (Sum.elim id id) :=
    toOption_map _ _
  rw [hmap, tryEither_toOption]
  cases l.success o <;> cases r.success o <;> rfl

end EnsureOrigin

/-! ## The checks of the templates -/

section Declared

variable {t : Template} {S : Type}

/-- A check of `governance/origins.rs`: an origin of the pallet that it refuses, it gives back as a
new origin, without the filters of the old one. -/
def ensureCustom (success : CustomOrigin → Option S) : EnsureOrigin t S where
  tryOrigin o :=
    match o.caller with
    | .origins x =>
      match success x with
      | some s => .ok s
      | none => .error (.fresh (.origins x))
    | _ => .error o
  caller_of_error o o' h := by
    split at h
    · rename_i x hx
      split at h
      · cases h
      · cases h
        exact hx.symm
    · cases h
      rfl
  decided_by_caller o o' h := by
    rw [h]
    split
    · rfl
    · rfl

theorem ensureCustom_success (success : CustomOrigin → Option S) (o : Origin t) :
    (ensureCustom success).success o =
      match o.caller with
      | .origins x => success x
      | _ => none := by
  simp only [EnsureOrigin.success, ensureCustom]
  split
  · split
    · rename_i hs
      exact hs.symm
    · rename_i hs
      exact hs.symm
  · rfl

def treasurer (t : Template) : EnsureOrigin t Unit := ensureCustom fun
  | .treasurer => some ()
  | _ => none

def referendumCanceller (t : Template) : EnsureOrigin t Unit := ensureCustom fun
  | .referendumCanceller => some ()
  | _ => none

def referendumKiller (t : Template) : EnsureOrigin t Unit := ensureCustom fun
  | .referendumKiller => some ()
  | _ => none

def whitelistedCaller (t : Template) : EnsureOrigin t Unit := ensureCustom fun
  | .whitelistedCaller => some ()
  | _ => none

/-- How much an origin may spend. -/
def spendLimit (t : Template) : CustomOrigin → Option Nat
  | .smallTipper => some (250 * 3 * t.cents)
  | .bigTipper => some t.grand
  | .smallSpender => some (10 * t.grand)
  | .mediumSpender => some (100 * t.grand)
  | .bigSpender => some (1000 * t.grand)
  | .treasurer => some (10000 * t.grand)
  | _ => none

def spender (t : Template) : EnsureOrigin t Nat := ensureCustom (spendLimit t)

def ensureRoot (t : Template) : EnsureOrigin t Unit where
  tryOrigin o := if isRoot o.caller then .ok () else .error o
  caller_of_error o o' h := by
    split at h
    · cases h
    · cases h
      rfl
  decided_by_caller o o' h := by
    rw [h]
    split
    · rfl
    · rfl

theorem ensureRoot_success (o : Origin t) :
    (ensureRoot t).success o = if isRoot o.caller then some () else none := by
  simp only [EnsureOrigin.success, ensureRoot]
  split
  · rfl
  · rfl

def dispatchWhitelistedOrigin (t : Template) : EnsureOrigin t Unit :=
  .eitherOf (ensureRoot t) (whitelistedCaller t)

def treasuryRejectOrigin (t : Template) : EnsureOrigin t (Unit ⊕ Unit) :=
  .eitherOfDiverse (ensureRoot t) (treasurer t)

def referendaCancelOrigin (t : Template) : EnsureOrigin t Unit := ensureRoot t

def referendaKillOrigin (t : Template) : EnsureOrigin t Unit := ensureRoot t

def whitelistOrigin (t : Template) : EnsureOrigin t Unit := ensureRoot t

def scheduleOrigin (t : Template) : EnsureOrigin t Unit := ensureRoot t

end Declared

/-- What the calls of the governance pallets check their origin for. `spend` is `Spender`, which the
templates declare for the spends of the treasury. -/
inductive Check where
  | dispatchWhitelisted
  | cancel
  | kill
  | treasuryReject
  | spend
  | whitelist
  | schedule
  deriving DecidableEq

section Admits

variable {t : Template}

def Check.admits (check : Check) (o : Origin t) : Bool :=
  match check with
  | .dispatchWhitelisted => ((dispatchWhitelistedOrigin t).success o).isSome
  | .cancel => ((referendaCancelOrigin t).success o).isSome
  | .kill => ((referendaKillOrigin t).success o).isSome
  | .treasuryReject => ((treasuryRejectOrigin t).success o).isSome
  | .spend => ((spender t).success o).isSome
  | .whitelist => ((whitelistOrigin t).success o).isSome
  | .schedule => ((scheduleOrigin t).success o).isSome

/-- The check of the configuration is the one that the dispatch of whitelisted calls makes. -/
theorem dispatchWhitelisted_admits (o : Origin t) :
    Check.dispatchWhitelisted.admits o = mayDispatchWhitelisted o.caller := by
  rw [Check.admits, dispatchWhitelistedOrigin, EnsureOrigin.eitherOf_success, ensureRoot_success,
    whitelistedCaller, ensureCustom_success]
  cases o.caller with
  | system r => cases r <;> rfl
  | origins x => cases x <;> rfl
  | _ => rfl

/-- The checks that an origin of the pallet passes: one for each of its powers. -/
theorem admits_custom_iff (check : Check) {o : Origin t} {x : CustomOrigin}
    (h : o.caller = .origins x) : check.admits o = true ↔
      (check = .dispatchWhitelisted ∧ x = .whitelistedCaller) ∨
        (check = .treasuryReject ∧ x = .treasurer) ∨
          (check = .spend ∧ (spendLimit t x).isSome = true) := by
  have hroot : isRoot o.caller = false := by rw [h]; rfl
  cases check with
  | dispatchWhitelisted =>
    rw [dispatchWhitelisted_admits, h]
    cases x <;> simp [mayDispatchWhitelisted]
  | treasuryReject =>
    rw [Check.admits, treasuryRejectOrigin, EnsureOrigin.eitherOfDiverse_success,
      ensureRoot_success, hroot, treasurer, ensureCustom_success, h]
    cases x <;> simp
  | spend =>
    rw [Check.admits, spender, ensureCustom_success, h]
    simp
  | cancel => simp [Check.admits, referendaCancelOrigin, ensureRoot_success, hroot]
  | kill => simp [Check.admits, referendaKillOrigin, ensureRoot_success, hroot]
  | whitelist => simp [Check.admits, whitelistOrigin, ensureRoot_success, hroot]
  | schedule => simp [Check.admits, scheduleOrigin, ensureRoot_success, hroot]

end Admits

end Governance
end RuntimeTemplates
