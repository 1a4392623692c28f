import Mathlib.Algebra.GroupWithZero.Nat
import RuntimeTemplates.Lib.Attempts

/-!
# RuntimeTemplates.Credits

`AssetsToBlockAuthor` of the EVM template: what becomes of the fees that are paid in assets. A fee
comes as a credit of the assets pallet, an amount that has left the balance of its payer but still
counts as issued. The author of the block gets it, or it is dropped and not issued any more.

* `handleCredit`, `handleCredits`: over any assets pallet, as the code has it.
* `Ledger`, `Lawful`: what the pallet keeps, and what it promises of `resolve` and of a drop.
* `credits_settled`: after the credits of a block, all that is issued is on some balance.
-/

namespace RuntimeTemplates
namespace Evm
namespace Credits

/-- `Credit` of the assets pallet. -/
structure Credit (AssetId : Type) where
  asset : AssetId
  amount : Nat

variable {σ AssetId AccountId : Type}

/-! ## The handler -/

section Handler

variable (resolve : AccountId → Credit AssetId → σ → Except (Credit AssetId) Unit × σ)
  (onDrop : Credit AssetId → σ → σ) (author : Option AccountId)

/-- `AssetsToBlockAuthor::handle_credit`, for the author of the block. -/
def handleCredit (credit : Credit AssetId) (s : σ) : σ :=
  match author with
  | some author =>
    match resolve author credit s with
    | (.ok (), s) => s
    -- the result is dropped, and with it the credit that came back
    | (.error credit, s) => onDrop credit s
  | none => onDrop credit s

def handleCredits (credits : List (Credit AssetId)) (s : σ) : σ :=
  credits.foldl (fun s credit => handleCredit resolve onDrop author credit s) s

/-- The author gets the credit. -/
def paid (credit : Credit AssetId) (s : σ) : Except Unit Unit :=
  match author with
  | some author =>
    match (resolve author credit s).1 with
    | .ok () => .ok ()
    | .error _ => .error ()
  | none => .error ()

/-- The handler with its outcome. -/
def attempt (credit : Credit AssetId) (s : σ) : Except Unit Unit × σ :=
  (paid resolve author credit s, handleCredit resolve onDrop author credit s)

theorem handleCredits_eq (credits : List (Credit AssetId)) (s : σ) :
    handleCredits resolve onDrop author credits s =
      Attempts.attemptAll (attempt resolve onDrop author) credits s := rfl

variable {resolve onDrop} {who : AccountId} {credit : Credit AssetId} {s s' : σ}

theorem attempt_paid (h : resolve who credit s = (.ok (), s')) :
    attempt resolve onDrop (some who) credit s = (.ok (), s') := by
  simp [attempt, paid, handleCredit, h]

theorem attempt_returned {credit' : Credit AssetId}
    (h : resolve who credit s = (.error credit', s')) :
    attempt resolve onDrop (some who) credit s = (.error (), onDrop credit' s') := by
  simp [attempt, paid, handleCredit, h]

end Handler

/-! ## The promises of the pallet -/

/-- What the pallet keeps of each asset: the balances, their sum, and how much is issued. -/
structure Ledger (σ AssetId AccountId : Type) where
  balance : σ → AssetId → AccountId → Nat
  held : σ → AssetId → Nat
  issuance : σ → AssetId → Nat

variable [DecidableEq AssetId] [DecidableEq AccountId]

/-- The part of a credit that counts for `id`. -/
def Credit.amountOf (id : AssetId) (credit : Credit AssetId) : Nat :=
  if credit.asset = id then credit.amount else 0

/-- A credit is resolved as a whole, or it comes back and nothing has changed. A credit that is
dropped is not issued any more. -/
structure Lawful (ledger : Ledger σ AssetId AccountId)
    (resolve : AccountId → Credit AssetId → σ → Except (Credit AssetId) Unit × σ)
    (onDrop : Credit AssetId → σ → σ) : Prop where
  resolved : ∀ author credit s s', resolve author credit s = (.ok (), s') → ∀ id,
    (∀ who, ledger.balance s' id who =
      ledger.balance s id who + if who = author then credit.amountOf id else 0) ∧
        ledger.held s' id = ledger.held s id + credit.amountOf id ∧
          ledger.issuance s' id = ledger.issuance s id
  returned : ∀ author credit s credit' s', resolve author credit s = (.error credit', s') →
    credit' = credit ∧ s' = s
  dropped : ∀ credit s id, ledger.balance (onDrop credit s) id = ledger.balance s id ∧
    ledger.held (onDrop credit s) id = ledger.held s id ∧
      ledger.issuance (onDrop credit s) id = ledger.issuance s id - credit.amountOf id

section Settlement

variable {ledger : Ledger σ AssetId AccountId}
  {resolve : AccountId → Credit AssetId → σ → Except (Credit AssetId) Unit × σ}
  {onDrop : Credit AssetId → σ → σ} {author : Option AccountId}

/-- The author has the credit, or it was dropped. -/
theorem attempt_cases (h : Lawful ledger resolve onDrop) (author : Option AccountId)
    (credit : Credit AssetId) (s : σ) :
    (Attempts.succeeds (attempt resolve onDrop author) credit s = true ∧
        ∃ who, author = some who ∧
          resolve who credit s = (.ok (), (attempt resolve onDrop author credit s).2)) ∨
      Attempts.succeeds (attempt resolve onDrop author) credit s = false ∧
        (attempt resolve onDrop author credit s).2 = onDrop credit s := by
  cases author with
  | none => exact .inr ⟨rfl, rfl⟩
  | some who =>
    cases hr : resolve who credit s with
    | mk r s' =>
      cases r with
      | ok u =>
        rw [Attempts.succeeds, attempt_paid hr]
        exact .inl ⟨rfl, who, rfl, hr⟩
      | error credit' =>
        obtain ⟨rfl, rfl⟩ := h.returned who credit s credit' s' hr
        rw [Attempts.succeeds, attempt_returned hr]
        exact .inr ⟨rfl, rfl⟩

/-- All that is issued is on some balance or in a credit that is still to come. -/
def Issued (ledger : Ledger σ AssetId AccountId) (credits : List (Credit AssetId)) (s : σ) : Prop :=
  ∀ id, ledger.issuance s id = ledger.held s id + (credits.map (Credit.amountOf id)).sum

theorem issued_attempt (h : Lawful ledger resolve onDrop) (credit : Credit AssetId)
    (credits : List (Credit AssetId)) (s : σ) (hs : Issued ledger (credit :: credits) s) :
    Issued ledger credits (attempt resolve onDrop author credit s).2 := by
  intro id
  have hid := hs id
  rw [List.map_cons, List.sum_cons] at hid
  rcases attempt_cases h author credit s with ⟨-, who, -, hok⟩ | ⟨-, hdrop⟩
  · obtain ⟨-, hheld, hissuance⟩ := h.resolved who credit s _ hok id
    omega
  · obtain ⟨-, hheld, hissuance⟩ := h.dropped credit s id
    rw [hdrop]
    omega

theorem balance_attempt (h : Lawful ledger resolve onDrop) (id : AssetId) (who : AccountId)
    (credit : Credit AssetId) (s : σ) :
    ledger.balance (attempt resolve onDrop author credit s).2 id who = ledger.balance s id who +
      if Attempts.succeeds (attempt resolve onDrop author) credit s = true then
        if author = some who then credit.amountOf id else 0
      else 0 := by
  rcases attempt_cases h author credit s with ⟨hpaid, who', rfl, hok⟩ | ⟨hpaid, hdrop⟩
  · obtain ⟨hbalance, -⟩ := h.resolved who' credit s _ hok id
    rw [hbalance, if_pos hpaid]
    simp [eq_comm]
  · obtain ⟨hbalance, -⟩ := h.dropped credit s id
    rw [hdrop, hbalance, hpaid]
    rfl

theorem held_attempt (h : Lawful ledger resolve onDrop) (id : AssetId) (credit : Credit AssetId)
    (s : σ) :
    ledger.held (attempt resolve onDrop author credit s).2 id = ledger.held s id +
      if Attempts.succeeds (attempt resolve onDrop author) credit s = true then
        credit.amountOf id
      else 0 := by
  rcases attempt_cases h author credit s with ⟨hpaid, who, -, hok⟩ | ⟨hpaid, hdrop⟩
  · obtain ⟨-, hheld, -⟩ := h.resolved who credit s _ hok id
    rw [hheld, if_pos hpaid]
  · obtain ⟨-, hheld, -⟩ := h.dropped credit s id
    rw [hdrop, hheld, hpaid]
    rfl

omit [DecidableEq AssetId] [DecidableEq AccountId] in
theorem not_paid_of_no_author (credit : Credit AssetId) (s : σ) :
    Attempts.succeeds (attempt resolve onDrop none) credit s = false := rfl

/-- If all that is issued is on some balance or in a credit of the block, then after the block all
is on some balance: each credit was paid to the author, or is issued no more. -/
theorem credits_settled (ledger : Ledger σ AssetId AccountId)
    (resolve : AccountId → Credit AssetId → σ → Except (Credit AssetId) Unit × σ)
    (onDrop : Credit AssetId → σ → σ) (h : Lawful ledger resolve onDrop)
    (author : Option AccountId) (credits : List (Credit AssetId)) (s : σ)
    (hs : Issued ledger credits s) :
    let final := handleCredits resolve onDrop author credits s
    let paid := Attempts.succeeded (attempt resolve onDrop author) credits s
    let dropped := Attempts.failed (attempt resolve onDrop author) credits s
    (paid ++ dropped).Perm credits ∧ (author = none → paid = []) ∧
      ∀ id, ledger.issuance final id = ledger.held final id ∧
        ledger.held final id = ledger.held s id + (paid.map (Credit.amountOf id)).sum ∧
          ∀ who, ledger.balance final id who = ledger.balance s id who +
            if author = some who then (paid.map (Credit.amountOf id)).sum else 0 := by
  intro final paid dropped
  have hfinal : final = Attempts.attemptAll (attempt resolve onDrop author) credits s :=
    handleCredits_eq resolve onDrop author credits s
  have hissued : Issued ledger [] final := by
    rw [hfinal]
    exact Attempts.attemptAll_settles (fun credit credits s => issued_attempt h credit credits s) hs
  refine ⟨Attempts.succeeded_append_failed_perm _ credits s, ?_, ?_⟩
  · rintro rfl
    exact Attempts.succeeded_eq_nil not_paid_of_no_author credits s
  · intro id
    refine ⟨hissued id, ?_, ?_⟩
    · rw [hfinal]
      exact Attempts.attemptAll_gain (fun s => ledger.held s id) (Credit.amountOf id)
        (fun credit _ s => held_attempt h id credit s) s
    · intro who
      have hgain : ∀ credit ∈ credits, ∀ s,
          ledger.balance (attempt resolve onDrop author credit s).2 id who =
            ledger.balance s id who +
            if Attempts.succeeds (attempt resolve onDrop author) credit s = true then
              if author = some who then credit.amountOf id else 0
            else 0 := fun credit _ s => balance_attempt h id who credit s
      rw [hfinal, Attempts.attemptAll_gain (fun s => ledger.balance s id who) _ hgain]
      by_cases hwho : author = some who
      · simp only [if_pos hwho]
        rfl
      · simp [if_neg hwho]

end Settlement

/-! ## A block -/

/-- The books of a pallet that does not open an account for less than ten units. -/
structure SamplePallet where
  balance : Nat → Nat → Nat
  held : Nat → Nat
  issuance : Nat → Nat

def sampleLedger : Ledger SamplePallet Nat Nat where
  balance := SamplePallet.balance
  held := SamplePallet.held
  issuance := SamplePallet.issuance

def sampleResolve (who : Nat) (credit : Credit Nat) (s : SamplePallet) :
    Except (Credit Nat) Unit × SamplePallet :=
  if s.balance credit.asset who + credit.amount < 10 then (.error credit, s)
  else (.ok (), { s with
    balance := fun id who' =>
      s.balance id who' + if who' = who then credit.amountOf id else 0
    held := fun id => s.held id + credit.amountOf id })

def sampleDrop (credit : Credit Nat) (s : SamplePallet) : SamplePallet :=
  { s with issuance := fun id => s.issuance id - credit.amountOf id }

theorem sample_lawful : Lawful sampleLedger sampleResolve sampleDrop where
  resolved := by
    intro author credit s s' h id
    unfold sampleResolve at h
    split at h
    · cases h
    · cases h
      exact ⟨fun _ => rfl, rfl, rfl⟩
  returned := by
    intro author credit s credit' s' h
    unfold sampleResolve at h
    split at h
    · cases h
      exact ⟨rfl, rfl⟩
    · cases h
  dropped := fun _ _ _ => ⟨rfl, rfl, rfl⟩

/-- The first credit is too small to open the account of the author. -/
def sampleCredits : List (Credit Nat) := [⟨1, 4⟩, ⟨1, 15⟩, ⟨2, 30⟩, ⟨1, 3⟩]

/-- The payers have 100 units left of the first asset, and none of the second. -/
def sampleBlock : SamplePallet where
  balance := fun id who => if id = 1 ∧ who = 9 then 100 else 0
  held := fun id => if id = 1 then 100 else 0
  issuance := fun id => if id = 1 then 122 else if id = 2 then 30 else 0

theorem sample_issued : Issued sampleLedger sampleCredits sampleBlock := by
  intro id
  by_cases h₁ : id = 1
  · subst h₁
    rfl
  · by_cases h₂ : id = 2
    · subst h₂
      rfl
    · simp [sampleLedger, sampleBlock, sampleCredits, Credit.amountOf, h₁, h₂, Ne.symm h₁,
        Ne.symm h₂]

theorem sampleCredits_settled :
    (handleCredits sampleResolve sampleDrop (some 7) sampleCredits sampleBlock).issuance 1 =
      (handleCredits sampleResolve sampleDrop (some 7) sampleCredits sampleBlock).held 1 :=
  ((credits_settled sampleLedger sampleResolve sampleDrop sample_lawful (some 7) sampleCredits
    sampleBlock sample_issued).2.2 1).1

example : (handleCredits sampleResolve sampleDrop (some 7) sampleCredits sampleBlock).balance 1 7 =
    18 := by decide

end Credits
end Evm
end RuntimeTemplates
