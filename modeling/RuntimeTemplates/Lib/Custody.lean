import RuntimeTemplates.Lib.Trace
import Mathlib.Data.Set.Basic
import Mathlib.Logic.Function.Basic

/-!
# RuntimeTemplates.Lib.Custody

Custody of assets that are issued here against backing held elsewhere, over any types of assets
and of custodians. A policy says which custodians' backing is trusted when an asset is issued and
at which one the backing is released when the asset is redeemed.

* `Balanced`: at the custodian where an asset is released, what is outstanding plus what was
  released is what was deposited; nowhere else is anything released.
* `solvent_of_homed`: a run whose deposits all come from the custodian that releases the asset
  never releases more than was deposited.
* `overdrawn_of_unhomed`: a trusted deposit from any other custodian can be redeemed at the
  releasing one, where nothing was deposited.
-/

namespace Custody

variable {A L : Type*}

structure Policy (A L : Type*) where
  trusts : A → L → Prop
  releases : A → Option L

/-- Per asset: what is outstanding here, and per custodian what was deposited and released. -/
structure Book (A L : Type*) where
  held : A → Nat
  deposited : A → L → Nat
  released : A → L → Nat

inductive Move (A L : Type*) where
  | deposit (a : A) (origin : L) (amount : Nat)
  | redeem (a : A) (amount : Nat)

def Book.empty : Book A L := ⟨fun _ => 0, fun _ _ => 0, fun _ _ => 0⟩

/-- Nothing was released that had not been deposited at the same custodian. -/
def Book.Solvent (b : Book A L) : Prop := ∀ a r, b.released a r ≤ b.deposited a r

/-- A trusted deposit comes from the custodian that releases the asset, if there is one. -/
def Homed (P : Policy A L) : Move A L → Prop
  | .deposit a o _ => P.trusts a o → ∀ r, P.releases a = some r → r = o
  | .redeem _ _ => True

structure Balanced (P : Policy A L) (b : Book A L) : Prop where
  settled : ∀ a r, P.releases a = some r → b.held a + b.released a r = b.deposited a r
  idle : ∀ a r, P.releases a ≠ some r → b.released a r = 0

theorem balanced_empty (P : Policy A L) : Balanced P (Book.empty : Book A L) :=
  ⟨fun _ _ _ => rfl, fun _ _ _ => rfl⟩

theorem Balanced.solvent {P : Policy A L} {b : Book A L} (h : Balanced P b) : b.Solvent := by
  intro a r
  by_cases hr : P.releases a = some r
  · have := h.settled a r hr
    omega
  · rw [h.idle a r hr]
    exact Nat.zero_le _

section Steps

variable [DecidableEq A] [DecidableEq L]

def bump (f : A → L → Nat) (a : A) (l : L) (n : Nat) : A → L → Nat :=
  fun a' l' => if a' = a ∧ l' = l then f a' l' + n else f a' l'

def Book.deposit (b : Book A L) (a : A) (o : L) (n : Nat) : Book A L :=
  { b with held := Function.update b.held a (b.held a + n), deposited := bump b.deposited a o n }

def Book.redeem (b : Book A L) (a : A) (r : L) (n : Nat) : Book A L :=
  { b with held := Function.update b.held a (b.held a - n), released := bump b.released a r n }

inductive Step (P : Policy A L) : Book A L → Move A L → Book A L → Prop where
  | deposit {b : Book A L} {a : A} {o : L} {n : Nat} (h : P.trusts a o) :
      Step P b (.deposit a o n) (b.deposit a o n)
  | redeem {b : Book A L} {a : A} {r : L} {n : Nat} (hr : P.releases a = some r)
      (hn : n ≤ b.held a) : Step P b (.redeem a n) (b.redeem a r n)

theorem Balanced.deposit {P : Policy A L} {b : Book A L} (h : Balanced P b) {a : A} {o : L}
    (n : Nat) (ho : ∀ r, P.releases a = some r → r = o) : Balanced P (b.deposit a o n) := by
  refine ⟨?_, h.idle⟩
  intro a' r hr
  have hs := h.settled a' r hr
  by_cases ha : a' = a
  · subst ha
    have hro := ho r hr
    simp only [Book.deposit, Function.update_self, bump, hro, and_self, if_true]
    rw [hro] at hs
    omega
  · simpa [Book.deposit, bump, ha] using hs

theorem Balanced.redeem {P : Policy A L} {b : Book A L} (h : Balanced P b) {a : A} {r : L}
    {n : Nat} (hr : P.releases a = some r) (hn : n ≤ b.held a) : Balanced P (b.redeem a r n) := by
  constructor
  · intro a' r' hr'
    have hs := h.settled a' r' hr'
    by_cases ha : a' = a
    · subst ha
      have hrr : r' = r := Option.some.inj (hr'.symm.trans hr)
      subst hrr
      simp only [Book.redeem, Function.update_self, bump, and_self, if_true]
      omega
    · simpa [Book.redeem, bump, ha] using hs
  · intro a' r' hr'
    have hne : ¬ (a' = a ∧ r' = r) := by
      rintro ⟨rfl, rfl⟩; exact hr' hr
    simpa [Book.redeem, bump, hne] using h.idle a' r' hr'

theorem Balanced.step {P : Policy A L} {b b' : Book A L} {m : Move A L} (h : Balanced P b)
    (hm : Homed P m) (hs : Step P b m b') : Balanced P b' := by
  cases hs with
  | deposit ht => exact h.deposit _ (hm ht)
  | redeem hr hn => exact h.redeem hr hn

/-- Runs whose deposits are all homed stay solvent. -/
theorem solvent_of_homed {P : Policy A L} {ms : List (Move A L)} {b : Book A L}
    (h : Trace (Step P) Book.empty ms b) (hm : ∀ m ∈ ms, Homed P m) : b.Solvent :=
  (h.invariant_of (fun _ _ _ hC hI hs => hI.step hC hs) hm (balanced_empty P)).solvent

/-- A deposit that is not homed is redeemed where nothing was deposited. -/
theorem overdrawn_of_unhomed {P : Policy A L} {a : A} {o : L} {n : Nat}
    (h : ¬ Homed P (.deposit a o n)) (hn : 0 < n) :
    ∃ b r, Trace (Step P) Book.empty [.deposit a o n, .redeem a n] b ∧
      b.deposited a r < b.released a r := by
  simp only [Homed, not_forall] at h
  obtain ⟨ht, r, hr, hne⟩ := h
  let b₁ : Book A L := Book.empty.deposit a o n
  have hheld : b₁.held a = n := by simp [b₁, Book.deposit, Book.empty]
  refine ⟨b₁.redeem a r n, r, .cons (.deposit ht) (.single (.redeem hr hheld.ge)), ?_⟩
  simp only [b₁, Book.redeem, Book.deposit, Book.empty, bump, and_self, if_true, hne, and_false,
    if_false]
  omega

end Steps

end Custody
