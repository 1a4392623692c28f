import RuntimeTemplates.Governance.Checks

/-!
# RuntimeTemplates.Governance.Tracks

The tracks of referenda in `governance/tracks.rs`, which both templates write with the same text.

* `tracks`, `trackFor`: the table of the tracks, and the track that decides for an origin.
* `track_sane`: every entry of the table has sensible periods and curves.
* `tracks_coherent`: each track decides for exactly one origin, which it has the name of, and fits
  what that origin may do.
-/

namespace RuntimeTemplates
namespace Governance

open RuntimeTemplates.Runtime

/-! ## The table -/

/-- A curve by the arguments of `Curve::make_linear` and `Curve::make_reciprocal`; a percentage is a
number of percent. -/
inductive Curve where
  | makeLinear (length period floor ceil : Nat)
  | makeReciprocal (delay period level floor ceil : Nat)
  deriving DecidableEq

structure TrackInfo where
  name : String
  maxDeciding : Nat
  decisionDeposit : Nat
  preparePeriod : Nat
  decisionPeriod : Nat
  confirmPeriod : Nat
  minEnactmentPeriod : Nat
  minApproval : Curve
  minSupport : Curve
  deriving DecidableEq

structure Track where
  id : UInt16
  info : TrackInfo
  deriving DecidableEq

def millisecsPerBlock (asyncBacking : Bool) : Nat := if asyncBacking then 6000 else 12000

def minutes (asyncBacking : Bool) : Nat := 60000 / millisecsPerBlock asyncBacking

def appRoot : Curve := .makeReciprocal 4 28 80 50 100

def supRoot : Curve := .makeLinear 28 28 0 50

def appTreasurer : Curve := .makeReciprocal 4 28 80 50 100

def supTreasurer : Curve := .makeLinear 28 28 0 50

def appReferendumCanceller : Curve := .makeLinear 17 28 50 100

def supReferendumCanceller : Curve := .makeReciprocal 12 28 1 0 50

def appReferendumKiller : Curve := .makeLinear 17 28 50 100

def supReferendumKiller : Curve := .makeReciprocal 12 28 1 0 50

def appSmallTipper : Curve := .makeLinear 10 28 50 100

def supSmallTipper : Curve := .makeReciprocal 1 28 4 0 50

def appBigTipper : Curve := .makeLinear 10 28 50 100

def supBigTipper : Curve := .makeReciprocal 8 28 1 0 50

def appSmallSpender : Curve := .makeLinear 17 28 50 100

def supSmallSpender : Curve := .makeReciprocal 12 28 1 0 50

def appMediumSpender : Curve := .makeLinear 23 28 50 100

def supMediumSpender : Curve := .makeReciprocal 16 28 1 0 50

def appBigSpender : Curve := .makeLinear 28 28 50 100

def supBigSpender : Curve := .makeReciprocal 20 28 1 0 50

def appWhitelistedCaller : Curve := .makeReciprocal 16 (28 * 24) 96 50 100

def supWhitelistedCaller : Curve := .makeReciprocal 1 28 20 5 50

/-- `TracksInfo::tracks`, by whether the template is built for asynchronous backing. -/
def tracks (t : Template) (asyncBacking : Bool) : List Track := [
    ⟨0, {
      name := "root"
      maxDeciding := 1
      decisionDeposit := 100 * t.grand
      preparePeriod := 8 * minutes asyncBacking
      decisionPeriod := 20 * minutes asyncBacking
      confirmPeriod := 12 * minutes asyncBacking
      minEnactmentPeriod := 5 * minutes asyncBacking
      minApproval := appRoot
      minSupport := supRoot }⟩,
    ⟨1, {
      name := "whitelisted_caller"
      maxDeciding := 100
      decisionDeposit := 10 * t.grand
      preparePeriod := 6 * minutes asyncBacking
      decisionPeriod := 20 * minutes asyncBacking
      confirmPeriod := 4 * minutes asyncBacking
      minEnactmentPeriod := 3 * minutes asyncBacking
      minApproval := appWhitelistedCaller
      minSupport := supWhitelistedCaller }⟩,
    ⟨11, {
      name := "treasurer"
      maxDeciding := 10
      decisionDeposit := t.grand
      preparePeriod := 8 * minutes asyncBacking
      decisionPeriod := 20 * minutes asyncBacking
      confirmPeriod := 8 * minutes asyncBacking
      minEnactmentPeriod := 5 * minutes asyncBacking
      minApproval := appTreasurer
      minSupport := supTreasurer }⟩,
    ⟨20, {
      name := "referendum_canceller"
      maxDeciding := 1000
      decisionDeposit := 10 * t.grand
      preparePeriod := 8 * minutes asyncBacking
      decisionPeriod := 14 * minutes asyncBacking
      confirmPeriod := 8 * minutes asyncBacking
      minEnactmentPeriod := 3 * minutes asyncBacking
      minApproval := appReferendumCanceller
      minSupport := supReferendumCanceller }⟩,
    ⟨21, {
      name := "referendum_killer"
      maxDeciding := 1000
      decisionDeposit := 50 * t.grand
      preparePeriod := 8 * minutes asyncBacking
      decisionPeriod := 20 * minutes asyncBacking
      confirmPeriod := 8 * minutes asyncBacking
      minEnactmentPeriod := 3 * minutes asyncBacking
      minApproval := appReferendumKiller
      minSupport := supReferendumKiller }⟩,
    ⟨30, {
      name := "small_tipper"
      maxDeciding := 200
      decisionDeposit := 3 * t.cents
      preparePeriod := minutes asyncBacking
      decisionPeriod := 14 * minutes asyncBacking
      confirmPeriod := 4 * minutes asyncBacking
      minEnactmentPeriod := minutes asyncBacking
      minApproval := appSmallTipper
      minSupport := supSmallTipper }⟩,
    ⟨31, {
      name := "big_tipper"
      maxDeciding := 100
      decisionDeposit := 10 * 3 * t.cents
      preparePeriod := 4 * minutes asyncBacking
      decisionPeriod := 14 * minutes asyncBacking
      confirmPeriod := 12 * minutes asyncBacking
      minEnactmentPeriod := 3 * minutes asyncBacking
      minApproval := appBigTipper
      minSupport := supBigTipper }⟩,
    ⟨32, {
      name := "small_spender"
      maxDeciding := 50
      decisionDeposit := 100 * 3 * t.cents
      preparePeriod := 10 * minutes asyncBacking
      decisionPeriod := 20 * minutes asyncBacking
      confirmPeriod := 10 * minutes asyncBacking
      minEnactmentPeriod := 5 * minutes asyncBacking
      minApproval := appSmallSpender
      minSupport := supSmallSpender }⟩,
    ⟨33, {
      name := "medium_spender"
      maxDeciding := 50
      decisionDeposit := 200 * 3 * t.cents
      preparePeriod := 10 * minutes asyncBacking
      decisionPeriod := 20 * minutes asyncBacking
      confirmPeriod := 12 * minutes asyncBacking
      minEnactmentPeriod := 5 * minutes asyncBacking
      minApproval := appMediumSpender
      minSupport := supMediumSpender }⟩,
    ⟨34, {
      name := "big_spender"
      maxDeciding := 50
      decisionDeposit := 400 * 3 * t.cents
      preparePeriod := 10 * minutes asyncBacking
      decisionPeriod := 20 * minutes asyncBacking
      confirmPeriod := 14 * minutes asyncBacking
      minEnactmentPeriod := 5 * minutes asyncBacking
      minApproval := appBigSpender
      minSupport := supBigSpender }⟩]

def customTrack : CustomOrigin → UInt16
  | .whitelistedCaller => 1
  | .treasurer => 11
  | .referendumCanceller => 20
  | .referendumKiller => 21
  | .smallTipper => 30
  | .bigTipper => 31
  | .smallSpender => 32
  | .mediumSpender => 33
  | .bigSpender => 34

def trackFor {t : Template} : t.RuntimeOrigin → Except Unit UInt16
  | .system .root => .ok 0
  | .system _ => .error ()
  | .origins x => .ok (customTrack x)
  | _ => .error ()

/-! ## Its entries -/

def Curve.Sane : Curve → Prop
  | .makeLinear length period floor ceil => length ≤ period ∧ floor < ceil ∧ ceil ≤ 100
  | .makeReciprocal delay period level floor ceil =>
    delay ≤ period ∧ floor < level ∧ level < ceil ∧ ceil ≤ 100

instance (c : Curve) : Decidable c.Sane :=
  match c with
  | .makeLinear _ _ _ _ => inferInstanceAs (Decidable (_ ∧ _))
  | .makeReciprocal _ _ _ _ _ => inferInstanceAs (Decidable (_ ∧ _))

structure TrackInfo.Sane (i : TrackInfo) : Prop where
  deciding : 0 < i.maxDeciding
  deposit : 0 < i.decisionDeposit
  prepared : 0 < i.preparePeriod
  enacted : 0 < i.minEnactmentPeriod
  confirmed : 0 < i.confirmPeriod
  confirm_lt : i.confirmPeriod < i.decisionPeriod
  approval : i.minApproval.Sane
  support : i.minSupport.Sane

instance (i : TrackInfo) : Decidable i.Sane :=
  decidable_of_iff (0 < i.maxDeciding ∧ 0 < i.decisionDeposit ∧ 0 < i.preparePeriod ∧
      0 < i.minEnactmentPeriod ∧ 0 < i.confirmPeriod ∧ i.confirmPeriod < i.decisionPeriod ∧
      i.minApproval.Sane ∧ i.minSupport.Sane)
    ⟨fun ⟨h₁, h₂, h₃, h₄, h₅, h₆, h₇, h₈⟩ => ⟨h₁, h₂, h₃, h₄, h₅, h₆, h₇, h₈⟩,
      fun ⟨h₁, h₂, h₃, h₄, h₅, h₆, h₇, h₈⟩ => ⟨h₁, h₂, h₃, h₄, h₅, h₆, h₇, h₈⟩⟩

theorem track_sane (t : Template) (asyncBacking : Bool) :
    ∀ tr ∈ tracks t asyncBacking, tr.info.Sane := by
  cases t <;> cases asyncBacking <;> decide

theorem tracks_ids (t : Template) (asyncBacking : Bool) :
    (tracks t asyncBacking).map Track.id = [0, 1, 11, 20, 21, 30, 31, 32, 33, 34] := by
  cases t <;> rfl

/-- Whoever may spend more decides on a track with a larger deposit. -/
theorem deposit_of_limit {t : Template} {asyncBacking : Bool} {x y : CustomOrigin} {a b : Nat}
    (hx : spendLimit t x = some a) (hy : spendLimit t y = some b) (hab : a < b) :
    ∀ tr ∈ tracks t asyncBacking, ∀ tr' ∈ tracks t asyncBacking, tr.id = customTrack x →
      tr'.id = customTrack y → tr.info.decisionDeposit < tr'.info.decisionDeposit := by
  cases t <;> cases x <;> cases hx <;> cases y <;> cases hy <;>
    first
    | exact absurd hab (by decide)
    | (cases asyncBacking <;> decide)

/-! ## The origins of the tracks -/

section Origins

variable {t : Template} {asyncBacking : Bool} {o : t.RuntimeOrigin} {id : UInt16}

theorem trackFor_cases (h : trackFor o = .ok id) :
    (o = .root ∧ id = 0) ∨ ∃ x, o = .origins x ∧ id = customTrack x := by
  unfold trackFor at h
  split at h
  · cases h
    exact .inl ⟨rfl, rfl⟩
  · cases h
  · rename_i x
    cases h
    exact .inr ⟨x, rfl, rfl⟩
  · cases h

theorem customTrack_injective {x y : CustomOrigin} (h : customTrack x = customTrack y) : x = y := by
  cases x <;> cases y <;> first | rfl | cases h

theorem customTrack_ne_zero (x : CustomOrigin) : customTrack x ≠ 0 := by
  cases x <;> decide

theorem trackFor_injective {o' : t.RuntimeOrigin} (h : trackFor o = .ok id)
    (h' : trackFor o' = .ok id) : o = o' := by
  rcases trackFor_cases h with ⟨rfl, hid⟩ | ⟨x, rfl, hid⟩
  · rcases trackFor_cases h' with ⟨rfl, -⟩ | ⟨y, rfl, hid'⟩
    · rfl
    · exact absurd (hid'.symm.trans hid) (customTrack_ne_zero y)
  · rcases trackFor_cases h' with ⟨rfl, hid'⟩ | ⟨y, rfl, hid'⟩
    · exact absurd (hid.symm.trans hid') (customTrack_ne_zero x)
    · rw [customTrack_injective (hid.symm.trans hid')]

/-- The name of an origin in the words of the table. -/
def originName : t.RuntimeOrigin → Option String
  | .system .root => some "root"
  | .origins .whitelistedCaller => some "whitelisted_caller"
  | .origins .treasurer => some "treasurer"
  | .origins .referendumCanceller => some "referendum_canceller"
  | .origins .referendumKiller => some "referendum_killer"
  | .origins .smallTipper => some "small_tipper"
  | .origins .bigTipper => some "big_tipper"
  | .origins .smallSpender => some "small_spender"
  | .origins .mediumSpender => some "medium_spender"
  | .origins .bigSpender => some "big_spender"
  | _ => none

theorem track_of_origin (h : trackFor o = .ok id) :
    ∃ tr ∈ tracks t asyncBacking, tr.id = id ∧ originName o = some tr.info.name := by
  rcases trackFor_cases h with ⟨rfl, rfl⟩ | ⟨x, rfl, rfl⟩
  · cases t <;> cases asyncBacking <;> decide
  · cases t <;> cases asyncBacking <;> cases x <;> decide

theorem origin_of_track : ∀ tr ∈ tracks t asyncBacking, ∃ o : t.RuntimeOrigin,
    trackFor o = .ok tr.id := by
  intro tr htr
  have hid : tr.id ∈ (tracks t asyncBacking).map Track.id := List.mem_map_of_mem htr
  rw [tracks_ids] at hid
  have hcases : tr.id = 0 ∨ ∃ x, tr.id = customTrack x := by
    simp only [List.mem_cons, List.not_mem_nil, or_false] at hid
    rcases hid with h | h | h | h | h | h | h | h | h | h
    · exact .inl h
    · exact .inr ⟨.whitelistedCaller, h⟩
    · exact .inr ⟨.treasurer, h⟩
    · exact .inr ⟨.referendumCanceller, h⟩
    · exact .inr ⟨.referendumKiller, h⟩
    · exact .inr ⟨.smallTipper, h⟩
    · exact .inr ⟨.bigTipper, h⟩
    · exact .inr ⟨.smallSpender, h⟩
    · exact .inr ⟨.mediumSpender, h⟩
    · exact .inr ⟨.bigSpender, h⟩
  rcases hcases with h | ⟨x, h⟩
  · exact ⟨.root, by rw [h]; rfl⟩
  · exact ⟨.origins x, by rw [h]; rfl⟩

/-- The tracks are in the order of their ids, each of them decides for one origin, and every origin
that a referendum can be about has the track of its name. Its periods and curves are sensible, and
whoever may spend more has to put down more for the decision. -/
theorem tracks_coherent (t : Template) (asyncBacking : Bool) :
    ((tracks t asyncBacking).Pairwise fun a b => a.id < b.id) ∧
      (∀ tr ∈ tracks t asyncBacking, tr.info.Sane ∧
        ∃! o : t.RuntimeOrigin, trackFor o = .ok tr.id) ∧
      (∀ (o : t.RuntimeOrigin) id, trackFor o = .ok id →
        ∃ tr ∈ tracks t asyncBacking, tr.id = id ∧ originName o = some tr.info.name) ∧
      ∀ x y a b, spendLimit t x = some a → spendLimit t y = some b → a < b →
        ∀ tr ∈ tracks t asyncBacking, ∀ tr' ∈ tracks t asyncBacking, tr.id = customTrack x →
          tr'.id = customTrack y → tr.info.decisionDeposit < tr'.info.decisionDeposit := by
  refine ⟨?_, ?_, fun o id => track_of_origin, fun x y a b => deposit_of_limit⟩
  · rw [← List.pairwise_map, tracks_ids]
    decide
  · intro tr htr
    obtain ⟨o, ho⟩ := origin_of_track tr htr
    exact ⟨track_sane t asyncBacking tr htr, o, ho, fun o' ho' => trackFor_injective ho' ho⟩

end Origins

end Governance
end RuntimeTemplates
