import RuntimeTemplates.Lib.Bounded
import RuntimeTemplates.Lib.Segments
import RuntimeTemplates.Runtime.Fuzzer
import RuntimeTemplates.Runtime.Privilege

/-!
# RuntimeTemplates.Runtime.FuzzRun

`process_input` of the templates' fuzzers: how an input becomes blocks of calls. An input is a list
of extrinsics, each with the time that passes before it, its sender and its call.

* `processInput`: the loop, with what it does in the order in which it does it.
* `plan`: what it should do. The extrinsics that the filter accepts are cut into blocks where time
  passes, and a block dispatches as many of its extrinsics as take less than two seconds.
* `processInput_eq`: the loop does what is planned, unless the numbers of its blocks overflow.
  `run_planned` adds what the plan is: in each block, as much as fits.
* `run_safe`: what holds in every run, whatever the input.
* `root_through_hidden`: how a call that another account than the first has sent may leave the
  accounts.
-/

namespace RuntimeTemplates
namespace Runtime

open Bounded Segments

/-- The fields are numbers of 64 bits. -/
def Weight.saturatingAccrue (w amount : Weight) : Weight where
  refTime := (saturating (UInt64.size - 1)).add w.refTime amount.refTime
  proofSize := (saturating (UInt64.size - 1)).add w.proofSize amount.proofSize

namespace Fuzz

variable {t : Template}

def weightRefTimePerSecond : Nat := 1000000000000

/-- The accounts that send extrinsics; `main` has five of them. -/
structure Accounts (t : Template) where
  list : List t.AccountId
  nonempty : list ≠ []

def Accounts.originNo (accounts : Accounts t) (origin : UInt8) : Nat :=
  origin.toNat % accounts.list.length

theorem Accounts.originNo_lt (accounts : Accounts t) (origin : UInt8) :
    accounts.originNo origin < accounts.list.length :=
  Nat.mod_lt _ (List.length_pos_iff.mpr accounts.nonempty)

def Accounts.account (accounts : Accounts t) (origin : UInt8) : t.AccountId :=
  accounts.list.get ⟨accounts.originNo origin, accounts.originNo_lt origin⟩

/-- `(lapse, origin, extrinsic)`. -/
structure Extrinsic (t : Template) where
  lapse : UInt8
  origin : UInt8
  call : RuntimeCall t

/-- What the loop does, in its order: a new block begins, after the one before it was finalized, or
a call is dispatched. -/
inductive Event (t : Template) where
  | initializeBlock (block : Nat)
  | dispatch (originNo : Nat) (origin : Origin t) (call : RuntimeCall t)

structure LoopState where
  block : Nat
  weight : Weight

/-- What the fuzzer takes from the runtime: its accounts, the number of candidates, and the weights
of the calls. -/
structure Config (t : Template) where
  accounts : Accounts t
  maxCandidates : UInt32
  callWeight : RuntimeCall t → Weight

/-! ## The loop -/

section Loop

variable (cfg : Config t)

def isSystem : RuntimeCall t → Bool
  | .system _ => true
  | _ => false

def accepts (x : Extrinsic t) : Bool :=
  recursiveCallFilter cfg.maxCandidates (cfg.accounts.originNo x.origin) x.call

def dispatched (x : Extrinsic t) : Event t :=
  .dispatch (cfg.accounts.originNo x.origin) (.fresh (.signed (cfg.accounts.account x.origin)))
    x.call

/-- The number of the block that begins after `lapse`; fuzzers are built with overflow checks. -/
def nextBlock (block : Nat) (lapse : UInt8) : Except ArithmeticError Nat :=
  (checked (UInt32.size - 1)).add block (lapse.toNat * 393)

/-- What happens when time passes before an extrinsic: the state after it, and what was done. -/
def passTime (s : LoopState) (x : Extrinsic t) :
    Except ArithmeticError (LoopState × List (Event t)) :=
  if 0 < x.lapse then
    (nextBlock s.block x.lapse).map fun block => (⟨block, ⟨0, 0⟩⟩, [.initializeBlock block])
  else .ok (s, [])

/-- The weight of an extrinsic is counted even if the extrinsic is skipped for it. -/
def attempt (s : LoopState) (x : Extrinsic t) : LoopState × List (Event t) :=
  let weight := s.weight.saturatingAccrue (cfg.callWeight x.call)
  (⟨s.block, weight⟩,
    if weight.refTime ≥ 2 * weightRefTimePerSecond then [] else [dispatched cfg x])

/-- One extrinsic. -/
def processExtrinsic (s : LoopState) (x : Extrinsic t) :
    Except ArithmeticError (LoopState × List (Event t)) :=
  if accepts cfg x then
    (passTime s x).map fun begun =>
      ((attempt cfg begun.1 x).1, begun.2 ++ (attempt cfg begun.1 x).2)
  else .ok (s, [])

def loop (s : LoopState) : List (Extrinsic t) → Except ArithmeticError (List (Event t))
  | [] => .ok []
  | x :: xs => do
    let (s, events) ← processExtrinsic cfg s x
    let rest ← loop s xs
    .ok (events ++ rest)

/-- `process_input`, from the extrinsics that were decoded on. -/
def processInput (data : List (Extrinsic t)) : Except ArithmeticError (List (Event t)) :=
  let extrinsics := data.filter fun x => !isSystem x.call
  if extrinsics.isEmpty then .ok []
  else do
    let events ← loop cfg ⟨1, ⟨0, 0⟩⟩ extrinsics
    .ok (.initializeBlock 1 :: events)

end Loop

/-! ## The plan -/

section Plan

variable (cfg : Config t)

/-- A block with the extrinsics that are meant for it. -/
structure Block (t : Template) where
  number : Nat
  extrinsics : List (Extrinsic t)

def startsBlock (x : Extrinsic t) : Bool := 0 < x.lapse

def blocksPassed (x : Extrinsic t) : Nat := x.lapse.toNat * 393

def refTime (x : Extrinsic t) : Nat := (cfg.callWeight x.call).refTime

/-- The blocks after block `number`, one for each segment. -/
def numbered (number : Nat) : List (Extrinsic t × List (Extrinsic t)) → List (Block t)
  | [] => []
  | (x, xs) :: segments =>
    ⟨number + blocksPassed x, x :: xs⟩ :: numbered (number + blocksPassed x) segments

/-- The blocks of a list of extrinsics, which begins in block 1. -/
def planned (accepted : List (Extrinsic t)) : List (Block t) :=
  ⟨1, (cut startsBlock accepted).1⟩ :: numbered 1 (cut startsBlock accepted).2

/-- The extrinsics of a block that are dispatched. -/
def Block.dispatches (b : Block t) : List (Extrinsic t) :=
  fitting (2 * weightRefTimePerSecond) (refTime cfg) 0 b.extrinsics

def Block.events (b : Block t) : List (Event t) :=
  .initializeBlock b.number :: (b.dispatches cfg).map (dispatched cfg)

/-- What is left to do after the loop has come to a state: the rest of its block, and the blocks
after it. -/
def planFrom (s : LoopState) (accepted : List (Extrinsic t)) : List (Event t) :=
  (fitting (2 * weightRefTimePerSecond) (refTime cfg) s.weight.refTime
      (cut startsBlock accepted).1).map (dispatched cfg) ++
    (numbered s.block (cut startsBlock accepted).2).flatMap (Block.events cfg)

def plan (accepted : List (Extrinsic t)) : List (Event t) :=
  (planned accepted).flatMap (Block.events cfg)

end Plan

/-! ## The loop does what is planned -/

section Refinement

variable (cfg : Config t)

variable {cfg} {s : LoopState} {x : Extrinsic t}

theorem processExtrinsic_refused (h : accepts cfg x = false) :
    processExtrinsic cfg s x = .ok (s, []) := by
  rw [processExtrinsic, h]
  rfl

theorem processExtrinsic_same (h : accepts cfg x = true) (hlapse : startsBlock x = false) :
    processExtrinsic cfg s x = .ok ((attempt cfg s x).1, (attempt cfg s x).2) := by
  have hzero : ¬ 0 < x.lapse := of_decide_eq_false hlapse
  rw [processExtrinsic, if_pos h, passTime, if_neg hzero]
  rfl

theorem nextBlock_eq (block : Nat) (x : Extrinsic t) :
    nextBlock block x.lapse =
      if block + blocksPassed x < UInt32.size then .ok (block + blocksPassed x)
      else .error .overflow := by
  have hsize : 0 < UInt32.size := by decide
  have hnext : nextBlock block x.lapse =
      if block + blocksPassed x ≤ UInt32.size - 1 then .ok (block + blocksPassed x)
      else .error .overflow := rfl
  rw [hnext]
  by_cases h : block + blocksPassed x < UInt32.size
  · rw [if_pos h, if_pos (by omega)]
  · rw [if_neg h, if_neg (by omega)]

theorem processExtrinsic_next (h : accepts cfg x = true) (hlapse : startsBlock x = true)
    (hblock : s.block + blocksPassed x < UInt32.size) :
    processExtrinsic cfg s x = .ok ((attempt cfg ⟨s.block + blocksPassed x, ⟨0, 0⟩⟩ x).1,
      .initializeBlock (s.block + blocksPassed x) ::
        (attempt cfg ⟨s.block + blocksPassed x, ⟨0, 0⟩⟩ x).2) := by
  have hpos : 0 < x.lapse := of_decide_eq_true hlapse
  rw [processExtrinsic, if_pos h, passTime, if_pos hpos, nextBlock_eq, if_pos hblock]
  rfl

theorem processExtrinsic_overflow (h : accepts cfg x = true) (hlapse : startsBlock x = true)
    (hblock : ¬ s.block + blocksPassed x < UInt32.size) :
    processExtrinsic cfg s x = .error .overflow := by
  have hpos : 0 < x.lapse := of_decide_eq_true hlapse
  rw [processExtrinsic, if_pos h, passTime, if_pos hpos, nextBlock_eq, if_neg hblock]
  rfl

/-- An extrinsic is admitted exactly if it fits, and after one that is not, none fits. -/
theorem fitting_attempt (s : LoopState) (x : Extrinsic t) (xs : List (Extrinsic t)) :
    (fitting (2 * weightRefTimePerSecond) (refTime cfg) s.weight.refTime (x :: xs)).map
        (dispatched cfg) =
      (attempt cfg s x).2 ++ (fitting (2 * weightRefTimePerSecond) (refTime cfg)
        (attempt cfg s x).1.weight.refTime xs).map (dispatched cfg) := by
  have hmax : 2 * weightRefTimePerSecond < UInt64.size - 1 := by decide
  have hweight : (attempt cfg s x).1.weight.refTime =
      Nat.min (s.weight.refTime + refTime cfg x) (UInt64.size - 1) := rfl
  have hdone : (attempt cfg s x).2 =
      if (attempt cfg s x).1.weight.refTime ≥ 2 * weightRefTimePerSecond then []
      else [dispatched cfg x] := rfl
  by_cases hfits : s.weight.refTime + refTime cfg x < 2 * weightRefTimePerSecond
  · have hexact : (attempt cfg s x).1.weight.refTime = s.weight.refTime + refTime cfg x := by
      rw [hweight]
      exact Nat.min_eq_left (by omega)
    rw [hdone, hexact, if_neg (by omega), fitting, if_pos hfits]
    rfl
  · have hfull : 2 * weightRefTimePerSecond ≤ (attempt cfg s x).1.weight.refTime := by
      rw [hweight]
      exact Nat.le_min.mpr ⟨by omega, by omega⟩
    rw [hdone, if_pos hfull, fitting_full hfull, fitting, if_neg hfits]
    rfl

theorem attempt_block (s : LoopState) (x : Extrinsic t) : (attempt cfg s x).1.block = s.block := rfl

theorem planFrom_same (h : startsBlock x = false) (xs : List (Extrinsic t)) :
    planFrom cfg s (x :: xs) = (attempt cfg s x).2 ++ planFrom cfg (attempt cfg s x).1 xs := by
  rw [planFrom, cut_more h, fitting_attempt, planFrom, attempt_block, List.append_assoc]

theorem planFrom_next (h : startsBlock x = true) (xs : List (Extrinsic t)) :
    planFrom cfg s (x :: xs) =
      .initializeBlock (s.block + blocksPassed x) ::
        ((attempt cfg ⟨s.block + blocksPassed x, ⟨0, 0⟩⟩ x).2 ++
          planFrom cfg (attempt cfg ⟨s.block + blocksPassed x, ⟨0, 0⟩⟩ x).1 xs) := by
  have hfits := @fitting_attempt _ cfg ⟨s.block + blocksPassed x, ⟨0, 0⟩⟩ x (cut startsBlock xs).1
  rw [planFrom, cut_start h, numbered, List.flatMap_cons, Block.events, Block.dispatches, hfits,
    planFrom, attempt_block]
  simp [fitting]

theorem blocksPassed_same (h : startsBlock x = false) : blocksPassed x = 0 := by
  have hle : ¬ 0 < x.lapse := of_decide_eq_false h
  have hzero : x.lapse.toNat = 0 := by
    rw [UInt8.lt_iff_toNat_lt] at hle
    exact Nat.eq_zero_of_not_pos hle
  rw [blocksPassed, hzero, Nat.zero_mul]

theorem loop_cons {s' : LoopState} {events : List (Event t)}
    (h : processExtrinsic cfg s x = .ok (s', events)) (xs : List (Extrinsic t)) :
    loop cfg s (x :: xs) = (loop cfg s' xs).map fun rest => events ++ rest := by
  rw [loop, h]
  cases hrest : loop cfg s' xs <;> simp [bind, Except.bind, Except.map, hrest]

theorem loop_cons_error {e : ArithmeticError} (h : processExtrinsic cfg s x = .error e)
    (xs : List (Extrinsic t)) : loop cfg s (x :: xs) = .error e := by
  rw [loop, h]
  rfl

theorem map_guarded {α β : Type} (f : α → β) (p : Prop) [Decidable p] (a : α)
    (e : ArithmeticError) :
    ((if p then .ok a else .error e : Except ArithmeticError α).map f) =
      if p then .ok (f a) else .error e := by
  split
  · rfl
  · rfl

/-- The loop, by induction on what is left of the input. -/
theorem loop_eq (xs : List (Extrinsic t)) (s : LoopState) (hs : s.block < UInt32.size) :
    loop cfg s xs =
      if s.block + total blocksPassed (xs.filter (accepts cfg)) < UInt32.size then
        .ok (planFrom cfg s (xs.filter (accepts cfg)))
      else .error .overflow := by
  induction xs generalizing s with
  | nil => exact (if_pos hs).symm
  | cons x xs ih =>
    cases ha : accepts cfg x with
    | false =>
      rw [loop_cons (processExtrinsic_refused ha), ih s hs, map_guarded,
        List.filter_cons_of_neg (by rw [ha]; decide)]
      rfl
    | true =>
      rw [List.filter_cons_of_pos ha, total]
      cases hlapse : startsBlock x with
      | false =>
        rw [loop_cons (processExtrinsic_same ha hlapse), ih (attempt cfg s x).1 hs, map_guarded,
          attempt_block, blocksPassed_same hlapse, Nat.zero_add, planFrom_same hlapse]
      | true =>
        rw [← Nat.add_assoc]
        by_cases hblock : s.block + blocksPassed x < UInt32.size
        · rw [loop_cons (processExtrinsic_next ha hlapse hblock), ih _ hblock, map_guarded,
            attempt_block, planFrom_next hlapse]
          rfl
        · rw [loop_cons_error (processExtrinsic_overflow ha hlapse hblock), if_neg (by omega)]

/-- The extrinsics that count: no calls of `System`, and only those that the filter accepts. -/
def accepted (cfg : Config t) (data : List (Extrinsic t)) : List (Extrinsic t) :=
  (data.filter fun x => !isSystem x.call).filter (accepts cfg)

/-- An input of `System` calls only does nothing. Any other one runs as planned: from block 1 on,
one block for each extrinsic that time passes before, each with as many of its extrinsics as take
less than two seconds; or else the number of its last block is none of 32 bits. -/
theorem processInput_eq (cfg : Config t) (data : List (Extrinsic t)) :
    processInput cfg data =
      if (data.all fun x => isSystem x.call) = true then .ok []
      else if 1 + total blocksPassed (accepted cfg data) < UInt32.size then
        .ok (plan cfg (accepted cfg data))
      else .error .overflow := by
  have hstart : (⟨1, ⟨0, 0⟩⟩ : LoopState).block < UInt32.size := by decide
  have hnone : (data.filter fun x => !isSystem x.call).isEmpty =
      data.all fun x => isSystem x.call := by
    induction data with
    | nil => rfl
    | cons x xs ih => cases hx : isSystem x.call <;> simp [hx, ih]
  unfold processInput
  simp only [hnone]
  split
  · rfl
  · rw [loop_eq _ _ hstart]
    exact map_guarded (fun events => Event.initializeBlock 1 :: events) _ _ _

/-- A run that is not stopped did nothing, or all that was planned. -/
theorem run_cases {data : List (Extrinsic t)} {events : List (Event t)}
    (h : processInput cfg data = .ok events) :
    events = [] ∨
      (1 + total blocksPassed (accepted cfg data) < UInt32.size ∧
        events = plan cfg (accepted cfg data)) := by
  rw [processInput_eq] at h
  split at h
  · cases h
    exact .inl rfl
  · split at h
    · rename_i hlast
      cases h
      exact .inr ⟨hlast, rfl⟩
    · cases h

theorem Block.dispatches_begins (b : Block t) : b.dispatches cfg <+: b.extrinsics :=
  fitting_begins 0 b.extrinsics

theorem Block.dispatches_maximal {b : Block t} {rest : List (Extrinsic t)}
    (h : b.dispatches cfg ++ x :: rest = b.extrinsics) :
    2 * weightRefTimePerSecond ≤ total (refTime cfg) (b.dispatches cfg) + refTime cfg x := by
  have hnext : 2 * weightRefTimePerSecond ≤
      0 + total (refTime cfg) (b.dispatches cfg) + refTime cfg x := fitting_maximal h
  rw [Nat.zero_add] at hnext
  exact hnext

/-- The loop does what is planned, and of each block the plan takes the extrinsics in their order up
to the first that makes the block take two seconds. -/
theorem run_planned (cfg : Config t) (data : List (Extrinsic t)) :
    (processInput cfg data =
      if (data.all fun x => isSystem x.call) = true then .ok []
      else if 1 + total blocksPassed (accepted cfg data) < UInt32.size then
        .ok ((planned (accepted cfg data)).flatMap (Block.events cfg))
      else .error .overflow) ∧
    ∀ b ∈ planned (accepted cfg data), b.dispatches cfg <+: b.extrinsics ∧
      ∀ x rest, b.dispatches cfg ++ x :: rest = b.extrinsics →
        2 * weightRefTimePerSecond ≤ total (refTime cfg) (b.dispatches cfg) + refTime cfg x :=
  ⟨processInput_eq cfg data, fun b _ => ⟨b.dispatches_begins, fun _ _ => b.dispatches_maximal⟩⟩

end Refinement

/-! ## What every run keeps to -/

section Safety

variable {cfg : Config t}

theorem numbered_pairwise (segments : List (Extrinsic t × List (Extrinsic t)))
    (hstarts : ∀ s ∈ segments, startsBlock s.1 = true) (number : Nat) :
    (∀ b ∈ numbered number segments, number < b.number) ∧
      (numbered number segments).Pairwise fun a b => a.number < b.number := by
  induction segments generalizing number with
  | nil =>
    refine ⟨?_, List.Pairwise.nil⟩
    intro b hb
    cases hb
  | cons s segments ih =>
    obtain ⟨x, xs⟩ := s
    have hpassed : 0 < blocksPassed x := by
      have hlapse : 0 < x.lapse := of_decide_eq_true (hstarts _ List.mem_cons_self)
      have hpos : 0 < x.lapse.toNat := UInt8.lt_iff_toNat_lt.mp hlapse
      rw [blocksPassed]
      omega
    obtain ⟨hlater, hpairs⟩ := ih (fun s hs => hstarts s (List.mem_cons_of_mem _ hs))
      (number + blocksPassed x)
    refine ⟨?_, List.pairwise_cons.mpr ⟨hlater, hpairs⟩⟩
    intro b hb
    rcases List.mem_cons.mp hb with rfl | hb
    · exact Nat.lt_add_of_pos_right hpassed
    · have hnumber := hlater b hb
      omega

theorem numbered_le (segments : List (Extrinsic t × List (Extrinsic t))) (number : Nat) :
    ∀ b ∈ numbered number segments,
      b.number ≤ number + total blocksPassed (segments.flatMap fun s => s.1 :: s.2) := by
  induction segments generalizing number with
  | nil =>
    intro b hb
    cases hb
  | cons s segments ih =>
    obtain ⟨x, xs⟩ := s
    intro b hb
    have htotal : total blocksPassed (((x, xs) :: segments).flatMap fun s => s.1 :: s.2) =
        blocksPassed x + total blocksPassed xs +
          total blocksPassed (segments.flatMap fun s => s.1 :: s.2) :=
      total_append blocksPassed (x :: xs) _
    rw [htotal]
    rcases List.mem_cons.mp hb with rfl | hb
    · show number + blocksPassed x ≤ _
      omega
    · have hrest := ih (number + blocksPassed x) b hb
      omega

theorem planned_le (accepted : List (Extrinsic t)) :
    ∀ b ∈ planned accepted, 1 ≤ b.number ∧ b.number ≤ 1 + total blocksPassed accepted := by
  intro b hb
  rcases List.mem_cons.mp hb with rfl | hb
  · exact ⟨Nat.le_refl _, Nat.le_add_right _ _⟩
  · have hjoin := congrArg (total blocksPassed) (@cut_join _ startsBlock accepted)
    rw [total_append] at hjoin
    have hle := numbered_le (cut startsBlock accepted).2 1 b hb
    have hlt := (numbered_pairwise (cut startsBlock accepted).2
      (fun s hs => starts_of_mem_cut hs) 1).1 b hb
    omega

theorem numbered_extrinsics {segments : List (Extrinsic t × List (Extrinsic t))} {number : Nat}
    {b : Block t} (hb : b ∈ numbered number segments) :
    ∃ s ∈ segments, b.extrinsics = s.1 :: s.2 := by
  induction segments generalizing number with
  | nil => cases hb
  | cons s segments ih =>
    obtain ⟨x, xs⟩ := s
    rcases List.mem_cons.mp hb with rfl | hb
    · exact ⟨(x, xs), List.mem_cons_self, rfl⟩
    · obtain ⟨s, hs, hextrinsics⟩ := ih hb
      exact ⟨s, List.mem_cons_of_mem _ hs, hextrinsics⟩

theorem planned_extrinsics {accepted : List (Extrinsic t)} {b : Block t} (hb : b ∈ planned accepted)
    {x : Extrinsic t} (hx : x ∈ b.extrinsics) : x ∈ accepted := by
  rcases List.mem_cons.mp hb with rfl | hb
  · exact mem_of_mem_cut hx
  · obtain ⟨s, hs, hextrinsics⟩ := numbered_extrinsics hb
    rw [hextrinsics] at hx
    exact mem_of_mem_segment hs hx

theorem planned_pairwise (accepted : List (Extrinsic t)) :
    (planned accepted).Pairwise fun a b => a.number < b.number := by
  obtain ⟨hlater, hpairs⟩ := numbered_pairwise (cut startsBlock accepted).2
    (fun s hs => starts_of_mem_cut hs) 1
  exact List.pairwise_cons.mpr ⟨hlater, hpairs⟩

theorem mem_accepted {data : List (Extrinsic t)} {x : Extrinsic t} (h : x ∈ accepted cfg data) :
    x ∈ data ∧ isSystem x.call = false ∧ accepts cfg x = true := by
  obtain ⟨hx, haccepts⟩ := List.mem_filter.mp h
  obtain ⟨hdata, hsystem⟩ := List.mem_filter.mp hx
  exact ⟨hdata, by simpa using hsystem, haccepts⟩

theorem Block.dispatches_refTime (b : Block t) :
    total (refTime cfg) (b.dispatches cfg) < 2 * weightRefTimePerSecond := by
  have hlimit : 0 < 2 * weightRefTimePerSecond := by decide
  have hfits : 0 + total (refTime cfg) (b.dispatches cfg) < 2 * weightRefTimePerSecond :=
    fitting_total hlimit b.extrinsics
  rw [Nat.zero_add] at hfits
  exact hfits

/-- Whatever the input, the blocks that the fuzzer makes have growing numbers of 32 bits, none takes
two seconds, and all that it dispatches are extrinsics of the input that are no calls of `System`
and that the filter accepts for their sender. -/
theorem run_safe (cfg : Config t) (data : List (Extrinsic t)) :
    ∀ events, processInput cfg data = .ok events →
      ∃ blocks : List (Block t), events = blocks.flatMap (Block.events cfg) ∧
        (blocks.Pairwise fun a b => a.number < b.number) ∧
          ∀ b ∈ blocks, b.number < UInt32.size ∧
            total (refTime cfg) (b.dispatches cfg) < 2 * weightRefTimePerSecond ∧
              ∀ x ∈ b.dispatches cfg,
                x ∈ data ∧ isSystem x.call = false ∧ accepts cfg x = true := by
  intro events h
  rcases run_cases h with rfl | ⟨hlast, rfl⟩
  · exact ⟨[], rfl, List.Pairwise.nil, fun b hb => nomatch hb⟩
  · refine ⟨planned (accepted cfg data), rfl, planned_pairwise _, ?_⟩
    intro b hb
    have hnumber := (planned_le _ b hb).2
    refine ⟨by omega, b.dispatches_refTime, ?_⟩
    intro x hx
    exact mem_accepted (planned_extrinsics hb (b.dispatches_begins.subset hx))

/-- An event of a run is of an extrinsic that counts. -/
theorem accepted_of_dispatch {data : List (Extrinsic t)} {events : List (Event t)}
    (h : processInput cfg data = .ok events) {originNo : Nat} {o : Origin t} {c : RuntimeCall t}
    (hmem : .dispatch originNo o c ∈ events) :
    ∃ x ∈ accepted cfg data, dispatched cfg x = .dispatch originNo o c := by
  rcases run_cases h with rfl | ⟨-, rfl⟩
  · cases hmem
  · obtain ⟨b, hb, hevent⟩ := List.mem_flatMap.mp hmem
    rcases List.mem_cons.mp hevent with hbegin | hdispatch
    · cases hbegin
    · obtain ⟨x, hx, heq⟩ := List.mem_map.mp hdispatch
      exact ⟨x, planned_extrinsics hb (b.dispatches_begins.subset hx), heq⟩

/-! ### Calls that the filter does not look at -/

/-- Besides the wrappers without an arm, the filter passes over messages and proposals. -/
def unseen : RuntimeCall t → List (RuntimeCall t)
  | .polkadotXcm (.execute message) => message.flatMap Instruction.carried
  | .referenda (.submit _ proposal) => [proposal]
  | c => hidden c

theorem mem_enclosed (c d : RuntimeCall t) : d ∈ enclosed c ↔ d ∈ followed c ∨ d ∈ unseen c := by
  have hwrapper := mem_carried c d
  cases c with
  | polkadotXcm c => cases c <;> simp [enclosed, unseen, followed, hidden, carried]
  | referenda c => cases c <;> simp [enclosed, unseen, followed, hidden, carried]
  | _ => exact hwrapper

/-- A call that leaves the accounts is forbidden, or does so by way of an unseen one. -/
theorem forbidden_or_unseen {maxCandidates : UInt32} {origin : Nat} (horigin : origin ≠ 0)
    {env : Environment t} {c d : RuntimeCall t} (h : LeavesAccounts env d c) :
    Forbidden maxCandidates origin c ∨ d ∈ unseen c := by
  cases h with
  | «sudo» => exact .inl (.sudo horigin)
  | sudoUncheckedWeight => exact .inl (.sudo horigin)
  | transact hroom hmem => exact .inr (mem_message_carried.mpr ⟨_, _, hmem⟩)
  | submit => exact .inr (List.mem_singleton.mpr rfl)

/-- If a call that another account than the first has sent comes to be dispatched with the origin
of no account, then it has a call inside that the filter comes by without looking at it, and that
call is made so, or one that leaves the accounts lies in it. -/
theorem root_through_hidden (cfg : Config t) (data : List (Extrinsic t)) (env : Environment t) :
    ∀ events, processInput cfg data = .ok events → ∀ originNo o c,
      .dispatch originNo o c ∈ events → originNo ≠ 0 → ∀ y, Leads env (o, c) y →
        signer y.1.caller = none → ∃ w, Descent.Inside followed c w ∧ ∃ b ∈ unseen w,
          LeavesAccounts env b w ∨ ∃ d e, Descent.Inside enclosed b e ∧ LeavesAccounts env d e := by
  intro events hrun originNo o c hmem horigin y hy hunsigned
  obtain ⟨x, hx, heq⟩ := accepted_of_dispatch hrun hmem
  obtain ⟨-, -, haccepts⟩ := mem_accepted hx
  cases heq
  obtain ⟨z, d, hz, hleaves, -⟩ := leavesAccounts_of_unsigned ⟨_, rfl⟩ hy hunsigned
  rcases (Descent.inside_split mem_enclosed x.call z.2).mp (leads_enclosed hz) with
    hseen | ⟨w, hw, b, hb, hbelow⟩
  · -- what the filter looks at is not forbidden
    have hallowed := (recursiveCallFilter_iff_followed _ _ _).mp haccepts z.2 hseen
    have hd : d ∈ unseen z.2 := (forbidden_or_unseen horigin hleaves).resolve_left hallowed
    exact ⟨z.2, hseen, d, hd, .inl hleaves⟩
  · exact ⟨w, hw, b, hb, .inr ⟨d, z.2, hbelow, hleaves⟩⟩

end Safety

/-! ## A run -/

/-- Two accounts, and calls that take a second and a half each. -/
def sampleConfig : Config .evm where
  accounts := ⟨[1, 2], List.cons_ne_nil _ _⟩
  maxCandidates := 100
  callWeight _ := ⟨1500000000000, 0⟩

/-- The second call does not fit into the block of the first; after a while, a third one does. -/
def sampleInput : List (Extrinsic .evm) :=
  [⟨0, 1, .balances (.transferAll 2)⟩, ⟨0, 0, .balances (.transferAll 2)⟩,
    ⟨2, 1, .proxy (.proxy 1 none (.sudo (.sudo (.system .setCode))))⟩]

def sampleEvents : List (Event .evm) :=
  [.initializeBlock 1, .dispatch 1 (.fresh (.signed 2)) (.balances (.transferAll 2)),
    .initializeBlock 787, .dispatch 1 (.fresh (.signed 2))
      (.proxy (.proxy 1 none (.sudo (.sudo (.system .setCode)))))]

theorem sample_run_safe :
    ∃ blocks : List (Block .evm), sampleEvents = blocks.flatMap (Block.events sampleConfig) ∧
      (blocks.Pairwise fun a b => a.number < b.number) ∧
        ∀ b ∈ blocks, b.number < UInt32.size ∧
          total (refTime sampleConfig) (b.dispatches sampleConfig) < 2 * weightRefTimePerSecond ∧
            ∀ x ∈ b.dispatches sampleConfig,
              x ∈ sampleInput ∧ isSystem x.call = false ∧ accepts sampleConfig x = true :=
  run_safe sampleConfig sampleInput sampleEvents rfl

/-- The proxied account is asked to run the last call as root. -/
theorem sample_leads_to_root :
    Leads (openEnvironment .evm)
      (.fresh (.signed 2), .proxy (.proxy 1 none (.sudo (.sudo (.system .setCode)))))
      (.fresh .root, .system .setCode) := by
  have hproxy : (Origin.proxied (t := .evm) .any 1, .sudo (.sudo (.system .setCode))) ∈
      reached (openEnvironment .evm) (.fresh (.signed 2))
        (.proxy (.proxy 1 none (.sudo (.sudo (.system .setCode))))) := List.mem_cons_self
  refine Descent.inside_head hproxy ?_
  exact Descent.inside_head List.mem_cons_self (Descent.inside_refl _)

theorem sample_root_hidden :
    ∃ w, Descent.Inside followed
        (.proxy (.proxy 1 none (.sudo (.sudo (.system .setCode)))) : RuntimeCall .evm) w ∧
      ∃ b ∈ unseen w, LeavesAccounts (openEnvironment .evm) b w ∨
        ∃ d e, Descent.Inside enclosed b e ∧ LeavesAccounts (openEnvironment .evm) d e :=
  root_through_hidden sampleConfig sampleInput (openEnvironment .evm) sampleEvents rfl 1
    (.fresh (.signed 2)) _ (List.mem_of_getElem? (i := 3) rfl) (by decide) _ sample_leads_to_root
    rfl

end Fuzz
end Runtime
end RuntimeTemplates
