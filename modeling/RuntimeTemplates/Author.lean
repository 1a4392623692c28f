import RuntimeTemplates.Lib.Bytes
import RuntimeTemplates.Lib.Trace
import RuntimeTemplates.Runtime.LocalOrigin

/-!
# RuntimeTemplates.Author

Who authored a block, as the EVM asks: `FindAuthorSession` of the EVM template takes an index from
Aura and looks it up in the validator list of the session pallet. The two lists are kept by
different rules when the session changes.

* `Aura.findAuthor`, `findAuthor`: the index, and the lookup, which panics out of range.
* `Consensus`: the validators of the session pallet and the authorities of Aura. `newSession`: what
  a change of the session makes of them.
* `findsAuthor_iff`: the lookup is right exactly if the index is inside the validator list.
* `InRange`: the invariant that keeps it there, in all states that a run has `Reached`, until a
  session brings no validators.
* `author_found_iff`: the lookup is right in a whole run exactly if no session of it is empty.
-/

namespace RuntimeTemplates

open Xcm

abbrev ConsensusEngineId := BitVec 32

/-- `b"aura"`. -/
def auraEngineId : ConsensusEngineId := 0x61757261

abbrev Digests := List (ConsensusEngineId × List UInt8)

inductive Panic where
  | indexOutOfBounds
  | remainderByZero
  deriving DecidableEq

structure BoundedVec (α : Type) (bound : UInt32) where
  items : List α
  bounded : items.length ≤ bound.toNat

namespace BoundedVec

variable {α : Type} {bound : UInt32}

def truncateFrom (items : List α) : BoundedVec α bound where
  items := items.take bound.toNat
  bounded := List.length_take_le _ _

end BoundedVec

/-! ## The lookup -/

/-- `Slot::decode`: eight bytes, little-endian. -/
def decodeSlot (data : List UInt8) : Option UInt64 :=
  if 8 ≤ data.length then some (.ofNat (Bytes.ofLE (data.take 8))) else none

/-- The slot of the first digest of Aura. -/
def firstSlot : Digests → Option UInt64
  | [] => none
  | (id, data) :: digests => if id = auraEngineId then decodeSlot data else firstSlot digests

namespace Aura

variable {AuraId : Type} {maxAuthorities : UInt32}

def findAuthor (authorities : BoundedVec AuraId maxAuthorities) (digests : Digests) :
    Except Panic (Option UInt32) :=
  match firstSlot digests with
  | some slot =>
    if authorities.items.length = 0 then .error .remainderByZero
    else .ok (some (.ofNat (slot.toNat % authorities.items.length)))
  | none => .ok none

/-- `change_authorities`: an empty set is ignored. -/
def changeAuthorities (authorities new : BoundedVec AuraId maxAuthorities) :
    BoundedVec AuraId maxAuthorities :=
  if new.items = [] then authorities else new

def onNewSession [DecidableEq AuraId] (authorities : BoundedVec AuraId maxAuthorities)
    (nextAuthorities : List AuraId) : BoundedVec AuraId maxAuthorities :=
  if authorities.items ≠ nextAuthorities then
    changeAuthorities authorities (.truncateFrom nextAuthorities)
  else authorities

end Aura

namespace Evm

/-- `FindAuthorSession<F>::find_author`. -/
def findAuthor (validators : List AccountId) (find : Digests → Except Panic (Option UInt32))
    (digests : Digests) : Except Panic (Option H160) := do
  match ← find digests with
  | some authorIndex =>
    match validators[authorIndex.toNat]? with
    | some account => return some account.into
    | none => throw .indexOutOfBounds
  | none => return none

/-- `FindAccountFromAuthorIndex` of the session pallet. -/
def findAccountFromAuthorIndex (validators : List AccountId)
    (find : Digests → Except Panic (Option UInt32)) (digests : Digests) :
    Except Panic (Option AccountId) := do
  match ← find digests with
  | some i => return validators[i.toNat]?
  | none => return none

/-! ## Sessions -/

section Sessions

structure Consensus (AuraId : Type) (maxAuthorities : UInt32) where
  validators : List AccountId
  authorities : BoundedVec AuraId maxAuthorities

variable {AuraId : Type} [DecidableEq AuraId] {maxAuthorities : UInt32}

/-- What the session pallet hands to Aura at genesis; Aura refuses more than it has room for. -/
def genesis (keys : BoundedVec (AccountId × AuraId) maxAuthorities) :
    Consensus AuraId maxAuthorities where
  validators := keys.items.map Prod.fst
  authorities := ⟨keys.items.map Prod.snd, by rw [List.length_map]; exact keys.bounded⟩

/-- The next session begins, with the validators and keys that were queued for it. The session
manager always answers, so the set counts as changed. -/
def newSession (s : Consensus AuraId maxAuthorities) (keys : List (AccountId × AuraId)) :
    Consensus AuraId maxAuthorities where
  validators := keys.map Prod.fst
  authorities := Aura.onNewSession s.authorities (keys.map Prod.snd)

def SessionStep (s : Consensus AuraId maxAuthorities) (keys : List (AccountId × AuraId))
    (s' : Consensus AuraId maxAuthorities) : Prop := s' = newSession s keys

/-! ## One lookup -/

section Lookup

omit [DecidableEq AuraId]

variable (s : Consensus AuraId maxAuthorities) {digests : Digests} {slot : UInt64}

/-- The lookup returns what the session pallet's own does, and so does not panic. -/
def FindsAuthor (digests : Digests) : Prop :=
  ∃ r, findAccountFromAuthorIndex s.validators (Aura.findAuthor s.authorities) digests = .ok r ∧
    findAuthor s.validators (Aura.findAuthor s.authorities) digests = .ok (r.map AccountId.into)

theorem findsAuthor_no_slot (h : firstSlot digests = none) : FindsAuthor s digests := by
  have haura : Aura.findAuthor s.authorities digests = .ok none := by
    rw [Aura.findAuthor, h]
  refine ⟨none, ?_, ?_⟩
  · rw [findAccountFromAuthorIndex, haura]
    rfl
  · rw [findAuthor, haura]
    rfl

theorem not_findsAuthor_no_authority (h : firstSlot digests = some slot)
    (hnone : s.authorities.items = []) : ¬ FindsAuthor s digests := by
  rintro ⟨r, hr, -⟩
  have haura : Aura.findAuthor s.authorities digests = .error .remainderByZero := by
    rw [Aura.findAuthor, h, hnone]
    rfl
  rw [findAccountFromAuthorIndex, haura] at hr
  cases hr

theorem aura_index (h : firstSlot digests = some slot) (hsome : s.authorities.items ≠ []) :
    ∃ i : UInt32, Aura.findAuthor s.authorities digests = .ok (some i) ∧
      i.toNat = slot.toNat % s.authorities.items.length := by
  have hlen : s.authorities.items.length ≠ 0 := mt List.length_eq_zero_iff.mp hsome
  -- the index fits into a `u32`, as the number of authorities does
  have hlt : slot.toNat % s.authorities.items.length < UInt32.size := by
    have hmod := Nat.mod_lt slot.toNat (Nat.pos_of_ne_zero hlen)
    have hbound := s.authorities.bounded
    have hmax := maxAuthorities.toNat_lt_size
    omega
  refine ⟨.ofNat (slot.toNat % s.authorities.items.length), ?_, UInt32.toNat_ofNat_of_lt' hlt⟩
  rw [Aura.findAuthor, h]
  exact if_neg hlen

theorem findsAuthor_index {i : UInt32}
    (h : Aura.findAuthor s.authorities digests = .ok (some i)) :
    FindsAuthor s digests ↔ i.toNat < s.validators.length := by
  have hspec : findAccountFromAuthorIndex s.validators (Aura.findAuthor s.authorities) digests =
      .ok s.validators[i.toNat]? := by
    rw [findAccountFromAuthorIndex, h]
    rfl
  have hfind : findAuthor s.validators (Aura.findAuthor s.authorities) digests =
      match s.validators[i.toNat]? with
      | some account => .ok (some account.into)
      | none => .error .indexOutOfBounds := by
    rw [findAuthor, h]
    rfl
  by_cases hi : i.toNat < s.validators.length
  · rw [List.getElem?_eq_getElem hi] at hspec hfind
    exact iff_of_true ⟨_, hspec, hfind⟩ hi
  · rw [List.getElem?_eq_none (Nat.not_lt.mp hi)] at hfind
    refine iff_of_false ?_ hi
    rintro ⟨r, -, hr⟩
    rw [hfind] at hr
    cases hr

theorem findsAuthor_iff (digests : Digests) :
    FindsAuthor s digests ↔ ∀ slot, firstSlot digests = some slot →
      s.authorities.items ≠ [] ∧
        slot.toNat % s.authorities.items.length < s.validators.length := by
  cases hslot : firstSlot digests with
  | none => exact iff_of_true (findsAuthor_no_slot s hslot) fun slot h => nomatch h
  | some slot =>
    simp only [Option.some.injEq, forall_eq']
    by_cases hnone : s.authorities.items = []
    · exact iff_of_false (not_findsAuthor_no_authority s hslot hnone) fun h => h.1 hnone
    · obtain ⟨i, hi, hval⟩ := aura_index s hslot hnone
      rw [findsAuthor_index s hi, hval]
      exact (and_iff_right hnone).symm

end Lookup

/-! ## Runs of sessions -/

structure InRange (s : Consensus AuraId maxAuthorities) : Prop where
  authority : s.authorities.items ≠ []
  length_le : s.authorities.items.length ≤ s.validators.length

omit [DecidableEq AuraId] in
theorem InRange.findsAuthor {s : Consensus AuraId maxAuthorities} (h : InRange s)
    (digests : Digests) : FindsAuthor s digests := by
  rw [findsAuthor_iff]
  intro slot _
  have hpos : 0 < s.authorities.items.length := List.length_pos_iff.mpr h.authority
  exact ⟨h.authority, (Nat.mod_lt slot.toNat hpos).trans_le h.length_le⟩

omit [DecidableEq AuraId] in
theorem genesis_inRange {keys : BoundedVec (AccountId × AuraId) maxAuthorities}
    (h : keys.items ≠ []) : InRange (genesis keys) where
  authority := by
    intro hnil
    exact h (List.map_eq_nil_iff.mp hnil)
  length_le := by
    simp only [genesis, List.length_map]
    exact le_refl _

theorem newSession_inRange {s : Consensus AuraId maxAuthorities} (hs : InRange s)
    {keys : List (AccountId × AuraId)} (h : keys ≠ []) : InRange (newSession s keys) := by
  -- Aura takes as many of the new keys as it has room for, and it has room for one
  have hroom : 0 < maxAuthorities.toNat :=
    (List.length_pos_iff.mpr hs.authority).trans_le s.authorities.bounded
  have hlen : 0 < keys.length := List.length_pos_iff.mpr h
  simp only [newSession, Aura.onNewSession]
  split
  · have hnew : (BoundedVec.truncateFrom (keys.map Prod.snd) :
        BoundedVec AuraId maxAuthorities).items ≠ [] := by
      rw [← List.length_pos_iff, BoundedVec.truncateFrom, List.length_take, List.length_map]
      exact lt_min hroom hlen
    rw [Aura.changeAuthorities, if_neg hnew]
    constructor
    · exact hnew
    · rw [BoundedVec.truncateFrom, List.length_take, List.length_map, List.length_map]
      exact Nat.min_le_right _ _
  · rename_i hsame
    have heq : s.authorities.items = keys.map Prod.snd := not_not.mp hsame
    constructor
    · exact hs.authority
    · rw [heq, List.length_map, List.length_map]

def slotZero : Digests := [(auraEngineId, List.replicate 8 0)]

omit [DecidableEq AuraId] in
theorem not_findsAuthor_no_validator {s : Consensus AuraId maxAuthorities}
    (h : s.validators = []) : ¬ FindsAuthor s slotZero := by
  intro hfinds
  have hslot : firstSlot slotZero = some 0 := by decide
  have hlt := ((findsAuthor_iff s slotZero).mp hfinds 0 hslot).2
  rw [h] at hlt
  exact Nat.not_lt_zero _ hlt

def Reached (keys : BoundedVec (AccountId × AuraId) maxAuthorities)
    (sessions : List (List (AccountId × AuraId))) (s : Consensus AuraId maxAuthorities) : Prop :=
  ∃ past, past <+: sessions ∧ Trace SessionStep (genesis keys) past s

theorem reached_inRange {keys : BoundedVec (AccountId × AuraId) maxAuthorities}
    {sessions : List (List (AccountId × AuraId))} {s : Consensus AuraId maxAuthorities}
    (hgenesis : keys.items ≠ []) (hsessions : ∀ k ∈ sessions, k ≠ [])
    (h : Reached keys sessions s) : InRange s := by
  obtain ⟨past, hpast, hrun⟩ := h
  have hstep : ∀ (s : Consensus AuraId maxAuthorities) k s', k ≠ [] → InRange s →
      SessionStep s k s' → InRange s' := by
    rintro s k s' hk hs rfl
    exact newSession_inRange hs hk
  refine hrun.invariant_of hstep ?_ (genesis_inRange hgenesis)
  intro k hk
  exact hsessions k (hpast.subset hk)

theorem reached_session (keys : BoundedVec (AccountId × AuraId) maxAuthorities)
    (past later : List (List (AccountId × AuraId))) (k : List (AccountId × AuraId)) :
    ∃ s, Reached keys (past ++ k :: later) s ∧ s.validators = k.map Prod.fst := by
  have hrun : ∀ (s : Consensus AuraId maxAuthorities) (past : List (List (AccountId × AuraId))),
      ∃ s', Trace SessionStep s (past ++ [k]) s' ∧ s'.validators = k.map Prod.fst := by
    intro s past
    induction past generalizing s with
    | nil => exact ⟨newSession s k, .single rfl, rfl⟩
    | cons k' past ih =>
      obtain ⟨s', hs', hv⟩ := ih (newSession s k')
      exact ⟨s', .cons rfl hs', hv⟩
  obtain ⟨s, hs, hv⟩ := hrun (genesis keys) past
  exact ⟨s, ⟨past ++ [k], ⟨later, by simp⟩, hs⟩, hv⟩

theorem found_in_runs_iff (keys : BoundedVec (AccountId × AuraId) maxAuthorities)
    (sessions : List (List (AccountId × AuraId))) :
    (∀ s, Reached keys sessions s → ∀ digests, FindsAuthor s digests) ↔
      ∀ k ∈ keys.items :: sessions, k ≠ [] := by
  constructor
  · rintro h k hk rfl
    rcases List.mem_cons.mp hk with hgenesis | hsession
    · have hstart : Reached keys sessions (genesis keys) := ⟨[], List.nil_prefix, .nil _⟩
      have hnone : (genesis keys).validators = [] := List.map_eq_nil_iff.mpr hgenesis.symm
      exact not_findsAuthor_no_validator hnone (h _ hstart slotZero)
    · obtain ⟨past, later, rfl⟩ := List.append_of_mem hsession
      obtain ⟨s, hs, hv⟩ := reached_session keys past later []
      exact not_findsAuthor_no_validator hv (h s hs slotZero)
  · intro h s hs digests
    have hgenesis : keys.items ≠ [] := h _ List.mem_cons_self
    have hsessions : ∀ k ∈ sessions, k ≠ [] := fun k hk => h k (List.mem_cons_of_mem _ hk)
    exact (reached_inRange hgenesis hsessions hs).findsAuthor digests

/-- For any two lists, the lookup is right exactly if the index is inside the validator list. In a
run of sessions it always is, exactly if no session is without validators. -/
theorem author_found_iff (keys : BoundedVec (AccountId × AuraId) maxAuthorities)
    (sessions : List (List (AccountId × AuraId))) :
    (∀ (s : Consensus AuraId maxAuthorities) digests,
      FindsAuthor s digests ↔ ∀ slot, firstSlot digests = some slot →
        s.authorities.items ≠ [] ∧
          slot.toNat % s.authorities.items.length < s.validators.length) ∧
    ((∀ s, Reached keys sessions s → ∀ digests, FindsAuthor s digests) ↔
      ∀ k ∈ keys.items :: sessions, k ≠ []) :=
  ⟨findsAuthor_iff, found_in_runs_iff keys sessions⟩

end Sessions

def sampleKeys : BoundedVec (AccountId × H256) 100 := ⟨[(7#160, 1#256)], by decide⟩

/-- The only collator gives up its keys: Aura goes on with them, and the lookup panics. -/
theorem author_lookup_panics :
    Reached sampleKeys [[]] (newSession (genesis sampleKeys) []) ∧
      findAuthor (newSession (genesis sampleKeys) []).validators
          (Aura.findAuthor (newSession (genesis sampleKeys) []).authorities) slotZero =
        .error .indexOutOfBounds ∧
      findAccountFromAuthorIndex (newSession (genesis sampleKeys) []).validators
          (Aura.findAuthor (newSession (genesis sampleKeys) []).authorities) slotZero =
        .ok none := by
  exact ⟨⟨[[]], List.prefix_rfl, .single rfl⟩, by decide, by decide⟩

end Evm
end RuntimeTemplates
