import RuntimeTemplates.Contracts.Artifact

/-!
# RuntimeTemplates.Contracts.Bytecode

What `deserialize_bytecode` accepts, against the grammar of bytecode: the marker `0x` and an even
number of hex digits. The function never looks at the marker. It drops the first two bytes of the
string, whatever they are, and hands the rest to `hex::decode`.

* `sliceFrom_eq_ok_iff`: `&s[n..]` is the rest after characters of `n` bytes together.
* `IsHex`: what `hex::decode` accepts, as a grammar.
* `decoded_by_grammar_iff`: the strings on which the function follows the grammar of bytecode.
-/

namespace RuntimeTemplates
namespace Contracts

open Serde

/-! ## Slices -/

def utf8Length : List Char → Nat
  | [] => 0
  | c :: s => c.utf8Size + utf8Length s

@[simp] theorem utf8Length_nil : utf8Length [] = 0 := rfl

@[simp] theorem utf8Length_cons (c : Char) (s : List Char) :
    utf8Length (c :: s) = c.utf8Size + utf8Length s := rfl

theorem utf8Length_eq_zero {s : List Char} (h : utf8Length s = 0) : s = [] := by
  cases s with
  | nil => rfl
  | cons c s =>
    rw [utf8Length_cons] at h
    have hc := c.utf8Size_pos
    omega

theorem sliceFrom_zero (s : List Char) : sliceFrom s 0 = .ok s := by
  cases s <;> rfl

theorem sliceFrom_zero_eq_ok_iff (s rest : List Char) :
    sliceFrom s 0 = .ok rest ↔ ∃ skipped, s = skipped ++ rest ∧ utf8Length skipped = 0 := by
  rw [sliceFrom_zero]
  constructor
  · intro h
    exact ⟨[], Except.ok.inj h, rfl⟩
  · rintro ⟨skipped, hs, hn⟩
    rw [utf8Length_eq_zero hn] at hs
    exact congrArg _ hs

/-- Dropping `n` bytes leaves what follows the characters that make up those bytes. -/
theorem sliceFrom_eq_ok_iff (s rest : List Char) (n : Nat) :
    sliceFrom s n = .ok rest ↔ ∃ skipped, s = skipped ++ rest ∧ utf8Length skipped = n := by
  induction s generalizing n with
  | nil =>
    cases n with
    | zero => exact sliceFrom_zero_eq_ok_iff [] rest
    | succ n =>
      constructor
      · intro h; cases h
      · rintro ⟨skipped, hs, hn⟩
        rw [(List.append_eq_nil_iff.mp hs.symm).1] at hn
        cases hn
  | cons c s ih =>
    cases n with
    | zero => exact sliceFrom_zero_eq_ok_iff (c :: s) rest
    | succ n =>
      rw [sliceFrom]
      split
      · rename_i hle
        rw [ih]
        constructor
        · rintro ⟨skipped, rfl, hn⟩
          exact ⟨c :: skipped, rfl, by rw [utf8Length_cons]; omega⟩
        · rintro ⟨skipped, hs, hn⟩
          cases skipped with
          | nil => cases hn
          | cons d skipped =>
            obtain ⟨rfl, rfl⟩ := List.cons.inj hs
            rw [utf8Length_cons] at hn
            exact ⟨skipped, rfl, by omega⟩
      · rename_i hlt
        constructor
        · intro h; cases h
        · rintro ⟨skipped, hs, hn⟩
          cases skipped with
          | nil => cases hn
          | cons d skipped =>
            obtain ⟨rfl, -⟩ := List.cons.inj hs
            rw [utf8Length_cons] at hn
            omega

/-- A slice fails by a panic only. -/
theorem sliceFrom_cases (s : List Char) (n : Nat) :
    (∃ rest, sliceFrom s n = .ok rest) ∨
      sliceFrom s n = .error (.panic .sliceOutsideCharBoundary) := by
  induction s generalizing n with
  | nil =>
    cases n with
    | zero => exact .inl ⟨[], rfl⟩
    | succ n => exact .inr rfl
  | cons c s ih =>
    cases n with
    | zero => exact .inl ⟨c :: s, rfl⟩
    | succ n =>
      rw [sliceFrom]
      split
      · exact ih _
      · exact .inr rfl

/-! ## Hex strings -/

def isHexDigit (c : Char) : Bool :=
  ('0' ≤ c && c ≤ '9') || ('a' ≤ c && c ≤ 'f') || ('A' ≤ c && c ≤ 'F')

/-- An even number of hex digits. -/
def IsHex (s : List Char) : Prop := s.length % 2 = 0 ∧ ∀ c ∈ s, isHexDigit c = true

instance (s : List Char) : Decidable (IsHex s) := inferInstanceAs (Decidable (_ ∧ _))

theorem hexDigit_eq_none_iff (c : Char) : hexDigit c = none ↔ isHexDigit c = false := by
  unfold hexDigit isHexDigit
  by_cases h0 : '0' ≤ c ∧ c ≤ '9'
  · simp [h0]
  · by_cases ha : 'a' ≤ c ∧ c ≤ 'f'
    · simp [ha, h0]
    · by_cases hA : 'A' ≤ c ∧ c ≤ 'F'
      · simp [h0, ha, hA]
      · rw [if_neg h0, if_neg ha, if_neg hA]
        simp only [Bool.or_eq_false_iff, Bool.and_eq_false_iff, decide_eq_false_iff_not]
        exact iff_of_true trivial ⟨⟨not_and_or.mp h0, not_and_or.mp ha⟩, not_and_or.mp hA⟩

theorem isHexDigit_of_hexDigit {c : Char} {d : Nat} (h : hexDigit c = some d) :
    isHexDigit c = true := by
  rw [← Bool.not_eq_false, ← hexDigit_eq_none_iff, h]
  exact Option.some_ne_none d

theorem isHex_cons_cons (hi lo : Char) (rest : List Char) :
    IsHex (hi :: lo :: rest) ↔ isHexDigit hi = true ∧ isHexDigit lo = true ∧ IsHex rest := by
  simp only [IsHex, List.length_cons, List.forall_mem_cons]
  constructor
  · rintro ⟨hlen, hhi, hlo, hrest⟩
    exact ⟨hhi, hlo, by omega, hrest⟩
  · rintro ⟨hhi, hlo, hlen, hrest⟩
    exact ⟨by omega, hhi, hlo, hrest⟩

/-- `hex::decode` accepts exactly the hex strings. -/
theorem hexDecode_eq_none_iff (s : List Char) : hexDecode s = none ↔ ¬ IsHex s := by
  fun_induction hexDecode s with
  | case1 => simp [IsHex]
  | case2 c => simp [IsHex]
  | case3 hi lo rest ih =>
    rw [isHex_cons_cons]
    cases hhi : hexDigit hi with
    | none =>
      have := (hexDigit_eq_none_iff hi).mp hhi
      simp [this]
    | some a =>
      have hhi' := isHexDigit_of_hexDigit hhi
      cases hlo : hexDigit lo with
      | none =>
        have := (hexDigit_eq_none_iff lo).mp hlo
        simp [this]
      | some b =>
        have hlo' := isHexDigit_of_hexDigit hlo
        cases hrest : hexDecode rest with
        | none =>
          have := ih.mp hrest
          simp [this]
        | some bytes =>
          have : IsHex rest := by
            by_contra hn
            rw [ih.mpr hn] at hrest
            cases hrest
          simp [hhi', hlo', this]

/-! ## The function against the grammar -/

theorem deserializeBytecode_some {s : String} {rest : List Char} {code : List UInt8}
    (h : sliceFrom s.toList 2 = .ok rest) (hd : hexDecode rest = some code) :
    deserializeBytecode .borrowed (.str s) = .ok code := by
  simp only [deserializeBytecode, decodeStr_borrowed, decodeBytecode, h, Except.bind, bind, hd]

theorem deserializeBytecode_none {s : String} {rest : List Char}
    (h : sliceFrom s.toList 2 = .ok rest) (hd : hexDecode rest = none) :
    deserializeBytecode .borrowed (.str s) = reject := by
  simp only [deserializeBytecode, decodeStr_borrowed, decodeBytecode, h, Except.bind, bind, hd]

theorem deserializeBytecode_panic {s : String}
    (h : sliceFrom s.toList 2 = .error (.panic .sliceOutsideCharBoundary)) :
    deserializeBytecode .borrowed (.str s) = .error (.panic .sliceOutsideCharBoundary) := by
  simp only [deserializeBytecode, decodeStr_borrowed, decodeBytecode, h, Except.bind, bind]

/-- The string is decoded by the grammar of bytecode: the bytes it encodes, or an error. -/
def DecodedByGrammar (s : String) : Prop :=
  (∀ code, deserializeBytecode .borrowed (.str s) = .ok code ↔ IsBytecode s code) ∧
    ((∀ code, ¬ IsBytecode s code) → deserializeBytecode .borrowed (.str s) = reject)

/-- `skipped` is what the function drops from `s`, and `rest` is what it keeps. -/
structure SplitsAt2 (s : String) (skipped rest : List Char) : Prop where
  append : s.toList = skipped ++ rest
  bytes : utf8Length skipped = 2

section Split

variable {s : String} {skipped rest : List Char} {code : List UInt8}

theorem SplitsAt2.slice (h : SplitsAt2 s skipped rest) : sliceFrom s.toList 2 = .ok rest :=
  (sliceFrom_eq_ok_iff _ _ _).mpr ⟨skipped, h.append, h.bytes⟩

theorem SplitsAt2.unique {skipped' rest' : List Char} (h : SplitsAt2 s skipped rest)
    (h' : SplitsAt2 s skipped' rest') : skipped' = skipped ∧ rest' = rest := by
  have hrest : rest' = rest := Except.ok.inj (h'.slice.symm.trans h.slice)
  subst hrest
  exact ⟨List.append_cancel_right (h'.append.symm.trans h.append), rfl⟩

theorem IsBytecode.splits (h : IsBytecode s code) :
    ∃ rest, SplitsAt2 s ['0', 'x'] rest ∧ hexDecode rest = some code := by
  obtain ⟨digits, hs, hd⟩ := h
  exact ⟨digits, ⟨hs, rfl⟩, hd⟩

theorem SplitsAt2.isBytecode_iff (h : SplitsAt2 s skipped rest) :
    IsBytecode s code ↔ skipped = ['0', 'x'] ∧ hexDecode rest = some code := by
  constructor
  · intro hb
    obtain ⟨digits, hsplit, hd⟩ := hb.splits
    obtain ⟨hskip, rfl⟩ := h.unique hsplit
    exact ⟨hskip.symm, hd⟩
  · rintro ⟨rfl, hd⟩
    exact ⟨rest, h.append, hd⟩

theorem SplitsAt2.decoded_iff (h : SplitsAt2 s skipped rest) :
    DecodedByGrammar s ↔ skipped = ['0', 'x'] ∨ ¬ IsHex rest := by
  rw [← hexDecode_eq_none_iff]
  cases hd : hexDecode rest with
  | none =>
    have hdec := deserializeBytecode_none h.slice hd
    refine iff_of_true ⟨fun code => ?_, fun _ => hdec⟩ (.inr rfl)
    rw [hdec, h.isBytecode_iff, hd]
    simp [reject]
  | some bytes =>
    have hdec := deserializeBytecode_some h.slice hd
    constructor
    · rintro ⟨hok, -⟩
      have hb : IsBytecode s bytes := (hok bytes).mp hdec
      exact .inl (h.isBytecode_iff.mp hb).1
    · intro hcase
      have hm : skipped = ['0', 'x'] := hcase.resolve_right (by simp)
      refine ⟨fun code => ?_, fun hnone => ?_⟩
      · rw [hdec, h.isBytecode_iff, hd]
        simp [hm]
      · exact absurd (h.isBytecode_iff.mpr ⟨hm, hd⟩) (hnone bytes)

end Split

/-- The function follows the grammar exactly where two bytes can be dropped, and these are the
marker or what follows them is no hex string. -/
theorem decoded_by_grammar_iff (s : String) :
    DecodedByGrammar s ↔
      ∃ skipped rest, SplitsAt2 s skipped rest ∧ (skipped = ['0', 'x'] ∨ ¬ IsHex rest) := by
  rcases sliceFrom_cases s.toList 2 with ⟨rest, hslice⟩ | hpanic
  · obtain ⟨skipped, hs, hn⟩ := (sliceFrom_eq_ok_iff _ _ _).mp hslice
    have hsplit : SplitsAt2 s skipped rest := ⟨hs, hn⟩
    rw [hsplit.decoded_iff]
    constructor
    · intro hcase
      exact ⟨skipped, rest, hsplit, hcase⟩
    · rintro ⟨skipped', rest', hsplit', hcase⟩
      obtain ⟨rfl, rfl⟩ := hsplit.unique hsplit'
      exact hcase
  · have hdec := deserializeBytecode_panic hpanic
    refine iff_of_false ?_ ?_
    · rintro ⟨-, herr⟩
      have hnone : ∀ code, ¬ IsBytecode s code := by
        intro code hb
        obtain ⟨rest, hsplit, -⟩ := hb.splits
        rw [hsplit.slice] at hpanic
        cases hpanic
      rw [herr hnone] at hdec
      cases hdec
    · rintro ⟨skipped, rest, hsplit, -⟩
      rw [hsplit.slice] at hpanic
      cases hpanic

/-- Two digits of an unprefixed string are dropped, and a string of one byte or with a wide second
character makes the node panic. -/
theorem grammar_not_followed :
    (deserializeBytecode .borrowed (.str "1234") = .ok [0x34] ∧ ¬ DecodedByGrammar "1234") ∧
      (deserializeBytecode .borrowed (.str "0") = .error (.panic .sliceOutsideCharBoundary) ∧
        ¬ DecodedByGrammar "0") ∧
      (deserializeBytecode .borrowed (.str "0é00") = .error (.panic .sliceOutsideCharBoundary) ∧
        ¬ DecodedByGrammar "0é00") := by
  have hdropped : deserializeBytecode .borrowed (.str "1234") = .ok [0x34] := by decide
  have hshort : deserializeBytecode .borrowed (.str "0") =
      .error (.panic .sliceOutsideCharBoundary) := by decide
  have hwide : deserializeBytecode .borrowed (.str "0é00") =
      .error (.panic .sliceOutsideCharBoundary) := by decide
  refine ⟨⟨hdropped, fun h => ?_⟩, ⟨hshort, fun h => ?_⟩, ⟨hwide, fun h => ?_⟩⟩
  · obtain ⟨digits, hs, -⟩ := (h.1 [0x34]).mp hdropped
    exact absurd hs (by simp)
  · have herr := h.2 fun code ⟨digits, hs, _⟩ => absurd hs (by simp)
    rw [hshort] at herr
    cases herr
  · have herr := h.2 fun code ⟨digits, hs, _⟩ => absurd hs (by simp)
    rw [hwide] at herr
    cases herr

end Contracts
end RuntimeTemplates
