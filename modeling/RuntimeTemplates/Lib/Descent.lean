import Mathlib.Data.List.Basic
import Mathlib.Data.Nat.Init
import Mathlib.Logic.Relation

/-!
# RuntimeTemplates.Lib.Descent

Checks that walk down nested values, over any type whose values carry others of the type.

* `Inside children a b`: `b` is `a`, or lies inside it at some depth.
* `walk_iff`: a recursive check accepts a value exactly if every value inside it passes.
* `inside_split`: where a walk follows some of the children only, what lies inside a value is on the
  walk or below a child that the walk leaves out.
* `walk_sound_iff`: when such a partial walk accepts no value with a bad one inside.
* `inside_invariant`, `inside_exit`: what each step inwards keeps, the whole way keeps; and what is
  lost on the way is lost at one step.
-/

namespace Descent

variable {α : Type*}

def Inside (children : α → List α) : α → α → Prop :=
  Relation.ReflTransGen fun a b => b ∈ children a

section Walk

variable {children : α → List α} {ok : α → Prop} {f : α → Bool}

theorem inside_refl (a : α) : Inside children a a := Relation.ReflTransGen.refl

theorem inside_head {a b c : α} (hb : b ∈ children a) (h : Inside children b c) :
    Inside children a c := Relation.ReflTransGen.head hb h

theorem inside_iff (a c : α) :
    Inside children a c ↔ a = c ∨ ∃ b, b ∈ children a ∧ Inside children b c :=
  Relation.ReflTransGen.cases_head_iff

/-- A check that looks at a value and then at its children looks at everything inside it. The
induction is on a size that the children of a value stay below. -/
theorem walk_iff (size : α → Nat) (hsize : ∀ a, ∀ b ∈ children a, size b < size a)
    (hf : ∀ a, f a = true ↔ ok a ∧ ∀ b ∈ children a, f b = true) (a : α) :
    f a = true ↔ ∀ b, Inside children a b → ok b := by
  induction hn : size a using Nat.strong_induction_on generalizing a with
  | _ n ih =>
    rw [hf a]
    constructor
    · intro h c hc
      rcases (inside_iff a c).mp hc with rfl | ⟨b, hb, hbc⟩
      · exact h.1
      · have hlt : size b < n := hn ▸ hsize a b hb
        exact (ih (size b) hlt b rfl).mp (h.2 b hb) c hbc
    · intro h
      refine ⟨h a (inside_refl a), ?_⟩
      intro b hb
      have hlt : size b < n := hn ▸ hsize a b hb
      exact (ih (size b) hlt b rfl).mpr fun c hc => h c (inside_head hb hc)

end Walk

/-! ## Walks that leave children out -/

section Partial

variable {carried followed hidden : α → List α} {ok : α → Prop} {f : α → Bool}

theorem inside_mono (h : ∀ a, ∀ b ∈ followed a, b ∈ carried a) {a c : α}
    (hc : Inside followed a c) : Inside carried a c :=
  Relation.ReflTransGen.mono h a c hc

theorem inside_split (hsplit : ∀ a b, b ∈ carried a ↔ b ∈ followed a ∨ b ∈ hidden a) (a c : α) :
    Inside carried a c ↔ Inside followed a c ∨
      ∃ w, Inside followed a w ∧ ∃ b ∈ hidden w, Inside carried b c := by
  have hfollowed : ∀ a, ∀ b ∈ followed a, b ∈ carried a := fun a b hb => (hsplit a b).mpr (.inl hb)
  constructor
  · intro h
    induction h using Relation.ReflTransGen.head_induction_on with
    | refl => exact .inl (inside_refl c)
    | @head a b hab hbc ih =>
      rcases (hsplit a b).mp hab with hb | hb
      · rcases ih with ih | ⟨w, hw, ih⟩
        · exact .inl (inside_head hb ih)
        · exact .inr ⟨w, inside_head hb hw, ih⟩
      · exact .inr ⟨a, inside_refl a, b, hb, hbc⟩
  · rintro (h | ⟨w, hw, b, hb, hbc⟩)
    · exact inside_mono hfollowed h
    · have hwb : b ∈ carried w := (hsplit w b).mpr (.inr hb)
      exact (inside_mono hfollowed hw).trans (inside_head hwb hbc)

/-- A partial walk is sound for a value exactly if it meets a bad value itself, or nothing bad lies
below the children it leaves out. -/
theorem walk_sound_iff (hsplit : ∀ a b, b ∈ carried a ↔ b ∈ followed a ∨ b ∈ hidden a)
    (hwalk : ∀ a, f a = true ↔ ∀ b, Inside followed a b → ok b) (a : α) :
    (f a = true → ∀ c, Inside carried a c → ok c) ↔
      (∃ c, Inside followed a c ∧ ¬ ok c) ∨
        ∀ w, Inside followed a w → ∀ b ∈ hidden w, ∀ c, Inside carried b c → ok c := by
  constructor
  · intro h
    by_cases hf : f a = true
    · refine .inr ?_
      intro w hw b hb c hc
      exact h hf c ((inside_split hsplit a c).mpr (.inr ⟨w, hw, b, hb, hc⟩))
    · refine .inl ?_
      rw [hwalk a] at hf
      simpa using hf
  · intro h hf c hc
    rcases (inside_split hsplit a c).mp hc with hc | ⟨w, hw, b, hb, hbc⟩
    · exact (hwalk a).mp hf c hc
    · rcases h with ⟨d, hd, hbad⟩ | h
      · exact absurd ((hwalk a).mp hf d hd) hbad
      · exact h w hw b hb c hbc

end Partial

/-! ## Properties on the way inwards -/

section Way

variable {children : α → List α} {P : α → Prop}

theorem inside_tail {a b c : α} (h : Inside children a b) (hc : c ∈ children b) :
    Inside children a c := Relation.ReflTransGen.tail h hc

theorem inside_invariant (hstep : ∀ a, P a → ∀ b ∈ children a, P b) {a c : α}
    (h : Inside children a c) (ha : P a) : P c := by
  induction h with
  | refl => exact ha
  | tail _ hc ih => exact hstep _ ih _ hc

/-- The first step inwards after which `P` does not hold any more. -/
theorem inside_exit {a c : α} (h : Inside children a c) (ha : P a) (hc : ¬ P c) :
    ∃ b d, Inside children a b ∧ P b ∧ d ∈ children b ∧ ¬ P d ∧ Inside children d c := by
  induction h using Relation.ReflTransGen.head_induction_on with
  | refl => exact absurd ha hc
  | @head a d had hdc ih =>
    by_cases hd : P d
    · obtain ⟨b, e, hb, hPb, he, hPe, hec⟩ := ih hd
      exact ⟨b, e, inside_head had hb, hPb, he, hPe, hec⟩
    · exact ⟨a, d, inside_refl a, ha, had, hd, hdc⟩

end Way

end Descent
