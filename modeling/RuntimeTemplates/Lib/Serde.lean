import Mathlib.Data.List.Basic

/-!
# RuntimeTemplates.Lib.Serde

Deserialization of JSON values, by the documented rules of derived deserializers.

* `StrForm`: how a deserializer hands a string to a visitor. A reader has no input to borrow from;
  a buffered value keeps what was borrowed and owns the rest.
* `Decode π`: a decoded value, an error, or a panic of the code that decodes; with `π = Empty` the
  type says that the code cannot panic.
* `requiredField`, `optionalField`: the fields of a struct read from an object. Unknown entries are
  ignored, a repeated one is an error, and so is a missing one that is not optional.
* `untagged`: the first variant that decodes. Only an error makes room for the next variant.
-/

inductive Json where
  | null
  | bool (b : Bool)
  | number (text : String)
  | str (s : String)
  | arr (items : List Json)
  | obj (entries : List (String × Json))

namespace Serde

inductive StrForm where
  | borrowed
  | transient
  | owned
  deriving DecidableEq

def StrForm.buffered : StrForm → StrForm
  | .borrowed => .borrowed
  | .transient | .owned => .owned

inductive Fail (π : Type) where
  | error
  | panic (p : π)
  deriving DecidableEq

abbrev Decode (π α : Type) := Except (Fail π) α

variable {π α : Type}

def reject : Decode π α := .error .error

/-- Code that cannot panic, among code that can. -/
def total : Decode Empty α → Decode π α
  | .ok a => .ok a
  | .error .error => reject

def decodeString : Json → Decode π String
  | .str s => .ok s
  | _ => reject

/-- `<&str as Deserialize>`: a borrowed string only. -/
def decodeStr (form : StrForm) : Json → Decode π String
  | .str s => if form = .borrowed then .ok s else reject
  | _ => reject

def decodeBool : Json → Decode π Bool
  | .bool b => .ok b
  | _ => reject

def decodeList (decode : Json → Decode π α) : List Json → Decode π (List α)
  | [] => .ok []
  | item :: items => do
    let a ← decode item
    let as ← decodeList decode items
    return a :: as

def decodeVec (decode : Json → Decode π α) : Json → Decode π (List α)
  | .arr items => decodeList decode items
  | _ => reject

def valuesOf (key : String) (entries : List (String × Json)) : List Json :=
  (entries.filter fun e => e.1 = key).map Prod.snd

def optionalField (key : String) (decode : Json → Decode π α) (entries : List (String × Json)) :
    Decode π (Option α) :=
  match valuesOf key entries with
  | [] => .ok none
  | [.null] => .ok none
  | [v] => some <$> decode v
  | _ => reject

def requiredField (key : String) (decode : Json → Decode π α) (entries : List (String × Json)) :
    Decode π α :=
  match valuesOf key entries with
  | [v] => decode v
  | _ => reject

def untagged (first : Decode π α) (next : Unit → Decode π α) : Decode π α :=
  match first with
  | .error .error => next ()
  | r => r

@[simp] theorem buffered_transient : StrForm.transient.buffered = .owned := rfl

@[simp] theorem buffered_borrowed : StrForm.borrowed.buffered = .borrowed := rfl

/-- A string that is not borrowed is never read as `&str`. -/
theorem decodeStr_reject {form : StrForm} (h : form ≠ .borrowed) (j : Json) :
    decodeStr form j = (reject : Decode π String) := by
  cases j with
  | str s => exact if_neg h
  | _ => rfl

@[simp] theorem decodeStr_borrowed (s : String) :
    decodeStr .borrowed (.str s) = (.ok s : Decode π String) := rfl

@[simp] theorem total_ok (a : α) : total (.ok a) = (.ok a : Decode π α) := rfl

theorem total_cases (x : Decode Empty α) :
    (∃ a, x = .ok a ∧ total x = (.ok a : Decode π α)) ∨ total x = (reject : Decode π α) := by
  cases x with
  | ok a => exact .inl ⟨a, rfl, rfl⟩
  | error f =>
    cases f with
    | error => exact .inr rfl
    | panic p => exact p.elim

theorem requiredField_single {key : String} {decode : Json → Decode π α}
    {entries : List (String × Json)} {v : Json} (h : valuesOf key entries = [v]) :
    requiredField key decode entries = decode v := by
  rw [requiredField, h]

/-- A field whose decoder rejects every value rejects the object. -/
theorem requiredField_reject {key : String} {decode : Json → Decode π α}
    (h : ∀ v, decode v = reject) (entries : List (String × Json)) :
    requiredField key decode entries = reject := by
  unfold requiredField
  split
  · exact h _
  · rfl

@[simp] theorem untagged_reject (next : Unit → Decode π α) : untagged reject next = next () := rfl

@[simp] theorem untagged_ok (a : α) (next : Unit → Decode π α) : untagged (.ok a) next = .ok a := rfl

theorem ok_bind {β : Type} (a : α) (f : α → Decode π β) : (.ok a >>= f) = f a := rfl

/-- An object without its tag has the same other fields. -/
theorem valuesOf_filter_ne {key tag : String} (h : key ≠ tag) (entries : List (String × Json)) :
    valuesOf key (entries.filter fun e => e.1 ≠ tag) = valuesOf key entries := by
  unfold valuesOf
  rw [List.filter_filter]
  congr 1
  refine List.filter_congr fun e _ => ?_
  by_cases he : e.1 = key
  · simp [he, h]
  · simp [he]

/-! ## What a decoder accepts -/

def Accepts (decode : Json → Decode π α) (v : Json) : Prop := ∃ a, decode v = .ok a

theorem reject_of_not_accepts {decode : Json → Decode Empty α} {v : Json}
    (h : ¬ Accepts decode v) : decode v = reject := by
  cases hd : decode v with
  | ok a => exact absurd ⟨a, hd⟩ h
  | error f =>
    cases f with
    | error => rfl
    | panic p => exact p.elim

theorem decodeList_isOk_iff (decode : Json → Decode π α) (items : List Json) :
    (∃ as, decodeList decode items = .ok as) ↔ ∀ item ∈ items, Accepts decode item := by
  induction items with
  | nil => simp [decodeList]
  | cons item items ih =>
    rw [List.forall_mem_cons, ← ih, decodeList]
    constructor
    · rintro ⟨as, h⟩
      cases hitem : decode item with
      | error f => rw [hitem] at h; cases h
      | ok a =>
        rw [hitem, ok_bind] at h
        cases hitems : decodeList decode items with
        | error f => rw [hitems] at h; cases h
        | ok as' => exact ⟨⟨a, hitem⟩, as', rfl⟩
    · rintro ⟨⟨a, ha⟩, as, has⟩
      exact ⟨a :: as, by rw [ha, ok_bind, has, ok_bind]; rfl⟩

/-- An array decodes if and only if each of its items does. -/
theorem accepts_decodeVec_iff (decode : Json → Decode π α) (items : List Json) :
    Accepts (decodeVec decode) (.arr items) ↔ ∀ item ∈ items, Accepts decode item :=
  decodeList_isOk_iff decode items

end Serde
