import Vigil.Number.Binary64

/-!
# Configuration values

A configuration is a tree of tables and arrays over scalars. A node may carry the name of the
source it was read from; nodes made while sources are combined carry none.
-/

namespace Vigil.Config

/-- A value without parts. -/
inductive Scalar
  | nil
  | bool (b : Bool)
  | int (n : Int)
  | float (x : Binary64)
  | text (s : String)
  deriving DecidableEq

/-- A configuration tree; the entries of a table have distinct keys. -/
inductive Value
  | scalar (origin : Option String) (s : Scalar)
  | array (origin : Option String) (items : List Value)
  | table (origin : Option String) (entries : List (String × Value))

namespace Scalar

/-- The word for a truth value. -/
def word (b : Bool) : String := if b then "true" else "false"

/-- A scalar as text; nil has none. -/
def asText? : Scalar → Option String
  | nil => none
  | bool b => some (word b)
  | int n => some (Text.Decimal.integer n)
  | float x => some x.render
  | text s => some s

end Scalar

namespace Value

/-- The source that a value was read from. -/
def origin : Value → Option String
  | scalar o _ => o
  | array o _ => o
  | table o _ => o

/-- The value that stands where nothing was set. -/
def absent : Value := scalar none .nil

instance : Inhabited Value := ⟨absent⟩

/-- The entries of a table; anything else has none. -/
def entries : Value → List (String × Value)
  | table _ es => es
  | _ => []

/-- The items of an array; anything else has none. -/
def items : Value → List Value
  | array _ vs => vs
  | _ => []

/-- The source of a table; what replaces any other value by a table has none. -/
def tableOrigin : Value → Option String
  | table o _ => o
  | _ => none

/-- The source of an array; what replaces any other value by an array has none. -/
def arrayOrigin : Value → Option String
  | array o _ => o
  | _ => none

end Value

/-- The entries with the value at `key` replaced by what `f` makes of it, at the end if the key
is new. -/
def upsert {α : Type} (key : String) (f : Option α → α) : List (String × α) → List (String × α)
  | [] => [(key, f none)]
  | (k, v) :: rest => if k = key then (k, f (some v)) :: rest else (k, v) :: upsert key f rest

theorem lookup_upsert_self {α : Type} (key : String) (f : Option α → α) (es : List (String × α)) :
    (upsert key f es).lookup key = some (f (es.lookup key)) := by
  induction es with
  | nil => simp [upsert]
  | cons e rest ih =>
    obtain ⟨k, v⟩ := e
    by_cases h : k = key
    · simp [upsert, h]
    · simp [upsert, h, List.lookup_cons, beq_eq_false_iff_ne.2 (Ne.symm h), ih]

theorem lookup_upsert_of_ne {α : Type} {key other : String} (h : other ≠ key)
    (f : Option α → α) (es : List (String × α)) :
    (upsert key f es).lookup other = es.lookup other := by
  induction es with
  | nil => simp [upsert, List.lookup_cons, beq_eq_false_iff_ne.2 h]
  | cons e rest ih =>
    obtain ⟨k, v⟩ := e
    by_cases hk : k = key
    · subst hk; simp [upsert, List.lookup_cons, beq_eq_false_iff_ne.2 h]
    · simp only [upsert, hk, if_false, List.lookup_cons, ih]

/-- The keys after a value is set: the same ones, and at the end the one that is new. -/
theorem keys_upsert {α : Type} (key : String) (f : Option α → α) (es : List (String × α)) :
    (upsert key f es).map (·.1) =
      if key ∈ es.map (·.1) then es.map (·.1) else es.map (·.1) ++ [key] := by
  induction es with
  | nil => rfl
  | cons e rest ih =>
    obtain ⟨k, v⟩ := e
    unfold upsert
    by_cases hk : k = key
    · simp [hk]
    · simp only [hk, Ne.symm hk, if_false, List.map_cons, List.mem_cons, false_or, ih]
      split <;> rfl

theorem nodup_keys_upsert {α : Type} {es : List (String × α)} (h : (es.map (·.1)).Nodup)
    (key : String) (f : Option α → α) : ((upsert key f es).map (·.1)).Nodup := by
  rw [keys_upsert]
  split
  · exact h
  · rename_i hnew
    refine List.nodup_append.2 ⟨h, by simp, ?_⟩
    rintro a ha b hb rfl
    exact hnew (List.mem_singleton.1 hb ▸ ha)

end Vigil.Config
