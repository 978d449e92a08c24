import CodeReview.Number.Double

/-!
# JSON values

A JSON value as a reply or a request carries it.  Integers and reals are told apart by how they are
written, the fields of an object keep the order in which their names first appeared, and a name
that is repeated keeps its place and takes the last value (`Fields.put`).

A string literal can spell a surrogate that has no partner; the string then holds its stand-in
(`Text.isStandIn`).
-/

set_option autoImplicit false

namespace CodeReview.Json

/-- A JSON value. -/
inductive Value where
  | null
  | bool (b : Bool)
  | int (n : Int)
  | real (x : Double)
  | str (s : String)
  | arr (items : List Value)
  | obj (fields : List (String × Value))
  deriving Repr, Inhabited

/-- The fields of an object, in order. -/
abbrev Fields := List (String × Value)

namespace Fields

/-- The value of a field. -/
def get? (fields : Fields) (name : String) : Option Value := fields.lookup name

/-- Set a field: in its place if the name is there, else behind the others. -/
def put (name : String) (v : Value) : Fields → Fields
  | [] => [(name, v)]
  | (n, w) :: rest => if n = name then (n, v) :: rest else (n, w) :: put name v rest

/-- Setting a field that is not there appends it. -/
theorem put_of_not_mem {name : String} {v : Value} {fields : Fields}
    (h : name ∉ fields.map Prod.fst) : put name v fields = fields ++ [(name, v)] := by
  induction fields with
  | nil => rfl
  | cons f rest ih =>
    simp only [List.map_cons, List.mem_cons, not_or] at h
    rw [put, if_neg fun he => h.1 he.symm, ih h.2, List.cons_append]

/-- The names after setting a field: the same, or one more at the end. -/
theorem map_fst_put (name : String) (v : Value) (fields : Fields) :
    (put name v fields).map Prod.fst
      = if name ∈ fields.map Prod.fst then fields.map Prod.fst
        else fields.map Prod.fst ++ [name] := by
  induction fields with
  | nil => rfl
  | cons f rest ih =>
    obtain ⟨n, w⟩ := f
    by_cases h : n = name
    · simp [put, h]
    · rw [put, if_neg h, List.map_cons, ih]
      have h' : ¬name = n := fun e => h e.symm
      by_cases hm : name ∈ rest.map Prod.fst
      · simp [hm]
      · simp [hm, h']

end Fields

namespace Value

/-- The value of a field of an object; none of anything else. -/
def field? (name : String) : Value → Option Value
  | obj fields => Fields.get? fields name
  | _ => none

/-- The name of a value's kind, as messages say it. -/
def kindName : Value → String
  | null => "NoneType"
  | bool _ => "bool"
  | int _ => "int"
  | real _ => "float"
  | str _ => "str"
  | arr _ => "list"
  | obj _ => "dict"

/-! ## Equality -/

mutual

/-- The values are the same, part by part. -/
def same : Value → Value → Bool
  | .null, .null => true
  | .bool b, .bool c => b == c
  | .int m, .int n => m == n
  | .real x, .real y => decide (x = y)
  | .str s, .str t => s == t
  | .arr vs, .arr ws => sameItems vs ws
  | .obj fs, .obj gs => sameFields fs gs
  | _, _ => false

/-- `same` for the items of an array. -/
def sameItems : List Value → List Value → Bool
  | [], [] => true
  | v :: vs, w :: ws => same v w && sameItems vs ws
  | _, _ => false

/-- `same` for the fields of an object, names included. -/
def sameFields : List (String × Value) → List (String × Value) → Bool
  | [], [] => true
  | (m, v) :: fs, (n, w) :: gs => m == n && same v w && sameFields fs gs
  | _, _ => false

end

mutual

theorem same_iff : ∀ v w : Value, same v w = true ↔ v = w
  | .null, w => by cases w <;> simp [same]
  | .bool b, w => by cases w <;> simp [same]
  | .int n, w => by cases w <;> simp [same]
  | .real x, w => by cases w <;> simp [same]
  | .str s, w => by cases w <;> simp [same]
  | .arr vs, w => by cases w <;> simp [same, sameItems_iff vs]
  | .obj fs, w => by cases w <;> simp [same, sameFields_iff fs]

theorem sameItems_iff : ∀ vs ws : List Value, sameItems vs ws = true ↔ vs = ws
  | [], ws => by cases ws <;> simp [sameItems]
  | v :: vs, ws => by cases ws <;> simp [sameItems, same_iff v, sameItems_iff vs]

theorem sameFields_iff : ∀ fs gs : List (String × Value), sameFields fs gs = true ↔ fs = gs
  | [], gs => by cases gs <;> simp [sameFields]
  | (n, v) :: fs, gs => by
    cases gs <;> simp [sameFields, same_iff v, sameFields_iff fs, Prod.ext_iff]

end

instance : DecidableEq Value := fun v w => decidable_of_iff _ (same_iff v w)

end Value
end CodeReview.Json
