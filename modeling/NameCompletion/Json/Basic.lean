import NameCompletion.Bindings

/-!
# JSON values

The tree of a JSON text.  An object keeps its members as they were written, repetitions included;
`Json.entries` is its meaning, a finite map in name order in which the last member of a name counts.
`sizeOf_entry_lt` lets functions on values recurse through that map.
-/

namespace NameCompletion

namespace Json

/-- A number: an integer of at most 64 bits if it is written as one, else a double. -/
inductive Number where
  | integer (value : Int)
  | real (value : Float)

/-- The nearest double. -/
def Number.toFloat : Number → Float
  | integer (.ofNat n) => n.toUInt64.toFloat
  | integer (.negSucc n) => -(n + 1).toUInt64.toFloat
  | real x => x

end Json

/-- A JSON value; the members of an object stand in the order in which they were written. -/
inductive Json where
  | null
  | boolean (value : Bool)
  | number (value : Json.Number)
  | text (value : String)
  | array (items : List Json)
  | object (members : List (String × Json))

namespace Json

/-- The members of an object by name; the last member of a name counts. -/
def entries (members : List (String × Json)) : Bindings Json :=
  Bindings.ofList members

theorem sizeOf_entry_lt {members : List (String × Json)} {e : String × Json}
    (h : e ∈ (entries members).toList) : sizeOf e.2 < sizeOf members := by
  have hmem := List.sizeOf_lt_of_mem (Bindings.mem_of_mem_ofList h)
  have : sizeOf e = 1 + sizeOf e.1 + sizeOf e.2 := rfl
  omega

theorem sizeOf_get?_lt {members : List (String × Json)} {name : String} {j : Json}
    (h : (entries members).get? name = some j) : sizeOf j < sizeOf members :=
  sizeOf_entry_lt (Bindings.mem_toList_of_get? h)

end Json

end NameCompletion
