import NameCompletion.Value

/-!
# Methods of plain values

Numbers, texts and vectors have no members of their own; every one of them has the methods of its
type.
-/

namespace NameCompletion.Methods

/-- Functions by name, from their names and arities. -/
def ofTable (table : List (String × Int8)) : Namespace :=
  Bindings.ofList (table.map fun (name, arity) => (name, .function ⟨name, arity⟩))

/-- The methods of numbers. -/
def number : Namespace :=
  ofTable [("abs", 0), ("ceil", 0), ("floor", 0), ("round", 0), ("sqrt", 0)]

/-- The methods of texts. -/
def text : Namespace :=
  ofTable
    [("contains", 1), ("ends_with", 1), ("len", 0), ("lower", 0), ("replace", 2), ("split", 1),
      ("starts_with", 1), ("trim", 0), ("upper", 0)]

/-- The methods of vectors. -/
def vector : Namespace :=
  ofTable
    [("contains", 1), ("filter", 1), ("len", 0), ("map", 1), ("pop", 0), ("push", 1),
      ("reduce", 2), ("reverse", 0), ("sort", 0)]

end NameCompletion.Methods
