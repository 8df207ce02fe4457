import NameCompletion.Store.Basic

/-!
# Inherited members

A class has its own members and, depth first, those of its bases.  The recursion ends because every
base is older than the class; `ancestryNames_eq` and `lookup_eq` state it without that argument.
-/

namespace NameCompletion.ClassTable

/-- The names of the own members and then of those of every base, depth first.  A name that is
defined again along the way is listed again. -/
def ancestryNames (table : ClassTable) (c : ClassRef) : List String :=
  (table.members c).names ++
    (table.bases c).attach.flatMap fun b => ancestryNames table b.1
termination_by c.index
decreasing_by exact index_lt_of_mem_bases b.2

/-- The member of the class, or of the first base that has it, depth first. -/
def lookup (table : ClassTable) (c : ClassRef) (name : String) : Option Value :=
  match (table.members c).get? name with
  | some value => some value
  | none => (table.bases c).attach.findSome? fun b => lookup table b.1 name
termination_by c.index
decreasing_by exact index_lt_of_mem_bases b.2

/-- The names of the own members, then those of every base in order. -/
theorem ancestryNames_eq (table : ClassTable) (c : ClassRef) :
    table.ancestryNames c =
      (table.members c).names ++ (table.bases c).flatMap table.ancestryNames := by
  rw [ancestryNames, List.flatMap_subtype (fun _ _ => rfl), List.unattach_attach]

/-- The own member if there is one, else the first hit in the bases. -/
theorem lookup_eq (table : ClassTable) (c : ClassRef) (name : String) :
    table.lookup c name =
      ((table.members c).get? name).or
        ((table.bases c).findSome? fun b => table.lookup b name) := by
  rw [lookup, List.findSome?_subtype (g := fun b => table.lookup b name) (fun _ _ => rfl),
    List.unattach_attach]
  cases (table.members c).get? name <;> rfl

end NameCompletion.ClassTable
