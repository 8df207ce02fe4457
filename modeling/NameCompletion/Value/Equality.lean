import NameCompletion.Store.Basic

/-!
# Equality of values

Two vectors or records are equal if they are the same cell or hold equal values in the same order;
two classes if they are the same class or have the same name, equal members and bases that agree
in name, members and bases.  Modules, instances and host objects are equal only if they are the
same cells.

Vectors and records may contain themselves, so a comparison need not end.  `Value.equalWithin`
follows at most `depth` nested comparisons, and answers `none` if that is not enough.  A
comparison that comes back to a pair which it is still comparing never ends, so there is no need
to go deeper than there are pairs of cells: that is the bound of `Value.equal`, whose answer
`none` means that the comparison does not end.
-/

namespace NameCompletion

/-- Compares two lists element by element up to the first difference, or the end of either. -/
def elementsEqual {α : Type} (equal : α → α → Option Bool) : List α → List α → Option Bool
  | x :: xs, y :: ys =>
    match equal x y with
    | some true => elementsEqual equal xs ys
    | result => result
  | _, _ => some true

/-- Compares two lists: the lengths first, then element by element from the left. -/
def listsEqual {α : Type} (equal : α → α → Option Bool) (xs ys : List α) : Option Bool :=
  if xs.length = ys.length then elementsEqual equal xs ys else some false

/-- Compares two sets of bindings in name order: the number of names first, then entry by entry. -/
def bindingsEqual {α : Type} (equal : α → α → Option Bool) (a b : Bindings α) : Option Bool :=
  listsEqual (fun x y => if x.1 = y.1 then equal x.2 y.2 else some false) a.toList b.toList

namespace Value

mutual

/-- Compares two values, following at most `depth` nested comparisons. -/
def equalWithin (s : Store) : (depth : Nat) → Value → Value → Option Bool
  | 0, _, _ => none
  | depth + 1, a, b =>
    match a, b with
    | null, null => some true
    | boolean x, boolean y => some (x == y)
    | number x, number y => some (x == y)
    | text x, text y => some (x == y)
    | vector x, vector y =>
      if x = y then some true else listsEqual (equalWithin s depth) (s.vector x) (s.vector y)
    | record x, record y =>
      if x = y then some true else bindingsEqual (equalWithin s depth) (s.scope x) (s.scope y)
    | function x, function y => some (x == y)
    | module x, module y => some (x == y)
    | classObject x, classObject y => if x = y then some true else classesEqualWithin s depth x y
    | instanceObject x, instanceObject y => some (x == y)
    | hostObject x, hostObject y => some (x == y)
    | _, _ => some false

/-- Compares two classes by name, members and bases, following at most `depth` nested comparisons.
-/
def classesEqualWithin (s : Store) : (depth : Nat) → ClassRef → ClassRef → Option Bool
  | 0, _, _ => none
  | depth + 1, x, y =>
    if s.classes.name x = s.classes.name y then
      match bindingsEqual (equalWithin s depth) (s.classes.members x) (s.classes.members y) with
      | some true =>
        listsEqual (classesEqualWithin s depth) (s.classes.bases x) (s.classes.bases y)
      | result => result
    else some false

end

/-- A depth that every comparison which ends stays below. -/
def depthBound (s : Store) : Nat :=
  let nodes := s.vectors.size + s.scopes.size + 2 * s.classes.cells.size + 1
  nodes * nodes + 1

/-- Whether two values are equal; `none` if their comparison does not end. -/
def equal (s : Store) (a b : Value) : Option Bool :=
  equalWithin s (depthBound s) a b

end Value

/-- Whether two namespaces are equal; `none` if their comparison does not end. -/
def Namespace.equal (s : Store) (a b : Namespace) : Option Bool :=
  bindingsEqual (Value.equal s) a b

end NameCompletion
