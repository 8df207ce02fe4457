import NameCompletion.Store.Basic

/-!
# Descriptions

A description is a value written out as a tree: containers and classes stand where they are used
instead of being referred to.  `Description.build` makes a value of a description; every container
and class in it becomes a new cell, so no two positions of the tree share anything.
`Value.describe?` goes the other way.
-/

namespace NameCompletion

mutual

/-- A value as a tree. -/
inductive Description where
  | null
  | boolean (value : Bool)
  | number (value : Float)
  | text (value : String)
  | vector (items : List Description)
  | record (fields : List (String × Description))
  | function (f : Function)
  | module (name : String) (members : List (String × Description))
  | classObject (c : ClassDescription)
  | instanceObject (c : ClassDescription) (fields : List (String × Description))

/-- A class as a tree, its bases included. -/
inductive ClassDescription where
  | mk (name : String) (members : List (String × Description)) (bases : List ClassDescription)

end

namespace Description

mutual

/-- A value that looks as described, in new cells. -/
def build (s : Store) : Description → Value × Store
  | null => (.null, s)
  | boolean value => (.boolean value, s)
  | number value => (.number value, s)
  | text value => (.text value, s)
  | vector items =>
    let (values, s) := buildList s items
    let (r, s) := s.newVector values
    (.vector r, s)
  | record fields =>
    let (pairs, s) := buildPairs s fields
    let (r, s) := s.newScope (Bindings.ofList pairs)
    (.record r, s)
  | function f => (.function f, s)
  | module name members =>
    let (pairs, s) := buildPairs s members
    let (r, s) := s.newScope (Bindings.ofList pairs)
    (.module ⟨name, r⟩, s)
  | classObject c =>
    let (r, s) := buildClass s c
    (.classObject r, s)
  | instanceObject c fields =>
    let (classRef, s) := buildClass s c
    let (pairs, s) := buildPairs s fields
    let (r, s) := s.newScope (Bindings.ofList pairs)
    (.instanceObject ⟨classRef, r⟩, s)

/-- Values that look as described, from the left. -/
def buildList (s : Store) : List Description → List Value × Store
  | [] => ([], s)
  | d :: rest =>
    let (value, s) := build s d
    let (values, s) := buildList s rest
    (value :: values, s)

/-- Named values that look as described, from the left. -/
def buildPairs (s : Store) : List (String × Description) → List (String × Value) × Store
  | [] => ([], s)
  | (name, d) :: rest =>
    let (value, s) := build s d
    let (pairs, s) := buildPairs s rest
    ((name, value) :: pairs, s)

/-- A class that looks as described; its bases are built before it. -/
def buildClass (s : Store) : ClassDescription → ClassRef × Store
  | .mk name members bases =>
    let (pairs, s) := buildPairs s members
    let (baseRefs, s) := buildClasses s bases
    s.newClass { name, members := Bindings.ofList pairs, bases := baseRefs }

/-- Classes that look as described, from the left. -/
def buildClasses (s : Store) : List ClassDescription → List ClassRef × Store
  | [] => ([], s)
  | c :: rest =>
    let (classRef, s) := buildClass s c
    let (classRefs, s) := buildClasses s rest
    (classRef :: classRefs, s)

end

/-- The bindings that named descriptions stand for. -/
def buildNamespace (s : Store) (members : List (String × Description)) : Namespace × Store :=
  let (pairs, s) := buildPairs s members
  (Bindings.ofList pairs, s)

end Description

/-- Named results, if there is one for every name. -/
def describePairs? {α β : Type} (describe : α → Option β) (pairs : List (String × α)) :
    Option (List (String × β)) :=
  pairs.mapM fun (name, x) => (describe x).map (name, ·)

mutual

/-- The tree that a value looks like, if it is nested at most `depth` deep and holds no object of
the host. -/
def Value.describe? (s : Store) : (depth : Nat) → Value → Option Description
  | 0, _ => none
  | depth + 1, v =>
    match v with
    | .null => some .null
    | .boolean value => some (.boolean value)
    | .number value => some (.number value)
    | .text value => some (.text value)
    | .vector r => ((s.vector r).mapM (Value.describe? s depth)).map .vector
    | .record r => (describePairs? (Value.describe? s depth) (s.scope r).toList).map .record
    | .function f => some (.function f)
    | .module m =>
      (describePairs? (Value.describe? s depth) (s.scope m.scope).toList).map (.module m.name)
    | .classObject c => (describeClass? s depth c).map .classObject
    | .instanceObject i => do
      let c ← describeClass? s depth i.classRef
      let fields ← describePairs? (Value.describe? s depth) (s.scope i.fields).toList
      some (.instanceObject c fields)
    | .hostObject _ => none

/-- The tree that a class looks like. -/
def describeClass? (s : Store) : (depth : Nat) → ClassRef → Option ClassDescription
  | 0, _ => none
  | depth + 1, c => do
    let members ← describePairs? (Value.describe? s depth) (s.classes.members c).toList
    let bases ← (s.classes.bases c).mapM (describeClass? s depth)
    some (.mk (s.classes.name c) members bases)

end

/-- A depth that suffices for every value that holds itself nowhere. -/
def Store.nesting (s : Store) : Nat :=
  s.vectors.size + s.scopes.size + 2 * s.classes.cells.size + 1

end NameCompletion
