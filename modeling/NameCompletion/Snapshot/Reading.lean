import NameCompletion.Json.Reading
import NameCompletion.Snapshot.Description

/-!
# Snapshots

A snapshot describes bindings in JSON.  Plain JSON stands for the obvious values; an object with a
single member `$function`, `$module`, `$class` or `$instance` stands for a part of the object
model.

    "greet": {"$function": {"name": "greet", "arity": 1}}
    "geometry": {"$module": {"name": "geometry", "members": {"pi": 3.0}}}

A malformed snapshot is refused as a whole.  The error is that of the first malformed part: arrays
are read from left to right, objects in the order of their names, and the parts of a tagged body
in the order in which the functions below read them.
-/

namespace NameCompletion

/-- The tags of the object model. -/
inductive SnapshotTag where
  | functionTag
  | moduleTag
  | classTag
  | instanceTag
  deriving DecidableEq, Repr

/-- The tag as it is written. -/
def SnapshotTag.text : SnapshotTag → String
  | functionTag => "$function"
  | moduleTag => "$module"
  | classTag => "$class"
  | instanceTag => "$instance"

/-- What is wrong with the body of a tag. -/
inductive Malformation where
  | missingName
  | arityOutOfRange
  | neitherNameNorObject
  | fieldNotAnObject (field : String)
  | basesNotAnArray
  | baseNotAClass
  | classNotAClass
  deriving DecidableEq, Repr

/-- The wording of a malformation. -/
def Malformation.reason : Malformation → String
  | missingName => "missing string field 'name'"
  | arityOutOfRange => "'arity' must be an integer in -1..=127"
  | neitherNameNorObject => "expected a name or an object"
  | fieldNotAnObject field => "'" ++ field ++ "' must be an object"
  | basesNotAnArray => "'bases' must be an array"
  | baseNotAClass => "every base must be a $class object"
  | classNotAClass => "'class' must be a $class object"

/-- Why a snapshot is refused. -/
inductive SnapshotError where
  /-- The text is not JSON. -/
  | notJson
  /-- The namespace as a whole is not an object. -/
  | namespaceNotAnObject
  /-- The body of a tag is not an object. -/
  | bodyNotAnObject (tag : SnapshotTag)
  /-- The body of a tag is malformed. -/
  | malformed (tag : SnapshotTag) (problem : Malformation)
  deriving DecidableEq, Repr

/-- The wording of the error. -/
def SnapshotError.message : SnapshotError → String
  | notJson => "invalid JSON"
  | namespaceNotAnObject => "expected a JSON object for namespace"
  | bodyNotAnObject tag => "expected a JSON object for " ++ tag.text
  | malformed tag problem => "malformed " ++ tag.text ++ ": " ++ problem.reason

namespace Snapshot

/-- The name in the body of a tag. -/
def requiredName (tag : SnapshotTag) (body : Bindings Json) : Except SnapshotError String :=
  match body.get? "name" with
  | some (.text name) => .ok name
  | _ => .error (.malformed tag .missingName)

/-- The arity in the body of a function; without one any number of arguments will do. -/
def arity (body : Bindings Json) : Except SnapshotError Int8 :=
  match body.get? "arity" with
  | none => .ok (-1)
  | some (.number (.integer n)) =>
    if -128 ≤ n ∧ n ≤ 127 then .ok (Int8.ofInt n)
    else .error (.malformed .functionTag .arityOutOfRange)
  | some _ => .error (.malformed .functionTag .arityOutOfRange)

/-- The function that the body of its tag stands for. -/
def readFunction : Json → Except SnapshotError Function
  | .text name => .ok (.variadic name)
  | .object members => do
    let name ← requiredName .functionTag (Json.entries members)
    let arity ← arity (Json.entries members)
    .ok ⟨name, arity⟩
  | _ => .error (.malformed .functionTag .neitherNameNorObject)

/-- The body of the class tag of an object; other members are not looked at. -/
def classBody? : Json → Option Json
  | .object members => (Json.entries members).get? "$class"
  | _ => none

theorem sizeOf_classBody?_lt {j body : Json} (h : classBody? j = some body) :
    sizeOf body < sizeOf j := by
  cases j with
  | object members =>
    have : sizeOf body < sizeOf members := Json.sizeOf_get?_lt h
    rw [Json.object.sizeOf_spec]
    omega
  | _ => simp [classBody?] at h

/-- The single member of an object that has only one. -/
def soleMember? (members : Bindings Json) : Option (String × Json) :=
  match members.toList with
  | [member] => some member
  | _ => none

theorem sizeOf_soleMember?_lt {members : List (String × Json)} {name : String} {j : Json}
    (h : soleMember? (Json.entries members) = some (name, j)) : sizeOf j < sizeOf members := by
  refine Json.sizeOf_entry_lt (e := (name, j)) ?_
  unfold soleMember? at h
  split at h
  · next heq => simp [heq, Option.some.inj h]
  · simp at h

mutual

/-- The value that a JSON value stands for. -/
def readValue : Json → Except SnapshotError Description
  | .null => .ok .null
  | .boolean b => .ok (.boolean b)
  | .number n => .ok (.number n.toFloat)
  | .text t => .ok (.text t)
  | .array items => do
    let items ← items.attach.mapM fun j => readValue j.1
    .ok (.vector items)
  | .object members =>
    match _sole : soleMember? (Json.entries members) with
    | some ("$function", body) => do
      let f ← readFunction body
      .ok (.function f)
    | some ("$module", body) => readModule body
    | some ("$class", body) => do
      let c ← readClass body
      .ok (.classObject c)
    | some ("$instance", body) => readInstance body
    | _ => do
      let fields ← readMembers members
      .ok (.record fields)
termination_by j => sizeOf j
decreasing_by
  · have := List.sizeOf_lt_of_mem j.2
    rw [Json.array.sizeOf_spec]; omega
  all_goals rw [Json.object.sizeOf_spec]
  iterate 3 exact Nat.lt_add_left 1 (sizeOf_soleMember?_lt _sole)
  omega

/-- The bindings that the members of an object stand for, in the order of their names. -/
def readMembers (members : List (String × Json)) :
    Except SnapshotError (List (String × Description)) :=
  (Json.entries members).toList.attach.mapM fun e => do
    let d ← readValue e.1.2
    .ok (e.1.1, d)
termination_by sizeOf members
decreasing_by exact Json.sizeOf_entry_lt e.2

/-- The bindings in a field of the body of a tag; without the field there are none. -/
def readField (tag : SnapshotTag) (field : String) (members : List (String × Json)) :
    Except SnapshotError (List (String × Description)) :=
  match _found : (Json.entries members).get? field with
  | none => .ok []
  | some (.object inner) => readMembers inner
  | some _ => .error (.malformed tag (.fieldNotAnObject field))
termination_by sizeOf members
decreasing_by
  have := Json.sizeOf_get?_lt _found
  rw [Json.object.sizeOf_spec] at this
  omega

/-- The module that the body of its tag stands for: its name, then its members. -/
def readModule : Json → Except SnapshotError Description
  | .object members => do
    let name ← requiredName .moduleTag (Json.entries members)
    let members ← readField .moduleTag "members" members
    .ok (.module name members)
  | _ => .error (.bodyNotAnObject .moduleTag)
termination_by j => sizeOf j
decreasing_by rw [Json.object.sizeOf_spec]; omega

/-- The class that the body of its tag stands for: its name, then its members, then its bases. -/
def readClass : Json → Except SnapshotError ClassDescription
  | .object members => do
    let name ← requiredName .classTag (Json.entries members)
    let own ← readField .classTag "members" members
    let bases ← readBases members
    .ok (.mk name own bases)
  | _ => .error (.bodyNotAnObject .classTag)
termination_by j => sizeOf j
decreasing_by all_goals rw [Json.object.sizeOf_spec]; omega

/-- The bases in the body of a class, from left to right. -/
def readBases (members : List (String × Json)) : Except SnapshotError (List ClassDescription) :=
  match _found : (Json.entries members).get? "bases" with
  | none => .ok []
  | some (.array bases) =>
    bases.attach.mapM fun j =>
      match _body : classBody? j.1 with
      | some body => readClass body
      | none => .error (.malformed .classTag .baseNotAClass)
  | some _ => .error (.malformed .classTag .basesNotAnArray)
termination_by sizeOf members
decreasing_by
  have := sizeOf_classBody?_lt _body
  have := List.sizeOf_lt_of_mem j.2
  have := Json.sizeOf_get?_lt _found
  rw [Json.array.sizeOf_spec] at this
  omega

/-- The instance that the body of its tag stands for: its class, then its fields. -/
def readInstance : Json → Except SnapshotError Description
  | .object members => do
    let c ← readClassOf members
    let fields ← readField .instanceTag "fields" members
    .ok (.instanceObject c fields)
  | _ => .error (.bodyNotAnObject .instanceTag)
termination_by j => sizeOf j
decreasing_by all_goals rw [Json.object.sizeOf_spec]; omega

/-- The class in the body of an instance. -/
def readClassOf (members : List (String × Json)) : Except SnapshotError ClassDescription :=
  match _found : (Json.entries members).get? "class" with
  | some j =>
    match _body : classBody? j with
    | some body => readClass body
    | none => .error (.malformed .instanceTag .classNotAClass)
  | none => .error (.malformed .instanceTag .classNotAClass)
termination_by sizeOf members
decreasing_by exact Nat.lt_trans (sizeOf_classBody?_lt _body) (Json.sizeOf_get?_lt _found)

end

end Snapshot

end NameCompletion
