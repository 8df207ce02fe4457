import NameCompletion.Snapshot.Reading

/-!
# Loading snapshots into a store

Reading a snapshot has no effect; only a snapshot that is well formed as a whole is built.
-/

namespace NameCompletion.Snapshot

/-- The value that a JSON value stands for, in new cells. -/
def loadValue (s : Store) (j : Json) : Except SnapshotError (Value × Store) :=
  (readValue j).map (Description.build s)

/-- The bindings that a JSON object stands for, before they are built. -/
def readNamespace : Json → Except SnapshotError (List (String × Description))
  | .object members => readMembers members
  | _ => .error .namespaceNotAnObject

/-- The bindings that a JSON object stands for, in new cells. -/
def loadNamespace (s : Store) (j : Json) : Except SnapshotError (Namespace × Store) :=
  (readNamespace j).map (Description.buildNamespace s)

/-- The bindings that a JSON text stands for, in new cells. -/
def loadText (s : Store) (text : String) : Except SnapshotError (Namespace × Store) :=
  match Json.parse? text with
  | some j => loadNamespace s j
  | none => .error .notJson

end NameCompletion.Snapshot
