import NameCompletion.Proofs.Bindings
import NameCompletion.Proofs.Results
import NameCompletion.Snapshot.Reading

/-!
# Reading snapshots, part by part

What it means that a part of a snapshot was read.
-/

namespace NameCompletion

/-! ## Objects as they are written -/

/-- Of several members of the same name the last one counts. -/
theorem Json.get?_entries (members : List (String × Json)) (name : String) :
    (entries members).get? name = (members.reverse.find? fun e => e.1 == name).map Prod.snd :=
  Bindings.get?_ofList members name

theorem Json.toList_entries_singleton (e : String × Json) : (entries [e]).toList = [e] :=
  rfl

namespace Snapshot

/-! ## Reading without the arguments for termination -/

theorem readValue_array (items : List Json) :
    readValue (.array items) = (do
      let items ← items.mapM readValue
      .ok (.vector items)) := by
  rw [readValue, List.mapM_subtype (g := readValue) (fun _ _ => rfl), List.unattach_attach]

/-- The binding that a member of an object stands for. -/
def readEntry (e : String × Json) : Except SnapshotError (String × Description) := do
  let d ← readValue e.2
  .ok (e.1, d)

theorem readMembers_eq (members : List (String × Json)) :
    readMembers members = (Json.entries members).toList.mapM readEntry := by
  rw [readMembers, List.mapM_subtype (g := readEntry) (fun _ _ => rfl), List.unattach_attach]

/-- The tag of an object with a single member, and its body. -/
def tagged? (members : Bindings Json) : Option (SnapshotTag × Json) :=
  match soleMember? members with
  | some ("$function", body) => some (.functionTag, body)
  | some ("$module", body) => some (.moduleTag, body)
  | some ("$class", body) => some (.classTag, body)
  | some ("$instance", body) => some (.instanceTag, body)
  | _ => none

theorem mem_of_soleMember? {members : Bindings Json} {e : String × Json}
    (h : soleMember? members = some e) : e ∈ members.toList := by
  unfold soleMember? at h
  split at h
  · next heq => simp [heq, Option.some.inj h]
  · cases h

/-- The body of a tag is the value of an entry. -/
theorem exists_mem_of_tagged? {members : Bindings Json} {tag : SnapshotTag} {body : Json}
    (h : tagged? members = some (tag, body)) : ∃ name, (name, body) ∈ members.toList := by
  unfold tagged? at h
  split at h
  case h_5 => cases h
  all_goals
    next hsole =>
      cases h
      exact ⟨_, mem_of_soleMember? hsole⟩

theorem sizeOf_tagged?_lt {members : List (String × Json)} {tag : SnapshotTag} {body : Json}
    (h : tagged? (Json.entries members) = some (tag, body)) : sizeOf body < sizeOf members := by
  obtain ⟨name, hmem⟩ := exists_mem_of_tagged? h
  exact Json.sizeOf_entry_lt hmem

/-- The value that a tag and its body stand for. -/
def readTagged : SnapshotTag → Json → Except SnapshotError Description
  | .functionTag, body => do
    let f ← readFunction body
    .ok (.function f)
  | .moduleTag, body => readModule body
  | .classTag, body => do
    let c ← readClass body
    .ok (.classObject c)
  | .instanceTag, body => readInstance body

/-- An object is read by its tag, or else as a record. -/
theorem readObject_eq (members : List (String × Json)) :
    readValue (.object members) =
      (match tagged? (Json.entries members) with
      | some (tag, body) => readTagged tag body
      | none => do
        let fields ← readMembers members
        .ok (.record fields)) := by
  rw [readValue]
  unfold tagged?
  split <;> simp_all [readTagged]

theorem readField_eq (tag : SnapshotTag) (field : String) (members : List (String × Json)) :
    readField tag field members =
      match (Json.entries members).get? field with
      | none => .ok []
      | some (.object inner) => readMembers inner
      | some _ => .error (.malformed tag (.fieldNotAnObject field)) := by
  rw [readField]
  split <;> simp_all

/-- The class that a base stands for. -/
def readBase (j : Json) : Except SnapshotError ClassDescription :=
  match classBody? j with
  | some body => readClass body
  | none => .error (.malformed .classTag .baseNotAClass)

theorem readBases_eq (members : List (String × Json)) :
    readBases members =
      match (Json.entries members).get? "bases" with
      | none => .ok []
      | some (.array bases) => bases.mapM readBase
      | some _ => .error (.malformed .classTag .basesNotAnArray) := by
  rw [readBases]
  split
  · simp_all
  · next bases h =>
    rw [h, List.mapM_subtype (g := readBase), List.unattach_attach]
    intro j hj
    unfold readBase
    split <;> simp_all
  · simp_all

theorem readClassOf_eq (members : List (String × Json)) :
    readClassOf members =
      match ((Json.entries members).get? "class").bind classBody? with
      | some body => readClass body
      | none => .error (.malformed .instanceTag .classNotAClass) := by
  rw [readClassOf]
  split
  · split <;> simp_all
  · simp_all

/-! ## What was read -/

/-- The description is what the JSON value stands for. -/
def Reads (j : Json) (d : Description) : Prop :=
  readValue j = .ok d

theorem readEntry_eq_ok_iff {e : String × Json} {p : String × Description} :
    readEntry e = .ok p ↔ e.1 = p.1 ∧ Reads e.2 p.2 := by
  constructor
  · intro h
    obtain ⟨d, hd, hp⟩ := exists_of_bind_eq_ok h
    cases hp
    exact ⟨rfl, hd⟩
  · rintro ⟨hname, hread⟩
    rw [readEntry, hread, hname]
    rfl

/-- The bindings that are read of an object are related by name to its members. -/
theorem readMembers_eq_ok_iff {members : List (String × Json)}
    {pairs : List (String × Description)} :
    readMembers members = .ok pairs ↔
      List.Forall₂ (fun e p => e.1 = p.1 ∧ Reads e.2 p.2) (Json.entries members).toList pairs := by
  simp only [readMembers_eq, mapM_eq_ok_iff, readEntry_eq_ok_iff]

theorem reads_null : Reads .null .null := by
  rw [Reads, readValue]

theorem reads_boolean (b : Bool) : Reads (.boolean b) (.boolean b) := by
  rw [Reads, readValue]

theorem reads_number (n : Json.Number) : Reads (.number n) (.number n.toFloat) := by
  rw [Reads, readValue]

theorem reads_text (t : String) : Reads (.text t) (.text t) := by
  rw [Reads, readValue]

/-- An object without a tag is read as a record. -/
theorem reads_record {members : List (String × Json)} {fields : List (String × Description)}
    (htag : tagged? (Json.entries members) = none) (h : readMembers members = .ok fields) :
    Reads (.object members) (.record fields) := by
  rw [Reads, readObject_eq, htag]
  dsimp only
  rw [h]
  rfl

/-- What is found under a name was read of the member of that name. -/
theorem rel_get?_of_readMembers {members : List (String × Json)}
    {pairs : List (String × Description)} (h : readMembers members = .ok pairs) (name : String) :
    Option.Rel Reads ((Json.entries members).get? name)
      ((Bindings.ofList pairs).get? name) := by
  have hrel := Bindings.rel_get? (Bindings.forall₂_ofList (readMembers_eq_ok_iff.1 h)) name
  rwa [Bindings.ofList_toList] at hrel

/-- A name that is required is a text under `name`. -/
theorem get?_name_of_requiredName {tag : SnapshotTag} {body : Bindings Json} {name : String}
    (h : requiredName tag body = .ok name) : body.get? "name" = some (.text name) := by
  unfold requiredName at h
  split at h
  · next hfound =>
    cases h
    exact hfound
  · cases h

end Snapshot

end NameCompletion
