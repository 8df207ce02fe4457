import NameCompletion.Proofs.Snapshot.Reading

/-!
# Documents that mean the same

Two JSON values are the same if they differ in the order and in the repetitions of members only
(`Json.Same`).  A snapshot stands for the same value however it is written down
(`readValue_eq_of_same`), because it is read like its normal form: `readValue_normal`, by induction
together with one statement for each part of a snapshot.
-/

namespace NameCompletion

/-! ## Normal form -/

namespace Bindings

variable {α β : Type}

/-- Other values for the same names. -/
def mapValues (f : α → β) (b : Bindings α) : Bindings β where
  toList := b.toList.map fun e => (e.1, f e.2)
  ascending := by
    rw [Ascending, List.pairwise_map]
    exact b.ascending

theorem get?_mapValues (f : α → β) (b : Bindings α) (name : String) :
    (b.mapValues f).get? name = (b.get? name).map f := by
  rw [get?, get?, mapValues, List.find?_map, Option.map_map, Option.map_map]
  rfl

end Bindings

namespace Json

/-- The value with every name of an object once, in the order of the names. -/
def normal : Json → Json
  | .array items => .array (items.attach.map fun j => normal j.1)
  | .object members =>
    .object ((entries members).toList.attach.map fun e => (e.1.1, normal e.1.2))
  | j => j
termination_by j => sizeOf j
decreasing_by
  · have := List.sizeOf_lt_of_mem j.2
    rw [array.sizeOf_spec]
    omega
  · have := sizeOf_entry_lt e.2
    rw [object.sizeOf_spec]
    omega

/-- The values differ in the order and the repetitions of members only. -/
def Same (a b : Json) : Prop :=
  a.normal = b.normal

theorem normal_array (items : List Json) : (array items).normal = .array (items.map normal) := by
  rw [normal, List.map_subtype (g := normal) (fun _ _ => rfl), List.unattach_attach]

theorem normal_object (members : List (String × Json)) :
    (object members).normal = .object ((entries members).mapValues normal).toList := by
  rw [normal, List.map_subtype (g := fun e : String × Json => (e.1, e.2.normal)) (fun _ _ => rfl),
    List.unattach_attach]
  rfl

/-- The members of an object are the normal forms of the members. -/
theorem entries_normal (members : List (String × Json)) :
    entries ((entries members).mapValues normal).toList = (entries members).mapValues normal :=
  Bindings.ofList_toList _

end Json

namespace Snapshot

/-! ## Reading a normal form -/

open Json

theorem requiredName_normal (tag : SnapshotTag) (body : Bindings Json) :
    requiredName tag (body.mapValues normal) = requiredName tag body := by
  unfold requiredName
  rw [Bindings.get?_mapValues]
  cases body.get? "name" with
  | none => rfl
  | some j => cases j <;> simp [normal]

theorem arity_normal (body : Bindings Json) : arity (body.mapValues normal) = arity body := by
  unfold arity
  rw [Bindings.get?_mapValues]
  cases body.get? "arity" with
  | none => rfl
  | some j => cases j <;> simp [normal]

theorem readFunction_normal (body : Json) : readFunction body.normal = readFunction body := by
  cases body with
  | object members =>
    rw [normal_object]
    simp only [readFunction, entries_normal, requiredName_normal, arity_normal]
  | _ => simp [normal, readFunction]

theorem soleMember?_mapValues (f : Json → Json) (members : Bindings Json) :
    soleMember? (members.mapValues f) = (soleMember? members).map fun e => (e.1, f e.2) := by
  obtain ⟨entries, _⟩ := members
  match entries with
  | [] => rfl
  | [_] => rfl
  | _ :: _ :: _ => rfl

theorem tagged?_mapValues (f : Json → Json) (members : Bindings Json) :
    tagged? (members.mapValues f) = (tagged? members).map fun e => (e.1, f e.2) := by
  unfold tagged?
  rw [soleMember?_mapValues]
  cases soleMember? members with
  | none => rfl
  | some e =>
    obtain ⟨tag, body⟩ := e
    simp only [Option.map_some]
    split <;> simp_all

theorem classBody?_normal (j : Json) : classBody? j.normal = (classBody? j).map normal := by
  cases j with
  | object members =>
    rw [normal_object]
    show (entries ((entries members).mapValues normal).toList).get? "$class" = _
    rw [entries_normal, Bindings.get?_mapValues]
    rfl
  | _ => simp [normal, classBody?]

theorem mapM_map_eq {ε α β : Type} {f : α → Except ε β} {g : α → α} {xs : List α}
    (h : ∀ x ∈ xs, f (g x) = f x) : (xs.map g).mapM f = xs.mapM f := by
  induction xs with
  | nil => rfl
  | cons x xs ih =>
    rw [List.map_cons, List.mapM_cons, List.mapM_cons, h x List.mem_cons_self,
      ih fun y hy => h y (List.mem_cons_of_mem _ hy)]

mutual

theorem readValue_normal : ∀ j : Json, readValue j.normal = readValue j
  | .null | .boolean _ | .number _ | .text _ => by rw [normal] <;> simp
  | .array items => by
    have hitems : (items.map normal).mapM readValue = items.mapM readValue :=
      mapM_map_eq fun j _ => readValue_normal j
    rw [normal_array, readValue_array, readValue_array, hitems]
  | .object members => by
    rw [normal_object, readObject_eq, readObject_eq, entries_normal, tagged?_mapValues]
    cases htag : tagged? (entries members) with
    | none =>
      simp only [Option.map_none]
      rw [readMembers_normal members]
    | some tagged =>
      obtain ⟨tag, body⟩ := tagged
      have hlt := sizeOf_tagged?_lt htag
      cases tag with
      | functionTag => simp only [Option.map_some, readTagged, readFunction_normal]
      | moduleTag => exact readModule_normal body
      | classTag => simp only [Option.map_some, readTagged, readClass_normal body]
      | instanceTag => exact readInstance_normal body
termination_by j => sizeOf j
decreasing_by
  · have := List.sizeOf_lt_of_mem ‹_ ∈ items›
    rw [array.sizeOf_spec]
    omega
  all_goals
    rw [object.sizeOf_spec]
    omega

theorem readMembers_normal (members : List (String × Json)) :
    readMembers ((entries members).mapValues normal).toList = readMembers members := by
  rw [readMembers_eq, readMembers_eq, entries_normal]
  refine mapM_map_eq fun e he => ?_
  unfold readEntry
  rw [readValue_normal e.2]
termination_by sizeOf members
decreasing_by exact sizeOf_entry_lt he

theorem readField_normal (tag : SnapshotTag) (field : String) (members : List (String × Json)) :
    readField tag field ((entries members).mapValues normal).toList =
      readField tag field members := by
  rw [readField_eq, readField_eq, entries_normal, Bindings.get?_mapValues]
  cases hfield : (entries members).get? field with
  | none => rfl
  | some j =>
    cases j with
    | object inner =>
      rw [Option.map_some, normal_object]
      have hlt : sizeOf inner < sizeOf members := by
        have := sizeOf_get?_lt hfield
        rw [object.sizeOf_spec] at this
        omega
      exact readMembers_normal inner
    | _ => simp [normal]
termination_by sizeOf members
decreasing_by exact hlt

theorem readModule_normal : ∀ body : Json, readModule body.normal = readModule body
  | .object members => by
    rw [normal_object, readModule, readModule, entries_normal, requiredName_normal,
      readField_normal]
  | .null | .boolean _ | .number _ | .text _ => by rw [normal] <;> simp
  | .array _ => by rw [normal_array, readModule, readModule] <;> simp
termination_by body => sizeOf body

theorem readClass_normal : ∀ body : Json, readClass body.normal = readClass body
  | .object members => by
    rw [normal_object, readClass, readClass, entries_normal, requiredName_normal,
      readField_normal, readBases_normal]
  | .null | .boolean _ | .number _ | .text _ => by rw [normal] <;> simp
  | .array _ => by rw [normal_array, readClass, readClass] <;> simp
termination_by body => sizeOf body

theorem readBases_normal (members : List (String × Json)) :
    readBases ((entries members).mapValues normal).toList = readBases members := by
  rw [readBases_eq, readBases_eq, entries_normal, Bindings.get?_mapValues]
  cases hfield : (entries members).get? "bases" with
  | none => rfl
  | some j =>
    cases j with
    | array bases =>
      rw [Option.map_some, normal_array]
      refine mapM_map_eq fun base hbase => ?_
      unfold readBase
      rw [classBody?_normal]
      cases hbody : classBody? base with
      | none => rfl
      | some body => exact readClass_normal body
    | object _ => rw [Option.map_some, normal_object]
    | _ => simp [normal]
termination_by sizeOf members
decreasing_by
  have := sizeOf_classBody?_lt hbody
  have := List.sizeOf_lt_of_mem hbase
  have := sizeOf_get?_lt hfield
  rw [array.sizeOf_spec] at this
  omega

theorem readInstance_normal : ∀ body : Json, readInstance body.normal = readInstance body
  | .object members => by
    rw [normal_object, readInstance, readInstance, readClassOf_normal, readField_normal]
  | .null | .boolean _ | .number _ | .text _ => by rw [normal] <;> simp
  | .array _ => by rw [normal_array, readInstance, readInstance] <;> simp
termination_by body => sizeOf body

theorem readClassOf_normal (members : List (String × Json)) :
    readClassOf ((entries members).mapValues normal).toList = readClassOf members := by
  rw [readClassOf_eq, readClassOf_eq, entries_normal, Bindings.get?_mapValues]
  cases hclass : (entries members).get? "class" with
  | none => rfl
  | some j =>
    simp only [Option.map_some, Option.bind_some, classBody?_normal]
    cases hbody : classBody? j with
    | none => rfl
    | some body => exact readClass_normal body
termination_by sizeOf members
decreasing_by exact Nat.lt_trans (sizeOf_classBody?_lt hbody) (sizeOf_get?_lt hclass)

end

/-- A snapshot stands for the same value however it is written down. -/
theorem readValue_eq_of_same {a b : Json} (h : Same a b) : readValue a = readValue b := by
  rw [← readValue_normal a, ← readValue_normal b, h]

end Snapshot

end NameCompletion
