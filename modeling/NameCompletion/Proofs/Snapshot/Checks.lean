import NameCompletion.Proofs.Snapshot.Navigation
import NameCompletion.Proofs.Text.ByteOrder

/-!
# The checks of a snapshot

Reading a snapshot stops at the first malformed part.  Which part that is can be said without the
functions that read: a snapshot is a tree of checks (`Check.next`), each of which looks at one value
and at nothing below it (`Check.fault?`), and `Check.visits` lists them in the order in which they
are made, as if no check ever failed.

* `failure?_read`: what a single check contributes fails by its own fault, or else by the first
  failure of the checks that follow from it.  That is where the functions that read are opened, one
  after the other.
* `failure?_read_eq_firstFault?`: so reading fails by the first fault in the order of the checks.
* `readTagged_congr`: a body is read by the fields that belong to its tag.
* `forall_subject?_visits`: the checks look at nothing but parts of the document.
* `reportsFirstFault` puts together what this means for a document.
-/

namespace NameCompletion

/-! ## Failures -/

section

variable {ε α β : Type}

/-- Why a computation failed. -/
def failure? : Except ε α → Option ε
  | .error e => some e
  | .ok _ => none

theorem failure?_eq_some_iff {x : Except ε α} {e : ε} : failure? x = some e ↔ x = .error e := by
  cases x <;> simp [failure?]

/-- The result, unless there is a reason to fail. -/
def okUnless (fault : Option ε) (a : α) : Except ε α :=
  match fault with
  | some e => .error e
  | none => .ok a

theorem failure?_okUnless (fault : Option ε) (a : α) : failure? (okUnless fault a) = fault := by
  cases fault <;> rfl

/-- A computation fails in its first part, or else in the part behind it. -/
theorem failure?_bind {x : Except ε α} {f : α → Except ε β} {later : Option ε}
    (h : ∀ a, failure? (f a) = later) : failure? (x >>= f) = (failure? x).or later := by
  cases x with
  | error e => rfl
  | ok a => exact h a

theorem failure?_bind_ok (x : Except ε α) (f : α → β) :
    failure? (x >>= fun a => .ok (f a)) = failure? x := by
  cases x <;> rfl

theorem failure?_map (x : Except ε α) (f : α → β) : failure? (x.map f) = failure? x := by
  cases x <;> rfl

/-- Of several computations in a row the first one that fails counts. -/
theorem failure?_mapM (f : α → Except ε β) (xs : List α) :
    failure? (xs.mapM f) = xs.findSome? fun x => failure? (f x) := by
  induction xs with
  | nil => rfl
  | cons x xs ih =>
    have hrest : ∀ y, failure? (xs.mapM f >>= fun ys => .ok (y :: ys)) =
        xs.findSome? fun x => failure? (f x) := by
      intro y
      rw [failure?_bind_ok, ih]
    rw [List.mapM_cons, List.findSome?_cons]
    show failure? (f x >>= fun y => xs.mapM f >>= fun ys => .ok (y :: ys)) = _
    rw [failure?_bind hrest]
    cases failure? (f x) <;> rfl

end

/-- The fields of the body of a tag that are looked at, in this order. -/
def SnapshotTag.fields : SnapshotTag → List String
  | .functionTag => ["name", "arity"]
  | .moduleTag => ["name", "members"]
  | .classTag => ["name", "members", "bases"]
  | .instanceTag => ["class", "fields"]

namespace Snapshot

/-! ## The tree of checks -/

/-- What is looked at in one step of reading a snapshot. -/
inductive Check where
  /-- The document of a namespace. -/
  | document (j : Json)
  | value (j : Json)
  | body (tag : SnapshotTag) (j : Json)
  /-- What was found under `name` in the body of a tag. -/
  | name (tag : SnapshotTag) (found : Option Json)
  | arity (found : Option Json)
  /-- What was found under a field that binds names to values. -/
  | field (tag : SnapshotTag) (fieldName : String) (found : Option Json)
  | bases (found : Option Json)
  | base (j : Json)
  /-- What was found under `class` in the body of an instance. -/
  | classOf (found : Option Json)

namespace Check

/-- What is wrong with the value that is looked at. -/
def fault? : Check → Option SnapshotError
  | document (.object _) => none
  | document _ => some .namespaceNotAnObject
  | value _ => none
  | body _ (.object _) => none
  | body .functionTag (.text _) => none
  | body .functionTag _ => some (.malformed .functionTag .neitherNameNorObject)
  | body tag _ => some (.bodyNotAnObject tag)
  | name _ (some (.text _)) => none
  | name tag _ => some (.malformed tag .missingName)
  | arity none => none
  | arity (some (.number (.integer n))) =>
    if -128 ≤ n ∧ n ≤ 127 then none else some (.malformed .functionTag .arityOutOfRange)
  | arity (some _) => some (.malformed .functionTag .arityOutOfRange)
  | field _ _ none => none
  | field _ _ (some (.object _)) => none
  | field tag fieldName (some _) => some (.malformed tag (.fieldNotAnObject fieldName))
  | bases none => none
  | bases (some (.array _)) => none
  | bases (some _) => some (.malformed .classTag .basesNotAnArray)
  | base j =>
    if (classBody? j).isSome then none else some (.malformed .classTag .baseNotAClass)
  | classOf found =>
    if (found.bind classBody?).isSome then none
    else some (.malformed .instanceTag .classNotAClass)

/-- The values of an object, in the order of their names. -/
def entries (members : List (String × Json)) : List Check :=
  (Json.entries members).toList.map fun e => value e.2

/-- The checks of the fields of a body. -/
def fields (body : Bindings Json) : SnapshotTag → List Check
  | .functionTag => [name .functionTag (body.get? "name"), arity (body.get? "arity")]
  | .moduleTag => [name .moduleTag (body.get? "name"),
      field .moduleTag "members" (body.get? "members")]
  | .classTag => [name .classTag (body.get? "name"),
      field .classTag "members" (body.get? "members"), bases (body.get? "bases")]
  | .instanceTag => [classOf (body.get? "class"),
      field .instanceTag "fields" (body.get? "fields")]

/-- The checks that follow from a check, in the order in which they are made. -/
def next : Check → List Check
  | document (.object members) => entries members
  | value (.array items) => items.map value
  | value (.object members) =>
    match tagged? (Json.entries members) with
    | some (tag, j) => [body tag j]
    | none => entries members
  | body tag (.object members) => fields (Json.entries members) tag
  | field _ _ (some (.object inner)) => entries inner
  | bases (some (.array items)) => items.map base
  | base j => ((classBody? j).map (body .classTag)).toList
  | classOf found => ((found.bind classBody?).map (body .classTag)).toList
  | _ => []

/-- How large the value is that is looked at. -/
noncomputable def size : Check → Nat
  | document j | value j | body _ j | base j => sizeOf j
  | name _ found | arity found | field _ _ found | bases found | classOf found => sizeOf found

theorem size_lt_of_mem_entries {members : List (String × Json)} {c : Check}
    (h : c ∈ entries members) : c.size < sizeOf members := by
  obtain ⟨e, he, rfl⟩ := List.mem_map.1 h
  exact Json.sizeOf_entry_lt he

/-- What is found in an object is smaller than the object, as an option too. -/
theorem sizeOf_get?_lt_object (members : List (String × Json)) (name : String) :
    sizeOf ((Json.entries members).get? name) < sizeOf (Json.object members) := by
  rw [Json.object.sizeOf_spec]
  cases hfound : (Json.entries members).get? name with
  | none =>
    have hpos : 0 < sizeOf members := by
      cases members with
      | nil => simp
      | cons e rest =>
        rw [List.cons.sizeOf_spec]
        omega
    rw [Option.none.sizeOf_spec]
    omega
  | some j =>
    have hlt := Json.sizeOf_get?_lt hfound
    rw [Option.some.sizeOf_spec]
    omega

theorem size_lt_of_mem_classBody {found : Option Json} {c : Check}
    (h : c ∈ ((found.bind classBody?).map (body .classTag)).toList) : c.size < sizeOf found := by
  obtain ⟨j, hj, rfl⟩ := Option.map_eq_some_iff.1 (Option.mem_toList.1 h)
  obtain ⟨outer, rfl, hj⟩ := Option.bind_eq_some_iff.1 hj
  have hlt := sizeOf_classBody?_lt hj
  rw [Option.some.sizeOf_spec]
  exact Nat.lt_trans hlt (by omega)

/-- Checks go into the value that is looked at. -/
theorem size_lt_of_mem_next {c n : Check} (h : n ∈ c.next) : n.size < c.size := by
  unfold next at h
  split at h
  case h_1 members =>
    have hlt := size_lt_of_mem_entries h
    rw [size, Json.object.sizeOf_spec]
    omega
  case h_2 items =>
    obtain ⟨j, hj, rfl⟩ := List.mem_map.1 h
    have hlt := List.sizeOf_lt_of_mem hj
    rw [size, size, Json.array.sizeOf_spec]
    omega
  case h_3 members =>
    rw [size, Json.object.sizeOf_spec]
    split at h
    · next tag j htag =>
      have hlt := sizeOf_tagged?_lt htag
      rw [List.mem_singleton.1 h, size]
      omega
    · have hlt := size_lt_of_mem_entries h
      omega
  case h_4 tag members =>
    have hlt := sizeOf_get?_lt_object members
    cases tag <;> simp only [fields, List.mem_cons, List.not_mem_nil, or_false] at h
    case functionTag => rcases h with rfl | rfl <;> exact hlt _
    case moduleTag => rcases h with rfl | rfl <;> exact hlt _
    case classTag => rcases h with rfl | rfl | rfl <;> exact hlt _
    case instanceTag => rcases h with rfl | rfl <;> exact hlt _
  case h_5 inner =>
    have hlt := size_lt_of_mem_entries h
    rw [size, Option.some.sizeOf_spec, Json.object.sizeOf_spec]
    omega
  case h_6 items =>
    obtain ⟨j, hj, rfl⟩ := List.mem_map.1 h
    have hlt := List.sizeOf_lt_of_mem hj
    rw [size, size, Option.some.sizeOf_spec, Json.array.sizeOf_spec]
    omega
  case h_7 j =>
    obtain ⟨inner, hinner, rfl⟩ := Option.map_eq_some_iff.1 (Option.mem_toList.1 h)
    exact sizeOf_classBody?_lt hinner
  case h_8 found => exact size_lt_of_mem_classBody h
  case h_9 => exact absurd h List.not_mem_nil

/-- The check and all that follow from it, in the order in which they are made. -/
def visits (c : Check) : List Check :=
  c :: c.next.attach.flatMap fun n => visits n.1
termination_by c.size
decreasing_by exact size_lt_of_mem_next n.2

theorem visits_eq (c : Check) : c.visits = c :: c.next.flatMap visits := by
  rw [visits, List.flatMap_subtype (fun _ _ => rfl), List.unattach_attach]

/-- The value that is looked at. -/
def subject? : Check → Option Json
  | document j | value j | body _ j | base j => some j
  | name _ found | arity found | field _ _ found | bases found | classOf found => found

section

variable {P : Json → Prop} (harray : ∀ items, P (.array items) → ∀ j ∈ items, P j)
  (hobject : ∀ members, P (.object members) → ∀ e ∈ members, P e.2)

include hobject in
theorem forall_subject?_entries {members : List (String × Json)} (h : P (.object members))
    {n : Check} (hn : n ∈ entries members) : ∀ j ∈ n.subject?, P j := by
  obtain ⟨e, he, rfl⟩ := List.mem_map.1 hn
  rintro _ ⟨⟩
  exact hobject members h e (Bindings.mem_of_mem_ofList he)

include hobject in
theorem forall_get?_entries {members : List (String × Json)} (h : P (.object members))
    (name : String) : ∀ j ∈ (Json.entries members).get? name, P j :=
  fun j hj => hobject members h (name, j)
    (Bindings.mem_of_mem_ofList (Bindings.mem_toList_of_get? hj))

include harray hobject in
/-- What holds of all parts of the value that is looked at holds of what is looked at next. -/
theorem forall_subject?_next {c n : Check} (h : ∀ j ∈ c.subject?, P j) (hn : n ∈ c.next) :
    ∀ j ∈ n.subject?, P j := by
  have hclass : ∀ {found : Option Json}, (∀ j ∈ found, P j) →
      n ∈ ((found.bind classBody?).map (body .classTag)).toList → ∀ j ∈ n.subject?, P j := by
    intro found hfound hn
    obtain ⟨j, hj, rfl⟩ := Option.map_eq_some_iff.1 (Option.mem_toList.1 hn)
    obtain ⟨outer, houter, hj⟩ := Option.bind_eq_some_iff.1 hj
    rintro _ ⟨⟩
    cases outer with
    | object members => exact forall_get?_entries hobject (hfound _ houter) "$class" j hj
    | _ => cases hj
  unfold next at hn
  split at hn
  case h_1 members => exact forall_subject?_entries hobject (h _ rfl) hn
  case h_2 items =>
    obtain ⟨j, hj, rfl⟩ := List.mem_map.1 hn
    rintro _ ⟨⟩
    exact harray items (h _ rfl) j hj
  case h_3 members =>
    split at hn
    · next tag j htag =>
      obtain ⟨name, hmem⟩ := exists_mem_of_tagged? htag
      rw [List.mem_singleton.1 hn]
      rintro _ ⟨⟩
      exact hobject members (h _ rfl) (name, j) (Bindings.mem_of_mem_ofList hmem)
    · exact forall_subject?_entries hobject (h _ rfl) hn
  case h_4 tag members =>
    have hfound := forall_get?_entries hobject (h _ rfl)
    cases tag <;> simp only [fields, List.mem_cons, List.not_mem_nil, or_false] at hn
    case functionTag => rcases hn with rfl | rfl <;> exact hfound _
    case moduleTag => rcases hn with rfl | rfl <;> exact hfound _
    case classTag => rcases hn with rfl | rfl | rfl <;> exact hfound _
    case instanceTag => rcases hn with rfl | rfl <;> exact hfound _
  case h_5 inner => exact forall_subject?_entries hobject (h _ rfl) hn
  case h_6 items =>
    obtain ⟨j, hj, rfl⟩ := List.mem_map.1 hn
    rintro _ ⟨⟩
    exact harray items (h _ rfl) j hj
  case h_7 j => exact @hclass (some j) h hn
  case h_8 found => exact hclass h hn
  case h_9 => exact absurd hn List.not_mem_nil

include harray hobject in
/-- What holds of a value and all its parts holds of everything that is looked at. -/
theorem forall_subject?_visits {c n : Check} (h : ∀ j ∈ c.subject?, P j) (hn : n ∈ c.visits) :
    ∀ j ∈ n.subject?, P j := by
  rw [visits_eq] at hn
  rcases List.mem_cons.1 hn with rfl | hn
  · exact h
  · obtain ⟨m, hm, hn⟩ := List.mem_flatMap.1 hn
    exact forall_subject?_visits (forall_subject?_next harray hobject h hm) hn
termination_by c.size
decreasing_by exact size_lt_of_mem_next hm

end

/-- The first fault in the order of the checks. -/
def firstFault? (c : Check) : Option SnapshotError :=
  c.visits.findSome? fault?

theorem firstFault?_eq (c : Check) :
    c.firstFault? = c.fault?.or (c.next.findSome? firstFault?) := by
  have hbehind : (c.next.flatMap visits).findSome? fault? = c.next.findSome? firstFault? :=
    findSome?_flatMap fun _ _ => rfl
  rw [firstFault?, visits_eq, findSome?_cons_eq_or, hbehind]

/-! ## What a check contributes -/

/-- The values that a check contributes to what is read, or why there are none. -/
def read : Check → Except SnapshotError (List Description)
  | document (.object members) => (readMembers members).map fun pairs => pairs.map Prod.snd
  | value j => (readValue j).map fun d => [d]
  | body tag j => (readTagged tag j).map fun d => [d]
  | field _ _ (some (.object inner)) => (readMembers inner).map fun pairs => pairs.map Prod.snd
  | bases (some (.array items)) =>
    (items.mapM readBase).map fun classes => classes.map .classObject
  | base j => (readBase j).map fun c => [.classObject c]
  | classOf found =>
    match found.bind classBody? with
    | some j => (readClass j).map fun c => [.classObject c]
    | none => .error (.malformed .instanceTag .classNotAClass)
  | c => okUnless c.fault? []

theorem failure?_read_name (tag : SnapshotTag) (found : Option Json) :
    failure? (name tag found).read = (name tag found).fault? :=
  failure?_okUnless _ _

theorem failure?_read_arity (found : Option Json) :
    failure? (arity found).read = (arity found).fault? :=
  failure?_okUnless _ _

theorem failure?_requiredName (tag : SnapshotTag) (body : Bindings Json) :
    failure? (requiredName tag body) = (name tag (body.get? "name")).fault? := by
  unfold requiredName
  cases body.get? "name" with
  | none => rfl
  | some j => cases j <;> rfl

theorem failure?_arity (body : Bindings Json) :
    failure? (Snapshot.arity body) = (arity (body.get? "arity")).fault? := by
  unfold Snapshot.arity fault?
  cases body.get? "arity" with
  | none => rfl
  | some j =>
    cases j with
    | number n =>
      cases n with
      | integer n =>
        dsimp only
        split <;> rfl
      | real x => rfl
    | _ => rfl

theorem failure?_readMembers (members : List (String × Json)) :
    failure? (readMembers members) =
      (entries members).findSome? fun c => failure? c.read := by
  rw [readMembers_eq, failure?_mapM, entries, List.findSome?_map]
  refine congrArg (fun f => List.findSome? f _) (funext fun e => ?_)
  show failure? (readEntry e) = failure? (value e.2).read
  rw [readEntry, failure?_bind_ok, read, failure?_map]

theorem failure?_readField (tag : SnapshotTag) (fieldName : String)
    (members : List (String × Json)) :
    failure? (readField tag fieldName members) =
      failure? (field tag fieldName ((Json.entries members).get? fieldName)).read := by
  rw [readField_eq]
  cases (Json.entries members).get? fieldName with
  | none => rfl
  | some j =>
    cases j with
    | object inner => exact (failure?_map _ _).symm
    | _ => rfl

theorem failure?_readBases (members : List (String × Json)) :
    failure? (readBases members) =
      failure? (bases ((Json.entries members).get? "bases")).read := by
  rw [readBases_eq]
  cases (Json.entries members).get? "bases" with
  | none => rfl
  | some j =>
    cases j with
    | array items => exact (failure?_map _ _).symm
    | _ => rfl

theorem failure?_readClassOf (members : List (String × Json)) :
    failure? (readClassOf members) =
      failure? (classOf ((Json.entries members).get? "class")).read := by
  rw [readClassOf_eq, read]
  cases ((Json.entries members).get? "class").bind classBody? with
  | none => rfl
  | some j => exact (failure?_map _ _).symm

/-- The body of a tag fails by itself, or else in the first of its fields that does. -/
theorem failure?_readTagged (tag : SnapshotTag) (j : Json) :
    failure? (readTagged tag j) =
      (body tag j).fault?.or ((body tag j).next.findSome? fun n => failure? n.read) := by
  cases j with
  | object members =>
    rw [next, fault?, Option.none_or]
    cases tag with
    | functionTag =>
      simp only [fields, findSome?_cons_eq_or, List.findSome?_nil, Option.or_none,
        failure?_read_name, failure?_read_arity]
      rw [readTagged, failure?_bind_ok, readFunction, failure?_bind (fun _ => failure?_bind_ok _ _),
        failure?_requiredName, failure?_arity]
    | moduleTag =>
      simp only [fields, findSome?_cons_eq_or, List.findSome?_nil, Option.or_none,
        failure?_read_name]
      rw [readTagged, readModule, failure?_bind (fun _ => failure?_bind_ok _ _),
        failure?_requiredName, failure?_readField]
    | classTag =>
      simp only [fields, findSome?_cons_eq_or, List.findSome?_nil, Option.or_none,
        failure?_read_name]
      rw [readTagged, failure?_bind_ok, readClass,
        failure?_bind (fun _ => failure?_bind (fun _ => failure?_bind_ok _ _)),
        failure?_requiredName, failure?_readField, failure?_readBases]
    | instanceTag =>
      simp only [fields, findSome?_cons_eq_or, List.findSome?_nil, Option.or_none]
      rw [readTagged, readInstance, failure?_bind (fun _ => failure?_bind_ok _ _),
        failure?_readClassOf, failure?_readField]
  | _ =>
    cases tag with
    | functionTag => rfl
    | moduleTag => rw [readTagged, readModule] <;> simp [failure?, fault?, next]
    | classTag => rw [readTagged, failure?_bind_ok, readClass] <;> simp [failure?, fault?, next]
    | instanceTag => rw [readTagged, readInstance] <;> simp [failure?, fault?, next]

theorem failure?_read_classBody (j : Json) :
    failure? (body .classTag j).read = failure? (readClass j) := by
  rw [read, failure?_map, readTagged, failure?_bind_ok]

/-- What a check contributes fails by its own fault, or else by the first failure of the checks that
follow from it. -/
theorem failure?_read (c : Check) :
    failure? c.read = c.fault?.or (c.next.findSome? fun n => failure? n.read) := by
  cases c with
  | document j =>
    cases j with
    | object members => rw [read, failure?_map, failure?_readMembers, next, fault?, Option.none_or]
    | _ => rfl
  | value j =>
    rw [read, failure?_map, fault?, Option.none_or]
    cases j with
    | array items =>
      rw [readValue_array, failure?_bind_ok, failure?_mapM, next, List.findSome?_map]
      refine congrArg (fun f => List.findSome? f _) (funext fun j => ?_)
      show failure? (readValue j) = failure? (value j).read
      rw [read, failure?_map]
    | object members =>
      rw [readObject_eq, next]
      cases htag : tagged? (Json.entries members) with
      | none =>
        dsimp only
        rw [failure?_bind_ok, failure?_readMembers]
      | some tagged =>
        obtain ⟨tag, j⟩ := tagged
        dsimp only
        rw [findSome?_cons_eq_or, List.findSome?_nil, Option.or_none, read, failure?_map]
    | _ =>
      rw [readValue]
      rfl
  | body tag j => rw [read, failure?_map, failure?_readTagged]
  | name tag found => exact (failure?_read_name tag found).trans Option.or_none.symm
  | arity found => exact (failure?_read_arity found).trans Option.or_none.symm
  | field tag fieldName found =>
    cases found with
    | none => rfl
    | some j =>
      cases j with
      | object inner => rw [read, failure?_map, failure?_readMembers, next, fault?, Option.none_or]
      | _ => rfl
  | bases found =>
    cases found with
    | none => rfl
    | some j =>
      cases j with
      | array items =>
        rw [read, failure?_map, failure?_mapM, next, fault?, Option.none_or, List.findSome?_map]
        refine congrArg (fun f => List.findSome? f _) (funext fun j => ?_)
        show failure? (readBase j) = failure? (base j).read
        rw [read, failure?_map]
      | _ => rfl
  | base j =>
    rw [read, failure?_map, readBase, next, fault?]
    cases classBody? j with
    | none => rfl
    | some inner => simp [findSome?_cons_eq_or, failure?_read_classBody]
  | classOf found =>
    rw [read, next, fault?]
    cases found.bind classBody? with
    | none => rfl
    | some inner => simp [findSome?_cons_eq_or, failure?_map, failure?_read_classBody]

/-- Reading fails by the first fault in the order of the checks. -/
theorem failure?_read_eq_firstFault? (c : Check) : failure? c.read = c.firstFault? := by
  have hnext : c.next.findSome? (fun n => failure? n.read) = c.next.findSome? firstFault? :=
    findSome?_congr fun n hn => failure?_read_eq_firstFault? n
  rw [failure?_read, firstFault?_eq, hnext]
termination_by c.size
decreasing_by exact size_lt_of_mem_next hn

/-- A check ahead of which nothing is at fault has this fault. -/
def FirstFault (c : Check) (e : SnapshotError) : Prop :=
  ∃ before n after, c.visits = before ++ n :: after ∧ n.fault? = some e ∧
    ∀ earlier ∈ before, earlier.fault? = none

theorem read_eq_error_iff {c : Check} {e : SnapshotError} :
    c.read = .error e ↔ c.FirstFault e := by
  rw [← failure?_eq_some_iff, failure?_read_eq_firstFault?, firstFault?, FirstFault]
  exact List.findSome?_eq_some_iff

/-- Reading fails exactly if there is a fault at all. -/
theorem exists_firstFault_iff {c : Check} :
    (∃ e, c.FirstFault e) ↔ ∃ n ∈ c.visits, n.fault? ≠ none := by
  simp only [← read_eq_error_iff, ← failure?_eq_some_iff, failure?_read_eq_firstFault?, firstFault?,
    ← Option.isSome_iff_exists, List.findSome?_isSome_iff]
  simp only [Option.isSome_iff_ne_none]

end Check

/-! ## Documents -/

theorem loadValue_eq_error_iff {s : Store} {j : Json} {e : SnapshotError} :
    loadValue s j = .error e ↔ (Check.value j).FirstFault e := by
  rw [← Check.read_eq_error_iff, ← failure?_eq_some_iff, ← failure?_eq_some_iff, loadValue,
    failure?_map, Check.read, failure?_map]

theorem loadNamespace_eq_error_iff {s : Store} {j : Json} {e : SnapshotError} :
    loadNamespace s j = .error e ↔ (Check.document j).FirstFault e := by
  rw [← Check.read_eq_error_iff, ← failure?_eq_some_iff, ← failure?_eq_some_iff, loadNamespace,
    failure?_map]
  cases j with
  | object members => rw [readNamespace, Check.read, failure?_map]
  | _ => rfl

section

variable {j : Json}

/-- A value is loaded if none of its checks is at fault. -/
theorem exists_loadValue (s : Store) (h : ∀ c ∈ (Check.value j).visits, c.fault? = none) :
    ∃ v t, loadValue s j = .ok (v, t) := by
  cases hload : loadValue s j with
  | ok loaded => exact ⟨loaded.1, loaded.2, rfl⟩
  | error e =>
    obtain ⟨c, hc, hfault⟩ := Check.exists_firstFault_iff.1 ⟨e, loadValue_eq_error_iff.1 hload⟩
    exact absurd (h c hc) hfault

theorem exists_loadNamespace (s : Store) (h : ∀ c ∈ (Check.document j).visits, c.fault? = none) :
    ∃ names t, loadNamespace s j = .ok (names, t) := by
  cases hload : loadNamespace s j with
  | ok loaded => exact ⟨loaded.1, loaded.2, rfl⟩
  | error e =>
    obtain ⟨c, hc, hfault⟩ := Check.exists_firstFault_iff.1 ⟨e, loadNamespace_eq_error_iff.1 hload⟩
    exact absurd (h c hc) hfault

end

/-- A namespace that is loaded binds every name of the document. -/
theorem names_of_loadNamespace {s s' : Store} {j : Json} {names : Namespace}
    (h : loadNamespace s j = .ok (names, s')) :
    ∃ members, j = .object members ∧ names.names = (Json.entries members).names := by
  cases j with
  | object members =>
    have hrel := rel_get?_of_loadNamespace h (.of_extends (.refl s'))
    exact ⟨members, rfl, Bindings.names_eq_of_rel hrel⟩
  | _ => cases h

/-- A body is read by the fields that belong to its tag. -/
theorem readTagged_congr {tag : SnapshotTag} {members members' : List (String × Json)}
    (h : ∀ name ∈ tag.fields,
      (Json.entries members).get? name = (Json.entries members').get? name) :
    readTagged tag (.object members) = readTagged tag (.object members') := by
  cases tag with
  | functionTag =>
    have hname := h "name" (by simp [SnapshotTag.fields])
    have harity := h "arity" (by simp [SnapshotTag.fields])
    simp only [readTagged, readFunction, requiredName, arity, hname, harity]
  | moduleTag =>
    have hname := h "name" (by simp [SnapshotTag.fields])
    have hmembers := h "members" (by simp [SnapshotTag.fields])
    simp only [readTagged, readModule, requiredName, readField_eq, hname, hmembers]
  | classTag =>
    have hname := h "name" (by simp [SnapshotTag.fields])
    have hmembers := h "members" (by simp [SnapshotTag.fields])
    have hbases := h "bases" (by simp [SnapshotTag.fields])
    simp only [readTagged, readClass, requiredName, readField_eq, readBases_eq, hname, hmembers,
      hbases]
  | instanceTag =>
    have hclass := h "class" (by simp [SnapshotTag.fields])
    have hfields := h "fields" (by simp [SnapshotTag.fields])
    simp only [readTagged, readInstance, readClassOf_eq, readField_eq, hclass, hfields]

/-- How a document is refused. -/
structure ReportsFirstFault (s : Store) (j : Json) : Prop where
  /-- A value is refused exactly if one of its checks is at fault. -/
  refused : (∃ e, loadValue s j = .error e) ↔ ∃ c ∈ (Check.value j).visits, c.fault? ≠ none
  /-- The error is that of the first of these checks. -/
  error : ∀ e, loadValue s j = .error e ↔ (Check.value j).FirstFault e
  /-- The entries of an object are checked in the byte order of their names. -/
  order : ∀ members : List (String × Json), Text.ByteAscending (Json.entries members).names
  /-- So it is for a namespace, -/
  namespaceRefused :
    (∃ e, loadNamespace s j = .error e) ↔ ∃ c ∈ (Check.document j).visits, c.fault? ≠ none
  namespaceError : ∀ e, loadNamespace s j = .error e ↔ (Check.document j).FirstFault e
  /-- and a namespace that is not refused is whole. -/
  whole : ∀ names s', loadNamespace s j = .ok (names, s') →
    ∃ members, j = .object members ∧ names.names = (Json.entries members).names
  /-- Other fields in the body of a tag, of whatever document, make no difference. -/
  uninspected : ∀ (tag : SnapshotTag) (members members' : List (String × Json)),
    (∀ name ∈ tag.fields, (Json.entries members).get? name = (Json.entries members').get? name) →
      readTagged tag (.object members) = readTagged tag (.object members')

/-- A document is refused for its first fault and for nothing else. -/
theorem reportsFirstFault (s : Store) (j : Json) : ReportsFirstFault s j where
  refused := by
    simp only [loadValue_eq_error_iff]
    exact Check.exists_firstFault_iff
  error _ := loadValue_eq_error_iff
  order members := Text.byteAscending_iff.2 (Json.entries members).pairwise_names
  namespaceRefused := by
    simp only [loadNamespace_eq_error_iff]
    exact Check.exists_firstFault_iff
  namespaceError _ := loadNamespace_eq_error_iff
  whole _ _ := names_of_loadNamespace
  uninspected _ _ _ := readTagged_congr

end Snapshot

end NameCompletion
