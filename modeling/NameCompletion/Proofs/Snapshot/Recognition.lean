import NameCompletion.Proofs.Snapshot.Navigation

/-!
# Where a class is recognised

A snapshot can hold a class in three places: as a value, as a base of another class and as the class
of an instance.  As a value it is an object whose single entry is `$class`.  The other two places
look for an entry `$class` and at nothing else.

* `accepted_as_base_iff`, `accepted_as_class_iff`: what it takes in a body that is well formed apart
  from that place.
* `readValue_eq_classObject_iff`: what it takes as a value.
* `recognisedAlike_iff`: so the places agree on a value exactly if it has no entries besides a
  `$class` that stands for a class.  `annotatedClass` is a value on which they do not agree.
-/

namespace NameCompletion

/-! ## Objects with one more entry -/

theorem Json.entries_concat (members : List (String × Json)) (name : String) (j : Json) :
    entries (members ++ [(name, j)]) = (entries members).insert name j :=
  Bindings.ofList_concat members (name, j)

theorem Json.get?_entries_concat (members : List (String × Json)) (name other : String) (j : Json) :
    (entries (members ++ [(name, j)])).get? other =
      if other = name then some j else (entries members).get? other := by
  rw [entries_concat, Bindings.get?_insert]

/-- Several results in a row, seen from one of them. -/
theorem mapM_append_cons_eq_ok_iff {ε α β : Type} {f : α → Except ε β} {before after : List α}
    {x : α} {ys : List β} :
    (before ++ x :: after).mapM f = .ok ys ↔ ∃ front y back,
      before.mapM f = .ok front ∧ f x = .ok y ∧ after.mapM f = .ok back ∧
        ys = front ++ y :: back := by
  rw [List.mapM_append, List.mapM_cons]
  simp only [bind_eq_ok_iff, pure, Except.pure, Except.ok.injEq]
  constructor
  · rintro ⟨front, hfront, _, ⟨y, hy, back, hback, rfl⟩, rfl⟩
    exact ⟨front, y, back, hfront, hy, hback, rfl⟩
  · rintro ⟨front, y, back, hfront, hy, hback, rfl⟩
    exact ⟨front, hfront, _, ⟨y, hy, back, hback, rfl⟩, rfl⟩

namespace Snapshot

/-! ## Bodies apart from one place -/

/-- The body of a class, with these bases in the place of its own. -/
def withBases (body : List (String × Json)) (bases : List Json) : Json :=
  .object (body ++ [("bases", .array bases)])

/-- The body of an instance, with this class in the place of its own. -/
def withClass (body : List (String × Json)) (j : Json) : Json :=
  .object (body ++ [("class", j)])

/-- The class that the entry `$class` of an object stands for. -/
def EntryIsClass (j : Json) (c : ClassDescription) : Prop :=
  ∃ body, classBody? j = some body ∧ readClass body = .ok c

theorem readBase_eq_ok_iff {j : Json} {c : ClassDescription} :
    readBase j = .ok c ↔ EntryIsClass j c := by
  unfold readBase EntryIsClass
  cases classBody? j <;> simp

theorem readClass_withBases_eq_ok_iff {body : List (String × Json)} {bases : List Json}
    {d : ClassDescription} :
    readClass (withBases body bases) = .ok d ↔ ∃ name own classes,
      requiredName .classTag (Json.entries body) = .ok name ∧
        readField .classTag "members" body = .ok own ∧
          bases.mapM readBase = .ok classes ∧ d = .mk name own classes := by
  have hother : ∀ {name : String}, name ≠ "bases" →
      (Json.entries (body ++ [("bases", .array bases)])).get? name =
        (Json.entries body).get? name := by
    intro name hname
    rw [Json.get?_entries_concat, if_neg hname]
  have hbases : (Json.entries (body ++ [("bases", .array bases)])).get? "bases" =
      some (.array bases) := by
    rw [Json.get?_entries_concat, if_pos rfl]
  rw [withBases, readClass]
  simp only [requiredName, readField_eq, readBases_eq, hbases,
    hother (by decide : "name" ≠ "bases"), hother (by decide : "members" ≠ "bases"),
    bind_eq_ok_iff, Except.ok.injEq]
  constructor
  · rintro ⟨name, hname, own, hown, classes, hclasses, rfl⟩
    exact ⟨name, own, classes, hname, hown, hclasses, rfl⟩
  · rintro ⟨name, own, classes, hname, hown, hclasses, rfl⟩
    exact ⟨name, hname, own, hown, classes, hclasses, rfl⟩

theorem readInstance_withClass_eq_ok_iff {body : List (String × Json)} {j : Json}
    {d : Description} :
    readInstance (withClass body j) = .ok d ↔ ∃ c fields,
      EntryIsClass j c ∧ readField .instanceTag "fields" body = .ok fields ∧
        d = .instanceObject c fields := by
  have hfields : (Json.entries (body ++ [("class", j)])).get? "fields" =
      (Json.entries body).get? "fields" := by
    rw [Json.get?_entries_concat, if_neg (by decide)]
  have hclass : (Json.entries (body ++ [("class", j)])).get? "class" = some j := by
    rw [Json.get?_entries_concat, if_pos rfl]
  have hread : ∀ c, readClassOf (body ++ [("class", j)]) = .ok c ↔ EntryIsClass j c := by
    intro c
    rw [readClassOf_eq, hclass, Option.bind_some, EntryIsClass]
    cases classBody? j <;> simp
  rw [withClass, readInstance]
  simp only [bind_eq_ok_iff, hread, readField_eq, hfields, Except.ok.injEq]
  constructor
  · rintro ⟨c, hc, fields, hread, rfl⟩
    exact ⟨c, fields, hc, hread, rfl⟩
  · rintro ⟨c, fields, hc, hread, rfl⟩
    exact ⟨c, hc, fields, hread, rfl⟩

/-- A value in the place of a base, in a body that is well formed with another value there. -/
theorem accepted_as_base_iff {body : List (String × Json)} {before after : List Json} {j k : Json}
    {name : String} {own : List (String × Description)} {bases : List ClassDescription}
    (h : readClass (withBases body (before ++ k :: after)) = .ok (.mk name own bases))
    {d : ClassDescription} :
    readClass (withBases body (before ++ j :: after)) = .ok d ↔
      ∃ c, EntryIsClass j c ∧ d = .mk name own (bases.set before.length c) := by
  obtain ⟨_, _, _, hname, hown, hbases, hd⟩ := readClass_withBases_eq_ok_iff.1 h
  cases hd
  obtain ⟨front, other, back, hfront, hother, hback, rfl⟩ := mapM_append_cons_eq_ok_iff.1 hbases
  have hlength : before.length = front.length := (mapM_eq_ok_iff.1 hfront).length_eq
  have hset : ∀ c, (front ++ other :: back).set before.length c = front ++ c :: back := by
    intro c
    rw [hlength, List.set_append_right _ _ (Nat.le_refl _), Nat.sub_self, List.set_cons_zero]
  simp only [readClass_withBases_eq_ok_iff, hname, hown, mapM_append_cons_eq_ok_iff, hfront, hback,
    readBase_eq_ok_iff, hset, Except.ok.injEq]
  constructor
  · rintro ⟨_, _, _, rfl, rfl, ⟨_, c, _, rfl, hc, rfl, rfl⟩, rfl⟩
    exact ⟨c, hc, rfl⟩
  · rintro ⟨c, hc, rfl⟩
    exact ⟨_, _, _, rfl, rfl, ⟨_, c, _, rfl, hc, rfl, rfl⟩, rfl⟩

/-- A value in the place of the class of an instance, in a body that is well formed with another
value there. -/
theorem accepted_as_class_iff {body : List (String × Json)} {j k : Json} {c₀ : ClassDescription}
    {fields : List (String × Description)}
    (h : readInstance (withClass body k) = .ok (.instanceObject c₀ fields)) {d : Description} :
    readInstance (withClass body j) = .ok d ↔
      ∃ c, EntryIsClass j c ∧ d = .instanceObject c fields := by
  obtain ⟨_, _, _, hfields, hd⟩ := readInstance_withClass_eq_ok_iff.1 h
  cases hd
  simp only [readInstance_withClass_eq_ok_iff, hfields, Except.ok.injEq]
  constructor
  · rintro ⟨c, _, hc, rfl, rfl⟩
    exact ⟨c, hc, rfl⟩
  · rintro ⟨c, hc, rfl⟩
    exact ⟨c, _, hc, rfl, rfl⟩

/-! ## Values that are classes -/

/-- The value is an object with a single entry. -/
def HasSoleEntry (j : Json) : Prop :=
  ∃ members, j = .object members ∧ (Json.entries members).size = 1

theorem soleMember?_eq_some_iff {members : Bindings Json} {name : String} {j : Json} :
    soleMember? members = some (name, j) ↔ members.get? name = some j ∧ members.size = 1 := by
  obtain ⟨entries, hascending⟩ := members
  match entries with
  | [] => simp [soleMember?, Bindings.size]
  | [e] =>
    rw [Bindings.get?_eq_some_iff]
    simp [soleMember?, Bindings.size, eq_comm]
  | _ :: _ :: _ => simp [soleMember?, Bindings.size]

theorem tagged?_eq_classTag_iff {members : Bindings Json} {body : Json} :
    tagged? members = some (.classTag, body) ↔ soleMember? members = some ("$class", body) := by
  unfold tagged?
  split <;> simp_all

/-- As a value a class is an object whose only entry is `$class`. -/
theorem readValue_eq_classObject_iff {j : Json} {c : ClassDescription} :
    readValue j = .ok (.classObject c) ↔ EntryIsClass j c ∧ HasSoleEntry j := by
  constructor
  · intro h
    cases j with
    | object members =>
      rw [readObject_eq] at h
      cases htag : tagged? (Json.entries members) with
      | none =>
        rw [htag] at h
        obtain ⟨_, _, h⟩ := bind_eq_ok_iff.1 h
        cases h
      | some tagged =>
        obtain ⟨tag, body⟩ := tagged
        rw [htag] at h
        cases tag with
        | functionTag =>
          obtain ⟨_, _, h⟩ := bind_eq_ok_iff.1 h
          cases h
        | moduleTag =>
          obtain ⟨_, _, h, _⟩ := readsModule_of_readModule h
          cases h
        | classTag =>
          obtain ⟨_, hread, h⟩ := bind_eq_ok_iff.1 h
          cases h
          have hsole := soleMember?_eq_some_iff.1 (tagged?_eq_classTag_iff.1 htag)
          exact ⟨⟨body, hsole.1, hread⟩, members, rfl, hsole.2⟩
        | instanceTag =>
          obtain ⟨_, _, h, _⟩ := readsInstance_of_readInstance h
          cases h
    | array items =>
      rw [readValue_array] at h
      obtain ⟨_, _, h⟩ := bind_eq_ok_iff.1 h
      cases h
    | _ =>
      rw [readValue] at h
      cases h
  · rintro ⟨⟨body, hbody, hread⟩, members, rfl, hsize⟩
    have htag := tagged?_eq_classTag_iff.2 (soleMember?_eq_some_iff.2 ⟨hbody, hsize⟩)
    rw [readObject_eq, htag]
    exact bind_eq_ok_iff.2 ⟨c, hread, rfl⟩

/-! ## Where the places agree -/

/-- The value is recognised as a class in the other places as it is as a value: there as here it is
accepted or not, and it stands for the same class. -/
structure RecognisedAlike (j : Json) : Prop where
  /-- In the place of a base, in a body that is well formed with another value `k` there. -/
  base : ∀ body before after k name own bases,
    readClass (withBases body (before ++ k :: after)) = .ok (.mk name own bases) →
      ∀ d, readClass (withBases body (before ++ j :: after)) = .ok d ↔
        ∃ c, readValue j = .ok (.classObject c) ∧ d = .mk name own (bases.set before.length c)
  /-- In the place of the class of an instance. -/
  classOf : ∀ body k c₀ fields,
    readInstance (withClass body k) = .ok (.instanceObject c₀ fields) →
      ∀ d, readInstance (withClass body j) = .ok d ↔
        ∃ c, readValue j = .ok (.classObject c) ∧ d = .instanceObject c fields

/-- A class without members and bases. -/
def plainClass : Json :=
  .object [("$class", .object [("name", .text "Plain")])]

theorem entryIsClass_plainClass : EntryIsClass plainClass (.mk "Plain" [] []) := by
  refine ⟨_, rfl, ?_⟩
  rw [readClass, readField_eq, readBases_eq]
  rfl

/-- One base in the body of a class that has nothing but a name. -/
theorem readClass_of_base {j : Json} {c : ClassDescription} (h : EntryIsClass j c) :
    readClass (withBases [("name", .text "Plain")] ([] ++ j :: [])) =
      .ok (.mk "Plain" [] [c]) := by
  refine readClass_withBases_eq_ok_iff.2 ⟨"Plain", [], [c], rfl, ?_, ?_, rfl⟩
  · rw [readField_eq]
    rfl
  · exact mapM_append_cons_eq_ok_iff.2 ⟨[], c, [], rfl, readBase_eq_ok_iff.2 h, rfl, rfl⟩

/-- A value is recognised alike exactly if it has no further entries beside one that is a class. -/
theorem recognisedAlike_iff (j : Json) :
    RecognisedAlike j ↔ ∀ c, EntryIsClass j c → HasSoleEntry j := by
  constructor
  · intro h c hc
    have hplain := readClass_of_base entryIsClass_plainClass
    obtain ⟨c', hvalue, _⟩ := (h.base _ _ _ _ _ _ _ hplain _).1 (readClass_of_base hc)
    exact (readValue_eq_classObject_iff.1 hvalue).2
  · intro h
    have hvalue : ∀ c, readValue j = .ok (.classObject c) ↔ EntryIsClass j c := by
      intro c
      rw [readValue_eq_classObject_iff]
      exact and_iff_left_of_imp (h c)
    refine ⟨fun body before after k name own bases hk d => ?_, fun body k c₀ fields hk d => ?_⟩
    · simp only [hvalue]
      exact accepted_as_base_iff hk
    · simp only [hvalue]
      exact accepted_as_class_iff hk

/-- A class with a note beside it. -/
def annotatedClass : Json :=
  .object [("$class", .object [("name", .text "Plain")]), ("note", .null)]

/-- A class with a note beside it is accepted as a base, but as a value it is no class. -/
theorem annotatedClass_not_recognisedAlike :
    readClass (withBases [("name", .text "Plain")] [annotatedClass]) =
        .ok (.mk "Plain" [] [.mk "Plain" [] []]) ∧
      (¬ ∃ c, readValue annotatedClass = .ok (.classObject c)) ∧
        ¬ RecognisedAlike annotatedClass := by
  have hentry : EntryIsClass annotatedClass (.mk "Plain" [] []) := by
    obtain ⟨body, hbody, hread⟩ := entryIsClass_plainClass
    cases hbody
    exact ⟨_, rfl, hread⟩
  have hmore : ¬ HasSoleEntry annotatedClass := by
    rintro ⟨members, hmembers, hsize⟩
    cases hmembers
    exact absurd hsize (by decide)
  have hvalue : ¬ ∃ c, readValue annotatedClass = .ok (.classObject c) := by
    rintro ⟨c, hc⟩
    exact hmore (readValue_eq_classObject_iff.1 hc).2
  refine ⟨readClass_of_base hentry, hvalue, fun h => hvalue ?_⟩
  have hplain := readClass_of_base entryIsClass_plainClass
  obtain ⟨c, hc, _⟩ := (h.base _ _ _ _ _ _ _ hplain _).1 (readClass_of_base hentry)
  exact ⟨c, hc⟩

end Snapshot

end NameCompletion
