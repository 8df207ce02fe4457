import NameCompletion.Proofs.Snapshot.Checks
import NameCompletion.Proofs.Value.Parts

/-!
# What a snapshot contains

A value that was loaded, the description of which it was built and the document that it was read of
contain the same things, each in its own terms.

* `Built.parts`: the parts of a value that was built were built of the parts of its description, so
  what one of them contains corresponds to what the other one contains.
* `contains_iff_yields`: what is read at a check contains what is put together at the checks that
  are visited from there (`Check.Yields`).  That is an induction along the tree of checks, and one
  step of it is `exists_contribute`.
* `Loaded.contains_function_iff`, `Loaded.contains_tag_iff`: so the functions in a loaded value are
  those that the document describes, wherever they are, and a module, class or instance is in it
  exactly if the document has such a tag.
-/

namespace NameCompletion

/-! ## Descriptions -/

namespace Description

/-- The descriptions that a description is made of, in the order of the parts of a value. -/
def parts : Description → List Description
  | vector items => items
  | record fields => (Bindings.ofList fields).values
  | module _ members => (Bindings.ofList members).values
  | classObject (.mk _ members bases) =>
    (Bindings.ofList members).values ++ bases.map classObject
  | instanceObject c fields => classObject c :: (Bindings.ofList fields).values
  | _ => []

/-- The second description is the first one or is found inside it, at any depth. -/
def Contains (d e : Description) : Prop :=
  Reaches parts d e

theorem sizeOf_lt_of_mem_values {members : List (String × Description)} {e : Description}
    (h : e ∈ (Bindings.ofList members).values) : sizeOf e < sizeOf members := by
  obtain ⟨entry, hentry, rfl⟩ := List.mem_map.1 h
  have hlt := List.sizeOf_lt_of_mem (Bindings.mem_of_mem_ofList hentry)
  have : sizeOf entry = 1 + sizeOf entry.1 + sizeOf entry.2 := rfl
  omega

theorem sizeOf_lt_of_mem_parts {d e : Description} (h : e ∈ d.parts) : sizeOf e < sizeOf d := by
  unfold parts at h
  split at h
  case h_1 items =>
    have hlt := List.sizeOf_lt_of_mem h
    rw [vector.sizeOf_spec]
    omega
  case h_2 fields =>
    have hlt := sizeOf_lt_of_mem_values h
    rw [record.sizeOf_spec]
    omega
  case h_3 name members =>
    have hlt := sizeOf_lt_of_mem_values h
    rw [module.sizeOf_spec]
    omega
  case h_4 name members bases =>
    rw [classObject.sizeOf_spec, ClassDescription.mk.sizeOf_spec]
    rcases List.mem_append.1 h with h | h
    · have hlt := sizeOf_lt_of_mem_values h
      omega
    · obtain ⟨base, hbase, rfl⟩ := List.mem_map.1 h
      have hlt := List.sizeOf_lt_of_mem hbase
      rw [classObject.sizeOf_spec]
      omega
  case h_5 c fields =>
    rw [instanceObject.sizeOf_spec]
    rcases List.mem_cons.1 h with rfl | h
    · have hpos : 0 < sizeOf fields := by cases fields <;> simp
      rw [classObject.sizeOf_spec]
      omega
    · have hlt := sizeOf_lt_of_mem_values h
      omega
  case h_6 => exact absurd h List.not_mem_nil

/-- A description is finite. -/
theorem founded (d : Description) : Founded parts d :=
  Subrelation.accessible (fun h => sizeOf_lt_of_mem_parts h) ((measure sizeOf).wf.apply d)

/-- The part of the object model that is described, if it is one. -/
def tag? : Description → Option SnapshotTag
  | function _ => some .functionTag
  | module _ _ => some .moduleTag
  | classObject _ => some .classTag
  | instanceObject _ _ => some .instanceTag
  | _ => none

end Description

/-- The part of the object model that a value is, if it is one. -/
def Value.tag? : Value → Option SnapshotTag
  | function _ => some .functionTag
  | module _ => some .moduleTag
  | classObject _ => some .classTag
  | instanceObject _ => some .instanceTag
  | _ => none

/-! ## Values that were built -/

section

variable {start now t made : Store} {v : Value} {d : Description} {r : ClassRef}

theorem forall₂_buildList {items : List Description} {values : List Value}
    (hstart : start.Extends t) (hbuild : Description.buildList t items = (values, made))
    (hkeeps : t.Keeps made now) : List.Forall₂ (Built start now) values items := by
  induction items generalizing t values with
  | nil =>
    cases hbuild
    exact .nil
  | cons d rest ih =>
    have hfirst := Description.extends_build t d
    have hrest := Description.extends_buildList (Description.build t d).2 rest
    cases hbuild
    refine .cons ⟨t, _, hstart, rfl, ?_⟩ (ih (hstart.trans hfirst) rfl ?_)
    · exact hkeeps.inside (.refl t) hrest
    · exact hkeeps.inside hfirst (.refl _)

/-- The elements of a vector that was built were built of the elements of its description. -/
theorem Built.elements {x : VectorRef} {items : List Description}
    (h : Built start now (.vector x) (.vector items)) :
    List.Forall₂ (Built start now) (now.vector x) items := by
  obtain ⟨t, made, hstart, hbuild, hkeeps⟩ := h
  have hitems := Description.extends_buildList t items
  have hvector := Store.extends_newVector (Description.buildList t items).2
  cases hbuild
  rw [hkeeps.vector_fresh hitems (.refl _)]
  exact forall₂_buildList hstart rfl (hkeeps.inside (.refl t) (hvector _))

theorem BuiltNames.values {names : Namespace} {members : List (String × Description)}
    (h : BuiltNames start now names members) :
    List.Forall₂ (Built start now) names.values (Bindings.ofList members).values :=
  (Bindings.forall₂_toList_iff.1 h).2

/-- The parts of a value that was built were built of the parts of its description. -/
theorem Built.parts (h : Built start now v d) :
    List.Forall₂ (Built start now) (v.parts now) d.parts := by
  cases h.shows with
  | null | boolean | number | text | function => exact .nil
  | vector x items => exact h.elements
  | record hfields => exact hfields.values
  | module hmembers => exact hmembers.values
  | @classObject r c hclass =>
    obtain ⟨name, members, bases⟩ := c
    refine List.rel_append hclass.shows.members.values ?_
    rw [List.forall₂_map_left_iff, List.forall₂_map_right_iff]
    exact hclass.shows.bases.imp fun _ _ hbase => hbase.classObject
  | instanceObject hclass hfields => exact .cons hclass.classObject hfields.values

theorem Built.tag?_eq (h : Built start now v d) : v.tag? = d.tag? := by
  cases h.shows <;> rfl

/-- A value that was built is finite. -/
theorem Built.founded (h : Built start now v d) : Founded (Value.parts now) v :=
  Founded.of_related (fun _ _ => Built.parts) d.founded h

/-- What is in a value that was built was built of what is in its description. -/
theorem Built.exists_description {w : Value} (h : Built start now v d) (hw : v.Contains now w) :
    ∃ e, d.Contains e ∧ Built start now w e :=
  exists_of_reaches (fun _ _ => Built.parts) h hw

/-- What is in the description is built in the value. -/
theorem Built.exists_value {e : Description} (h : Built start now v d) (he : d.Contains e) :
    ∃ w, v.Contains now w ∧ Built start now w e :=
  exists_of_reaches (R := flip (Built start now)) (fun _ _ hbuilt => (Built.parts hbuilt).flip) h he

end

/-! ## Documents -/

namespace Snapshot

/-- The bindings that are read of an object keep the order of its names. -/
theorem values_ofList_of_readMembers {members : List (String × Json)}
    {pairs : List (String × Description)} (h : readMembers members = .ok pairs) :
    (Bindings.ofList pairs).values = pairs.map Prod.snd := by
  have hnames : pairs.map Prod.fst = (Json.entries members).names := by
    rw [Bindings.names, eq_comm, ← List.forall₂_eq_eq_eq, List.forall₂_map_left_iff,
      List.forall₂_map_right_iff]
    exact (readMembers_eq_ok_iff.1 h).imp fun _ _ hentry => hentry.1
  have hascending : Bindings.Ascending pairs := by
    have hsorted := (Json.entries members).pairwise_names
    rw [← hnames] at hsorted
    exact List.pairwise_map.1 hsorted
  have heq : Bindings.ofList pairs = ⟨pairs, hascending⟩ :=
    Bindings.ofList_toList ⟨pairs, hascending⟩
  rw [heq, Bindings.values]

namespace Check

/-- The description is put together at the check; all other checks hand on what comes from the
checks behind them. -/
inductive Yields : Check → Description → Prop where
  /-- A value without a tag. -/
  | plain {j : Json} {d : Description}
    (hplain : ∀ members, j = .object members → tagged? (Json.entries members) = none)
    (h : readValue j = .ok d) : Yields (value j) d
  /-- The body of a tag. -/
  | tagged {tag : SnapshotTag} {j : Json} {d : Description} (h : readTagged tag j = .ok d) :
    Yields (body tag j) d

/-- What several checks contribute, one after the other. -/
inductive Contribute : List Check → List Description → Prop where
  | nil : Contribute [] []
  | cons {c : Check} {rest : List Check} {ds ps : List Description} (h : c.read = .ok ds)
    (hrest : Contribute rest ps) : Contribute (c :: rest) (ds ++ ps)

theorem Contribute.single {c : Check} {ds : List Description} (h : c.read = .ok ds) :
    Contribute [c] ds := by
  have hcons := Contribute.cons h .nil
  rwa [List.append_nil] at hcons

theorem Contribute.skip {c : Check} {rest : List Check} {ps : List Description}
    (h : c.read = .ok []) (hrest : Contribute rest ps) : Contribute (c :: rest) ps :=
  .cons h hrest

/-- Checks that contribute one description each. -/
theorem Contribute.of_forall₂ {α : Type} {f : α → Check} {xs : List α} {ds : List Description}
    (h : List.Forall₂ (fun x d => (f x).read = .ok [d]) xs ds) : Contribute (xs.map f) ds := by
  induction h with
  | nil => exact .nil
  | cons hread _ ih => exact .cons hread ih

theorem Contribute.mem_iff {cs : List Check} {ps : List Description} {d : Description}
    (h : Contribute cs ps) : d ∈ ps ↔ ∃ c ∈ cs, ∃ ds, c.read = .ok ds ∧ d ∈ ds := by
  induction h with
  | nil => simp
  | @cons c rest ds ps hread _ ih => simp [ih, hread]

theorem Contribute.exists_read {cs : List Check} {ps : List Description} {c : Check}
    (h : Contribute cs ps) (hc : c ∈ cs) : ∃ ds, c.read = .ok ds := by
  induction h with
  | nil => exact absurd hc List.not_mem_nil
  | cons hread _ ih =>
    rcases List.mem_cons.1 hc with rfl | hc
    · exact ⟨_, hread⟩
    · exact ih hc

/-! ### What the fields of a body contribute -/

theorem read_value_of_reads {j : Json} {d : Description} (h : Reads j d) :
    (value j).read = .ok [d] :=
  map_eq_ok_iff.2 ⟨d, h, rfl⟩

/-- The members of an object contribute what they are read as. -/
theorem contribute_entries {members : List (String × Json)} {pairs : List (String × Description)}
    (h : readMembers members = .ok pairs) :
    Contribute (entries members) (pairs.map Prod.snd) := by
  refine .of_forall₂ ?_
  rw [List.forall₂_map_right_iff]
  exact (readMembers_eq_ok_iff.1 h).imp fun _ _ hentry => read_value_of_reads hentry.2

theorem read_name_of_requiredName {tag : SnapshotTag} {body : Bindings Json} {found : String}
    (h : requiredName tag body = .ok found) : (name tag (body.get? "name")).read = .ok [] := by
  rw [get?_name_of_requiredName h]
  rfl

theorem read_arity_of_arity {body : Bindings Json} {n : Int8} (h : Snapshot.arity body = .ok n) :
    (arity (body.get? "arity")).read = .ok [] := by
  have hfault := failure?_arity body
  rw [h] at hfault
  show okUnless (arity (body.get? "arity")).fault? [] = .ok []
  rw [← hfault]
  rfl

theorem read_field_of_readField {tag : SnapshotTag} {fieldName : String}
    {members : List (String × Json)} {pairs : List (String × Description)}
    (h : readField tag fieldName members = .ok pairs) :
    (field tag fieldName ((Json.entries members).get? fieldName)).read =
      .ok (Bindings.ofList pairs).values := by
  rw [readField_eq] at h
  split at h
  · next hfound =>
    cases h
    rw [hfound]
    rfl
  · next inner hfound =>
    rw [hfound, values_ofList_of_readMembers h]
    exact map_eq_ok_iff.2 ⟨pairs, h, rfl⟩
  · cases h

theorem read_bases_of_readBases {members : List (String × Json)} {classes : List ClassDescription}
    (h : readBases members = .ok classes) :
    (bases ((Json.entries members).get? "bases")).read =
      .ok (classes.map Description.classObject) := by
  rw [readBases_eq] at h
  split at h
  · next hfound =>
    cases h
    rw [hfound]
    rfl
  · next items hfound =>
    rw [hfound]
    exact map_eq_ok_iff.2 ⟨classes, h, rfl⟩
  · cases h

theorem read_classOf_of_readClassOf {members : List (String × Json)} {c : ClassDescription}
    (h : readClassOf members = .ok c) :
    (classOf ((Json.entries members).get? "class")).read = .ok [.classObject c] := by
  rw [readClassOf_eq] at h
  rw [read]
  cases hbody : ((Json.entries members).get? "class").bind classBody? with
  | some j =>
    rw [hbody] at h
    exact map_eq_ok_iff.2 ⟨c, h, rfl⟩
  | none =>
    rw [hbody] at h
    cases h

theorem read_body_of_readTagged {tag : SnapshotTag} {j : Json} {d : Description}
    (h : readTagged tag j = .ok d) : (body tag j).read = .ok [d] :=
  map_eq_ok_iff.2 ⟨d, h, rfl⟩

theorem read_body_of_readClass {j : Json} {c : ClassDescription} (h : readClass j = .ok c) :
    (body .classTag j).read = .ok [.classObject c] := by
  refine read_body_of_readTagged ?_
  rw [readTagged, h]
  rfl

/-! ### One step -/

/-- How the descriptions `ds` that a check contributes come from the descriptions `ps` that the
checks behind it contribute. -/
inductive Assembled (c : Check) : (ds ps : List Description) → Prop where
  /-- They are handed on. -/
  | handed {ps : List Description} (h : ∀ d, ¬ c.Yields d) : Assembled c ps ps
  /-- They are put together. -/
  | whole {d : Description} (h : ∀ e, c.Yields e ↔ e = d) : Assembled c [d] d.parts

theorem assembled_body {tag : SnapshotTag} {j : Json} {d : Description}
    (h : readTagged tag j = .ok d) : (body tag j).Assembled [d] d.parts := by
  refine .whole fun e => ⟨fun hyields => ?_, fun heq => heq ▸ .tagged h⟩
  cases hyields with
  | tagged he => exact Except.ok.inj (he.symm.trans h)

theorem assembled_value {j : Json} {d : Description}
    (hplain : ∀ members, j = .object members → tagged? (Json.entries members) = none)
    (h : readValue j = .ok d) : (value j).Assembled [d] d.parts := by
  refine .whole fun e => ⟨fun hyields => ?_, fun heq => heq ▸ .plain hplain h⟩
  cases hyields with
  | plain _ he => exact Except.ok.inj (he.symm.trans h)

/-- The body of a function is read of fields that contribute nothing. -/
theorem contribute_function {j : Json} {f : Function} (h : readFunction j = .ok f) :
    Contribute (body .functionTag j).next [] := by
  cases j with
  | object members =>
    obtain ⟨name, hname, h⟩ := exists_of_bind_eq_ok h
    obtain ⟨arity, harity, _⟩ := exists_of_bind_eq_ok h
    exact .skip (read_name_of_requiredName hname) (.single (read_arity_of_arity harity))
  | _ => exact .nil

/-- A check that contributes something is not at fault. -/
theorem fault?_eq_none {c : Check} {ds : List Description} (h : c.read = .ok ds) :
    c.fault? = none := by
  have hnone := failure?_read c
  rw [h] at hnone
  exact (Option.or_eq_none_iff.1 hnone.symm).1

/-- The parts of what the body of a tag stands for come from its fields, in their order. -/
theorem contribute_body {tag : SnapshotTag} {j : Json} {d : Description}
    (h : readTagged tag j = .ok d) : Contribute (body tag j).next d.parts := by
  have hfault := fault?_eq_none (read_body_of_readTagged h)
  cases tag with
  | functionTag =>
    obtain ⟨f, hf, h⟩ := exists_of_bind_eq_ok h
    cases h
    exact contribute_function hf
  | moduleTag =>
    cases j with
    | object members =>
      rw [readTagged, readModule] at h
      obtain ⟨name, hname, h⟩ := exists_of_bind_eq_ok h
      obtain ⟨pairs, hmembers, h⟩ := exists_of_bind_eq_ok h
      cases h
      exact .skip (read_name_of_requiredName hname) (.single (read_field_of_readField hmembers))
    | _ => cases hfault
  | classTag =>
    cases j with
    | object members =>
      obtain ⟨c, hc, h⟩ := exists_of_bind_eq_ok h
      cases h
      rw [readClass] at hc
      obtain ⟨name, hname, hc⟩ := exists_of_bind_eq_ok hc
      obtain ⟨own, hmembers, hc⟩ := exists_of_bind_eq_ok hc
      obtain ⟨bases, hbases, hc⟩ := exists_of_bind_eq_ok hc
      cases hc
      exact .skip (read_name_of_requiredName hname)
        (.cons (read_field_of_readField hmembers) (.single (read_bases_of_readBases hbases)))
    | _ => cases hfault
  | instanceTag =>
    cases j with
    | object members =>
      rw [readTagged, readInstance] at h
      obtain ⟨c, hc, h⟩ := exists_of_bind_eq_ok h
      obtain ⟨fields, hfields, h⟩ := exists_of_bind_eq_ok h
      cases h
      exact .cons (read_classOf_of_readClassOf hc) (.single (read_field_of_readField hfields))
    | _ => cases hfault

/-- A value comes from its tagged body, or else from its elements or entries. -/
theorem exists_contribute_value {j : Json} {d : Description} (h : readValue j = .ok d) :
    ∃ ps, Contribute (value j).next ps ∧ (value j).Assembled [d] ps := by
  cases j with
  | array items =>
    have hread := h
    rw [readValue_array] at h
    obtain ⟨ds, hitems, h⟩ := exists_of_bind_eq_ok h
    cases h
    refine ⟨ds, .of_forall₂ ?_, assembled_value (by simp) hread⟩
    exact (mapM_eq_ok_iff.1 hitems).imp fun _ _ hitem => read_value_of_reads hitem
  | object members =>
    have hread := h
    rw [readObject_eq] at h
    rw [next]
    cases htag : tagged? (Json.entries members) with
    | some tagged =>
      obtain ⟨tag, j⟩ := tagged
      rw [htag] at h
      refine ⟨[d], .single (read_body_of_readTagged h), .handed fun e hyields => ?_⟩
      cases hyields with
      | plain hplain _ =>
        rw [hplain members rfl] at htag
        cases htag
    | none =>
      rw [htag] at h
      obtain ⟨fields, hfields, h⟩ := exists_of_bind_eq_ok h
      cases h
      refine ⟨_, contribute_entries hfields, ?_⟩
      rw [← values_ofList_of_readMembers hfields]
      refine assembled_value (fun inner heq => ?_) hread
      cases heq
      exact htag
  | _ =>
    have hread := h
    rw [readValue] at h
    cases h
    exact ⟨[], .nil, assembled_value (by simp) hread⟩

/-- What is neither a value nor the body of a tag hands on all that comes from behind. -/
theorem not_yields {c : Check} (hvalue : ∀ j, c ≠ value j) (hbody : ∀ tag j, c ≠ body tag j)
    (d : Description) : ¬ c.Yields d := by
  intro h
  cases h with
  | plain => exact hvalue _ rfl
  | tagged => exact hbody _ _ rfl

/-- A class that stands in another place than a value comes from the body of its tag. -/
theorem contribute_classBody {found : Option Json} {j : Json} {c : ClassDescription}
    (hfound : found = some j) (h : readClass j = .ok c) :
    Contribute (found.map (body .classTag)).toList [.classObject c] := by
  rw [hfound]
  exact .single (read_body_of_readClass h)

/-- A check that looks for nothing further hands on what comes from behind. -/
theorem contribute_next_of_okUnless {fault : Option SnapshotError} {ds : List Description}
    (h : okUnless fault [] = .ok ds) : Contribute [] ds := by
  cases fault with
  | some e => cases h
  | none =>
    cases h
    exact .nil

/-- What a check contributes comes from the checks behind it. -/
theorem exists_contribute {c : Check} {ds : List Description} (h : c.read = .ok ds) :
    ∃ ps, Contribute c.next ps ∧ c.Assembled ds ps := by
  have hfault := fault?_eq_none h
  cases c with
  | value j =>
    obtain ⟨d, hd, rfl⟩ := map_eq_ok_iff.1 h
    exact exists_contribute_value hd
  | body tag j =>
    obtain ⟨d, hd, rfl⟩ := map_eq_ok_iff.1 h
    exact ⟨d.parts, contribute_body hd, assembled_body hd⟩
  | document j =>
    refine ⟨ds, ?_, .handed (not_yields (by simp) (by simp))⟩
    cases j with
    | object members =>
      obtain ⟨pairs, hpairs, rfl⟩ := map_eq_ok_iff.1 h
      exact contribute_entries hpairs
    | _ => cases hfault
  | name tag found =>
    exact ⟨ds, contribute_next_of_okUnless h, .handed (not_yields (by simp) (by simp))⟩
  | arity found =>
    exact ⟨ds, contribute_next_of_okUnless h, .handed (not_yields (by simp) (by simp))⟩
  | field tag fieldName found =>
    refine ⟨ds, ?_, .handed (not_yields (by simp) (by simp))⟩
    cases found with
    | none =>
      cases h
      exact .nil
    | some j =>
      cases j with
      | object inner =>
        obtain ⟨pairs, hpairs, rfl⟩ := map_eq_ok_iff.1 h
        exact contribute_entries hpairs
      | _ => cases hfault
  | bases found =>
    refine ⟨ds, ?_, .handed (not_yields (by simp) (by simp))⟩
    cases found with
    | none =>
      cases h
      exact .nil
    | some j =>
      cases j with
      | array items =>
        obtain ⟨classes, hclasses, rfl⟩ := map_eq_ok_iff.1 h
        refine .of_forall₂ (List.forall₂_map_right_iff.2 ?_)
        exact (mapM_eq_ok_iff.1 hclasses).imp fun _ c hbase => map_eq_ok_iff.2 ⟨c, hbase, rfl⟩
      | _ => cases hfault
  | base j =>
    refine ⟨ds, ?_, .handed (not_yields (by simp) (by simp))⟩
    obtain ⟨c, hc, rfl⟩ := map_eq_ok_iff.1 h
    rw [readBase] at hc
    split at hc
    · next hbody => exact contribute_classBody hbody hc
    · cases hc
  | classOf found =>
    refine ⟨ds, ?_, .handed (not_yields (by simp) (by simp))⟩
    rw [read] at h
    split at h
    · next hbody =>
      obtain ⟨c, hc, rfl⟩ := map_eq_ok_iff.1 h
      exact contribute_classBody hbody hc
    · cases h

/-! ### All checks that are visited -/

/-- Behind a check that contributes something all checks do. -/
theorem exists_read_of_mem_visits {c n : Check} {ds : List Description} (h : c.read = .ok ds)
    (hn : n ∈ c.visits) : ∃ ds', n.read = .ok ds' := by
  rw [visits_eq] at hn
  rcases List.mem_cons.1 hn with rfl | hn
  · exact ⟨ds, h⟩
  · obtain ⟨m, hm, hn⟩ := List.mem_flatMap.1 hn
    obtain ⟨ps, hnext, _⟩ := exists_contribute h
    obtain ⟨ds', hread⟩ := hnext.exists_read hm
    exact exists_read_of_mem_visits hread hn
termination_by c.size
decreasing_by exact size_lt_of_mem_next hm

/-- What is read at a check contains what is put together at the checks that are visited. -/
theorem contains_iff_yields {c : Check} {ds : List Description} (h : c.read = .ok ds)
    (e : Description) : (∃ d ∈ ds, d.Contains e) ↔ ∃ n ∈ c.visits, n.Yields e := by
  obtain ⟨ps, hnext, hassembled⟩ := exists_contribute h
  have hbehind : (∃ d ∈ ps, d.Contains e) ↔ ∃ n ∈ c.next.flatMap visits, n.Yields e := by
    constructor
    · rintro ⟨d, hd, hde⟩
      obtain ⟨m, hm, ds', hread, hd⟩ := hnext.mem_iff.1 hd
      obtain ⟨n, hn, hyields⟩ := (contains_iff_yields hread e).1 ⟨d, hd, hde⟩
      exact ⟨n, List.mem_flatMap.2 ⟨m, hm, hn⟩, hyields⟩
    · rintro ⟨n, hn, hyields⟩
      obtain ⟨m, hm, hn⟩ := List.mem_flatMap.1 hn
      obtain ⟨ds', hread⟩ := hnext.exists_read hm
      obtain ⟨d, hd, hde⟩ := (contains_iff_yields hread e).2 ⟨n, hn, hyields⟩
      exact ⟨d, hnext.mem_iff.2 ⟨m, hm, ds', hread, hd⟩, hde⟩
  rw [visits_eq, List.exists_mem_cons_iff, ← hbehind]
  cases hassembled with
  | handed hnone => rw [or_iff_right (hnone e)]
  | @whole d hwhole =>
    simp only [hwhole, List.mem_singleton, exists_eq_left]
    exact reaches_iff
termination_by c.size
decreasing_by all_goals exact size_lt_of_mem_next hm

/-! ### What is put together where -/

theorem tag?_of_readTagged {tag : SnapshotTag} {j : Json} {d : Description}
    (h : readTagged tag j = .ok d) : d.tag? = some tag := by
  cases tag with
  | functionTag =>
    obtain ⟨f, _, h⟩ := exists_of_bind_eq_ok h
    cases h
    rfl
  | classTag =>
    obtain ⟨c, _, h⟩ := exists_of_bind_eq_ok h
    cases h
    rfl
  | moduleTag =>
    have hfault := fault?_eq_none (read_body_of_readTagged h)
    cases j with
    | object members =>
      rw [readTagged, readModule] at h
      obtain ⟨name, _, h⟩ := exists_of_bind_eq_ok h
      obtain ⟨pairs, _, h⟩ := exists_of_bind_eq_ok h
      cases h
      rfl
    | _ => cases hfault
  | instanceTag =>
    have hfault := fault?_eq_none (read_body_of_readTagged h)
    cases j with
    | object members =>
      rw [readTagged, readInstance] at h
      obtain ⟨c, _, h⟩ := exists_of_bind_eq_ok h
      obtain ⟨fields, _, h⟩ := exists_of_bind_eq_ok h
      cases h
      rfl
    | _ => cases hfault

/-- A value without a tag stands for nothing of the object model. -/
theorem tag?_of_plain {j : Json} {d : Description}
    (hplain : ∀ members, j = .object members → tagged? (Json.entries members) = none)
    (h : readValue j = .ok d) : d.tag? = none := by
  cases j with
  | array items =>
    rw [readValue_array] at h
    obtain ⟨ds, _, h⟩ := exists_of_bind_eq_ok h
    cases h
    rfl
  | object members =>
    rw [readObject_eq, hplain members rfl] at h
    obtain ⟨fields, _, h⟩ := exists_of_bind_eq_ok h
    cases h
    rfl
  | _ =>
    rw [readValue] at h
    cases h
    rfl

/-- A part of the object model is put together at the body of its tag. -/
theorem Yields.exists_body {n : Check} {d : Description} {tag : SnapshotTag} (h : n.Yields d)
    (htag : d.tag? = some tag) : ∃ j, n = body tag j ∧ readTagged tag j = .ok d := by
  cases h with
  | plain hplain h =>
    rw [tag?_of_plain hplain h] at htag
    cases htag
  | @tagged tag' j _ h =>
    rw [tag?_of_readTagged h] at htag
    cases htag
    exact ⟨j, rfl, h⟩

/-- A number is put together where it stands in the document. -/
theorem Yields.exists_number {n : Check} {x : Float} (h : n.Yields (.number x)) :
    ∃ number, n = value (.number number) ∧ number.toFloat = x := by
  cases h with
  | tagged h =>
    have htag := tag?_of_readTagged h
    cases htag
  | @plain j _ hplain h =>
    cases j with
    | number number =>
      rw [readValue] at h
      cases h
      exact ⟨number, rfl, rfl⟩
    | array items =>
      rw [readValue_array] at h
      obtain ⟨ds, _, h⟩ := exists_of_bind_eq_ok h
      cases h
    | object members =>
      rw [readObject_eq, hplain members rfl] at h
      obtain ⟨fields, _, h⟩ := exists_of_bind_eq_ok h
      cases h
    | _ =>
      rw [readValue] at h
      cases h

end Check

/-! ## Loaded values -/

/-- The values were built of what the check contributes. -/
def Loaded (start now : Store) (c : Check) (vs : List Value) : Prop :=
  ∃ ds, c.read = .ok ds ∧ List.Forall₂ (Built start now) vs ds

variable {s t : Store}

theorem exists_built_of_loadValue {j : Json} {v : Value} (h : loadValue s j = .ok (v, t)) :
    ∃ d, readValue j = .ok d ∧ Built s t v d := by
  obtain ⟨d, hread, hbuild⟩ := map_eq_ok_iff.1 h
  exact ⟨d, hread, s, t, .refl s, hbuild, .of_extends (.refl t)⟩

theorem loaded_of_loadValue {j : Json} {v : Value} (h : loadValue s j = .ok (v, t)) :
    Loaded s t (.value j) [v] := by
  obtain ⟨d, hread, hbuilt⟩ := exists_built_of_loadValue h
  exact ⟨[d], Check.read_value_of_reads hread, .cons hbuilt .nil⟩

theorem loaded_of_loadNamespace {j : Json} {names : Namespace}
    (h : loadNamespace s j = .ok (names, t)) : Loaded s t (.document j) names.values := by
  obtain ⟨pairs, hread, hbuild⟩ := map_eq_ok_iff.1 h
  cases j with
  | object members =>
    cases hbuild
    refine ⟨pairs.map Prod.snd, map_eq_ok_iff.2 ⟨pairs, hread, rfl⟩, ?_⟩
    rw [← values_ofList_of_readMembers hread]
    exact (builtNames_ofList (.refl s) rfl (.of_extends (.refl _))).values
  | _ => cases hread

section

variable {c : Check} {vs : List Value}

/-- What is in loaded values was built of what is put together at some check. -/
theorem Loaded.exists_yields (h : Loaded s t c vs) {v w : Value} (hv : v ∈ vs)
    (hw : v.Contains t w) : ∃ n ∈ c.visits, ∃ e, n.Yields e ∧ Built s t w e := by
  obtain ⟨ds, hread, hbuilt⟩ := h
  obtain ⟨d, hd, hvd⟩ := exists_of_forall₂_left hbuilt hv
  obtain ⟨e, he, hwe⟩ := hvd.exists_description hw
  obtain ⟨n, hn, hyields⟩ := (Check.contains_iff_yields hread e).1 ⟨d, hd, he⟩
  exact ⟨n, hn, e, hyields, hwe⟩

/-- What is put together at a check that is visited is in the loaded values. -/
theorem Loaded.exists_value (h : Loaded s t c vs) {n : Check} {e : Description}
    (hn : n ∈ c.visits) (hyields : n.Yields e) :
    ∃ v ∈ vs, ∃ w, v.Contains t w ∧ Built s t w e := by
  obtain ⟨ds, hread, hbuilt⟩ := h
  obtain ⟨d, hd, he⟩ := (Check.contains_iff_yields hread e).2 ⟨n, hn, hyields⟩
  obtain ⟨v, hv, hvd⟩ := exists_of_forall₂_right hbuilt hd
  obtain ⟨w, hw, hwe⟩ := hvd.exists_value he
  exact ⟨v, hv, w, hw, hwe⟩

/-- The functions in loaded values are those that the bodies of functions stand for. -/
theorem Loaded.contains_function_iff (h : Loaded s t c vs) {f : Function} :
    (∃ v ∈ vs, v.Contains t (.function f)) ↔
      ∃ j, .body .functionTag j ∈ c.visits ∧ readFunction j = .ok f := by
  constructor
  · rintro ⟨v, hv, hf⟩
    obtain ⟨n, hn, e, hyields, hbuilt⟩ := h.exists_yields hv hf
    obtain ⟨j, rfl, hread⟩ := hyields.exists_body hbuilt.tag?_eq.symm
    obtain ⟨g, hg, heq⟩ := exists_of_bind_eq_ok hread
    cases heq
    cases hbuilt.shows
    exact ⟨j, hn, hg⟩
  · rintro ⟨j, hn, hf⟩
    have hread : readTagged .functionTag j = .ok (.function f) := by
      rw [readTagged, hf]
      rfl
    obtain ⟨v, hv, w, hw, hbuilt⟩ := h.exists_value hn (.tagged hread)
    cases hbuilt.shows
    exact ⟨v, hv, hw⟩

/-- A part of the object model is in loaded values exactly if the document has its tag. -/
theorem Loaded.contains_tag_iff (h : Loaded s t c vs) {tag : SnapshotTag} :
    (∃ v ∈ vs, ∃ w, v.Contains t w ∧ w.tag? = some tag) ↔ ∃ j, .body tag j ∈ c.visits := by
  constructor
  · rintro ⟨v, hv, w, hw, htag⟩
    obtain ⟨n, hn, e, hyields, hbuilt⟩ := h.exists_yields hv hw
    obtain ⟨j, rfl, _⟩ := hyields.exists_body (hbuilt.tag?_eq.symm.trans htag)
    exact ⟨j, hn⟩
  · rintro ⟨j, hn⟩
    obtain ⟨ds, hread, _⟩ := id h
    obtain ⟨_, hbody⟩ := Check.exists_read_of_mem_visits hread hn
    obtain ⟨d, hd, _⟩ := map_eq_ok_iff.1 hbody
    obtain ⟨v, hv, w, hw, hbuilt⟩ := h.exists_value hn (.tagged hd)
    exact ⟨v, hv, w, hw, hbuilt.tag?_eq.trans (Check.tag?_of_readTagged hd)⟩

end

end Snapshot

end NameCompletion
