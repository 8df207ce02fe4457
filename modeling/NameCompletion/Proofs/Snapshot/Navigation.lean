import NameCompletion.Completer
import NameCompletion.Proofs.Snapshot.Built
import NameCompletion.Proofs.Snapshot.Reading

/-!
# Finding one's way in a document

A document can be asked for a member without being loaded: `Json.member?` looks into the parts of
the document that a tag is about, along the bases of a class and of the class of an instance.
`Json.navigate?` follows a path that way.  Loading comes to the same: what is found in a loaded
value stands for what is found in its document (`StandsFor`).

* `rel_member?`: a description has under a name what the document has there.
* `StandsFor.member`: a value has under a name what stands for that.
* `rel_resolve`: a path in a loaded namespace leads to what stands for what it leads to in the
  document.
* `loading_commutes`: both for a value or a namespace that was loaded.
-/

namespace NameCompletion

namespace Json

/-! ## Members of documents -/

/-- The entry of that name, if the document is an object. -/
def field? (name : String) : Json → Option Json
  | .object members => (entries members).get? name
  | _ => none

theorem sizeOf_field?_lt {j field : Json} {name : String} (h : j.field? name = some field) :
    sizeOf field < sizeOf j := by
  cases j with
  | object members =>
    have : sizeOf field < sizeOf members := sizeOf_get?_lt h
    rw [object.sizeOf_spec]
    omega
  | _ => simp [field?] at h

/-- The bodies of the bases in the body of a class. -/
def baseBodies (body : Json) : List Json :=
  match body.field? "bases" with
  | some (.array bases) => bases.filterMap (field? "$class")
  | _ => []

theorem sizeOf_lt_of_mem_baseBodies {body base : Json} (h : base ∈ baseBodies body) :
    sizeOf base < sizeOf body := by
  unfold baseBodies at h
  split at h
  · next bases hfield =>
    obtain ⟨j, hmem, hbase⟩ := List.mem_filterMap.1 h
    have := sizeOf_field?_lt hbase
    have := List.sizeOf_lt_of_mem hmem
    have := sizeOf_field?_lt hfield
    rw [array.sizeOf_spec] at this
    omega
  · exact absurd h List.not_mem_nil

/-- The entry in the own members of a class, else the first one in its bases, depth first. -/
def classMember? (name : String) (body : Json) : Option Json :=
  ((body.field? "members").bind (field? name)).or
    ((baseBodies body).attach.findSome? fun base => classMember? name base.1)
termination_by sizeOf body
decreasing_by exact sizeOf_lt_of_mem_baseBodies base.2

theorem classMember?_eq (name : String) (body : Json) :
    classMember? name body = ((body.field? "members").bind (field? name)).or
      ((baseBodies body).findSome? (classMember? name)) := by
  rw [classMember?, List.findSome?_subtype (g := classMember? name) (fun _ _ => rfl),
    List.unattach_attach]

/-- The name in the body of a function. -/
def functionName? : Json → Option Json
  | .text name => some (.text name)
  | body => body.field? "name"

/-- A function as a document. -/
def ofFunction (f : Function) : Json :=
  .object [("$function",
    .object [("name", .text f.name), ("arity", .number (.integer f.arity.toInt))])]

/-- The method of that name in a table of methods. -/
def method? (methods : Namespace) (name : String) : Option Json :=
  ((methods.get? name).bind Value.function?).map ofFunction

/-- What stands under a name in the body of a tag, or is known of the part that the tag
describes. -/
def taggedMember? (name : String) : SnapshotTag → Json → Option Json
  | .functionTag, body => if name = "__name__" then functionName? body else none
  | .moduleTag, body =>
    ((body.field? "members").bind (field? name)).or
      (if name = "__name__" then body.field? "name" else none)
  | .classTag, body =>
    (classMember? name body).or (if name = "__name__" then body.field? "name" else none)
  | .instanceTag, body =>
    let classBody := (body.field? "class").bind (field? "$class")
    (((body.field? "fields").bind (field? name)).or (classBody.bind (classMember? name))).or
      (if name = "__class__" then classBody.map fun c => .object [("$class", c)] else none)

/-- What a document has under a name, part of it or a document of its own. -/
def member? (name : String) : Json → Option Json
  | .null => none
  | .boolean _ => none
  | .number _ => method? Methods.number name
  | .text _ => method? Methods.text name
  | .array _ => method? Methods.vector name
  | .object members =>
    match Snapshot.tagged? (entries members) with
    | some (tag, body) => taggedMember? name tag body
    | none => (entries members).get? name

/-- What a path leads to: the entry of its first segment, then a member for each further one. -/
def navigate? (document : Json) : List String → Option Json
  | [] => none
  | first :: rest =>
    (document.field? first).bind fun j => rest.foldlM (fun j name => j.member? name) j

end Json

namespace Snapshot

/-! ## Descriptions of documents -/

theorem classBody?_eq (j : Json) : classBody? j = j.field? "$class" := by
  cases j <;> rfl

/-- What a field of a body binds was read of the entries of that field. -/
theorem rel_get?_of_readField {tag : SnapshotTag} {field : String} {members : List (String × Json)}
    {pairs : List (String × Description)} (h : readField tag field members = .ok pairs)
    (name : String) :
    Option.Rel Reads (((Json.object members).field? field).bind (Json.field? name))
      ((Bindings.ofList pairs).get? name) := by
  rw [readField_eq] at h
  show Option.Rel Reads (((Json.entries members).get? field).bind (Json.field? name)) _
  split at h
  · next hfield =>
    cases h
    rw [hfield]
    exact .none
  · next inner hfield =>
    rw [hfield]
    exact rel_get?_of_readMembers h name
  · cases h

/-- Bases are read of their bodies. -/
theorem forall₂_of_readBases {members : List (String × Json)} {classes : List ClassDescription}
    (h : readBases members = .ok classes) :
    List.Forall₂ (fun base c => readClass base = .ok c) (Json.baseBodies (.object members))
      classes := by
  rw [readBases_eq] at h
  show List.Forall₂ _ (match (Json.entries members).get? "bases" with
    | some (.array bases) => bases.filterMap (Json.field? "$class")
    | _ => []) classes
  split at h
  · next hfield =>
    cases h
    rw [hfield]
    exact .nil
  · next bases hfield =>
    rw [hfield]
    show List.Forall₂ _ (bases.filterMap (Json.field? "$class")) classes
    have hbases := mapM_eq_ok_iff.1 h
    clear h hfield
    induction hbases with
    | nil => exact .nil
    | @cons j c _ _ hread _ ih =>
      unfold readBase at hread
      split at hread
      · next body hbody =>
        rw [classBody?_eq] at hbody
        rw [List.filterMap_cons_some hbody]
        exact .cons hread ih
      · cases hread
  · cases h

/-- What is known of the body of a class that was read. -/
structure ReadsClass (body : Json) (name : String) (own : List (String × Description))
    (bases : List ClassDescription) : Prop where
  name : body.field? "name" = some (.text name)
  members : ∀ n, Option.Rel Reads ((body.field? "members").bind (Json.field? n))
    ((Bindings.ofList own).get? n)
  bases : List.Forall₂ (fun base c => readClass base = .ok c) body.baseBodies bases

theorem readsClass_of_readClass {body : Json} {name : String} {own : List (String × Description)}
    {bases : List ClassDescription} (h : readClass body = .ok (.mk name own bases)) :
    ReadsClass body name own bases := by
  cases body with
  | object members =>
    rw [readClass] at h
    obtain ⟨name, hname, h⟩ := exists_of_bind_eq_ok h
    obtain ⟨own, hown, h⟩ := exists_of_bind_eq_ok h
    obtain ⟨bases, hbases, h⟩ := exists_of_bind_eq_ok h
    cases h
    exact ⟨get?_name_of_requiredName hname, rel_get?_of_readField hown, forall₂_of_readBases hbases⟩
  | _ =>
    rw [readClass] at h
    · cases h
    · simp

/-- A described class has under a name what the body of the class has there. -/
theorem rel_classMember (name : String) {body : Json} {c : ClassDescription}
    (h : readClass body = .ok c) : Option.Rel Reads (body.classMember? name) (c.lookup? name) := by
  cases c with
  | mk own members bases =>
    have hread := readsClass_of_readClass h
    rw [Json.classMember?_eq, ClassDescription.lookup?, ClassDescription.lookupFirst?_eq]
    refine rel_or (hread.members name) (rel_findSome? ?_)
    have hmem := (List.forall₂_and_left _ _).2 ⟨fun _ hbase => hbase, hread.bases⟩
    refine hmem.imp fun base c hbase => ?_
    obtain ⟨hbase, hc⟩ := hbase
    exact rel_classMember name hc
termination_by sizeOf body
decreasing_by exact Json.sizeOf_lt_of_mem_baseBodies hbase

theorem readClass_name {body : Json} {c : ClassDescription} (h : readClass body = .ok c) :
    body.field? "name" = some (.text c.name) := by
  cases c
  exact (readsClass_of_readClass h).name

/-- The body of a class makes a class where an object of the tag alone stands. -/
theorem reads_class {body : Json} {c : ClassDescription} (h : readClass body = .ok c) :
    Reads (.object [("$class", body)]) (.classObject c) := by
  rw [Reads, readObject_eq]
  show (do
    let c ← readClass body
    Except.ok (Description.classObject c)) = _
  rw [h]
  rfl

/-- What is known of the body of a module that was read. -/
structure ReadsModule (body : Json) (name : String) (members : List (String × Description)) :
    Prop where
  name : body.field? "name" = some (.text name)
  members : ∀ n, Option.Rel Reads ((body.field? "members").bind (Json.field? n))
    ((Bindings.ofList members).get? n)

theorem readsModule_of_readModule {body : Json} {d : Description} (h : readModule body = .ok d) :
    ∃ name members, d = .module name members ∧ ReadsModule body name members := by
  cases body with
  | object members =>
    rw [readModule] at h
    obtain ⟨name, hname, h⟩ := exists_of_bind_eq_ok h
    obtain ⟨own, hown, h⟩ := exists_of_bind_eq_ok h
    cases h
    exact ⟨name, own, rfl, get?_name_of_requiredName hname, rel_get?_of_readField hown⟩
  | _ =>
    rw [readModule] at h
    · cases h
    · simp

/-- What is known of the body of an instance that was read. -/
structure ReadsInstance (body : Json) (c : ClassDescription)
    (fields : List (String × Description)) : Prop where
  classObject : ∃ classBody, (body.field? "class").bind (Json.field? "$class") = some classBody ∧
    readClass classBody = .ok c
  fields : ∀ n, Option.Rel Reads ((body.field? "fields").bind (Json.field? n))
    ((Bindings.ofList fields).get? n)

theorem readsInstance_of_readInstance {body : Json} {d : Description}
    (h : readInstance body = .ok d) :
    ∃ c fields, d = .instanceObject c fields ∧ ReadsInstance body c fields := by
  cases body with
  | object members =>
    rw [readInstance] at h
    obtain ⟨c, hc, h⟩ := exists_of_bind_eq_ok h
    obtain ⟨fields, hfields, h⟩ := exists_of_bind_eq_ok h
    cases h
    refine ⟨c, fields, rfl, ?_, rel_get?_of_readField hfields⟩
    rw [readClassOf_eq] at hc
    split at hc
    · next classBody hbody =>
      rw [funext classBody?_eq] at hbody
      exact ⟨classBody, hbody, hc⟩
    · cases hc
  | _ =>
    rw [readInstance] at h
    · cases h
    · simp

theorem functionName?_of_readFunction {body : Json} {f : Function} (h : readFunction body = .ok f) :
    Json.functionName? body = some (.text f.name) := by
  unfold readFunction at h
  split at h
  · cases h
    rfl
  · obtain ⟨name, hname, h⟩ := exists_of_bind_eq_ok h
    obtain ⟨arity, _, h⟩ := exists_of_bind_eq_ok h
    cases h
    exact get?_name_of_requiredName hname
  · cases h

theorem reads_ofFunction (f : Function) : Reads (Json.ofFunction f) (.function f) := by
  have hnodup : ([("name", Json.text f.name), ("arity", .number (.integer f.arity.toInt))].map
      Prod.fst).Nodup := by
    simp
  have hname := (Bindings.get?_ofList_eq_some_iff hnodup).2 List.mem_cons_self
  have harity := (Bindings.get?_ofList_eq_some_iff hnodup).2
    (List.mem_cons_of_mem _ List.mem_cons_self)
  have hrange : -128 ≤ f.arity.toInt ∧ f.arity.toInt ≤ 127 :=
    ⟨f.arity.le_toInt, Int.le_of_lt_add_one f.arity.toInt_lt⟩
  rw [Reads, Json.ofFunction, readObject_eq]
  show (do
    let f ← readFunction (.object [("name", .text f.name),
      ("arity", .number (.integer f.arity.toInt))])
    Except.ok (Description.function f)) = _
  simp only [readFunction, requiredName, arity, Json.entries, hname, harity, if_pos hrange,
    Int8.ofInt_toInt]
  rfl

theorem rel_method? (methods : Namespace) (name : String) :
    Option.Rel Reads (Json.method? methods name) (Description.method? methods name) := by
  unfold Json.method? Description.method?
  exact rel_map (rel_eq _) fun f _ hf => hf ▸ reads_ofFunction f

theorem rel_taggedMember? {tag : SnapshotTag} {body : Json} {d : Description}
    (h : readTagged tag body = .ok d) (name : String) :
    Option.Rel Reads (Json.taggedMember? name tag body) (d.member? name) := by
  cases tag with
  | functionTag =>
    obtain ⟨f, hf, hd⟩ := exists_of_bind_eq_ok h
    cases hd
    rw [Json.taggedMember?, functionName?_of_readFunction hf]
    exact rel_ite (.some (reads_text f.name))
  | moduleTag =>
    obtain ⟨own, pairs, rfl, hread⟩ := readsModule_of_readModule h
    rw [Json.taggedMember?, hread.name]
    exact rel_or (hread.members name) (rel_ite (.some (reads_text own)))
  | classTag =>
    obtain ⟨c, hc, hd⟩ := exists_of_bind_eq_ok h
    cases hd
    rw [Json.taggedMember?, readClass_name hc]
    exact rel_or (rel_classMember name hc) (rel_ite (.some (reads_text c.name)))
  | instanceTag =>
    obtain ⟨c, pairs, rfl, hread⟩ := readsInstance_of_readInstance h
    obtain ⟨classBody, hbody, hc⟩ := hread.classObject
    rw [Json.taggedMember?, hbody]
    exact rel_or (rel_or (hread.fields name) (rel_classMember name hc))
      (rel_ite (.some (reads_class hc)))

/-- A description has under a name what the document has there. -/
theorem rel_member? {j : Json} {d : Description} (h : Reads j d) (name : String) :
    Option.Rel Reads (j.member? name) (d.member? name) := by
  rw [Reads] at h
  cases j with
  | null | boolean =>
    rw [readValue] at h
    cases h
    exact .none
  | number | text =>
    rw [readValue] at h
    cases h
    exact rel_method? _ name
  | array items =>
    rw [readValue_array] at h
    obtain ⟨_, _, h⟩ := exists_of_bind_eq_ok h
    cases h
    exact rel_method? _ name
  | object members =>
    rw [readObject_eq] at h
    rw [Json.member?]
    cases htag : tagged? (Json.entries members) with
    | none =>
      rw [htag] at h
      obtain ⟨pairs, hpairs, h⟩ := exists_of_bind_eq_ok h
      cases h
      exact rel_get?_of_readMembers hpairs name
    | some tagged =>
      obtain ⟨tag, body⟩ := tagged
      rw [htag] at h
      exact rel_taggedMember? h name

/-! ## Values of documents -/

/-- The value is what loading the document gave, at a time after `start`, and in the store `now` the
cells are there that were made for it. -/
def StandsFor (start now : Store) (v : Value) (j : Json) : Prop :=
  ∃ t made, start.Extends t ∧ loadValue t j = .ok (v, made) ∧ t.Keeps made now

variable {start now : Store}

theorem standsFor_of_built {v : Value} {d : Description} {j : Json} (hv : Built start now v d)
    (hj : Reads j d) : StandsFor start now v j := by
  obtain ⟨t, made, hstart, hbuild, hkeeps⟩ := hv
  refine ⟨t, made, hstart, ?_, hkeeps⟩
  rw [loadValue, hj, ← hbuild]
  rfl

theorem StandsFor.exists_built {v : Value} {j : Json} (h : StandsFor start now v j) :
    ∃ d, Built start now v d ∧ Reads j d := by
  obtain ⟨t, made, hstart, hload, hkeeps⟩ := h
  unfold loadValue at hload
  cases hread : readValue j with
  | error e =>
    rw [hread] at hload
    cases hload
  | ok d =>
    rw [hread] at hload
    exact ⟨d, ⟨t, made, hstart, Except.ok.inj hload, hkeeps⟩, hread⟩

/-- Values that stand for one document were built of one description. -/
theorem StandsFor.sameOrigin {other : Store} {v w : Value} {j : Json} (hv : StandsFor start now v j)
    (hw : StandsFor other now w j) : SameOrigin now v w := by
  obtain ⟨d, hd, hread⟩ := hv.exists_built
  obtain ⟨d', hd', hread'⟩ := hw.exists_built
  rw [Reads, hread, Except.ok.injEq] at hread'
  exact .inr ⟨start, other, d, hd, hread' ▸ hd'⟩

/-- A change of a scope that was there before does not touch what was made for a value. -/
theorem StandsFor.of_extendsBut {later : Store} {v : Value} {j : Json} {r : ScopeRef}
    (h : StandsFor start now v j) (hr : r.index < start.scopes.size)
    (hlater : now.ExtendsBut r later) : StandsFor start later v j := by
  obtain ⟨t, made, hstart, hload, hkeeps⟩ := h
  exact ⟨t, made, hstart, hload, hkeeps.of_extendsBut (hstart.scope_index_lt hr) hlater⟩

/-- What was built and what was read of the same description belong together. -/
theorem rel_standsFor {x : Option Value} {y : Option Description} {z : Option Json}
    (hx : Option.Rel (Built start now) x y) (hz : Option.Rel Reads z y) :
    Option.Rel (StandsFor start now) x z := by
  refine rel_imp (rel_join hx hz) fun v j _ h => ?_
  obtain ⟨d, hv, hj⟩ := h
  exact standsFor_of_built hv hj

/-- What is read of a value stands for what its document has there. -/
theorem StandsFor.member {v : Value} {j : Json} (h : StandsFor start now v j) (name : String) :
    ∃ found, v.member now name = .ok found ∧
      Option.Rel (StandsFor start now) found (j.member? name) := by
  obtain ⟨d, hv, hj⟩ := h.exists_built
  obtain ⟨found, hfound, hrel⟩ := hv.member name
  exact ⟨found, hfound, rel_standsFor hrel (rel_member? hj name)⟩

/-- What a loaded namespace binds stands for the entries of the document. -/
theorem rel_get?_of_loadNamespace {s s' : Store} {document : Json} {names : Namespace}
    (hload : loadNamespace s document = .ok (names, s')) (hkeeps : s.Keeps s' now)
    (name : String) : Option.Rel (StandsFor s now) (names.get? name) (document.field? name) := by
  unfold loadNamespace at hload
  cases hread : readNamespace document with
  | error e =>
    rw [hread] at hload
    cases hload
  | ok members =>
    rw [hread] at hload
    cases Except.ok.inj hload
    cases document with
    | object entries =>
      have hnames : BuiltNames s now _ members := builtNames_ofList (.refl s) rfl hkeeps
      exact rel_standsFor (Bindings.rel_get? hnames name) (rel_get?_of_readMembers hread name)
    | _ => cases hread

/-- A path that stays inside the document, or that no builtin can be meant by, leads to what it
leads to in the document. -/
theorem rel_resolve {s s' : Store} {document : Json} {names : Namespace} {c : Completer}
    (hload : loadNamespace s document = .ok (names, s')) (hkeeps : s.Keeps s' c.store)
    (hglobals : c.globals = names) {path : List String}
    (hinside : (document.navigate? path).isSome = true ∨ c.builtins = none) :
    Option.Rel (StandsFor s c.store) (c.resolve path) (document.navigate? path) := by
  cases path with
  | nil => exact .none
  | cons first rest =>
    have hfirst := rel_get?_of_loadNamespace hload hkeeps first
    have hglobal : c.global? first = names.get? first := by
      rw [Completer.global?, hglobals]
      cases hinside with
      | inl hsome =>
        obtain ⟨target, htarget⟩ := Option.isSome_iff_exists.1 hsome
        obtain ⟨j, hj, _⟩ := Option.bind_eq_some_iff.1 htarget
        obtain ⟨v, hv, _⟩ := exists_of_rel_right hfirst hj
        rw [hv, Option.some_or]
      | inr hnone => rw [hnone, Option.bind_none, Option.or_none]
    rw [Completer.resolve, Json.navigate?, hglobal]
    refine rel_bind hfirst fun v j hvj => rel_foldlM (fun v j name hvj => ?_) hvj rest
    obtain ⟨found, hfound, hrel⟩ := hvj.member name
    rw [Completer.member?, hfound]
    exact hrel

/-! ## The main result -/

/-- Loading a value and then reading a member gives what loading that part of the document gives;
and so does loading a namespace and then resolving a path. -/
theorem loading_commutes (s : Store) (document : Json) :
    (∀ {v s' now}, loadValue s document = .ok (v, s') → s.Keeps s' now → ∀ name,
      ∃ found, v.member now name = .ok found ∧
        Option.Rel (StandsFor s now) found (document.member? name)) ∧
    (∀ {names s'} {c : Completer}, loadNamespace s document = .ok (names, s') →
      s.Keeps s' c.store → c.globals = names → ∀ path,
      (document.navigate? path).isSome = true ∨ c.builtins = none →
        Option.Rel (StandsFor s c.store) (c.resolve path) (document.navigate? path)) := by
  refine ⟨fun hload hkeeps name => ?_, fun hload hkeeps hglobals path hinside => ?_⟩
  · exact StandsFor.member ⟨s, _, .refl s, hload, hkeeps⟩ name
  · exact rel_resolve hload hkeeps hglobals hinside

/-! ## A member of a base -/

/-- The body of a class with one member. -/
def shapeBody : Json :=
  .object [("name", .text "Shape"), ("members", .object [("area", .text "A")])]

/-- The body of a class that inherits that member. -/
def circleBody : Json :=
  .object [("name", .text "Circle"), ("bases", .array [.object [("$class", shapeBody)]])]

/-- An instance of it. -/
def unitCircle : Json :=
  .object [("$instance", .object [("class", .object [("$class", circleBody)])])]

theorem readClass_shapeBody : readClass shapeBody = .ok (.mk "Shape" [("area", .text "A")] []) := by
  have hmembers : readMembers [("area", .text "A")] = .ok [("area", .text "A")] :=
    readMembers_eq_ok_iff.2 (.cons ⟨rfl, reads_text "A"⟩ .nil)
  rw [shapeBody, readClass, readField_eq, readBases_eq]
  show (do
    let own ← readMembers [("area", .text "A")]
    Except.ok (ClassDescription.mk "Shape" own [])) = _
  rw [hmembers]
  rfl

theorem readClass_circleBody :
    readClass circleBody = .ok (.mk "Circle" [] [.mk "Shape" [("area", .text "A")] []]) := by
  rw [circleBody, readClass, readField_eq, readBases_eq]
  show (do
    let bases ← [Json.object [("$class", shapeBody)]].mapM readBase
    Except.ok (ClassDescription.mk "Circle" [] bases)) = _
  have hbase : readBase (.object [("$class", shapeBody)]) =
      .ok (.mk "Shape" [("area", .text "A")] []) := readClass_shapeBody
  rw [List.mapM_cons, List.mapM_nil, hbase]
  rfl

theorem readValue_instance (body : Json) :
    readValue (.object [("$instance", body)]) = readInstance body := by
  rw [readObject_eq]
  rfl

theorem reads_unitCircle : ∃ d, Reads unitCircle d := by
  refine ⟨.instanceObject (.mk "Circle" [] [.mk "Shape" [("area", .text "A")] []]) [], ?_⟩
  rw [Reads, unitCircle, readValue_instance, readInstance, readClassOf_eq, readField_eq]
  show (do
    let c ← readClass circleBody
    Except.ok (Description.instanceObject c [])) = _
  rw [readClass_circleBody]
  rfl

theorem member?_unitCircle : unitCircle.member? "area" = some (.text "A") := by
  have hshape : shapeBody.classMember? "area" = some (.text "A") := by
    rw [Json.classMember?_eq]
    rfl
  have hcircle : circleBody.classMember? "area" = some (.text "A") := by
    have hbases : circleBody.baseBodies = [shapeBody] := rfl
    rw [Json.classMember?_eq, hbases, List.findSome?_cons, hshape]
    rfl
  show ((circleBody.classMember? "area").or _) = _
  rw [hcircle]
  rfl

/-- An inherited member is found in the instance and along a path. -/
theorem inherited_member_resolves :
    ∃ v s', loadValue .empty unitCircle = .ok (v, s') ∧
      (∃ found, v.member s' "area" = .ok (some found) ∧ StandsFor .empty s' found (.text "A")) ∧
    ∃ names s'', loadNamespace .empty (.object [("unit", unitCircle)]) = .ok (names, s'') ∧
      ∃ found, Completer.resolve { store := s'', globals := names } ["unit", "area"] = some found ∧
        StandsFor .empty s'' found (.text "A") := by
  obtain ⟨d, hd⟩ := reads_unitCircle
  have hload : loadValue .empty unitCircle =
      .ok ((Description.build .empty d).1, (Description.build .empty d).2) := by
    rw [loadValue, hd]
    rfl
  have hnames : loadNamespace .empty (.object [("unit", unitCircle)]) =
      .ok ((Description.buildNamespace .empty [("unit", d)]).1,
        (Description.buildNamespace .empty [("unit", d)]).2) := by
    have hread : readMembers [("unit", unitCircle)] = .ok [("unit", d)] :=
      readMembers_eq_ok_iff.2 (.cons ⟨rfl, hd⟩ .nil)
    rw [loadNamespace, readNamespace, hread]
    rfl
  have hpath : (Json.object [("unit", unitCircle)]).navigate? ["unit", "area"] =
      some (.text "A") := by
    show ((unitCircle.member? "area").bind some) = _
    rw [member?_unitCircle]
    rfl
  refine ⟨_, _, hload, ?_, _, _, hnames, ?_⟩
  · obtain ⟨found, hfound, hrel⟩ :=
      (loading_commutes .empty unitCircle).1 hload (.of_extends (.refl _)) "area"
    rw [member?_unitCircle] at hrel
    obtain ⟨v, rfl, hv⟩ := exists_of_rel_right hrel rfl
    exact ⟨v, hfound, hv⟩
  · have hrel := (loading_commutes .empty (.object [("unit", unitCircle)])).2
      (c := { store := _, globals := _ }) hnames (.of_extends (.refl _)) rfl ["unit", "area"]
      (.inr rfl)
    rw [hpath] at hrel
    exact exists_of_rel_right hrel rfl

end Snapshot

end NameCompletion
