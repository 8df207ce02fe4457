import NameCompletion.Proofs.Store.Keeping
import NameCompletion.Proofs.Value.Bisimulation

/-!
# Values that were built

A description answers the questions that can be asked of a value: which members it lists, what it
has under a name, and whether it can be called (`Description.memberNames`, `Description.member?`,
`Description.isCallable`).  A value that was built of a description gives the same answers, and what
it has under a name was built of what the description has there, as long as the cells that were made
for it stay as they are (`Built`).

* `Built.memberNames`, `Built.member`, `Built.isCallable`: one question each.  For classes that is
  an induction along the bases of the description.
* `isBisimulation_built`: two values that were built of one description cannot be told apart.
-/

namespace NameCompletion

/-! ## What a description shows -/

/-- The name of a described class. -/
def ClassDescription.name : ClassDescription → String
  | .mk name _ _ => name

namespace ClassDescription

mutual

/-- The own member of that name, else the first one in the bases, depth first. -/
def lookup? (name : String) : ClassDescription → Option Description
  | .mk _ members bases => ((Bindings.ofList members).get? name).or (lookupFirst? name bases)

/-- The first member of that name in the classes, from the left. -/
def lookupFirst? (name : String) : List ClassDescription → Option Description
  | [] => none
  | c :: rest => (lookup? name c).or (lookupFirst? name rest)

end

mutual

/-- The names of the own members and then of those of every base, depth first. -/
def ancestryNames : ClassDescription → List String
  | .mk _ members bases => (Bindings.ofList members).names ++ allAncestryNames bases

/-- The names of the members of the classes, from the left. -/
def allAncestryNames : List ClassDescription → List String
  | [] => []
  | c :: rest => ancestryNames c ++ allAncestryNames rest

end

theorem lookupFirst?_eq (name : String) (classes : List ClassDescription) :
    lookupFirst? name classes = classes.findSome? (lookup? name) := by
  induction classes with
  | nil => rfl
  | cons c rest ih =>
    rw [lookupFirst?, ih, List.findSome?_cons]
    cases lookup? name c <;> rfl

end ClassDescription

/-- The function that a value is. -/
def Value.function? : Value → Option Function
  | .function f => some f
  | _ => none

namespace Description

/-- The method of that name in a table of methods. -/
def method? (methods : Namespace) (name : String) : Option Description :=
  ((methods.get? name).bind Value.function?).map .function

/-- The names of the members that a value lists which looks as described. -/
def memberNames : Description → List String
  | null => []
  | boolean _ => []
  | number _ => Methods.number.names
  | text _ => Methods.text.names
  | vector _ => Methods.vector.names
  | record fields => (Bindings.ofList fields).names
  | function _ => ["__name__"]
  | module _ members => (Bindings.ofList members).names ++ ["__name__"]
  | classObject c => c.ancestryNames ++ ["__name__"]
  | instanceObject c fields => (Bindings.ofList fields).names ++ c.ancestryNames ++ ["__class__"]

/-- What a value has under a name which looks as described. -/
def member? (name : String) : Description → Option Description
  | null => none
  | boolean _ => none
  | number _ => method? Methods.number name
  | text _ => method? Methods.text name
  | vector _ => method? Methods.vector name
  | record fields => (Bindings.ofList fields).get? name
  | function f => if name = "__name__" then some (text f.name) else none
  | module own members =>
    ((Bindings.ofList members).get? name).or (if name = "__name__" then some (text own) else none)
  | classObject c => (c.lookup? name).or (if name = "__name__" then some (text c.name) else none)
  | instanceObject c fields =>
    (((Bindings.ofList fields).get? name).or (c.lookup? name)).or
      (if name = "__class__" then some (classObject c) else none)

/-- Whether it makes sense to call a value that looks as described. -/
def isCallable : Description → Bool
  | function _ => true
  | classObject _ => true
  | _ => false

end Description

/-! ## What was built of a description -/

/-- The value was built of the description, in a store that extends `start`, and in the store `now`
the cells are there that were made for it. -/
def Built (start now : Store) (v : Value) (d : Description) : Prop :=
  ∃ t made, start.Extends t ∧ Description.build t d = (v, made) ∧ t.Keeps made now

/-- The class was built of the description, in the same sense. -/
def BuiltClass (start now : Store) (r : ClassRef) (c : ClassDescription) : Prop :=
  ∃ t made, start.Extends t ∧ Description.buildClass t c = (r, made) ∧ t.Keeps made now

/-- The bindings were built of the named descriptions, in the same sense. -/
def BuiltNames (start now : Store) (names : Namespace) (members : List (String × Description)) :
    Prop :=
  List.Forall₂ (fun e e' => e.1 = e'.1 ∧ Built start now e.2 e'.2) names.toList
    (Bindings.ofList members).toList

variable {start now t made : Store} {v : Value} {d : Description} {r : ClassRef}

/-- Named values are related by name to the descriptions of which they were built. -/
theorem forall₂_buildPairs {members : List (String × Description)} {pairs : List (String × Value)}
    (hstart : start.Extends t) (hbuild : Description.buildPairs t members = (pairs, made))
    (hkeeps : t.Keeps made now) :
    List.Forall₂ (fun e e' => e.1 = e'.1 ∧ Built start now e.2 e'.2) pairs members := by
  induction members generalizing t pairs with
  | nil =>
    cases hbuild
    exact .nil
  | cons e rest ih =>
    obtain ⟨name, d⟩ := e
    have hfirst := Description.extends_build t d
    have hrest := Description.extends_buildPairs (Description.build t d).2 rest
    cases hbuild
    refine .cons ⟨rfl, t, _, hstart, rfl, ?_⟩ (ih (hstart.trans hfirst) rfl ?_)
    · exact hkeeps.inside (.refl t) hrest
    · exact hkeeps.inside hfirst (.refl _)

/-- Bindings are related to the descriptions of which their values were built. -/
theorem builtNames_ofList {members : List (String × Description)} {pairs : List (String × Value)}
    (hstart : start.Extends t) (hbuild : Description.buildPairs t members = (pairs, made))
    (hkeeps : t.Keeps made now) : BuiltNames start now (Bindings.ofList pairs) members :=
  Bindings.forall₂_ofList (forall₂_buildPairs hstart hbuild hkeeps)

theorem forall₂_buildClasses {classes : List ClassDescription} {refs : List ClassRef}
    (hstart : start.Extends t) (hbuild : Description.buildClasses t classes = (refs, made))
    (hkeeps : t.Keeps made now) : List.Forall₂ (BuiltClass start now) refs classes := by
  induction classes generalizing t refs with
  | nil =>
    cases hbuild
    exact .nil
  | cons c rest ih =>
    have hfirst := Description.extends_buildClass t c
    have hrest := Description.extends_buildClasses (Description.buildClass t c).2 rest
    cases hbuild
    refine .cons ⟨t, _, hstart, rfl, ?_⟩ (ih (hstart.trans hfirst) rfl ?_)
    · exact hkeeps.inside (.refl t) hrest
    · exact hkeeps.inside hfirst (.refl _)

/-! ## What is in the cells that were made -/

theorem Description.buildClass_index_lt (t : Store) (c : ClassDescription) :
    (buildClass t c).1.index < (buildClass t c).2.classes.cells.size := by
  cases c
  exact Cells.fresh_lt_alloc _ _

/-- All classes that were built are there. -/
theorem Description.buildClasses_index_lt {classes : List ClassDescription} :
    ∀ r ∈ (buildClasses t classes).1, r.index < (buildClasses t classes).2.classes.cells.size := by
  induction classes generalizing t with
  | nil => exact fun r hr => absurd hr List.not_mem_nil
  | cons c rest ih =>
    intro r hr
    rcases List.mem_cons.1 hr with rfl | hr
    · exact (extends_buildClasses _ rest).classes.index_lt (buildClass_index_lt t c)
    · exact ih r hr

/-- What is known of a class that was built. -/
structure ClassShows (start now : Store) (r : ClassRef) (name : String)
    (members : List (String × Description)) (bases : List ClassDescription) : Prop where
  name : now.classes.name r = name
  members : BuiltNames start now (now.classes.members r) members
  bases : List.Forall₂ (BuiltClass start now) (now.classes.bases r) bases

theorem BuiltClass.shows {name : String} {members : List (String × Description)}
    {bases : List ClassDescription} (h : BuiltClass start now r (.mk name members bases)) :
    ClassShows start now r name members bases := by
  obtain ⟨t, made, hstart, hbuild, hkeeps⟩ := h
  have hmembers := Description.extends_buildPairs t members
  have hbases := Description.extends_buildClasses (Description.buildPairs t members).2 bases
  have hclass := Store.extends_newClass
    (Description.buildClasses (Description.buildPairs t members).2 bases).2
  cases hbuild
  have hread :=
    hkeeps.class_fresh (hmembers.trans hbases) Description.buildClasses_index_lt (.refl _)
  refine ⟨ClassTable.name_of_read? hread, ?_, ?_⟩
  · rw [ClassTable.members_of_read? hread]
    exact builtNames_ofList hstart rfl (hkeeps.inside (.refl t) (hbases.trans (hclass _)))
  · rw [ClassTable.bases_of_read? hread]
    exact forall₂_buildClasses (hstart.trans hmembers) rfl (hkeeps.inside hmembers (hclass _))

/-- The scope that was made last holds what was built for it. -/
theorem builtNames_scope {members : List (String × Description)} (hstart : start.Extends t)
    (hkeeps : t.Keeps ((Description.buildPairs t members).2.newScope
      (Bindings.ofList (Description.buildPairs t members).1)).2 now) :
    BuiltNames start now (now.scope (Description.buildPairs t members).2.scopes.fresh) members := by
  have hmembers := Description.extends_buildPairs t members
  have hscope := Store.extends_newScope (Description.buildPairs t members).2
  rw [hkeeps.scope_fresh hmembers (.refl _)]
  exact builtNames_ofList hstart rfl (hkeeps.inside (.refl t) (hscope _))

/-- A value that looks as described: the same constructor, with parts that were built of the parts
of the description. -/
inductive Shows (start now : Store) : Value → Description → Prop where
  | null : Shows start now .null .null
  | boolean (value : Bool) : Shows start now (.boolean value) (.boolean value)
  | number (value : Float) : Shows start now (.number value) (.number value)
  | text (value : String) : Shows start now (.text value) (.text value)
  | function (f : Function) : Shows start now (.function f) (.function f)
  | vector (r : VectorRef) (items : List Description) : Shows start now (.vector r) (.vector items)
  | record {r : ScopeRef} {fields : List (String × Description)}
    (h : BuiltNames start now (now.scope r) fields) : Shows start now (.record r) (.record fields)
  | module {m : Module} {members : List (String × Description)}
    (h : BuiltNames start now (now.scope m.scope) members) :
    Shows start now (.module m) (.module m.name members)
  | classObject {r : ClassRef} {c : ClassDescription} (h : BuiltClass start now r c) :
    Shows start now (.classObject r) (.classObject c)
  | instanceObject {i : Instance} {c : ClassDescription} {fields : List (String × Description)}
    (hclass : BuiltClass start now i.classRef c)
    (hfields : BuiltNames start now (now.scope i.fields) fields) :
    Shows start now (.instanceObject i) (.instanceObject c fields)

theorem Built.shows (h : Built start now v d) : Shows start now v d := by
  obtain ⟨t, made, hstart, hbuild, hkeeps⟩ := h
  cases d with
  | null => cases hbuild; exact .null
  | boolean value => cases hbuild; exact .boolean value
  | number value => cases hbuild; exact .number value
  | text value => cases hbuild; exact .text value
  | function f => cases hbuild; exact .function f
  | vector items => cases hbuild; exact .vector _ items
  | record fields =>
    cases hbuild
    exact .record (builtNames_scope hstart hkeeps)
  | module name members =>
    cases hbuild
    exact .module (builtNames_scope hstart hkeeps)
  | classObject c =>
    cases hbuild
    exact .classObject ⟨t, _, hstart, rfl, hkeeps⟩
  | instanceObject c fields =>
    have hclass := Description.extends_buildClass t c
    have hfields := Description.extends_buildPairs (Description.buildClass t c).2 fields
    have hscope := Store.extends_newScope
      (Description.buildPairs (Description.buildClass t c).2 fields).2
    cases hbuild
    refine .instanceObject ⟨t, _, hstart, rfl, ?_⟩ ?_
    · exact hkeeps.inside (.refl t) (hfields.trans (hscope _))
    · exact builtNames_scope (hstart.trans hclass) (hkeeps.inside hclass (.refl _))

/-! ## Values and descriptions that answer for others -/

/-- A value that needs no cell was built whenever it is. -/
theorem built_plain (start now : Store) (hbuild : Description.build start d = (v, start)) :
    Built start now v d :=
  ⟨start, start, .refl start, hbuild, Store.keeps_self start now⟩

theorem BuiltClass.classObject {c : ClassDescription} (h : BuiltClass start now r c) :
    Built start now (.classObject r) (.classObject c) := by
  obtain ⟨t, made, hstart, hbuild, hkeeps⟩ := h
  exact ⟨t, made, hstart, by rw [Description.build, hbuild], hkeeps⟩

/-- A special member is asked for by its name. -/
theorem rel_special {special : Value} {described : Description} (name asked : String)
    (h : Built start now special described) :
    Option.Rel (Built start now) (Value.special name asked special)
      (if asked = name then some described else none) :=
  rel_ite (.some h)

/-- A table of methods holds functions only. -/
theorem Methods.exists_function_of_get? {table : List (String × Int8)} {name : String}
    (h : (Methods.ofTable table).get? name = some v) : ∃ f, v = .function f := by
  have hmem := Bindings.mem_of_mem_ofList (Bindings.mem_toList_of_get? h)
  obtain ⟨entry, _, heq⟩ := List.mem_map.1 hmem
  exact ⟨_, (Prod.mk.inj heq).2.symm⟩

theorem rel_method (start now : Store) (table : List (String × Int8)) (name : String) :
    Option.Rel (Built start now) ((Methods.ofTable table).get? name)
      (Description.method? (Methods.ofTable table) name) := by
  rw [Description.method?]
  cases hfound : (Methods.ofTable table).get? name with
  | none => exact .none
  | some v =>
    obtain ⟨f, rfl⟩ := Methods.exists_function_of_get? hfound
    exact .some (built_plain start now rfl)

/-! ## The same answers -/

mutual

/-- A class that was built has the members of its description. -/
theorem BuiltClass.rel_lookup (name : String) : ∀ (c : ClassDescription) {r : ClassRef},
    BuiltClass start now r c →
      Option.Rel (Built start now) (now.classes.lookup r name) (c.lookup? name)
  | .mk _ _ bases, _, h => by
    rw [ClassTable.lookup_eq, ClassDescription.lookup?, ClassDescription.lookupFirst?_eq]
    exact rel_or (Bindings.rel_get? h.shows.members name)
      (rel_findSome? (forall₂_rel_lookup name bases h.shows.bases))

theorem forall₂_rel_lookup (name : String) : ∀ (classes : List ClassDescription)
    {refs : List ClassRef}, List.Forall₂ (BuiltClass start now) refs classes →
      List.Forall₂ (fun r c => Option.Rel (Built start now) (now.classes.lookup r name)
        (c.lookup? name)) refs classes
  | [], _, .nil => .nil
  | c :: rest, _, .cons h hrest =>
    .cons (BuiltClass.rel_lookup name c h) (forall₂_rel_lookup name rest hrest)

end

mutual

/-- A class that was built lists the names that its description lists. -/
theorem BuiltClass.ancestryNames : ∀ (c : ClassDescription) {r : ClassRef},
    BuiltClass start now r c → now.classes.ancestryNames r = c.ancestryNames
  | .mk _ _ bases, _, h => by
    rw [ClassTable.ancestryNames_eq, ClassDescription.ancestryNames,
      Bindings.names_eq_of_forall₂ h.shows.members, flatMap_ancestryNames bases h.shows.bases]

theorem flatMap_ancestryNames : ∀ (classes : List ClassDescription) {refs : List ClassRef},
    List.Forall₂ (BuiltClass start now) refs classes →
      refs.flatMap now.classes.ancestryNames = ClassDescription.allAncestryNames classes
  | [], _, .nil => rfl
  | c :: rest, _, .cons h hrest => by
    rw [List.flatMap_cons, ClassDescription.allAncestryNames, BuiltClass.ancestryNames c h,
      flatMap_ancestryNames rest hrest]

end

/-- What was built lists the names that its description lists. -/
theorem Built.memberNames (h : Built start now v d) : v.memberNames now = .ok d.memberNames := by
  cases h.shows with
  | null | boolean | number | text | function | vector => rfl
  | record hfields =>
    rw [Value.memberNames, Bindings.names_eq_of_forall₂ hfields, Description.memberNames]
  | module hmembers =>
    rw [Value.memberNames, Bindings.names_eq_of_forall₂ hmembers, Description.memberNames]
  | classObject hclass =>
    rw [Value.memberNames, BuiltClass.ancestryNames _ hclass, Description.memberNames]
  | instanceObject hclass hfields =>
    rw [Value.memberNames, BuiltClass.ancestryNames _ hclass, Bindings.names_eq_of_forall₂ hfields,
      Description.memberNames]

/-- What is read of a value that was built was built of what the description has there. -/
theorem Built.member (h : Built start now v d) (name : String) :
    ∃ found, v.member now name = .ok found ∧
      Option.Rel (Built start now) found (d.member? name) := by
  cases h.shows with
  | null | boolean => exact ⟨none, rfl, .none⟩
  | number | text | vector => exact ⟨_, rfl, rel_method start now _ name⟩
  | function f => exact ⟨_, rfl, rel_special _ _ (built_plain start now rfl)⟩
  | record hfields => exact ⟨_, rfl, Bindings.rel_get? hfields name⟩
  | module hmembers =>
    exact ⟨_, rfl, rel_or (Bindings.rel_get? hmembers name)
      (rel_special _ _ (built_plain start now rfl))⟩
  | @classObject r c hclass =>
    have hname : now.classes.name r = c.name := by
      cases c
      exact hclass.shows.name
    refine ⟨_, rfl, rel_or (BuiltClass.rel_lookup name c hclass) (rel_special _ _ ?_)⟩
    rw [hname]
    exact built_plain start now rfl
  | @instanceObject i c _ hclass hfields =>
    exact ⟨_, rfl, rel_or (rel_or (Bindings.rel_get? hfields name)
      (BuiltClass.rel_lookup name c hclass)) (rel_special _ _ hclass.classObject)⟩

theorem Built.isCallable (h : Built start now v d) : v.isCallable now = d.isCallable := by
  cases h.shows <;> rfl

/-! ## Values that were built of one description -/

/-- The values are the same or were built of one description, each in a store of its own. -/
def SameOrigin (now : Store) (a b : Value) : Prop :=
  a = b ∨ ∃ start other d, Built start now a d ∧ Built other now b d

/-- Values that were built of one description cannot be told apart. -/
theorem isBisimulation_built (now : Store) : IsBisimulation now (SameOrigin now) where
  memberNames {a b} h := by
    rcases h with rfl | ⟨_, _, d, ha, hb⟩
    · rfl
    · rw [ha.memberNames, hb.memberNames]
  member {a b} h name := by
    rcases h with rfl | ⟨start, other, d, ha, hb⟩
    · exact readAlike_refl (fun _ => .inl rfl) _
    obtain ⟨x, hx, hxd⟩ := ha.member name
    obtain ⟨y, hy, hyd⟩ := hb.member name
    rw [hx, hy]
    refine .found (rel_imp (rel_join hxd hyd) fun _ _ _ hsame => .inr ?_)
    exact ⟨start, other, hsame⟩
  isCallable {a b} h := by
    rcases h with rfl | ⟨_, _, d, ha, hb⟩
    · rfl
    · rw [ha.isCallable, hb.isCallable]

end NameCompletion
