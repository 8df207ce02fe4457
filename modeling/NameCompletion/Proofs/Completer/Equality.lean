import NameCompletion.Proofs.Completer.Offered

/-!
# Equal names, equal answers

Completion sees values only by listing and reading members and by asking whether they can be called,
so it cannot tell values apart that are related by a bisimulation.

* `resolve_rel`: paths lead to related values.
* `complete_eq_of_rel`: completers whose global names are bound to related values give the same
  answers.
* `complete_of_equal`: in particular, equal namespaces are completed alike.
-/

namespace NameCompletion.Completer

open Fragment

/-! ## Related global names -/

/-- A global name is offered if it is a keyword or bound to a value. -/
theorem mem_globalNames_iff {c : Completer} {typed name : String} :
    name ∈ c.globalNames typed ↔ isIdentifier name = true ∧ name ∈ startingWith typed ∧
      (name ∈ c.options.keywords ∨ (c.global? name).isSome = true) := by
  rw [← resolve_singleton, isSome_resolve_singleton]
  rfl

section

variable {R : Value → Value → Prop} {c d : Completer}

theorem member?_rel (hR : IsBisimulation c.store R) (hstore : d.store = c.store) {a b : Value}
    (h : R a b) (name : String) : Option.Rel R (d.member? a name) (c.member? b name) := by
  have hread := hR.member h name
  unfold member?
  rw [hstore]
  generalize a.member c.store name = reading, b.member c.store name = other at hread
  cases hread with
  | found h => exact h
  | failed e => exact .none

/-- Paths lead to related values if global names do. -/
theorem resolve_rel (hR : IsBisimulation c.store R) (hstore : d.store = c.store)
    (hglobal : ∀ n, Option.Rel R (d.global? n) (c.global? n)) (path : List String) :
    Option.Rel R (d.resolve path) (c.resolve path) := by
  cases path with
  | nil => exact .none
  | cons first rest =>
    rw [resolve, resolve]
    refine rel_bind (hglobal first) fun a b hab => rel_foldlM (fun a b name hab => ?_) hab rest
    exact member?_rel hR hstore hab name

theorem offeredNames_global_rel (hoptions : d.options = c.options)
    (hglobal : ∀ n, Option.Rel R (d.global? n) (c.global? n)) (typed : String) :
    d.offeredNames (.global typed) = c.offeredNames (.global typed) := by
  refine offeredNames_ext fun n => ?_
  show n ∈ d.shownGlobals typed ↔ n ∈ c.shownGlobals typed
  rw [mem_shownGlobals, mem_shownGlobals, mem_globalNames_iff, mem_globalNames_iff,
    isSome_eq_of_rel (hglobal n), hoptions]

theorem globalMark_rel (hR : IsBisimulation c.store R) (hstore : d.store = c.store)
    (hoptions : d.options = c.options) (hglobal : ∀ n, Option.Rel R (d.global? n) (c.global? n))
    (name : String) : d.globalMark name = c.globalMark name := by
  have hcallable : d.CallableGlobal name ↔ c.CallableGlobal name := by
    have hvalue := resolve_rel hR hstore hglobal [name]
    unfold CallableGlobal
    rw [hstore]
    generalize d.resolve [name] = found, c.resolve [name] = found' at hvalue
    cases hvalue with
    | none => rfl
    | some h => simp [hR.isCallable h]
  unfold globalMark
  rw [hoptions]
  exact if_congr Iff.rfl rfl (if_congr Iff.rfl rfl (if_congr hcallable rfl rfl))

/-- Completers whose global names are bound to values that cannot be told apart give the same
answers. -/
theorem complete_eq_of_rel (hR : IsBisimulation c.store R) (hstore : d.store = c.store)
    (hoptions : d.options = c.options) (hglobal : ∀ n, Option.Rel R (d.global? n) (c.global? n))
    (text : String) : d.complete text = c.complete text := by
  rw [complete_eq, complete_eq]
  cases parse text with
  | global typed =>
    rw [offeredNames_global_rel hoptions hglobal]
    simp only [offeredMark, globalMark_rel hR hstore hoptions hglobal]
  | member path typed =>
    have hresolve := resolve_rel hR hstore hglobal path
    rw [offeredNames_member_rel hR hstore hoptions hresolve]
    simp only [offeredMark_member_rel hR hstore hoptions hresolve]
  | invalid => rfl

end

/-! ## The main result -/

/-- Equal namespaces bind every name to values that are the same or equal. -/
theorem global?_rel_of_equal {s : Store} {names names' : Namespace}
    {builtins builtins' : Option Namespace} (hnames : Namespace.equal s names names' = some true)
    (hbuiltins : Option.Rel (fun b b' => Namespace.equal s b b' = some true) builtins builtins')
    (options : Options) (n : String) :
    Option.Rel (Value.SameOrEqual s)
      (Completer.global? { store := s, globals := names, builtins, options } n)
      (Completer.global? { store := s, globals := names', builtins := builtins', options } n) := by
  refine rel_or (Namespace.rel_get?_of_equal hnames n) ?_
  cases hbuiltins with
  | none => exact .none
  | some h => exact Namespace.rel_get?_of_equal h n

/-- Completion from equal names and equal builtins gives equal answers, where vectors, records and
classes are equal if their contents are, and modules, instances and host objects only if they are
the same. -/
theorem complete_of_equal (s : Store) {names names' : Namespace}
    {builtins builtins' : Option Namespace} (hnames : Namespace.equal s names names' = some true)
    (hbuiltins : Option.Rel (fun b b' => Namespace.equal s b b' = some true) builtins builtins')
    (options : Options) (text : String) :
    (∀ a b, Value.equal s a b = some true ↔ Value.EqualByKind s a b) ∧
      (∀ x y, Value.classesEqual s x y = some true ↔ Value.AgreeByParts s x y) ∧
      Completer.complete { store := s, globals := names, builtins, options } text =
        Completer.complete { store := s, globals := names', builtins := builtins', options }
          text := by
  refine ⟨fun a b => Value.equal_eq_some_true_iff,
    fun x y => Value.classesEqual_eq_some_true_iff, ?_⟩
  apply complete_eq_of_rel (Value.isBisimulation_equal s)
  case hstore => rfl
  case hoptions => rfl
  case hglobal => exact global?_rel_of_equal hnames hbuiltins options

/-- Two records, each with a class of its own that inherits from a base of its own, and both with
the same vector, which holds itself. -/
def twinRecords : Store :=
  let (base, s) := Store.empty.newClass
    { name := "Shape", members := .ofList [("area", .null)], bases := [] }
  let (otherBase, s) := s.newClass
    { name := "Shape", members := .ofList [("area", .null)], bases := [] }
  let (derived, s) := s.newClass { name := "Circle", members := ∅, bases := [base] }
  let (otherDerived, s) := s.newClass { name := "Circle", members := ∅, bases := [otherBase] }
  let (items, s) := s.newVector [.vector ⟨0⟩]
  let (_, s) := s.newScope (.ofList [("items", .vector items), ("kind", .classObject derived)])
  (s.newScope (.ofList [("items", .vector items), ("kind", .classObject otherDerived)])).2

/-- The records are equal though they are not the same, and so are the classes, so the inherited
member is offered behind either of them. -/
theorem twin_records_complete_alike :
    Namespace.equal twinRecords (.ofList [("x", .record ⟨0⟩)]) (.ofList [("x", .record ⟨1⟩)]) =
        some true ∧
      Namespace.equal twinRecords (.ofList [("y", .classObject ⟨2⟩)])
        (.ofList [("y", .classObject ⟨3⟩)]) = some true ∧
      Completer.complete
        { store := twinRecords, globals := .ofList [("x", .record ⟨1⟩)],
          builtins := some (.ofList [("y", .classObject ⟨3⟩)]) } "x.kind." = ["x.kind.area"] := by
  have hnames : Namespace.equal twinRecords (.ofList [("x", .record ⟨0⟩)])
      (.ofList [("x", .record ⟨1⟩)]) = some true := by decide +kernel
  have hbuiltins : Namespace.equal twinRecords (.ofList [("y", .classObject ⟨2⟩)])
      (.ofList [("y", .classObject ⟨3⟩)]) = some true := by decide +kernel
  have hanswer : Completer.complete
      { store := twinRecords, globals := .ofList [("x", .record ⟨0⟩)],
        builtins := some (.ofList [("y", .classObject ⟨2⟩)]) } "x.kind." = ["x.kind.area"] := by
    decide +kernel
  refine ⟨hnames, hbuiltins, ?_⟩
  rw [← (complete_of_equal twinRecords hnames (.some hbuiltins) .plain "x.kind.").2.2]
  exact hanswer

end NameCompletion.Completer
