import NameCompletion.Proofs.Value.Equality
import NameCompletion.Proofs.Value.Parts

/-!
# Equality of values that share no cells

Values that were made apart from each other are equal only by what they look like.

* `SameTree`: two values have the same structure, kind by kind and part by part, whichever cells
  they are in.
* `Apart`: two values share no cell, neither themselves nor in anything they contain.
* `equal_iff_sameTree`: values apart are equal exactly if they have the same structure and contain
  no module, no instance and no object of the host.  These are equal to nothing but themselves, so a
  value that contains one is equal to no value apart from it.
-/

namespace NameCompletion.Value

/-! ## The same structure -/

/-- Two values agree in their kind, in what they hold besides other values and in the names of
their parts. -/
inductive SameRoot (s : Store) : Value → Value → Prop where
  | null : SameRoot s .null .null
  | boolean (x : Bool) : SameRoot s (.boolean x) (.boolean x)
  /-- Zero and minus zero are the same number. -/
  | number {x y : Float} (h : (x == y) = true) : SameRoot s (.number x) (.number y)
  | text (x : String) : SameRoot s (.text x) (.text x)
  | vector (x y : VectorRef) : SameRoot s (.vector x) (.vector y)
  | record {x y : ScopeRef} (h : (s.scope x).names = (s.scope y).names) :
      SameRoot s (.record x) (.record y)
  | function (f : Function) : SameRoot s (.function f) (.function f)
  | module {m n : Module} (hname : m.name = n.name)
      (h : (s.scope m.scope).names = (s.scope n.scope).names) : SameRoot s (.module m) (.module n)
  | classObject {x y : ClassRef} (hname : s.classes.name x = s.classes.name y)
      (h : (s.classes.members x).names = (s.classes.members y).names) :
      SameRoot s (.classObject x) (.classObject y)
  | instanceObject {i j : Instance} (h : (s.scope i.fields).names = (s.scope j.fields).names) :
      SameRoot s (.instanceObject i) (.instanceObject j)
  | hostObject (h : HostRef) : SameRoot s (.hostObject h) (.hostObject h)

/-- Two values have the same structure: the roots agree, and so do the parts, one by one. -/
inductive SameTree (s : Store) : Value → Value → Prop where
  | intro {v w : Value} (root : SameRoot s v w)
      (parts : List.Forall₂ (SameTree s) (v.parts s) (w.parts s)) : SameTree s v w

/-- The value stands for itself, without any cell. -/
def IsPlain : Value → Prop
  | null | boolean _ | number _ | text _ | function _ => True
  | _ => False

/-- The value is equal to nothing but itself. -/
def HasIdentity : Value → Prop
  | module _ | instanceObject _ | hostObject _ => True
  | _ => False

/-- What two values both contain is plain. -/
def Apart (s : Store) (v w : Value) : Prop :=
  ∀ x, v.Contains s x → w.Contains s x → x.IsPlain

variable {s : Store} {v w : Value}

theorem sameTree_iff :
    SameTree s v w ↔ SameRoot s v w ∧ List.Forall₂ (SameTree s) (v.parts s) (w.parts s) := by
  constructor
  · intro h
    cases h with
    | intro root parts => exact ⟨root, parts⟩
  · intro h
    exact .intro h.1 h.2

theorem SameRoot.hasIdentity_iff (h : SameRoot s v w) : v.HasIdentity ↔ w.HasIdentity := by
  cases h <;> rfl

/-- If nothing in a value has an identity, nothing in a value of the same structure has one. -/
theorem SameTree.not_hasIdentity (h : SameTree s v w)
    (hv : ∀ x, v.Contains s x → ¬ x.HasIdentity) : ∀ y, w.Contains s y → ¬ y.HasIdentity := by
  intro y hy hidentity
  obtain ⟨x, hx, hxy⟩ := exists_of_reaches (R := flip (SameTree s))
    (fun _ _ hsame => (sameTree_iff.1 hsame).2.flip) h hy
  exact hv x hx ((sameTree_iff.1 hxy).1.hasIdentity_iff.2 hidentity)

/-! ## Values apart -/

theorem Apart.of_parts (h : Apart s v w) {x y : Value} (hx : x ∈ v.parts s)
    (hy : y ∈ w.parts s) : Apart s x y :=
  fun z hxz hyz => h z (.of_part hx hxz) (.of_part hy hyz)

/-- A value that is not plain is not apart from itself. -/
theorem not_apart_self (hplain : ¬ v.IsPlain) : ¬ Apart s v v :=
  fun h => hplain (h v (.refl _ v) (.refl _ v))

/-- Bindings are equal if they bind the same names to equal values. -/
theorem namespaceEqual_iff {a b : Namespace} :
    Namespace.equal s a b = some true ↔
      a.names = b.names ∧ List.Forall₂ (fun x y => equal s x y = some true) a.values b.values := by
  rw [← Bindings.forall₂_toList_iff]
  exact bindingsEqual_eq_some_true_iff

theorem equal_classObject_iff {x y : ClassRef} (hne : x ≠ y) :
    equal s (.classObject x) (.classObject y) = some true ↔ classesEqual s x y = some true := by
  rw [equal_eq_some_true_iff]
  constructor
  · intro h
    cases h with
    | sameClass => exact absurd rfl hne
    | classObject h => exact h
  · exact .classObject

/-- Classes apart agree if they have the same name and bind the same names, and the members and the
bases are equal one by one. -/
theorem classesEqual_iff_of_apart {x y : ClassRef}
    (h : Apart s (.classObject x) (.classObject y)) :
    classesEqual s x y = some true ↔
      (s.classes.name x = s.classes.name y ∧
        (s.classes.members x).names = (s.classes.members y).names) ∧
      List.Forall₂ (fun a b => equal s a b = some true) ((classObject x).parts s)
        ((classObject y).parts s) := by
  have hbases : List.Forall₂ (fun b c => classesEqual s b c = some true) (s.classes.bases x)
        (s.classes.bases y) ↔
      List.Forall₂ (fun a b => equal s a b = some true) ((s.classes.bases x).map classObject)
        ((s.classes.bases y).map classObject) := by
    rw [List.forall₂_map_left_iff, List.forall₂_map_right_iff]
    refine forall₂_congr fun b hb c hc => (equal_classObject_iff ?_).symm
    rintro rfl
    exact not_apart_self id
      (h.of_parts (mem_parts_of_mem_bases hb) (mem_parts_of_mem_bases hc))
  rw [classesEqual_eq_some_true_iff]
  constructor
  · intro hagree
    obtain ⟨hnames, hmembers⟩ := namespaceEqual_iff.1 hagree.members
    exact ⟨⟨hagree.name, hnames⟩, List.rel_append hmembers (hbases.1 hagree.bases)⟩
  · rintro ⟨⟨hname, hnames⟩, hparts⟩
    have hlength : (s.classes.members x).values.length = (s.classes.members y).values.length := by
      rw [Bindings.length_values, Bindings.length_values, hnames]
    obtain ⟨hmembers, hrest⟩ := (forall₂_append_iff hlength).1 hparts
    exact ⟨hname, namespaceEqual_iff.2 ⟨hnames, hmembers⟩, hbases.2 hrest⟩

/-- Values apart are equal if their roots agree, they have no identity and their parts are equal one
by one. -/
theorem equal_iff_of_apart (h : Apart s v w) :
    equal s v w = some true ↔ SameRoot s v w ∧ ¬ v.HasIdentity ∧
      List.Forall₂ (fun a b => equal s a b = some true) (v.parts s) (w.parts s) := by
  rw [equal_eq_some_true_iff]
  constructor
  · intro hequal
    cases hequal with
    | null => exact ⟨.null, id, .nil⟩
    | boolean x => exact ⟨.boolean x, id, .nil⟩
    | number hxy => exact ⟨.number hxy, id, .nil⟩
    | text x => exact ⟨.text x, id, .nil⟩
    | function f => exact ⟨.function f, id, .nil⟩
    | vector hitems => exact ⟨.vector _ _, id, hitems⟩
    | record hfields =>
      obtain ⟨hnames, hvalues⟩ := namespaceEqual_iff.1 hfields
      exact ⟨.record hnames, id, hvalues⟩
    | classObject hclasses =>
      obtain ⟨⟨hname, hnames⟩, hparts⟩ := (classesEqual_iff_of_apart h).1 hclasses
      exact ⟨.classObject hname hnames, id, hparts⟩
    | sameVector | sameRecord | sameClass | module | instanceObject | hostObject =>
      exact absurd h (not_apart_self id)
  · rintro ⟨hroot, hidentity, hparts⟩
    cases hroot with
    | null => exact .null
    | boolean x => exact .boolean x
    | number hxy => exact .number hxy
    | text x => exact .text x
    | function f => exact .function f
    | vector x y => exact .vector hparts
    | record hnames => exact .record (namespaceEqual_iff.2 ⟨hnames, hparts⟩)
    | classObject hname hnames =>
      exact .classObject ((classesEqual_iff_of_apart h).2 ⟨⟨hname, hnames⟩, hparts⟩)
    | module | instanceObject | hostObject => exact absurd trivial hidentity

/-- Values apart are equal exactly if they have the same structure and nothing in them has an
identity. -/
theorem equal_iff_sameTree (hv : Founded (parts s) v) :
    ∀ {w}, Apart s v w →
      (equal s v w = some true ↔ SameTree s v w ∧ ∀ x, v.Contains s x → ¬ x.HasIdentity) := by
  induction hv with
  | intro v _ ih =>
    intro w h
    have hparts : List.Forall₂ (fun a b => equal s a b = some true) (v.parts s) (w.parts s) ↔
        (∀ a ∈ v.parts s, ∀ x, a.Contains s x → ¬ x.HasIdentity) ∧
          List.Forall₂ (SameTree s) (v.parts s) (w.parts s) := by
      rw [← List.forall₂_and_left]
      exact forall₂_congr fun a ha b hb => (ih a ha (h.of_parts ha hb)).trans and_comm
    have hinside : (∀ x, v.Contains s x → ¬ x.HasIdentity) ↔
        ¬ v.HasIdentity ∧ ∀ a ∈ v.parts s, ∀ x, a.Contains s x → ¬ x.HasIdentity :=
      forall_reaches_iff
    rw [equal_iff_of_apart h, hparts, sameTree_iff, hinside]
    tauto

end NameCompletion.Value
