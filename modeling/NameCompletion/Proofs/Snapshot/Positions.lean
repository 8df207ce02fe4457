import NameCompletion.Proofs.Completer.Frame
import NameCompletion.Proofs.Snapshot.Built
import NameCompletion.Proofs.Store.Reachable

/-!
# Every position has a cell of its own

A value that is built of a description is built part by part, and every container and every class
becomes a new cell.  So the cells in one part were made before those in the next part, and all of
them before the cell of the value itself.
-/

namespace NameCompletion

/-! ## Values built one after the other -/

/-- The value was built between the two stores, and what was made for it is in `now`. -/
def BuiltBetween (now old made : Store) (v : Value) : Prop :=
  ∃ d, Description.build old d = (v, made) ∧ old.Keeps made now

/-- The values were built one after the other. -/
inductive BuiltRow (now : Store) : Store → List Value → Store → Prop where
  | nil (old : Store) : BuiltRow now old [] old
  | cons {old mid made : Store} {v : Value} {vs : List Value} (h : BuiltBetween now old mid v)
      (hrest : BuiltRow now mid vs made) : BuiltRow now old (v :: vs) made

section

variable {now old mid made : Store} {v : Value} {vs ws : List Value} {cell : Cell}

theorem BuiltBetween.extends (h : BuiltBetween now old made v) : old.Extends made := by
  obtain ⟨d, hbuild, _⟩ := h
  have hgrown := Description.extends_build old d
  rwa [hbuild] at hgrown

theorem BuiltRow.extends (h : BuiltRow now old vs made) : old.Extends made := by
  induction h with
  | nil old => exact .refl old
  | cons h _ ih => exact h.extends.trans ih

theorem BuiltRow.append (h : BuiltRow now old vs mid) (h' : BuiltRow now mid ws made) :
    BuiltRow now old (vs ++ ws) made := by
  induction h with
  | nil => exact h'
  | cons h _ ih => exact .cons h (ih h')

/-- A value of the row was built somewhere in between. -/
theorem BuiltRow.exists_between (h : BuiltRow now old vs made) (hv : v ∈ vs) :
    ∃ before after, old.Extends before ∧ BuiltBetween now before after v ∧ after.Extends made := by
  induction h with
  | nil => cases hv
  | @cons old mid made w vs h hrest ih =>
    rcases List.mem_cons.1 hv with rfl | hv
    · exact ⟨old, mid, .refl old, h, hrest.extends⟩
    · obtain ⟨before, after, hbefore, hbetween, hafter⟩ := ih hv
      exact ⟨before, after, h.extends.trans hbefore, hbetween, hafter⟩

theorem builtRow_buildList {items : List Description} {values : List Value}
    (hbuild : Description.buildList old items = (values, made)) (hkeeps : old.Keeps made now) :
    BuiltRow now old values made := by
  induction items generalizing old values with
  | nil =>
    cases hbuild
    exact .nil _
  | cons d rest ih =>
    have hfirst := Description.extends_build old d
    have hrest := Description.extends_buildList (Description.build old d).2 rest
    cases hbuild
    exact .cons ⟨d, rfl, hkeeps.inside (.refl old) hrest⟩ (ih rfl (hkeeps.inside hfirst (.refl _)))

theorem builtRow_buildPairs {members : List (String × Description)} {pairs : List (String × Value)}
    (hbuild : Description.buildPairs old members = (pairs, made)) (hkeeps : old.Keeps made now) :
    BuiltRow now old (pairs.map Prod.snd) made := by
  induction members generalizing old pairs with
  | nil =>
    cases hbuild
    exact .nil _
  | cons e rest ih =>
    obtain ⟨name, d⟩ := e
    have hfirst := Description.extends_build old d
    have hrest := Description.extends_buildPairs (Description.build old d).2 rest
    cases hbuild
    exact .cons ⟨d, rfl, hkeeps.inside (.refl old) hrest⟩ (ih rfl (hkeeps.inside hfirst (.refl _)))

theorem builtBetween_buildClass {c : ClassDescription} {r : ClassRef}
    (hbuild : Description.buildClass old c = (r, made)) (hkeeps : old.Keeps made now) :
    BuiltBetween now old made (.classObject r) :=
  ⟨.classObject c, by rw [Description.build, hbuild], hkeeps⟩

theorem builtRow_buildClasses {classes : List ClassDescription} {refs : List ClassRef}
    (hbuild : Description.buildClasses old classes = (refs, made)) (hkeeps : old.Keeps made now) :
    BuiltRow now old (refs.map Value.classObject) made := by
  induction classes generalizing old refs with
  | nil =>
    cases hbuild
    exact .nil _
  | cons c rest ih =>
    have hfirst := Description.extends_buildClass old c
    have hrest := Description.extends_buildClasses (Description.buildClass old c).2 rest
    cases hbuild
    exact .cons (builtBetween_buildClass rfl (hkeeps.inside (.refl old) hrest))
      (ih rfl (hkeeps.inside hfirst (.refl _)))

/-! ## Parts and the steps to them -/

/-- Named values with the steps to them. -/
def named (pairs : List (String × Value)) : List (Step × Value) :=
  pairs.map fun e => (.name e.1, e.2)

/-- Values with the steps to them, which count from zero. -/
def numbered (step : Nat → Step) (values : List Value) : List (Step × Value) :=
  values.zipIdx.map fun e => (step e.2, e.1)

theorem map_snd_named (pairs : List (String × Value)) :
    (named pairs).map Prod.snd = pairs.map Prod.snd := by
  rw [named, List.map_map]
  rfl

theorem map_snd_numbered (step : Nat → Step) (values : List Value) :
    (numbered step values).map Prod.snd = values := by
  rw [numbered, List.map_map]
  exact List.zipIdx_map_fst 0 values

theorem mem_named_of_get? {pairs : List (String × Value)} {n : String}
    (h : (Bindings.ofList pairs).get? n = some v) : (Step.name n, v) ∈ named pairs :=
  List.mem_map.2 ⟨(n, v), Bindings.mem_of_mem_ofList (Bindings.mem_toList_of_get? h), rfl⟩

theorem mem_numbered_of_getElem? {step : Nat → Step} {i : Nat} (h : vs[i]? = some v) :
    (step i, v) ∈ numbered step vs :=
  List.mem_map.2 ⟨(v, i), List.mk_mem_zipIdx_iff_getElem?.2 h, rfl⟩

/-- The parts of a value were built one after the other, and then a cell was made for the value. -/
structure BuiltOf (now old made : Store) (v : Value) (children : List (Step × Value))
    (inner : Store) : Prop where
  row : BuiltRow now old (children.map Prod.snd) inner
  grown : inner.Extends made
  complete : ∀ step part, v.child? now step = some part → (step, part) ∈ children
  own : ∀ cell ∈ v.cell?, ¬ cell.In inner ∧ cell.In made

theorem builtOf_plain (hplain : v.cell? = none) (hchild : ∀ step, v.child? now step = none) :
    BuiltOf now old old v [] old where
  row := .nil old
  grown := .refl old
  complete step part h := by
    rw [hchild] at h
    cases h
  own cell h := by
    rw [hplain] at h
    cases h

/-- A fresh scope is new. -/
theorem scope_fresh_made (s : Store) (names : Namespace) :
    ¬ (Cell.scope s.scopes.fresh).In s ∧ (Cell.scope s.scopes.fresh).In (s.newScope names).2 :=
  ⟨Nat.lt_irrefl _, Cells.fresh_lt_alloc _ _⟩

/-- The parts of a record or a module were built one after the other, and then its scope. -/
theorem builtOf_scope {members : List (String × Description)}
    (hkeeps : old.Keeps ((Description.buildPairs old members).2.newScope
      (Bindings.ofList (Description.buildPairs old members).1)).2 now)
    (hcell : v.cell? = some (.scope (Description.buildPairs old members).2.scopes.fresh))
    (hchild : ∀ step part, v.child? now step = some part → ∃ n, step = .name n ∧
      (now.scope (Description.buildPairs old members).2.scopes.fresh).get? n = some part) :
    BuiltOf now old ((Description.buildPairs old members).2.newScope
      (Bindings.ofList (Description.buildPairs old members).1)).2 v
      (named (Description.buildPairs old members).1) (Description.buildPairs old members).2 where
  row := by
    rw [map_snd_named]
    exact builtRow_buildPairs rfl (hkeeps.inside (.refl old) (Store.extends_newScope _ _))
  grown := Store.extends_newScope _ _
  complete step part hpart := by
    obtain ⟨n, rfl, hfound⟩ := hchild step part hpart
    rw [hkeeps.scope_fresh (Description.extends_buildPairs old members) (.refl _)] at hfound
    exact mem_named_of_get? hfound
  own cell h := by
    cases hcell.symm.trans h
    exact scope_fresh_made _ _

/-- A value was built of parts that were built before it. -/
theorem BuiltBetween.exists_builtOf (h : BuiltBetween now old made v) :
    ∃ children inner, BuiltOf now old made v children inner := by
  obtain ⟨d, hbuild, hkeeps⟩ := h
  cases d with
  | null | boolean | number | text | function =>
    cases hbuild
    exact ⟨[], old, builtOf_plain rfl fun step => by cases step <;> rfl⟩
  | vector items =>
    have hitems := Description.extends_buildList old items
    have hvector := Store.extends_newVector (Description.buildList old items).2
    cases hbuild
    refine ⟨numbered .element (Description.buildList old items).1, _, ?_, hvector _,
      fun step part hpart => ?_, fun cell hcell => ?_⟩
    · rw [map_snd_numbered]
      exact builtRow_buildList rfl (hkeeps.inside (.refl old) (hvector _))
    · cases step with
      | element i =>
        rw [Value.child?, hkeeps.vector_fresh hitems (.refl _)] at hpart
        exact mem_numbered_of_getElem? hpart
      | name | base | classOf => cases hpart
    · cases hcell
      exact ⟨Nat.lt_irrefl _, Cells.fresh_lt_alloc _ _⟩
  | record fields =>
    cases hbuild
    refine ⟨_, _, builtOf_scope hkeeps rfl fun step part hpart => ?_⟩
    cases step with
    | name n => exact ⟨n, rfl, hpart⟩
    | element | base | classOf => cases hpart
  | module name members =>
    cases hbuild
    refine ⟨_, _, builtOf_scope hkeeps rfl fun step part hpart => ?_⟩
    cases step with
    | name n => exact ⟨n, rfl, hpart⟩
    | element | base | classOf => cases hpart
  | classObject c =>
    obtain ⟨name, members, bases⟩ := c
    have hmembers := Description.extends_buildPairs old members
    have hbases := Description.extends_buildClasses (Description.buildPairs old members).2 bases
    have hclass := Store.extends_newClass
      (Description.buildClasses (Description.buildPairs old members).2 bases).2
    cases hbuild
    have hread :=
      hkeeps.class_fresh (hmembers.trans hbases) Description.buildClasses_index_lt (.refl _)
    refine ⟨named (Description.buildPairs old members).1 ++ numbered .base
      ((Description.buildClasses (Description.buildPairs old members).2 bases).1.map
        Value.classObject), _, ?_, hclass _, fun step part hpart => ?_, fun cell hcell => ?_⟩
    · rw [List.map_append, map_snd_named, map_snd_numbered]
      refine (builtRow_buildPairs rfl ?_).append (builtRow_buildClasses rfl ?_)
      · exact hkeeps.inside (.refl old) (hbases.trans (hclass _))
      · exact hkeeps.inside hmembers (hclass _)
    · cases step with
      | name n =>
        rw [Value.child?, ClassTable.members_of_read? hread] at hpart
        exact List.mem_append_left _ (mem_named_of_get? hpart)
      | base i =>
        rw [Value.child?, ClassTable.bases_of_read? hread, ← List.getElem?_map] at hpart
        exact List.mem_append_right _ (mem_numbered_of_getElem? hpart)
      | element | classOf => cases hpart
    · cases hcell
      exact ⟨Nat.lt_irrefl _, Cells.fresh_lt_alloc _ _⟩
  | instanceObject c fields =>
    have hclass := Description.extends_buildClass old c
    have hfields := Description.extends_buildPairs (Description.buildClass old c).2 fields
    have hscope := Store.extends_newScope
      (Description.buildPairs (Description.buildClass old c).2 fields).2
    cases hbuild
    refine ⟨(.classOf, .classObject (Description.buildClass old c).1) ::
      named (Description.buildPairs (Description.buildClass old c).2 fields).1, _, ?_, hscope _,
      fun step part hpart => ?_, fun cell hcell => ?_⟩
    · rw [List.map_cons, map_snd_named]
      refine .cons (builtBetween_buildClass rfl ?_) (builtRow_buildPairs rfl ?_)
      · exact hkeeps.inside (.refl old) (hfields.trans (hscope _))
      · exact hkeeps.inside hclass (hscope _)
    · cases step with
      | name n =>
        rw [Value.child?, hkeeps.scope_fresh (hclass.trans hfields) (.refl _)] at hpart
        exact List.mem_cons_of_mem _ (mem_named_of_get? hpart)
      | classOf =>
        cases hpart
        exact List.mem_cons_self
      | element | base => cases hpart
    · cases hcell
      exact scope_fresh_made _ _

/-! ## Which cells are where -/

/-- At some position in the value there is the cell. -/
def HoldsCell (now : Store) (v : Value) (cell : Cell) : Prop :=
  ∃ steps x, v.at? now steps = some x ∧ x.cell? = some cell

/-- All cells in a value that was built are new. -/
theorem BuiltBetween.made_of_at? {steps : List Step} {x : Value}
    (h : BuiltBetween now old made v) (hx : v.at? now steps = some x)
    (hcell : x.cell? = some cell) : ¬ cell.In old ∧ cell.In made := by
  induction steps generalizing v old made with
  | nil =>
    obtain ⟨children, inner, hbuilt⟩ := h.exists_builtOf
    cases hx
    obtain ⟨hinner, hmade⟩ := hbuilt.own cell hcell
    exact ⟨fun hold => hinner (hold.of_extends hbuilt.row.extends), hmade⟩
  | cons step rest ih =>
    obtain ⟨children, inner, hbuilt⟩ := h.exists_builtOf
    obtain ⟨part, hpart, hx⟩ := Option.bind_eq_some_iff.1 hx
    have hmem : part ∈ children.map Prod.snd :=
      List.mem_map_of_mem (f := Prod.snd) (hbuilt.complete step part hpart)
    obtain ⟨before, after, hbefore, hbetween, hafter⟩ := hbuilt.row.exists_between hmem
    obtain ⟨hnot, hin⟩ := ih hbetween hx
    exact ⟨fun hold => hnot (hold.of_extends hbefore),
      (hin.of_extends hafter).of_extends hbuilt.grown⟩

theorem BuiltBetween.made_of_holdsCell (h : BuiltBetween now old made v)
    (hcell : HoldsCell now v cell) : ¬ cell.In old ∧ cell.In made := by
  obtain ⟨steps, x, hx, hcell⟩ := hcell
  exact h.made_of_at? hx hcell

theorem BuiltRow.made_of_holdsCell (h : BuiltRow now old vs made) (hv : v ∈ vs)
    (hcell : HoldsCell now v cell) : ¬ cell.In old ∧ cell.In made := by
  obtain ⟨before, after, hbefore, hbetween, hafter⟩ := h.exists_between hv
  obtain ⟨hnot, hin⟩ := hbetween.made_of_holdsCell hcell
  exact ⟨fun hold => hnot (hold.of_extends hbefore), hin.of_extends hafter⟩

/-- Values of a row that hold the same cell are the same part. -/
theorem BuiltRow.eq_of_holdsCell {children : List (Step × Value)} {e e' : Step × Value}
    (h : BuiltRow now old (children.map Prod.snd) made) (he : e ∈ children) (he' : e' ∈ children)
    (hcell : HoldsCell now e.2 cell) (hcell' : HoldsCell now e'.2 cell) : e = e' := by
  induction children generalizing old with
  | nil => cases he
  | cons first rest ih =>
    cases h with
    | @cons _ mid _ _ _ hfirst hrest =>
      -- The cells of the first value are there before those of the others are made.
      have hlater : ∀ other ∈ rest, HoldsCell now other.2 cell → ¬ HoldsCell now first.2 cell := by
        intro other hother hheld hheld'
        have hmem : other.2 ∈ rest.map Prod.snd := List.mem_map_of_mem hother
        exact (hrest.made_of_holdsCell hmem hheld).1 (hfirst.made_of_holdsCell hheld').2
      rcases List.mem_cons.1 he with rfl | hlate
      · rcases List.mem_cons.1 he' with rfl | hlate'
        · rfl
        · exact absurd hcell (hlater e' hlate' hcell')
      · rcases List.mem_cons.1 he' with rfl | hlate'
        · exact absurd hcell' (hlater e hlate hcell)
        · exact ih hrest hlate hlate'

/-- The cell of a value is not in its parts. -/
theorem BuiltOf.not_holdsCell {children : List (Step × Value)} {inner : Store} {e : Step × Value}
    (h : BuiltOf now old made v children inner) (he : e ∈ children) (hcell : v.cell? = some cell) :
    ¬ HoldsCell now e.2 cell := fun hheld =>
  (h.own cell hcell).1 (h.row.made_of_holdsCell (List.mem_map_of_mem he) hheld).2

/-- Different positions have different cells. -/
theorem BuiltBetween.position_unique (h : BuiltBetween now old made v) {p q : List Step}
    {x y : Value} (hx : v.at? now p = some x) (hy : v.at? now q = some y)
    (hcellx : x.cell? = some cell) (hcelly : y.cell? = some cell) : p = q := by
  induction p generalizing v old made q with
  | nil =>
    cases q with
    | nil => rfl
    | cons step rest =>
      obtain ⟨children, inner, hbuilt⟩ := h.exists_builtOf
      obtain ⟨part, hpart, hrest⟩ := Option.bind_eq_some_iff.1 hy
      cases hx
      have hmem := hbuilt.complete step part hpart
      exact absurd ⟨rest, y, hrest, hcelly⟩ (hbuilt.not_holdsCell hmem hcellx)
  | cons step rest ih =>
    obtain ⟨children, inner, hbuilt⟩ := h.exists_builtOf
    obtain ⟨part, hpart, hrest⟩ := Option.bind_eq_some_iff.1 hx
    have hmem := hbuilt.complete step part hpart
    cases q with
    | nil =>
      cases hy
      exact absurd ⟨rest, x, hrest, hcellx⟩ (hbuilt.not_holdsCell hmem hcelly)
    | cons step' rest' =>
      obtain ⟨part', hpart', hrest'⟩ := Option.bind_eq_some_iff.1 hy
      have hsame : (step, part) = (step', part') :=
        hbuilt.row.eq_of_holdsCell hmem (hbuilt.complete step' part' hpart')
          ⟨rest, x, hrest, hcellx⟩ ⟨rest', y, hrest', hcelly⟩
      cases hsame
      obtain ⟨before, after, _, hbetween, _⟩ :=
        hbuilt.row.exists_between (List.mem_map_of_mem (f := Prod.snd) hmem)
      rw [ih hbetween hrest hrest']

end

end NameCompletion
