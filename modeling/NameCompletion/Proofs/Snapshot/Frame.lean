import NameCompletion.Proofs.Snapshot.Positions
import NameCompletion.Proofs.Snapshot.Reading

/-!
# Changing a loaded snapshot

A snapshot is loaded as a tree of new cells: each container and each class in it has one position,
and nothing that was there before has a part in it.  So a change of one container shows at its own
position and inside it, and nowhere else.

* `BuiltRow.namespace_position_unique`: no two positions have the same cell.
* `unaffected_of_agreeBut`: what is read elsewhere stays the same.
* `treeOfFreshCells_of_loadNamespace` puts this together, and adds the completions.
-/

namespace NameCompletion

/-- What is found at the position, and what is read of it, is the same in both stores. -/
structure Unaffected (s now : Store) (names : Namespace) (q : List Step) : Prop where
  found : names.at? now q = names.at? s q
  reads : ∀ v, names.at? s q = some v → v.ReadsAlike s now

/-- At the position there is a value in the cell. -/
def CellAt (s : Store) (names : Namespace) (p : List Step) (cell : Cell) : Prop :=
  ∃ v, names.at? s p = some v ∧ v.cell? = some cell

/-- The bindings, which were made between the stores `old` and `s`, are a tree of new cells. -/
structure TreeOfFreshCells (old s : Store) (names : Namespace) : Prop where
  distinct : ∀ p q cell, CellAt s names p cell → CellAt s names q cell → p = q
  fresh : ∀ p cell, CellAt s names p cell → ¬ cell.In old
  /-- What was there before holds none of the cells, at any depth. -/
  apart : ∀ p cell, CellAt s names p cell →
    ∀ v : Value, (∀ x, v.Contains old x → x.Exists old) →
      ∀ x, v.Contains s x → x.cell? ≠ some cell
  /-- Changes of a container do not show, except at its position and inside it.  A value around it
  still reads the same, but not what is inside that value. -/
  frame : ∀ p cell, CellAt s names p cell → ∀ writes : List Write, (∀ w ∈ writes, w.cell = cell) →
    ∀ q, ¬ p <+: q → Unaffected s (writes.foldl Write.apply s) names q
  /-- Nor do they show inside of what is neither the container nor around it. -/
  frameInside : ∀ p cell, CellAt s names p cell → ∀ writes : List Write,
    (∀ w ∈ writes, w.cell = cell) → ∀ q, ¬ p <+: q → ¬ q <+: p →
      ∀ rest, Unaffected s (writes.foldl Write.apply s) names (q ++ rest)
  /-- Nor do they show in completions, except behind a path that leads to the container or through
  it. -/
  completions : ∀ p cell, CellAt s names p cell → ∀ writes : List Write,
    (∀ w ∈ writes, w.cell = cell) → ∀ c : Completer, c.store = s →
      ∀ text, (∀ path typed, Fragment.parse text = .member path typed → c.Avoids cell path) →
        (c.withStore (writes.foldl Write.apply s)).complete text = c.complete text

section

variable {old s : Store} {names : Namespace} {pairs : List (String × Value)} {p q : List Step}
  {cell : Cell}

/-- A position in bindings is a position in one of the bound values. -/
theorem CellAt.exists_holdsCell (h : CellAt s (Bindings.ofList pairs) p cell) :
    ∃ n rest v x, p = .name n :: rest ∧ (Bindings.ofList pairs).get? n = some v ∧
      v.at? s rest = some x ∧ x.cell? = some cell := by
  obtain ⟨x, hx, hcell⟩ := h
  unfold Namespace.at? at hx
  split at hx
  · next n rest =>
    obtain ⟨v, hv, hx⟩ := Option.bind_eq_some_iff.1 hx
    exact ⟨n, rest, v, x, rfl, hv, hx, hcell⟩
  · cases hx

theorem BuiltRow.namespace_position_unique (h : BuiltRow s old (pairs.map Prod.snd) s)
    (hp : CellAt s (Bindings.ofList pairs) p cell) (hq : CellAt s (Bindings.ofList pairs) q cell) :
    p = q := by
  obtain ⟨n, rest, v, x, rfl, hv, hx, hcell⟩ := hp.exists_holdsCell
  obtain ⟨n', rest', v', x', rfl, hv', hx', hcell'⟩ := hq.exists_holdsCell
  rw [← map_snd_named] at h
  have hsame := h.eq_of_holdsCell (mem_named_of_get? hv) (mem_named_of_get? hv')
    ⟨rest, x, hx, hcell⟩ ⟨rest', x', hx', hcell'⟩
  cases hsame
  obtain ⟨before, after, _, hbetween, _⟩ :=
    h.exists_between (List.mem_map_of_mem (f := Prod.snd) (mem_named_of_get? hv))
  rw [hbetween.position_unique hx hx' hcell hcell']

theorem BuiltRow.namespace_fresh (h : BuiltRow s old (pairs.map Prod.snd) s)
    (hp : CellAt s (Bindings.ofList pairs) p cell) : ¬ cell.In old := by
  obtain ⟨n, rest, v, x, rfl, hv, hx, hcell⟩ := hp.exists_holdsCell
  rw [← map_snd_named] at h
  exact (h.made_of_holdsCell (List.mem_map_of_mem (f := Prod.snd) (mem_named_of_get? hv))
    ⟨rest, x, hx, hcell⟩).1

/-- Whatever existed in a store that a program can come to holds none of the cells. -/
theorem TreeOfFreshCells.apart_of_reachable (h : TreeOfFreshCells old s names)
    (hold : old.Reachable) (hp : CellAt s names p cell) {v x : Value} (hv : v.Exists old)
    (hx : v.Contains s x) : x.cell? ≠ some cell :=
  h.apart p cell hp v (fun _ hy => Value.exists_of_contains hold.closed hv hy) x hx

/-! ## What a change leaves alone -/

/-- What is not at the position of the changed cell, and not inside, stays the same. -/
theorem unaffected_of_agreeBut (hunique : ∀ q, CellAt s names q cell → q = p) {now : Store}
    (h : s.AgreeBut cell now) (hq : ¬ p <+: q) : Unaffected s now names q where
  found := by
    unfold Namespace.at?
    split
    · next n rest =>
      cases hv : names.get? n with
      | none => rfl
      | some v =>
        refine Value.at?_eq_of_agreeBut h fun front step back hrest x hx hcell => hq ?_
        -- The way to the position would go through the position of the cell.
        have hat : names.at? s (.name n :: front) = some x := by
          rw [Namespace.at?, hv]
          exact hx
        rw [← hunique _ ⟨x, hat, hcell⟩, hrest]
        exact List.prefix_append (.name n :: front) (step :: back)
    · rfl
  reads v hv := by
    refine Value.readsAlike_of_agreeBut h fun hcell => hq ?_
    rw [hunique q ⟨v, hv, hcell⟩]

/-- Behind a position that is neither inside nor around another one, nothing is inside that one. -/
theorem not_prefix_append {α : Type} {p q : List α} (hpq : ¬ p <+: q) (hqp : ¬ q <+: p)
    (rest : List α) : ¬ p <+: q ++ rest := fun h =>
  (List.prefix_or_prefix_of_prefix h (List.prefix_append q rest)).elim hpq hqp

/-! ## The main result -/

/-- Bindings that were built one after the other are a tree of new cells. -/
theorem BuiltRow.treeOfFreshCells (h : BuiltRow s old (pairs.map Prod.snd) s) :
    TreeOfFreshCells old s (Bindings.ofList pairs) where
  distinct _ _ _ hp hq := h.namespace_position_unique hp hq
  fresh _ _ hp := h.namespace_fresh hp
  apart p cell hp v hexists x hx hcell := by
    have hold := Value.contains_of_extends h.extends hexists hx
    exact h.namespace_fresh hp ((hexists x hold).1 cell hcell)
  frame p cell hp writes hwrites q hq :=
    unaffected_of_agreeBut (fun _ hother => h.namespace_position_unique hother hp)
      (agreeBut_foldl_apply hwrites s) hq
  frameInside p cell hp writes hwrites q hpq hqp rest :=
    unaffected_of_agreeBut (fun _ hother => h.namespace_position_unique hother hp)
      (agreeBut_foldl_apply hwrites s) (not_prefix_append hpq hqp rest)
  completions p cell _ writes hwrites c hstore text haway := by
    subst hstore
    exact Completer.complete_withStore (agreeBut_foldl_apply hwrites c.store) haway

end

namespace Snapshot

/-- A snapshot is loaded as a tree of new cells. -/
theorem treeOfFreshCells_of_loadNamespace {s t : Store} {j : Json} {names : Namespace}
    (h : loadNamespace s j = .ok (names, t)) : TreeOfFreshCells s t names := by
  unfold loadNamespace at h
  cases hread : readNamespace j with
  | error e => rw [hread] at h; cases h
  | ok members =>
    rw [hread] at h
    cases h
    exact (builtRow_buildPairs rfl (.of_extends (.refl _))).treeOfFreshCells

/-- A vector, and a record. -/
def itemsAndPoint : Json :=
  .object [("items", .array []), ("point", .object [("x", .null)])]

/-- What it is loaded as. -/
def itemsAndPointLoaded : Namespace × Store :=
  Description.buildNamespace .empty [("items", .vector []), ("point", .record [("x", .null)])]

theorem loadNamespace_itemsAndPoint :
    loadNamespace .empty itemsAndPoint = .ok itemsAndPointLoaded := by
  have hitems : Reads (.array []) (.vector []) := by
    rw [Reads, readValue_array]
    rfl
  have hfields : readMembers [("x", .null)] = .ok [("x", .null)] :=
    readMembers_eq_ok_iff.2 (.cons ⟨rfl, reads_null⟩ .nil)
  have hpoint : Reads (.object [("x", .null)]) (.record [("x", .null)]) :=
    reads_record (by decide +kernel) hfields
  have hentries : (Json.entries [("items", .array []), ("point", .object [("x", .null)])]).toList =
      [("items", .array []), ("point", .object [("x", .null)])] := by
    show Bindings.insertEntry "point" (Json.object [("x", .null)]) [("items", .array [])] = _
    rw [Bindings.insertEntry, if_neg (by decide : ¬ "point" < "items"),
      if_neg (by decide : "point" ≠ "items")]
    rfl
  have hmembers : readMembers [("items", .array []), ("point", .object [("x", .null)])] =
      .ok [("items", .vector []), ("point", .record [("x", .null)])] := by
    rw [readMembers_eq_ok_iff, hentries]
    exact .cons ⟨rfl, hitems⟩ (.cons ⟨rfl, hpoint⟩ .nil)
  rw [loadNamespace, itemsAndPoint, readNamespace, hmembers]
  rfl

/-- An element is pushed to the vector; the members of the record are offered as before. -/
theorem point_completed_after_push :
    loadNamespace .empty itemsAndPoint = .ok itemsAndPointLoaded ∧
      CellAt itemsAndPointLoaded.2 itemsAndPointLoaded.1 [.name "items"] (.vector ⟨0⟩) ∧
      Completer.complete
        { store := (Write.push ⟨0⟩ .null).apply itemsAndPointLoaded.2,
          globals := itemsAndPointLoaded.1 } "point." = ["point.x"] := by
  have htree := treeOfFreshCells_of_loadNamespace loadNamespace_itemsAndPoint
  have hat : CellAt itemsAndPointLoaded.2 itemsAndPointLoaded.1 [.name "items"] (.vector ⟨0⟩) :=
    ⟨.vector ⟨0⟩, rfl, rfl⟩
  refine ⟨loadNamespace_itemsAndPoint, hat, ?_⟩
  let c : Completer := { store := itemsAndPointLoaded.2, globals := itemsAndPointLoaded.1 }
  have hparse : Fragment.parse "point." = .member ["point"] "" := by decide +kernel
  have hanswer : c.complete "point." = ["point.x"] := by decide +kernel
  have hpoint : c.resolve ["point"] = some (.record ⟨0⟩) := rfl
  rw [← hanswer]
  refine htree.completions _ _ hat [.push ⟨0⟩ .null] (List.forall_mem_singleton.2 rfl) c rfl
    "point." fun path typed hmember front hfront v hv => ?_
  rw [hparse] at hmember
  cases hmember
  rcases List.prefix_cons_iff.1 hfront with rfl | ⟨rest, rfl, hrest⟩
  · exact absurd rfl hv.ne_nil
  · obtain rfl := List.prefix_nil.1 hrest
    cases hpoint.symm.trans (Completer.resolve_eq_some_iff.2 hv)
    exact nofun

end Snapshot

end NameCompletion
