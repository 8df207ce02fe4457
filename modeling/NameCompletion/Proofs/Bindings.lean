import Mathlib.Data.List.Induction
import Mathlib.Data.List.Sort
import NameCompletion.Bindings
import NameCompletion.Proofs.Related

/-!
# Bindings and the pairs that describe them

Bindings are what look-up makes of them (`ext_get?`), so as long as no name occurs twice in the
pairs they were made of, the order of the pairs does not matter (`get?_ofList_eq_some_iff`).
Bindings of related pairs are related (`forall₂_ofList`, `rel_get?_ofList`), and then so is what is
found under a name (`rel_get?`).
-/

namespace NameCompletion.Bindings

variable {α β : Type}

/-- Of pairs with different names, the first one of a name is the only one. -/
theorem find?_eq_some_iff {pairs : List (String × α)} (h : (pairs.map Prod.fst).Nodup)
    {name : String} {value : α} :
    (pairs.find? fun e => e.1 == name).map Prod.snd = some value ↔ (name, value) ∈ pairs := by
  induction pairs with
  | nil => simp
  | cons p rest ih =>
    obtain ⟨hhead, hrest⟩ := List.nodup_cons.1 h
    rw [List.find?_cons, List.mem_cons]
    by_cases hname : p.1 = name
    · have hlater : (name, value) ∉ rest := fun hmem =>
        hhead (hname ▸ List.mem_map_of_mem (f := Prod.fst) hmem)
      rw [beq_iff_eq.2 hname, or_iff_left hlater, Option.map_some, Option.some.injEq, ← hname,
        eq_comm, Prod.ext_iff]
      exact (and_iff_right rfl).symm
    · have hother : (name, value) ≠ p := fun heq => hname (heq ▸ rfl)
      rw [beq_eq_false_iff_ne.2 hname, or_iff_right hother]
      exact ih hrest

/-- A name is bound to a value exactly if there is such an entry. -/
theorem get?_eq_some_iff {b : Bindings α} {name : String} {value : α} :
    b.get? name = some value ↔ (name, value) ∈ b.toList :=
  find?_eq_some_iff b.nodup_names

/-- Bindings with the same look-up are the same. -/
theorem ext_get? {a b : Bindings α} (h : ∀ name, a.get? name = b.get? name) : a = b := by
  have hnodup : ∀ c : Bindings α, c.toList.Nodup := fun c =>
    (List.pairwise_map.1 c.nodup_names).imp fun hne heq => hne (congrArg Prod.fst heq)
  have hperm : a.toList.Perm b.toList := by
    rw [List.perm_ext_iff_of_nodup (hnodup a) (hnodup b)]
    intro e
    rw [← get?_eq_some_iff, ← get?_eq_some_iff, h]
  have heq : a.toList = b.toList := by
    refine hperm.eq_of_pairwise (fun e e' _ _ hlt hgt => ?_) a.ascending b.ascending
    exact absurd (String.lt_trans hlt hgt) (String.lt_irrefl _)
  cases a
  cases b
  cases heq
  rfl

theorem ofList_toList (b : Bindings α) : ofList b.toList = b := by
  refine ext_get? fun name => ?_
  rw [ofList, get?_extend_toList]
  exact Option.or_none

theorem ofList_concat (pairs : List (String × α)) (p : String × α) :
    ofList (pairs ++ [p]) = (ofList pairs).insert p.1 p.2 := by
  rw [ofList, extend, List.foldl_append]
  rfl

/-- What is found is the value of the last pair of that name. -/
theorem get?_ofList (pairs : List (String × α)) (name : String) :
    (ofList pairs).get? name = (pairs.reverse.find? fun e => e.1 == name).map Prod.snd := by
  induction pairs using List.reverseRecOn with
  | nil => rfl
  | append_singleton pairs p ih =>
    rw [ofList_concat, get?_insert, ih, List.reverse_append, List.reverse_singleton,
      List.singleton_append, List.find?_cons]
    by_cases hname : name = p.1
    · rw [if_pos hname, beq_iff_eq.2 hname.symm]
      rfl
    · rw [if_neg hname, beq_eq_false_iff_ne.2 (Ne.symm hname)]

theorem get?_ofList_eq_some_iff {pairs : List (String × α)} (h : (pairs.map Prod.fst).Nodup)
    {name : String} {value : α} :
    (ofList pairs).get? name = some value ↔ (name, value) ∈ pairs := by
  rw [ofList, get?_extend h, ← find?_eq_some_iff h]
  exact Eq.congr_left Option.or_none

/-- Pairs that are related to what is found under their names make bindings that are. -/
theorem rel_get?_ofList {R : α → β → Prop} {pairs : List (String × α)} {find : String → Option β}
    (hnodup : (pairs.map Prod.fst).Nodup)
    (hcomplete : ∀ name, (find name).isSome = true → name ∈ pairs.map Prod.fst)
    (hpairs : ∀ p ∈ pairs, ∃ y, find p.1 = some y ∧ R p.2 y) (name : String) :
    Option.Rel R ((ofList pairs).get? name) (find name) := by
  cases hbound : (ofList pairs).get? name with
  | some x =>
    obtain ⟨y, hy, hxy⟩ := hpairs _ ((get?_ofList_eq_some_iff hnodup).1 hbound)
    rw [hy]
    exact .some hxy
  | none =>
    cases hfound : find name with
    | none => exact .none
    | some y =>
      obtain ⟨p, hp, rfl⟩ := List.mem_map.1 (hcomplete name (by rw [hfound]; rfl))
      rw [(get?_ofList_eq_some_iff hnodup).2 hp] at hbound
      cases hbound

/-- The bound values, in the order of their names. -/
def values (b : Bindings α) : List α :=
  b.toList.map Prod.snd

theorem mem_values_of_mem {b : Bindings α} {e : String × α} (h : e ∈ b.toList) : e.2 ∈ b.values :=
  List.mem_map_of_mem h

theorem length_values (b : Bindings α) : b.values.length = b.names.length := by
  rw [values, names, List.length_map, List.length_map]

/-! ## Related bindings -/

section

variable {R : α → β → Prop} {a : Bindings α} {b : Bindings β}

/-- Entries are related by name exactly if the names are the same and the values are related. -/
theorem forall₂_toList_iff :
    List.Forall₂ (fun x y => x.1 = y.1 ∧ R x.2 y.2) a.toList b.toList ↔
      a.names = b.names ∧ List.Forall₂ R a.values b.values := by
  rw [names, names, values, values, ← List.forall₂_eq_eq_eq]
  generalize a.toList = xs, b.toList = ys
  induction xs generalizing ys with
  | nil => cases ys <;> simp
  | cons x xs ih =>
    cases ys with
    | nil => simp
    | cons y ys =>
      simp only [List.forall₂_cons, List.map_cons, ih]
      exact and_and_and_comm

theorem names_eq_of_forall₂
    (h : List.Forall₂ (fun x y => x.1 = y.1 ∧ R x.2 y.2) a.toList b.toList) :
    a.names = b.names := by
  rw [names, names, ← List.forall₂_eq_eq_eq, List.forall₂_map_left_iff, List.forall₂_map_right_iff]
  exact h.imp fun _ _ hxy => hxy.1

theorem rel_get? (h : List.Forall₂ (fun x y => x.1 = y.1 ∧ R x.2 y.2) a.toList b.toList)
    (name : String) : Option.Rel R (a.get? name) (b.get? name) := by
  unfold get?
  generalize a.toList = xs, b.toList = ys at h
  induction h with
  | nil => exact .none
  | @cons x y xs ys hxy _ ih =>
    rw [List.find?_cons, List.find?_cons, ← hxy.1]
    split
    · exact .some hxy.2
    · exact ih

/-- Bindings list the same names if look-up finds something under the same names. -/
theorem names_eq_of_rel (h : ∀ name, Option.Rel R (a.get? name) (b.get? name)) :
    a.names = b.names := by
  refine a.pairwise_names.eq_of_mem_iff b.pairwise_names fun name => ?_
  rw [mem_names_iff, mem_names_iff, isSome_eq_of_rel (h name)]

theorem forall₂_insertEntry {name : String} {x : α} {y : β} (hxy : R x y)
    {xs : List (String × α)} {ys : List (String × β)}
    (h : List.Forall₂ (fun x y => x.1 = y.1 ∧ R x.2 y.2) xs ys) :
    List.Forall₂ (fun x y => x.1 = y.1 ∧ R x.2 y.2) (insertEntry name x xs)
      (insertEntry name y ys) := by
  induction h with
  | nil => exact .cons ⟨rfl, hxy⟩ .nil
  | @cons e e' _ _ he htail ih =>
    rw [insertEntry, insertEntry, ← he.1]
    split
    · exact .cons ⟨rfl, hxy⟩ (.cons he htail)
    · split
      · exact .cons ⟨rfl, hxy⟩ htail
      · exact .cons he ih

/-- Pairs that are related by name make related bindings. -/
theorem forall₂_ofList {xs : List (String × α)} {ys : List (String × β)}
    (h : List.Forall₂ (fun x y => x.1 = y.1 ∧ R x.2 y.2) xs ys) :
    List.Forall₂ (fun x y => x.1 = y.1 ∧ R x.2 y.2) (ofList xs).toList (ofList ys).toList := by
  -- The bindings so far have to be related, not only empty.
  suffices hextend : ∀ (a : Bindings α) (b : Bindings β),
      List.Forall₂ (fun x y => x.1 = y.1 ∧ R x.2 y.2) a.toList b.toList →
      List.Forall₂ (fun x y => x.1 = y.1 ∧ R x.2 y.2) (a.extend xs).toList (b.extend ys).toList from
    hextend ∅ ∅ .nil
  induction h with
  | nil => exact fun _ _ hab => hab
  | @cons x y _ _ hxy _ ih =>
    intro a b hab
    refine ih (a.insert x.1 x.2) (b.insert y.1 y.2) ?_
    rw [← hxy.1]
    exact forall₂_insertEntry hxy.2 hab

end

end NameCompletion.Bindings
