import Mathlib.Data.Finset.Prod
import Mathlib.Order.Interval.Finset.Nat
import Mathlib.Tactic.Linarith
import NameCompletion.Value.Equality

/-!
# How deep a comparison goes

A comparison of values is followed to a given depth.  This file shows that the depth does not
matter: what is found within some depth is found within any greater one (`answer_mono`), and a
comparison that ends at all has ended within `Value.depthBound` (`answer_depthBound`).

The second fact is a matter of counting.  A comparison that needs some depth has a part that needs
one level less (`Needs.part`), so below it there is one comparison for every smaller depth, and no
two of them are the same.  All but the last two levels compare a pair of cells, and there are not
more pairs than that (`exists_cellPairs`).

So `Value.equal` follows its own parts as if there were no bound (`equal_eq_succ`), and it answers
wherever one cannot go from part to part for ever (`isSome_answer_of_acc`).
-/

namespace NameCompletion

/-! ## Comparing lists -/

section

variable {α : Type} {f g : α → α → Option Bool}

/-- Only the elements at the same places matter. -/
theorem elementsEqual_mono {r : Bool} :
    ∀ {xs ys : List α}, (∀ p ∈ xs.zip ys, ∀ r, f p.1 p.2 = some r → g p.1 p.2 = some r) →
      elementsEqual f xs ys = some r → elementsEqual g xs ys = some r
  | [], _, _, hr => hr
  | _ :: _, [], _, hr => hr
  | x :: xs, y :: ys, h, hr => by
    rw [elementsEqual] at hr ⊢
    cases hf : f x y with
    | none => simp [hf] at hr
    | some found =>
      rw [hf] at hr
      rw [h (x, y) List.mem_cons_self found hf]
      cases found with
      | false => exact hr
      | true => exact elementsEqual_mono (fun p hp => h p (List.mem_cons_of_mem _ hp)) hr

theorem listsEqual_mono {xs ys : List α} {r : Bool}
    (h : ∀ p ∈ xs.zip ys, ∀ r, f p.1 p.2 = some r → g p.1 p.2 = some r)
    (hr : listsEqual f xs ys = some r) : listsEqual g xs ys = some r := by
  rw [listsEqual] at hr ⊢
  split at hr
  · next hlength => rw [if_pos hlength, elementsEqual_mono h hr]
  · next hlength => rw [if_neg hlength, hr]

theorem bindingsEqual_mono {a b : Bindings α} {r : Bool}
    (h : ∀ p ∈ a.toList.zip b.toList, ∀ r, f p.1.2 p.2.2 = some r → g p.1.2 p.2.2 = some r)
    (hr : bindingsEqual f a b = some r) : bindingsEqual g a b = some r := by
  refine listsEqual_mono (fun p hp r hfound => ?_) hr
  split at hfound
  · next hname => rw [if_pos hname, h p hp r hfound]
  · next hname => rw [if_neg hname, hfound]

/-- A comparison of lists ends if those of the elements at the same places do. -/
theorem isSome_elementsEqual :
    ∀ {xs ys : List α}, (∀ p ∈ xs.zip ys, (f p.1 p.2).isSome = true) →
      (elementsEqual f xs ys).isSome = true
  | [], _, _ => by simp [elementsEqual]
  | _ :: _, [], _ => by simp [elementsEqual]
  | x :: xs, y :: ys, h => by
    have hhead : (f x y).isSome = true := h (x, y) List.mem_cons_self
    have htail := isSome_elementsEqual fun p hp => h p (List.mem_cons_of_mem _ hp)
    rw [elementsEqual]
    split
    · exact htail
    · exact hhead

theorem isSome_listsEqual {xs ys : List α} (h : ∀ p ∈ xs.zip ys, (f p.1 p.2).isSome = true) :
    (listsEqual f xs ys).isSome = true := by
  rw [listsEqual]
  split
  · exact isSome_elementsEqual h
  · rfl

theorem isSome_bindingsEqual {a b : Bindings α}
    (h : ∀ p ∈ a.toList.zip b.toList, (f p.1.2 p.2.2).isSome = true) :
    (bindingsEqual f a b).isSome = true := by
  refine isSome_listsEqual fun p hp => ?_
  split
  · exact h p hp
  · rfl

end

/-! ## Comparisons and their parts -/

/-- What can be compared: two values, or two classes. -/
inductive Comparison where
  | values (a b : Value)
  | classes (x y : ClassRef)

namespace Comparison

/-- The answer that is found within a depth. -/
def answer (s : Store) (depth : Nat) : Comparison → Option Bool
  | values a b => Value.equalWithin s depth a b
  | classes x y => Value.classesEqualWithin s depth x y

/-- The comparisons that a comparison may come to, one level deeper. -/
inductive Part (s : Store) : Comparison → Comparison → Prop where
  | element {x y : VectorRef} {p : Value × Value} (h : p ∈ (s.vector x).zip (s.vector y)) :
      Part s (values (.vector x) (.vector y)) (values p.1 p.2)
  | field {x y : ScopeRef} {p : (String × Value) × (String × Value)}
      (h : p ∈ (s.scope x).toList.zip (s.scope y).toList) :
      Part s (values (.record x) (.record y)) (values p.1.2 p.2.2)
  | contents (x y : ClassRef) : Part s (values (.classObject x) (.classObject y)) (classes x y)
  | member {x y : ClassRef} {p : (String × Value) × (String × Value)}
      (h : p ∈ (s.classes.members x).toList.zip (s.classes.members y).toList) :
      Part s (classes x y) (values p.1.2 p.2.2)
  | base {x y : ClassRef} {p : ClassRef × ClassRef}
      (h : p ∈ (s.classes.bases x).zip (s.classes.bases y)) :
      Part s (classes x y) (classes p.1 p.2)

variable {s : Store} {c : Comparison} {r : Bool} {depth other : Nat}

/-- An answer depends on the answers for the parts only. -/
theorem answer_of_parts
    (h : ∀ part, Part s c part → ∀ r, part.answer s depth = some r → part.answer s other = some r)
    (hr : c.answer s (depth + 1) = some r) : c.answer s (other + 1) = some r := by
  cases c with
  | values a b =>
    rw [answer] at hr ⊢
    unfold Value.equalWithin at hr ⊢
    split at hr
    case h_5 x y =>
      split at hr
      · next heq => rw [if_pos heq, hr]
      · next hne =>
        rw [if_neg hne]
        exact listsEqual_mono (fun p hp r hfound => h _ (.element hp) r hfound) hr
    case h_6 x y =>
      split at hr
      · next heq => rw [if_pos heq, hr]
      · next hne =>
        rw [if_neg hne]
        exact bindingsEqual_mono (fun p hp r hfound => h _ (.field hp) r hfound) hr
    case h_9 x y =>
      split at hr
      · next heq => rw [if_pos heq, hr]
      · next hne =>
        rw [if_neg hne]
        exact h _ (.contents x y) r hr
    all_goals exact hr
  | classes x y =>
    rw [answer, Value.classesEqualWithin] at hr ⊢
    split at hr
    · next hname =>
      rw [if_pos hname]
      cases hmembers : bindingsEqual (Value.equalWithin s depth) (s.classes.members x)
          (s.classes.members y) with
      | none => simp [hmembers] at hr
      | some found =>
        rw [hmembers] at hr
        rw [bindingsEqual_mono (fun p hp r hfound => h _ (.member hp) r hfound) hmembers]
        cases found with
        | false => exact hr
        | true => exact listsEqual_mono (fun p hp r hfound => h _ (.base hp) r hfound) hr
    · next hname => rw [if_neg hname, hr]

theorem answer_zero : c.answer s 0 = none := by
  cases c
  · rw [answer, Value.equalWithin]
  · rw [answer, Value.classesEqualWithin]

theorem answer_succ (hr : c.answer s depth = some r) : c.answer s (depth + 1) = some r := by
  induction depth generalizing c r with
  | zero => simp [answer_zero] at hr
  | succ depth ih => exact answer_of_parts (fun _ _ _ hpart => ih hpart) hr

/-- A comparison that has ended within some depth has the same answer within any greater depth. -/
theorem answer_mono (hle : depth ≤ other) (hr : c.answer s depth = some r) :
    c.answer s other = some r := by
  induction hle with
  | refl => exact hr
  | step _ ih => exact answer_succ ih

/-- Comparisons that end have one answer. -/
theorem answer_unique {r' : Bool} (h : c.answer s depth = some r)
    (h' : c.answer s other = some r') : r = r' := by
  have hmax := answer_mono (Nat.le_max_left depth other) h
  have hmax' := answer_mono (Nat.le_max_right depth other) h'
  exact Option.some.inj (hmax.symm.trans hmax')

/-! ## No comparison that ends needs more depth than there are pairs of cells -/

/-- The comparison needs exactly this depth. -/
def Needs (s : Store) (c : Comparison) (depth : Nat) : Prop :=
  (c.answer s (depth + 1)).isSome = true ∧ c.answer s depth = none

theorem Needs.unique (h : Needs s c depth) (h' : Needs s c other) : depth = other := by
  have hle : ∀ {m n : Nat}, Needs s c m → Needs s c n → m ≤ n := by
    intro m n hm hn
    by_contra hlt
    obtain ⟨r, hr⟩ := Option.isSome_iff_exists.1 hn.1
    have hsome := answer_mono (by omega : n + 1 ≤ m) hr
    rw [hm.2] at hsome
    cases hsome
  exact Nat.le_antisymm (hle h h') (hle h' h)

/-- A comparison that needs some depth has a part that needs one level less. -/
theorem Needs.part (h : Needs s c (depth + 1)) : ∃ part, Part s c part ∧ Needs s part depth := by
  obtain ⟨r, hr⟩ := Option.isSome_iff_exists.1 h.1
  by_contra hnone
  have hparts : ∀ part, Part s c part → ∀ r, part.answer s (depth + 1) = some r →
      part.answer s depth = some r := by
    intro part hpart r hfound
    cases hless : part.answer s depth with
    | none => exact absurd ⟨part, hpart, by rw [hfound]; rfl, hless⟩ hnone
    | some r' => rw [answer_unique hless hfound]
  have hless : c.answer s (depth + 1) = some r := answer_of_parts hparts hr
  rw [h.2] at hless
  cases hless

/-- A comparison that ends needs some depth, below any depth within which it has ended. -/
theorem exists_needs (hr : c.answer s depth = some r) : ∃ n < depth, Needs s c n := by
  induction depth with
  | zero => simp [answer_zero] at hr
  | succ depth ih =>
    cases hless : c.answer s depth with
    | none => exact ⟨depth, Nat.lt_succ_self _, by rw [hr]; rfl, hless⟩
    | some r' =>
      obtain ⟨n, hn, hneeds⟩ := ih (by rw [hless, answer_unique hless hr])
      exact ⟨n, Nat.lt_succ_of_lt hn, hneeds⟩

/-- A vector that has elements is there. -/
theorem vector_lt_of_mem {x : VectorRef} {v : Value} (h : v ∈ s.vector x) :
    x.index < s.vectors.size := by
  unfold Store.vector at h
  cases hread : s.vectors.read? x with
  | none => simp [hread] at h
  | some items => exact Cells.index_lt_of_read? hread

theorem scope_lt_of_mem {x : ScopeRef} {e : String × Value} (h : e ∈ (s.scope x).toList) :
    x.index < s.scopes.size := by
  unfold Store.scope at h
  cases hread : s.scopes.read? x with
  | none => exact absurd h (by rw [hread]; exact List.not_mem_nil)
  | some names => exact Cells.index_lt_of_read? hread

theorem class_lt_of_mem_members {x : ClassRef} {e : String × Value}
    (h : e ∈ (s.classes.members x).toList) : x.index < s.classes.cells.size := by
  unfold ClassTable.members at h
  cases hread : s.classes.cells.read? x with
  | none => exact absurd h (by rw [hread]; exact List.not_mem_nil)
  | some info => exact Cells.index_lt_of_read? hread

theorem class_lt_of_mem_bases {x b : ClassRef} (h : b ∈ s.classes.bases x) :
    x.index < s.classes.cells.size := by
  unfold ClassTable.bases at h
  cases hread : s.classes.cells.read? x with
  | none => simp [hread] at h
  | some info => exact Cells.index_lt_of_read? hread

/-- Classes whose comparison has parts are there. -/
theorem class_lt_of_part {x y : ClassRef} {part : Comparison} (h : Part s (classes x y) part) :
    x.index < s.classes.cells.size ∧ y.index < s.classes.cells.size := by
  cases h with
  | member h =>
    obtain ⟨hx, hy⟩ := List.of_mem_zip h
    exact ⟨class_lt_of_mem_members hx, class_lt_of_mem_members hy⟩
  | base h =>
    obtain ⟨hx, hy⟩ := List.of_mem_zip h
    exact ⟨class_lt_of_mem_bases hx, class_lt_of_mem_bases hy⟩

/-- All pairs of references below a bound, as comparisons. -/
theorem exists_pairs {kind : CellKind} (f : Ref kind → Ref kind → Comparison) (size : Nat) :
    ∃ pairs : Finset Comparison, pairs.card ≤ size * size ∧
      ∀ x y, x.index < size → y.index < size → f x y ∈ pairs := by
  classical
  refine ⟨(Finset.range size ×ˢ Finset.range size).image fun p => f ⟨p.1⟩ ⟨p.2⟩, ?_, ?_⟩
  · exact Finset.card_image_le.trans (by simp)
  · intro x y hx hy
    exact Finset.mem_image.2 ⟨(x.index, y.index), by simp [hx, hy], rfl⟩

/-- Only pairs of cells have parts that have parts again, and there are not many of them. -/
theorem exists_cellPairs (s : Store) :
    ∃ pairs : Finset Comparison, pairs.card + 2 ≤ Value.depthBound s ∧
      ∀ c part inner, Part s c part → Part s part inner → c ∈ pairs := by
  classical
  obtain ⟨vectors, hvectors, hmemVectors⟩ :=
    exists_pairs (fun x y => values (.vector x) (.vector y)) s.vectors.size
  obtain ⟨records, hrecords, hmemRecords⟩ :=
    exists_pairs (fun x y => values (.record x) (.record y)) s.scopes.size
  obtain ⟨objects, hobjects, hmemObjects⟩ :=
    exists_pairs (fun x y => values (.classObject x) (.classObject y)) s.classes.cells.size
  obtain ⟨plain, hplain, hmemPlain⟩ := exists_pairs classes s.classes.cells.size
  refine ⟨(vectors ∪ records) ∪ (objects ∪ plain), ?_, fun c part inner hpart hinner => ?_⟩
  · have hunion := Finset.card_union_le (vectors ∪ records) (objects ∪ plain)
    have hcontainers := Finset.card_union_le vectors records
    have hall := Finset.card_union_le objects plain
    simp only [Value.depthBound]
    nlinarith
  · simp only [Finset.mem_union]
    cases hpart with
    | element h =>
      obtain ⟨hx, hy⟩ := List.of_mem_zip h
      exact .inl (.inl (hmemVectors _ _ (vector_lt_of_mem hx) (vector_lt_of_mem hy)))
    | field h =>
      obtain ⟨hx, hy⟩ := List.of_mem_zip h
      exact .inl (.inr (hmemRecords _ _ (scope_lt_of_mem hx) (scope_lt_of_mem hy)))
    | contents x y =>
      obtain ⟨hx, hy⟩ := class_lt_of_part hinner
      exact .inr (.inl (hmemObjects x y hx hy))
    | member h =>
      obtain ⟨hx, hy⟩ := class_lt_of_part (.member h)
      exact .inr (.inr (hmemPlain _ _ hx hy))
    | base h =>
      obtain ⟨hx, hy⟩ := class_lt_of_part (.base h)
      exact .inr (.inr (hmemPlain _ _ hx hy))

/-- Below a comparison that needs some depth there is one for every smaller depth. -/
theorem Needs.exists_of_le {n k : Nat} (h : Needs s c n) (hk : k ≤ n) :
    ∃ inner, Needs s inner k := by
  induction n generalizing c with
  | zero => exact ⟨c, Nat.le_zero.1 hk ▸ h⟩
  | succ n ih =>
    rcases Nat.lt_or_eq_of_le hk with hlt | rfl
    · obtain ⟨part, _, hpart⟩ := h.part
      exact ih hpart (Nat.le_of_lt_succ hlt)
    · exact ⟨c, h⟩

/-- No comparison needs more depth than the bound. -/
theorem Needs.lt_depthBound {n : Nat} (h : Needs s c n) : n < Value.depthBound s := by
  obtain ⟨pairs, hcard, hpairs⟩ := exists_cellPairs s
  -- For every depth from 2 on there is a pair of cells of its own.
  have : Nonempty Comparison := ⟨c⟩
  choose! inner hinner using fun k (hk : k ≤ n) => h.exists_of_le hk
  have hmaps : ∀ k ∈ Finset.Icc 2 n, inner k ∈ pairs := by
    intro k hk
    obtain ⟨htwo, hle⟩ := Finset.mem_Icc.1 hk
    obtain ⟨k, rfl⟩ := Nat.exists_eq_add_of_le' htwo
    obtain ⟨part, hpart, hneeds⟩ := (hinner _ hle).part
    obtain ⟨deeper, hdeeper, _⟩ := hneeds.part
    exact hpairs _ _ _ hpart hdeeper
  have hinj : ∀ k ∈ Finset.Icc 2 n, ∀ m ∈ Finset.Icc 2 n, inner k = inner m → k = m := by
    intro k hk m hm heq
    have hneeds := hinner k (Finset.mem_Icc.1 hk).2
    rw [heq] at hneeds
    exact hneeds.unique (hinner m (Finset.mem_Icc.1 hm).2)
  have hle := Finset.card_le_card_of_injOn inner hmaps hinj
  rw [Nat.card_Icc] at hle
  omega

/-- A comparison that ends at all has ended within the bound. -/
theorem answer_depthBound (hr : c.answer s depth = some r) :
    c.answer s (Value.depthBound s) = some r := by
  obtain ⟨n, _, hneeds⟩ := exists_needs hr
  obtain ⟨r', hr'⟩ := Option.isSome_iff_exists.1 hneeds.1
  rw [answer_unique hr hr']
  exact answer_mono hneeds.lt_depthBound hr'

/-- One level more than the bound finds nothing new. -/
theorem answer_depthBound_succ (s : Store) (c : Comparison) :
    c.answer s (Value.depthBound s + 1) = c.answer s (Value.depthBound s) := by
  cases hr : c.answer s (Value.depthBound s + 1) with
  | none =>
    cases hless : c.answer s (Value.depthBound s) with
    | none => rfl
    | some r => rw [answer_succ hless] at hr; cases hr
  | some r => rw [answer_depthBound hr]

/-! ## Comparisons that end -/

/-- A comparison ends if its parts do. -/
theorem isSome_answer_of_parts
    (h : ∀ part, Part s c part → (part.answer s depth).isSome = true) :
    (c.answer s (depth + 1)).isSome = true := by
  cases c with
  | values a b =>
    rw [answer]
    unfold Value.equalWithin
    split
    case h_5 x y =>
      split
      · rfl
      · exact isSome_listsEqual fun p hp => h _ (.element hp)
    case h_6 x y =>
      split
      · rfl
      · exact isSome_bindingsEqual fun p hp => h _ (.field hp)
    case h_9 x y =>
      split
      · rfl
      · exact h _ (.contents x y)
    all_goals rfl
  | classes x y =>
    have hmembers : (bindingsEqual (Value.equalWithin s depth) (s.classes.members x)
        (s.classes.members y)).isSome = true :=
      isSome_bindingsEqual fun p hp => h _ (.member hp)
    have hbases : (listsEqual (Value.classesEqualWithin s depth) (s.classes.bases x)
        (s.classes.bases y)).isSome = true :=
      isSome_listsEqual fun p hp => h _ (.base hp)
    rw [answer, Value.classesEqualWithin]
    split
    · split
      · exact hbases
      · exact hmembers
    · rfl

/-- A comparison ends if there is no way to go from part to part for ever. -/
theorem isSome_answer_of_acc (h : Acc (fun part whole => Part s whole part) c) :
    (c.answer s (Value.depthBound s)).isSome = true := by
  induction h with
  | intro c _ ih =>
    rw [← answer_depthBound_succ]
    exact isSome_answer_of_parts ih

end Comparison

namespace Value

variable {s : Store} {a b : Value} {x y : ClassRef}

/-- The comparison of two values has an answer if it ends within any depth at all. -/
theorem equal_eq_some_iff {r : Bool} :
    equal s a b = some r ↔ ∃ depth, equalWithin s depth a b = some r := by
  refine ⟨fun h => ⟨_, h⟩, fun ⟨depth, h⟩ => ?_⟩
  exact Comparison.answer_depthBound (c := .values a b) h

/-- Values are compared by comparing their parts in the same way. -/
theorem equal_eq_succ (s : Store) (a b : Value) :
    equal s a b = equalWithin s (depthBound s + 1) a b :=
  (Comparison.answer_depthBound_succ s (.values a b)).symm

/-- Whether two classes agree in name, members and bases; `none` if their comparison does not
end. -/
def classesEqual (s : Store) (x y : ClassRef) : Option Bool :=
  classesEqualWithin s (depthBound s) x y

theorem classesEqual_eq_succ (s : Store) (x y : ClassRef) :
    classesEqual s x y = classesEqualWithin s (depthBound s + 1) x y :=
  (Comparison.answer_depthBound_succ s (.classes x y)).symm

end Value

end NameCompletion
