import Mathlib.Data.List.Forall2

/-!
# Related results

Two computations are compared by a relation between their results: both find something, and what
they find is related, or both find nothing.  Lists are related position by position, so that what is
known of a position can be used where the lists are changed (`rel_getElem?_append`,
`rel_getElem?_modify_right`).
-/

namespace NameCompletion

variable {α β γ δ : Type} {R : α → β → Prop} {S : γ → δ → Prop}

section

variable {x x' : Option α} {y y' : Option β}

theorem isSome_eq_of_rel (h : Option.Rel R x y) : x.isSome = y.isSome := by
  cases h <;> rfl

theorem eq_none_iff_of_rel (h : Option.Rel R x y) : x = none ↔ y = none := by
  cases h <;> simp

theorem exists_of_rel_left {a : α} (h : Option.Rel R x y) (ha : x = some a) :
    ∃ b, y = some b ∧ R a b := by
  subst ha
  cases h with
  | some h => exact ⟨_, rfl, h⟩

theorem exists_of_rel_right {b : β} (h : Option.Rel R x y) (hb : y = some b) :
    ∃ a, x = some a ∧ R a b := by
  subst hb
  cases h with
  | some h => exact ⟨_, rfl, h⟩

theorem rel_map {f : α → γ} {g : β → δ} (h : Option.Rel R x y)
    (hfg : ∀ a b, R a b → S (f a) (g b)) : Option.Rel S (x.map f) (y.map g) := by
  cases h with
  | none => exact .none
  | some h => exact .some (hfg _ _ h)

theorem rel_bind {f : α → Option γ} {g : β → Option δ} (h : Option.Rel R x y)
    (hfg : ∀ a b, R a b → Option.Rel S (f a) (g b)) : Option.Rel S (x.bind f) (y.bind g) := by
  cases h with
  | none => exact .none
  | some h => exact hfg _ _ h

theorem rel_imp {T : α → β → Prop} (h : Option.Rel R x y)
    (hRT : ∀ a b, x = some a → R a b → T a b) : Option.Rel T x y := by
  cases h with
  | none => exact .none
  | some h => exact .some (hRT _ _ rfl h)

theorem rel_or (h : Option.Rel R x y) (h' : Option.Rel R x' y') :
    Option.Rel R (x.or x') (y.or y') := by
  cases h with
  | none => exact h'
  | some h => exact .some h

theorem rel_ite {p : Prop} [Decidable p] (h : Option.Rel R x y) :
    Option.Rel R (if p then x else none) (if p then y else none) := by
  split
  · exact h
  · exact .none

/-- Results that are related to the same result are related to each other. -/
theorem rel_join {T : γ → β → Prop} {z : Option γ} (h : Option.Rel R x y) (h' : Option.Rel T z y) :
    Option.Rel (fun a c => ∃ b, R a b ∧ T c b) x z := by
  cases h with
  | none =>
    cases h'
    exact .none
  | some h =>
    cases h' with
    | some h' => exact .some ⟨_, h, h'⟩

/-- Steps that keep results related do so one after the other. -/
theorem rel_foldlM {f : α → γ → Option α} {g : β → γ → Option β}
    (hfg : ∀ a b x, R a b → Option.Rel R (f a x) (g b x)) {a : α} {b : β} (h : R a b)
    (xs : List γ) : Option.Rel R (xs.foldlM f a) (xs.foldlM g b) := by
  induction xs generalizing a b with
  | nil => exact .some h
  | cons x xs ih =>
    rw [List.foldlM_cons, List.foldlM_cons]
    exact rel_bind (hfg a b x h) fun _ _ => ih

end

/-! ## Lists -/

theorem rel_findSome? {f : γ → Option α} {g : δ → Option β} {xs : List γ} {ys : List δ}
    (h : List.Forall₂ (fun x y => Option.Rel R (f x) (g y)) xs ys) :
    Option.Rel R (xs.findSome? f) (ys.findSome? g) := by
  induction h with
  | nil => exact .none
  | @cons x y xs ys hxy _ ih =>
    rw [List.findSome?_cons, List.findSome?_cons]
    generalize f x = found, g y = found' at hxy
    cases hxy with
    | none => exact ih
    | some h => exact .some h

theorem findSome?_cons_eq_or (f : α → Option β) (x : α) (xs : List α) :
    (x :: xs).findSome? f = (f x).or (xs.findSome? f) := by
  rw [List.findSome?_cons]
  cases f x <;> rfl

theorem findSome?_congr {f g : α → Option β} {xs : List α} (h : ∀ x ∈ xs, f x = g x) :
    xs.findSome? f = xs.findSome? g := by
  induction xs with
  | nil => rfl
  | cons x xs ih =>
    rw [findSome?_cons_eq_or, findSome?_cons_eq_or, h x List.mem_cons_self,
      ih fun y hy => h y (List.mem_cons_of_mem _ hy)]

/-- The first hit in lists that are put together is the first of their first hits. -/
theorem findSome?_flatMap {f : α → List β} {g : β → Option γ} {hit : α → Option γ} {xs : List α}
    (h : ∀ x ∈ xs, hit x = (f x).findSome? g) :
    (xs.flatMap f).findSome? g = xs.findSome? hit := by
  induction xs with
  | nil => rfl
  | cons x xs ih =>
    rw [List.flatMap_cons, List.findSome?_append, ih fun y hy => h y (List.mem_cons_of_mem _ hy),
      ← h x List.mem_cons_self, findSome?_cons_eq_or]

variable {xs : List α} {ys : List β}

theorem exists_of_forall₂_left (h : List.Forall₂ R xs ys) {x : α} (hx : x ∈ xs) :
    ∃ y ∈ ys, R x y := by
  induction h with
  | nil => exact absurd hx List.not_mem_nil
  | @cons x' y _ _ hxy _ ih =>
    rcases List.mem_cons.1 hx with rfl | hx
    · exact ⟨y, List.mem_cons_self, hxy⟩
    · obtain ⟨y', hy', hxy'⟩ := ih hx
      exact ⟨y', List.mem_cons_of_mem _ hy', hxy'⟩

theorem exists_of_forall₂_right (h : List.Forall₂ R xs ys) {y : β} (hy : y ∈ ys) :
    ∃ x ∈ xs, R x y :=
  exists_of_forall₂_left h.flip hy

/-- Elements that are related to the same elements are related to each other. -/
theorem forall₂_join {T : γ → β → Prop} {U : α → γ → Prop} {zs : List γ}
    (hxs : List.Forall₂ R xs ys) (hzs : List.Forall₂ T zs ys)
    (h : ∀ x z, ∀ y ∈ ys, R x y → T z y → U x z) : List.Forall₂ U xs zs := by
  induction hxs generalizing zs with
  | nil =>
    cases hzs
    exact .nil
  | cons hxy _ ih =>
    cases hzs with
    | cons hzy hzs =>
      refine .cons (h _ _ _ List.mem_cons_self hxy hzy) (ih hzs fun x z y hy => ?_)
      exact h x z y (List.mem_cons_of_mem _ hy)

/-- Only how the elements are related matters. -/
theorem forall₂_congr {T : α → β → Prop} (h : ∀ x ∈ xs, ∀ y ∈ ys, (R x y ↔ T x y)) :
    List.Forall₂ R xs ys ↔ List.Forall₂ T xs ys := by
  rw [List.forall₂_iff_zip, List.forall₂_iff_zip]
  refine and_congr_right fun _ => forall_congr' fun x => forall_congr' fun y => ?_
  refine imp_congr_right fun hmem => ?_
  obtain ⟨hx, hy⟩ := List.of_mem_zip hmem
  exact h x hx y hy

theorem forall₂_append_iff {xs' : List α} {ys' : List β} (hlength : xs.length = ys.length) :
    List.Forall₂ R (xs ++ xs') (ys ++ ys') ↔ List.Forall₂ R xs ys ∧ List.Forall₂ R xs' ys' := by
  induction xs generalizing ys with
  | nil =>
    cases ys with
    | nil => simp
    | cons y ys => cases hlength
  | cons x xs ih =>
    cases ys with
    | nil => cases hlength
    | cons y ys =>
      rw [List.cons_append, List.cons_append, List.forall₂_cons, List.forall₂_cons,
        ih (Nat.succ.inj hlength), and_assoc]

/-- Lists that are related position by position are equally long. -/
theorem length_eq_of_rel (h : ∀ i : Nat, Option.Rel R xs[i]? ys[i]?) : xs.length = ys.length := by
  have hle : ∀ i, xs.length ≤ i ↔ ys.length ≤ i := by
    intro i
    rw [← List.getElem?_eq_none_iff, ← List.getElem?_eq_none_iff, eq_none_iff_of_rel (h i)]
  exact Nat.le_antisymm ((hle _).2 (Nat.le_refl _)) ((hle _).1 (Nat.le_refl _))

theorem rel_getElem?_append (h : ∀ i : Nat, Option.Rel R xs[i]? ys[i]?) {x : Option α}
    {y : Option β} (hxy : Option.Rel R x y) (i : Nat) :
    Option.Rel R (xs ++ x.toList)[i]? (ys ++ y.toList)[i]? := by
  cases hxy with
  | none => simpa using h i
  | some hxy =>
    rw [List.getElem?_append, List.getElem?_append, length_eq_of_rel h]
    split
    · exact h i
    · cases i - ys.length with
      | zero => exact .some hxy
      | succ _ => exact .none

theorem rel_getElem?_concat (h : ∀ i : Nat, Option.Rel R xs[i]? ys[i]?) {x : α} {y : β}
    (hxy : R x y) (i : Nat) : Option.Rel R (xs ++ [x])[i]? (ys ++ [y])[i]? :=
  rel_getElem?_append h (.some hxy) i

theorem rel_getElem?_modify (h : ∀ i : Nat, Option.Rel R xs[i]? ys[i]?) {f : α → α} {g : β → β}
    (hfg : ∀ a b, R a b → R (f a) (g b)) (j i : Nat) :
    Option.Rel R (xs.modify j f)[i]? (ys.modify j g)[i]? := by
  rw [List.getElem?_modify, List.getElem?_modify]
  refine rel_map (h i) fun a b hab => ?_
  split
  · exact hfg a b hab
  · exact hab

/-- One position of the second list is changed. -/
theorem rel_getElem?_modify_right {T : α → β → Prop} (h : ∀ i : Nat, Option.Rel R xs[i]? ys[i]?)
    {j : Nat} {g : β → β} (hself : ∀ a b, xs[j]? = some a → R a b → T a (g b))
    (hother : ∀ i a b, i ≠ j → xs[i]? = some a → R a b → T a b) (i : Nat) :
    Option.Rel T xs[i]? (ys.modify j g)[i]? := by
  have hrel := h i
  rw [List.getElem?_modify]
  generalize hx : xs[i]? = x, ys[i]? = y at hrel
  cases hrel with
  | none => exact .none
  | @some a b hab =>
    refine .some ?_
    show T a (if j = i then g b else b)
    split
    · next hji => exact hself a b (hji ▸ hx) hab
    · next hji => exact hother i a b (Ne.symm hji) hx hab

/-- What stands in a longer list stood there before, or is the new element. -/
theorem getElem?_concat_cases {x a : α} {i : Nat} (h : (xs ++ [x])[i]? = some a) :
    xs[i]? = some a ∨ i = xs.length ∧ a = x := by
  rw [List.getElem?_append] at h
  split at h
  · exact .inl h
  · next hlt =>
    cases hi : i - xs.length with
    | zero =>
      rw [hi] at h
      exact .inr ⟨by omega, (Option.some.inj h).symm⟩
    | succ _ => rw [hi] at h; cases h

theorem getElem?_concat_of_getElem? {x a : α} {i : Nat} (h : xs[i]? = some a) :
    (xs ++ [x])[i]? = some a := by
  rw [List.getElem?_append_left (List.getElem?_eq_some_iff.1 h).1, h]

end NameCompletion
