/-!
# Bindings: finite maps in name order

`Bindings α` maps names to values of type `α`.  The entries are kept in strictly ascending order
of their names (by code point, which is also the order of their UTF-8 bytes), so two histories
that leave the same bindings leave equal values, and listing the names needs no sorting.  What can
be done to bindings is an `Operation`.

The lemmas say what the operations do to the entries and to look-up: entries stay ascending and are
new ones or old ones (`mem_toList_insert`), and a change affects the names that it is made for and
no other (`get?_insert`, `get?_erase`, `get?_extend`).
-/

universe u v

namespace NameCompletion

namespace Bindings

/-- Entries in strictly ascending order of their names. -/
def Ascending {α : Type u} (entries : List (String × α)) : Prop :=
  entries.Pairwise fun a b => a.1 < b.1

/-- Puts an entry at its place in ascending entries; an entry of the same name is replaced. -/
def insertEntry {α : Type u} (name : String) (value : α) :
    List (String × α) → List (String × α)
  | [] => [(name, value)]
  | entry :: rest =>
    if name < entry.1 then (name, value) :: entry :: rest
    else if name = entry.1 then (name, value) :: rest
    else entry :: insertEntry name value rest

theorem mem_of_mem_insertEntry {α : Type u} {name : String} {value : α} {e : String × α} :
    ∀ {entries : List (String × α)}, e ∈ insertEntry name value entries →
      e = (name, value) ∨ e ∈ entries
  | [], h => by simpa [insertEntry] using h
  | entry :: rest, h => by
    rw [insertEntry] at h
    split at h
    · simpa using h
    · split at h
      · rcases List.mem_cons.1 h with h | h
        · exact .inl h
        · exact .inr (List.mem_cons_of_mem _ h)
      · rcases List.mem_cons.1 h with h | h
        · exact .inr (h ▸ List.mem_cons_self ..)
        · exact (mem_of_mem_insertEntry h).imp id (List.mem_cons_of_mem _)

/-- Of two names that differ, the one that is not smaller is larger. -/
theorem lt_of_not_lt_of_ne {a b : String} (h : ¬ a < b) (hne : a ≠ b) : b < a :=
  Classical.byContradiction fun hba => hne (String.le_antisymm (a := a) hba h)

theorem Ascending.insertEntry {α : Type u} {name : String} {value : α} :
    ∀ {entries : List (String × α)}, Ascending entries →
      Ascending (insertEntry name value entries)
  | [], _ => by simp [Bindings.insertEntry, Ascending]
  | entry :: rest, h => by
    obtain ⟨hhead, hrest⟩ := List.pairwise_cons.1 h
    rw [Bindings.insertEntry]
    split
    · next hlt =>
      refine List.pairwise_cons.2 ⟨fun e he => ?_, h⟩
      rcases List.mem_cons.1 he with rfl | he
      · exact hlt
      · exact String.lt_trans hlt (hhead e he)
    · next hnlt =>
      split
      · next heq =>
        exact List.pairwise_cons.2 ⟨fun e he => heq ▸ hhead e he, hrest⟩
      · next hne =>
        refine List.pairwise_cons.2 ⟨fun e he => ?_, Ascending.insertEntry hrest⟩
        rcases mem_of_mem_insertEntry he with rfl | he
        · exact lt_of_not_lt_of_ne hnlt hne
        · exact hhead e he

end Bindings

/-- A finite map from names to values, its entries in ascending order of the names. -/
structure Bindings (α : Type u) where
  toList : List (String × α)
  ascending : Bindings.Ascending toList := by exact List.Pairwise.nil

namespace Bindings

variable {α : Type u} {β : Type v}

/-- No binding at all. -/
def empty : Bindings α where
  toList := []

instance : EmptyCollection (Bindings α) := ⟨empty⟩

instance : Inhabited (Bindings α) := ⟨empty⟩

/-- The bound names, ascending. -/
def names (b : Bindings α) : List String :=
  b.toList.map Prod.fst

/-- How many names are bound. -/
def size (b : Bindings α) : Nat :=
  b.toList.length

/-- Whether nothing is bound. -/
def isEmpty (b : Bindings α) : Bool :=
  b.toList.isEmpty

/-- The value bound to a name. -/
def get? (b : Bindings α) (name : String) : Option α :=
  (b.toList.find? fun e => e.1 == name).map Prod.snd

/-- Whether the name is bound. -/
def contains (b : Bindings α) (name : String) : Bool :=
  (b.get? name).isSome

/-- Binds a name, in place of what it was bound to before. -/
def insert (b : Bindings α) (name : String) (value : α) : Bindings α where
  toList := insertEntry name value b.toList
  ascending := b.ascending.insertEntry

/-- Unbinds a name. -/
def erase (b : Bindings α) (name : String) : Bindings α where
  toList := b.toList.filter fun e => e.1 != name
  ascending := List.Pairwise.filter _ b.ascending

/-- Binds the pairs one after the other, so that the last pair of a name counts. -/
def extend (b : Bindings α) (pairs : List (String × α)) : Bindings α :=
  pairs.foldl (fun b e => b.insert e.1 e.2) b

/-- The bindings that pairs describe; the last pair of a name counts. -/
def ofList (pairs : List (String × α)) : Bindings α :=
  empty.extend pairs

/-- What can be done to bindings. -/
inductive Operation (α : Type u) where
  /-- Binds a name and gives back what it was bound to before. -/
  | insert (name : String) (value : α)
  /-- Binds a name and gives nothing back. -/
  | add (name : String) (value : α)
  /-- Unbinds a name and gives back what it was bound to. -/
  | remove (name : String)
  /-- Binds pairs one after the other. -/
  | extend (pairs : List (String × α))
  /-- Starts anew from pairs. -/
  | collect (pairs : List (String × α))

/-- What an operation gives back, and the bindings after it. -/
def perform (b : Bindings α) : Operation α → Option α × Bindings α
  | .insert name value => (b.get? name, b.insert name value)
  | .add name value => (none, b.insert name value)
  | .remove name => (b.get? name, b.erase name)
  | .extend pairs => (none, b.extend pairs)
  | .collect pairs => (none, ofList pairs)

/-- An entry that was inserted is the new one or was there before. -/
theorem mem_toList_insert {b : Bindings α} {name : String} {value : α} {e : String × α}
    (h : e ∈ (b.insert name value).toList) : e = (name, value) ∨ e ∈ b.toList :=
  mem_of_mem_insertEntry h

/-- An entry of extended bindings is one of the pairs or was there before. -/
theorem mem_toList_extend {e : String × α} :
    ∀ {pairs : List (String × α)} {b : Bindings α}, e ∈ (b.extend pairs).toList →
      e ∈ pairs ∨ e ∈ b.toList
  | [], _, h => .inr h
  | p :: pairs, b, h => by
    have h : e ∈ ((b.insert p.1 p.2).extend pairs).toList := h
    rcases mem_toList_extend h with h | h
    · exact .inl (List.mem_cons_of_mem _ h)
    · rcases mem_toList_insert h with rfl | h
      · exact .inl (List.mem_cons_self ..)
      · exact .inr h

/-- Every entry comes from the pairs. -/
theorem mem_of_mem_ofList {pairs : List (String × α)} {e : String × α}
    (h : e ∈ (ofList pairs).toList) : e ∈ pairs :=
  (mem_toList_extend h).resolve_right (by simp [empty])

/-- A value that is found is that of an entry. -/
theorem mem_toList_of_get? {b : Bindings α} {name : String} {value : α}
    (h : b.get? name = some value) : (name, value) ∈ b.toList := by
  obtain ⟨e, he, rfl⟩ := Option.map_eq_some_iff.1 h
  have hname : e.1 = name := by simpa using List.find?_some he
  exact hname ▸ List.mem_of_find?_eq_some he

/-- The names are listed in strictly ascending order. -/
theorem pairwise_names (b : Bindings α) : b.names.Pairwise (· < ·) :=
  List.pairwise_map.2 b.ascending

/-- The names that are listed are those that are bound. -/
theorem mem_names_iff {b : Bindings α} {name : String} :
    name ∈ b.names ↔ (b.get? name).isSome = true := by
  simp only [names, get?, List.mem_map, Option.isSome_map, List.find?_isSome, beq_iff_eq]

/-- Nothing is found under the other names. -/
theorem get?_eq_none_iff {b : Bindings α} {name : String} :
    b.get? name = none ↔ name ∉ b.names := by
  rw [mem_names_iff, Option.not_isSome_iff_eq_none]

theorem find?_insertEntry (name other : String) (value : α) :
    ∀ entries : List (String × α),
      ((insertEntry name value entries).find? fun e => e.1 == other) =
        if other = name then some (name, value) else entries.find? fun e => e.1 == other
  | [] => by
    by_cases h : name = other
    · simp [insertEntry, h]
    · simp [insertEntry, h, Ne.symm h]
  | entry :: rest => by
    rw [insertEntry]
    split
    · by_cases h : name = other
      · simp [h]
      · simp [h, Ne.symm h]
    · split
      · next heq =>
        by_cases h : name = other
        · simp [h]
        · simp [← heq, h, Ne.symm h]
      · next hne =>
        rw [List.find?_cons, find?_insertEntry name other value rest, List.find?_cons]
        by_cases h : other = name
        · have hhead : (entry.1 == other) = false := by simp [h, Ne.symm hne]
          rw [hhead, if_pos h]
        · simp [h]

/-- Binding a name changes what that name is bound to and nothing else. -/
theorem get?_insert (b : Bindings α) (name other : String) (value : α) :
    (b.insert name value).get? other = if other = name then some value else b.get? other := by
  simp only [get?, insert, find?_insertEntry]
  split <;> rfl

/-- Unbinding a name changes what that name is bound to and nothing else. -/
theorem get?_erase (b : Bindings α) (name other : String) :
    (b.erase name).get? other = if other = name then none else b.get? other := by
  simp only [get?, erase, List.find?_filter]
  by_cases h : other = name
  · subst h
    simp
  · rw [if_neg h]
    congr 2
    funext e
    by_cases he : e.1 = other
    · simp [he, h]
    · simp [he]

/-- No name is listed twice. -/
theorem nodup_names (b : Bindings α) : b.names.Nodup :=
  List.Pairwise.imp (fun {_ _} hlt => by
    rintro rfl
    exact String.lt_irrefl _ hlt) b.pairwise_names

/-- Binding pairs of different names changes what their names are bound to and nothing else. -/
theorem get?_extend {pairs : List (String × α)} (h : (pairs.map Prod.fst).Nodup) (b : Bindings α)
    (name : String) :
    (b.extend pairs).get? name =
      ((pairs.find? fun e => e.1 == name).map Prod.snd).or (b.get? name) := by
  induction pairs generalizing b with
  | nil => rfl
  | cons p rest ih =>
    obtain ⟨hhead, hrest⟩ := List.nodup_cons.1 h
    have hstep : (b.extend (p :: rest)).get? name =
        ((b.insert p.1 p.2).extend rest).get? name := rfl
    rw [hstep, ih hrest, get?_insert, List.find?_cons]
    by_cases hname : p.1 = name
    · -- No later pair has the name again.
      have hlater : rest.find? (fun e => e.1 == name) = none := by
        refine List.find?_eq_none.2 fun e he heq => hhead ?_
        rw [hname, ← beq_iff_eq.1 heq]
        exact List.mem_map_of_mem he
      rw [hlater, if_pos hname.symm, beq_iff_eq.2 hname]
      rfl
    · rw [if_neg (Ne.symm hname), beq_eq_false_iff_ne.2 hname]

/-- Bindings that are put over others hide those of the same names. -/
theorem get?_extend_toList (b upper : Bindings α) (name : String) :
    (b.extend upper.toList).get? name = (upper.get? name).or (b.get? name) :=
  get?_extend upper.nodup_names b name

end Bindings

end NameCompletion
