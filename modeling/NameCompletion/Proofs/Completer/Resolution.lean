import Mathlib.Data.List.Induction
import NameCompletion.Completer

/-!
# What a path leads to

`LeadsTo` says it step by step: the first segment names a global value, or else a builtin, and every
later segment names a member of the value before it.  `resolve_eq_some_iff` shows that resolving a
path finds exactly that value.
-/

namespace NameCompletion.Completer

/-- The path leads to the value. -/
inductive LeadsTo (c : Completer) : List String → Value → Prop where
  | global {name : String} {value : Value} (bound : c.globals.get? name = some value) :
      LeadsTo c [name] value
  | builtin {name : String} {value : Value} {names : Namespace}
      (unbound : c.globals.get? name = none) (given : c.builtins = some names)
      (bound : names.get? name = some value) : LeadsTo c [name] value
  | member {path : List String} {base value : Value} {name : String} (start : LeadsTo c path base)
      (found : base.member c.store name = .ok (some value)) : LeadsTo c (path ++ [name]) value

/-- A global name hides a builtin of the same name. -/
theorem leadsTo_of_global? {c : Completer} {name : String} {value : Value}
    (h : c.global? name = some value) : c.LeadsTo [name] value := by
  unfold global? at h
  cases hbound : c.globals.get? name with
  | some found =>
    rw [hbound] at h
    exact .global (hbound.trans h)
  | none =>
    rw [hbound, Option.none_or] at h
    obtain ⟨names, hgiven, hfound⟩ := Option.bind_eq_some_iff.1 h
    exact .builtin hbound hgiven hfound

theorem member?_eq_some_iff {c : Completer} {base value : Value} {name : String} :
    c.member? base name = some value ↔ base.member c.store name = .ok (some value) := by
  unfold member?
  split
  · next found hread => simp [hread]
  · next hread => simp [hread]

theorem resolve_singleton (c : Completer) (name : String) :
    c.resolve [name] = c.global? name := by
  simp [resolve]

/-- Resolving a longer path reads one more member. -/
theorem resolve_append_singleton (c : Completer) {path : List String} (hne : path ≠ [])
    (name : String) :
    c.resolve (path ++ [name]) = (c.resolve path).bind fun base => c.member? base name := by
  obtain ⟨first, rest, rfl⟩ := List.exists_cons_of_ne_nil hne
  simp only [List.cons_append, resolve, Option.bind_assoc]
  congr 1
  funext base
  rw [List.foldlM_append]
  simp

theorem leadsTo_of_resolve {c : Completer} {path : List String} {value : Value}
    (h : c.resolve path = some value) : c.LeadsTo path value := by
  induction path using List.reverseRecOn generalizing value with
  | nil => cases h
  | append_singleton path name ih =>
    by_cases hne : path = []
    · subst hne
      rw [List.nil_append, resolve_singleton] at h
      exact leadsTo_of_global? h
    · rw [resolve_append_singleton c hne] at h
      obtain ⟨base, hbase, hfound⟩ := Option.bind_eq_some_iff.1 h
      exact .member (ih hbase) (member?_eq_some_iff.1 hfound)

theorem LeadsTo.ne_nil {c : Completer} {path : List String} {value : Value}
    (h : c.LeadsTo path value) : path ≠ [] := by
  cases h <;> simp

/-- Resolving a path finds exactly the value that the path leads to. -/
theorem resolve_eq_some_iff {c : Completer} {path : List String} {value : Value} :
    c.resolve path = some value ↔ c.LeadsTo path value := by
  refine ⟨leadsTo_of_resolve, fun h => ?_⟩
  induction h with
  | global bound => rw [resolve_singleton, global?, bound, Option.some_or]
  | builtin unbound given bound =>
    rw [resolve_singleton, global?, unbound, Option.none_or, given, Option.bind_some, bound]
  | member start found ih =>
    rw [resolve_append_singleton c start.ne_nil, ih, Option.bind_some]
    exact member?_eq_some_iff.2 found

theorem resolve_eq_none_iff {c : Completer} {path : List String} :
    c.resolve path = none ↔ ∀ value, ¬ c.LeadsTo path value := by
  rw [Option.eq_none_iff_forall_ne_some]
  exact forall_congr' fun value => not_congr resolve_eq_some_iff

end NameCompletion.Completer
