import NameCompletion.Proofs.Completer.Equality

/-!
# Builtins behind the global names

Shadowing is done in two places: the candidates for a bare name go through the global names before
the builtins, and the first segment of a path is looked up in the one before the other.  Both come
to the same, namely to one set of bindings in which the global names lie over the builtins.

* `complete_congr`: completion depends on global names and builtins only through what a name is
  bound to.
* `complete_with_builtins`: so it is completion from the merged bindings.
-/

namespace NameCompletion.Completer

/-- Completers that agree on what every name is bound to give the same answers. -/
theorem complete_congr {c d : Completer} (hstore : d.store = c.store)
    (hoptions : d.options = c.options) (hglobal : ∀ n, d.global? n = c.global? n) (text : String) :
    d.complete text = c.complete text :=
  complete_eq_of_rel (isBisimulation_eq _) hstore hoptions (fun n => hglobal n ▸ rel_eq _) text

/-! ## The main result -/

/-- Completion with builtins is completion from the builtins with the global names put over them,
where a global name hides the builtin of the same name. -/
theorem complete_with_builtins (store : Store) (names builtins : Namespace) (options : Options)
    (text : String) :
    (∀ n, (builtins.extend names.toList).get? n = (names.get? n).or (builtins.get? n)) ∧
      Completer.complete { store, globals := names, builtins := some builtins, options } text =
        Completer.complete { store, globals := builtins.extend names.toList, options } text := by
  have hover : ∀ n, (builtins.extend names.toList).get? n =
      (names.get? n).or (builtins.get? n) := builtins.get?_extend_toList names
  refine ⟨hover, ?_⟩
  apply complete_congr
  case hstore => rfl
  case hoptions => rfl
  case hglobal =>
    intro n
    show (names.get? n).or (builtins.get? n) = ((builtins.extend names.toList).get? n).or none
    rw [hover, Option.or_none]

end NameCompletion.Completer
