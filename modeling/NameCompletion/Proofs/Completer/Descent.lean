import NameCompletion.Proofs.Completer.Offered

/-!
# Completion behind a name

What is completed behind the name of a record or a module is what is completed from its bindings
alone, with the name in front.

* `inside`: the completer that knows nothing but the bindings of a scope.
* `complete_behind`: one step down, for a text with a dot.
* `complete_under`: any number of steps, along names that a module binds to itself.

A text with a dot asks for members on both sides, so it is enough that the first segment leads to
the same value.  That fails only for the name of a module, which its bindings do not hold.  A text
without a dot asks for members on the one side and for global names on the other
(`complete_behind_record`).  `complete_descends` puts the cases together.
-/

namespace NameCompletion

/-- The fragment behind a name and a dot. -/
def Fragment.behind (name : String) : Fragment → Fragment
  | .global typed => .member [name] typed
  | .member path typed => .member (name :: path) typed
  | .invalid => .invalid

namespace Fragment

variable {name rest : String}

theorem segments_behind (hname : isWord name.toList = true) (rest : String) :
    segments (name ++ "." ++ rest) = name :: segments rest := by
  rw [segments_append_dot, segments_of_dot_not_mem (dot_not_mem_of_isWord hname)]
  rfl

/-- A dotted text behind a word is read as before, with a longer path. -/
theorem parse_behind (hname : isWord name.toList = true) (hdot : '.' ∈ rest.toList) :
    parse (name ++ "." ++ rest) = (parse rest).behind name := by
  obtain ⟨path, typed, hne, hsegments⟩ := exists_segments_of_dot_mem hdot
  have hlonger : segments (name ++ "." ++ rest) = (name :: path) ++ [typed] := by
    rw [segments_behind hname, hsegments]
    rfl
  rw [parse_of_segments hne hsegments, parse_of_segments (List.cons_ne_nil _ _) hlonger,
    List.all_cons, hname, Bool.true_and]
  split_ifs <;> rfl

/-- A text without a dot is the start of a member behind a word, if it can be the start of a name
at all. -/
theorem parse_behind_bare (hname : isWord name.toList = true) (hdot : '.' ∉ rest.toList) :
    parse (name ++ "." ++ rest) =
      if rest.toList.all isWordChar then .member [name] rest else .invalid := by
  have hsegments : segments (name ++ "." ++ rest) = [name] ++ [rest] := by
    rw [segments_behind hname, segments_of_dot_not_mem hdot]
    rfl
  rw [parse_of_segments (List.cons_ne_nil _ _) hsegments]
  simp [hname]

/-- The first segment of a dotted text that can be read starts its path. -/
theorem head?_segments_of_parse {path : List String} {typed : String}
    (h : parse rest = .member path typed) : (segments rest).head? = path.head? := by
  obtain ⟨hne, hpath, htyped, rfl⟩ := parse_eq_member_iff.1 h
  rw [segments_member hne hpath htyped, List.head?_append_of_ne_nil _ hne]

end Fragment

namespace Completer

open Fragment

/-- Completion from the bindings of a scope alone. -/
def inside (c : Completer) (scope : ScopeRef) : Completer where
  store := c.store
  globals := c.store.scope scope
  options := c.options

/-- A text behind names that are joined by dots. -/
def under (path : List String) (text : String) : String :=
  path.foldr (fun name text => name ++ "." ++ text) text

variable {c : Completer} {name first rest : String} {value : Value} {scope : ScopeRef}

/-- From the bindings of a scope alone, a name is bound to what the scope binds it to. -/
theorem global?_inside (c : Completer) (scope : ScopeRef) (name : String) :
    (c.inside scope).global? name = (c.store.scope scope).get? name :=
  Option.or_none

theorem global?_of_bound (hbound : c.globals.get? name = some value) :
    c.global? name = some value := by
  rw [global?, hbound, Option.some_or]

/-! ## One step down -/

/-- Behind a name, a path leads where it leads from the bindings that the name opens. -/
theorem resolve_behind (hbound : c.globals.get? name = some value)
    (hfirst : c.member? value first = (c.store.scope scope).get? first) (path : List String) :
    c.resolve (name :: first :: path) = (c.inside scope).resolve (first :: path) := by
  rw [resolve, global?_of_bound hbound, Option.bind_some, List.foldlM_cons, hfirst, resolve,
    global?_inside]
  rfl

/-- Completing a dotted text behind a name is completing it from the bindings that the name
opens. -/
theorem complete_behind (hname : isWord name.toList = true)
    (hbound : c.globals.get? name = some value) (hdot : '.' ∈ rest.toList)
    (hfirst : ∀ first, (segments rest).head? = some first →
      c.member? value first = (c.store.scope scope).get? first) :
    c.complete (name ++ "." ++ rest) =
      ((c.inside scope).complete rest).map fun text => name ++ "." ++ text := by
  rw [complete_eq, complete_eq, parse_behind hname hdot, List.map_map]
  cases hparse : parse rest with
  | global typed => exact absurd hdot (parse_eq_global_iff.1 hparse).2
  | member path typed =>
    have hne : path ≠ [] := (parse_eq_member_iff.1 hparse).1
    have hresolve : c.resolve (name :: path) = (c.inside scope).resolve path := by
      obtain ⟨first, path, rfl⟩ := List.exists_cons_of_ne_nil hne
      exact resolve_behind hbound (hfirst first (head?_segments_of_parse hparse)) path
    have hfront : (Fragment.member (name :: path) typed).front =
        name ++ "." ++ (Fragment.member path typed).front := by
      simp only [front, joinPath_cons name hne, String.append_assoc]
    show List.map _ (c.offeredNames (.member (name :: path) typed)) = _
    rw [offeredNames_member_congr (d := c) (c := c.inside scope) rfl rfl hresolve]
    refine List.map_congr_left fun n _ => ?_
    show (Fragment.member (name :: path) typed).front ++ n ++
      c.offeredMark (.member (name :: path) typed) n = _
    rw [offeredMark_member_congr (d := c) (c := c.inside scope) rfl rfl hresolve, hfront]
    simp only [Function.comp_apply, String.append_assoc]
  | invalid => rfl

/-- The members of a record are the global names of its fields, provided that nothing is hidden and
no keyword is added. -/
theorem offeredNames_record {fields : ScopeRef}
    (hbound : c.globals.get? name = some (.record fields))
    (hprivate : c.options.showPrivate = true) (hkeywords : c.options.keywords = [])
    (typed : String) :
    c.offeredNames (.member [name] typed) = (c.inside fields).offeredNames (.global typed) := by
  have hresolve : c.resolve [name] = some (.record fields) := by
    rw [resolve_singleton, global?_of_bound hbound]
  refine offeredNames_ext fun n => ?_
  rw [offeredNames_listed typed hresolve rfl, mem_shownNames, shown_eq_all (.inl hprivate)]
  show _ ↔ n ∈ (c.inside fields).shownGlobals typed
  rw [mem_shownGlobals]
  constructor
  · rintro ⟨hlisted, hident, hstart, _⟩
    exact ⟨hident, hstart, .inr (.inl hlisted)⟩
  · rintro ⟨hident, hstart, hkeyword | hlisted | ⟨_, hnone, _⟩⟩
    · rw [show (c.inside fields).options.keywords = [] from hkeywords] at hkeyword
      exact absurd hkeyword List.not_mem_nil
    · exact ⟨hlisted, hident, hstart, _, rfl⟩
    · cases hnone

theorem offeredMark_record {fields : ScopeRef}
    (hbound : c.globals.get? name = some (.record fields))
    (hkeywords : c.options.keywords = []) (typed n : String) :
    c.offeredMark (.member [name] typed) n = (c.inside fields).offeredMark (.global typed) n := by
  have hresolve : c.resolve [name] = some (.record fields) := by
    rw [resolve_singleton, global?_of_bound hbound]
  have hcallable : c.CallableMember (.record fields) n ↔ (c.inside fields).CallableGlobal n := by
    rw [CallableGlobal, resolve_singleton, global?_inside, CallableMember]
    simp only [Value.member, Except.ok.injEq]
    rfl
  rw [offeredMark_of_resolve typed n hresolve, offeredMark]
  unfold memberMark globalMark
  rw [show (c.inside fields).options = c.options from rfl, hkeywords]
  cases c.options.decorate <;> simp [hcallable]

/-- Completing the start of a name behind a record is completing it from the fields. -/
theorem complete_behind_record {fields : ScopeRef} (hname : isWord name.toList = true)
    (hbound : c.globals.get? name = some (.record fields)) (hdot : '.' ∉ rest.toList)
    (hprivate : c.options.showPrivate = true) (hkeywords : c.options.keywords = []) :
    c.complete (name ++ "." ++ rest) =
      ((c.inside fields).complete rest).map fun text => name ++ "." ++ text := by
  rw [complete_eq, complete_eq, parse_behind_bare hname hdot, parse_of_dot_not_mem hdot,
    List.map_map]
  split_ifs with hword
  · rw [offeredNames_record hbound hprivate hkeywords]
    refine List.map_congr_left fun n _ => ?_
    rw [offeredMark_record hbound hkeywords]
    simp [front, joinPath, String.append_assoc]
  · have hnone : (c.inside fields).offeredNames (.global rest) = [] :=
      List.eq_nil_iff_forall_not_mem.2 fun _ hn => hword (all_isWordChar_typed hn)
    rw [hnone]
    rfl

/-! ## Along names that a module binds to itself -/

/-- A module has its bindings as members; its name is one more member unless it is bound. -/
theorem member?_module {m : Module}
    (h : first = "__name__" → first ∈ (c.store.scope m.scope).names) :
    c.member? (.module m) first = (c.store.scope m.scope).get? first := by
  show ((c.store.scope m.scope).get? first).or (Value.special "__name__" first _) = _
  by_cases hname : first = "__name__"
  · obtain ⟨value, hvalue⟩ := Option.isSome_iff_exists.1 (Bindings.mem_names_iff.1 (h hname))
    rw [hvalue, Option.some_or]
  · rw [Value.special, if_neg hname, Option.or_none]

theorem dot_mem_under (path : List String) (hdot : '.' ∈ rest.toList) :
    '.' ∈ (under path rest).toList := by
  induction path with
  | nil => exact hdot
  | cons name path _ => simp [under]

/-- Completing behind a module, and behind any names that the module binds to itself, is completing
from its bindings. -/
theorem complete_under {m : Module} (selves : List String) (hname : isWord name.toList = true)
    (hbound : c.globals.get? name = some (.module m))
    (hselves : ∀ self ∈ selves, isWord self.toList = true ∧
      (c.store.scope m.scope).get? self = some (.module m))
    (hdot : '.' ∈ rest.toList)
    (hfirst : (segments rest).head? = some "__name__" →
      "__name__" ∈ (c.store.scope m.scope).names) :
    c.complete (under (name :: selves) rest) =
      ((c.inside m.scope).complete rest).map (under (name :: selves)) := by
  induction selves generalizing c name with
  | nil =>
    refine complete_behind hname hbound hdot fun first hhead => member?_module ?_
    rintro rfl
    exact hfirst hhead
  | cons self selves ih =>
    obtain ⟨⟨hself, hbinds⟩, hrest⟩ := List.forall_mem_cons.1 hselves
    have hinner := ih (c := c.inside m.scope) hself hbinds hrest hfirst
    have houter : c.complete (name ++ "." ++ under (self :: selves) rest) =
        ((c.inside m.scope).complete (under (self :: selves) rest)).map
          fun text => name ++ "." ++ text := by
      refine complete_behind hname hbound (dot_mem_under _ hdot) fun first hhead => ?_
      -- The first segment is bound to the module again, whatever it is called.
      have hhead' : some self = some first := by
        rw [← hhead]
        show _ = (segments (self ++ "." ++ under selves rest)).head?
        rw [segments_behind hself]
        rfl
      obtain rfl := Option.some.inj hhead'
      refine member?_module fun _ => Bindings.mem_names_iff.2 ?_
      rw [hbinds]
      rfl
    show c.complete (name ++ "." ++ under (self :: selves) rest) = _
    rw [houter, hinner, List.map_map]
    rfl

/-! ## The main result -/

/-- What is completed behind the name of a record is what is completed from its fields, for every
text with a dot, and without one if nothing is hidden and no keyword is added.  Behind the name of a
module it is what is completed from its bindings, for every text with a dot that does not ask for
the name of the module, and so it is behind any number of names that the module binds to itself. -/
theorem complete_descends (c : Completer) {name : String} (hname : isWord name.toList = true) :
    (∀ fields, c.globals.get? name = some (.record fields) → ∀ rest : String,
      '.' ∈ rest.toList ∨ c.options.showPrivate = true ∧ c.options.keywords = [] →
        c.complete (name ++ "." ++ rest) =
          ((c.inside fields).complete rest).map fun text => name ++ "." ++ text) ∧
      ∀ m, c.globals.get? name = some (.module m) → ∀ rest : String, '.' ∈ rest.toList →
        ((segments rest).head? = some "__name__" → "__name__" ∈ (c.store.scope m.scope).names) →
          c.complete (name ++ "." ++ rest) =
              ((c.inside m.scope).complete rest).map (fun text => name ++ "." ++ text) ∧
            ∀ selves : List String, (∀ self ∈ selves, isWord self.toList = true ∧
                (c.store.scope m.scope).get? self = some (.module m)) →
              c.complete (under (name :: selves) rest) =
                ((c.inside m.scope).complete rest).map (under (name :: selves)) := by
  constructor
  · intro fields hbound rest hrest
    by_cases hdot : '.' ∈ rest.toList
    · exact complete_behind hname hbound hdot fun _ _ => rfl
    · obtain ⟨hprivate, hkeywords⟩ := hrest.resolve_left hdot
      exact complete_behind_record hname hbound hdot hprivate hkeywords
  · intro m hbound rest hdot hfirst
    refine ⟨?_, fun selves hselves => complete_under selves hname hbound hselves hdot hfirst⟩
    exact complete_under [] hname hbound (List.forall_mem_nil _) hdot hfirst

/-- A record beside a module that binds the record and itself; a builtin has the record's name. -/
def selfBound : Completer :=
  let (fields, s) := Store.empty.newScope (.ofList [("host", .null), ("2x", .null)])
  let (scope, s) := s.newScope ∅
  let main := Module.mk "main" scope
  let bindings : Namespace := .ofList [("cfg", .record fields), ("self", .module main)]
  { store := s.setScope scope bindings
    globals := .ofList [("cfg", .record fields), ("m", .module main)]
    builtins := some (.ofList [("cfg", .null)])
    options := { showPrivate := true } }

/-- The fields of the record are completed behind its name, and behind the module inside itself. -/
theorem self_bound_descends :
    isWord "cfg".toList = true ∧ selfBound.globals.get? "cfg" = some (.record ⟨0⟩) ∧
      selfBound.complete "cfg.h" = ["cfg.host"] ∧
      selfBound.complete ("cfg" ++ "." ++ "h") =
        ((selfBound.inside ⟨0⟩).complete "h").map (fun text => "cfg" ++ "." ++ text) ∧
      isWord "m".toList = true ∧ selfBound.globals.get? "m" = some (.module ⟨"main", ⟨1⟩⟩) ∧
      selfBound.complete (under ["m", "self", "self"] "cfg.h") =
        ((selfBound.inside ⟨1⟩).complete "cfg.h").map (under ["m", "self", "self"]) := by
  have hcfg : isWord "cfg".toList = true := by decide +kernel
  have hm : isWord "m".toList = true := by decide +kernel
  have hrecord : selfBound.globals.get? "cfg" = some (.record ⟨0⟩) := by rfl
  have hmodule : selfBound.globals.get? "m" = some (.module ⟨"main", ⟨1⟩⟩) := by rfl
  have hanswer : selfBound.complete "cfg.h" = ["cfg.host"] := by decide +kernel
  have hbehind := (complete_descends selfBound hcfg).1 ⟨0⟩ hrecord "h" (.inr ⟨rfl, rfl⟩)
  have hdot : '.' ∈ "cfg.h".toList := by decide +kernel
  have hfirst : (segments "cfg.h").head? ≠ some "__name__" := by decide +kernel
  have hselves : ∀ self ∈ ["self", "self"], isWord self.toList = true ∧
      (selfBound.store.scope ⟨1⟩).get? self = some (.module ⟨"main", ⟨1⟩⟩) := by
    simp only [List.mem_cons, List.not_mem_nil, or_false, or_self, forall_eq]
    exact ⟨by decide +kernel, by rfl⟩
  have hunder := ((complete_descends selfBound hm).2 _ hmodule "cfg.h" hdot
    fun h => absurd h hfirst).2 ["self", "self"] hselves
  exact ⟨hcfg, hrecord, hanswer, hbehind, hm, hmodule, hunder⟩

end Completer

end NameCompletion
