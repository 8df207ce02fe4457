import NameCompletion.Proofs.Completer.Equality
import NameCompletion.Proofs.Prompt.LetLine
import NameCompletion.Proofs.Prompt.Script
import NameCompletion.Proofs.Session.Opening
import NameCompletion.Proofs.Snapshot.Navigation
import NameCompletion.Proofs.Snapshot.Normal

/-!
# Snapshots typed by hand

Instead of loading a snapshot, one can type a line for each of its entries, in any order and with
any spelling of the values.  Completion does not tell the difference, although no two values of the
two sessions are in the same cells.

* `readCommand_letLine`: what a line for an entry is read as.
* `exists_performAll_letLines`: what the session holds after all lines.
* `typed_like_loaded`: names and completions are those of the loaded snapshot.
* `blank_dropped_by_typing`: a name with a blank in front loses it when it is typed.
-/

namespace NameCompletion

open Snapshot (Reads StandsFor)

namespace Prompt

/-! ## A line for an entry -/

/-- The line that binds a name to a value written in JSON. -/
def letLine (e : String × String) : String :=
  "let " ++ e.1 ++ " = " ++ e.2

/-- The line is read as the binding that it looks like. -/
theorem readCommand_letLine {s s' : Store} {e : String × String} {j : Json} {v : Value}
    (hname : readName e.1.toList = .ok e.1) (hparse : Json.parse? e.2 = some j)
    (hload : Snapshot.loadValue s j = .ok (v, s')) :
    readCommand s (letLine e) = .ok (.assign e.1 v, s') := by
  obtain ⟨_, hword, hdigit⟩ := readName_eq_ok_iff.1 hname
  obtain ⟨front, written, rest, hvalue, hfront, hbare, hrest, hwritten⟩ :=
    Json.exists_of_parse? hparse
  let binding := [] ++ e.1.toList ++ [' '] ++ '=' :: (' ' :: front ++ written)
  -- Trimming the line takes off what follows the value, and nothing else.
  have htrim : Text.trimChars (letLine e).toList = "let ".toList ++ binding := by
    have hline : (letLine e).toList = [] ++ ("let ".toList ++ binding) ++ rest := by
      simp [letLine, binding, hvalue]
    have hends : Text.Bare ("let ".toList ++ binding) := by
      have hfirst : Text.Bare ['l'] := Text.bare_singleton (by decide)
      have happend := hfirst.append hbare
        (['e', 't', ' '] ++ e.1.toList ++ [' ', '=', ' '] ++ front)
      simpa [binding] using happend
    rw [hline]
    exact Text.trimChars_append nofun hends hrest
  have hblanks : ∀ c ∈ [] ++ [' '] ++ ' ' :: front, Text.isBlank c = true := by
    have hspace : Text.isBlank ' ' = true := by decide
    simpa [hspace] using hfront
  have hwrites : IsLetLine (letLine e) e.1 (String.ofList written) :=
    ⟨hword, hdigit, [], [' '], ' ' :: front,
      by rw [htrim, String.toList_ofList (l := written)], hblanks⟩
  exact readCommand_of_isLetLine hwrites hwritten hload

/-! ## Performing the lines -/

section

variable {session : Session} {s : Store} {m : Module}

/-- A line for an entry binds its name. -/
theorem perform_letLine (hmain : session.WithMain s m) {s' : Store} {e : String × String} {j : Json}
    {v : Value} (hname : readName e.1.toList = .ok e.1) (hparse : Json.parse? e.2 = some j)
    (hload : Snapshot.loadValue s j = .ok (v, s')) :
    perform session s (letLine e) =
      (.done (.assign e.1 v) (some ""), (s'.bind m.scope e.1 v).2) := by
  have hread := readCommand_letLine hname hparse hload
  have hfound : session.module? s' mainModule = some m :=
    (extends_readCommand hread).module? hmain.registered
  refine perform_of_execute hread ?_
  rw [execute, Session.inject_of_module? hfound]

/-- What comes of a line that binds a name. -/
def bound (p : String × Value) : Outcome :=
  .done (.assign p.1 p.2) (some "")

/-- The entries can be typed: they are entries of the document, with names that the prompt reads as
they are and with values in any spelling. -/
structure Typeable (document : Json) (entries : List (String × String)) : Prop where
  names : ∀ e ∈ entries, readName e.1.toList = .ok e.1
  values : ∀ e ∈ entries, ∃ j j', document.field? e.1 = some j ∧ Json.parse? e.2 = some j' ∧
    j.Same j'

/-- The value stands for the document; it was made when the main module was there already. -/
def TypedFor (session : Session) (m : Module) (now : Store) (v : Value) (j : Json) : Prop :=
  ∃ start, session.WithMain start m ∧ StandsFor start now v j

/-- Every line is executed.  Together they bind the names of the entries, each to a value that
stands for the entry of that name. -/
theorem exists_performAll_letLines {document : Json} {entries : List (String × String)}
    (hmain : session.WithMain s m) (htypeable : Typeable document entries)
    (hreadable : ∀ name j, document.field? name = some j → ∃ d, Reads j d) :
    ∃ pairs : List (String × Value),
      (performAll session s (entries.map letLine)).1 = pairs.map bound ∧
      pairs.map Prod.fst = entries.map Prod.fst ∧
      ∀ p ∈ pairs, ∃ j, document.field? p.1 = some j ∧
        TypedFor session m (performAll session s (entries.map letLine)).2 p.2 j := by
  induction entries generalizing s with
  | nil => exact ⟨[], rfl, rfl, nofun⟩
  | cons e rest ih =>
    obtain ⟨j, j', hfield, hparse, hsame⟩ := htypeable.values e List.mem_cons_self
    obtain ⟨d, hread⟩ := hreadable e.1 j hfield
    have hload : ∀ i, Snapshot.readValue i = Snapshot.readValue j →
        Snapshot.loadValue s i = .ok ((d.build s).1, (d.build s).2) := by
      intro i hi
      rw [Snapshot.loadValue, hi, hread]
      rfl
    have hline := perform_letLine hmain (htypeable.names e List.mem_cons_self) hparse
      (hload j' (Snapshot.readValue_eq_of_same hsame).symm)
    have hothers := extendsBut_perform hmain (letLine e)
    have hmain' := hmain.of_extendsBut hothers
    have hrest : Typeable document rest :=
      ⟨fun e he => htypeable.names e (List.mem_cons_of_mem _ he),
        fun e he => htypeable.values e (List.mem_cons_of_mem _ he)⟩
    obtain ⟨pairs, houtcomes, hnames, hpairs⟩ := ih hmain' hrest
    refine ⟨(e.1, (d.build s).1) :: pairs, ?_, ?_, ?_⟩
    · rw [List.map_cons, performAll_cons, houtcomes, hline, List.map_cons]
      rfl
    · rw [List.map_cons, List.map_cons, hnames]
    · rw [List.map_cons, performAll_cons]
      intro p hp
      rcases List.mem_cons.1 hp with rfl | hp
      · refine ⟨j, hfield, s, hmain, ?_⟩
        -- The value is made first; binding it and the later lines change the main module only.
        have hmade : StandsFor s (d.build s).2 (d.build s).1 j :=
          ⟨s, _, .refl s, hload j rfl, .of_extends (.refl _)⟩
        have hbind : (d.build s).2.ExtendsBut m.scope (perform session s (letLine e)).2 := by
          rw [hline]
          exact Store.extendsBut_setScope _ _ _
        exact hmade.of_extendsBut hmain.scope_lt
          (hbind.trans (extendsBut_performAll hmain' _))
      · exact hpairs p hp

/-- After the lines the main module binds what they bind, if it was empty before. -/
theorem scope_performAll_letLines (hmain : session.WithMain s m) (hempty : s.scope m.scope = ∅)
    {lines : List String} {pairs : List (String × Value)}
    (houtcomes : (performAll session s lines).1 = pairs.map bound) :
    (performAll session s lines).2.scope m.scope = Bindings.ofList pairs := by
  rw [scope_performAll hmain, houtcomes, hempty, List.filterMap_map, Bindings.ofList,
    Bindings.extend]
  have hchanges : pairs.filterMap (Outcome.change? ∘ bound) =
      pairs.map fun p => Change.bind p.1 p.2 := by
    rw [← List.filterMap_eq_map]
    rfl
  rw [hchanges, List.foldl_map]
  rfl

end

/-! ## The main result -/

/-- The entries are all those of the document, each of them once. -/
structure Enumerates (document : Json) (entries : List (String × String)) : Prop
    extends Typeable document entries where
  nodup : (entries.map Prod.fst).Nodup
  complete : ∀ name, (document.field? name).isSome = true → name ∈ entries.map Prod.fst

/-- The sessions list the names, and with the same builtins and the same options they complete
alike. -/
structure Alike (typed loaded : Session) (now : Store) (names : List String) : Prop where
  builtins : now.scope typed.builtins = now.scope loaded.builtins
  typedNames : typed.names now mainModule = .ok names
  loadedNames : loaded.names now mainModule = .ok names
  completions : ∀ text, (typed.withOptions loaded.options).completions now text =
    loaded.completions now text

/-- Typed and loaded names are bound to values that stand for the same entries. -/
theorem rel_sameOrigin {document : Json} {names : Namespace} {entries : List (String × String)}
    {pairs : List (String × Value)} {start now : Store}
    (hentries : Enumerates document entries) (hnames : pairs.map Prod.fst = entries.map Prod.fst)
    (hpairs : ∀ p ∈ pairs, ∃ j, document.field? p.1 = some j ∧
      ∃ before, StandsFor before now p.2 j)
    (hloaded : ∀ n, Option.Rel (StandsFor start now) (names.get? n) (document.field? n))
    (n : String) :
    Option.Rel (SameOrigin now) ((Bindings.ofList pairs).get? n) (names.get? n) := by
  have htyped := Bindings.rel_get?_ofList (R := fun v j => ∃ before, StandsFor before now v j)
    (hnames ▸ hentries.nodup) (hnames ▸ hentries.complete) hpairs n
  refine rel_imp (rel_join htyped (hloaded n)) fun v w _ h => ?_
  obtain ⟨j, ⟨_, hv⟩, hw⟩ := h
  exact hv.sameOrigin hw

/-- Sessions look alike if their main modules bind values of one origin. -/
theorem alike_of_rel {typed loaded : Session} {now : Store} {main m : Module}
    (htyped : typed.module? now mainModule = some main)
    (hloaded : loaded.module? now mainModule = some m)
    (hbuiltins : now.scope typed.builtins = now.scope loaded.builtins)
    (hrel : ∀ n, Option.Rel (SameOrigin now) ((now.scope main.scope).get? n)
      ((now.scope m.scope).get? n)) :
    Alike typed loaded now (now.scope m.scope).names where
  builtins := hbuiltins
  typedNames := by rw [Session.names_of_module? htyped, Bindings.names_eq_of_rel hrel]
  loadedNames := Session.names_of_module? hloaded
  completions text := by
    have htyped' : (typed.withOptions loaded.options).module? now mainModule = some main := htyped
    rw [Session.completions_of_module? htyped', Session.completions_of_module? hloaded]
    congr 1
    apply Completer.complete_eq_of_rel (isBisimulation_built now)
    case hstore => rfl
    case hoptions => rfl
    case hglobal =>
      intro n
      have hbuiltin : Option.Rel (SameOrigin now) ((now.scope typed.builtins).get? n)
          ((now.scope loaded.builtins).get? n) := by
        rw [hbuiltins]
        exact rel_imp (rel_eq _) fun _ _ _ h => .inl h
      exact rel_or (hrel n) hbuiltin

/-- A session with a loaded snapshot and a new session in which a line was typed for each entry, in
any order, list the same names and complete alike. -/
theorem typed_like_loaded {loaded : Session} {s : Store} {m : Module} {text : String}
    {document : Json} {entries : List (String × String)} (hloaded : loaded.HoldsLoaded s m text)
    (hparse : Json.parse? text = some document) (hentries : Enumerates document entries) :
    let typed := (Session.create s).1
    let done := performAll typed (Session.create s).2 (entries.map letLine)
    let now := (typed.setBuiltins done.2 (done.2.scope loaded.builtins)).2
    (∃ pairs : List (String × Value), done.1 = pairs.map bound ∧
      pairs.map Prod.fst = entries.map Prod.fst) ∧
      Alike typed loaded now (s.scope m.scope).names := by
  intro typed done now
  obtain ⟨start, made, hload, hkeeps⟩ := hloaded.loaded
  rw [Snapshot.loadText, hparse] at hload
  -- Every entry can be read, since the whole document was.
  have hreadable : ∀ name j, document.field? name = some j → ∃ d, Reads j d := by
    intro name j hfield
    obtain ⟨v, _, hv⟩ :=
      exists_of_rel_right (Snapshot.rel_get?_of_loadNamespace hload hkeeps name) hfield
    obtain ⟨d, _, hread⟩ := hv.exists_built
    exact ⟨d, hread⟩
  have hnew := Session.isNew_create s
  obtain ⟨pairs, houtcomes, hnames, hpairs⟩ :=
    exists_performAll_letLines hnew.main hentries.toTypeable hreadable
  refine ⟨⟨pairs, houtcomes, hnames⟩, ?_⟩
  -- Nothing of this changes a cell that the loaded session knows.
  have htyping := extendsBut_performAll hnew.main (entries.map letLine)
  have htyped := hnew.main.of_extendsBut htyping
  have hbuiltins : done.2.ExtendsBut typed.builtins now := Store.extendsBut_setScope _ _ _
  have hafter : s.Extends done.2 := hnew.others.of_extendsBut hnew.scope_le htyping
  have hnow : s.Extends now := hafter.of_extendsBut hnew.builtins_le hbuiltins
  have hscope : now.scope m.scope = s.scope m.scope := hnow.scope_eq hloaded.main.scope_lt
  rw [← hscope] at hload ⊢
  refine alike_of_rel (Store.get?_modules_of_extends hbuiltins.registries htyped.registered)
    (hnow.module? hloaded.main.registered) ?_ fun n => ?_
  · rw [hnow.scope_eq hloaded.main.builtins_lt, ← hafter.scope_eq hloaded.main.builtins_lt]
    exact Store.scope_setScope_self htyped.builtins_lt _
  · rw [hbuiltins.scope_eq htyped.builtins_ne.symm htyped.scope_lt,
      scope_performAll_letLines hnew.main hnew.empty houtcomes]
    refine rel_sameOrigin hentries hnames (fun p hp => ?_)
      (Snapshot.rel_get?_of_loadNamespace hload (hkeeps.extends hnow)) n
    obtain ⟨j, hfield, before, hbefore, hstands⟩ := hpairs p hp
    exact ⟨j, hfield, before, hstands.of_extendsBut hbefore.builtins_lt hbuiltins⟩

/-! ## Two snapshots -/

/-- A snapshot with two entries. -/
def pairText : String :=
  "\x7b\"z\": true, \"a\": \x7b\"b\": null\x7d\x7d"

/-- The entries of that snapshot. -/
def pairDocument : Json :=
  .object [("z", .boolean true), ("a", .object [("b", .null)])]

/-- What the snapshot is built of, in the order of the names. -/
def pairMembers : List (String × Description) :=
  [("a", .record [("b", .null)]), ("z", .boolean true)]

theorem readNamespace_pairDocument : Snapshot.readNamespace pairDocument = .ok pairMembers := by
  have hinner : Snapshot.readMembers [("b", .null)] = .ok [("b", .null)] :=
    Snapshot.readMembers_eq_ok_iff.2 (.cons ⟨rfl, Snapshot.reads_null⟩ .nil)
  exact Snapshot.readMembers_eq_ok_iff.2
    (.cons ⟨rfl, Snapshot.reads_record rfl hinner⟩ (.cons ⟨rfl, Snapshot.reads_boolean true⟩ .nil))

theorem enumerates_pairDocument :
    Enumerates pairDocument [("a", " \x7b \"b\":null\x7d"), ("z", "true ")] where
  names := by decide +kernel
  values e he := by
    rcases List.mem_pair.1 he with rfl | rfl
    · exact ⟨.object [("b", .null)], .object [("b", .null)], rfl, rfl, rfl⟩
    · exact ⟨.boolean true, .boolean true, rfl, rfl, rfl⟩
  nodup := by decide
  complete _ hname := Bindings.mem_names_iff.2 hname

/-- The lines for the two entries are typed in the other order, with more blanks. -/
theorem swapped_lines_alike :
    let built := Description.buildNamespace .empty pairMembers
    let loaded := Session.holding built.2 built.1
    let typed := Session.create loaded.2
    let done := performAll typed.1 typed.2 ["let a =  \x7b \"b\":null\x7d", "let z = true "]
    let now := (typed.1.setBuiltins done.2 (done.2.scope loaded.1.builtins)).2
    loaded.1.HoldsLoaded loaded.2 (Session.heldMain built.2 built.1) pairText ∧
      Enumerates pairDocument [("a", " \x7b \"b\":null\x7d"), ("z", "true ")] ∧
      Alike typed.1 loaded.1 now ["a", "z"] := by
  have hparse : Json.parse? pairText = some pairDocument := rfl
  have hloaded := Session.holdsLoaded_holding
    (Session.loadText_of_readNamespace hparse readNamespace_pairDocument .empty)
  exact ⟨hloaded, enumerates_pairDocument,
    (typed_like_loaded hloaded hparse enumerates_pairDocument).2⟩

/-- A session with a loaded name that starts with a blank. -/
def blankNamed : Session × Store :=
  Session.holding .empty (.ofList [(" a", .null)])

/-- A name with a blank in front is accepted, but without the blank, so the loaded snapshot binds
another name than the typed one. -/
theorem blank_dropped_by_typing :
    let typed := Session.create blankNamed.2
    let after := (performAll typed.1 typed.2 [letLine (" a", "null")]).2
    blankNamed.1.HoldsLoaded blankNamed.2 (Session.heldMain .empty (.ofList [(" a", .null)]))
        "\x7b\" a\": null\x7d" ∧
      readName " a".toList = .ok "a" ∧
      blankNamed.1.names after mainModule = .ok [" a"] ∧
      typed.1.names after mainModule = .ok ["a"] ∧
      blankNamed.1.completions after "a" = .ok [] ∧
      typed.1.completions after "a" = .ok ["a"] := by
  intro typed after
  have hload : Snapshot.loadText .empty "\x7b\" a\": null\x7d" =
      .ok (.ofList [(" a", .null)], .empty) := by
    have hparse : Json.parse? "\x7b\" a\": null\x7d" = some (.object [(" a", .null)]) := rfl
    have hread : Snapshot.readMembers [(" a", .null)] = .ok [(" a", .null)] :=
      Snapshot.readMembers_eq_ok_iff.2 (.cons ⟨rfl, Snapshot.reads_null⟩ .nil)
    exact Session.loadText_of_readNamespace hparse hread .empty
  have hafter : after = (typed.2.bind (Session.heldMain blankNamed.2 ∅).scope "a" .null).2 := by
    have hread : readCommand typed.2 (letLine (" a", "null")) =
        .ok (.assign "a" .null, typed.2) := by
      show readBinding _ " a = null".toList = _
      exact readBinding_eq_ok_iff.2
        ⟨'=', " null".toList, .null, rfl, rfl, rfl, loadValue_null _⟩
    have hfound : typed.1.module? typed.2 mainModule = some (Session.heldMain blankNamed.2 ∅) :=
      (Session.withMain_holding blankNamed.2 ∅).registered
    have hdone : execute typed.1 typed.2 (.assign "a" .null) =
        .ok (some "", (typed.2.bind (Session.heldMain blankNamed.2 ∅).scope "a" .null).2) := by
      rw [execute, Session.inject_of_module? hfound]
    show (perform _ _ _).2 = _
    rw [perform_of_execute hread hdone]
  rw [hafter]
  exact ⟨Session.holdsLoaded_holding hload, by decide +kernel⟩

end Prompt

end NameCompletion
