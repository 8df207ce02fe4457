import NameCompletion.Proofs.Session.Layout

/-!
# Sessions do what their outline says

Everything that a host does can be told without cells.  Whatever it holds after some actions, there
is a layout that relates it to the outline of these actions (`Follows`), so the outline alone
determines which names its sessions complete.

* `Follows.step`: one action.
* `Follows.run`: all actions of a run, by induction on them.
* `Host.completions_run`: when completions are available, and which they are.
-/

namespace NameCompletion

open Host (Action)

/-- A session has the cells of the family and the options of the handle. -/
structure Layout.IsHandle (l : Layout) (session : Session) (handle : Handle) : Prop where
  cells : l.families[handle.family]? = some ⟨session.registry, session.builtins⟩
  options : session.options = handle.options

/-- The host holds what the outline says, and the store mirrors the outline. -/
structure Follows (l : Layout) (w : Host) (o : Outline) : Prop where
  mirrors : Mirrors l w.store o
  sessions : ∀ i : Nat, Option.Rel l.IsHandle w.sessions[i]? o.handles[i]?
  held : ∀ i : Nat, Option.Rel (fun m n => l.modules[n]? = some m) w.modules[i]? o.held[i]?
  places : ∀ i : Nat, Option.Rel (fun r p => l.scope? p = some r) w.scopes[i]? o.places[i]?

namespace Follows

variable {l : Layout} {w : Host} {o : Outline}

/-- A session finds the module that was registered last under the name. -/
theorem module?_rel (h : Follows l w o) (i : Nat) (name : String) :
    Option.Rel (fun m n => l.modules[n]? = some m ∧ m.name = name) (w.module? i name)
      (o.module? i name) := by
  rw [Outline.module?, Outline.family?, Option.bind_assoc]
  refine rel_bind (h.sessions i) fun session handle hhandle => ?_
  obtain ⟨family, hfamily, hmirrored⟩ :=
    exists_of_rel_left (h.mirrors.families handle.family) hhandle.cells
  rw [hfamily]
  exact hmirrored.modules name

theorem builtins_rel (h : Follows l w o) (i : Nat) :
    Option.Rel (fun r p => l.scope? p = some r) (w.sessions[i]?.map Session.builtins)
      (o.builtinsPlace? i) := by
  refine rel_map (h.sessions i) fun session handle hhandle => ?_
  exact Layout.scope?_builtins hhandle.cells

theorem moduleScope_rel (h : Follows l w o) (i : Nat) (name : String) :
    Option.Rel (fun r p => l.scope? p = some r) ((w.module? i name).map Module.scope)
      (o.modulePlace? i name) := by
  refine rel_map (h.module?_rel i name) fun m n hm => ?_
  exact Layout.scope?_module hm.1

/-- Writing to bindings, however the host came by them. -/
theorem writeAt (h : Follows l w o) {r : Option ScopeRef} {p : Option Place}
    (hp : Option.Rel (fun r p => l.scope? p = some r) r p) (change : Namespace → Namespace) :
    Follows l (w.writeAt r change) (o.writeAt p change) := by
  cases hp with
  | none => exact h
  | @some r p hp =>
    have hother : (o.write change p).handles = o.handles ∧ (o.write change p).held = o.held ∧
        (o.write change p).places = o.places := by
      cases p <;> exact ⟨rfl, rfl, rfl⟩
    constructor
    case mirrors => exact h.mirrors.write hp change
    case sessions => exact hother.1 ▸ h.sessions
    case held => exact hother.2.1 ▸ h.held
    case places => exact hother.2.2 ▸ h.places

/-- New cells that nothing refers to yet. -/
theorem grow (h : Follows l w o) {grown : Layout} (hl : l.Grows grown) {s : Store} {o' : Outline}
    (hmirrors : Mirrors grown s o') (hhandles : o'.handles = o.handles) (hheld : o'.held = o.held)
    (hplaces : o'.places = o.places) : Follows grown { w with store := s } o' where
  mirrors := hmirrors
  sessions i := by
    rw [hhandles]
    exact rel_imp (h.sessions i) fun _ _ _ hi => ⟨hl.families hi.cells, hi.options⟩
  held i := by
    rw [hheld]
    exact rel_imp (h.held i) fun _ _ _ hi => hl.modules hi
  places i := by
    rw [hplaces]
    exact rel_imp (h.places i) fun _ _ _ hi => hl.scope? hi

theorem keepSession (h : Follows l w o) {session : Option Session} {handle : Option Handle}
    (hsession : Option.Rel l.IsHandle session handle) :
    Follows l { w with sessions := w.sessions ++ session.toList }
      { o with handles := o.handles ++ handle.toList } :=
  { h with
    mirrors := { h.mirrors with }
    sessions := rel_getElem?_append h.sessions hsession }

theorem keepModule (h : Follows l w o) {m : Option Module} {n : Option Nat}
    (hm : Option.Rel (fun m n => l.modules[n]? = some m) m n) :
    Follows l { w with modules := w.modules ++ m.toList } { o with held := o.held ++ n.toList } :=
  { h with
    mirrors := { h.mirrors with }
    held := rel_getElem?_append h.held hm }

theorem keepScope (h : Follows l w o) {r : Option ScopeRef} {p : Option Place}
    (hp : Option.Rel (fun r p => l.scope? p = some r) r p) :
    Follows l { w with scopes := w.scopes ++ r.toList } { o with places := o.places ++ p.toList } :=
  { h with
    mirrors := { h.mirrors with }
    places := rel_getElem?_append h.places hp }

/-- Registering a module; the host keeps the one that was replaced. -/
theorem register (h : Follows l w o) (i j : Nat) :
    Follows l (w.step (.register i j)) (o.step (.register i j)) := by
  have hsession := h.sessions i
  have hheld := h.held j
  have hreplaced := h.module?_rel i
  simp only [Host.step, Outline.step, Host.module?] at hreplaced ⊢
  generalize w.sessions[i]? = session, o.handles[i]? = handle at hsession hreplaced ⊢
  cases hsession with
  | none => exact h
  | @some session handle hhandle =>
    generalize w.modules[j]? = m, o.held[j]? = n at hheld ⊢
    cases hheld with
    | none => exact h
    | @some m n hm =>
      dsimp only
      rw [h.mirrors.nameOf_eq hm]
      have hregistered : Follows l { w with store := (session.register w.store m).2 }
          (o.register handle.family m.name n) :=
        { h with mirrors := h.mirrors.register hhandle.cells hm }
      exact hregistered.keepModule (rel_imp (hreplaced m.name) fun _ _ _ hm => hm.1)

/-! ## One action -/

/-- What an action changes is changed in the outline too. -/
theorem step (h : Follows l w o) (action : Action) :
    ∃ grown, Follows grown (w.step action) (o.step action) := by
  cases action with
  | detached =>
    let made := Session.detached w.store
    let cells : FamilyCells := ⟨made.1.registry, made.1.builtins⟩
    have hgrown : Follows (l.addFamily cells) { w with store := made.2 } o.addFamily :=
      h.grow (l.grows_addFamily cells) h.mirrors.addFamily rfl rfl rfl
    have hmade : (l.addFamily cells).IsHandle made.1 ⟨o.families.length, .plain⟩ :=
      ⟨h.mirrors.getElem?_addFamily cells, rfl⟩
    exact ⟨_, hgrown.keepSession (.some hmade)⟩
  | create =>
    let made := Session.detached w.store
    let main := Module.create made.2 mainModule ∅
    let cells : FamilyCells := ⟨made.1.registry, made.1.builtins⟩
    let grown := (l.addFamily cells).addModule main.1
    have hfamily : grown.families[o.families.length]? = some cells :=
      h.mirrors.getElem?_addFamily cells
    have hmain : grown.modules[o.modules.length]? = some main.1 :=
      h.mirrors.getElem?_addModule main.1
    have hmirrors := (h.mirrors.addFamily.addModule mainModule ∅).register hfamily hmain
    have hgrown := h.grow ((l.grows_addFamily cells).trans (Layout.grows_addModule _ main.1))
      hmirrors rfl rfl rfl
    have hmade : grown.IsHandle made.1 ⟨o.families.length, .plain⟩ := ⟨hfamily, rfl⟩
    exact ⟨_, hgrown.keepSession (.some hmade)⟩
  | copy i => exact ⟨l, h.keepSession (h.sessions i)⟩
  | withOptions i options =>
    refine ⟨l, { h with mirrors := { h.mirrors with }, sessions := ?_ }⟩
    exact rel_getElem?_modify h.sessions (f := (·.withOptions options))
      (g := fun handle => { handle with options }) (fun _ _ hi => ⟨hi.cells, rfl⟩) i
  | setBuiltins i builtins =>
    rw [Host.step_setBuiltins]
    exact ⟨l, h.writeAt (h.builtins_rel i) _⟩
  | newModule name bindings =>
    let made := Module.create w.store name bindings
    have hgrown : Follows (l.addModule made.1) { w with store := made.2 }
        (o.addModule name bindings) :=
      h.grow (l.grows_addModule made.1) (h.mirrors.addModule name bindings) rfl rfl rfl
    exact ⟨_, hgrown.keepModule (.some (h.mirrors.getElem?_addModule made.1))⟩
  | register i j => exact ⟨l, h.register i j⟩
  | importModule i name =>
    rw [Host.step_importModule]
    exact ⟨l, h.keepModule (rel_imp (h.module?_rel i name) fun _ _ _ hm => hm.1)⟩
  | inject i moduleName member value =>
    rw [Host.step_inject]
    exact ⟨l, h.writeAt (h.moduleScope_rel i moduleName) _⟩
  | remove i moduleName member =>
    rw [Host.step_remove]
    exact ⟨l, h.writeAt (h.moduleScope_rel i moduleName) _⟩
  | globals i =>
    rw [Host.step_globals]
    exact ⟨l, h.keepScope (h.moduleScope_rel i mainModule)⟩
  | builtins i => exact ⟨l, h.keepScope (h.builtins_rel i)⟩
  | bindings i =>
    exact ⟨l, h.keepScope (rel_map (h.held i) fun m n hm => Layout.scope?_module hm)⟩
  | write i change => exact ⟨l, h.writeAt (h.places i) change⟩
  | build d =>
    refine ⟨l, { h with mirrors := ?_ }⟩
    exact h.mirrors.of_extends (Description.extends_build w.store d)

/-! ## Runs -/

theorem start (s : Store) : Follows {} (.start s) {} where
  mirrors :=
    { families := fun _ => .none
      modules := fun _ => .none
      scope_inj := fun {p _ _} hp _ => by cases p <;> cases hp
      registry_inj := fun hc _ _ => by cases hc }
  sessions _ := .none
  held _ := .none
  places _ := .none

theorem run (h : Follows l w o) (actions : List Action) :
    ∃ grown, Follows grown (w.run actions) (o.run actions) := by
  induction actions generalizing l w o with
  | nil => exact ⟨l, h⟩
  | cons action rest ih =>
    obtain ⟨grown, hstep⟩ := h.step action
    exact ih hstep

end Follows

/-! ## Completions -/

/-- The completions of a session by the outline.  They are unavailable until a main module is
registered in the family.  From then on they are those of what the main module that was registered
last binds by now, with the builtins of the family and the options of the handle. -/
structure CompletesBy (o : Outline) (s : Store) (session : Session) (handle : Handle)
    (family : Family) : Prop where
  unavailable : ∀ text, session.completions s text = .error (.namespaceUnavailable mainModule) ↔
    ∀ n, (mainModule, n) ∉ family.registrations
  available : ∀ n, family.latest? mainModule = some n →
    ∃ main, o.modules[n]? = some main ∧ main.name = mainModule ∧
      ∀ text, session.completions s text = .ok (Completer.complete
        { store := s
          globals := main.bindings
          builtins := some family.builtins
          options := handle.options } text)

theorem Follows.completesBy {l : Layout} {w : Host} {o : Outline} (h : Follows l w o) (i : Nat) :
    Option.Rel (fun session handle => ∃ family, o.families[handle.family]? = some family ∧
      CompletesBy o w.store session handle family) w.sessions[i]? o.handles[i]? := by
  refine rel_imp (h.sessions i) fun session handle _ hhandle => ?_
  obtain ⟨family, hfamily, hmirrored⟩ :=
    exists_of_rel_left (h.mirrors.families handle.family) hhandle.cells
  have hfound : Option.Rel _ (session.module? w.store mainModule) _ :=
    hmirrored.modules mainModule
  refine ⟨family, hfamily, ⟨fun text => ?_, fun n hn => ?_⟩⟩
  · rw [← Family.latest?_eq_none_iff, ← eq_none_iff_of_rel hfound]
    constructor
    · intro hfails
      cases hmain : session.module? w.store mainModule with
      | none => rfl
      | some main =>
        rw [Session.completions_of_module? hmain] at hfails
        cases hfails
    · exact fun hnone => Session.completions_of_module?_eq_none hnone text
  · obtain ⟨main, hmain, hknown, hname⟩ := exists_of_rel_right hfound hn
    obtain ⟨named, hnamed, hmodule⟩ := exists_of_rel_left (h.mirrors.modules n) hknown
    refine ⟨named, hnamed, hmodule.name ▸ hname, fun text => ?_⟩
    rw [Session.completions_of_module? hmain, hmodule.bindings, hhandle.options]
    rw [← hmirrored.builtins]

/-- Whatever a host does, its sessions complete as the outline says.  Once there are completions,
they are never unavailable again. -/
theorem Host.completions_run (s : Store) (actions : List Action) :
    let w := (Host.start s).run actions
    let o := Outline.run {} actions
    (∀ i : Nat, Option.Rel (fun session handle => ∃ family,
        o.families[handle.family]? = some family ∧
          CompletesBy o w.store session handle family) w.sessions[i]? o.handles[i]?) ∧
      ∀ (i : Nat) session text candidates, w.sessions[i]? = some session →
        session.completions w.store text = .ok candidates →
        ∀ later, ∃ session', (w.run later).sessions[i]? = some session' ∧
          ∀ text', ∃ candidates',
            session'.completions (w.run later).store text' = .ok candidates' := by
  intro w o
  obtain ⟨l, hfollows⟩ := (Follows.start s).run actions
  refine ⟨hfollows.completesBy, fun i session text candidates hsession hcandidates later => ?_⟩
  obtain ⟨l', hfollows'⟩ := hfollows.run later
  obtain ⟨handle, hhandle, family, hfamily, hby⟩ :=
    exists_of_rel_left (hfollows.completesBy i) hsession
  have hcontinues := o.continues_run later
  obtain ⟨handle', hhandle', hsame⟩ := hcontinues.handles hhandle
  obtain ⟨family', hfamily', hsuffix⟩ := hcontinues.families hfamily
  obtain ⟨session', hsession', found, hfound, hby'⟩ :=
    exists_of_rel_right (hfollows'.completesBy i) hhandle'
  obtain rfl : found = family' := Option.some.inj (hfound.symm.trans (hsame ▸ hfamily'))
  refine ⟨session', hsession', fun text' => ?_⟩
  cases hlatest : found.latest? mainModule with
  | none =>
    -- A main module would have to be registered now and never have been registered later.
    have hnever : ∀ n, (mainModule, n) ∉ family.registrations := fun n hn =>
      Family.latest?_eq_none_iff.1 hlatest n (hsuffix.subset hn)
    have hfails := (hby.unavailable text).2 hnever
    rw [hcandidates] at hfails
    cases hfails
  | some n =>
    obtain ⟨main, _, _, hanswer⟩ := hby'.available n hlatest
    exact ⟨_, hanswer text'⟩

-- The main module is replaced through one of two handles.  Both offer what the new one binds, and
-- the live bindings that the host took before are still those of the old one.
example :
    let w := (Host.start .empty).run
      [.create, .copy 0, .globals 0, .newModule mainModule (.ofList [("fresh", .null)]),
        .register 1 0, .write 0 (·.insert "stale" .null), .inject 0 mainModule "later" .null]
    w.sessions.map (fun session => ["f", "s", "l"].map (session.completions w.store)) =
      [[.ok ["fresh"], .ok [], .ok ["later"]], [.ok ["fresh"], .ok [], .ok ["later"]]] := by
  decide +kernel

end NameCompletion
