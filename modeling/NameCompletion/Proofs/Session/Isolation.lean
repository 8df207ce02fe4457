import NameCompletion.Proofs.Session.Refinement

/-!
# Modules are apart

Whatever a host does, every module is registered under its own name and has bindings of its own, so
to bind or unbind a member of a module changes nothing else.

* `Host.Knows`: the modules that the host holds or a session finds; one that was replaced is handed
  back to the host, so it stays among them.
* `Host.Changes`: two hosts differ in one binding of one module.
* `Host.run_isolated`: what `inject` and `remove` do in any state that a host can get to.
-/

namespace NameCompletion

/-- The host holds the module, or one of its sessions finds it. -/
def Host.Knows (w : Host) (m : Module) : Prop :=
  m ∈ w.modules ∨ ∃ i name, w.module? i name = some m

/-- Nothing differs but what `member` is bound to in the module. -/
structure Host.Changes (w after : Host) (m : Module) (member : String) (bound : Option Value) :
    Prop where
  binding : ∀ n, (after.store.scope m.scope).get? n =
    if n = member then bound else (w.store.scope m.scope).get? n
  /-- All other modules keep their bindings, also those of the same name. -/
  modules : ∀ other, w.Knows other → other ≠ m →
    after.store.scope other.scope = w.store.scope other.scope
  builtins : ∀ session ∈ w.sessions,
    after.store.scope session.builtins = w.store.scope session.builtins
  /-- No cell changes but that of the module. -/
  scopes : ∀ r, r ≠ m.scope → after.store.scopes.read? r = w.store.scopes.read? r
  /-- Nor does anything else: not what is registered, not the sessions and their options. -/
  rest : { after with store := { after.store with scopes := w.store.scopes } } = w

section

variable {l : Layout} {w : Host} {o : Outline}

theorem Follows.exists_number (h : Follows l w o) {m : Module} (hm : w.Knows m) :
    ∃ n : Nat, l.modules[n]? = some m := by
  rcases hm with hheld | ⟨i, name, hfound⟩
  · obtain ⟨i, hi⟩ := List.mem_iff_getElem?.1 hheld
    obtain ⟨n, _, hn⟩ := exists_of_rel_left (h.held i) hi
    exact ⟨n, hn⟩
  · obtain ⟨n, _, hn, _⟩ := exists_of_rel_left (h.module?_rel i name) hfound
    exact ⟨n, hn⟩

/-- Every module is found under its own name. -/
theorem Follows.name_eq (h : Follows l w o) {i : Nat} {name : String} {m : Module}
    (hm : w.module? i name = some m) : m.name = name := by
  obtain ⟨_, _, _, hname⟩ := exists_of_rel_left (h.module?_rel i name) hm
  exact hname

/-- Modules with the same cell are the same. -/
theorem Follows.eq_of_scope_eq (h : Follows l w o) {m other : Module} (hm : w.Knows m)
    (hother : w.Knows other) (heq : m.scope = other.scope) : m = other := by
  obtain ⟨n, hn⟩ := h.exists_number hm
  obtain ⟨k, hk⟩ := h.exists_number hother
  have hplace : Place.module n = .module k := by
    refine h.mirrors.scope_inj (Layout.scope?_module hn) ?_
    rw [heq]
    exact Layout.scope?_module hk
  obtain rfl := Place.module.inj hplace
  exact Option.some.inj (hn.symm.trans hk)

/-- Builtins are in no cell of a module. -/
theorem Follows.builtins_ne_scope (h : Follows l w o) {m : Module} (hm : w.Knows m)
    {session : Session} (hsession : session ∈ w.sessions) : session.builtins ≠ m.scope := by
  intro heq
  obtain ⟨n, hn⟩ := h.exists_number hm
  obtain ⟨i, hi⟩ := List.mem_iff_getElem?.1 hsession
  obtain ⟨handle, _, hhandle⟩ := exists_of_rel_left (h.sessions i) hi
  have hcell := Layout.scope?_builtins hhandle.cells
  rw [heq] at hcell
  cases h.mirrors.scope_inj hcell (Layout.scope?_module hn)

theorem Follows.scope_lt (h : Follows l w o) {m : Module} (hm : w.Knows m) :
    m.scope.index < w.store.scopes.size := by
  obtain ⟨n, hn⟩ := h.exists_number hm
  exact h.mirrors.scope_lt (Layout.scope?_module hn)

/-- Writing one binding of a module changes nothing else. -/
theorem Follows.changes_writeAt (h : Follows l w o) {m : Module} (hm : w.Knows m)
    {change : Namespace → Namespace} {member : String} {bound : Option Value}
    (hchange : ∀ names n, (change names).get? n = if n = member then bound else names.get? n) :
    w.Changes (w.writeAt (some m.scope) change) m member bound where
  binding n := by
    show ((w.store.setScope m.scope _).scope m.scope).get? n = _
    rw [Store.scope_setScope_self (h.scope_lt hm), hchange]
  modules other hother hne :=
    Store.scope_setScope_of_ne _ (fun heq => hne (h.eq_of_scope_eq hother hm heq)) _
  builtins session hsession :=
    Store.scope_setScope_of_ne _ (h.builtins_ne_scope hm hsession) _
  scopes r hr := Cells.read?_write_of_ne _ hr _
  rest := rfl

end

/-- Modules do not get in each other's way. -/
structure Host.Isolated (w : Host) : Prop where
  /-- A module is registered under its own name. -/
  name_eq : ∀ {i name m}, w.module? i name = some m → m.name = name
  /-- Modules with the same cell are the same. -/
  eq_of_scope_eq : ∀ {m other}, w.Knows m → w.Knows other → m.scope = other.scope → m = other
  /-- A member of a registered module is bound, and nothing else changes. -/
  inject : ∀ {i : Nat} {session}, w.sessions[i]? = some session → ∀ {name m},
    session.module? w.store name = some m → ∀ member value,
      (session.inject w.store name member value).map Prod.fst =
          .ok ((w.store.scope m.scope).get? member) ∧
        w.Changes (w.step (.inject i name member value)) m member (some value)
  /-- A member of a registered module is unbound, and nothing else changes. -/
  remove : ∀ {i : Nat} {session}, w.sessions[i]? = some session → ∀ {name m},
    session.module? w.store name = some m → ∀ member,
      (session.remove w.store name member).map Prod.fst =
          .ok ((w.store.scope m.scope).get? member) ∧
        w.Changes (w.step (.remove i name member)) m member none
  /-- Without a registered module nothing changes. -/
  inject_missing : ∀ {i : Nat} {session}, w.sessions[i]? = some session → ∀ {name},
    session.module? w.store name = none → ∀ member value,
      session.inject w.store name member value = .error (.moduleNotFound name) ∧
        w.step (.inject i name member value) = w
  remove_missing : ∀ {i : Nat} {session}, w.sessions[i]? = some session → ∀ {name},
    session.module? w.store name = none → ∀ member,
      session.remove w.store name member = .error (.moduleNotFound name) ∧
        w.step (.remove i name member) = w

theorem Host.module?_eq {w : Host} {i : Nat} {session : Session}
    (h : w.sessions[i]? = some session) (name : String) :
    w.module? i name = session.module? w.store name := by
  rw [module?, h, Option.bind_some]

/-- Whatever a host does, its modules do not get in each other's way: each is registered under its
own name and has a cell of its own.  So binding or unbinding a member gives what it was bound to
before and changes nothing else, and changes nothing at all if no module has the name. -/
theorem Host.run_isolated (s : Store) (actions : List Host.Action) :
    ((Host.start s).run actions).Isolated := by
  obtain ⟨l, hfollows⟩ := (Follows.start s).run actions
  constructor
  case name_eq => exact hfollows.name_eq
  case eq_of_scope_eq => exact hfollows.eq_of_scope_eq
  case inject =>
    intro i session hsession name m hm member value
    have hfound := (module?_eq hsession name).trans hm
    rw [Session.inject_of_module? hm, step_inject, hfound]
    refine ⟨rfl, hfollows.changes_writeAt (.inr ⟨i, name, hfound⟩) fun names n => ?_⟩
    exact Bindings.get?_insert names member n value
  case remove =>
    intro i session hsession name m hm member
    have hfound := (module?_eq hsession name).trans hm
    rw [Session.remove_of_module? hm, step_remove, hfound]
    refine ⟨rfl, hfollows.changes_writeAt (.inr ⟨i, name, hfound⟩) fun names n => ?_⟩
    exact Bindings.get?_erase names member n
  case inject_missing =>
    intro i session hsession name hnone member value
    have hmissing := (module?_eq hsession name).trans hnone
    rw [Session.inject_of_module?_eq_none hnone, step_inject, hmissing]
    exact ⟨rfl, rfl⟩
  case remove_missing =>
    intro i session hsession name hnone member
    have hmissing := (module?_eq hsession name).trans hnone
    rw [Session.remove_of_module?_eq_none hnone, step_remove, hmissing]
    exact ⟨rfl, rfl⟩

end NameCompletion
