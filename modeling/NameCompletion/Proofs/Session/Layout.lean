import NameCompletion.Proofs.Related
import NameCompletion.Proofs.Session.Outline
import NameCompletion.Proofs.Store.Growth

/-!
# Where an outline is kept

A layout says which cells belong to the families and modules of an outline.  Under `Mirrors` the
store holds in these cells what the outline says, and no two of them are the same.  That is why a
change in one place is seen at that place alone: every change of an outline is a change of the store
after which the store mirrors the outline again.

* `Mirrors.addFamily`, `Mirrors.addModule`: new cells.
* `Mirrors.register`: a registration.
* `Mirrors.write`: a change of builtins or of the bindings of a module.
-/

namespace NameCompletion

/-- The cells of a family. -/
structure FamilyCells where
  registry : RegistryRef
  builtins : ScopeRef

/-- The cells of all families, and all modules that were made. -/
structure Layout where
  families : List FamilyCells := []
  modules : List Module := []

namespace Layout

/-- The cell of live bindings. -/
def scope? (l : Layout) : Place → Option ScopeRef
  | .builtins f => l.families[f]?.map FamilyCells.builtins
  | .module n => l.modules[n]?.map Module.scope

/-- The cells of a family are added. -/
def addFamily (l : Layout) (cells : FamilyCells) : Layout :=
  { l with families := l.families ++ [cells] }

/-- A module is added. -/
def addModule (l : Layout) (m : Module) : Layout :=
  { l with modules := l.modules ++ [m] }

variable {l : Layout}

theorem scope?_builtins {f : Nat} {cells : FamilyCells} (h : l.families[f]? = some cells) :
    l.scope? (.builtins f) = some cells.builtins :=
  congrArg (Option.map FamilyCells.builtins) h

theorem scope?_module {n : Nat} {m : Module} (h : l.modules[n]? = some m) :
    l.scope? (.module n) = some m.scope :=
  congrArg (Option.map Module.scope) h

theorem scope?_addFamily {cells : FamilyCells} {p : Place} {r : ScopeRef}
    (h : (l.addFamily cells).scope? p = some r) :
    l.scope? p = some r ∨ p = .builtins l.families.length ∧ r = cells.builtins := by
  cases p with
  | builtins f =>
    obtain ⟨found, hfound, rfl⟩ := Option.map_eq_some_iff.1 h
    rcases getElem?_concat_cases hfound with hold | ⟨rfl, rfl⟩
    · exact .inl (scope?_builtins hold)
    · exact .inr ⟨rfl, rfl⟩
  | module n => exact .inl h

theorem scope?_addModule {m : Module} {p : Place} {r : ScopeRef}
    (h : (l.addModule m).scope? p = some r) :
    l.scope? p = some r ∨ p = .module l.modules.length ∧ r = m.scope := by
  cases p with
  | builtins f => exact .inl h
  | module n =>
    obtain ⟨found, hfound, rfl⟩ := Option.map_eq_some_iff.1 h
    rcases getElem?_concat_cases hfound with hold | ⟨rfl, rfl⟩
    · exact .inl (scope?_module hold)
    · exact .inr ⟨rfl, rfl⟩

/-- Cells and modules that were in the layout are there still. -/
structure Grows (l grown : Layout) : Prop where
  families : ∀ {f : Nat} {cells}, l.families[f]? = some cells → grown.families[f]? = some cells
  modules : ∀ {n : Nat} {m}, l.modules[n]? = some m → grown.modules[n]? = some m

theorem Grows.scope? {grown : Layout} (h : l.Grows grown) {p : Place} {r : ScopeRef}
    (hp : l.scope? p = some r) : grown.scope? p = some r := by
  cases p with
  | builtins f =>
    obtain ⟨cells, hcells, rfl⟩ := Option.map_eq_some_iff.1 hp
    exact scope?_builtins (h.families hcells)
  | module n =>
    obtain ⟨m, hm, rfl⟩ := Option.map_eq_some_iff.1 hp
    exact scope?_module (h.modules hm)

theorem Grows.trans {a b c : Layout} (h : a.Grows b) (h' : b.Grows c) : a.Grows c where
  families hf := h'.families (h.families hf)
  modules hn := h'.modules (h.modules hn)

theorem grows_addFamily (l : Layout) (cells : FamilyCells) : l.Grows (l.addFamily cells) where
  families := getElem?_concat_of_getElem?
  modules := id

theorem grows_addModule (l : Layout) (m : Module) : l.Grows (l.addModule m) where
  families := id
  modules := getElem?_concat_of_getElem?

end Layout

/-- A family and its cells: the registry finds the modules that were registered last, under their
names. -/
structure FamilyMirrored (known : List Module) (s : Store) (cells : FamilyCells)
    (family : Family) : Prop where
  registry_lt : cells.registry.index < s.registries.size
  modules : ∀ name, Option.Rel (fun m n => known[n]? = some m ∧ m.name = name)
    ((s.modules cells.registry).get? name) (family.latest? name)
  builtins_lt : cells.builtins.index < s.scopes.size
  builtins : s.scope cells.builtins = family.builtins

/-- A module and what it binds. -/
structure ModuleMirrored (s : Store) (m : Module) (named : NamedBindings) : Prop where
  name : m.name = named.name
  scope_lt : m.scope.index < s.scopes.size
  bindings : s.scope m.scope = named.bindings

/-- The store holds what the outline says, every place in a cell of its own. -/
structure Mirrors (l : Layout) (s : Store) (o : Outline) : Prop where
  families : ∀ f : Nat, Option.Rel (FamilyMirrored l.modules s) l.families[f]? o.families[f]?
  modules : ∀ n : Nat, Option.Rel (ModuleMirrored s) l.modules[n]? o.modules[n]?
  scope_inj : ∀ {p q r}, l.scope? p = some r → l.scope? q = some r → p = q
  registry_inj : ∀ {f g : Nat} {c d : FamilyCells}, l.families[f]? = some c →
    l.families[g]? = some d → c.registry = d.registry → f = g

namespace Mirrors

variable {l : Layout} {s grown : Store} {o : Outline}

theorem scope_lt (h : Mirrors l s o) {p : Place} {r : ScopeRef} (hp : l.scope? p = some r) :
    r.index < s.scopes.size := by
  cases p with
  | builtins f =>
    obtain ⟨cells, hcells, rfl⟩ := Option.map_eq_some_iff.1 hp
    obtain ⟨family, _, hfamily⟩ := exists_of_rel_left (h.families f) hcells
    exact hfamily.builtins_lt
  | module n =>
    obtain ⟨m, hm, rfl⟩ := Option.map_eq_some_iff.1 hp
    obtain ⟨named, _, hnamed⟩ := exists_of_rel_left (h.modules n) hm
    exact hnamed.scope_lt

theorem registry_lt (h : Mirrors l s o) {f : Nat} {c : FamilyCells} (hc : l.families[f]? = some c) :
    c.registry.index < s.registries.size := by
  obtain ⟨family, _, hfamily⟩ := exists_of_rel_left (h.families f) hc
  exact hfamily.registry_lt

/-- The cells of a new family get its number. -/
theorem getElem?_addFamily (h : Mirrors l s o) (cells : FamilyCells) :
    (l.addFamily cells).families[o.families.length]? = some cells := by
  rw [← length_eq_of_rel h.families]
  exact List.getElem?_concat_length

/-- A new module gets its number. -/
theorem getElem?_addModule (h : Mirrors l s o) (m : Module) :
    (l.addModule m).modules[o.modules.length]? = some m := by
  rw [← length_eq_of_rel h.modules]
  exact List.getElem?_concat_length

theorem nameOf_eq (h : Mirrors l s o) {n : Nat} {m : Module} (hm : l.modules[n]? = some m) :
    o.nameOf n = m.name := by
  obtain ⟨named, hnamed, hmirrored⟩ := exists_of_rel_left (h.modules n) hm
  rw [Outline.nameOf, hnamed]
  exact hmirrored.name.symm

/-- Places stay apart if one of them gets a new cell. -/
theorem scope_inj_of_fresh (h : Mirrors l s o) {l' : Layout} {new : Place}
    (hnew : ∀ {p r}, l'.scope? p = some r → l.scope? p = some r ∨ p = new ∧ r = s.scopes.fresh)
    {p q : Place} {r : ScopeRef} (hp : l'.scope? p = some r) (hq : l'.scope? q = some r) :
    p = q := by
  have hfresh : ∀ p, l.scope? p ≠ some s.scopes.fresh := fun p hp =>
    Nat.lt_irrefl _ (h.scope_lt hp)
  rcases hnew hp with hp | ⟨rfl, rfl⟩
  · rcases hnew hq with hq | ⟨rfl, rfl⟩
    · exact h.scope_inj hp hq
    · exact absurd hp (hfresh p)
  · rcases hnew hq with hq | ⟨rfl, _⟩
    · exact absurd hq (hfresh q)
    · rfl

end Mirrors

/-! ## New cells -/

section

variable {known : List Module} {s grown : Store} {cells : FamilyCells} {family : Family}
  {m : Module} {named : NamedBindings}

theorem FamilyMirrored.of_extends (h : FamilyMirrored known s cells family)
    (hs : s.Extends grown) : FamilyMirrored known grown cells family where
  registry_lt := hs.registry_index_lt h.registry_lt
  modules := by rw [hs.modules_eq h.registry_lt]; exact h.modules
  builtins_lt := hs.scope_index_lt h.builtins_lt
  builtins := (hs.scope_eq h.builtins_lt).trans h.builtins

theorem FamilyMirrored.concat (h : FamilyMirrored known s cells family) (m : Module) :
    FamilyMirrored (known ++ [m]) s cells family :=
  { h with
    modules := fun name => rel_imp (h.modules name) fun _ _ _ hm =>
      ⟨getElem?_concat_of_getElem? hm.1, hm.2⟩ }

theorem ModuleMirrored.of_extends (h : ModuleMirrored s m named) (hs : s.Extends grown) :
    ModuleMirrored grown m named where
  name := h.name
  scope_lt := hs.scope_index_lt h.scope_lt
  bindings := (hs.scope_eq h.scope_lt).trans h.bindings

end

namespace Mirrors

variable {l : Layout} {s grown : Store} {o : Outline}

/-- Cells that are not in the layout do not matter. -/
theorem of_extends (h : Mirrors l s o) (hs : s.Extends grown) : Mirrors l grown o :=
  { h with
    families := fun f => rel_imp (h.families f) fun _ _ _ hf => hf.of_extends hs
    modules := fun n => rel_imp (h.modules n) fun _ _ _ hn => hn.of_extends hs }

theorem addFamily (h : Mirrors l s o) :
    Mirrors
      (l.addFamily ⟨(Session.detached s).1.registry, (Session.detached s).1.builtins⟩)
      (Session.detached s).2 o.addFamily := by
  have hgrown : s.Extends (Session.detached s).2 :=
    (Store.extends_newRegistry s).trans (Store.extends_newScope _ _)
  have hnew : FamilyMirrored l.modules (Session.detached s).2
      ⟨s.registries.fresh, s.scopes.fresh⟩ {} := by
    constructor
    case registry_lt => exact Cells.fresh_lt_alloc _ _
    case modules =>
      intro name
      have hempty : (Session.detached s).2.modules s.registries.fresh = ∅ := by
        show (s.newRegistry.2.newScope ∅).2.modules _ = _
        rw [Store.modules_newScope, Store.modules_newRegistry, if_pos rfl]
      rw [hempty]
      exact .none
    case builtins_lt => exact Cells.fresh_lt_alloc _ _
    case builtins =>
      show (s.newRegistry.2.newScope ∅).2.scope _ = _
      rw [Store.scope_newScope]
      exact if_pos rfl
  have hold := h.of_extends hgrown
  constructor
  case families => exact rel_getElem?_concat hold.families hnew
  case modules => exact hold.modules
  case scope_inj => exact h.scope_inj_of_fresh Layout.scope?_addFamily
  case registry_inj =>
    intro f g c d hc hd hcd
    rcases getElem?_concat_cases hc with hc | ⟨rfl, rfl⟩ <;>
      rcases getElem?_concat_cases hd with hd | ⟨rfl, rfl⟩
    · exact h.registry_inj hc hd hcd
    · exact absurd (hcd ▸ h.registry_lt hc) (Nat.lt_irrefl _)
    · exact absurd (hcd ▸ h.registry_lt hd) (Nat.lt_irrefl _)
    · rfl

theorem addModule (h : Mirrors l s o) (name : String) (bindings : Namespace) :
    Mirrors (l.addModule (Module.create s name bindings).1) (Module.create s name bindings).2
      (o.addModule name bindings) := by
  have hgrown : s.Extends (Module.create s name bindings).2 := Store.extends_newScope _ _
  have hnew : ModuleMirrored (Module.create s name bindings).2 (Module.create s name bindings).1
      ⟨name, bindings⟩ := by
    constructor
    case name => rfl
    case scope_lt => exact Cells.fresh_lt_alloc _ _
    case bindings => exact (Store.scope_newScope s bindings _).trans (if_pos rfl)
  have hold := h.of_extends hgrown
  constructor
  case families => exact fun f => rel_imp (hold.families f) fun _ _ _ hf => hf.concat _
  case modules => exact rel_getElem?_concat hold.modules hnew
  case scope_inj => exact h.scope_inj_of_fresh Layout.scope?_addModule
  case registry_inj => exact h.registry_inj

end Mirrors

/-! ## Changes -/

section

variable {known : List Module} {s : Store} {cells : FamilyCells} {family : Family}
  {m : Module} {named : NamedBindings}

/-- A module is registered in the family. -/
theorem FamilyMirrored.register (h : FamilyMirrored known s cells family) {n : Nat}
    (hm : known[n]? = some m) :
    FamilyMirrored known
      (s.setModules cells.registry ((s.modules cells.registry).insert m.name m)) cells
      (family.register m.name n) where
  registry_lt := by rw [Store.setModules, Cells.size_write]; exact h.registry_lt
  modules name := by
    rw [Store.modules_setModules_self h.registry_lt, Bindings.get?_insert,
      Family.latest?_register]
    split
    · next hname => exact .some ⟨hm, hname.symm⟩
    · exact h.modules name
  builtins_lt := h.builtins_lt
  builtins := h.builtins

/-- A module is registered in another family. -/
theorem FamilyMirrored.setModules_of_ne (h : FamilyMirrored known s cells family)
    {r : RegistryRef} (hne : cells.registry ≠ r) (modules : Bindings Module) :
    FamilyMirrored known (s.setModules r modules) cells family where
  registry_lt := by rw [Store.setModules, Cells.size_write]; exact h.registry_lt
  modules := by rw [Store.modules_setModules_of_ne s hne]; exact h.modules
  builtins_lt := h.builtins_lt
  builtins := h.builtins

/-- The builtins of the family change. -/
theorem FamilyMirrored.setScope_builtins (h : FamilyMirrored known s cells family)
    (change : Namespace → Namespace) :
    FamilyMirrored known (s.setScope cells.builtins (change (s.scope cells.builtins))) cells
      { family with builtins := change family.builtins } :=
  { h with
    builtins_lt := by rw [Store.setScope, Cells.size_write]; exact h.builtins_lt
    builtins := by rw [Store.scope_setScope_self h.builtins_lt, h.builtins] }

theorem FamilyMirrored.setScope_of_ne (h : FamilyMirrored known s cells family) {r : ScopeRef}
    (hne : cells.builtins ≠ r) (names : Namespace) :
    FamilyMirrored known (s.setScope r names) cells family :=
  { h with
    builtins_lt := by rw [Store.setScope, Cells.size_write]; exact h.builtins_lt
    builtins := (Store.scope_setScope_of_ne s hne names).trans h.builtins }

/-- The bindings of the module change. -/
theorem ModuleMirrored.setScope_scope (h : ModuleMirrored s m named)
    (change : Namespace → Namespace) :
    ModuleMirrored (s.setScope m.scope (change (s.scope m.scope))) m
      { named with bindings := change named.bindings } where
  name := h.name
  scope_lt := by rw [Store.setScope, Cells.size_write]; exact h.scope_lt
  bindings := by rw [Store.scope_setScope_self h.scope_lt, h.bindings]

theorem ModuleMirrored.setScope_of_ne (h : ModuleMirrored s m named) {r : ScopeRef}
    (hne : m.scope ≠ r) (names : Namespace) : ModuleMirrored (s.setScope r names) m named where
  name := h.name
  scope_lt := by rw [Store.setScope, Cells.size_write]; exact h.scope_lt
  bindings := (Store.scope_setScope_of_ne s hne names).trans h.bindings

end

namespace Mirrors

variable {l : Layout} {s : Store} {o : Outline}

/-- A registration is seen in the family that it is made in. -/
theorem register (h : Mirrors l s o) {f n : Nat} {cells : FamilyCells} {m : Module}
    (hf : l.families[f]? = some cells) (hm : l.modules[n]? = some m) :
    Mirrors l (s.setModules cells.registry ((s.modules cells.registry).insert m.name m))
      (o.register f m.name n) := by
  constructor
  case families =>
    refine rel_getElem?_modify_right h.families ?_ ?_
    · intro found family hfound hmirrored
      obtain rfl : found = cells := Option.some.inj (hfound.symm.trans hf)
      exact hmirrored.register hm
    · intro g found family hne hfound hmirrored
      refine hmirrored.setModules_of_ne (fun heq => hne ?_) _
      exact h.registry_inj hfound hf heq
  case modules => exact fun n => rel_imp (h.modules n) fun _ _ _ hn => { hn with }
  case scope_inj => exact h.scope_inj
  case registry_inj => exact h.registry_inj

/-- A write is seen at the place that it is made to. -/
theorem write (h : Mirrors l s o) {p : Place} {r : ScopeRef} (hp : l.scope? p = some r)
    (change : Namespace → Namespace) :
    Mirrors l (s.setScope r (change (s.scope r))) (o.write change p) := by
  -- What belongs to another place is in another cell.
  have hfamily : ∀ f cells, l.families[f]? = some cells → p ≠ .builtins f → cells.builtins ≠ r := by
    rintro f cells hcells hne rfl
    exact hne (h.scope_inj hp (Layout.scope?_builtins hcells))
  have hmodule : ∀ n m, l.modules[n]? = some m → p ≠ .module n → m.scope ≠ r := by
    rintro n m hm hne rfl
    exact hne (h.scope_inj hp (Layout.scope?_module hm))
  cases p with
  | builtins f =>
    obtain ⟨cells, hcells, rfl⟩ := Option.map_eq_some_iff.1 hp
    constructor
    case families =>
      refine rel_getElem?_modify_right h.families ?_ ?_
      · intro found family hfound hmirrored
        obtain rfl : found = cells := Option.some.inj (hfound.symm.trans hcells)
        exact hmirrored.setScope_builtins change
      · intro g found family hne hfound hmirrored
        exact hmirrored.setScope_of_ne (hfamily g found hfound (by simpa using Ne.symm hne)) _
    case modules =>
      intro n
      refine rel_imp (h.modules n) fun m named hm hmirrored => ?_
      exact hmirrored.setScope_of_ne (hmodule n m hm (by simp)) _
    case scope_inj => exact h.scope_inj
    case registry_inj => exact h.registry_inj
  | module n =>
    obtain ⟨m, hm, rfl⟩ := Option.map_eq_some_iff.1 hp
    constructor
    case families =>
      intro f
      refine rel_imp (h.families f) fun cells family hcells hmirrored => ?_
      exact hmirrored.setScope_of_ne (hfamily f cells hcells (by simp)) _
    case modules =>
      refine rel_getElem?_modify_right h.modules ?_ ?_
      · intro found named hfound hmirrored
        obtain rfl : found = m := Option.some.inj (hfound.symm.trans hm)
        exact hmirrored.setScope_scope change
      · intro k found named hne hfound hmirrored
        exact hmirrored.setScope_of_ne (hmodule k found hfound (by simpa using Ne.symm hne)) _
    case scope_inj => exact h.scope_inj
    case registry_inj => exact h.registry_inj

end Mirrors

end NameCompletion
