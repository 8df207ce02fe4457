import NameCompletion.Proofs.Related
import NameCompletion.Proofs.Session.Host

/-!
# What becomes of a host, without cells

Handles that were copied from each other are a family.  A family has its builtins and the
registrations that were made through its handles; a module has a name and what it binds by now; a
handle has its options.  This file says what each action does to these.  No cell is named, so
nothing can be shared by accident.

* `Outline.step`, `Outline.run`: what becomes of a host.
* `Outline.continues_run`: handles stay with their families, and registrations are never taken back.
-/

namespace NameCompletion

/-- What the handles of one session share. -/
structure Family where
  /-- Every registration so far, the latest first: the name and the number of the module. -/
  registrations : List (String × Nat) := []
  builtins : Namespace := ∅

/-- The module that was registered last under the name. -/
def Family.latest? (family : Family) (name : String) : Option Nat :=
  (family.registrations.find? fun e => e.1 == name).map Prod.snd

/-- One more registration. -/
def Family.register (family : Family) (name : String) (n : Nat) : Family :=
  { family with registrations := (name, n) :: family.registrations }

theorem Family.latest?_register (family : Family) (name other : String) (n : Nat) :
    (family.register name n).latest? other =
      if other = name then some n else family.latest? other := by
  unfold latest? register
  rw [List.find?_cons]
  by_cases h : other = name
  · subst h
    simp
  · have hne : (name == other) = false := beq_eq_false_iff_ne.2 (Ne.symm h)
    simp [hne, h]

/-- A module is found under a name once one was registered under it. -/
theorem Family.latest?_eq_none_iff {family : Family} {name : String} :
    family.latest? name = none ↔ ∀ n, (name, n) ∉ family.registrations := by
  rw [latest?, Option.map_eq_none_iff, List.find?_eq_none]
  constructor
  · intro h n hn
    exact h (name, n) hn (beq_self_eq_true name)
  · rintro h ⟨found, n⟩ hn heq
    exact h n (beq_iff_eq.1 heq ▸ hn)

/-- A handle on a family, with its own options. -/
structure Handle where
  family : Nat
  options : Options

/-- A module that was made, with what it binds by now. -/
structure NamedBindings where
  name : String
  bindings : Namespace

/-- Whose bindings live bindings are. -/
inductive Place where
  | builtins (family : Nat)
  | module (number : Nat)
  deriving DecidableEq

/-- What has become of a host, said without cells.  Families and modules have the numbers in which
they were made. -/
structure Outline where
  families : List Family := []
  modules : List NamedBindings := []
  /-- The sessions that the host holds. -/
  handles : List Handle := []
  /-- The modules that the host holds. -/
  held : List Nat := []
  /-- The live bindings that the host holds. -/
  places : List Place := []

namespace Outline

open Host (Action)

/-- A further family, without modules and builtins. -/
def addFamily (o : Outline) : Outline :=
  { o with families := o.families ++ [{}] }

/-- A further module. -/
def addModule (o : Outline) (name : String) (bindings : Namespace) : Outline :=
  { o with modules := o.modules ++ [⟨name, bindings⟩] }

/-- A further handle, with plain options. -/
def addHandle (o : Outline) (family : Nat) : Outline :=
  { o with handles := o.handles ++ [⟨family, .plain⟩] }

/-- Registers a module of the name in a family. -/
def register (o : Outline) (f : Nat) (name : String) (n : Nat) : Outline :=
  { o with families := o.families.modify f (·.register name n) }

/-- Changes the builtins of a family or the bindings of a module. -/
def write (o : Outline) (change : Namespace → Namespace) : Place → Outline
  | .builtins f => { o with families := o.families.modify f fun family =>
      { family with builtins := change family.builtins } }
  | .module n => { o with modules := o.modules.modify n fun m =>
      { m with bindings := change m.bindings } }

/-- The family of a handle. -/
def family? (o : Outline) (h : Nat) : Option Family :=
  o.handles[h]?.bind fun handle => o.families[handle.family]?

/-- The module that a handle finds under the name. -/
def module? (o : Outline) (h : Nat) (name : String) : Option Nat :=
  (o.family? h).bind (·.latest? name)

/-- The place of the builtins of a handle. -/
def builtinsPlace? (o : Outline) (h : Nat) : Option Place :=
  o.handles[h]?.map fun handle => .builtins handle.family

/-- The place of the bindings of the module that a handle finds under the name. -/
def modulePlace? (o : Outline) (h : Nat) (name : String) : Option Place :=
  (o.module? h name).map .module

/-- The name of a module. -/
def nameOf (o : Outline) (n : Nat) : String :=
  (o.modules[n]?.map NamedBindings.name).getD ""

/-- Changes what is at a place, if there is one. -/
def writeAt (o : Outline) (place : Option Place) (change : Namespace → Namespace) : Outline :=
  (place.map (o.write change)).getD o

/-- What has become of the host after an action. -/
def step (o : Outline) : Action → Outline
  | .detached => o.addFamily.addHandle o.families.length
  | .create =>
    ((o.addFamily.addModule mainModule ∅).register o.families.length mainModule
      o.modules.length).addHandle o.families.length
  | .copy h => { o with handles := o.handles ++ o.handles[h]?.toList }
  | .withOptions h options =>
    { o with handles := o.handles.modify h fun handle => { handle with options } }
  | .setBuiltins h builtins => o.writeAt (o.builtinsPlace? h) fun _ => builtins
  | .newModule name bindings =>
    { o.addModule name bindings with held := o.held ++ [o.modules.length] }
  | .register h m =>
    match o.handles[h]?, o.held[m]? with
    | some handle, some n =>
      { o.register handle.family (o.nameOf n) n with
        held := o.held ++ (o.module? h (o.nameOf n)).toList }
    | _, _ => o
  | .importModule h name => { o with held := o.held ++ (o.module? h name).toList }
  | .inject h moduleName member value =>
    o.writeAt (o.modulePlace? h moduleName) (·.insert member value)
  | .remove h moduleName member => o.writeAt (o.modulePlace? h moduleName) (·.erase member)
  | .globals h => { o with places := o.places ++ (o.modulePlace? h mainModule).toList }
  | .builtins h => { o with places := o.places ++ (o.builtinsPlace? h).toList }
  | .bindings m => { o with places := o.places ++ (o.held[m]?.map .module).toList }
  | .write i change => o.writeAt o.places[i]? change
  | .build _ => o

/-- What has become of a host that did these actions. -/
def run (o : Outline) (actions : List Action) : Outline :=
  actions.foldl step o

/-! ## What is never taken back -/

/-- Handles stay with their families, and families keep their registrations. -/
structure Continues (o later : Outline) : Prop where
  handles : ∀ {i : Nat} {handle}, o.handles[i]? = some handle →
    ∃ handle', later.handles[i]? = some handle' ∧ handle'.family = handle.family
  families : ∀ {f : Nat} {family}, o.families[f]? = some family →
    ∃ family', later.families[f]? = some family' ∧
      family.registrations <:+ family'.registrations

theorem Continues.trans {a b c : Outline} (h : a.Continues b) (h' : b.Continues c) :
    a.Continues c where
  handles hi := by
    obtain ⟨_, hb, heq⟩ := h.handles hi
    obtain ⟨handle, hc, heq'⟩ := h'.handles hb
    exact ⟨handle, hc, heq'.trans heq⟩
  families hf := by
    obtain ⟨_, hb, hsuffix⟩ := h.families hf
    obtain ⟨family, hc, hsuffix'⟩ := h'.families hb
    exact ⟨family, hc, hsuffix.trans hsuffix'⟩

variable {o later : Outline}

/-- Only handles are added. -/
theorem continues_of_handles {more : List Handle} (hhandles : later.handles = o.handles ++ more)
    (hfamilies : later.families = o.families) : o.Continues later where
  handles hi := by
    refine ⟨_, ?_, rfl⟩
    rw [hhandles, List.getElem?_append_left (List.getElem?_eq_some_iff.1 hi).1]
    exact hi
  families hf := ⟨_, hfamilies ▸ hf, List.suffix_rfl⟩

/-- Neither handles nor families change. -/
theorem continues_of_eq (hhandles : later.handles = o.handles)
    (hfamilies : later.families = o.families) : o.Continues later :=
  continues_of_handles (hhandles.trans (List.append_nil _).symm) hfamilies

theorem continues_addFamily (o : Outline) : o.Continues o.addFamily where
  handles hi := ⟨_, hi, rfl⟩
  families hf := ⟨_, getElem?_concat_of_getElem? hf, List.suffix_rfl⟩

/-- Some families change, and keep their registrations. -/
theorem continues_modify {f : Nat} {g : Family → Family}
    (hg : ∀ family, family.registrations <:+ (g family).registrations)
    (hhandles : later.handles = o.handles) (hfamilies : later.families = o.families.modify f g) :
    o.Continues later where
  handles hi := ⟨_, hhandles ▸ hi, rfl⟩
  families := by
    intro j family hf
    rw [hfamilies, List.getElem?_modify, hf]
    refine ⟨_, rfl, ?_⟩
    split
    · exact hg family
    · exact List.suffix_rfl

theorem continues_register (o : Outline) (f : Nat) (name : String) (n : Nat) :
    o.Continues (o.register f name n) :=
  continues_modify (fun _ => List.suffix_cons _ _) rfl rfl

theorem continues_writeAt (o : Outline) (place : Option Place) (change : Namespace → Namespace) :
    o.Continues (o.writeAt place change) := by
  match place with
  | none => exact continues_of_eq rfl rfl
  | some (.builtins _) =>
    exact continues_modify (g := fun family => { family with builtins := change family.builtins })
      (fun _ => List.suffix_rfl) rfl rfl
  | some (.module _) => exact continues_of_eq rfl rfl

theorem continues_step (o : Outline) (action : Action) : o.Continues (o.step action) := by
  cases action with
  | detached => exact o.continues_addFamily.trans (continues_of_handles rfl rfl)
  | create =>
    have hmade : o.Continues (o.addFamily.addModule mainModule ∅) :=
      o.continues_addFamily.trans (continues_of_eq rfl rfl)
    have hregistered := hmade.trans
      (continues_register _ o.families.length mainModule o.modules.length)
    exact hregistered.trans (continues_of_handles rfl rfl)
  | copy _ => exact continues_of_handles rfl rfl
  | withOptions i options =>
    refine ⟨fun {j handle} hj => ?_, fun hf => ⟨_, hf, List.suffix_rfl⟩⟩
    show ∃ handle', (o.handles.modify i _)[j]? = some handle' ∧ _
    rw [List.getElem?_modify, hj]
    refine ⟨_, rfl, ?_⟩
    split <;> rfl
  | setBuiltins _ _ => exact o.continues_writeAt _ _
  | newModule _ _ => exact continues_of_eq rfl rfl
  | register i m =>
    rw [step]
    split
    · next handle n _ _ =>
      exact (o.continues_register handle.family (o.nameOf n) n).trans (continues_of_eq rfl rfl)
    · exact continues_of_eq rfl rfl
  | importModule _ _ => exact continues_of_eq rfl rfl
  | inject _ _ _ _ => exact o.continues_writeAt _ _
  | remove _ _ _ => exact o.continues_writeAt _ _
  | globals _ => exact continues_of_eq rfl rfl
  | builtins _ => exact continues_of_eq rfl rfl
  | bindings _ => exact continues_of_eq rfl rfl
  | write _ _ => exact o.continues_writeAt _ _
  | build _ => exact continues_of_eq rfl rfl

theorem continues_run (o : Outline) (actions : List Action) : o.Continues (o.run actions) := by
  induction actions generalizing o with
  | nil => exact continues_of_eq rfl rfl
  | cons action rest ih => exact (o.continues_step action).trans (ih _)

end Outline

end NameCompletion
