import NameCompletion.Bindings
import NameCompletion.Store.Cells

/-!
# Values

What a name can be bound to.  Plain values stand for themselves.  Vectors, records, modules,
instances and host objects refer to shared cells, so that a change made through one binding is
seen through every other; classes are referred to as well, because instances of the same class
share it.
-/

namespace NameCompletion

/-- A shared list of values. -/
abbrev VectorRef := Ref .vector

/-- Shared bindings: the fields of a record or an instance, the contents of a module. -/
abbrev ScopeRef := Ref .scope

/-- A class. -/
abbrev ClassRef := Ref .classObject

/-- An object of the host. -/
abbrev HostRef := Ref .host

/-- The modules of a family of sessions. -/
abbrev RegistryRef := Ref .registry

/-- A callable with the number of its arguments, or -1 if any number will do. -/
structure Function where
  name : String
  arity : Int8
  deriving DecidableEq, Repr

/-- A callable that takes any number of arguments. -/
def Function.variadic (name : String) : Function where
  name
  arity := -1

/-- A named, shared set of bindings. -/
structure Module where
  name : String
  scope : ScopeRef
  deriving DecidableEq, Repr

/-- An instance of a class, with fields of its own. -/
structure Instance where
  classRef : ClassRef
  fields : ScopeRef
  deriving DecidableEq, Repr

/-- What a name can be bound to. -/
inductive Value where
  /-- The absence of a value. -/
  | null
  | boolean (value : Bool)
  | number (value : Float)
  | text (value : String)
  | vector (items : VectorRef)
  /-- A record; its members are its fields. -/
  | record (fields : ScopeRef)
  | function (f : Function)
  | module (m : Module)
  | classObject (c : ClassRef)
  | instanceObject (i : Instance)
  /-- An object that describes its own members. -/
  | hostObject (h : HostRef)
  deriving Inhabited

/-- Bindings of names to values. -/
abbrev Namespace := Bindings Value

/-- A class: its own members, and the classes that it inherits from in order. -/
structure ClassInfo where
  name : String
  members : Namespace
  bases : List ClassRef

/-- Why members could not be listed or read. -/
inductive IntrospectError where
  /-- Reading an attribute failed. -/
  | attributeFailed (name reason : String)
  /-- The members could not be listed at all. -/
  | listingFailed (reason : String)
  deriving DecidableEq, Repr

/-- The wording of the error. -/
def IntrospectError.message : IntrospectError → String
  | attributeFailed name reason =>
    "attribute '" ++ name ++ "' could not be evaluated: " ++ reason
  | listingFailed reason => "member listing failed: " ++ reason

/-- An object of the host.  It may list its members in any order and more than once, and both
listing and reading may fail. -/
structure HostObject where
  memberNames : Except IntrospectError (List String)
  member : String → Except IntrospectError (Option Value)
  isCallable : Bool

end NameCompletion
