import NameCompletion.Decimal.Shortest
import NameCompletion.Store.Basic
import NameCompletion.Text.Quoted

/-!
# Texts for values

The name of the type of a value, a short text that shows the value, and the summary of a module.
-/

namespace NameCompletion

namespace Value

/-- The name of the type; an instance has the name of its class. -/
def typeName (s : Store) : Value → String
  | null => "null"
  | boolean _ => "boolean"
  | number _ => "number"
  | text _ => "string"
  | vector _ => "vector"
  | record _ => "record"
  | function _ => "function"
  | module _ => "module"
  | classObject _ => "class"
  | instanceObject i => s.classes.name i.classRef
  | hostObject _ => "object"

/-- A short text for the value; containers show their size only. -/
def display (s : Store) : Value → String
  | null => "null"
  | boolean true => "true"
  | boolean false => "false"
  | number x => Decimal.ofFloat x
  | text t => "\"" ++ t ++ "\""
  | vector items => "<vector of " ++ (s.vector items).length.repr ++ ">"
  | record fields => "<record with " ++ (s.scope fields).size.repr ++ " fields>"
  | function f => "<function " ++ f.name ++ ">"
  | module m => "<module " ++ m.name ++ ">"
  | classObject c => "<class " ++ s.classes.name c ++ ">"
  | instanceObject i => "<" ++ s.classes.name i.classRef ++ " instance>"
  | hostObject _ => "<object>"

end Value

/-- The name of a module and how many names it binds.  The bindings themselves are left out, because
a module may be bound inside itself. -/
def Module.summary (s : Store) (m : Module) : String :=
  "Module \x7b name: " ++ Text.quoted m.name ++ ", bindings: " ++
    (s.scope m.scope).size.repr ++ " \x7d"

end NameCompletion
