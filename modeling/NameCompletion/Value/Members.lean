import NameCompletion.Store.Ancestry
import NameCompletion.Value.Methods

/-!
# Members of values

Every value can list the names of its members and read one of them.  A record has its fields, a
module its bindings and `__name__`, a class its own and inherited members and `__name__`, an
instance its fields, the members of its class and `__class__`, and a plain value the methods of
its type.  Listings keep their order and repetitions; only host objects can fail.
-/

namespace NameCompletion.Value

/-- The names of the members, in the order in which the value lists them. -/
def memberNames (s : Store) : Value → Except IntrospectError (List String)
  | null => .ok []
  | boolean _ => .ok []
  | number _ => .ok Methods.number.names
  | text _ => .ok Methods.text.names
  | vector _ => .ok Methods.vector.names
  | record fields => .ok (s.scope fields).names
  | function _ => .ok ["__name__"]
  | module m => .ok ((s.scope m.scope).names ++ ["__name__"])
  | classObject c => .ok (s.classes.ancestryNames c ++ ["__name__"])
  | instanceObject i =>
    .ok ((s.scope i.fields).names ++ s.classes.ancestryNames i.classRef ++ ["__class__"])
  | hostObject h => (s.host h).memberNames

/-- The special member `special` if that is the name asked for. -/
def special (name asked : String) (value : Value) : Option Value :=
  if asked = name then some value else none

/-- The member of that name; `none` if there is no such member. -/
def member (s : Store) : Value → String → Except IntrospectError (Option Value)
  | null, _ => .ok none
  | boolean _, _ => .ok none
  | number _, name => .ok (Methods.number.get? name)
  | text _, name => .ok (Methods.text.get? name)
  | vector _, name => .ok (Methods.vector.get? name)
  | record fields, name => .ok ((s.scope fields).get? name)
  | function f, name => .ok (special "__name__" name (text f.name))
  | module m, name =>
    .ok (((s.scope m.scope).get? name).or (special "__name__" name (text m.name)))
  | classObject c, name =>
    .ok ((s.classes.lookup c name).or (special "__name__" name (text (s.classes.name c))))
  | instanceObject i, name =>
    .ok ((((s.scope i.fields).get? name).or (s.classes.lookup i.classRef name)).or
      (special "__class__" name (classObject i.classRef)))
  | hostObject h, name => (s.host h).member name

/-- Whether it makes sense to call the value. -/
def isCallable (s : Store) : Value → Bool
  | function _ => true
  | classObject _ => true
  | hostObject h => (s.host h).isCallable
  | _ => false

end NameCompletion.Value
