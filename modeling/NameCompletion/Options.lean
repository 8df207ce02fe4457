import NameCompletion.Json.Reading

/-!
# Completion options

The switches of a completion request, and how they are written in JSON: as an object with any of the
three fields, each at most once, or as an array of the first fields in their order.
-/

namespace NameCompletion

/-- Which candidates are offered and how they look. -/
structure Options where
  /-- Keywords, offered when a bare name is completed. -/
  keywords : List String := []
  /-- Whether callables get an opening parenthesis and keywords a space. -/
  decorate : Bool := false
  /-- Whether private members are offered before the underscore is typed. -/
  showPrivate : Bool := false
  deriving DecidableEq, Repr, Inhabited

namespace Options

/-- No keywords, no decoration, private members hidden. -/
def plain : Options := {}

/-- The options with other keywords. -/
def withKeywords (options : Options) (keywords : List String) : Options :=
  { options with keywords }

/-- The options with decoration on or off. -/
def decorated (options : Options) (on : Bool) : Options :=
  { options with decorate := on }

/-- The options with private members shown or hidden. -/
def privateMembers (options : Options) (shown : Bool) : Options :=
  { options with showPrivate := shown }

/-- An array of texts. -/
def readTexts? : Json → Option (List String)
  | .array items => items.mapM fun
    | .text t => some t
    | _ => none
  | _ => none

/-- A switch. -/
def readSwitch? : Json → Option Bool
  | .boolean b => some b
  | _ => none

/-- Sets a field that is written in JSON; only the three fields are known. -/
def setField? (options : Options) (field : String) (j : Json) : Option Options :=
  match field with
  | "keywords" => (readTexts? j).map options.withKeywords
  | "decorate" => (readSwitch? j).map options.decorated
  | "show_private" => (readSwitch? j).map options.privateMembers
  | _ => none

/-- The names of the fields in their order. -/
def fields : List String :=
  ["keywords", "decorate", "show_private"]

/-- Sets fields one after the other. -/
def setFields? (options : Options) (entries : List (String × Json)) : Option Options :=
  entries.foldlM (fun options e => options.setField? e.1 e.2) options

/-- Options that are written in JSON. -/
def ofJson? : Json → Option Options
  | .object members => if (members.map Prod.fst).Nodup then plain.setFields? members else none
  | .array items =>
    if items.length ≤ fields.length then plain.setFields? (fields.zip items) else none
  | _ => none

/-- Options that are written as a JSON text. -/
def ofText? (text : String) : Option Options :=
  (Json.parse? text).bind ofJson?

end Options

end NameCompletion
