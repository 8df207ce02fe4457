import NameCompletion.Word

/-!
# Fragments

A fragment is what the typed text asks for.  Text without a dot is the start of a global name.  Text
with a dot is the start of a member name behind a path, provided that every segment of the path is a
word and that what follows the last dot holds word characters only.  Any other dotted text, such as
`a..b` or `f(x).y`, asks for nothing.
-/

namespace NameCompletion

/-- What a typed text asks to complete. -/
inductive Fragment where
  /-- A global name that starts with `typed`. -/
  | global (typed : String)
  /-- A member of what `path` leads to, with a name that starts with `typed`. -/
  | member (path : List String) (typed : String)
  /-- Dotted text that is no path. -/
  | invalid
  deriving DecidableEq, Repr

namespace Fragment

/-- The segments of a path, joined by dots. -/
def joinPath (path : List String) : String :=
  String.intercalate "." path

/-- Reads the typed text. -/
def parse (text : String) : Fragment :=
  match text.toList.splitOn '.' with
  | [] | [_] => .global text
  | first :: second :: rest =>
    let segments := (first :: second :: rest).dropLast
    let typed := (second :: rest).getLast (List.cons_ne_nil _ _)
    if segments.all isWord && typed.all isWordChar then
      .member (segments.map String.ofList) (String.ofList typed)
    else .invalid

end Fragment

end NameCompletion
