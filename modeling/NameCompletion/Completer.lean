import NameCompletion.Fragment
import NameCompletion.Options
import NameCompletion.Value.Members

/-!
# Completion

A completer lists the names that continue a typed text.

A global name is a keyword, a bound name or the name of a builtin, in this order of precedence: a
name that comes from several of them is offered once, and looks as the first of them says.

A member is looked for in the value that the path before the last dot leads to.  A path that leads
nowhere has no members; completion is advice and never fails.  Members whose names start with an
underscore are private: they stay hidden until the underscore is typed, unless that would hide all
there is to offer.

Candidates are listed in ascending order, each of them once.
-/

namespace NameCompletion

/-- What a completion request is answered from. -/
structure Completer where
  store : Store
  /-- The global names. -/
  globals : Namespace
  /-- Names that are looked up after the global ones. -/
  builtins : Option Namespace := none
  options : Options := .plain

namespace Completer

/-- Texts in ascending order. -/
def inOrder (texts : List String) : List String :=
  texts.mergeSort fun a b => decide (a ≤ b)

/-- The value that a global name is bound to. -/
def global? (c : Completer) (name : String) : Option Value :=
  (c.globals.get? name).or (c.builtins.bind (·.get? name))

/-- The member of a value, if it is there and can be read. -/
def member? (c : Completer) (value : Value) (name : String) : Option Value :=
  match value.member c.store name with
  | .ok found => found
  | .error _ => none

/-- The value that a path leads to. -/
def resolve (c : Completer) : List String → Option Value
  | [] => none
  | first :: rest => (c.global? first).bind fun value => rest.foldlM c.member? value

/-- What is appended to a name that is bound to the value. -/
def callMark (c : Completer) (value : Value) : String :=
  if c.options.decorate && value.isCallable c.store then "(" else ""

/-- What is appended to a keyword. -/
def keywordMark (c : Completer) : String :=
  if c.options.decorate then " " else ""

/-- A name that can be offered, and what is appended to it. -/
structure Offer where
  name : String
  mark : String
  deriving DecidableEq, Repr

/-- The offer as it is shown. -/
def Offer.text (offer : Offer) : String :=
  offer.name ++ offer.mark

/-- The first offer of every name. -/
def firstOfEachName : List Offer → List Offer
  | [] => []
  | offer :: rest => offer :: (firstOfEachName rest).filter fun other => other.name != offer.name

/-- The names of a namespace as offers. -/
def boundOffers (c : Completer) (names : Namespace) : List Offer :=
  names.toList.map fun e => ⟨e.1, c.callMark e.2⟩

/-- All global names as offers, in order of precedence. -/
def globalOffers (c : Completer) : List Offer :=
  c.options.keywords.map (⟨·, c.keywordMark⟩) ++ c.boundOffers c.globals ++
    (c.builtins.map c.boundOffers).getD []

/-- The global names that continue the typed text. -/
def globalMatches (c : Completer) (typed : String) : List String :=
  let offers := c.globalOffers.filter fun offer =>
    continuesText typed offer.name && isIdentifier offer.name
  inOrder ((firstOfEachName offers).map Offer.text)

/-- How the names start that are hidden, from the strictest choice to none at all. -/
def hidingLevels (c : Completer) (typed : String) : List (Option String) :=
  if c.options.showPrivate then [none]
  else if typed = "" then [some "_", some "__", none]
  else if typed = "_" then [some "__", none]
  else [none]

/-- Whether the name stays hidden. -/
def isHidden : (level : Option String) → (name : String) → Bool
  | none, _ => false
  | some start, name => continuesText start name

/-- The candidate for a member, unless reading the member fails.  A member that is listed but not
there is still a name to type. -/
def memberCandidate? (c : Completer) (path : List String) (value : Value) (name : String) :
    Option String :=
  match value.member c.store name with
  | .ok (some found) => some (Fragment.joinPath path ++ "." ++ name ++ c.callMark found)
  | .ok none => some (Fragment.joinPath path ++ "." ++ name)
  | .error _ => none

/-- The first list that is not empty, or else the last one. -/
def firstNonEmpty {α : Type} : List (List α) → List α
  | [] => []
  | [xs] => xs
  | xs :: rest => if xs.isEmpty then firstNonEmpty rest else xs

/-- The members of what the path leads to that continue the typed text. -/
def memberMatches (c : Completer) (path : List String) (typed : String) : List String :=
  match c.resolve path with
  | none => []
  | some value =>
    match value.memberNames c.store with
    | .error _ => []
    | .ok listed =>
      let names := listed.eraseDups.filter fun name =>
        isIdentifier name && continuesText typed name
      inOrder <| firstNonEmpty <| (c.hidingLevels typed).map fun level =>
        (names.filter fun name => !isHidden level name).filterMap (c.memberCandidate? path value)

/-- All candidates for the typed text, in order. -/
def complete (c : Completer) (text : String) : List String :=
  match Fragment.parse text with
  | .global typed => c.globalMatches typed
  | .member path typed => c.memberMatches path typed
  | .invalid => []

/-- The candidate at a position. -/
def completeAt (c : Completer) (text : String) (position : Nat) : Option String :=
  (c.complete text)[position]?

end Completer

end NameCompletion
