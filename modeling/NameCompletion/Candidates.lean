import NameCompletion.Completer
import NameCompletion.Json.Writing

/-!
# Candidates

The candidates of one request, to be taken one at a time, and the two ways of writing them down.
-/

namespace NameCompletion

/-- The candidates that were not taken yet. -/
structure Candidates where
  remaining : List String
  deriving DecidableEq, Repr

namespace Candidates

/-- All candidates for the typed text. -/
def ofText (c : Completer) (text : String) : Candidates where
  remaining := c.complete text

/-- Takes the next candidate. -/
def next : Candidates → Option String × Candidates
  | ⟨[]⟩ => (none, ⟨[]⟩)
  | ⟨candidate :: rest⟩ => (some candidate, ⟨rest⟩)

/-- How many candidates remain. -/
def length (candidates : Candidates) : Nat :=
  candidates.remaining.length

/-- The least and the greatest number of candidates that may remain. -/
def sizeHint (candidates : Candidates) : Nat × Option Nat :=
  (candidates.length, some candidates.length)

/-- Takes all remaining candidates. -/
def takeAll (candidates : Candidates) : List String × Candidates :=
  (candidates.remaining, ⟨[]⟩)

/-- One candidate a line. -/
def plainText (candidates : List String) : String :=
  String.intercalate "\n" candidates

/-- The candidates as lines or as a JSON array. -/
def render (candidates : List String) (asJson : Bool) : String :=
  if asJson then Json.writeTexts candidates else plainText candidates

end Candidates

end NameCompletion
