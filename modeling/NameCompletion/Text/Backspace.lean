import NameCompletion.Text.Bytes
import NameCompletion.Text.Cluster.Basic

/-!
# Backspaces

A line that was not typed at a terminal may still hold backspaces.  Each takes back the cluster
before it, unless the line is empty.  How wide a cluster was is remembered in one byte, so of a
cluster of 256 bytes or more only a part is taken back.  Main statements: a line without backspaces
stays as it is (`edited?_eq_self`), and a backspace undoes a cluster of fewer than 256 bytes
(`type?_backspace`).
-/

namespace NameCompletion.Text

/-- The backspace. -/
def backspace : Char := '\x08'

/-- A line that is being typed. -/
structure TypedLine where
  /-- The characters so far, the last one first. -/
  reversed : List Char := []
  /-- The remembered widths of the clusters, the last one first. -/
  widths : List Nat := []
  deriving DecidableEq, Repr

namespace TypedLine

/-- Types a cluster; `none` if a backspace would cut a character. -/
def type? (line : TypedLine) (cluster : List Char) : Option TypedLine :=
  if cluster = [backspace] then
    match line.widths with
    | [] => some line
    | width :: widths =>
      (splitAtByte? line.reversed width).map fun (_, reversed) => { reversed, widths }
  else
    some
      { reversed := cluster.reverse ++ line.reversed
        widths := byteLength cluster % 256 :: line.widths }

end TypedLine

/-- A line with its backspaces carried out; `none` if one of them would cut a character. -/
def edited? (line : List Char) : Option (List Char) :=
  ((clusters line).foldlM TypedLine.type? {}).map (·.reversed.reverse)

/-- A backspace takes back a cluster of fewer than 256 bytes. -/
theorem TypedLine.type?_backspace {line : TypedLine} {cluster : List Char}
    (hcluster : cluster ≠ [backspace]) (hwidth : byteLength cluster < 256) :
    (line.type? cluster).bind (·.type? [backspace]) = some line := by
  have hsplit : splitAtByte? (cluster.reverse ++ line.reversed) (byteLength cluster) =
      some (cluster.reverse, line.reversed) := by
    rw [← byteLength_reverse, splitAtByte?_append]
  simp [type?, hcluster, Nat.mod_eq_of_lt hwidth, hsplit]

theorem reversed_of_foldlM_type? (line : TypedLine) {parts : List (List Char)}
    (h : [backspace] ∉ parts) :
    (parts.foldlM TypedLine.type? line).map (·.reversed) =
      some (parts.flatten.reverse ++ line.reversed) := by
  induction parts generalizing line with
  | nil => simp
  | cons part rest ih =>
    rw [List.mem_cons, not_or] at h
    simpa [TypedLine.type?, Ne.symm h.1] using ih _ h.2

/-- A line without backspaces stays as it is. -/
theorem edited?_eq_self {line : List Char} (h : backspace ∉ line) : edited? line = some line := by
  have hparts : [backspace] ∉ clusters line := fun hmem =>
    h (flatten_clusters line ▸ List.mem_flatten.2 ⟨_, hmem, List.mem_singleton.2 rfl⟩)
  obtain ⟨typed, htyped, hreversed⟩ :=
    Option.map_eq_some_iff.1 (reversed_of_foldlM_type? {} hparts)
  simp [edited?, htyped, hreversed, flatten_clusters]

end NameCompletion.Text
