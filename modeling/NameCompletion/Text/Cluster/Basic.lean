import NameCompletion.Text.Cluster.Property
import NameCompletion.Text.Extending

/-!
# Clusters of characters

What a reader takes for one character may be written by several: a letter with its marks, a
syllable, a flag.  A text falls into such clusters, and where one ends depends on the class of the
next character and on the cluster so far.  Main statements: the clusters of a text make it up again
(`flatten_clusters`), and none of them is empty (`ne_nil_of_mem_clusters`).
-/

namespace NameCompletion.Text

/-- The part that a character plays in a cluster. -/
inductive ClusterClass where
  | carriageReturn
  | lineFeed
  | control
  | extending
  | joiner
  | spacing
  | prepending
  | regional
  | leading
  | medial
  | trailing
  /-- A composed syllable that ends in its vowel. -/
  | openSyllable
  /-- A composed syllable that ends in a consonant. -/
  | closedSyllable
  | pictographic
  /-- A consonant of a script with conjuncts. -/
  | conjunct
  | other
  deriving DecidableEq, Repr

namespace ClusterClass

/-- The class of a character. -/
def ofChar (c : Char) : ClusterClass :=
  if c = '\r' then carriageReturn
  else if c = '\n' then lineFeed
  else if c = '\u200d' then joiner
  else if Text.controlling.contains c then control
  else if Text.extending.contains c || Text.extendingOther.contains c then extending
  else if Text.spacing.contains c then spacing
  else if Text.prepending.contains c then prepending
  else if Text.regional.contains c then regional
  else if Text.leading.contains c then leading
  else if Text.medial.contains c then medial
  else if Text.trailing.contains c then trailing
  else if Text.syllables.contains c then
    if (c.toNat - 0xac00) % 28 = 0 then openSyllable else closedSyllable
  else if Text.pictographic.contains c then pictographic
  else if Text.conjunctConsonants.contains c then conjunct
  else other

/-- Whether nothing joins a character of this class, neither before it nor after it. -/
def standsAlone : ClusterClass → Bool
  | carriageReturn | lineFeed | control => true
  | _ => false

/-- Whether a character of this class joins whatever cluster is before it. -/
def attaches : ClusterClass → Bool
  | extending | joiner | spacing => true
  | _ => false

/-- Whether two neighbours are parts of one Hangul syllable. -/
def formSyllable : ClusterClass → ClusterClass → Bool
  | leading, leading | leading, medial | leading, openSyllable | leading, closedSyllable => true
  | openSyllable, medial | openSyllable, trailing => true
  | medial, medial | medial, trailing => true
  | closedSyllable, trailing | trailing, trailing => true
  | _, _ => false

end ClusterClass

/-- Whether the character may stand between two consonants of a conjunct. -/
def isConjunctMark (c : Char) : Bool :=
  c != '\u200c' && (ClusterClass.ofChar c = .extending || ClusterClass.ofChar c = .joiner)

/-- Whether a cluster, read from its end, takes a consonant into a conjunct: it ends in a consonant
and marks, a linker among them. -/
def awaitsConsonant (cluster : List Char) : Bool :=
  (cluster.takeWhile isConjunctMark).any (conjunctLinkers.contains ·) &&
    ((cluster.dropWhile isConjunctMark).head?.map ClusterClass.ofChar) = some .conjunct

/-- Whether a cluster, read from its end, ends in a pictograph and marks. -/
def endsInPictograph (cluster : List Char) : Bool :=
  ((cluster.dropWhile (ClusterClass.ofChar · = .extending)).head?.map ClusterClass.ofChar) =
    some .pictographic

/-- Whether a cluster, read from its end, ends in the first letter of a flag. -/
def awaitsRegional (cluster : List Char) : Bool :=
  (cluster.takeWhile (ClusterClass.ofChar · = .regional)).length % 2 = 1

/-- Whether a character belongs to the cluster before it, which is read from its end. -/
def belongsTo : (cluster : List Char) → (c : Char) → Bool
  | [], _ => false
  | last :: before, c =>
    match ClusterClass.ofChar last, ClusterClass.ofChar c with
    | .carriageReturn, .lineFeed => true
    | left, right =>
      if left.standsAlone || right.standsAlone then false
      else if left.formSyllable right || right.attaches || left = .prepending then true
      else
        match left, right with
        | _, .conjunct => awaitsConsonant (last :: before)
        | .joiner, .pictographic => endsInPictograph before
        | .regional, .regional => awaitsRegional (last :: before)
        | _, _ => false

/-- The clusters of a text that continues the given cluster, which is read from its end. -/
def clustersFrom (cluster : List Char) : List Char → List (List Char)
  | [] => [cluster.reverse]
  | c :: rest =>
    if belongsTo cluster c then clustersFrom (c :: cluster) rest
    else cluster.reverse :: clustersFrom [c] rest

/-- The clusters of a text. -/
def clusters : List Char → List (List Char)
  | [] => []
  | c :: rest => clustersFrom [c] rest

theorem flatten_clustersFrom (cluster text : List Char) :
    (clustersFrom cluster text).flatten = cluster.reverse ++ text := by
  induction text generalizing cluster with
  | nil => simp [clustersFrom]
  | cons c rest ih =>
    rw [clustersFrom]
    split <;> simp [ih]

/-- The clusters of a text make it up again. -/
theorem flatten_clusters (text : List Char) : (clusters text).flatten = text := by
  cases text with
  | nil => rfl
  | cons c rest => simp [clusters, flatten_clustersFrom]

theorem ne_nil_of_mem_clustersFrom {cluster text part : List Char} (h : cluster ≠ [])
    (hpart : part ∈ clustersFrom cluster text) : part ≠ [] := by
  induction text generalizing cluster with
  | nil => simpa [clustersFrom] using fun he => h (by simpa [clustersFrom, he] using hpart)
  | cons c rest ih =>
    rw [clustersFrom] at hpart
    split at hpart
    · exact ih (List.cons_ne_nil c cluster) hpart
    · rcases List.mem_cons.1 hpart with rfl | hrest
      · simpa using h
      · exact ih (List.cons_ne_nil c []) hrest

/-- No cluster is empty. -/
theorem ne_nil_of_mem_clusters {text part : List Char} (h : part ∈ clusters text) : part ≠ [] := by
  cases text with
  | nil => simp [clusters] at h
  | cons c rest => exact ne_nil_of_mem_clustersFrom (List.cons_ne_nil c []) h

end NameCompletion.Text
