import NameCompletion.Proofs.Prompt.Line

/-!
# The first word of a line

What a line is about is said by its first word: `let`, `del`, `:names` and so on.  A line is read as
the command that this word calls, and any other word is refused as unknown.  There is one exception.
What follows `:complete` need not be parted from it, so a longer word that starts like this is taken
apart: `:completefoo` completes `foo`.

* `commandWords`: the words that call commands.
* `RecognisedByWord`: the line is read by its first word as a whole.
* `opens_of_readCommand`: what a line that is read starts with.
* `recognisedByWord_iff`: only the longer words are not recognised as a whole.
* `completefoo_not_recognisedByWord`: a longer word that is read.
-/

namespace NameCompletion

/-- What a command is for, whatever names and values it is about. -/
inductive Command.Kind where
  | assign
  | delete
  | names
  | complete
  | help
  | quit
  deriving DecidableEq, Repr

/-- The kind of a command. -/
def Command.kind : Command → Command.Kind
  | assign _ _ => .assign
  | delete _ => .delete
  | names => .names
  | complete _ => .complete
  | help => .help
  | quit => .quit

namespace Prompt

/-- The words that call commands, and the kinds of these commands. -/
def commandWords : List (String × Command.Kind) :=
  [("let", .assign), ("del", .delete), (":complete", .complete), (":names", .names),
    (":help", .help), (":quit", .quit), (":q", .quit)]

/-- What comes before the first blank of a line, when blanks at its start are left out. -/
def firstWord (line : String) : String :=
  String.ofList ((Text.trimChars line.toList).takeWhile fun c => !Text.isBlank c)

/-- A line that is read starts with a word that calls a command of that kind, and a line that starts
with any other word is refused for it. -/
structure RecognisedByWord (s : Store) (line : String) : Prop where
  called : ∀ command s', readCommand s line = .ok (command, s') →
    (firstWord line, command.kind) ∈ commandWords
  unknown : (∀ kind, (firstWord line, kind) ∉ commandWords) →
    readCommand s line = .error (.unknownCommand (String.ofList (Text.trimChars line.toList)))

/-- The word starts like the one that calls for completions, and goes on. -/
def LengthensComplete (word : String) : Prop :=
  ":complete".toList <+: word.toList ∧ word ≠ ":complete"

/-! ## First words -/

section

variable {line word : String} {rest : List Char}

/-- A word goes on up to the first blank behind it. -/
theorem firstWord_eq (hline : Text.trimChars line.toList = word.toList ++ rest)
    (hword : ∀ c ∈ word.toList, Text.isBlank c = false) :
    firstWord line = word ++ String.ofList (rest.takeWhile fun c => !Text.isBlank c) := by
  have hplain : ∀ c ∈ word.toList, (!Text.isBlank c) = true := fun c hc => by
    rw [hword c hc]
    rfl
  rw [firstWord, hline, List.takeWhile_append_of_pos hplain, String.ofList_append,
    String.ofList_toList]

/-- A word that a blank follows. -/
theorem firstWord_eq_of_blank {blank : Char} (hblank : Text.isBlank blank = true)
    (hline : Text.trimChars line.toList = word.toList ++ blank :: rest)
    (hword : ∀ c ∈ word.toList, Text.isBlank c = false) : firstWord line = word := by
  rw [firstWord_eq hline hword, List.takeWhile_cons_of_neg (by rw [hblank]; decide)]
  exact String.append_empty

/-- A word that is all there is. -/
theorem firstWord_eq_of_alone (hline : Text.trimChars line.toList = word.toList)
    (hword : ∀ c ∈ word.toList, Text.isBlank c = false) : firstWord line = word := by
  rw [← List.append_nil word.toList] at hline
  rw [firstWord_eq hline hword]
  exact String.append_empty

end

theorem not_isBlank_of_mem_commandWords {word : String} {kind : Command.Kind}
    (h : (word, kind) ∈ commandWords) : ∀ c ∈ word.toList, Text.isBlank c = false := by
  have hall : ∀ w ∈ commandWords, (w.1.toList.all fun c => !Text.isBlank c) = true := by decide
  intro c hc
  simpa using List.all_eq_true.1 (hall _ h) c hc

/-! ## What a line starts with -/

/-- How a line starts that is read as a command of a kind: with a word that a blank follows, with
`:complete` and anything behind it, or with a word that is all there is. -/
inductive Opens (line : List Char) : Command.Kind → Prop where
  | parted (word : String) (kind : Command.Kind) {rest : List Char}
      (hword : (word, kind) ∈ commandWords) (hline : line = word.toList ++ ' ' :: rest) :
      Opens line kind
  | complete {rest : List Char} (hline : line = ":complete".toList ++ rest) : Opens line .complete
  | alone (word : String) (kind : Command.Kind)
      (hword : (word, kind) ∈ commandWords) (hline : line = word.toList) : Opens line kind

section

variable {s s' : Store} {line : String} {command : Command}

theorem opens_of_readCommand (h : readCommand s line = .ok (command, s')) :
    Opens (Text.trimChars line.toList) command.kind := by
  unfold readCommand readTrimmed at h
  split at h
  · next rest hlet =>
    obtain ⟨name, value, rfl⟩ := exists_assign_of_readBinding h
    have hline := after?_eq_some_iff.1 hlet
    exact .parted "let" .assign (by decide) hline
  · split at h
    · next rest hdel =>
      cases hname : readName rest with
      | error e => rw [hname] at h; cases h
      | ok name =>
        rw [hname] at h
        cases h
        have hline := after?_eq_some_iff.1 hdel
        exact .parted "del" .delete (by decide) hline
    · split at h
      · next rest hcomplete =>
        cases h
        exact .complete (after?_eq_some_iff.1 hcomplete)
      · have hwhole : ∀ {word : String}, String.ofList (Text.trimChars line.toList) = word →
            Text.trimChars line.toList = word.toList := by
          rintro _ rfl
          exact String.toList_ofList.symm
        split at h
        · next heq => cases h; exact .alone _ .names (by decide) (hwhole heq)
        · next heq => cases h; exact .alone _ .help (by decide) (hwhole heq)
        · next heq => cases h; exact .alone _ .quit (by decide) (hwhole heq)
        · next heq => cases h; exact .alone _ .quit (by decide) (hwhole heq)
        · cases h

/-- A line that starts like no command is unknown. -/
theorem readCommand_of_not_opens (h : ∀ kind, ¬ Opens (Text.trimChars line.toList) kind) :
    readCommand s line = .error (.unknownCommand (String.ofList (Text.trimChars line.toList))) := by
  have hwhole : ∀ {word : String} (kind : Command.Kind), (word, kind) ∈ commandWords →
      String.ofList (Text.trimChars line.toList) ≠ word := by
    rintro _ kind hword rfl
    exact h kind (.alone _ kind hword String.toList_ofList.symm)
  unfold readCommand readTrimmed
  split
  · next rest hlet =>
    have hline := after?_eq_some_iff.1 hlet
    exact absurd (.parted "let" .assign (by decide) hline) (h _)
  · split
    · next rest hdel =>
      have hline := after?_eq_some_iff.1 hdel
      exact absurd (.parted "del" .delete (by decide) hline) (h _)
    · split
      · next rest hcomplete =>
        exact absurd (.complete (after?_eq_some_iff.1 hcomplete)) (h _)
      · split
        · next heq => exact absurd heq (hwhole .names (by decide))
        · next heq => exact absurd heq (hwhole .help (by decide))
        · next heq => exact absurd heq (hwhole .quit (by decide))
        · next heq => exact absurd heq (hwhole .quit (by decide))
        · rfl

/-- Whatever follows `:complete` is completed. -/
theorem readCommand_of_complete {rest : List Char}
    (hline : Text.trimChars line.toList = ":complete".toList ++ rest) :
    readCommand s line = .ok (.complete (String.ofList (Text.trimChars rest)), s) := by
  have hlet : after? "let " (":complete".toList ++ rest) = none := rfl
  have hdel : after? "del " (":complete".toList ++ rest) = none := rfl
  rw [readCommand, hline, readTrimmed, hlet, hdel, after?_eq_some_iff.2 rfl]

/-- The first word is that of the command, or a longer one than `:complete`. -/
theorem Opens.firstWord {kind : Command.Kind} (h : Opens (Text.trimChars line.toList) kind) :
    (firstWord line, kind) ∈ commandWords ∨ LengthensComplete (firstWord line) := by
  cases h with
  | parted word kind hword hline =>
    left
    rwa [firstWord_eq_of_blank (by decide) hline (not_isBlank_of_mem_commandWords hword)]
  | alone word kind hword hline =>
    left
    rwa [firstWord_eq_of_alone hline (not_isBlank_of_mem_commandWords hword)]
  | complete hline =>
    have hcall : (":complete", Command.Kind.complete) ∈ commandWords := by decide
    have hfirst := firstWord_eq hline (not_isBlank_of_mem_commandWords hcall)
    by_cases hword : Prompt.firstWord line = ":complete"
    · left
      rwa [hword]
    · right
      refine ⟨?_, hword⟩
      rw [hfirst, String.toList_append]
      exact List.prefix_append _ _

/-- The line goes on as its first word does. -/
theorem exists_append_of_lengthens (h : LengthensComplete (firstWord line)) :
    ∃ rest, Text.trimChars line.toList = ":complete".toList ++ rest := by
  have hword : (firstWord line).toList <+: Text.trimChars line.toList := by
    rw [firstWord, String.toList_ofList]
    exact List.takeWhile_prefix _
  obtain ⟨rest, hrest⟩ := h.1.trans hword
  exact ⟨rest, hrest.symm⟩

/-! ## The main result -/

/-- Lines are recognised by their first word, unless it is longer than `:complete` and starts like
it; in that case what follows these letters is completed. -/
theorem recognisedByWord_iff (s : Store) (line : String) :
    (RecognisedByWord s line ↔ ¬ LengthensComplete (firstWord line)) ∧
      (LengthensComplete (firstWord line) →
        ∃ rest, Text.trimChars line.toList = ":complete".toList ++ rest ∧
          readCommand s line = .ok (.complete (String.ofList (Text.trimChars rest)), s)) := by
  have hlonger : LengthensComplete (firstWord line) →
      ∃ rest, Text.trimChars line.toList = ":complete".toList ++ rest ∧
        readCommand s line = .ok (.complete (String.ofList (Text.trimChars rest)), s) := by
    intro h
    obtain ⟨rest, hline⟩ := exists_append_of_lengthens h
    exact ⟨rest, hline, readCommand_of_complete hline⟩
  refine ⟨⟨fun hrecognised h => ?_, fun h => ⟨fun command s' hread => ?_, fun hword => ?_⟩⟩,
    hlonger⟩
  · obtain ⟨rest, _, hread⟩ := hlonger h
    have hcalled := hrecognised.called _ _ hread
    have honly : ∀ w ∈ commandWords, w.2 = .complete → w.1 = ":complete" := by decide
    exact h.2 (honly _ hcalled rfl)
  · exact (opens_of_readCommand hread).firstWord.resolve_right h
  · refine readCommand_of_not_opens fun kind hopens => ?_
    exact hopens.firstWord.elim (hword kind) h

/-- A command is recognised with any blank behind it. -/
theorem complete_recognisedByWord :
    ¬ LengthensComplete (firstWord " :complete\tobj.na") ∧
      RecognisedByWord .empty " :complete\tobj.na" := by
  have hword : ¬ LengthensComplete (firstWord " :complete\tobj.na") := by
    have h : firstWord " :complete\tobj.na" = ":complete" := by decide
    exact fun hlonger => hlonger.2 h
  exact ⟨hword, (recognisedByWord_iff _ _).1.2 hword⟩

/-- A longer word is read as if there were a blank in it. -/
theorem completefoo_not_recognisedByWord :
    firstWord ":completefoo" = ":completefoo" ∧
      readCommand .empty ":completefoo" = .ok (.complete "foo", .empty) ∧
      ¬ RecognisedByWord .empty ":completefoo" := by
  have hword : firstWord ":completefoo" = ":completefoo" := by decide
  have hread : readCommand .empty ":completefoo" = .ok (.complete "foo", .empty) := rfl
  refine ⟨hword, hread, fun hrecognised => ?_⟩
  have hcalled := hrecognised.called _ _ hread
  rw [hword] at hcalled
  exact absurd hcalled (by decide)

end

end Prompt

end NameCompletion
