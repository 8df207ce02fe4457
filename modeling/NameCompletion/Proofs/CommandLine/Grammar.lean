import NameCompletion.Proofs.CommandLine.Spelling
import NameCompletion.Proofs.Results

/-!
# The grammar of command lines

What can be given on a command line, and the arguments that say so: the rules of
`CommandLine.Arguments` told from the other end, not how arguments are read but how options, flags
and the fragment are written.

* `Given`: what is said by an argument, or by an option and the value behind it.
* `Spells`: the arguments of a subcommand and what is given by them, in its order.
* `IsWritten`: a whole command line that names a subcommand, and what is given by its arguments.
* `Progress.takeAll_of_spells`: reading arguments records what they give, one after the other.
-/

namespace NameCompletion.CommandLine

/-! ## The grammar -/

/-- What is said by an argument, or by an option and the value behind it. -/
inductive Given where
  | value (option : ValueOption) (text : String)
  | flag (flag : Flag)
  | fragment (text : String)
  deriving DecidableEq, Repr

/-- Whether this is the fragment. -/
def Given.isFragment : Given → Bool
  | fragment _ => true
  | value _ _ | flag _ => false

/-- Whether each of the letters is the letter of a switch. -/
def AreLetters (context : Context) (letters : List Char) : Prop :=
  ∀ letter ∈ letters, ∃ switch : Switch, switch.KnownIn context ∧ switch.letter? = some letter

/-- An argument that is no switch.  As long as the fragment may come (`free`), this includes the
arguments with a dash in front that name an unknown switch. -/
inductive IsValue (context : Context) (free : Bool) : String → Prop where
  | plain {argument : String} (h : IsPlain argument) : IsValue context free argument
  | long {name : String} {attached : Option String} (hfree : free = true)
      (hname : '=' ∉ name.toList) (hne : name ≠ "" ∨ attached.isSome)
      (hunknown : ∀ switch : Switch, switch.KnownIn context → switch.longName ≠ name) :
      IsValue context free (longText name attached)
  | letters {letter : Char} {letters : List Char} (hfree : free = true) (hletter : letter ≠ '-')
      (hunknown : ¬ AreLetters context (letter :: letters)) :
      IsValue context free (String.ofList ('-' :: letter :: letters))

theorem IsValue.isPlain {context : Context} {argument : String}
    (h : IsValue context false argument) : IsPlain argument := by
  cases h with
  | plain h => exact h
  | long hfree | letters hfree => cases hfree

/-- An argument by which an option announces its value, which is the next argument. -/
inductive Opens (context : Context) : String → ValueOption → Prop where
  | long {option : ValueOption} (hknown : (Switch.valueOption option).KnownIn context) :
      Opens context (longText option.longName none) option
  | letter {option : ValueOption} {letter : Char}
      (hknown : (Switch.valueOption option).KnownIn context)
      (hletter : option.letter? = some letter) :
      Opens context (String.ofList ['-', letter]) option

theorem Opens.knownIn {context : Context} {argument : String} {option : ValueOption}
    (h : Opens context argument option) : (Switch.valueOption option).KnownIn context := by
  cases h with
  | long hknown | letter hknown => exact hknown

theorem Opens.head? {context : Context} {argument : String} {option : ValueOption}
    (h : Opens context argument option) : argument.toList.head? = some '-' := by
  cases h <;> simp [longText]

/-- An argument that is a flag, or an option with its value attached.  While the fragment may come,
letters are read as a switch only if all of them are letters of switches, those of the value
included.  The letters of flags are left out: they ask for help or the version, so nothing is given
by the line they stand in. -/
inductive Gives (context : Context) (free : Bool) : String → Given → Prop where
  | flag {flag : Flag} (hknown : (Switch.flag flag).KnownIn context) :
      Gives context free (longText flag.longName none) (.flag flag)
  | long {option : ValueOption} {value : String}
      (hknown : (Switch.valueOption option).KnownIn context) :
      Gives context free (longText option.longName (some value)) (.value option value)
  | letter {option : ValueOption} {letter : Char} {value : List Char}
      (hknown : (Switch.valueOption option).KnownIn context)
      (hletter : option.letter? = some letter) (hne : value ≠ [])
      (hequals : value.head? ≠ some '=') (hfree : free = true → AreLetters context value) :
      Gives context free (String.ofList ('-' :: letter :: value))
        (.value option (String.ofList value))
  | equals {option : ValueOption} {letter : Char} {value : List Char}
      (hknown : (Switch.valueOption option).KnownIn context)
      (hletter : option.letter? = some letter) (hfree : free = false) :
      Gives context free (String.ofList ('-' :: letter :: '=' :: value))
        (.value option (String.ofList value))

theorem Gives.head? {context : Context} {free : Bool} {argument : String} {g : Given}
    (h : Gives context free argument g) : argument.toList.head? = some '-' := by
  cases h <;> simp [longText]

theorem Gives.not_isFragment {context : Context} {free : Bool} {argument : String} {g : Given}
    (h : Gives context free argument g) : g.isFragment = false := by
  cases h <;> rfl

/-- The arguments of a subcommand and what is given by them.  The first value that belongs to no
option is the fragment, if one may still come (`free`). -/
inductive Spells (context : Context) : Bool → List String → List Given → Prop where
  | nil {free : Bool} : Spells context free [] []
  | fragment {text : String} {rest : List String} {given : List Given}
      (htext : IsValue context true text) (hrest : Spells context false rest given) :
      Spells context true (text :: rest) (.fragment text :: given)
  | given {free : Bool} {argument : String} {g : Given} {rest : List String} {given : List Given}
      (hgives : Gives context free argument g) (hrest : Spells context free rest given) :
      Spells context free (argument :: rest) (g :: given)
  | apart {free : Bool} {argument value : String} {option : ValueOption} {rest : List String}
      {given : List Given} (hopens : Opens context argument option)
      (hvalue : IsValue context free value) (hrest : Spells context free rest given) :
      Spells context free (argument :: value :: rest) (.value option value :: given)
  | separator {free : Bool} : Spells context free ["--"] []
  | separated {text : String} : Spells context true ["--", text] [.fragment text]

/-- A command line that names a subcommand, and what is given by the arguments of the subcommand.
Only a filter for the log can be named in front of it. -/
inductive IsWritten : List String → List Given → Prop where
  | complete {arguments : List String} {given : List Given}
      (h : Spells .complete true arguments given) : IsWritten ("complete" :: arguments) given
  | prompt {arguments : List String} {given : List Given}
      (h : Spells .prompt false arguments given) : IsWritten ("repl" :: arguments) given
  | logFilter {argument filter : String} {arguments : List String} {given : List Given}
      (hgives : Gives .top false argument (.value .logFilter filter))
      (hrest : IsWritten arguments given) : IsWritten (argument :: arguments) given
  | logFilterApart {argument filter : String} {arguments : List String} {given : List Given}
      (hopens : Opens .top argument .logFilter) (hfilter : IsPlain filter)
      (hrest : IsWritten arguments given) : IsWritten (argument :: filter :: arguments) given

/-! ## Names and letters -/

namespace Switch

theorem equals_notMem_longName (switch : Switch) : '=' ∉ switch.longName.toList := by
  cases switch with
  | valueOption option => cases option <;> decide
  | flag f => rcases f with _ | (_ | _) | (_ | _) | _ | _ <;> decide

theorem longName_ne_empty (switch : Switch) : switch.longName ≠ "" := by
  cases switch with
  | valueOption option => cases option <;> decide
  | flag f => rcases f with _ | (_ | _) | (_ | _) | _ | _ <;> decide

/-- No letter of a switch is a dash or an equals sign. -/
theorem isAlpha_of_letter? {switch : Switch} {letter : Char} (h : switch.letter? = some letter) :
    letter.isAlpha = true := by
  cases switch with
  | valueOption option => cases option <;> cases h <;> rfl
  | flag f => cases f <;> cases h <;> rfl

end Switch

theorem any_isNone_iff {context : Context} {letters : List Char} :
    (letters.any fun letter => (shortSwitch? context letter).isNone) = true ↔
      ¬ AreLetters context letters := by
  simp only [List.any_eq_true, Option.isNone_iff_eq_none, shortSwitch?_eq_none_iff, AreLetters,
    not_forall, not_exists, not_and, exists_prop]

/-! ## Recording what is given -/

namespace Progress

/-- Records what is given. -/
def record (p : Progress) : Given → Except Stop Progress
  | .value option text => p.giveValue option text
  | .flag flag => p.raise flag
  | .fragment text => .ok { p with fragment := some text }

section

variable {p q : Progress} {option : ValueOption} {value : String}

theorem giveValue_waiting (waiting : Option ValueOption) :
    giveValue { p with waiting } option value = p.giveValue option value := by
  cases option <;> rfl

theorem eq_of_giveValue (h : p.giveValue option value = .ok q) :
    q = { p with setup := q.setup, waiting := none } := by
  cases option with
  | keyword =>
    cases h
    rfl
  | namespaceFile | builtinsFile | configFile | logFilter =>
    obtain ⟨_, _, h⟩ := exists_of_bind_eq_ok h
    cases h
    rfl

theorem eq_of_raise {flag : Flag} (h : p.raise flag = .ok q) :
    q = { p with setup := q.setup, asJson := q.asJson } := by
  cases flag with
  | json =>
    simp only [raise] at h
    split at h
    · cases h
    · cases h
      rfl
  | decorate on | showPrivate on =>
    obtain ⟨_, _, h⟩ := exists_of_bind_eq_ok h
    cases h
    rfl
  | help | version => cases h

theorem record_keeps (context : Context) {g : Given} (h : p.record g = .ok q)
    (hg : g.isFragment = false) :
    q.valuesOnly = p.valuesOnly ∧ (p.waiting = none → q.waiting = none) ∧
      q.expectsFragment context = p.expectsFragment context := by
  cases g with
  | value option text =>
    rw [eq_of_giveValue h]
    exact ⟨rfl, fun _ => rfl, rfl⟩
  | flag flag =>
    rw [eq_of_raise h]
    exact ⟨rfl, id, rfl⟩
  | fragment text => cases hg

end

/-! ## Reading what follows the grammar -/

section

variable {context : Context} {p q : Progress}

theorem takeSwitch_of_idle {take : Progress → Except Stop Progress} (hidle : p.waiting = none) :
    p.takeSwitch take = take p := by
  rw [takeSwitch, hidle]
  rfl

theorem take_valuesOnly {argument : String} (hpassed : p.valuesOnly = true) :
    take context p argument = p.takeValue context argument := by
  rw [take, if_pos hpassed]

theorem take_isValue {argument : String} (hopen : p.valuesOnly = false)
    (h : IsValue context (p.expectsFragment context) argument) :
    take context p argument = p.takeValue context argument := by
  cases h with
  | plain h => exact take_plain hopen h
  | long hfree hname hne hunknown =>
    rw [take_long hopen hname hne, longSwitch?_eq_none_iff.2 hunknown]
    exact if_pos hfree
  | letters hfree hletter hunknown =>
    rw [take_letters hopen hletter, hfree, any_isNone_iff.2 hunknown]
    rfl

theorem take_longName {attached : Option String} (hopen : p.valuesOnly = false)
    (hidle : p.waiting = none) (switch : Switch) (hknown : switch.KnownIn context) :
    take context p (longText switch.longName attached) = p.takeLong attached switch := by
  rw [take_long hopen switch.equals_notMem_longName (.inl switch.longName_ne_empty),
    longSwitch?_longName hknown]
  exact takeSwitch_of_idle hidle

theorem take_letter {letter : Char} {letters : List Char} (hopen : p.valuesOnly = false)
    (hidle : p.waiting = none) (switch : Switch) (hknown : switch.KnownIn context)
    (hletter : switch.letter? = some letter)
    (hfree : p.expectsFragment context = true → AreLetters context letters) :
    take context p (String.ofList ('-' :: letter :: letters)) =
      takeLetters context (letter :: letters) p := by
  have hdash : letter ≠ '-' := by
    rintro rfl
    exact absurd (Switch.isAlpha_of_letter? hletter) (by decide)
  rw [take_letters hopen hdash, if_neg, takeSwitch_of_idle hidle]
  rw [Bool.and_eq_true, any_isNone_iff]
  rintro ⟨hexpects, hunknown⟩
  refine hunknown fun c hc => ?_
  rcases List.mem_cons.1 hc with rfl | hc
  · exact ⟨switch, hknown, hletter⟩
  · exact hfree hexpects c hc

theorem take_opens {argument : String} {option : ValueOption} (hopen : p.valuesOnly = false)
    (hidle : p.waiting = none) (h : Opens context argument option) :
    take context p argument = .ok { p with waiting := some option } := by
  cases h with
  | long hknown => exact take_longName hopen hidle (.valueOption option) hknown
  | letter hknown hletter =>
    rw [take_letter hopen hidle (.valueOption option) hknown hletter (by simp [AreLetters]),
      takeLetters, shortSwitch?_letter hknown hletter]

theorem take_gives {argument : String} {g : Given} (hopen : p.valuesOnly = false)
    (hidle : p.waiting = none) (h : Gives context (p.expectsFragment context) argument g) :
    take context p argument = p.record g := by
  cases h with
  | flag hknown => exact take_longName hopen hidle (.flag _) hknown
  | long hknown => exact take_longName hopen hidle (.valueOption _) hknown
  | letter hknown hletter hne hequals hfree =>
    rw [take_letter hopen hidle (.valueOption _) hknown hletter hfree, takeLetters,
      shortSwitch?_letter hknown hletter]
    dsimp only
    split
    · exact absurd rfl hne
    · exact absurd rfl hequals
    · rfl
  | equals hknown hletter hfree =>
    rw [take_letter hopen hidle (.valueOption _) hknown hletter (by simp [hfree]), takeLetters,
      shortSwitch?_letter hknown hletter]
    rfl

/-- The value of an option that was just announced. -/
theorem take_of_waiting {option : ValueOption} {value : String} (hopen : p.valuesOnly = false)
    (h : IsValue context (p.expectsFragment context) value) :
    take context { p with waiting := some option } value = p.record (.value option value) := by
  rw [take_isValue (show valuesOnly { p with waiting := some option } = false from hopen) h,
    takeValue]
  dsimp only
  rw [if_neg (by rw [hopen]; decide)]
  exact giveValue_waiting _

theorem takeValue_of_idle (hidle : p.waiting = none) {value : String}
    (hfree : p.expectsFragment context = true) :
    takeValue context p value = p.record (.fragment value) := by
  rw [takeValue]
  split
  · next hwaiting => rw [hidle] at hwaiting; cases hwaiting
  · exact if_pos hfree

/-- Arguments that follow the grammar are read as what they give, one after the other; that the
separator was passed is all that is read besides. -/
theorem takeAll_of_spells {free : Bool} {arguments : List String} {given : List Given}
    (h : Spells context free arguments given) (hopen : p.valuesOnly = false)
    (hidle : p.waiting = none) (hfree : p.expectsFragment context = free) :
    (takeAll context p arguments).map (fun q => { q with valuesOnly := false }) =
      given.foldlM record p := by
  induction h generalizing p with
  | nil =>
    rw [takeAll, List.foldlM_nil, List.foldlM_nil, ← hopen]
    rfl
  | @fragment text rest given htext hrest ih =>
    rw [takeAll, List.foldlM_cons, List.foldlM_cons, take_isValue hopen (hfree ▸ htext),
      takeValue_of_idle hidle hfree]
    exact ih hopen hidle (by simp [expectsFragment])
  | @given free argument g rest given hgives hrest ih =>
    subst hfree
    rw [takeAll, List.foldlM_cons, List.foldlM_cons, take_gives hopen hidle hgives]
    cases hrecord : p.record g with
    | error stop => rfl
    | ok q =>
      obtain ⟨hq, hqidle, hqfree⟩ := record_keeps context hrecord hgives.not_isFragment
      exact ih (hq.trans hopen) (hqidle hidle) hqfree
  | @apart free argument value option rest given hopens hvalue hrest ih =>
    subst hfree
    have htake : takeAll context p (argument :: value :: rest) =
        p.record (.value option value) >>= fun q => takeAll context q rest := by
      rw [takeAll, List.foldlM_cons, take_opens hopen hidle hopens, ← take_of_waiting hopen hvalue]
      rfl
    rw [htake, List.foldlM_cons]
    cases hrecord : p.record (.value option value) with
    | error stop => rfl
    | ok q =>
      obtain ⟨hq, hqidle, hqfree⟩ := record_keeps context hrecord rfl
      exact ih (hq.trans hopen) (hqidle hidle) hqfree
  | separator =>
    rw [takeAll, List.foldlM_cons, take_separator hopen, List.foldlM_nil, ← hopen]
    rfl
  | @separated text =>
    let passed : Progress := { p with valuesOnly := true }
    have hidle : passed.waiting = none := hidle
    have hfree : passed.expectsFragment context = true := hfree
    have hall : takeAll context p ["--", text] = passed.record (.fragment text) := by
      have hpassed : take context passed text = passed.record (.fragment text) :=
        (take_valuesOnly rfl).trans (takeValue_of_idle hidle hfree)
      rw [takeAll, List.foldlM_cons, take_separator hopen]
      exact (congrArg (· >>= pure) hpassed).trans (bind_pure _)
    rw [hall, List.foldlM_cons]
    show Except.ok _ = Except.ok _
    rw [← hopen]

end

end Progress

end NameCompletion.CommandLine
