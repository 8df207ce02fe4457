import NameCompletion.Proofs.CommandLine.Grammar

/-!
# Reading command lines

Whatever is read to its end follows the grammar, and what is read off it is what is given.

* `Progress.Takes`: what an argument can do that is taken before the separator.
* `Progress.mayFollow_of_takeAll`: the arguments of a subcommand follow the grammar.
* `exists_isWritten_of_readTop`: so does a whole command line that names a subcommand.
* `setup_of_isWritten`: the setup that is read off a command line is what its arguments give.
-/

namespace NameCompletion.CommandLine

/-! ## What an argument does -/

namespace Progress

/-- What an argument does that is taken before the separator. -/
inductive Takes (context : Context) (p q : Progress) (argument : String) : Prop where
  | separator (hargument : argument = "--") (hq : q = { p with valuesOnly := true })
  | optionValue {option : ValueOption} (hwaiting : p.waiting = some option)
      (hvalue : IsValue context (p.expectsFragment context) argument)
      (hrecord : p.record (.value option argument) = .ok q)
  | fragment (hidle : p.waiting = none) (hfree : p.expectsFragment context = true)
      (hvalue : IsValue context true argument) (hq : q = { p with fragment := some argument })
  | gives {g : Given} (hidle : p.waiting = none)
      (hgives : Gives context (p.expectsFragment context) argument g)
      (hrecord : p.record g = .ok q)
  | opens {option : ValueOption} (hidle : p.waiting = none) (hopens : Opens context argument option)
      (hq : q = { p with waiting := some option })

section

variable {context : Context} {p q : Progress} {argument : String}

theorem takeValue_cases (h : p.takeValue context argument = .ok q) :
    (∃ option, p.waiting = some option ∧ p.valuesOnly = false ∧
      p.record (.value option argument) = .ok q) ∨
    p.waiting = none ∧ p.expectsFragment context = true ∧
      q = { p with fragment := some argument } := by
  rw [takeValue] at h
  split at h
  · next option hwaiting =>
    split at h
    · cases h
    · next hopen => exact .inl ⟨option, hwaiting, Bool.eq_false_iff.2 hopen, h⟩
  · next hidle =>
    split at h
    · next hfree =>
      cases h
      exact .inr ⟨hidle, hfree, rfl⟩
    · cases h

theorem takes_of_takeValue (hvalue : IsValue context (p.expectsFragment context) argument)
    (h : p.takeValue context argument = .ok q) : Takes context p q argument := by
  obtain ⟨option, hwaiting, -, hrecord⟩ | ⟨hidle, hfree, hq⟩ := takeValue_cases h
  · exact .optionValue hwaiting hvalue hrecord
  · exact .fragment hidle hfree (hfree ▸ hvalue) hq

theorem waiting_of_takeSwitch {take : Progress → Except Stop Progress}
    (h : p.takeSwitch take = .ok q) : p.waiting = none ∧ take p = .ok q := by
  rw [takeSwitch] at h
  split at h
  · cases h
  · next hidle => exact ⟨by simpa using hidle, h⟩

theorem takes_of_takeLong {attached : Option String} {switch : Switch} (hidle : p.waiting = none)
    (hknown : switch.KnownIn context) (h : p.takeLong attached switch = .ok q) :
    Takes context p q (longText switch.longName attached) := by
  cases switch with
  | flag flag =>
    cases attached with
    | none => exact .gives hidle (.flag hknown) h
    | some value => cases h
  | valueOption option =>
    cases attached with
    | none =>
      cases h
      exact .opens hidle (.long hknown) rfl
    | some value => exact .gives hidle (.long hknown) h

/-- A flag that is a letter asks for help or the version, so it is the last thing that is read. -/
theorem ne_ok_of_letter {flag : Flag} {letter : Char} (hletter : flag.letter? = some letter) :
    p.raise flag ≠ .ok q := by
  cases flag with
  | help | version => exact nofun
  | json | decorate on | showPrivate on => cases hletter

theorem takes_of_takeLetters {letter : Char} {letters : List Char} (hidle : p.waiting = none)
    (hfree : p.expectsFragment context = true → AreLetters context letters)
    (h : takeLetters context (letter :: letters) p = .ok q) :
    Takes context p q (String.ofList ('-' :: letter :: letters)) := by
  rw [takeLetters] at h
  split at h
  · cases h
  · next flag hswitch =>
    obtain ⟨r, hraise, -⟩ := exists_of_bind_eq_ok h
    exact absurd hraise (ne_ok_of_letter (knownIn_of_shortSwitch? hswitch).2)
  · next option hswitch =>
    obtain ⟨hknown, hletter⟩ := knownIn_of_shortSwitch? hswitch
    split at h
    · cases h
      exact .opens hidle (.letter hknown hletter) rfl
    · -- An equals sign is no letter, so the fragment was given before.
      have hunfree : p.expectsFragment context = false := by
        refine Bool.eq_false_iff.2 fun hisfree => ?_
        obtain ⟨switch, -, hequals⟩ := hfree hisfree '=' List.mem_cons_self
        exact absurd (Switch.isAlpha_of_letter? hequals) (by decide)
      exact .gives hidle (.equals hknown hletter hunfree) h
    · next hne hequals =>
      have hhead : letters.head? ≠ some '=' := by
        intro hhead
        cases letters with
        | nil => cases hhead
        | cons c rest => exact hequals rest (by rw [Option.some.inj hhead])
      exact .gives hidle (.letter hknown hletter hne hhead hfree) h

theorem takes_of_take (hopen : p.valuesOnly = false) (h : take context p argument = .ok q) :
    Takes context p q argument := by
  cases form argument with
  | separator =>
    rw [take_separator hopen] at h
    cases h
    exact .separator rfl rfl
  | plain hplain =>
    rw [take_plain hopen hplain] at h
    exact takes_of_takeValue (.plain hplain) h
  | long hname hne =>
    rw [take_long hopen hname hne] at h
    split at h
    · next switch hswitch =>
      obtain ⟨hknown, rfl⟩ := knownIn_of_longSwitch? hswitch
      obtain ⟨hidle, h⟩ := waiting_of_takeSwitch h
      exact takes_of_takeLong hidle hknown h
    · next hunknown =>
      split at h
      · next hfree =>
        exact takes_of_takeValue (.long hfree hname hne (longSwitch?_eq_none_iff.1 hunknown)) h
      · cases h
  | letters hletter =>
    rw [take_letters hopen hletter] at h
    split at h
    · next hunknown =>
      rw [Bool.and_eq_true, any_isNone_iff] at hunknown
      exact takes_of_takeValue (.letters hunknown.1 hletter hunknown.2) h
    · next hletters =>
      rw [Bool.and_eq_true, any_isNone_iff, not_and, not_not] at hletters
      obtain ⟨hidle, h⟩ := waiting_of_takeSwitch h
      exact takes_of_takeLetters hidle
        (fun hfree c hc => hletters hfree c (List.mem_cons_of_mem _ hc)) h

/-- Behind the separator, an argument is the fragment. -/
theorem fragment_of_take (hpassed : p.valuesOnly = true) (h : take context p argument = .ok q) :
    p.waiting = none ∧ p.expectsFragment context = true ∧
      q = { p with fragment := some argument } := by
  rw [take_valuesOnly hpassed] at h
  refine (takeValue_cases h).resolve_left ?_
  rintro ⟨_, _, hopen, _⟩
  rw [hpassed] at hopen
  cases hopen

end

/-! ## The arguments of a subcommand -/

section

variable {context : Context} {p q : Progress} {arguments : List String}

theorem expectsFragment_fragment {text : String} :
    expectsFragment context { p with fragment := some text } = false := by
  simp [expectsFragment]

/-- Behind the separator there is room for the fragment and for nothing else. -/
theorem takeAll_cases_of_passed (hpassed : p.valuesOnly = true)
    (h : takeAll context p arguments = .ok q) (hdone : q.waiting = none) :
    p.waiting = none ∧
      (arguments = [] ∨ p.expectsFragment context = true ∧ ∃ text, arguments = [text]) := by
  match arguments with
  | [] =>
    cases h
    exact ⟨hdone, .inl rfl⟩
  | [text] =>
    obtain ⟨r, htake, -⟩ := exists_of_bind_eq_ok h
    obtain ⟨hidle, hfree, -⟩ := fragment_of_take hpassed htake
    exact ⟨hidle, .inr ⟨hfree, text, rfl⟩⟩
  | text :: other :: rest =>
    obtain ⟨r, htake, h⟩ := exists_of_bind_eq_ok h
    obtain ⟨r', htake', -⟩ := exists_of_bind_eq_ok h
    obtain ⟨-, -, rfl⟩ := fragment_of_take hpassed htake
    obtain ⟨-, hfree, -⟩ := fragment_of_take (by exact hpassed) htake'
    rw [expectsFragment_fragment] at hfree
    cases hfree

/-- What may follow on the arguments so far: if an option waits, its value comes first. -/
def MayFollow (context : Context) (free : Bool) : Option ValueOption → List String → Prop
  | none, arguments => ∃ given, Spells context free arguments given
  | some _, arguments => ∃ value rest given, arguments = value :: rest ∧
      IsValue context free value ∧ Spells context free rest given

/-- What is read to its end follows the grammar. -/
theorem mayFollow_of_takeAll (hopen : p.valuesOnly = false)
    (h : takeAll context p arguments = .ok q) (hdone : q.waiting = none) :
    MayFollow context (p.expectsFragment context) p.waiting arguments := by
  induction arguments generalizing p with
  | nil =>
    cases h
    rw [hdone]
    exact ⟨[], .nil⟩
  | cons argument rest ih =>
    obtain ⟨r, htake, hrest⟩ := exists_of_bind_eq_ok h
    cases takes_of_take hopen htake with
    | separator hargument hr =>
      subst hargument hr
      obtain ⟨hidle, rfl | ⟨hfree, text, rfl⟩⟩ := takeAll_cases_of_passed rfl hrest hdone
      · rw [show p.waiting = none from hidle]
        exact ⟨[], .separator⟩
      · rw [show p.waiting = none from hidle, show p.expectsFragment context = true from hfree]
        exact ⟨_, .separated⟩
    | optionValue hwaiting hvalue hrecord =>
      have hr := eq_of_giveValue hrecord
      have hfollow := ih (by rw [hr]; exact hopen) hrest
      rw [hr] at hfollow
      obtain ⟨given, hgiven⟩ := hfollow
      rw [hwaiting]
      exact ⟨argument, rest, given, rfl, hvalue, hgiven⟩
    | fragment hidle hfree hvalue hr =>
      subst hr
      have hfollow := ih (by exact hopen) hrest
      rw [expectsFragment_fragment,
        show waiting { p with fragment := some argument } = none from hidle] at hfollow
      obtain ⟨given, hgiven⟩ := hfollow
      rw [hfree, hidle]
      exact ⟨_, .fragment hvalue hgiven⟩
    | gives hidle hgives hrecord =>
      obtain ⟨hr, hridle, hfree⟩ := record_keeps context hrecord hgives.not_isFragment
      have hfollow := ih (hr.trans hopen) hrest
      rw [hfree, hridle hidle] at hfollow
      obtain ⟨given, hgiven⟩ := hfollow
      rw [hidle]
      exact ⟨_, .given hgives hgiven⟩
    | opens hidle hopens hr =>
      subst hr
      obtain ⟨value, rest, given, rfl, hvalue, hgiven⟩ := ih (by exact hopen) hrest
      rw [hidle]
      exact ⟨_, .apart hopens hvalue hgiven⟩

end

end Progress

/-! ## In front of the subcommand -/

/-- The setup of an invocation that makes a session. -/
def Invocation.setup? : Invocation → Option Setup
  | .complete _ _ setup | .prompt setup => some setup
  | .help | .version => none

/-- What an argument does in front of the subcommand, or as the subcommand. -/
inductive Leads (p : Progress) (rest : List String) (invocation : Invocation) : String → Prop where
  | complete (hidle : p.waiting = none)
      (hread : readSubcommand .complete p.setup.logFilter rest = .ok invocation) :
      Leads p rest invocation "complete"
  | prompt (hidle : p.waiting = none)
      (hread : readSubcommand .prompt p.setup.logFilter rest = .ok invocation) :
      Leads p rest invocation "repl"
  | taken {argument : String} {q : Progress} (htake : p.take .top argument = .ok q)
      (hread : readTop q rest = .ok invocation) : Leads p rest invocation argument

section

variable {p : Progress} {invocation : Invocation} {arguments rest : List String}
  {argument : String} {given : List Given}

theorem readTop_cons (argument : String) (rest : List String) :
    readTop p (argument :: rest) =
      if p.valuesOnly || p.waiting.isSome then p.take .top argument >>= (readTop · rest)
      else
        match argument with
        | "complete" => readSubcommand .complete p.setup.logFilter rest
        | "repl" => readSubcommand .prompt p.setup.logFilter rest
        | "help" => .error (helpOn rest)
        | _ => p.take .top argument >>= (readTop · rest) :=
  rfl

theorem leads_of_readTop (h : readTop p (argument :: rest) = .ok invocation) :
    Leads p rest invocation argument := by
  have htaken (h : p.take .top argument >>= (readTop · rest) = .ok invocation) :
      Leads p rest invocation argument := by
    obtain ⟨q, htake, hread⟩ := exists_of_bind_eq_ok h
    exact .taken htake hread
  rw [readTop_cons] at h
  split at h
  · exact htaken h
  · next hidle =>
    rw [Bool.or_eq_true, not_or, Option.not_isSome_iff_eq_none] at hidle
    split at h
    · exact .complete hidle.2 h
    · exact .prompt hidle.2 h
    · cases h
    · exact htaken h

/-- The separator stands behind the subcommand. -/
theorem readTop_ne_ok_of_passed (hpassed : p.valuesOnly = true) :
    readTop p arguments ≠ .ok invocation := by
  cases arguments with
  | nil => exact nofun
  | cons argument rest =>
    intro h
    rw [readTop_cons, if_pos (by rw [hpassed]; rfl)] at h
    obtain ⟨q, htake, -⟩ := exists_of_bind_eq_ok h
    obtain ⟨-, hfree, -⟩ := Progress.fragment_of_take hpassed htake
    cases hfree

theorem exists_setup_of_readSubcommand {context : Context} {earlier : Option String}
    (h : readSubcommand context earlier arguments = .ok invocation) :
    ∃ q : Progress, Progress.takeAll context {} arguments = .ok q ∧ q.waiting = none ∧
      invocation.setup? = some { q.setup with logFilter := q.setup.logFilter.or earlier } := by
  obtain ⟨q, htake, h⟩ := exists_of_bind_eq_ok h
  obtain ⟨q', hfinish, h⟩ := exists_of_bind_eq_ok h
  rw [Progress.finish] at hfinish
  split at hfinish
  · cases hfinish
  · next hidle =>
    cases hfinish
    refine ⟨q, htake, by simpa using hidle, ?_⟩
    split at h <;> cases h <;> rfl

theorem exists_spells_of_readSubcommand {context : Context} {earlier : Option String}
    (h : readSubcommand context earlier arguments = .ok invocation) :
    ∃ given, Spells context (Progress.expectsFragment context {}) arguments given := by
  obtain ⟨q, htake, hdone, -⟩ := exists_setup_of_readSubcommand h
  exact Progress.mayFollow_of_takeAll rfl htake hdone

/-- In front of the subcommand, only the filter for the log takes a value. -/
theorem eq_logFilter_of_knownIn_top {option : ValueOption}
    (h : (Switch.valueOption option).KnownIn .top) : option = .logFilter := by
  cases option with
  | logFilter => rfl
  | namespaceFile | builtinsFile | configFile | keyword => exact absurd rfl h

theorem Gives.exists_eq_logFilter {g : Given} {q : Progress} (h : Gives .top false argument g)
    (hrecord : p.record g = .ok q) : ∃ filter, g = .value .logFilter filter := by
  cases h with
  | @flag flag hknown =>
    cases flag with
    | help | version => cases hrecord
    | json => cases hknown
    | decorate on | showPrivate on => exact absurd rfl hknown
  | long hknown | letter hknown | equals hknown =>
    rw [eq_logFilter_of_knownIn_top hknown]
    exact ⟨_, rfl⟩

/-- What may follow on the arguments in front of the subcommand. -/
def MayFollowTop : Option ValueOption → List String → Prop
  | none, arguments => ∃ given, IsWritten arguments given
  | some _, arguments => ∃ filter rest given, arguments = filter :: rest ∧ IsPlain filter ∧
      IsWritten rest given

theorem mayFollowTop_of_readTop (hopen : p.valuesOnly = false)
    (h : readTop p arguments = .ok invocation) : MayFollowTop p.waiting arguments := by
  induction arguments generalizing p with
  | nil => cases h
  | cons argument rest ih =>
    cases leads_of_readTop h with
    | complete hidle hread =>
      obtain ⟨given, hgiven⟩ := exists_spells_of_readSubcommand hread
      rw [hidle]
      exact ⟨given, .complete hgiven⟩
    | prompt hidle hread =>
      obtain ⟨given, hgiven⟩ := exists_spells_of_readSubcommand hread
      rw [hidle]
      exact ⟨given, .prompt hgiven⟩
    | @taken _ r htake hrest =>
      cases Progress.takes_of_take hopen htake with
      | separator hargument hr =>
        subst hr
        exact absurd hrest (readTop_ne_ok_of_passed rfl)
      | optionValue hwaiting hvalue hrecord =>
        have hr := Progress.eq_of_giveValue hrecord
        have hfollow := ih (by rw [hr]; exact hopen) hrest
        rw [hr] at hfollow
        obtain ⟨given, hgiven⟩ := hfollow
        rw [hwaiting]
        exact ⟨argument, rest, given, rfl, hvalue.isPlain, hgiven⟩
      | fragment hidle hfree hvalue hr => cases hfree
      | gives hidle hgives hrecord =>
        obtain ⟨hr, hridle, -⟩ := Progress.record_keeps .top hrecord hgives.not_isFragment
        have hfollow := ih (hr.trans hopen) hrest
        rw [hridle hidle] at hfollow
        obtain ⟨given, hgiven⟩ := hfollow
        obtain ⟨filter, rfl⟩ := hgives.exists_eq_logFilter hrecord
        rw [hidle]
        exact ⟨given, .logFilter hgives hgiven⟩
      | opens hidle hopens hr =>
        subst hr
        obtain ⟨filter, rest, given, rfl, hfilter, hgiven⟩ := ih (by exact hopen) hrest
        obtain rfl := eq_logFilter_of_knownIn_top hopens.knownIn
        rw [hidle]
        exact ⟨given, .logFilterApart hopens hfilter hgiven⟩

/-- A command line that makes a session follows the grammar. -/
theorem exists_isWritten_of_readTop (h : readTop {} arguments = .ok invocation) :
    ∃ given, IsWritten arguments given :=
  mayFollowTop_of_readTop rfl h

/-! ## What is read off a command line -/

theorem setup_of_spells {context : Context} {free : Bool} {earlier : Option String}
    (h : Spells context free arguments given)
    (hfree : Progress.expectsFragment context {} = free)
    (hread : readSubcommand context earlier arguments = .ok invocation) :
    ∃ q logFilter, given.foldlM Progress.record {} = .ok q ∧
      invocation.setup? = some { q.setup with logFilter } := by
  obtain ⟨q, htake, -, hsetup⟩ := exists_setup_of_readSubcommand hread
  have hrecord := Progress.takeAll_of_spells h rfl rfl hfree
  rw [htake] at hrecord
  exact ⟨_, _, hrecord.symm, hsetup⟩

/-- The setup that is read off a command line is what its arguments give, one after the other, but
for the filter for the log, which can also be named in front of the subcommand. -/
theorem setup_of_isWritten (h : IsWritten arguments given) (hopen : p.valuesOnly = false)
    (hidle : p.waiting = none) (hread : readTop p arguments = .ok invocation) :
    ∃ q logFilter, given.foldlM Progress.record {} = .ok q ∧
      invocation.setup? = some { q.setup with logFilter } := by
  induction h generalizing p with
  | complete h =>
    rw [readTop_cons, hopen, hidle] at hread
    exact setup_of_spells h rfl hread
  | prompt h =>
    rw [readTop_cons, hopen, hidle] at hread
    exact setup_of_spells h rfl hread
  | logFilter hgives hrest ih =>
    cases leads_of_readTop hread with
    | complete | prompt => exact absurd hgives.head? (by decide)
    | taken htake hread =>
      rw [Progress.take_gives hopen hidle hgives] at htake
      obtain ⟨hr, hridle, -⟩ := Progress.record_keeps .top htake rfl
      exact ih (hr.trans hopen) (hridle hidle) hread
  | logFilterApart hopens hfilter hrest ih =>
    cases leads_of_readTop hread with
    | complete | prompt => exact absurd hopens.head? (by decide)
    | taken htake hread =>
      rw [Progress.take_opens hopen hidle hopens] at htake
      cases htake
      -- The option waits now, so its value is read before any subcommand.
      cases leads_of_readTop hread with
      | complete hwaiting | prompt hwaiting => cases hwaiting
      | taken htake hread =>
        rw [Progress.take_of_waiting hopen (.plain hfilter)] at htake
        obtain ⟨hr, hridle, -⟩ := Progress.record_keeps .top htake rfl
        exact ih (hr.trans hopen) (hridle hidle) hread

end

end NameCompletion.CommandLine
