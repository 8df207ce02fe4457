import Mathlib.Data.List.TakeWhile
import NameCompletion.CommandLine.Arguments

/-!
# How arguments are spelled

The names of the switches and what arguments look like.

* `Switch.longName`, `Switch.letter?`, `Switch.KnownIn`: the names of a switch and where it is
  known; `longSwitch?` and `shortSwitch?` find the switch of a name (`longSwitch?_longName`,
  `shortSwitch?_letter`) and nothing else.
* `Form`: what an argument can look like, whatever switches there are; every argument has one of
  these forms (`form`).
* `Progress.take_separator`, `Progress.take_plain`, `Progress.take_long`, `Progress.take_letters`:
  what is made of an argument of each form.
-/

namespace NameCompletion.CommandLine

/-! ## Names of switches -/

/-- The long name of an option. -/
def ValueOption.longName : ValueOption → String
  | namespaceFile => "namespace"
  | builtinsFile => "builtins"
  | configFile => "config"
  | keyword => "keyword"
  | logFilter => "log-level"

/-- The letter of an option, if it has one. -/
def ValueOption.letter? : ValueOption → Option Char
  | namespaceFile => some 'n'
  | builtinsFile => some 'b'
  | configFile => some 'c'
  | keyword => some 'k'
  | logFilter => none

/-- The long name of a flag. -/
def Flag.longName : Flag → String
  | json => "json"
  | decorate true => "decorate"
  | decorate false => "no-decorate"
  | showPrivate true => "show-private"
  | showPrivate false => "no-show-private"
  | help => "help"
  | version => "version"

/-- The letter of a flag, if it has one. -/
def Flag.letter? : Flag → Option Char
  | help => some 'h'
  | version => some 'V'
  | json | decorate _ | showPrivate _ => none

/-- The long name of a switch. -/
def Switch.longName : Switch → String
  | .valueOption option => option.longName
  | .flag f => f.longName

/-- The letter of a switch, if it has one. -/
def Switch.letter? : Switch → Option Char
  | .valueOption option => option.letter?
  | .flag f => f.letter?

/-- Where a switch can be given: some only before the subcommand, most only behind it. -/
def Switch.KnownIn (context : Context) : Switch → Prop
  | .valueOption .logFilter | .flag .help => True
  | .flag .version => context = .top
  | .flag .json => context = .complete
  | .valueOption _ | .flag _ => context ≠ .top

section

variable {context : Context} {switch : Switch}

theorem knownIn_of_longSwitch? {name : String} (h : longSwitch? context name = some switch) :
    switch.KnownIn context ∧ switch.longName = name := by
  unfold longSwitch? at h
  split at h <;> cases h <;> exact ⟨by simp_all [Switch.KnownIn], rfl⟩

theorem longSwitch?_longName (h : switch.KnownIn context) :
    longSwitch? context switch.longName = some switch := by
  cases switch with
  | valueOption option =>
    cases context with
    | top =>
      cases option with
      | logFilter => rfl
      | namespaceFile | builtinsFile | configFile | keyword => exact absurd rfl h
    | complete | prompt => cases option <;> rfl
  | flag f =>
    cases f with
    | help => cases context <;> rfl
    | version | json =>
      obtain rfl := h
      rfl
    | decorate on | showPrivate on =>
      cases context with
      | top => exact absurd rfl h
      | complete | prompt => cases on <;> rfl

theorem longSwitch?_eq_none_iff {name : String} :
    longSwitch? context name = none ↔
      ∀ switch : Switch, switch.KnownIn context → switch.longName ≠ name := by
  constructor
  · rintro h switch hknown rfl
    rw [longSwitch?_longName hknown] at h
    cases h
  · intro h
    refine Option.eq_none_iff_forall_not_mem.2 fun switch hswitch => ?_
    obtain ⟨hknown, hname⟩ := knownIn_of_longSwitch? hswitch
    exact h switch hknown hname

theorem knownIn_of_shortSwitch? {letter : Char} (h : shortSwitch? context letter = some switch) :
    switch.KnownIn context ∧ switch.letter? = some letter := by
  unfold shortSwitch? at h
  split at h <;> cases h <;> exact ⟨by simp_all [Switch.KnownIn], rfl⟩

theorem shortSwitch?_letter {letter : Char} (h : switch.KnownIn context)
    (hletter : switch.letter? = some letter) : shortSwitch? context letter = some switch := by
  cases switch with
  | valueOption option =>
    cases context with
    | top =>
      cases option with
      | logFilter => cases hletter
      | namespaceFile | builtinsFile | configFile | keyword => exact absurd rfl h
    | complete | prompt => cases option <;> cases hletter <;> rfl
  | flag f =>
    cases f with
    | help =>
      cases hletter
      cases context <;> rfl
    | version =>
      cases hletter
      obtain rfl := h
      rfl
    | json | decorate on | showPrivate on => cases hletter

theorem shortSwitch?_eq_none_iff {letter : Char} :
    shortSwitch? context letter = none ↔
      ∀ switch : Switch, switch.KnownIn context → switch.letter? ≠ some letter := by
  constructor
  · intro h switch hknown hletter
    rw [shortSwitch?_letter hknown hletter] at h
    cases h
  · intro h
    refine Option.eq_none_iff_forall_not_mem.2 fun switch hswitch => ?_
    obtain ⟨hknown, hletter⟩ := knownIn_of_shortSwitch? hswitch
    exact h switch hknown hletter

end

/-! ## Forms of arguments -/

/-- An argument without a dash in front, or nothing but a dash. -/
def IsPlain (argument : String) : Prop :=
  argument = "-" ∨ argument.toList.head? ≠ some '-'

/-- A long name as it is written, with the value that is attached to it, if there is one. -/
def longText (name : String) : Option String → String
  | none => "--" ++ name
  | some value => "--" ++ name ++ "=" ++ value

/-- What an argument looks like, whatever switches there are. -/
inductive Form : String → Prop where
  | separator : Form "--"
  | long {name : String} {attached : Option String} (hname : '=' ∉ name.toList)
      (hne : name ≠ "" ∨ attached.isSome) : Form (longText name attached)
  | letters {letter : Char} {letters : List Char} (hletter : letter ≠ '-') :
      Form (String.ofList ('-' :: letter :: letters))
  | plain {argument : String} (h : IsPlain argument) : Form argument

theorem form (argument : String) : Form argument := by
  obtain ⟨cs, rfl⟩ : ∃ cs, argument = String.ofList cs :=
    ⟨argument.toList, String.ofList_toList.symm⟩
  by_cases hdash : cs.head? = some '-'
  · obtain ⟨rest, rfl⟩ : ∃ rest, cs = '-' :: rest := by
      cases cs with
      | nil => cases hdash
      | cons c rest => exact ⟨rest, by rw [Option.some.inj hdash]⟩
    cases rest with
    | nil => exact .plain (.inl rfl)
    | cons letter letters =>
      by_cases hletter : letter = '-'
      · subst hletter
        by_cases hequals : '=' ∈ letters
        · obtain ⟨name, value, rfl, hname⟩ := List.eq_append_cons_of_mem hequals
          have htext : String.ofList ('-' :: '-' :: (name ++ '=' :: value)) =
              longText (String.ofList name) (some (String.ofList value)) := by
            simp [longText, ← String.toList_inj]
          rw [htext]
          exact .long (by rwa [String.toList_ofList]) (.inr rfl)
        · by_cases hne : letters = []
          · subst hne
            exact .separator
          · have htext : String.ofList ('-' :: '-' :: letters) =
                longText (String.ofList letters) none := by
              simp [longText, ← String.toList_inj]
            rw [htext]
            exact .long (by rwa [String.toList_ofList]) (.inl (by simpa using hne))
      · exact .letters hletter
  · exact .plain (.inr (by rwa [String.toList_ofList]))

/-- The name and what is attached to it are told apart by the first equals sign. -/
theorem exists_toList_longText {name : String} {attached : Option String}
    (hname : '=' ∉ name.toList) (hne : name ≠ "" ∨ attached.isSome) :
    ∃ c rest, (longText name attached).toList = '-' :: '-' :: c :: rest ∧
      (c :: rest).takeWhile (· != '=') = name.toList ∧
      (c :: rest).dropWhile (· != '=') =
        (attached.map fun value => '=' :: value.toList).getD [] := by
  have hall : ∀ c ∈ name.toList, (c != '=') = true := fun c hc =>
    bne_iff_ne.2 fun heq => hname (heq ▸ hc)
  cases attached with
  | none =>
    have hsome : name ≠ "" := hne.resolve_right (by decide)
    obtain ⟨c, rest, hrest⟩ : ∃ c rest, name.toList = c :: rest :=
      List.exists_cons_of_ne_nil (by simpa using hsome)
    refine ⟨c, rest, by simp [longText, hrest], ?_, ?_⟩
    · rw [← hrest]
      exact List.takeWhile_eq_self_iff.2 hall
    · rw [← hrest]
      exact List.dropWhile_eq_nil_iff.2 hall
  | some value =>
    obtain ⟨c, rest, hrest⟩ : ∃ c rest, name.toList ++ '=' :: value.toList = c :: rest :=
      List.exists_cons_of_ne_nil (by simp)
    refine ⟨c, rest, by simp [longText, ← hrest], ?_, ?_⟩
    · rw [← hrest, List.takeWhile_append_of_pos hall]
      exact List.append_nil _
    · rw [← hrest, List.dropWhile_append_of_pos hall]
      rfl

/-! ## Taking an argument of each form -/

namespace Progress

section

variable {context : Context} {p : Progress}

theorem take_separator (hopen : p.valuesOnly = false) :
    take context p "--" = .ok { p with valuesOnly := true } := by
  rw [take, hopen]
  rfl

theorem take_plain {argument : String} (hopen : p.valuesOnly = false) (h : IsPlain argument) :
    take context p argument = p.takeValue context argument := by
  rw [take, hopen]
  rcases h with rfl | h
  · rfl
  · split
    · contradiction
    · split
      · next heq => rw [heq] at h; exact absurd rfl h
      · next heq => rw [heq] at h; exact absurd rfl h
      · next heq => rw [heq] at h; exact absurd rfl h
      · rfl

theorem take_long {name : String} {attached : Option String} (hopen : p.valuesOnly = false)
    (hname : '=' ∉ name.toList) (hne : name ≠ "" ∨ attached.isSome) :
    take context p (longText name attached) =
      match longSwitch? context name with
      | some switch => p.takeSwitch (·.takeLong attached switch)
      | none =>
        if p.expectsFragment context then p.takeValue context (longText name attached)
        else .error .usage := by
  obtain ⟨c, rest, hchars, hbefore, hbehind⟩ := exists_toList_longText hname hne
  rw [take, hopen, hchars]
  simp only [Bool.false_eq_true, if_false, hbefore, hbehind, String.ofList_toList]
  cases attached with
  | none => rfl
  | some value => cases longSwitch? context name <;> simp

theorem take_letters {letter : Char} {letters : List Char} (hopen : p.valuesOnly = false)
    (hletter : letter ≠ '-') :
    take context p (String.ofList ('-' :: letter :: letters)) =
      if p.expectsFragment context &&
          (letter :: letters).any fun c => (shortSwitch? context c).isNone then
        p.takeValue context (String.ofList ('-' :: letter :: letters))
      else p.takeSwitch (takeLetters context (letter :: letters)) := by
  rw [take, hopen, String.toList_ofList]
  split
  · contradiction
  · split
    · next heq => cases heq; exact absurd rfl hletter
    · next heq => cases heq; exact absurd rfl hletter
    · next heq => cases heq; rfl
    · next heq => exact absurd rfl (heq _ _)

end

end Progress

end NameCompletion.CommandLine
