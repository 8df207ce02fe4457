import NameCompletion.CommandLine.Run
import NameCompletion.Proofs.CommandLine.Reading
import NameCompletion.Proofs.Options

/-!
# Options on the command line and in the configuration

What a command line gives decides, option by option, what is taken from the configuration.

* `values`, `decorations`, `privacies`: what is given for one option, in its order.
* `setupOf`: the setup that is made from what is given, which is the one that is read
  (`exists_setup_eq`).
* `effectiveOptions`: the keywords that are given, else those that are configured; what the last
  flag of a pair says, else what is configured.
* `SameByKind`: the same is given, interleaved in another way.
* `options_layered`: sessions have the effective options of what is given.
-/

namespace NameCompletion.CommandLine

/-! ## What is given for one option -/

/-- The values that are given for an option. -/
def values (option : ValueOption) (given : List Given) : List String :=
  given.filterMap fun
    | .value other text => if other = option then some text else none
    | .flag _ | .fragment _ => none

/-- What the flags for decoration say. -/
def decorations (given : List Given) : List Bool :=
  given.filterMap fun
    | .flag (.decorate on) => some on
    | _ => none

/-- What the flags for private members say. -/
def privacies (given : List Given) : List Bool :=
  given.filterMap fun
    | .flag (.showPrivate on) => some on
    | _ => none

/-- The setup that is made from what is given. -/
def setupOf (given : List Given) : Setup where
  namespaceFile := (values .namespaceFile given).getLast?
  builtinsFile := (values .builtinsFile given).getLast?
  configFile := (values .configFile given).getLast?
  keywords := values .keyword given
  decorate := (decorations given).getLast?
  showPrivate := (privacies given).getLast?
  logFilter := (values .logFilter given).getLast?

/-! ## What is recorded -/

section

variable {p q : Progress} {given done : List Given} {g : Given}

theorem fillOnce_eq_ok {current file : Option String} {value : String} {mayBeEmpty : Bool}
    (h : Progress.fillOnce current value mayBeEmpty = .ok file) : file = some value := by
  unfold Progress.fillOnce at h
  split at h
  · cases h
  · cases h
    rfl

theorem setOnce_eq_ok {current set : Option Bool} {on : Bool}
    (h : Progress.setOnce current on = .ok set) : set = some on := by
  unfold Progress.setOnce at h
  split at h
  · cases h
  · cases h
    rfl

theorem setup_record (hsetup : p.setup = setupOf done) (h : p.record g = .ok q) :
    q.setup = setupOf (done ++ [g]) := by
  cases g with
  | value option text =>
    cases option with
    | namespaceFile | builtinsFile | configFile | logFilter =>
      obtain ⟨file, hfile, hq⟩ := exists_of_bind_eq_ok h
      obtain rfl := fillOnce_eq_ok hfile
      cases hq
      simp [setupOf, hsetup, values, decorations, privacies]
    | keyword =>
      cases h
      simp [setupOf, hsetup, values, decorations, privacies]
  | flag flag =>
    cases flag with
    | json =>
      simp only [Progress.record, Progress.raise] at h
      split at h
      · cases h
      · cases h
        simp [setupOf, hsetup, values, decorations, privacies]
    | decorate on | showPrivate on =>
      obtain ⟨set, hset, hq⟩ := exists_of_bind_eq_ok h
      obtain rfl := setOnce_eq_ok hset
      cases hq
      simp [setupOf, hsetup, values, decorations, privacies]
    | help | version => cases h
  | fragment text =>
    cases h
    simp [setupOf, hsetup, values, decorations, privacies]

/-- What is recorded from the start on is what is given. -/
theorem setup_foldlM_record (hsetup : p.setup = setupOf done)
    (h : given.foldlM Progress.record p = .ok q) : q.setup = setupOf (done ++ given) := by
  induction given generalizing p done with
  | nil =>
    cases h
    rw [List.append_nil, hsetup]
  | cons g rest ih =>
    obtain ⟨r, hrecord, hrest⟩ := exists_of_bind_eq_ok h
    rw [List.append_cons]
    exact ih (setup_record hsetup hrecord) hrest

end

/-! ## Effective options -/

/-- The setup of a command line that makes a session. -/
def Setup.ofArguments? (arguments : List String) : Option Setup :=
  (Invocation.ofArguments? arguments).bind Invocation.setup?

/-- The document in the configuration file that is given. -/
def configDocument? (files : Files) (given : List Given) : Option Json := do
  let file ← (values .configFile given).getLast?
  let text ← (files file).toOption
  Json.parse? text

/-- What the configuration says about a field, if there is one and the field is written in it. -/
def configured? {α : Type} (files : Files) (given : List Given) (field : String)
    (read : Json → Option α) : Option α := do
  let document ← configDocument? files given
  let written ← Options.written? document field
  read written

/-- The options that are to be in effect, option by option: what is given, else what is configured,
else nothing. -/
def effectiveOptions (files : Files) (given : List Given) : Options where
  keywords :=
    if values .keyword given = [] then
      (configured? files given "keywords" Options.readTexts?).getD []
    else values .keyword given
  decorate :=
    (decorations given).getLast?.getD
      ((configured? files given "decorate" Options.readSwitch?).getD false)
  showPrivate :=
    (privacies given).getLast?.getD
      ((configured? files given "show_private" Options.readSwitch?).getD false)

section

variable {files : Files} {arguments : List String} {setup : Setup} {given : List Given}
  {config : Options}

theorem exists_readTop_of_ofArguments? (h : Setup.ofArguments? arguments = some setup) :
    ∃ invocation : Invocation, readTop {} arguments = .ok invocation ∧
      invocation.setup? = some setup := by
  obtain ⟨invocation, hinvocation, hsetup⟩ := Option.bind_eq_some_iff.1 h
  unfold Invocation.ofArguments? at hinvocation
  split at hinvocation
  · next hread =>
    cases hinvocation
    exact ⟨invocation, hread, hsetup⟩
  · cases hinvocation
    cases hsetup
  · cases hinvocation
    cases hsetup
  · cases hinvocation

theorem exists_isWritten (h : Setup.ofArguments? arguments = some setup) :
    ∃ given, IsWritten arguments given := by
  obtain ⟨invocation, hread, -⟩ := exists_readTop_of_ofArguments? h
  exact exists_isWritten_of_readTop hread

theorem exists_setup_eq (h : Setup.ofArguments? arguments = some setup)
    (hwritten : IsWritten arguments given) :
    ∃ logFilter, setup = { setupOf given with logFilter } := by
  obtain ⟨invocation, hread, hsetup⟩ := exists_readTop_of_ofArguments? h
  obtain ⟨q, logFilter, hrecord, hmade⟩ := setup_of_isWritten hwritten rfl rfl hread
  have hstart : Progress.setup {} = setupOf [] := rfl
  have hgiven : q.setup = setupOf ([] ++ given) := setup_foldlM_record hstart hrecord
  rw [hsetup, hgiven] at hmade
  exact ⟨logFilter, Option.some.inj hmade⟩

theorem ofJson?_of_loadOptions {file : String} (h : loadOptions files (some file) = .ok config) :
    ∃ text document, files file = .ok text ∧ Json.parse? text = some document ∧
      Options.ofJson? document = some config := by
  simp only [loadOptions] at h
  split at h
  · cases h
  · next text htext =>
    split at h
    · cases h
    · next hread =>
      cases h
      obtain ⟨document, hparse, hdocument⟩ := Option.bind_eq_some_iff.1 hread
      exact ⟨text, document, htext, hparse, hdocument⟩

/-- A field of the configuration is what is configured, if anything is. -/
theorem get_config {α : Type} {field : String} {read : Json → Option α} {get : Options → α}
    (hfield : Options.IsField field read get)
    (hconfig : loadOptions files (values .configFile given).getLast? = .ok config) :
    get config = (configured? files given field read).getD (get .plain) := by
  rw [configured?, configDocument?]
  cases hfile : (values .configFile given).getLast? with
  | none =>
    rw [hfile] at hconfig
    cases hconfig
    rfl
  | some file =>
    rw [hfile] at hconfig
    obtain ⟨text, document, htext, hparse, hdocument⟩ := ofJson?_of_loadOptions hconfig
    have hread : (do
        let file ← some file
        let text ← (files file).toOption
        Json.parse? text) = some document := by
      rw [← hparse]
      exact congrArg (Option.bind · Json.parse?) (congrArg Except.toOption htext)
    rw [hfield.get_ofJson? hdocument, hread]
    rfl

theorem configFile_eq (h : Setup.ofArguments? arguments = some setup)
    (hwritten : IsWritten arguments given) :
    setup.configFile = (values .configFile given).getLast? := by
  obtain ⟨logFilter, rfl⟩ := exists_setup_eq h hwritten
  rfl

theorem layer_eq_effectiveOptions (h : Setup.ofArguments? arguments = some setup)
    (hwritten : IsWritten arguments given)
    (hconfig : loadOptions files setup.configFile = .ok config) :
    setup.layer config = effectiveOptions files given := by
  rw [configFile_eq h hwritten] at hconfig
  have hkeywords := get_config Options.isField_keywords hconfig
  have hdecorate := get_config Options.isField_decorate hconfig
  have hshow := get_config Options.isField_showPrivate hconfig
  obtain ⟨logFilter, rfl⟩ := exists_setup_eq h hwritten
  rw [Setup.layer, effectiveOptions, hkeywords, hdecorate, hshow]
  simp only [setupOf, List.isEmpty_iff]
  rfl

theorem options_of_session {s s' : Store} {session : Session}
    (hconfig : loadOptions files setup.configFile = .ok config)
    (h : setup.session files s = .ok (session, s')) : session.options = setup.layer config := by
  unfold Setup.session at h
  obtain ⟨_, -, h⟩ := exists_of_bind_eq_ok h
  obtain ⟨_, -, h⟩ := exists_of_bind_eq_ok h
  obtain ⟨loaded, hloaded, h⟩ := exists_of_bind_eq_ok h
  rw [hconfig] at hloaded
  cases hloaded
  cases h
  rfl

end

/-! ## Interleaving -/

/-- What something that is given is about. -/
inductive Given.Kind where
  | value (option : ValueOption)
  | fragment
  | json
  | decorate
  | showPrivate
  | help
  | version
  deriving DecidableEq, Repr

/-- What something that is given is about. -/
def Given.kind : Given → Given.Kind
  | .value option _ => .value option
  | .fragment _ => .fragment
  | .flag .json => .json
  | .flag (.decorate _) => .decorate
  | .flag (.showPrivate _) => .showPrivate
  | .flag .help => .help
  | .flag .version => .version

/-- The same is given for each kind, in the same order; different kinds may be interleaved in
different ways. -/
def SameByKind (given other : List Given) : Prop :=
  ∀ kind : Given.Kind, given.filter (·.kind = kind) = other.filter (·.kind = kind)

namespace SameByKind

variable {given other : List Given}

theorem filterMap_eq {α : Type} {f : Given → Option α} (kind : Given.Kind)
    (hf : ∀ g : Given, g.kind ≠ kind → f g = none) (h : SameByKind given other) :
    given.filterMap f = other.filterMap f := by
  have hkind (given : List Given) :
      given.filterMap f = (given.filter (·.kind = kind)).filterMap f := by
    rw [List.filterMap_filter]
    congr 1
    funext g
    split
    · rfl
    · next hg => exact hf g (by simpa using hg)
  rw [hkind given, hkind other, h kind]

theorem values_eq (h : SameByKind given other) (option : ValueOption) :
    values option given = values option other := by
  refine filterMap_eq (.value option) (fun g hg => ?_) h
  cases g with
  | value option' text => exact if_neg fun heq => hg (congrArg Given.Kind.value heq)
  | flag f => rfl
  | fragment text => rfl

theorem decorations_eq (h : SameByKind given other) : decorations given = decorations other := by
  refine filterMap_eq .decorate (fun g hg => ?_) h
  cases g with
  | flag flag =>
    cases flag with
    | decorate on => exact absurd rfl hg
    | json | showPrivate _ | help | version => rfl
  | value option text => rfl
  | fragment text => rfl

theorem privacies_eq (h : SameByKind given other) : privacies given = privacies other := by
  refine filterMap_eq .showPrivate (fun g hg => ?_) h
  cases g with
  | flag flag =>
    cases flag with
    | showPrivate shown => exact absurd rfl hg
    | json | decorate _ | help | version => rfl
  | value option text => rfl
  | fragment text => rfl

theorem effectiveOptions_eq (h : SameByKind given other) (files : Files) :
    effectiveOptions files given = effectiveOptions files other := by
  unfold effectiveOptions configured? configDocument?
  rw [h.values_eq, h.values_eq, h.decorations_eq, h.privacies_eq]

end SameByKind

/-- Options on the command line come before those in the configuration.  A command line that makes a
session follows the grammar, and however it does so, the options are the effective ones of what is
given: every session that is made has them, and a command line that gives the same, interleaved in
another way, reads the same configuration and leads to the same options. -/
theorem options_layered {files : Files} {arguments : List String} {setup : Setup} {config : Options}
    (haccepted : Setup.ofArguments? arguments = some setup)
    (hconfig : loadOptions files setup.configFile = .ok config) :
    (∃ given, IsWritten arguments given) ∧
    ∀ given, IsWritten arguments given →
      setup.layer config = effectiveOptions files given ∧
      (∀ s session s', setup.session files s = .ok (session, s') →
        session.options = effectiveOptions files given) ∧
      ∀ others setup' given', Setup.ofArguments? others = some setup' → IsWritten others given' →
        SameByKind given given' →
        loadOptions files setup'.configFile = .ok config ∧
          setup'.layer config = effectiveOptions files given := by
  refine ⟨exists_isWritten haccepted, fun given hgiven => ?_⟩
  have hlayer := layer_eq_effectiveOptions haccepted hgiven hconfig
  refine ⟨hlayer, fun s session s' hsession => ?_,
    fun others setup' given' hothers hgiven' hsame => ?_⟩
  · exact (options_of_session hconfig hsession).trans hlayer
  · have hfile : setup'.configFile = setup.configFile := by
      rw [configFile_eq hothers hgiven', configFile_eq haccepted hgiven, hsame.values_eq]
    have hconfig' : loadOptions files setup'.configFile = .ok config := hfile ▸ hconfig
    exact ⟨hconfig', (layer_eq_effectiveOptions hothers hgiven' hconfig').trans
      (hsame.effectiveOptions_eq files).symm⟩

/-- A line with values apart and attached, in front of the fragment and behind it. -/
def mixedLine : List String :=
  ["--log-level=warn", "complete", "--keyword", "if", "--decorate", "pri", "-kelse",
    "--config=c.json", "--no-decorate"]

/-- What is given by it. -/
def mixedGiven : List Given :=
  [.value .keyword "if", .flag (.decorate true), .fragment "pri", .value .keyword "else",
    .value .configFile "c.json", .flag (.decorate false)]

/-- A configuration in which a field is missing. -/
def partialConfig : Files
  | "c.json" => .ok "\x7b\"keywords\": [\"while\"], \"show_private\": true\x7d"
  | _ => .error .notFound

theorem isWritten_mixedLine : IsWritten mixedLine mixedGiven := by
  have hfilter : Gives .top false "--log-level=warn" (.value .logFilter "warn") := by
    show Gives _ _ (longText ValueOption.logFilter.longName (some "warn")) _
    exact .long trivial
  have hif : Opens .complete "--keyword" .keyword := by
    show Opens _ (longText ValueOption.keyword.longName none) _
    exact .long nofun
  have hdecorate : Gives .complete true "--decorate" (.flag (.decorate true)) := by
    show Gives _ _ (longText (Flag.decorate true).longName none) _
    exact .flag nofun
  have helse : Gives .complete false "-kelse" (.value .keyword "else") := by
    show Gives _ _ (String.ofList ('-' :: 'k' :: ['e', 'l', 's', 'e']))
      (.value _ (String.ofList ['e', 'l', 's', 'e']))
    exact .letter nofun rfl nofun (by decide) nofun
  have hconfig : Gives .complete false "--config=c.json" (.value .configFile "c.json") := by
    show Gives _ _ (longText ValueOption.configFile.longName (some "c.json")) _
    exact .long nofun
  have hplain : Gives .complete false "--no-decorate" (.flag (.decorate false)) := by
    show Gives _ _ (longText (Flag.decorate false).longName none) _
    exact .flag nofun
  exact .logFilter hfilter <| .complete <| .apart hif (.plain (.inr (by decide))) <|
    .given hdecorate <| .fragment (.plain (.inr (by decide))) <| .given helse <|
    .given hconfig <| .given hplain .nil

/-- Keywords and decoration are given, private members are configured. -/
theorem mixedLine_layered :
    ∃ setup config, Setup.ofArguments? mixedLine = some setup ∧
      loadOptions partialConfig setup.configFile = .ok config ∧
      setup.layer config =
        { keywords := ["if", "else"], decorate := false, showPrivate := true } := by
  have haccepted : Setup.ofArguments? mixedLine = some
      { configFile := some "c.json", keywords := ["if", "else"], decorate := some false,
        logFilter := some "warn" } := by
    decide +kernel
  have hconfig : loadOptions partialConfig (some "c.json") =
      .ok { keywords := ["while"], showPrivate := true } := by
    rfl
  refine ⟨_, _, haccepted, hconfig, ?_⟩
  rw [((options_layered haccepted hconfig).2 mixedGiven isWritten_mixedLine).1]
  rfl

end NameCompletion.CommandLine
