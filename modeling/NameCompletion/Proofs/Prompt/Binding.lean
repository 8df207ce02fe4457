import NameCompletion.Prompt
import NameCompletion.Proofs.Completer.Globals
import NameCompletion.Proofs.Store.Growth

/-!
# Names that are bound at the prompt

The prompt refuses a name that starts with one of the ten ASCII digits.  Completion offers no name
that starts with a numeric character of any script.  Between the two lie names such as `²` that can
be bound and are never offered.

* `readCommand_assign`: what a line that binds a name consists of.
* `bound_name_offered_iff`: a name that was bound is offered exactly if it does not start with a
  numeric character.
* `superscript_not_offered`: a name that was bound and is not offered.
-/

namespace NameCompletion.Prompt

/-! ## Reading a binding -/

/-- A name is a word that does not start with an ASCII digit. -/
theorem readName_eq_ok_iff {text : List Char} {name : String} :
    readName text = .ok name ↔ name.toList = Text.trimChars text ∧ isWord name.toList = true ∧
      (name.toList.take 1).any Char.isDigit = false := by
  unfold readName
  dsimp only
  constructor
  · intro h
    split at h
    · next hname =>
      obtain rfl := Except.ok.inj h
      rw [Bool.and_eq_true, Bool.not_eq_true'] at hname
      exact ⟨String.toList_ofList, by rwa [String.toList_ofList]⟩
    · cases h
  · rintro ⟨htext, hword, hdigit⟩
    rw [← htext, hword, hdigit, String.ofList_toList]
    rfl

/-- What binds a name has an equals sign, a name in front of it and JSON behind it. -/
theorem readBinding_eq_ok_iff {s s' : Store} {text : List Char} {name : String} {value : Value} :
    readBinding s text = .ok (.assign name value, s') ↔
      ∃ sign written j, text.dropWhile (· != '=') = sign :: written ∧
        readName (text.takeWhile (· != '=')) = .ok name ∧
        Json.parse? (String.ofList (Text.trimChars written)) = some j ∧
        Snapshot.loadValue s j = .ok (value, s') := by
  unfold readBinding
  constructor
  · intro h
    split at h
    · cases h
    · next sign written hcut =>
      cases hname : readName (text.takeWhile (· != '=')) with
      | error e => rw [hname] at h; cases h
      | ok found =>
        rw [hname] at h
        simp only [bind, Except.bind] at h
        split at h
        · cases h
        · next j hjson =>
          split at h
          · cases h
          · next value' grown hload =>
            obtain ⟨⟨rfl, rfl⟩, rfl⟩ : (found = name ∧ value' = value) ∧ grown = s' := by
              simpa using h
            exact ⟨sign, written, j, hcut, rfl, hjson, hload⟩
  · rintro ⟨sign, written, j, hcut, hname, hjson, hload⟩
    simp only [hcut, hname, bind, Except.bind, hjson, hload]

/-- What follows an opening is the rest of the text. -/
theorem after?_eq_some_iff {opening : String} {text rest : List Char} :
    after? opening text = some rest ↔ text = opening.toList ++ rest := by
  unfold after?
  constructor
  · intro h
    split at h
    · next hprefix =>
      obtain ⟨rest', rfl⟩ := List.isPrefixOf_iff_prefix.1 hprefix
      rw [← String.length_toList, List.drop_left] at h
      rw [Option.some.inj h]
    · cases h
  · rintro rfl
    rw [if_pos (List.isPrefixOf_iff_prefix.2 (List.prefix_append _ _)), ← String.length_toList,
      List.drop_left]

/-- Only a line that starts with `let` binds a name. -/
theorem readBinding_of_readCommand {s s' : Store} {line name : String} {value : Value}
    (h : readCommand s line = .ok (.assign name value, s')) :
    ∃ rest, Text.trimChars line.toList = "let ".toList ++ rest ∧
      readBinding s rest = .ok (.assign name value, s') := by
  unfold readCommand readTrimmed at h
  split at h
  · next rest hrest => exact ⟨rest, after?_eq_some_iff.1 hrest, h⟩
  · split at h
    · next rest _ => cases hname : readName rest <;> rw [hname] at h <;> cases h
    · split at h
      · cases h
      · split at h <;> cases h

/-- A line that binds a name gives a word and a value that was loaded. -/
theorem readCommand_assign {s s' : Store} {line name : String} {value : Value}
    (h : readCommand s line = .ok (.assign name value, s')) :
    isWord name.toList = true ∧ ∃ j, Snapshot.loadValue s j = .ok (value, s') := by
  obtain ⟨_, _, hread⟩ := readBinding_of_readCommand h
  obtain ⟨_, _, j, _, hname, _, hload⟩ := readBinding_eq_ok_iff.1 hread
  exact ⟨(readName_eq_ok_iff.1 hname).2.1, j, hload⟩

/-! ## Offering a bound name -/

/-- What stands behind a name that is bound to the value. -/
def boundMark (options : Options) (s : Store) (name : String) (value : Value) : String :=
  if options.decorate = false then ""
  else if name ∈ options.keywords then " "
  else if value.isCallable s = true then "(" else ""

theorem globalMark_of_get? {c : Completer} {name : String} {value : Value}
    (h : c.globals.get? name = some value) :
    c.globalMark name = boundMark c.options c.store name value := by
  have hglobal : c.global? name = some value := by
    rw [Completer.global?, h, Option.some_or]
  have hcallable : c.CallableGlobal name ↔ value.isCallable c.store = true := by
    simp [Completer.CallableGlobal, Completer.resolve_singleton, hglobal]
  unfold Completer.globalMark boundMark
  exact if_congr Iff.rfl rfl (if_congr Iff.rfl rfl (if_congr hcallable rfl rfl))

/-- A word is an identifier unless it starts with a numeric character. -/
theorem isIdentifier_iff_of_isWord {name : String} (hword : isWord name.toList = true) :
    isIdentifier name = true ↔ ∀ c ∈ name.toList.head?, isNumeric c = false := by
  rw [isIdentifier, hword, Bool.true_and, Bool.not_eq_true']
  cases name.toList <;> simp

/-- A word that is bound is a candidate for each of its beginnings, unless it starts with a numeric
character. -/
theorem bound_mem_complete_iff {c : Completer} {name typed : String} {value : Value}
    (hbound : c.globals.get? name = some value) (hword : isWord name.toList = true)
    (htyped : typed.toList <+: name.toList) :
    name ++ boundMark c.options c.store name value ∈ c.complete typed ↔
      ∀ x ∈ name.toList.head?, isNumeric x = false := by
  have hdot : '.' ∉ typed.toList := fun h => dot_not_mem_of_isWord hword (htyped.subset h)
  have hsource : name ∈ c.globals.names := by
    rw [Bindings.mem_names_iff, hbound]
    rfl
  rw [Completer.complete, Fragment.parse_of_dot_not_mem hdot, ← globalMark_of_get? hbound,
    ← isIdentifier_iff_of_isWord hword]
  show _ ∈ c.globalMatches typed ↔ _
  rw [Completer.marked_mem_globalMatches_iff hword]
  exact ⟨fun h => h.1, fun h => ⟨h, htyped, .inr (.inl hsource)⟩⟩

/-! ## The main result -/

/-- A line that binds a name is executed if there is a main module.  From then on the name is a
candidate for each of its beginnings, unless it starts with a numeric character. -/
theorem bound_name_offered_iff {session : Session} {s s' : Store} {m : Module}
    {line name : String} {value : Value} (hmain : session.module? s mainModule = some m)
    (hcell : m.scope.index < s.scopes.size)
    (hread : readCommand s line = .ok (.assign name value, s')) :
    ∃ after, execute session s' (.assign name value) = .ok (some "", after) ∧
      ∀ typed : String, typed.toList <+: name.toList →
        ∃ candidates, session.completions after typed = .ok candidates ∧
          (name ++ boundMark session.options after name value ∈ candidates ↔
            ∀ c ∈ name.toList.head?, isNumeric c = false) := by
  obtain ⟨hword, j, hload⟩ := readCommand_assign hread
  -- Building the value has only added cells, so the main module is still there.
  have hgrown : s.Extends s' := Snapshot.extends_loadValue hload
  have hmain' : session.module? s' mainModule = some m := hgrown.module? hmain
  have hcell' : m.scope.index < s'.scopes.size := hgrown.scope_index_lt hcell
  let after := (s'.bind m.scope name value).2
  have hafter : session.module? after mainModule = some m := hmain'
  have hbound : (after.scope m.scope).get? name = some value := by
    show ((s'.setScope m.scope _).scope m.scope).get? name = some value
    rw [Store.scope_setScope_self hcell', Bindings.get?_insert, if_pos rfl]
  have hdone : execute session s' (.assign name value) = .ok (some "", after) := by
    simp only [execute, Session.inject, Session.moduleScope, hmain']
    rfl
  refine ⟨after, hdone, fun typed htyped => ?_⟩
  exact ⟨_, Session.completions_of_module? hafter typed, bound_mem_complete_iff hbound hword htyped⟩

theorem loadValue_null (s : Store) : Snapshot.loadValue s .null = .ok (.null, s) := by
  rw [Snapshot.loadValue, Snapshot.readValue]
  rfl

/-- A name of a letter and a digit is offered once it is bound. -/
theorem letter_offered :
    ∃ after, execute (Session.create .empty).1 (Session.create .empty).2 (.assign "x1" .null) =
        .ok (some "", after) ∧
      ∃ candidates, (Session.create .empty).1.completions after "x" = .ok candidates ∧
        "x1" ∈ candidates := by
  have hread : readCommand (Session.create .empty).2 "let x1 = null" =
      .ok (.assign "x1" .null, (Session.create .empty).2) := by
    show readBinding _ "x1 = null".toList = _
    exact readBinding_eq_ok_iff.2
      ⟨'=', " null".toList, .null, rfl, rfl, rfl, loadValue_null _⟩
  have hmain : (Session.create .empty).1.module? (Session.create .empty).2 mainModule =
      some ⟨mainModule, ⟨1⟩⟩ := by decide +kernel
  have hletter : isNumeric 'x' = false := by decide +kernel
  have hhead : ∀ c ∈ "x1".toList.head?, isNumeric c = false := by
    intro c hc
    obtain rfl : 'x' = c := by simpa using hc
    exact hletter
  obtain ⟨after, hdone, hoffered⟩ := bound_name_offered_iff hmain (by decide +kernel) hread
  obtain ⟨candidates, hanswer, hmem⟩ := hoffered "x" (by decide +kernel)
  exact ⟨after, hdone, candidates, hanswer, hmem.2 hhead⟩

/-- A superscript digit is no ASCII digit, so it can be bound, but it is not offered. -/
theorem superscript_not_offered :
    readCommand (Session.create .empty).2 "let ² = null" =
        .ok (.assign "²" .null, (Session.create .empty).2) ∧
      ∃ after, execute (Session.create .empty).1 (Session.create .empty).2 (.assign "²" .null) =
          .ok (some "", after) ∧
        (Session.create .empty).1.completions after "²" = .ok [] := by
  have hread : readCommand (Session.create .empty).2 "let ² = null" =
      .ok (.assign "²" .null, (Session.create .empty).2) := by
    show readBinding _ "² = null".toList = _
    exact readBinding_eq_ok_iff.2
      ⟨'=', " null".toList, .null, rfl, rfl, rfl, loadValue_null _⟩
  refine ⟨hread, _, rfl, ?_⟩
  decide +kernel

end NameCompletion.Prompt
