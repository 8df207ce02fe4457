import NameCompletion.Options

/-!
# What written options say

Options are written as fields in any order or as an array.  `Options.written?` is what is written
for a field, and `IsField.get_ofJson?` says that the field is read from that and from nothing else,
or else is the one of the plain options.
-/

namespace NameCompletion.Options

/-- What is written for a field: under its name, or at its place among the fields. -/
def written? (document : Json) (field : String) : Option Json :=
  match document with
  | .object members => members.lookup field
  | .array items => (fields.zip items).lookup field
  | _ => none

/-- A field of the options: what it is called, how it is read and where it is found. -/
structure IsField {α : Type} (field : String) (read : Json → Option α) (get : Options → α) :
    Prop where
  /-- The field is set to what is read. -/
  read_eq {options set : Options} {j : Json} (h : options.setField? field j = some set) :
    read j = some (get set)
  /-- Setting another field leaves this one alone. -/
  get_eq {options set : Options} {name : String} {j : Json} (hname : name ≠ field)
    (h : options.setField? name j = some set) : get set = get options

theorem setField?_cases {options set : Options} {field : String} {j : Json}
    (h : options.setField? field j = some set) :
    (field = "keywords" ∧ ∃ words, readTexts? j = some words ∧ options.withKeywords words = set) ∨
    (field = "decorate" ∧ ∃ on, readSwitch? j = some on ∧ options.decorated on = set) ∨
    field = "show_private" ∧ ∃ shown, readSwitch? j = some shown ∧
      options.privateMembers shown = set := by
  unfold setField? at h
  split at h
  · exact .inl ⟨rfl, Option.map_eq_some_iff.1 h⟩
  · exact .inr (.inl ⟨rfl, Option.map_eq_some_iff.1 h⟩)
  · exact .inr (.inr ⟨rfl, Option.map_eq_some_iff.1 h⟩)
  · cases h

theorem isField_keywords : IsField "keywords" readTexts? keywords where
  read_eq h := by
    obtain ⟨words, hread, rfl⟩ := Option.map_eq_some_iff.1 h
    exact hread
  get_eq hname h := by
    obtain ⟨rfl, -⟩ | ⟨-, _, -, rfl⟩ | ⟨-, _, -, rfl⟩ := setField?_cases h
    · exact absurd rfl hname
    · rfl
    · rfl

theorem isField_decorate : IsField "decorate" readSwitch? decorate where
  read_eq h := by
    obtain ⟨on, hread, rfl⟩ := Option.map_eq_some_iff.1 h
    exact hread
  get_eq hname h := by
    obtain ⟨-, _, -, rfl⟩ | ⟨rfl, -⟩ | ⟨-, _, -, rfl⟩ := setField?_cases h
    · rfl
    · exact absurd rfl hname
    · rfl

theorem isField_showPrivate : IsField "show_private" readSwitch? showPrivate where
  read_eq h := by
    obtain ⟨shown, hread, rfl⟩ := Option.map_eq_some_iff.1 h
    exact hread
  get_eq hname h := by
    obtain ⟨-, _, -, rfl⟩ | ⟨-, _, -, rfl⟩ | ⟨rfl, -⟩ := setField?_cases h
    · rfl
    · rfl
    · exact absurd rfl hname

namespace IsField

variable {α : Type} {field : String} {read : Json → Option α} {get : Options → α}

/-- When no field is set twice, the order in which fields are set does not matter. -/
theorem get_setFields? (h : IsField field read get) {entries : List (String × Json)}
    (hnodup : (entries.map Prod.fst).Nodup) {options set : Options}
    (hset : options.setFields? entries = some set) :
    get set = ((entries.lookup field).bind read).getD (get options) := by
  induction entries generalizing options with
  | nil =>
    cases hset
    rfl
  | cons e rest ih =>
    obtain ⟨name, j⟩ := e
    obtain ⟨next, hnext, hrest⟩ := Option.bind_eq_some_iff.1 hset
    rw [List.map_cons, List.nodup_cons] at hnodup
    rw [ih hnodup.2 hrest]
    by_cases hname : name = field
    · subst hname
      have hlookup : rest.lookup name = none :=
        List.lookup_eq_none_iff.2 fun e he =>
          bne_iff_ne.2 fun heq => hnodup.1 (List.mem_map.2 ⟨e, he, heq.symm⟩)
      rw [hlookup, List.lookup_cons_self, Option.bind_some, h.read_eq hnext]
      rfl
    · rw [h.get_eq hname hnext, List.lookup_cons, beq_false_of_ne (Ne.symm hname)]

/-- A field of options that are read is what is written for it, if anything is. -/
theorem get_ofJson? (h : IsField field read get) {document : Json} {options : Options}
    (hread : ofJson? document = some options) :
    get options = ((written? document field).bind read).getD (get plain) := by
  unfold ofJson? at hread
  split at hread
  · split at hread
    · next hnodup => exact h.get_setFields? hnodup hread
    · cases hread
  · next items =>
    split at hread
    · next hlength =>
      refine h.get_setFields? ?_ hread
      match items with
      | [] | [_] | [_, _] | [_, _, _] => simp [fields]
      | _ :: _ :: _ :: _ :: _ =>
        simp only [fields, List.length_cons, List.length_nil] at hlength
        omega
    · cases hread
  · cases hread

end IsField

end NameCompletion.Options
