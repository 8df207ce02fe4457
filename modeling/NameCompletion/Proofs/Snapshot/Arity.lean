import NameCompletion.Proofs.Snapshot.Contents

/-!
# The arities of loaded functions

A function takes a number of arguments from 0 to 127, or any number of them, which is written as -1
(`Function.LegalArity`).  That is what the wording of `Malformation.arityOutOfRange` promises, but
reading accepts every integer of eight bits.

* `legalArity_iff_of_readFunction`: the arity of a function is legal unless its body says less.
* `legal_arities_iff`: so all functions in a loaded value or namespace, wherever they are, have
  legal arities exactly if no arity below -1 is written where a function is read.
* `negative_arity_loads` is a function that slips through.
-/

namespace NameCompletion

/-- The number of arguments, or -1 if any number will do. -/
def Function.LegalArity (f : Function) : Prop :=
  -1 ≤ f.arity.toInt ∧ f.arity.toInt ≤ 127

namespace Snapshot

/-- An integer that is written as the arity in the body of a function. -/
def Check.WritesArity (c : Check) (n : Int) : Prop :=
  ∃ members, .body .functionTag (.object members) ∈ c.visits ∧
    (Json.entries members).get? "arity" = some (.number (.integer n))

/-- The arity is the number that is written, or -1 if there is none. -/
theorem arity_eq_ok_cases {body : Bindings Json} {a : Int8} (h : arity body = .ok a) :
    body.get? "arity" = none ∧ a = -1 ∨
      body.get? "arity" = some (.number (.integer a.toInt)) := by
  unfold arity at h
  split at h
  · next hfound =>
    cases h
    exact .inl ⟨hfound, rfl⟩
  · next n hfound =>
    split at h
    · next hrange =>
      cases h
      rw [Int8.toInt_ofInt_of_le hrange.1 (Int.lt_add_one_of_le hrange.2)]
      exact .inr hfound
    · cases h
  · cases h

theorem legalArity_variadic (name : String) : (Function.variadic name).LegalArity := by
  show -1 ≤ (-1 : Int8).toInt ∧ (-1 : Int8).toInt ≤ 127
  decide

theorem legalArity_iff_of_readFunction {j : Json} {f : Function} (h : readFunction j = .ok f) :
    f.LegalArity ↔ ∀ members n, j = .object members →
      (Json.entries members).get? "arity" = some (.number (.integer n)) → -1 ≤ n := by
  cases j with
  | text name =>
    cases h
    exact iff_of_true (legalArity_variadic name) (by simp)
  | object members =>
    obtain ⟨name, _, h⟩ := exists_of_bind_eq_ok h
    obtain ⟨a, ha, h⟩ := exists_of_bind_eq_ok h
    cases h
    have hupper : a.toInt ≤ 127 := Int.le_of_lt_add_one a.toInt_lt
    rcases arity_eq_ok_cases ha with ⟨hnone, rfl⟩ | hwritten
    · refine iff_of_true (legalArity_variadic name) fun inner n hinner hfound => ?_
      cases hinner
      rw [hnone] at hfound
      cases hfound
    · constructor
      · intro hlegal inner n hinner hfound
        cases hinner
        rw [hwritten] at hfound
        cases hfound
        exact hlegal.1
      · intro hall
        exact ⟨hall members a.toInt rfl hwritten, hupper⟩
  | _ => cases h

/-- The functions in loaded values have legal arities exactly if no arity below -1 is written. -/
theorem Loaded.legal_iff {s t : Store} {c : Check} {vs : List Value}
    (h : Loaded s t c vs) :
    (∀ v ∈ vs, ∀ f, v.Contains t (.function f) → f.LegalArity) ↔
      ∀ n, c.WritesArity n → -1 ≤ n := by
  constructor
  · rintro hlegal n ⟨members, hvisited, hwritten⟩
    obtain ⟨ds, hread, _⟩ := id h
    obtain ⟨_, hbody⟩ := Check.exists_read_of_mem_visits hread hvisited
    obtain ⟨d, hd, _⟩ := map_eq_ok_iff.1 hbody
    obtain ⟨f, hf, _⟩ := exists_of_bind_eq_ok hd
    obtain ⟨v, hv, hfound⟩ := h.contains_function_iff.2 ⟨_, hvisited, hf⟩
    exact (legalArity_iff_of_readFunction hf).1 (hlegal v hv f hfound) members n rfl hwritten
  · intro hall v hv f hfound
    obtain ⟨j, hvisited, hf⟩ := h.contains_function_iff.1 ⟨v, hv, hfound⟩
    refine (legalArity_iff_of_readFunction hf).2 fun members n hj hwritten => ?_
    subst hj
    exact hall n ⟨members, hvisited, hwritten⟩

/-- All functions in a loaded value or namespace have legal arities exactly if the document writes
no arity below -1. -/
theorem legal_arities_iff (s : Store) (j : Json) :
    (∀ v t, loadValue s j = .ok (v, t) →
      ((∀ f, v.Contains t (.function f) → f.LegalArity) ↔
        ∀ n, (Check.value j).WritesArity n → -1 ≤ n)) ∧
    (∀ names t, loadNamespace s j = .ok (names, t) →
      ((∀ v ∈ names.values, ∀ f, v.Contains t (.function f) → f.LegalArity) ↔
        ∀ n, (Check.document j).WritesArity n → -1 ≤ n)) := by
  constructor
  · intro v t hload
    rw [← (loaded_of_loadValue hload).legal_iff]
    simp only [List.mem_singleton, forall_eq]
  · intro names t hload
    exact (loaded_of_loadNamespace hload).legal_iff

/-! ## A method of a base -/

/-- The body of a function `area`. -/
def areaBody (n : Int) : Json :=
  .object [("name", .text "area"), ("arity", .number (.integer n))]

/-- An object that has it as its only entry. -/
def withArea (n : Int) : Json :=
  .object [("area", .object [("$function", areaBody n)])]

/-- The body of a class that has it as its only member. -/
def roundBody (n : Int) : Json :=
  .object [("name", .text "Round"), ("members", withArea n)]

/-- The body of a class that inherits it. -/
def discBody (n : Int) : Json :=
  .object [("name", .text "Disc"), ("bases", .array [.object [("$class", roundBody n)]])]

def discClass (n : Int) : Json :=
  .object [("$class", discBody n)]

/-- All that is looked at in that class. -/
theorem visits_discClass (n : Int) :
    (Check.value (discClass n)).visits =
      [.value (discClass n), .body .classTag (discBody n), .name .classTag (some (.text "Disc")),
        .field .classTag "members" none,
        .bases (some (.array [.object [("$class", roundBody n)]])),
        .base (.object [("$class", roundBody n)]), .body .classTag (roundBody n),
        .name .classTag (some (.text "Round")),
        .field .classTag "members" (some (withArea n)),
        .value (.object [("$function", areaBody n)]), .body .functionTag (areaBody n),
        .name .functionTag (some (.text "area")), .arity (some (.number (.integer n))),
        .bases none] := by
  simp [discClass, discBody, roundBody, withArea, areaBody, Check.visits_eq, Check.next,
    Check.fields, Check.entries, classBody?, tagged?, soleMember?, Json.toList_entries_singleton,
    Json.get?_entries]

/-- Nothing is wrong with the class as long as the arity fits into eight bits. -/
theorem faultless_discClass {n : Int} (h : -128 ≤ n ∧ n ≤ 127) :
    ∀ c ∈ (Check.value (discClass n)).visits, c.fault? = none := by
  simp [visits_discClass, discBody, roundBody, withArea, areaBody, Check.fault?, classBody?,
    Json.get?_entries, h]

theorem writesArity_discClass {n m : Int} : (Check.value (discClass n)).WritesArity m ↔ m = n := by
  simp [Check.WritesArity, visits_discClass, areaBody, Json.get?_entries, eq_comm]

theorem visits_document_singleton (name : String) (j : Json) :
    (Check.document (.object [(name, j)])).visits =
      .document (.object [(name, j)]) :: (Check.value j).visits := by
  rw [Check.visits_eq]
  exact congrArg (List.cons _) (List.flatMap_singleton _ _)

/-- The inherited function is loaded. -/
theorem exists_load_discClass {n : Int} (h : -128 ≤ n ∧ n ≤ 127) :
    ∃ v t, loadValue .empty (discClass n) = .ok (v, t) ∧
      v.Contains t (.function ⟨"area", Int8.ofInt n⟩) := by
  obtain ⟨v, t, hload⟩ := exists_loadValue .empty (faultless_discClass h)
  have hvisited : .body .functionTag (areaBody n) ∈ (Check.value (discClass n)).visits := by
    simp [visits_discClass]
  have hread : readFunction (areaBody n) = .ok ⟨"area", Int8.ofInt n⟩ := by
    simp [areaBody, readFunction, requiredName, arity, Json.get?_entries, bind, Except.bind, h]
  obtain ⟨w, hw, hfound⟩ :=
    (loaded_of_loadValue hload).contains_function_iff.2 ⟨_, hvisited, hread⟩
  rw [List.mem_singleton.1 hw] at hfound
  exact ⟨v, t, hload, hfound⟩

/-- A class with an inherited function of two arguments, as a value and under a name. -/
theorem inherited_area_legal :
    (∃ v t, loadValue .empty (discClass 2) = .ok (v, t) ∧
      v.Contains t (.function ⟨"area", 2⟩) ∧ ∀ f, v.Contains t (.function f) → f.LegalArity) ∧
    ∃ names t, loadNamespace .empty (.object [("disc", discClass 2)]) = .ok (names, t) ∧
      ∀ v ∈ names.values, ∀ f, v.Contains t (.function f) → f.LegalArity := by
  have hwrites : ∀ n, (Check.value (discClass 2)).WritesArity n → -1 ≤ n := by
    intro n hn
    rw [writesArity_discClass.1 hn]
    decide
  constructor
  · obtain ⟨v, t, hload, hfound⟩ := exists_load_discClass (n := 2) (by decide)
    exact ⟨v, t, hload, hfound, ((legal_arities_iff .empty (discClass 2)).1 v t hload).2 hwrites⟩
  · have hfaultless : ∀ c ∈ (Check.document (.object [("disc", discClass 2)])).visits,
        c.fault? = none := by
      rw [visits_document_singleton]
      exact List.forall_mem_cons.2 ⟨rfl, faultless_discClass (by decide)⟩
    obtain ⟨names, t, hload⟩ := exists_loadNamespace .empty hfaultless
    refine ⟨names, t, hload, ((legal_arities_iff .empty _).2 names t hload).2 ?_⟩
    rintro n ⟨members, hvisited, hwritten⟩
    rw [visits_document_singleton] at hvisited
    exact hwrites n ⟨members, (List.mem_cons.1 hvisited).resolve_left (by simp), hwritten⟩

/-- A function of minus five arguments is loaded as well. -/
theorem negative_arity_loads :
    ∃ v t f, loadValue .empty (discClass (-5)) = .ok (v, t) ∧ v.Contains t (.function f) ∧
      ¬ f.LegalArity := by
  obtain ⟨v, t, hload, hfound⟩ := exists_load_discClass (n := -5) (by decide)
  refine ⟨v, t, _, hload, hfound, ?_⟩
  show ¬ (-1 ≤ (-5 : Int8).toInt ∧ (-5 : Int8).toInt ≤ 127)
  decide

end Snapshot

end NameCompletion
