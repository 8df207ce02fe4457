import NameCompletion.Proofs.Completer.Members

/-!
# Which global names are offered

The candidates for a bare name, said without the order in which keywords, names and builtins are
gone through.

* `globalNames`: the identifiers that continue what was typed and come from one of the three.
* `globalMark`: what stands behind a name.  A keyword is a keyword also if it is bound.
* `ListsGlobals`: the whole answer to a request.

An offer survives if it is the first one of its name (`mem_firstOfEachName`), and the first offer of
a name is that of the keyword, else that of the value that the name resolves to
(`find?_globalOffers`).  The main result is `complete_lists_globals`.
-/

namespace NameCompletion.Completer

open Text

/-! ## The answer -/

/-- The global names that can be offered. -/
def globalNames (c : Completer) (typed : String) : Set String :=
  {name | isIdentifier name = true ∧ name ∈ startingWith typed ∧
    (name ∈ c.options.keywords ∨ name ∈ c.globals.names ∨
      ∃ builtins, c.builtins = some builtins ∧ name ∈ builtins.names)}

/-- The name resolves to a value that can be called. -/
def CallableGlobal (c : Completer) (name : String) : Prop :=
  ∃ value, c.resolve [name] = some value ∧ value.isCallable c.store = true

instance (c : Completer) (name : String) : Decidable (c.CallableGlobal name) :=
  match h : c.resolve [name] with
  | some value => decidable_of_iff (value.isCallable c.store = true) (by simp [CallableGlobal, h])
  | none => isFalse (by simp [CallableGlobal, h])

/-- What stands behind a global name. -/
def globalMark (c : Completer) (name : String) : String :=
  if c.options.decorate = false then ""
  else if name ∈ c.options.keywords then " "
  else if c.CallableGlobal name then "(" else ""

/-- The answer to a request for global names: those that can be offered, in strictly ascending order
of their bytes, each with its mark. -/
structure ListsGlobals (c : Completer) (typed : String) (answer : List String) : Prop where
  ascending : ByteAscending answer
  exact : ∃ names, ByteAscending names ∧ (∀ n, n ∈ names ↔ n ∈ c.globalNames typed) ∧
    answer = names.map fun n => n ++ c.globalMark n

/-! ## The first offer of every name -/

theorem mem_firstOfEachName {offer : Offer} :
    ∀ {offers : List Offer}, offer ∈ firstOfEachName offers ↔
      offers.find? (fun other => other.name == offer.name) = some offer
  | [] => by simp [firstOfEachName]
  | first :: rest => by
    rw [firstOfEachName, List.mem_cons, List.mem_filter, mem_firstOfEachName, List.find?_cons,
      bne_iff_ne]
    by_cases hname : first.name = offer.name
    · rw [beq_iff_eq.2 hname]
      simp only [hname, ne_eq, not_true_eq_false, and_false, or_false, Option.some.injEq]
      exact eq_comm
    · rw [beq_eq_false_iff_ne.2 hname]
      have hne : offer ≠ first := fun h => hname (h ▸ rfl)
      simp only [hne, false_or, Ne.symm hname, ne_eq, not_false_eq_true, and_true]

theorem nodup_names_firstOfEachName :
    ∀ offers : List Offer, ((firstOfEachName offers).map Offer.name).Nodup
  | [] => List.nodup_nil
  | first :: rest => by
    rw [firstOfEachName, List.map_cons, List.nodup_cons]
    constructor
    · intro hmem
      obtain ⟨other, hother, hname⟩ := List.mem_map.1 hmem
      have hne := (List.mem_filter.1 hother).2
      simp [hname] at hne
    · have hrest := nodup_names_firstOfEachName rest
      exact hrest.sublist (List.filter_sublist.map _)

/-! ## The first offer of one name -/

theorem find?_keywordOffers (keywords : List String) (mark name : String) :
    (keywords.map (Offer.mk · mark)).find? (fun other => other.name == name) =
      if name ∈ keywords then some ⟨name, mark⟩ else none := by
  induction keywords with
  | nil => rfl
  | cons keyword rest ih =>
    rw [List.map_cons, List.find?_cons, ih]
    by_cases h : keyword = name
    · simp [h]
    · simp [beq_eq_false_iff_ne.2 h, Ne.symm h]

theorem find?_boundOffers (c : Completer) (names : Namespace) (name : String) :
    (c.boundOffers names).find? (fun other => other.name == name) =
      (names.get? name).map fun value => ⟨name, c.callMark value⟩ := by
  unfold boundOffers Bindings.get?
  rw [List.find?_map, Option.map_map]
  cases hfind : names.toList.find? fun e => e.1 == name with
  | none => simp [Function.comp_def, hfind]
  | some e =>
    have hname : e.1 = name := by simpa using List.find?_some hfind
    simp [Function.comp_def, hfind, hname]

/-- Keywords come first, then the value that the name resolves to. -/
theorem find?_globalOffers (c : Completer) (name : String) :
    c.globalOffers.find? (fun other => other.name == name) =
      if name ∈ c.options.keywords then some ⟨name, c.keywordMark⟩
      else (c.resolve [name]).map fun value => ⟨name, c.callMark value⟩ := by
  rw [globalOffers, List.find?_append, List.find?_append, find?_keywordOffers, find?_boundOffers,
    resolve_singleton, global?]
  split
  · rfl
  · cases c.builtins with
    | none => simp
    | some builtins =>
      simp only [Option.none_or, Option.map_some, Option.getD_some, find?_boundOffers,
        Option.bind_some, Option.map_or]

/-- The first offer of a name bears the mark of that name. -/
theorem mark_of_find?_globalOffers {c : Completer} {name : String} {offer : Offer}
    (h : c.globalOffers.find? (fun other => other.name == name) = some offer) :
    offer = ⟨name, c.globalMark name⟩ := by
  rw [find?_globalOffers] at h
  unfold globalMark
  split at h
  · next hkeyword =>
    obtain rfl := Option.some.inj h
    cases hdecorate : c.options.decorate <;> simp [keywordMark, hdecorate, hkeyword]
  · next hkeyword =>
    obtain ⟨value, hvalue, rfl⟩ := Option.map_eq_some_iff.1 h
    cases hdecorate : c.options.decorate <;>
      simp [callMark, CallableGlobal, hdecorate, hkeyword, hvalue]

/-- A single segment leads somewhere exactly if it is bound. -/
theorem isSome_resolve_singleton {c : Completer} {name : String} :
    (c.resolve [name]).isSome = true ↔ name ∈ c.globals.names ∨
      ∃ builtins, c.builtins = some builtins ∧ name ∈ builtins.names := by
  rw [resolve_singleton, global?, Option.isSome_or, Bool.or_eq_true, Bindings.mem_names_iff]
  cases c.builtins <;> simp [Bindings.mem_names_iff]

/-- A name has an offer exactly if it comes from one of the three sources. -/
theorem isSome_find?_globalOffers {c : Completer} {name : String} :
    (c.globalOffers.find? fun other => other.name == name).isSome = true ↔
      name ∈ c.options.keywords ∨ name ∈ c.globals.names ∨
        ∃ builtins, c.builtins = some builtins ∧ name ∈ builtins.names := by
  rw [find?_globalOffers, ← isSome_resolve_singleton]
  split
  · next hkeyword => simp [hkeyword]
  · next hkeyword => simp [hkeyword]

/-! ## Candidates as names -/

/-- The offers that remain, one a name. -/
def remainingOffers (c : Completer) (typed : String) : List Offer :=
  firstOfEachName <| c.globalOffers.filter fun offer =>
    continuesText typed offer.name && isIdentifier offer.name

/-- An offer remains if its name can be typed and it is the first one of its name. -/
theorem mem_remainingOffers {c : Completer} {typed : String} {offer : Offer} :
    offer ∈ c.remainingOffers typed ↔
      (offer.name ∈ startingWith typed ∧ isIdentifier offer.name = true) ∧
        c.globalOffers.find? (fun other => other.name == offer.name) = some offer := by
  unfold remainingOffers
  rw [mem_firstOfEachName, List.find?_filter]
  by_cases hname : continuesText typed offer.name = true ∧ isIdentifier offer.name = true
  · have hpred : (fun other : Offer => decide ((continuesText typed other.name &&
        isIdentifier other.name) = true ∧ (other.name == offer.name) = true)) =
        fun other => other.name == offer.name := by
      funext other
      by_cases h : other.name = offer.name
      · simp [h, hname.1, hname.2]
      · simp [h]
    rw [hpred]
    exact ⟨fun h => ⟨⟨continuesText_iff.1 hname.1, hname.2⟩, h⟩, And.right⟩
  · constructor
    · intro h
      have hfirst := List.find?_some h
      simp only [decide_eq_true_iff, Bool.and_eq_true] at hfirst
      exact absurd hfirst.1 hname
    · rintro ⟨⟨hstart, hident⟩, _⟩
      exact absurd ⟨continuesText_iff.2 hstart, hident⟩ hname

/-- The names that remain are those that can be offered. -/
theorem mem_names_remainingOffers {c : Completer} {typed n : String} :
    n ∈ (c.remainingOffers typed).map Offer.name ↔ n ∈ c.globalNames typed := by
  rw [List.mem_map]
  constructor
  · rintro ⟨offer, hoffer, rfl⟩
    obtain ⟨⟨hstart, hident⟩, hfind⟩ := mem_remainingOffers.1 hoffer
    refine ⟨hident, hstart, isSome_find?_globalOffers.1 ?_⟩
    rw [hfind]
    rfl
  · rintro ⟨hident, hstart, hsource⟩
    obtain ⟨offer, hfind⟩ := Option.isSome_iff_exists.1 (isSome_find?_globalOffers.2 hsource)
    have hname : offer.name = n := by rw [mark_of_find?_globalOffers hfind]
    refine ⟨offer, mem_remainingOffers.2 ?_, hname⟩
    rw [hname]
    exact ⟨⟨hstart, hident⟩, hfind⟩

/-- The remaining offers as they are shown: every name with its mark. -/
theorem map_text_remainingOffers (c : Completer) (typed : String) :
    (c.remainingOffers typed).map Offer.text =
      ((c.remainingOffers typed).map Offer.name).map fun n => "" ++ n ++ c.globalMark n := by
  rw [List.map_map]
  refine List.map_congr_left fun offer hoffer => ?_
  have hmark := mark_of_find?_globalOffers (mem_remainingOffers.1 hoffer).2
  rw [Function.comp_apply, String.empty_append, Offer.text]
  rw [hmark]

theorem isMark_globalMark (c : Completer) (n : String) : IsMark (c.globalMark n) := by
  unfold globalMark
  split_ifs
  · exact isMark_empty
  · exact isMark_blank
  · exact isMark_parenthesis
  · exact isMark_empty

/-- The global names that are shown, in order. -/
def shownGlobals (c : Completer) (typed : String) : List String :=
  inOrder ((c.remainingOffers typed).map Offer.name)

theorem mem_shownGlobals {c : Completer} {typed n : String} :
    n ∈ c.shownGlobals typed ↔ n ∈ c.globalNames typed := by
  rw [shownGlobals, mem_inOrder, mem_names_remainingOffers]

theorem isWord_of_mem_shownGlobals {c : Completer} {typed n : String}
    (h : n ∈ c.shownGlobals typed) : isWord n.toList = true :=
  isWord_of_isIdentifier (mem_shownGlobals.1 h).1

theorem pairwise_shownGlobals (c : Completer) (typed : String) :
    (c.shownGlobals typed).Pairwise (· < ·) :=
  pairwise_inOrder (nodup_names_firstOfEachName _)

/-- The candidates for global names are the names that can be offered, in their order. -/
theorem globalMatches_eq (c : Completer) (typed : String) :
    c.globalMatches typed = (c.shownGlobals typed).map fun n => "" ++ n ++ c.globalMark n := by
  have hword : ∀ n ∈ (c.remainingOffers typed).map Offer.name, isWord n.toList = true :=
    fun _ hn => isWord_of_mem_shownGlobals (mem_inOrder.2 hn)
  show inOrder ((c.remainingOffers typed).map Offer.text) = _
  rw [map_text_remainingOffers, inOrder_marked hword fun n _ => c.isMark_globalMark n]
  rfl

/-- A candidate for a global name is one of the names that can be offered, with its mark. -/
theorem mem_globalMatches {c : Completer} {typed candidate : String} :
    candidate ∈ c.globalMatches typed ↔
      ∃ n ∈ c.globalNames typed, candidate = n ++ c.globalMark n := by
  rw [globalMatches_eq, List.mem_map]
  constructor
  · rintro ⟨n, hn, rfl⟩
    exact ⟨n, mem_shownGlobals.1 hn, by rw [String.empty_append]⟩
  · rintro ⟨n, hn, rfl⟩
    exact ⟨n, mem_shownGlobals.2 hn, by rw [String.empty_append]⟩

/-- A word with its mark is a candidate exactly if it can be offered. -/
theorem marked_mem_globalMatches_iff {c : Completer} {typed n : String}
    (hword : isWord n.toList = true) :
    n ++ c.globalMark n ∈ c.globalMatches typed ↔ n ∈ c.globalNames typed := by
  rw [mem_globalMatches]
  constructor
  · rintro ⟨other, hother, heq⟩
    have hother' : isWord other.toList = true := isWord_of_isIdentifier hother.1
    obtain rfl := eq_of_append_mark_eq hword hother' (c.isMark_globalMark n)
      (c.isMark_globalMark other) heq
    exact hother
  · exact fun hn => ⟨n, hn, rfl⟩

/-! ## The main result -/

/-- Every request without a dot is answered by exactly the global names that can be offered, and it
does not matter whether private members are shown. -/
theorem complete_lists_globals (c : Completer) {text : String} (h : '.' ∉ text.toList) :
    c.ListsGlobals text (c.complete text) ∧
      ∀ on : Bool,
        ({ c with options := c.options.privateMembers on } : Completer).complete text =
          c.complete text := by
  have hparse : Fragment.parse text = .global text := Fragment.parse_of_dot_not_mem h
  have hcomplete : ∀ d : Completer, d.complete text = d.globalMatches text := by
    intro d
    rw [complete, hparse]
  refine ⟨?_, fun on => ?_⟩
  · rw [hcomplete, globalMatches_eq]
    have hnames := c.pairwise_shownGlobals text
    have hword : ∀ n ∈ c.shownGlobals text, isWord n.toList = true := fun _ hn =>
      isWord_of_mem_shownGlobals hn
    constructor
    case ascending =>
      exact byteAscending_iff.2 (pairwise_marked hnames hword fun n _ => c.isMark_globalMark n)
    case exact =>
      refine ⟨c.shownGlobals text, byteAscending_iff.2 hnames, fun n => mem_shownGlobals, ?_⟩
      simp only [String.empty_append]
  · rw [hcomplete, hcomplete]
    rfl

/-- Global names of which one is a keyword too and one hides a builtin that can be called. -/
def shadowing : Completer where
  store := .empty
  globals := .ofList [("print", .null), ("plot", .function (.variadic "plot")),
    ("pass", .function (.variadic "pass"))]
  builtins := some (.ofList [("print", .function (.variadic "print")),
    ("put", .function (.variadic "put"))])
  options := { keywords := ["pass", "2p", "pass"], decorate := true }

/-- Every name is offered once: `pass` as a keyword, `print` as the value that cannot be called. -/
theorem shadowing_lists_globals :
    '.' ∉ "p".toList ∧ shadowing.ListsGlobals "p" ["pass ", "plot(", "print", "put("] := by
  have hdot : '.' ∉ "p".toList := by decide +kernel
  have hanswer : shadowing.complete "p" = inOrder ["pass ", "plot(", "print", "put("] := by rfl
  have hsorted : inOrder ["pass ", "plot(", "print", "put("] =
      ["pass ", "plot(", "print", "put("] :=
    List.mergeSort_of_pairwise (by decide +kernel)
  refine ⟨hdot, ?_⟩
  rw [← hsorted, ← hanswer]
  exact (complete_lists_globals shadowing hdot).1

end NameCompletion.Completer
