import Mathlib.Data.Set.Basic
import NameCompletion.Proofs.Completer.Order
import NameCompletion.Proofs.Completer.Resolution
import NameCompletion.Proofs.Fragment

/-!
# Which members are offered

The candidates behind a path, said without the steps that find them.

* `offerable`: the listed names that can be typed as a member, continue what was typed, and can be
  read.
* `shown`: which of them are not hidden.  Private names are hidden unless that leaves nothing.
* `memberMark`: what stands behind a name.
* `ListsMembers`: the whole answer to a request.

`firstNonEmpty_levels` relates the hiding levels that are tried one after the other to `shown`, and
`memberMatches_eq` turns the candidates into names with something in front and a mark behind.  The
main result is `complete_lists_members`.
-/

namespace NameCompletion.Completer

open Text

/-! ## The answer -/

/-- The names that start with the text. -/
def startingWith (start : String) : Set String :=
  {name | start.toList <+: name.toList}

/-- The members of the value that can be offered at all, among the listed ones. -/
def offerable (c : Completer) (base : Value) (listed : List String) (typed : String) :
    Set String :=
  {name | name ∈ listed ∧ isIdentifier name = true ∧ name ∈ startingWith typed ∧
    ∃ found, base.member c.store name = .ok found}

/-- The first set of names, or the second one if the first is empty. -/
def orElse (first second : Set String) : Set String :=
  {name | name ∈ first ∨ first = ∅ ∧ name ∈ second}

/-- The names that are not hidden, among all that can be offered. -/
def shown (c : Completer) (typed : String) (all : Set String) : Set String :=
  if c.options.showPrivate = true ∨ typed ≠ "" ∧ typed ≠ "_" then all
  else if typed = "" then orElse (all \ startingWith "_") (orElse (all \ startingWith "__") all)
  else orElse (all \ startingWith "__") all

/-- The member is a value that can be called. -/
def CallableMember (c : Completer) (base : Value) (name : String) : Prop :=
  ∃ found, base.member c.store name = .ok (some found) ∧ found.isCallable c.store = true

instance (c : Completer) (base : Value) (name : String) :
    Decidable (c.CallableMember base name) :=
  match h : base.member c.store name with
  | .ok (some found) =>
    decidable_of_iff (found.isCallable c.store = true) (by simp [CallableMember, h])
  | .ok none => isFalse (by simp [CallableMember, h])
  | .error _ => isFalse (by simp [CallableMember, h])

/-- What stands behind the name of a member. -/
def memberMark (c : Completer) (base : Value) (name : String) : String :=
  if c.options.decorate = true ∧ c.CallableMember base name then "(" else ""

/-- The answer to a request for members: nothing if the path leads nowhere or the members cannot be
listed, else the members that are shown, in strictly ascending order of their bytes. -/
structure ListsMembers (c : Completer) (path : List String) (typed : String)
    (answer : List String) : Prop where
  nowhere : (∀ base, ¬ c.LeadsTo path base) → answer = []
  unlistable : ∀ base e, c.LeadsTo path base → base.memberNames c.store = .error e → answer = []
  listed : ∀ base listed, c.LeadsTo path base → base.memberNames c.store = .ok listed →
    ByteAscending answer ∧
      ∃ names, ByteAscending names ∧
        (∀ n, n ∈ names ↔ n ∈ c.shown typed (c.offerable base listed typed)) ∧
        answer = names.map fun n => Fragment.joinPath path ++ "." ++ n ++ c.memberMark base n

/-! ## The first level that leaves something -/

theorem firstNonEmpty_map {α β : Type} (f : α → β) :
    ∀ lists : List (List α), firstNonEmpty (lists.map (List.map f)) = (firstNonEmpty lists).map f
  | [] => rfl
  | [_] => rfl
  | xs :: ys :: rest => by
    have ih := firstNonEmpty_map f (ys :: rest)
    simp only [List.map_cons, firstNonEmpty, List.isEmpty_map] at ih ⊢
    split
    · exact ih
    · rfl

/-- One level is preferred to all that follow it. -/
theorem mem_firstNonEmpty_cons (xs ys : List String) (rest : List (List String)) :
    {n | n ∈ firstNonEmpty (xs :: ys :: rest)} =
      orElse {n | n ∈ xs} {n | n ∈ firstNonEmpty (ys :: rest)} := by
  ext n
  cases xs with
  | nil => simp [firstNonEmpty, orElse]
  | cons x xs =>
    have hne : {m | m ∈ x :: xs} ≠ (∅ : Set String) :=
      Set.nonempty_iff_ne_empty.1 ⟨x, List.mem_cons_self⟩
    show n ∈ x :: xs ↔ n ∈ x :: xs ∨ {m | m ∈ x :: xs} = ∅ ∧ n ∈ firstNonEmpty (ys :: rest)
    exact ⟨Or.inl, fun h => h.resolve_right fun hempty => hne hempty.1⟩

/-- Trying the hiding levels one after the other finds the names that are shown. -/
theorem firstNonEmpty_levels (c : Completer) (typed : String) (names : List String) :
    {n | n ∈ firstNonEmpty ((c.hidingLevels typed).map fun level =>
        names.filter fun n => !isHidden level n)} = c.shown typed {n | n ∈ names} := by
  have hall : {n | n ∈ names.filter fun n => !isHidden none n} = {n | n ∈ names} := by
    ext n
    simp [isHidden]
  have hpublic : ∀ start : String, {n | n ∈ names.filter fun n => !isHidden (some start) n} =
      {n | n ∈ names} \ startingWith start := by
    intro start
    ext n
    show n ∈ names.filter _ ↔ n ∈ names ∧ ¬ start.toList <+: n.toList
    rw [List.mem_filter, Bool.not_eq_true', Bool.eq_false_iff]
    exact and_congr_right fun _ => not_congr continuesText_iff
  unfold hidingLevels shown
  by_cases hprivate : c.options.showPrivate = true
  · rw [if_pos hprivate, if_pos (Or.inl hprivate)]
    exact hall
  · rw [if_neg hprivate]
    by_cases hempty : typed = ""
    · subst hempty
      rw [if_pos rfl, if_neg (by simp [hprivate]), if_pos rfl]
      simp only [List.map_cons, List.map_nil, mem_firstNonEmpty_cons, hpublic]
      rw [firstNonEmpty, hall]
    · by_cases hunderscore : typed = "_"
      · subst hunderscore
        rw [if_neg hempty, if_pos rfl, if_neg (by simp [hprivate]), if_neg hempty]
        simp only [List.map_cons, List.map_nil, mem_firstNonEmpty_cons, hpublic]
        rw [firstNonEmpty, hall]
      · rw [if_neg hempty, if_neg hunderscore, if_pos (Or.inr ⟨hempty, hunderscore⟩)]
        exact hall

/-! ## Candidates as names -/

/-- The names that can be offered, each listed once. -/
def offerableNames (c : Completer) (base : Value) (listed : List String) (typed : String) :
    List String :=
  (listed.eraseDups.filter fun n => isIdentifier n && continuesText typed n).filter fun n =>
    (base.member c.store n).isOk

/-- The names that are shown, in order. -/
def shownNames (c : Completer) (base : Value) (listed : List String) (typed : String) :
    List String :=
  inOrder <| firstNonEmpty <| (c.hidingLevels typed).map fun level =>
    (c.offerableNames base listed typed).filter fun n => !isHidden level n

theorem mem_offerableNames {c : Completer} {base : Value} {listed : List String}
    {typed n : String} :
    n ∈ c.offerableNames base listed typed ↔ n ∈ c.offerable base listed typed := by
  have hok : (base.member c.store n).isOk = true ↔ ∃ found, base.member c.store n = .ok found := by
    cases base.member c.store n <;> simp [Except.isOk, Except.toBool]
  simp only [offerableNames, offerable, startingWith, List.mem_filter, List.mem_eraseDups,
    Bool.and_eq_true, continuesText_iff, hok, and_assoc]
  rfl

/-- Nothing is hidden if private members are offered anyway, or once something was typed that is no
underscore. -/
theorem shown_eq_all {c : Completer} {typed : String} {all : Set String}
    (h : c.options.showPrivate = true ∨ typed ≠ "" ∧ typed ≠ "_") : c.shown typed all = all :=
  if_pos h

theorem shown_subset (c : Completer) (typed : String) (all : Set String) :
    c.shown typed all ⊆ all := by
  intro n hn
  unfold shown orElse at hn
  split_ifs at hn
  · exact hn
  · rcases hn with hn | ⟨_, hn | ⟨_, hn⟩⟩
    · exact hn.1
    · exact hn.1
    · exact hn
  · rcases hn with hn | ⟨_, hn⟩
    · exact hn.1
    · exact hn

theorem isIdentifier_of_mem_shown {c : Completer} {base : Value} {listed : List String}
    {typed n : String} (h : n ∈ c.shown typed (c.offerable base listed typed)) :
    isIdentifier n = true :=
  (shown_subset _ _ _ h).2.1

/-- A name that is typed out is not hidden. -/
theorem mem_shown_typed {c : Completer} {typed : String} {all : Set String} (hne : typed ≠ "")
    (h : typed ∈ all) : typed ∈ c.shown typed all := by
  unfold shown
  split_ifs with hall
  · exact h
  · refine .inl ⟨h, ?_⟩
    have hunderscore : typed = "_" := by
      by_contra hother
      exact hall (Or.inr ⟨hne, hother⟩)
    rw [hunderscore]
    show ¬ "__".toList <+: "_".toList
    decide +kernel

theorem mem_shownNames {c : Completer} {base : Value} {listed : List String} {typed n : String} :
    n ∈ c.shownNames base listed typed ↔ n ∈ c.shown typed (c.offerable base listed typed) := by
  have hnames : {n | n ∈ c.offerableNames base listed typed} = c.offerable base listed typed :=
    Set.ext fun _ => mem_offerableNames
  rw [shownNames, mem_inOrder, ← hnames, ← firstNonEmpty_levels]
  rfl

theorem isWord_of_mem_shownNames {c : Completer} {base : Value} {listed : List String}
    {typed n : String} (h : n ∈ c.shownNames base listed typed) : isWord n.toList = true :=
  isWord_of_isIdentifier (isIdentifier_of_mem_shown (mem_shownNames.1 h))

theorem firstNonEmpty_mem {α : Type} :
    ∀ {lists : List (List α)}, lists ≠ [] → firstNonEmpty lists ∈ lists
  | [], h => absurd rfl h
  | [_], _ => List.mem_singleton_self _
  | xs :: ys :: rest, _ => by
    unfold firstNonEmpty
    split
    · exact List.mem_cons_of_mem _ (firstNonEmpty_mem (List.cons_ne_nil _ _))
    · exact List.mem_cons_self

/-- The names that are shown ascend strictly. -/
theorem pairwise_shownNames (c : Completer) (base : Value) (listed : List String)
    (typed : String) : (c.shownNames base listed typed).Pairwise (· < ·) := by
  have hlevels : ((c.hidingLevels typed).map fun level =>
      (c.offerableNames base listed typed).filter fun n => !isHidden level n) ≠ [] := by
    unfold hidingLevels
    split_ifs <;> simp
  obtain ⟨level, _, hlevel⟩ := List.mem_map.1 (firstNonEmpty_mem hlevels)
  have honce : (c.offerableNames base listed typed).Nodup :=
    ((nodup_eraseDups listed).filter _).filter _
  rw [shownNames, ← hlevel]
  exact pairwise_inOrder (honce.filter _)

/-- The candidate for a member that can be read is its name behind the path, and a mark. -/
theorem memberCandidate?_eq (c : Completer) (path : List String) (base : Value) (n : String) :
    c.memberCandidate? path base n =
      if (base.member c.store n).isOk then
        some (Fragment.joinPath path ++ "." ++ n ++ c.memberMark base n)
      else none := by
  unfold memberCandidate?
  cases hread : base.member c.store n with
  | error e => simp [Except.isOk, Except.toBool]
  | ok found =>
    cases found with
    | none =>
      have hmark : c.memberMark base n = "" := by simp [memberMark, CallableMember, hread]
      simp [Except.isOk, Except.toBool, hmark]
    | some found =>
      have hmark : c.memberMark base n = c.callMark found := by
        simp [memberMark, callMark, CallableMember, hread]
      simp [Except.isOk, Except.toBool, hmark]

theorem filterMap_memberCandidate? (c : Completer) (path : List String) (base : Value)
    (names : List String) :
    names.filterMap (c.memberCandidate? path base) =
      (names.filter fun n => (base.member c.store n).isOk).map fun n =>
        Fragment.joinPath path ++ "." ++ n ++ c.memberMark base n := by
  induction names with
  | nil => rfl
  | cons n rest ih =>
    rw [List.filterMap_cons, memberCandidate?_eq, List.filter_cons, ih]
    split <;> simp_all

theorem isMark_memberMark (c : Completer) (base : Value) (n : String) :
    IsMark (c.memberMark base n) := by
  unfold memberMark
  split
  · exact isMark_parenthesis
  · exact isMark_empty

/-- The candidates for members are the names that are shown, in their order. -/
theorem memberMatches_eq {c : Completer} {path : List String} {base : Value}
    {listed : List String} (typed : String) (hbase : c.resolve path = some base)
    (hlisted : base.memberNames c.store = .ok listed) :
    c.memberMatches path typed =
      (c.shownNames base listed typed).map fun n =>
        Fragment.joinPath path ++ "." ++ n ++ c.memberMark base n := by
  unfold memberMatches shownNames
  simp only [hbase, hlisted]
  have hlevel : ∀ level : Option String,
      ((listed.eraseDups.filter fun n => isIdentifier n && continuesText typed n).filter
          fun n => !isHidden level n).filterMap (c.memberCandidate? path base) =
        ((c.offerableNames base listed typed).filter fun n => !isHidden level n).map fun n =>
          Fragment.joinPath path ++ "." ++ n ++ c.memberMark base n := by
    intro level
    rw [filterMap_memberCandidate?, offerableNames, List.filter_comm]
  simp only [hlevel]
  have hnames := firstNonEmpty_map (fun n =>
    Fragment.joinPath path ++ "." ++ n ++ c.memberMark base n)
    ((c.hidingLevels typed).map fun level =>
      (c.offerableNames base listed typed).filter fun n => !isHidden level n)
  rw [List.map_map, Function.comp_def] at hnames
  rw [hnames]
  refine inOrder_marked (fun n hn => ?_) fun n _ => c.isMark_memberMark base n
  exact isWord_of_mem_shownNames (mem_inOrder.2 hn)

/-- A candidate for a member is one of the names that are shown, behind the path. -/
theorem mem_memberMatches {c : Completer} {path : List String} {typed candidate : String} :
    candidate ∈ c.memberMatches path typed ↔
      ∃ base listed n, c.LeadsTo path base ∧ base.memberNames c.store = .ok listed ∧
        n ∈ c.shown typed (c.offerable base listed typed) ∧
        candidate = Fragment.joinPath path ++ "." ++ n ++ c.memberMark base n := by
  constructor
  · intro h
    cases hbase : c.resolve path with
    | none => simp [memberMatches, hbase] at h
    | some base =>
      cases hlisted : base.memberNames c.store with
      | error e => simp [memberMatches, hbase, hlisted] at h
      | ok listed =>
        rw [memberMatches_eq typed hbase hlisted] at h
        obtain ⟨n, hn, rfl⟩ := List.mem_map.1 h
        exact ⟨base, listed, n, resolve_eq_some_iff.1 hbase, hlisted, mem_shownNames.1 hn, rfl⟩
  · rintro ⟨base, listed, n, hbase, hlisted, hn, rfl⟩
    rw [memberMatches_eq typed (resolve_eq_some_iff.2 hbase) hlisted]
    exact List.mem_map.2 ⟨n, mem_shownNames.2 hn, rfl⟩

/-! ## The main result -/

/-- Every request for members is answered by exactly the members that are shown. -/
theorem complete_lists_members (c : Completer) {text typed : String} {path : List String}
    (h : Fragment.parse text = .member path typed) :
    text = Fragment.joinPath path ++ "." ++ typed ∧
      c.ListsMembers path typed (c.complete text) := by
  have hcomplete : c.complete text = c.memberMatches path typed := by rw [complete, h]
  refine ⟨(Fragment.parse_eq_member_iff.1 h).2.2.2, ?_⟩
  rw [hcomplete]
  constructor
  case nowhere =>
    intro hnowhere
    simp only [memberMatches, resolve_eq_none_iff.2 hnowhere]
  case unlistable =>
    intro base e hbase hfail
    simp only [memberMatches, resolve_eq_some_iff.2 hbase, hfail]
  case listed =>
    intro base listed hbase hlisted
    rw [memberMatches_eq typed (resolve_eq_some_iff.2 hbase) hlisted]
    have hnames := c.pairwise_shownNames base listed typed
    have hword : ∀ n ∈ c.shownNames base listed typed, isWord n.toList = true := fun _ hn =>
      isWord_of_mem_shownNames hn
    refine ⟨byteAscending_iff.2 ?_, c.shownNames base listed typed, byteAscending_iff.2 hnames,
      fun n => mem_shownNames, rfl⟩
    exact pairwise_marked hnames hword fun n _ => c.isMark_memberMark base n

/-- A host object that lists a name twice, a name that is no identifier, and a name that cannot be
read. -/
def failingHost : HostObject where
  memberNames := .ok ["ok", "_b", "__c", "_b", "2x"]
  member
    | "ok" => .error (.attributeFailed "ok" "offline")
    | "_b" => .ok (some (.function (.variadic "_b")))
    | _ => .ok none
  isCallable := false

def withFailingHost : Completer where
  store := (Store.empty.newHost failingHost).2
  globals := .ofList [("h", .hostObject (Store.empty.newHost failingHost).1)]
  options := { decorate := true }

/-- The only public member fails, so a private one is shown; a doubly private one stays hidden. -/
theorem failing_host_lists_members :
    Fragment.parse "h." = .member ["h"] "" ∧
      withFailingHost.ListsMembers ["h"] "" ["h._b("] := by
  have hparse : Fragment.parse "h." = .member ["h"] "" := by decide +kernel
  have hanswer : withFailingHost.complete "h." = ["h._b("] := by decide +kernel
  refine ⟨hparse, ?_⟩
  rw [← hanswer]
  exact (complete_lists_members withFailingHost hparse).2

end NameCompletion.Completer
