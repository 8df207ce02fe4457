import NameCompletion.Proofs.Json.Numeral
import NameCompletion.Proofs.Snapshot.Contents
import NameCompletion.Proofs.Value.Structure

/-!
# Snapshots that were loaded separately

Every value that is loaded is built in new cells, so two values that were loaded one after the other
share none.

* `Built.madeBetween`, `apart_of_built`: what was built in new cells is apart from what was there
  before.
* `sameTree_of_built`: what was built of one description has the same structure, unless there is a
  NaN in it.
* `equal_iff_of_built`, `equal_iff_of_loaded_twice`: so values that were built separately are equal
  exactly if they have the same structure and contain no module and no instance, and a document that
  is loaded twice gives equal values exactly if it describes neither.
* `separately_loaded_equal_iff` puts this together for two documents.
-/

namespace NameCompletion

/-! ## New cells -/

/-- The cell is one of those that were made since. -/
def Cells.MadeBetween {kind : CellKind} {α : Type} (old made : Cells kind α) (r : Ref kind) :
    Prop :=
  old.size ≤ r.index ∧ r.index < made.size

/-- The cells that the value itself refers to were made since. -/
def Value.MadeBetween (old made : Store) : Value → Prop
  | vector r => old.vectors.MadeBetween made.vectors r
  | record r => old.scopes.MadeBetween made.scopes r
  | module m => old.scopes.MadeBetween made.scopes m.scope
  | classObject c => old.classes.cells.MadeBetween made.classes.cells c
  | instanceObject i =>
    old.classes.cells.MadeBetween made.classes.cells i.classRef ∧
      old.scopes.MadeBetween made.scopes i.fields
  | hostObject _ => False
  | _ => True

theorem Value.MadeBetween.exists {old made : Store} {v : Value} (h : v.MadeBetween old made) :
    v.Exists made := by
  cases v with
  | vector r => exact exists_of_cell rfl h.2 nofun
  | record r => exact exists_of_cell rfl h.2 nofun
  | module m => exact exists_of_cell rfl h.2 nofun
  | classObject c => exact exists_of_cell rfl h.2 nofun
  | instanceObject i =>
    refine exists_of_cell rfl h.2.2 fun _ hi => ?_
    cases hi
    exact h.1.2
  | hostObject object => exact h.elim
  | null | boolean | number | text | function => exact exists_plain rfl

section

variable {start t u now made : Store} {v w : Value} {d e : Description}

theorem Cells.Keeps.madeBetween {kind : CellKind} {α : Type} {start old made now a : Cells kind α}
    (hkeeps : old.Keeps made now) (hstart : start.Extends old) (ha : old.Extends a) {x : α}
    (hx : (a.alloc x).Extends made) : start.MadeBetween now a.fresh :=
  ⟨(hstart.trans ha).size_le, index_lt_of_read? (hkeeps.read?_fresh ha hx)⟩

theorem BuiltClass.madeBetween {r : ClassRef} {c : ClassDescription}
    (h : BuiltClass start now r c) : start.classes.cells.MadeBetween now.classes.cells r := by
  obtain ⟨t, made, hstart, hbuild, hkeeps⟩ := h
  obtain ⟨name, members, bases⟩ := c
  have hmembers := Description.extends_buildPairs t members
  have hbases := Description.extends_buildClasses (Description.buildPairs t members).2 bases
  cases hbuild
  exact hkeeps.classes.madeBetween hstart.classes (hmembers.trans hbases).classes (.refl _)

/-- A value that was built refers to new cells only. -/
theorem Built.madeBetween (h : Built start now v d) : v.MadeBetween start now := by
  obtain ⟨t, made, hstart, hbuild, hkeeps⟩ := h
  cases d with
  | null | boolean | number | text | function =>
    cases hbuild
    trivial
  | vector items =>
    have hitems := Description.extends_buildList t items
    cases hbuild
    exact hkeeps.vectors.madeBetween hstart.vectors hitems.vectors (.refl _)
  | record fields =>
    have hfields := Description.extends_buildPairs t fields
    cases hbuild
    exact hkeeps.scopes.madeBetween hstart.scopes hfields.scopes (.refl _)
  | module name members =>
    have hmembers := Description.extends_buildPairs t members
    cases hbuild
    exact hkeeps.scopes.madeBetween hstart.scopes hmembers.scopes (.refl _)
  | classObject c =>
    cases hbuild
    exact BuiltClass.madeBetween ⟨t, _, hstart, rfl, hkeeps⟩
  | instanceObject c fields =>
    have hclass := Description.extends_buildClass t c
    have hfields := Description.extends_buildPairs (Description.buildClass t c).2 fields
    have hscope := Store.extends_newScope
      (Description.buildPairs (Description.buildClass t c).2 fields).2
    cases hbuild
    refine ⟨BuiltClass.madeBetween ⟨t, _, hstart, rfl, ?_⟩, ?_⟩
    · exact hkeeps.inside (.refl t) (hfields.trans (hscope _))
    · exact hkeeps.scopes.madeBetween hstart.scopes (hclass.trans hfields).scopes (.refl _)

theorem Built.extends (h : Built start t v d) (ht : t.Extends now) : Built start now v d := by
  obtain ⟨old, made, hstart, hbuild, hkeeps⟩ := h
  exact ⟨old, made, hstart, hbuild, hkeeps.extends ht⟩

/-- All that is in a value that was built refers to new cells only, whatever is made later. -/
theorem Built.madeBetween_of_contains (h : Built start t v d) (ht : t.Extends now)
    (hw : v.Contains now w) : w.MadeBetween start t := by
  have hparts : ∀ x f, Built start t x f →
      List.Forall₂ (Built start t) (x.parts now) f.parts := by
    intro x f hx
    rw [Value.parts_eq_of_exists hx.madeBetween.exists ht]
    exact hx.parts
  obtain ⟨f, _, hbuilt⟩ := exists_of_reaches hparts h hw
  exact hbuilt.madeBetween

/-- A cell is not made twice. -/
theorem Cells.not_madeBetween {kind : CellKind} {α : Type} {old t u now : Cells kind α}
    {r : Ref kind} (h : old.MadeBetween t r) (htu : t.Extends u) : ¬ u.MadeBetween now r :=
  fun h' => Nat.not_lt.2 (Nat.le_trans htu.size_le h'.1) h.2

/-- Values that were built one after the other share no cells. -/
theorem apart_of_built (hv : Built start t v d) (htu : t.Extends u) (hunow : u.Extends now)
    (hw : Built u now w e) : Value.Apart now v w := by
  intro x hvx hwx
  have hold := hv.madeBetween_of_contains (htu.trans hunow) hvx
  have hnew := hw.madeBetween_of_contains (.refl now) hwx
  cases x with
  | vector r => exact Cells.not_madeBetween hold htu.vectors hnew
  | record r => exact Cells.not_madeBetween hold htu.scopes hnew
  | module m => exact Cells.not_madeBetween hold htu.scopes hnew
  | classObject c => exact Cells.not_madeBetween hold htu.classes hnew
  | instanceObject i => exact Cells.not_madeBetween hold.1 htu.classes hnew.1
  | hostObject h => exact hold
  | _ => trivial

/-! ## Values of one description -/

theorem BuiltNames.names_eq {names : Namespace} {members : List (String × Description)}
    (h : BuiltNames start now names members) : names.names = (Bindings.ofList members).names :=
  Bindings.names_eq_of_forall₂ h

/-- The roots of values that were built of one description agree. -/
theorem sameRoot_of_built (hv : Built start now v d) (hw : Built u now w d)
    (hnumber : ∀ x, d = .number x → (x == x) = true) : Value.SameRoot now v w := by
  cases hv.shows with
  | null =>
    cases hw.shows
    exact .null
  | boolean x =>
    cases hw.shows
    exact .boolean x
  | number x =>
    cases hw.shows
    exact .number (hnumber x rfl)
  | text x =>
    cases hw.shows
    exact .text x
  | function f =>
    cases hw.shows
    exact .function f
  | vector x items =>
    cases hw.shows
    exact .vector _ _
  | record hfields =>
    cases hw.shows with
    | record hfields' => exact .record (hfields.names_eq.trans hfields'.names_eq.symm)
  | @module m members hmembers =>
    generalize hname : m.name = name at hw
    cases hw.shows with
    | module hmembers' => exact .module hname (hmembers.names_eq.trans hmembers'.names_eq.symm)
  | @classObject r c hclass =>
    obtain ⟨name, members, bases⟩ := c
    cases hw.shows with
    | classObject hclass' =>
      refine .classObject (hclass.shows.name.trans hclass'.shows.name.symm) ?_
      exact hclass.shows.members.names_eq.trans hclass'.shows.members.names_eq.symm
  | instanceObject hclass hfields =>
    cases hw.shows with
    | instanceObject _ hfields' =>
      exact .instanceObject (hfields.names_eq.trans hfields'.names_eq.symm)

/-- Values that were built of one description have the same structure, unless there is a number in
it that differs from itself. -/
theorem sameTree_of_built (d : Description) : ∀ {v w : Value}, Built start now v d →
    Built u now w d → (∀ x, d.Contains (.number x) → (x == x) = true) →
      Value.SameTree now v w := by
  induction d.founded with
  | intro d _ ih =>
    intro v w hv hw hnumber
    refine .intro (sameRoot_of_built hv hw fun x hx => hnumber x (hx ▸ .refl _ _)) ?_
    refine forall₂_join hv.parts hw.parts fun x y f hf hx hy => ih f hf hx hy fun z hz => ?_
    exact hnumber z (.of_part hf hz)

/-! ## Values with an identity -/

/-- Of what can be built only modules and instances are equal to nothing but themselves. -/
theorem Built.not_hasIdentity_iff (h : Built start now v d) :
    ¬ v.HasIdentity ↔ v.tag? ≠ some .moduleTag ∧ v.tag? ≠ some .instanceTag := by
  cases h.shows <;> simp [Value.HasIdentity, Value.tag?]

theorem Built.forall_not_hasIdentity_iff (h : Built start now v d) :
    (∀ x, v.Contains now x → ¬ x.HasIdentity) ↔
      ∀ x, v.Contains now x → x.tag? ≠ some .moduleTag ∧ x.tag? ≠ some .instanceTag := by
  refine forall_congr' fun x => imp_congr_right fun hx => ?_
  obtain ⟨f, _, hbuilt⟩ := h.exists_description hx
  exact hbuilt.not_hasIdentity_iff

/-- Values that were built one after the other are equal exactly if they have the same structure and
there is neither a module nor an instance in it. -/
theorem equal_iff_of_built (hv : Built start t v d) (htu : t.Extends u) (hunow : u.Extends now)
    (hw : Built u now w e) :
    Value.equal now v w = some true ↔ Value.SameTree now v w ∧
      ∀ x, v.Contains now x → x.tag? ≠ some .moduleTag ∧ x.tag? ≠ some .instanceTag := by
  have hbuilt := hv.extends (htu.trans hunow)
  rw [Value.equal_iff_sameTree hbuilt.founded (apart_of_built hv htu hunow hw),
    hbuilt.forall_not_hasIdentity_iff]

end

namespace Snapshot

variable {s t u now : Store} {a b : Json} {v w : Value}

/-- Loaded values stay what they are when more is made. -/
theorem Loaded.extends {c : Check} {vs : List Value} (h : Loaded s t c vs) (ht : t.Extends now) :
    Loaded s now c vs := by
  obtain ⟨ds, hread, hbuilt⟩ := h
  exact ⟨ds, hread, hbuilt.imp fun _ _ hv => hv.extends ht⟩

/-- A value has nothing with an identity in it if its document describes neither a module nor an
instance. -/
theorem Loaded.forall_tag?_ne_iff {c : Check} (h : Loaded s now c [v]) :
    (∀ x, v.Contains now x → x.tag? ≠ some .moduleTag ∧ x.tag? ≠ some .instanceTag) ↔
      ∀ j, .body .moduleTag j ∉ c.visits ∧ .body .instanceTag j ∉ c.visits := by
  have habsent : ∀ tag, (∀ x, v.Contains now x → x.tag? ≠ some tag) ↔
      ∀ j, .body tag j ∉ c.visits := by
    intro tag
    have hpresent : (∃ v' ∈ [v], ∃ x, v'.Contains now x ∧ x.tag? = some tag) ↔
        ∃ j, .body tag j ∈ c.visits :=
      h.contains_tag_iff
    simpa only [List.mem_singleton, exists_eq_left, not_exists, not_and] using not_congr hpresent
  simp only [forall_and, habsent]

/-- No number that is looked at in a document without NaN is NaN. -/
theorem not_isNaN_of_mem_visits {n : Json.Number} (ha : a.NaNFree)
    (hn : .value (.number n) ∈ (Check.value a).visits) : ¬ n.IsNaN := by
  have hvalue : ∀ j ∈ (Check.value a).subject?, j.NaNFree := by
    rintro _ ⟨⟩
    exact ha
  exact Json.NaNFree.number_iff.1 (Check.forall_subject?_visits
    (fun _ => Json.NaNFree.array_iff.1) (fun _ => Json.NaNFree.object_iff.1) hvalue hn _ rfl)

/-- The numbers of a description are those of its document. -/
theorem beq_self_of_contains {d : Description} (hread : readValue a = .ok d) (ha : a.NaNFree)
    {x : Float} (hx : d.Contains (.number x)) : (x == x) = true := by
  obtain ⟨n, hn, hyields⟩ := (Check.contains_iff_yields (Check.read_value_of_reads hread) _).1
    ⟨d, List.mem_singleton_self d, hx⟩
  obtain ⟨number, rfl, rfl⟩ := hyields.exists_number
  exact Json.Number.toFloat_beq_self (not_isNaN_of_mem_visits ha hn)

/-- Two values that were loaded from one document are equal exactly if it describes neither modules
nor instances. -/
theorem equal_iff_of_loaded_twice (ha : a.NaNFree) (hv : loadValue s a = .ok (v, t))
    (htu : t.Extends u) (hw : loadValue u a = .ok (w, now)) :
    Value.equal now v w = some true ↔
      ∀ j, .body .moduleTag j ∉ (Check.value a).visits ∧
        .body .instanceTag j ∉ (Check.value a).visits := by
  obtain ⟨d, hread, hold⟩ := exists_built_of_loadValue hv
  obtain ⟨e, hread', hnew⟩ := exists_built_of_loadValue hw
  cases hread.symm.trans hread'
  have hunow := extends_loadValue hw
  have hbuilt := hold.extends (htu.trans hunow)
  have hsame := sameTree_of_built d hbuilt hnew fun _ => beq_self_of_contains hread ha
  rw [equal_iff_of_built hold htu hunow hnew, and_iff_right hsame]
  exact ((loaded_of_loadValue hv).extends (htu.trans hunow)).forall_tag?_ne_iff

/-- There is no NaN in a text, so that is so for every text. -/
theorem equal_iff_of_text_loaded_twice {text : String} (htext : Json.parse? text = some a)
    (hv : loadValue s a = .ok (v, t)) (htu : t.Extends u) (hw : loadValue u a = .ok (w, now)) :
    Value.equal now v w = some true ↔
      ∀ j, .body .moduleTag j ∉ (Check.value a).visits ∧
        .body .instanceTag j ∉ (Check.value a).visits :=
  equal_iff_of_loaded_twice (Json.naNFree_of_parse? htext) hv htu hw

/-- Values that were loaded separately can be compared; they are equal exactly if they have the same
structure and contain neither modules nor instances; and those of one document are equal exactly if
it describes neither. -/
theorem separately_loaded_equal_iff (hv : loadValue s a = .ok (v, t)) (htu : t.Extends u)
    (hw : loadValue u b = .ok (w, now)) :
    (∃ r, Value.equal now v w = some r) ∧
    (Value.equal now v w = some true ↔ Value.SameTree now v w ∧
      ∀ x, v.Contains now x ∨ w.Contains now x →
        x.tag? ≠ some .moduleTag ∧ x.tag? ≠ some .instanceTag) ∧
    (a = b → a.NaNFree →
      (Value.equal now v w = some true ↔
        ∀ j, .body .moduleTag j ∉ (Check.value a).visits ∧
          .body .instanceTag j ∉ (Check.value a).visits)) := by
  obtain ⟨d, _, hold⟩ := exists_built_of_loadValue hv
  obtain ⟨e, _, hnew⟩ := exists_built_of_loadValue hw
  have hunow := extends_loadValue hw
  have hbuilt := hold.extends (htu.trans hunow)
  refine ⟨Value.exists_equal_of_founded hbuilt.founded w, ?_, fun hab ha => ?_⟩
  · rw [equal_iff_of_built hold htu hunow hnew]
    refine and_congr_right fun hsame => ?_
    constructor
    · intro htags x hx
      have hv := hbuilt.forall_not_hasIdentity_iff.2 htags
      have hw := hnew.forall_not_hasIdentity_iff.1 (hsame.not_hasIdentity hv)
      exact hx.elim (htags x) (hw x)
    · intro htags x hx
      exact htags x (.inl hx)
  · subst hab
    exact equal_iff_of_loaded_twice ha hv htu hw

/-! ## Zeros, and an instance -/

/-- The body of a class with a number and a vector as members. -/
def originBody (zero : Json.Number) : Json :=
  .object [("name", .text "Origin"),
    ("members", .object [("x", .number zero), ("tags", .array [.text "a"])])]

def originClass (zero : Json.Number) : Json :=
  .object [("$class", originBody zero)]

/-- What it stands for. -/
def origin (zero : Float) : Description :=
  .classObject (.mk "Origin" [("tags", .vector [.text "a"]), ("x", .number zero)] [])

theorem entries_origin (zero : Json.Number) :
    (Json.entries [("x", .number zero), ("tags", .array [.text "a"])]).toList =
      [("tags", .array [.text "a"]), ("x", .number zero)] := by
  show Bindings.insertEntry "tags" (Json.array [.text "a"]) [("x", .number zero)] = _
  rw [Bindings.insertEntry, if_pos (by decide : "tags" < "x")]

theorem reads_originClass (zero : Json.Number) :
    Reads (originClass zero) (origin zero.toFloat) := by
  have htags : Reads (.array [.text "a"]) (.vector [.text "a"]) := by
    rw [Reads, readValue_array, List.mapM_cons, reads_text]
    rfl
  have hmembers : readMembers [("x", .number zero), ("tags", .array [.text "a"])] =
      .ok [("tags", .vector [.text "a"]), ("x", .number zero.toFloat)] := by
    rw [readMembers_eq_ok_iff, entries_origin]
    exact .cons ⟨rfl, htags⟩ (.cons ⟨rfl, reads_number zero⟩ .nil)
  have hbody : readClass (originBody zero) =
      .ok (.mk "Origin" [("tags", .vector [.text "a"]), ("x", .number zero.toFloat)] []) := by
    simp [originBody, readClass, requiredName, readField_eq, readBases_eq, Json.get?_entries,
      hmembers, bind, Except.bind]
  rw [Reads, originClass, readObject_eq]
  show readTagged .classTag (originBody zero) = _
  rw [readTagged, hbody]
  rfl

theorem loadValue_originClass (s : Store) (zero : Json.Number) :
    loadValue s (originClass zero) = .ok (Description.build s (origin zero.toFloat)) := by
  rw [loadValue, reads_originClass]
  rfl

/-- All that is looked at in that class. -/
theorem visits_originClass (zero : Json.Number) :
    (Check.value (originClass zero)).visits =
      [.value (originClass zero), .body .classTag (originBody zero),
        .name .classTag (some (.text "Origin")),
        .field .classTag "members"
          (some (.object [("x", .number zero), ("tags", .array [.text "a"])])),
        .value (.array [.text "a"]), .value (.text "a"), .value (.number zero), .bases none] := by
  simp [originClass, originBody, Check.visits_eq, Check.next, Check.fields, Check.entries, tagged?,
    soleMember?, Json.toList_entries_singleton, Json.get?_entries, entries_origin]

/-- The stores in which a class with zero and then one with minus zero were built. -/
def oneOrigin : Store :=
  (Description.build .empty (origin (Json.Number.integer 0).toFloat)).2

def twoOrigins : Store :=
  (Description.build oneOrigin (origin (-0.0))).2

/-- Zero and minus zero do not make a difference, nor does it which cells the vectors are in. -/
theorem sameTree_origins : Value.SameTree twoOrigins (.classObject ⟨0⟩) (.classObject ⟨1⟩) := by
  have htags : Value.SameTree twoOrigins (.vector ⟨0⟩) (.vector ⟨1⟩) :=
    .intro (.vector _ _) (.cons (.intro (.text "a") .nil) .nil)
  have hzero : Value.SameTree twoOrigins (.number (Json.Number.integer 0).toFloat)
      (.number (-0.0)) :=
    .intro (.number (by decide +kernel)) .nil
  exact .intro (.classObject rfl rfl) (.cons htags (.cons hzero .nil))

theorem visits_originClass_untagged (zero : Json.Number) (j : Json) :
    .body .moduleTag j ∉ (Check.value (originClass zero)).visits ∧
      .body .instanceTag j ∉ (Check.value (originClass zero)).visits := by
  simp [visits_originClass]

theorem naNFree_originClass {zero : Json.Number} (h : ¬ zero.IsNaN) :
    (originClass zero).NaNFree := by
  simp [originClass, originBody, h]

theorem naNFree_unitCircle : unitCircle.NaNFree := by
  simp [unitCircle, circleBody, shapeBody]

theorem visits_unitCircle_instance :
    ∃ j, .body .instanceTag j ∈ (Check.value unitCircle).visits := by
  refine ⟨.object [("class", .object [("$class", circleBody)])], ?_⟩
  rw [Check.visits_eq]
  refine List.mem_cons_of_mem _ (List.mem_flatMap.2 ⟨_, List.mem_singleton_self _, ?_⟩)
  rw [Check.visits_eq]
  exact List.mem_cons_self

/-- A class with zero equals one with minus zero, a class with a number equals itself when it is
loaded again, and an instance does not. -/
theorem zeros_loaded_equal :
    (∃ v t w now, loadValue .empty (originClass (.integer 0)) = .ok (v, t) ∧
      loadValue t (originClass (.real (-0.0))) = .ok (w, now) ∧
        Value.equal now v w = some true) ∧
    (∃ v t w now, loadValue .empty (originClass (.real 0.5)) = .ok (v, t) ∧
      loadValue t (originClass (.real 0.5)) = .ok (w, now) ∧
        Value.equal now v w = some true) ∧
    ∃ v t w now, loadValue .empty unitCircle = .ok (v, t) ∧
      loadValue t unitCircle = .ok (w, now) ∧ Value.equal now v w = some false := by
  refine ⟨⟨.classObject ⟨0⟩, oneOrigin, .classObject ⟨1⟩, twoOrigins, ?_⟩, ?_, ?_⟩
  · have hv := loadValue_originClass .empty (.integer 0)
    have hw := loadValue_originClass oneOrigin (.real (-0.0))
    have hlater := extends_loadValue hw
    refine ⟨hv, hw, ?_⟩
    refine (separately_loaded_equal_iff hv (.refl _) hw).2.1.2 ⟨sameTree_origins, fun x hx => ?_⟩
    rcases hx with hx | hx
    · exact ((loaded_of_loadValue hv).extends hlater).forall_tag?_ne_iff.2
        (visits_originClass_untagged _) x hx
    · exact (loaded_of_loadValue hw).forall_tag?_ne_iff.2 (visits_originClass_untagged _) x hx
  · have hv := loadValue_originClass .empty (.real 0.5)
    have hw := loadValue_originClass (Description.build .empty (origin 0.5)).2 (.real 0.5)
    have hnumber : ¬ (Json.Number.real 0.5).IsNaN := by
      show ¬ (0.5 : Float).isNaN = true
      decide +kernel
    refine ⟨_, _, _, _, hv, hw, ?_⟩
    exact ((separately_loaded_equal_iff hv (.refl _) hw).2.2 rfl (naNFree_originClass hnumber)).2
      (visits_originClass_untagged _)
  · obtain ⟨d, hd⟩ := reads_unitCircle
    have hload : ∀ s, loadValue s unitCircle = .ok (Description.build s d) := by
      intro s
      rw [loadValue, hd]
      rfl
    have hv := hload .empty
    have hw := hload (Description.build .empty d).2
    obtain ⟨⟨r, hr⟩, _, htwice⟩ := separately_loaded_equal_iff hv (.refl _) hw
    refine ⟨_, _, _, _, hv, hw, ?_⟩
    cases r with
    | false => exact hr
    | true =>
      obtain ⟨j, hj⟩ := visits_unitCircle_instance
      exact absurd hj ((htwice rfl naNFree_unitCircle).1 hr j).2

end Snapshot

end NameCompletion
