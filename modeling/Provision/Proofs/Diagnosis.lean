import Mathlib.Data.List.Induction
import Provision.Proofs.WrittenNames

/-!
What the report on a form holds. Something is wrong with a form at a place: at one of its fields, at
one of its constraints, or at a place in the form that a field holds. The report says what is wrong
at every such place, once, in the order of the places.
-/

namespace Provision

/-- The results are what holds at the places, each place once and in their order. -/
def Enumerates {ι α : Type} (before : ι → ι → Prop) (holds : ι → α → Prop) (results : List α) :
    Prop :=
  ∃ found : List (ι × α), found.map Prod.snd = results ∧
    found.Pairwise (fun left right => before left.1 right.1) ∧
    ∀ place result, (place, result) ∈ found ↔ holds place result

theorem getElem?_concat_eq_some_iff {α : Type} {items : List α} {last item : α} {index : Nat} :
    (items ++ [last])[index]? = some item ↔
      items[index]? = some item ∨ index = items.length ∧ last = item := by
  rcases Nat.lt_trichotomy index items.length with within | rfl | beyond
  · simp [List.getElem?_append_left within, Nat.ne_of_lt within]
  · simp
  · have after : index - items.length ≠ 0 := by omega
    simp [List.getElem?_append_right (Nat.le_of_lt beyond), after, Nat.ne_of_gt beyond,
      Nat.le_of_lt beyond]

namespace Enumerates

variable {ι κ α β : Type} {before : ι → ι → Prop} {holds holds' : ι → α → Prop}
  {results results' : List α}

theorem nil (nowhere : ∀ place result, ¬holds place result) : Enumerates before holds [] :=
  ⟨[], rfl, .nil, fun place result => by simp [nowhere]⟩

theorem singleton (place : ι) {result : α}
    (only : ∀ other found, holds other found ↔ other = place ∧ found = result) :
    Enumerates before holds [result] :=
  ⟨[(place, result)], rfl, List.pairwise_singleton _ _, fun other found => by simp [only]⟩

theorem congr (enumerates : Enumerates before holds results)
    (same : ∀ place result, holds place result ↔ holds' place result) :
    Enumerates before holds' results := by
  obtain ⟨found, listed, ordered, exact⟩ := enumerates
  exact ⟨found, listed, ordered, fun place result => (exact place result).trans (same place result)⟩

theorem append (first : Enumerates before holds results)
    (second : Enumerates before holds' results')
    (apart : ∀ {place result place' result'}, holds place result → holds' place' result' →
      before place place') :
    Enumerates before (fun place result => holds place result ∨ holds' place result)
      (results ++ results') := by
  obtain ⟨found, listed, ordered, exact⟩ := first
  obtain ⟨found', listed', ordered', exact'⟩ := second
  refine ⟨found ++ found', by rw [List.map_append, listed, listed'], ?_, fun place result => ?_⟩
  · refine List.pairwise_append.mpr ⟨ordered, ordered', fun left early right late => ?_⟩
    exact apart ((exact _ _).mp early) ((exact' _ _).mp late)
  · rw [List.mem_append, exact, exact']

theorem map (before' : κ → κ → Prop) (enumerates : Enumerates before holds results)
    (rename : ι → κ)
    (keeps : ∀ {left right}, before left right → before' (rename left) (rename right)) :
    Enumerates before' (fun place result => ∃ old, rename old = place ∧ holds old result)
      results := by
  obtain ⟨found, listed, ordered, exact⟩ := enumerates
  refine ⟨found.map fun entry => (rename entry.1, entry.2), ?_, ?_, fun place result => ?_⟩
  · rw [List.map_map]
    exact listed
  · exact List.pairwise_map.mpr (ordered.imp keeps)
  · constructor
    · intro member
      obtain ⟨⟨old, kept⟩, among, same⟩ := List.mem_map.mp member
      obtain ⟨rfl, rfl⟩ := Prod.mk.inj same
      exact ⟨old, rfl, (exact old kept).mp among⟩
    · rintro ⟨old, rfl, held⟩
      exact List.mem_map.mpr ⟨(old, result), (exact old result).mpr held, rfl⟩

theorem flatMap (items : List β) {each : β → List α} {gives : β → ι → α → Prop}
    (enumerates : ∀ item ∈ items, Enumerates before (gives item) (each item)) :
    Enumerates (fun left right => left.1 < right.1 ∨ left.1 = right.1 ∧ before left.2 right.2)
      (fun (place : Nat × ι) result => ∃ item, items[place.1]? = some item ∧
        gives item place.2 result)
      (items.flatMap each) := by
  -- The last item is split off, so that the others keep their indices.
  induction items using List.reverseRecOn with
  | nil => exact nil (by simp)
  | append_singleton items last ih =>
      have earlier := ih fun item member => enumerates item (List.mem_append_left _ member)
      have latest := (enumerates last (by simp)).map
        (fun left right => left.1 < right.1 ∨ left.1 = right.1 ∧ before left.2 right.2)
        (fun place => (items.length, place)) fun follows => .inr ⟨rfl, follows⟩
      rw [List.flatMap_append, List.flatMap_singleton]
      refine (earlier.append latest ?_).congr fun place result => ?_
      · rintro ⟨index, place⟩ result _ _ ⟨item, found, -⟩ ⟨old, rfl, -⟩
        exact .inl (List.getElem?_eq_some_iff.mp found).1
      · constructor
        · rintro (⟨item, found, gives⟩ | ⟨old, rfl, gives⟩)
          · exact ⟨item, getElem?_concat_eq_some_iff.mpr (.inl found), gives⟩
          · exact ⟨last, getElem?_concat_eq_some_iff.mpr (.inr ⟨rfl, rfl⟩), gives⟩
        · rintro ⟨item, found, gives⟩
          rcases getElem?_concat_eq_some_iff.mp found with within | ⟨atEnd, rfl⟩
          · exact .inl ⟨item, within, gives⟩
          · exact .inr ⟨place.2, Prod.ext atEnd.symm rfl, gives⟩

theorem filterMap (items : List β) (choose : β → Option α) :
    Enumerates (· < ·) (fun (index : Nat) result => ∃ item, items[index]? = some item ∧
      choose item = some result) (items.filterMap choose) := by
  have each : ∀ item ∈ items,
      Enumerates (fun _ _ : Unit => False) (fun _ result => choose item = some result)
        (choose item).toList := by
    intro item _
    cases choose item with
    | none => exact nil (by simp)
    | some result => exact singleton () (by simp [eq_comm])
  rw [List.filterMap_eq_flatMap_toList]
  refine ((flatMap items each).map (· < ·) Prod.fst ?_).congr fun index result => ?_
  · rintro ⟨_, _⟩ ⟨_, _⟩ (earlier | ⟨_, none⟩)
    · exact earlier
    · exact none.elim
  · exact ⟨fun ⟨place, same, found⟩ => same ▸ found, fun found => ⟨(index, ()), rfl, found⟩⟩

theorem length_eq_one_iff (enumerates : Enumerates before holds results)
    (irrefl : ∀ place, ¬before place place) :
    results.length = 1 ↔ ∃! place, ∃ result, holds place result := by
  obtain ⟨found, rfl, ordered, exact⟩ := enumerates
  rw [List.length_map]
  cases found with
  | nil =>
      refine iff_of_false (by simp) ?_
      rintro ⟨place, ⟨result, held⟩, -⟩
      exact absurd ((exact place result).mpr held) List.not_mem_nil
  | cons first rest =>
      cases rest with
      | nil =>
          refine iff_of_true rfl ⟨first.1, ⟨first.2, (exact _ _).mp List.mem_cons_self⟩, ?_⟩
          rintro place ⟨result, held⟩
          exact congrArg Prod.fst (List.mem_singleton.mp ((exact place result).mpr held))
      | cons second others =>
          refine iff_of_false (by simp) ?_
          rintro ⟨place, -, unique⟩
          have early := unique first.1 ⟨first.2, (exact _ _).mp List.mem_cons_self⟩
          have late := unique second.1 ⟨second.2, (exact _ _).mp (by simp)⟩
          have follows := (List.pairwise_cons.mp ordered).1 second List.mem_cons_self
          rw [early, late] at follows
          exact irrefl place follows

end Enumerates

namespace Statement

inductive Place where
  | field (index : Nat)
  | constraint (index : Nat)
  | inside (index : Nat) (place : Place)

/-- The fields come first, in their order, then the constraints, and then what is inside the forms
that the fields hold. -/
def Place.Before : Place → Place → Prop
  | field left, field right => left < right
  | constraint left, constraint right => left < right
  | inside left place, inside right place' => left < right ∨ left = right ∧ place.Before place'
  | field _, constraint _ => True
  | field _, inside _ _ => True
  | constraint _, inside _ _ => True
  | _, _ => False

theorem Place.Before.irrefl (place : Place) : ¬place.Before place := by
  induction place with
  | field | constraint => simp [Before]
  | inside index place ih => simp [Before, ih]

inductive Arg.Zero : Arg → Prop
  | unset : Zero unset
  | int : Zero (int 0)
  | text : Zero (text "")
  | list : Zero (list [])
  | ident {id : Identifier} (nameless : id.name = "") : Zero (ident id)

inductive Field.Violates (owner : String) (field : Field) : Violation → Prop
  | invalid {id : Identifier} (holds : field.arg = .ident id) (invalid : ¬id.isValid) :
      Violates owner field (.invalidIdentifier field.name)
  | missing (required : field.required) (zero : field.arg.Zero)
      (valid : ∀ id, field.arg = .ident id → id.isValid) :
      Violates owner field (.missing owner field.name)

def Form.Sets (form : Form) (name : String) : Prop :=
  ∃ field, form.field? name = some field ∧ field.arg ≠ .unset

inductive Constraint.Violates (owner : String) (form : Form) : Constraint → Violation → Prop
  | exactlyOne {names : List String}
      (other : ¬∃! index : Nat, ∃ name, names[index]? = some name ∧ form.Sets name) :
      Violates owner form (exactlyOne names) (.notExactlyOne owner names)
  | atLeastOne {names : List String} (none : ∀ name ∈ names, ¬form.Sets name) :
      Violates owner form (atLeastOne names) (.noneOf owner names)

/-- What is wrong at a place of a form, of which the owner is known by the path of the fields that
lead to it. -/
inductive Form.Violates : Form → String → Place → Violation → Prop
  | field {form : Form} {owner : String} {index : Nat} {field : Field} {violation : Violation}
      (found : form.fields[index]? = some field) (wrong : field.Violates owner violation) :
      Violates form owner (.field index) violation
  | constraint {form : Form} {owner : String} {index : Nat} {constraint : Constraint}
      {violation : Violation} (found : form.constraints[index]? = some constraint)
      (wrong : constraint.Violates owner form violation) :
      Violates form owner (.constraint index) violation
  | inside {form inner : Form} {owner : String} {index : Nat} {field : Field} {place : Place}
      {violation : Violation} (found : form.fields[index]? = some field)
      (holds : field.arg = .block inner)
      (wrong : Violates inner (owner ++ "." ++ field.name) place violation) :
      Violates form owner (.inside index place) violation

theorem Arg.isZero_iff {arg : Arg} : arg.isZero ↔ arg.Zero := by
  cases arg with
  | unset => exact iff_of_true rfl .unset
  | flag | bool | block => exact iff_of_false (by simp [isZero]) (by rintro ⟨⟩)
  | int number =>
      simp only [isZero, decide_eq_true_eq]
      constructor
      · rintro rfl
        exact .int
      · rintro ⟨⟩
        rfl
  | text given =>
      simp only [isZero, decide_eq_true_eq]
      constructor
      · rintro rfl
        exact .text
      · rintro ⟨⟩
        rfl
  | list items =>
      simp only [isZero, List.isEmpty_iff]
      constructor
      · rintro rfl
        exact .list
      · rintro ⟨⟩
        rfl
  | ident id =>
      simp only [isZero, decide_eq_true_eq]
      constructor
      · exact .ident
      · intro zero
        cases zero with
        | ident nameless => exact nameless

theorem Field.violation?_eq_some_iff {owner : String} {field : Field} {violation : Violation} :
    field.violation? owner = some violation ↔ field.Violates owner violation := by
  obtain ⟨name, role, required, arg⟩ := field
  constructor
  · intro reported
    simp only [violation?] at reported
    split at reported
    next id =>
      split at reported
      next => simp at reported
      next invalid =>
        obtain rfl := Option.some.inj reported
        exact .invalid rfl invalid
    next unnamed =>
      split at reported
      next missing =>
        obtain rfl := Option.some.inj reported
        rw [Bool.and_eq_true] at missing
        exact .missing missing.1 (Arg.isZero_iff.mp missing.2) fun id holds =>
          absurd holds (unnamed id)
      next => simp at reported
  · intro wrong
    cases wrong with
    | invalid holds invalid =>
        obtain rfl := holds
        exact if_neg invalid
    | missing required zero valid =>
        obtain rfl := required
        cases zero with
        | ident nameless => exact absurd nameless (Identifier.name_ne_empty (valid _ rfl))
        | unset | int | text | list => rfl

/-! A constraint counts the names whose fields are set. -/

theorem Form.sets_iff {form : Form} {name : String} :
    ((form.field? name).any fun field => field.arg.isPresent) ↔ form.Sets name := by
  have present (arg : Arg) : arg.isPresent ↔ arg ≠ .unset := by cases arg <;> simp [Arg.isPresent]
  simp only [Option.any_eq_true, present, Sets]

theorem presentCount_eq (form : Form) (names : List String) :
    presentCount form.fields names = (names.filter fun name =>
      (form.field? name).any fun field => field.arg.isPresent).length := by
  rw [presentCount]
  congr 2
  funext name
  rw [Form.field?]
  cases form.fields.find? fun field => field.name = name with
  | none => rfl
  | some field => rfl

theorem presentCount_eq_zero_iff {form : Form} {names : List String} :
    presentCount form.fields names = 0 ↔ ∀ name ∈ names, ¬form.Sets name := by
  rw [presentCount_eq, List.length_eq_zero_iff, List.filter_eq_nil_iff]
  simp only [Form.sets_iff]

theorem presentCount_eq_one_iff {form : Form} {names : List String} :
    presentCount form.fields names = 1 ↔
      ∃! index : Nat, ∃ name, names[index]? = some name ∧ form.Sets name := by
  have counted := Enumerates.filterMap names
    (Option.guard fun name => (form.field? name).any fun field => field.arg.isPresent)
  rw [List.filterMap_eq_filter] at counted
  rw [presentCount_eq, counted.length_eq_one_iff (fun index => Nat.lt_irrefl index)]
  simp only [Option.guard_eq_some_iff, Form.sets_iff]
  refine existsUnique_congr fun index => ?_
  exact ⟨fun ⟨_, name, named, _, set⟩ => ⟨name, named, set⟩,
    fun ⟨name, named, set⟩ => ⟨name, name, named, rfl, set⟩⟩

theorem Constraint.violation?_eq_some_iff {owner : String} {form : Form} {constraint : Constraint}
    {violation : Violation} :
    constraint.violation? owner form.fields = some violation ↔
      constraint.Violates owner form violation := by
  cases constraint with
  | exactlyOne names =>
      rw [violation?, Option.ite_none_right_eq_some, ne_eq, presentCount_eq_one_iff]
      constructor
      · rintro ⟨other, same⟩
        obtain rfl := Option.some.inj same
        exact .exactlyOne other
      · intro wrong
        cases wrong with
        | exactlyOne other => exact ⟨other, rfl⟩
  | atLeastOne names =>
      rw [violation?, Option.ite_none_right_eq_some, presentCount_eq_zero_iff]
      constructor
      · rintro ⟨none, same⟩
        obtain rfl := Option.some.inj same
        exact .atLeastOne none
      · intro wrong
        cases wrong with
        | atLeastOne none => exact ⟨none, rfl⟩

theorem violationsWithin_eq_flatMap (owner : String) (fields : List Field) :
    violationsWithin owner fields = fields.flatMap (Field.violationsWithin owner) := by
  induction fields with
  | nil => rfl
  | cons field rest ih => rw [violationsWithin, ih, List.flatMap_cons]

theorem Form.violationsUnder_eq (owner : String) (form : Form) :
    form.violationsUnder owner =
      form.fields.filterMap (Field.violation? owner) ++
        form.constraints.filterMap (Constraint.violation? owner form.fields) ++
        form.fields.flatMap (Field.violationsWithin owner) := by
  obtain ⟨name, fields, constraints⟩ := form
  rw [Form.violationsUnder, violationsWithin_eq_flatMap]

theorem Field.enumerates {owner : String} {field : Field}
    (deeper : ∀ inner, field.arg = .block inner →
      Enumerates Place.Before (inner.Violates (owner ++ "." ++ field.name))
        (inner.violationsUnder (owner ++ "." ++ field.name))) :
    Enumerates Place.Before
      (fun place violation => ∃ inner, field.arg = .block inner ∧
        inner.Violates (owner ++ "." ++ field.name) place violation)
      (field.violationsWithin owner) := by
  obtain ⟨name, role, required, arg⟩ := field
  cases arg with
  | block inner => exact (deeper inner rfl).congr fun place violation => by simp
  | unset | flag | ident | int | bool | text | list => exact .nil (by simp)

theorem Form.enumerates (form : Form) (owner : String) :
    Enumerates Place.Before (form.Violates owner) (form.violationsUnder owner) := by
  induction form using Form.induction generalizing owner with
  | step form ih =>
      have ofFields := (Enumerates.filterMap form.fields (Field.violation? owner)).map
        Place.Before Place.field id
      have ofConstraints :=
        (Enumerates.filterMap form.constraints (Constraint.violation? owner form.fields)).map
          Place.Before Place.constraint id
      have ofForms := Enumerates.flatMap form.fields fun field member =>
        Field.enumerates fun inner holds =>
          ih field member inner holds (owner ++ "." ++ field.name)
      have deeper := ofForms.map Place.Before (fun place => Place.inside place.1 place.2) id
      rw [Form.violationsUnder_eq]
      refine ((ofFields.append ofConstraints ?_).append deeper ?_).congr fun place violation => ?_
      · rintro _ _ _ _ ⟨index, rfl, -⟩ ⟨index', rfl, -⟩
        trivial
      · rintro _ _ _ _ (⟨index, rfl, -⟩ | ⟨index, rfl, -⟩) ⟨within, rfl, -⟩
        · trivial
        · trivial
      · simp only [Field.violation?_eq_some_iff, Constraint.violation?_eq_some_iff]
        constructor
        · rintro ((⟨index, rfl, field, found, wrong⟩ | ⟨index, rfl, constraint, found, wrong⟩) |
            ⟨⟨index, place⟩, rfl, field, found, inner, holds, wrong⟩)
          · exact .field found wrong
          · exact .constraint found wrong
          · exact .inside found holds wrong
        · intro wrong
          cases wrong with
          | field found wrong => exact .inl (.inl ⟨_, rfl, _, found, wrong⟩)
          | constraint found wrong => exact .inl (.inr ⟨_, rfl, _, found, wrong⟩)
          | inside found holds wrong => exact .inr ⟨(_, _), rfl, _, found, _, holds, wrong⟩

/-- A form is reported faultless exactly when nothing is wrong with it anywhere; and otherwise the
report says what is wrong at each place, once, in the order of the places. -/
theorem violations_in_order (form : Form) :
    (form.violations = [] ↔ ∀ place violation, ¬form.Violates form.name place violation) ∧
    ∃ found : List (Place × Violation),
      found.map Prod.snd = form.violations ∧
      (found.map Prod.fst).Nodup ∧
      found.Pairwise (fun left right => left.1.Before right.1) ∧
      ∀ place violation, (place, violation) ∈ found ↔ form.Violates form.name place violation := by
  obtain ⟨found, listed, ordered, exact⟩ := form.enumerates form.name
  have reported : found.map Prod.snd = form.violations := listed
  refine ⟨?_, found, reported, ?_, ordered, exact⟩
  · rw [← reported, List.map_eq_nil_iff, List.eq_nil_iff_forall_not_mem, Prod.forall]
    simp only [exact]
  · refine List.pairwise_map.mpr (ordered.imp fun earlier same => ?_)
    exact Place.Before.irrefl _ (same ▸ earlier)

example :
    Form.violations {
      name := "Outer"
      fields := [
        .block "Inner" "SET" (some {
          name := "Set"
          fields := [(Field.parameter "A" "A" .bare (.int 0)).needed, .keyword "B" "B" .unset]
          constraints := [.atLeastOne ["B"]] }),
        .target "name" (.account ⟨"A|B"⟩)]
      constraints := [.exactlyOne ["Inner", "name"]] } = [
    .invalidIdentifier "name",
    .notExactlyOne "Outer" ["Inner", "name"],
    .missing "Outer.Inner" "A",
    .noneOf "Outer.Inner" ["B"]] := by
  decide +kernel

end Statement

end Provision
