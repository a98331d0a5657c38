import Mathlib.Data.List.Basic
import Provision.Proofs.Acceptance
import Provision.Proofs.Legibility

/-!
The identifiers that the text of a form names. The check of a form goes by the arguments of its
fields, its text by their roles; but what a text names at any depth is an argument that the check
has been at, so a form that passes the check names valid identifiers only.
-/

namespace Provision

namespace Text

theorem mem_doubled {mark char : Char} {text : List Char} (member : char ∈ doubled mark text) :
    char ∈ text := by
  induction text with
  | nil => simp [doubled] at member
  | cons first rest ih =>
      by_cases same : first = mark
      · simp only [doubled, same, if_true, List.mem_cons] at member
        rcases member with rfl | rfl | later
        · simp [same]
        · simp [same]
        · exact List.mem_cons_of_mem first (ih later)
      · simp only [doubled, same, if_false, List.mem_cons] at member
        rcases member with rfl | later
        · exact List.mem_cons_self
        · exact List.mem_cons_of_mem first (ih later)

theorem mem_quoted {mark char : Char} {text : String} (member : char ∈ (quoted mark text).toList) :
    char = mark ∨ char ∈ text.toList := by
  simp only [quoted, String.toList_ofList, List.mem_cons, List.mem_append, List.not_mem_nil,
    or_false] at member
  rcases member with opening | inside | closing
  · exact .inl opening
  · exact .inr (mem_doubled inside)
  · exact .inl closing

theorem infix_append (before text after : String) :
    text.toList <:+: (before ++ text ++ after).toList :=
  ⟨before.toList, after.toList, by simp⟩

theorem infix_joined {separator text : String} {texts : List String} (member : text ∈ texts) :
    text.toList <:+: (joined separator texts).toList := by
  induction texts with
  | nil => simp at member
  | cons first rest ih =>
      cases rest with
      | nil =>
          obtain rfl := List.mem_singleton.mp member
          exact List.infix_refl _
      | cons second others =>
          rcases List.mem_cons.mp member with rfl | later
          · have front := infix_append "" text (separator ++ joined separator (second :: others))
            simpa [joined] using front
          · refine (ih later).trans ?_
            have back := infix_append (first ++ separator) (joined separator (second :: others)) ""
            rwa [String.append_empty] at back

end Text

namespace Identifier

theorem mem_written {char : Char} {segments : List String}
    (member : char ∈ (written segments).toList) :
    char = '"' ∨ char = '.' ∨ ∃ segment ∈ segments, char ∈ segment.toList := by
  induction segments with
  | nil => simp [written, Text.joined] at member
  | cons segment others ih =>
      have split := toList_written_cons segment others []
      rw [List.append_nil] at split
      rw [split, List.mem_append] at member
      rcases member with here | after
      · rcases Text.mem_quoted here with mark | inside
        · exact .inl mark
        · exact .inr (.inr ⟨segment, List.mem_cons_self, inside⟩)
      · cases others with
        | nil => simp [afterSegment] at after
        | cons next later =>
            simp only [afterSegment, List.append_nil, List.mem_cons] at after
            rcases after with point | beyond
            · exact .inr (.inl point)
            · rcases ih beyond with mark | point | ⟨other, among, inside⟩
              · exact .inl mark
              · exact .inr (.inl point)
              · exact .inr (.inr ⟨other, List.mem_cons_of_mem segment among, inside⟩)

theorem plain_of_mem_qualifiedName {id : Identifier} (valid : id.isValid) {char : Char}
    (member : char ∈ id.qualifiedName.toList) : isControl char = false ∧ char ≠ '|' := by
  rw [qualifiedName_eq] at member
  rcases mem_written member with rfl | rfl | ⟨segment, among, inside⟩
  · decide
  · decide
  · exact plain_of_mem_segment valid (List.mem_filter.mp among).1 inside

end Identifier

namespace Statement

/-- A form inherits what passes from the forms that its fields hold to the form itself. -/
theorem Form.induction {motive : Form → Prop}
    (step : ∀ form : Form, (∀ field ∈ form.fields, ∀ inner, field.arg = .block inner →
      motive inner) → motive form) (form : Form) : motive form :=
  step form fun field member inner holds => by
    have shallower : sizeOf inner < sizeOf form := by
      obtain ⟨name, fields, constraints⟩ := form
      obtain ⟨fieldName, role, required, arg⟩ := field
      have within := List.sizeOf_lt_of_mem member
      simp only [Form.mk.sizeOf_spec, Field.mk.sizeOf_spec] at within ⊢
      have deeper : sizeOf arg = 1 + sizeOf inner := by simp_all
      omega
    exact Form.induction step inner
termination_by sizeOf form

def Role.writesName : Role → Bool
  | target | keyword _ | parameter _ _ _ | value _ => true
  | fixed _ | block _ => false

/-- The text of the form names the identifier, in a clause of its own or in the text of a form that
it opens. -/
inductive Form.Writes : Form → Identifier → Prop
  | field {form : Form} {field : Field} {id : Identifier} (member : field ∈ form.fields)
      (writes : field.role.writesName) (holds : field.arg = .ident id) : Writes form id
  | block {form inner : Form} {field : Field} {keyword : String} {id : Identifier}
      (member : field ∈ form.fields) (opens : field.role = .block keyword)
      (holds : field.arg = .block inner) (inside : Writes inner id) : Writes form id

theorem clausesOf_eq_flatMap (fields : List Field) :
    clausesOf fields = fields.flatMap Field.clauses := by
  induction fields with
  | nil => rfl
  | cons field rest ih => rw [clausesOf, ih, List.flatMap_cons]

theorem Form.clauses_eq_flatMap (form : Form) :
    form.clauses = form.fields.flatMap Field.clauses := by
  obtain ⟨name, fields, constraints⟩ := form
  exact clausesOf_eq_flatMap fields

/-! The check has been at every identifier that is named. -/

theorem Form.Writes.isValid {form : Form} {id : Identifier} (writes : form.Writes id)
    {owner : String} (accepted : form.violationsUnder owner = []) : id.isValid := by
  induction writes generalizing owner with
  | @field form field id member _ holds =>
      have passes := ((Form.violationsUnder_eq_nil_iff owner form).mp accepted).1 field member
      simpa [Field.violation?, holds] using passes.1
  | @block form inner field keyword id member _ holds _ ih =>
      have passes := ((Form.violationsUnder_eq_nil_iff owner form).mp accepted).1 field member
      obtain ⟨name, role, required, arg⟩ := field
      obtain rfl : arg = .block inner := holds
      exact ih passes.2

/-! The text holds the name of each of these identifiers. -/

theorem Quoting.infix_scalar (quoting : Quoting) (raw : String) :
    raw.toList <:+: (quoting.scalar raw).toList := by
  cases quoting with
  | bare | quoted => exact List.infix_refl _
  | listed => exact Text.infix_append "(" raw ")"

theorem Field.infix_clause {field : Field} {id : Identifier} (writes : field.role.writesName)
    (holds : field.arg = .ident id) (named : id.qualifiedName ≠ "") :
    ∃ clause ∈ field.clauses, id.qualifiedName.toList <:+: clause.toList := by
  obtain ⟨name, role, required, arg⟩ := field
  obtain rfl : arg = .ident id := holds
  cases role with
  | fixed | block => simp [Role.writesName] at writes
  | target =>
      refine ⟨id.qualifiedName, ?_, List.infix_refl _⟩
      simp [Field.clauses, targetClause, nonempty, named]
  | keyword sql =>
      refine ⟨sql ++ " " ++ id.qualifiedName, by simp [Field.clauses, keywordClause], ?_⟩
      simpa using Text.infix_append (sql ++ " ") id.qualifiedName ""
  | parameter keyword quoting equals =>
      refine ⟨_, List.mem_singleton_self _, (quoting.infix_scalar id.qualifiedName).trans ?_⟩
      have last := Text.infix_append (keyword ++ if equals then " = " else " ")
        (quoting.scalar id.qualifiedName) ""
      rwa [String.append_empty] at last
  | value quoting => exact ⟨_, List.mem_singleton_self _, quoting.infix_scalar id.qualifiedName⟩

theorem Form.Writes.infix_clause {form : Form} {id : Identifier} (writes : form.Writes id)
    (named : id.qualifiedName ≠ "") :
    ∃ clause ∈ form.clauses, id.qualifiedName.toList <:+: clause.toList := by
  induction writes with
  | @field form field id member writes holds =>
      obtain ⟨clause, among, within⟩ := Field.infix_clause writes holds named
      refine ⟨clause, ?_, within⟩
      rw [Form.clauses_eq_flatMap]
      exact List.mem_flatMap_of_mem member among
  | @block form inner field keyword id member opens holds _ ih =>
      obtain ⟨clause, among, within⟩ := ih named
      refine ⟨clause, ?_, within⟩
      obtain ⟨name, role, required, arg⟩ := field
      obtain rfl : role = .block keyword := opens
      obtain rfl : arg = .block inner := holds
      rw [Form.clauses_eq_flatMap]
      exact List.mem_flatMap_of_mem member (List.mem_append_right _ among)

theorem Form.Writes.infix_sql {form : Form} {id : Identifier} (writes : form.Writes id)
    (named : id.qualifiedName ≠ "") : id.qualifiedName.toList <:+: form.sql.toList := by
  obtain ⟨clause, among, within⟩ := writes.infix_clause named
  exact within.trans (Text.infix_joined among)

/-! The text depends on no other identifier. -/

mutual

def Form.renamed (rename : Identifier → Identifier) : Form → Form
  | ⟨name, fields, constraints⟩ => ⟨name, renamedFields rename fields, constraints⟩

def Field.renamed (rename : Identifier → Identifier) : Field → Field
  | ⟨name, role, required, arg⟩ => ⟨name, role, required, arg.renamed rename⟩

def Arg.renamed (rename : Identifier → Identifier) : Arg → Arg
  | .ident id => .ident (rename id)
  | .block form => .block (form.renamed rename)
  | .unset => .unset
  | .flag on => .flag on
  | .int number => .int number
  | .bool truth => .bool truth
  | .text text => .text text
  | .list items => .list items

def renamedFields (rename : Identifier → Identifier) : List Field → List Field
  | [] => []
  | field :: rest => field.renamed rename :: renamedFields rename rest

end

theorem renamedFields_eq_map (rename : Identifier → Identifier) (fields : List Field) :
    renamedFields rename fields = fields.map (Field.renamed rename) := by
  induction fields with
  | nil => rfl
  | cons field rest ih => rw [renamedFields, ih, List.map_cons]

theorem Form.clauses_renamed (rename : Identifier → Identifier) {form : Form}
    (kept : ∀ id, form.Writes id → (rename id).qualifiedName = id.qualifiedName) :
    (form.renamed rename).clauses = form.clauses := by
  induction form using Form.induction with
  | step form ih =>
      have fields : (form.renamed rename).fields = form.fields.map (Field.renamed rename) := by
        obtain ⟨name, fields, constraints⟩ := form
        exact renamedFields_eq_map rename fields
      rw [Form.clauses_eq_flatMap, Form.clauses_eq_flatMap, fields, List.flatMap_map]
      refine List.flatMap_congr fun field member => ?_
      obtain ⟨name, role, required, arg⟩ := field
      cases arg with
      | ident id =>
          cases role with
          | fixed | block => rfl
          | target | keyword | parameter | value =>
              have same := kept id (.field member rfl rfl)
              simp [Field.renamed, Arg.renamed, Field.clauses, targetClause, keywordClause,
                parameterClause, Arg.value?, same]
      | block inner =>
          cases role with
          | block keyword =>
              have deeper := ih _ member inner rfl fun id writes =>
                kept id (.block member rfl rfl writes)
              exact congrArg (nonempty keyword ++ ·) deeper
          | fixed | target | keyword | parameter | value => rfl
      | unset | flag | int | bool | text | list => rfl

/-- Every identifier that the text of an accepted form names, at any depth, is valid, and its name
is a plain text that the text of the form holds; and on no other identifier does that text
depend. -/
theorem accepted_form_names_valid (form : Form) (accepted : form.violations = []) :
    (∀ id, form.Writes id →
      id.isValid ∧ id.qualifiedName ≠ "" ∧
      (∀ char ∈ id.qualifiedName.toList, Identifier.isControl char = false ∧ char ≠ '|') ∧
      id.qualifiedName.toList <:+: form.sql.toList) ∧
    ∀ rename : Identifier → Identifier,
      (∀ id, form.Writes id → (rename id).qualifiedName = id.qualifiedName) →
        (form.renamed rename).sql = form.sql := by
  refine ⟨fun id writes => ?_, fun rename kept => ?_⟩
  · have valid := writes.isValid accepted
    have named := qualifiedName_ne_empty (Identifier.given_ne_nil valid)
    exact ⟨valid, named, fun char member => Identifier.plain_of_mem_qualifiedName valid member,
      writes.infix_sql named⟩
  · rw [Form.sql, Form.sql, Form.clauses_renamed rename kept]

def nestedForm (shown : Identifier) : Form :=
  let listed : Form := {
    name := "Listed"
    fields := [⟨"Schemas", .parameter "SCHEMAS" .listed true, true, .ident shown⟩]
    constraints := [.exactlyOne ["Schemas"]] }
  let limits : Form := {
    name := "Limits"
    fields := [.block "Listed" "WITHIN" (some listed)]
    constraints := [.atLeastOne ["Listed"]] }
  { name := "Nested"
    fields := [.fixed "SHOW", .block "Limits" "IN" (some limits)]
    constraints := [] }

theorem nested_form_names_valid :
    let shown : Identifier := .database ⟨"DB", "S\"C"⟩
    (nestedForm shown).violations = [] ∧ (nestedForm shown).Writes shown ∧
      (nestedForm shown).sql = "SHOW IN WITHIN SCHEMAS = (\"DB\".\"S\"\"C\")" ∧
      shown.qualifiedName.toList <:+: (nestedForm shown).sql.toList := by
  intro shown
  have accepted : (nestedForm shown).violations = [] := by decide +kernel
  have writes : (nestedForm shown).Writes shown :=
    .block (List.mem_cons_of_mem _ List.mem_cons_self) rfl rfl
      (.block List.mem_cons_self rfl rfl (.field List.mem_cons_self rfl rfl))
  exact ⟨accepted, writes, by decide +kernel,
    ((accepted_form_names_valid _ accepted).1 shown writes).2.2.2⟩

end Statement

end Provision
