import Provision.Statement

/-!
Which statements are accepted. A form is accepted when each of its fields passes, and the forms that
its fields hold, and when its constraints are met; for the statements that are sent about one object
this comes to the identifier of the object.
-/

namespace Provision.Statement

/-- Nothing can be wrong with the argument, unless it is missing. -/
def Arg.IsPlain : Arg → Prop
  | ident _ | block _ => False
  | _ => True

namespace Arg

@[simp] theorem isPlain_int (number : Int) : (int number).IsPlain := trivial

@[simp] theorem isPlain_text (given : String) : (text given).IsPlain := trivial

@[simp] theorem isPlain_ofFlag? (on? : Option Bool) : (ofFlag? on?).IsPlain := by
  cases on? <;> trivial

@[simp] theorem isPlain_ofInt? (number? : Option Int) : (ofInt? number?).IsPlain := by
  cases number? <;> trivial

@[simp] theorem isPlain_ofBool? (truth? : Option Bool) : (ofBool? truth?).IsPlain := by
  cases truth? <;> trivial

@[simp] theorem isPlain_ofText? (given? : Option String) : (ofText? given?).IsPlain := by
  cases given? <;> trivial

@[simp] theorem isPresent_ofFlag? (on? : Option Bool) : (ofFlag? on?).isPresent = on?.isSome := by
  cases on? <;> rfl

@[simp] theorem isPresent_ofInt? (number? : Option Int) :
    (ofInt? number?).isPresent = number?.isSome := by
  cases number? <;> rfl

@[simp] theorem isPresent_ofBool? (truth? : Option Bool) :
    (ofBool? truth?).isPresent = truth?.isSome := by
  cases truth? <;> rfl

@[simp] theorem isPresent_ofText? (given? : Option String) :
    (ofText? given?).isPresent = given?.isSome := by
  cases given? <;> rfl

@[simp] theorem isPresent_ofIdent? (id? : Option Identifier) :
    (ofIdent? id?).isPresent = id?.isSome := by
  cases id? <;> rfl

@[simp] theorem isPresent_ofBlock? (form? : Option Form) :
    (ofBlock? form?).isPresent = form?.isSome := by
  cases form? <;> rfl

end Arg

namespace Field

section

variable (name sql : String) (quoting : Quoting) (arg : Arg) (form? : Option Form)

@[simp] theorem name_fixed : (fixed sql).name = sql := rfl

@[simp] theorem name_target (id : Identifier) : (target name id).name = name := rfl

@[simp] theorem name_keyword : (keyword name sql arg).name = name := rfl

@[simp] theorem name_parameter : (parameter name sql quoting arg).name = name := rfl

@[simp] theorem name_block : (block name sql form?).name = name := rfl

@[simp] theorem arg_keyword : (keyword name sql arg).arg = arg := rfl

@[simp] theorem arg_parameter : (parameter name sql quoting arg).arg = arg := rfl

@[simp] theorem arg_block : (block name sql form?).arg = .ofBlock? form? := rfl

end

theorem violation?_plain (owner : String) {field : Field} (plain : field.arg.IsPlain) :
    field.violation? owner =
      if field.required && field.arg.isZero then some (.missing owner field.name) else none := by
  unfold violation?
  split
  next id given => simp [given, Arg.IsPlain] at plain
  next => rfl

theorem violationsWithin_plain (owner : String) {field : Field} (plain : field.arg.IsPlain) :
    field.violationsWithin owner = [] := by
  obtain ⟨name, role, required, arg⟩ := field
  cases arg with
  | block form => exact plain.elim
  | _ => rfl

def Passes (owner : String) (field : Field) : Prop :=
  field.violation? owner = none ∧ field.violationsWithin owner = []

theorem passes_plain_iff (owner : String) {field : Field} (plain : field.arg.IsPlain) :
    field.Passes owner ↔ ¬(field.required ∧ field.arg.isZero) := by
  simp [Passes, violation?_plain owner plain, violationsWithin_plain owner plain]

variable (owner name sql : String) (quoting : Quoting)

@[simp] theorem passes_fixed : (fixed sql).Passes owner := ⟨rfl, rfl⟩

@[simp] theorem passes_target_iff (id : Identifier) :
    (target name id).Passes owner ↔ id.isValid := by
  show (if id.isValid then none else some (Violation.invalidIdentifier name)) = none ∧ [] = [] ↔ _
  simp

@[simp] theorem passes_flag (on? : Option Bool) :
    (keyword name sql (.ofFlag? on?)).Passes owner :=
  (passes_plain_iff owner (Arg.isPlain_ofFlag? on?)).mpr fun needed => Bool.noConfusion needed.1

@[simp] theorem passes_keyword_ident_iff (id? : Option Identifier) :
    (keyword name sql (.ofIdent? id?)).Passes owner ↔ ∀ id ∈ id?, id.isValid := by
  cases id? with
  | none => exact iff_of_true (passes_flag owner name sql none) (by simp)
  | some id => exact (passes_target_iff owner name id).trans (by simp)

@[simp] theorem passes_parameter {arg : Arg} (plain : arg.IsPlain) :
    (parameter name sql quoting arg).Passes owner :=
  (passes_plain_iff owner plain).mpr fun needed => Bool.noConfusion needed.1

@[simp] theorem passes_needed_parameter_iff {arg : Arg} (plain : arg.IsPlain) :
    (parameter name sql quoting arg).needed.Passes owner ↔ ¬arg.isZero :=
  (passes_plain_iff owner plain).trans (by simp [parameter, needed])

@[simp] theorem passes_clause {arg : Arg} (plain : arg.IsPlain) :
    (clause name sql quoting arg).Passes owner :=
  (passes_plain_iff owner plain).mpr fun needed => Bool.noConfusion needed.1

@[simp] theorem passes_value {arg : Arg} (plain : arg.IsPlain) :
    (value name quoting arg).Passes owner :=
  (passes_plain_iff owner plain).mpr fun needed => Bool.noConfusion needed.1

@[simp] theorem passes_needed_value_iff {arg : Arg} (plain : arg.IsPlain) :
    (value name quoting arg).needed.Passes owner ↔ ¬arg.isZero :=
  (passes_plain_iff owner plain).trans (by simp [value, needed])

theorem violation?_target (id : Identifier) :
    (target name id).violation? owner =
      if id.isValid then none else some (.invalidIdentifier name) := rfl

theorem violation?_needed_parameter {arg : Arg} (plain : arg.IsPlain) :
    (parameter name sql quoting arg).needed.violation? owner =
      if arg.isZero then some (.missing owner name) else none := by
  rw [violation?_plain owner (show (parameter name sql quoting arg).needed.arg.IsPlain from plain)]
  rfl

theorem violationsWithin_target (id : Identifier) :
    (target name id).violationsWithin owner = [] := rfl

theorem violationsWithin_needed (field : Field) :
    field.needed.violationsWithin owner = field.violationsWithin owner := by
  obtain ⟨name, role, required, arg⟩ := field
  cases arg with
  | block form => rfl
  | _ => rfl

@[simp] theorem passes_block_iff (form? : Option Form) :
    (block name sql form?).Passes owner ↔
      ∀ form ∈ form?, form.violationsUnder (owner ++ "." ++ name) = [] := by
  cases form? with
  | none => exact iff_of_true (passes_flag owner name sql none) (by simp)
  | some form =>
      show none = none ∧ form.violationsUnder (owner ++ "." ++ name) = [] ↔ _
      simp

end Field

theorem violationsWithin_eq_nil_iff (owner : String) (fields : List Field) :
    violationsWithin owner fields = [] ↔ ∀ field ∈ fields, field.violationsWithin owner = [] := by
  induction fields with
  | nil => simp [violationsWithin]
  | cons field rest ih => simp [violationsWithin, ih]

theorem Form.violationsUnder_eq_nil_iff (owner : String) (form : Form) :
    form.violationsUnder owner = [] ↔
      (∀ field ∈ form.fields, field.Passes owner) ∧
      ∀ constraint ∈ form.constraints, constraint.violation? owner form.fields = none := by
  obtain ⟨name, fields, constraints⟩ := form
  simp only [Form.violationsUnder, List.append_eq_nil_iff, List.filterMap_eq_nil_iff,
    violationsWithin_eq_nil_iff, Field.Passes]
  constructor
  · rintro ⟨⟨sound, constrained⟩, within⟩
    exact ⟨fun field member => ⟨sound field member, within field member⟩, constrained⟩
  · rintro ⟨sound, constrained⟩
    exact ⟨⟨fun field member => (sound field member).1, constrained⟩,
      fun field member => (sound field member).2⟩

@[simp] theorem presentCount_nil (fields : List Field) : presentCount fields [] = 0 := rfl

theorem presentCount_cons (fields : List Field) (name : String) (rest : List String) :
    presentCount fields (name :: rest) =
      (if ((fields.find? fun field => field.name = name).any fun field => field.arg.isPresent)
        then 1 else 0) + presentCount fields rest := by
  simp only [presentCount, List.filter_cons]
  cases fields.find? fun field => field.name = name with
  | none => simp
  | some field =>
      by_cases present : field.arg.isPresent
      · simp [present, Nat.add_comm]
      · simp [present]

section

variable (name : AccountId)

theorem createPool_accepted_iff (request : ComputePool.Create) :
    (createPool request).form.violations = [] ↔
      request.name.toIdentifier.isValid ∧ request.minNodes ≠ 0 ∧ request.maxNodes ≠ 0 ∧
        request.instanceFamily ≠ "" := by
  simp [form, Form.violations, Form.violationsUnder_eq_nil_iff, ComputePool.Create.form, Arg.isZero]

theorem createPool_violations {request : ComputePool.Create} (minNodes : request.minNodes ≠ 0)
    (maxNodes : request.maxNodes ≠ 0) :
    (createPool request).form.violations =
      (if request.name.toIdentifier.isValid then [] else [.invalidIdentifier "name"]) ++
        if request.instanceFamily = "" then
          [.missing "CreateComputePoolOptions" "InstanceFamily"] else [] := by
  let owner := "CreateComputePoolOptions"
  have within : violationsWithin owner request.form.fields = [] := by
    simp [violationsWithin_eq_nil_iff, ComputePool.Create.form, Field.violationsWithin_target,
      Field.violationsWithin_needed, (Field.passes_fixed _ _).2, (Field.passes_flag _ _ _ _).2,
      (Field.passes_parameter _ _ _ _ _).2]
  show request.form.fields.filterMap (Field.violation? owner) ++ [] ++
    violationsWithin owner request.form.fields = _
  rw [within]
  by_cases named : request.name.toIdentifier.isValid <;>
    by_cases blank : request.instanceFamily = "" <;>
    simp [owner, ComputePool.Create.form, (Field.passes_fixed _ _).1, (Field.passes_flag _ _ _ _).1,
      (Field.passes_parameter _ _ _ _ _).1, Field.violation?_target,
      Field.violation?_needed_parameter, Arg.isZero, minNodes, maxNodes, named, blank]

theorem alterPool_reset_accepted_iff {reset : ComputePool.Reset} (named : reset ≠ {}) :
    (alterPool { name, unset? := reset }).form.violations = [] ↔ name.toIdentifier.isValid := by
  obtain ⟨autoSuspendSecs?, autoResume?, comment?⟩ := reset
  have some : autoSuspendSecs? = none → autoResume? = none → comment? ≠ none := by
    rintro rfl rfl rfl
    exact named rfl
  simpa [form, Form.violations, Form.violationsUnder_eq_nil_iff, ComputePool.Alter.form,
    ComputePool.Reset.form, Constraint.violation?, presentCount_cons] using fun _ => some

theorem alterPool_assignment_accepted_iff {assignment : ComputePool.Assignment}
    (named : assignment ≠ {}) :
    (alterPool { name, set? := assignment }).form.violations = [] ↔ name.toIdentifier.isValid := by
  obtain ⟨minNodes?, maxNodes?, autoResume?, autoSuspendSecs?, comment?⟩ := assignment
  have some : minNodes? = none → maxNodes? = none → autoResume? = none →
      autoSuspendSecs? = none → comment? ≠ none := by
    rintro rfl rfl rfl rfl rfl
    exact named rfl
  simpa [form, Form.violations, Form.violationsUnder_eq_nil_iff, ComputePool.Alter.form,
    ComputePool.Assignment.form, Constraint.violation?, presentCount_cons] using fun _ => some

theorem dropPool_accepted_iff (request : ComputePool.Drop) :
    (dropPool request).form.violations = [] ↔ request.name.toIdentifier.isValid := by
  simp [form, Form.violations, Form.violationsUnder_eq_nil_iff, ComputePool.Drop.form]

theorem showPools_accepted_iff (request : ComputePool.Show) :
    (showPools request).form.violations = [] ↔ ∀ limit ∈ request.limit?, limit.rows ≠ 0 := by
  simp [form, Form.violations, Form.violationsUnder_eq_nil_iff, ComputePool.Show.form, likeForm,
    Limit.form, Arg.isZero]

theorem showPools_like_accepted (pattern : String) :
    (showPools { like? := pattern }).form.violations = [] :=
  (showPools_accepted_iff _).mpr (by simp)

theorem createRepository_accepted_iff (request : ImageRepository.Create) :
    (createRepository request).form.violations = [] ↔ request.name.toIdentifier.isValid := by
  simp [form, Form.violations, Form.violationsUnder_eq_nil_iff, ImageRepository.Create.form]

theorem dropRepository_accepted_iff (request : ImageRepository.Drop) :
    (dropRepository request).form.violations = [] ↔ request.name.toIdentifier.isValid := by
  simp [form, Form.violations, Form.violationsUnder_eq_nil_iff, ImageRepository.Drop.form]

theorem showRepositories_inSchema_accepted_iff (pattern : String) (schema : DatabaseId) :
    (showRepositories
      { like? := pattern, scope? := some (.ofSchema schema) }).form.violations = [] ↔
      schema.toIdentifier.isValid := by
  simp [form, Form.violations, Form.violationsUnder_eq_nil_iff, ImageRepository.Show.form, likeForm,
    Scope.form, Scope.ofSchema, Constraint.violation?, presentCount_cons]

end

end Provision.Statement
