import Provision.Proofs.PoolPlatform
import Provision.Proofs.SchemaValidity

/-!
What the changes of a pool come to. For each property, the assignment and the reset that are
derived from what the pool shows come to the same: the value that is declared or, where none is,
the default.
-/

namespace Provision.PoolResource

open ComputePool

section

variable {β : Type} {schema : Schema} {current wanted : Attributes} {key : String}
  {value? : Option β} {old : β} (expected : String) (wrap : β → Value)
  (convert? : Value → Option β) (default : β)

theorem ifChanged_settles (converts : ∀ value, convert? (wrap value) = some value)
    (compares : ∀ left right, (wrap left).same (wrap right) → left = right)
    (set : wanted.get? key = value?.map wrap)
    (shown : ∀ value, current.get? key = some value → value = wrap old) :
    ∃ assigned?,
      ifChanged current wanted key (wanted.typed? key expected convert?) = .ok assigned? ∧
        assigned?.getD old = value?.getD old ∧ (assigned?.isSome → value?.isSome) := by
  cases value? with
  | none =>
      have unchanged : isChanged current wanted key = false := by simp [isChanged, set]
      exact ⟨none, by simp [ifChanged, unchanged], rfl, id⟩
  | some value =>
      have typed : wanted.typed? key expected convert? = .ok (some value) := by
        simp [Attributes.typed?, set, converts]
      by_cases changed : isChanged current wanted key
      · exact ⟨some value, by simp [ifChanged, changed, typed], rfl, id⟩
      · refine ⟨none, by simp [ifChanged, changed], ?_, by simp⟩
        simp only [isChanged, set, Option.map_some, Attributes.holds, Bool.not_eq_true,
          Bool.not_eq_false'] at changed
        cases held : current.get? key with
        | none => simp [held] at changed
        | some found =>
            rw [held, shown found held] at changed
            exact compares old value changed

theorem resetFlag_settles (set : wanted.get? key = value?.map wrap)
    (shown : current.get? key = some (wrap old) ∨ current.get? key = none ∧ old = default)
    (custom : isCustom ((schema.attribute? key).bind Attribute.default?) (wrap old) = false →
      old = default) :
    (if resetFlag schema current wanted key = some true then default else old) =
        (if value?.isSome then old else default) ∧
      ((resetFlag schema current wanted key).isSome → value? = none) := by
  cases value? with
  | some value =>
      have declared : wanted.contains key := by simp [Table.contains, set]
      simp [resetFlag, declared]
  | none =>
      have undeclared : wanted.contains key = false := by simp [Table.contains, set]
      rcases shown with held | ⟨hidden, same⟩
      · by_cases differs : isCustom ((schema.attribute? key).bind Attribute.default?) (wrap old)
        · simp [resetFlag, undeclared, held, differs]
        · have same := custom (Bool.not_eq_true _ ▸ differs)
          simp [resetFlag, undeclared, held, same]
      · simp [resetFlag, undeclared, hidden, same]

/-- Whatever the order in which a property is reset and assigned, it comes to what is wanted or to
the default, and it is never both reset and assigned. -/
theorem property_settles (schema : Schema) (converts : ∀ value, convert? (wrap value) = some value)
    (compares : ∀ left right, (wrap left).same (wrap right) → left = right)
    (set : wanted.get? key = value?.map wrap)
    (shown : current.get? key = some (wrap old) ∨ current.get? key = none ∧ old = default)
    (custom : isCustom ((schema.attribute? key).bind Attribute.default?) (wrap old) = false →
      old = default) :
    ∃ assigned?,
      ifChanged current wanted key (wanted.typed? key expected convert?) = .ok assigned? ∧
        let flag? := resetFlag schema current wanted key
        assigned?.getD (if flag? = some true then default else old) = value?.getD default ∧
          (if flag? = some true then default else assigned?.getD old) = value?.getD default ∧
          ¬(flag?.isSome ∧ assigned?.isSome) := by
  have truly : ∀ value, current.get? key = some value → value = wrap old := by
    intro value held
    rcases shown with shown | ⟨hidden, -⟩
    · exact Option.some.inj (held.symm.trans shown)
    · simp [hidden] at held
  obtain ⟨assigned?, assigned, settled, named⟩ :=
    ifChanged_settles expected wrap convert? converts compares set truly
  obtain ⟨cleared, unnamed⟩ := resetFlag_settles wrap default set shown custom
  refine ⟨assigned?, assigned, ?_⟩
  -- What is not declared is not assigned, and what is declared is not reset.
  cases value? with
  | none =>
      have unassigned : assigned? = none := by simpa using named
      simpa [unassigned] using cleared
  | some value =>
      have unflagged : resetFlag schema current wanted key = none := by simpa using unnamed
      simp only [unflagged]
      simpa using settled

end

structure Declared where
  minNodes : Int
  maxNodes : Int
  autoResume? : Option Bool
  autoSuspendSecs? : Option Int
  comment? : Option String

/-- The pool with what is declared, and with the defaults of what is not. -/
def Declared.apply (declared : Declared) (pool : ComputePool) : ComputePool :=
  { pool with
    minNodes := declared.minNodes
    maxNodes := declared.maxNodes
    autoResume := declared.autoResume?.getD true
    autoSuspendSecs := declared.autoSuspendSecs?.getD 600
    comment := declared.comment?.getD "" }

structure Declares (wanted : Attributes) (declared : Declared) : Prop where
  minNodes : wanted.get? "min_nodes" = some (.int declared.minNodes)
  maxNodes : wanted.get? "max_nodes" = some (.int declared.maxNodes)
  autoResume : wanted.get? "auto_resume" = declared.autoResume?.map .bool
  autoSuspendSecs : wanted.get? "auto_suspend_secs" = declared.autoSuspendSecs?.map .int
  comment : wanted.get? "comment" = declared.comment?.map .string

theorem exists_declares {wanted : Attributes}
    (accepted : ResourceKind.computePool.schema.Accepts wanted) :
    ∃ declared, Declares wanted declared := by
  obtain ⟨minNodes, minSet⟩ := accepted.positive
    (show ResourceKind.computePool.schema.attribute? "min_nodes" = some _ from rfl)
    rfl rfl rfl
  obtain ⟨maxNodes, maxSet⟩ := accepted.positive
    (show ResourceKind.computePool.schema.attribute? "max_nodes" = some _ from rfl)
    rfl rfl rfl
  obtain ⟨autoResume?, resumeSet⟩ := accepted.optional
    (show ResourceKind.computePool.schema.attribute? "auto_resume" = some _ from rfl)
    fun _ => AttributeType.fault?_bool_eq_none_iff.mp
  obtain ⟨autoSuspendSecs?, suspendSet⟩ := accepted.optional
    (show ResourceKind.computePool.schema.attribute? "auto_suspend_secs" = some _ from rfl)
    fun _ fits => (AttributeType.fault?_nonNegativeInt_eq_none_iff.mp fits).imp fun _ => And.left
  obtain ⟨comment?, commentSet⟩ := accepted.optional
    (show ResourceKind.computePool.schema.attribute? "comment" = some _ from rfl)
    fun _ => AttributeType.fault?_string_eq_none_iff.mp
  exact ⟨⟨minNodes, maxNodes, autoResume?, autoSuspendSecs?, comment?⟩,
    minSet, maxSet, resumeSet, suspendSet, commentSet⟩

structure Shows (current : Attributes) (pool : ComputePool) : Prop where
  minNodes : current.get? "min_nodes" = some (.int pool.minNodes)
  maxNodes : current.get? "max_nodes" = some (.int pool.maxNodes)
  autoResume : current.get? "auto_resume" = some (.bool pool.autoResume)
  autoSuspendSecs : current.get? "auto_suspend_secs" = some (.int pool.autoSuspendSecs)
  comment : current.get? "comment" = if pool.comment = "" then none else some (.string pool.comment)

theorem shows_attributes (pool : ComputePool) : Shows (attributes pool) pool := by
  constructor
  · simp only [attributes, Table.ofList]
    split <;> simp [Table.get?_insert]
  · simp only [attributes, Table.ofList]
    split <;> simp [Table.get?_insert]
  · simp only [attributes, Table.ofList]
    split <;> simp [Table.get?_insert]
  · simp only [attributes, Table.ofList]
    split <;> simp [Table.get?_insert]
  · simp only [attributes, Table.ofList]
    split <;> simp [Table.get?_insert]

theorem default_autoResume :
    (ResourceKind.computePool.schema.attribute? "auto_resume").bind Attribute.default? =
      some (.bool true) := rfl

theorem default_autoSuspendSecs :
    (ResourceKind.computePool.schema.attribute? "auto_suspend_secs").bind Attribute.default? =
      some (.int 600) := rfl

theorem default_comment :
    (ResourceKind.computePool.schema.attribute? "comment").bind Attribute.default? = none := rfl

def Apart (reset : ComputePool.Reset) (assignment : ComputePool.Assignment) : Prop :=
  ∀ field ∈ reset.form.fields, field.arg.isPresent →
    ∀ other ∈ assignment.form.fields, other.arg.isPresent → other.name ≠ field.name

theorem apart_iff {reset : ComputePool.Reset} {assignment : ComputePool.Assignment} :
    Apart reset assignment ↔
      ¬(reset.autoSuspendSecs?.isSome ∧ assignment.autoSuspendSecs?.isSome) ∧
        ¬(reset.autoResume?.isSome ∧ assignment.autoResume?.isSome) ∧
        ¬(reset.comment?.isSome ∧ assignment.comment?.isSome) := by
  simp [Apart, ComputePool.Reset.form, ComputePool.Assignment.form]

theorem assignment_settles {current wanted : Attributes} {pool : ComputePool} {declared : Declared}
    (shows : Shows current pool) (declares : Declares wanted declared) :
    ∃ assignment, PoolResource.assignment current wanted = .ok assignment ∧
      let reset := PoolResource.reset ResourceKind.computePool.schema current wanted
      Apart reset assignment ∧
        (pool.reset reset).assign assignment = declared.apply pool ∧
        (pool.assign assignment).reset reset = declared.apply pool := by
  have minSet : wanted.get? "min_nodes" = (some declared.minNodes).map .int := declares.minNodes
  have maxSet : wanted.get? "max_nodes" = (some declared.maxNodes).map .int := declares.maxNodes
  have commentShown : current.get? "comment" = some (.string pool.comment) ∨
      current.get? "comment" = none ∧ pool.comment = "" := by
    rw [shows.comment]
    by_cases blank : pool.comment = ""
    · exact .inr ⟨if_pos blank, blank⟩
    · exact .inl (if_neg blank)
  obtain ⟨minNodes?, minAssigned, minSettled, -⟩ :=
    ifChanged_settles "an integer" Value.int Value.asInt? (fun _ => rfl) (by simp) minSet
      fun value held => Option.some.inj (held.symm.trans shows.minNodes)
  obtain ⟨maxNodes?, maxAssigned, maxSettled, -⟩ :=
    ifChanged_settles "an integer" Value.int Value.asInt? (fun _ => rfl) (by simp) maxSet
      fun value held => Option.some.inj (held.symm.trans shows.maxNodes)
  obtain ⟨autoResume?, resumeAssigned, resumeSettled, resumeReset, resumeOnce⟩ :=
    property_settles "a boolean" Value.bool Value.asBool? true ResourceKind.computePool.schema
      (fun _ => rfl) (by simp) declares.autoResume (.inl shows.autoResume)
      (by simp [default_autoResume, isCustom])
  obtain ⟨autoSuspendSecs?, suspendAssigned, suspendSettled, suspendReset, suspendOnce⟩ :=
    property_settles "an integer" Value.int Value.asInt? 600 ResourceKind.computePool.schema
      (fun _ => rfl) (by simp) declares.autoSuspendSecs (.inl shows.autoSuspendSecs)
      (by simp [default_autoSuspendSecs, isCustom])
  obtain ⟨comment?, commentAssigned, commentSettled, commentReset, commentOnce⟩ :=
    property_settles "a string" Value.string Value.asString? "" ResourceKind.computePool.schema
      (fun _ => rfl) (by simp) declares.comment commentShown (by simp [default_comment, isCustom])
  refine ⟨{ minNodes?, maxNodes?, autoResume?, autoSuspendSecs?, comment? }, ?_, ?_, ?_, ?_⟩
  · simp only [assignment_eq, Attributes.int?, Attributes.bool?, Attributes.string?, minAssigned,
      maxAssigned, resumeAssigned, suspendAssigned, commentAssigned]
    rfl
  · exact apart_iff.mpr ⟨suspendOnce, resumeOnce, commentOnce⟩
  · simp only [ComputePool.assign, ComputePool.reset, Declared.apply, ComputePool.mk.injEq,
      true_and]
    exact ⟨minSettled, maxSettled, suspendSettled, resumeSettled, commentSettled⟩
  · simp only [ComputePool.assign, ComputePool.reset, Declared.apply, ComputePool.mk.injEq,
      true_and]
    exact ⟨minSettled, maxSettled, suspendReset, resumeReset, commentReset⟩

theorem getD_unless_eq {γ : Type} [DecidableEq γ] (given empty : γ) :
    (if given = empty then none else some given).getD empty = given := by
  by_cases same : given = empty
  · simp [same]
  · simp [same]

def Changes.Disjoint (changes : Changes) : Prop :=
  ∀ reset ∈ changes.reset?, ∀ assignment ∈ changes.assignment?, Apart reset assignment

theorem changes_settle {current wanted : Attributes} {pool : ComputePool} {declared : Declared}
    (shows : Shows current pool) (declares : Declares wanted declared) :
    ∃ changes, PoolResource.changes ResourceKind.computePool.schema current wanted = .ok changes ∧
      changes.Disjoint ∧
      (pool.reset (changes.reset?.getD {})).assign (changes.assignment?.getD {}) =
        declared.apply pool ∧
      (pool.assign (changes.assignment?.getD {})).reset (changes.reset?.getD {}) =
        declared.apply pool := by
  obtain ⟨assignment, assigned, apart, settled⟩ := assignment_settles shows declares
  let reset := PoolResource.reset ResourceKind.computePool.schema current wanted
  let changes : Changes := {
    reset? := if reset = {} then none else some reset
    assignment? := if assignment = {} then none else some assignment }
  have resetGiven : changes.reset?.getD {} = reset := getD_unless_eq reset {}
  have assignmentGiven : changes.assignment?.getD {} = assignment := getD_unless_eq assignment {}
  refine ⟨changes, bind_eq_ok_iff.mpr ⟨assignment, assigned, rfl⟩, ?_, ?_⟩
  · intro given resets other assigns
    rw [Option.mem_def.mp resets, Option.getD_some] at resetGiven
    rw [Option.mem_def.mp assigns, Option.getD_some] at assignmentGiven
    rw [resetGiven, assignmentGiven]
    exact apart
  · rw [resetGiven, assignmentGiven]
    exact settled

theorem Declared.apply_eq {pool other : ComputePool} (same : pool.SameElsewhere other)
    (declared : Declared) : declared.apply other = declared.apply pool := by
  rw [same]
  rfl

/-- The value that is declared or, where none is, the default; a comment is empty by default. -/
def settledValue (wanted : Attributes) (key : String) : Value :=
  ((wanted.get? key).or ((ResourceKind.computePool.schema.attribute? key).bind
    Attribute.default?)).getD (.string "")

structure Meets (wanted : Attributes) (pool : ComputePool) : Prop where
  minNodes : .int pool.minNodes = settledValue wanted "min_nodes"
  maxNodes : .int pool.maxNodes = settledValue wanted "max_nodes"
  autoResume : .bool pool.autoResume = settledValue wanted "auto_resume"
  autoSuspendSecs : .int pool.autoSuspendSecs = settledValue wanted "auto_suspend_secs"
  comment : .string pool.comment = settledValue wanted "comment"

theorem Declares.meets {wanted : Attributes} {declared : Declared}
    (declares : Declares wanted declared) (pool : ComputePool) :
    Meets wanted (declared.apply pool) := by
  constructor
  · simp [settledValue, declares.minNodes, Declared.apply]
  · simp [settledValue, declares.maxNodes, Declared.apply]
  · rw [settledValue, declares.autoResume, Declared.apply]
    cases declared.autoResume? with
    | none => rfl
    | some truth => rfl
  · rw [settledValue, declares.autoSuspendSecs, Declared.apply]
    cases declared.autoSuspendSecs? with
    | none => rfl
    | some seconds => rfl
  · rw [settledValue, declares.comment, Declared.apply]
    cases declared.comment? with
    | none => rfl
    | some text => rfl

end Provision.PoolResource
