import Provision.Proofs.AcceptedRequests

/-!
Which resources may be wanted. A creation fills in defaults before it checks the attributes and an
update does not, but the defaults change nothing about what is valid; so both turn away the same
resources, for the same faults, before anything is sent.
-/

namespace Provision

open Attempt

def FaultCause.isInvalid : FaultCause → Bool
  | invalidAttributes _ => true
  | _ => false

/-- The type is known, and its schema finds these faults with the attributes. -/
def ResourceId.TurnsAway (id : ResourceId) (attributes : Attributes)
    (faults : List AttributeFault) : Prop :=
  ∃ kind, ResourceKind.ofName? id.resourceType = some kind ∧
    kind.schema.faults attributes = faults ∧ faults ≠ []

namespace Operation

variable {connection : Connection} {before : List Statement} {config : Config}
  {identifier : String} {cause : FaultCause}

theorem valid_withDefaults (kind : ResourceKind) (attributes : Attributes) :
    valid kind.schema (kind.schema.withDefaults attributes) = valid kind.schema attributes := by
  rw [valid, Schema.faults_withDefaults attributes kind.defaultsFit, valid]

/-! Only the check of the attributes finds faults with them. -/

theorem isInvalid_of_accountId (failed : accountId identifier = .error cause) :
    cause.isInvalid = false := by
  grind [accountId, FaultCause.isInvalid]

theorem isInvalid_of_schemaId (failed : schemaId identifier = .error cause) :
    cause.isInvalid = false := by
  grind [schemaId, FaultCause.isInvalid]

theorem isInvalid_of_ask {resourceType : String} {lookup : Lookup}
    (supported : Lookup.ofType? resourceType = some lookup)
    (failed : lookup.ask identifier = .error cause) : cause.isInvalid = false := by
  rcases Lookup.ofType?_eq_some_iff.mp supported with ⟨-, rfl⟩ | ⟨-, rfl⟩
  · rcases bind_eq_error_iff.mp failed with undecoded | ⟨pool, -, impossible⟩
    · exact isInvalid_of_accountId undecoded
    · cases impossible
  · rcases bind_eq_error_iff.mp failed with undecoded | ⟨repository, -, impossible⟩
    · exact isInvalid_of_schemaId undecoded
    · cases impossible

theorem isInvalid_of_read {id : ResourceId} {identifier? : Option String} {fault : Fault}
    (failed : (play connection before (read config id identifier?)).1 = .error fault) :
    fault.cause.isInvalid = false := by
  cases identifier? with
  | none => simp [play_read_none] at failed
  | some identifier =>
      cases supported : Lookup.ofType? id.resourceType with
      | none =>
          rw [play_read_unsupported connection before supported] at failed
          obtain rfl := Except.error.inj failed
          rfl
      | some lookup =>
          cases asked : lookup.ask identifier with
          | error cause =>
              rw [play_read connection before config identifier supported, asked] at failed
              obtain rfl := Except.error.inj failed
              exact isInvalid_of_ask supported asked
          | ok question =>
              rcases read_asked connection before supported asked with ⟨-, refused⟩ | ⟨-, failing⟩
              · rw [refused] at failed
                obtain rfl := Except.error.inj failed
                rfl
              · obtain ⟨failure, -, rfl⟩ := failing fault failed
                rfl

theorem isInvalid_of_performAll_read {action : Action} {id : ResourceId}
    {statements : List Statement} {identifier? : Option String} {fault : Fault}
    (failed : (play connection before (do
      performAll config action id statements
      read config id identifier?)).1 = .error fault) : fault.cause.isInvalid = false := by
  obtain ⟨result, sent, -, played⟩ :=
    play_performAll connection before config action id statements
  cases result with
  | error failure =>
      rw [play_bind_error played] at failed
      obtain rfl := Except.error.inj failed
      rfl
  | ok _ =>
      rw [play_bind_ok played] at failed
      exact isInvalid_of_read failed

section

variable {resource : Resource} {kind : ResourceKind}
  (known : ResourceKind.ofName? resource.id.resourceType = some kind)
include known

theorem creation_of_invalid (refused : valid kind.schema resource.attributes = .error cause) :
    creation config resource = .error cause := by
  simp only [creation, known, valid_withDefaults, refused]
  rfl

theorem isInvalid_of_creation (passed : valid kind.schema resource.attributes = .ok ())
    (failed : creation config resource = .error cause) : cause.isInvalid = false := by
  rw [← valid_withDefaults] at passed
  have accepted := valid_eq_ok_iff.mp passed
  simp only [creation, known, passed] at failed
  cases kind with
  | computePool =>
      obtain ⟨request, requested, -⟩ := PoolResource.exists_createRequest accepted
      rw [requested] at failed
      cases failed
  | imageRepository =>
      rcases RepositoryResource.repositoryId_cases config accepted with ⟨repository, located⟩ |
        ⟨unplaced, -⟩
      · rw [located] at failed
        cases failed
      · rw [unplaced] at failed
        obtain rfl := Except.error.inj failed
        rfl
  | computePools | imageRepositories =>
      obtain rfl := Except.error.inj failed
      rfl

end

section

variable {id : ResourceId} {wanted : Resource} {kind : ResourceKind} {current : Attributes}
  (known : ResourceKind.ofName? id.resourceType = some kind)
include known

theorem alterations_of_invalid (refused : valid kind.schema wanted.attributes = .error cause) :
    alterations id identifier current wanted = .error (.about id cause) := by
  simp only [alterations, known, refused]
  rfl

theorem isInvalid_of_alterations {fault : Fault}
    (passed : valid kind.schema wanted.attributes = .ok ())
    (failed : alterations id identifier current wanted = .error fault) :
    fault.cause.isInvalid = false := by
  have accepted := valid_eq_ok_iff.mp passed
  simp only [alterations, known, passed] at failed
  cases replaced : replacement? kind.schema current wanted.attributes with
  | some name =>
      rw [replaced] at failed
      obtain rfl := Except.error.inj failed
      rfl
  | none =>
      rw [replaced] at failed
      obtain ⟨cause, refused, rfl⟩ := mapError_eq_error_iff.mp failed
      cases kind with
      | computePool =>
          obtain ⟨changes, told⟩ :=
            PoolResource.exists_changes accepted ResourceKind.computePool.schema current
          rcases bind_eq_error_iff.mp refused with undecoded | ⟨pool, -, refused⟩
          · exact isInvalid_of_accountId undecoded
          · rw [told] at refused
            cases refused
      | imageRepository =>
          rcases bind_eq_error_iff.mp refused with undecoded | ⟨repository, -, impossible⟩
          · exact isInvalid_of_schemaId undecoded
          · cases impossible
      | computePools | imageRepositories =>
          obtain rfl := Except.error.inj refused
          rfl

end

variable {id : ResourceId} {resource : Resource} {faults : List AttributeFault}

theorem turnsAway_of_valid {attributes : Attributes} {kind : ResourceKind}
    (known : ResourceKind.ofName? id.resourceType = some kind)
    (refused : valid kind.schema attributes = .error (.invalidAttributes faults)) :
    id.TurnsAway attributes faults := by
  obtain ⟨same, some⟩ := valid_eq_error_iff.mp refused
  obtain rfl := FaultCause.invalidAttributes.inj same
  exact ⟨kind, known, rfl, some⟩

theorem creation_invalid_iff :
    creation config resource = .error (.invalidAttributes faults) ↔
      resource.id.TurnsAway resource.attributes faults := by
  constructor
  · intro made
    cases known : ResourceKind.ofName? resource.id.resourceType with
    | none => simp [creation, known] at made
    | some kind =>
        cases passed : valid kind.schema resource.attributes with
        | ok _ => cases isInvalid_of_creation known passed made
        | error cause =>
            rw [creation_of_invalid known passed] at made
            obtain rfl := Except.error.inj made
            exact turnsAway_of_valid known passed
  · rintro ⟨kind, known, rfl, some⟩
    exact creation_of_invalid known (valid_eq_error_iff.mpr ⟨rfl, some⟩)

theorem alterations_invalid_iff {current : Attributes} :
    alterations id identifier current resource = .error (.about id (.invalidAttributes faults)) ↔
      id.TurnsAway resource.attributes faults := by
  constructor
  · intro made
    cases known : ResourceKind.ofName? id.resourceType with
    | none => simp [alterations, known, Fault.about] at made
    | some kind =>
        cases passed : valid kind.schema resource.attributes with
        | ok _ => cases isInvalid_of_alterations known passed made
        | error cause =>
            rw [alterations_of_invalid known passed] at made
            cases made
            exact turnsAway_of_valid known passed
  · rintro ⟨kind, known, rfl, some⟩
    exact alterations_of_invalid known (valid_eq_error_iff.mpr ⟨rfl, some⟩)

/-! What comes after the checks finds no such faults. -/

theorem play_create_invalid_iff :
    play connection before (create config resource) =
        (.error (.about resource.id (.invalidAttributes faults)), before) ↔
      resource.id.TurnsAway resource.attributes faults := by
  rw [← creation_invalid_iff]
  constructor
  · intro turnedAway
    cases made : creation config resource with
    | ok pair =>
        rw [play_create_made made] at turnedAway
        cases isInvalid_of_performAll_read (congrArg Prod.fst turnedAway)
    | error cause =>
        rw [play_create_refused made] at turnedAway
        cases turnedAway
        rfl
  · exact play_create_refused

theorem play_update_invalid_iff {current : Attributes} :
    play connection before (update config id identifier current resource) =
        (.error (.about id (.invalidAttributes faults)), before) ↔
      id.TurnsAway resource.attributes faults := by
  rw [← alterations_invalid_iff]
  constructor
  · intro turnedAway
    cases made : alterations id identifier current resource with
    | ok statements =>
        rw [play_update_made made] at turnedAway
        cases isInvalid_of_performAll_read (congrArg Prod.fst turnedAway)
    | error fault =>
        rw [play_update_refused made] at turnedAway
        cases turnedAway
        rfl
  · exact play_update_refused

end Operation

/-- Defaults that fit keep what is set, add what is missing and change nothing about what is valid,
in whatever order the attributes are gone through; so a creation, which fills them in, and an
update, which does not, turn away the same resources. -/
theorem defaults_keep_validity {schema : Schema} (fits : schema.DefaultsFit)
    (attributes : Attributes) :
    let filled := schema.withDefaults attributes
    ((schema.faults attributes = [] ↔ schema.faults filled = []) ∧
      (schema.faults filled).Perm (schema.faults attributes)) ∧
    (∀ name, filled.get? name =
      (attributes.get? name).or ((schema.attribute? name).bind Attribute.default?)) ∧
    schema.withDefaults filled = filled ∧
    (∀ (other : Schema) (reordered : Attributes),
      other.attributes.entries.Perm schema.attributes.entries →
      reordered.entries.Perm attributes.entries →
        (other.withDefaults reordered).entries.Perm filled.entries ∧
        (other.faults reordered).Perm (schema.faults filled) ∧
        (other.faults (other.withDefaults reordered)).Perm (schema.faults attributes)) ∧
    ∀ config connection before resource id identifier current faults,
      id.resourceType = resource.id.resourceType →
        (Attempt.play connection before (Operation.create config resource) =
            (.error (.about resource.id (.invalidAttributes faults)), before) ↔
          Attempt.play connection before (Operation.update config id identifier current resource) =
            (.error (.about id (.invalidAttributes faults)), before)) := by
  intro filled
  have same : schema.faults filled = schema.faults attributes :=
    Schema.faults_withDefaults attributes fits
  refine ⟨⟨by rw [same], by rw [same]⟩, schema.get?_withDefaults attributes,
    schema.withDefaults_withDefaults attributes, ?_, ?_⟩
  · intro other reordered sameSchema sameAttributes
    have sameFilled : (other.withDefaults reordered).entries.Perm filled.entries :=
      Schema.perm_withDefaults sameSchema sameAttributes
    refine ⟨sameFilled, ?_, ?_⟩
    · rw [same]
      exact Schema.perm_faults sameSchema sameAttributes
    · rw [← same]
      exact Schema.perm_faults sameSchema sameFilled
  · intro config connection before resource id identifier current faults sameType
    rw [Operation.play_create_invalid_iff, Operation.play_update_invalid_iff,
      ResourceId.TurnsAway, ← sameType, ← ResourceId.TurnsAway]

def unsizedPool : Resource where
  id := ⟨"compute_pool", "pool"⟩
  attributes := .ofList [("name", .string "POOL"), ("min_nodes", .int 0)]

theorem unsizedPool_turned_away :
    let schema := ResourceKind.computePool.schema
    let filled := schema.withDefaults unsizedPool.attributes
    let swapped : Attributes := .ofList [("min_nodes", .int 0), ("name", .string "POOL")]
    schema.DefaultsFit ∧ schema.faults filled ≠ [] ∧
    filled.get? "auto_suspend_secs" = some (.int 600) ∧
    (schema.withDefaults swapped).entries.Perm filled.entries ∧
    ∀ connection,
      Attempt.play connection [] (Operation.update {} unsizedPool.id "POOL" ∅ unsizedPool) =
        (.error (.about unsizedPool.id
          (.invalidAttributes (schema.faults unsizedPool.attributes))), []) := by
  intro schema filled swapped
  have faulty : schema.faults unsizedPool.attributes ≠ [] := by
    intro faultless
    have complete := (Schema.byMessage_eq_nil_iff.mp (List.append_eq_nil_iff.mp faultless).1)
    cases complete
  obtain ⟨⟨valid_iff, -⟩, holds, -, reorder, turnAway⟩ :=
    defaults_keep_validity (ResourceKind.defaultsFit .computePool) unsizedPool.attributes
  refine ⟨ResourceKind.defaultsFit .computePool, fun none => faulty (valid_iff.mpr none),
    (holds _).trans rfl, (reorder schema swapped (.refl _) (.swap _ _ _)).1, fun connection => ?_⟩
  refine (turnAway {} connection [] unsizedPool unsizedPool.id "POOL" ∅ _ rfl).mp ?_
  exact Operation.play_create_invalid_iff.mpr ⟨.computePool, rfl, rfl, faulty⟩

end Provision
