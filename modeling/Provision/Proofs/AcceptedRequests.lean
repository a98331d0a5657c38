import Provision.Proofs.PoolCreation

/-!
What a schema accepts is enough for the requests that are made of it: none of them fails for an
attribute that is missing or of a wrong type. A repository may still lack a place, and a pool a
valid name or a family.
-/

namespace Provision

open ComputePool

namespace PoolResource

variable {wanted : Attributes}

theorem exists_createRequest (accepted : ResourceKind.computePool.schema.Accepts wanted) :
    ∃ request, createRequest wanted = .ok request ∧
      wanted.get? "name" = some (.string request.name.name) ∧
      wanted.get? "instance_family" = some (.string request.instanceFamily) ∧
      request.minNodes ≠ 0 ∧ request.maxNodes ≠ 0 := by
  obtain ⟨declared, declares⟩ := exists_declares accepted
  obtain ⟨name, family, named, ofFamily⟩ := exists_identity accepted
  obtain ⟨suspended?, suspended⟩ := accepted.optional
    (show ResourceKind.computePool.schema.attribute? "initially_suspended" = some _ from rfl)
    fun _ => AttributeType.fault?_bool_eq_none_iff.mp
  have minNodes : 0 < declared.minNodes :=
    accepted.pos_of_get? (show _ = some _ from rfl) rfl declares.minNodes
  have maxNodes : 0 < declared.maxNodes :=
    accepted.pos_of_get? (show _ = some _ from rfl) rfl declares.maxNodes
  exact ⟨_, createRequest_of_declares declares named ofFamily suspended, named, ofFamily,
    Int.ne_of_gt minNodes, Int.ne_of_gt maxNodes⟩

theorem exists_ifChanged {α : Type} {value? : Except FaultCause (Option α)} {found? : Option α}
    (current : Attributes) (key : String) (found : value? = .ok found?) :
    ∃ assigned?, ifChanged current wanted key value? = .ok assigned? := by
  rw [ifChanged, found]
  split
  next => exact ⟨found?, rfl⟩
  next => exact ⟨none, rfl⟩

theorem exists_changes (accepted : ResourceKind.computePool.schema.Accepts wanted)
    (schema : Schema) (current : Attributes) :
    ∃ changes, PoolResource.changes schema current wanted = .ok changes := by
  obtain ⟨declared, declares⟩ := exists_declares accepted
  have minSet : wanted.get? "min_nodes" = (some declared.minNodes).map .int := declares.minNodes
  have maxSet : wanted.get? "max_nodes" = (some declared.maxNodes).map .int := declares.maxNodes
  obtain ⟨minNodes?, minNodes⟩ :=
    exists_ifChanged current "min_nodes" (Attributes.int?_of_get? minSet)
  obtain ⟨maxNodes?, maxNodes⟩ :=
    exists_ifChanged current "max_nodes" (Attributes.int?_of_get? maxSet)
  obtain ⟨autoResume?, autoResume⟩ :=
    exists_ifChanged current "auto_resume" (Attributes.bool?_of_get? declares.autoResume)
  obtain ⟨autoSuspendSecs?, autoSuspendSecs⟩ :=
    exists_ifChanged current "auto_suspend_secs" (Attributes.int?_of_get? declares.autoSuspendSecs)
  obtain ⟨comment?, comment⟩ :=
    exists_ifChanged current "comment" (Attributes.string?_of_get? declares.comment)
  refine ⟨_, bind_eq_ok_iff.mpr
    ⟨{ minNodes?, maxNodes?, autoResume?, autoSuspendSecs?, comment? }, ?_, rfl⟩⟩
  rw [assignment_eq, minNodes, maxNodes, autoResume, autoSuspendSecs, comment]
  rfl

theorem exists_showRequest (accepted : ResourceKind.computePools.schema.Accepts wanted) :
    ∃ request, showRequest wanted = .ok request ∧ ∀ limit ∈ request.limit?, limit.rows ≠ 0 := by
  obtain ⟨like?, like⟩ := accepted.text?
    (show ResourceKind.computePools.schema.attribute? "like" = some _ from rfl) rfl
  obtain ⟨startsWith?, startsWith⟩ := accepted.text?
    (show ResourceKind.computePools.schema.attribute? "starts_with" = some _ from rfl) rfl
  have limited : ResourceKind.computePools.schema.attribute? "limit" = some _ := rfl
  obtain ⟨limit?, limit⟩ := accepted.optional limited
    fun _ fits => (AttributeType.fault?_positiveInt_eq_none_iff.mp fits).imp fun _ => And.left
  refine ⟨{ like?, startsWith?, limit? := limit?.map fun rows => { rows } }, ?_, ?_⟩
  · rw [showRequest, Attributes.string?_of_get? like, Attributes.string?_of_get? startsWith,
      Attributes.int?_of_get? limit]
    rfl
  · intro given member
    obtain ⟨rows, rfl, rfl⟩ := Option.map_eq_some_iff.mp member
    exact Int.ne_of_gt (accepted.pos_of_get? limited rfl limit)

end PoolResource

namespace RepositoryResource

variable {config : Config} {wanted : Attributes}

theorem located_of_get? {key : String} {given? default? : Option String}
    (set : wanted.get? key = given?.map .string) :
    located wanted key default? = .ok (given?.or default?) := by
  rw [located, Attributes.string?_of_get? set]
  rfl

theorem repositoryId_eq (config : Config) {name : String} {database? schema? : Option String}
    (named : wanted.get? "name" = some (.string name))
    (ofDatabase : wanted.get? "database" = database?.map .string)
    (ofSchema : wanted.get? "schema" = schema?.map .string) :
    repositoryId config wanted =
      match database?.or config.defaultDatabase?, schema?.or config.defaultSchema? with
      | some database, some schema => .ok ⟨database, schema, name⟩
      | _, _ => .error .scopeUnknown := by
  rw [repositoryId, Attributes.string_of_get? named, located_of_get? ofDatabase,
    located_of_get? ofSchema]
  rfl

theorem repositoryId_eq_ok_iff {name : String} {database? schema? : Option String}
    {repository : SchemaId} (named : wanted.get? "name" = some (.string name))
    (ofDatabase : wanted.get? "database" = database?.map .string)
    (ofSchema : wanted.get? "schema" = schema?.map .string) :
    repositoryId config wanted = .ok repository ↔
      database?.or config.defaultDatabase? = some repository.database ∧
        schema?.or config.defaultSchema? = some repository.schema ∧ name = repository.name := by
  obtain ⟨database, schema, name'⟩ := repository
  rw [repositoryId_eq config named ofDatabase ofSchema]
  cases database?.or config.defaultDatabase? with
  | none => simp
  | some database =>
      cases schema?.or config.defaultSchema? with
      | none => simp
      | some schema => simp

theorem exists_declared (accepted : ResourceKind.imageRepository.schema.Accepts wanted) :
    ∃ (name : String) (database? schema? : Option String),
      wanted.get? "name" = some (.string name) ∧
      wanted.get? "database" = database?.map .string ∧
      wanted.get? "schema" = schema?.map .string := by
  obtain ⟨name, named⟩ := accepted.text
    (show ResourceKind.imageRepository.schema.attribute? "name" = some _ from rfl) rfl rfl rfl
  obtain ⟨database?, ofDatabase⟩ := accepted.text?
    (show ResourceKind.imageRepository.schema.attribute? "database" = some _ from rfl) rfl
  obtain ⟨schema?, ofSchema⟩ := accepted.text?
    (show ResourceKind.imageRepository.schema.attribute? "schema" = some _ from rfl) rfl
  exact ⟨name, database?, schema?, named, ofDatabase, ofSchema⟩

theorem contains_of_get? {key : String} {given? : Option String}
    (set : wanted.get? key = given?.map .string) : wanted.contains key = given?.isSome := by
  simp [Table.contains, set]

theorem repositoryId_cases (config : Config)
    (accepted : ResourceKind.imageRepository.schema.Accepts wanted) :
    (∃ repository, repositoryId config wanted = .ok repository) ∨
      repositoryId config wanted = .error .scopeUnknown ∧
        (¬wanted.contains "database" ∧ config.defaultDatabase? = none ∨
          ¬wanted.contains "schema" ∧ config.defaultSchema? = none) := by
  obtain ⟨name, database?, schema?, named, ofDatabase, ofSchema⟩ := exists_declared accepted
  rw [repositoryId_eq config named ofDatabase ofSchema, contains_of_get? ofDatabase,
    contains_of_get? ofSchema]
  cases placed : database?.or config.defaultDatabase? with
  | none =>
      refine .inr ⟨rfl, .inl ?_⟩
      simpa [Option.or_eq_none_iff] using placed
  | some database =>
      cases housed : schema?.or config.defaultSchema? with
      | none =>
          refine .inr ⟨rfl, .inr ?_⟩
          simpa [Option.or_eq_none_iff] using housed
      | some schema => exact .inl ⟨_, rfl⟩

theorem showRequest_cases (config : Config)
    (accepted : ResourceKind.imageRepositories.schema.Accepts wanted) :
    (∃ request, showRequest config wanted = .ok request) ∨
      showRequest config wanted = .error .databaseUnknown ∧
        wanted.contains "schema" ∧ ¬wanted.contains "database" ∧
          config.defaultDatabase? = none := by
  obtain ⟨like?, like⟩ := accepted.text?
    (show ResourceKind.imageRepositories.schema.attribute? "like" = some _ from rfl) rfl
  obtain ⟨database?, ofDatabase⟩ := accepted.text?
    (show ResourceKind.imageRepositories.schema.attribute? "database" = some _ from rfl) rfl
  obtain ⟨schema?, ofSchema⟩ := accepted.text?
    (show ResourceKind.imageRepositories.schema.attribute? "schema" = some _ from rfl) rfl
  rw [showRequest, Attributes.string?_of_get? like, located_of_get? ofDatabase,
    Attributes.string?_of_get? ofSchema, contains_of_get? ofDatabase,
    contains_of_get? ofSchema]
  simp only [bind, Except.bind]
  cases placed : database?.or config.defaultDatabase? with
  | some database =>
      cases schema? with
      | some schema => exact .inl ⟨_, rfl⟩
      | none =>
          left
          dsimp only
          split
          next => exact ⟨_, rfl⟩
          next => exact ⟨_, rfl⟩
  | none =>
      cases schema? with
      | some schema =>
          refine .inr ⟨rfl, rfl, ?_⟩
          simpa [Option.or_eq_none_iff] using placed
      | none => exact .inl ⟨_, rfl⟩

end RepositoryResource

open Operation

/-- Every request can be made of what the schema accepts, but for a repository without a place. The
creation of a pool then lacks at most a valid name and a family, and the changes of a pool, like
its listing, lack nothing. -/
theorem requests_of_valid (config : Config) (given : Attributes) :
    (let filled := ResourceKind.computePool.schema.withDefaults given
     valid ResourceKind.computePool.schema filled = .ok () →
        ∃ request, PoolResource.createRequest filled = .ok request ∧
          filled.get? "name" = some (.string request.name.name) ∧
          filled.get? "instance_family" = some (.string request.instanceFamily) ∧
          (Statement.createPool request).form.violations =
            (if request.name.toIdentifier.isValid then [] else [.invalidIdentifier "name"]) ++
              if request.instanceFamily = "" then
                [.missing "CreateComputePoolOptions" "InstanceFamily"] else []) ∧
    (valid ResourceKind.computePool.schema given = .ok () → ∀ current,
      ∃ changes, PoolResource.changes ResourceKind.computePool.schema current given = .ok changes ∧
        ∀ pool : AccountId, pool.toIdentifier.isValid →
          (∀ reset ∈ changes.reset?,
            (Statement.alterPool { name := pool, unset? := some reset }).form.violations = []) ∧
          ∀ assignment ∈ changes.assignment?,
            (Statement.alterPool { name := pool, set? := some assignment }).form.violations = []) ∧
    (valid ResourceKind.computePools.schema given = .ok () →
      ∃ request, PoolResource.showRequest given = .ok request ∧
        (Statement.showPools request).form.violations = []) ∧
    (let filled := ResourceKind.imageRepository.schema.withDefaults given
     valid ResourceKind.imageRepository.schema filled = .ok () →
        (∃ repository, RepositoryResource.repositoryId config filled = .ok repository) ∨
          RepositoryResource.repositoryId config filled = .error .scopeUnknown ∧
            (¬filled.contains "database" ∧ config.defaultDatabase? = none ∨
              ¬filled.contains "schema" ∧ config.defaultSchema? = none)) ∧
    (valid ResourceKind.imageRepositories.schema given = .ok () →
      (∃ request, RepositoryResource.showRequest config given = .ok request) ∨
        RepositoryResource.showRequest config given = .error .databaseUnknown ∧
          given.contains "schema" ∧ ¬given.contains "database" ∧
            config.defaultDatabase? = none) := by
  refine ⟨fun passed => ?_, fun passed current => ?_, fun passed => ?_, fun passed => ?_,
    fun passed => ?_⟩
  · obtain ⟨request, requested, named, ofFamily, minNodes, maxNodes⟩ :=
      PoolResource.exists_createRequest (valid_eq_ok_iff.mp passed)
    exact ⟨request, requested, named, ofFamily, Statement.createPool_violations minNodes maxNodes⟩
  · obtain ⟨changes, derived⟩ :=
      PoolResource.exists_changes (valid_eq_ok_iff.mp passed) _ current
    refine ⟨changes, derived, fun pool named => ⟨?_, ?_⟩⟩
    · intro reset resets
      refine (PoolResource.statements_accepted_iff derived pool ?_).mpr named
      exact List.mem_append_left _ (List.mem_map_of_mem (Option.mem_toList.mpr resets))
    · intro assignment assigns
      refine (PoolResource.statements_accepted_iff derived pool ?_).mpr named
      exact List.mem_append_right _ (List.mem_map_of_mem (Option.mem_toList.mpr assigns))
  · obtain ⟨request, requested, limited⟩ :=
      PoolResource.exists_showRequest (valid_eq_ok_iff.mp passed)
    exact ⟨request, requested, (Statement.showPools_accepted_iff request).mpr limited⟩
  · exact RepositoryResource.repositoryId_cases config (valid_eq_ok_iff.mp passed)
  · exact RepositoryResource.showRequest_cases config (valid_eq_ok_iff.mp passed)

def nameless : Attributes := .ofList [
  ("name", .string ""),
  ("min_nodes", .int 1),
  ("max_nodes", .int 2),
  ("instance_family", .string ""),
  ("zone", .list [])]

theorem valid_nameless (kind : ResourceKind) : valid kind.schema nameless = .ok () := by
  refine valid_eq_ok_iff.mpr (Schema.faults_eq_nil_iff.mp ?_)
  cases kind with
  | computePool | imageRepository | computePools | imageRepositories =>
      exact Schema.faults_eq_nil_of (by rfl) (by rfl)

theorem requests_of_nameless :
    (∃ request,
      PoolResource.createRequest (ResourceKind.computePool.schema.withDefaults nameless) =
        .ok request ∧
      (Statement.createPool request).form.violations =
        [.invalidIdentifier "name", .missing "CreateComputePoolOptions" "InstanceFamily"]) ∧
    (∃ changes, PoolResource.changes ResourceKind.computePool.schema ∅ nameless = .ok changes) ∧
    (∃ request, PoolResource.showRequest nameless = .ok request) ∧
    RepositoryResource.repositoryId {} (ResourceKind.imageRepository.schema.withDefaults nameless) =
      .error .scopeUnknown ∧
    ∃ request, RepositoryResource.showRequest {} nameless = .ok request := by
  have filled (kind : ResourceKind) :
      valid kind.schema (kind.schema.withDefaults nameless) = .ok () :=
    valid_eq_ok_iff.mpr (valid_eq_ok_iff.mp (valid_nameless kind)).withDefaults
  obtain ⟨created, changed, listed, placed, narrowed⟩ := requests_of_valid {} nameless
  obtain ⟨request, requested, named, ofFamily, violations⟩ := created (filled _)
  refine ⟨⟨request, requested, violations.trans ?_⟩, ?_, ?_, ?_, ?_⟩
  · have blankName : request.name = ⟨""⟩ :=
      congrArg AccountId.mk (Value.string.inj (Option.some.inj named)).symm
    have blankFamily : request.instanceFamily = "" :=
      (Value.string.inj (Option.some.inj ofFamily)).symm
    rw [blankName, blankFamily]
    rfl
  · exact (changed (valid_nameless _) ∅).imp fun _ => And.left
  · exact (listed (valid_nameless _)).imp fun _ => And.left
  · rcases placed (filled _) with ⟨repository, found⟩ | ⟨unplaced, -⟩
    · cases found
    · exact unplaced
  · rcases narrowed (valid_nameless _) with listable | ⟨-, wanted, -⟩
    · exact listable
    · exact absurd wanted (by decide)

end Provision
