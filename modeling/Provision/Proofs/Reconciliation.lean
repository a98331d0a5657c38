import Provision.Proofs.Creation
import Provision.Proofs.TruthfulPlatform

/-!
A pool that has been brought to what is wanted of it is left alone from then on: an update from the
state that a creation or an update has just read only looks at the pool. The one exception is an
empty comment.
-/

namespace Provision.Operation

open Attempt PoolResource

variable {connection : Connection} {before : List Statement} {config : Config} {id : ResourceId}
  {identifier : String} {name : AccountId} {state : State} {fresh pool : ComputePool}
  {pool? : Option ComputePool} {wanted : Resource} {declared : Declared}

/-- The pool is as wanted, and the identifier leads to it. -/
structure Settled (wanted : Resource) (declared : Declared) (id : ResourceId)
    (identifier : String) (pool : ComputePool) : Prop where
  typed : id.resourceType = "compute_pool"
  leads : accountId identifier = .ok pool.id
  accepted : ResourceKind.computePool.schema.Accepts wanted.attributes
  kept : replacement? ResourceKind.computePool.schema (attributes pool) wanted.attributes = none
  declares : Declares wanted.attributes declared
  settled : declared.apply pool = pool

theorem Settled.alterations_eq
    (settled : Settled wanted declared id identifier pool) :
    alterations id identifier (attributes pool) wanted =
      .ok (if declared.comment? = some "" then
        [.alterPool { name := pool.id, set? := some { comment? := some "" } }] else []) := by
  have known : ResourceKind.ofName? id.resourceType = some .computePool := by
    rw [settled.typed]
    rfl
  have derived := changes_settled (shows_attributes pool) settled.declares settled.settled
  refine alterations_eq_ok_iff.mpr ⟨.computePool, known, valid_eq_ok_iff.mpr settled.accepted,
    settled.kept, .inl ⟨rfl, pool.id, settled.leads, _, derived, ?_⟩⟩
  by_cases empty : declared.comment? = some ""
  · simp [empty, Changes.statements]
  · simp [empty, Changes.statements]

theorem Settled.update_looks
    (settled : Settled wanted declared id identifier pool) (said : declared.comment? ≠ some "") :
    (play connection before (update config id identifier (attributes pool) wanted)).2 =
      before ++ [.showPools { like? := some pool.name }] := by
  rw [play_update_made settled.alterations_eq, if_neg said]
  exact read_sends settled.typed settled.leads

theorem Settled.update_alters
    (settled : Settled wanted declared id identifier pool) (empty : declared.comment? = some "")
    (named : pool.id.toIdentifier.isValid) :
    ∃ asked, (play connection before (update config id identifier (attributes pool) wanted)).2 =
        before ++ .alterPool { name := pool.id, set? := some { comment? := some "" } } :: asked ∧
      asked <+: [.showPools { like? := some pool.name }] := by
  let alter : Statement := .alterPool { name := pool.id, set? := some { comment? := some "" } }
  have accepted : alter.form.violations = [] :=
    (Statement.alterPool_assignment_accepted_iff pool.id (by simp)).mpr named
  obtain ⟨result, sent, performance, played⟩ :=
    play_performAll connection before config .update id [alter]
  obtain rfl := performance.sent_of_accepted accepted
  rw [play_update_made settled.alterations_eq, if_pos empty]
  cases result with
  | error failure =>
      rw [play_bind_error played]
      exact ⟨[], rfl, List.nil_prefix⟩
  | ok _ =>
      rw [play_bind_ok played, read_sends settled.typed settled.leads]
      exact ⟨[.showPools { like? := some pool.name }], by simp [alter, ComputePool.id],
        List.prefix_rfl⟩

theorem Settled.of_same {shown : ComputePool}
    (settled : Settled wanted declared id identifier pool) (same : pool.SameSettings shown) :
    Settled wanted declared id identifier shown where
  typed := settled.typed
  leads := by
    rw [settled.leads, ComputePool.id, ComputePool.id, same.name]
  accepted := settled.accepted
  kept := by
    rw [replacement?_eq_none_iff, same.name, same.instanceFamily]
    exact replacement?_eq_none_iff.mp settled.kept
  declares := settled.declares
  settled := same.apply_eq settled.settled

theorem Settled.exists_shown {action : Action} {statements : List Statement}
    (settled : Settled wanted declared id identifier pool)
    (truthful : ComputePool.Truthful fresh pool.id connection config.statementTimeout? before pool?
      ((play connection before (do
        performAll config action id statements
        read config id (some identifier))).2.drop before.length))
    (carries : statements.foldl (ComputePool.carried fresh pool.id) pool? = some pool)
    (succeeded : (play connection before (do
      performAll config action id statements
      read config id (some identifier))).1 = .ok state) :
    ∃ shown, Settled wanted declared id identifier shown ∧ shown.id = pool.id ∧
      state = .existing id (some identifier) (attributes shown) := by
  obtain ⟨-, performance, played⟩ := performed_of_ok succeeded
  rw [played] at truthful succeeded
  rw [read_sends settled.typed settled.leads, List.append_assoc, List.drop_left] at truthful
  obtain ⟨-, later⟩ := ComputePool.truthful_of_performance performance rfl truthful
  rw [carries] at later
  obtain ⟨shown, same, shows⟩ := read_shown settled.typed settled.leads later succeeded
  exact ⟨shown, settled.of_same same, congrArg AccountId.mk same.name, shows⟩

theorem exists_settled_of_update {seen : ComputePool} (typed : id.resourceType = "compute_pool")
    (leads : accountId identifier = .ok pool.id)
    (accepted : ResourceKind.computePool.schema.Accepts wanted.attributes)
    (declares : Declares wanted.attributes declared) (same : pool.SameSettings seen)
    (truthful : ComputePool.Truthful fresh pool.id connection config.statementTimeout? before
      (some pool)
      ((play connection before (update config id identifier (attributes seen) wanted)).2.drop
        before.length))
    (succeeded : (play connection before
      (update config id identifier (attributes seen) wanted)).1 = .ok state) :
    ∃ shown, Settled wanted declared id identifier shown ∧ shown.id = pool.id ∧
      state = .existing id (some identifier) (attributes shown) ∧
      (declared.comment? = some "" → pool.id.toIdentifier.isValid) := by
  cases altered : alterations id identifier (attributes seen) wanted with
  | error fault => simp [play_update_refused altered] at succeeded
  | ok statements =>
      rw [play_update_made altered] at truthful succeeded
      obtain ⟨kind, known, -, kept, alters⟩ := alterations_eq_ok_iff.mp altered
      rw [typed] at known
      obtain rfl : ResourceKind.computePool = kind := Option.some.inj known
      rcases alters with ⟨-, other, leads', changes, derived, rfl⟩ | ⟨impossible, -⟩
      · obtain rfl := Except.ok.inj (leads.symm.trans leads')
        obtain ⟨others, derived', -, settles, -⟩ := changes_settle same.shows declares
        obtain rfl := Except.ok.inj (derived.symm.trans derived')
        have settled : Settled wanted declared id identifier (declared.apply pool) :=
          { typed, leads, accepted, declares, settled := rfl
            kept := by
              rw [replacement?_eq_none_iff, same.name, same.instanceFamily] at kept
              exact replacement?_eq_none_iff.mpr kept }
        have carries : (changes.statements pool.id).foldl (ComputePool.carried fresh pool.id)
            (some pool) = some (declared.apply pool) := by
          rw [ComputePool.foldl_carried exists_alterPool_of_mem, Changes.foldl_after, settles]
        obtain ⟨shown, settled, named, shows⟩ := settled.exists_shown truthful carries succeeded
        refine ⟨shown, settled, named, shows, fun empty => ?_⟩
        -- This run has assigned the empty comment, so the name was accepted.
        obtain ⟨statement, member⟩ :=
          List.exists_mem_of_ne_nil _ (statements_ne_nil same.shows declares derived empty)
        obtain ⟨sound, -⟩ := performed_of_ok succeeded
        exact (statements_accepted_iff derived pool.id member).mp (sound statement member)
      · cases impossible

theorem exists_settled_of_create (typed : wanted.id.resourceType = "compute_pool")
    (accepted : ResourceKind.computePool.schema.Accepts wanted.attributes)
    (declares : Declares wanted.attributes declared)
    (named : wanted.attributes.get? "name" = some (.string name.name))
    (truthful : ComputePool.Truthful fresh name connection config.statementTimeout? before pool?
      ((play connection before (create config wanted)).2.drop before.length))
    (succeeded : (play connection before (create config wanted)).1 = .ok state) :
    ∃ identifier shown, Settled wanted declared wanted.id identifier shown ∧ shown.id = name ∧
      state = .existing wanted.id (some identifier) (attributes shown) ∧
      name.toIdentifier.isValid := by
  cases made : creation config wanted with
  | error cause => simp [play_create_refused made] at succeeded
  | ok creates =>
      obtain ⟨statement, object⟩ := creates
      rw [play_create_made made] at truthful succeeded
      obtain ⟨kind, known, -, creates⟩ := creation_eq_ok_iff.mp made
      rw [typed] at known
      obtain rfl : ResourceKind.computePool = kind := Option.some.inj known
      rcases creates with ⟨-, request, requested, rfl, rfl⟩ | ⟨impossible, -⟩
      · obtain ⟨hasName, hasFamily, plain, settles⟩ :=
          request_of_createRequest accepted declares requested
        obtain rfl : request.name = name :=
          congrArg AccountId.mk (by simpa using hasName.symm.trans named)
        obtain ⟨sound, -⟩ := performed_of_ok succeeded
        have valid : request.name.toIdentifier.isValid :=
          ((Statement.createPool_accepted_iff request).mp (sound _ List.mem_cons_self)).1
        have settled : Settled wanted declared wanted.id request.name.toIdentifier.encode
            (request.made fresh) :=
          { typed, accepted, declares
            leads := accountId_eq_ok_iff.mpr (Identifier.decode_encode_of_isValid valid)
            kept := by simp [replacement?_eq_none_iff, hasName, hasFamily, ComputePool.Create.made]
            settled := settles fresh }
        have carries : [Statement.createPool request].foldl
            (ComputePool.carried fresh request.name) pool? = some (request.made fresh) := by
          simp [ComputePool.carried, plain]
        obtain ⟨shown, settled, same, shows⟩ :=
          settled.exists_shown truthful carries succeeded
        exact ⟨_, shown, settled, same, shows, valid⟩
      · cases impossible

/-- The runs that are to bring the pool of a name to what is wanted: a creation, whatever there was
before, and an update from what the platform shows of the pool. -/
inductive Brings (config : Config) (wanted : Resource) :
    AccountId → ResourceId → Option ComputePool → Attempt Fault State → Prop
  | creation {name : AccountId} {pool? : Option ComputePool} :
      wanted.attributes.get? "name" = some (.string name.name) →
      Brings config wanted name wanted.id pool? (create config wanted)
  | update {id : ResourceId} {identifier : String} {pool seen : ComputePool} :
      accountId identifier = .ok pool.id → pool.SameSettings seen →
      Brings config wanted pool.id id (some pool)
        (update config id identifier (attributes seen) wanted)

theorem Brings.exists_settled {run : Attempt Fault State}
    (brings : Brings config wanted name id pool? run) (typed : id.resourceType = "compute_pool")
    (accepted : ResourceKind.computePool.schema.Accepts wanted.attributes)
    (declares : Declares wanted.attributes declared)
    (truthful : ComputePool.Truthful fresh name connection config.statementTimeout? before pool?
      ((play connection before run).2.drop before.length))
    (succeeded : (play connection before run).1 = .ok state) :
    ∃ identifier shown, Settled wanted declared id identifier shown ∧ shown.id = name ∧
      state = .existing id (some identifier) (attributes shown) ∧
      (declared.comment? = some "" → name.toIdentifier.isValid) := by
  cases brings with
  | creation named =>
      obtain ⟨identifier, shown, settled, same, shows, valid⟩ :=
        exists_settled_of_create typed accepted declares named truthful succeeded
      exact ⟨identifier, shown, settled, same, shows, fun _ => valid⟩
  | update leads same =>
      exact ⟨_, exists_settled_of_update typed leads accepted declares same truthful succeeded⟩

/-- An update from the state that was read when the pool had been brought to what is wanted only
looks at the pool, unless the comment that is wanted is empty; then it assigns the comment again. -/
theorem reconciled_update_looks (config : Config) (connection : Connection)
    (before : List Statement) (fresh : ComputePool) (wanted : Resource) (name : AccountId)
    (id : ResourceId) (pool? : Option ComputePool) (run : Attempt Fault State) (state : State)
    (typed : id.resourceType = "compute_pool")
    (accepted : ResourceKind.computePool.schema.faults wanted.attributes = [])
    (brings : Brings config wanted name id pool? run)
    (truthful : ComputePool.Truthful fresh name connection config.statementTimeout? before pool?
      ((play connection before run).2.drop before.length))
    (succeeded : (play connection before run).1 = .ok state) :
    ∃ identifier current, state = .existing id (some identifier) current ∧
      ∀ later earlier,
        let sent := (play later earlier (update config id identifier current wanted)).2
        (wanted.attributes.get? "comment" ≠ some (.string "") →
          sent = earlier ++ [.showPools { like? := some name.name }]) ∧
        (wanted.attributes.get? "comment" = some (.string "") →
          ∃ asked, sent = earlier ++
              .alterPool { name, set? := some { comment? := some "" } } :: asked ∧
            asked <+: [.showPools { like? := some name.name }]) := by
  have accepted := Schema.faults_eq_nil_iff.mp accepted
  obtain ⟨declared, declares⟩ := exists_declares accepted
  obtain ⟨identifier, shown, settled, rfl, shows, valid⟩ :=
    brings.exists_settled typed accepted declares truthful succeeded
  have empty : wanted.attributes.get? "comment" = some (.string "") ↔
      declared.comment? = some "" := by
    simp [declares.comment]
  refine ⟨identifier, attributes shown, shows, fun later earlier => ⟨?_, ?_⟩⟩
  · intro said
    exact settled.update_looks (fun same => said (empty.mpr same))
  · intro said
    exact settled.update_alters (empty.mp said) (valid (empty.mp said))

def commented (comment : String) : Resource where
  id := ⟨"compute_pool", "pool"⟩
  attributes := .ofList [
    ("name", .string "POOL"),
    ("min_nodes", .int 1),
    ("max_nodes", .int 2),
    ("instance_family", .string "CPU_X64_XS"),
    ("comment", .string comment)]

def request (comment : String) : ComputePool.Create where
  name := ⟨"POOL"⟩
  minNodes := 1
  maxNodes := 2
  instanceFamily := "CPU_X64_XS"
  autoResume? := some true
  initiallySuspended? := some false
  autoSuspendSecs? := some 600
  comment? := some comment

def showing (comment : String) : Connection := fun _ _ =>
  ⟨0, .ok [((request comment).made smallPool).row]⟩

theorem declares_commented (comment : String) :
    Declares (commented comment).attributes ⟨1, 2, none, none, some comment⟩ :=
  ⟨rfl, rfl, rfl, rfl, rfl⟩

theorem faults_commented (comment : String) :
    ResourceKind.computePool.schema.faults (commented comment).attributes = [] :=
  Schema.faults_eq_nil_of (by rfl) (by rfl)

theorem creation_commented (comment : String) :
    creation {} (commented comment) =
      .ok (.createPool (request comment), (request comment).name.toIdentifier) := by
  have accepted := Schema.faults_eq_nil_iff.mp (faults_commented comment)
  have valid := valid_eq_ok_iff.mpr accepted.withDefaults
  have unsaid : (commented comment).attributes.get? "initially_suspended" =
      (none : Option Bool).map .bool := rfl
  have requested : createRequest (ResourceKind.computePool.schema.withDefaults
      (commented comment).attributes) = .ok (request comment) :=
    createRequest_eq (declares_commented comment) rfl rfl unsaid
  have known : ResourceKind.ofName? (commented comment).id.resourceType = some .computePool := rfl
  exact creation_eq_ok_iff.mpr
    ⟨.computePool, known, valid, .inl ⟨rfl, request comment, requested, rfl, rfl⟩⟩

theorem accepted_createPool (comment : String) :
    (Statement.createPool (request comment)).form.violations = [] := by
  have valid : (AccountId.toIdentifier ⟨"POOL"⟩).isValid := by decide
  exact (Statement.createPool_accepted_iff _).mpr ⟨valid, by simp [request]⟩

theorem play_create_commented (comment : String) :
    play (showing comment) [] (create {} (commented comment)) =
      (.ok (.existing (commented comment).id (some "POOL")
        (attributes ((request comment).made smallPool))),
        [.createPool (request comment), .showPools { like? := some "POOL" }]) := by
  have answered (before : List Statement) (statement : Statement) :
      answer (showing comment) none before statement =
        .ok [((request comment).made smallPool).row] := rfl
  have leads : accountId "POOL" = .ok ⟨"POOL"⟩ := rfl
  have encoded : (request comment).name.toIdentifier.encode = "POOL" := by
    show (AccountId.toIdentifier ⟨"POOL"⟩).encode = _
    decide
  have shows : Lookup.pools.ofRow ((request comment).made smallPool).row =
      .ok (.account ⟨"POOL"⟩, attributes ((request comment).made smallPool)) := by
    simp only [Lookup.pools, ComputePool.ofRow_row]
    rfl
  rw [play_create _ _ (creation_commented comment) (accepted_createPool comment) (answered _ _),
    encoded, play_read _ _ {} "POOL" (show _ = some Lookup.pools from rfl),
    Lookup.ask_pools leads]
  dsimp only
  rw [play_rows_accepted _ _ _ (Statement.showPools_like_accepted "POOL"), answered]
  have read : [((request comment).made smallPool).row].mapM Lookup.pools.ofRow =
      .ok [(.account ⟨"POOL"⟩, attributes ((request comment).made smallPool))] :=
    mapM_eq_ok_iff.mpr (by simp [shows])
  dsimp only [Lookup.state]
  rw [read]
  rfl

theorem truthful_showing (comment : String) :
    ComputePool.Truthful smallPool ⟨"POOL"⟩ (showing comment) none [] none
      ((play (showing comment) [] (create {} (commented comment))).2.drop 0) := by
  rw [play_create_commented]
  refine ⟨by simp, fun _ => ?_, trivial⟩
  intro pools read
  have shows : [((request comment).made smallPool).row].map ComputePool.ofRow =
      [(request comment).made smallPool].map .ok := by
    simp [ComputePool.ofRow_row]
  obtain rfl := Except.ok.inj ((mapM_eq_ok_iff.mpr shows).symm.trans read)
  exact .some ⟨rfl, rfl, rfl, rfl, rfl, rfl, rfl⟩

theorem settled_commented (comment : String) :
    Settled (commented comment) ⟨1, 2, none, none, some comment⟩ (commented comment).id "POOL"
      ((request comment).made smallPool) := by
  have hasName : (commented comment).attributes.get? "name" = some (.string "POOL") := rfl
  have hasFamily : (commented comment).attributes.get? "instance_family" =
      some (.string "CPU_X64_XS") := rfl
  exact {
    typed := rfl
    leads := rfl
    accepted := Schema.faults_eq_nil_iff.mp (faults_commented comment)
    kept := by simp [replacement?_eq_none_iff, hasName, hasFamily, request,
      ComputePool.Create.made]
    declares := declares_commented comment
    settled := rfl }

theorem commented_update_looks :
    ∃ identifier current,
      (play (showing "hello") [] (create {} (commented "hello"))).1 =
        .ok (.existing (commented "hello").id (some identifier) current) ∧
      ∀ later earlier,
        (play later earlier
          (update {} (commented "hello").id identifier current (commented "hello"))).2 =
          earlier ++ [.showPools { like? := some "POOL" }] := by
  obtain ⟨identifier, current, shows, again⟩ :=
    reconciled_update_looks {} (showing "hello") [] smallPool (commented "hello") ⟨"POOL"⟩
      (commented "hello").id none (create {} (commented "hello")) _ rfl (faults_commented "hello")
      (.creation rfl) (truthful_showing "hello") (congrArg Prod.fst (play_create_commented "hello"))
  refine ⟨identifier, current, ?_, fun later earlier => (again later earlier).1 ?_⟩
  · rw [play_create_commented, shows]
  · have said : (commented "hello").attributes.get? "comment" = some (.string "hello") := rfl
    simp [said]

theorem not_forall_update_looks :
    ¬∀ (config : Config) (connection : Connection) (before : List Statement) (fresh : ComputePool)
        (wanted : Resource) (name : AccountId) (id : ResourceId) (pool? : Option ComputePool)
        (run : Attempt Fault State) (state : State),
      id.resourceType = "compute_pool" →
      ResourceKind.computePool.schema.faults wanted.attributes = [] →
      Brings config wanted name id pool? run →
      ComputePool.Truthful fresh name connection config.statementTimeout? before pool?
        ((play connection before run).2.drop before.length) →
      (play connection before run).1 = .ok state →
      ∃ identifier current, state = .existing id (some identifier) current ∧
        ∀ later earlier, (play later earlier (update config id identifier current wanted)).2 =
          earlier ++ [.showPools { like? := some name.name }] := by
  intro looks
  obtain ⟨identifier, current, shows, again⟩ :=
    looks {} (showing "") [] smallPool (commented "") ⟨"POOL"⟩ (commented "").id none
      (create {} (commented "")) _ rfl (faults_commented "") (.creation rfl) (truthful_showing "")
      (congrArg Prod.fst (play_create_commented ""))
  obtain ⟨-, same, rfl⟩ := State.existing.inj shows
  obtain rfl := Option.some.inj same
  obtain ⟨asked, alters, -⟩ := (settled_commented "").update_alters rfl (by decide)
  have both := (again (showing "") []).symm.trans alters
  simp at both

end Provision.Operation
