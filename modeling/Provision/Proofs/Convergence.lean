import Provision.Proofs.Settling

/-!
An update brings a pool to what is wanted of it. What the changes come to does not depend on what
the pool was like before, so a run that stops on the way is made good by the next one.
-/

namespace Provision

open Attempt

namespace PoolResource

theorem mem_replacing {name : String}
    (member : name ∈ ResourceKind.computePool.schema.replacing) :
    name = "name" ∨ name = "instance_family" ∨ name = "initially_suspended" := by
  have listed : name ∈ ["name", "instance_family", "initially_suspended"] :=
    List.mem_mergeSort.mp member
  simpa using listed

theorem get?_replacing {pool other : ComputePool} (same : pool.SameElsewhere other) {name : String}
    (member : name ∈ ResourceKind.computePool.schema.replacing) :
    (attributes other).get? name = (attributes pool).get? name := by
  have named : other.name = pool.name := by rw [same]
  have family : other.instanceFamily = pool.instanceFamily := by rw [same]
  simp only [attributes, Table.ofList]
  rcases mem_replacing member with rfl | rfl | rfl
  · split <;> split <;> simp [Table.get?_insert, named]
  · split <;> split <;> simp [Table.get?_insert, family]
  · split <;> split <;> simp [Table.get?_insert]

theorem replacement?_eq_none {pool other : ComputePool} (same : pool.SameElsewhere other)
    {wanted : Attributes}
    (kept :
      Operation.replacement? ResourceKind.computePool.schema (attributes pool) wanted = none) :
    Operation.replacement? ResourceKind.computePool.schema (attributes other) wanted = none := by
  simp only [Operation.replacement?, List.find?_eq_none] at kept ⊢
  intro name member
  rw [get?_replacing same member]
  exact kept name member

theorem Changes.foldl_after {pool : ComputePool} (changes : Changes) :
    (changes.statements pool.id).foldl ComputePool.after pool =
      (pool.reset (changes.reset?.getD {})).assign (changes.assignment?.getD {}) := by
  obtain ⟨reset?, assignment?⟩ := changes
  cases reset? with
  | none =>
      cases assignment? with
      | none => rfl
      | some assignment => simp [Changes.statements, ComputePool.after]
  | some reset =>
      have named : pool.id = (pool.reset reset).id := rfl
      cases assignment? with
      | none => simp [Changes.statements, ComputePool.after]
      | some assignment =>
          simp [Changes.statements, ComputePool.after, ← named]

end PoolResource

open PoolResource

def ComputePool.updated (config : Config) (id : ResourceId) (stored : String) (wanted : Resource)
    (connection : Connection) (before : List Statement) (pool : ComputePool) : ComputePool :=
  let run := play connection before
    (Operation.update config id stored (attributes pool) wanted)
  pool.through connection config.statementTimeout? before (run.2.drop before.length)

/-- A statement that alters was refused or failed. -/
def StopsAltering (result : Except Fault State) : Prop :=
  ∃ fault resourceType failure, result = .error fault ∧
    fault.cause = .statement .update resourceType failure

variable {config : Config} {id : ResourceId} {stored : String} {wanted : Resource}
  {declared : Declared}

theorem updated_eq {pool : ComputePool} (typed : id.resourceType = "compute_pool")
    (leads : Operation.accountId stored = .ok pool.id)
    (accepted : ResourceKind.computePool.schema.Accepts wanted.attributes)
    (kept : Operation.replacement? ResourceKind.computePool.schema (attributes pool)
      wanted.attributes = none)
    (declares : Declares wanted.attributes declared) (connection : Connection)
    (before : List Statement)
    (completed : ¬StopsAltering (play connection before
      (Operation.update config id stored (attributes pool) wanted)).1) :
    pool.updated config id stored wanted connection before = declared.apply pool := by
  obtain ⟨changes, derived, -, settled, -⟩ := changes_settle (shows_attributes pool) declares
  have known : ResourceKind.ofName? id.resourceType = some .computePool := by rw [typed]; rfl
  have altered : Operation.alterations id stored (attributes pool) wanted =
      .ok (changes.statements pool.id) :=
    Operation.alterations_eq_ok_iff.mpr ⟨.computePool, known,
      Operation.valid_eq_ok_iff.mpr accepted, kept,
      .inl ⟨rfl, pool.id, leads, changes, derived, rfl⟩⟩
  rw [ComputePool.updated]
  rw [Operation.play_update_made altered] at completed ⊢
  obtain ⟨result, sent, performance, played⟩ :=
    Operation.play_performAll connection before config .update id (changes.statements pool.id)
  cases result with
  | error failure =>
      rw [play_bind_error played] at completed
      exact absurd ⟨_, id.resourceType, failure, rfl, rfl⟩ completed
  | ok _ =>
      obtain ⟨rfl, carried⟩ := ComputePool.through_of_performance pool performance rfl
      obtain ⟨asked, looked, looks⟩ := Operation.read_sent connection
        (before ++ changes.statements pool.id) config id (some stored)
      rw [play_bind_ok played, looked, List.append_assoc, List.drop_left,
        ComputePool.through_append, carried, ComputePool.through_of_looks looks,
        Changes.foldl_after, settled]

/-- The pool as runs of the update leave it, each from the state just read. A run may stop
anywhere. -/
inductive LeftByRuns (config : Config) (id : ResourceId) (stored : String) (wanted : Resource)
    (pool : ComputePool) : ComputePool → Prop
  | none : LeftByRuns config id stored wanted pool pool
  | more {left : ComputePool} (connection : Connection) (before : List Statement) :
      LeftByRuns config id stored wanted pool left →
      LeftByRuns config id stored wanted pool
        (left.updated config id stored wanted connection before)

theorem LeftByRuns.sameElsewhere {pool left : ComputePool}
    (runs : LeftByRuns config id stored wanted pool left) : pool.SameElsewhere left := by
  induction runs with
  | none => exact .refl pool
  | more connection before _ ih => exact ih.trans (ComputePool.sameElsewhere_through before _ _)

/-- An update brings the pool to one that meets what is wanted and is the same elsewhere. -/
theorem update_converges (config : Config) (id : ResourceId) (stored : String)
    (pool : ComputePool) (wanted : Resource) (typed : id.resourceType = "compute_pool")
    (leads : Operation.accountId stored = .ok pool.id)
    (accepted : ResourceKind.computePool.schema.faults wanted.attributes = [])
    (kept : Operation.replacement? ResourceKind.computePool.schema (attributes pool)
      wanted.attributes = none) :
    ∃ target, Meets wanted.attributes target ∧ pool.SameElsewhere target ∧
      ∀ left, LeftByRuns config id stored wanted pool left →
        (∃ changes,
          PoolResource.changes ResourceKind.computePool.schema (attributes left)
            wanted.attributes = .ok changes ∧ changes.Disjoint ∧
          (left.reset (changes.reset?.getD {})).assign (changes.assignment?.getD {}) = target ∧
          (left.assign (changes.assignment?.getD {})).reset (changes.reset?.getD {}) = target) ∧
        ∀ connection before,
          ¬StopsAltering (play connection before
            (Operation.update config id stored (attributes left) wanted)).1 →
          left.updated config id stored wanted connection before = target := by
  have accepted := Schema.faults_eq_nil_iff.mp accepted
  obtain ⟨declared, declares⟩ := exists_declares accepted
  refine ⟨declared.apply pool, declares.meets pool, rfl, ?_⟩
  intro left runs
  -- Runs change only what an update settles again, so they do not change what it comes to.
  have same := runs.sameElsewhere
  rw [← declared.apply_eq same]
  refine ⟨changes_settle (shows_attributes left) declares, ?_⟩
  intro connection before completed
  exact updated_eq typed (same.id_eq ▸ leads) accepted (replacement?_eq_none same kept) declares
    connection before completed

def smallPool : ComputePool where
  name := "POOL"
  state := "IDLE"
  minNodes := 1
  maxNodes := 2
  instanceFamily := "CPU_X64_XS"
  numServices := 0
  numJobs := 0
  autoSuspendSecs := 300
  autoResume := true
  activeNodes := 0
  idleNodes := 1
  createdOn := .epoch
  resumedOn := .epoch
  updatedOn := .epoch
  owner := "ACCOUNTADMIN"
  comment := "hello"

def largePool : Resource where
  id := ⟨"compute_pool", "pool"⟩
  attributes := .ofList [
    ("name", .string "POOL"),
    ("min_nodes", .int 1),
    ("max_nodes", .int 3),
    ("instance_family", .string "CPU_X64_XS")]

def interrupted : Connection := fun earlier _ =>
  ⟨0, if earlier.isEmpty then .ok [] else .error "interrupted"⟩

theorem smallPool_converges :
    let left := smallPool.updated {} largePool.id "POOL" largePool interrupted []
    ∃ changes,
      PoolResource.changes ResourceKind.computePool.schema (attributes left)
        largePool.attributes = .ok changes ∧
      (left.reset (changes.reset?.getD {})).assign (changes.assignment?.getD {}) =
        { smallPool with maxNodes := 3, autoSuspendSecs := 600, comment := "" } := by
  intro left
  have faultless : ResourceKind.computePool.schema.faults largePool.attributes = [] := by
    rw [Schema.faults, List.append_eq_nil_iff, Schema.byMessage_eq_nil_iff,
      Schema.byMessage_eq_nil_iff]
    exact ⟨rfl, rfl⟩
  have kept : Operation.replacement? ResourceKind.computePool.schema (attributes smallPool)
      largePool.attributes = none := by
    simp only [Operation.replacement?, List.find?_eq_none]
    intro name member
    rcases mem_replacing member with rfl | rfl | rfl
    · decide
    · decide
    · decide
  obtain ⟨target, meets, same, settles⟩ :=
    update_converges {} largePool.id "POOL" smallPool largePool rfl rfl faultless kept
  obtain ⟨⟨changes, derived, -, settled, -⟩, -⟩ := settles left (.more interrupted [] .none)
  refine ⟨changes, derived, settled.trans ?_⟩
  have minNodes : target.minNodes = 1 := Value.int.inj meets.minNodes
  have maxNodes : target.maxNodes = 3 := Value.int.inj meets.maxNodes
  have autoResume : target.autoResume = true := Value.bool.inj meets.autoResume
  have autoSuspendSecs : target.autoSuspendSecs = 600 := Value.int.inj meets.autoSuspendSecs
  have comment : target.comment = "" := Value.string.inj meets.comment
  rw [same, minNodes, maxNodes, autoResume, autoSuspendSecs, comment]
  rfl

end Provision
