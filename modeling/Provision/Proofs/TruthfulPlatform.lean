import Provision.Proofs.PoolCreation
import Provision.Proofs.ReadSoundness
import Provision.Proofs.SettledPool

/-!
A platform that tells the truth about the pool of a name. It makes a pool of what a creation says,
and when it is asked for the pool it shows one with the same settings; what else it shows of the
pool is up to it.
-/

namespace Provision

open Attempt PoolResource

namespace ComputePool

section

variable (fresh : ComputePool) (name : AccountId)

/-- What a statement that succeeds makes of the pool of the name. -/
def carried (pool? : Option ComputePool) : Statement → Option ComputePool
  | .createPool request =>
      if request.name = name ∧ ¬(pool?.isSome ∧ request.ifNotExists? = some true) then
        some (request.made fresh)
      else pool?
  | .dropPool request => if request.name = name then none else pool?
  | statement => pool?.map fun pool => pool.after statement

def Lists (pool? : Option ComputePool) (rows : List Row) : Prop :=
  ∀ pools, rows.mapM ofRow = .ok pools →
    Option.Rel SameSettings pool? (pools.find? fun pool => pool.id = name)

/-- Whenever the platform is asked for the pool and answers, it tells the truth. -/
def Truthful (connection : Connection) (deadline? : Option Nat) :
    List Statement → Option ComputePool → List Statement → Prop
  | _, _, [] => True
  | before, pool?, statement :: rest =>
      match answer connection deadline? before statement with
      | .ok rows =>
          (statement = .showPools { like? := some name.name } → Lists name pool? rows) ∧
            Truthful connection deadline? (before ++ [statement])
              (carried fresh name pool? statement) rest
      | .error _ => Truthful connection deadline? (before ++ [statement]) pool? rest

end

section

variable {fresh : ComputePool} {name : AccountId} {connection : Connection}
  {deadline? : Option Nat}

theorem truthful_of_performance {before statements sent rest : List Statement}
    {result : Except Failure Unit} {pool? : Option ComputePool}
    (performance : Performance connection deadline? before statements result sent)
    (succeeded : result = .ok ())
    (truthful : Truthful fresh name connection deadline? before pool? (statements ++ rest)) :
    sent = before ++ statements ∧
      Truthful fresh name connection deadline? sent
        (statements.foldl (carried fresh name) pool?) rest := by
  -- Each statement was answered, so the pool is carried on through all of them.
  induction performance generalizing pool? with
  | finished => exact ⟨by simp, truthful⟩
  | refused => simp at succeeded
  | failed => simp at succeeded
  | answered _ answered _ ih =>
      simp only [List.cons_append, Truthful, answered] at truthful
      obtain ⟨sent, later⟩ := ih succeeded truthful.2
      exact ⟨by simp [sent], later⟩

theorem foldl_carried {statements : List Statement}
    (alter : ∀ statement ∈ statements, ∃ request, statement = .alterPool request)
    (pool : ComputePool) :
    statements.foldl (carried fresh name) (some pool) = some (statements.foldl after pool) := by
  induction statements generalizing pool with
  | nil => rfl
  | cons statement rest ih =>
      obtain ⟨request, rfl⟩ := alter statement List.mem_cons_self
      exact ih (fun later member => alter later (List.mem_cons_of_mem _ member)) _

end

def row (pool : ComputePool) : Row :=
  .ofCells [
    ("name", .text pool.name),
    ("state", .text pool.state),
    ("min_nodes", .int pool.minNodes),
    ("max_nodes", .int pool.maxNodes),
    ("instance_family", .text pool.instanceFamily),
    ("num_services", .int pool.numServices),
    ("num_jobs", .int pool.numJobs),
    ("auto_suspend_secs", .int pool.autoSuspendSecs),
    ("auto_resume", .bool pool.autoResume),
    ("active_nodes", .int pool.activeNodes),
    ("idle_nodes", .int pool.idleNodes),
    ("created_on", .instant pool.createdOn),
    ("resumed_on", .instant pool.resumedOn),
    ("updated_on", .instant pool.updatedOn),
    ("owner", .text pool.owner),
    ("comment", .text pool.comment)]

theorem ofRow_row (pool : ComputePool) : ofRow pool.row = .ok pool := by
  simp [ofRow, Record.ofRow, row, Row.ofCells, Row.set, Row.empty, Row.lowered, Row.string,
    Row.string?, Row.int, Row.int?, Row.bool, Row.bool?, Row.instant, Row.instant?, Row.read?,
    Row.given?, Row.get?, Table.get?_insert]
  rfl

end ComputePool

namespace Operation

variable {connection : Connection} {before : List Statement} {config : Config} {id : ResourceId}
  {identifier : String} {name : AccountId} {state : State}

theorem performed_of_ok {action : Action} {statements : List Statement}
    {next : Attempt Fault State}
    (succeeded : (play connection before (do
      performAll config action id statements
      next)).1 = .ok state) :
    (∀ statement ∈ statements, statement.form.violations = []) ∧
      Performance connection config.statementTimeout? before statements (.ok ())
        (before ++ statements) ∧
      play connection before (do
        performAll config action id statements
        next) = play connection (before ++ statements) next := by
  obtain ⟨result, sent, performance, played⟩ :=
    play_performAll connection before config action id statements
  cases result with
  | error failure => simp [play_bind_error played] at succeeded
  | ok _ =>
      obtain ⟨done, rest, split, rfl, accepted, complete⟩ := performance.sent_eq
      obtain rfl : done = statements := by simpa [complete rfl] using split.symm
      exact ⟨accepted, performance, play_bind_ok played _⟩

theorem read_sends (typed : id.resourceType = "compute_pool")
    (leads : accountId identifier = .ok name) :
    (play connection before (read config id (some identifier))).2 =
      before ++ [.showPools { like? := some name.name }] := by
  have supported : Lookup.ofType? id.resourceType = some .pools :=
    Lookup.ofType?_eq_some_iff.mpr (.inl ⟨typed, rfl⟩)
  rw [play_read connection before config identifier supported, Lookup.ask_pools leads]
  dsimp only
  rw [play_rows_accepted connection _ before (Statement.showPools_like_accepted name.name)]

theorem exists_pools {rows : List Row} {shown : List (Identifier × Attributes)}
    (read : rows.map Lookup.pools.ofRow = shown.map .ok) :
    ∃ pools, rows.mapM ComputePool.ofRow = .ok pools ∧
      shown = pools.map fun pool => (pool.id.toIdentifier, attributes pool) := by
  have converted := mapM_eq_ok_iff.mpr read
  have mapped := mapM_map ComputePool.ofRow
    (fun pool => (pool.id.toIdentifier, attributes pool)) rows
  cases found : rows.mapM ComputePool.ofRow with
  | error error =>
      rw [found] at mapped
      exact absurd (mapped.symm.trans converted) (by simp [Functor.map, Except.map])
  | ok pools =>
      rw [found] at mapped
      exact ⟨pools, rfl, (Except.ok.inj (mapped.symm.trans converted)).symm⟩

theorem find?_pools (pools : List ComputePool) :
    (pools.map fun pool => (pool.id.toIdentifier, attributes pool)).find?
        (fun entry => entry.1 = name.toIdentifier) =
      (pools.find? fun pool => pool.id = name).map fun pool =>
        (pool.id.toIdentifier, attributes pool) := by
  rw [List.find?_map]
  congr 2
  funext pool
  obtain ⟨name⟩ := name
  simp [ComputePool.id, AccountId.toIdentifier]

theorem read_shown {fresh pool : ComputePool} (typed : id.resourceType = "compute_pool")
    (leads : accountId identifier = .ok name)
    (truthful : ComputePool.Truthful fresh name connection config.statementTimeout? before
      (some pool) [.showPools { like? := some name.name }])
    (succeeded : (play connection before (read config id (some identifier))).1 = .ok state) :
    ∃ shown, pool.SameSettings shown ∧
      state = .existing id (some identifier) (attributes shown) := by
  have supported : Lookup.ofType? id.resourceType = some .pools :=
    Lookup.ofType?_eq_some_iff.mpr (.inl ⟨typed, rfl⟩)
  rcases read_cases config connection before identifier supported with
    ⟨-, fault, failed⟩ | ⟨object, shown, ⟨request, rows, asked, -, answered, read⟩, found⟩
  · simp [succeeded] at failed
  · rw [Lookup.ask_pools leads] at asked
    obtain ⟨rfl, rfl⟩ := Prod.mk.inj (Except.ok.inj asked)
    obtain ⟨pools, converted, rfl⟩ := exists_pools read
    simp only [ComputePool.Truthful, answered, forall_const, and_true] at truthful
    have related := truthful pools converted
    rw [succeeded, find?_pools] at found
    -- The platform has the pool, so it is among those that were shown.
    cases first : pools.find? fun pool => pool.id = name with
    | none =>
        rw [first] at related
        cases related
    | some entry =>
        rw [first] at related found
        cases related with
        | some same => exact ⟨entry, same, Except.ok.inj found⟩

end Operation

end Provision
