import Provision.Proofs.Course

/-!
A platform that holds a pool. Of the statements that are sent it carries out those that succeed: an
assignment gives the pool exactly the properties that it names, and a reset gives the properties
that it names the values they have by default. Nothing else of the pool changes.
-/

namespace Provision

open Attempt

namespace ComputePool

def assign (pool : ComputePool) (assignment : Assignment) : ComputePool :=
  { pool with
    minNodes := assignment.minNodes?.getD pool.minNodes
    maxNodes := assignment.maxNodes?.getD pool.maxNodes
    autoResume := assignment.autoResume?.getD pool.autoResume
    autoSuspendSecs := assignment.autoSuspendSecs?.getD pool.autoSuspendSecs
    comment := assignment.comment?.getD pool.comment }

def reset (pool : ComputePool) (reset : Reset) : ComputePool :=
  { pool with
    autoResume := if reset.autoResume? = some true then true else pool.autoResume
    autoSuspendSecs := if reset.autoSuspendSecs? = some true then 600 else pool.autoSuspendSecs
    comment := if reset.comment? = some true then "" else pool.comment }

def after (pool : ComputePool) : Statement → ComputePool
  | .alterPool request =>
      if request.name = pool.id then
        (pool.reset (request.unset?.getD {})).assign (request.set?.getD {})
      else pool
  | _ => pool

/-- What is made of the pool by those of the statements that succeed. -/
def through (connection : Connection) (deadline? : Option Nat) :
    List Statement → ComputePool → List Statement → ComputePool
  | _, pool, [] => pool
  | before, pool, statement :: rest =>
      let next := match answer connection deadline? before statement with
        | .ok _ => pool.after statement
        | .error _ => pool
      through connection deadline? (before ++ [statement]) next rest

/-- The pools differ at most in the properties that can be altered. -/
def SameElsewhere (pool other : ComputePool) : Prop :=
  other = { pool with
    minNodes := other.minNodes
    maxNodes := other.maxNodes
    autoResume := other.autoResume
    autoSuspendSecs := other.autoSuspendSecs
    comment := other.comment }

theorem SameElsewhere.refl (pool : ComputePool) : pool.SameElsewhere pool := rfl

theorem SameElsewhere.trans {pool other last : ComputePool} (first : pool.SameElsewhere other)
    (second : other.SameElsewhere last) : pool.SameElsewhere last := by
  rw [SameElsewhere] at first second ⊢
  rw [second, first]

theorem SameElsewhere.id_eq {pool other : ComputePool} (same : pool.SameElsewhere other) :
    other.id = pool.id := by
  rw [same]
  rfl

@[simp] theorem assign_empty (pool : ComputePool) : pool.assign {} = pool := rfl

@[simp] theorem reset_empty (pool : ComputePool) : pool.reset {} = pool := rfl

theorem sameElsewhere_assign (pool : ComputePool) (assignment : Assignment) :
    pool.SameElsewhere (pool.assign assignment) := rfl

theorem sameElsewhere_reset (pool : ComputePool) (reset : Reset) :
    pool.SameElsewhere (pool.reset reset) := rfl

theorem sameElsewhere_after (pool : ComputePool) (statement : Statement) :
    pool.SameElsewhere (pool.after statement) := by
  cases statement with
  | alterPool request =>
      rw [after]
      split
      next => exact (sameElsewhere_reset pool _).trans (sameElsewhere_assign _ _)
      next => exact .refl pool
  | createPool | dropPool | showPools | describePool | createRepository | dropRepository
  | showRepositories => exact .refl pool

theorem after_of_looks (pool : ComputePool) {statement : Statement}
    (looks : statement.effect? = none) : pool.after statement = pool := by
  cases statement with
  | alterPool request => simp [Statement.effect?] at looks
  | createPool | dropPool | showPools | describePool | createRepository | dropRepository
  | showRepositories => rfl

variable {connection : Connection} {deadline? : Option Nat}

theorem sameElsewhere_through (before : List Statement) (pool : ComputePool)
    (sent : List Statement) :
    pool.SameElsewhere (pool.through connection deadline? before sent) := by
  induction sent generalizing before pool with
  | nil => exact .refl pool
  | cons statement rest ih =>
      rw [through]
      refine .trans ?_ (ih _ _)
      cases answer connection deadline? before statement with
      | ok rows => exact sameElsewhere_after pool statement
      | error failure => exact .refl pool

theorem through_append (before : List Statement) (pool : ComputePool)
    (first second : List Statement) :
    pool.through connection deadline? before (first ++ second) =
      (pool.through connection deadline? before first).through connection deadline?
        (before ++ first) second := by
  induction first generalizing before pool with
  | nil => simp [through]
  | cons statement rest ih => simp [through, ih]

theorem through_of_looks {before : List Statement} {pool : ComputePool} {sent : List Statement}
    (looks : ∀ statement ∈ sent, statement.effect? = none) :
    pool.through connection deadline? before sent = pool := by
  induction sent generalizing before with
  | nil => rfl
  | cons statement rest ih =>
      have unchanged := after_of_looks pool (looks statement List.mem_cons_self)
      have looksLater : ∀ later ∈ rest, later.effect? = none :=
        fun later member => looks later (List.mem_cons_of_mem statement member)
      rw [through]
      cases answer connection deadline? before statement with
      | ok rows =>
          simp only [unchanged]
          exact ih looksLater
      | error failure => exact ih looksLater

theorem through_of_performance {before statements sent : List Statement}
    {result : Except Failure Unit} (pool : ComputePool)
    (performance : Performance connection deadline? before statements result sent)
    (succeeded : result = .ok ()) :
    sent = before ++ statements ∧
      pool.through connection deadline? before statements = statements.foldl after pool := by
  induction performance generalizing pool with
  | finished => simp [through]
  | refused => simp at succeeded
  | failed => simp at succeeded
  | @answered _ statement _ _ _ _ _ answered _ ih =>
      obtain ⟨sent, carried⟩ := ih (pool.after statement) succeeded
      simp [through, answered, sent, carried]

end ComputePool

end Provision
