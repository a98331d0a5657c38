import Provision.Proofs.Convergence

/-!
What an update has left to change of a pool that is as wanted: nothing, unless a comment is wanted
and is empty. A pool with an empty comment shows none, so the comment is assigned over and over.
-/

namespace Provision

namespace PoolResource

open ComputePool

section

variable {β : Type} {schema : Schema} {current wanted : Attributes} {key : String}
  {value? : Option β} {old default : β} {wrap : β → Value}

theorem isChanged_settled (reflexive : (wrap old).same (wrap old))
    (set : wanted.get? key = value?.map wrap) (held : current.get? key = some (wrap old))
    (settled : value?.getD default = old) : isChanged current wanted key = false := by
  cases value? with
  | none => simp [isChanged, set]
  | some value =>
      obtain rfl : value = old := settled
      simp [isChanged, set, Attributes.holds, held, reflexive]

theorem resetFlag_settled
    (plain : isCustom ((schema.attribute? key).bind Attribute.default?) (wrap default) = false)
    (set : wanted.get? key = value?.map wrap) (held : current.get? key = some (wrap old))
    (settled : value?.getD default = old) : resetFlag schema current wanted key = none := by
  cases value? with
  | none =>
      obtain rfl : default = old := settled
      simp [resetFlag, Table.contains, set, held, plain]
  | some value => simp [resetFlag, Table.contains, set]

theorem ifChanged_unchanged {value? : Except FaultCause (Option β)}
    (unchanged : isChanged current wanted key = false) :
    ifChanged current wanted key value? = .ok none := by
  simp [ifChanged, unchanged]

end

section

variable {current wanted : Attributes} {pool : ComputePool} {declared : Declared}

/-- An empty comment is not shown, so it differs from any comment that is wanted. -/
theorem ifChanged_comment (shows : Shows current pool) (declares : Declares wanted declared)
    (settled : declared.comment?.getD "" = pool.comment) :
    ifChanged current wanted "comment" (wanted.string? "comment") =
      .ok (if declared.comment? = some "" then some "" else none) := by
  have shown := shows.comment
  have set := declares.comment
  by_cases blank : pool.comment = ""
  · rw [if_pos blank] at shown
    cases comment : declared.comment? with
    | none =>
        have unchanged : isChanged current wanted "comment" = false := by
          simp [isChanged, set, comment]
        simp [ifChanged, unchanged]
    | some text =>
        obtain rfl : text = "" := by simpa [comment, blank] using settled
        have changed : isChanged current wanted "comment" := by
          simp [isChanged, set, comment, Attributes.holds, shown]
        simp [ifChanged, changed, Attributes.string?, Attributes.typed?, set, comment,
          Value.asString?]
  · rw [if_neg blank] at shown
    have said : declared.comment? ≠ some "" := by
      intro empty
      rw [empty] at settled
      exact blank settled.symm
    rw [if_neg said]
    exact ifChanged_unchanged (isChanged_settled (by simp) set shown settled)

theorem resetFlag_comment (shows : Shows current pool) (declares : Declares wanted declared)
    (settled : declared.comment?.getD "" = pool.comment) :
    resetFlag ResourceKind.computePool.schema current wanted "comment" = none := by
  have shown := shows.comment
  by_cases blank : pool.comment = ""
  · rw [if_pos blank] at shown
    simp [resetFlag, shown]
  · rw [if_neg blank] at shown
    exact resetFlag_settled (by rfl) declares.comment shown settled

theorem reset_settled (shows : Shows current pool) (declares : Declares wanted declared)
    (settled : declared.apply pool = pool) :
    reset ResourceKind.computePool.schema current wanted = {} := by
  have resumes : declared.autoResume?.getD true = pool.autoResume :=
    congrArg ComputePool.autoResume settled
  have suspends : declared.autoSuspendSecs?.getD 600 = pool.autoSuspendSecs :=
    congrArg ComputePool.autoSuspendSecs settled
  have resumeKept :
      resetFlag ResourceKind.computePool.schema current wanted "auto_resume" = none :=
    resetFlag_settled (by rfl) declares.autoResume shows.autoResume resumes
  have suspendKept :
      resetFlag ResourceKind.computePool.schema current wanted "auto_suspend_secs" = none :=
    resetFlag_settled (by rfl) declares.autoSuspendSecs shows.autoSuspendSecs suspends
  rw [reset, resumeKept, suspendKept,
    resetFlag_comment shows declares (congrArg ComputePool.comment settled)]

theorem assignment_settled (shows : Shows current pool) (declares : Declares wanted declared)
    (settled : declared.apply pool = pool) :
    assignment current wanted =
      .ok { comment? := if declared.comment? = some "" then some "" else none } := by
  have minSet : wanted.get? "min_nodes" = (some declared.minNodes).map .int := declares.minNodes
  have maxSet : wanted.get? "max_nodes" = (some declared.maxNodes).map .int := declares.maxNodes
  have minNodes : (some declared.minNodes).getD 0 = pool.minNodes :=
    congrArg ComputePool.minNodes settled
  have maxNodes : (some declared.maxNodes).getD 0 = pool.maxNodes :=
    congrArg ComputePool.maxNodes settled
  have resumes : declared.autoResume?.getD true = pool.autoResume :=
    congrArg ComputePool.autoResume settled
  have suspends : declared.autoSuspendSecs?.getD 600 = pool.autoSuspendSecs :=
    congrArg ComputePool.autoSuspendSecs settled
  have minKept : isChanged current wanted "min_nodes" = false :=
    isChanged_settled (by simp) minSet shows.minNodes minNodes
  have maxKept : isChanged current wanted "max_nodes" = false :=
    isChanged_settled (by simp) maxSet shows.maxNodes maxNodes
  have resumeKept : isChanged current wanted "auto_resume" = false :=
    isChanged_settled (by simp) declares.autoResume shows.autoResume resumes
  have suspendKept : isChanged current wanted "auto_suspend_secs" = false :=
    isChanged_settled (by simp) declares.autoSuspendSecs shows.autoSuspendSecs suspends
  rw [assignment_eq, ifChanged_unchanged minKept, ifChanged_unchanged maxKept,
    ifChanged_unchanged resumeKept, ifChanged_unchanged suspendKept,
    ifChanged_comment shows declares (congrArg ComputePool.comment settled)]
  rfl

theorem changes_settled (shows : Shows current pool) (declares : Declares wanted declared)
    (settled : declared.apply pool = pool) :
    PoolResource.changes ResourceKind.computePool.schema current wanted = .ok {
      reset? := none
      assignment? :=
        if declared.comment? = some "" then some { comment? := some "" } else none } := by
  rw [changes, assignment_settled shows declares settled, reset_settled shows declares settled]
  by_cases empty : declared.comment? = some ""
  · simp only [empty, if_true]
    rfl
  · simp only [empty, if_false]
    rfl

end

theorem statements_ne_nil {current wanted : Attributes} {pool : ComputePool} {declared : Declared}
    {changes : Changes} (shows : Shows current pool) (declares : Declares wanted declared)
    (derived : PoolResource.changes ResourceKind.computePool.schema current wanted = .ok changes)
    (empty : declared.comment? = some "") : changes.statements pool.id ≠ [] := by
  intro none
  obtain ⟨others, derived', -, settles, -⟩ := changes_settle shows declares
  obtain rfl := Except.ok.inj (derived.symm.trans derived')
  -- Without statements the pool would be as wanted, and then the comment is assigned.
  have settled : declared.apply pool = pool := by
    rw [← settles, ← Changes.foldl_after, none]
    rfl
  obtain rfl := Except.ok.inj (derived.symm.trans (changes_settled shows declares settled))
  simp [empty, Changes.statements] at none

theorem exists_alterPool_of_mem {changes : Changes} {name : AccountId} :
    ∀ statement ∈ changes.statements name, ∃ request, statement = .alterPool request := by
  intro statement member
  simp only [Changes.statements, List.mem_append, List.mem_map] at member
  rcases member with ⟨reset, -, rfl⟩ | ⟨assignment, -, rfl⟩
  · exact ⟨_, rfl⟩
  · exact ⟨_, rfl⟩

theorem mem_replacing_iff {name : String} :
    name ∈ ResourceKind.computePool.schema.replacing ↔
      name = "name" ∨ name = "instance_family" ∨ name = "initially_suspended" := by
  refine ⟨mem_replacing, fun listed => ?_⟩
  have member : name ∈ ["name", "instance_family", "initially_suspended"] := by simpa using listed
  exact List.mem_mergeSort.mpr member

theorem get?_name (pool : ComputePool) :
    (attributes pool).get? "name" = some (.string pool.name) := by
  simp only [attributes, Table.ofList]
  split <;> simp [Table.get?_insert]

theorem get?_instanceFamily (pool : ComputePool) :
    (attributes pool).get? "instance_family" = some (.string pool.instanceFamily) := by
  simp only [attributes, Table.ofList]
  split <;> simp [Table.get?_insert]

theorem get?_initiallySuspended (pool : ComputePool) :
    (attributes pool).get? "initially_suspended" = none := by
  simp only [attributes, Table.ofList]
  split <;> simp [Table.get?_insert]

theorem replacement?_eq_none_iff {pool : ComputePool} {wanted : Attributes} :
    Operation.replacement? ResourceKind.computePool.schema (attributes pool) wanted = none ↔
      (∀ value, wanted.get? "name" = some value → (Value.string pool.name).same value) ∧
      ∀ value, wanted.get? "instance_family" = some value →
        (Value.string pool.instanceFamily).same value := by
  simp only [Operation.replacement?, List.find?_eq_none, mem_replacing_iff, forall_eq_or_imp,
    forall_eq, get?_name, get?_instanceFamily, get?_initiallySuspended]
  cases wanted.get? "name" <;> cases wanted.get? "instance_family" <;> simp

end PoolResource

open PoolResource

namespace ComputePool

/-- The pools agree in what statements give a pool. The rest is up to the platform. -/
structure SameSettings (pool other : ComputePool) : Prop where
  name : other.name = pool.name
  instanceFamily : other.instanceFamily = pool.instanceFamily
  minNodes : other.minNodes = pool.minNodes
  maxNodes : other.maxNodes = pool.maxNodes
  autoResume : other.autoResume = pool.autoResume
  autoSuspendSecs : other.autoSuspendSecs = pool.autoSuspendSecs
  comment : other.comment = pool.comment

theorem SameSettings.shows {pool other : ComputePool} (same : pool.SameSettings other) :
    Shows (attributes other) pool := by
  have shows := shows_attributes other
  exact {
    minNodes := same.minNodes ▸ shows.minNodes
    maxNodes := same.maxNodes ▸ shows.maxNodes
    autoResume := same.autoResume ▸ shows.autoResume
    autoSuspendSecs := same.autoSuspendSecs ▸ shows.autoSuspendSecs
    comment := same.comment ▸ shows.comment }

theorem SameSettings.apply_eq {pool other : ComputePool} {declared : Declared}
    (same : pool.SameSettings other) (settled : declared.apply pool = pool) :
    declared.apply other = other := by
  rw [← settled] at same
  obtain ⟨-, -, minNodes, maxNodes, autoResume, autoSuspendSecs, comment⟩ := same
  simp only [Declared.apply] at minNodes maxNodes autoResume autoSuspendSecs comment ⊢
  rw [← minNodes, ← maxNodes, ← autoResume, ← autoSuspendSecs, ← comment]

end ComputePool

end Provision
