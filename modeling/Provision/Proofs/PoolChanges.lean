import Provision.Proofs.Acceptance
import Provision.Proofs.Conversation

/-!
What an update changes of a pool. Only attributes that differ are looked up, and the statements that
carry out the changes name at least one property each, so that the platform is asked for something.
-/

namespace Provision.PoolResource

open ComputePool Statement

variable {α : Type} {schema : Schema} {current wanted : Attributes}

def ifChanged (current wanted : Attributes) (key : String)
    (value? : Except FaultCause (Option α)) : Except FaultCause (Option α) :=
  if isChanged current wanted key then value? else .ok none

theorem assignment_eq (current wanted : Attributes) :
    assignment current wanted = (do
      let minNodes? ← ifChanged current wanted "min_nodes" (wanted.int? "min_nodes")
      let maxNodes? ← ifChanged current wanted "max_nodes" (wanted.int? "max_nodes")
      let autoResume? ← ifChanged current wanted "auto_resume" (wanted.bool? "auto_resume")
      let autoSuspendSecs? ←
        ifChanged current wanted "auto_suspend_secs" (wanted.int? "auto_suspend_secs")
      let comment? ← ifChanged current wanted "comment" (wanted.string? "comment")
      return { minNodes?, maxNodes?, autoResume?, autoSuspendSecs?, comment? }) := by
  simp only [assignment, ifChanged]
  cases isChanged current wanted "min_nodes" <;> cases isChanged current wanted "max_nodes" <;>
    cases isChanged current wanted "auto_resume" <;>
    cases isChanged current wanted "auto_suspend_secs" <;>
    cases isChanged current wanted "comment" <;> rfl

theorem wrongType_of_typed {attributes : Attributes} {key expected : String}
    {convert? : Value → Option α} {cause : FaultCause}
    (failed : attributes.typed? key expected convert? = .error cause) :
    cause = .wrongType key expected := by
  simp only [Attributes.typed?] at failed
  split at failed
  next => simp at failed
  next =>
    split at failed
    next => simp at failed
    next => exact (Except.error.inj failed).symm

theorem wrongType_of_ifChanged {key expected : String} {convert? : Value → Option α}
    {cause : FaultCause}
    (failed : ifChanged current wanted key (wanted.typed? key expected convert?) = .error cause) :
    ∃ key expected, cause = .wrongType key expected := by
  simp only [ifChanged] at failed
  split at failed
  next => exact ⟨key, expected, wrongType_of_typed failed⟩
  next => simp at failed

theorem wrongType_of_changes {cause : FaultCause}
    (failed : changes schema current wanted = .error cause) :
    ∃ key expected, cause = .wrongType key expected := by
  simp only [changes, assignment_eq, bind_eq_error_iff, pure, Except.pure, reduceCtorEq, and_false,
    exists_false, or_false] at failed
  rcases failed with failed | ⟨_, -, failed | ⟨_, -, failed | ⟨_, -, failed | ⟨_, -, failed⟩⟩⟩⟩
  · exact wrongType_of_ifChanged failed
  · exact wrongType_of_ifChanged failed
  · exact wrongType_of_ifChanged failed
  · exact wrongType_of_ifChanged failed
  · exact wrongType_of_ifChanged failed

theorem named_of_changes {changes : Changes}
    (derived : PoolResource.changes schema current wanted = .ok changes) :
    changes.reset? ≠ some {} ∧ changes.assignment? ≠ some {} := by
  obtain ⟨assignment, -, derived⟩ := bind_eq_ok_iff.mp derived
  obtain rfl := Except.ok.inj derived
  constructor
  · show (if _ then none else some _) ≠ _
    split
    next => simp
    next named => exact fun same => named (Option.some.inj same)
  · show (if _ then none else some _) ≠ _
    split
    next => simp
    next named => exact fun same => named (Option.some.inj same)

def Changes.statements (changes : Changes) (pool : AccountId) : List Statement :=
  (changes.reset?.toList.map fun reset => .alterPool { name := pool, unset? := some reset }) ++
    changes.assignment?.toList.map fun assignment =>
      .alterPool { name := pool, set? := some assignment }

theorem statements_accepted_iff {changes : Changes}
    (derived : PoolResource.changes schema current wanted = .ok changes) (pool : AccountId)
    {statement : Statement} (member : statement ∈ changes.statements pool) :
    statement.form.violations = [] ↔ pool.toIdentifier.isValid := by
  have named := named_of_changes derived
  simp only [Changes.statements, List.mem_append, List.mem_map, Option.mem_toList] at member
  rcases member with ⟨reset, resets, rfl⟩ | ⟨assignment, assigns, rfl⟩
  · exact alterPool_reset_accepted_iff pool fun empty => named.1 (empty ▸ resets)
  · exact alterPool_assignment_accepted_iff pool fun empty => named.2 (empty ▸ assigns)

end Provision.PoolResource
