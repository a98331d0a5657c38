import Provision.Proofs.Course
import Provision.Proofs.Legibility

/-!
How a statement writes the object that it affects: the name stands in the text right after the words
that open the statement, set off from whatever follows.
-/

namespace Provision.Statement

open Text

theorem setOff_spaced (clauses : List String) : SetOff (spaced clauses) := by
  cases clauses with
  | nil => exact setOff_nil
  | cons first rest => simp [spaced]

theorem keywordClause_ofFlag? (keyword : String) (on? : Option Bool) :
    keywordClause keyword (.ofFlag? on?) = if on? = some true then [keyword] else [] := by
  rcases on? with _ | _ | _
  · rfl
  · rfl
  · rfl

theorem Form.toList_sql {form : Form} {front back : List Field} {name : String} {id : Identifier}
    (fields : form.fields = front ++ Field.target name id :: back)
    (opened : clausesOf front ≠ []) (named : id.given ≠ []) :
    form.sql.toList =
      (joined " " (clausesOf front) ++ " " ++ id.qualifiedName).toList ++
        spaced (clausesOf back) := by
  obtain ⟨owner, _, constraints⟩ := form
  obtain rfl := fields
  have target : (Field.target name id).clauses = [id.qualifiedName] := by
    show nonempty id.qualifiedName = _
    rw [nonempty, if_neg (qualifiedName_ne_empty named)]
  have clauses : clausesOf (front ++ Field.target name id :: back) =
      clausesOf front ++ [id.qualifiedName] ++ clausesOf back := by
    rw [clausesOf_append, clausesOf, target, List.append_assoc]
  -- With a space before it the text is its clauses, each after a space.
  refine List.cons_injective (a := ' ') ?_
  show ' ' :: (joined " " (clausesOf (front ++ Field.target name id :: back))).toList = _
  rw [clauses, space_joined (by simp), spaced_append, spaced_append, ← space_joined opened]
  simp [spaced]

/-- The name stands in the text right after the opening, set off from what follows. -/
def Addresses (statement : Statement) (opening target : String) : Prop :=
  ∃ rest, SetOff rest ∧ statement.sql.toList = (opening ++ " " ++ target).toList ++ rest

theorem addresses_of_fields {statement : Statement} {front back : List Field} {words : List String}
    {name opening : String} {id : Identifier}
    (fields : statement.form.fields = front ++ Field.target name id :: back)
    (clauses : clausesOf front = words) (opens : joined " " words = opening)
    (opened : words ≠ []) (named : id.given ≠ []) :
    statement.Addresses opening id.qualifiedName := by
  subst clauses opens
  exact ⟨_, setOff_spaced _, Form.toList_sql fields opened named⟩

theorem addresses_createPool {request : ComputePool.Create}
    (named : request.name.toIdentifier.given ≠ []) (fresh : request.ifNotExists? = none) :
    (createPool request).Addresses "CREATE COMPUTE POOL"
      request.name.toIdentifier.qualifiedName := by
  have fields : (createPool request).form.fields =
      [.fixed "CREATE", .fixed "COMPUTE POOL",
        .keyword "IfNotExists" "IF NOT EXISTS" (.ofFlag? request.ifNotExists?)] ++
        Field.target "name" request.name.toIdentifier :: request.form.fields.drop 4 := rfl
  rw [fresh] at fields
  exact addresses_of_fields fields (show _ = ["CREATE", "COMPUTE POOL"] from rfl)
    (by decide) (by simp) named

theorem addresses_alterPool {request : ComputePool.Alter}
    (named : request.name.toIdentifier.given ≠ []) (bare : request.ifExists? = none) :
    (alterPool request).Addresses "ALTER COMPUTE POOL"
      request.name.toIdentifier.qualifiedName := by
  have fields : (alterPool request).form.fields =
      [.fixed "ALTER", .fixed "COMPUTE POOL",
        .keyword "IfExists" "IF EXISTS" (.ofFlag? request.ifExists?)] ++
        Field.target "name" request.name.toIdentifier :: request.form.fields.drop 4 := rfl
  rw [bare] at fields
  exact addresses_of_fields fields (show _ = ["ALTER", "COMPUTE POOL"] from rfl)
    (by decide) (by simp) named

theorem addresses_createRepository {repository : SchemaId}
    (named : repository.toIdentifier.given ≠ []) :
    (createRepository { name := repository }).Addresses "CREATE IMAGE REPOSITORY"
      repository.toIdentifier.qualifiedName := by
  have fields : (createRepository { name := repository }).form.fields =
      [.fixed "CREATE", .keyword "OrReplace" "OR REPLACE" .unset, .fixed "IMAGE REPOSITORY",
        .keyword "IfNotExists" "IF NOT EXISTS" .unset] ++
        [Field.target "name" repository.toIdentifier] := rfl
  exact addresses_of_fields fields (show _ = ["CREATE", "IMAGE REPOSITORY"] from rfl)
    (by decide) (by simp) named

theorem sql_of_drop {statement : Statement} {noun : String} {id : Identifier}
    {ifExists? : Option Bool}
    (fields : statement.form.fields =
      [.fixed "DROP", .fixed noun, .keyword "IfExists" "IF EXISTS" (.ofFlag? ifExists?)] ++
        [Field.target "name" id])
    (named : id.given ≠ []) :
    statement.sql = "DROP " ++ noun ++ " " ++
      (if ifExists? = some true then "IF EXISTS " else "") ++ id.qualifiedName := by
  have front : clausesOf
      [.fixed "DROP", .fixed noun, .keyword "IfExists" "IF EXISTS" (.ofFlag? ifExists?)] =
        ["DROP", noun] ++ if ifExists? = some true then ["IF EXISTS"] else [] := by
    rw [← keywordClause_ofFlag? "IF EXISTS", ← List.append_nil (keywordClause ..)]
    rfl
  have written := Form.toList_sql fields (List.cons_ne_nil "DROP" _) named
  rw [front] at written
  rw [← String.toList_inj, sql, written]
  by_cases sparing : ifExists? = some true
  · simp [sparing, joined, spaced, clausesOf]
  · simp [sparing, joined, spaced, clausesOf]

end Provision.Statement
