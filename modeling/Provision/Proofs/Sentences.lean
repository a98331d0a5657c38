import Mathlib.Logic.ExistsUnique
import Provision.Proofs.Grammar

/-!
Which accepted statements are complete sentences. ALTER names one action and IN names one place,
unless what has been given is a flag that is off: it is counted when the statement is checked, but
leaves no clause.
-/

namespace Provision

namespace ComputePool

open Statement

theorem spelled_flag {sql : String} (keyword : IsKeyword sql) (on? : Option Bool) :
    Spelled (if on? = some true then [sql] else []) (flagTokens sql on?) := by
  rcases unlessOff_eq_or on? with off | on
  · have absent : on? ≠ some true := by
      rintro rfl
      simp at off
    rw [if_neg absent, flagTokens, off]
    exact spelled_nil
  · rw [if_pos (unlessOff_eq_some_iff.mp on), flagTokens, on, Statement.optional, List.append_nil]
    exact keyword.spelled

namespace Alter

def opening (alter : Alter) : String :=
  Text.joined " " (["ALTER COMPUTE POOL"] ++
    (if alter.ifExists? = some true then ["IF EXISTS"] else []) ++
    [alter.name.toIdentifier.qualifiedName])

def openingTokens (alter : Alter) : List Token :=
  words "ALTER COMPUTE POOL" ++ flagTokens "IF EXISTS" alter.ifExists? ++
    [.name alter.name.toIdentifier.given]

theorem spelled_opening {alter : Alter} (named : alter.name.toIdentifier.given ≠ []) :
    Spelled [alter.opening] alter.openingTokens := by
  have verb : Spelled ["ALTER COMPUTE POOL"] (words "ALTER COMPUTE POOL") :=
    IsKeyword.spelled (by decide)
  have guard := spelled_flag (by decide : IsKeyword "IF EXISTS") alter.ifExists?
  exact ((verb.append guard).append (spelled_name named)).joined (by simp)

def asked (alter : Alter) : List Token :=
  flagTokens "SUSPEND" alter.suspend? ++ (flagTokens "RESUME" alter.resume? ++
    (flagTokens "STOP ALL" alter.stopAll? ++
      (optional "SET" (fun assignment => assignment.form.tokens) alter.set? ++
        optional "UNSET" (fun reset => reset.form.tokens) alter.unset?)))

theorem tokens_eq (alter : Alter) : alter.form.tokens = alter.openingTokens ++ alter.asked := by
  have verb : words "ALTER COMPUTE POOL" = words "ALTER" ++ words "COMPUTE POOL" := by decide
  simp [form, Form.tokens, tokensOf, openingTokens, asked, verb]

/-- What has been asked for is nothing. -/
def IsIdle (alter : Alter) : Prop :=
  alter.suspend? = some false ∨ alter.resume? = some false ∨ alter.stopAll? = some false ∨
    ∃ reset ∈ alter.unset?, reset.said = {}

end Alter

inductive Alter.AsksOne : Alter → Prop where
  | suspend (name : AccountId) (ifExists? : Option Bool) (on : Bool) :
      AsksOne { name, ifExists?, suspend? := some on }
  | resume (name : AccountId) (ifExists? : Option Bool) (on : Bool) :
      AsksOne { name, ifExists?, resume? := some on }
  | stopAll (name : AccountId) (ifExists? : Option Bool) (on : Bool) :
      AsksOne { name, ifExists?, stopAll? := some on }
  | set (name : AccountId) (ifExists? : Option Bool) (assignment : Assignment)
      (given : assignment ≠ {}) : AsksOne { name, ifExists?, set? := some assignment }
  | unset (name : AccountId) (ifExists? : Option Bool) (reset : Reset) (given : reset ≠ {}) :
      AsksOne { name, ifExists?, unset? := some reset }

theorem assignment_accepted_iff (owner : String) (assignment : Assignment) :
    assignment.form.violationsUnder owner = [] ↔ assignment ≠ {} := by
  obtain ⟨minNodes?, maxNodes?, autoResume?, autoSuspendSecs?, comment?⟩ := assignment
  simp [Form.violationsUnder_eq_nil_iff, Assignment.form, Constraint.violation?, presentCount_cons]

theorem reset_accepted_iff (owner : String) (reset : Reset) :
    reset.form.violationsUnder owner = [] ↔ reset ≠ {} := by
  obtain ⟨autoSuspendSecs?, autoResume?, comment?⟩ := reset
  simp [Form.violationsUnder_eq_nil_iff, Reset.form, Constraint.violation?, presentCount_cons]

theorem asksOne_of_accepted {alter : Alter} (accepted : (alterPool alter).form.violations = []) :
    alter.AsksOne := by
  obtain ⟨name, ifExists?, suspend?, resume?, stopAll?, set?, unset?⟩ := alter
  obtain ⟨passes, constrained⟩ := (Form.violationsUnder_eq_nil_iff _ _).mp accepted
  simp only [Statement.form, Alter.form, List.forall_mem_cons, Field.passes_block_iff] at passes
  obtain ⟨-, -, -, -, -, -, -, assigns, resets, -⟩ := passes
  simp only [Statement.form, Alter.form, List.forall_mem_cons] at constrained
  have count := constrained.1
  simp [Constraint.violation?, presentCount_cons] at count
  -- The first action that is given is the only one.
  cases suspend? with
  | some on =>
      have others : resume? = none ∧ stopAll? = none ∧ set? = none ∧ unset? = none := by
        simpa using count
      obtain ⟨rfl, rfl, rfl, rfl⟩ := others
      exact .suspend name ifExists? on
  | none =>
      cases resume? with
      | some on =>
          have others : stopAll? = none ∧ set? = none ∧ unset? = none := by simpa using count
          obtain ⟨rfl, rfl, rfl⟩ := others
          exact .resume name ifExists? on
      | none =>
          cases stopAll? with
          | some on =>
              have others : set? = none ∧ unset? = none := by simpa using count
              obtain ⟨rfl, rfl⟩ := others
              exact .stopAll name ifExists? on
          | none =>
              cases set? with
              | some assignment =>
                  have others : unset? = none := by simpa using count
                  subst others
                  have given := (assignment_accepted_iff _ assignment).mp (assigns _ rfl)
                  exact .set name ifExists? assignment given
              | none =>
                  cases unset? with
                  | some reset =>
                      have given := (reset_accepted_iff _ reset).mp (resets _ rfl)
                      exact .unset name ifExists? reset given
                  | none => simp at count

def Assignment.assigned (assignment : Assignment) : List Assigned :=
  (assignment.minNodes?.map .minNodes).toList ++ (assignment.maxNodes?.map .maxNodes).toList ++
    (assignment.autoResume?.map .autoResume).toList ++
    (assignment.autoSuspendSecs?.map .autoSuspendSecs).toList ++
    (assignment.comment?.map .comment).toList

def Reset.named (reset : Reset) : List Property :=
  ((unlessOff reset.autoSuspendSecs?).map fun _ => .autoSuspendSecs).toList ++
    ((unlessOff reset.autoResume?).map fun _ => .autoResume).toList ++
    ((unlessOff reset.comment?).map fun _ => .comment).toList

theorem Assignment.tokens_eq (assignment : Assignment) :
    assignment.form.tokens = assignment.assigned.flatMap Assigned.tokens := by
  obtain ⟨minNodes?, maxNodes?, autoResume?, autoSuspendSecs?, comment?⟩ := assignment
  have minNodes := Assigned.assignedTokens_eq .minNodes (fun _ => rfl) (Arg.token?_ofInt? minNodes?)
  have maxNodes := Assigned.assignedTokens_eq .maxNodes (fun _ => rfl) (Arg.token?_ofInt? maxNodes?)
  have autoResume :=
    Assigned.assignedTokens_eq .autoResume (fun _ => rfl) (Arg.token?_ofBool? autoResume?)
  have autoSuspendSecs :=
    Assigned.assignedTokens_eq .autoSuspendSecs (fun _ => rfl) (Arg.token?_ofInt? autoSuspendSecs?)
  have comment := Assigned.assignedTokens_eq .comment (fun _ => rfl) (Arg.token?_ofText? comment?)
  simp only [assigned, List.flatMap_append, ← minNodes, ← maxNodes, ← autoResume,
    ← autoSuspendSecs, ← comment]
  simp [form, Form.tokens, tokensOf]

theorem Assignment.assigned_ne_nil {assignment : Assignment} (given : assignment ≠ {}) :
    assignment.assigned ≠ [] := by
  obtain ⟨minNodes?, maxNodes?, autoResume?, autoSuspendSecs?, comment?⟩ := assignment
  simpa [assigned] using given

theorem Property.flagTokens_eq (property : Property) (on? : Option Bool) :
    flagTokens property.text on? =
      ((unlessOff on?).map fun _ => property).toList.flatMap tokens := by
  rw [flagTokens]
  cases unlessOff on? with
  | none => rfl
  | some on => simp [Statement.optional, words_text]

theorem Reset.tokens_eq (reset : Reset) :
    reset.form.tokens = reset.named.flatMap Property.tokens := by
  simp only [named, List.flatMap_append, ← Property.flagTokens_eq]
  simp [form, Form.tokens, tokensOf, Property.text]

theorem Reset.named_eq_nil_iff {reset : Reset} : reset.named = [] ↔ reset.said = {} := by
  simp [named, said]

theorem Action.tokens_ne_nil (action : Action) : action.tokens ≠ [] := by
  intro empty
  exact words_ne_nil action.keyword (List.append_eq_nil_iff.mp empty).1

theorem Action.tokens_ne_unset (action : Action) : action.tokens ≠ words "UNSET" := by
  intro same
  have keywords : ¬Apart action.keyword "UNSET" := fun apart =>
    words_append_ne apart action.body [] (by rwa [List.append_nil])
  cases action with
  | unset first others =>
      have lengths := congrArg List.length same
      simp [tokens, keyword, body, Property.tokens] at lengths
  | _ => simp +decide [keyword] at keywords

theorem exists_action_iff {alter : Alter} (asks : alter.AsksOne) :
    (∃ action : Action, alter.asked = action.tokens) ↔ ¬alter.IsIdle := by
  have idle {alter : Alter} (idle : alter.IsIdle) (asked : alter.asked = []) :
      (∃ action : Action, alter.asked = action.tokens) ↔ ¬alter.IsIdle := by
    refine iff_of_false ?_ (not_not_intro idle)
    rintro ⟨action, same⟩
    exact action.tokens_ne_nil (same.symm.trans asked)
  cases asks with
  | suspend name ifExists? on =>
      cases on with
      | false => exact idle (.inl rfl) (by simp [Alter.asked, flagTokens])
      | true =>
          have asked : Alter.asked { name, ifExists?, suspend? := some true } =
              Action.suspend.tokens := by
            simp [Alter.asked, flagTokens, Action.tokens, Action.keyword, Action.body]
          exact iff_of_true ⟨_, asked⟩ (by simp [Alter.IsIdle])
  | resume name ifExists? on =>
      cases on with
      | false => exact idle (.inr (.inl rfl)) (by simp [Alter.asked, flagTokens])
      | true =>
          have asked : Alter.asked { name, ifExists?, resume? := some true } =
              Action.resume.tokens := by
            simp [Alter.asked, flagTokens, Action.tokens, Action.keyword, Action.body]
          exact iff_of_true ⟨_, asked⟩ (by simp [Alter.IsIdle])
  | stopAll name ifExists? on =>
      cases on with
      | false => exact idle (.inr (.inr (.inl rfl))) (by simp [Alter.asked, flagTokens])
      | true =>
          have asked : Alter.asked { name, ifExists?, stopAll? := some true } =
              Action.stopAll.tokens := by
            simp [Alter.asked, flagTokens, Action.tokens, Action.keyword, Action.body]
          exact iff_of_true ⟨_, asked⟩ (by simp [Alter.IsIdle])
  | set name ifExists? assignment given =>
      obtain ⟨first, others, assigned⟩ :=
        List.exists_cons_of_ne_nil (Assignment.assigned_ne_nil given)
      have asked : Alter.asked { name, ifExists?, set? := some assignment } =
          (Action.set first others).tokens := by
        simp [Alter.asked, flagTokens, Assignment.tokens_eq, assigned, Action.tokens,
          Action.keyword, Action.body]
      exact iff_of_true ⟨_, asked⟩ (by simp [Alter.IsIdle])
  | unset name ifExists? reset given =>
      have asked : Alter.asked { name, ifExists?, unset? := some reset } =
          words "UNSET" ++ reset.named.flatMap Property.tokens := by
        simp [Alter.asked, flagTokens, Reset.tokens_eq]
      have off : Alter.IsIdle { name, ifExists?, unset? := some reset } ↔ reset.named = [] := by
        simp [Alter.IsIdle, Reset.named_eq_nil_iff]
      rw [asked, off]
      cases reset.named with
      | nil =>
          refine iff_of_false ?_ (not_not_intro rfl)
          rintro ⟨action, same⟩
          exact action.tokens_ne_unset (by simpa using same.symm)
      | cons first others => exact iff_of_true ⟨.unset first others, rfl⟩ (by simp)

section

variable {alter : Alter} (accepted : (alterPool alter).form.violations = [])

include accepted

theorem alterPool_sql_eq_iff (action : Action) :
    (alterPool alter).sql = alter.opening ++ " " ++ action.text ↔ alter.asked = action.tokens := by
  have target : Field.target "name" alter.name.toIdentifier ∈ (alterPool alter).form.fields := by
    simp [Statement.form, Alter.form]
  have named := given_ne_nil_of_accepted accepted target
  have sentence := (Alter.spelled_opening named).join action.spelled
  have written := spelled_sql_of_accepted accepted (by simp)
  rw [written.inj sentence, Statement.form, Alter.tokens_eq, List.append_cancel_left_eq]

theorem alterPool_complete_iff :
    (∃! action : Action, (alterPool alter).sql = alter.opening ++ " " ++ action.text) ↔
      ¬alter.IsIdle := by
  rw [← exists_action_iff (asksOne_of_accepted accepted)]
  simp only [alterPool_sql_eq_iff accepted]
  constructor
  · rintro ⟨action, asked, -⟩
    exact ⟨action, asked⟩
  · rintro ⟨action, asked⟩
    exact ⟨action, asked, fun other asked' => Action.tokens_injective (asked'.symm.trans asked)⟩

end

end ComputePool

namespace ImageRepository

open Statement

namespace Show

def likeClause : Option String → List String
  | some pattern => ["LIKE" ++ " " ++ Text.quoted '\'' pattern]
  | none => []

def opening (request : Show) : String :=
  Text.joined " " (["SHOW IMAGE REPOSITORIES"] ++ likeClause request.like? ++ ["IN"])

def openingTokens (request : Show) : List Token :=
  words "SHOW IMAGE REPOSITORIES" ++
    optional "LIKE" (fun pattern => (likeForm pattern).tokens) request.like? ++ words "IN"

theorem spelled_likeClause (like? : Option String) :
    Spelled (likeClause like?)
      (optional "LIKE" (fun pattern => (likeForm pattern).tokens) like?) := by
  cases like? with
  | none => exact spelled_nil
  | some pattern =>
      have sound : (Token.text pattern).Sound := trivial
      have text := spelled_one sound
      rw [Token.spelling, String.ofList_toList] at text
      have keyword : IsKeyword "LIKE" := by decide
      exact keyword.spelled.join text

theorem spelled_opening (request : Show) : Spelled [request.opening] request.openingTokens := by
  have verb : Spelled ["SHOW IMAGE REPOSITORIES"] (words "SHOW IMAGE REPOSITORIES") :=
    IsKeyword.spelled (by decide)
  have within : Spelled ["IN"] (words "IN") := IsKeyword.spelled (by decide)
  exact ((verb.append (spelled_likeClause request.like?)).append within).joined (by simp)

theorem tokens_eq {request : Show} {scope : Scope} (narrowed : request.scope? = some scope) :
    request.form.tokens = request.openingTokens ++ scope.form.tokens := by
  have verb : words "SHOW IMAGE REPOSITORIES" = words "SHOW" ++ words "IMAGE REPOSITORIES" := by
    decide
  simp only [Show.form, Form.tokens, tokensOf, Field.tokens_block, narrowed]
  simp [openingTokens, verb]

end Show

theorem scope_cases {owner : String} {scope : Scope}
    (accepted : scope.form.violationsUnder owner = []) :
    (∃ on, scope = { account? := some on }) ∨
      (∃ id, id.toIdentifier.given ≠ [] ∧ scope = .ofDatabase id) ∨
      ∃ id, id.toIdentifier.given ≠ [] ∧ scope = .ofSchema id := by
  obtain ⟨account?, database?, schema?⟩ := scope
  obtain ⟨passes, constrained⟩ := (Form.violationsUnder_eq_nil_iff _ _).mp accepted
  simp only [Scope.form, List.forall_mem_cons, Field.passes_keyword_ident_iff] at passes
  obtain ⟨-, databases, schemas, -⟩ := passes
  simp only [Scope.form, List.forall_mem_cons] at constrained
  have count := constrained.1
  simp [Constraint.violation?, presentCount_cons] at count
  cases account? with
  | some on =>
      have others : database? = none ∧ schema? = none := by simpa using count
      obtain ⟨rfl, rfl⟩ := others
      exact .inl ⟨on, rfl⟩
  | none =>
      cases database? with
      | some id =>
          have others : schema? = none := by simpa using count
          subst others
          exact .inr (.inl ⟨id, Identifier.given_ne_nil (databases _ rfl), rfl⟩)
      | none =>
          cases schema? with
          | some id => exact .inr (.inr ⟨id, Identifier.given_ne_nil (schemas _ rfl), rfl⟩)
          | none => simp at count

theorem exists_place_iff {owner : String} {scope : Scope}
    (accepted : scope.form.violationsUnder owner = []) :
    (∃ place : Place, scope.form.tokens = place.tokens) ↔ scope.account? ≠ some false := by
  rcases scope_cases accepted with ⟨on, rfl⟩ | ⟨id, named, rfl⟩ | ⟨id, named, rfl⟩
  · cases on with
    | false =>
        have nothing : Form.tokens (Scope.form { account? := some false }) = [] := by
          simp [Scope.form, Form.tokens, tokensOf, flagTokens, placeTokens]
        refine iff_of_false ?_ (by simp)
        rintro ⟨place, same⟩
        rw [nothing] at same
        exact words_ne_nil place.keyword (List.append_eq_nil_iff.mp same.symm).1
    | true =>
        have account : Form.tokens (Scope.form { account? := some true }) =
            Place.account.tokens := by
          simp [Scope.form, Form.tokens, tokensOf, flagTokens, placeTokens, Place.tokens,
            Place.keyword, Place.body]
        exact iff_of_true ⟨_, account⟩ (by simp)
  · obtain ⟨first, others, given⟩ := List.exists_cons_of_ne_nil named
    have database : (Scope.ofDatabase id).form.tokens = (Place.database first others).tokens := by
      simp [Scope.form, Scope.ofDatabase, Form.tokens, tokensOf, flagTokens, placeTokens, given,
        Place.tokens, Place.keyword, Place.body]
    exact iff_of_true ⟨_, database⟩ (by simp [Scope.ofDatabase])
  · obtain ⟨first, others, given⟩ := List.exists_cons_of_ne_nil named
    have schema : (Scope.ofSchema id).form.tokens = (Place.schema first others).tokens := by
      simp [Scope.form, Scope.ofSchema, Form.tokens, tokensOf, flagTokens, placeTokens, given,
        Place.tokens, Place.keyword, Place.body]
    exact iff_of_true ⟨_, schema⟩ (by simp [Scope.ofSchema])

theorem showRepositories_complete_iff {request : Show} {scope : Scope}
    (accepted : (showRepositories request).form.violations = [])
    (narrowed : request.scope? = some scope) :
    (∃! place : Place, (showRepositories request).sql = request.opening ++ " " ++ place.text) ↔
      scope.account? ≠ some false := by
  have within : (Field.block "In" "IN" (request.scope?.map Scope.form)).Passes _ :=
    passes_of_accepted accepted (by simp [Statement.form, Show.form])
  rw [Field.passes_block_iff, narrowed] at within
  have written (place : Place) :
      (showRepositories request).sql = request.opening ++ " " ++ place.text ↔
        scope.form.tokens = place.tokens := by
    have sentence := request.spelled_opening.join place.spelled
    rw [(spelled_sql_of_accepted accepted (by simp)).inj sentence, Statement.form,
      Show.tokens_eq narrowed, List.append_cancel_left_eq]
  rw [← exists_place_iff (within scope.form rfl)]
  simp only [written]
  constructor
  · rintro ⟨place, asked, -⟩
    exact ⟨place, asked⟩
  · rintro ⟨place, asked⟩
    exact ⟨place, asked, fun other asked' => Place.tokens_injective (asked'.symm.trans asked)⟩

end ImageRepository

namespace Statement

/-- Accepted sentences are complete, except where a flag that is off stands for an action or a
place. -/
theorem complete_iff_not_idle (alter : ComputePool.Alter) (request : ImageRepository.Show)
    (scope : Scope) :
    ((alterPool alter).form.violations = [] →
      ((∃! action : ComputePool.Action,
          (alterPool alter).sql = alter.opening ++ " " ++ action.text) ↔ ¬alter.IsIdle)) ∧
    ((showRepositories request).form.violations = [] → request.scope? = some scope →
      ((∃! place : ImageRepository.Place,
          (showRepositories request).sql = request.opening ++ " " ++ place.text) ↔
        scope.account? ≠ some false)) :=
  ⟨fun accepted => ComputePool.alterPool_complete_iff accepted,
    fun accepted narrowed => ImageRepository.showRepositories_complete_iff accepted narrowed⟩

/-- Texts that read like later clauses stay in their place. -/
theorem complete_comment_and_schema :
    (∃! action : ComputePool.Action,
      (alterPool { name := ⟨"A\" SUSPEND"⟩, set? := some { comment? := some "' RESUME" } }).sql =
        "ALTER COMPUTE POOL \"A\"\" SUSPEND\"" ++ " " ++ action.text) ∧
    ∃! place : ImageRepository.Place,
      (showRepositories
        { like? := some "' IN ACCOUNT", scope? := some (.ofSchema ⟨"", "S"⟩) }).sql =
        "SHOW IMAGE REPOSITORIES LIKE ''' IN ACCOUNT' IN" ++ " " ++ place.text := by
  have altered := (alterPool_assignment_accepted_iff ⟨"A\" SUSPEND"⟩
    (by decide : ({ comment? := some "' RESUME" } : ComputePool.Assignment) ≠ {})).mpr (by decide)
  have shown := (showRepositories_inSchema_accepted_iff "' IN ACCOUNT" ⟨"", "S"⟩).mpr (by decide)
  obtain ⟨action, place⟩ := complete_iff_not_idle
    { name := ⟨"A\" SUSPEND"⟩, set? := some { comment? := some "' RESUME" } }
    { like? := some "' IN ACCOUNT", scope? := some (.ofSchema ⟨"", "S"⟩) } (.ofSchema ⟨"", "S"⟩)
  exact ⟨(action altered).mpr (by simp [ComputePool.Alter.IsIdle]),
    (place shown rfl).mpr (by decide)⟩

theorem not_forall_complete :
    ¬∀ alter : ComputePool.Alter, (alterPool alter).form.violations = [] →
      ∃ action : ComputePool.Action,
        (alterPool alter).sql = alter.opening ++ " " ++ action.text := by
  intro complete
  have accepted :
      (alterPool { name := ⟨"POOL"⟩, suspend? := some false }).form.violations = [] := by
    decide
  obtain ⟨action, written⟩ := complete _ accepted
  rw [ComputePool.alterPool_sql_eq_iff accepted] at written
  have nothing : ComputePool.Alter.asked { name := ⟨"POOL"⟩, suspend? := some false } = [] := rfl
  exact action.tokens_ne_nil (written.symm.trans nothing)

end Statement

end Provision
