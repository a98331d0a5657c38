import Provision.Proofs.Clauses

/-!
Statements are read in one way only. What a statement says is what it holds, less the flags that are
off and the segments that are empty; two accepted statements have the same SQL text exactly when
they say the same, unless they are of the one kind that writes a text without quotation marks.
-/

namespace Provision.ComputePool

open Statement

def Assignment.keywords : List String :=
  ["MIN_NODES", "MAX_NODES", "AUTO_RESUME", "AUTO_SUSPEND_SECS", "COMMENT"]

def Reset.said (reset : Reset) : Reset where
  autoSuspendSecs? := unlessOff reset.autoSuspendSecs?
  autoResume? := unlessOff reset.autoResume?
  comment? := unlessOff reset.comment?

end Provision.ComputePool

namespace Provision.Statement

open ComputePool

structure Extent where
  account? : Option Bool
  database? : Option (List String)
  schema? : Option (List String)
deriving DecidableEq, Repr

def Scope.extent (scope : Scope) : Extent where
  account? := unlessOff scope.account?
  database? := (scope.database?.map AccountId.toIdentifier).map Identifier.given
  schema? := (scope.schema?.map DatabaseId.toIdentifier).map Identifier.given

inductive Content where
  | createPool (request : ComputePool.Create)
  | alterPool (ifExists? : Option Bool) (name : List String)
      (suspend? resume? stopAll? : Option Bool) (set? : Option Assignment) (unset? : Option Reset)
  | dropPool (ifExists? : Option Bool) (name : List String)
  | showPools (request : ComputePool.Show)
  | describePool (name : List String)
  | createRepository (orReplace? ifNotExists? : Option Bool) (name : List String)
  | dropRepository (ifExists? : Option Bool) (name : List String)
  | showRepositories (like? : Option String) (extent? : Option Extent)
deriving DecidableEq, Repr

def content : Statement → Content
  | createPool request =>
      .createPool { request with ifNotExists? := unlessOff request.ifNotExists? }
  | alterPool request =>
      .alterPool (unlessOff request.ifExists?) request.name.toIdentifier.given
        (unlessOff request.suspend?) (unlessOff request.resume?) (unlessOff request.stopAll?)
        request.set? (request.unset?.map Reset.said)
  | dropPool request => .dropPool (unlessOff request.ifExists?) request.name.toIdentifier.given
  | showPools request => .showPools request
  | describePool request => .describePool request.name.toIdentifier.given
  | createRepository request =>
      .createRepository (unlessOff request.orReplace?) (unlessOff request.ifNotExists?)
        request.name.toIdentifier.given
  | dropRepository request =>
      .dropRepository (unlessOff request.ifExists?) request.name.toIdentifier.given
  | showRepositories request => .showRepositories request.like? (request.scope?.map Scope.extent)

/-! Blocks. -/

section

variable {rest rest' : List Token}

theorem assignment_append_inj (past : ∀ keyword ∈ Assignment.keywords, Past keyword rest)
    (past' : ∀ keyword ∈ Assignment.keywords, Past keyword rest') (left right : Assignment) :
    left.form.tokens ++ rest = right.form.tokens ++ rest' ↔ left = right ∧ rest = rest' := by
  obtain ⟨minNodes?, maxNodes?, autoResume?, autoSuspendSecs?, comment?⟩ := left
  obtain ⟨minNodes'?, maxNodes'?, autoResume'?, autoSuspendSecs'?, comment'?⟩ := right
  simp only [Assignment.keywords, List.forall_mem_cons] at past past'
  simp +decide [Assignment.form, Form.tokens, tokensOf, past, past', and_assoc]

theorem set_append_inj (past : ∀ keyword ∈ "SET" :: Assignment.keywords, Past keyword rest)
    (past' : ∀ keyword ∈ "SET" :: Assignment.keywords, Past keyword rest')
    {left right : Option Assignment} :
    optional "SET" (fun assignment => assignment.form.tokens) left ++ rest =
      optional "SET" (fun assignment => assignment.form.tokens) right ++ rest' ↔
      left = right ∧ rest = rest' := by
  rw [List.forall_mem_cons] at past past'
  exact optional_append_inj past.1 past'.1 (assignment_append_inj past.2 past'.2)

theorem like_append_inj (past : Past "LIKE" rest) (past' : Past "LIKE" rest')
    {left right : Option String} :
    optional "LIKE" (fun pattern => (likeForm pattern).tokens) left ++ rest =
      optional "LIKE" (fun pattern => (likeForm pattern).tokens) right ++ rest' ↔
      left = right ∧ rest = rest' := by
  have inner : ∀ pattern pattern',
      (likeForm pattern).tokens ++ rest = (likeForm pattern').tokens ++ rest' ↔
        pattern = pattern' ∧ rest = rest' := by
    simp [likeForm, Form.tokens, tokensOf, Arg.token?]
  exact optional_append_inj past past' inner

end

theorem reset_inj (left right : Reset) :
    left.form.tokens = right.form.tokens ↔ left.said = right.said := by
  simp +decide [Reset.form, Form.tokens, tokensOf, Reset.said]

theorem limit_inj (left right : Limit) : left.form.tokens = right.form.tokens ↔ left = right := by
  obtain ⟨rows, from?⟩ := left
  obtain ⟨rows', from'?⟩ := right
  have written : ∀ number, (Arg.int number).token?.toList =
      [.word (Decimal.ofInt number).toList] := fun _ => rfl
  have numeral : (Decimal.ofInt rows).toList = (Decimal.ofInt rows').toList ↔ rows = rows' :=
    String.toList_inj.trans Decimal.ofInt_injective.eq_iff
  simp +decide [Limit.form, Form.tokens, tokensOf, written, numeral]

theorem scope_inj (left right : Scope) :
    left.form.tokens = right.form.tokens ↔ left.extent = right.extent := by
  simp +decide [Scope.form, Form.tokens, tokensOf, Scope.extent]

/-! Statements of one kind. -/

theorem alterPool_inj {left right : ComputePool.Alter} :
    left.form.tokens = right.form.tokens ↔
      (alterPool left).content = (alterPool right).content := by
  have apart : ∀ reset? : Option Reset, ∀ keyword ∈ "SET" :: Assignment.keywords,
      Past keyword (optional "UNSET" (fun reset => reset.form.tokens) reset?) := by
    simp +decide [Assignment.keywords]
  have set := @set_append_inj _ _ (apart left.unset?) (apart right.unset?)
  simp +decide [Alter.form, Form.tokens, tokensOf, content, set, optional_eq_iff reset_inj]

theorem dropPool_inj {left right : ComputePool.Drop} :
    left.form.tokens = right.form.tokens ↔ (dropPool left).content = (dropPool right).content := by
  simp +decide [ComputePool.Drop.form, Form.tokens, tokensOf, content]

theorem showPools_inj {left right : ComputePool.Show} :
    left.form.tokens = right.form.tokens ↔
      (showPools left).content = (showPools right).content := by
  obtain ⟨like?, startsWith?, limit?⟩ := left
  obtain ⟨like'?, startsWith'?, limit'?⟩ := right
  simp +decide [ComputePool.Show.form, Form.tokens, tokensOf, content, like_append_inj,
    optional_inj limit_inj]

theorem describePool_inj {left right : ComputePool.Describe} :
    left.form.tokens = right.form.tokens ↔
      (describePool left).content = (describePool right).content := by
  simp [ComputePool.Describe.form, Form.tokens, tokensOf, content]

theorem createRepository_inj {left right : ImageRepository.Create} :
    left.form.tokens = right.form.tokens ↔
      (createRepository left).content = (createRepository right).content := by
  simp +decide [ImageRepository.Create.form, Form.tokens, tokensOf, content]

theorem dropRepository_inj {left right : ImageRepository.Drop} :
    left.form.tokens = right.form.tokens ↔
      (dropRepository left).content = (dropRepository right).content := by
  simp +decide [ImageRepository.Drop.form, Form.tokens, tokensOf, content]

theorem showRepositories_inj {left right : ImageRepository.Show} :
    left.form.tokens = right.form.tokens ↔
      (showRepositories left).content = (showRepositories right).content := by
  simp +decide [ImageRepository.Show.form, Form.tokens, tokensOf, content, like_append_inj,
    optional_eq_iff scope_inj]

/-! Statements of different kinds begin differently. -/

def verb : Statement → String
  | createPool _ | createRepository _ => "CREATE"
  | alterPool _ => "ALTER"
  | dropPool _ | dropRepository _ => "DROP"
  | showPools _ | showRepositories _ => "SHOW"
  | describePool _ => "DESCRIBE"

theorem head?_sql (statement : Statement) :
    statement.sql.toList.head? = statement.verb.toList.head? := by
  obtain ⟨rest, clauses⟩ : ∃ rest, statement.form.clauses = statement.verb :: rest := by
    cases statement <;> exact ⟨_, rfl⟩
  obtain ⟨first, others, verb⟩ : ∃ first others, statement.verb.toList = first :: others := by
    cases statement <;> exact ⟨_, _, by simp only [verb]; rfl⟩
  rw [sql, Form.sql, clauses, Text.toList_joined, List.map_cons, verb]
  cases rest with
  | nil => simp
  | cons second later => simp [List.intercalate_cons_cons]

def isAboutPools : Statement → Bool
  | createPool _ | alterPool _ | dropPool _ | showPools _ | describePool _ => true
  | createRepository _ | dropRepository _ | showRepositories _ => false

theorem exists_tokens_eq (statement : Statement) :
    ∃ rest, statement.form.tokens = words statement.verb ++ rest ∧
      (Past "COMPUTE" rest ↔ statement.isAboutPools = false) := by
  cases statement with
  | createPool | alterPool | dropPool | showPools | describePool | createRepository
  | dropRepository | showRepositories => exact ⟨_, rfl, by simp +decide [tokensOf, isAboutPools]⟩

theorem words_verb (statement : Statement) :
    words statement.verb = [.word statement.verb.toList] := by
  cases statement <;> (simp only [verb]; decide)

theorem kind_eq {left right : Statement} (same : left.form.tokens = right.form.tokens) :
    left.verb = right.verb ∧ left.isAboutPools = right.isAboutPools := by
  obtain ⟨rest, tokens, past⟩ := exists_tokens_eq left
  obtain ⟨rest', tokens', past'⟩ := exists_tokens_eq right
  rw [tokens, tokens', words_verb, words_verb] at same
  obtain ⟨verbs, rfl⟩ := List.cons.inj same
  refine ⟨String.toList_injective (Token.word.inj verbs), ?_⟩
  have about : left.isAboutPools = false ↔ right.isAboutPools = false := past.symm.trans past'
  rcases Bool.eq_false_or_eq_true left.isAboutPools with pools | others
  · rw [pools, Bool.true_eq_false, false_iff, Bool.not_eq_false] at about
    rw [pools, about]
  · rw [others, about.mp others]

theorem kind_eq_of_content {left right : Statement} (same : left.content = right.content) :
    left.verb = right.verb ∧ left.isAboutPools = right.isAboutPools := by
  cases left <;> cases right <;> first | exact ⟨rfl, rfl⟩ | cases same

theorem tokens_eq_iff {left right : Statement} (other : ∀ request, left ≠ createPool request)
    (other' : ∀ request, right ≠ createPool request) :
    left.form.tokens = right.form.tokens ↔ left.content = right.content := by
  by_cases kinds : left.verb = right.verb ∧ left.isAboutPools = right.isAboutPools
  · cases left with
    | createPool request => exact absurd rfl (other request)
    | alterPool request =>
        cases right with
        | alterPool request' => exact alterPool_inj
        | _ => simp [verb, isAboutPools] at kinds
    | dropPool request =>
        cases right with
        | dropPool request' => exact dropPool_inj
        | _ => simp [verb, isAboutPools] at kinds
    | showPools request =>
        cases right with
        | showPools request' => exact showPools_inj
        | _ => simp [verb, isAboutPools] at kinds
    | describePool request =>
        cases right with
        | describePool request' => exact describePool_inj
        | _ => simp [verb, isAboutPools] at kinds
    | createRepository request =>
        cases right with
        | createRepository request' => exact createRepository_inj
        | createPool request' => exact absurd rfl (other' request')
        | _ => simp [verb, isAboutPools] at kinds
    | dropRepository request =>
        cases right with
        | dropRepository request' => exact dropRepository_inj
        | _ => simp [verb, isAboutPools] at kinds
    | showRepositories request =>
        cases right with
        | showRepositories request' => exact showRepositories_inj
        | _ => simp [verb, isAboutPools] at kinds
  · exact iff_of_false (fun same => kinds (kind_eq same))
      fun same => kinds (kind_eq_of_content same)

/-! Accepted statements are legible. -/

theorem legible_assignment (assignment : Assignment) : assignment.form.Legible := by
  apply Form.legible_of_fields
  simp +decide [Assignment.form, Field.legible_parameter]

theorem legible_reset (reset : Reset) : reset.form.Legible := by
  apply Form.legible_of_fields
  simp +decide [Reset.form, Field.legible_flag]

theorem legible_like (pattern : String) : (likeForm pattern).Legible := by
  apply Form.legible_of_fields
  simp [likeForm, Field.legible_value]

theorem legible_limit (limit : Limit) : limit.form.Legible := by
  have rows : (Field.value "Rows" .bare (.int limit.rows)).needed.Legible :=
    Field.legible_value "Rows" (Arg.legible_int limit.rows)
  apply Form.legible_of_fields
  simp +decide [Limit.form, rows, Field.legible_clause]

theorem legible_scope {owner : String} {scope : Scope}
    (accepted : scope.form.violationsUnder owner = []) : scope.form.Legible := by
  rw [Form.violationsUnder_eq_nil_iff] at accepted
  simp only [Scope.form, List.forall_mem_cons, Field.passes_keyword_ident_iff] at accepted
  obtain ⟨⟨-, databases, schemas, -⟩, -⟩ := accepted
  have database := Field.legible_place "Database" "DATABASE" (by decide) fun id given =>
    Identifier.given_ne_nil (databases id given)
  have schema := Field.legible_place "Schema" "SCHEMA" (by decide) fun id given =>
    Identifier.given_ne_nil (schemas id given)
  apply Form.legible_of_fields
  simp +decide [Scope.form, Field.legible_flag, database, schema]

section

variable {statement : Statement} (accepted : statement.form.violations = [])

include accepted

theorem passes_of_accepted {field : Field} (member : field ∈ statement.form.fields) :
    field.Passes statement.form.name :=
  ((Form.violationsUnder_eq_nil_iff _ _).mp accepted).1 field member

theorem given_ne_nil_of_accepted {name : String} {id : Identifier}
    (member : Field.target name id ∈ statement.form.fields) : id.given ≠ [] := by
  have valid := passes_of_accepted accepted member
  rw [Field.passes_target_iff] at valid
  exact Identifier.given_ne_nil valid

theorem legible_target_of_accepted {name : String} {id : Identifier}
    (member : Field.target name id ∈ statement.form.fields) : (Field.target name id).Legible :=
  Field.legible_target name (given_ne_nil_of_accepted accepted member)

theorem legible_of_accepted (other : ∀ request, statement ≠ createPool request) :
    statement.form.Legible := by
  apply Form.legible_of_fields
  cases statement with
  | createPool request => exact absurd rfl (other request)
  | alterPool request =>
      have name : (Field.target "name" request.name.toIdentifier).Legible :=
        legible_target_of_accepted accepted (by simp [form, Alter.form])
      simp +decide [form, Alter.form, name, Field.legible_fixed, Field.legible_flag,
        Field.legible_block, legible_assignment, legible_reset]
  | dropPool request =>
      have name : (Field.target "name" request.name.toIdentifier).Legible :=
        legible_target_of_accepted accepted (by simp [form, ComputePool.Drop.form])
      simp +decide [form, ComputePool.Drop.form, name, Field.legible_fixed, Field.legible_flag]
  | showPools request =>
      simp +decide [form, ComputePool.Show.form, Field.legible_fixed, Field.legible_clause,
        Field.legible_block, legible_like, legible_limit]
  | describePool request =>
      have name : (Field.target "name" request.name.toIdentifier).Legible :=
        legible_target_of_accepted accepted (by simp [form, ComputePool.Describe.form])
      simp +decide [form, ComputePool.Describe.form, name, Field.legible_fixed]
  | createRepository request =>
      have name : (Field.target "name" request.name.toIdentifier).Legible :=
        legible_target_of_accepted accepted (by simp [form, ImageRepository.Create.form])
      simp +decide [form, ImageRepository.Create.form, name, Field.legible_fixed,
        Field.legible_flag]
  | dropRepository request =>
      have name : (Field.target "name" request.name.toIdentifier).Legible :=
        legible_target_of_accepted accepted (by simp [form, ImageRepository.Drop.form])
      simp +decide [form, ImageRepository.Drop.form, name, Field.legible_fixed,
        Field.legible_flag]
  | showRepositories request =>
      have within : (Field.block "In" "IN" (request.scope?.map Scope.form)).Passes _ :=
        passes_of_accepted accepted (by simp [form, ImageRepository.Show.form])
      rw [Field.passes_block_iff] at within
      have scope := Field.legible_block "In" "IN" (by decide) fun scope given =>
        legible_scope (within scope.form (Option.mem_map_of_mem Scope.form given))
      simp +decide [form, ImageRepository.Show.form, scope, Field.legible_fixed,
        Field.legible_block, legible_like]

theorem spelled_sql_of_accepted (other : ∀ request, statement ≠ createPool request) :
    Spelled [statement.sql] statement.form.tokens := by
  have some : statement.form.clauses ≠ [] := by
    cases statement <;> exact List.cons_ne_nil _ _
  exact (legible_of_accepted accepted other).spelled_sql some

end

theorem sql_eq_iff_content_eq {left right : Statement} (accepted : left.form.violations = [])
    (accepted' : right.form.violations = []) (other : ∀ request, left ≠ createPool request)
    (other' : ∀ request, right ≠ createPool request) :
    left.sql = right.sql ↔ left.content = right.content := by
  rw [← tokens_eq_iff other other']
  exact (spelled_sql_of_accepted accepted other).inj (spelled_sql_of_accepted accepted' other')

/-- A segment that looks like two, an empty segment and flags that are off. -/
theorem createRepository_sql_eq :
    (createRepository { name := ⟨"", "DB\".\"S", "R"⟩, ifNotExists? := some false }).sql =
      (createRepository { name := ⟨"DB\".\"S", "", "R"⟩, orReplace? := some false }).sql := by
  have accepted := (createRepository_accepted_iff
    { name := ⟨"", "DB\".\"S", "R"⟩, ifNotExists? := some false }).mpr (by decide)
  have accepted' := (createRepository_accepted_iff
    { name := ⟨"DB\".\"S", "", "R"⟩, orReplace? := some false }).mpr (by decide)
  have read := sql_eq_iff_content_eq accepted accepted' (by simp) (by simp)
  exact read.mpr (by decide)

end Provision.Statement
