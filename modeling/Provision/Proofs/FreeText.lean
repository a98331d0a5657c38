import Provision.Proofs.Backwards
import Provision.Proofs.Grammar

/-!
The one text that is written without quotation marks. The instance family of a new pool can be read
as the family of another request together with the clauses that follow it; nothing else that a
request for a pool holds can be taken for something else.
-/

namespace Provision.ComputePool

open Text Statement

namespace Create

def frontFields (request : Create) : List Field := [
  .fixed "CREATE",
  .fixed "COMPUTE POOL",
  .keyword "IfNotExists" "IF NOT EXISTS" (.ofFlag? request.ifNotExists?),
  .target "name" request.name.toIdentifier,
  (Field.parameter "MinNodes" "MIN_NODES" .bare (.int request.minNodes)).needed,
  (Field.parameter "MaxNodes" "MAX_NODES" .bare (.int request.maxNodes)).needed]

def familyField (request : Create) : Field :=
  (Field.parameter "InstanceFamily" "INSTANCE_FAMILY" .bare (.text request.instanceFamily)).needed

def backFields (request : Create) : List Field := [
  .parameter "AutoResume" "AUTO_RESUME" .bare (.ofBool? request.autoResume?),
  .parameter "InitiallySuspended" "INITIALLY_SUSPENDED" .bare
    (.ofBool? request.initiallySuspended?),
  .parameter "AutoSuspendSecs" "AUTO_SUSPEND_SECS" .bare (.ofInt? request.autoSuspendSecs?),
  .parameter "Comment" "COMMENT" .quoted (.ofText? request.comment?)]

theorem clauses_eq (request : Create) :
    request.form.clauses =
      clausesOf request.frontFields ++
        (request.familyField.clauses ++ clausesOf request.backFields) := by
  show clausesOf (request.frontFields ++ request.familyField :: request.backFields) = _
  rw [clausesOf_append, clausesOf]

def headTokens (request : Create) : List Token :=
  tokensOf request.frontFields ++ (words "INSTANCE_FAMILY" ++ [.word ['=']])

def tailTokens (request : Create) : List Token := tokensOf request.backFields

theorem spelled_front {request : Create} (named : request.name.toIdentifier.given ≠ []) :
    Spelled (clausesOf request.frontFields) (tokensOf request.frontFields) := by
  have number (name sql : String) (keyword : IsKeyword sql) (number : Int) :
      (Field.parameter name sql .bare (.int number)).needed.Legible :=
    Field.legible_parameter name sql keyword (Arg.legible_int number)
  apply spelled_fields
  simp +decide [frontFields, number, Field.legible_fixed, Field.legible_flag,
    Field.legible_target _ named]

theorem spelled_back (request : Create) :
    Spelled (clausesOf request.backFields) request.tailTokens := by
  apply spelled_fields
  simp +decide [backFields, Field.legible_parameter]

theorem sound_head {request : Create} (named : request.name.toIdentifier.given ≠ []) :
    ∀ token ∈ request.headTokens, token.Sound := by
  intro token member
  rcases List.mem_append.mp member with earlier | later
  · exact (spelled_front named).2 token earlier
  · have sound : ∀ token ∈ words "INSTANCE_FAMILY" ++ [.word ['=']], token.Sound := by decide
    exact sound token later

theorem toList_sql {request : Create} (named : request.name.toIdentifier.given ≠ []) :
    ' ' :: (createPool request).sql.toList =
      spell request.headTokens ++
        ' ' :: (request.instanceFamily.toList ++ spell request.tailTokens) := by
  have some : request.form.clauses ≠ [] := List.cons_ne_nil _ _
  have family : spaced request.familyField.clauses =
      spell (words "INSTANCE_FAMILY" ++ [.word ['=']]) ++ ' ' :: request.instanceFamily.toList := by
    rw [spell_append, spell_words]
    simp [familyField, Field.needed, Field.parameter, Field.clauses, parameterClause, Arg.value?,
      Quoting.free, Quoting.scalar, spaced, spell, Token.spelling]
  show ' ' :: (Text.joined " " request.form.clauses).toList = _
  rw [space_joined some, clauses_eq, spaced_append, spaced_append, (spelled_front named).1, family,
    (spelled_back request).1]
  simp only [headTokens, spell_append, List.append_assoc, List.cons_append]

theorem headTokens_append_inj {left right : Create} {more : List Token} :
    left.headTokens ++ more = right.headTokens ↔
      (unlessOff left.ifNotExists? = unlessOff right.ifNotExists? ∧
        left.name.toIdentifier.given = right.name.toIdentifier.given ∧
        left.minNodes = right.minNodes ∧ left.maxNodes = right.maxNodes) ∧ more = [] := by
  have numeral (number : Int) : Arg.int number = .ofInt? (some number) := rfl
  simp +decide [headTokens, frontFields, tokensOf, numeral, and_assoc]

theorem tailTokens_inj {left right : Create} :
    left.tailTokens = right.tailTokens ↔
      left.autoResume? = right.autoResume? ∧ left.initiallySuspended? = right.initiallySuspended? ∧
        left.autoSuspendSecs? = right.autoSuspendSecs? ∧ left.comment? = right.comment? := by
  simp +decide [tailTokens, backFields, tokensOf]

end Create

/-- What can be set after the instance family. -/
inductive Setting where
  | assigned (property : Assigned)
  | initiallySuspended (truth : Bool)
deriving DecidableEq, Repr

namespace Setting

def text : Setting → String
  | assigned property => property.text
  | initiallySuspended truth => "INITIALLY_SUSPENDED = " ++ if truth then "true" else "false"

def tokens : Setting → List Token
  | assigned property => property.tokens
  | initiallySuspended truth =>
      [.word "INITIALLY_SUSPENDED".toList, .word ['='],
        .word (if truth then "true" else "false").toList]

theorem length_tokens (setting : Setting) : setting.tokens.length = 2 + 1 := by
  cases setting <;> rfl

theorem spelled (setting : Setting) : Spelled [setting.text] setting.tokens := by
  cases setting with
  | assigned property => exact property.spelled
  | initiallySuspended truth =>
      cases truth with
      | true => exact ⟨by decide, by decide⟩
      | false => exact ⟨by decide, by decide⟩

theorem tokens_injective : Function.Injective tokens := by
  have apart (property : Assigned) (truth : Bool) :
      property.tokens ≠ (initiallySuspended truth).tokens := by
    cases property <;> simp [Assigned.tokens, Assigned.keyword, tokens]
  intro left right same
  cases left with
  | assigned property =>
      cases right with
      | assigned property' => exact congrArg assigned (Assigned.tokens_injective same)
      | initiallySuspended truth' => exact absurd same (apart property truth')
  | initiallySuspended truth =>
      cases right with
      | assigned property' => exact absurd same.symm (apart property' truth)
      | initiallySuspended truth' =>
          revert same
          cases truth <;> cases truth' <;> simp [tokens]

end Setting

namespace Create

def settings (request : Create) : List Setting :=
  (request.autoResume?.map fun truth => .assigned (.autoResume truth)).toList ++
    (request.initiallySuspended?.map .initiallySuspended).toList ++
    (request.autoSuspendSecs?.map fun number => .assigned (.autoSuspendSecs number)).toList ++
    (request.comment?.map fun text => .assigned (.comment text)).toList

theorem tailTokens_eq (request : Create) :
    request.tailTokens = request.settings.flatMap Setting.tokens := by
  have assigned {α : Type} {keyword : String} (make : α → Assigned) {arg : Arg}
      {value? : Option α} (keywords : ∀ value, (make value).keyword = keyword)
      (token : arg.token? = value?.map fun value => (make value).token) :
      assignedTokens keyword arg =
        (value?.map fun value => Setting.assigned (make value)).toList.flatMap Setting.tokens := by
    rw [Assigned.assignedTokens_eq make keywords token]
    cases value? with
    | none => rfl
    | some value => rfl
  have resumes :=
    assigned .autoResume (fun _ => rfl) (Arg.token?_ofBool? request.autoResume?)
  have suspended : assignedTokens "INITIALLY_SUSPENDED" (.ofBool? request.initiallySuspended?) =
      (request.initiallySuspended?.map Setting.initiallySuspended).toList.flatMap
        Setting.tokens := by
    cases request.initiallySuspended? with
    | none => rfl
    | some truth => cases truth <;> decide
  have idle :=
    assigned .autoSuspendSecs (fun _ => rfl) (Arg.token?_ofInt? request.autoSuspendSecs?)
  have comment := assigned .comment (fun _ => rfl) (Arg.token?_ofText? request.comment?)
  simp only [settings, List.flatMap_append, ← resumes, ← suspended, ← idle, ← comment]
  simp [tailTokens, backFields, tokensOf]

/-- The family of the first request takes in settings that the second request makes, and the first
request makes the others. -/
structure Takes (left right : Create) (taken : List Setting) : Prop where
  settings : right.settings = taken ++ left.settings
  family : left.instanceFamily = joined " " (right.instanceFamily :: taken.map Setting.text)

theorem toList_joined_cons (first : String) (rest : List String) :
    (joined " " (first :: rest)).toList = first.toList ++ spaced rest := by
  have spacedOut := space_joined (List.cons_ne_nil first rest)
  exact (List.cons.inj spacedOut).2

section

variable {left right : Create} {taken : List Setting}

theorem takes_iff :
    left.Takes right taken ↔ right.tailTokens = taken.flatMap Setting.tokens ++ left.tailTokens ∧
      left.instanceFamily.toList =
        right.instanceFamily.toList ++ spell (taken.flatMap Setting.tokens) := by
  have written : spaced (taken.map Setting.text) = spell (taken.flatMap Setting.tokens) :=
    (Spelled.map Setting.spelled taken).1
  rw [← written, ← toList_joined_cons, String.toList_inj, tailTokens_eq, tailTokens_eq,
    ← List.flatMap_append]
  constructor
  · rintro ⟨settings, family⟩
    exact ⟨by rw [settings], family⟩
  · rintro ⟨tokens, family⟩
    exact ⟨flatMap_inj_of_length Setting.length_tokens Setting.tokens_injective tokens, family⟩

theorem onward_eq_iff :
    left.instanceFamily.toList ++ spell left.tailTokens =
        right.instanceFamily.toList ++ spell right.tailTokens ↔
      ∃ taken, left.Takes right taken ∨ right.Takes left taken := by
  have longer {longer shorter : Create} {text : List Char}
      (families : longer.instanceFamily.toList = shorter.instanceFamily.toList ++ text)
      (tails : spell shorter.tailTokens = text ++ spell longer.tailTokens) :
      ∃ taken, longer.Takes shorter taken := by
    obtain ⟨tokens, split, rfl⟩ :=
      exists_of_spell_eq_append (spelled_back shorter).2 (spelled_back longer).2 tails
    have settings := split
    rw [tailTokens_eq, tailTokens_eq] at settings
    obtain ⟨taken, -, rfl⟩ :=
      exists_of_flatMap_eq_append Setting.length_tokens Setting.tokens_injective settings
    exact ⟨taken, takes_iff.mpr ⟨split, families⟩⟩
  constructor
  · intro same
    rcases List.append_eq_append_iff.mp same with ⟨text, families, tails⟩ | ⟨text, families, tails⟩
    · obtain ⟨taken, takes⟩ := longer families tails
      exact ⟨taken, .inr takes⟩
    · obtain ⟨taken, takes⟩ := longer families tails
      exact ⟨taken, .inl takes⟩
  · rintro ⟨taken, takes | takes⟩
    · obtain ⟨tokens, families⟩ := takes_iff.mp takes
      rw [families, tokens, spell_append, List.append_assoc]
    · obtain ⟨tokens, families⟩ := takes_iff.mp takes
      rw [families, tokens, spell_append, List.append_assoc]

end

theorem sql_eq_iff_onward {left right : Create} (named : left.name.toIdentifier.given ≠ [])
    (named' : right.name.toIdentifier.given ≠ []) :
    (createPool left).sql = (createPool right).sql ↔
      (unlessOff left.ifNotExists? = unlessOff right.ifNotExists? ∧
        left.name.toIdentifier.given = right.name.toIdentifier.given ∧
        left.minNodes = right.minNodes ∧ left.maxNodes = right.maxNodes) ∧
      left.instanceFamily.toList ++ spell left.tailTokens =
        right.instanceFamily.toList ++ spell right.tailTokens := by
  constructor
  · intro same
    have written := toList_sql named
    rw [same, toList_sql named'] at written
    rcases spell_append_cases (sound_head named) (sound_head named') (setOff_space _)
      (setOff_space _) written.symm with ⟨more, heads, rests⟩ | ⟨more, heads, rests⟩
    · obtain ⟨alike, rfl⟩ := headTokens_append_inj.mp heads.symm
      exact ⟨alike, (List.cons.inj rests).2⟩
    · obtain ⟨⟨flags, names, least, most⟩, rfl⟩ := headTokens_append_inj.mp heads.symm
      exact ⟨⟨flags.symm, names.symm, least.symm, most.symm⟩, (List.cons.inj rests.symm).2⟩
  · rintro ⟨alike, onward⟩
    have heads := headTokens_append_inj.mpr ⟨alike, rfl⟩
    rw [List.append_nil] at heads
    have written := toList_sql named
    rw [heads, onward, ← toList_sql named'] at written
    exact String.toList_injective (List.cons.inj written).2

/-- The family of the first request takes in one or more settings of the second; those that the
first request makes itself are the others of the second. -/
structure TakesIn (left right : Create) : Prop where
  takes : ∃ taken, taken ≠ [] ∧ left.Takes right taken
  autoResume : left.autoResume? = none ∨ left.autoResume? = right.autoResume?
  initiallySuspended :
    left.initiallySuspended? = none ∨ left.initiallySuspended? = right.initiallySuspended?
  autoSuspendSecs : left.autoSuspendSecs? = none ∨ left.autoSuspendSecs? = right.autoSuspendSecs?
  comment : left.comment? = none ∨ left.comment? = right.comment?

section

variable {left right : Create} {taken : List Setting}

theorem takes_nil_iff :
    left.Takes right [] ↔
      left.instanceFamily = right.instanceFamily ∧ left.autoResume? = right.autoResume? ∧
        left.initiallySuspended? = right.initiallySuspended? ∧
        left.autoSuspendSecs? = right.autoSuspendSecs? ∧ left.comment? = right.comment? := by
  rw [takes_iff, ← tailTokens_inj, and_comm, ← String.toList_inj]
  simp [spell, eq_comm]

theorem Takes.eq_none_or_eq {α : Type} {make : α → Setting} {field : Create → Option α}
    (takes : left.Takes right taken)
    (member_iff : ∀ request value, make value ∈ request.settings ↔ field request = some value) :
    field left = none ∨ field left = field right := by
  cases set : field left with
  | none => exact .inl rfl
  | some value =>
      have member : make value ∈ right.settings := by
        rw [takes.settings]
        exact List.mem_append_right taken ((member_iff left value).mpr set)
      exact .inr ((member_iff right value).mp member).symm

theorem Takes.takesIn (takes : left.Takes right taken) (given : taken ≠ []) :
    left.TakesIn right where
  takes := ⟨taken, given, takes⟩
  autoResume := takes.eq_none_or_eq fun request truth =>
    show .assigned (.autoResume truth) ∈ request.settings ↔ _ by simp [Create.settings]
  initiallySuspended := takes.eq_none_or_eq fun request truth =>
    show .initiallySuspended truth ∈ request.settings ↔ _ by simp [Create.settings]
  autoSuspendSecs := takes.eq_none_or_eq fun request number =>
    show .assigned (.autoSuspendSecs number) ∈ request.settings ↔ _ by simp [Create.settings]
  comment := takes.eq_none_or_eq fun request text =>
    show .assigned (.comment text) ∈ request.settings ↔ _ by simp [Create.settings]

theorem exists_takes_iff :
    (∃ taken, left.Takes right taken ∨ right.Takes left taken) ↔
      (left.instanceFamily = right.instanceFamily ∧ left.autoResume? = right.autoResume? ∧
        left.initiallySuspended? = right.initiallySuspended? ∧
        left.autoSuspendSecs? = right.autoSuspendSecs? ∧ left.comment? = right.comment?) ∨
      left.TakesIn right ∨ right.TakesIn left := by
  constructor
  · rintro ⟨taken, takes⟩
    by_cases none : taken = []
    · subst none
      rcases takes with takes | takes
      · exact .inl (takes_nil_iff.mp takes)
      · obtain ⟨family, resumes, suspended, idle, comment⟩ := takes_nil_iff.mp takes
        exact .inl ⟨family.symm, resumes.symm, suspended.symm, idle.symm, comment.symm⟩
    · exact .inr (takes.imp (·.takesIn none) (·.takesIn none))
  · rintro (agree | ⟨⟨taken, -, takes⟩, -⟩ | ⟨⟨taken, -, takes⟩, -⟩)
    · exact ⟨[], .inl (takes_nil_iff.mpr agree)⟩
    · exact ⟨taken, .inl takes⟩
    · exact ⟨taken, .inr takes⟩

end

theorem named_of_accepted {request : Create}
    (accepted : (createPool request).form.violations = []) : request.name.name ≠ "" := by
  have valid := ((createPool_accepted_iff request).mp accepted).1
  simp only [Identifier.isValid, Bool.and_eq_true, decide_eq_true_eq] at valid
  exact valid.1

theorem given_eq {id : AccountId} (named : id.name ≠ "") : id.toIdentifier.given = [id.name] := by
  simp [AccountId.toIdentifier, Identifier.given, Identifier.segments, named]

/-- Accepted requests have the same text exactly when they agree, but for this: the family of one
may take in settings of the other. -/
theorem createPool_sql_eq_iff {left right : Create}
    (accepted : (createPool left).form.violations = [])
    (accepted' : (createPool right).form.violations = []) :
    (createPool left).sql = (createPool right).sql ↔
      left.name = right.name ∧ left.minNodes = right.minNodes ∧ left.maxNodes = right.maxNodes ∧
        (left.ifNotExists? = some true ↔ right.ifNotExists? = some true) ∧
        ((left.instanceFamily = right.instanceFamily ∧ left.autoResume? = right.autoResume? ∧
            left.initiallySuspended? = right.initiallySuspended? ∧
            left.autoSuspendSecs? = right.autoSuspendSecs? ∧ left.comment? = right.comment?) ∨
          left.TakesIn right ∨ right.TakesIn left) := by
  have given := given_eq (named_of_accepted accepted)
  have given' := given_eq (named_of_accepted accepted')
  have named : left.name.toIdentifier.given ≠ [] := by simp [given]
  have named' : right.name.toIdentifier.given ≠ [] := by simp [given']
  have names : left.name.toIdentifier.given = right.name.toIdentifier.given ↔
      left.name = right.name := by
    rw [given, given']
    exact ⟨fun same => congrArg AccountId.mk (List.cons.inj same).1, fun same => by rw [same]⟩
  rw [sql_eq_iff_onward named named', onward_eq_iff, exists_takes_iff, names,
    unlessOff_eq_iff]
  constructor
  · rintro ⟨⟨flag, name, least, most⟩, onward⟩
    exact ⟨name, least, most, flag, onward⟩
  · rintro ⟨name, least, most, flag, onward⟩
    exact ⟨⟨flag, name, least, most⟩, onward⟩

theorem takesIn_of_clause_in_family :
    let left : Create :=
      { name := ⟨"POOL"⟩, minNodes := 1, maxNodes := 2, instanceFamily := "F AUTO_RESUME = true" }
    let right : Create :=
      { name := ⟨"POOL"⟩, minNodes := 1, maxNodes := 2, instanceFamily := "F",
        autoResume? := some true }
    (createPool left).sql = (createPool right).sql ∧
      (left.TakesIn right ∨ right.TakesIn left) := by
  intro left right
  have accepted := (createPool_accepted_iff left).mpr (by decide)
  have accepted' := (createPool_accepted_iff right).mpr (by decide)
  have same : (createPool left).sql = (createPool right).sql := by decide
  obtain ⟨-, -, -, -, alike | takes⟩ := (createPool_sql_eq_iff accepted accepted').mp same
  · exact absurd alike.2.1 (by decide)
  · exact ⟨same, takes⟩

theorem not_forall_fields_eq :
    ¬∀ left right : Create, (createPool left).form.violations = [] →
      (createPool right).form.violations = [] →
      (createPool left).sql = (createPool right).sql →
      left.name = right.name ∧ left.minNodes = right.minNodes ∧ left.maxNodes = right.maxNodes ∧
        (left.ifNotExists? = some true ↔ right.ifNotExists? = some true) ∧
        left.instanceFamily = right.instanceFamily ∧ left.autoResume? = right.autoResume? ∧
        left.initiallySuspended? = right.initiallySuspended? ∧
        left.autoSuspendSecs? = right.autoSuspendSecs? ∧ left.comment? = right.comment? := by
  intro agree
  have fields := agree
    { name := ⟨"POOL"⟩, minNodes := 1, maxNodes := 2, instanceFamily := "F AUTO_RESUME = true" }
    { name := ⟨"POOL"⟩, minNodes := 1, maxNodes := 2, instanceFamily := "F",
      autoResume? := some true }
    ((createPool_accepted_iff _).mpr (by decide)) ((createPool_accepted_iff _).mpr (by decide))
    (by decide)
  exact absurd fields.2.2.2.2.1 (by decide)

end Create

end Provision.ComputePool
