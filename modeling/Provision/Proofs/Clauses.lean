import Provision.Proofs.Legibility

/-!
Clauses that may be left out. Each begins with a word that nothing after it begins with, so the
tokens of a form tell which of its clauses are there and what they hold.
-/

namespace Provision.Statement

open Text

section

variable {α κ : Type} {keyword other : String} {rest rest' : List Token}

theorem words_ne_nil (keyword : String) : words keyword ≠ [] := by
  simp [words, pieces_eq_splitOn]

theorem head?_words_append (keyword : String) (rest : List Token) :
    (words keyword ++ rest).head? = (words keyword).head? := by
  cases split : words keyword with
  | nil => exact absurd split (words_ne_nil keyword)
  | cons first others => rfl

/-- The keywords begin with different words. -/
def Apart (keyword other : String) : Prop := (words keyword).head? ≠ (words other).head?

instance (keyword other : String) : Decidable (Apart keyword other) :=
  inferInstanceAs (Decidable ((words keyword).head? ≠ (words other).head?))

theorem words_append_ne (apart : Apart keyword other) (rest rest' : List Token) :
    words keyword ++ rest ≠ words other ++ rest' := by
  intro same
  have heads := congrArg List.head? same
  rw [head?_words_append, head?_words_append] at heads
  exact apart heads

def Past (keyword : String) (rest : List Token) : Prop := rest.head? ≠ (words keyword).head?

@[simp] theorem past_nil (keyword : String) : Past keyword [] := by
  intro same
  rw [List.head?_nil, eq_comm, List.head?_eq_none_iff] at same
  exact words_ne_nil keyword same

@[simp] theorem past_name (keyword : String) (segments : List String) (rest : List Token) :
    Past keyword (.name segments :: rest) := by
  intro same
  cases split : pieces ' ' keyword.toList with
  | nil => simp [words, split] at same
  | cons first others => simp [words, split] at same

@[simp] theorem past_words_iff : Past keyword (words other ++ rest) ↔ Apart other keyword := by
  rw [Past, head?_words_append, Apart]

def optional (keyword : String) (write : α → List Token) : Option α → List Token
  | some value => words keyword ++ write value
  | none => []

variable {write : α → List Token} {value? left right : Option α}

@[simp] theorem optional_none (keyword : String) : optional keyword write none = [] := rfl

@[simp] theorem optional_some (keyword : String) (value : α) :
    optional keyword write (some value) = words keyword ++ write value := rfl

@[simp] theorem past_optional_iff (apart : Apart other keyword) :
    Past keyword (optional other write value? ++ rest) ↔ (value? = none → Past keyword rest) := by
  cases value? with
  | none => simp [optional]
  | some value =>
      rw [optional, List.append_assoc, past_words_iff]
      simpa using apart

@[simp] theorem past_last (apart : Apart other keyword) :
    Past keyword (optional other write value?) := by
  rw [← List.append_nil (optional _ _ _), past_optional_iff apart]
  exact fun _ => past_nil keyword

theorem not_past_optional (keyword : String) (write : α → List Token) (value : α)
    (rest : List Token) : ¬Past keyword (optional keyword write (some value) ++ rest) := by
  rw [optional, List.append_assoc, past_words_iff]
  simp [Apart]

theorem optional_append_eq_iff {key : α → κ} (past : Past keyword rest) (past' : Past keyword rest')
    (inner : ∀ value value', write value ++ rest = write value' ++ rest' ↔
      key value = key value' ∧ rest = rest') :
    optional keyword write left ++ rest = optional keyword write right ++ rest' ↔
      left.map key = right.map key ∧ rest = rest' := by
  cases left with
  | none =>
      cases right with
      | none => simp [optional]
      | some value' =>
          refine iff_of_false ?_ (by simp)
          intro same
          have begun : rest = _ := same
          rw [begun] at past
          exact not_past_optional keyword write value' rest' past
  | some value =>
      cases right with
      | none =>
          refine iff_of_false ?_ (by simp)
          intro same
          have begun : _ = rest' := same
          rw [← begun] at past'
          exact not_past_optional keyword write value rest past'
      | some value' =>
          rw [optional, optional, List.append_assoc, List.append_assoc,
            List.append_cancel_left_eq, inner, Option.map_some, Option.map_some, Option.some.injEq]

theorem optional_append_inj (past : Past keyword rest) (past' : Past keyword rest')
    (inner : ∀ value value', write value ++ rest = write value' ++ rest' ↔
      value = value' ∧ rest = rest') :
    optional keyword write left ++ rest = optional keyword write right ++ rest' ↔
      left = right ∧ rest = rest' := by
  have read := @optional_append_eq_iff α α keyword rest rest' write left right id past past' inner
  rwa [Option.map_id, id, id] at read

theorem optional_eq_iff {key : α → κ}
    (inner : ∀ value value', write value = write value' ↔ key value = key value') :
    optional keyword write left = optional keyword write right ↔ left.map key = right.map key := by
  have ends : ∀ value value', write value ++ [] = write value' ++ [] ↔
      key value = key value' ∧ ([] : List Token) = [] := by simpa using inner
  have read := @optional_append_eq_iff α κ keyword [] [] write left right key (past_nil keyword)
    (past_nil keyword) ends
  simpa using read

theorem optional_inj (inner : ∀ value value', write value = write value' ↔ value = value') :
    optional keyword write left = optional keyword write right ↔ left = right := by
  have read := @optional_eq_iff α α keyword write left right id inner
  rwa [Option.map_id, id, id] at read

end

/-- A flag that is off says nothing. -/
def unlessOff (on? : Option Bool) : Option Bool := on?.filter id

/-! The tokens of each kind of field. -/

abbrev flagTokens (keyword : String) (on? : Option Bool) : List Token :=
  optional keyword (fun _ => []) (unlessOff on?)

abbrev placeTokens (keyword : String) (id? : Option Identifier) : List Token :=
  optional keyword (fun id => [.name id.given]) id?

abbrev assignedTokens (keyword : String) (arg : Arg) : List Token :=
  optional keyword (fun token => [.word ['='], token]) arg.token?

abbrev clauseTokens (keyword : String) (arg : Arg) : List Token :=
  optional keyword (fun token => [token]) arg.token?

namespace Field

variable (name keyword : String) (quoting : Quoting) (arg : Arg)

@[simp] theorem tokens_fixed : (fixed keyword).tokens = words keyword := rfl

@[simp] theorem tokens_target (id : Identifier) :
    (target name id).tokens = [.name id.given] := rfl

@[simp] theorem tokens_flag (on? : Option Bool) :
    (Field.keyword name keyword (.ofFlag? on?)).tokens = flagTokens keyword on? := by
  cases on? with
  | none => rfl
  | some on =>
      cases on with
      | false => rfl
      | true => exact (List.append_nil _).symm

@[simp] theorem tokens_place (id? : Option Identifier) :
    (Field.keyword name keyword (.ofIdent? id?)).tokens = placeTokens keyword id? := by
  cases id? with
  | none => rfl
  | some id => rfl

@[simp] theorem tokens_parameter :
    (parameter name keyword quoting arg).tokens = assignedTokens keyword arg := by
  show parameterTokens keyword true arg = _
  rw [parameterTokens, assignedTokens]
  cases arg.token? with
  | none => rfl
  | some token => simp [optional]

@[simp] theorem tokens_clause :
    (clause name keyword quoting arg).tokens = clauseTokens keyword arg := by
  show parameterTokens keyword false arg = _
  rw [parameterTokens, clauseTokens]
  cases arg.token? with
  | none => rfl
  | some token => simp [optional]

@[simp] theorem tokens_value : (value name quoting arg).tokens = arg.token?.toList := rfl

@[simp] theorem tokens_needed (field : Field) : field.needed.tokens = field.tokens := by
  obtain ⟨name, role, required, arg⟩ := field
  cases role <;> cases arg <;> rfl

@[simp] theorem tokens_block {α : Type} (form : α → Form) (value? : Option α) :
    (block name keyword (value?.map form)).tokens =
      optional keyword (fun value => (form value).tokens) value? := by
  cases value? with
  | none => rfl
  | some value => rfl

end Field

@[simp] theorem unlessOff_none : unlessOff none = none := rfl

@[simp] theorem unlessOff_false : unlessOff (some false) = none := rfl

@[simp] theorem unlessOff_true : unlessOff (some true) = some true := rfl

theorem unlessOff_eq_or (on? : Option Bool) :
    unlessOff on? = none ∨ unlessOff on? = some true := by
  cases on? with
  | none => exact .inl rfl
  | some on =>
      cases on with
      | false => exact .inl rfl
      | true => exact .inr rfl

theorem unlessOff_eq_some_iff {on? : Option Bool} :
    unlessOff on? = some true ↔ on? = some true := by
  simp [unlessOff, Option.filter_eq_some_iff]

theorem unlessOff_eq_iff {left right : Option Bool} :
    unlessOff left = unlessOff right ↔ (left = some true ↔ right = some true) := by
  rw [← unlessOff_eq_some_iff, ← @unlessOff_eq_some_iff right]
  rcases unlessOff_eq_or left with off | on
  · rcases unlessOff_eq_or right with off' | on'
    · simp [off, off']
    · simp [off, on']
  · rcases unlessOff_eq_or right with off' | on'
    · simp [on, off']
    · simp [on, on']

theorem unlessOff_map_inj {left right : Option Bool} :
    (unlessOff left).map (fun _ => ()) = (unlessOff right).map (fun _ => ()) ↔
      unlessOff left = unlessOff right := by
  rcases unlessOff_eq_or left with off | on
  · rcases unlessOff_eq_or right with off' | on'
    · simp [off, off']
    · simp [off, on']
  · rcases unlessOff_eq_or right with off' | on'
    · simp [on, off']
    · simp [on, on']

section

variable {keyword : String} {rest rest' : List Token} (past : Past keyword rest)
  (past' : Past keyword rest')

include past past'

@[simp] theorem flagTokens_append_inj {on? on'? : Option Bool} :
    flagTokens keyword on? ++ rest = flagTokens keyword on'? ++ rest' ↔
      unlessOff on? = unlessOff on'? ∧ rest = rest' := by
  have inner : ∀ _ _ : Bool, [] ++ rest = [] ++ rest' ↔ () = () ∧ rest = rest' := by simp
  rw [flagTokens, flagTokens, optional_append_eq_iff past past' inner, unlessOff_map_inj]

@[simp] theorem placeTokens_append_inj {id? id'? : Option Identifier} :
    placeTokens keyword id? ++ rest = placeTokens keyword id'? ++ rest' ↔
      id?.map Identifier.given = id'?.map Identifier.given ∧ rest = rest' := by
  have inner : ∀ id id' : Identifier, [Token.name id.given] ++ rest = [.name id'.given] ++ rest' ↔
      id.given = id'.given ∧ rest = rest' := by simp
  exact optional_append_eq_iff past past' inner

@[simp] theorem assignedTokens_append_inj {arg arg' : Arg} :
    assignedTokens keyword arg ++ rest = assignedTokens keyword arg' ++ rest' ↔
      arg.token? = arg'.token? ∧ rest = rest' := by
  have inner : ∀ token token', [Token.word ['='], token] ++ rest = [.word ['='], token'] ++ rest' ↔
      token = token' ∧ rest = rest' := by simp
  exact optional_append_inj past past' inner

@[simp] theorem clauseTokens_append_inj {arg arg' : Arg} :
    clauseTokens keyword arg ++ rest = clauseTokens keyword arg' ++ rest' ↔
      arg.token? = arg'.token? ∧ rest = rest' := by
  have inner : ∀ token token' : Token, [token] ++ rest = [token'] ++ rest' ↔
      token = token' ∧ rest = rest' := by simp
  exact optional_append_inj past past' inner

end

section

variable {keyword : String}

@[simp] theorem flagTokens_inj {on? on'? : Option Bool} :
    flagTokens keyword on? = flagTokens keyword on'? ↔ unlessOff on? = unlessOff on'? := by
  have read := @flagTokens_append_inj keyword [] [] (past_nil keyword) (past_nil keyword) on? on'?
  simpa using read

@[simp] theorem placeTokens_inj {id? id'? : Option Identifier} :
    placeTokens keyword id? = placeTokens keyword id'? ↔
      id?.map Identifier.given = id'?.map Identifier.given := by
  have read := @placeTokens_append_inj keyword [] [] (past_nil keyword) (past_nil keyword) id? id'?
  simpa using read

@[simp] theorem assignedTokens_inj {arg arg' : Arg} :
    assignedTokens keyword arg = assignedTokens keyword arg' ↔ arg.token? = arg'.token? := by
  have read :=
    @assignedTokens_append_inj keyword [] [] (past_nil keyword) (past_nil keyword) arg arg'
  simpa using read

@[simp] theorem clauseTokens_inj {arg arg' : Arg} :
    clauseTokens keyword arg = clauseTokens keyword arg' ↔ arg.token? = arg'.token? := by
  have read := @clauseTokens_append_inj keyword [] [] (past_nil keyword) (past_nil keyword) arg arg'
  simpa using read

end

namespace Arg

theorem token?_ofInt? (number? : Option Int) :
    (ofInt? number?).token? = number?.map fun number => .word (Decimal.ofInt number).toList := by
  cases number? <;> rfl

theorem token?_ofBool? (truth? : Option Bool) : (ofBool? truth?).token? =
    truth?.map fun truth => .word (if truth then "true" else "false").toList := by
  cases truth? <;> rfl

theorem token?_ofText? (content? : Option String) :
    (ofText? content?).token? = content?.map .text := by
  cases content? <;> rfl

@[simp] theorem token?_ofInt?_inj {left right : Option Int} :
    (ofInt? left).token? = (ofInt? right).token? ↔ left = right := by
  have numeral : Function.Injective fun number => Token.word (Decimal.ofInt number).toList := by
    intro number number' same
    exact Decimal.ofInt_injective (String.toList_injective (Token.word.inj same))
  rw [token?_ofInt?, token?_ofInt?, (Option.map_injective numeral).eq_iff]

@[simp] theorem token?_ofBool?_inj {left right : Option Bool} :
    (ofBool? left).token? = (ofBool? right).token? ↔ left = right := by
  have truthValue : Function.Injective fun truth : Bool =>
      Token.word (if truth then "true" else "false").toList := by
    intro truth truth' same
    revert same
    revert truth truth'
    decide
  rw [token?_ofBool?, token?_ofBool?, (Option.map_injective truthValue).eq_iff]

@[simp] theorem token?_ofText?_inj {left right : Option String} :
    (ofText? left).token? = (ofText? right).token? ↔ left = right := by
  have quoted : Function.Injective Token.text := fun _ _ same => Token.text.inj same
  rw [token?_ofText?, token?_ofText?, (Option.map_injective quoted).eq_iff]

end Arg

end Provision.Statement
