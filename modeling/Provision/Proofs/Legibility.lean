import Provision.Proofs.Acceptance
import Provision.Proofs.Tokens

/-!
The tokens of a form. A form whose values are quoted, or are numbers, truth values or names, is
legible: its SQL text is the spelling of its tokens, so forms with the same text have the same
tokens.
-/

namespace Provision.Statement

open Text

theorem flatMap_space {parts : List (List Char)} (some : parts ≠ []) :
    parts.flatMap (' ' :: ·) = ' ' :: [' '].intercalate parts := by
  induction parts with
  | nil => exact absurd rfl some
  | cons first rest ih =>
      cases rest with
      | nil => simp
      | cons second others =>
          rw [List.flatMap_cons, ih (List.cons_ne_nil second others),
            List.intercalate_cons_cons]
          simp

def words (keyword : String) : List Token := (pieces ' ' keyword.toList).map .word

theorem spell_words (keyword : String) : spell (words keyword) = ' ' :: keyword.toList := by
  have split := flatMap_space (List.splitOn_ne_nil ' ' keyword.toList)
  rw [List.intercalate_splitOn] at split
  rw [words, pieces_eq_splitOn, spell, List.flatMap_map]
  exact split

def spaced (clauses : List String) : List Char := clauses.flatMap fun clause => ' ' :: clause.toList

theorem spaced_append (left right : List String) :
    spaced (left ++ right) = spaced left ++ spaced right :=
  List.flatMap_append

theorem space_joined {clauses : List String} (some : clauses ≠ []) :
    ' ' :: (joined " " clauses).toList = spaced clauses := by
  have texts : clauses.map String.toList ≠ [] := by simpa using some
  have separated := flatMap_space texts
  rw [List.flatMap_map] at separated
  rw [toList_joined]
  exact separated.symm

def Arg.token? : Arg → Option Token
  | int number => some (.word (Decimal.ofInt number).toList)
  | bool truth => some (.word (if truth then "true" else "false").toList)
  | text content => some (.text content)
  | ident id => some (.name id.given)
  | unset | flag _ | list _ | block _ => none

def keywordTokens (sql : String) : Arg → List Token
  | .flag true => words sql
  | .ident id => words sql ++ [.name id.given]
  | _ => []

def parameterTokens (keyword : String) (equals : Bool) (arg : Arg) : List Token :=
  match arg.token? with
  | some token => words keyword ++ (if equals then [.word ['=']] else []) ++ [token]
  | none => []

mutual

def Form.tokens : Form → List Token
  | ⟨_, fields, _⟩ => tokensOf fields

def Field.tokens : Field → List Token
  | ⟨_, .block keyword, _, .block form⟩ => words keyword ++ form.tokens
  | ⟨_, .fixed sql, _, _⟩ => words sql
  | ⟨_, .target, _, .ident id⟩ => [.name id.given]
  | ⟨_, .keyword sql, _, arg⟩ => keywordTokens sql arg
  | ⟨_, .parameter keyword _ equals, _, arg⟩ => parameterTokens keyword equals arg
  | ⟨_, .value _, _, arg⟩ => arg.token?.toList
  | _ => []

def tokensOf : List Field → List Token
  | [] => []
  | field :: rest => field.tokens ++ tokensOf rest

end

/-- The clauses are the spelling of tokens that can be told apart. -/
def Spelled (clauses : List String) (tokens : List Token) : Prop :=
  spaced clauses = spell tokens ∧ ∀ token ∈ tokens, token.Sound

theorem Spelled.append {left right : List String} {lefts rights : List Token}
    (first : Spelled left lefts) (second : Spelled right rights) :
    Spelled (left ++ right) (lefts ++ rights) := by
  refine ⟨by rw [spaced_append, spell_append, first.1, second.1], ?_⟩
  intro token member
  rcases List.mem_append.mp member with earlier | later
  · exact first.2 token earlier
  · exact second.2 token later

theorem spelled_nil : Spelled [] [] := ⟨rfl, by simp⟩

def IsKeyword (sql : String) : Prop := ∀ token ∈ words sql, token.Sound

instance (sql : String) : Decidable (IsKeyword sql) :=
  inferInstanceAs (Decidable (∀ token ∈ words sql, token.Sound))

theorem IsKeyword.spelled {sql : String} (keyword : IsKeyword sql) : Spelled [sql] (words sql) :=
  ⟨by simp [spaced, spell_words], keyword⟩

theorem IsKeyword.ne_empty {sql : String} (keyword : IsKeyword sql) : sql ≠ "" := by
  rintro rfl
  revert keyword
  decide

theorem spelled_one {token : Token} (sound : token.Sound) :
    Spelled [String.ofList token.spelling] [token] :=
  ⟨by simp [spaced, spell], by simpa using sound⟩

theorem spelled_name {id : Identifier} (named : id.given ≠ []) :
    Spelled [id.qualifiedName] [.name id.given] := by
  have sound : (Token.name id.given).Sound := named
  have spelled := spelled_one sound
  rwa [Token.spelling, String.ofList_toList, ← Identifier.qualifiedName_eq] at spelled

theorem Spelled.join {left right : String} {lefts rights : List Token}
    (first : Spelled [left] lefts) (second : Spelled [right] rights) :
    Spelled [left ++ " " ++ right] (lefts ++ rights) := by
  have joined : spaced [left ++ " " ++ right] = spaced ([left] ++ [right]) := by simp [spaced]
  obtain ⟨spelled, sound⟩ := first.append second
  exact ⟨joined.trans spelled, sound⟩

theorem Spelled.joined {clauses : List String} {tokens : List Token} (some : clauses ≠ [])
    (spelled : Spelled clauses tokens) : Spelled [Text.joined " " clauses] tokens := by
  refine ⟨?_, spelled.2⟩
  rw [← spelled.1, ← space_joined some]
  simp [spaced]

theorem Spelled.map {α : Type} {text : α → String} {tokens : α → List Token}
    (each : ∀ value, Spelled [text value] (tokens value)) (values : List α) :
    Spelled (values.map text) (values.flatMap tokens) := by
  induction values with
  | nil => exact spelled_nil
  | cons value rest ih => exact (each value).append ih

theorem Spelled.equals {left right : String} {lefts rights : List Token}
    (first : Spelled [left] lefts) (second : Spelled [right] rights) :
    Spelled [left ++ " = " ++ right] (lefts ++ .word ['='] :: rights) := by
  have sign : Spelled ["="] [.word ['=']] := IsKeyword.spelled (by decide)
  have between : left ++ " " ++ "=" ++ " " ++ right = left ++ " = " ++ right := by
    apply String.toList_injective
    simp
  have joined := (first.join sign).join second
  rwa [between, List.append_assoc] at joined

theorem Spelled.inj {left right : String} {lefts rights : List Token}
    (first : Spelled [left] lefts) (second : Spelled [right] rights) :
    left = right ↔ lefts = rights := by
  have written : spaced [left] = spaced [right] ↔ left = right := by
    simp [spaced, String.toList_inj]
  rw [← spell_inj first.2 second.2, ← first.1, ← second.1, written]

theorem qualifiedName_ne_empty {id : Identifier} (named : id.given ≠ []) :
    id.qualifiedName ≠ "" := by
  rw [Identifier.qualifiedName_eq]
  exact Identifier.written_ne_empty named

namespace Arg

def Legible (quoting : Quoting) (arg : Arg) : Prop :=
  arg.value? quoting = arg.token?.map (fun token => String.ofList token.spelling) ∧
    ∀ token ∈ arg.token?, token.Sound

@[simp] theorem legible_unset (quoting : Quoting) : unset.Legible quoting :=
  ⟨rfl, by simp [token?]⟩

@[simp] theorem legible_int (number : Int) : (int number).Legible .bare := by
  refine ⟨by simp [value?, token?, Token.spelling, Quoting.scalar], ?_⟩
  intro token member
  rw [← Option.some.inj member]
  exact Token.sound_numeral number

@[simp] theorem legible_ofInt? (number? : Option Int) : (ofInt? number?).Legible .bare := by
  cases number? with
  | none => exact legible_unset .bare
  | some number => exact legible_int number

@[simp] theorem legible_ofBool? (truth? : Option Bool) : (ofBool? truth?).Legible .bare := by
  cases truth? with
  | none => exact legible_unset .bare
  | some truth =>
      refine ⟨by simp [ofBool?, value?, token?, Token.spelling, Quoting.scalar], ?_⟩
      intro token member
      rw [← Option.some.inj member]
      cases truth <;> decide

@[simp] theorem legible_text (content : String) : (text content).Legible .quoted :=
  ⟨by simp [value?, token?, Token.spelling, Quoting.free], by simp [token?, Token.Sound]⟩

@[simp] theorem legible_ofText? (content? : Option String) :
    (ofText? content?).Legible .quoted := by
  cases content? with
  | none => exact legible_unset .quoted
  | some content => exact legible_text content

end Arg

namespace Field

def Legible (field : Field) : Prop := Spelled field.clauses field.tokens

variable (name sql : String)

theorem legible_fixed (keyword : IsKeyword sql) : (fixed sql).Legible := keyword.spelled

theorem legible_target {id : Identifier} (named : id.given ≠ []) : (target name id).Legible := by
  show Spelled (nonempty id.qualifiedName) [.name id.given]
  rw [nonempty, if_neg (qualifiedName_ne_empty named)]
  exact spelled_name named

theorem legible_flag (keyword : IsKeyword sql) (on? : Option Bool) :
    (Field.keyword name sql (.ofFlag? on?)).Legible := by
  cases on? with
  | none => exact spelled_nil
  | some on =>
      cases on with
      | false => exact spelled_nil
      | true => exact keyword.spelled

theorem legible_place (keyword : IsKeyword sql) {id? : Option Identifier}
    (named : ∀ id ∈ id?, id.given ≠ []) :
    (Field.keyword name sql (.ofIdent? id?)).Legible := by
  cases id? with
  | none => exact spelled_nil
  | some id => exact keyword.spelled.join (spelled_name (named id rfl))

theorem spelled_parameter (keyword : IsKeyword sql) {quoting : Quoting} (equals : Bool) {arg : Arg}
    (legible : arg.Legible quoting) :
    Spelled (parameterClause sql quoting equals arg) (parameterTokens sql equals arg) := by
  obtain ⟨value, sound⟩ := legible
  rw [parameterClause, parameterTokens, value]
  cases held : arg.token? with
  | none => exact spelled_nil
  | some token =>
      have written := spelled_one (sound token held)
      cases equals with
      | false => simpa using keyword.spelled.join written
      | true => simpa using keyword.spelled.equals written

theorem legible_parameter (keyword : IsKeyword sql) {quoting : Quoting} {arg : Arg}
    (legible : arg.Legible quoting) : (parameter name sql quoting arg).Legible :=
  spelled_parameter sql keyword true legible

theorem legible_clause (keyword : IsKeyword sql) {quoting : Quoting} {arg : Arg}
    (legible : arg.Legible quoting) : (clause name sql quoting arg).Legible :=
  spelled_parameter sql keyword false legible

theorem legible_value {quoting : Quoting} {arg : Arg} (legible : arg.Legible quoting) :
    (value name quoting arg).Legible := by
  show Spelled (arg.value? quoting).toList arg.token?.toList
  obtain ⟨value, sound⟩ := legible
  rw [value]
  cases held : arg.token? with
  | none => exact spelled_nil
  | some token => exact spelled_one (sound token held)

end Field

theorem clausesOf_append (left right : List Field) :
    clausesOf (left ++ right) = clausesOf left ++ clausesOf right := by
  induction left with
  | nil => rfl
  | cons field rest ih => rw [List.cons_append, clausesOf, clausesOf, ih, List.append_assoc]

theorem spelled_fields {fields : List Field} (legible : ∀ field ∈ fields, field.Legible) :
    Spelled (clausesOf fields) (tokensOf fields) := by
  induction fields with
  | nil => exact spelled_nil
  | cons field rest ih =>
      rw [clausesOf, tokensOf]
      exact (legible field List.mem_cons_self).append
        (ih fun other member => legible other (List.mem_cons_of_mem field member))

namespace Form

def Legible (form : Form) : Prop := Spelled form.clauses form.tokens

theorem legible_of_fields {form : Form} (legible : ∀ field ∈ form.fields, field.Legible) :
    form.Legible := by
  obtain ⟨name, fields, constraints⟩ := form
  exact spelled_fields legible

end Form

theorem Field.legible_block {α : Type} (name sql : String) (keyword : IsKeyword sql)
    {form : α → Form} {value? : Option α} (legible : ∀ value ∈ value?, (form value).Legible) :
    (block name sql (value?.map form)).Legible := by
  cases value? with
  | none => exact spelled_nil
  | some value =>
      show Spelled (nonempty sql ++ (form value).clauses) (words sql ++ (form value).tokens)
      rw [nonempty, if_neg keyword.ne_empty]
      exact keyword.spelled.append (legible value rfl)

theorem Form.Legible.spelled_sql {form : Form} (legible : form.Legible) (some : form.clauses ≠ []) :
    Spelled [form.sql] form.tokens :=
  legible.joined some

end Provision.Statement
