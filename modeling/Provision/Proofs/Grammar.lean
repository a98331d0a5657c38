import Mathlib.Data.List.Induction
import Provision.Proofs.UniqueReading

/-!
The grammar of actions and places: what can follow the name in an ALTER, and what can follow IN.
Both are read in one way only.
-/

namespace Provision

section

variable {α β : Type} {parts : α → List β} {length : Nat}

theorem exists_of_flatMap_eq_append (fixed : ∀ value, (parts value).length = length + 1)
    (injective : Function.Injective parts) {whole rest : List α} {front : List β}
    (same : whole.flatMap parts = front ++ rest.flatMap parts) :
    ∃ taken, whole = taken ++ rest ∧ front = taken.flatMap parts := by
  induction rest using List.reverseRecOn generalizing whole with
  | nil => exact ⟨whole, by simp, by simpa using same.symm⟩
  | append_singleton others last ih =>
      rw [List.flatMap_append, List.flatMap_singleton] at same
      rcases List.eq_nil_or_concat whole with rfl | ⟨firsts, final, rfl⟩
      · have lengths := congrArg List.length same
        simp only [List.flatMap_nil, List.length_append, fixed, List.length_nil] at lengths
        omega
      · rw [List.concat_eq_append, List.flatMap_append, List.flatMap_singleton,
          ← List.append_assoc] at same
        obtain ⟨fronts, lasts⟩ := List.append_inj' same (by rw [fixed, fixed])
        obtain rfl := injective lasts
        obtain ⟨taken, rfl, written⟩ := ih fronts
        exact ⟨taken, by simp, written⟩

theorem flatMap_inj_of_length (fixed : ∀ value, (parts value).length = length + 1)
    (injective : Function.Injective parts) {left right : List α}
    (same : left.flatMap parts = right.flatMap parts) : left = right := by
  have onward : left.flatMap parts = [] ++ right.flatMap parts := same
  obtain ⟨taken, rfl, empty⟩ := exists_of_flatMap_eq_append fixed injective onward
  cases taken with
  | nil => rfl
  | cons value others =>
      have lengths := congrArg List.length empty
      simp only [List.flatMap_cons, List.length_append, fixed, List.length_nil] at lengths
      omega

end

namespace ComputePool

open Statement

/-- What a SET block assigns. -/
inductive Assigned where
  | minNodes (number : Int)
  | maxNodes (number : Int)
  | autoResume (truth : Bool)
  | autoSuspendSecs (number : Int)
  | comment (text : String)
deriving DecidableEq, Repr

namespace Assigned

def keyword : Assigned → String
  | minNodes _ => "MIN_NODES"
  | maxNodes _ => "MAX_NODES"
  | autoResume _ => "AUTO_RESUME"
  | autoSuspendSecs _ => "AUTO_SUSPEND_SECS"
  | comment _ => "COMMENT"

def value : Assigned → String
  | minNodes number | maxNodes number | autoSuspendSecs number => Decimal.ofInt number
  | autoResume truth => if truth then "true" else "false"
  | comment text => Text.quoted '\'' text

def text (assigned : Assigned) : String := assigned.keyword ++ " = " ++ assigned.value

def token : Assigned → Token
  | comment text => .text text
  | assigned => .word assigned.value.toList

def tokens (assigned : Assigned) : List Token :=
  [.word assigned.keyword.toList, .word ['='], assigned.token]

theorem words_keyword (assigned : Assigned) :
    words assigned.keyword = [.word assigned.keyword.toList] := by
  cases assigned <;> (simp only [keyword]; decide)

theorem spelled (assigned : Assigned) : Spelled [assigned.text] assigned.tokens := by
  have keyword : IsKeyword assigned.keyword := by
    cases assigned <;> (simp only [keyword]; decide)
  have sound : assigned.token.Sound := by
    cases assigned with
    | minNodes number | maxNodes number | autoSuspendSecs number =>
        exact Token.sound_numeral number
    | autoResume truth => cases truth <;> decide
    | comment text => trivial
  have value : Spelled [assigned.value] [assigned.token] := by
    have written := spelled_one sound
    cases assigned <;> simpa [token, Token.spelling, value] using written
  have assignment := keyword.spelled.equals value
  rwa [words_keyword] at assignment

theorem tokens_injective : Function.Injective tokens := by
  intro left right same
  simp only [tokens, List.cons.injEq, Token.word.injEq, and_true, true_and] at same
  obtain ⟨keywords, written⟩ := same
  have numeral {number number' : Int} (same : Token.word (Decimal.ofInt number).toList =
      .word (Decimal.ofInt number').toList) : number = number' :=
    Decimal.ofInt_injective (String.toList_injective (Token.word.inj same))
  cases left with
  | minNodes number =>
      cases right with
      | minNodes number' => exact congrArg minNodes (numeral written)
      | _ => simp [keyword] at keywords
  | maxNodes number =>
      cases right with
      | maxNodes number' => exact congrArg maxNodes (numeral written)
      | _ => simp [keyword] at keywords
  | autoResume truth =>
      cases right with
      | autoResume truth' =>
          revert written
          cases truth <;> cases truth' <;> simp [token, value]
      | _ => simp [keyword] at keywords
  | autoSuspendSecs number =>
      cases right with
      | autoSuspendSecs number' => exact congrArg autoSuspendSecs (numeral written)
      | _ => simp [keyword] at keywords
  | comment text =>
      cases right with
      | comment text' => exact congrArg comment (Token.text.inj written)
      | _ => simp [keyword] at keywords

theorem assignedTokens_eq {α : Type} {keyword : String} (make : α → Assigned) {arg : Arg}
    {value? : Option α} (keywords : ∀ value, (make value).keyword = keyword)
    (token : arg.token? = value?.map fun value => (make value).token) :
    assignedTokens keyword arg = (value?.map make).toList.flatMap tokens := by
  rw [assignedTokens, token]
  cases value? with
  | none => rfl
  | some value =>
      have single := words_keyword (make value)
      rw [keywords] at single
      simp [Statement.optional, single, tokens, keywords]

end Assigned

/-- What an UNSET block names. -/
inductive Property where
  | autoSuspendSecs
  | autoResume
  | comment
deriving DecidableEq, Repr

def Property.text : Property → String
  | autoSuspendSecs => "AUTO_SUSPEND_SECS"
  | autoResume => "AUTO_RESUME"
  | comment => "COMMENT"

def Property.tokens (property : Property) : List Token := [.word property.text.toList]

theorem Property.words_text (property : Property) : words property.text = property.tokens := by
  cases property <;> (simp only [text, tokens]; decide)

theorem Property.spelled (property : Property) : Spelled [property.text] property.tokens := by
  have keyword : IsKeyword property.text := by
    cases property <;> (simp only [text]; decide)
  have spelled := keyword.spelled
  rwa [words_text] at spelled

theorem Property.tokens_injective : Function.Injective tokens := by
  intro left right same
  cases left <;> cases right <;> first | rfl | simp [tokens, text] at same

/-- `{ SUSPEND | RESUME | STOP ALL | SET ... | UNSET ... }` -/
inductive Action where
  | suspend
  | resume
  | stopAll
  | set (first : Assigned) (others : List Assigned)
  | unset (first : Property) (others : List Property)
deriving DecidableEq, Repr

namespace Action

def text : Action → String
  | suspend => "SUSPEND"
  | resume => "RESUME"
  | stopAll => "STOP ALL"
  | set first others => "SET" ++ " " ++ Text.joined " " ((first :: others).map Assigned.text)
  | unset first others => "UNSET" ++ " " ++ Text.joined " " ((first :: others).map Property.text)

def keyword : Action → String
  | suspend => "SUSPEND"
  | resume => "RESUME"
  | stopAll => "STOP ALL"
  | set _ _ => "SET"
  | unset _ _ => "UNSET"

def body : Action → List Token
  | suspend | resume | stopAll => []
  | set first others => (first :: others).flatMap Assigned.tokens
  | unset first others => (first :: others).flatMap Property.tokens

def tokens (action : Action) : List Token := words action.keyword ++ action.body

theorem spelled (action : Action) : Spelled [action.text] action.tokens := by
  have keyword : IsKeyword action.keyword := by
    cases action <;> (simp only [keyword]; decide)
  cases action with
  | suspend | resume | stopAll => exact keyword.spelled
  | set first others =>
      exact keyword.spelled.join ((Spelled.map Assigned.spelled _).joined (by simp))
  | unset first others =>
      exact keyword.spelled.join ((Spelled.map Property.spelled _).joined (by simp))

theorem tokens_injective : Function.Injective tokens := by
  intro left right same
  have keywords : ¬Apart left.keyword right.keyword := fun apart =>
    words_append_ne apart left.body right.body same
  cases left with
  | suspend =>
      cases right with
      | suspend => rfl
      | _ => simp +decide [keyword] at keywords
  | resume =>
      cases right with
      | resume => rfl
      | _ => simp +decide [keyword] at keywords
  | stopAll =>
      cases right with
      | stopAll => rfl
      | _ => simp +decide [keyword] at keywords
  | set first others =>
      cases right with
      | set first' others' =>
          have bodies := List.append_cancel_left same
          have three : ∀ assigned : Assigned, assigned.tokens.length = 2 + 1 := fun _ => rfl
          have assigned := flatMap_inj_of_length three Assigned.tokens_injective bodies
          obtain ⟨rfl, rfl⟩ := List.cons.inj assigned
          rfl
      | _ => simp +decide [keyword] at keywords
  | unset first others =>
      cases right with
      | unset first' others' =>
          have bodies := List.append_cancel_left same
          have one : ∀ property : Property, property.tokens.length = 0 + 1 := fun _ => rfl
          have named := flatMap_inj_of_length one Property.tokens_injective bodies
          obtain ⟨rfl, rfl⟩ := List.cons.inj named
          rfl
      | _ => simp +decide [keyword] at keywords

end Action

end ComputePool

namespace ImageRepository

open Statement

/-- `{ ACCOUNT | DATABASE <name> | SCHEMA <name> }` -/
inductive Place where
  | account
  | database (first : String) (others : List String)
  | schema (first : String) (others : List String)
deriving DecidableEq, Repr

namespace Place

def text : Place → String
  | account => "ACCOUNT"
  | database first others => "DATABASE" ++ " " ++ Identifier.written (first :: others)
  | schema first others => "SCHEMA" ++ " " ++ Identifier.written (first :: others)

def keyword : Place → String
  | account => "ACCOUNT"
  | database _ _ => "DATABASE"
  | schema _ _ => "SCHEMA"

def body : Place → List Token
  | account => []
  | database first others | schema first others => [.name (first :: others)]

def tokens (place : Place) : List Token := words place.keyword ++ place.body

theorem spelled (place : Place) : Spelled [place.text] place.tokens := by
  have keyword : IsKeyword place.keyword := by
    cases place <;> (simp only [keyword]; decide)
  have name (first : String) (others : List String) :
      Spelled [Identifier.written (first :: others)] [.name (first :: others)] := by
    have sound : (Token.name (first :: others)).Sound := List.cons_ne_nil first others
    have written := spelled_one sound
    rwa [Token.spelling, String.ofList_toList] at written
  cases place with
  | account => exact keyword.spelled
  | database first others | schema first others => exact keyword.spelled.join (name first others)

theorem tokens_injective : Function.Injective tokens := by
  intro left right same
  have keywords : ¬Apart left.keyword right.keyword := fun apart =>
    words_append_ne apart left.body right.body same
  cases left with
  | account =>
      cases right with
      | account => rfl
      | _ => simp +decide [keyword] at keywords
  | database first others =>
      cases right with
      | database first' others' => simpa [tokens, keyword, body] using same
      | _ => simp +decide [keyword] at keywords
  | schema first others =>
      cases right with
      | schema first' others' => simpa [tokens, keyword, body] using same
      | _ => simp +decide [keyword] at keywords

end Place

end ImageRepository

end Provision
