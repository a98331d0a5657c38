import Provision.Proofs.Quotation
import Provision.Statement.Shown

/-!
Statements as sequences of tokens. A token is a word, a quoted text or a qualified name; each is
written after a space, and the writing is read in one way only.
-/

namespace Provision

namespace Decimal

theorem ofNat_injective : Function.Injective ofNat := by
  intro left right same
  have digits : Nat.toDigits 10 left = Nat.toDigits 10 right := String.ofList_injective same
  have number := Nat.ofDigitChars_toDigits (b := 10) (n := left) (by decide) (by decide)
  rw [digits, Nat.ofDigitChars_toDigits (by decide) (by decide)] at number
  exact number.symm

theorem isDigit_of_mem_ofNat {number : Nat} {char : Char}
    (member : char ∈ (ofNat number).toList) : char.isDigit := by
  rw [ofNat, String.toList_ofList] at member
  exact Nat.isDigit_of_mem_toDigits (by decide) (by decide) member

theorem ofNat_ne_minus (number : Nat) (digits : String) : ofNat number ≠ "-" ++ digits := by
  intro same
  have member : '-' ∈ (ofNat number).toList := by simp [same]
  have digit := isDigit_of_mem_ofNat member
  simp at digit

theorem ofInt_injective : Function.Injective ofInt := by
  intro left right same
  cases left with
  | ofNat left =>
      cases right with
      | ofNat right => exact congrArg _ (ofNat_injective same)
      | negSucc right => exact absurd same (ofNat_ne_minus left _)
  | negSucc left =>
      cases right with
      | ofNat right => exact absurd same.symm (ofNat_ne_minus right _)
      | negSucc right =>
          have digits := ofNat_injective ((String.append_right_inj "-").mp same)
          exact congrArg _ (Nat.succ.inj digits)

theorem mem_ofInt {number : Int} {char : Char} (member : char ∈ (ofInt number).toList) :
    char = '-' ∨ char.isDigit := by
  cases number with
  | ofNat number => exact .inr (isDigit_of_mem_ofNat member)
  | negSucc number =>
      rw [ofInt, String.toList_append, List.mem_append] at member
      rcases member with minus | digit
      · exact .inl (by simpa using minus)
      · exact .inr (isDigit_of_mem_ofNat digit)

theorem ofInt_ne_empty (number : Int) : (ofInt number).toList ≠ [] := by
  cases number with
  | ofNat number => simp [ofInt, ofNat]
  | negSucc number => simp [ofInt]

end Decimal

namespace Statement

open Text

inductive Token where
  | word (chars : List Char)
  | text (content : String)
  | name (segments : List String)
deriving DecidableEq, Repr

namespace Token

def spelling : Token → List Char
  | word chars => chars
  | text content => (quoted '\'' content).toList
  | name segments => (Identifier.written segments).toList

def isPlain (char : Char) : Bool := char ≠ ' ' && char ≠ '\'' && char ≠ '"'

/-- The token can be told from its surroundings. -/
def Sound : Token → Prop
  | word chars => chars ≠ [] ∧ chars.all isPlain
  | text _ => True
  | name segments => segments ≠ []

instance : DecidablePred Sound
  | word chars => inferInstanceAs (Decidable (chars ≠ [] ∧ chars.all isPlain))
  | text _ => inferInstanceAs (Decidable True)
  | name segments => inferInstanceAs (Decidable (segments ≠ []))

theorem sound_numeral (number : Int) : (word (Decimal.ofInt number).toList).Sound := by
  refine ⟨Decimal.ofInt_ne_empty number, List.all_eq_true.mpr ?_⟩
  intro char member
  rcases Decimal.mem_ofInt member with rfl | digit
  · decide
  · have other : ∀ {mark : Char}, mark.isDigit = false → char ≠ mark := by
      rintro mark undigit rfl
      simp [undigit] at digit
    simp [isPlain, other (show ' '.isDigit = false from rfl),
      other (show '\''.isDigit = false from rfl), other (show '"'.isDigit = false from rfl)]

theorem word_append_inj {left right rest rest' : List Char} (plain : left.all isPlain)
    (plain' : right.all isPlain) (setOff : SetOff rest) (setOff' : SetOff rest')
    (same : left ++ rest = right ++ rest') : left = right ∧ rest = rest' := by
  induction left generalizing right with
  | nil =>
      cases right with
      | nil => exact ⟨rfl, same⟩
      | cons char chars =>
          rw [List.nil_append, List.cons_append] at same
          have space : char = ' ' := setOff char (by simp [same])
          simp [space, isPlain] at plain'
  | cons char chars ih =>
      cases right with
      | nil =>
          rw [List.nil_append, List.cons_append] at same
          have space : char = ' ' := setOff' char (by simp [← same])
          simp [space, isPlain] at plain
      | cons char' chars' =>
          rw [List.all_cons, Bool.and_eq_true] at plain plain'
          obtain ⟨rfl, onward⟩ := List.cons.inj same
          obtain ⟨rfl, rests⟩ := ih plain.2 plain'.2 onward
          exact ⟨rfl, rests⟩

def opener : Token → Char
  | word chars => chars.headD ' '
  | text _ => '\''
  | name _ => '"'

theorem Sound.isPlain_opener {chars : List Char} (sound : (word chars).Sound) :
    isPlain (word chars).opener := by
  cases chars with
  | nil => exact absurd rfl sound.1
  | cons char others =>
      have plain := sound.2
      rw [List.all_cons, Bool.and_eq_true] at plain
      exact plain.1

theorem Sound.spelling_eq {token : Token} (sound : token.Sound) :
    ∃ others, token.spelling = token.opener :: others := by
  cases token with
  | word chars =>
      cases chars with
      | nil => exact absurd rfl sound.1
      | cons char others => exact ⟨others, rfl⟩
  | text content => exact ⟨_, by simp [spelling, quoted, opener]; rfl⟩
  | name segments =>
      cases segments with
      | nil => exact absurd rfl sound
      | cons first others =>
          have written := Identifier.toList_written_cons first others []
          rw [List.append_nil, toList_quoted_append] at written
          exact ⟨_, written⟩

theorem opener_eq_of_append {left right : Token} (sound : left.Sound) (sound' : right.Sound)
    {rest rest' : List Char} (same : left.spelling ++ rest = right.spelling ++ rest') :
    left.opener = right.opener := by
  obtain ⟨others, spelled⟩ := sound.spelling_eq
  obtain ⟨others', spelled'⟩ := sound'.spelling_eq
  rw [spelled, spelled'] at same
  exact (List.cons.inj same).1

theorem spelling_append_inj {left right : Token} (sound : left.Sound) (sound' : right.Sound)
    {rest rest' : List Char} (setOff : SetOff rest) (setOff' : SetOff rest') :
    left.spelling ++ rest = right.spelling ++ rest' ↔ left = right ∧ rest = rest' := by
  constructor
  · intro same
    have opened := opener_eq_of_append sound sound' same
    cases left with
    | word chars =>
        have plain := sound.isPlain_opener
        cases right with
        | word chars' =>
            obtain ⟨rfl, rests⟩ := word_append_inj sound.2 sound'.2 setOff setOff' same
            exact ⟨rfl, rests⟩
        | text | name =>
            rw [opened] at plain
            simp [opener, isPlain] at plain
    | text content =>
        cases right with
        | word chars' =>
            have plain := sound'.isPlain_opener
            rw [← opened] at plain
            simp [opener, isPlain] at plain
        | text content' =>
            obtain ⟨rfl, rests⟩ := (quoted_append_inj (setOff.head?_ne (by decide))
              (setOff'.head?_ne (by decide))).mp same
            exact ⟨rfl, rests⟩
        | name segments' => simp [opener] at opened
    | name segments =>
        cases right with
        | word chars' =>
            have plain := sound'.isPlain_opener
            rw [← opened] at plain
            simp [opener, isPlain] at plain
        | text content' => simp [opener] at opened
        | name segments' =>
            obtain ⟨rfl, rests⟩ :=
              (Identifier.written_append_inj sound sound' setOff setOff').mp same
            exact ⟨rfl, rests⟩
  · rintro ⟨rfl, rfl⟩
    rfl

end Token

open Token

/-- Each token after a space. -/
def spell (tokens : List Token) : List Char := tokens.flatMap fun token => ' ' :: token.spelling

theorem spell_append (left right : List Token) :
    spell (left ++ right) = spell left ++ spell right :=
  List.flatMap_append

theorem spell_cons (token : Token) (rest : List Token) :
    spell (token :: rest) = ' ' :: (token.spelling ++ spell rest) := rfl

theorem setOff_spell_append (tokens : List Token) {rest : List Char} (setOff : SetOff rest) :
    SetOff (spell tokens ++ rest) := by
  cases tokens with
  | nil => exact setOff
  | cons token tokens => exact setOff_space _

theorem spell_cons_append_inj {left right : Token} {lefts rights : List Token}
    (sound : left.Sound) (sound' : right.Sound) {rest rest' : List Char} (setOff : SetOff rest)
    (setOff' : SetOff rest') :
    spell (left :: lefts) ++ rest = spell (right :: rights) ++ rest' ↔
      left = right ∧ spell lefts ++ rest = spell rights ++ rest' := by
  simp only [spell_cons, List.cons_append, List.append_assoc, List.cons.injEq, true_and]
  exact spelling_append_inj sound sound' (setOff_spell_append lefts setOff)
    (setOff_spell_append rights setOff')

/-- Of two sequences that are spelled the same, up to what follows, one goes on where the other
ends. -/
theorem spell_append_cases {left right : List Token} (sound : ∀ token ∈ left, token.Sound)
    (sound' : ∀ token ∈ right, token.Sound) {rest rest' : List Char} (setOff : SetOff rest)
    (setOff' : SetOff rest') (same : spell left ++ rest = spell right ++ rest') :
    (∃ more, right = left ++ more ∧ rest = spell more ++ rest') ∨
      ∃ more, left = right ++ more ∧ rest' = spell more ++ rest := by
  induction left generalizing right with
  | nil => exact .inl ⟨right, rfl, same⟩
  | cons token tokens ih =>
      cases right with
      | nil => exact .inr ⟨token :: tokens, rfl, same.symm⟩
      | cons token' tokens' =>
          rw [List.forall_mem_cons] at sound sound'
          obtain ⟨rfl, onward⟩ :=
            (spell_cons_append_inj sound.1 sound'.1 setOff setOff').mp same
          rcases ih sound.2 sound'.2 onward with ⟨more, rfl, rests⟩ | ⟨more, rfl, rests⟩
          · exact .inl ⟨more, rfl, rests⟩
          · exact .inr ⟨more, rfl, rests⟩

theorem spell_inj {left right : List Token} (sound : ∀ token ∈ left, token.Sound)
    (sound' : ∀ token ∈ right, token.Sound) : spell left = spell right ↔ left = right := by
  constructor
  · intro same
    have nothing : ∀ {more : List Token}, [] = spell more ++ [] → more = [] := by
      intro more empty
      cases more with
      | nil => rfl
      | cons token tokens => simp [spell_cons] at empty
    rcases spell_append_cases sound sound' setOff_nil setOff_nil (congrArg (· ++ []) same) with
      ⟨more, rfl, empty⟩ | ⟨more, rfl, empty⟩
    · rw [nothing empty, List.append_nil]
    · rw [nothing empty, List.append_nil]
  · rintro rfl
    rfl

end Statement

end Provision
