import Mathlib.Data.List.Induction
import Provision.Proofs.Tokens

/-!
Statements read backwards. Turned around, a quoted text is the quotation of the text turned around,
and so are names and words; hence tokens are read in one way only from the right, too, and what
stands before the spelling of some tokens is itself the spelling of tokens.
-/

namespace Provision

namespace Text

def mirrored (text : String) : String := String.ofList text.toList.reverse

@[simp] theorem mirrored_mirrored (text : String) : mirrored (mirrored text) = text := by
  simp [mirrored]

theorem doubled_append (mark : Char) (left right : List Char) :
    doubled mark (left ++ right) = doubled mark left ++ doubled mark right := by
  induction left with
  | nil => rfl
  | cons char rest ih =>
      rw [List.cons_append, doubled, doubled, ih]
      split
      next => rfl
      next => rfl

theorem reverse_doubled (mark : Char) (text : List Char) :
    (doubled mark text).reverse = doubled mark text.reverse := by
  induction text with
  | nil => rfl
  | cons char rest ih =>
      rw [List.reverse_cons, doubled_append, ← ih, doubled]
      by_cases same : char = mark
      · simp [doubled, same]
      · simp [doubled, same]

theorem mirrored_quoted (mark : Char) (text : String) :
    mirrored (quoted mark text) = quoted mark (mirrored text) := by
  simp [quoted, mirrored, reverse_doubled]

theorem mirrored_joined (separator : String) (texts : List String) :
    mirrored (joined separator texts) =
      joined (mirrored separator) (texts.reverse.map mirrored) := by
  induction texts with
  | nil => rfl
  | cons first rest ih =>
      cases rest with
      | nil => rfl
      | cons second others =>
          rw [List.reverse_cons, List.map_append, List.map_singleton, joined_concat (by simp), ← ih,
            ← String.toList_inj]
          simp [joined, mirrored]

end Text

theorem Identifier.mirrored_written (segments : List String) :
    Text.mirrored (written segments) = written (segments.reverse.map Text.mirrored) := by
  have point : Text.mirrored "." = "." := by decide
  rw [written, Text.mirrored_joined, point, written, ← List.map_reverse, List.map_map, List.map_map]
  refine congrArg _ (List.map_congr_left fun segment _ => ?_)
  exact Text.mirrored_quoted '"' segment

namespace Statement

open Text

namespace Token

def mirrored : Token → Token
  | word chars => word chars.reverse
  | text content => text (Text.mirrored content)
  | name segments => name (segments.reverse.map Text.mirrored)

theorem mirrored_mirrored (token : Token) : token.mirrored.mirrored = token := by
  cases token with
  | word chars => simp [mirrored]
  | text content => simp [mirrored]
  | name segments =>
      have undone : Text.mirrored ∘ Text.mirrored = id := funext Text.mirrored_mirrored
      simp [mirrored, undone]

theorem mirrored_injective : Function.Injective mirrored :=
  Function.LeftInverse.injective mirrored_mirrored

theorem spelling_mirrored (token : Token) : token.mirrored.spelling = token.spelling.reverse := by
  have turned {text text' : String} (same : Text.mirrored text = text') :
      text'.toList = text.toList.reverse := by
    rw [← same, Text.mirrored, String.toList_ofList]
  cases token with
  | word chars => rfl
  | text content => exact turned (mirrored_quoted '\'' content)
  | name segments => exact turned (Identifier.mirrored_written segments)

theorem Sound.mirrored {token : Token} (sound : token.Sound) : token.mirrored.Sound := by
  cases token with
  | word chars => exact ⟨by simpa using sound.1, by simpa using sound.2⟩
  | text content => trivial
  | name segments => simpa [Token.mirrored, Sound] using sound

theorem append_spelling_inj {left right : Token} (sound : left.Sound) (sound' : right.Sound)
    {front front' : List Char} :
    front ++ ' ' :: left.spelling = front' ++ ' ' :: right.spelling ↔
      left = right ∧ front = front' := by
  constructor
  · intro same
    have turned := congrArg List.reverse same
    simp only [List.reverse_append, List.reverse_cons, List.append_assoc, List.singleton_append,
      ← spelling_mirrored] at turned
    obtain ⟨tokens, fronts⟩ := (spelling_append_inj sound.mirrored sound'.mirrored
      (setOff_space _) (setOff_space _)).mp turned
    exact ⟨mirrored_injective tokens, List.reverse_injective (List.cons.inj fronts).2⟩
  · rintro ⟨rfl, rfl⟩
    rfl

end Token

theorem exists_of_spell_eq_append {whole rest : List Token} {front : List Char}
    (sound : ∀ token ∈ whole, token.Sound) (sound' : ∀ token ∈ rest, token.Sound)
    (same : spell whole = front ++ spell rest) :
    ∃ taken, whole = taken ++ rest ∧ front = spell taken := by
  induction rest using List.reverseRecOn generalizing whole with
  | nil => exact ⟨whole, by simp, by simpa [spell] using same.symm⟩
  | append_singleton others last ih =>
      have ended (token : Token) : spell [token] = ' ' :: token.spelling := by simp [spell]
      rw [spell_append, ended] at same
      rcases List.eq_nil_or_concat whole with rfl | ⟨firsts, final, rfl⟩
      · simp [spell] at same
      · rw [List.concat_eq_append, List.forall_mem_append, List.forall_mem_singleton] at sound
        rw [List.forall_mem_append, List.forall_mem_singleton] at sound'
        rw [List.concat_eq_append, spell_append, ended, ← List.append_assoc] at same
        obtain ⟨rfl, fronts⟩ := (Token.append_spelling_inj sound.2 sound'.2).mp same
        obtain ⟨taken, rfl, written⟩ := ih sound.1 sound'.1 fronts
        exact ⟨taken, by simp, written⟩

end Statement

end Provision
