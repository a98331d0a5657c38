import Mathlib.Data.List.Induction
import Mathlib.Data.List.TakeWhile
import Mathlib.Tactic.NormNum
import Provision.Json.Basic
import Provision.Text

/-!
Which texts are integers. A numeral is one or more digits, of which each counts ten times as much as
the one after it; an integer is a numeral with one sign or none. It is read as the number that it
spells, or not at all where that number is beyond the words.
-/

namespace Provision

namespace Text

theorem exists_trimmed (text : List Char) :
    ∃ before after, text = before ++ trimmed text ++ after ∧ (∀ char ∈ before, isBlank char) ∧
      ∀ char ∈ after, isBlank char := by
  let started := text.dropWhile isBlank
  refine ⟨text.takeWhile isBlank, (started.reverse.takeWhile isBlank).reverse, ?_, ?_, ?_⟩
  · have ended : trimmed text ++ (started.reverse.takeWhile isBlank).reverse = started := by
      rw [trimmed, ← List.reverse_append, List.takeWhile_append_dropWhile, List.reverse_reverse]
    rw [List.append_assoc, ended, List.takeWhile_append_dropWhile]
  · intro char member
    exact List.mem_takeWhile_imp member
  · intro char member
    exact List.mem_takeWhile_imp (List.mem_reverse.mp member)

theorem span_append {among : Char → Bool} {front rest : List Char}
    (all : ∀ char ∈ front, among char) (stop : ∀ char ∈ rest.head?, among char = false) :
    (front ++ rest).takeWhile among = front ∧ (front ++ rest).dropWhile among = rest := by
  rw [List.takeWhile_append_of_pos all, List.dropWhile_append_of_pos all]
  cases rest with
  | nil => simp
  | cons char later => simp [stop char rfl]

theorem trimmed_append {before core after : List Char} (blankBefore : ∀ char ∈ before, isBlank char)
    (blankAfter : ∀ char ∈ after, isBlank char) (given : core ≠ [])
    (clear : ∀ char ∈ core, isBlank char = false) : trimmed (before ++ core ++ after) = core := by
  have started : (before ++ core ++ after).dropWhile isBlank = core ++ after := by
    rw [List.append_assoc]
    refine (span_append blankBefore ?_).2
    obtain ⟨first, rest, rfl⟩ := List.exists_cons_of_ne_nil given
    rintro _ ⟨rfl⟩
    exact clear first List.mem_cons_self
  have ended : (core ++ after).reverse.dropWhile isBlank = core.reverse := by
    rw [List.reverse_append]
    refine (span_append (by simpa using blankAfter) ?_).2
    intro char first
    exact clear char (List.mem_reverse.mp (List.mem_of_mem_head? first))
  rw [trimmed, started, ended, List.reverse_reverse]

end Text

namespace Decimal

def FitsWord (number : Int) : Prop := -2 ^ 63 ≤ number ∧ number ≤ 2 ^ 63 - 1

instance (number : Int) : Decidable (FitsWord number) :=
  inferInstanceAs (Decidable (_ ∧ _))

theorem isWord_iff {number : Int} : isWord number ↔ FitsWord number := by
  simp only [isWord, Bool.and_eq_true, decide_eq_true_eq, FitsWord]
  norm_num

/-- Digits and the number that they spell. Zeros may stand in front. -/
inductive Numeral : List Char → Nat → Prop
  | digit {digit : Nat} (below : digit < 10) : Numeral [digit.digitChar] digit
  | append {digits : List Char} {number digit : Nat} (front : Numeral digits number)
      (below : digit < 10) : Numeral (digits ++ [digit.digitChar]) (10 * number + digit)

inductive Signed : List Char → Int → Prop
  | bare {digits : List Char} {number : Nat} (numeral : Numeral digits number) :
      Signed digits number
  | plus {digits : List Char} {number : Nat} (numeral : Numeral digits number) :
      Signed ('+' :: digits) number
  | minus {digits : List Char} {number : Nat} (numeral : Numeral digits number) :
      Signed ('-' :: digits) (-number)

theorem exists_digitChar {char : Char} (digit : char.isDigit) :
    ∃ value, value < 10 ∧ char = value.digitChar := by
  obtain ⟨lower, upper⟩ := Char.isDigit_iff_toNat.mp digit
  change 48 ≤ char.toNat at lower
  change char.toNat ≤ 57 at upper
  refine ⟨char.toNat - 48, by omega, ?_⟩
  apply Char.toNat_inj.mp
  rw [Nat.toNat_digitChar_of_lt_ten (by omega)]
  omega

theorem ofDigitChars_concat (digits : List Char) {digit : Nat} (below : digit < 10) :
    Nat.ofDigitChars 10 (digits ++ [digit.digitChar]) 0 =
      10 * Nat.ofDigitChars 10 digits 0 + digit := by
  rw [Nat.ofDigitChars_append, Nat.ofDigitChars_cons, Nat.ofDigitChars_nil,
    Nat.toNat_digitChar_of_lt_ten below]
  change _ + (48 + digit - 48) = _
  omega

namespace Numeral

variable {digits : List Char} {number : Nat}

theorem ne_nil (numeral : Numeral digits number) : digits ≠ [] := by
  cases numeral with
  | digit below => simp
  | append front below => simp

theorem isDigit (numeral : Numeral digits number) : ∀ char ∈ digits, char.isDigit := by
  induction numeral with
  | digit below =>
      intro char member
      rw [List.mem_singleton.mp member, Nat.isDigit_digitChar]
      exact decide_eq_true below
  | append front below ih =>
      intro char member
      rcases List.mem_append.mp member with earlier | last
      · exact ih char earlier
      · rw [List.mem_singleton.mp last, Nat.isDigit_digitChar]
        exact decide_eq_true below

theorem not_of_head {first : Char} (other : first.isDigit = false) :
    ¬Numeral (first :: digits) number := by
  intro numeral
  simp [numeral.isDigit first List.mem_cons_self] at other

theorem value (numeral : Numeral digits number) : Nat.ofDigitChars 10 digits 0 = number := by
  induction numeral with
  | digit below => simpa using ofDigitChars_concat [] below
  | append front below ih => rw [ofDigitChars_concat _ below, ih]

theorem of_isDigit (given : digits ≠ []) (digital : ∀ char ∈ digits, char.isDigit) :
    Numeral digits (Nat.ofDigitChars 10 digits 0) := by
  induction digits using List.reverseRecOn with
  | nil => exact absurd rfl given
  | append_singleton front last ih =>
      obtain ⟨digit, below, rfl⟩ := exists_digitChar (digital last (by simp))
      rw [ofDigitChars_concat front below]
      by_cases alone : front = []
      · subst alone
        simpa using Numeral.digit below
      · apply Numeral.append _ below
        apply ih alone
        intro char member
        exact digital char (List.mem_append_left _ member)

theorem toDigits (number : Nat) : Numeral (Nat.toDigits 10 number) number := by
  have numeral := of_isDigit (Nat.toDigits_ne_nil (n := number) (b := 10)) fun char member =>
    Nat.isDigit_of_mem_toDigits (by omega) (by omega) member
  rwa [Nat.ofDigitChars_toDigits (by omega) (by omega)] at numeral

end Numeral

theorem natOfDigits?_eq_some_iff {digits : List Char} {number : Nat} :
    natOfDigits? digits = some number ↔ Numeral digits number := by
  rw [natOfDigits?]
  constructor
  · intro found
    split at found
    next digital =>
      simp only [Bool.and_eq_true, decide_eq_true_eq, List.all_eq_true] at digital
      obtain rfl := Option.some.inj found
      exact Numeral.of_isDigit digital.1 digital.2
    next => simp at found
  · intro numeral
    rw [if_pos, numeral.value]
    simp only [Bool.and_eq_true, decide_eq_true_eq, List.all_eq_true]
    exact ⟨numeral.ne_nil, numeral.isDigit⟩

theorem map_natOfDigits?_eq_some_iff {digits : List Char} {number : Int} (wrap : Nat → Int) :
    (natOfDigits? digits).map wrap = some number ↔
      ∃ value, Numeral digits value ∧ wrap value = number := by
  simp only [Option.map_eq_some_iff, natOfDigits?_eq_some_iff]

theorem word?_eq_some_iff {text : List Char} {number : Int} :
    word? text = some number ↔ Signed text number ∧ FitsWord number := by
  unfold word?
  rw [Option.filter_eq_some_iff, isWord_iff]
  refine and_congr_left fun _ => ?_
  -- A numeral begins with no sign, so the first character decides which form a text has.
  split
  next digits =>
    rw [map_natOfDigits?_eq_some_iff]
    constructor
    · rintro ⟨value, numeral, rfl⟩
      exact .plus numeral
    · intro signed
      cases signed with
      | bare numeral => exact absurd numeral (Numeral.not_of_head rfl)
      | plus numeral => exact ⟨_, numeral, rfl⟩
  next digits =>
    rw [map_natOfDigits?_eq_some_iff]
    constructor
    · rintro ⟨value, numeral, rfl⟩
      exact .minus numeral
    · intro signed
      cases signed with
      | bare numeral => exact absurd numeral (Numeral.not_of_head rfl)
      | minus numeral => exact ⟨_, numeral, rfl⟩
  next noPlus noMinus =>
    rw [map_natOfDigits?_eq_some_iff]
    constructor
    · rintro ⟨value, numeral, rfl⟩
      exact .bare numeral
    · intro signed
      cases signed with
      | bare numeral => exact ⟨_, numeral, rfl⟩
      | plus numeral => exact absurd rfl (noPlus _)
      | minus numeral => exact absurd rfl (noMinus _)

namespace Signed

variable {text : List Char} {number : Int}

theorem unique {other : Int} (signed : Signed text number) (signed' : Signed text other) :
    number = other := by
  cases signed with
  | bare numeral =>
      cases signed' with
      | bare numeral' => rw [← numeral.value, numeral'.value]
      | plus | minus => exact absurd numeral (Numeral.not_of_head rfl)
  | plus numeral =>
      cases signed' with
      | bare numeral' => exact absurd numeral' (Numeral.not_of_head rfl)
      | plus numeral' => rw [← numeral.value, numeral'.value]
  | minus numeral =>
      cases signed' with
      | bare numeral' => exact absurd numeral' (Numeral.not_of_head rfl)
      | minus numeral' => rw [← numeral.value, numeral'.value]

theorem ofInt (number : Int) : Signed (Decimal.ofInt number).toList number := by
  cases number with
  | ofNat number =>
      apply Signed.bare
      rw [Decimal.ofInt, ofNat, String.toList_ofList]
      exact Numeral.toDigits number
  | negSucc number =>
      simp only [Decimal.ofInt, ofNat, String.toList_append, String.toList_ofList]
      exact Signed.minus (Numeral.toDigits (number + 1))

theorem ne_nil (signed : Signed text number) : text ≠ [] := by
  cases signed with
  | bare numeral => exact numeral.ne_nil
  | plus numeral => simp
  | minus numeral => simp

theorem isBlank_eq_false (signed : Signed text number) :
    ∀ char ∈ text, Text.isBlank char = false := by
  have digital {digits : List Char} {value : Nat} (numeral : Numeral digits value) :
      ∀ char ∈ digits, Text.isBlank char = false := by
    intro char member
    obtain ⟨lower, upper⟩ := Char.isDigit_iff_toNat.mp (numeral.isDigit char member)
    change 48 ≤ char.toNat at lower
    change char.toNat ≤ 57 at upper
    simp [Text.isBlank, Text.within, Text.blankSpans]
    omega
  cases signed with
  | bare numeral => exact digital numeral
  | plus numeral => exact List.forall_mem_cons.mpr ⟨by decide, digital numeral⟩
  | minus numeral => exact List.forall_mem_cons.mpr ⟨by decide, digital numeral⟩

end Signed

/-- The integer with white space around it, or none. -/
def Spells (text : List Char) (number : Int) : Prop :=
  ∃ before core after, text = before ++ core ++ after ∧ (∀ char ∈ before, Text.isBlank char) ∧
    (∀ char ∈ after, Text.isBlank char) ∧ Signed core number

theorem signed_trimmed_iff {text : List Char} {number : Int} :
    Signed (Text.trimmed text) number ↔ Spells text number := by
  constructor
  · intro signed
    obtain ⟨before, after, split, blankBefore, blankAfter⟩ := Text.exists_trimmed text
    exact ⟨before, _, after, split, blankBefore, blankAfter, signed⟩
  · rintro ⟨before, core, after, rfl, blankBefore, blankAfter, signed⟩
    rw [Text.trimmed_append blankBefore blankAfter signed.ne_nil signed.isBlank_eq_false]
    exact signed

theorem Signed.spells {text : List Char} {number : Int} (signed : Signed text number) :
    Spells text number :=
  ⟨[], text, [], by simp, by simp, by simp, signed⟩

theorem Spells.unique {text : List Char} {number other : Int} (spells : Spells text number)
    (spells' : Spells text other) : number = other :=
  (signed_trimmed_iff.mpr spells).unique (signed_trimmed_iff.mpr spells')

end Decimal

namespace Json.Number

open Decimal

theorem ofInt_injective : Function.Injective ofInt := by
  intro left right same
  obtain ⟨sign, size, -, -⟩ := Number.mk.inj same
  rw [decide_eq_decide] at sign
  omega

theorem toWord?_eq_some_iff {number : Number} {word : Int} :
    number.toWord? = some word ↔ number = .ofInt word ∧ FitsWord word := by
  obtain ⟨negative, whole, fraction, exponent?⟩ := number
  simp only [toWord?, isInteger, ofInt, mk.injEq, FitsWord]
  split
  next inexact =>
    refine iff_of_false (by simp) ?_
    rintro ⟨⟨-, -, rfl, rfl⟩, -⟩
    simp at inexact
  next exact =>
    simp only [Bool.not_eq_true, Bool.not_eq_false', Bool.and_eq_true, decide_eq_true_eq] at exact
    obtain ⟨rfl, rfl⟩ := exact
    cases negative with
    | true =>
        rw [if_pos rfl]
        constructor
        · intro found
          split at found
          next bounded =>
            simp only [Bool.and_eq_true, decide_eq_true_eq] at bounded
            obtain rfl : -(whole : Int) = word := Option.some.inj found
            exact ⟨⟨(decide_eq_true (by omega)).symm, by omega, rfl, rfl⟩, by omega, by omega⟩
          next => simp at found
        · rintro ⟨⟨sign, rfl, -, -⟩, lower, upper⟩
          have below : word < 0 := of_decide_eq_true sign.symm
          rw [if_pos (by simp only [Bool.and_eq_true, decide_eq_true_eq]; omega)]
          exact congrArg some (show -(word.natAbs : Int) = word by omega)
    | false =>
        rw [if_neg (by simp)]
        constructor
        · intro found
          split at found
          next bounded =>
            obtain rfl : (whole : Int) = word := Option.some.inj found
            exact ⟨⟨(decide_eq_false (by omega)).symm, by omega, rfl, rfl⟩, by omega, by omega⟩
          next => simp at found
        · rintro ⟨⟨sign, rfl, -, -⟩, lower, upper⟩
          have natural : ¬word < 0 := of_decide_eq_false sign.symm
          rw [if_pos (by omega)]
          exact congrArg some (show (word.natAbs : Int) = word by omega)

end Json.Number

end Provision
