import Provision.Proofs.StoredForm
import Provision.Statement.Shown

/-!
Quoted text ends where it should. Between quotation marks every mark is written twice, so a scan
that stops at the first mark that stands alone gives back the text and leaves what follows it; hence
neither quoted texts nor qualified names can run into what is written after them.
-/

namespace Provision

namespace Text

/-- Reads on after an opening mark, up to the first mark that is not doubled: the text, and what is
left. -/
def scanned (mark : Char) : List Char → Option (List Char × List Char)
  | [] => none
  | [char] => if char = mark then some ([], []) else none
  | char :: next :: rest =>
      if char = mark then
        if next = mark then (scanned mark rest).map fun found => (mark :: found.1, found.2)
        else some ([], next :: rest)
      else (scanned mark (next :: rest)).map fun found => (char :: found.1, found.2)

variable {mark : Char}

theorem scanned_cons_of_ne {char : Char} (other : char ≠ mark) (rest : List Char) :
    scanned mark (char :: rest) =
      (scanned mark rest).map fun found => (char :: found.1, found.2) := by
  cases rest with
  | nil => simp [scanned, other]
  | cons next later => simp [scanned, other]

theorem scanned_mark_mark (rest : List Char) :
    scanned mark (mark :: mark :: rest) =
      (scanned mark rest).map fun found => (mark :: found.1, found.2) := by
  simp [scanned]

theorem scanned_mark {rest : List Char} (apart : rest.head? ≠ some mark) :
    scanned mark (mark :: rest) = some ([], rest) := by
  cases rest with
  | nil => simp [scanned]
  | cons next later =>
      have other : next ≠ mark := fun same => apart (congrArg some same)
      simp [scanned, other]

theorem scanned_doubled {rest : List Char} (apart : rest.head? ≠ some mark) (text : List Char) :
    scanned mark (doubled mark text ++ mark :: rest) = some (text, rest) := by
  induction text with
  | nil => exact scanned_mark apart
  | cons char text ih =>
      by_cases same : char = mark
      · subst same
        simp only [doubled, if_true, List.cons_append]
        rw [scanned_mark_mark, ih]
        rfl
      · simp only [doubled, same, if_false, List.cons_append]
        rw [scanned_cons_of_ne same, ih]
        rfl

theorem eq_of_scanned {input text rest : List Char}
    (found : scanned mark input = some (text, rest)) :
    input = doubled mark text ++ mark :: rest ∧ rest.head? ≠ some mark := by
  fun_induction scanned mark input generalizing text with
  | case1 => simp at found
  | case2 =>
      obtain ⟨rfl, rfl⟩ := Prod.mk.inj (Option.some.inj found)
      simp [doubled]
  | case3 => simp at found
  | case4 later ih =>
      obtain ⟨⟨front, back⟩, onward, same⟩ := Option.map_eq_some_iff.mp found
      obtain ⟨rfl, rfl⟩ := Prod.mk.inj same
      obtain ⟨rfl, apart⟩ := ih onward
      exact ⟨by simp [doubled], apart⟩
  | case5 next later other =>
      obtain ⟨rfl, rfl⟩ := Prod.mk.inj (Option.some.inj found)
      exact ⟨by simp [doubled], by simpa using other⟩
  | case6 char next later other ih =>
      obtain ⟨⟨front, back⟩, onward, same⟩ := Option.map_eq_some_iff.mp found
      obtain ⟨rfl, rfl⟩ := Prod.mk.inj same
      obtain ⟨split, apart⟩ := ih onward
      exact ⟨by simp [doubled, other, split], apart⟩

theorem toList_quoted_append (text : String) (rest : List Char) :
    (quoted mark text).toList ++ rest = mark :: (doubled mark text.toList ++ mark :: rest) := by
  simp [quoted]

def quotation? (mark : Char) : List Char → Option (String × List Char)
  | [] => none
  | char :: rest =>
      if char = mark then
        (scanned mark rest).map fun found => (String.ofList found.1, found.2)
      else none

theorem quotation?_eq_some_iff {input rest : List Char} {text : String} :
    quotation? mark input = some (text, rest) ↔
      input = (quoted mark text).toList ++ rest ∧ rest.head? ≠ some mark := by
  rw [toList_quoted_append]
  constructor
  · intro found
    cases input with
    | nil => simp [quotation?] at found
    | cons char later =>
        rw [quotation?] at found
        split at found
        next opening =>
          obtain ⟨⟨front, back⟩, read, same⟩ := Option.map_eq_some_iff.mp found
          obtain ⟨rfl, rfl⟩ := Prod.mk.inj same
          obtain ⟨rfl, apart⟩ := eq_of_scanned read
          exact ⟨by rw [opening, String.toList_ofList], apart⟩
        next => simp at found
  · rintro ⟨rfl, apart⟩
    rw [quotation?, if_pos rfl, scanned_doubled apart]
    simp

/-- In either style of quotation, whatever text is quoted and whatever follows: reading leaves just
what follows and gives just the text, unless one more mark follows. -/
theorem quotation_ends_exactly (text : String) (rest input : List Char) :
    (quotation? '\'' input = some (text, rest) ↔
      input = (Statement.Quoting.quoted.free text).toList ++ rest ∧ rest.head? ≠ some '\'') ∧
    (quotation? '"' input = some (text, rest) ↔
      input = (Identifier.quotedSegment text).toList ++ rest ∧ rest.head? ≠ some '"') :=
  ⟨quotation?_eq_some_iff, quotation?_eq_some_iff⟩

example : quotation? '"' "\"A\"\"B\".\"C\"".toList = some ("A\"B", ".\"C\"".toList) := by
  decide

theorem quoted_append_inj {left right : String} {rest rest' : List Char}
    (apart : rest.head? ≠ some mark) (apart' : rest'.head? ≠ some mark) :
    (quoted mark left).toList ++ rest = (quoted mark right).toList ++ rest' ↔
      left = right ∧ rest = rest' := by
  constructor
  · intro same
    rw [toList_quoted_append, toList_quoted_append, List.cons.injEq] at same
    have found := scanned_doubled apart left.toList
    rw [same.2, scanned_doubled apart'] at found
    obtain ⟨text, rest⟩ := Prod.mk.inj (Option.some.inj found)
    exact ⟨String.toList_injective text.symm, rest.symm⟩
  · rintro ⟨rfl, rfl⟩
    rfl

def SetOff (rest : List Char) : Prop := ∀ char ∈ rest.head?, char = ' '

@[simp] theorem setOff_nil : SetOff [] := by simp [SetOff]

@[simp] theorem setOff_space (rest : List Char) : SetOff (' ' :: rest) := by simp [SetOff]

theorem SetOff.head?_ne {rest : List Char} (setOff : SetOff rest) {char : Char}
    (other : char ≠ ' ') : rest.head? ≠ some char :=
  fun same => other (setOff char same)

end Text

namespace Identifier

open Text

def given (id : Identifier) : List String := id.segments.filter (· ≠ "")

def written (segments : List String) : String := joined "." (segments.map quotedSegment)

theorem qualifiedName_eq (id : Identifier) : id.qualifiedName = written id.given := rfl

theorem name_ne_empty {id : Identifier} (valid : id.isValid) : id.name ≠ "" := by
  simp only [isValid, Bool.and_eq_true, decide_eq_true_eq] at valid
  exact valid.1

theorem given_ne_nil {id : Identifier} (valid : id.isValid) : id.given ≠ [] := by
  intro empty
  have member : id.name ∈ id.given :=
    List.mem_filter.mpr ⟨by cases id <;> simp [segments, name], by simpa using name_ne_empty valid⟩
  simp [empty] at member

/-- What is written after a segment: the other segments, each after a point, and what follows. -/
def afterSegment (others : List String) (rest : List Char) : List Char :=
  match others with
  | [] => rest
  | next :: later => '.' :: ((written (next :: later)).toList ++ rest)

theorem toList_written_cons (segment : String) (others : List String) (rest : List Char) :
    (written (segment :: others)).toList ++ rest =
      (quoted '"' segment).toList ++ afterSegment others rest := by
  cases others with
  | nil => simp [written, joined, quotedSegment, afterSegment]
  | cons second later => simp [written, joined, quotedSegment, afterSegment]

theorem head?_afterSegment {rest : List Char} (setOff : SetOff rest) (others : List String) :
    (afterSegment others rest).head? ≠ some '"' := by
  cases others with
  | nil => exact setOff.head?_ne (by decide)
  | cons next later => simp [afterSegment]

theorem written_append_inj {left right : List String} (named : left ≠ []) (named' : right ≠ [])
    {rest rest' : List Char} (setOff : SetOff rest) (setOff' : SetOff rest') :
    (written left).toList ++ rest = (written right).toList ++ rest' ↔
      left = right ∧ rest = rest' := by
  constructor
  · intro same
    have point : rest.head? ≠ some '.' := setOff.head?_ne (by decide)
    have point' : rest'.head? ≠ some '.' := setOff'.head?_ne (by decide)
    induction left generalizing right with
    | nil => exact absurd rfl named
    | cons segment others ih =>
        cases right with
        | nil => exact absurd rfl named'
        | cons segment' others' =>
            rw [toList_written_cons, toList_written_cons] at same
            obtain ⟨rfl, onward⟩ := (quoted_append_inj (head?_afterSegment setOff others)
              (head?_afterSegment setOff' others')).mp same
            -- A point tells a name that goes on from one that is followed by something else.
            cases others with
            | nil =>
                cases others' with
                | nil => exact ⟨rfl, onward⟩
                | cons next' later' =>
                    have pointed : rest = '.' :: _ := onward
                    simp [pointed] at point
            | cons next later =>
                cases others' with
                | nil =>
                    have pointed : '.' :: _ = rest' := onward
                    simp [← pointed] at point'
                | cons next' later' =>
                    obtain ⟨segments, rests⟩ :=
                      ih (by simp) (List.cons_ne_nil next' later') (List.cons.inj onward).2
                    exact ⟨congrArg _ segments, rests⟩
  · rintro ⟨rfl, rfl⟩
    rfl

theorem written_ne_empty {segments : List String} (named : segments ≠ []) :
    written segments ≠ "" := by
  intro empty
  cases segments with
  | nil => exact named rfl
  | cons segment others =>
      have split := toList_written_cons segment others []
      simp [empty, Text.quoted] at split

theorem written_inj {left right : List String} : written left = written right ↔ left = right := by
  constructor
  · intro same
    by_cases unnamed : left = []
    · subst unnamed
      by_contra named
      exact written_ne_empty (Ne.symm named) same.symm
    · have named : right ≠ [] := by
        rintro rfl
        exact written_ne_empty unnamed same
      rw [← String.toList_inj] at same
      exact ((written_append_inj unnamed named setOff_nil setOff_nil).mp (by simpa using same)).1
  · rintro rfl
    rfl

/-- The qualified names of any two identifiers are equal exactly when the segments are that are
there; so a name tells where each of its segments ends, whatever the segments are. -/
theorem qualifiedName_eq_iff (left right : Identifier) :
    left.qualifiedName = right.qualifiedName ↔
      left.segments.filter (· ≠ "") = right.segments.filter (· ≠ "") := by
  rw [qualifiedName_eq, qualifiedName_eq]
  exact written_inj

example :
    (account ⟨"A\".\"B"⟩).qualifiedName = "\"A\"\".\"\"B\"" ∧
      (database ⟨"A", "B"⟩).qualifiedName = "\"A\".\"B\"" := by
  decide

end Identifier

end Provision
