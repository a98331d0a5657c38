import Mathlib.Data.List.Lex
import Mathlib.Data.String.Basic
import Provision.Proofs.Numerals
import Provision.Proofs.Overwriting
import Provision.Row

/-!
Documents as values. Every string of a value is a text. Of several members of one name the last one
counts, and the members that count are gone through in the order of their names. A member that is
nothing but a text, a truth, an integer or null can be the cell of a row.
-/

namespace Provision.Json

variable {α : Type}

namespace Literal

theorem isHalf_toNat (char : Char) : isHalf char.toNat = false := by
  have valid : char.toNat < 55296 ∨ 57343 < char.toNat ∧ char.toNat < 1114112 := char.valid
  simp only [isHalf, isHighHalf, isLowHalf, Bool.or_eq_false_iff, Bool.and_eq_false_iff,
    decide_eq_false_iff_not]
  omega

theorem lossy_ofString (text : String) : (ofString text).lossy = text := by
  simp [lossy, ofString, Function.comp_def, isHalf_toNat]

theorem toString?_ofString (text : String) : (ofString text).toString? = some text := by
  simp [toString?, ofString, Function.comp_def, isHalf_toNat]

theorem ofString_injective : Function.Injective ofString :=
  Function.LeftInverse.injective lossy_ofString

theorem codes_ofString_lt_iff {left right : String} :
    (ofString left).codes < (ofString right).codes ↔ left < right := by
  have climbs {left right : String} (before : left < right) :
      (ofString left).codes < (ofString right).codes :=
    List.map_lt (fun _ _ => id) (String.lt_iff.mp before)
  constructor
  · intro before
    rcases lt_trichotomy left right with earlier | rfl | later
    · exact earlier
    · exact absurd before (List.lt_irrefl _)
    · exact absurd (List.lt_trans before (climbs later)) (List.lt_irrefl _)
  · exact climbs

end Literal

/-! Members are put in their places one after the other. -/

def Ascending (members : List (Literal × α)) : Prop :=
  members.Pairwise fun left right => left.1.codes < right.1.codes

theorem mem_place_iff {placed : List (Literal × α)} (ascending : Ascending placed) {name : Literal}
    {value : α} {member : Literal × α} :
    member ∈ place name value placed ↔
      member = (name, value) ∨ member ∈ placed ∧ member.1 ≠ name := by
  induction placed with
  | nil => simp [place]
  | cons first rest ih =>
      obtain ⟨current, present⟩ := first
      obtain ⟨greater, ascending⟩ := List.pairwise_cons.mp ascending
      have apart : ∀ member ∈ rest, name.codes ≤ current.codes → member.1 ≠ name := by
        rintro member among least rfl
        exact absurd (greater member among) (not_lt_of_ge least)
      rw [place]
      split
      next same =>
        subst same
        simp only [List.mem_cons]
        constructor
        · rintro (rfl | among)
          · exact .inl rfl
          · exact .inr ⟨.inr among, apart member among le_rfl⟩
        · rintro (rfl | ⟨rfl | among, different⟩)
          · exact .inl rfl
          · exact absurd rfl different
          · exact .inr among
      next different =>
        split
        next before =>
          rw [List.mem_cons]
          refine or_congr_right ?_
          rw [iff_self_and]
          intro member
          rcases List.mem_cons.mp member with rfl | among
          · exact Ne.symm different
          · exact apart _ among before.le
        next =>
          rw [List.mem_cons, ih ascending, List.mem_cons]
          constructor
          · rintro (rfl | same | ⟨among, other⟩)
            · exact .inr ⟨.inl rfl, Ne.symm different⟩
            · exact .inl same
            · exact .inr ⟨.inr among, other⟩
          · rintro (same | ⟨rfl | among, other⟩)
            · exact .inr (.inl same)
            · exact .inl rfl
            · exact .inr (.inr ⟨among, other⟩)

theorem ascending_place {placed : List (Literal × α)} (ascending : Ascending placed)
    (name : Literal) (value : α) : Ascending (place name value placed) := by
  induction placed with
  | nil => exact List.pairwise_singleton _ _
  | cons first rest ih =>
      obtain ⟨current, present⟩ := first
      obtain ⟨greater, onward⟩ := List.pairwise_cons.mp ascending
      rw [place]
      split
      next same =>
        subst same
        exact List.pairwise_cons.mpr ⟨greater, onward⟩
      next different =>
        split
        next before =>
          refine List.pairwise_cons.mpr ⟨?_, ascending⟩
          intro member among
          rcases List.mem_cons.mp among with rfl | among
          · exact before
          · exact before.trans (greater member among)
        next behind =>
          refine List.pairwise_cons.mpr ⟨?_, ih onward⟩
          intro member among
          rcases (mem_place_iff onward).mp among with rfl | ⟨among, -⟩
          · refine lt_of_le_of_ne (le_of_not_gt behind) ?_
            intro same
            exact different (congrArg Literal.mk same.symm)
          · exact greater member among

theorem arranged_concat (members : List (Literal × α)) (added : Literal × α) :
    arranged (members ++ [added]) = place added.1 added.2 (arranged members) := by
  rw [arranged, List.foldl_append]
  rfl

theorem ascending_arranged (members : List (Literal × α)) : Ascending (arranged members) := by
  induction members using List.reverseRecOn with
  | nil => exact List.Pairwise.nil
  | append_singleton members added ih =>
      rw [arranged_concat]
      exact ascending_place ih added.1 added.2

theorem mem_arranged_iff {members : List (Literal × α)} {member : Literal × α} :
    member ∈ arranged members ↔ IsLast Prod.fst members member := by
  induction members using List.reverseRecOn with
  | nil => simp [arranged, IsLast.not_nil]
  | append_singleton members added ih =>
      rw [arranged_concat, mem_place_iff (ascending_arranged members), ih, IsLast.concat_iff]

/-- The members that count, in the order of their names. -/
structure InOrder (members ordered : List (String × α)) : Prop where
  ascending : ordered.Pairwise fun left right => left.1 < right.1
  counts {member : String × α} : member ∈ ordered ↔ IsLast Prod.fst members member

def spelled (member : String × α) : Literal × α := (.ofString member.1, member.2)

theorem spelled_injective : Function.Injective (@spelled α) := by
  intro left right same
  obtain ⟨name, value⟩ := Prod.mk.inj same
  exact Prod.ext (Literal.ofString_injective name) value

theorem exists_inOrder (members : List (String × α)) :
    ∃ ordered, InOrder members ordered ∧
      arranged (members.map spelled) = ordered.map spelled := by
  let ordered := (arranged (members.map spelled)).map fun member => (member.1.lossy, member.2)
  have same : arranged (members.map spelled) = ordered.map spelled := by
    rw [List.map_map]
    refine ((List.map_congr_left ?_).trans (List.map_id _)).symm
    intro member among
    obtain ⟨origin, -, rfl⟩ := List.mem_map.mp (mem_arranged_iff.mp among).mem
    simp [spelled, Literal.lossy_ofString]
  refine ⟨ordered, ⟨?_, ?_⟩, same⟩
  · have ascending := ascending_arranged (members.map spelled)
    rw [same] at ascending
    exact (List.pairwise_map.mp ascending).imp Literal.codes_ofString_lt_iff.mp
  · intro member
    rw [← List.mem_map_of_injective spelled_injective, ← same, mem_arranged_iff, IsLast.map_iff]
    constructor
    · rintro ⟨origin, last, named⟩
      obtain rfl := spelled_injective named
      exact (IsLast.comp_iff Literal.ofString_injective).mp last
    · intro last
      exact ⟨member, (IsLast.comp_iff Literal.ofString_injective).mpr last, rfl⟩

/-- Every string is a text. A document can also spell halves of characters, which no value has. -/
inductive Legible : Json → Prop
  | null : Legible null
  | bool (truth : Bool) : Legible (bool truth)
  | number (number : Number) : Legible (.number number)
  | string (text : String) : Legible (ofString text)
  | list {items : List Json} (each : ∀ item ∈ items, Legible item) : Legible (list items)
  | object {members : List (String × Json)} (each : ∀ member ∈ members, Legible member.2) :
      Legible (ofMembers members)

/-- The cell holds what the value is. -/
inductive Fills : Json → Cell → Prop
  | null : Fills null .null
  | bool (truth : Bool) : Fills (bool truth) (.bool truth)
  | string (text : String) : Fills (ofString text) (.text text)
  | int {number : Int} (word : Decimal.FitsWord number) : Fills (ofInt number) (.int number)

/-- No cell holds the value: it is a list or an object, or a number that is no word. -/
inductive Unfit : Json → ConversionCause → Prop
  | list (items : List Json) : Unfit (list items) (.unsupported (list items))
  | object (members : List (Literal × Json)) :
      Unfit (object members) (.unsupported (object members))
  | number {number : Number} (other : ∀ word, Decimal.FitsWord word → number ≠ .ofInt word) :
      Unfit (.number number) (.fractional number)

theorem Fills.cellOfJson_eq {json : Json} {cell : Cell} (fills : json.Fills cell) :
    Row.cellOfJson json = .ok cell := by
  cases fills with
  | null => rfl
  | bool truth => rfl
  | string text => simp [Row.cellOfJson, ofString, Literal.toString?_ofString]
  | int word => simp [Row.cellOfJson, ofInt, Number.toWord?_eq_some_iff.mpr ⟨rfl, word⟩]

theorem Unfit.cellOfJson_eq {json : Json} {cause : ConversionCause} (unfit : json.Unfit cause) :
    Row.cellOfJson json = .error cause := by
  cases unfit with
  | list items => rfl
  | object members => rfl
  | @number number other =>
      have none : number.toWord? = none := by
        cases found : number.toWord? with
        | none => rfl
        | some word =>
            obtain ⟨same, fits⟩ := Number.toWord?_eq_some_iff.mp found
            exact absurd same (other word fits)
      simp [Row.cellOfJson, none]

theorem Legible.fills_or_unfit {json : Json} (legible : json.Legible) :
    (∃ cell, json.Fills cell) ∨ ∃ cause, json.Unfit cause := by
  cases legible with
  | null => exact .inl ⟨_, .null⟩
  | bool truth => exact .inl ⟨_, .bool truth⟩
  | number number =>
      cases found : number.toWord? with
      | some word =>
          obtain ⟨rfl, fits⟩ := Number.toWord?_eq_some_iff.mp found
          exact .inl ⟨_, .int fits⟩
      | none =>
          refine .inr ⟨_, .number ?_⟩
          rintro word fits rfl
          simp [Number.toWord?_eq_some_iff.mpr ⟨rfl, fits⟩] at found
  | string text => exact .inl ⟨_, .string text⟩
  | list each => exact .inr ⟨_, .list _⟩
  | object each => exact .inr ⟨_, .object _⟩

theorem Fills.not_unfit {json : Json} {cell : Cell} {cause : ConversionCause}
    (fills : json.Fills cell) : ¬json.Unfit cause := by
  intro unfit
  have filled := fills.cellOfJson_eq
  simp [unfit.cellOfJson_eq] at filled

end Provision.Json
