import Mathlib.Data.List.Induction
import Provision.Proofs.SchemaValidity

/-!
Of several entries of one key the last one counts. A table into which entries are written one after
the other holds under each key what the last entry of that key says.
-/

namespace Provision

variable {α β κ ι : Type}

/-- No later item has the key of this one. -/
def IsLast (key : α → κ) (items : List α) (item : α) : Prop :=
  ∃ earlier later, items = earlier ++ item :: later ∧ ∀ other ∈ later, key other ≠ key item

namespace IsLast

variable {key : α → κ} {items : List α} {item added : α}

theorem mem (last : IsLast key items item) : item ∈ items := by
  obtain ⟨earlier, later, rfl, -⟩ := last
  simp

theorem not_nil : ¬IsLast key [] item := by
  intro last
  simpa using last.mem

theorem concat_iff :
    IsLast key (items ++ [added]) item ↔
      item = added ∨ IsLast key items item ∧ key item ≠ key added := by
  constructor
  · rintro ⟨earlier, later, split, alone⟩
    rcases List.eq_nil_or_concat later with rfl | ⟨front, final, rfl⟩
    · obtain ⟨-, same⟩ := List.append_inj' split rfl
      exact .inl (List.singleton_inj.mp same).symm
    · rw [List.concat_eq_append, ← List.cons_append, ← List.append_assoc] at split
      obtain ⟨rfl, same⟩ := List.append_inj' split rfl
      obtain rfl := List.singleton_inj.mp same
      refine .inr ⟨⟨earlier, front, rfl, ?_⟩, ?_⟩
      · intro between member
        exact alone between (by simp [member])
      · exact (alone added (by simp)).symm
  · rintro (rfl | ⟨⟨earlier, later, rfl, alone⟩, different⟩)
    · exact ⟨items, [], rfl, by simp⟩
    · refine ⟨earlier, later ++ [added], by simp, ?_⟩
      intro after member
      rcases List.mem_append.mp member with between | final
      · exact alone after between
      · rw [List.mem_singleton.mp final]
        exact Ne.symm different

theorem exists_of_mem (key : α → κ) (member : item ∈ items) :
    ∃ last, IsLast key items last ∧ key last = key item := by
  induction items using List.reverseRecOn with
  | nil => simp at member
  | append_singleton items added ih =>
      by_cases same : key item = key added
      · exact ⟨added, concat_iff.mpr (.inl rfl), same.symm⟩
      · have among : item ∈ items := by
          rcases List.mem_append.mp member with among | final
          · exact among
          · exact absurd (congrArg key (List.mem_singleton.mp final)) same
        obtain ⟨last, isLast, keyed⟩ := ih among
        refine ⟨last, concat_iff.mpr (.inr ⟨isLast, ?_⟩), keyed⟩
        rw [keyed]
        exact same

theorem map_iff {image : β} {key : β → κ} {change : α → β} :
    IsLast key (items.map change) image ↔
      ∃ item, IsLast (key ∘ change) items item ∧ change item = image := by
  constructor
  · rintro ⟨earlier, later, split, alone⟩
    obtain ⟨front, rest, rfl, rfl, onward⟩ := List.map_eq_append_iff.mp split
    obtain ⟨item, back, rfl, rfl, rfl⟩ := List.map_eq_cons_iff.mp onward
    refine ⟨item, ⟨front, back, rfl, ?_⟩, rfl⟩
    intro other member
    exact alone (change other) (List.mem_map_of_mem member)
  · rintro ⟨item, ⟨earlier, later, rfl, alone⟩, rfl⟩
    refine ⟨earlier.map change, later.map change, by simp, ?_⟩
    intro other member
    obtain ⟨origin, among, rfl⟩ := List.mem_map.mp member
    exact alone origin among

theorem comp_iff {rename : κ → ι} (injective : Function.Injective rename) :
    IsLast (rename ∘ key) items item ↔ IsLast key items item := by
  simp only [IsLast, Function.comp_apply, injective.ne_iff]

end IsLast

namespace Table

theorem ofList_concat (entries : List (String × α)) (added : String × α) :
    ofList (entries ++ [added]) = (ofList entries).insert added.1 added.2 := by
  rw [ofList, List.foldl_append]
  rfl

theorem get?_ofList_eq_some_iff {entries : List (String × α)} {name : String} {value : α} :
    (ofList entries).get? name = some value ↔ IsLast Prod.fst entries (name, value) := by
  induction entries using List.reverseRecOn with
  | nil => simp [ofList, IsLast.not_nil]
  | append_singleton entries added ih =>
      rw [ofList_concat, get?_insert, IsLast.concat_iff, ← ih]
      by_cases same : name = added.1
      · simp [same, Prod.ext_iff, eq_comm]
      · simp [same, Prod.ext_iff]

theorem get?_ofList_of_nodup {entries : List (String × α)}
    (distinct : (entries.map Prod.fst).Nodup) (key : String) :
    (ofList entries).get? key = firstOf key entries := by
  induction entries using List.reverseRecOn with
  | nil => rfl
  | append_singleton entries added ih =>
      rw [List.map_append, List.nodup_append] at distinct
      obtain ⟨others, -, apart⟩ := distinct
      rw [ofList_concat, get?_insert, ih others, firstOf_append]
      by_cases same : key = added.1
      · have missing : firstOf key entries = none := by
          cases found : firstOf key entries with
          | none => rfl
          | some value =>
              have member := List.mem_map_of_mem (f := Prod.fst) (mem_of_firstOf found)
              exact absurd same (apart key member added.1 (by simp))
        rw [if_pos same, missing, Option.none_or, firstOf, if_pos same.symm]
      · rw [if_neg same, firstOf, if_neg (Ne.symm same), firstOf, Option.or_none]

theorem get?_ofList_map_eq_some_iff (named : β → String) (worth : β → α) {items : List β}
    {name : String} {value : α} :
    (ofList (items.map fun item => (named item, worth item))).get? name = some value ↔
      ∃ item, IsLast named items item ∧ named item = name ∧ worth item = value := by
  simp only [get?_ofList_eq_some_iff, IsLast.map_iff, Prod.mk.injEq]
  rfl

end Table

end Provision
