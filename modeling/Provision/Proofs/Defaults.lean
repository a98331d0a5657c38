import Mathlib.Data.List.Nodup
import Provision.Proofs.SchemaValidity

/-!
What the defaults of a schema add to attributes. They keep what is set and add what is not, so the
order in which they are filled in is of no account and a second time adds nothing. As long as every
default may be set and inhabits its type, the attributes have the same faults with and without them.
-/

namespace Provision

namespace Table

variable {α : Type}

theorem get?_insertNew (table : Table α) (inserted key : String) (value : α) :
    (table.insertNew inserted value).get? key =
      (table.get? key).or (if key = inserted then some value else none) := by
  rw [insertNew]
  split
  next held =>
    obtain ⟨found, present⟩ := contains_iff.mp held
    by_cases same : key = inserted
    · simp [same, present]
    · simp [same]
  next missing =>
    have absent : table.get? inserted = none := by simpa [contains] using missing
    rw [get?_insert]
    by_cases same : key = inserted
    · simp [same, absent]
    · simp [same]

theorem entries_insertNew (table : Table α) (key : String) (value : α) :
    (table.insertNew key value).entries =
      table.entries ++ if table.contains key then [] else [(key, value)] := by
  rw [insertNew]
  split
  next => simp
  next missing =>
    exact entries_insert_of_get?_eq_none value (by simpa [contains] using missing)

theorem perm_iff {left right : Table α} :
    left.entries.Perm right.entries ↔ ∀ key, left.get? key = right.get? key := by
  have once (table : Table α) : table.entries.Nodup := List.Nodup.of_map _ table.distinct
  constructor
  · intro same key
    refine Option.ext fun value => ?_
    rw [get?_eq_some_iff, get?_eq_some_iff, same.mem_iff]
  · intro same
    refine (List.perm_ext_iff_of_nodup (once left) (once right)).mpr fun entry => ?_
    rw [← get?_eq_some_iff, ← get?_eq_some_iff, same]

end Table

namespace Schema

def fill (attributes : Attributes) (entry : String × Attribute) : Attributes :=
  match entry.2.default? with
  | some value => attributes.insertNew entry.1 value
  | none => attributes

theorem get?_fill (attributes : Attributes) (name key : String) (declared : Attribute) :
    (fill attributes (name, declared)).get? key =
      (attributes.get? key).or (if key = name then declared.default? else none) := by
  rw [fill]
  cases declared.default? with
  | none => simp
  | some value => exact Table.get?_insertNew attributes name key value

theorem get?_foldl_fill {entries : List (String × Attribute)}
    (distinct : (entries.map Prod.fst).Nodup) (attributes : Attributes) (key : String) :
    (entries.foldl fill attributes).get? key =
      (attributes.get? key).or ((firstOf key entries).bind Attribute.default?) := by
  -- What has been filled in stays, so the attributes to begin with are general.
  induction entries generalizing attributes with
  | nil => simp [firstOf]
  | cons entry rest ih =>
      obtain ⟨name, declared⟩ := entry
      rw [List.map_cons, List.nodup_cons] at distinct
      rw [List.foldl_cons, ih distinct.2, get?_fill]
      by_cases same : key = name
      · subst same
        have once : firstOf key rest = none := by
          cases found : firstOf key rest with
          | none => rfl
          | some other =>
              exact absurd (List.mem_map_of_mem (Table.mem_of_firstOf found)) distinct.1
        simp [firstOf, once]
      · simp [firstOf, same, Ne.symm same]

theorem get?_withDefaults (schema : Schema) (attributes : Attributes) (key : String) :
    (schema.withDefaults attributes).get? key =
      (attributes.get? key).or ((schema.attribute? key).bind Attribute.default?) :=
  get?_foldl_fill schema.attributes.distinct attributes key

section

variable {α : Type} {schema : Schema} {attributes : Attributes} {key : String} {value? : Option α}
  {default : α} {wrap : α → Value}

theorem get?_withDefaults_of_default
    (defaulted : (schema.attribute? key).bind Attribute.default? = some (wrap default))
    (set : attributes.get? key = value?.map wrap) :
    (schema.withDefaults attributes).get? key = some (wrap (value?.getD default)) := by
  rw [get?_withDefaults, defaulted, set]
  cases value? with
  | none => rfl
  | some value => rfl

theorem get?_withDefaults_of_none
    (undefaulted : (schema.attribute? key).bind Attribute.default? = none) :
    (schema.withDefaults attributes).get? key = attributes.get? key := by
  rw [get?_withDefaults, undefaulted, Option.or_none]

end

/-! The entries after a fill are those before it and the defaults that were missing. -/

/-- Every default may be set, and inhabits the type of its attribute. -/
def DefaultsFit (schema : Schema) : Prop :=
  ∀ {name : String} {declared : Attribute} {value : Value},
    schema.attribute? name = some declared → declared.default? = some value →
      declared.computed = false ∧ declared.type.fault? value = none

theorem entries_foldl_fill (entries : List (String × Attribute)) (attributes : Attributes) :
    ∃ added, (entries.foldl fill attributes).entries = attributes.entries ++ added ∧
      ∀ name value, (name, value) ∈ added →
        ∃ declared, (name, declared) ∈ entries ∧ declared.default? = some value := by
  induction entries generalizing attributes with
  | nil => exact ⟨[], by simp⟩
  | cons entry rest ih =>
      obtain ⟨key, declared⟩ := entry
      obtain ⟨added, split, defaults⟩ := ih (fill attributes (key, declared))
      have later : ∀ name value, (name, value) ∈ added →
          ∃ other, (name, other) ∈ (key, declared) :: rest ∧ other.default? = some value := by
        intro name value member
        obtain ⟨other, among, defaulted⟩ := defaults name value member
        exact ⟨other, List.mem_cons_of_mem _ among, defaulted⟩
      rw [List.foldl_cons, split, fill]
      cases defaulted : declared.default? with
      | none => exact ⟨added, rfl, later⟩
      | some default =>
          simp only [Table.entries_insertNew, List.append_assoc]
          refine ⟨_, rfl, fun name value member => ?_⟩
          rcases List.mem_append.mp member with first | member
          · split at first
            next => simp at first
            next =>
              obtain ⟨rfl, rfl⟩ := Prod.mk.inj (List.mem_singleton.mp first)
              exact ⟨declared, List.mem_cons_self, defaulted⟩
          · exact later name value member

theorem foldl_fill_eq_self {entries : List (String × Attribute)} {attributes : Attributes}
    (filled : ∀ name declared value, (name, declared) ∈ entries →
      declared.default? = some value → attributes.contains name) :
    entries.foldl fill attributes = attributes := by
  induction entries with
  | nil => rfl
  | cons entry rest ih =>
      obtain ⟨name, declared⟩ := entry
      have first : fill attributes (name, declared) = attributes := by
        rw [fill]
        cases defaulted : declared.default? with
        | none => rfl
        | some value =>
            have held := filled name declared value List.mem_cons_self defaulted
            exact if_pos held
      rw [List.foldl_cons, first]
      exact ih fun name declared value member =>
        filled name declared value (List.mem_cons_of_mem _ member)

variable (schema : Schema) (attributes : Attributes)

theorem withDefaults_withDefaults :
    schema.withDefaults (schema.withDefaults attributes) = schema.withDefaults attributes := by
  refine foldl_fill_eq_self fun name declared value member defaulted => ?_
  have known : schema.attribute? name = some declared :=
    (Table.get?_eq_some_iff schema.attributes).mpr member
  rw [Table.contains, get?_withDefaults, known, Option.bind_some, defaulted]
  cases attributes.get? name with
  | none => rfl
  | some own => rfl

variable {schema} {attributes} in
theorem perm_withDefaults {other : Schema} {reordered : Attributes}
    (sameSchema : other.attributes.entries.Perm schema.attributes.entries)
    (sameAttributes : reordered.entries.Perm attributes.entries) :
    (other.withDefaults reordered).entries.Perm (schema.withDefaults attributes).entries := by
  refine Table.perm_iff.mpr fun key => ?_
  rw [get?_withDefaults, get?_withDefaults, Table.perm_iff.mp sameAttributes, attribute?,
    Table.perm_iff.mp sameSchema, attribute?]

theorem missing_withDefaults :
    schema.missing (schema.withDefaults attributes) = schema.missing attributes := by
  rw [missing, missing]
  congr 1
  refine List.filter_congr fun entry member => ?_
  obtain ⟨name, declared⟩ := entry
  have known : schema.attribute? name = some declared :=
    (Table.get?_eq_some_iff schema.attributes).mpr member
  rw [Table.contains, get?_withDefaults, known, Option.bind_some, Table.contains]
  cases declared.default? with
  | none => rw [Option.or_none]
  | some value => simp

variable {schema} in
theorem misset_withDefaults (fits : schema.DefaultsFit) :
    schema.misset (schema.withDefaults attributes) = schema.misset attributes := by
  obtain ⟨added, split, defaults⟩ := entries_foldl_fill schema.attributes.entries attributes
  have faultless : added.filterMap (fun entry => schema.faultOf? entry.1 entry.2) = [] := by
    refine List.filterMap_eq_nil_iff.mpr fun (name, value) member => ?_
    obtain ⟨declared, among, defaulted⟩ := defaults name value member
    have known : schema.attribute? name = some declared :=
      (Table.get?_eq_some_iff schema.attributes).mpr among
    obtain ⟨settable, inhabits⟩ := fits known defaulted
    simp [faultOf?, known, settable, inhabits]
  show (schema.attributes.entries.foldl fill attributes).entries.filterMap _ = _
  rw [split, List.filterMap_append, faultless, List.append_nil, misset]

variable {schema} in
theorem faults_withDefaults (fits : schema.DefaultsFit) :
    schema.faults (schema.withDefaults attributes) = schema.faults attributes := by
  rw [faults, missing_withDefaults, misset_withDefaults attributes fits, faults]

variable {schema} {attributes} in
theorem perm_faults {other : Schema} {reordered : Attributes}
    (sameSchema : other.attributes.entries.Perm schema.attributes.entries)
    (sameAttributes : reordered.entries.Perm attributes.entries) :
    (other.faults reordered).Perm (schema.faults attributes) := by
  have missing : (other.missing reordered).Perm (schema.missing attributes) := by
    have contains (name : String) : reordered.contains name = attributes.contains name := by
      rw [Table.contains, Table.perm_iff.mp sameAttributes, Table.contains]
    simp only [Schema.missing, contains]
    exact (sameSchema.filter _).map _
  have misset : (other.misset reordered).Perm (schema.misset attributes) := by
    have fault (name : String) (value : Value) :
        other.faultOf? name value = schema.faultOf? name value := by
      rw [faultOf?, attribute?, Table.perm_iff.mp sameSchema, ← attribute?, faultOf?]
    simp only [Schema.misset, fault]
    exact sameAttributes.filterMap _
  have sorted (faults : List AttributeFault) : (byMessage faults).Perm faults :=
    List.mergeSort_perm faults _
  exact ((sorted _).trans (missing.trans (sorted _).symm)).append
    ((sorted _).trans (misset.trans (sorted _).symm))

end Schema

end Provision
