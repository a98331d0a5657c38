import Provision.Proofs.Conversation

/-!
Which attributes a schema accepts. Nothing is wrong with attributes when those that are needed are
set, and when each that is set and declared is meant to be set and inhabits its type.
-/

namespace Provision

variable {α : Type}

namespace Table

theorem firstOf_of_mem {entries : List (String × α)} {key : String} {value : α}
    (distinct : (entries.map Prod.fst).Nodup) (member : (key, value) ∈ entries) :
    firstOf key entries = some value := by
  induction entries with
  | nil => simp at member
  | cons entry rest ih =>
      obtain ⟨name, held⟩ := entry
      rw [List.map_cons, List.nodup_cons] at distinct
      rcases List.mem_cons.mp member with same | later
      · obtain ⟨rfl, rfl⟩ := Prod.mk.inj same
        simp [firstOf]
      · have different : name ≠ key := by
          rintro rfl
          exact distinct.1 (List.mem_map.mpr ⟨(name, value), later, rfl⟩)
        simp only [firstOf, different, if_false]
        exact ih distinct.2 later

theorem mem_of_firstOf {entries : List (String × α)} {key : String} {value : α}
    (found : firstOf key entries = some value) : (key, value) ∈ entries := by
  induction entries with
  | nil => simp [firstOf] at found
  | cons entry rest ih =>
      obtain ⟨name, held⟩ := entry
      by_cases same : name = key
      · simp only [firstOf, same, if_true, Option.some.injEq] at found
        simp [same, found]
      · simp only [firstOf, same, if_false] at found
        exact List.mem_cons_of_mem _ (ih found)

theorem get?_eq_some_iff (table : Table α) {key : String} {value : α} :
    table.get? key = some value ↔ (key, value) ∈ table.entries :=
  ⟨mem_of_firstOf, firstOf_of_mem table.distinct⟩

theorem contains_iff {table : Table α} {key : String} :
    table.contains key ↔ ∃ value, table.get? key = some value :=
  Option.isSome_iff_exists

theorem not_mem_keys_iff {table : Table α} {key : String} :
    key ∉ table.keys ↔ table.get? key = none := by
  constructor
  · intro absent
    cases found : table.get? key with
    | none => rfl
    | some value =>
        exact absurd (List.mem_map_of_mem (f := Prod.fst) (mem_of_firstOf found)) absent
  · intro absent member
    obtain ⟨⟨name, value⟩, among, rfl⟩ := List.mem_map.mp member
    simp [(get?_eq_some_iff table).mpr among] at absent

theorem entries_insert_of_get?_eq_none {table : Table α} {key : String} (value : α)
    (absent : table.get? key = none) :
    (table.insert key value).entries = table.entries ++ [(key, value)] := by
  have others : (table.erase key).entries = table.entries := by
    refine List.filter_eq_self.mpr fun entry member => ?_
    simpa using ne_of_mem_of_not_mem (List.mem_map_of_mem member) (not_mem_keys_iff.mpr absent)
  show (table.erase key).entries ++ [(key, value)] = _
  rw [others]

end Table

namespace AttributeType

theorem fault?_string_eq_none_iff {value : Value} :
    string.fault? value = none ↔ ∃ text, value = .string text := by
  cases value with
  | string text => simp [fault?]
  | int | bool | list | map => simp [fault?]

theorem fault?_bool_eq_none_iff {value : Value} :
    bool.fault? value = none ↔ ∃ truth, value = .bool truth := by
  cases value with
  | bool truth => simp [fault?]
  | string | int | list | map => simp [fault?]

theorem fault?_positiveInt_eq_none_iff {value : Value} :
    positiveInt.fault? value = none ↔ ∃ number, value = .int number ∧ 0 < number := by
  cases value with
  | int number =>
      simp only [positiveInt, fault?, positiveObjection?]
      by_cases positive : number > 0
      · simp [positive]
      · simp [positive]
  | string | bool | list | map => simp [positiveInt, fault?]

theorem fault?_nonNegativeInt_eq_none_iff {value : Value} :
    nonNegativeInt.fault? value = none ↔ ∃ number, value = .int number ∧ 0 ≤ number := by
  cases value with
  | int number =>
      simp only [nonNegativeInt, fault?, nonNegativeObjection?]
      by_cases natural : number ≥ 0
      · simp [natural]
      · simp [natural]
  | string | bool | list | map => simp [nonNegativeInt, fault?]

theorem faultOfItems_eq_none_iff {fault? : Value → Option TypeFault} {items : List Value}
    (index : Nat) :
    faultOfItems fault? index items = none ↔ ∀ item ∈ items, fault? item = none := by
  induction items generalizing index with
  | nil => simp [faultOfItems]
  | cons item rest ih =>
      rw [faultOfItems, List.forall_mem_cons]
      cases fault? item with
      | some fault => simp
      | none => simpa using ih (index + 1)

theorem faultOfEntries_eq_none_iff {fault? : Value → Option TypeFault}
    {entries : List (String × Value)} :
    faultOfEntries fault? entries = none ↔ ∀ entry ∈ entries, fault? entry.2 = none := by
  induction entries with
  | nil => simp [faultOfEntries]
  | cons entry rest ih =>
      obtain ⟨key, value⟩ := entry
      rw [faultOfEntries, List.forall_mem_cons]
      cases fault? value with
      | some fault => simp
      | none => simpa using ih

end AttributeType

namespace Schema

variable {schema : Schema} {attributes : Attributes}

/-- The attributes that are needed are set, and those that are set may be so. -/
structure Accepts (schema : Schema) (attributes : Attributes) : Prop where
  needed {name : String} {declared : Attribute} :
    schema.attribute? name = some declared → declared.required → declared.default? = none →
      ∃ value, attributes.get? name = some value
  fits {name : String} {declared : Attribute} {value : Value} :
    schema.attribute? name = some declared → attributes.get? name = some value →
      declared.computed = false ∧ declared.type.fault? value = none

theorem byMessage_eq_nil_iff {faults : List AttributeFault} :
    byMessage faults = [] ↔ faults = [] := by
  -- Sorting is not unfolded: it loses no fault and adds none.
  have permuted : (byMessage faults).Perm faults := List.mergeSort_perm faults _
  constructor
  · intro sorted
    rw [sorted] at permuted
    exact permuted.nil_eq.symm
  · rintro rfl
    exact permuted.eq_nil

theorem faults_eq_nil_of (complete : schema.missing attributes = [])
    (sound : schema.misset attributes = []) : schema.faults attributes = [] := by
  rw [faults, complete, sound]
  exact List.append_eq_nil_iff.mpr
    ⟨byMessage_eq_nil_iff.mpr rfl, byMessage_eq_nil_iff.mpr rfl⟩

theorem missing_eq_nil_iff :
    schema.missing attributes = [] ↔
      ∀ name declared, schema.attribute? name = some declared → declared.required →
        declared.default? = none → ∃ value, attributes.get? name = some value := by
  simp only [missing, List.map_eq_nil_iff, List.filter_eq_nil_iff, Prod.forall, attribute?,
    Table.get?_eq_some_iff schema.attributes, ← Table.contains_iff]
  constructor
  · intro complete name declared member needed undefaulted
    have := complete name declared member
    simpa [needed, undefaulted] using this
  · intro complete name declared member
    simp only [Bool.and_eq_true, Bool.not_eq_true', Option.isNone_iff_eq_none, not_and]
    rintro ⟨needed, unset⟩ undefaulted
    simp [complete name declared member needed undefaulted] at unset

theorem misset_eq_nil_iff :
    schema.misset attributes = [] ↔
      ∀ name declared value, schema.attribute? name = some declared →
        attributes.get? name = some value →
          declared.computed = false ∧ declared.type.fault? value = none := by
  simp only [misset, List.filterMap_eq_nil_iff, Prod.forall,
    ← Table.get?_eq_some_iff attributes, faultOf?]
  constructor
  · intro sound name declared value known set
    have := sound name value set
    rw [known] at this
    cases computed : declared.computed with
    | true => simp [computed] at this
    | false => simpa [computed] using this
  · intro sound name value set
    cases known : schema.attribute? name with
    | none => rfl
    | some declared =>
        obtain ⟨settable, fits⟩ := sound name declared value known set
        simp [settable, fits]

theorem faults_eq_nil_iff : schema.faults attributes = [] ↔ schema.Accepts attributes := by
  simp only [faults, List.append_eq_nil_iff, byMessage_eq_nil_iff, missing_eq_nil_iff,
    misset_eq_nil_iff]
  exact ⟨fun ⟨complete, sound⟩ => ⟨complete _ _, sound _ _ _⟩,
    fun accepted => ⟨fun _ _ => accepted.needed, fun _ _ _ => accepted.fits⟩⟩

theorem Accepts.optional {key : String}
    {declared : Attribute} {wrap : α → Value} (accepted : schema.Accepts attributes)
    (known : schema.attribute? key = some declared)
    (inhabits : ∀ value, declared.type.fault? value = none → ∃ inner, value = wrap inner) :
    ∃ value? : Option α, attributes.get? key = value?.map wrap := by
  cases set : attributes.get? key with
  | none => exact ⟨none, rfl⟩
  | some value =>
      obtain ⟨inner, rfl⟩ := inhabits value (accepted.fits known set).2
      exact ⟨some inner, rfl⟩

theorem Accepts.positive {key : String}
    {declared : Attribute} (accepted : schema.Accepts attributes)
    (known : schema.attribute? key = some declared) (needed : declared.required)
    (undefaulted : declared.default? = none) (typed : declared.type = .positiveInt) :
    ∃ number, attributes.get? key = some (.int number) := by
  obtain ⟨value, set⟩ := accepted.needed known needed undefaulted
  have fits := (accepted.fits known set).2
  rw [typed] at fits
  obtain ⟨number, rfl, -⟩ := AttributeType.fault?_positiveInt_eq_none_iff.mp fits
  exact ⟨number, set⟩

theorem Accepts.pos_of_get? {key : String} {declared : Attribute} {number : Int}
    (accepted : schema.Accepts attributes) (known : schema.attribute? key = some declared)
    (typed : declared.type = .positiveInt) (set : attributes.get? key = some (.int number)) :
    0 < number := by
  have fits := (accepted.fits known set).2
  rw [typed] at fits
  obtain ⟨_, same, above⟩ := AttributeType.fault?_positiveInt_eq_none_iff.mp fits
  obtain rfl := Value.int.inj same
  exact above

theorem mem_replacing {name : String} {declared : Attribute}
    (known : schema.attribute? name = some declared) (replaces : declared.replaces) :
    name ∈ schema.replacing := by
  have member := Table.mem_of_firstOf known
  exact List.mem_mergeSort.mpr
    (List.mem_map.mpr ⟨(name, declared), List.mem_filter.mpr ⟨member, replaces⟩, rfl⟩)

end Schema

theorem Operation.valid_eq_ok_iff {schema : Schema} {attributes : Attributes} :
    valid schema attributes = .ok () ↔ schema.Accepts attributes := by
  rw [← Schema.faults_eq_nil_iff, valid]
  split
  next none => simp [none]
  next found => exact iff_of_false (by simp) found

theorem Operation.valid_eq_error_iff {schema : Schema} {attributes : Attributes}
    {cause : FaultCause} :
    valid schema attributes = .error cause ↔
      cause = .invalidAttributes (schema.faults attributes) ∧ schema.faults attributes ≠ [] := by
  cases found : schema.faults attributes with
  | nil => simp [valid, found]
  | cons first rest => simp [valid, found, eq_comm]

end Provision
