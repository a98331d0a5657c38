import Mathlib.Data.List.Perm.Basic
import Provision.Proofs.Defaults
import Provision.Proofs.Diagnosis
import Provision.Proofs.Membership
import Provision.Proofs.Overwriting

/-!
What is wrong with attributes under a schema. An attribute that is needed is missing, or one that is
set is computed or has a value that its type has not. Each such name is reported once, in whatever
order the schema and the attributes are gone through.
-/

namespace Provision

variable {α β ι : Type}

theorem Enumerates.perm {holds : ι → α → Prop} {results reordered : List α}
    (enumerates : Enumerates (· ≠ ·) holds results) (same : reordered.Perm results) :
    Enumerates (· ≠ ·) holds reordered := by
  obtain ⟨found, rfl, apart, exact⟩ := enumerates
  obtain ⟨moved, rfl, shuffled⟩ :
      Relation.Comp (· = List.map Prod.snd ·) List.Perm reordered found := by
    rw [List.eq_map_comp_perm]
    exact same
  refine ⟨moved, rfl, ?_, ?_⟩
  · exact (shuffled.pairwise_iff Ne.symm).mpr apart
  · intro place result
    rw [shuffled.mem_iff]
    exact exact place result

theorem Table.enumerates (table : Table α) (choose : String × α → Option β) :
    Enumerates (· ≠ ·)
      (fun name result => ∃ value, table.get? name = some value ∧
        choose (name, value) = some result)
      (table.entries.filterMap choose) := by
  refine ⟨table.entries.filterMap fun entry => (choose entry).map (entry.1, ·), ?_, ?_, ?_⟩
  · rw [List.map_filterMap]
    congr 1
    funext entry
    cases choose entry with
    | none => rfl
    | some result => rfl
  · have apart : table.entries.Pairwise fun left right => left.1 ≠ right.1 :=
      List.pairwise_map.mp table.distinct
    refine apart.filterMap _ ?_
    intro left right different place first place' second
    obtain ⟨result, -, rfl⟩ := Option.map_eq_some_iff.mp first
    obtain ⟨result', -, rfl⟩ := Option.map_eq_some_iff.mp second
    exact different
  · intro name result
    rw [List.mem_filterMap]
    constructor
    · rintro ⟨⟨key, value⟩, member, chosen⟩
      obtain ⟨picked, found, same⟩ := Option.map_eq_some_iff.mp chosen
      obtain ⟨rfl, rfl⟩ := Prod.mk.inj same
      exact ⟨value, (get?_eq_some_iff table).mpr member, found⟩
    · rintro ⟨value, held, found⟩
      exact ⟨(name, value), (get?_eq_some_iff table).mp held, by rw [found]; rfl⟩

namespace Schema

variable {name : String} {declared : Attribute}

theorem attribute?_ofAttributes_eq_some_iff {resourceType : String}
    {declarations : List Attribute} :
    (ofAttributes resourceType declarations).attribute? name = some declared ↔
      IsLast Attribute.name declarations declared ∧ declared.name = name := by
  refine (Table.get?_ofList_map_eq_some_iff Attribute.name id).trans ?_
  constructor
  · rintro ⟨item, last, named, rfl⟩
    exact ⟨last, named⟩
  · rintro ⟨last, named⟩
    exact ⟨declared, last, named, rfl⟩

/-- Something is wrong at the name. Of several declarations of one name the last one counts. -/
inductive Offends (declarations : List Attribute) (attributes : Attributes) :
    String → AttributeFault → Prop
  | missing {declared : Attribute} (last : IsLast Attribute.name declarations declared)
      (needed : declared.required) (undefaulted : declared.default? = none)
      (unset : attributes.get? declared.name = none) :
      Offends declarations attributes declared.name (.missing declared.name)
  | computed {declared : Attribute} {value : Value}
      (last : IsLast Attribute.name declarations declared) (reported : declared.computed)
      (set : attributes.get? declared.name = some value) :
      Offends declarations attributes declared.name (.computed declared.name)
  | illTyped {declared : Attribute} {value : Value} {fault : TypeFault}
      (last : IsLast Attribute.name declarations declared) (settable : declared.computed = false)
      (set : attributes.get? declared.name = some value) (unfit : ¬declared.type.Has value)
      (faulty : declared.type.fault? value = some fault) :
      Offends declarations attributes declared.name (.illTyped fault)

def missingOf? (attributes : Attributes) (entry : String × Attribute) : Option AttributeFault :=
  if entry.2.required && !attributes.contains entry.1 && entry.2.default?.isNone then
    some (.missing entry.1)
  else none

theorem missing_eq_filterMap (schema : Schema) (attributes : Attributes) :
    schema.missing attributes = schema.attributes.entries.filterMap (missingOf? attributes) := by
  rw [missing, ← List.filterMap_eq_map, List.filterMap_filter]
  rfl

theorem missingOf?_eq_some_iff {attributes : Attributes} {fault : AttributeFault} :
    missingOf? attributes (name, declared) = some fault ↔
      declared.required ∧ declared.default? = none ∧ attributes.get? name = none ∧
        fault = .missing name := by
  rw [missingOf?]
  split
  next holds =>
    simp only [Bool.and_eq_true, Bool.not_eq_true', Option.isNone_iff_eq_none, Table.contains,
      Option.isSome_eq_false_iff] at holds
    obtain ⟨⟨needed, unset⟩, undefaulted⟩ := holds
    simp [needed, unset, undefaulted, eq_comm]
  next fails =>
    refine iff_of_false (by simp) ?_
    rintro ⟨needed, undefaulted, unset, -⟩
    simp [needed, undefaulted, unset, Table.contains] at fails

theorem faultOf?_eq_some_iff {schema : Schema} {value : Value} {fault : AttributeFault} :
    schema.faultOf? name value = some fault ↔
      ∃ declared, schema.attribute? name = some declared ∧
        (declared.computed ∧ fault = .computed name ∨
          declared.computed = false ∧
            ∃ inner, declared.type.fault? value = some inner ∧ fault = .illTyped inner) := by
  rw [faultOf?]
  cases known : schema.attribute? name with
  | none => simp
  | some declared =>
      simp only [Option.some.injEq, exists_eq_left']
      split
      next reported =>
        constructor
        · intro found
          exact .inl ⟨reported, (Option.some.inj found).symm⟩
        · rintro (⟨-, rfl⟩ | ⟨settable, -⟩)
          · rfl
          · exact absurd reported (by simp [settable])
      next settable =>
        constructor
        · intro found
          obtain ⟨inner, faulty, rfl⟩ := Option.map_eq_some_iff.mp found
          exact .inr ⟨by simpa using settable, inner, faulty, rfl⟩
        · rintro (⟨reported, -⟩ | ⟨-, inner, faulty, rfl⟩)
          · exact absurd reported settable
          · exact Option.map_eq_some_iff.mpr ⟨inner, faulty, rfl⟩

theorem perm_byMessage (faults : List AttributeFault) : (byMessage faults).Perm faults :=
  List.mergeSort_perm faults _

variable (resourceType : String) (declarations : List Attribute) (attributes : Attributes)

theorem enumerates_missing :
    Enumerates (· ≠ ·)
      (fun name fault => Offends declarations attributes name fault ∧ attributes.get? name = none)
      ((ofAttributes resourceType declarations).missing attributes) := by
  rw [missing_eq_filterMap]
  refine (Table.enumerates _ _).congr ?_
  intro name fault
  constructor
  · rintro ⟨declared, known, lacking⟩
    obtain ⟨last, rfl⟩ := attribute?_ofAttributes_eq_some_iff.mp known
    obtain ⟨needed, undefaulted, unset, rfl⟩ := missingOf?_eq_some_iff.mp lacking
    exact ⟨.missing last needed undefaulted unset, unset⟩
  · rintro ⟨offends, unset⟩
    cases offends with
    | missing last needed undefaulted _ =>
        exact ⟨_, attribute?_ofAttributes_eq_some_iff.mpr ⟨last, rfl⟩,
          missingOf?_eq_some_iff.mpr ⟨needed, undefaulted, unset, rfl⟩⟩
    | computed _ _ set => simp [unset] at set
    | illTyped _ _ set _ _ => simp [unset] at set

theorem enumerates_misset :
    Enumerates (· ≠ ·)
      (fun name fault => Offends declarations attributes name fault ∧
        ∃ value, attributes.get? name = some value)
      ((ofAttributes resourceType declarations).misset attributes) := by
  refine (Table.enumerates attributes _).congr ?_
  intro name fault
  constructor
  · rintro ⟨value, set, faulty⟩
    obtain ⟨declared, known, cases⟩ := faultOf?_eq_some_iff.mp faulty
    obtain ⟨last, rfl⟩ := attribute?_ofAttributes_eq_some_iff.mp known
    rcases cases with ⟨reported, rfl⟩ | ⟨settable, inner, found, rfl⟩
    · exact ⟨.computed last reported set, value, set⟩
    · have unfit : ¬declared.type.Has value := by
        intro has
        simp [AttributeType.fault?_eq_none_iff.mpr has] at found
      exact ⟨.illTyped last settable set unfit found, value, set⟩
  · rintro ⟨offends, value, set⟩
    refine ⟨value, set, faultOf?_eq_some_iff.mpr ?_⟩
    cases offends with
    | missing _ _ _ unset => simp [unset] at set
    | computed last reported _ =>
        exact ⟨_, attribute?_ofAttributes_eq_some_iff.mpr ⟨last, rfl⟩, .inl ⟨reported, rfl⟩⟩
    | illTyped last settable set' _ faulty =>
        obtain rfl := Option.some.inj (set'.symm.trans set)
        exact ⟨_, attribute?_ofAttributes_eq_some_iff.mpr ⟨last, rfl⟩,
          .inr ⟨settable, _, faulty, rfl⟩⟩

theorem enumerates_faults :
    Enumerates (· ≠ ·) (Offends declarations attributes)
      ((ofAttributes resourceType declarations).faults attributes) := by
  have missing := (enumerates_missing resourceType declarations attributes).perm (perm_byMessage _)
  have misset := (enumerates_misset resourceType declarations attributes).perm (perm_byMessage _)
  refine (missing.append misset ?_).congr ?_
  · rintro name fault name' fault' ⟨-, unset⟩ ⟨-, value, set⟩ rfl
    simp [unset] at set
  · intro name fault
    constructor
    · rintro (⟨offends, -⟩ | ⟨offends, -⟩)
      · exact offends
      · exact offends
    · intro offends
      cases set : attributes.get? name with
      | none => exact .inl ⟨offends, rfl⟩
      | some value => exact .inr ⟨offends, value, rfl⟩

theorem exists_missing_append (schema : Schema) (attributes : Attributes) :
    ∃ missing others, schema.faults attributes = missing ++ others ∧
      (∀ fault ∈ missing, ∃ name, fault = .missing name) ∧
      ∀ fault ∈ others, ∀ name, fault ≠ .missing name := by
  refine ⟨byMessage (schema.missing attributes), byMessage (schema.misset attributes), rfl, ?_, ?_⟩
  · intro fault member
    rw [(perm_byMessage _).mem_iff, missing_eq_filterMap, List.mem_filterMap] at member
    obtain ⟨⟨name, declared⟩, -, lacking⟩ := member
    obtain ⟨-, -, -, rfl⟩ := missingOf?_eq_some_iff.mp lacking
    exact ⟨name, rfl⟩
  · intro fault member name same
    subst same
    rw [(perm_byMessage _).mem_iff, misset, List.mem_filterMap] at member
    obtain ⟨⟨key, value⟩, -, faulty⟩ := member
    obtain ⟨declared, -, ⟨-, impossible⟩ | ⟨-, inner, -, impossible⟩⟩ :=
      faultOf?_eq_some_iff.mp faulty
    · exact AttributeFault.noConfusion impossible
    · exact AttributeFault.noConfusion impossible

/-- The faults say what is wrong at each name, each name once, and what is missing comes first. They
are the same faults in whatever order the schema and the attributes are gone through, and there is
none exactly when the attributes are accepted. -/
theorem offences_reported_once (resourceType : String) (declarations : List Attribute)
    (attributes : Attributes) :
    let schema := ofAttributes resourceType declarations
    Enumerates (· ≠ ·) (Offends declarations attributes) (schema.faults attributes) ∧
    (∀ declared value, IsLast Attribute.name declarations declared → declared.computed = false →
      attributes.get? declared.name = some value → ¬declared.type.Has value →
        ∃ fault, Offends declarations attributes declared.name (.illTyped fault)) ∧
    (∃ missing others, schema.faults attributes = missing ++ others ∧
      (∀ fault ∈ missing, ∃ name, fault = .missing name) ∧
      ∀ fault ∈ others, ∀ name, fault ≠ .missing name) ∧
    (∀ (other : Schema) (reordered : Attributes),
      other.attributes.entries.Perm schema.attributes.entries →
        reordered.entries.Perm attributes.entries →
          (other.faults reordered).Perm (schema.faults attributes)) ∧
    (Operation.valid schema attributes = .ok () ↔
      ∀ name fault, ¬Offends declarations attributes name fault) := by
  intro schema
  have enumerates : Enumerates (· ≠ ·) (Offends declarations attributes)
      (schema.faults attributes) := enumerates_faults resourceType declarations attributes
  refine ⟨enumerates, ?_, exists_missing_append schema attributes, ?_, ?_⟩
  · intro declared value last settable set unfit
    cases faulty : declared.type.fault? value with
    | none => exact absurd (AttributeType.fault?_eq_none_iff.mp faulty) unfit
    | some fault => exact ⟨fault, .illTyped last settable set unfit faulty⟩
  · intro other reordered sameSchema sameAttributes
    exact perm_faults sameSchema sameAttributes
  · rw [Operation.valid_eq_ok_iff, ← faults_eq_nil_iff]
    obtain ⟨found, listed, -, exact⟩ := enumerates
    constructor
    · intro none name fault offends
      rw [none, List.map_eq_nil_iff] at listed
      have member := (exact name fault).mpr offends
      simp [listed] at member
    · intro nowhere
      rw [← listed, List.map_eq_nil_iff, List.eq_nil_iff_forall_not_mem]
      intro place member
      exact nowhere place.1 place.2 ((exact _ _).mp member)

end Schema

end Provision
