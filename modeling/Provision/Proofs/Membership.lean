import Provision.Proofs.SchemaValidity

/-!
Which values a type has, and where the fault of a value lies. A type has a value exactly when the
value is faultless. The fault of any other value leads into it, along items of lists and entries of
maps, to a value that is refused for itself; on the way it passes by items that are faultless.
-/

namespace Provision

/-- The type has the value. A check narrows down what its base has. -/
inductive AttributeType.Has : AttributeType → Value → Prop
  | string (text : String) : Has string (.string text)
  | int (number : Int) : Has int (.int number)
  | bool (truth : Bool) : Has bool (.bool truth)
  | custom {name : String} {base : AttributeType} {objection? : Value → Option String}
      {value : Value} (fits : Has base value) (unobjected : objection? value = none) :
      Has (custom name base objection?) value
  | list {item : AttributeType} {items : List Value} (each : ∀ value ∈ items, Has item value) :
      Has (list item) (.list items)
  | map {entry : AttributeType} {entries : List (String × Value)}
      (each : ∀ pair ∈ entries, Has entry pair.2) : Has (map entry) (.map entries)

inductive Step where
  | index (index : Nat)
  | key (key : String)

namespace TypeFault

def path : TypeFault → List Step
  | atIndex index inner => .index index :: inner.path
  | atKey key inner => .key key :: inner.path
  | mismatch _ _ | rejected _ => []

def leaf : TypeFault → TypeFault
  | atIndex _ inner | atKey _ inner => inner.leaf
  | mismatch expected got => mismatch expected got
  | rejected objection => rejected objection

end TypeFault

namespace AttributeType

/-- From a type and a value the path leads to a type that is expected and a value that is found. It
leads by no item of a list before which one is at fault. -/
inductive Leads : AttributeType → Value → List Step → AttributeType → Value → Prop
  | here {expected : AttributeType} {found : Value} : Leads expected found [] expected found
  | custom {name : String} {base expected : AttributeType} {objection? : Value → Option String}
      {value found : Value} {step : Step} {path : List Step}
      (onward : Leads base value (step :: path) expected found) :
      Leads (custom name base objection?) value (step :: path) expected found
  | index {item expected : AttributeType} {items : List Value} {index : Nat} {value found : Value}
      {path : List Step} (held : items[index]? = some value)
      (earlier : ∀ other ∈ items.take index, item.Has other)
      (onward : Leads item value path expected found) :
      Leads (list item) (.list items) (.index index :: path) expected found
  | key {entry expected : AttributeType} {entries : List (String × Value)} {key : String}
      {value found : Value} {path : List Step} (held : (key, value) ∈ entries)
      (onward : Leads entry value path expected found) :
      Leads (map entry) (.map entries) (.key key :: path) expected found

def kind? : AttributeType → Option String
  | string => some "String"
  | int => some "Int"
  | bool => some "Bool"
  | list _ => some "List"
  | map _ => some "Map"
  | custom _ _ _ => none

inductive Refuses : AttributeType → Value → TypeFault → Prop
  | mismatch {expected : AttributeType} {value : Value} {kind : String}
      (known : expected.kind? = some kind) (other : value.kind ≠ kind) :
      Refuses expected value (.mismatch expected.display value.kind)
  | base {name : String} {base : AttributeType} {objection? : Value → Option String}
      {value : Value} {fault : TypeFault} (refused : Refuses base value fault) :
      Refuses (custom name base objection?) value fault
  | rejected {name : String} {base : AttributeType} {objection? : Value → Option String}
      {value : Value} {objection : String} (fits : base.Has value)
      (objected : objection? value = some objection) :
      Refuses (custom name base objection?) value (.rejected objection)

theorem fault?_eq_none_iff {type : AttributeType} {value : Value} :
    type.fault? value = none ↔ type.Has value := by
  induction type generalizing value with
  | string =>
      cases value with
      | string text => exact iff_of_true rfl (.string text)
      | int | bool | list | map => exact iff_of_false (by simp [fault?]) (by rintro ⟨⟩)
  | int =>
      cases value with
      | int number => exact iff_of_true rfl (.int number)
      | string | bool | list | map => exact iff_of_false (by simp [fault?]) (by rintro ⟨⟩)
  | bool =>
      cases value with
      | bool truth => exact iff_of_true rfl (.bool truth)
      | string | int | list | map => exact iff_of_false (by simp [fault?]) (by rintro ⟨⟩)
  | custom name base objection? ih =>
      rw [fault?, Option.or_eq_none_iff, ih, Option.map_eq_none_iff]
      constructor
      · rintro ⟨fits, unobjected⟩
        exact .custom fits unobjected
      · intro has
        cases has with
        | custom fits unobjected => exact ⟨fits, unobjected⟩
  | list item ih =>
      cases value with
      | list items =>
          simp only [fault?, faultOfItems_eq_none_iff, ih]
          constructor
          · exact .list
          · intro has
            cases has with
            | list each => exact each
      | string | int | bool | map => exact iff_of_false (by simp [fault?]) (by rintro ⟨⟩)
  | map entry ih =>
      cases value with
      | map entries =>
          simp only [fault?, faultOfEntries_eq_none_iff, ih]
          constructor
          · exact .map
          · intro has
            cases has with
            | map each => exact each
      | string | int | bool | list => exact iff_of_false (by simp [fault?]) (by rintro ⟨⟩)

theorem faultOfItems_eq_some {fault? : Value → Option TypeFault} {items : List Value} {start : Nat}
    {fault : TypeFault} (failed : faultOfItems fault? start items = some fault) :
    ∃ index value inner, items[index]? = some value ∧ fault? value = some inner ∧
      (∀ other ∈ items.take index, fault? other = none) ∧
      fault = .atIndex (start + index) inner := by
  induction items generalizing start with
  | nil => simp [faultOfItems] at failed
  | cons item rest ih =>
      rw [faultOfItems] at failed
      cases faulty : fault? item with
      | some inner =>
          rw [faulty] at failed
          obtain rfl := Option.some.inj failed
          exact ⟨0, item, inner, rfl, faulty, by simp, rfl⟩
      | none =>
          rw [faulty] at failed
          obtain ⟨index, value, inner, held, faulty', earlier, rfl⟩ := ih failed
          refine ⟨index + 1, value, inner, by simpa using held, faulty', ?_, ?_⟩
          · simpa [faulty] using earlier
          · rw [Nat.add_right_comm, Nat.add_assoc]

theorem faultOfEntries_eq_some {fault? : Value → Option TypeFault}
    {entries : List (String × Value)} {fault : TypeFault}
    (failed : faultOfEntries fault? entries = some fault) :
    ∃ key value inner, (key, value) ∈ entries ∧ fault? value = some inner ∧
      fault = .atKey key inner := by
  induction entries with
  | nil => simp [faultOfEntries] at failed
  | cons entry rest ih =>
      obtain ⟨key, value⟩ := entry
      rw [faultOfEntries] at failed
      cases faulty : fault? value with
      | some inner =>
          rw [faulty] at failed
          obtain rfl := Option.some.inj failed
          exact ⟨key, value, inner, List.mem_cons_self, faulty, rfl⟩
      | none =>
          rw [faulty] at failed
          obtain ⟨key', value', inner, held, faulty', rfl⟩ := ih failed
          exact ⟨key', value', inner, List.mem_cons_of_mem _ held, faulty', rfl⟩

theorem fault?_eq_mismatch {type : AttributeType} {value : Value} {kind : String}
    (known : type.kind? = some kind) (other : value.kind ≠ kind) :
    type.fault? value = some (.mismatch type.display value.kind) := by
  unfold fault?
  split
  next => exact absurd (Option.some.inj known) other
  next => exact absurd (Option.some.inj known) other
  next => exact absurd (Option.some.inj known) other
  next => simp [kind?] at known
  next => exact absurd (Option.some.inj known) other
  next => exact absurd (Option.some.inj known) other
  next => rfl

theorem Refuses.fault?_eq {type : AttributeType} {value : Value} {fault : TypeFault}
    (refuses : type.Refuses value fault) : type.fault? value = some fault := by
  induction refuses with
  | mismatch known other => exact fault?_eq_mismatch known other
  | base _ ih => rw [fault?, ih, Option.some_or]
  | rejected fits objected =>
      rw [fault?, fault?_eq_none_iff.mpr fits, Option.none_or, objected, Option.map_some]

theorem exists_leads_mismatch {type : AttributeType} {value : Value} {kind : String}
    {fault : TypeFault} (known : type.kind? = some kind) (other : value.kind ≠ kind)
    (failed : type.fault? value = some fault) :
    ∃ expected found, type.Leads value fault.path expected found ∧
      expected.Refuses found fault.leaf := by
  obtain rfl := Option.some.inj ((fault?_eq_mismatch known other).symm.trans failed)
  exact ⟨type, value, .here, .mismatch known other⟩

theorem exists_leads {type : AttributeType} {value : Value} {fault : TypeFault}
    (failed : type.fault? value = some fault) :
    ∃ expected found, type.Leads value fault.path expected found ∧
      expected.Refuses found fault.leaf := by
  induction type generalizing value fault with
  | string =>
      cases value with
      | string text => simp [fault?] at failed
      | int | bool | list | map => exact exists_leads_mismatch rfl (by simp [Value.kind]) failed
  | int =>
      cases value with
      | int number => simp [fault?] at failed
      | string | bool | list | map => exact exists_leads_mismatch rfl (by simp [Value.kind]) failed
  | bool =>
      cases value with
      | bool truth => simp [fault?] at failed
      | string | int | list | map => exact exists_leads_mismatch rfl (by simp [Value.kind]) failed
  | custom name base objection? ih =>
      rw [fault?] at failed
      cases faulty : base.fault? value with
      | some inner =>
          rw [faulty, Option.some_or] at failed
          obtain rfl := Option.some.inj failed
          obtain ⟨expected, found, leads, refuses⟩ := ih faulty
          -- A path that goes nowhere ends at the checked type itself.
          cases onward : inner.path with
          | nil =>
              rw [onward] at leads
              cases leads with
              | here => exact ⟨_, value, .here, .base refuses⟩
          | cons step path =>
              rw [onward] at leads
              exact ⟨expected, found, .custom leads, refuses⟩
      | none =>
          rw [faulty, Option.none_or] at failed
          obtain ⟨objection, objected, rfl⟩ := Option.map_eq_some_iff.mp failed
          exact ⟨_, value, .here, .rejected (fault?_eq_none_iff.mp faulty) objected⟩
  | list item ih =>
      cases value with
      | list items =>
          obtain ⟨index, value, inner, held, faulty, earlier, rfl⟩ := faultOfItems_eq_some failed
          obtain ⟨expected, found, leads, refuses⟩ := ih faulty
          refine ⟨expected, found, ?_, refuses⟩
          rw [Nat.zero_add]
          exact .index held (fun other before => fault?_eq_none_iff.mp (earlier other before)) leads
      | string | int | bool | map => exact exists_leads_mismatch rfl (by simp [Value.kind]) failed
  | map entry ih =>
      cases value with
      | map entries =>
          obtain ⟨key, value, inner, held, faulty, rfl⟩ := faultOfEntries_eq_some failed
          obtain ⟨expected, found, leads, refuses⟩ := ih faulty
          exact ⟨expected, found, .key held leads, refuses⟩
      | string | int | bool | list => exact exists_leads_mismatch rfl (by simp [Value.kind]) failed

/-- A value without a fault is one that the type has. Any other value has a fault that leads to a
value within it which is refused for itself, by the type at that place and with the fault at the end
of the path. -/
theorem fault?_decides_and_locates (type : AttributeType) (value : Value) :
    match type.fault? value with
    | none => type.Has value
    | some fault => ¬type.Has value ∧ ∃ expected found,
        type.Leads value fault.path expected found ∧ expected.Refuses found fault.leaf ∧
          expected.fault? found = some fault.leaf := by
  split
  next faultless => exact fault?_eq_none_iff.mp faultless
  next fault failed =>
    obtain ⟨expected, found, leads, refuses⟩ := exists_leads failed
    refine ⟨fun has => ?_, expected, found, leads, refuses, refuses.fault?_eq⟩
    simp [fault?_eq_none_iff.mpr has] at failed

end AttributeType

end Provision
