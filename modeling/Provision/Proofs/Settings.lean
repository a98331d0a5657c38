import Mathlib
import Provision.Proofs.Conversation
import Provision.Proofs.WrittenDocuments
import Provision.Provider.Config

/-!
Settings from attributes and from a document. A document that lists the attributes as its members,
in whatever order and layout, is read as a configuration exactly if the attributes are, and as the
same one. Neither reader looks at the members or attributes that are no setting.
-/

namespace Provision

theorem toOption_eq_some_iff {ε α : Type} {result : Except ε α} {value : α} :
    result.toOption = some value ↔ result = .ok value := by
  cases result <;> simp [Except.toOption]

namespace Value

theorem asString?_eq_some_iff {value : Value} {text : String} :
    value.asString? = some text ↔ value = string text := by
  cases value <;> simp [asString?]

theorem asInt?_eq_some_iff {value : Value} {number : Int} :
    value.asInt? = some number ↔ value = int number := by
  cases value <;> simp [asInt?]

theorem asBool?_eq_some_iff {value : Value} {truth : Bool} :
    value.asBool? = some truth ↔ value = bool truth := by
  cases value <;> simp [asBool?]

mutual

def toJson : Value → Json
  | string text => .ofString text
  | int number => .ofInt number
  | bool truth => .bool truth
  | list items => .list (itemsToJson items)
  | map entries => .object (Json.arranged ((entriesToJson entries).map Json.spelled))

def itemsToJson : List Value → List Json
  | [] => []
  | item :: rest => item.toJson :: itemsToJson rest

def entriesToJson : List (String × Value) → List (String × Json)
  | [] => []
  | (name, value) :: rest => (name, value.toJson) :: entriesToJson rest

end

/-- Integers are of 64 bits, however deep in the value they are. -/
inductive Worded : Value → Prop
  | string (text : String) : Worded (string text)
  | int {number : Int} (word : Decimal.FitsWord number) : Worded (int number)
  | bool (truth : Bool) : Worded (bool truth)
  | list {items : List Value} (each : ∀ item ∈ items, Worded item) : Worded (list items)
  | map {entries : List (String × Value)} (each : ∀ entry ∈ entries, Worded entry.2) :
      Worded (map entries)

theorem itemsToJson_eq_map (items : List Value) : itemsToJson items = items.map toJson := by
  induction items with
  | nil => rfl
  | cons item rest ih => rw [itemsToJson, ih, List.map_cons]

theorem entriesToJson_eq_map (entries : List (String × Value)) :
    entriesToJson entries = entries.map fun entry => (entry.1, entry.2.toJson) := by
  induction entries with
  | nil => rfl
  | cons entry rest ih => rw [entriesToJson, ih, List.map_cons]

theorem Worded.normal_toJson {value : Value} (worded : value.Worded) : value.toJson.Normal := by
  induction worded with
  | string text => exact .string text
  | int word => exact .int word
  | bool truth => exact .bool truth
  | list each ih =>
      rw [toJson, itemsToJson_eq_map]
      refine .list ?_
      simpa using ih
  | @map entries each ih =>
      obtain ⟨ordered, inOrder, same⟩ := Json.exists_inOrder (entriesToJson entries)
      rw [toJson, same]
      refine .object inOrder.ascending ?_
      intro member among
      have listed := (inOrder.counts.mp among).mem
      rw [entriesToJson_eq_map] at listed
      obtain ⟨entry, within, rfl⟩ := List.mem_map.mp listed
      exact ih entry within

/-- The document is of the kind of the value. A text, a number or a truth value is the same one;
what is in a list or a map is left open, as no setting is a list or a map. -/
inductive Resembles : Value → Json → Prop
  | string (text : String) : Resembles (string text) (.ofString text)
  | int (number : Int) : Resembles (int number) (.ofInt number)
  | bool (truth : Bool) : Resembles (bool truth) (.bool truth)
  | list (items : List Value) (jsons : List Json) : Resembles (list items) (.list jsons)
  | map (entries : List (String × Value)) (members : List (Json.Literal × Json)) :
      Resembles (map entries) (.object members)

theorem resembles_toJson (value : Value) : value.Resembles value.toJson := by
  cases value with
  | string text => exact .string text
  | int number => exact .int number
  | bool truth => exact .bool truth
  | list items => exact .list items _
  | map entries => exact .map entries _

end Value

namespace Attributes

def toJson (attributes : Attributes) : Json := (Value.map attributes.entries).toJson

structure ListedBy (attributes : Attributes) (members : List (String × Json)) : Prop where
  distinct : (members.map Prod.fst).Nodup
  held : ∀ member ∈ members, ∃ value,
    attributes.get? member.1 = some value ∧ value.Resembles member.2
  listed : ∀ name value, attributes.get? name = some value → ∃ json, (name, json) ∈ members

theorem exists_listedBy (attributes : Attributes) :
    ∃ members, attributes.ListedBy members ∧ attributes.toJson = .ofMembers members := by
  obtain ⟨ordered, inOrder, same⟩ := Json.exists_inOrder (Value.entriesToJson attributes.entries)
  refine ⟨ordered, ⟨?_, ?_, ?_⟩, congrArg Json.object same⟩
  · have ascending := List.pairwise_map.mpr inOrder.ascending
    exact ascending.imp fun before => before.ne
  · intro member among
    have listed := (inOrder.counts.mp among).mem
    rw [Value.entriesToJson_eq_map] at listed
    obtain ⟨entry, within, rfl⟩ := List.mem_map.mp listed
    exact ⟨entry.2, (Table.get?_eq_some_iff attributes).mpr within, entry.2.resembles_toJson⟩
  · intro name value held
    have member : (name, value.toJson) ∈ Value.entriesToJson attributes.entries := by
      rw [Value.entriesToJson_eq_map]
      exact List.mem_map.mpr ⟨_, (Table.get?_eq_some_iff attributes).mp held, rfl⟩
    obtain ⟨⟨key, json⟩, last, rfl⟩ := IsLast.exists_of_mem Prod.fst member
    exact ⟨json, inOrder.counts.mpr last⟩

theorem ListedBy.rel_firstOf {attributes : Attributes} {members : List (String × Json)}
    (listed : attributes.ListedBy members) (name : String) :
    Option.Rel Value.Resembles (attributes.get? name) (firstOf name members) := by
  cases held : attributes.get? name with
  | none =>
      cases found : firstOf name members with
      | none => exact .none
      | some json =>
          obtain ⟨value, given, -⟩ := listed.held _ (Table.mem_of_firstOf found)
          simp [held] at given
  | some value =>
      obtain ⟨json, member⟩ := listed.listed name value held
      obtain ⟨given, same, resembles⟩ := listed.held _ member
      rw [held] at same
      obtain rfl := Option.some.inj same
      rw [Table.firstOf_of_mem listed.distinct member]
      exact .some resembles

/-- Each setting is what its attribute says, or its default where there is no such attribute. An
attribute of another type, or a timeout below zero, configures nothing; the other attributes do not
matter. -/
structure Configures (attributes : Attributes) (config : Config) : Prop where
  timeout : attributes.get? "statement_timeout_secs" =
    config.statementTimeout?.map fun seconds => .int seconds
  dropIfExists : attributes.get? "drop_if_exists" = some (.bool config.dropIfExists) ∨
    attributes.get? "drop_if_exists" = none ∧ config.dropIfExists = false
  database : attributes.get? "default_database" = config.defaultDatabase?.map .string
  schema : attributes.get? "default_schema" = config.defaultSchema?.map .string

end Attributes

namespace Config

variable {attributes : Attributes} {config : Config} {α : Type}

theorem attribute?_eq_ok_iff {key expected : String} {convert? : Value → Option α}
    {wrap : α → Value}
    (reads : ∀ {value result}, convert? value = some result ↔ value = wrap result)
    {result : Option α} :
    attribute? attributes key expected convert? = .ok result ↔
      attributes.get? key = result.map wrap := by
  cases held : attributes.get? key with
  | none => cases result <;> simp [attribute?, held]
  | some value =>
      cases found : convert? value with
      | none =>
          refine iff_of_false (by simp [attribute?, held, found]) ?_
          intro same
          obtain ⟨converted, -, wrapped⟩ := Option.map_eq_some_iff.mp same.symm
          simp [reads.mpr wrapped.symm] at found
      | some converted =>
          obtain rfl := reads.mp found
          have read : attribute? attributes key expected convert? = .ok (some converted) := by
            simp [attribute?, held, found]
          rw [read]
          constructor
          · intro same
            obtain rfl := Except.ok.inj same
            rfl
          · intro same
            obtain ⟨other, rfl, wrapped⟩ := Option.map_eq_some_iff.mp same.symm
            have again := reads.mpr wrapped.symm
            rw [found] at again
            exact congrArg Except.ok again

theorem seconds?_eq_ok_iff {given? : Option Int} {result : Option Nat} :
    seconds? given? = .ok result ↔ given? = result.map Int.ofNat := by
  cases given? with
  | none => cases result <;> simp [seconds?]
  | some given =>
      rw [seconds?]
      split
      next negative =>
        refine iff_of_false (by simp) ?_
        intro same
        obtain ⟨seconds, -, natural⟩ := Option.map_eq_some_iff.mp same.symm
        change (seconds : Int) = given at natural
        omega
      next natural =>
        cases result with
        | none => simp
        | some seconds =>
            simp
            omega

theorem ofAttributes_eq_ok_iff :
    ofAttributes attributes = .ok config ↔ attributes.Configures config := by
  rw [ofAttributes]
  simp only [bind_eq_ok_iff, attribute?_eq_ok_iff Value.asInt?_eq_some_iff,
    attribute?_eq_ok_iff Value.asBool?_eq_some_iff,
    attribute?_eq_ok_iff Value.asString?_eq_some_iff, seconds?_eq_ok_iff]
  constructor
  · rintro ⟨_, timeout, seconds, rfl, drop?, drop, database?, database, schema?, schema, made⟩
    obtain rfl := Except.ok.inj made
    refine ⟨?_, ?_, database, schema⟩
    · rw [timeout, Option.map_map]
      rfl
    · cases drop? with
      | none => exact .inr ⟨drop, rfl⟩
      | some truth => exact .inl drop
  · rintro ⟨timeout, drop, database, schema⟩
    obtain ⟨timeout?, dropIfExists, database?, schema?⟩ := config
    refine ⟨timeout?.map Int.ofNat, ?_, timeout?, rfl, ?_⟩
    · rw [timeout, Option.map_map]
      rfl
    · rcases drop with given | ⟨missing, rfl⟩
      · exact ⟨some dropIfExists, given, database?, database, schema?, schema, rfl⟩
      · exact ⟨none, missing, database?, database, schema?, schema, rfl⟩

theorem toUnsigned?_ofInt_eq_some_iff {number : Int} (word : Decimal.FitsWord number)
    {unsigned : Nat} :
    (Json.Number.ofInt number).toUnsigned? = some unsigned ↔ number = unsigned := by
  obtain ⟨lower, upper⟩ := word
  by_cases negative : number < 0
  · refine iff_of_false ?_ (by omega)
    simp [Json.Number.toUnsigned?, Json.Number.ofInt, negative]
  · have small : number.natAbs < Json.Number.unsignedBound := by
      simp only [Json.Number.unsignedBound]
      omega
    simp only [Json.Number.toUnsigned?, Json.Number.ofInt, Json.Number.isInteger, negative, small]
    simp
    omega

section Document

variable {members : List (String × Json)} {value? : Option Value} {json? : Option Json}

theorem field?_timeout (same : Option.Rel Value.Resembles value? json?)
    (word : ∀ number, value? = some (.int number) → Decimal.FitsWord number) {result : Option Nat} :
    field? timeoutOfJson? none json? = some result ↔
      value? = result.map fun seconds => .int seconds := by
  cases same with
  | none => cases result <;> simp [field?]
  | some resembles =>
      cases resembles with
      | int number =>
          cases result with
          | none => simp [field?, timeoutOfJson?, Json.ofInt]
          | some seconds =>
              simp [field?, timeoutOfJson?, Json.ofInt,
                toUnsigned?_ofInt_eq_some_iff (word number rfl)]
      | string text | bool truth | list items jsons | map entries members =>
          cases result <;> simp [field?, timeoutOfJson?, Json.ofString]

theorem field?_bool (same : Option.Rel Value.Resembles value? json?) {result : Bool} :
    field? boolOfJson? false json? = some result ↔
      value? = some (.bool result) ∨ value? = none ∧ result = false := by
  cases same with
  | none => simp [field?, eq_comm]
  | some resembles =>
      cases resembles with
      | bool truth => simp [field?, boolOfJson?]
      | string text | int number | list items jsons | map entries members =>
          simp [field?, boolOfJson?, Json.ofString, Json.ofInt]

theorem field?_text (same : Option.Rel Value.Resembles value? json?) {result : Option String} :
    field? textOfJson? none json? = some result ↔ value? = result.map .string := by
  cases same with
  | none => cases result <;> simp [field?]
  | some resembles =>
      cases resembles with
      | string text =>
          cases result <;>
            simp [field?, textOfJson?, Json.ofString, Json.Literal.toString?_ofString]
      | int number | bool truth | list items jsons | map entries members =>
          cases result <;> simp [field?, textOfJson?, Json.ofInt]

theorem filter_name (distinct : (members.map Prod.fst).Nodup) (name : String) :
    members.filter (fun member => member.1 = name) =
      ((firstOf name members).map fun json => (name, json)).toList := by
  induction members with
  | nil => rfl
  | cons member rest ih =>
      obtain ⟨key, json⟩ := member
      obtain ⟨fresh, distinct⟩ := List.nodup_cons.mp distinct
      by_cases same : key = name
      · subst same
        have others : rest.filter (fun member => member.1 = key) = [] := by
          rw [List.filter_eq_nil_iff]
          intro other among named
          exact fresh (List.mem_map.mpr ⟨other, among, of_decide_eq_true named⟩)
        simp [firstOf, others]
      · simp [firstOf, same, ih distinct]

theorem member?_spelled (distinct : (members.map Prod.fst).Nodup) (name : String) :
    member? (members.map Json.spelled) name = some (firstOf name members) := by
  have matching : (members.map Json.spelled).filter (fun member => member.1 = .ofString name) =
      (members.filter fun member => member.1 = name).map Json.spelled := by
    rw [List.filter_map]
    congr 1
    apply List.filter_congr
    intro member _
    simp [Json.spelled, Json.Literal.ofString_injective.eq_iff]
  rw [member?, matching, filter_name distinct]
  cases firstOf name members with
  | none => rfl
  | some json => rfl

theorem ofDocument?_ofMembers (distinct : (members.map Prod.fst).Nodup) :
    ofDocument? (.ofMembers members) =
      ofFields? (firstOf "statement_timeout_secs" members) (firstOf "drop_if_exists" members)
        (firstOf "default_database" members) (firstOf "default_schema" members) := by
  have named : (members.map Json.spelled).all fun member => member.1.toString?.isSome := by
    simp [Json.spelled, Json.Literal.toString?_ofString]
  rw [Json.ofMembers_eq_object, ofDocument?]
  simp [named, member?_spelled distinct]

theorem ofDocument?_eq_some_iff (listed : attributes.ListedBy members)
    (words : ∀ name number, attributes.get? name = some (.int number) → Decimal.FitsWord number) :
    ofDocument? (.ofMembers members) = some config ↔ attributes.Configures config := by
  have same := listed.rel_firstOf
  rw [ofDocument?_ofMembers listed.distinct, ofFields?]
  -- The document has a null for no attribute, so what a reader takes for a null does not matter.
  simp only [bind, Option.bind_eq_some_iff, field?_timeout (same _) (words _),
    field?_bool (same _), field?_text (same _)]
  constructor
  · rintro ⟨timeout?, timeout, drop, given, database?, database, schema?, schema, made⟩
    obtain rfl := Option.some.inj made
    exact ⟨timeout, given, database, schema⟩
  · rintro ⟨timeout, drop, database, schema⟩
    exact ⟨_, timeout, _, drop, _, database, _, schema, rfl⟩

end Document

/-- The compact form of the attributes is one of the texts that list them. -/
theorem readers_agree (attributes : Attributes)
    (worded : ∀ entry ∈ attributes.entries, entry.2.Worded) :
    (∀ text members, Json.parse? text = some (.ofMembers members) → attributes.ListedBy members →
        ofJson? text = (ofAttributes attributes).toOption) ∧
      ofJson? attributes.toJson.compact = (ofAttributes attributes).toOption ∧
      ∀ config, ofAttributes attributes = .ok config ↔ attributes.Configures config := by
  have words : ∀ name number, attributes.get? name = some (.int number) →
      Decimal.FitsWord number := by
    intro name number held
    cases worded _ ((Table.get?_eq_some_iff attributes).mp held) with
    | int word => exact word
  have agree : ∀ text members, Json.parse? text = some (.ofMembers members) →
      attributes.ListedBy members → ofJson? text = (ofAttributes attributes).toOption := by
    intro text members parsed listed
    -- Either reader gives a configuration exactly if the attributes configure it.
    apply Option.ext
    intro config
    rw [toOption_eq_some_iff, ofAttributes_eq_ok_iff, ofJson?, parsed]
    exact ofDocument?_eq_some_iff listed words
  refine ⟨agree, ?_, fun config => ofAttributes_eq_ok_iff⟩
  obtain ⟨members, listed, same⟩ := attributes.exists_listedBy
  refine agree _ members ?_ listed
  rw [← same]
  exact Json.parse?_compact (Value.Worded.map worded).normal_toJson

def regional : Attributes :=
  .ofList [("drop_if_exists", .bool true), ("default_database", .string "D\"B"),
    ("statement_timeout_secs", .int 5), ("region", .map [("west", .list [.int (-1)])])]

def regionalText : String :=
  "\x7b \"region\" : \x7b\"east\": null\x7d,\n  \"statement_timeout_secs\": 5,\n" ++
    "  \"default_database\": \"D\\u0022B\", \"drop_if_exists\": true\n\x7d"

def regionalMembers : List (String × Json) :=
  [("region", .ofMembers [("east", .null)]), ("statement_timeout_secs", .ofInt 5),
    ("default_database", .ofString "D\"B"), ("drop_if_exists", .bool true)]

theorem worded_regional : ∀ entry ∈ regional.entries, entry.2.Worded := by
  have region : (Value.map [("west", .list [.int (-1)])]).Worded := by
    refine .map ?_
    simp only [List.mem_singleton, forall_eq]
    refine .list ?_
    simp only [List.mem_singleton, forall_eq]
    exact .int (by decide)
  have written : regional.entries = [("drop_if_exists", .bool true),
      ("default_database", .string "D\"B"), ("statement_timeout_secs", .int 5),
      ("region", .map [("west", .list [.int (-1)])])] := by rfl
  rw [written]
  simp only [List.forall_mem_cons, List.not_mem_nil, false_implies, implies_true, and_true]
  exact ⟨.bool true, .string _, .int (by decide), region⟩

theorem listedBy_regionalMembers : regional.ListedBy regionalMembers := by
  refine ⟨by decide, ?_, ?_⟩
  · simp only [regionalMembers, List.forall_mem_cons, List.not_mem_nil, false_implies,
      implies_true, and_true]
    exact ⟨⟨_, rfl, .map _ _⟩, ⟨_, rfl, .int 5⟩, ⟨_, rfl, .string _⟩, ⟨_, rfl, .bool true⟩⟩
  · intro name value held
    have key := List.mem_map_of_mem (f := Prod.fst) ((Table.get?_eq_some_iff regional).mp held)
    have keys : regional.entries.map Prod.fst = ["drop_if_exists", "default_database",
        "statement_timeout_secs", "region"] := by rfl
    simp only [keys, List.mem_cons, List.not_mem_nil, or_false] at key
    rcases key with rfl | rfl | rfl | rfl <;> simp [regionalMembers]

theorem regional_readers_agree :
    (∀ entry ∈ regional.entries, entry.2.Worded) ∧
      Json.parse? regionalText = some (.ofMembers regionalMembers) ∧
      regional.ListedBy regionalMembers ∧
      ofJson? regionalText = some ⟨some 5, true, some "D\"B", none⟩ ∧
      ofJson? regional.toJson.compact = some ⟨some 5, true, some "D\"B", none⟩ := by
  have parsed : Json.parse? regionalText = some (.ofMembers regionalMembers) := by cbv
  have given : (ofAttributes regional).toOption = some ⟨some 5, true, some "D\"B", none⟩ := by rfl
  obtain ⟨agree, compact, -⟩ := readers_agree regional worded_regional
  refine ⟨worded_regional, parsed, listedBy_regionalMembers, ?_, ?_⟩
  · rw [agree regionalText regionalMembers parsed listedBy_regionalMembers, given]
  · rw [compact, given]

end Config

end Provision
