import Provision.Proofs.Defaults
import Provision.Proofs.Settling

/-!
What a pool is created with. A creation fills in the defaults of the schema before it makes its
request, so the pool that it asks for has what is declared, and the defaults of what is not.
-/

namespace Provision

theorem Table.mem_of_mem_foldl_insert {α : Type} {entries : List (String × α)} {table : Table α}
    {entry : String × α}
    (member : entry ∈
      (entries.foldl (fun table each => table.insert each.1 each.2) table).entries) :
    entry ∈ table.entries ∨ entry ∈ entries := by
  induction entries generalizing table with
  | nil => exact .inl member
  | cons first rest ih =>
      rcases ih member with inserted | later
      · rcases List.mem_append.mp inserted with kept | added
        · exact .inl ((List.mem_filter.mp kept).1)
        · exact .inr (List.mem_cons.mpr (.inl (List.mem_singleton.mp added)))
      · exact .inr (List.mem_cons_of_mem first later)

theorem Schema.mem_of_attribute? {resourceType name : String} {attributes : List Attribute}
    {declared : Attribute}
    (known : (ofAttributes resourceType attributes).attribute? name = some declared) :
    declared ∈ attributes := by
  rcases Table.mem_of_mem_foldl_insert (Table.mem_of_firstOf known) with none | member
  · simp [Table.empty] at none
  · obtain ⟨each, listed, same⟩ := List.mem_map.mp member
    exact (Prod.mk.inj same).2 ▸ listed

theorem ResourceKind.default_fits (kind : ResourceKind) :
    ∀ declared ∈ kind.attributes, ∀ value, declared.default? = some value →
      declared.computed = false ∧ declared.type.fault? value = none := by
  cases kind with
  | computePool =>
      simp [attributes, poolAttributes, AttributeType.fault?, AttributeType.nonNegativeInt,
        AttributeType.nonNegativeObjection?]
  | imageRepository => simp [attributes, repositoryAttributes]
  | computePools => simp [attributes, poolsAttributes, listing]
  | imageRepositories => simp [attributes, repositoriesAttributes, listing]

theorem ResourceKind.defaultsFit (kind : ResourceKind) : kind.schema.DefaultsFit :=
  fun known => kind.default_fits _ (Schema.mem_of_attribute? known) _

theorem Schema.Accepts.withDefaults {kind : ResourceKind} {attributes : Attributes}
    (accepted : kind.schema.Accepts attributes) :
    kind.schema.Accepts (kind.schema.withDefaults attributes) := by
  rw [← faults_eq_nil_iff, faults_withDefaults attributes kind.defaultsFit]
  exact faults_eq_nil_iff.mpr accepted

theorem Schema.Accepts.text {schema : Schema} {attributes : Attributes} {key : String}
    {declared : Attribute} (accepted : schema.Accepts attributes)
    (known : schema.attribute? key = some declared) (needed : declared.required)
    (undefaulted : declared.default? = none) (typed : declared.type = .string) :
    ∃ text, attributes.get? key = some (.string text) := by
  obtain ⟨value, set⟩ := accepted.needed known needed undefaulted
  have fits := (accepted.fits known set).2
  rw [typed] at fits
  obtain ⟨text, rfl⟩ := AttributeType.fault?_string_eq_none_iff.mp fits
  exact ⟨text, set⟩

theorem Schema.Accepts.text? {schema : Schema} {attributes : Attributes} {key : String}
    {declared : Attribute} (accepted : schema.Accepts attributes)
    (known : schema.attribute? key = some declared) (typed : declared.type = .string) :
    ∃ text? : Option String, attributes.get? key = text?.map .string := by
  refine accepted.optional known fun value fits => ?_
  rw [typed] at fits
  exact AttributeType.fault?_string_eq_none_iff.mp fits

namespace Attributes

variable {α : Type} {attributes : Attributes} {key : String}

theorem typed?_of_get? {expected : String} {convert? : Value → Option α} {wrap : α → Value}
    {value? : Option α} (converts : ∀ value, convert? (wrap value) = some value)
    (set : attributes.get? key = value?.map wrap) :
    attributes.typed? key expected convert? = .ok value? := by
  cases value? with
  | none => simp [typed?, set]
  | some value => simp [typed?, set, converts]

theorem string?_of_get? {text? : Option String}
    (set : attributes.get? key = text?.map .string) : attributes.string? key = .ok text? :=
  typed?_of_get? (fun _ => rfl) set

theorem int?_of_get? {number? : Option Int} (set : attributes.get? key = number?.map .int) :
    attributes.int? key = .ok number? :=
  typed?_of_get? (fun _ => rfl) set

theorem bool?_of_get? {truth? : Option Bool} (set : attributes.get? key = truth?.map .bool) :
    attributes.bool? key = .ok truth? :=
  typed?_of_get? (fun _ => rfl) set

theorem string_of_get? {text : String} (set : attributes.get? key = some (.string text)) :
    attributes.string key = .ok text := by
  have given : attributes.string? key = .ok (some text) := string?_of_get? set
  rw [string, given, required]

theorem int_of_get? {number : Int} (set : attributes.get? key = some (.int number)) :
    attributes.int key = .ok number := by
  have given : attributes.int? key = .ok (some number) := int?_of_get? set
  rw [int, given, required]

end Attributes

namespace ComputePool

/-- The pool that a creation makes: as it says, by default where it does not say, and for the rest
as the platform has it. -/
def Create.made (request : Create) (fresh : ComputePool) : ComputePool :=
  { fresh with
    name := request.name.name
    minNodes := request.minNodes
    maxNodes := request.maxNodes
    instanceFamily := request.instanceFamily
    autoResume := request.autoResume?.getD true
    autoSuspendSecs := request.autoSuspendSecs?.getD 600
    comment := request.comment?.getD "" }

end ComputePool

namespace PoolResource

theorem default_initiallySuspended :
    (ResourceKind.computePool.schema.attribute? "initially_suspended").bind Attribute.default? =
      some (.bool false) := rfl

open Schema in
theorem Declares.withDefaults {wanted : Attributes} {declared : Declared}
    (declares : Declares wanted declared) :
    Declares (ResourceKind.computePool.schema.withDefaults wanted) { declared with
      autoResume? := some (declared.autoResume?.getD true)
      autoSuspendSecs? := some (declared.autoSuspendSecs?.getD 600) } where
  minNodes := (get?_withDefaults_of_none (by rfl)).trans declares.minNodes
  maxNodes := (get?_withDefaults_of_none (by rfl)).trans declares.maxNodes
  autoResume := get?_withDefaults_of_default default_autoResume declares.autoResume
  autoSuspendSecs := get?_withDefaults_of_default default_autoSuspendSecs declares.autoSuspendSecs
  comment := (get?_withDefaults_of_none default_comment).trans declares.comment

theorem createRequest_of_declares {wanted : Attributes} {declared : Declared}
    {name family : String} {suspended? : Option Bool} (declares : Declares wanted declared)
    (named : wanted.get? "name" = some (.string name))
    (ofFamily : wanted.get? "instance_family" = some (.string family))
    (suspended : wanted.get? "initially_suspended" = suspended?.map .bool) :
    createRequest wanted = .ok {
      name := ⟨name⟩
      minNodes := declared.minNodes
      maxNodes := declared.maxNodes
      instanceFamily := family
      autoResume? := declared.autoResume?
      initiallySuspended? := suspended?
      autoSuspendSecs? := declared.autoSuspendSecs?
      comment? := declared.comment? } := by
  rw [createRequest, Attributes.string_of_get? named, Attributes.int_of_get? declares.minNodes,
    Attributes.int_of_get? declares.maxNodes, Attributes.string_of_get? ofFamily,
    Attributes.bool?_of_get? declares.autoResume, Attributes.bool?_of_get? suspended,
    Attributes.int?_of_get? declares.autoSuspendSecs, Attributes.string?_of_get? declares.comment]
  rfl

open Schema in
theorem createRequest_eq {wanted : Attributes} {declared : Declared} {name family : String}
    {suspended? : Option Bool} (declares : Declares wanted declared)
    (named : wanted.get? "name" = some (.string name))
    (ofFamily : wanted.get? "instance_family" = some (.string family))
    (suspended : wanted.get? "initially_suspended" = suspended?.map .bool) :
    createRequest (ResourceKind.computePool.schema.withDefaults wanted) = .ok {
      name := ⟨name⟩
      minNodes := declared.minNodes
      maxNodes := declared.maxNodes
      instanceFamily := family
      autoResume? := some (declared.autoResume?.getD true)
      initiallySuspended? := some (suspended?.getD false)
      autoSuspendSecs? := some (declared.autoSuspendSecs?.getD 600)
      comment? := declared.comment? } := by
  let filled := ResourceKind.computePool.schema.withDefaults wanted
  have nameFilled : filled.get? "name" = some (.string name) :=
    (get?_withDefaults_of_none (by rfl)).trans named
  have familyFilled : filled.get? "instance_family" = some (.string family) :=
    (get?_withDefaults_of_none (by rfl)).trans ofFamily
  have suspendedFilled : filled.get? "initially_suspended" =
      (some (suspended?.getD false)).map .bool :=
    get?_withDefaults_of_default default_initiallySuspended suspended
  exact createRequest_of_declares declares.withDefaults nameFilled familyFilled suspendedFilled

theorem exists_identity {wanted : Attributes}
    (accepted : ResourceKind.computePool.schema.Accepts wanted) :
    ∃ name family : String, wanted.get? "name" = some (.string name) ∧
      wanted.get? "instance_family" = some (.string family) := by
  obtain ⟨name, named⟩ := accepted.text
    (show ResourceKind.computePool.schema.attribute? "name" = some _ from rfl) rfl rfl rfl
  obtain ⟨family, ofFamily⟩ := accepted.text
    (show ResourceKind.computePool.schema.attribute? "instance_family" = some _ from rfl)
    rfl rfl rfl
  exact ⟨name, family, named, ofFamily⟩

theorem request_of_createRequest {wanted : Attributes} {declared : Declared}
    {request : ComputePool.Create}
    (accepted : ResourceKind.computePool.schema.Accepts wanted)
    (declares : Declares wanted declared)
    (requested : createRequest (ResourceKind.computePool.schema.withDefaults wanted) =
      .ok request) :
    wanted.get? "name" = some (.string request.name.name) ∧
      wanted.get? "instance_family" = some (.string request.instanceFamily) ∧
      request.ifNotExists? = none ∧
      ∀ fresh, declared.apply (request.made fresh) = request.made fresh := by
  obtain ⟨name, family, named, ofFamily⟩ := exists_identity accepted
  obtain ⟨suspended?, suspended⟩ := accepted.optional
    (show ResourceKind.computePool.schema.attribute? "initially_suspended" = some _ from rfl)
    fun _ => AttributeType.fault?_bool_eq_none_iff.mp
  have asks := createRequest_eq declares named ofFamily suspended
  obtain rfl := Except.ok.inj (requested.symm.trans asks)
  exact ⟨named, ofFamily, rfl, fun fresh => rfl⟩

end PoolResource

end Provision
