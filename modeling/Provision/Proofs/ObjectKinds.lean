import Provision.Proofs.Columns
import Provision.Proofs.Lookup
import Provision.Proofs.Overwriting
import Provision.Proofs.Quotation

/-!
The objects that resources stand for, as statements ask for them and as rows show them. A few
columns hold the segments of the identifier, and each attribute of the resource is taken from one
column of the same row.
-/

namespace Provision

open Attempt

inductive Cell.IsShownAs : Cell → Value → Prop
  | text (given : String) : IsShownAs (.text given) (.string given)
  | int (number : Int) : IsShownAs (.int number) (.int number)
  | bool (truth : Bool) : IsShownAs (.bool truth) (.bool truth)
  | instant (time : Instant) : IsShownAs (.instant time) (.string time.text)

/-- The column that an attribute is taken from, and the cell for which there is no attribute. -/
structure Shown where
  key : String
  column : Column
  hidden? : Option Cell := none

def Shown.named (name : String) (type : CellType) : Shown where
  key := name
  column := ⟨name, type, false⟩

inductive ObjectKind where
  | computePool
  | imageRepository

namespace ObjectKind

def resourceType : ObjectKind → String
  | computePool => "compute_pool"
  | imageRepository => "image_repository"

def noun : ObjectKind → String
  | computePool => "COMPUTE POOL"
  | imageRepository => "IMAGE REPOSITORY"

def columns : ObjectKind → List Column
  | computePool => ComputePool.columns
  | imageRepository => ImageRepository.columns

/-- The columns that hold the segments of the identifier. -/
def naming : ObjectKind → List String
  | computePool => ["name"]
  | imageRepository => ["database_name", "schema_name", "name"]

def shown : ObjectKind → List Shown
  | computePool => [
      .named "name" .text,
      .named "min_nodes" .int,
      .named "max_nodes" .int,
      .named "instance_family" .text,
      .named "auto_resume" .bool,
      .named "auto_suspend_secs" .int,
      .named "state" .text,
      .named "owner" .text,
      .named "created_on" .instant,
      { key := "comment", column := ⟨"comment", .text, true⟩, hidden? := some (.text "") }]
  | imageRepository => [
      .named "name" .text,
      { key := "database", column := ⟨"database_name", .text, false⟩ },
      { key := "schema", column := ⟨"schema_name", .text, false⟩ },
      .named "repository_url" .text,
      .named "owner" .text,
      { key := "comment", column := ⟨"comment", .text, true⟩ },
      .named "created_on" .instant]

def lookup : ObjectKind → Lookup
  | computePool => .pools
  | imageRepository => .repositories

/-- Asks for objects of that name, in the schema of the object where it has one. -/
def question (kind : ObjectKind) (object : Identifier) : Statement :=
  match kind with
  | computePool => .showPools { like? := some object.name }
  | imageRepository => .showRepositories {
      like? := some object.name
      scope? := some (.ofSchema ⟨object.segments.getD 0 "", object.segments.getD 1 ""⟩) }

def questionText (kind : ObjectKind) (object : Identifier) : String :=
  match kind with
  | computePool => "SHOW COMPUTE POOLS LIKE " ++ Text.quoted '\'' object.name
  | imageRepository => "SHOW IMAGE REPOSITORIES LIKE " ++ Text.quoted '\'' object.name ++
      " IN SCHEMA " ++ Identifier.written (object.segments.dropLast.filter (· ≠ ""))

structure Stores (kind : ObjectKind) (identifier : String) (object : Identifier) : Prop where
  depth : object.segments.length = kind.naming.length
  free : ∀ segment ∈ object.segments, '|' ∉ segment.toList
  encoded : Text.joined "|" object.segments = identifier

def Reads (kind : ObjectKind) (row : Row) : Prop := ∀ column ∈ kind.columns, column.Fits row

/-- The row holds the segments of the object, letter by letter. -/
def Names (kind : ObjectKind) (row : Row) (object : Identifier) : Prop :=
  kind.naming.map row.get? = object.segments.map fun segment => some (.text segment)

instance (kind : ObjectKind) (row : Row) (object : Identifier) :
    Decidable (kind.Names row object) :=
  inferInstanceAs (Decidable (_ = _))

/-- The attributes are what the row gives for them, and there are no others. -/
structure Presents (kind : ObjectKind) (row : Row) (attributes : Attributes) : Prop where
  shows : ∀ shown ∈ kind.shown, ∃ cell value, shown.column.Gives row cell ∧ cell.IsShownAs value ∧
    attributes.get? shown.key = if shown.hidden? = some cell then none else some value
  only : ∀ key value, attributes.get? key = some value → key ∈ kind.shown.map Shown.key

end ObjectKind

theorem Text.separator_not_mem_pieces {separator : Char} {text piece : List Char}
    (member : piece ∈ pieces separator text) : separator ∉ piece := by
  induction text generalizing piece with
  | nil => simp_all [pieces]
  | cons char rest ih =>
      rw [pieces] at member
      split at member
      next =>
        rcases List.mem_cons.mp member with rfl | later
        · simp
        · exact ih later
      next other =>
        cases split : pieces separator rest with
        | nil =>
            obtain rfl : piece = [char] := by simpa [split] using member
            simpa using Ne.symm other
        | cons first others =>
            rw [split] at member ih
            rcases List.mem_cons.mp member with rfl | later
            · simpa [Ne.symm other] using ih List.mem_cons_self
            · exact ih (List.mem_cons_of_mem first later)

namespace Identifier

theorem eq_of_segments_eq {left right : Identifier} (same : left.segments = right.segments) :
    left = right := by
  rcases left with ⟨⟨_⟩⟩ | ⟨⟨_, _⟩⟩ | ⟨⟨_, _, _⟩⟩ <;>
    rcases right with ⟨⟨_⟩⟩ | ⟨⟨_, _⟩⟩ | ⟨⟨_, _, _⟩⟩ <;> simp_all [segments]

theorem free_of_decode {text : String} {id : Identifier} (decoded : decode text = .ok id) :
    ∀ segment ∈ id.segments, '|' ∉ segment.toList := by
  intro segment member
  rw [segments_of_decode decoded] at member
  obtain ⟨piece, cut, rfl⟩ := List.mem_map.mp member
  rw [String.toList_ofList]
  exact Text.separator_not_mem_pieces cut

end Identifier

namespace Statement

theorem sql_showPools_like (pattern : String) :
    (showPools { like? := some pattern }).sql =
      "SHOW COMPUTE POOLS LIKE " ++ Text.quoted '\'' pattern := by
  have clauses : (showPools { like? := some pattern }).form.clauses =
      ["SHOW", "COMPUTE POOLS", "LIKE", Text.quoted '\'' pattern] := rfl
  rw [← String.toList_inj]
  simp [sql, Form.sql, clauses, Text.joined]

theorem sql_showRepositories_inSchema (pattern : String) (schema : DatabaseId) :
    (showRepositories { like? := some pattern, scope? := some (.ofSchema schema) }).sql =
      "SHOW IMAGE REPOSITORIES LIKE " ++ Text.quoted '\'' pattern ++ " IN SCHEMA " ++
        schema.toIdentifier.qualifiedName := by
  have clauses :
      (showRepositories { like? := some pattern, scope? := some (.ofSchema schema) }).form.clauses =
        ["SHOW", "IMAGE REPOSITORIES", "LIKE", Text.quoted '\'' pattern, "IN",
          "SCHEMA" ++ " " ++ schema.toIdentifier.qualifiedName] := rfl
  rw [← String.toList_inj]
  simp [sql, Form.sql, clauses, Text.joined]

end Statement

namespace ObjectKind

variable {kind : ObjectKind} {identifier : String} {object other : Identifier}

/-! What is asked. -/

theorem stores_iff_decode :
    kind.Stores identifier object ↔
      Identifier.decode identifier = .ok object ∧
        object.segments.length = kind.naming.length := by
  constructor
  · rintro ⟨depth, free, rfl⟩
    exact ⟨Identifier.decode_encode free, depth⟩
  · rintro ⟨decoded, depth⟩
    exact ⟨depth, Identifier.free_of_decode decoded, Identifier.encode_of_decode decoded⟩

theorem Stores.unique (first : kind.Stores identifier object)
    (second : kind.Stores identifier other) : object = other :=
  Except.ok.inj ((stores_iff_decode.mp first).1.symm.trans (stores_iff_decode.mp second).1)

theorem exists_account (depth : object.segments.length = computePool.naming.length) :
    ∃ pool, object = .account pool := by
  cases object with
  | account pool => exact ⟨pool, rfl⟩
  | database | schema => simp [Identifier.segments, naming] at depth

theorem exists_schema (depth : object.segments.length = imageRepository.naming.length) :
    ∃ repository, object = .schema repository := by
  cases object with
  | account | database => simp [Identifier.segments, naming] at depth
  | schema repository => exact ⟨repository, rfl⟩

theorem lookup_ask_eq_ok_iff {request : Statement} :
    kind.lookup.ask identifier = .ok (object, request) ↔
      kind.Stores identifier object ∧ request = kind.question object := by
  rw [stores_iff_decode]
  cases kind with
  | computePool =>
      simp only [lookup, Lookup.pools, bind_eq_ok_iff, Operation.accountId_eq_ok_iff]
      constructor
      · rintro ⟨pool, decoded, asked⟩
        obtain ⟨rfl, rfl⟩ := Prod.mk.inj (Except.ok.inj asked)
        exact ⟨⟨decoded, rfl⟩, rfl⟩
      · rintro ⟨⟨decoded, depth⟩, rfl⟩
        obtain ⟨pool, rfl⟩ := exists_account depth
        exact ⟨pool, decoded, rfl⟩
  | imageRepository =>
      simp only [lookup, Lookup.repositories, bind_eq_ok_iff, Operation.schemaId_eq_ok_iff]
      constructor
      · rintro ⟨repository, decoded, asked⟩
        obtain ⟨rfl, rfl⟩ := Prod.mk.inj (Except.ok.inj asked)
        exact ⟨⟨decoded, rfl⟩, rfl⟩
      · rintro ⟨⟨decoded, depth⟩, rfl⟩
        obtain ⟨repository, rfl⟩ := exists_schema depth
        exact ⟨repository, decoded, rfl⟩

theorem sql_question (depth : object.segments.length = kind.naming.length) :
    (kind.question object).sql = kind.questionText object := by
  cases kind with
  | computePool => exact Statement.sql_showPools_like object.name
  | imageRepository =>
      obtain ⟨repository, rfl⟩ := exists_schema depth
      exact Statement.sql_showRepositories_inSchema repository.name repository.container

/-! What is read of a row is what the row says. -/

theorem get?_of_gives {row : Row} {name text : String}
    (gives : (Column.mk name .text false).Gives row (.text text)) :
    row.get? name = some (.text text) := by
  cases gives with
  | blank nullable blank => simp at nullable
  | read held given reads =>
      cases reads with
      | text => exact held

def poolAttributes (pool : ComputePool) : List (String × Value) := [
  ("name", .string pool.name),
  ("min_nodes", .int pool.minNodes),
  ("max_nodes", .int pool.maxNodes),
  ("instance_family", .string pool.instanceFamily),
  ("auto_resume", .bool pool.autoResume),
  ("auto_suspend_secs", .int pool.autoSuspendSecs),
  ("state", .string pool.state),
  ("owner", .string pool.owner),
  ("created_on", .string pool.createdOn.text)]

theorem get?_attributes_pool (pool : ComputePool) (key : String) :
    (PoolResource.attributes pool).get? key =
      if key = "comment" then
        if pool.comment = "" then none else some (.string pool.comment)
      else firstOf key (poolAttributes pool) := by
  have distinct : ((poolAttributes pool).map Prod.fst).Nodup := by simp [poolAttributes]
  rw [← Table.get?_ofList_of_nodup distinct]
  show (if pool.comment = "" then Table.ofList (poolAttributes pool) else _).get? key = _
  by_cases silent : pool.comment = ""
  · simp only [silent, if_true]
    by_cases asked : key = "comment"
    · rw [if_pos asked, Table.get?_ofList_of_nodup distinct, asked]
      rfl
    · rw [if_neg asked]
  · simp only [silent, if_false, Table.get?_insert]
    rfl

theorem presents_pool {row : Row} {pool : ComputePool}
    (gives : List.Forall₂ (fun column cell => column.Gives row cell) ComputePool.columns
      pool.cells) :
    computePool.Names row pool.id.toIdentifier ∧
      computePool.Presents row (PoolResource.attributes pool) := by
  simp only [ComputePool.columns, ComputePool.cells, List.forall₂_cons] at gives
  obtain ⟨name, state, least, most, family, -, -, idle, resumes, -, -, created, -, -, owner,
    comment, -⟩ := gives
  refine ⟨?_, ?_, ?_⟩
  · show [row.get? "name"] = [some (.text pool.name)]
    rw [get?_of_gives name]
  · simp only [shown, Shown.named, List.forall_mem_cons, get?_attributes_pool]
    refine ⟨⟨_, _, name, .text _, rfl⟩, ⟨_, _, least, .int _, rfl⟩, ⟨_, _, most, .int _, rfl⟩,
      ⟨_, _, family, .text _, rfl⟩, ⟨_, _, resumes, .bool _, rfl⟩, ⟨_, _, idle, .int _, rfl⟩,
      ⟨_, _, state, .text _, rfl⟩, ⟨_, _, owner, .text _, rfl⟩,
      ⟨_, _, created, .instant _, rfl⟩, ⟨_, _, comment, .text _, ?_⟩, by simp⟩
    show (if pool.comment = "" then none else _) = _
    by_cases silent : pool.comment = ""
    · simp [silent]
    · simp [silent, Ne.symm silent]
  · intro key value found
    show key ∈ (poolAttributes pool).map Prod.fst ++ ["comment"]
    rw [get?_attributes_pool] at found
    split at found
    next asked => simp [asked]
    next => exact List.mem_append_left _ (List.mem_map_of_mem (Table.mem_of_firstOf found))

theorem presents_repository {row : Row} {repository : ImageRepository}
    (gives : List.Forall₂ (fun column cell => column.Gives row cell) ImageRepository.columns
      repository.cells) :
    imageRepository.Names row repository.id.toIdentifier ∧
      imageRepository.Presents row (RepositoryResource.attributes repository) := by
  simp only [ImageRepository.columns, ImageRepository.cells, List.forall₂_cons] at gives
  obtain ⟨created, name, database, schema, url, owner, -, comment, -⟩ := gives
  refine ⟨?_, ?_, ?_⟩
  · show [row.get? "database_name", row.get? "schema_name", row.get? "name"] = [_, _, _]
    rw [get?_of_gives database, get?_of_gives schema, get?_of_gives name]
    rfl
  · have reading (key : String) :
        (RepositoryResource.attributes repository).get? key = firstOf key _ :=
      Table.get?_ofList_of_nodup (by simp) key
    simp only [shown, Shown.named, List.forall_mem_cons, reading]
    exact ⟨⟨_, _, name, .text _, rfl⟩, ⟨_, _, database, .text _, rfl⟩,
      ⟨_, _, schema, .text _, rfl⟩, ⟨_, _, url, .text _, rfl⟩, ⟨_, _, owner, .text _, rfl⟩,
      ⟨_, _, comment, .text _, rfl⟩, ⟨_, _, created, .instant _, rfl⟩, by simp⟩
  · intro key value found
    have last := Table.get?_ofList_eq_some_iff.mp found
    exact List.mem_map_of_mem (f := Prod.fst) last.mem

theorem exists_ofRow_iff {row : Row} :
    (∃ entry, kind.lookup.ofRow row = .ok entry) ↔ kind.Reads row := by
  cases kind with
  | computePool => exact exists_map_eq_ok_iff.trans ComputePool.readsBy.succeeds
  | imageRepository => exact exists_map_eq_ok_iff.trans ImageRepository.readsBy.succeeds

theorem presents_of_ofRow {row : Row} {attributes : Attributes}
    (read : kind.lookup.ofRow row = .ok (object, attributes)) :
    kind.Names row object ∧ kind.Presents row attributes := by
  cases kind with
  | computePool =>
      obtain ⟨pool, collapsed, same⟩ := map_eq_ok_iff.mp read
      obtain ⟨rfl, rfl⟩ := Prod.mk.inj same
      obtain ⟨_, gives, rfl⟩ := ComputePool.readsBy.gives collapsed
      exact presents_pool gives
  | imageRepository =>
      obtain ⟨repository, collapsed, same⟩ := map_eq_ok_iff.mp read
      obtain ⟨rfl, rfl⟩ := Prod.mk.inj same
      obtain ⟨_, gives, rfl⟩ := ImageRepository.readsBy.gives collapsed
      exact presents_repository gives

theorem Names.unique {row : Row} (names : kind.Names row object) (names' : kind.Names row other) :
    object = other := by
  have same : object.segments.map (fun segment => some (Cell.text segment)) =
      other.segments.map fun segment => some (.text segment) := names.symm.trans names'
  refine Identifier.eq_of_segments_eq ((List.map_inj_right ?_).mp same)
  intro segment segment' cells
  exact Cell.text.inj (Option.some.inj cells)

end ObjectKind

end Provision
