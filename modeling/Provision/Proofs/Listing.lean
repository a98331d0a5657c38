import Mathlib.Data.List.Forall2
import Provision.Proofs.Columns
import Provision.Proofs.ReadSoundness
import Provision.Proofs.SchemaValidity

/-!
What a data source lists. A listing holds one map for each row of the answer, in the order of the
rows, and stands under a name that no attribute can have been given; if a row cannot be read there
is no listing.
-/

namespace Provision

open Attempt Operation

namespace Row

theorem string_eq_ok_iff {row : Row} {column text : String} :
    row.string column = .ok text ↔ row.string? column = .ok (some text) :=
  required_eq_ok_iff

end Row

structure Listing where
  kind : ResourceKind
  ask : Config → Attributes → Except FaultCause Statement
  ofRow : Row → Conversion Value
  columns : List String

namespace Listing

def pools : Listing where
  kind := .computePools
  ask _ wanted := .showPools <$> PoolResource.showRequest wanted
  ofRow row := PoolResource.summary <$> ComputePool.ofRow row
  columns := ["name", "state", "instance_family", "comment"]

def repositories : Listing where
  kind := .imageRepositories
  ask config wanted := .showRepositories <$> RepositoryResource.showRequest config wanted
  ofRow row := RepositoryResource.summary <$> ImageRepository.ofRow row
  columns := ["name", "database_name", "schema_name", "repository_url", "owner", "comment"]

def ofType? (resourceType : String) : Option Listing :=
  match ResourceKind.ofName? resourceType with
  | some .computePools => some pools
  | some .imageRepositories => some repositories
  | _ => none

/-- The columns of the row as texts, empty where there is none. -/
def Shows (listing : Listing) (row : Row) (item : Value) : Prop :=
  ∃ entries, item = .map entries ∧ entries.map Prod.fst = listing.columns ∧
    ∀ entry ∈ entries, ∃ text?, row.string? entry.1 = .ok text? ∧
      entry.2 = .string (text?.getD "")

def state (listing : Listing) (resource : Resource) (rows : List Row) : Except Fault State :=
  match rows.mapM listing.ofRow with
  | .error error => .error
      (.about resource.id (.statement .list resource.id.resourceType (.conversion error)))
  | .ok items => .ok
      (.existing resource.id none (resource.attributes.insert listing.kind.name (.list items)))

/-- The state holds what was given, and beside it one item for each row, in the order of the rows,
under a name that was not given. -/
structure Reports (listing : Listing) (resource : Resource) (rows : List Row) (items : List Value)
    (state : State) : Prop where
  exists? : state.exists?
  id : state.id = resource.id
  read : List.Forall₂ (fun row item => listing.ofRow row = .ok item ∧ listing.Shows row item)
    rows items
  listed : state.attributes.get? resource.id.resourceType = some (.list items)
  fits : ∃ declared, listing.kind.schema.attribute? resource.id.resourceType = some declared ∧
    declared.type = .list (.map .string) ∧ declared.type.fault? (.list items) = none
  kept {key : String} {value : Value} : resource.attributes.get? key = some value →
    state.attributes.get? key = some value
  fresh : resource.attributes.get? resource.id.resourceType = none
  keys : state.attributes.keys = resource.attributes.keys ++ [resource.id.resourceType]

theorem ofType?_eq_some_iff {resourceType : String} {listing : Listing} :
    ofType? resourceType = some listing ↔
      resourceType = "compute_pools" ∧ listing = pools ∨
        resourceType = "image_repositories" ∧ listing = repositories := by
  constructor
  · intro supported
    simp only [ofType?] at supported
    split at supported
    next known => exact .inl ⟨ResourceKind.name_of_ofName? known, (Option.some.inj supported).symm⟩
    next known => exact .inr ⟨ResourceKind.name_of_ofName? known, (Option.some.inj supported).symm⟩
    next => simp at supported
  · rintro (⟨rfl, rfl⟩ | ⟨rfl, rfl⟩)
    · rfl
    · rfl

/-! A row that can be read gives its columns. -/

theorem shows_pools {row : Row} {item : Value} (read : pools.ofRow row = .ok item) :
    pools.Shows row item := by
  obtain ⟨pool, collapsed, rfl⟩ := map_eq_ok_iff.mp read
  obtain ⟨record, converted, rfl⟩ := map_eq_ok_iff.mp collapsed
  simp only [ComputePool.Record.ofRow, bind_eq_ok_iff, Row.string_eq_ok_iff] at converted
  obtain ⟨name, named, state, stated, _, -, _, -, family, grown, _, -, _, -, _, -, _, -, _, -, _, -,
    _, -, _, -, _, -, _, -, comment?, commented, same⟩ := converted
  obtain rfl := Except.ok.inj same
  refine ⟨_, rfl, rfl, ?_⟩
  simp only [List.forall_mem_cons]
  exact ⟨⟨_, named, rfl⟩, ⟨_, stated, rfl⟩, ⟨_, grown, rfl⟩, ⟨_, commented, rfl⟩, by simp⟩

theorem shows_repositories {row : Row} {item : Value} (read : repositories.ofRow row = .ok item) :
    repositories.Shows row item := by
  obtain ⟨repository, collapsed, rfl⟩ := map_eq_ok_iff.mp read
  obtain ⟨record, converted, rfl⟩ := map_eq_ok_iff.mp collapsed
  simp only [ImageRepository.Record.ofRow, bind_eq_ok_iff, Row.string_eq_ok_iff] at converted
  obtain ⟨_, -, name, named, database, within, schema, inside, url, served, owner, owned, _, -,
    comment?, commented, same⟩ := converted
  obtain rfl := Except.ok.inj same
  refine ⟨_, rfl, rfl, ?_⟩
  simp only [List.forall_mem_cons]
  exact ⟨⟨_, named, rfl⟩, ⟨_, within, rfl⟩, ⟨_, inside, rfl⟩, ⟨_, served, rfl⟩, ⟨_, owned, rfl⟩,
    ⟨_, commented, rfl⟩, by simp⟩

variable {listing : Listing} {resourceType : String}

theorem shows_of_ofRow {row : Row} {item : Value} (supported : ofType? resourceType = some listing)
    (read : listing.ofRow row = .ok item) : listing.Shows row item := by
  rcases ofType?_eq_some_iff.mp supported with ⟨-, rfl⟩ | ⟨-, rfl⟩
  · exact shows_pools read
  · exact shows_repositories read

theorem Shows.fault?_eq_none {row : Row} {item : Value} (shows : listing.Shows row item) :
    (AttributeType.map .string).fault? item = none := by
  obtain ⟨entries, rfl, -, texts⟩ := shows
  refine AttributeType.faultOfEntries_eq_none_iff.mpr fun entry member => ?_
  obtain ⟨text?, -, text⟩ := texts entry member
  rw [text]
  rfl

theorem fault?_list_eq_none {rows : List Row} {items : List Value}
    (shows : List.Forall₂ listing.Shows rows items) :
    (AttributeType.list (.map .string)).fault? (.list items) = none := by
  refine (AttributeType.faultOfItems_eq_none_iff 0).mpr ?_
  induction shows with
  | nil => simp
  | cons shown _ ih => exact List.forall_mem_cons.mpr ⟨shown.fault?_eq_none, ih⟩

theorem attribute?_kind_name (supported : ofType? resourceType = some listing) :
    listing.kind.schema.attribute? resourceType = some (ResourceKind.listing resourceType) ∧
      listing.kind.name = resourceType := by
  rcases ofType?_eq_some_iff.mp supported with ⟨rfl, rfl⟩ | ⟨rfl, rfl⟩
  · exact ⟨rfl, rfl⟩
  · exact ⟨rfl, rfl⟩

theorem get?_own_name {given : Attributes} (supported : ofType? resourceType = some listing)
    (passed : valid listing.kind.schema given = .ok ()) : given.get? resourceType = none := by
  cases set : given.get? resourceType with
  | none => rfl
  | some value =>
      obtain ⟨settable, -⟩ :=
        (valid_eq_ok_iff.mp passed).fits (attribute?_kind_name supported).1 set
      simp [ResourceKind.listing] at settable

end Listing

namespace Table

variable {α : Type}

theorem keys_insert_of_get?_eq_none {table : Table α} {key : String} (value : α)
    (absent : table.get? key = none) : (table.insert key value).keys = table.keys ++ [key] := by
  rw [keys, entries_insert_of_get?_eq_none value absent, List.map_append]
  rfl

end Table

namespace Operation

variable (connection : Connection) (before : List Statement)

theorem play_list (listing : Listing) {α : Type} {deadline? : Option Nat} {statement : Statement}
    {ofRow : Row → Conversion α} {summary : α → Value}
    (shows : listing.ofRow = fun row => summary <$> ofRow row) (resource : Resource) :
    play connection before (do
      let found ← performed .list resource.id (query deadline? statement ofRow)
      return State.existing resource.id none
        (resource.attributes.insert listing.kind.name (.list (found.map summary)))) =
    (match (play connection before (rows deadline? statement)).1 with
      | .ok rows => listing.state resource rows
      | .error failure =>
          .error (.about resource.id (.statement .list resource.id.resourceType failure)),
      (play connection before (rows deadline? statement)).2) := by
  rw [bind_pure_comp, play_map, play_performed, play_query]
  refine Prod.ext ?_ rfl
  cases (play connection before (rows deadline? statement)).1 with
  | error failure => rfl
  | ok rows =>
      show _ <$> (converted (rows.mapM ofRow)).mapError _ = listing.state resource rows
      rw [Listing.state, shows, mapM_map]
      cases rows.mapM ofRow with
      | error error => rfl
      | ok found => rfl

theorem play_readDataSource (config : Config) {resource : Resource} {listing : Listing}
    (supported : Listing.ofType? resource.id.resourceType = some listing) :
    play connection before (readDataSource config resource) =
      match valid listing.kind.schema resource.attributes with
      | .error cause => (.error (.about resource.id cause), before)
      | .ok _ =>
          match listing.ask config resource.attributes with
          | .error cause => (.error (.about resource.id cause), before)
          | .ok statement =>
              (match (play connection before (rows config.statementTimeout? statement)).1 with
                | .ok rows => listing.state resource rows
                | .error failure =>
                    .error (.about resource.id (.statement .list resource.id.resourceType failure)),
                (play connection before (rows config.statementTimeout? statement)).2) := by
  have known : ResourceKind.ofName? resource.id.resourceType = some listing.kind := by
    rcases Listing.ofType?_eq_some_iff.mp supported with ⟨named, rfl⟩ | ⟨named, rfl⟩
    · rw [named]; rfl
    · rw [named]; rfl
  simp only [readDataSource, kindOf, known, pure_bind]
  cases passed : valid listing.kind.schema resource.attributes with
  | error cause => exact play_bind_error (play_checked_error rfl) _
  | ok _ =>
      rw [play_bind_ok (play_checked_ok rfl)]
      rcases Listing.ofType?_eq_some_iff.mp supported with ⟨-, rfl⟩ | ⟨-, rfl⟩
      · simp only [Listing.pools]
        cases requested : PoolResource.showRequest resource.attributes with
        | error cause => exact play_bind_error (play_checked_error rfl) _
        | ok request =>
            rw [play_bind_ok (play_checked_ok rfl)]
            exact play_list connection before Listing.pools rfl resource
      · simp only [Listing.repositories]
        cases requested : RepositoryResource.showRequest config resource.attributes with
        | error cause => exact play_bind_error (play_checked_error rfl) _
        | ok request =>
            rw [play_bind_ok (play_checked_ok rfl)]
            exact play_list connection before Listing.repositories rfl resource

variable {resource : Resource} {listing : Listing} {rows : List Row}

theorem readDataSource_cases (config : Config)
    (supported : Listing.ofType? resource.id.resourceType = some listing) :
    (∃ fault, play connection before (readDataSource config resource) = (.error fault, before)) ∨
      valid listing.kind.schema resource.attributes = .ok () ∧ ∃ statement,
        play connection before (readDataSource config resource) =
          (match answer connection config.statementTimeout? before statement with
            | .ok rows => listing.state resource rows
            | .error failure =>
                .error (.about resource.id (.statement .list resource.id.resourceType failure)),
            before ++ [statement]) := by
  rw [play_readDataSource connection before config supported]
  cases passed : valid listing.kind.schema resource.attributes with
  | error cause => exact .inl ⟨_, rfl⟩
  | ok _ =>
      cases listing.ask config resource.attributes with
      | error cause => exact .inl ⟨_, rfl⟩
      | ok statement =>
          dsimp only
          by_cases accepted : statement.form.violations = []
          · rw [play_rows_accepted connection config.statementTimeout? before accepted]
            exact .inr ⟨rfl, statement, rfl⟩
          · rw [play_rows_refused connection config.statementTimeout? before accepted]
            exact .inl ⟨_, rfl⟩

theorem forall₂_read {items : List Value}
    (supported : Listing.ofType? resource.id.resourceType = some listing)
    (read : rows.map listing.ofRow = items.map .ok) :
    List.Forall₂ (fun row item => listing.ofRow row = .ok item ∧ listing.Shows row item)
      rows items := by
  rw [← List.forall₂_eq_eq_eq, List.forall₂_map_left_iff, List.forall₂_map_right_iff] at read
  exact read.imp fun row item same => ⟨same, Listing.shows_of_ofRow supported same⟩

theorem reports_of_state {state : State}
    (supported : Listing.ofType? resource.id.resourceType = some listing)
    (passed : valid listing.kind.schema resource.attributes = .ok ())
    (reached : listing.state resource rows = .ok state) :
    ∃ items, listing.Reports resource rows items state := by
  obtain ⟨declared, named⟩ := Listing.attribute?_kind_name supported
  have fresh := Listing.get?_own_name supported passed
  rw [Listing.state] at reached
  cases read : rows.mapM listing.ofRow with
  | error error => simp [read] at reached
  | ok items =>
      rw [read, named] at reached
      obtain rfl := Except.ok.inj reached
      have shown := forall₂_read supported (mapM_eq_ok_iff.mp read)
      refine ⟨items, rfl, rfl, shown, ?_, ⟨_, declared, rfl, ?_⟩, ?_, fresh, ?_⟩
      · exact (Table.get?_insert ..).trans (if_pos rfl)
      · exact Listing.fault?_list_eq_none (shown.imp fun _ _ both => both.2)
      · intro key value given
        have other : key ≠ resource.id.resourceType := by
          rintro rfl
          simp [fresh] at given
        exact (Table.get?_insert ..).trans ((if_neg other).trans given)
      · exact Table.keys_insert_of_get?_eq_none _ fresh

theorem state_of_read (read : ∀ row ∈ rows, ∃ item, listing.ofRow row = .ok item) :
    ∃ state, listing.state resource rows = .ok state := by
  rw [Listing.state]
  cases found : rows.mapM listing.ofRow with
  | ok items => exact ⟨_, rfl⟩
  | error error =>
      obtain ⟨row, member, unread⟩ := mapM_error found
      obtain ⟨item, converted⟩ := read row member
      simp [converted] at unread

theorem state_of_unread {row : Row} {error : ConversionError} (member : row ∈ rows)
    (unread : listing.ofRow row = .error error) :
    ∃ earlier first later cause, rows = earlier ++ first :: later ∧
      (∀ other ∈ earlier, ∃ item, listing.ofRow other = .ok item) ∧
      listing.ofRow first = .error cause ∧
      listing.state resource rows = .error
        (.about resource.id (.statement .list resource.id.resourceType (.conversion cause))) := by
  obtain ⟨cause, failed⟩ := mapM_eq_error_iff.mpr ⟨row, member, error, unread⟩
  obtain ⟨earlier, first, later, split, passed, failing⟩ := mapM_first_error_iff.mp failed
  exact ⟨earlier, first, later, cause, split, passed, failing, by rw [Listing.state, failed]⟩

/-- A data source that succeeds reports what each row of the answer shows, and keeps what it was
given. It succeeds if all rows of the answer can be read; otherwise it fails by the first one that
cannot. -/
theorem listing_all_or_nothing (config : Config) (connection : Connection)
    (before : List Statement) (resource : Resource) (listing : Listing)
    (supported : Listing.ofType? resource.id.resourceType = some listing) :
    let outcome := play connection before (readDataSource config resource)
    (∀ state, outcome.1 = .ok state →
      ∃ statement rows items, outcome.2 = before ++ [statement] ∧
        answer connection config.statementTimeout? before statement = .ok rows ∧
        listing.Reports resource rows items state) ∧
    ∀ statement rows, outcome.2 = before ++ [statement] →
      answer connection config.statementTimeout? before statement = .ok rows →
      ((∀ row ∈ rows, ∃ item, listing.ofRow row = .ok item) → ∃ state, outcome.1 = .ok state) ∧
      ∀ row ∈ rows, ∀ error, listing.ofRow row = .error error →
        ∃ earlier first later cause, rows = earlier ++ first :: later ∧
          (∀ other ∈ earlier, ∃ item, listing.ofRow other = .ok item) ∧
          listing.ofRow first = .error cause ∧
          outcome.1 = .error (.about resource.id
            (.statement .list resource.id.resourceType (.conversion cause))) := by
  dsimp only
  rcases readDataSource_cases connection before config supported with
    ⟨fault, played⟩ | ⟨passed, asked, played⟩
  · simp [played]
  · rw [played]
    refine ⟨fun state succeeded => ?_, fun statement rows sent answered => ?_⟩
    · cases answered : answer connection config.statementTimeout? before asked with
      | error failure => simp [answered] at succeeded
      | ok rows =>
          rw [answered] at succeeded
          obtain ⟨items, reports⟩ := reports_of_state supported passed succeeded
          exact ⟨asked, rows, items, rfl, answered, reports⟩
    · obtain rfl : asked = statement := by simpa using sent
      rw [answered]
      exact ⟨state_of_read, fun row member error unread => state_of_unread member unread⟩

def repositoriesLike : Resource where
  id := ⟨"image_repositories", "all"⟩
  attributes := .ofList [("like", .string "R%")]

theorem sent_repositoriesLike (connection : Connection) :
    (play connection [] (readDataSource {} repositoriesLike)).2 =
      [.showRepositories { like? := some "R%" }] := by
  have passed : valid ResourceKind.imageRepositories.schema repositoriesLike.attributes = .ok () :=
    valid_eq_ok_iff.mpr (Schema.faults_eq_nil_iff.mp (Schema.faults_eq_nil_of (by rfl) (by rfl)))
  have asked : Listing.repositories.ask {} repositoriesLike.attributes =
      .ok (.showRepositories { like? := some "R%" }) := rfl
  have accepted :
      (Statement.showRepositories { like? := some "R%" }).form.violations = [] := by decide
  rw [play_readDataSource connection [] {} (show _ = some Listing.repositories from rfl),
    show valid Listing.repositories.kind.schema _ = _ from passed, asked]
  dsimp only
  rw [play_rows_accepted connection _ [] accepted]
  rfl

def torn : Connection := fun _ _ =>
  ⟨0, .ok [repositoryRow "R1" "first", .empty, repositoryRow "R3" "third"]⟩

theorem readable_repositoryRow (name url : String) :
    ∃ item, Listing.repositories.ofRow (repositoryRow name url) = .ok item := by
  have read := exists_map_eq_ok_iff.mp ⟨_, ofRow_repositoryRow name url⟩
  exact exists_map_eq_ok_iff.mpr read

theorem listing_whole_or_torn :
    (∃ rows items state, rows.length = 3 ∧
      (play lookalikes [] (readDataSource {} repositoriesLike)).1 = .ok state ∧
      Listing.repositories.Reports repositoriesLike rows items state) ∧
    (play torn [] (readDataSource {} repositoriesLike)).1 = .error
      (.about repositoriesLike.id
        (.statement .list "image_repositories" (.conversion ⟨"created_on", .missing⟩))) := by
  have supported : Listing.ofType? repositoriesLike.id.resourceType = some .repositories := rfl
  constructor
  · obtain ⟨succeeds, answers⟩ :=
      listing_all_or_nothing {} lookalikes [] repositoriesLike .repositories supported
    obtain ⟨reads, -⟩ := answers _ _ (sent_repositoriesLike lookalikes) rfl
    obtain ⟨state, succeeded⟩ := reads (by simp [readable_repositoryRow])
    obtain ⟨statement, rows, items, sent, answered, reports⟩ := succeeds state succeeded
    obtain rfl := Except.ok.inj answered
    exact ⟨_, items, state, rfl, succeeded, reports⟩
  · obtain ⟨-, answers⟩ :=
      listing_all_or_nothing {} torn [] repositoriesLike .repositories supported
    obtain ⟨-, fails⟩ := answers _ _ (sent_repositoriesLike torn) rfl
    have unread : Listing.repositories.ofRow .empty = .error ⟨"created_on", .missing⟩ := rfl
    obtain ⟨earlier, first, later, cause, split, -, failing, failed⟩ :=
      fails .empty (by simp) _ unread
    have member : first ∈ [repositoryRow "R1" "first", .empty, repositoryRow "R3" "third"] := by
      rw [split]
      simp
    -- Of the three rows only the empty one cannot be read, so it is the first.
    simp only [List.mem_cons, List.not_mem_nil, or_false] at member
    rcases member with rfl | rfl | rfl
    · obtain ⟨item, read⟩ := readable_repositoryRow "R1" "first"
      simp [read] at failing
    · obtain rfl := Except.error.inj (unread.symm.trans failing)
      exact failed
    · obtain ⟨item, read⟩ := readable_repositoryRow "R3" "third"
      simp [read] at failing

end Operation

end Provision
