import Provision.Proofs.Acceptance
import Provision.Proofs.ObjectKinds

/-!
A read reports what the platform has just shown. An object exists when it was asked for, the answer
could be read row by row, and a row shows it; it is absent when all this holds but for the row; in
every other case the read fails, so no failure is taken for absence.
-/

namespace Provision

open Attempt Operation

namespace Lookup

theorem decode_of_ask {resourceType : String} {lookup : Lookup} {identifier : String}
    {object : Identifier} {request : Statement}
    (supported : ofType? resourceType = some lookup)
    (asked : lookup.ask identifier = .ok (object, request)) :
    Identifier.decode identifier = .ok object := by
  rcases ofType?_eq_some_iff.mp supported with ⟨-, rfl⟩ | ⟨-, rfl⟩
  · obtain ⟨pool, decoded, asked⟩ := bind_eq_ok_iff.mp asked
    obtain ⟨rfl, -⟩ := Prod.mk.inj (Except.ok.inj asked)
    exact accountId_eq_ok_iff.mp decoded
  · obtain ⟨repository, decoded, asked⟩ := bind_eq_ok_iff.mp asked
    obtain ⟨rfl, -⟩ := Prod.mk.inj (Except.ok.inj asked)
    exact schemaId_eq_ok_iff.mp decoded

def Answered (lookup : Lookup) (config : Config) (connection : Connection)
    (before sent : List Statement) (identifier : String) (object : Identifier)
    (shown : List (Identifier × Attributes)) : Prop :=
  ∃ request rows, lookup.ask identifier = .ok (object, request) ∧ sent = before ++ [request] ∧
    answer connection config.statementTimeout? before request = .ok rows ∧
    rows.map lookup.ofRow = shown.map .ok

def Fails (lookup : Lookup) (config : Config) (connection : Connection) (before : List Statement)
    (identifier : String) : Prop :=
  (∃ cause, lookup.ask identifier = .error cause) ∨
    ∃ object request, lookup.ask identifier = .ok (object, request) ∧
      (request.form.violations ≠ [] ∨
        (∃ failure, answer connection config.statementTimeout? before request = .error failure) ∨
        ∃ rows, answer connection config.statementTimeout? before request = .ok rows ∧
          ∃ row ∈ rows, ∃ error, lookup.ofRow row = .error error)

theorem Answered.unique {lookup : Lookup} {config : Config} {connection : Connection}
    {before sent : List Statement} {identifier : String} {object other : Identifier}
    {shown others : List (Identifier × Attributes)}
    (first : lookup.Answered config connection before sent identifier object shown)
    (second : lookup.Answered config connection before sent identifier other others) :
    object = other ∧ shown = others := by
  obtain ⟨request, rows, asked, -, answered, read⟩ := first
  obtain ⟨request', rows', asked', -, answered', read'⟩ := second
  obtain ⟨rfl, rfl⟩ := Prod.mk.inj (Except.ok.inj (asked.symm.trans asked'))
  obtain rfl := Except.ok.inj (answered.symm.trans answered')
  have same : shown.map (Except.ok (ε := ConversionError)) = others.map .ok := read.symm.trans read'
  exact ⟨rfl, (List.map_inj_right fun _ _ => Except.ok.inj).mp same⟩

end Lookup

theorem read_cases (config : Config) (connection : Connection) (before : List Statement)
    {id : ResourceId} {lookup : Lookup} (identifier : String)
    (supported : Lookup.ofType? id.resourceType = some lookup) :
    (lookup.Fails config connection before identifier ∧
      ∃ fault, (play connection before (read config id (some identifier))).1 = .error fault) ∨
    ∃ object shown,
      lookup.Answered config connection before
        (play connection before (read config id (some identifier))).2 identifier object shown ∧
      (play connection before (read config id (some identifier))).1 =
        match shown.find? fun entry => entry.1 = object with
        | some entry => .ok (.existing id (some identifier) entry.2)
        | none => .ok (.absent id) := by
  rw [play_read connection before config identifier supported]
  cases asked : lookup.ask identifier with
  | error cause => exact .inl ⟨.inl ⟨cause, asked⟩, .about id cause, rfl⟩
  | ok question =>
      obtain ⟨object, request⟩ := question
      dsimp only
      by_cases accepted : request.form.violations = []
      · rw [play_rows_accepted connection config.statementTimeout? before accepted]
        cases answered : answer connection config.statementTimeout? before request with
        | error failure =>
            exact .inl ⟨.inr ⟨object, request, asked, .inr (.inl ⟨failure, answered⟩)⟩, _, rfl⟩
        | ok rows =>
            dsimp only [Lookup.state]
            cases read : rows.mapM lookup.ofRow with
            | error error =>
                have unread := mapM_eq_error_iff.mp ⟨error, read⟩
                exact .inl ⟨.inr ⟨object, request, asked, .inr (.inr ⟨rows, answered, unread⟩)⟩,
                  _, rfl⟩
            | ok shown =>
                exact .inr ⟨object, shown,
                  ⟨request, rows, asked, rfl, answered, mapM_eq_ok_iff.mp read⟩, rfl⟩
      · rw [play_rows_refused connection config.statementTimeout? before accepted]
        exact .inl ⟨.inr ⟨object, request, asked, .inl accepted⟩, _, rfl⟩

theorem not_fails_of_answered {config : Config} {connection : Connection}
    {before : List Statement} {id : ResourceId} {lookup : Lookup} {identifier : String}
    {object : Identifier} {shown : List (Identifier × Attributes)}
    (supported : Lookup.ofType? id.resourceType = some lookup)
    (answered : lookup.Answered config connection before
      (play connection before (read config id (some identifier))).2 identifier object shown) :
    ¬lookup.Fails config connection before identifier := by
  obtain ⟨request, rows, asked, sent, answer, read⟩ := answered
  rintro (⟨cause, misshapen⟩ | ⟨object', request', asked', failing⟩)
  · simp [misshapen] at asked
  · obtain ⟨rfl, rfl⟩ := Prod.mk.inj (Except.ok.inj (asked.symm.trans asked'))
    rcases failing with refused | ⟨failure, failed⟩ | ⟨rows', answer', unread⟩
    · rw [play_read connection before config identifier supported, asked] at sent
      dsimp only at sent
      rw [play_rows_refused connection config.statementTimeout? before refused] at sent
      simp at sent
    · simp [failed] at answer
    · obtain rfl := Except.ok.inj (answer.symm.trans answer')
      obtain ⟨error, failed⟩ := mapM_eq_error_iff.mpr unread
      simp [mapM_eq_ok_iff.mpr read] at failed

section

variable {config : Config} {connection : Connection} {before : List Statement} {id : ResourceId}
  {lookup : Lookup} {identifier : String}

theorem read_of_answered {object : Identifier} {shown : List (Identifier × Attributes)}
    (supported : Lookup.ofType? id.resourceType = some lookup)
    (answered : lookup.Answered config connection before
      (play connection before (read config id (some identifier))).2 identifier object shown) :
    (play connection before (read config id (some identifier))).1 =
      match shown.find? fun entry => entry.1 = object with
      | some entry => .ok (.existing id (some identifier) entry.2)
      | none => .ok (.absent id) := by
  rcases read_cases config connection before identifier supported with
    ⟨fails, -⟩ | ⟨other, others, answered', found⟩
  · exact absurd fails (not_fails_of_answered supported answered)
  · obtain ⟨rfl, rfl⟩ := answered.unique answered'
    exact found

theorem read_of_ask {object : Identifier} {request : Statement} {state : State}
    (supported : Lookup.ofType? id.resourceType = some lookup)
    (asked : lookup.ask identifier = .ok (object, request))
    (reported : (play connection before (read config id (some identifier))).1 = .ok state) :
    ∃ shown,
      lookup.Answered config connection before
        (play connection before (read config id (some identifier))).2 identifier object shown ∧
      state = match shown.find? fun entry => entry.1 = object with
        | some entry => .existing id (some identifier) entry.2
        | none => .absent id := by
  rcases read_cases config connection before identifier supported with
    ⟨-, fault, failed⟩ | ⟨other, shown, answered, found⟩
  · simp [reported] at failed
  · obtain ⟨request', rows, asked', rest⟩ := answered
    obtain ⟨rfl, rfl⟩ := Prod.mk.inj (Except.ok.inj (asked.symm.trans asked'))
    refine ⟨shown, ⟨request, rows, asked, rest⟩, ?_⟩
    rw [reported] at found
    cases first : shown.find? fun entry => entry.1 = object with
    | some entry => simpa only [first, Except.ok.injEq] using found
    | none => simpa only [first, Except.ok.injEq] using found

theorem read_existing (supported : Lookup.ofType? id.resourceType = some lookup) {state : State}
    (reported : (play connection before (read config id (some identifier))).1 = .ok state)
    (present : state.exists?) :
    ∃ object shown entry,
      lookup.Answered config connection before
        (play connection before (read config id (some identifier))).2 identifier object shown ∧
      shown.find? (fun entry => entry.1 = object) = some entry ∧
      state = .existing id (some identifier) entry.2 := by
  rcases read_cases config connection before identifier supported with
    ⟨-, fault, failed⟩ | ⟨object, shown, answered, found⟩
  · simp [reported] at failed
  · rw [reported] at found
    cases first : shown.find? fun entry => entry.1 = object with
    | some entry =>
        rw [first] at found
        exact ⟨object, shown, entry, answered, first, Except.ok.inj found⟩
    | none =>
        rw [first] at found
        obtain rfl := Except.ok.inj found
        simp [State.exists?] at present

end

namespace ObjectKind

/-- The text stores the object, the one statement that was sent asked for it, and every row of the
answer can be read. -/
structure Answered (kind : ObjectKind) (config : Config) (connection : Connection)
    (before sent : List Statement) (identifier : String) (object : Identifier)
    (rows : List Row) : Prop where
  stores : kind.Stores identifier object
  sends : sent = before ++ [kind.question object]
  asks : (kind.question object).sql = kind.questionText object
  answers : answer connection config.statementTimeout? before (kind.question object) = .ok rows
  reads : ∀ row ∈ rows, kind.Reads row

def Fails (kind : ObjectKind) (config : Config) (connection : Connection)
    (before : List Statement) (identifier : String) : Prop :=
  (∀ object, ¬kind.Stores identifier object) ∨
    ∃ object, kind.Stores identifier object ∧
      ((kind.question object).form.violations ≠ [] ∨
        (∃ failure, answer connection config.statementTimeout? before (kind.question object) =
          .error failure) ∨
        ∃ rows, answer connection config.statementTimeout? before (kind.question object) =
            .ok rows ∧ ∃ row ∈ rows, ¬kind.Reads row)

structure FirstShown (kind : ObjectKind) (rows : List Row) (object : Identifier) (row : Row)
    (attributes : Attributes) : Prop where
  first : rows.find? (kind.Names · object) = some row
  read : kind.lookup.ofRow row = .ok (object, attributes)
  presents : kind.Presents row attributes

variable {kind : ObjectKind} {config : Config} {connection : Connection}
  {before sent : List Statement} {identifier : String} {object other : Identifier}
  {rows others : List Row} {shown : List (Identifier × Attributes)} {id : ResourceId}

theorem supported (typed : id.resourceType = kind.resourceType) :
    Lookup.ofType? id.resourceType = some kind.lookup := by
  rw [typed]
  cases kind <;> rfl

theorem reads_iff_exists_shown :
    (∀ row ∈ rows, kind.Reads row) ↔
      ∃ shown : List (Identifier × Attributes), rows.map kind.lookup.ofRow = shown.map .ok := by
  simp only [← exists_ofRow_iff]
  induction rows with
  | nil => exact iff_of_true (by simp) ⟨[], rfl⟩
  | cons row rest ih =>
      rw [List.forall_mem_cons, ih]
      constructor
      · rintro ⟨⟨entry, read⟩, shown, others⟩
        exact ⟨entry :: shown, by simp [read, others]⟩
      · rintro ⟨shown, read⟩
        cases shown with
        | nil => simp at read
        | cons entry shown =>
            obtain ⟨first, others⟩ := List.cons.inj read
            exact ⟨⟨entry, first⟩, shown, others⟩

theorem lookup_answered_iff :
    kind.lookup.Answered config connection before sent identifier object shown ↔
      ∃ rows, kind.Answered config connection before sent identifier object rows ∧
        rows.map kind.lookup.ofRow = shown.map .ok := by
  constructor
  · rintro ⟨request, rows, asked, sends, answers, read⟩
    obtain ⟨stores, rfl⟩ := lookup_ask_eq_ok_iff.mp asked
    exact ⟨rows, ⟨stores, sends, sql_question stores.depth, answers,
      reads_iff_exists_shown.mpr ⟨shown, read⟩⟩, read⟩
  · rintro ⟨rows, answered, read⟩
    exact ⟨_, rows, lookup_ask_eq_ok_iff.mpr ⟨answered.stores, rfl⟩, answered.sends,
      answered.answers, read⟩

theorem not_reads_iff {row : Row} :
    ¬kind.Reads row ↔ ∃ error, kind.lookup.ofRow row = .error error := by
  rw [← exists_ofRow_iff]
  cases kind.lookup.ofRow row with
  | ok entry => simp
  | error error => simp

theorem not_stores_iff :
    (∀ object, ¬kind.Stores identifier object) ↔
      ∃ cause, kind.lookup.ask identifier = .error cause := by
  cases asked : kind.lookup.ask identifier with
  | ok found =>
      obtain ⟨object, request⟩ := found
      have stores := (lookup_ask_eq_ok_iff.mp asked).1
      exact iff_of_false (fun none => none object stores) (by simp)
  | error cause =>
      refine iff_of_true (fun object stores => ?_) ⟨cause, rfl⟩
      have found := lookup_ask_eq_ok_iff.mpr ⟨stores, rfl⟩
      simp [asked] at found

theorem lookup_fails_iff :
    kind.lookup.Fails config connection before identifier ↔
      kind.Fails config connection before identifier := by
  simp only [Lookup.Fails, Fails, not_stores_iff, not_reads_iff, lookup_ask_eq_ok_iff]
  refine or_congr_right ⟨?_, ?_⟩
  · rintro ⟨object, request, ⟨stores, rfl⟩, failing⟩
    exact ⟨object, stores, failing⟩
  · rintro ⟨object, stores, failing⟩
    exact ⟨object, _, ⟨stores, rfl⟩, failing⟩

theorem names_iff {row : Row} {entry : Identifier × Attributes}
    (read : kind.lookup.ofRow row = .ok entry) : kind.Names row object ↔ entry.1 = object := by
  have names := (presents_of_ofRow read).1
  constructor
  · exact names.unique
  · rintro rfl
    exact names

theorem map_find?_names (read : rows.map kind.lookup.ofRow = shown.map .ok)
    (object : Identifier) :
    (rows.find? (kind.Names · object)).map kind.lookup.ofRow =
      (shown.find? fun entry => entry.1 = object).map .ok := by
  induction rows generalizing shown with
  | nil =>
      obtain rfl : shown = [] := by simpa using read.symm
      rfl
  | cons row rest ih =>
      cases shown with
      | nil => simp at read
      | cons entry shown =>
          obtain ⟨first, others⟩ := List.cons.inj read
          by_cases names : entry.1 = object
          · simp [names_iff first, names, first]
          · simpa [names_iff first, names] using ih others

theorem read_rows (config : Config) (connection : Connection) (before : List Statement)
    (identifier : String) (typed : id.resourceType = kind.resourceType) :
    let outcome := play connection before (read config id (some identifier))
    (kind.Fails config connection before identifier ∧ ∃ fault, outcome.1 = .error fault) ∨
    ∃ object rows, kind.Answered config connection before outcome.2 identifier object rows ∧
      ((∃ row attributes, kind.FirstShown rows object row attributes ∧
          outcome.1 = .ok (.existing id (some identifier) attributes)) ∨
        (∀ row ∈ rows, ¬kind.Names row object) ∧ outcome.1 = .ok (.absent id)) := by
  intro outcome
  rcases read_cases config connection before identifier (supported typed) with
    ⟨fails, failed⟩ | ⟨object, shown, answered, found⟩
  · exact .inl ⟨lookup_fails_iff.mp fails, failed⟩
  · obtain ⟨rows, answered, read⟩ := lookup_answered_iff.mp answered
    have searched := map_find?_names read object
    refine .inr ⟨object, rows, answered, ?_⟩
    cases first : shown.find? fun entry => entry.1 = object with
    | some entry =>
        rw [first] at searched found
        obtain ⟨row, named, shows⟩ := Option.map_eq_some_iff.mp searched
        obtain rfl : entry.1 = object := by simpa using List.find?_some first
        exact .inl ⟨row, entry.2, ⟨named, shows, (presents_of_ofRow shows).2⟩, found⟩
    | none =>
        rw [first] at searched found
        exact .inr ⟨by simpa using Option.map_eq_none_iff.mp searched, found⟩

theorem Answered.unique
    (first : kind.Answered config connection before sent identifier object rows)
    (second : kind.Answered config connection before sent identifier other others) :
    object = other ∧ rows = others := by
  obtain rfl := first.stores.unique second.stores
  exact ⟨rfl, Except.ok.inj (first.answers.symm.trans second.answers)⟩

theorem Answered.not_fails (typed : id.resourceType = kind.resourceType)
    (answered : kind.Answered config connection before
      (play connection before (read config id (some identifier))).2 identifier object rows) :
    ¬kind.Fails config connection before identifier := by
  obtain ⟨shown, read⟩ := reads_iff_exists_shown.mp answered.reads
  rw [← lookup_fails_iff]
  exact not_fails_of_answered (supported typed) (lookup_answered_iff.mpr ⟨rows, answered, read⟩)

theorem FirstShown.names {row : Row} {attributes : Attributes}
    (shown : kind.FirstShown rows object row attributes) : ∃ row ∈ rows, kind.Names row object :=
  ⟨row, List.mem_of_find?_eq_some shown.first, by simpa using List.find?_some shown.first⟩

end ObjectKind

/-- A read reports an object as existing exactly when it was asked for, the whole answer could be
read and a row names it, with the attributes of the first such row; it reports it as absent exactly
when there is no identifier or the whole answer could be read and no row names it; and it fails
exactly when the question or the answer does. -/
theorem read_exact (config : Config) (connection : Connection) (before : List Statement)
    (id : ResourceId) (kind : ObjectKind) (identifier? : Option String)
    (typed : id.resourceType = kind.resourceType) :
    let outcome := play connection before (read config id identifier?)
    ((∃ state, outcome.1 = .ok state ∧ state.exists?) ↔
      ∃ identifier object rows, identifier? = some identifier ∧
        kind.Answered config connection before outcome.2 identifier object rows ∧
        ∃ row ∈ rows, kind.Names row object) ∧
    (∀ state, outcome.1 = .ok state → state.exists? →
      ∃ identifier object rows row attributes, identifier? = some identifier ∧
        kind.Answered config connection before outcome.2 identifier object rows ∧
        kind.FirstShown rows object row attributes ∧
        state = .existing id (some identifier) attributes ∧ object.encode = identifier) ∧
    ((∃ state, outcome.1 = .ok state ∧ ¬state.exists?) ↔
      identifier? = none ∨ ∃ identifier object rows, identifier? = some identifier ∧
        kind.Answered config connection before outcome.2 identifier object rows ∧
        ∀ row ∈ rows, ¬kind.Names row object) ∧
    ((∃ fault, outcome.1 = .error fault) ↔
      ∃ identifier, identifier? = some identifier ∧
        kind.Fails config connection before identifier) := by
  intro outcome
  cases identifier? with
  | none =>
      have absent : outcome.1 = .ok (.absent id) := rfl
      simp [absent, State.exists?]
  | some identifier =>
      simp only [Option.some.injEq, exists_and_left, exists_eq_left', reduceCtorEq, false_or]
      rcases ObjectKind.read_rows config connection before identifier typed with
        ⟨fails, fault, failed⟩ | ⟨object, rows, answered, reported⟩
      · have unanswered {object : Identifier} {rows : List Row} :
            ¬kind.Answered config connection before outcome.2 identifier object rows :=
          fun answered => answered.not_fails typed fails
        have ended : outcome.1 = .error fault := failed
        simp [ended, unanswered, fails]
      · have unfailed := answered.not_fails typed
        rcases reported with ⟨row, attributes, shown, existing⟩ | ⟨unnamed, absent⟩
        · have ended : outcome.1 = .ok (.existing id (some identifier) attributes) := existing
          refine ⟨iff_of_true ⟨_, ended, rfl⟩ ⟨object, rows, answered, shown.names⟩, ?_,
            iff_of_false ?_ ?_, iff_of_false (by simp [ended]) unfailed⟩
          · intro state reported _
            obtain rfl := Except.ok.inj (ended.symm.trans reported)
            exact ⟨object, rows, answered, row, attributes, shown, rfl, answered.stores.encoded⟩
          · simp [ended, State.exists?]
          · rintro ⟨object', rows', answered', unnamed⟩
            obtain ⟨rfl, rfl⟩ := answered.unique answered'
            obtain ⟨row, member, names⟩ := shown.names
            exact unnamed row member names
        · have ended : outcome.1 = .ok (.absent id) := absent
          refine ⟨iff_of_false ?_ ?_, ?_, iff_of_true ⟨_, ended, by simp [State.exists?]⟩
            ⟨object, rows, answered, unnamed⟩, iff_of_false (by simp [ended]) unfailed⟩
          · simp [ended, State.exists?]
          · rintro ⟨object', rows', answered', row, member, names⟩
            obtain ⟨rfl, rfl⟩ := answered.unique answered'
            exact unnamed row member names
          · intro state reported present
            obtain rfl := Except.ok.inj (ended.symm.trans reported)
            simp [State.exists?] at present

def repositoryRow (name url : String) : Row :=
  .ofCells [
    ("created_on", .instant .epoch),
    ("name", .text name),
    ("database_name", .text "DB"),
    ("schema_name", .text "SC"),
    ("repository_url", .text url),
    ("owner", .text "ADMIN")]

def shownRepository (name url : String) : Identifier × Attributes :=
  (.schema ⟨"DB", "SC", name⟩, RepositoryResource.attributes {
    createdOn := .epoch, name, databaseName := "DB", schemaName := "SC", repositoryUrl := url,
    owner := "ADMIN", ownerRoleType := "", comment := "" })

theorem ofRow_repositoryRow (name url : String) :
    Lookup.repositories.ofRow (repositoryRow name url) = .ok (shownRepository name url) := by
  simp [Lookup.repositories, ImageRepository.ofRow, ImageRepository.Record.ofRow, Row.instant,
    Row.string, Row.string?, Row.instant?, Row.read?, Row.given?, Row.get?, repositoryRow,
    Row.ofCells, Row.set, Table.get?_insert, Row.empty, Row.lowered]
  rfl

/-- The name in other letters comes first, and the repository itself comes twice. -/
def lookalikes : Connection := fun _ _ =>
  ⟨0, .ok [
    repositoryRow "repo" "first", repositoryRow "REPO" "second", repositoryRow "REPO" "third"]⟩

theorem answered_lookalikes :
    Lookup.repositories.Answered {} lookalikes []
      (play lookalikes [] (read {} ⟨"image_repository", "images"⟩ (some "DB|SC|REPO"))).2
      "DB|SC|REPO" (.schema ⟨"DB", "SC", "REPO"⟩)
      [shownRepository "repo" "first", shownRepository "REPO" "second",
        shownRepository "REPO" "third"] := by
  let request : Statement :=
    .showRepositories { like? := some "REPO", scope? := some (.ofSchema ⟨"DB", "SC"⟩) }
  have asked : Lookup.repositories.ask "DB|SC|REPO" =
      .ok (.schema ⟨"DB", "SC", "REPO"⟩, request) := Lookup.ask_repositories rfl
  have accepted : request.form.violations = [] :=
    (Statement.showRepositories_inSchema_accepted_iff "REPO" ⟨"DB", "SC"⟩).mpr (by decide)
  refine ⟨request, _, asked, ?_, rfl, by simp [ofRow_repositoryRow]⟩
  rw [play_read lookalikes [] {} "DB|SC|REPO" (show _ = some Lookup.repositories from rfl), asked]
  dsimp only
  rw [play_rows_accepted lookalikes _ [] accepted]

theorem find?_lookalikes :
    [repositoryRow "repo" "first", repositoryRow "REPO" "second",
        repositoryRow "REPO" "third"].find?
          (ObjectKind.imageRepository.Names · (.schema ⟨"DB", "SC", "REPO"⟩)) =
      some (repositoryRow "REPO" "second") := by
  have names (name url : String) :
      ObjectKind.imageRepository.Names (repositoryRow name url) (.schema ⟨"DB", "SC", "REPO"⟩) ↔
        name = "REPO" := by
    have read : ObjectKind.imageRepository.lookup.ofRow (repositoryRow name url) = _ :=
      ofRow_repositoryRow name url
    rw [ObjectKind.names_iff read]
    simp [shownRepository]
  simp [names]

theorem read_first_exact_row :
    (play lookalikes [] (read {} ⟨"image_repository", "images"⟩ (some "DB|SC|REPO"))).1 =
      .ok (.existing ⟨"image_repository", "images"⟩ (some "DB|SC|REPO")
        (shownRepository "REPO" "second").2) := by
  obtain ⟨existing, reported, -⟩ :=
    read_exact {} lookalikes [] ⟨"image_repository", "images"⟩ .imageRepository
      (some "DB|SC|REPO") rfl
  obtain ⟨rows, answered, -⟩ := ObjectKind.lookup_answered_iff.mp
    (show ObjectKind.imageRepository.lookup.Answered _ _ _ _ _ _ _ from answered_lookalikes)
  have answers : answer lookalikes none [] _ = .ok rows := answered.answers
  obtain rfl := Except.ok.inj answers
  obtain ⟨state, found, present⟩ := existing.mpr ⟨_, _, _, rfl, answered, _,
    List.mem_of_find?_eq_some find?_lookalikes, by simpa using List.find?_some find?_lookalikes⟩
  obtain ⟨identifier, object, rows, row, attributes, same, answered', shown, rfl, -⟩ :=
    reported state found present
  obtain rfl := Option.some.inj same
  obtain ⟨rfl, rfl⟩ := answered.unique answered'
  obtain rfl := Option.some.inj (find?_lookalikes.symm.trans shown.first)
  have second := Except.ok.inj ((ofRow_repositoryRow "REPO" "second").symm.trans shown.read)
  rw [second]
  exact found

end Provision
