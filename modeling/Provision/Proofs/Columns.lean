import Provision.ComputePool
import Provision.ImageRepository
import Provision.Proofs.Conversation
import Provision.Proofs.Numerals

/-!
How a row is read. Every column that a record declares is asked for under one type; it has to hold
a cell that can be read as that type, or may be blank where the record has no need of it. Nothing
else of the row is looked at: the columns give what the record holds, and the first that does not
fit is the one reported.
-/

namespace Provision

inductive CellType where
  | text
  | int
  | bool
  | instant

namespace CellType

def name : CellType → String
  | text => "text"
  | int => "integer"
  | bool => "boolean"
  | instant => "timestamp"

/-- What null collapses to. -/
def blank : CellType → Cell
  | text => .text ""
  | int => .int 0
  | bool => .bool false
  | instant => .instant .epoch

/-- The cell is of the type and is taken as it is, or is a text that is written as one. -/
inductive Reads : CellType → Cell → Cell → Prop
  | text (given : String) : Reads text (.text given) (.text given)
  | int (number : Int) : Reads int (.int number) (.int number)
  | spelledInt {given : String} {number : Int} (spells : Decimal.Spells given.toList number)
      (word : Decimal.FitsWord number) : Reads int (.text given) (.int number)
  | bool (truth : Bool) : Reads bool (.bool truth) (.bool truth)
  | spelledBool {given : String} {truth : Bool}
      (spelled : Row.lowered given = Text.shownBool truth) : Reads bool (.text given) (.bool truth)
  | instant (time : Instant) : Reads instant (.instant time) (.instant time)
  | spelledInstant {given : String} {time : Instant} (read : Instant.read given = .ok time) :
      Reads instant (.text given) (.instant time)

inductive Refuses : CellType → Cell → ConversionCause → Prop
  | integer {given : String}
      (other : ∀ number, Decimal.Spells given.toList number → ¬Decimal.FitsWord number) :
      Refuses int (.text given) (.notInteger given)
  | instant {given : String} {fault : Instant.ReadingFault}
      (refused : Instant.read given = .error fault) :
      Refuses instant (.text given) (.notInstant given fault)
  | mismatch {type : CellType} {cell : Cell} (refused : ∀ value, ¬type.Reads cell value)
      (plain : type = text ∨ type = bool ∨ ∀ given, cell ≠ .text given) :
      Refuses type cell (.mismatch type.name cell)

theorem Refuses.not_reads {type : CellType} {cell value : Cell} {cause : ConversionCause}
    (refuses : type.Refuses cell cause) : ¬type.Reads cell value := by
  intro reads
  cases refuses with
  | integer other =>
      cases reads with
      | spelledInt spells word => exact other _ spells word
  | instant refused =>
      cases reads with
      | spelledInstant read => simp [read] at refused
  | mismatch refused plain => exact refused _ reads

variable {α : Type}

inductive Judges (type : CellType) (wrap : α → Cell) (cell : Cell) :
    Except ConversionCause α → Prop
  | read {value : α} (reads : type.Reads cell (wrap value)) : Judges type wrap cell (.ok value)
  | refused {cause : ConversionCause} (refuses : type.Refuses cell cause) :
      Judges type wrap cell (.error cause)

theorem judges_textOfCell (cell : Cell) : text.Judges .text cell (Row.textOfCell cell) := by
  cases cell with
  | text given => exact .read (.text given)
  | null | int | bool | instant => exact .refused (.mismatch (by nofun) (.inl rfl))

theorem judges_intOfCell (cell : Cell) : int.Judges .int cell (Row.intOfCell cell) := by
  cases cell with
  | int number => exact .read (.int number)
  | text given =>
      rw [Row.intOfCell]
      split
      next number found =>
        obtain ⟨signed, word⟩ := Decimal.word?_eq_some_iff.mp found
        exact .read (.spelledInt (Decimal.signed_trimmed_iff.mp signed) word)
      next none =>
        refine .refused (.integer ?_)
        intro number spells word
        have found := Decimal.word?_eq_some_iff.mpr ⟨Decimal.signed_trimmed_iff.mpr spells, word⟩
        simp [none] at found
  | null | bool | instant => exact .refused (.mismatch (by nofun) (.inr (.inr (by nofun))))

theorem judges_boolOfCell (cell : Cell) : bool.Judges .bool cell (Row.boolOfCell cell) := by
  cases cell with
  | bool truth => exact .read (.bool truth)
  | text given =>
      rw [Row.boolOfCell]
      by_cases affirmed : Row.lowered given = "true"
      · rw [if_pos affirmed]
        exact .read (.spelledBool affirmed)
      · rw [if_neg affirmed]
        by_cases denied : Row.lowered given = "false"
        · rw [if_pos denied]
          exact .read (.spelledBool denied)
        · rw [if_neg denied]
          refine .refused (.mismatch ?_ (.inr (.inl rfl)))
          intro value reads
          cases reads with
          | @spelledBool _ truth spelled =>
              cases truth with
              | true => exact affirmed spelled
              | false => exact denied spelled
  | null | int | instant => exact .refused (.mismatch (by nofun) (.inr (.inl rfl)))

theorem judges_instantOfCell (cell : Cell) :
    instant.Judges .instant cell (Row.instantOfCell cell) := by
  cases cell with
  | instant time => exact .read (.instant time)
  | text given =>
      rw [Row.instantOfCell]
      split
      next time read => exact .read (.spelledInstant read)
      next fault refused => exact .refused (.instant refused)
  | null | int | bool => exact .refused (.mismatch (by nofun) (.inr (.inr (by nofun))))

end CellType

namespace Row

variable {α β : Type}

def IsBlank (row : Row) (column : String) : Prop :=
  row.get? column = none ∨ row.get? column = some .null

/-- Both rows hold the same cell in the column, or both leave it blank. -/
def Alike (left right : Row) (column : String) : Prop :=
  left.get? column = right.get? column ∨ left.IsBlank column ∧ right.IsBlank column

theorem given?_eq_none_iff {row : Row} {column : String} :
    row.given? column = none ↔ row.IsBlank column := by
  rw [given?, IsBlank]
  cases row.get? column with
  | none => simp
  | some cell => simp [Option.filter_eq_none_iff]

theorem given?_eq_some_iff {row : Row} {column : String} {cell : Cell} :
    row.given? column = some cell ↔ row.get? column = some cell ∧ cell ≠ .null := by
  rw [given?, Option.filter_eq_some_iff, decide_eq_true_eq]

theorem required_eq_ok_iff {column : String} {answer : Conversion (Option α)} {value : α} :
    required column answer = .ok value ↔ answer = .ok (some value) := by
  cases answer with
  | error error => simp [required]
  | ok value? =>
      cases value? with
      | none => simp [required]
      | some read => simp [required]

theorem read?_congr {left right : Row} {column : String} {convert : Cell → Except ConversionCause α}
    (alike : Alike left right column) : left.read? column convert = right.read? column convert := by
  have same : left.given? column = right.given? column := by
    rcases alike with same | ⟨blankLeft, blankRight⟩
    · rw [given?, given?, same]
    · rw [given?_eq_none_iff.mpr blankLeft, given?_eq_none_iff.mpr blankRight]
  rw [read?, read?, same]

inductive Answers (row : Row) (column : String) (type : CellType) (wrap : α → Cell) :
    Conversion (Option α) → Prop
  | blank (blank : row.IsBlank column) : Answers row column type wrap (.ok none)
  | read {cell : Cell} {value : α} (held : row.get? column = some cell) (given : cell ≠ .null)
      (reads : type.Reads cell (wrap value)) : Answers row column type wrap (.ok (some value))
  | refused {cell : Cell} {cause : ConversionCause} (held : row.get? column = some cell)
      (given : cell ≠ .null) (refuses : type.Refuses cell cause) :
      Answers row column type wrap (.error ⟨column, cause⟩)

theorem answers_read? {type : CellType} {wrap : α → Cell}
    {convert : Cell → Except ConversionCause α} (row : Row) (column : String)
    (judges : ∀ cell, type.Judges wrap cell (convert cell)) :
    Answers row column type wrap (row.read? column convert) := by
  rw [read?]
  split
  next none => exact .blank (given?_eq_none_iff.mp none)
  next cell found =>
    obtain ⟨held, given⟩ := given?_eq_some_iff.mp found
    have judged := judges cell
    split
    next value read =>
      rw [read] at judged
      cases judged with
      | read reads => exact .read held given reads
    next cause refused =>
      rw [refused] at judged
      cases judged with
      | refused refuses => exact .refused held given refuses

end Row

structure Column where
  name : String
  type : CellType
  nullable : Bool

namespace Column

variable {α : Type}

inductive Gives (column : Column) (row : Row) : Cell → Prop
  | blank (nullable : column.nullable) (blank : row.IsBlank column.name) :
      Gives column row column.type.blank
  | read {cell value : Cell} (held : row.get? column.name = some cell) (given : cell ≠ .null)
      (reads : column.type.Reads cell value) : Gives column row value

inductive Offends (column : Column) (row : Row) : ConversionError → Prop
  | missing (needed : ¬column.nullable) (blank : row.IsBlank column.name) :
      Offends column row ⟨column.name, .missing⟩
  | refused {cell : Cell} {cause : ConversionCause} (held : row.get? column.name = some cell)
      (given : cell ≠ .null) (refuses : column.type.Refuses cell cause) :
      Offends column row ⟨column.name, cause⟩

def Fits (column : Column) (row : Row) : Prop := ∃ cell, column.Gives row cell

theorem Offends.not_fits {column : Column} {row : Row} {error : ConversionError}
    (offends : column.Offends row error) : ¬column.Fits row := by
  have blankless {cell : Cell} (held : row.get? column.name = some cell) (given : cell ≠ .null) :
      ¬row.IsBlank column.name := by
    rintro (absent | null)
    · simp [held] at absent
    · exact given (Option.some.inj (held.symm.trans null))
  rintro ⟨cell, gives⟩
  cases offends with
  | missing needed blank =>
      cases gives with
      | blank nullable _ => exact needed nullable
      | read held given _ => exact blankless held given blank
  | refused held given refuses =>
      cases gives with
      | blank _ blank => exact blankless held given blank
      | read same _ reads =>
          obtain rfl := Option.some.inj (held.symm.trans same)
          exact refuses.not_reads reads

inductive Judges (column : Column) (wrap : α → Cell) (row : Row) : Conversion α → Prop
  | read {value : α} (gives : column.Gives row (wrap value)) : Judges column wrap row (.ok value)
  | refused {error : ConversionError} (offends : column.Offends row error) :
      Judges column wrap row (.error error)

end Column

namespace Row

variable {α β : Type}

/-- What is read of a row depends on the columns alone. It is read where all of them fit, and shows
what they say; otherwise the first that does not fit is reported. -/
structure ReadsBy (columns : List Column) (Shows : α → List Cell → Prop)
    (read : Row → Conversion α) : Prop where
  alike {left right : Row} :
    (∀ column ∈ columns, Alike left right column.name) → read left = read right
  succeeds {row : Row} : (∃ value, read row = .ok value) ↔ ∀ column ∈ columns, column.Fits row
  gives {row : Row} {value : α} : read row = .ok value →
    ∃ cells, List.Forall₂ (fun column cell => column.Gives row cell) columns cells ∧
      Shows value cells
  fails {row : Row} {error : ConversionError} : read row = .error error →
    ∃ earlier column later, columns = earlier ++ column :: later ∧
      (∀ column ∈ earlier, column.Fits row) ∧ column.Offends row error

namespace ReadsBy

variable {column : Column} {columns : List Column} {read : Row → Conversion α}

theorem nil {Shows : α → List Cell → Prop} {value : α} (shows : Shows value []) :
    ReadsBy [] Shows fun _ => pure value where
  alike _ := rfl
  succeeds := by simp [pure, Except.pure]
  gives {row result} got := by
    obtain rfl := Except.ok.inj got
    exact ⟨[], .nil, shows⟩
  fails := nofun

theorem bind {wrap : α → Cell} {Shows : β → List Cell → Prop} {next : α → Row → Conversion β}
    (first : ReadsBy [column] (fun value cells => cells = [wrap value]) read)
    (rest : ∀ value,
      ReadsBy columns (fun result cells => Shows result (wrap value :: cells)) (next value)) :
    ReadsBy (column :: columns) Shows fun row => read row >>= fun value => next value row where
  alike {left right} alike := by
    obtain ⟨same, others⟩ := List.forall_mem_cons.mp alike
    have equal : read left = read right := first.alike (List.forall_mem_singleton.mpr same)
    rw [equal]
    cases read right with
    | error error => rfl
    | ok value => exact (rest value).alike others
  succeeds {row} := by
    constructor
    · rintro ⟨result, found⟩
      obtain ⟨value, got, onward⟩ := bind_eq_ok_iff.mp found
      have fits : column.Fits row := first.succeeds.mp ⟨value, got⟩ column List.mem_cons_self
      exact List.forall_mem_cons.mpr ⟨fits, (rest value).succeeds.mp ⟨result, onward⟩⟩
    · intro fit
      obtain ⟨fits, others⟩ := List.forall_mem_cons.mp fit
      obtain ⟨value, got⟩ := first.succeeds.mpr (List.forall_mem_singleton.mpr fits)
      obtain ⟨result, onward⟩ := (rest value).succeeds.mpr others
      exact ⟨result, bind_eq_ok_iff.mpr ⟨value, got, onward⟩⟩
  gives {row result} found := by
    obtain ⟨value, got, onward⟩ := bind_eq_ok_iff.mp found
    obtain ⟨_, given, rfl⟩ := first.gives got
    obtain ⟨cells, others, shows⟩ := (rest value).gives onward
    exact ⟨wrap value :: cells, .cons (List.forall₂_cons.mp given).1 others, shows⟩
  fails {row error} failed := by
    rcases bind_eq_error_iff.mp failed with reported | ⟨value, got, onward⟩
    · obtain ⟨earlier, culprit, later, split, fit, offends⟩ := first.fails reported
      obtain ⟨rfl, rfl, rfl⟩ : earlier = [] ∧ culprit = column ∧ later = [] := by
        simpa [List.append_eq_cons_iff] using split.symm
      exact ⟨[], culprit, columns, rfl, fit, offends⟩
    · have fits : column.Fits row := first.succeeds.mp ⟨value, got⟩ column List.mem_cons_self
      obtain ⟨earlier, culprit, later, rfl, fit, offends⟩ := (rest value).fails onward
      exact ⟨column :: earlier, culprit, later, rfl, List.forall_mem_cons.mpr ⟨fits, fit⟩, offends⟩

theorem map {Shows : α → List Cell → Prop} {Shows' : β → List Cell → Prop} {form : α → β}
    (reads : ReadsBy columns Shows read)
    (formed : ∀ value cells, Shows value cells → Shows' (form value) cells) :
    ReadsBy columns Shows' fun row => form <$> read row where
  alike alike := congrArg (form <$> ·) (reads.alike alike)
  succeeds := exists_map_eq_ok_iff.trans reads.succeeds
  gives {row result} found := by
    obtain ⟨value, got, rfl⟩ := map_eq_ok_iff.mp found
    obtain ⟨cells, given, shows⟩ := reads.gives got
    exact ⟨cells, given, formed value cells shows⟩
  fails {row error} failed := by
    apply reads.fails
    cases found : read row with
    | error reported => simpa [found] using failed
    | ok value => simp [found] at failed

theorem single {wrap : α → Cell}
    (alike : ∀ {left right : Row}, Alike left right column.name → read left = read right)
    (judges : ∀ row, column.Judges wrap row (read row)) :
    ReadsBy [column] (fun value cells => cells = [wrap value]) read where
  alike each := alike (each column List.mem_cons_self)
  succeeds {row} := by
    rw [List.forall_mem_singleton]
    constructor
    · rintro ⟨value, got⟩
      cases got ▸ judges row with
      | read gives => exact ⟨_, gives⟩
    · intro fits
      cases found : read row with
      | ok value => exact ⟨value, rfl⟩
      | error error =>
          cases found ▸ judges row with
          | refused offends => exact absurd fits offends.not_fits
  gives {row value} got := by
    cases got ▸ judges row with
    | read gives => exact ⟨_, .cons gives .nil, rfl⟩
  fails {row error} failed := by
    cases failed ▸ judges row with
    | refused offends => exact ⟨[], column, [], rfl, by simp, offends⟩

section

variable {convert : Cell → Except ConversionCause α} {name : String} {type : CellType}
  {wrap : α → Cell}

theorem needed (judges : ∀ cell, type.Judges wrap cell (convert cell)) :
    ReadsBy [⟨name, type, false⟩] (fun value cells => cells = [wrap value])
      fun row => required name (row.read? name convert) := by
  apply single
  · intro left right alike
    rw [read?_congr alike]
  · intro row
    have answers := answers_read? row name judges
    generalize row.read? name convert = answer at answers ⊢
    cases answers with
    | blank blank => exact .refused (.missing (by simp) blank)
    | read held given reads => exact .read (.read held given reads)
    | refused held given refuses => exact .refused (.refused held given refuses)

theorem optional {wrap? : Option α → Cell} (judges : ∀ cell, type.Judges wrap cell (convert cell))
    (collapsed : wrap? none = type.blank) (kept : ∀ value, wrap? (some value) = wrap value) :
    ReadsBy [⟨name, type, true⟩] (fun value? cells => cells = [wrap? value?])
      fun row => row.read? name convert := by
  apply single
  · exact read?_congr
  · intro row
    have answers := answers_read? row name judges
    generalize row.read? name convert = answer at answers ⊢
    cases answers with
    | blank blank =>
        apply Column.Judges.read
        rw [collapsed]
        exact .blank rfl blank
    | read held given reads =>
        apply Column.Judges.read
        rw [kept]
        exact .read held given reads
    | refused held given refuses => exact .refused (.refused held given refuses)

end

theorem string (name : String) :
    ReadsBy [⟨name, .text, false⟩] (fun text cells => cells = [.text text])
      fun row => row.string name :=
  needed CellType.judges_textOfCell

theorem string? (name : String) :
    ReadsBy [⟨name, .text, true⟩] (fun text? cells => cells = [.text (text?.getD "")])
      fun row => row.string? name :=
  optional CellType.judges_textOfCell rfl fun _ => rfl

theorem int (name : String) :
    ReadsBy [⟨name, .int, false⟩] (fun number cells => cells = [.int number])
      fun row => row.int name :=
  needed CellType.judges_intOfCell

theorem bool (name : String) :
    ReadsBy [⟨name, .bool, false⟩] (fun truth cells => cells = [.bool truth])
      fun row => row.bool name :=
  needed CellType.judges_boolOfCell

theorem instant (name : String) :
    ReadsBy [⟨name, .instant, false⟩] (fun time cells => cells = [.instant time])
      fun row => row.instant name :=
  needed CellType.judges_instantOfCell

theorem instant? (name : String) :
    ReadsBy [⟨name, .instant, true⟩] (fun time? cells => cells = [.instant (time?.getD .epoch)])
      fun row => row.instant? name :=
  optional CellType.judges_instantOfCell rfl fun _ => rfl

end ReadsBy

end Row

namespace ComputePool

open Row

def columns : List Column :=
  [⟨"name", .text, false⟩, ⟨"state", .text, false⟩, ⟨"min_nodes", .int, false⟩,
    ⟨"max_nodes", .int, false⟩, ⟨"instance_family", .text, false⟩, ⟨"num_services", .int, false⟩,
    ⟨"num_jobs", .int, false⟩, ⟨"auto_suspend_secs", .int, false⟩, ⟨"auto_resume", .bool, false⟩,
    ⟨"active_nodes", .int, false⟩, ⟨"idle_nodes", .int, false⟩, ⟨"created_on", .instant, false⟩,
    ⟨"resumed_on", .instant, true⟩, ⟨"updated_on", .instant, true⟩, ⟨"owner", .text, false⟩,
    ⟨"comment", .text, true⟩]

def cells (pool : ComputePool) : List Cell :=
  [.text pool.name, .text pool.state, .int pool.minNodes, .int pool.maxNodes,
    .text pool.instanceFamily, .int pool.numServices, .int pool.numJobs, .int pool.autoSuspendSecs,
    .bool pool.autoResume, .int pool.activeNodes, .int pool.idleNodes, .instant pool.createdOn,
    .instant pool.resumedOn, .instant pool.updatedOn, .text pool.owner, .text pool.comment]

theorem Record.readsBy :
    ReadsBy columns (fun record cells => cells = record.toPool.cells) ofRow := by
  unfold ofRow columns
  -- One step for each column; after the last one the record shows the cells given on the way.
  refine (ReadsBy.string "name").bind fun _ => ?_
  refine (ReadsBy.string "state").bind fun _ => ?_
  refine (ReadsBy.int "min_nodes").bind fun _ => ?_
  refine (ReadsBy.int "max_nodes").bind fun _ => ?_
  refine (ReadsBy.string "instance_family").bind fun _ => ?_
  refine (ReadsBy.int "num_services").bind fun _ => ?_
  refine (ReadsBy.int "num_jobs").bind fun _ => ?_
  refine (ReadsBy.int "auto_suspend_secs").bind fun _ => ?_
  refine (ReadsBy.bool "auto_resume").bind fun _ => ?_
  refine (ReadsBy.int "active_nodes").bind fun _ => ?_
  refine (ReadsBy.int "idle_nodes").bind fun _ => ?_
  refine (ReadsBy.instant "created_on").bind fun _ => ?_
  refine (ReadsBy.instant? "resumed_on").bind fun _ => ?_
  refine (ReadsBy.instant? "updated_on").bind fun _ => ?_
  refine (ReadsBy.string "owner").bind fun _ => ?_
  refine (ReadsBy.string? "comment").bind fun _ => ?_
  exact .nil rfl

theorem readsBy : ReadsBy columns (fun pool cells => cells = pool.cells) ofRow :=
  Record.readsBy.map fun _ _ shows => shows

end ComputePool

namespace ImageRepository

open Row

def columns : List Column :=
  [⟨"created_on", .instant, false⟩, ⟨"name", .text, false⟩, ⟨"database_name", .text, false⟩,
    ⟨"schema_name", .text, false⟩, ⟨"repository_url", .text, false⟩, ⟨"owner", .text, false⟩,
    ⟨"owner_role_type", .text, true⟩, ⟨"comment", .text, true⟩]

def cells (repository : ImageRepository) : List Cell :=
  [.instant repository.createdOn, .text repository.name, .text repository.databaseName,
    .text repository.schemaName, .text repository.repositoryUrl, .text repository.owner,
    .text repository.ownerRoleType, .text repository.comment]

theorem Record.readsBy :
    ReadsBy columns (fun record cells => cells = record.toRepository.cells) ofRow := by
  unfold ofRow columns
  refine (ReadsBy.instant "created_on").bind fun _ => ?_
  refine (ReadsBy.string "name").bind fun _ => ?_
  refine (ReadsBy.string "database_name").bind fun _ => ?_
  refine (ReadsBy.string "schema_name").bind fun _ => ?_
  refine (ReadsBy.string "repository_url").bind fun _ => ?_
  refine (ReadsBy.string "owner").bind fun _ => ?_
  refine (ReadsBy.string? "owner_role_type").bind fun _ => ?_
  refine (ReadsBy.string? "comment").bind fun _ => ?_
  exact .nil rfl

theorem readsBy : ReadsBy columns (fun repository cells => cells = repository.cells) ofRow :=
  Record.readsBy.map fun _ _ shows => shows

end ImageRepository

open Row

/-- Compute pools and image repositories are read by the columns that they declare, before nulls
collapse and after. -/
theorem declared_columns_decide :
    (ReadsBy ComputePool.columns (fun record cells => cells = record.toPool.cells)
        ComputePool.Record.ofRow ∧
      ReadsBy ComputePool.columns (fun pool cells => cells = pool.cells) ComputePool.ofRow) ∧
    ReadsBy ImageRepository.columns (fun record cells => cells = record.toRepository.cells)
        ImageRepository.Record.ofRow ∧
      ReadsBy ImageRepository.columns (fun repository cells => cells = repository.cells)
        ImageRepository.ofRow :=
  ⟨⟨ComputePool.Record.readsBy, ComputePool.readsBy⟩,
    ImageRepository.Record.readsBy, ImageRepository.readsBy⟩

end Provision
