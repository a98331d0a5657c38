import Provision.Identifier
import Provision.Row
import Provision.Statement.Form

/-!
Compute pools as the platform reports them, and the statements on them. Columns that may be null
collapse to the empty text or to the beginning of 1970.
-/

namespace Provision

structure ComputePool where
  name : String
  state : String
  minNodes : Int
  maxNodes : Int
  instanceFamily : String
  numServices : Int
  numJobs : Int
  autoSuspendSecs : Int
  autoResume : Bool
  activeNodes : Int
  idleNodes : Int
  createdOn : Instant
  resumedOn : Instant
  updatedOn : Instant
  owner : String
  comment : String
deriving DecidableEq

namespace ComputePool

def kind : String := "compute pool"

def id (pool : ComputePool) : AccountId := ⟨pool.name⟩

structure Record where
  name : String
  state : String
  minNodes : Int
  maxNodes : Int
  instanceFamily : String
  numServices : Int
  numJobs : Int
  autoSuspendSecs : Int
  autoResume : Bool
  activeNodes : Int
  idleNodes : Int
  createdOn : Instant
  resumedOn? : Option Instant
  updatedOn? : Option Instant
  owner : String
  comment? : Option String
deriving DecidableEq

namespace Record

def ofRow (row : Row) : Conversion Record := do
  let name ← row.string "name"
  let state ← row.string "state"
  let minNodes ← row.int "min_nodes"
  let maxNodes ← row.int "max_nodes"
  let instanceFamily ← row.string "instance_family"
  let numServices ← row.int "num_services"
  let numJobs ← row.int "num_jobs"
  let autoSuspendSecs ← row.int "auto_suspend_secs"
  let autoResume ← row.bool "auto_resume"
  let activeNodes ← row.int "active_nodes"
  let idleNodes ← row.int "idle_nodes"
  let createdOn ← row.instant "created_on"
  let resumedOn? ← row.instant? "resumed_on"
  let updatedOn? ← row.instant? "updated_on"
  let owner ← row.string "owner"
  let comment? ← row.string? "comment"
  return {
    name, state, minNodes, maxNodes, instanceFamily, numServices, numJobs, autoSuspendSecs,
    autoResume, activeNodes, idleNodes, createdOn, resumedOn?, updatedOn?, owner, comment? }

def toPool (record : Record) : ComputePool where
  name := record.name
  state := record.state
  minNodes := record.minNodes
  maxNodes := record.maxNodes
  instanceFamily := record.instanceFamily
  numServices := record.numServices
  numJobs := record.numJobs
  autoSuspendSecs := record.autoSuspendSecs
  autoResume := record.autoResume
  activeNodes := record.activeNodes
  idleNodes := record.idleNodes
  createdOn := record.createdOn
  resumedOn := record.resumedOn?.getD .epoch
  updatedOn := record.updatedOn?.getD .epoch
  owner := record.owner
  comment := record.comment?.getD ""

end Record

def ofRow (row : Row) : Conversion ComputePool := Record.toPool <$> Record.ofRow row

open Statement

/-- `CREATE COMPUTE POOL [IF NOT EXISTS] <name> MIN_NODES = <n> MAX_NODES = <n>
INSTANCE_FAMILY = <family> [AUTO_RESUME = <bool>] [INITIALLY_SUSPENDED = <bool>]
[AUTO_SUSPEND_SECS = <n>] [COMMENT = '<text>']` -/
structure Create where
  name : AccountId
  minNodes : Int
  maxNodes : Int
  instanceFamily : String
  ifNotExists? : Option Bool := none
  autoResume? : Option Bool := none
  initiallySuspended? : Option Bool := none
  autoSuspendSecs? : Option Int := none
  comment? : Option String := none
deriving DecidableEq, Repr

def Create.form (create : Create) : Form where
  name := "CreateComputePoolOptions"
  fields := [
    .fixed "CREATE",
    .fixed "COMPUTE POOL",
    .keyword "IfNotExists" "IF NOT EXISTS" (.ofFlag? create.ifNotExists?),
    .target "name" create.name.toIdentifier,
    (Field.parameter "MinNodes" "MIN_NODES" .bare (.int create.minNodes)).needed,
    (Field.parameter "MaxNodes" "MAX_NODES" .bare (.int create.maxNodes)).needed,
    (Field.parameter "InstanceFamily" "INSTANCE_FAMILY" .bare
      (.text create.instanceFamily)).needed,
    .parameter "AutoResume" "AUTO_RESUME" .bare (.ofBool? create.autoResume?),
    .parameter "InitiallySuspended" "INITIALLY_SUSPENDED" .bare
      (.ofBool? create.initiallySuspended?),
    .parameter "AutoSuspendSecs" "AUTO_SUSPEND_SECS" .bare (.ofInt? create.autoSuspendSecs?),
    .parameter "Comment" "COMMENT" .quoted (.ofText? create.comment?)]
  constraints := []

structure Assignment where
  minNodes? : Option Int := none
  maxNodes? : Option Int := none
  autoResume? : Option Bool := none
  autoSuspendSecs? : Option Int := none
  comment? : Option String := none
deriving DecidableEq, Repr

def Assignment.form (assignment : Assignment) : Form where
  name := "ComputePoolSet"
  fields := [
    .parameter "MinNodes" "MIN_NODES" .bare (.ofInt? assignment.minNodes?),
    .parameter "MaxNodes" "MAX_NODES" .bare (.ofInt? assignment.maxNodes?),
    .parameter "AutoResume" "AUTO_RESUME" .bare (.ofBool? assignment.autoResume?),
    .parameter "AutoSuspendSecs" "AUTO_SUSPEND_SECS" .bare (.ofInt? assignment.autoSuspendSecs?),
    .parameter "Comment" "COMMENT" .quoted (.ofText? assignment.comment?)]
  constraints := [.atLeastOne ["MinNodes", "MaxNodes", "AutoResume", "AutoSuspendSecs", "Comment"]]

structure Reset where
  autoSuspendSecs? : Option Bool := none
  autoResume? : Option Bool := none
  comment? : Option Bool := none
deriving DecidableEq, Repr

def Reset.form (reset : Reset) : Form where
  name := "ComputePoolUnset"
  fields := [
    .keyword "AutoSuspendSecs" "AUTO_SUSPEND_SECS" (.ofFlag? reset.autoSuspendSecs?),
    .keyword "AutoResume" "AUTO_RESUME" (.ofFlag? reset.autoResume?),
    .keyword "Comment" "COMMENT" (.ofFlag? reset.comment?)]
  constraints := [.atLeastOne ["AutoSuspendSecs", "AutoResume", "Comment"]]

/-- `ALTER COMPUTE POOL [IF EXISTS] <name> { SUSPEND | RESUME | STOP ALL | SET ... | UNSET ... }` -/
structure Alter where
  name : AccountId
  ifExists? : Option Bool := none
  suspend? : Option Bool := none
  resume? : Option Bool := none
  stopAll? : Option Bool := none
  set? : Option Assignment := none
  unset? : Option Reset := none
deriving DecidableEq, Repr

def Alter.form (alter : Alter) : Form where
  name := "AlterComputePoolOptions"
  fields := [
    .fixed "ALTER",
    .fixed "COMPUTE POOL",
    .keyword "IfExists" "IF EXISTS" (.ofFlag? alter.ifExists?),
    .target "name" alter.name.toIdentifier,
    .keyword "Suspend" "SUSPEND" (.ofFlag? alter.suspend?),
    .keyword "Resume" "RESUME" (.ofFlag? alter.resume?),
    .keyword "StopAll" "STOP ALL" (.ofFlag? alter.stopAll?),
    .block "Set" "SET" (alter.set?.map Assignment.form),
    .block "Unset" "UNSET" (alter.unset?.map Reset.form)]
  constraints := [.exactlyOne ["Suspend", "Resume", "StopAll", "Set", "Unset"]]

structure Drop where
  name : AccountId
  ifExists? : Option Bool := none
deriving DecidableEq, Repr

def Drop.form (drop : Drop) : Form where
  name := "DropComputePoolOptions"
  fields := [
    .fixed "DROP",
    .fixed "COMPUTE POOL",
    .keyword "IfExists" "IF EXISTS" (.ofFlag? drop.ifExists?),
    .target "name" drop.name.toIdentifier]
  constraints := []

/-- `SHOW COMPUTE POOLS [LIKE '<pattern>'] [STARTS WITH '<text>'] [LIMIT <n> [FROM '<name>']]` -/
structure Show where
  like? : Option String := none
  startsWith? : Option String := none
  limit? : Option Limit := none
deriving DecidableEq, Repr

def Show.form (request : Show) : Form where
  name := "ShowComputePoolOptions"
  fields := [
    .fixed "SHOW",
    .fixed "COMPUTE POOLS",
    .block "Like" "LIKE" (request.like?.map likeForm),
    .clause "StartsWith" "STARTS WITH" .quoted (.ofText? request.startsWith?),
    .block "Limit" "LIMIT" (request.limit?.map Limit.form)]
  constraints := []

structure Describe where
  name : AccountId
deriving DecidableEq, Repr

def Describe.form (request : Describe) : Form where
  name := "DescribeComputePoolOptions"
  fields := [
    .fixed "DESCRIBE",
    .fixed "COMPUTE POOL",
    .target "name" request.name.toIdentifier]
  constraints := []

end ComputePool

end Provision
