import Provision.Attempt

/-!
A platform that answers by the beginning of a statement. Of several beginnings that fit, the one
that was set first counts; setting one again makes it the last.
-/

namespace Provision

structure ScriptedPlatform where
  rows : Table (List Row) := ∅
  failures : Table String := ∅
  delays : Table Nat := ∅

namespace ScriptedPlatform

variable {α : Type}

def matching? (table : Table α) (sql : String) : Option α :=
  (table.entries.find? fun entry => entry.1.toList.isPrefixOf sql.toList).map Prod.snd

def connection (platform : ScriptedPlatform) : Connection := fun _ sql =>
  { delay := (matching? platform.delays sql).getD 0
    outcome :=
      match matching? platform.failures sql with
      | some message => .error message
      | none => .ok ((matching? platform.rows sql).getD []) }

/-- No value takes the beginning away. -/
def assign (table : Table α) (beginning : String) : Option α → Table α
  | some value => table.insert beginning value
  | none => table.erase beginning

end ScriptedPlatform

end Provision
