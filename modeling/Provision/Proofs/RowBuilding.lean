import Mathlib
import Provision.Proofs.Documents

/-!
How rows are built. A row that is built from columns holds under each name in lower case what the
last column of that name says. A row that is built from a document holds the members of an object,
set in the order of their names; the first member that can be no cell is reported instead.
-/

namespace Provision.Row

variable {cells : List (String × Cell)} {column : String} {cell : Cell}

theorem columns_ofCells (cells : List (String × Cell)) :
    (ofCells cells).columns = .ofList (cells.map fun pair => (lowered pair.1, pair.2)) := by
  induction cells using List.reverseRecOn with
  | nil => rfl
  | append_singleton cells added ih =>
      rw [List.map_append, List.map_singleton, Table.ofList_concat, ← ih]
      rw [ofCells, List.foldl_append]
      rfl

theorem get?_ofCells_eq_some_iff :
    (ofCells cells).get? column = some cell ↔
      ∃ name, IsLast (fun pair => lowered pair.1) cells (name, cell) ∧ lowered name = column := by
  rw [get?, columns_ofCells]
  rw [Table.get?_ofList_map_eq_some_iff (fun pair => lowered pair.1) Prod.snd]
  constructor
  · rintro ⟨⟨name, held⟩, last, named, rfl⟩
    exact ⟨name, last, named⟩
  · rintro ⟨name, last, named⟩
    exact ⟨(name, cell), last, named, rfl⟩

open Json

def Becomes (member : String × Json) (entry : String × Cell) : Prop :=
  member.1 = entry.1 ∧ member.2.Fills entry.2

theorem exists_becomes {members : List (String × Json)}
    (become : List.Forall₂ Becomes members cells) :
    (∀ member ∈ members, ∃ entry ∈ cells, Becomes member entry) ∧
      ∀ entry ∈ cells, ∃ member ∈ members, Becomes member entry := by
  induction become with
  | nil => simp
  | @cons member entry members entries first rest ih =>
      obtain ⟨onward, back⟩ := ih
      constructor
      · refine List.forall_mem_cons.mpr ⟨⟨entry, List.mem_cons_self, first⟩, ?_⟩
        intro other among
        obtain ⟨set, within, becomes⟩ := onward other among
        exact ⟨set, List.mem_cons_of_mem _ within, becomes⟩
      · refine List.forall_mem_cons.mpr ⟨⟨member, List.mem_cons_self, first⟩, ?_⟩
        intro set within
        obtain ⟨other, among, becomes⟩ := back set within
        exact ⟨other, List.mem_cons_of_mem _ among, becomes⟩

theorem setMembers_of_becomes {members : List (String × Json)} (row : Row)
    (become : List.Forall₂ Becomes members cells) :
    row.setMembers (members.map spelled) =
      .ok (cells.foldl (fun row entry => row.set entry.1 entry.2) row) := by
  induction become generalizing row with
  | nil => rfl
  | cons first rest ih =>
      obtain ⟨named, fills⟩ := first
      rw [List.map_cons, spelled, setMembers, fills.cellOfJson_eq]
      dsimp only
      rw [ih, Literal.lossy_ofString, named]
      rfl

theorem setMembers_of_unfit {earlier later : List (String × Json)} {name : String} {value : Json}
    {cause : ConversionCause} (row : Row) (fit : ∀ member ∈ earlier, ∃ cell, member.2.Fills cell)
    (unfit : value.Unfit cause) :
    row.setMembers ((earlier ++ (name, value) :: later).map spelled) = .error ⟨name, cause⟩ := by
  induction earlier generalizing row with
  | nil =>
      rw [List.nil_append, List.map_cons, spelled, setMembers, unfit.cellOfJson_eq]
      dsimp only
      rw [Literal.lossy_ofString]
  | cons first rest ih =>
      obtain ⟨⟨cell, fills⟩, fit⟩ := List.forall_mem_cons.mp fit
      rw [List.cons_append, List.map_cons, spelled, setMembers, fills.cellOfJson_eq]
      exact ih _ fit

theorem become_or_first_unfit (members : List (String × Json))
    (legible : ∀ member ∈ members, member.2.Legible) :
    (∃ cells, List.Forall₂ Becomes members cells) ∨
      ∃ earlier name value later cause, members = earlier ++ (name, value) :: later ∧
        (∀ member ∈ earlier, ∃ cell, member.2.Fills cell) ∧ value.Unfit cause := by
  induction members with
  | nil => exact .inl ⟨[], .nil⟩
  | cons first rest ih =>
      obtain ⟨name, value⟩ := first
      obtain ⟨clear, legible⟩ := List.forall_mem_cons.mp legible
      rcases clear.fills_or_unfit with ⟨cell, fills⟩ | ⟨cause, unfit⟩
      · rcases ih legible with
          ⟨cells, become⟩ | ⟨earlier, bad, worth, later, cause, rfl, fit, unfit⟩
        · exact .inl ⟨(name, cell) :: cells, .cons ⟨rfl, fills⟩ become⟩
        · exact .inr ⟨(name, value) :: earlier, bad, worth, later, cause, rfl,
            List.forall_mem_cons.mpr ⟨⟨cell, fills⟩, fit⟩, unfit⟩
      · exact .inr ⟨[], name, value, rest, cause, rfl, by simp, unfit⟩

/-- The members are set one after the other, unless one can be no cell; then the first such one is
reported, under its own name. -/
structure Builds (members : List (String × Json)) (built : Conversion Row) : Prop where
  fails : (∃ error, built = .error error) ↔ ∃ member ∈ members, ∃ cause, member.2.Unfit cause
  first {error : ConversionError} : built = .error error →
    ∃ earlier value later, members = earlier ++ (error.column, value) :: later ∧
      (∀ member ∈ earlier, ∀ cause, ¬member.2.Unfit cause) ∧ value.Unfit error.cause
  row {row : Row} : built = .ok row →
    ∃ cells, List.Forall₂ Becomes members cells ∧ row = ofCells cells

theorem builds_setMembers {members : List (String × Json)}
    (legible : ∀ member ∈ members, member.2.Legible) :
    Builds members (setMembers empty (members.map spelled)) := by
  rcases become_or_first_unfit members legible with
    ⟨cells, become⟩ | ⟨earlier, name, value, later, cause, rfl, fit, unfit⟩
  · rw [setMembers_of_becomes empty become]
    refine ⟨iff_of_false (by simp) ?_, by simp, ?_⟩
    · rintro ⟨member, among, cause, unfit⟩
      obtain ⟨entry, -, -, fills⟩ := (exists_becomes become).1 member among
      exact fills.not_unfit unfit
    · intro row built
      exact ⟨cells, become, (Except.ok.inj built).symm⟩
  · rw [setMembers_of_unfit empty fit unfit]
    refine ⟨iff_of_true ⟨_, rfl⟩ ⟨(name, value), by simp, cause, unfit⟩, ?_, by simp⟩
    intro error built
    obtain rfl := Except.error.inj built
    refine ⟨earlier, value, later, rfl, ?_, unfit⟩
    intro member among other
    obtain ⟨cell, fills⟩ := fit member among
    exact fills.not_unfit

theorem exists_builds {members : List (String × Json)}
    (legible : ∀ member ∈ members, member.2.Legible) :
    ∃ ordered, InOrder members ordered ∧ Builds ordered (ofJson (.ofMembers members)) := by
  obtain ⟨ordered, inOrder, same⟩ := exists_inOrder members
  refine ⟨ordered, inOrder, ?_⟩
  show Builds ordered (setMembers empty (arranged (members.map spelled)))
  rw [same]
  apply builds_setMembers
  intro member among
  exact legible member (inOrder.counts.mp among).mem

end Provision.Row
