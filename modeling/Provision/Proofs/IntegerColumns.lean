import Provision.Proofs.Columns
import Provision.Proofs.RowBuilding

/-!
How integers are read from a row. A text is read as the integer that it spells or is reported;
nothing is cut off or wrapped around. So a document may give an integer as a text or as a number,
with the same result, if there is one.
-/

namespace Provision

open Decimal

namespace Json

theorem Fills.legible {json : Json} {cell : Cell} (fills : json.Fills cell) : json.Legible := by
  cases fills with
  | null => exact .null
  | bool truth => exact .bool truth
  | string text => exact .string text
  | int word => exact .number _

theorem Fills.unique {json : Json} {cell other : Cell} (fills : json.Fills cell)
    (fills' : json.Fills other) : cell = other :=
  Except.ok.inj (fills.cellOfJson_eq.symm.trans fills'.cellOfJson_eq)

theorem Unfit.unique {json : Json} {cause other : ConversionCause} (unfit : json.Unfit cause)
    (unfit' : json.Unfit other) : cause = other :=
  Except.error.inj (unfit.cellOfJson_eq.symm.trans unfit'.cellOfJson_eq)

theorem unfit_ofInt {number : Int} (beyond : ¬FitsWord number) :
    (ofInt number).Unfit (.fractional (.ofInt number)) := by
  refine .number ?_
  rintro word fits same
  exact beyond (Number.ofInt_injective same ▸ fits)

def document (before after : List (String × Json)) (name : String) (value : Json) : Json :=
  .ofMembers (before ++ (name, value) :: after)

end Json

namespace Row

open Json

variable {row : Row} {column text : String}

theorem int?_of_text (held : row.get? column = some (.text text)) :
    row.int? column =
      match word? (Text.trimmed text.toList) with
      | some word => .ok (some word)
      | none => .error ⟨column, .notInteger text⟩ := by
  have given : row.given? column = some (.text text) := given?_eq_some_iff.mpr ⟨held, by simp⟩
  rw [int?, read?, given]
  dsimp only
  rw [intOfCell]
  cases word? (Text.trimmed text.toList) with
  | none => rfl
  | some word => rfl

theorem int?_eq_some_iff (held : row.get? column = some (.text text)) {number : Int} :
    row.int? column = .ok (some number) ↔ Spells text.toList number ∧ FitsWord number := by
  rw [int?_of_text held, ← signed_trimmed_iff, ← word?_eq_some_iff]
  cases word? (Text.trimmed text.toList) with
  | none => simp
  | some word => simp

theorem int?_eq_error (held : row.get? column = some (.text text))
    (other : ∀ number, Spells text.toList number → ¬FitsWord number) :
    row.int? column = .error ⟨column, .notInteger text⟩ := by
  rw [int?_of_text held]
  cases found : word? (Text.trimmed text.toList) with
  | none => rfl
  | some number =>
      obtain ⟨signed, word⟩ := word?_eq_some_iff.mp found
      exact absurd word (other number (signed_trimmed_iff.mp signed))

/-- The other members can be cells, and go by other names. -/
def Beside (name : String) (others : List (String × Json)) : Prop :=
  ∀ member ∈ others, lowered member.1 ≠ lowered name ∧ ∃ cell, member.2.Fills cell

variable {before after : List (String × Json)} {name : String} {value : Json}

theorem Beside.exists_builds (beside : Beside name (before ++ after)) (legible : value.Legible) :
    ∃ ordered, Builds ordered (ofJson (document before after name value)) ∧
      (name, value) ∈ ordered ∧
      ∀ member ∈ ordered, member = (name, value) ∨ member ∈ before ++ after := by
  have each : ∀ member ∈ before ++ (name, value) :: after, member.2.Legible := by
    intro member among
    rcases List.mem_append.mp among with earlier | later
    · obtain ⟨-, cell, fills⟩ := beside member (List.mem_append_left _ earlier)
      exact fills.legible
    · rcases List.mem_cons.mp later with rfl | later
      · exact legible
      · obtain ⟨-, cell, fills⟩ := beside member (List.mem_append_right _ later)
        exact fills.legible
  obtain ⟨ordered, inOrder, builds⟩ := Row.exists_builds each
  refine ⟨ordered, builds, ?_, ?_⟩
  · refine inOrder.counts.mpr ⟨before, after, rfl, ?_⟩
    intro other among same
    exact (beside other (List.mem_append_right _ among)).1 (congrArg lowered same)
  · intro member among
    have present := (inOrder.counts.mp among).mem
    simp only [List.mem_append, List.mem_cons] at present ⊢
    tauto

theorem Beside.ofJson_of_fills {cell : Cell} (beside : Beside name (before ++ after))
    (fills : value.Fills cell) :
    ∃ row, ofJson (document before after name value) = .ok row ∧
      row.get? (lowered name) = some cell := by
  obtain ⟨ordered, builds, present, known⟩ := beside.exists_builds fills.legible
  cases built : ofJson (document before after name value) with
  | error error =>
      obtain ⟨member, among, cause, unfit⟩ := builds.fails.mp ⟨error, built⟩
      rcases known member among with rfl | among
      · exact absurd unfit fills.not_unfit
      · obtain ⟨-, cell, fills⟩ := beside member among
        exact absurd unfit fills.not_unfit
  | ok row =>
      obtain ⟨cells, become, rfl⟩ := builds.row built
      refine ⟨_, rfl, ?_⟩
      obtain ⟨onward, back⟩ := exists_becomes become
      obtain ⟨entry, within, named, -⟩ := onward (name, value) present
      obtain ⟨⟨column, held⟩, last, same⟩ :=
        IsLast.exists_of_mem (fun pair => lowered pair.1) within
      rw [get?_ofCells_eq_some_iff]
      -- The last cell set under the name comes from a member, and no other member goes by it.
      obtain ⟨member, among, named', fills'⟩ := back _ last.mem
      rcases known member among with rfl | among
      · obtain rfl := fills.unique fills'
        exact ⟨column, last, congrArg lowered named'.symm⟩
      · refine absurd ?_ (beside member among).1
        rw [named', same, ← named]

theorem Beside.ofJson_of_unfit {cause : ConversionCause} (beside : Beside name (before ++ after))
    (legible : value.Legible) (unfit : value.Unfit cause) :
    ofJson (document before after name value) = .error ⟨name, cause⟩ := by
  obtain ⟨ordered, builds, present, known⟩ := beside.exists_builds legible
  obtain ⟨⟨column, reported⟩, failed⟩ := builds.fails.mpr ⟨_, present, cause, unfit⟩
  obtain ⟨earlier, culprit, later, rfl, -, unfit'⟩ := builds.first failed
  rcases known (column, culprit) (by simp) with same | among
  · obtain ⟨rfl, rfl⟩ := Prod.mk.inj same
    rw [failed, unfit.unique unfit']
  · obtain ⟨-, cell, fills⟩ := beside _ among
    exact absurd unfit' fills.not_unfit

/-- A text is read as the integer that it spells, if that is a word, and is reported otherwise. So a
document that gives an integer by its digits and one that gives it as a number read alike, and where
the integer is no word neither is read. -/
theorem integers_read_exactly :
    (∀ (row : Row) column text, row.get? column = some (.text text) →
      (∀ number, row.int? column = .ok (some number) ↔
        Spells text.toList number ∧ FitsWord number) ∧
      ((∀ number, Spells text.toList number → ¬FitsWord number) →
        row.int? column = .error ⟨column, .notInteger text⟩)) ∧
    ∀ number, Signed (Decimal.ofInt number).toList number ∧
      ∀ digits before after name, Signed digits.toList number → Beside name (before ++ after) →
        (FitsWord number → ∃ texted numbered,
          ofJson (document before after name (.ofString digits)) = .ok texted ∧
          ofJson (document before after name (.ofInt number)) = .ok numbered ∧
          texted.int (lowered name) = .ok number ∧ numbered.int (lowered name) = .ok number) ∧
        (¬FitsWord number →
          (∃ texted, ofJson (document before after name (.ofString digits)) = .ok texted ∧
            texted.int (lowered name) = .error ⟨lowered name, .notInteger digits⟩) ∧
          ofJson (document before after name (.ofInt number)) =
            .error ⟨name, .fractional (.ofInt number)⟩) := by
  constructor
  · intro row column text held
    exact ⟨fun number => int?_eq_some_iff held, int?_eq_error held⟩
  · intro number
    refine ⟨.ofInt number, ?_⟩
    intro digits before after name signed beside
    obtain ⟨texted, builtText, heldText⟩ := beside.ofJson_of_fills (.string digits)
    constructor
    · intro word
      obtain ⟨numbered, builtNumber, heldNumber⟩ := beside.ofJson_of_fills (.int word)
      refine ⟨texted, numbered, builtText, builtNumber, ?_, ?_⟩
      · apply required_eq_ok_iff.mpr
        exact (int?_eq_some_iff heldText).mpr ⟨signed.spells, word⟩
      · apply required_eq_ok_iff.mpr
        rw [int?, read?, given?_eq_some_iff.mpr ⟨heldNumber, by simp⟩]
        rfl
    · intro beyond
      refine ⟨⟨texted, builtText, ?_⟩, ?_⟩
      · rw [int, int?_eq_error heldText]
        · rfl
        · intro other spells word
          exact beyond (spells.unique signed.spells ▸ word)
      · exact beside.ofJson_of_unfit (.number _) (unfit_ofInt beyond)

def bordering : Row :=
  ofCells [("least", .text " -9223372036854775808\n"), ("beyond", .text "9223372036854775808")]

theorem integers_read_up_to_the_limits :
    bordering.int? "least" = .ok (some (-9223372036854775808)) ∧
      bordering.int? "beyond" = .error ⟨"beyond", .notInteger "9223372036854775808"⟩ ∧
      (∃ texted numbered,
        ofJson (document [("unit", .null)] [] "Least" (.ofString "-9223372036854775808")) =
          .ok texted ∧
        ofJson (document [("unit", .null)] [] "Least" (.ofInt (-9223372036854775808))) =
          .ok numbered ∧
        texted.int (lowered "Least") = .ok (-9223372036854775808) ∧
        numbered.int (lowered "Least") = .ok (-9223372036854775808)) ∧
      ofJson (document [("unit", .null)] [] "Beyond" (.ofInt 9223372036854775808)) =
        .error ⟨"Beyond", .fractional (.ofInt 9223372036854775808)⟩ := by
  have beside (name : String) (other : lowered "unit" ≠ lowered name) :
      Beside name ([("unit", Json.null)] ++ []) := by
    refine List.forall_mem_cons.mpr ⟨⟨other, _, .null⟩, by simp⟩
  have least : Signed "-9223372036854775808".toList (-9223372036854775808) :=
    .minus (Numeral.toDigits 9223372036854775808)
  have beyond : Signed "9223372036854775808".toList 9223372036854775808 :=
    .bare (Numeral.toDigits 9223372036854775808)
  obtain ⟨texts, numbers⟩ := integers_read_exactly
  refine ⟨?_, ?_, ?_, ?_⟩
  · refine ((texts bordering "least" _ rfl).1 _).mpr ⟨?_, by decide⟩
    have blank : Text.isBlank ' ' ∧ Text.isBlank '\n' := by decide
    exact ⟨[' '], _, ['\n'], rfl, by simpa using blank.1, by simpa using blank.2, least⟩
  · refine (texts bordering "beyond" _ rfl).2 ?_
    intro number spells word
    obtain rfl := spells.unique beyond.spells
    exact absurd word (by decide)
  · exact ((numbers _).2 _ _ _ _ least (beside "Least" (by decide))).1 (by decide)
  · exact (((numbers _).2 _ _ _ _ beyond (beside "Beyond" (by decide))).2 (by decide)).2

end Row

end Provision
