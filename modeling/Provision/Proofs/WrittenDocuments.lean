import Mathlib.Tactic.IntervalCases
import Provision.Json.Reading
import Provision.Proofs.Documents

/-!
Documents read back from their compact form. A value is read up to where it ends, given that the
end of the text, a comma or a closing mark follows, and with fuel for twice its length; lists and
objects follow by induction on what they hold.
-/

namespace Provision.Json

namespace Reading

def ReadsCode (written : List Char) (code : Nat) : Prop :=
  ∀ rest, codes? (written ++ rest) = (codes? rest).map fun read => (code :: read.1, read.2)

theorem readsCode_escape {mark : Char} {code : Nat} (found : escape? mark = some code) :
    ReadsCode ['\\', mark] code := by
  intro rest
  have other : mark ≠ 'u' := by
    rintro rfl
    simp [escape?] at found
  simp only [List.cons_append, List.nil_append]
  rw [codes?, found]
  · cases codes? rest <;> rfl
  · simp [other]

theorem readsCode_hexCode {first second third fourth : Char} {code : Nat}
    (found : hexCode? first second third fourth = some code) :
    ReadsCode ['\\', 'u', first, second, third, fourth] code := by
  intro rest
  simp only [List.cons_append, List.nil_append]
  rw [codes?, found]
  cases codes? rest <;> rfl

theorem readsCode_plain {char : Char} (unquoted : char ≠ '"') (unescaped : char ≠ '\\')
    (shown : 0x20 ≤ char.toNat) : ReadsCode [char] char.toNat := by
  intro rest
  simp only [List.cons_append, List.nil_append]
  rw [codes?, if_neg]
  · cases codes? rest <;> rfl
  · simp only [Bool.or_eq_true, decide_eq_true_eq, not_or]
    exact ⟨unescaped, by omega⟩
  · exact unquoted
  · simp [unescaped]
  · simp [unescaped]

theorem escaped_eq {code : Nat} (control : code < 0x20) :
    Literal.escaped code = ['\\', 'u', '0', '0', (code / 16).digitChar, (code % 16).digitChar] ∧
      hexCode? '0' '0' (code / 16).digitChar (code % 16).digitChar = some code := by
  revert code
  decide

theorem readsCode_writtenCode (char : Char) :
    ReadsCode (Literal.writtenCode char.toNat) char.toNat := by
  rw [Literal.writtenCode]
  split_ifs with quote backslash backspace tab newline feed carriage control
  · exact quote ▸ readsCode_escape rfl
  · exact backslash ▸ readsCode_escape rfl
  · exact backspace ▸ readsCode_escape rfl
  · exact tab ▸ readsCode_escape rfl
  · exact newline ▸ readsCode_escape rfl
  · exact feed ▸ readsCode_escape rfl
  · exact carriage ▸ readsCode_escape rfl
  · simp only [Literal.isHalf_toNat, Bool.or_false, decide_eq_true_eq] at control
    obtain ⟨written, read⟩ := escaped_eq control
    exact written ▸ readsCode_hexCode read
  · simp only [Literal.isHalf_toNat, Bool.or_false, decide_eq_true_eq, not_lt] at control
    rw [Char.ofNat_toNat]
    refine readsCode_plain ?_ ?_ control
    · rintro rfl
      exact quote rfl
    · rintro rfl
      exact backslash rfl

theorem codes?_writtenCodes (chars : List Char) (rest : List Char) :
    codes? ((chars.map Char.toNat).flatMap Literal.writtenCode ++ '"' :: rest) =
      some (chars.map Char.toNat, rest) := by
  induction chars with
  | nil => rfl
  | cons char chars ih =>
      rw [List.map_cons, List.flatMap_cons, List.append_assoc, readsCode_writtenCode, ih]
      rfl

theorem paired_toNat (chars : List Char) :
    paired (chars.map Char.toNat) = chars.map Char.toNat := by
  induction chars with
  | nil => rfl
  | cons char chars ih =>
      cases chars with
      | nil => rfl
      | cons next later =>
          have whole : isHighHalf char.toNat = false :=
            (Bool.or_eq_false_iff.mp (Literal.isHalf_toNat char)).1
          rw [List.map_cons, List.map_cons, paired, whole, Bool.false_and, if_neg (by decide),
            ← List.map_cons, ih]

theorem toList_write (text : String) :
    (Literal.ofString text).write.toList =
      '"' :: ((text.toList.map Char.toNat).flatMap Literal.writtenCode ++ ['"']) := by
  rw [Literal.write, String.toList_ofList]
  rfl

theorem literal?_write (text : String) (rest : List Char) :
    literal? ((Literal.ofString text).write.toList ++ rest) = some (.ofString text, rest) := by
  simp only [toList_write, List.cons_append, List.append_assoc, List.nil_append]
  rw [literal?, codes?_writtenCodes]
  simp only [Option.map_some, paired_toNat]
  rfl

/-- What follows a value in a document: the end, or a mark that goes on after it or closes. -/
def Closed (rest : List Char) : Prop :=
  ∀ char ∈ rest.head?, char = ',' ∨ char = ']' ∨ char = '\x7d'

theorem Closed.isDigit_eq_false {rest : List Char} (closed : Closed rest) :
    ∀ char ∈ rest.head?, char.isDigit = false := by
  intro char first
  rcases closed char first with rfl | rfl | rfl <;> rfl

theorem Closed.fraction?_eq {rest : List Char} (closed : Closed rest) :
    fraction? rest = some ([], rest) := by
  cases rest with
  | nil => rfl
  | cons char later => rcases closed char rfl with rfl | rfl | rfl <;> rfl

theorem Closed.exponent?_eq {rest : List Char} (closed : Closed rest) :
    exponent? rest = some (none, rest) := by
  cases rest with
  | nil => rfl
  | cons char later => rcases closed char rfl with rfl | rfl | rfl <;> rfl

theorem head?_toDigits_ne_zero {number : Nat} (positive : 0 < number) :
    (Nat.toDigits 10 number).head? ≠ some '0' := by
  induction number using Nat.strongRecOn with
  | ind number ih =>
      by_cases small : number < 10
      · rw [Nat.toDigits_of_lt_base small]
        interval_cases number <;> decide
      · rw [Nat.toDigits_of_base_le (by decide) (by omega),
          List.head?_append_of_ne_nil _ Nat.toDigits_ne_nil]
        exact ih _ (by omega) (by omega)

theorem exists_toDigits (number : Nat) :
    ∃ digit later, Nat.toDigits 10 number = digit :: later ∧ digit.isDigit := by
  obtain ⟨digit, later, split⟩ := List.exists_cons_of_ne_nil
    (Nat.toDigits_ne_nil : Nat.toDigits 10 number ≠ [])
  have member : digit ∈ Nat.toDigits 10 number := split ▸ List.mem_cons_self
  exact ⟨digit, later, split, Nat.isDigit_of_mem_toDigits (by decide) (by decide) member⟩

theorem not_refused_toDigits (number : Nat) :
    ¬(Nat.toDigits 10 number = [] ∨
      (Nat.toDigits 10 number).head? = some '0' ∧ 1 < (Nat.toDigits 10 number).length) := by
  rintro (none | ⟨zero, several⟩)
  · exact Nat.toDigits_ne_nil none
  · rcases Nat.eq_zero_or_pos number with rfl | positive
    · simp at several
    · exact head?_toDigits_ne_zero positive zero

section Digits

variable (number : Nat) {rest : List Char} (closed : Closed rest)
include closed

theorem span_toDigits :
    (Nat.toDigits 10 number ++ rest).takeWhile Char.isDigit = Nat.toDigits 10 number ∧
      (Nat.toDigits 10 number ++ rest).dropWhile Char.isDigit = rest := by
  refine Text.span_append ?_ closed.isDigit_eq_false
  intro char member
  exact Nat.isDigit_of_mem_toDigits (by decide) (by decide) member

theorem number?_toDigits :
    number? (Nat.toDigits 10 number ++ rest) = some (⟨false, number, [], none⟩, rest) := by
  obtain ⟨taken, left⟩ := span_toDigits number closed
  have accepted := not_refused_toDigits number
  rw [number?]
  · simp only [taken, left]
    rw [if_neg (by simpa using accepted), closed.fraction?_eq]
    simp [closed.exponent?_eq, Nat.ofDigitChars_ten_toDigits]
  · intro later same
    obtain ⟨first, others, split, digit⟩ := exists_toDigits number
    rw [split, List.cons_append, List.cons.injEq] at same
    simp [same.1] at digit

theorem number?_minus :
    number? ('-' :: (Nat.toDigits 10 number ++ rest)) =
      some (⟨true, number, [], none⟩, rest) := by
  obtain ⟨taken, left⟩ := span_toDigits number closed
  have accepted := not_refused_toDigits number
  rw [number?]
  simp only [taken, left]
  rw [if_neg (by simpa using accepted), closed.fraction?_eq]
  simp [closed.exponent?_eq, Nat.ofDigitChars_ten_toDigits]

end Digits

theorem text_ofInt {number : Int} (word : Decimal.FitsWord number) :
    (Number.ofInt number).text = Decimal.ofInt number := by
  simp [Number.text, Number.toWord?_eq_some_iff.mpr ⟨rfl, word⟩]

theorem number?_ofInt {number : Int} (word : Decimal.FitsWord number) {rest : List Char}
    (closed : Closed rest) :
    number? ((Number.ofInt number).text.toList ++ rest) = some (.ofInt number, rest) := by
  rw [text_ofInt word]
  cases number with
  | ofNat number =>
      simp [Decimal.ofInt, Decimal.ofNat, number?_toDigits number closed, Number.ofInt]
  | negSucc number =>
      simp [Decimal.ofInt, Decimal.ofNat, number?_minus (number + 1) closed, Number.ofInt]

end Reading

theorem ofMembers_eq_object (members : List (String × Json)) :
    ofMembers members = object (members.map spelled) := rfl

theorem compactItems_eq_map (items : List Json) : compactItems items = items.map compact := by
  induction items with
  | nil => rfl
  | cons item rest ih => rw [compactItems, ih, List.map_cons]

theorem compactMembers_eq_map (members : List (Literal × Json)) :
    compactMembers members = members.map fun member => (member.1, member.2.compact) := by
  induction members with
  | nil => rfl
  | cons member rest ih => rw [compactMembers, ih, List.map_cons]

/-- What the compact form keeps: integers of 64 bits, texts without halves of pairs, and objects
whose members are in the order of their names, each once. -/
inductive Normal : Json → Prop
  | null : Normal null
  | bool (truth : Bool) : Normal (bool truth)
  | int {number : Int} (word : Decimal.FitsWord number) : Normal (ofInt number)
  | string (text : String) : Normal (ofString text)
  | list {items : List Json} (each : ∀ item ∈ items, Normal item) : Normal (list items)
  | object {members : List (String × Json)}
      (ascending : members.Pairwise fun left right => left.1 < right.1)
      (each : ∀ member ∈ members, Normal member.2) : Normal (ofMembers members)

namespace Reading

def ReadsBack (json : Json) : Prop :=
  ∀ fuel rest, 2 * json.compact.toList.length ≤ fuel → Closed rest →
    value? fuel (json.compact.toList ++ rest) = some (json, rest)

theorem closed_comma (rest : List Char) : Closed (',' :: rest) := by simp [Closed]

theorem closed_bracket (rest : List Char) : Closed (']' :: rest) := by simp [Closed]

theorem closed_brace (rest : List Char) : Closed ('\x7d' :: rest) := by simp [Closed]

section Steps

variable {fuel : Nat} {text later rest : List Char} {name : String} {item : Json}

theorem items?_last (read : value? fuel text = some (item, ']' :: rest)) :
    items? (fuel + 1) text = some ([item], rest) := by
  rw [items?, read]
  rfl

theorem items?_cons {items : List Json} (read : value? fuel text = some (item, ',' :: later))
    (onward : items? fuel later = some (items, rest)) :
    items? (fuel + 1) text = some (item :: items, rest) := by
  rw [items?, read]
  show (items? fuel later).bind _ = _
  rw [onward]
  rfl

theorem skipBlanks_write (name : String) (text : List Char) :
    skipBlanks ((Literal.ofString name).write.toList ++ text) =
      (Literal.ofString name).write.toList ++ text := by
  rw [toList_write]
  rfl

theorem members?_last (read : value? fuel text = some (item, '\x7d' :: rest)) :
    members? (fuel + 1) ((Literal.ofString name).write.toList ++ ':' :: text) =
      some ([(.ofString name, item)], rest) := by
  rw [members?, skipBlanks_write, literal?_write]
  show (value? fuel text).bind _ = _
  rw [read]
  rfl

theorem members?_cons {members : List (Literal × Json)}
    (read : value? fuel text = some (item, ',' :: later))
    (onward : members? fuel later = some (members, rest)) :
    members? (fuel + 1) ((Literal.ofString name).write.toList ++ ':' :: text) =
      some ((.ofString name, item) :: members, rest) := by
  rw [members?, skipBlanks_write, literal?_write]
  show (value? fuel text).bind _ = _
  rw [read]
  show (members? fuel later).bind _ = _
  rw [onward]
  rfl

theorem value?_bracket (fuel : Nat) (text : List Char) :
    value? (fuel + 1) ('[' :: text) =
      match skipBlanks text with
      | ']' :: rest => some (list [], rest)
      | rest => (items? fuel rest).map fun read => (list read.1, read.2) := rfl

theorem value?_list {items : List Json} {char : Char} (visible : isBlank char = false)
    (other : char ≠ ']') (read : items? fuel (char :: text) = some (items, rest)) :
    value? (fuel + 1) ('[' :: char :: text) = some (list items, rest) := by
  have opening : skipBlanks (char :: text) = char :: text :=
    List.dropWhile_cons_of_neg (by simp [visible])
  rw [value?_bracket, opening]
  split
  next later same => exact absurd (List.cons.inj same).1 other
  next => rw [read]; rfl

theorem value?_object {members : List (Literal × Json)}
    (read : members? fuel ('"' :: text) = some (members, rest)) :
    value? (fuel + 1) ('\x7b' :: '"' :: text) = some (.object members, rest) := by
  show (members? fuel ('"' :: text)).map _ = _
  rw [read]
  rfl

end Steps

theorem exists_succ {fuel size : Nat} (enough : 2 * (size + 1) ≤ fuel) :
    ∃ less, fuel = less + 1 ∧ 2 * size < less := ⟨fuel - 1, by omega, by omega⟩

def itemsText (items : List Json) : List Char := (Text.joined "," (items.map compact)).toList

theorem itemsText_cons_cons (first second : Json) (others : List Json) :
    itemsText (first :: second :: others) =
      first.compact.toList ++ ',' :: itemsText (second :: others) := by
  simp [itemsText, Text.joined]

/-- The fuel that an item leaves over is enough for the items after it. -/
theorem items?_itemsText {items : List Json} (each : ∀ item ∈ items, ReadsBack item)
    (given : items ≠ []) (rest : List Char) (fuel : Nat)
    (enough : 2 * ((itemsText items).length + 1) ≤ fuel) :
    items? fuel (itemsText items ++ ']' :: rest) = some (items, rest) := by
  induction items generalizing fuel with
  | nil => exact absurd rfl given
  | cons first others ih =>
      obtain ⟨reads, each⟩ := List.forall_mem_cons.mp each
      obtain ⟨fuel, rfl, enough⟩ := exists_succ enough
      cases others with
      | nil =>
          have alone : itemsText [first] = first.compact.toList := rfl
          rw [alone] at enough ⊢
          exact items?_last (reads fuel _ (by omega) (closed_bracket rest))
      | cons second others =>
          rw [itemsText_cons_cons, List.length_append, List.length_cons] at enough
          rw [itemsText_cons_cons, List.append_assoc, List.cons_append]
          exact items?_cons (reads fuel _ (by omega) (closed_comma _))
            (ih each (by simp) fuel (by omega))

def membersText (members : List (String × Json)) : List Char :=
  (Text.joined "," (members.map fun member =>
    writeMember (.ofString member.1, member.2.compact))).toList

theorem membersText_singleton (member : String × Json) :
    membersText [member] =
      (Literal.ofString member.1).write.toList ++ ':' :: member.2.compact.toList := by
  simp [membersText, Text.joined, writeMember]

theorem membersText_cons_cons (first second : String × Json) (others : List (String × Json)) :
    membersText (first :: second :: others) =
      (Literal.ofString first.1).write.toList ++
        ':' :: (first.2.compact.toList ++ ',' :: membersText (second :: others)) := by
  simp [membersText, Text.joined, writeMember]

theorem members?_membersText {members : List (String × Json)}
    (each : ∀ member ∈ members, ReadsBack member.2) (given : members ≠ []) (rest : List Char)
    (fuel : Nat) (enough : 2 * ((membersText members).length + 1) ≤ fuel) :
    members? fuel (membersText members ++ '\x7d' :: rest) = some (members.map spelled, rest) := by
  induction members generalizing fuel with
  | nil => exact absurd rfl given
  | cons first others ih =>
      obtain ⟨reads, each⟩ := List.forall_mem_cons.mp each
      obtain ⟨fuel, rfl, enough⟩ := exists_succ enough
      cases others with
      | nil =>
          rw [membersText_singleton, List.length_append, List.length_cons] at enough
          rw [membersText_singleton, List.append_assoc, List.cons_append]
          exact members?_last (reads fuel _ (by omega) (closed_brace rest))
      | cons second others =>
          rw [membersText_cons_cons, List.length_append, List.length_cons, List.length_append,
            List.length_cons] at enough
          rw [membersText_cons_cons, List.append_assoc, List.cons_append, List.append_assoc,
            List.cons_append]
          exact members?_cons (reads fuel _ (by omega) (closed_comma _))
            (ih each (by simp) fuel (by omega))

def OpensNumber (char : Char) : Prop := char = '-' ∨ char.isDigit

theorem OpensNumber.ne {char : Char} (opens : OpensNumber char) (other : Char)
    (foreign : other ≠ '-' ∧ other.isDigit = false) : char ≠ other := by
  rintro rfl
  rcases opens with minus | digit
  · exact foreign.1 minus
  · simp [foreign.2] at digit

theorem OpensNumber.isBlank_eq_false {char : Char} (opens : OpensNumber char) :
    isBlank char = false := by
  simp [isBlank, opens.ne ' ' (by decide), opens.ne '\n' (by decide), opens.ne '\r' (by decide),
    opens.ne '\t' (by decide)]

theorem exists_opensNumber {number : Int} (word : Decimal.FitsWord number) :
    ∃ char later, (ofInt number).compact.toList = char :: later ∧ OpensNumber char := by
  rw [ofInt, compact, text_ofInt word]
  cases number with
  | ofNat number =>
      obtain ⟨digit, later, split, opens⟩ := exists_toDigits number
      exact ⟨digit, later, by simp [Decimal.ofInt, Decimal.ofNat, split], .inr opens⟩
  | negSucc number =>
      exact ⟨'-', Nat.toDigits 10 (number + 1), by simp [Decimal.ofInt, Decimal.ofNat], .inl rfl⟩

theorem value?_number {char : Char} {later rest : List Char} {number : Number} (fuel : Nat)
    (opens : OpensNumber char) (read : number? (char :: later) = some (number, rest)) :
    value? (fuel + 1) (char :: later) = some (.number number, rest) := by
  have opening : skipBlanks (char :: later) = char :: later :=
    List.dropWhile_cons_of_neg (by simp [opens.isBlank_eq_false])
  rw [value?, opening]
  -- What begins as a number is none of the other values.
  split
  next same => exact absurd (List.cons.inj same).1 (opens.ne _ (by decide))
  next same => exact absurd (List.cons.inj same).1 (opens.ne _ (by decide))
  next same => exact absurd (List.cons.inj same).1 (opens.ne _ (by decide))
  next same => exact absurd (List.cons.inj same).1 (opens.ne _ (by decide))
  next same => exact absurd (List.cons.inj same).1 (opens.ne _ (by decide))
  next same => exact absurd (List.cons.inj same).1 (opens.ne _ (by decide))
  next => rw [read]; rfl

theorem readsBack_ofInt {number : Int} (word : Decimal.FitsWord number) :
    ReadsBack (ofInt number) := by
  intro fuel rest enough closed
  obtain ⟨char, later, split, opens⟩ := exists_opensNumber word
  have read := number?_ofInt word closed
  rw [split, List.length_cons] at enough
  obtain ⟨fuel, rfl, -⟩ := exists_succ enough
  rw [show (Number.ofInt number).text = (ofInt number).compact from rfl, split] at read
  rw [split]
  exact value?_number fuel opens read

theorem readsBack_ofString (text : String) : ReadsBack (ofString text) := by
  intro fuel rest enough closed
  have written : (ofString text).compact.toList =
      '"' :: ((text.toList.map Char.toNat).flatMap Literal.writtenCode ++ ['"']) :=
    toList_write text
  rw [written, List.length_cons] at enough
  obtain ⟨fuel, rfl, -⟩ := exists_succ enough
  rw [written, List.cons_append, List.append_assoc]
  show (codes? (_ ++ '"' :: rest)).map _ = _
  rw [codes?_writtenCodes, Option.map_some, paired_toNat]
  rfl

theorem toList_compact_list (items : List Json) :
    (list items).compact.toList = '[' :: (itemsText items ++ [']']) := by
  simp [compact, compactItems_eq_map, itemsText]

theorem place_of_greater {α : Type} {placed : List (Literal × α)} {name : Literal} (value : α)
    (greater : ∀ member ∈ placed, member.1.codes < name.codes) :
    place name value placed = placed ++ [(name, value)] := by
  induction placed with
  | nil => rfl
  | cons first rest ih =>
      obtain ⟨before, greater⟩ := List.forall_mem_cons.mp greater
      have other : name ≠ first.1 := by
        rintro rfl
        exact List.lt_irrefl _ before
      rw [place, if_neg other, if_neg (List.lt_asymm before), ih greater, List.cons_append]

theorem arranged_of_ascending {α : Type} {members : List (Literal × α)}
    (ascending : Ascending members) : arranged members = members := by
  induction members using List.reverseRecOn with
  | nil => rfl
  | append_singleton members last ih =>
      obtain ⟨ascending, -, greater⟩ := List.pairwise_append.mp ascending
      rw [arranged_concat, ih ascending]
      exact place_of_greater last.2 fun member among => greater member among last (by simp)

theorem toList_compact_ofMembers {members : List (String × Json)}
    (ascending : members.Pairwise fun left right => left.1 < right.1) :
    (ofMembers members).compact.toList = '\x7b' :: (membersText members ++ ['\x7d']) := by
  have written : compactMembers (members.map spelled) =
      members.map fun member => (.ofString member.1, member.2.compact) := by
    rw [compactMembers_eq_map, List.map_map]
    rfl
  have placed : Ascending (members.map fun member =>
      (Literal.ofString member.1, member.2.compact)) :=
    List.pairwise_map.mpr (ascending.imp Literal.codes_ofString_lt_iff.mpr)
  rw [ofMembers_eq_object, compact, written,
    arranged_of_ascending placed, List.map_map]
  simp [membersText, Function.comp_def]

end Reading

open Reading

theorem Normal.exists_cons {json : Json} (normal : json.Normal) :
    ∃ char later, json.compact.toList = char :: later ∧ isBlank char = false ∧ char ≠ ']' := by
  cases normal with
  | null => exact ⟨'n', _, rfl, rfl, by decide⟩
  | bool truth =>
      cases truth with
      | true => exact ⟨'t', _, rfl, rfl, by decide⟩
      | false => exact ⟨'f', _, rfl, rfl, by decide⟩
  | int word =>
      obtain ⟨char, later, split, opens⟩ := exists_opensNumber word
      exact ⟨char, later, split, opens.isBlank_eq_false, opens.ne _ (by decide)⟩
  | string text => exact ⟨'"', _, toList_write text, rfl, by decide⟩
  | list each => exact ⟨'[', _, toList_compact_list _, rfl, by decide⟩
  | object ascending each => exact ⟨'\x7b', _, toList_compact_ofMembers ascending, rfl, by decide⟩

theorem Normal.exists_cons_itemsText {first : Json} (normal : first.Normal) (others : List Json) :
    ∃ char later, itemsText (first :: others) = char :: later ∧ isBlank char = false ∧
      char ≠ ']' := by
  obtain ⟨char, later, split, visible, other⟩ := normal.exists_cons
  cases others with
  | nil => exact ⟨char, later, split, visible, other⟩
  | cons second others =>
      rw [itemsText_cons_cons, split]
      exact ⟨char, _, rfl, visible, other⟩

theorem exists_membersText_cons (first : String × Json) (others : List (String × Json)) :
    ∃ later, membersText (first :: others) = '"' :: later := by
  cases others with
  | nil =>
      rw [membersText_singleton, toList_write]
      exact ⟨_, rfl⟩
  | cons second others =>
      rw [membersText_cons_cons, toList_write]
      exact ⟨_, rfl⟩

theorem Normal.readsBack {json : Json} (normal : json.Normal) : ReadsBack json := by
  induction normal with
  | null =>
      intro fuel rest enough closed
      obtain ⟨fuel, rfl, -⟩ := exists_succ (show 2 * (3 + 1) ≤ fuel from enough)
      rfl
  | bool truth =>
      intro fuel rest enough closed
      cases truth with
      | true =>
          obtain ⟨fuel, rfl, -⟩ := exists_succ (show 2 * (3 + 1) ≤ fuel from enough)
          rfl
      | false =>
          obtain ⟨fuel, rfl, -⟩ := exists_succ (show 2 * (4 + 1) ≤ fuel from enough)
          rfl
  | int word => exact readsBack_ofInt word
  | string text => exact readsBack_ofString text
  | @list items each ih =>
      intro fuel rest enough closed
      rw [toList_compact_list, List.length_cons, List.length_append,
        List.length_singleton] at enough
      obtain ⟨fuel, rfl, less⟩ := exists_succ enough
      rw [toList_compact_list, List.cons_append, List.append_assoc, List.singleton_append]
      cases items with
      | nil => rfl
      | cons first others =>
          have read := items?_itemsText ih (List.cons_ne_nil first others) rest fuel (by omega)
          obtain ⟨char, later, split, visible, other⟩ :=
            (each first List.mem_cons_self).exists_cons_itemsText others
          rw [split, List.cons_append] at read ⊢
          exact value?_list visible other read
  | @object members ascending each ih =>
      intro fuel rest enough closed
      rw [toList_compact_ofMembers ascending, List.length_cons, List.length_append,
        List.length_singleton] at enough
      obtain ⟨fuel, rfl, less⟩ := exists_succ enough
      rw [toList_compact_ofMembers ascending, List.cons_append, List.append_assoc,
        List.singleton_append]
      cases members with
      | nil => rfl
      | cons first others =>
          have read := members?_membersText ih (List.cons_ne_nil first others) rest fuel (by omega)
          obtain ⟨later, split⟩ := exists_membersText_cons first others
          rw [split, List.cons_append] at read ⊢
          exact value?_object read

/-- A document reads back from its compact form. -/
theorem parse?_compact {json : Json} (normal : json.Normal) : parse? json.compact = some json := by
  have read := normal.readsBack (2 * json.compact.toList.length + 1) [] (by omega)
    (by simp [Closed])
  rw [List.append_nil] at read
  rw [parse?, read]
  rfl

end Provision.Json
