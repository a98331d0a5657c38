import Mathlib.Data.List.Basic
import Provision.Provider

/-!
The stored form of an identifier leads back to it. A text is decoded by taking it apart where it is
put together, so what has been decoded is encoded as it was, and an identifier whose segments do not
hold the separating mark is decoded from its own stored form.
-/

namespace Provision

namespace Text

theorem pieces_eq_splitOn (separator : Char) (text : List Char) :
    pieces separator text = text.splitOn separator := by
  induction text with
  | nil => rfl
  | cons char rest ih =>
      rw [pieces, List.splitOn_cons_eq_if_modifyHead, ih]
      by_cases same : char = separator
      · simp [same]
      · simp only [same, if_false, beq_iff_eq]
        cases split : List.splitOn separator rest with
        | nil => exact absurd split (List.splitOn_ne_nil separator rest)
        | cons piece others => rfl

theorem length_pieces (separator : Char) (text : List Char) :
    (pieces separator text).length = text.count separator + 1 := by
  induction text with
  | nil => rfl
  | cons char rest ih =>
      by_cases same : char = separator
      · simp [pieces, same, ih]
      · rw [pieces, if_neg same, List.count_cons_of_ne same]
        cases split : pieces separator rest with
        | nil => simp [split] at ih
        | cons piece others => simpa [split] using ih

theorem toList_joined (separator : String) (parts : List String) :
    (joined separator parts).toList = separator.toList.intercalate (parts.map String.toList) := by
  induction parts with
  | nil => simp [joined]
  | cons first rest ih =>
      cases rest with
      | nil => simp [joined]
      | cons second others => simp [joined, ih, List.intercalate_cons_cons]

theorem joined_concat {separator last : String} {texts : List String} (some : texts ≠ []) :
    joined separator (texts ++ [last]) = joined separator texts ++ separator ++ last := by
  induction texts with
  | nil => exact absurd rfl some
  | cons first rest ih =>
      cases rest with
      | nil => simp [joined, String.append_assoc]
      | cons second others =>
          have onward := ih (List.cons_ne_nil second others)
          simp only [List.cons_append] at onward
          simp only [List.cons_append, joined, onward, String.append_assoc]

end Text

namespace Identifier

def parts (text : String) : List String := (Text.pieces '|' text.toList).map String.ofList

theorem joined_parts (text : String) : Text.joined "|" (parts text) = text := by
  apply String.toList_injective
  rw [Text.toList_joined, parts, Text.pieces_eq_splitOn, List.map_map]
  have undone : String.toList ∘ String.ofList = id := funext fun _ => String.toList_ofList
  rw [undone, List.map_id]
  exact List.intercalate_splitOn '|'

theorem parts_joined {segments : List String} (some : segments ≠ [])
    (free : ∀ segment ∈ segments, '|' ∉ segment.toList) :
    parts (Text.joined "|" segments) = segments := by
  have split : (List.intercalate ['|'] (segments.map String.toList)).splitOn '|' =
      segments.map String.toList := by
    apply List.splitOn_intercalate
    · simpa using free
    · simpa using some
  rw [parts, Text.pieces_eq_splitOn, Text.toList_joined]
  show (List.splitOn '|' (List.intercalate ['|'] _)).map _ = _
  rw [split, List.map_map]
  have undone : String.ofList ∘ String.toList = id := funext fun _ => String.ofList_toList
  rw [undone, List.map_id]

theorem segments_of_decode {text : String} {id : Identifier} (decoded : decode text = .ok id) :
    id.segments = parts text := by
  simp only [decode] at decoded
  split at decoded
  next name cut =>
    rw [parts, cut, ← Except.ok.inj decoded]
    rfl
  next outer name cut =>
    rw [parts, cut, ← Except.ok.inj decoded]
    rfl
  next outer middle name cut =>
    rw [parts, cut, ← Except.ok.inj decoded]
    rfl
  next => simp at decoded

theorem encode_of_decode {text : String} {id : Identifier} (decoded : decode text = .ok id) :
    id.encode = text := by
  rw [encode, segments_of_decode decoded, joined_parts]

theorem decode_encode {id : Identifier}
    (free : ∀ segment ∈ id.segments, '|' ∉ segment.toList) : decode id.encode = .ok id := by
  have cut : (Text.pieces '|' id.encode.toList).map String.ofList = id.segments := by
    apply parts_joined _ free
    cases id <;> simp [segments]
  unfold decode
  rw [cut]
  cases id <;> rfl

theorem plain_of_mem_segment {id : Identifier} (valid : id.isValid) {segment : String}
    (member : segment ∈ id.segments) {char : Char} (inside : char ∈ segment.toList) :
    isControl char = false ∧ char ≠ '|' := by
  simp only [isValid, Bool.and_eq_true, List.all_eq_true, List.mem_filter, isSegment] at valid
  have given : segment ≠ "" := by
    rintro rfl
    simp at inside
  simpa using (valid.2 segment ⟨member, by simpa using given⟩).2 char inside

theorem separator_not_mem {id : Identifier} (valid : id.isValid) :
    ∀ segment ∈ id.segments, '|' ∉ segment.toList :=
  fun _ member separator => (plain_of_mem_segment valid member separator).2 rfl

theorem decode_encode_of_isValid {id : Identifier} (valid : id.isValid) :
    decode id.encode = .ok id :=
  decode_encode (separator_not_mem valid)

theorem length_parts (text : String) : (parts text).length = text.toList.count '|' + 1 := by
  rw [parts, List.length_map, Text.length_pieces]

theorem count_le_of_decode {text : String} {id : Identifier} (decoded : decode text = .ok id) :
    text.toList.count '|' ≤ 2 := by
  have marks := length_parts text
  rw [← segments_of_decode decoded] at marks
  cases id with
  | account | database | schema =>
      simp only [segments, List.length_cons, List.length_nil] at marks
      omega

theorem error_of_decode {text : String} {error : DecodeError}
    (undecoded : decode text = .error error) :
    2 < text.toList.count '|' ∧ error = ⟨text, text.toList.count '|' + 1⟩ := by
  have marks := length_parts text
  simp only [decode] at undecoded
  split at undecoded
  next => simp at undecoded
  next => simp at undecoded
  next => simp at undecoded
  next notOne notTwo notThree =>
    have one : (parts text).length ≠ 1 := by
      intro length
      obtain ⟨name, cut⟩ := List.length_eq_one_iff.mp length
      exact notOne name cut
    have two : (parts text).length ≠ 2 := by
      intro length
      obtain ⟨outer, name, cut⟩ := List.length_eq_two.mp length
      exact notTwo outer name cut
    have three : (parts text).length ≠ 3 := by
      intro length
      obtain ⟨outer, middle, name, cut⟩ := List.length_eq_three.mp length
      exact notThree outer middle name cut
    refine ⟨by omega, ?_⟩
    rw [← marks, ← Except.error.inj undecoded]
    rfl

theorem encode_eq_iff {left right : Identifier} (valid : left.isValid) (valid' : right.isValid) :
    left.encode = right.encode ↔ left.sameAs right := by
  rw [sameAs, decide_eq_true_eq]
  constructor
  · intro same
    have decoded := decode_encode_of_isValid valid
    rw [same, decode_encode_of_isValid valid'] at decoded
    rw [Except.ok.inj decoded]
  · intro same
    rw [encode, encode, same]

theorem sameAs_comm (left right : Identifier) : left.sameAs right = right.sameAs left :=
  decide_eq_decide.mpr eq_comm

/-- A valid identifier is decoded from its stored form; a text is decoded exactly when it has at
most three parts, and then it is the stored form of what it is decoded to; and valid identifiers
have one stored form exactly when they are the same. -/
theorem stored_form_exact (id left right : Identifier) (text : String) :
    (id.isValid → decode id.encode = .ok id) ∧
    ((∃ found, decode text = .ok found) ↔ text.toList.count '|' ≤ 2) ∧
    (∀ found, decode text = .ok found → found.encode = text) ∧
    (∀ error, decode text = .error error → error = ⟨text, text.toList.count '|' + 1⟩) ∧
    (left.isValid → right.isValid →
      (left.encode = right.encode ↔ left.sameAs right) ∧
      (left.encode = right.encode ↔ right.sameAs left)) := by
  refine ⟨decode_encode_of_isValid, ?_, fun _ => encode_of_decode, ?_, fun valid valid' => ?_⟩
  · constructor
    · rintro ⟨found, decoded⟩
      exact count_le_of_decode decoded
    · intro few
      cases decoded : decode text with
      | ok found => exact ⟨found, rfl⟩
      | error error => exact absurd (error_of_decode decoded).1 (Nat.not_lt.mpr few)
  · exact fun error undecoded => (error_of_decode undecoded).2
  · rw [sameAs_comm right left]
    exact ⟨encode_eq_iff valid valid', encode_eq_iff valid valid'⟩

/-- A schema in no database and an object of the account are told apart, although both are written
by one name in statements. -/
theorem stored_form_tells_apart :
    (database ⟨"", "A"⟩).isValid ∧ (account ⟨"A"⟩).isValid ∧
      decode (database ⟨"", "A"⟩).encode = .ok (database ⟨"", "A"⟩) ∧
      (database ⟨"", "A"⟩).encode ≠ (account ⟨"A"⟩).encode ∧
      decode "A|B|C|D" = .error ⟨"A|B|C|D", 4⟩ := by
  have outerless : (database ⟨"", "A"⟩).isValid := by decide
  have named : (account ⟨"A"⟩).isValid := by decide
  obtain ⟨decoded, few, -, many, same⟩ :=
    stored_form_exact (database ⟨"", "A"⟩) (database ⟨"", "A"⟩) (account ⟨"A"⟩) "A|B|C|D"
  have apart : ¬(database ⟨"", "A"⟩).sameAs (account ⟨"A"⟩) := by decide
  refine ⟨outerless, named, decoded outerless, ?_, ?_⟩
  · exact fun encoded => apart ((same outerless named).1.mp encoded)
  · cases undecoded : decode "A|B|C|D" with
    | ok found => exact absurd (few.mp ⟨found, undecoded⟩) (by decide)
    | error error => rw [many error undecoded]; rfl

end Identifier

namespace Operation

theorem accountId_eq_ok_iff {text : String} {pool : AccountId} :
    accountId text = .ok pool ↔ Identifier.decode text = .ok pool.toIdentifier := by
  simp only [accountId]
  split
  next id decoded => simp [decoded, AccountId.toIdentifier]
  next id other decoded =>
    simp only [decoded, reduceCtorEq, Except.ok.injEq, false_iff]
    exact other pool
  next error decoded => simp [decoded]

theorem schemaId_eq_ok_iff {text : String} {repository : SchemaId} :
    schemaId text = .ok repository ↔ Identifier.decode text = .ok repository.toIdentifier := by
  simp only [schemaId]
  split
  next id decoded => simp [decoded, SchemaId.toIdentifier]
  next id other decoded =>
    simp only [decoded, reduceCtorEq, Except.ok.injEq, false_iff]
    exact other repository
  next error decoded => simp [decoded]

end Operation

end Provision
