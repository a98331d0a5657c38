/-!
Finite tables from names to values: attributes of a resource, columns of a row, the attributes a
schema declares. A name occurs once; an entry that is written again moves to the end.
-/

namespace Provision

def firstOf {α : Type} (key : String) : List (String × α) → Option α
  | [] => none
  | (name, value) :: rest => if name = key then some value else firstOf key rest

structure Table (α : Type) where
  entries : List (String × α)
  distinct : (entries.map Prod.fst).Nodup

namespace Table

variable {α β : Type}

def empty : Table α := ⟨[], List.nodup_nil⟩

instance : EmptyCollection (Table α) := ⟨empty⟩

instance : Inhabited (Table α) := ⟨empty⟩

def keys (table : Table α) : List String := table.entries.map Prod.fst

def get? (table : Table α) (key : String) : Option α := firstOf key table.entries

def contains (table : Table α) (key : String) : Bool := (table.get? key).isSome

def erase (table : Table α) (key : String) : Table α where
  entries := table.entries.filter fun entry => entry.1 ≠ key
  distinct := table.distinct.sublist (List.filter_sublist.map Prod.fst)

def insert (table : Table α) (key : String) (value : α) : Table α where
  entries := (table.erase key).entries ++ [(key, value)]
  distinct := by
    rw [List.map_append, List.nodup_append]
    refine ⟨(table.erase key).distinct, by simp, ?_⟩
    intro left leftMember right rightMember same
    simp only [erase, List.mem_map, List.mem_filter, decide_eq_true_eq] at leftMember
    simp only [List.map_cons, List.map_nil, List.mem_singleton] at rightMember
    obtain ⟨entry, ⟨_, different⟩, rfl⟩ := leftMember
    exact different (same.trans rightMember)

def insertNew (table : Table α) (key : String) (value : α) : Table α :=
  if table.contains key then table else table.insert key value

/-- Of several entries of one name the last one counts. -/
def ofList (entries : List (String × α)) : Table α :=
  entries.foldl (fun table entry => table.insert entry.1 entry.2) empty

@[simp] theorem get?_empty (key : String) : (empty : Table α).get? key = none := rfl

theorem firstOf_filter_ne (entries : List (String × α)) (erased key : String) :
    firstOf key (entries.filter fun entry => entry.1 ≠ erased) =
      if key = erased then none else firstOf key entries := by
  induction entries with
  | nil => simp [firstOf]
  | cons entry rest ih =>
      obtain ⟨name, value⟩ := entry
      by_cases kept : name = erased
      · simp only [kept, ne_eq, not_true_eq_false, decide_false, Bool.false_eq_true,
          not_false_eq_true, List.filter_cons_of_neg, firstOf]
        rw [ih]
        by_cases same : key = erased
        · simp [same]
        · simp [same, Ne.symm same]
      · simp only [ne_eq, kept, not_false_eq_true, decide_true, List.filter_cons_of_pos, firstOf]
        rw [ih]
        by_cases found : name = key
        · subst found
          simp [kept]
        · simp [found]

theorem get?_erase (table : Table α) (erased key : String) :
    (table.erase erased).get? key = if key = erased then none else table.get? key :=
  firstOf_filter_ne table.entries erased key

theorem firstOf_append (left right : List (String × α)) (key : String) :
    firstOf key (left ++ right) = (firstOf key left).or (firstOf key right) := by
  induction left with
  | nil => simp [firstOf]
  | cons entry rest ih =>
      obtain ⟨name, value⟩ := entry
      by_cases found : name = key
      · simp [firstOf, found]
      · simp [firstOf, found, ih]

theorem get?_insert (table : Table α) (inserted key : String) (value : α) :
    (table.insert inserted value).get? key =
      if key = inserted then some value else table.get? key := by
  show firstOf key ((table.erase inserted).entries ++ [(inserted, value)]) = _
  rw [firstOf_append]
  show ((table.erase inserted).get? key).or _ = _
  rw [get?_erase]
  by_cases same : key = inserted
  · simp [same, firstOf]
  · simp [same, Ne.symm same, firstOf]

end Table

end Provision
