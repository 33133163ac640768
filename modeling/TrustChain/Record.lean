/-!
# Records

A record holds values under names, in the order of the names. Settings and results are records, so
that a reader may come across names it does not know and values of a type it does not expect.

No name occurs twice, so records with the same values under the same names are equal, and what is
found under a name is what was put there last (`get?_insert_self`, `get?_insert_of_ne`).
-/

namespace TrustChain

namespace Record

variable {α : Type}

/-- Puts a value at its place among entries, over an earlier one of the same name. -/
def insertEntry (name : String) (value : α) : List (String × α) → List (String × α)
  | [] => [(name, value)]
  | (other, v) :: rest =>
    if name = other then (name, value) :: rest
    else if name < other then (name, value) :: (other, v) :: rest
    else (other, v) :: insertEntry name value rest

/-- The names of entries are in order, and each occurs once. -/
def IsOrdered (entries : List (String × α)) : Prop := entries.Pairwise fun a b => a.1 < b.1

instance (entries : List (String × α)) : Decidable (IsOrdered entries) :=
  inferInstanceAs (Decidable (entries.Pairwise _))

theorem name_eq_or_mem_of_mem_insertEntry {name : String} {value : α}
    {entries : List (String × α)} {entry : String × α}
    (h : entry ∈ insertEntry name value entries) : entry.1 = name ∨ entry ∈ entries := by
  induction entries with
  | nil => simp_all [insertEntry]
  | cons first rest ih =>
    obtain ⟨other, v⟩ := first
    rw [insertEntry] at h
    split at h
    · rcases List.mem_cons.1 h with rfl | h
      · exact .inl rfl
      · exact .inr (List.mem_cons_of_mem _ h)
    · split at h
      · rcases List.mem_cons.1 h with rfl | h
        · exact .inl rfl
        · exact .inr h
      · rcases List.mem_cons.1 h with rfl | h
        · exact .inr List.mem_cons_self
        · exact (ih h).imp_right (List.mem_cons_of_mem _)

theorem IsOrdered.insertEntry {name : String} {value : α} {entries : List (String × α)}
    (h : IsOrdered entries) : IsOrdered (insertEntry name value entries) := by
  induction entries with
  | nil => simp [Record.insertEntry, IsOrdered]
  | cons first rest ih =>
    obtain ⟨other, v⟩ := first
    obtain ⟨hfirst, hrest⟩ := List.pairwise_cons.1 h
    rw [Record.insertEntry]
    split
    · rename_i heq
      subst heq
      exact List.pairwise_cons.2 ⟨hfirst, hrest⟩
    · rename_i hne
      split
      · rename_i hlt
        refine List.pairwise_cons.2 ⟨fun entry hmem => ?_, h⟩
        rcases List.mem_cons.1 hmem with rfl | hmem
        · exact hlt
        · exact Std.lt_trans hlt (hfirst entry hmem)
      · rename_i hge
        refine List.pairwise_cons.2 ⟨fun entry hmem => ?_, ih hrest⟩
        rcases name_eq_or_mem_of_mem_insertEntry hmem with hname | hmem
        · have hother : other < name :=
            Std.lt_of_le_of_ne (Std.not_lt.1 hge) fun heq => hne heq.symm
          rw [hname]
          exact hother
        · exact hfirst entry hmem

theorem lookup_insertEntry_self (name : String) (value : α) (entries : List (String × α)) :
    (insertEntry name value entries).lookup name = some value := by
  induction entries with
  | nil => simp [insertEntry]
  | cons entry rest ih =>
    obtain ⟨other, v⟩ := entry
    rw [insertEntry]
    split
    · simp
    · rename_i hne
      split
      · simp
      · rw [List.lookup_cons, beq_eq_false_iff_ne.2 hne, ih]

theorem lookup_insertEntry_of_ne {name key : String} (h : key ≠ name) (value : α)
    (entries : List (String × α)) :
    (insertEntry name value entries).lookup key = entries.lookup key := by
  induction entries with
  | nil => simp [insertEntry, h]
  | cons entry rest ih =>
    obtain ⟨other, v⟩ := entry
    rw [insertEntry]
    split
    · rename_i heq
      subst heq
      rw [List.lookup_cons, List.lookup_cons, beq_eq_false_iff_ne.2 h]
    · split
      · rw [List.lookup_cons, beq_eq_false_iff_ne.2 h]
      · rw [List.lookup_cons, List.lookup_cons, ih]

end Record

/-- Values by name, smallest name first. -/
structure Record (α : Type) where
  entries : List (String × α)
  ordered : Record.IsOrdered entries
  deriving DecidableEq

namespace Record

variable {α : Type}

def empty : Record α := ⟨[], .nil⟩

def insert (record : Record α) (name : String) (value : α) : Record α :=
  ⟨insertEntry name value record.entries, record.ordered.insertEntry⟩

def get? (record : Record α) (name : String) : Option α := record.entries.lookup name

def erase (record : Record α) (name : String) : Record α :=
  ⟨record.entries.filter fun (other, _) => other ≠ name, record.ordered.filter _⟩

def names (record : Record α) : List String := record.entries.map Prod.fst

/-- What has just been put into a record is found there. -/
@[simp] theorem get?_insert_self (record : Record α) (name : String) (value : α) :
    (record.insert name value).get? name = some value :=
  lookup_insertEntry_self name value record.entries

/-- Putting a value into a record leaves the values of other names alone. -/
theorem get?_insert_of_ne (record : Record α) {name key : String} (h : key ≠ name) (value : α) :
    (record.insert name value).get? key = record.get? key :=
  lookup_insertEntry_of_ne h value record.entries

end Record

end TrustChain
