/-!
# Tables

Finite maps that keep the order in which their keys were first inserted.
-/

namespace ObjectConstraints

structure Table (κ : Type) (α : Type) where
  entries : List (κ × α) := []

namespace Table

variable {κ α : Type} [DecidableEq κ]

instance : Inhabited (Table κ α) := ⟨{}⟩

def getEntry (key : κ) : List (κ × α) → Option α
  | [] => none
  | (k, v) :: rest => if k = key then some v else getEntry key rest

def insertEntry (key : κ) (value : α) : List (κ × α) → List (κ × α)
  | [] => [(key, value)]
  | (k, v) :: rest =>
    if k = key then (key, value) :: rest else (k, v) :: insertEntry key value rest

def get? (table : Table κ α) (key : κ) : Option α := getEntry key table.entries

/-- Sets the value of a key, in its place if it has one and at the end otherwise. -/
def insert (table : Table κ α) (key : κ) (value : α) : Table κ α :=
  ⟨insertEntry key value table.entries⟩

def erase (table : Table κ α) (key : κ) : Table κ α :=
  ⟨table.entries.filter fun entry => ¬ entry.1 = key⟩

def contains (table : Table κ α) (key : κ) : Bool := (table.get? key).isSome

def keys (table : Table κ α) : List κ := table.entries.map (·.1)

/-- A table of the given entries; of two with one key the later counts. -/
def ofList (entries : List (κ × α)) : Table κ α :=
  entries.foldl (fun table entry => table.insert entry.1 entry.2) {}

theorem get?_empty (key : κ) : ({} : Table κ α).get? key = none := rfl

theorem get?_insert_self (table : Table κ α) (key : κ) (value : α) :
    (table.insert key value).get? key = some value := by
  obtain ⟨entries⟩ := table
  show getEntry key (insertEntry key value entries) = some value
  induction entries with
  | nil => simp [insertEntry, getEntry]
  | cons entry rest ih => by_cases h : entry.1 = key <;> simp [insertEntry, getEntry, h, ih]

theorem get?_insert_of_ne (table : Table κ α) {key other : κ} (value : α) (h : other ≠ key) :
    (table.insert key value).get? other = table.get? other := by
  obtain ⟨entries⟩ := table
  show getEntry other (insertEntry key value entries) = getEntry other entries
  induction entries with
  | nil => simp [insertEntry, getEntry, Ne.symm h]
  | cons entry rest ih =>
    by_cases hk : entry.1 = key
    · have : ¬ entry.1 = other := fun he => h (he ▸ hk)
      simp [insertEntry, getEntry, hk, Ne.symm h]
    · simp [insertEntry, getEntry, hk, ih]

theorem get?_erase_self (table : Table κ α) (key : κ) : (table.erase key).get? key = none := by
  obtain ⟨entries⟩ := table
  show getEntry key (entries.filter fun entry => ¬ entry.1 = key) = none
  induction entries with
  | nil => rfl
  | cons entry rest ih => by_cases h : entry.1 = key <;> simp_all [getEntry]

theorem get?_erase_of_ne (table : Table κ α) {key other : κ} (h : other ≠ key) :
    (table.erase key).get? other = table.get? other := by
  obtain ⟨entries⟩ := table
  show getEntry other (entries.filter fun entry => ¬ entry.1 = key) = getEntry other entries
  induction entries with
  | nil => rfl
  | cons entry rest ih =>
    by_cases hk : entry.1 = key
    · have : ¬ entry.1 = other := fun he => h (he ▸ hk)
      simp_all [getEntry]
    · simp_all [getEntry]

end Table

end ObjectConstraints
