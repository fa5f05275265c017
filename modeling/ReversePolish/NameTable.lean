import ReversePolish.Text

/-! # Tables of names

A table holds one entry per name.  It remembers the order in which the names were first
entered: a new entry goes to the end, and a later entry of the same name takes the place
of the earlier one.  `sorted` lists the same entries by name, in the order of code points.
-/

namespace ReversePolish

/-- A table from names to values, in the order of first entry. -/
structure NameTable (α : Type) where
  entries : List (Text × α)
  distinct : (entries.map Prod.fst).Nodup
  deriving Repr, DecidableEq

namespace NameTable

variable {α : Type}

/-- Enter a value under a name in a list of entries. -/
def enter (name : Text) (value : α) : List (Text × α) → List (Text × α)
  | [] => [(name, value)]
  | (other, old) :: rest =>
    if other = name then (name, value) :: rest else (other, old) :: enter name value rest

theorem mem_names_enter {name other : Text} {value : α} {entries : List (Text × α)} :
    other ∈ (enter name value entries).map Prod.fst ↔
      other = name ∨ other ∈ entries.map Prod.fst := by
  induction entries with
  | nil => simp [enter]
  | cons head rest ih =>
    obtain ⟨first, old⟩ := head
    by_cases same : first = name
    · simp [enter, same]
    · simp only [enter, same, if_false, List.map_cons, List.mem_cons, ih]
      grind

theorem enter_distinct {name : Text} {value : α} {entries : List (Text × α)}
    (distinct : (entries.map Prod.fst).Nodup) :
    ((enter name value entries).map Prod.fst).Nodup := by
  induction entries with
  | nil => simp [enter]
  | cons head rest ih =>
    obtain ⟨first, old⟩ := head
    rw [List.map_cons, List.nodup_cons] at distinct
    by_cases same : first = name
    · subst same
      simpa [enter] using distinct
    · simp only [enter, same, if_false, List.map_cons, List.nodup_cons]
      refine ⟨fun member => ?_, ih distinct.2⟩
      rcases mem_names_enter.mp member with equal | member
      · exact same equal
      · exact distinct.1 member

def empty : NameTable α := ⟨[], List.nodup_nil⟩

def set (table : NameTable α) (name : Text) (value : α) : NameTable α :=
  ⟨enter name value table.entries, enter_distinct table.distinct⟩

/-- Enter values one after the other, beginning with the empty table. -/
def ofList (entries : List (Text × α)) : NameTable α :=
  entries.foldl (fun table entry => table.set entry.1 entry.2) empty

def get? (table : NameTable α) (name : Text) : Option α := table.entries.lookup name

def contains (table : NameTable α) (name : Text) : Bool := (table.get? name).isSome

def size (table : NameTable α) : Nat := table.entries.length

/-- The table with the same names in the same order and other values under them. -/
def map {β : Type} (f : α → β) (table : NameTable α) : NameTable β where
  entries := table.entries.map fun entry => (entry.1, f entry.2)
  distinct := by
    rw [List.map_map]
    exact table.distinct

/-- Whether two tables have the same names, with values under them that pass for the same.  The
    order of the entries does not matter. -/
def equalBy (same : α → α → Bool) (left right : NameTable α) : Bool :=
  left.size = right.size && left.entries.all fun entry => (right.get? entry.1).any (same entry.2)

/-- Put an entry in front of the first one with a later name. -/
def insertByName (entry : Text × α) : List (Text × α) → List (Text × α)
  | [] => [entry]
  | head :: rest =>
    if entry.1 < head.1 then entry :: head :: rest else head :: insertByName entry rest

/-- The entries by name, in the order of code points. -/
def sorted (table : NameTable α) : List (Text × α) := table.entries.foldr insertByName []

end NameTable

end ReversePolish
