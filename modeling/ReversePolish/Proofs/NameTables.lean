import Mathlib.Data.Char
import Mathlib.Data.List.Lex
import Mathlib.Data.List.Nodup
import Mathlib.Data.List.Perm.Subperm
import ReversePolish.NameTable

/-! # Entries and look-ups

A table is known by its look-ups, and since no name has two entries these are known by the
set of entries.  Sorting only permutes the entries, and brings their names in strictly ascending
order, so tables with the same look-ups have the same sorted entries; entering them one after the
other into the empty table gives a table with just these entries, in their order.

Two tables compare as equal just if what they give for each name passes for the same
(`NameTable.equalBy_iff_rel`).  That they are of one size rules out further names on one side.
-/

namespace ReversePolish

namespace NameTable

variable {α : Type} {name other : Text} {value : α} {entries : List (Text × α)}

theorem lookup_cons_of_ne {first : Text} {old : α} (different : other ≠ first) :
    ((first, old) :: entries).lookup other = entries.lookup other := by
  rw [List.lookup_cons, beq_false_of_ne different]

theorem lookup_enter :
    (enter name value entries).lookup other =
      if other = name then some value else entries.lookup other := by
  induction entries with
  | nil => by_cases same : other = name <;> simp [enter, same]
  | cons head rest ih =>
      obtain ⟨first, old⟩ := head
      by_cases same : first = name
      · subst same
        by_cases found : other = first
        · simp [enter, found]
        · simp [enter, found, lookup_cons_of_ne found]
      · by_cases found : other = first
        · subst found
          simp [enter, same]
        · simp [enter, same, lookup_cons_of_ne found, ih]

theorem get?_set (table : NameTable α) (name other : Text) (value : α) :
    (table.set name value).get? other = if other = name then some value else table.get? other :=
  lookup_enter

theorem get?_set_self (table : NameTable α) (name : Text) (value : α) :
    (table.set name value).get? name = some value :=
  (table.get?_set name name value).trans (if_pos rfl)

theorem get?_set_of_ne (table : NameTable α) {name other : Text} (different : other ≠ name)
    (value : α) : (table.set name value).get? other = table.get? other :=
  (table.get?_set name other value).trans (if_neg different)

/-- Without two entries of one name, an entry is found if it is there. -/
theorem lookup_eq_some_iff_mem (distinct : (entries.map Prod.fst).Nodup) :
    entries.lookup name = some value ↔ (name, value) ∈ entries := by
  induction entries with
  | nil => simp
  | cons head rest ih =>
      obtain ⟨first, old⟩ := head
      rw [List.map_cons, List.nodup_cons] at distinct
      by_cases here : name = first
      · subst here
        have elsewhere : (name, value) ∉ rest := fun member =>
          distinct.1 (List.mem_map.mpr ⟨(name, value), member, rfl⟩)
        simp [elsewhere, eq_comm]
      · simp [here, lookup_cons_of_ne here, ih distinct.2]

theorem get?_eq_some_iff (table : NameTable α) : table.get? name = some value ↔
    (name, value) ∈ table.entries :=
  lookup_eq_some_iff_mem table.distinct

/-- Two tables with the same entries in different orders have the same look-ups. -/
theorem get?_eq_of_perm {left right : NameTable α} (same : left.entries.Perm right.entries)
    (name : Text) : left.get? name = right.get? name := by
  ext value
  rw [get?_eq_some_iff, get?_eq_some_iff, same.mem_iff]

theorem insertByName_perm (entry : Text × α) (entries : List (Text × α)) :
    (insertByName entry entries).Perm (entry :: entries) := by
  induction entries with
  | nil => exact .refl _
  | cons head rest ih =>
      rw [insertByName]
      split
      · exact .refl _
      · exact (ih.cons head).trans (.swap entry head rest)

theorem foldr_insertByName_perm (entries : List (Text × α)) :
    (entries.foldr insertByName []).Perm entries := by
  induction entries with
  | nil => exact .refl _
  | cons entry rest ih => exact (insertByName_perm entry _).trans (ih.cons entry)

/-- Sorting permutes the entries. -/
theorem sorted_perm (table : NameTable α) : table.sorted.Perm table.entries :=
  foldr_insertByName_perm table.entries

theorem length_sorted (table : NameTable α) : table.sorted.length = table.size :=
  table.sorted_perm.length_eq

theorem sorted_distinct (table : NameTable α) : (table.sorted.map Prod.fst).Nodup :=
  (table.sorted_perm.map Prod.fst).nodup_iff.mpr table.distinct

/-- The name of the first entry comes before that of the second one. -/
def Before (first second : Text × α) : Prop := first.1 < second.1

/-- A new name is put between those before it and those after it. -/
theorem pairwise_insertByName {entry : Text × α} (ascending : entries.Pairwise Before)
    (new : entry.1 ∉ entries.map Prod.fst) : (insertByName entry entries).Pairwise Before := by
  induction entries with
  | nil => exact List.pairwise_singleton _ _
  | cons head rest ih =>
      obtain ⟨headFirst, restAscending⟩ := List.pairwise_cons.mp ascending
      rw [List.map_cons, List.mem_cons, not_or] at new
      rw [insertByName]
      by_cases first : entry.1 < head.1
      · rw [if_pos first]
        refine ascending.cons fun other member => ?_
        rcases List.mem_cons.mp member with rfl | behind
        · exact first
        · exact lt_trans first (headFirst other behind)
      · rw [if_neg first]
        have after : head.1 < entry.1 := (lt_trichotomy entry.1 head.1).resolve_left first
          |>.resolve_left new.1
        refine (ih restAscending new.2).cons fun other member => ?_
        rcases List.mem_cons.mp ((insertByName_perm entry rest).mem_iff.mp member) with
          rfl | behind
        · exact after
        · exact headFirst other behind

theorem pairwise_foldr_insertByName (distinct : (entries.map Prod.fst).Nodup) :
    (entries.foldr insertByName []).Pairwise Before := by
  induction entries with
  | nil => exact .nil
  | cons entry rest ih =>
      obtain ⟨new, restDistinct⟩ := List.nodup_cons.mp distinct
      have permuted := (foldr_insertByName_perm rest).map Prod.fst
      exact pairwise_insertByName (ih restDistinct) (mt permuted.mem_iff.mp new)

/-- Sorting brings the names in strictly ascending order. -/
theorem sorted_pairwise (table : NameTable α) : table.sorted.Pairwise Before :=
  pairwise_foldr_insertByName table.distinct

/-- The sorted entries are known by the look-ups. -/
theorem sorted_eq_iff {left right : NameTable α} :
    left.sorted = right.sorted ↔ ∀ name, left.get? name = right.get? name := by
  constructor
  · intro same name
    exact get?_eq_of_perm (left.sorted_perm.symm.trans (same ▸ right.sorted_perm)) name
  · intro same
    have permuted : left.sorted.Perm right.sorted := by
      have once : ∀ table : NameTable α, table.sorted.Nodup :=
        fun table => List.Nodup.of_map Prod.fst table.sorted_distinct
      refine (List.perm_ext_iff_of_nodup (once left) (once right)).mpr fun entry => ?_
      rw [left.sorted_perm.mem_iff, right.sorted_perm.mem_iff, ← get?_eq_some_iff,
        ← get?_eq_some_iff, same]
    refine permuted.eq_of_pairwise ?_ left.sorted_pairwise right.sorted_pairwise
    intro first second _ _ before after
    exact absurd after (lt_asymm before)

/-- A new name goes to the end. -/
theorem enter_of_new (new : name ∉ entries.map Prod.fst) :
    enter name value entries = entries ++ [(name, value)] := by
  induction entries with
  | nil => rfl
  | cons head rest ih =>
      obtain ⟨first, old⟩ := head
      rw [List.map_cons, List.mem_cons, not_or] at new
      have different : ¬ first = name := fun same => new.1 same.symm
      simp only [enter, different, if_false, ih new.2, List.cons_append]

theorem entries_setAll (table : NameTable α) (added : List (Text × α))
    (distinct : ((table.entries ++ added).map Prod.fst).Nodup) :
    (added.foldl (fun table entry => table.set entry.1 entry.2) table).entries =
      table.entries ++ added := by
  induction added generalizing table with
  | nil => simp
  | cons entry added ih =>
      have new : entry.1 ∉ table.entries.map Prod.fst := by
        intro old
        rw [List.map_append, List.nodup_append] at distinct
        exact distinct.2.2 _ old _ (by simp) rfl
      have entered : (table.set entry.1 entry.2).entries = table.entries ++ [entry] :=
        enter_of_new new
      rw [List.foldl_cons, ih _ (by rwa [entered, List.append_assoc]), entered, List.append_assoc]
      rfl

/-- Entries of different names are all kept. -/
theorem entries_ofList (distinct : (entries.map Prod.fst).Nodup) :
    (ofList entries).entries = entries :=
  entries_setAll empty entries distinct

/-- Entering the sorted entries one after the other restores all look-ups. -/
theorem get?_ofList_sorted (table : NameTable α) (name : Text) :
    (ofList table.sorted).get? name = table.get? name := by
  refine get?_eq_of_perm ?_ name
  rw [entries_ofList table.sorted_distinct]
  exact table.sorted_perm

theorem contains_iff_mem (table : NameTable α) (name : Text) :
    table.contains name = true ↔ name ∈ table.entries.map Prod.fst := by
  rw [contains, Option.isSome_iff_exists]
  constructor
  · rintro ⟨value, found⟩
    exact List.mem_map.mpr ⟨(name, value), table.get?_eq_some_iff.mp found, rfl⟩
  · intro member
    obtain ⟨⟨_, value⟩, entry, rfl⟩ := List.mem_map.mp member
    exact ⟨value, table.get?_eq_some_iff.mpr entry⟩

/-- A name that has an entry keeps its place, and a new one goes to the end. -/
theorem names_enter :
    (enter name value entries).map Prod.fst =
      if name ∈ entries.map Prod.fst then entries.map Prod.fst
      else entries.map Prod.fst ++ [name] := by
  induction entries with
  | nil => rfl
  | cons head rest ih =>
      obtain ⟨first, old⟩ := head
      by_cases same : first = name
      · simp [enter, same]
      · have different : ¬ name = first := fun equal => same equal.symm
        simp only [enter, same, different, if_false, List.map_cons, ih, List.mem_cons, false_or]
        split <;> rfl

/-- The entries are the names, each with what is looked up for it. -/
theorem entries_eq_filterMap (table : NameTable α) :
    table.entries =
      (table.entries.map Prod.fst).filterMap fun name => (table.get? name).map (name, ·) := by
  rw [List.filterMap_map]
  conv_lhs => rw [← List.filterMap_some (l := table.entries)]
  apply List.filterMap_congr
  intro entry member
  have found : table.get? entry.1 = some entry.2 := table.get?_eq_some_iff.mpr member
  simp [found]

/-- A table that is no larger than another one with all its names has no further names. -/
theorem contains_of_size_le {left right : NameTable α} (fewer : right.size ≤ left.size)
    (known : ∀ name, left.contains name = true → right.contains name = true)
    (bound : right.contains name = true) : left.contains name = true := by
  have among : left.entries.map Prod.fst ⊆ right.entries.map Prod.fst := fun other member =>
    (right.contains_iff_mem other).mp (known other ((left.contains_iff_mem other).mpr member))
  have same : (left.entries.map Prod.fst).Perm (right.entries.map Prod.fst) := by
    apply (left.distinct.subperm among).perm_of_length_le
    simpa only [List.length_map, size] using fewer
  rw [contains_iff_mem] at bound ⊢
  exact same.mem_iff.mpr bound

theorem size_eq_of_contains {left right : NameTable α}
    (same : ∀ name, left.contains name = right.contains name) : left.size = right.size := by
  have names : (left.entries.map Prod.fst).Perm (right.entries.map Prod.fst) := by
    apply (List.perm_ext_iff_of_nodup left.distinct right.distinct).mpr
    intro name
    rw [← contains_iff_mem, ← contains_iff_mem, same]
  simpa only [List.length_map, size] using names.length_eq

section Map

variable {β : Type} (f : α → β)

theorem get?_map (table : NameTable α) (name : Text) :
    (table.map f).get? name = (table.get? name).map f := by
  change (table.entries.map fun entry => (entry.1, f entry.2)).lookup name =
    (table.entries.lookup name).map f
  induction table.entries with
  | nil => rfl
  | cons entry later ih =>
      obtain ⟨first, value⟩ := entry
      by_cases here : name = first
      · simp [here]
      · simp [lookup_cons_of_ne here, ih]

end Map

section EqualBy

variable {same : α → α → Bool} {left right : NameTable α}

/-- Equal tables are of one size, and what the one has the other has too. -/
theorem equalBy_iff_matched : left.equalBy same right = true ↔
    left.size = right.size ∧ ∀ name value, left.get? name = some value →
      ∃ found, right.get? name = some found ∧ same value found = true := by
  simp only [equalBy, Bool.and_eq_true, decide_eq_true_eq, List.all_eq_true, Option.any_eq_true,
    get?_eq_some_iff, Prod.forall]

/-- Equal tables have values that pass for the same under the same names. -/
theorem equalBy_iff_rel : left.equalBy same right = true ↔
    ∀ name, Option.Rel (fun x y => same x y = true) (left.get? name) (right.get? name) := by
  rw [equalBy_iff_matched]
  constructor
  · rintro ⟨sizes, matched⟩ name
    have sameNames : ∀ other, left.contains other = true → right.contains other = true := by
      intro other bound
      obtain ⟨value, there⟩ := Option.isSome_iff_exists.mp bound
      obtain ⟨found, also, -⟩ := matched other value there
      exact Option.isSome_iff_exists.mpr ⟨found, also⟩
    cases known : left.get? name with
    | some value =>
        obtain ⟨found, bound, pass⟩ := matched name value known
        rw [bound]
        exact .some pass
    | none =>
        -- A name that only the right table has would make it the larger one.
        have noFurther : right.get? name = none := by
          rw [← Option.not_isSome_iff_eq_none]
          intro bound
          have back := contains_of_size_le sizes.ge sameNames bound
          simp [contains, known] at back
        rw [noFurther]
        exact .none
  · intro related
    constructor
    · apply size_eq_of_contains
      intro name
      have here := related name
      rw [contains, contains]
      generalize left.get? name = one, right.get? name = other at here ⊢
      cases here with
      | some | none => rfl
    · intro name value known
      have here := related name
      rw [known] at here
      generalize right.get? name = other at here ⊢
      cases here with
      | some pass => exact ⟨_, rfl, pass⟩

end EqualBy

end NameTable

end ReversePolish
