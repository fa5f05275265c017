import Mathlib.Data.Finset.Card
import ReversePolish.Description
import ReversePolish.Proofs.NameTables

/-! # Environments and their journals

An environment is looked into, counted, listed by name and shown in the order of first assignment.
What all of these say is settled by the assignments that were made since it was last cleared, its
journal: a variable has the number of its last entry in the journal and the place of its first.  One
call keeps an environment in step with its journal (`Environment.InStep.call`), and so does any
sequence of calls.

Two environments are equal if they have equal numbers under the same names, whatever the order in
which these came.  One exception is made, for an object that both of them hold: it counts as equal
to itself even if it is no number (`Environment.equal_of_sharedNan`).
-/

namespace ReversePolish

namespace Double

/-- Two numbers are the same, or both are zeros; nan is no number. -/
def Agrees (x y : Double) : Prop := x ≠ .nan ∧ (x = y ∨ ∃ s t, x = .zero s ∧ y = .zero t)

theorem equal_iff_agrees {x y : Double} : x.equal y = true ↔ x.Agrees y := by
  cases x with
  | nan => simp [equal, Agrees]
  | inf s => cases y <;> simp [equal, Agrees, zero]
  | finite s a =>
      cases y with
      | nan | inf t => simp [equal, Agrees, zero]
      | finite t b =>
          have zeros : (∃ s' t', finite s a = zero s' ∧ finite t b = zero t') ↔ a = 0 ∧ b = 0 := by
            simp [zero]
          rw [Agrees, zeros]
          simp only [equal, Bool.and_eq_true, Bool.or_eq_true, beq_iff_eq, finite.injEq]
          grind

end Double

/-- Two objects have the same number, or they are one object that is no number. -/
def Held.Alike (x y : Held Double) : Prop := x.value.Agrees y.value ∨ (x = y ∧ x.value = .nan)

theorem Held.same_iff_alike {x y : Held Double} :
    Held.same Double.equal x y = true ↔ x.Alike y := by
  rw [Held.same, Bool.or_eq_true, decide_eq_true_iff, Double.equal_iff_agrees, Alike]
  constructor
  · rintro (rfl | agree)
    · by_cases nothing : x.value = .nan
      · exact .inr ⟨rfl, nothing⟩
      · exact .inl ⟨nothing, .inl rfl⟩
    · exact .inl agree
  · rintro (agree | ⟨same, -⟩)
    · exact .inr agree
    · exact .inl same

/-- Environments that are equal hold objects that are alike under the same names. -/
theorem Environment.equal_iff_rel {left right : Environment} : left.equal right = true ↔
    ∀ name, Option.Rel Held.Alike (left.get? name) (right.get? name) := by
  rw [equal, NameTable.equalBy_iff_rel]
  simp only [Held.same_iff_alike]

/-- Tables that share no number are equal just if their numbers agree. -/
theorem Bindings.equal_iff_rel {left right : Bindings} : left.equal right = true ↔
    ∀ name, Option.Rel Double.Agrees (left.get? name) (right.get? name) := by
  have apart : ∀ x y : Double, Held.Alike ⟨x, 0⟩ ⟨y, 1⟩ ↔ x.Agrees y := by simp [Held.Alike]
  simp only [equal, Environment.equal_iff_rel, NameTable.get?_map]
  refine forall_congr' fun name => ?_
  cases left.get? name <;> cases right.get? name <;> simp [apart]

namespace Environment

/-- The assignments since an environment was last cleared, the earliest first. -/
abbrev Journal := List (Text × Held Double)

namespace Journal

/-- The number that was last assigned to a variable. -/
def latest? (journal : Journal) (name : Text) : Option (Held Double) :=
  journal.reverse.lookup name

/-- The names in the order of their first assignment. -/
def names (journal : Journal) : List Text := (journal.map Prod.fst).eraseDups

/-- The names in the order of their first assignment, with the numbers of their last one. -/
def settled (journal : Journal) : List (Text × Held Double) :=
  journal.names.filterMap fun name => (journal.latest? name).map (name, ·)

/-- Only what has a double is assigned, and to clear is to begin again. -/
def record (journal : Journal) : Call → Journal
  | .set name given =>
    match given.held with
    | .ok object => journal ++ [(name, object)]
    | .error _ => journal
  | .clear => []
  | .get _ | .contains _ => journal

/-- The journal after calls that are made one after the other. -/
def recordAll (journal : Journal) (calls : List Call) : Journal := calls.foldl record journal

/-- What is to come back from a call. -/
def answer (journal : Journal) : Call → Return
  | .set _ given =>
    match given.held with
    | .ok _ => .done
    | .error error => .refused error
  | .clear => .done
  | .get name => .number (journal.latest? name)
  | .contains name => .bound (decide (name ∈ journal.map Prod.fst))

variable {journal : Journal} {name other : Text} {object : Held Double}

theorem latest?_append_singleton : (journal ++ [(name, object)]).latest? other =
    if other = name then some object else journal.latest? other := by
  rw [latest?, List.reverse_append, List.reverse_singleton, List.singleton_append]
  by_cases same : other = name
  · simp [same]
  · simp [same, NameTable.lookup_cons_of_ne same, latest?]

theorem mem_names_iff : name ∈ journal.names ↔ name ∈ journal.map Prod.fst := List.mem_eraseDups

theorem names_append_singleton : (journal ++ [(name, object)]).names =
    if name ∈ journal.names then journal.names else journal.names ++ [name] := by
  rw [names, List.map_append, List.eraseDups_append, ← names]
  by_cases old : name ∈ journal.map Prod.fst
  · simp [mem_names_iff, old, List.removeAll]
  · simp [mem_names_iff, old, List.removeAll, List.eraseDups_cons]

end Journal

/-- The names of an environment and the numbers under them are those of a journal. -/
structure InStep (environment : Environment) (journal : Journal) : Prop where
  names : environment.entries.map Prod.fst = journal.names
  numbers : ∀ name, environment.get? name = journal.latest? name

namespace InStep

variable {environment : Environment} {journal : Journal}

theorem empty : InStep NameTable.empty [] := ⟨rfl, fun _ => rfl⟩

theorem set (inStep : InStep environment journal) (name : Text) (object : Held Double) :
    InStep (NameTable.set environment name object) (journal ++ [(name, object)]) := by
  constructor
  case names =>
    rw [Journal.names_append_singleton, ← inStep.names]
    exact NameTable.names_enter
  case numbers =>
    intro other
    rw [Journal.latest?_append_singleton, ← inStep.numbers]
    exact NameTable.get?_set environment name other object

theorem setAll (inStep : InStep environment journal) (added : List (Text × Held Double)) :
    InStep (added.foldl (fun table entry => table.set entry.1 entry.2) environment)
      (journal ++ added) := by
  induction added generalizing environment journal with
  | nil => simpa using inStep
  | cons entry later ih => simpa using ih (inStep.set entry.1 entry.2)

/-- The entries that an environment is made of are its first assignments. -/
theorem ofList (initial : List (Text × Held Double)) :
    InStep (NameTable.ofList initial) initial :=
  empty.setAll initial

/-- A call changes the environment and its journal alike. -/
theorem call (inStep : InStep environment journal) (call : Call) :
    InStep (environment.call call).2 (journal.record call) := by
  cases call with
  | set name given =>
      cases held : given.held with
      | ok object =>
          simp only [Environment.call, Journal.record, held]
          exact inStep.set name object
      | error error =>
          simp only [Environment.call, Journal.record, held]
          exact inStep
  | clear => exact empty
  | get name | contains name => exact inStep

theorem afterCalls (inStep : InStep environment journal) (calls : List Call) :
    InStep (environment.afterCalls calls) (journal.recordAll calls) := by
  induction calls generalizing environment journal with
  | nil => exact inStep
  | cons call later ih => exact ih (inStep.call call)

theorem contains_iff (inStep : InStep environment journal) (name : Text) :
    environment.contains name = true ↔ name ∈ journal.map Prod.fst := by
  rw [NameTable.contains_iff_mem, inStep.names, Journal.mem_names_iff]

theorem entries (inStep : InStep environment journal) :
    environment.entries = journal.settled := by
  rw [environment.entries_eq_filterMap, inStep.names, Journal.settled]
  simp only [inStep.numbers]

theorem size (inStep : InStep environment journal) :
    environment.size = (journal.map Prod.fst).toFinset.card := by
  have distinct := List.toFinset_card_of_nodup environment.distinct
  rw [List.length_map] at distinct
  rw [NameTable.size, ← distinct, inStep.names]
  congr 1
  ext name
  simp only [List.mem_toFinset, Journal.mem_names_iff]

theorem mem_sorted_iff (inStep : InStep environment journal) (name : Text)
    (object : Held Double) :
    (name, object) ∈ environment.sorted ↔ journal.latest? name = some object := by
  rw [environment.sorted_perm.mem_iff, ← environment.get?_eq_some_iff, inStep.numbers]

theorem returns (inStep : InStep environment journal) (call : Call) :
    (environment.call call).1 = journal.answer call := by
  cases call with
  | set name given =>
      cases held : given.held <;> simp only [Environment.call, Journal.answer, held]
  | clear => rfl
  | get name => exact congrArg Return.number (inStep.numbers name)
  | contains name =>
      refine congrArg Return.bound ?_
      rw [Bool.eq_iff_iff, inStep.contains_iff, decide_eq_true_iff]

end InStep

/-- A call that is refused changes nothing. -/
theorem call_of_refused {environment : Environment} {call : Call} {error : ConversionError}
    (refused : (environment.call call).1 = .refused error) :
    (environment.call call).2 = environment := by
  cases call with
  | set name given =>
      cases held : given.held with
      | ok object => simp [Environment.call, held] at refused
      | error error => simp only [Environment.call, held]
  | clear => cases refused
  | get name | contains name => rfl

/-- All that an environment shows is what its journal says. -/
structure Shows (environment : Environment) (journal : Journal) : Prop where
  get : ∀ name, environment.get? name = journal.latest? name
  contains : ∀ name, environment.contains name = true ↔ name ∈ journal.map Prod.fst
  size : environment.size = (journal.map Prod.fst).toFinset.card
  ascending : environment.sorted.Pairwise fun first second => first.1 < second.1
  sorted : ∀ name object,
    (name, object) ∈ environment.sorted ↔ journal.latest? name = some object
  /-- What the words of the calculator look up. -/
  values : ∀ name, environment.values.get? name = (journal.latest? name).map Held.value
  description : environment.description =
    "Environment(\x7b".toList ++
      Text.listed (journal.settled.map fun entry =>
        Quoted.quote entry.1 ++ ": ".toList ++ entry.2.value.text) ++
      "\x7d)".toList

theorem InStep.shows {environment : Environment} {journal : Journal}
    (inStep : InStep environment journal) : environment.Shows journal where
  get := inStep.numbers
  contains := inStep.contains_iff
  size := inStep.size
  ascending := environment.sorted_pairwise
  sorted := inStep.mem_sorted_iff
  values name := by rw [values, NameTable.get?_map, inStep.numbers]
  description := by
    unfold Environment.description Bindings.description
    rw [← inStep.entries, values, NameTable.map]
    simp only [List.map_map]
    rfl

/-- An environment is the finite map of the assignments that were made since it was last cleared,
    where the entries that it is made of count as assignments.

    Whatever calls were made, each variable has the number of its last assignment.  The entries are
    listed by name in strictly ascending order, and described in the order of the first
    assignments.  What comes back from any further call is told by the assignments, and one that
    is refused changes nothing.  Two environments are equal just if they have numbers under the
    same names that are equal, or else are one object that is no number. -/
theorem afterCalls_shows (initial : List (Text × Held Double)) (calls : List Call) :
    let environment := afterCalls (NameTable.ofList initial) calls
    let journal := Journal.recordAll initial calls
    environment.Shows journal ∧
      (∀ call, (environment.call call).1 = journal.answer call) ∧
      (∀ call error, (environment.call call).1 = .refused error →
        (environment.call call).2 = environment) ∧
      ∀ otherInitial otherCalls,
        environment.equal (afterCalls (NameTable.ofList otherInitial) otherCalls) = true ↔
          ∀ name, Option.Rel Held.Alike (journal.latest? name)
            ((Journal.recordAll otherInitial otherCalls).latest? name) := by
  intro environment journal
  have inStep : InStep environment journal := (InStep.ofList initial).afterCalls calls
  refine ⟨inStep.shows, inStep.returns, fun call error => call_of_refused, ?_⟩
  intro otherInitial otherCalls
  have otherInStep := (InStep.ofList otherInitial).afterCalls otherCalls
  simp only [equal_iff_rel, inStep.numbers, otherInStep.numbers]

/-- Two environments that hold one object which is no number are equal, although the numbers under
    the name do not agree; and they are not equal if each holds an object of its own. -/
theorem equal_of_sharedNan :
    let name := ['x']
    let shared : Held Double := ⟨.nan, 0⟩
    let first := afterCalls NameTable.empty [.set name (.number shared)]
    let second := afterCalls (NameTable.ofList [(name, shared)]) []
    let other := afterCalls NameTable.empty [.set name (.converted (.numeral "nan".toList) 1)]
    first.equal second = true ∧
      ¬ (∀ name, Option.Rel Double.Agrees (first.values.get? name) (second.values.get? name)) ∧
      first.equal other = false := by
  intro name shared first second other
  refine ⟨by decide +kernel, fun agree => ?_, by decide +kernel⟩
  have here : Option.Rel Double.Agrees (some .nan) (some .nan) := agree name
  cases here with
  | some agrees => exact agrees.1 rfl

/-- An overwritten variable keeps its place, and an assignment that is refused leaves it alone. -/
example :
    let calls := [.set "b".toList (.converted (.integer 1) 1),
      .set "a".toList (.converted (.integer 2) 2), .get "b".toList,
      .set "b".toList (.number ⟨.zero true, 0⟩),
      .set "a".toList (.converted (.numeral "2_".toList) 3)]
    Journal.settled (Journal.recordAll [("c".toList, ⟨.nan, 0⟩)] (.clear :: calls)) =
      [("b".toList, ⟨.zero true, 0⟩), ("a".toList, ⟨.finite false 0x4000000000000000, 2⟩)] := by
  decide +kernel

end Environment

end ReversePolish
