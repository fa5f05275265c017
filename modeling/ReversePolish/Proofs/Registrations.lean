import ReversePolish.Proofs.Accumulation
import ReversePolish.Proofs.Actions
import ReversePolish.Proofs.NameTables
import ReversePolish.Proofs.SharedMachines
import ReversePolish.Proofs.Steps

/-! # Words that machines learn

A machine can learn operators and folds, but lines never come to them: the kind of a word is
settled before any vocabulary is asked, and only the reserved operators and folds have a kind that
is looked up there.  So lines run as before, whatever a machine has learned, as long as these words
keep their meanings (`Vocabulary.SameReserved`).  Only a word that is interpreted as one of a
given kind comes to what was learned, and then to the latest meaning for this kind.
-/

namespace ReversePolish

/-- A word that is learned as an operator or as a fold, with its meaning. -/
inductive Registration where
  | operator (symbol : Text) (combine : Combination)
  | fold (name : Text) (fold : Fold)

namespace Registration

def kind : Registration → Kind
  | .operator .. => .binaryOperator
  | .fold .. => .fold

def word : Registration → Text
  | .operator symbol _ => symbol
  | .fold name _ => name

/-- What the word does with the meaning that is registered for it. -/
def effect (registration : Registration) (state : State) : Effect :=
  match registration with
  | .operator symbol combine => state.operate symbol combine
  | .fold _ meaning => state.foldAll meaning

/-- No reserved operator is registered as an operator, and no reserved fold as a fold.  The word may
    be one of a keyword, of the other table, or whatever else. -/
def Foreign : Registration → Prop
  | .operator symbol _ => symbol ∉ ["+", "-", "*", "/"].map String.toList
  | .fold name _ => name ∉ ["sum", "prod"].map String.toList

/-- Both are about the same word of the same table. -/
def Rivals (registration other : Registration) : Prop :=
  registration.kind = other.kind ∧ registration.word = other.word

/-- No registration behind this one is about its word. -/
def Latest (registration : Registration) (registrations : List Registration) : Prop :=
  ∃ earlier later, registrations = earlier ++ registration :: later ∧
    ∀ other ∈ later, ¬ other.Rivals registration

theorem Foreign.classify_ne {registration : Registration} (foreign : registration.Foreign) :
    classify registration.word ≠ registration.kind := by
  intro reserved
  cases registration with
  | operator symbol combine =>
      apply foreign
      simpa [word] using classify_eq_operator_iff.mp reserved
  | fold name fold =>
      apply foreign
      simpa [word] using classify_eq_fold_iff.mp reserved

end Registration

namespace Machine

def learn (machine : Machine) : Registration → Machine
  | .operator symbol combine => machine.addOperator symbol combine
  | .fold name fold => machine.addFold name fold

/-- Learn words one after the other. -/
def learnAll (machine : Machine) (registrations : List Registration) : Machine :=
  registrations.foldl learn machine

end Machine

/-- The two vocabularies have the same meanings for the reserved operators and folds. -/
structure Vocabulary.SameReserved (first second : Vocabulary) : Prop where
  operators : ∀ word, classify word = .binaryOperator →
    first.operators.get? word = second.operators.get? word
  folds : ∀ word, classify word = .fold → first.folds.get? word = second.folds.get? word

namespace Vocabulary.SameReserved

variable {first second third : Vocabulary}

theorem refl (vocabulary : Vocabulary) : SameReserved vocabulary vocabulary :=
  ⟨fun _ _ => rfl, fun _ _ => rfl⟩

theorem trans (one : SameReserved first second) (two : SameReserved second third) :
    SameReserved first third :=
  ⟨fun word operator => (one.operators word operator).trans (two.operators word operator),
    fun word fold => (one.folds word fold).trans (two.folds word fold)⟩

/-- A word of a line comes to a vocabulary for the reserved words only. -/
theorem action_eq (same : SameReserved first second) (word : Text) :
    (Token.ofWord word).action first = (Token.ofWord word).action second := by
  cases kind : classify word with
  | number | identifier | assignment | keyword | invalid =>
      simp only [Token.action, Token.ofWord, kind]
  | binaryOperator =>
      simp only [Token.action, Token.ofWord, kind, same.operators word kind]
  | fold =>
      simp only [Token.action, Token.ofWord, kind, same.folds word kind]

theorem ofTokens_eq (same : SameReserved first second) (words : List Text) (state : State) :
    Run.ofTokens first (Token.ofWords words) state =
      Run.ofTokens second (Token.ofWords words) state := by
  induction words generalizing state with
  | nil => rfl
  | cons word later ih =>
      have here : (Token.ofWord word).effect first state =
          (Token.ofWord word).effect second state := by
        rw [Token.effect_eq_action, Token.effect_eq_action, same.action_eq]
      rw [Token.ofWords_cons]
      by_cases completed : ((Token.ofWord word).effect second state).ending = .completed
      · rw [Run.ofTokens_cons_of_completed completed,
          Run.ofTokens_cons_of_completed (here ▸ completed), here, ih]
      · rw [Run.ofTokens_cons_of_stopped completed,
          Run.ofTokens_cons_of_stopped (here ▸ completed), here]

theorem ofLine_eq (same : SameReserved first second) (line : Text) (state : State) :
    Run.ofLine first line state = Run.ofLine second line state := by
  rw [Run.ofLine_eq, Run.ofLine_eq, same.ofTokens_eq]

end Vocabulary.SameReserved

namespace Machine

theorem sameReserved_learn (machine : Machine) {registration : Registration}
    (foreign : registration.Foreign) :
    machine.vocabulary.SameReserved (machine.learn registration).vocabulary := by
  cases registration with
  | operator symbol combine =>
      refine ⟨fun word operator => ?_, fun _ _ => rfl⟩
      have different : word ≠ symbol := by
        rintro rfl
        exact foreign.classify_ne operator
      exact (NameTable.get?_set_of_ne _ different _).symm
  | fold name fold =>
      refine ⟨fun _ _ => rfl, fun word isFold => ?_⟩
      have different : word ≠ name := by
        rintro rfl
        exact foreign.classify_ne isFold
      exact (NameTable.get?_set_of_ne _ different _).symm

theorem sameReserved_learnAll {registrations : List Registration}
    (foreign : ∀ registration ∈ registrations, registration.Foreign) (machine : Machine) :
    machine.vocabulary.SameReserved (machine.learnAll registrations).vocabulary := by
  induction registrations generalizing machine with
  | nil => exact .refl _
  | cons registration later ih =>
      obtain ⟨here, behind⟩ := List.forall_mem_cons.mp foreign
      exact (machine.sameReserved_learn here).trans (ih behind (machine.learn registration))

end Machine

/-- The vocabulary has the registered meaning for the word. -/
def Vocabulary.Knows (vocabulary : Vocabulary) : Registration → Prop
  | .operator symbol combine => vocabulary.operators.get? symbol = some combine
  | .fold name fold => vocabulary.folds.get? name = some fold

namespace Machine

variable {machine : Machine} {registration : Registration}

theorem knows_learn (machine : Machine) (registration : Registration) :
    (machine.learn registration).vocabulary.Knows registration := by
  cases registration with
  | operator symbol combine => exact NameTable.get?_set_self _ symbol combine
  | fold name fold => exact NameTable.get?_set_self _ name fold

/-- A meaning lasts until a rival comes. -/
theorem knows_learn_of_not_rival (knows : machine.vocabulary.Knows registration)
    {other : Registration} (noRival : ¬ other.Rivals registration) :
    (machine.learn other).vocabulary.Knows registration := by
  cases registration with
  | operator symbol combine =>
      cases other with
      | fold name fold => exact knows
      | operator otherSymbol otherCombine =>
          have different : symbol ≠ otherSymbol := fun same => noRival ⟨rfl, same.symm⟩
          exact (NameTable.get?_set_of_ne _ different _).trans knows
  | fold name fold =>
      cases other with
      | operator symbol combine => exact knows
      | fold otherName otherFold =>
          have different : name ≠ otherName := fun same => noRival ⟨rfl, same.symm⟩
          exact (NameTable.get?_set_of_ne _ different _).trans knows

theorem knows_learnAll_of_not_rival (knows : machine.vocabulary.Knows registration)
    {later : List Registration} (noRival : ∀ other ∈ later, ¬ other.Rivals registration) :
    (machine.learnAll later).vocabulary.Knows registration := by
  induction later generalizing machine with
  | nil => exact knows
  | cons other later ih =>
      obtain ⟨here, behind⟩ := List.forall_mem_cons.mp noRival
      exact ih (knows_learn_of_not_rival knows here) behind

theorem knows_learnAll {registrations : List Registration}
    (latest : registration.Latest registrations) (machine : Machine) :
    (machine.learnAll registrations).vocabulary.Knows registration := by
  obtain ⟨earlier, later, rfl, noRival⟩ := latest
  rw [learnAll, List.foldl_append, List.foldl_cons]
  exact knows_learnAll_of_not_rival (knows_learn _ registration) noRival

/-- A word that is interpreted as one of the registered kind has the meaning known for it. -/
theorem interpretAs_of_knows (knows : machine.vocabulary.Knows registration) (state : State) :
    (machine.interpretAs registration.kind.name registration.word state).2 =
      registration.effect state := by
  cases registration with
  | operator symbol combine => exact interpretAs_operator knows state
  | fold name fold => exact interpretAs_fold knows state

/-- To learn words is to extend what a machine can do, and to change nothing of what it does.  If
    no reserved operator and no reserved fold is given another meaning, every line comes to the same
    from every state: the state, the messages, the running flag and the way to end.  And a word
    that is interpreted as one of the kind that it was registered for does, on every state, what the
    latest registration of it says, whatever was registered before. -/
theorem learnAll_conservative (machine : Machine) (registrations : List Registration) :
    ((∀ registration ∈ registrations, registration.Foreign) → ∀ line state,
        Reply.ofProcessed ((machine.learnAll registrations).processLine line state) =
          Reply.ofProcessed (machine.processLine line state)) ∧
      ∀ registration : Registration, registration.Latest registrations → ∀ state,
        ((machine.learnAll registrations).interpretAs registration.kind.name registration.word
          state).2 = registration.effect state := by
  constructor
  · intro foreign line state
    have same := (sameReserved_learnAll foreign machine).ofLine_eq line state
    simp only [Reply.ofProcessed, processLine, same]
  · intro registration latest state
    exact interpretAs_of_knows (knows_learnAll latest machine) state

/-- A machine that learns a fold and a keyword as operators, an operator as a fold, and one
    operator twice. -/
theorem learnAll_conservative_repeated :
    let latest := Registration.operator ['5'] Double.div
    let registrations := [.operator ['5'] Double.mul, .operator "sum".toList Double.sub,
      .fold ['+'] ⟨Double.mul, .nan⟩, .operator "drop".toList Double.add, latest]
    let machine := Machine.fresh.learnAll registrations
    let state : State := ⟨[.zero true, .one].map Cell.number, NameTable.empty⟩
    (∀ registration ∈ registrations, registration.Foreign) ∧
      Reply.ofProcessed (machine.processLine "drop 5 + sum print x sum".toList state) =
        Reply.ofProcessed (Machine.fresh.processLine "drop 5 + sum print x sum".toList state) ∧
      latest.Latest registrations ∧
      (machine.interpretAs Kind.binaryOperator.name ['5'] state).2 =
        .done ⟨[.number (.inf true)], NameTable.empty⟩ := by
  intro latest registrations machine state
  have foreign : ∀ registration ∈ registrations, registration.Foreign := by
    simp [registrations, latest, Registration.Foreign]
  have last : latest.Latest registrations := ⟨registrations.dropLast, [], rfl, by simp⟩
  have laws := learnAll_conservative Machine.fresh registrations
  exact ⟨foreign, laws.1 foreign _ state, last, laws.2 latest last state⟩

end Machine

end ReversePolish
