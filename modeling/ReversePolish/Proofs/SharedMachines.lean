import Mathlib.Logic.Function.Basic
import ReversePolish.Proofs.Accumulation
import ReversePolish.Proofs.Composition
import ReversePolish.Proofs.Dump

/-! # Machines that are shared

Several parties may take turns at one machine, each with a state of its own.  For a line the machine
holds on to the party that it serves, and it is used word by word: each word acts on the state
of this party, and finds the messages and the flag as the words before it left them
(`Shared.Busy.interpretWords`).  When the next line begins, the party is another one and the
messages are wiped, and this is enough (`Shared.useFor_eq`).  However a line has ended, nothing of
it reaches the lines of the others: each party is told what it would be told by a machine of its
own (`Shared.entriesOf_takeTurns`), and so is its state (`Shared.states_takeTurns`).
-/

namespace ReversePolish

/-- What comes back from a machine that was used for a line: what it has to tell, whether the
    session goes on, how the line ended, and the state that it left. -/
structure Reply where
  messages : List Text
  running : Bool
  ending : Ending
  state : State
  deriving DecidableEq

def Reply.ofProcessed (processed : Machine × Run) : Reply :=
  ⟨processed.1.messages, processed.1.running, processed.2.ending, processed.2.state⟩

/-- What comes back depends on the words that the machine knows, and on nothing else of it. -/
theorem Reply.ofProcessed_congr {machine own : Machine} (same : own.vocabulary = machine.vocabulary)
    (line : Text) (state : State) :
    ofProcessed (own.processLine line state) = ofProcessed (machine.processLine line state) := by
  simp only [ofProcessed, Machine.processLine, same]

/-- What comes back from a machine that processes lines one after the other on one state. -/
def Machine.replies (machine : Machine) (state : State) : List Text → List Reply
  | [] => []
  | line :: later =>
    let processed := machine.processLine line state
    .ofProcessed processed :: processed.1.replies processed.2.state later

/-- A machine, and the states of the parties that share it. -/
structure Shared (Party : Type) where
  machine : Machine
  states : Party → State

/-- A shared machine at a line.  It holds on to the party whose state it was handed, until the line
    ends. -/
structure Shared.Busy (Party : Type) extends Shared Party where
  served : Party

namespace Shared

variable {Party : Type} [DecidableEq Party]

/-- The machine is handed the state of a party.  What was told before is forgotten, and the session
    goes on. -/
def beginLine (shared : Shared Party) (party : Party) : Busy Party :=
  { shared with
    machine := { shared.machine with messages := [], running := true }
    served := party }

namespace Busy

/-- A word acts on the state of the party that is served, as it is by then. -/
def interpret (busy : Busy Party) (word : Text) : Busy Party × Ending :=
  let interpreted :=
    busy.machine.interpretAs (classify word).name word (busy.states busy.served)
  ({ busy with
      machine := interpreted.1
      states := Function.update busy.states busy.served interpreted.2.state },
    interpreted.2.ending)

/-- A failure is reported behind the messages that are there. -/
def report (busy : Busy Party) (failure : Failure) : Busy Party :=
  { busy with
    machine := { busy.machine with
      messages := busy.machine.messages ++ [Run.report failure] } }

/-- Interpret words until one of them fails or escapes, or until the flag of the machine says that
    the session is over. -/
def interpretWords (busy : Busy Party) : List Text → Busy Party × Ending
  | [] => (busy, .completed)
  | word :: later =>
    let after := (busy.interpret word).1
    match (busy.interpret word).2 with
    | .abandoned failure => (after.report failure, .abandoned failure)
    | .escaped error => (after, .escaped error)
    | .completed | .exited =>
      if after.machine.running then after.interpretWords later else (after, .exited)

/-- What a run on the state of the party that is served comes to: its messages come behind those
    that are there, and the states of the others stay as they are. -/
def havingRun (busy : Busy Party) (run : Run) : Busy Party :=
  { busy with
    machine := { busy.machine with
      messages := busy.machine.messages ++ run.messages, running := run.goesOn }
    states := Function.update busy.states busy.served run.state }

/-- While the session goes on, a word makes a run of its own, and the words behind it are
    interpreted if this run is completed. -/
theorem interpretWords_cons {busy : Busy Party} (goesOn : busy.machine.running = true)
    (word : Text) (later : List Text) :
    let effect := (Token.ofWord word).effect busy.machine.vocabulary (busy.states busy.served)
    let first := busy.havingRun
      ⟨effect.state, effect.printed, [Token.ofWord word], effect.ending⟩
    busy.interpretWords (word :: later) =
      if effect.ending = .completed then first.interpretWords later
      else (first, effect.ending) := by
  intro effect first
  have interpreted : busy.interpret word =
      ({ busy with
          machine := busy.machine.noting effect
          states := Function.update busy.states busy.served effect.state },
        effect.ending) := by
    simp only [interpret, Machine.interpretAs, Kind.ofName?_name, effect, Token.ofWord]
  rw [interpretWords, interpreted]
  cases ending : effect.ending with
  | completed | exited | abandoned failure | escaped error =>
      simp [first, Machine.noting, ending, goesOn, havingRun, report, Run.messages, Run.goesOn]

/-- Runs on the state of one party that follow one another make one run. -/
theorem havingRun_havingRun (busy : Busy Party) {first : Run}
    (completed : first.ending = .completed) (later : Run) :
    (busy.havingRun first).havingRun later = busy.havingRun (first.andThen later) := by
  have printed : first.messages = first.printed := by rw [Run.messages, completed]
  simp only [havingRun, Run.messages_andThen, printed, List.append_assoc, Function.update_idem]
  rfl

/-- As long as the session goes on, words that are interpreted one by one make the run of their
    tokens on the state of the party that is served. -/
theorem interpretWords_eq {busy : Busy Party} (goesOn : busy.machine.running = true)
    (words : List Text) :
    let run :=
      Run.ofTokens busy.machine.vocabulary (Token.ofWords words) (busy.states busy.served)
    busy.interpretWords words = (busy.havingRun run, run.ending) := by
  induction words generalizing busy with
  | nil =>
      simp [interpretWords, Token.ofWords, Run.ofTokens, havingRun, Run.messages, Run.goesOn,
        ← goesOn]
  | cons word later ih =>
      rw [interpretWords_cons goesOn, Token.ofWords, List.map_cons, ← Token.ofWords]
      by_cases completed : ((Token.ofWord word).effect busy.machine.vocabulary
          (busy.states busy.served)).ending = .completed
      · -- The flag is still set, so the words behind run on the state that the first one has left.
        rw [if_pos completed, Run.ofTokens_cons_of_completed completed, completed, ih rfl,
          havingRun_havingRun _ rfl]
        simp only [havingRun, Function.update_self]
        rfl
      · rw [if_neg completed, Run.ofTokens_cons_of_stopped completed]

end Busy

/-- Use the machine for a line of a party. -/
def useFor (shared : Shared Party) (party : Party) (line : Text) : Shared Party × Reply :=
  let used := (shared.beginLine party).interpretWords (Words.split line)
  (used.1.toShared,
    ⟨used.1.machine.messages, used.1.machine.running, used.2, used.1.states party⟩)

/-- What a line of a party makes of the machine and of the states, if it is processed on the state
    of this party. -/
def afterLine (shared : Shared Party) (party : Party) (line : Text) : Shared Party :=
  let processed := shared.machine.processLine line (shared.states party)
  ⟨processed.1, Function.update shared.states party processed.2.state⟩

theorem states_afterLine_self (shared : Shared Party) (party : Party) (line : Text) :
    (shared.afterLine party line).states party =
      (shared.machine.processLine line (shared.states party)).2.state :=
  Function.update_self ..

theorem states_afterLine_of_ne (shared : Shared Party) {party other : Party}
    (different : other ≠ party) (line : Text) :
    (shared.afterLine party line).states other = shared.states other :=
  Function.update_of_ne different ..

/-- To use a machine for a line of a party is to process the line on the state of this party,
    whatever is left on the machine. -/
theorem useFor_eq (shared : Shared Party) (party : Party) (line : Text) :
    shared.useFor party line = (shared.afterLine party line,
      .ofProcessed (shared.machine.processLine line (shared.states party))) := by
  have begun : (shared.beginLine party).machine.running = true := rfl
  have used := Busy.interpretWords_eq begun (Words.split line)
  rw [useFor, used]
  simp only [afterLine, Reply.ofProcessed, Machine.processLine, Run.ofLine_eq, beginLine,
    Busy.havingRun, Function.update_self]
  rfl

/-- The parties use the machine in turns. -/
def takeTurns (shared : Shared Party) :
    List (Party × Text) → Shared Party × List (Party × Reply)
  | [] => (shared, [])
  | (party, line) :: later =>
    let used := shared.useFor party line
    let taken := used.1.takeTurns later
    (taken.1, (party, used.2) :: taken.2)

/-- What belongs to one party, in its order. -/
def entriesOf {α : Type} (party : Party) (entries : List (Party × α)) : List α :=
  (entries.filter fun entry => entry.1 = party).map Prod.snd

theorem entriesOf_cons_self {α : Type} (party : Party) (first : α) (later : List (Party × α)) :
    entriesOf party ((party, first) :: later) = first :: entriesOf party later := by
  simp [entriesOf]

theorem entriesOf_cons_of_ne {α : Type} {party other : Party} (different : other ≠ party)
    (first : α) (later : List (Party × α)) :
    entriesOf party ((other, first) :: later) = entriesOf party later := by
  simp [entriesOf, different]

theorem takeTurns_cons (shared : Shared Party) (party : Party) (line : Text)
    (later : List (Party × Text)) :
    shared.takeTurns ((party, line) :: later) =
      (((shared.afterLine party line).takeTurns later).1,
        (party, .ofProcessed (shared.machine.processLine line (shared.states party))) ::
          ((shared.afterLine party line).takeTurns later).2) := by
  rw [takeTurns, useFor_eq]

theorem map_fst_takeTurns (shared : Shared Party) (turns : List (Party × Text)) :
    (shared.takeTurns turns).2.map Prod.fst = turns.map Prod.fst := by
  induction turns generalizing shared with
  | nil => rfl
  | cons turn later ih => rw [takeTurns_cons, List.map_cons, List.map_cons, ih]

section Alone

variable {shared : Shared Party} {own : Machine}
  (same : own.vocabulary = shared.machine.vocabulary) (turns : List (Party × Text)) (party : Party)

include same

/-- The replies to one party are those of any machine that knows the same words. -/
theorem entriesOf_takeTurns :
    entriesOf party (shared.takeTurns turns).2 =
      own.replies (shared.states party) (entriesOf party turns) := by
  induction turns generalizing shared own with
  | nil => rfl
  | cons turn later ih =>
      obtain ⟨speaker, line⟩ := turn
      rw [takeTurns_cons]
      by_cases speaks : speaker = party
      · subst speaks
        have reply := Reply.ofProcessed_congr same line (shared.states speaker)
        have left : (own.processLine line (shared.states speaker)).2.state =
            (shared.afterLine speaker line).states speaker :=
          (congrArg Reply.state reply).trans (shared.states_afterLine_self speaker line).symm
        -- After the line, both machines still know the words that they knew.
        have known : (own.processLine line (shared.states speaker)).1.vocabulary =
            (shared.afterLine speaker line).machine.vocabulary := same
        rw [entriesOf_cons_self, entriesOf_cons_self, Machine.replies, reply, left, ih known]
      · have known : own.vocabulary = (shared.afterLine speaker line).machine.vocabulary := same
        rw [entriesOf_cons_of_ne speaks, entriesOf_cons_of_ne speaks, ih known,
          shared.states_afterLine_of_ne (Ne.symm speaks)]

/-- The state of one party is the one that its own lines lead to. -/
theorem states_takeTurns :
    (shared.takeTurns turns).1.states party =
      (shared.states party).afterLines
        ((entriesOf party turns).map fun line => (own, line)) := by
  induction turns generalizing shared with
  | nil => rfl
  | cons turn later ih =>
      obtain ⟨speaker, line⟩ := turn
      have known : own.vocabulary = (shared.afterLine speaker line).machine.vocabulary := same
      have rest := ih known
      rw [takeTurns_cons]
      by_cases speaks : speaker = party
      · subst speaks
        have left :=
          congrArg Reply.state (Reply.ofProcessed_congr same line (shared.states speaker))
        rw [shared.states_afterLine_self] at rest
        rw [entriesOf_cons_self, List.map_cons, rest]
        exact congrArg (State.afterLines · _) left.symm
      · rw [shared.states_afterLine_of_ne (Ne.symm speaks)] at rest
        rw [entriesOf_cons_of_ne speaks, rest]

end Alone

/-- Parties that take turns at one machine do not disturb each other.  Each turn has its reply, and
    the replies that a party gets, whatever the others have the machine do in between, are
    those of a machine that knows the same words, was never used before, and processes the
    lines of this party alone.  In the end the state of each party is as these lines leave it. -/
theorem takeTurns_undisturbed (shared : Shared Party) (turns : List (Party × Text)) :
    let own : Machine := ⟨shared.machine.vocabulary, [], true⟩
    let taken := shared.takeTurns turns
    taken.2.map Prod.fst = turns.map Prod.fst ∧
      ∀ party, entriesOf party taken.2 =
          own.replies (shared.states party) (entriesOf party turns) ∧
        taken.1.states party = (shared.states party).afterLines
          ((entriesOf party turns).map fun line => (own, line)) := by
  intro own taken
  have same : own.vocabulary = shared.machine.vocabulary := rfl
  refine ⟨shared.map_fst_takeTurns turns, fun party => ⟨?_, ?_⟩⟩
  · exact entriesOf_takeTurns same turns party
  · exact states_takeTurns same turns party

/-- A session that reads an infinity with a dotless `i` and then exits leaves nothing to the other
    one, which has printed before and is told of a failure in between. -/
example : ((⟨.fresh, fun _ => .initial⟩ : Shared Bool).takeTurns
      [(true, "2 print 1".toList), (false, "3 print \u0131nf".toList), (true, "print +".toList),
        (false, "exit".toList), (true, "7 print".toList)]).2.map
        (fun entry => (entry.1, entry.2.messages, entry.2.running)) =
      [(true, ["2.0".toList], true), (false, ["3.0".toList], true),
        (true, ["1.0".toList, "? insufficient values for + (need 2, have 0)".toList], true),
        (false, [], false), (true, ["7.0".toList], true)] := by
  decide +kernel

end Shared

end ReversePolish
