import ReversePolish.Proofs.Sessions
import ReversePolish.Proofs.Steps

/-! # Lines as they are fed

The lines that are given to the program are fed to its session one after the other, up to the first
one that exits or escapes.  All that the program does with them is told by these feedings
(`CommandLine.runLines_eq`): what it writes, what it logs, and how it concludes.  A session that is
quiet is fed the same lines in the same states (`Session.feedings_withQuiet`) and leaves out the
displays, and the log of a line is a trace of the words that were tried (`Feeding.traced`).
-/

namespace ReversePolish

open CommandLine

/-- A line and the session that it is fed to. -/
structure Feeding where
  session : Session
  line : Text

namespace Feeding

def feedback (feeding : Feeding) : Feedback := feeding.session.feed feeding.line

def run (feeding : Feeding) : Run := feeding.feedback.run

/-- What the log says about the line. -/
def entries (feeding : Feeding) : List Entry := Entry.ofRun feeding.line feeding.run

end Feeding

/-- The lines that are fed, each with the session that the one before it has left.  None is fed
    behind a line that exits or escapes. -/
def Session.feedings (session : Session) : List Text → List Feeding
  | [] => []
  | line :: later =>
    let fed := session.feed line
    ⟨session, line⟩ ::
      match fed.run.ending with
      | .completed | .abandoned _ => fed.session.feedings later
      | .exited | .escaped _ => []

namespace CommandLine

/-- The program returns unless the last line that is fed escapes. -/
def concluded (feedings : List Feeding) : Conclusion :=
  match (feedings.getLast?.map (·.run.ending) : Option Ending) with
  | some (.escaped error) => .escaped error
  | _ => .returned

theorem concluded_cons {feeding : Feeding} (returned : ¬ feeding.run.Escaped)
    (later : List Feeding) : concluded (feeding :: later) = concluded later := by
  cases later with
  | cons next later => rfl
  | nil =>
      cases ending : feeding.run.ending with
      | escaped error => exact absurd ⟨error, ending⟩ returned
      | completed | exited | abandoned failure => simp [concluded, ending]

theorem runLines_eq (session : Session) (lines : List Text) :
    runLines session lines =
      ⟨(session.feedings lines).flatMap (·.feedback.output),
        (session.feedings lines).flatMap Feeding.entries, concluded (session.feedings lines)⟩ := by
  induction lines generalizing session with
  | nil => rfl
  | cons line later ih =>
      have here : (⟨session, line⟩ : Feeding).run = (session.feed line).run := rfl
      cases ending : (session.feed line).run.ending with
      | completed | abandoned failure =>
          have returned : ¬ (⟨session, line⟩ : Feeding).run.Escaped := by
            rw [here, Run.Escaped, ending]
            rintro ⟨error, ⟨⟩⟩
          simp only [runLines, Session.feedings, ending, ih, concluded_cons returned]
          rfl
      | exited | escaped error =>
          simp only [runLines, Session.feedings, ending, List.flatMap_singleton, concluded,
            List.getLast?_singleton, Option.map_some, here]
          rfl

end CommandLine

namespace Feeding

/-- The same line, fed to the same session when it is quiet, or when it is not. -/
def withQuiet (quiet : Bool) (feeding : Feeding) : Feeding :=
  { feeding with session.quiet := quiet }

/-- Two feedings that the display alone may tell apart: one line meets one machine and one state,
    with one run, and leaves one machine and one state. -/
structure Alike (first second : Feeding) : Prop where
  line : first.line = second.line
  machine : first.session.machine = second.session.machine
  state : first.session.state = second.session.state
  run : first.run = second.run
  machineLeft : first.feedback.session.machine = second.feedback.session.machine
  stateLeft : first.feedback.session.state = second.feedback.session.state

theorem alike_withQuiet (quiet : Bool) (feeding : Feeding) :
    feeding.Alike (feeding.withQuiet quiet) :=
  ⟨rfl, rfl, rfl, rfl, rfl, rfl⟩

end Feeding

/-- A session that is quiet is fed the same lines in the same states. -/
theorem Session.feedings_withQuiet (session : Session) (quiet : Bool) (lines : List Text) :
    feedings { session with quiet := quiet } lines =
      (session.feedings lines).map (Feeding.withQuiet quiet) := by
  induction lines generalizing session with
  | nil => rfl
  | cons line later ih =>
      have run : (feed { session with quiet := quiet } line).run = (session.feed line).run := rfl
      have left : (feed { session with quiet := quiet } line).session =
          { (session.feed line).session with quiet := quiet } := rfl
      cases ending : (session.feed line).run.ending with
      | completed | abandoned failure =>
          simp only [feedings, run, ending, left, ih, List.map_cons]
          rfl
      | exited | escaped error =>
          simp only [feedings, run, ending]
          rfl

namespace Feeding

variable (feeding : Feeding)

/-- The messages of the line, if it does not escape. -/
def told : Text :=
  match feeding.run.ending with
  | .escaped _ => []
  | _ => Text.lines feeding.run.messages

/-- The display of the state that the line leaves, if it neither exits nor escapes. -/
def displayed : Text :=
  match feeding.run.ending with
  | .completed | .abandoned _ =>
    Text.lines [Display.render feeding.run.state Display.standardWidth]
  | .exited | .escaped _ => []

theorem shown_eq : feeding.feedback.session.shown =
    if feeding.session.quiet || feeding.run.ending = .exited then []
    else Text.lines [Display.render feeding.run.state Display.standardWidth] := by
  have shown : feeding.feedback.session.shown =
      if feeding.run.goesOn && !feeding.session.quiet
      then Text.lines [Display.render feeding.run.state Display.standardWidth] else [] := rfl
  rw [shown, Run.goesOn]
  cases feeding.session.quiet <;> by_cases exited : feeding.run.ending = .exited <;> simp [exited]

/-- What comes back is what is told and, from a session that is not quiet, the display. -/
theorem output_eq : feeding.feedback.output =
    feeding.told ++ if feeding.session.quiet then [] else feeding.displayed := by
  by_cases escaped : feeding.run.Escaped
  · obtain ⟨error, ending⟩ := escaped
    have silent : feeding.feedback.output = [] := Session.feed_output_of_escaped ending
    simp [told, displayed, ending, silent]
  · have written : feeding.feedback.output =
        Text.lines feeding.run.messages ++ feeding.feedback.session.shown :=
      Session.feed_output_of_not_escaped escaped
    rw [written, shown_eq]
    cases ending : feeding.run.ending with
    | escaped error => exact absurd ⟨error, ending⟩ escaped
    | completed | exited | abandoned failure => simp [told, displayed, ending]

variable (quiet : Bool) (feedings : List Feeding)

theorem flatMap_output_withQuiet :
    (feedings.map (withQuiet quiet)).flatMap (·.feedback.output) =
      feedings.flatMap fun feeding =>
        feeding.told ++ if quiet then [] else feeding.displayed := by
  rw [List.flatMap_map]
  exact congrArg (feedings.flatMap ·) (funext fun feeding => (feeding.withQuiet quiet).output_eq)

theorem flatMap_entries_withQuiet :
    (feedings.map (withQuiet quiet)).flatMap entries = feedings.flatMap entries := by
  rw [List.flatMap_map]
  rfl

end Feeding

theorem CommandLine.concluded_withQuiet (quiet : Bool) (feedings : List Feeding) :
    concluded (feedings.map (Feeding.withQuiet quiet)) = concluded feedings := by
  rw [concluded, List.getLast?_map, Option.map_map]
  rfl

namespace Run

/-- How far a run of words gets: all but the last of the first `count` words are carried out, and
    that last one ends the run, or else it is carried out too and there are no more words. -/
structure Reaches (vocabulary : Vocabulary) (words : List Text) (state : State) (count : Nat) :
    Prop where
  within : count ≤ words.length
  carriedOut : ∀ fewer < count,
    (ofTokens vocabulary (Token.ofWords (words.take fewer)) state).ending = .completed
  ends : (ofTokens vocabulary (Token.ofWords (words.take count)) state).ending =
    (ofTokens vocabulary (Token.ofWords words) state).ending
  all : (ofTokens vocabulary (Token.ofWords words) state).ending = .completed →
    count = words.length

section Reaches

variable {vocabulary : Vocabulary} {word : Text} {state : State}

/-- A run that begins with a word that is carried out reaches one word more than the rest of it. -/
theorem Reaches.cons {later : List Text} {count : Nat}
    (completed : ((Token.ofWord word).effect vocabulary state).ending = .completed)
    (reaches : Reaches vocabulary later ((Token.ofWord word).effect vocabulary state).state count) :
    Reaches vocabulary (word :: later) state (count + 1) := by
  have ending : ∀ words, (ofTokens vocabulary (Token.ofWords (word :: words)) state).ending =
      (ofTokens vocabulary (Token.ofWords words)
        ((Token.ofWord word).effect vocabulary state).state).ending := by
    intro words
    rw [Token.ofWords_cons, ofTokens_cons_of_completed completed]
    rfl
  constructor
  case within => exact Nat.succ_le_succ reaches.within
  case carriedOut =>
    intro fewer less
    cases fewer with
    | zero => rfl
    | succ fewer =>
        rw [List.take_succ_cons, ending]
        exact reaches.carriedOut fewer (Nat.lt_of_succ_lt_succ less)
  case ends =>
    rw [List.take_succ_cons, ending, ending]
    exact reaches.ends
  case all =>
    intro finished
    rw [ending] at finished
    exact congrArg Nat.succ (reaches.all finished)

/-- A run whose first word stops it reaches this word. -/
theorem reaches_one (stopped : ((Token.ofWord word).effect vocabulary state).ending ≠ .completed)
    (later : List Text) : Reaches vocabulary (word :: later) state 1 := by
  have ending : ∀ words, (ofTokens vocabulary (Token.ofWords (word :: words)) state).ending =
      ((Token.ofWord word).effect vocabulary state).ending := by
    intro words
    rw [Token.ofWords_cons, ofTokens_cons_of_stopped stopped]
  constructor
  case within => exact Nat.succ_le_succ (Nat.zero_le _)
  case carriedOut =>
    intro fewer less
    rw [Nat.lt_one_iff.mp less]
    rfl
  case ends => rw [List.take_succ_cons, ending, ending]
  case all =>
    intro finished
    rw [ending] at finished
    exact absurd finished stopped

end Reaches

/-- The words that are tried are the first ones, as far as the run gets. -/
theorem exists_reaches (vocabulary : Vocabulary) (words : List Text) (state : State) :
    ∃ count, Reaches vocabulary words state count ∧
      (ofTokens vocabulary (Token.ofWords words) state).tried =
        Token.ofWords (words.take count) := by
  induction words generalizing state with
  | nil => exact ⟨0, ⟨Nat.le_refl _, nofun, rfl, fun _ => rfl⟩, rfl⟩
  | cons word later ih =>
      rw [Token.ofWords_cons]
      by_cases completed : ((Token.ofWord word).effect vocabulary state).ending = .completed
      · obtain ⟨count, reaches, tried⟩ := ih ((Token.ofWord word).effect vocabulary state).state
        refine ⟨count + 1, reaches.cons completed, ?_⟩
        rw [ofTokens_cons_of_completed completed, List.take_succ_cons, Token.ofWords_cons, ← tried]
        rfl
      · refine ⟨1, reaches_one completed later, ?_⟩
        rw [ofTokens_cons_of_stopped completed]
        rfl

end Run

namespace Feeding

/-- How the log of a line closes: a failure is logged with what its report says behind the mark. -/
inductive Closes (feeding : Feeding) : List Entry → Prop where
  | reported (failure : Failure) (ending : feeding.run.ending = .abandoned failure)
      (messages : feeding.run.messages = feeding.run.printed ++ ["? ".toList ++ failure.message]) :
    Closes feeding [⟨.machine,
      "abandoning line ".toList ++ Quoted.quote feeding.line ++ ": ".toList ++ failure.message⟩]
  | unreported (noFailure : ∀ failure, feeding.run.ending ≠ .abandoned failure)
      (messages : feeding.run.messages = feeding.run.printed) : Closes feeding []

/-- The log of a line has its words that are tried, and then the failure that is reported. -/
def Traced (feeding : Feeding) : Prop :=
  let words := Words.split feeding.line
  ∃ count closing,
    Run.Reaches feeding.session.machine.vocabulary words feeding.session.state count ∧
      feeding.Closes closing ∧
      feeding.entries = (words.take count).map (fun word =>
        ⟨.machine, (classify word).name ++ ' ' :: Quoted.quote word⟩) ++ closing

theorem traced (feeding : Feeding) : feeding.Traced := by
  have run : feeding.run = Run.ofTokens feeding.session.machine.vocabulary
      (Token.ofWords (Words.split feeding.line)) feeding.session.state := Run.ofLine_eq _ _ _
  obtain ⟨count, reaches, tried⟩ := Run.exists_reaches feeding.session.machine.vocabulary
    (Words.split feeding.line) feeding.session.state
  rw [← run] at tried
  have words : feeding.run.tried.map Entry.tried =
      ((Words.split feeding.line).take count).map (fun word =>
        ⟨.machine, (classify word).name ++ ' ' :: Quoted.quote word⟩) := by
    rw [tried, Token.ofWords, List.map_map]
    rfl
  cases ending : feeding.run.ending with
  | abandoned failure =>
      refine ⟨count, _, reaches, .reported failure ending (Run.messages_of_abandoned ending), ?_⟩
      rw [entries, Entry.ofRun, ending, words]
      rfl
  | completed | exited | escaped error =>
      have noFailure : ∀ failure, feeding.run.ending ≠ .abandoned failure := by simp [ending]
      have silent := Run.messages_of_not_abandoned noFailure
      refine ⟨count, _, reaches, .unreported noFailure silent, ?_⟩
      rw [entries, Entry.ofRun, ending, words]

end Feeding

end ReversePolish
