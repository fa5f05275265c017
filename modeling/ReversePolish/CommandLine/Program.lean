import ReversePolish.CommandLine.Options
import ReversePolish.Session

/-! # The program

The program runs the lines that its options give it, or else asks for lines until the
session is over or its input ends.  What it does is one value: all it writes, all it
logs, and how it concludes.  That the input ends because it is exhausted, or because the
user interrupts the program, makes no difference.
-/

namespace ReversePolish.CommandLine

/-- What is written before the first line is asked for. -/
def banner : Text := "Type \"exit\" or input an end of file (Ctrl+D) to quit.\n".toList

def prompt : Text := "> ".toList

inductive Logger where
  | machine
  | session
  deriving Repr, DecidableEq

/-- The name under which a logger makes its entries. -/
def Logger.name : Logger → Text
  | .machine => "rpncalc.machine".toList
  | .session => "rpncalc_repl".toList

structure Entry where
  logger : Logger
  message : Text
  deriving Repr, DecidableEq

namespace Entry

def tried (token : Token) : Entry :=
  ⟨.machine, token.kind.name ++ ' ' :: Quoted.quote token.word⟩

def abandoned (line : Text) (failure : Failure) : Entry :=
  ⟨.machine, "abandoning line ".toList ++ Quoted.quote line ++ ": ".toList ++ failure.message⟩

/-- No more lines are asked for. -/
def sessionOver : Entry := ⟨.session, "session over".toList⟩

/-- The entries about a line: the tokens that were tried, and the failure if one abandoned
    the line. -/
def ofRun (line : Text) (run : Run) : List Entry :=
  run.tried.map tried ++
    match run.ending with
    | .abandoned failure => [abandoned line failure]
    | _ => []

end Entry

inductive Conclusion where
  | returned
  /-- A number word could not be converted. -/
  | escaped (error : ConversionError)
  | helped
  | refused (complaint : Text)
  deriving Repr, DecidableEq

structure Transcript where
  output : Text
  log : List Entry
  conclusion : Conclusion
  deriving Repr, DecidableEq

namespace Transcript

/-- A transcript with output and log entries in front of it. -/
def after (output : Text) (log : List Entry) (later : Transcript) : Transcript :=
  { later with output := output ++ later.output, log := log ++ later.log }

end Transcript

/-- Run given lines up to the first one that exits. -/
def runLines (session : Session) : List Text → Transcript
  | [] => ⟨[], [], .returned⟩
  | line :: later =>
    let fed := session.feed line
    let log := Entry.ofRun line fed.run
    match fed.run.ending with
    | .escaped error => ⟨fed.output, log, .escaped error⟩
    | .exited => ⟨fed.output, log, .returned⟩
    | _ => (runLines fed.session later).after fed.output log

/-- How asking for lines goes on. -/
inductive Next where
  | ask (session : Session)
  | conclude (conclusion : Conclusion)

/-- What the answer to one prompt comes to. -/
structure Turn where
  output : Text
  log : List Entry
  next : Next

namespace Turn

/-- The turn of a line. -/
def ofLine (session : Session) (line : Text) : Turn :=
  let fed := session.feed line
  let log := Entry.ofRun line fed.run
  match fed.run.ending with
  | .escaped error => ⟨fed.output, log, .conclude (.escaped error)⟩
  | .exited => ⟨fed.output, log ++ [.sessionOver], .conclude .returned⟩
  | _ => ⟨fed.output, log, .ask fed.session⟩

/-- The turn of an input that has ended. -/
def ofEnd : Turn := ⟨['\n'], [.sessionOver], .conclude .returned⟩

/-- The turn that an answer makes; none means that the input has ended. -/
def ofAnswer (session : Session) : Option Text → Turn
  | none => ofEnd
  | some line => ofLine session line

/-- The transcript of a turn, with its prompt, and of what follows if more lines are asked for. -/
def transcript (turn : Turn) (later : Session → Transcript) : Transcript :=
  match turn.next with
  | .ask session => (later session).after (prompt ++ turn.output) turn.log
  | .conclude conclusion => ⟨prompt ++ turn.output, turn.log, conclusion⟩

end Turn

/-- Ask for lines until one exits or there are no more. -/
def askLines (session : Session) : List Text → Transcript
  | [] => (Turn.ofAnswer session none).transcript fun _ => ⟨[], [], .returned⟩
  | line :: later =>
    (Turn.ofAnswer session (some line)).transcript fun session => askLines session later

def extendLine (c : Char) : List Text → List Text
  | [] => [[c]]
  | line :: lines => (c :: line) :: lines

/-- The lines of an input.  A line feed ends a line and is not part of it; what follows
    the last line feed is a line too unless it is empty. -/
def inputLines : Text → List Text
  | [] => []
  | c :: rest => if c = '\n' then [] :: inputLines rest else extendLine c (inputLines rest)

/-- What the program does with settings and an input. -/
def runWith (settings : Settings) (input : Text) : Transcript :=
  let session := Session.start settings.quiet
  if settings.lines = [] then (askLines session (inputLines input)).after banner []
  else runLines session settings.lines

/-- What the program does with arguments and an input.  Without the verbose option nothing
    is logged. -/
def run (arguments : List Text) (input : Text) : Transcript :=
  match read arguments with
  | .error .help => ⟨help, [], .helped⟩
  | .error (.refused complaint) => ⟨[], [], .refused complaint⟩
  | .ok settings =>
    let transcript := runWith settings input
    if settings.verbose then transcript else { transcript with log := [] }

end ReversePolish.CommandLine
