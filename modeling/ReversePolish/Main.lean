import ReversePolish.CommandLine.Program

/-! # The command

The outer layer of the program: it reads the arguments and the standard input, calls the
library for every line, and writes.
-/

namespace ReversePolish.CommandLine

def writeOut (text : Text) : IO Unit := do
  let out ← IO.getStdout
  out.putStr (String.ofList text)
  out.flush

/-- Write the log entries of a line if they are asked for. -/
def writeLog (verbose : Bool) (entries : List Entry) : IO Unit := do
  if verbose then
    for entry in entries do
      IO.eprintln (String.ofList (entry.logger.name ++ " - DEBUG - ".toList ++ entry.message))

/-- Write what is to be said in the end, and give the exit code. -/
def conclude : Conclusion → IO UInt32
  | .returned => return 0
  | .escaped error => do
    IO.eprintln (String.ofList error.message)
    return 1
  | .helped => return 0
  | .refused complaint => do
    IO.eprint (String.ofList (complaintText complaint))
    return 2

/-- The next line of the input, without its line feed, if there is one. -/
def nextLine? : IO (Option Text) := do
  let line := (← (← IO.getStdin).getLine).toList
  if line = [] then return none
  return some (if line.getLast? = some '\n' then line.dropLast else line)

/-- Ask for lines, turn by turn, until one of them concludes. -/
partial def ask (verbose : Bool) (session : Session) : IO UInt32 := do
  writeOut prompt
  let turn := Turn.ofAnswer session (← nextLine?)
  writeLog verbose turn.log
  writeOut turn.output
  match turn.next with
  | .ask session => ask verbose session
  | .conclude conclusion => conclude conclusion

/-- Run the program with arguments.  Lines are only asked for if none is given. -/
def perform (arguments : List Text) : IO UInt32 := do
  match read arguments with
  | .ok ⟨[], quiet, verbose⟩ =>
    writeOut banner
    ask verbose (Session.start quiet)
  | _ =>
    let transcript := run arguments []
    writeLog true transcript.log
    writeOut transcript.output
    conclude transcript.conclusion

end ReversePolish.CommandLine

/-- The command. -/
def main (arguments : List String) : IO UInt32 :=
  ReversePolish.CommandLine.perform (arguments.map String.toList)
