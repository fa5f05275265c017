import ReversePolish.Quoted
import ReversePolish.Unicode.Digit

/-! # Options

The command line takes four options, each with a short and a long spelling, and no other
arguments.  Reading goes over the arguments twice.  The first time each argument is
recognised by itself: as an option, perhaps with a value attached to it, as a word that
looks like an option but is none, or as a plain word.  The second time the options are
carried out from left to right; one that needs a value and has none attached takes the
next argument if that is a plain word.
-/

namespace ReversePolish.CommandLine

inductive Flag where
  | help
  | eval
  | quiet
  | verbose
  deriving Repr, DecidableEq

namespace Flag

/-- The spellings of the options, in the order in which they are listed. -/
def spellings : List (Text × Flag) := [
  ("-h".toList, .help), ("--help".toList, .help),
  ("-e".toList, .eval), ("--eval".toList, .eval),
  ("-q".toList, .quiet), ("--quiet".toList, .quiet),
  ("-v".toList, .verbose), ("--verbose".toList, .verbose)]

def ofSpelling? (spelling : Text) : Option Flag := spellings.lookup spelling

/-- Both spellings of an option, as complaints name it. -/
def title (flag : Flag) : Text :=
  Text.joinWith ['/'] ((spellings.filter (fun entry => entry.2 = flag)).map Prod.fst)

end Flag

/-- Why no line is run. -/
inductive Stop where
  | help
  | refused (complaint : Text)
  deriving Repr, DecidableEq

def Stop.about (flag : Flag) (complaint : Text) : Stop :=
  .refused ("argument ".toList ++ flag.title ++ ": ".toList ++ complaint)

/-- The option that takes a value has none. -/
def Stop.missingValue : Stop := .about .eval "expected one argument".toList

/-- An option that takes no value has one. -/
def Stop.ignoredValue (flag : Flag) (value : Text) : Stop :=
  .about flag ("ignored explicit argument ".toList ++ Quoted.quote value)

/-- What an argument is by itself. -/
inductive Shape where
  /-- A word that is no option. -/
  | plain
  /-- The two dashes after which nothing is an option. -/
  | separator
  /-- An option, and the value attached to it if there is one.  A short option may have
      others behind it in the same argument; they count as its value. -/
  | option (flag : Flag) (short : Bool) (value : Option Text)
  /-- A word that looks like an option and is none. -/
  | unknown
  deriving Repr, DecidableEq

/-- A minus sign with digits and at most one point behind it; a point has a digit behind
    it.  A line feed may follow. -/
def isNegativeNumber (text : Text) : Bool :=
  match text with
  | [] => false
  | c :: rest =>
    let digits := if rest.getLast? = some '\n' then rest.dropLast else rest
    c = '-' && match digits.dropWhile Unicode.isDigit with
      | [] => !digits.isEmpty
      | point :: fraction => point = '.' && !fraction.isEmpty && fraction.all Unicode.isDigit

/-- Split a text at its first equals sign, if it has one. -/
def splitAtEquals : Text → Text × Option Text
  | [] => ([], none)
  | c :: rest =>
    if c = '=' then ([], some rest)
    else
      let later := splitAtEquals rest
      (c :: later.1, later.2)

def isShort (spelling : Text) : Bool := spelling.length = 2

/-- An option as the shape of an argument. -/
def shapeOf (spelling : Text) (flag : Flag) (value : Option Text) : Shape :=
  .option flag (isShort spelling) value

/-- The options that an argument may stand for which is no full spelling.  A long option
    may be cut short, with a value behind an equals sign.  A short option may have its
    value right behind it. -/
def candidates (argument : Text) : List (Text × Shape) :=
  if "--".toList.isPrefixOf argument then
    let (head, value) := splitAtEquals argument
    (Flag.spellings.filter (fun entry => head.isPrefixOf entry.1)).map
      fun entry => (entry.1, shapeOf entry.1 entry.2 value)
  else
    Flag.spellings.filterMap fun entry =>
      if entry.1 = argument.take 2
      then some (entry.1, shapeOf entry.1 entry.2 (some (argument.drop 2)))
      else if argument.isPrefixOf entry.1 then some (entry.1, shapeOf entry.1 entry.2 none)
      else none

/-- The shape of an argument that starts with a dash and is no full spelling, alone or in
    front of an equals sign. -/
def abbreviated (argument : Text) : Except Stop Shape :=
  match candidates argument with
  | [(_, shape)] => .ok shape
  | [] =>
    if isNegativeNumber argument || argument.contains ' ' then .ok .plain else .ok .unknown
  | several =>
    .error (.refused ("ambiguous option: ".toList ++ argument ++ " could match ".toList
      ++ Text.joinWith ", ".toList (several.map Prod.fst)))

/-- The shape of an argument in front of any separator. -/
def shape (argument : Text) : Except Stop Shape :=
  match argument with
  | [] => .ok .plain
  | ['-'] => .ok .plain
  | c :: _ =>
    if c ≠ '-' then .ok .plain
    else match Flag.ofSpelling? argument with
      | some flag => .ok (shapeOf argument flag none)
      | none =>
        let (head, value) := splitAtEquals argument
        match value, Flag.ofSpelling? head with
        | some value, some flag => .ok (shapeOf head flag (some value))
        | _, _ => abbreviated argument

def shapes : List Text → Except Stop (List (Text × Shape))
  | [] => .ok []
  | argument :: later =>
    if argument = "--".toList then
      .ok ((argument, .separator) :: later.map fun word => (word, .plain))
    else do
      let first ← shape argument
      let others ← shapes later
      return (argument, first) :: others

structure Settings where
  /-- The lines to run.  If none is given, lines are asked for. -/
  lines : List Text
  quiet : Bool
  verbose : Bool
  deriving Repr, DecidableEq

/-- The options of one argument: those in front of the last, the last, and the value of
    the last. -/
structure Cluster where
  before : List Flag
  last : Flag
  value : Option Text
  deriving Repr, DecidableEq

/-- The options of an argument, given the first of them and what is behind it.  Behind a
    short option that takes no value there are further short options. -/
def cluster (flag : Flag) (short : Bool) : Option Text → Except Stop Cluster
  | none => .ok ⟨[], flag, none⟩
  | some value => clusterWith flag short value
where
  /-- The options of an argument with something behind the first of them. -/
  clusterWith (flag : Flag) (short : Bool) : Text → Except Stop Cluster
    | [] => if flag = .eval then .ok ⟨[], flag, some []⟩ else .error (.ignoredValue flag [])
    | letter :: more =>
      if flag = .eval then .ok ⟨[], flag, some (letter :: more)⟩
      else match short, Flag.ofSpelling? ['-', letter] with
        | true, some next =>
          let further := if more = [] then .ok ⟨[], next, none⟩ else clusterWith next true more
          further.map fun cluster => { cluster with before := flag :: cluster.before }
        | _, _ => .error (.ignoredValue flag (letter :: more))

/-- The line that an option value says to run.  Two dashes say that there is none; that
    leaves a line without words. -/
def lineOf (value : Text) : Text := if value = "--".toList then [] else value

namespace Settings

def initial : Settings := ⟨[], false, false⟩

/-- Carry out an option that takes no value. -/
def switch (settings : Settings) : Flag → Except Stop Settings
  | .help => .error .help
  | .quiet => .ok { settings with quiet := true }
  | .verbose => .ok { settings with verbose := true }
  | .eval => .error .missingValue

/-- Carry out options that take no value, from left to right. -/
def switchAll : Settings → List Flag → Except Stop Settings
  | settings, [] => .ok settings
  | settings, flag :: later =>
    match settings.switch flag with
    | .ok settings => switchAll settings later
    | .error stop => .error stop

/-- Carry out options of which the last takes a value: that is one more line to run. -/
def addLine (settings : Settings) (before : List Flag) (value : Text) : Except Stop Settings :=
  (settings.switchAll before).map fun settings =>
    { settings with lines := settings.lines ++ [lineOf value] }

end Settings

/-- Carry out the options of recognised arguments from left to right.  Words that are left
    over come out beside the settings. -/
def settle : List (Text × Shape) → Settings → List Text → Except Stop (Settings × List Text)
  | [], settings, extras => .ok (settings, extras)
  | (_, .option flag short value) :: later, settings, extras =>
    match cluster flag short value with
    | .error stop => .error stop
    | .ok ⟨before, .eval, some value⟩ =>
      match settings.addLine before value with
      | .ok settings => settle later settings extras
      | .error stop => .error stop
    | .ok ⟨before, .eval, none⟩ =>
      match later with
      | (value, .plain) :: later =>
        match settings.addLine before value with
        | .ok settings => settle later settings extras
        | .error stop => .error stop
      | _ => .error .missingValue
    | .ok ⟨before, last, _⟩ =>
      match settings.switchAll (before ++ [last]) with
      | .ok settings => settle later settings extras
      | .error stop => .error stop
  | (word, _) :: later, settings, extras => settle later settings (extras ++ [word])

def read (arguments : List Text) : Except Stop Settings := do
  let (settings, extras) ← settle (← shapes arguments) Settings.initial []
  if extras = [] then return settings
  else .error (.refused ("unrecognized arguments: ".toList ++ Text.joinWith [' '] extras))

def usage : Text := "usage: rpncalc [-h] [-e LINE] [-q] [-v]\n".toList

def help : Text :=
  usage ++ ("\nInteractive Reverse Polish Notation calculator.\n\noptions:\n"
    ++ "  -h, --help            show this help message and exit\n"
    ++ "  -e LINE, --eval LINE  process LINE and exit instead of prompting\n"
    ++ "                        (repeatable)\n"
    ++ "  -q, --quiet           do not show the stack and variables after each line\n"
    ++ "  -v, --verbose         log every token at DEBUG level\n").toList

/-- What is written when the arguments are wrong. -/
def complaintText (complaint : Text) : Text :=
  usage ++ "rpncalc: error: ".toList ++ complaint ++ ['\n']

end ReversePolish.CommandLine
