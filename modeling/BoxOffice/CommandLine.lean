import BoxOffice.Path
import BoxOffice.Text.Decimal
/-!
# The command line

The program is called with the name of a command, `server` or `client`, and the operands of that
command; switches may stand anywhere, and those that both commands have also before the name.  After
`--` there are only operands.

A switch may be given once before the name and once after it: the value behind the name counts.
What is given is checked when the next argument has been recognised, so of two faults in a call the
one that is found first is reported.
-/

namespace BoxOffice

inductive Task where
  | server (endpoint : Path) (delay : Option UInt64) (workers : Option UInt64)
  | client (request response server script : Path)
  deriving DecidableEq, Repr

structure CommandLine where
  /-- Where the settings are. -/
  config : Option Path
  verbose : Bool
  task : Task
  deriving DecidableEq, Repr

inductive UsageFault where
  | unknownArgument
  | unknownCommand
  | missingCommand
  | missingOperand
  /-- A switch is given twice. -/
  | repeated
  /-- A switch without its value, or an empty path. -/
  | missingValue
  /-- The value of a switch that takes none. -/
  | unneededValue
  | notNumber
  /-- Help is asked for. -/
  | help
  /-- The version is asked for. -/
  | version
  /-- Nothing is asked for. -/
  | nothing
  deriving DecidableEq, Repr

namespace CommandLine

/-- Whose switches and operands are read. -/
inductive Level where
  | program
  | server
  | client
  deriving DecidableEq, Repr

inductive Switch where
  | config
  | verbose
  | help
  | version
  | workers
  deriving DecidableEq, Repr

namespace Switch

def letter : Switch → Char
  | .config => 'c'
  | .verbose => 'v'
  | .help => 'h'
  | .version => 'V'
  | .workers => 'w'

def name : Switch → String
  | .config => "config"
  | .verbose => "verbose"
  | .help => "help"
  | .version => "version"
  | .workers => "workers"

def takesValue : Switch → Bool
  | .config | .workers => true
  | .verbose | .help | .version => false

end Switch

def Level.switches : Level → List Switch
  | .program => [.config, .verbose, .help, .version]
  | .server => [.config, .verbose, .help, .workers]
  | .client => [.config, .verbose, .help]

def Level.operands : Level → Nat
  | .program => 0
  | .server => 2
  | .client => 4

inductive Pending where
  | value (s : Switch) (text : Option String)
  | operand (text : String)
  deriving DecidableEq, Repr

structure Given where
  config : Option Path := none
  verbose : Bool := false
  workers : Option UInt64 := none
  /-- The paths among the operands. -/
  paths : List Path := []
  /-- The number among the operands. -/
  delay : Option UInt64 := none
  pending : Option Pending := none
  /-- How many operands there are, the pending one among them. -/
  operands : Nat := 0
  deriving DecidableEq, Repr

def path? (text : String) : Except UsageFault Path :=
  if text.isEmpty then .error .missingValue else .ok (.ofString text)

def number? (text : String) : Except UsageFault UInt64 :=
  match Text.word64? text.toList with
  | some n => .ok n
  | none => .error .notNumber

namespace Given

def withValue (g : Given) (s : Switch) (text : String) : Except UsageFault Given :=
  match s with
  | .config =>
    if g.config.isSome then .error .repeated
    else (path? text).map fun p => { g with config := some p }
  | .workers =>
    if g.workers.isSome then .error .repeated
    else (number? text).map fun n => { g with workers := some n }
  | .verbose | .help | .version => .ok g

/-- The next operand: the server's second is a number, all others are paths. -/
def withOperand (g : Given) (l : Level) (text : String) : Except UsageFault Given :=
  if l = .server ∧ g.paths.length = 1 then
    (number? text).map fun n => { g with delay := some n }
  else (path? text).map fun p => { g with paths := g.paths ++ [p] }

def checked (g : Given) (l : Level) : Except UsageFault Given :=
  let h := { g with pending := none }
  match g.pending with
  | none => .ok h
  | some (.value _ none) => .error .missingValue
  | some (.value s (some text)) => h.withValue s text
  | some (.operand text) => h.withOperand l text

/-- A switch that takes no value. -/
def withSwitch (g : Given) (l : Level) (s : Switch) : Except UsageFault Given := do
  let g ← g.checked l
  match s with
  | .verbose => if g.verbose then .error .repeated else .ok { g with verbose := true }
  | .help => .error .help
  | .version => .error .version
  | .config | .workers => .ok g

/-- A switch with its value right behind it. -/
def withAttached (g : Given) (l : Level) (s : Switch) (text : String) : Except UsageFault Given := do
  (← g.checked l).withValue s text

/-- A switch whose value has to be the next argument. -/
def awaiting (g : Given) (l : Level) (s : Switch) : Except UsageFault Given := do
  return { ← g.checked l with pending := some (.value s none) }

def isAwaiting (g : Given) : Bool := match g.pending with
  | some (.value _ none) => true
  | _ => false

def withLetters (l : Level) : Given → List Char → Except UsageFault Given
  | g, [] => .ok g
  | g, c :: cs =>
    match l.switches.find? (·.letter == c) with
    | none => .error .unknownArgument
    | some s =>
      if s.takesValue then
        match cs with
        | [] => g.awaiting l s
        | d :: ds => g.withAttached l s (.ofList (if d = '=' then ds else d :: ds))
      else
        match g.withSwitch l s with
        | .error fault => .error fault
        | .ok g => withLetters l g cs

/-- The name behind two dashes, and what follows the equals sign behind it. -/
def withName (g : Given) (l : Level) (name : List Char) : Except UsageFault Given :=
  let value := (name.dropWhile (· ≠ '=')).tail?
  match l.switches.find? (·.name.toList == name.takeWhile (· ≠ '=')), value with
  | none, _ => .error .unknownArgument
  | some s, none => if s.takesValue then g.awaiting l s else g.withSwitch l s
  | some s, some text =>
    if s.takesValue then g.withAttached l s (.ofList text) else .error .unneededValue

end Given

def commands : List (String × Level) := [("server", .server), ("client", .client)]

def misplaced (trailing : Bool) (arg : String) : UsageFault :=
  if trailing && (arg == "help" || (commands.lookup arg).isSome) then .unknownArgument
  else .unknownCommand

/-- Help is asked for by a command; the names behind it lead to what is to be explained. -/
def helped : List String → UsageFault
  | [] => .help
  | [name] => if name == "help" || (commands.lookup name).isSome then .help else .unknownCommand
  | _ => .unknownCommand

def withOperandAt (g : Given) (l : Level) (trailing : Bool) (arg : String) :
    Except UsageFault Given :=
  if g.operands < l.operands then
    (g.checked l).map fun g =>
      { g with pending := some (.operand arg), operands := g.operands + 1 }
  else .error (if l = .program then misplaced trailing arg else .unknownArgument)

/-- A text that could be an operand is the value that is awaited, if one is. -/
def withText (g : Given) (l : Level) (arg : String) : Except UsageFault Given :=
  match g.pending with
  | some (.value s none) => .ok { g with pending := some (.value s (some arg)) }
  | _ => withOperandAt g l false arg

/-- The next argument before `--`, which is not itself `--`. -/
def withArg (g : Given) (l : Level) (arg : String) : Except UsageFault Given :=
  match arg.toList with
  | '-' :: '-' :: name => g.withName l name
  | '-' :: c :: letters => g.withLetters l (c :: letters)
  | _ => withText g l arg

/-- Reads the arguments of a level to their end, or at the outermost level up to the name of a command;
then the level of that command and the arguments behind its name are given too. -/
def readArgs (l : Level) : (trailing : Bool) → Given → List String →
    Except UsageFault (Given × Option (Level × List String))
  | _, g, [] => .ok (g, none)
  | true, g, arg :: args =>
    match withOperandAt g l true arg with
    | .error fault => .error fault
    | .ok g => readArgs l true g args
  | false, g, arg :: args =>
    let command := if l = .program ∧ !g.isAwaiting then arg else ""
    match commands.lookup command with
    | some level => .ok (g, some (level, args))
    | none =>
      if command = "help" then .error (helped args)
      else if arg = "--" then readArgs l true g args
      else match withArg g l arg with
        | .error fault => .error fault
        | .ok g => readArgs l false g args

def Given.task (g : Given) : Level → Except UsageFault Task
  | .server => match g.paths with
    | [endpoint] => .ok (.server endpoint g.delay g.workers)
    | _ => .error .missingOperand
  | .client => match g.paths with
    | [request, response, server, script] => .ok (.client request response server script)
    | _ => .error .missingOperand
  | .program => .error (if g.config.isNone ∧ !g.verbose then .nothing else .missingCommand)

def usage : String :=
  "Usage: ems [-c <config>] [-v] server <endpoint> [<delay_us>] [-w <workers>]\n" ++
    "       ems [-c <config>] [-v] client <request> <response> <server> <script>\n"

def edition : String := "ems 0.1.0\n"

def ofArgs (args : List String) : Except UsageFault CommandLine := do
  let (outer, command) ← readArgs .program false {} args
  match command with
  | none =>
    let outer ← outer.checked .program
    return { config := outer.config, verbose := outer.verbose, task := ← outer.task .program }
  | some (level, args) =>
    let (inner, _) ← readArgs level false {} args
    let inner ← inner.checked level
    let task ← inner.task level
    let outer ← outer.checked .program
    return {
      config := inner.config <|> outer.config
      verbose := inner.verbose || outer.verbose
      task }

end CommandLine

end BoxOffice
