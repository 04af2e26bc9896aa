import BoxOffice.Fault
import BoxOffice.Text.Blank
import BoxOffice.Text.Decimal
/-!
# The lines of a job script

A script has one command a line.  `Command.ofLine` reads a line as the command it writes: a keyword,
and after it as many arguments as the command takes, with white space between them.  A reservation
lists its seats in brackets, each as `(row,column)`.  A line that is blank or begins with `#` is no
command, and a line that is none of these is `invalid`.
-/

namespace BoxOffice

open Text

inductive Command where
  | create (id : UInt32) (rows cols : UInt64)
  | reserve (id : UInt32) (seats : List Seat)
  | view (id : UInt32)
  | list
  /-- Waits for some milliseconds; the thread is read and not heeded. -/
  | wait (delay : UInt32) (thread : Option UInt32)
  | quit
  | help
  | invalid
  /-- A blank line or a comment. -/
  | empty
  /-- There is no further line. -/
  | finish
  deriving DecidableEq, Repr

namespace Command

/-- What is printed for a script that asks for help. -/
def helpText : String :=
  "Available commands:\n" ++
  "  CREATE <event_id> <num_rows> <num_columns>\n" ++
  "  RESERVE <event_id> [(<x1>,<y1>) (<x2>,<y2>) ...]\n" ++
  "  SHOW <event_id>\n" ++
  "  LIST\n" ++
  "  WAIT <delay_ms>\n" ++
  "  HELP\n"

/-- The text between two marks, when it begins with the one and, after that, ends with the other. -/
def between (first last : Char) : List Char → Option (List Char)
  | [] => none
  | c :: cs => if c = first ∧ cs.getLast? = some last then some cs.dropLast else none

def seat? (token : List Char) : Option Seat := do
  let (row, col) ← (← between '(' ')' token) |> cutAt ','
  return { row := ← word64? (trim row), col := ← word64? (trim col) }

def create? (args : List Char) : Option Command :=
  match words args with
  | [id, rows, cols] => return .create (← word32? id) (← word64? rows) (← word64? cols)
  | _ => none

def view? (args : List Char) : Option Command :=
  match words args with
  | [id] => return .view (← word32? id)
  | _ => none

def wait? (args : List Char) : Option Command :=
  match words args with
  | [delay] => return .wait (← word32? delay) none
  | [delay, thread] => return .wait (← word32? delay) (some (← word32? thread))
  | _ => none

/-- The arguments of a reservation of at least one and at most `maxSeats` seats. -/
def reserve? (maxSeats : UInt64) (args : List Char) : Option Command := do
  let (id, coords) ← cutAtBlank args
  let id ← word32? id
  let tokens := words (← between '[' ']' (trim coords))
  if tokens.isEmpty ∨ maxSeats.toNat < tokens.length then none
  else return .reserve id (← tokens.mapM seat?)

def bare? (command : Command) (args : List Char) : Option Command :=
  if args.isEmpty then some command else none

/-- The command that a keyword and its arguments write. -/
def ofParts? (maxSeats : UInt64) (keyword args : List Char) : Option Command :=
  if keyword = "CREATE".toList then create? args
  else if keyword = "RESERVE".toList then reserve? maxSeats args
  else if keyword = "SHOW".toList then view? args
  else if keyword = "LIST".toList then bare? .list args
  else if keyword = "WAIT".toList then wait? args
  else if keyword = "QUIT".toList then bare? .quit args
  else if keyword = "HELP".toList then bare? .help args
  else none

/-- What a line says; a reservation may list at most `maxSeats` seats. -/
def ofChars (maxSeats : UInt64) (line : List Char) : Command :=
  let line := trim line
  if line.isEmpty ∨ line.head? = some '#' then .empty
  else
    let (keyword, args) := match cutAtBlank line with
      | some (keyword, rest) => (keyword, trim rest)
      | none => (line, [])
    (ofParts? maxSeats keyword args).getD .invalid

/-- What a line says; a reservation may list at most `maxSeats` seats. -/
def ofLine (maxSeats : UInt64) (line : String) : Command := ofChars maxSeats line.toList

end Command

end BoxOffice
