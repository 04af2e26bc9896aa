import BoxOffice.Fault
/-!
# Opcodes and result codes

Every request begins with one byte that says what it is.  Most replies begin with a number that says
whether the request was carried out: 0 says so and any other number says that it was not.
-/

namespace BoxOffice

inductive Opcode where
  | setup
  | quit
  | create
  | reserve
  /-- Asks to see the seats of an event. -/
  | view
  | list
  deriving DecidableEq, Repr

namespace Opcode

/-- The byte that a request of this kind begins with, an ASCII digit. -/
def byte : Opcode → UInt8
  | .setup => 0x31
  | .quit => 0x32
  | .create => 0x33
  | .reserve => 0x34
  | .view => 0x35
  | .list => 0x36

def name : Opcode → String
  | .setup => "SETUP"
  | .quit => "QUIT"
  | .create => "CREATE"
  | .reserve => "RESERVE"
  | .view => "SHOW"
  | .list => "LIST"

/-- What a byte begins, if anything. -/
def ofByte? (b : UInt8) : Option Opcode :=
  [setup, quit, create, reserve, view, list].find? (·.byte == b)

/-- What a byte begins, or the fault that it begins nothing. -/
def ofByte (b : UInt8) : Except Fault Opcode :=
  match ofByte? b with
  | some op => .ok op
  | none => .error (.protocol (.unknownOpcode b))

@[simp] theorem ofByte?_byte (op : Opcode) : ofByte? op.byte = some op := by
  cases op <;> rfl

theorem byte_of_ofByte? {b : UInt8} {op : Opcode} (h : ofByte? b = some op) : op.byte = b := by
  simpa using List.find?_some h

end Opcode

/-- Whether a request was carried out. -/
inductive Outcome where
  | done
  | failed
  deriving DecidableEq, Repr

namespace Outcome

def code : Outcome → Int32
  | .done => 0
  | .failed => 1

def ofCode (n : Int32) : Outcome := if n = 0 then .done else .failed

def isDone (o : Outcome) : Bool := o == .done

def ofResult {α : Type} : Except Fault α → Outcome
  | .ok _ => .done
  | .error _ => .failed

@[simp] theorem ofCode_code (o : Outcome) : ofCode o.code = o := by
  cases o <;> decide

end Outcome

end BoxOffice
