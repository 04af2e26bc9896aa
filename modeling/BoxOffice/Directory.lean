import BoxOffice.Fault
/-!
# The working directory

Files, named pipes and folders.  Each stands at the end of a `Route`, the names that lead to it from
the root; `home` is the route of the working directory, where paths that do not begin with a slash
begin.  `locate` follows a path to the folder that its last name is looked for in, as a file system
does: every name before the last one has to lead into a folder that is there.

What is done at the end of the path is up to the operation: `entry` looks, `remove` takes a file or a
pipe away, `addPipe` and `create` add one.
-/

namespace BoxOffice

abbrev EntryName := List UInt8

abbrev Route := List EntryName

inductive Entry where
  | file (bytes : List UInt8)
  | pipe
  | folder
  deriving DecidableEq, Repr

/-- A directory tree and the place in it where paths begin. -/
structure Directory where
  home : Route := []
  entries : List (Route × Entry) := []
  deriving DecidableEq, Repr

/-- The end of a path. -/
structure Spot where
  /-- The folder that the path leads into. -/
  folder : Route
  /-- The name to look for there; `none` when the path ends in the folder itself. -/
  name? : Option EntryName
  /-- The path ends in a slash, so that only a folder can be meant. -/
  slashed : Bool
  deriving DecidableEq, Repr

def Spot.route (s : Spot) : Route := s.folder ++ s.name?.toList

/-- The most bytes that a name can have. -/
def nameLimit : Nat := 255

/-- The number of bytes that a path has to stay below. -/
def pathLimit : Nat := 4096

namespace Directory

def find? (d : Directory) (r : Route) : Option Entry :=
  if r = [] then some .folder else (d.entries.find? (·.1 == r)).map (·.2)

def erase (d : Directory) (r : Route) : Directory :=
  { d with entries := d.entries.filter (·.1 != r) }

def put (d : Directory) (r : Route) (e : Entry) : Directory :=
  { d with entries := (d.erase r).entries ++ [(r, e)] }

/-- The entries of the working directory, in the order of their names. -/
def names (d : Directory) : List EntryName :=
  (d.entries.filterMap fun (r, _) =>
    if r.dropLast = d.home then r.getLast? else none).mergeSort fun a b => decide (a ≤ b)

/-! ## Following a path -/

/-- The folder that a name leads into from the folder at the end of `r`.  Above the root there is
only the root. -/
def enter (d : Directory) (r : Route) (name : EntryName) : Except FileFault Route :=
  if name = [Path.dot] then .ok r
  else if name = [Path.dot, Path.dot] then .ok r.dropLast
  else if nameLimit < name.length then .error .nameTooLong
  else match d.find? (r ++ [name]) with
    | some .folder => .ok (r ++ [name])
    | some _ => .error .notDirectory
    | none => .error .noEntry

def walk (d : Directory) (r : Route) : List EntryName → Except FileFault Route
  | [] => .ok r
  | name :: names =>
    match d.enter r name with
    | .ok r => d.walk r names
    | .error fault => .error fault

/-- Where a path that holds no zero byte ends. -/
def seek (d : Directory) (p : Path) : Except FileFault Spot :=
  if p.bytes = [] then .error .noEntry
  else if pathLimit ≤ p.bytes.length then .error .nameTooLong
  else
    let start := if p.bytes.head? = some Path.slash then [] else d.home
    let names := (p.bytes.splitOn Path.slash).filter (· ≠ [])
    match d.walk start names.dropLast with
    | .error fault => .error fault
    | .ok folder =>
      match names.getLast? with
      | none => .ok { folder, name? := none, slashed := true }
      | some last =>
        if last = [Path.dot] ∨ last = [Path.dot, Path.dot] then
          match d.enter folder last with
          | .error fault => .error fault
          | .ok folder => .ok { folder, name? := none, slashed := true }
        else if nameLimit < last.length then .error .nameTooLong
        else .ok { folder, name? := some last, slashed := p.bytes.getLast? = some Path.slash }

def locate (d : Directory) (p : Path) : Except IoCause Spot :=
  if p.bytes.contains 0 then .error .zeroInPath else (d.seek p).mapError .file

/-! ## What is done at the end of a path -/

/-- The route of what a path names, and what it is. -/
def entry (d : Directory) (p : Path) : Except IoCause (Route × Entry) :=
  match d.locate p with
  | .error why => .error why
  | .ok spot =>
    match d.find? spot.route with
    | none => .error (.file .noEntry)
    | some .folder => .ok (spot.route, .folder)
    | some e => if spot.slashed then .error (.file .notDirectory) else .ok (spot.route, e)

/-- Opens what a path names in order to write to it; a folder cannot be written to. -/
def target (d : Directory) (p : Path) : Except IoCause (Route × Entry) :=
  match d.entry p with
  | .ok (_, .folder) => .error (.file .isDirectory)
  | other => other

/-- The bytes of the file that a path names.  A folder can be opened and then not read; a pipe that
nobody writes to gives nothing. -/
def contents (d : Directory) (p : Path) : Except IoCause (Except IoCause (List UInt8)) :=
  (d.entry p).map fun
    | (_, .file bytes) => .ok bytes
    | (_, .pipe) => .ok []
    | (_, .folder) => .error (.file .isDirectory)

/-- Takes a file or a pipe away. -/
def remove (d : Directory) (p : Path) : Except IoCause Directory :=
  match d.locate p with
  | .error why => .error why
  | .ok spot =>
    match d.find? spot.route with
    | none => .error (.file .noEntry)
    | some .folder => .error (.file .isDirectory)
    | some _ => if spot.slashed then .error (.file .notDirectory) else .ok (d.erase spot.route)

def addPipe (d : Directory) (p : Path) : Except FileFault Directory :=
  match d.seek p with
  | .error fault => .error fault
  | .ok spot =>
    match d.find? spot.route with
    | some _ => .error .alreadyThere
    | none => if spot.slashed then .error .noEntry else .ok (d.put spot.route .pipe)

/-- Makes an empty file of what is there, or of nothing, and gives its route. -/
def create (d : Directory) (p : Path) : Except IoCause (Route × Directory) :=
  match d.locate p with
  | .error why => .error why
  | .ok spot =>
    if spot.slashed then .error (.file .isDirectory)
    else match d.find? spot.route with
      | some .folder => .error (.file .isDirectory)
      | some .pipe => .ok (spot.route, d)
      | _ => .ok (spot.route, d.put spot.route (.file []))

/-- A file with bytes written over it from a place on. -/
def overwritten (file : List UInt8) (place : Nat) (bytes : List UInt8) : List UInt8 :=
  file.take place ++ bytes ++ file.drop (place + bytes.length)

/-- Writes bytes over the front of a file; nothing comes of it anywhere else. -/
def overwrite (d : Directory) (r : Route) (bytes : List UInt8) : Directory :=
  match d.find? r with
  | some (.file old) => d.put r (.file (overwritten old 0 bytes))
  | _ => d

/-! ## Small laws -/

@[simp] theorem find?_put (d : Directory) {r : Route} (e : Entry) (h : r ≠ []) :
    (d.put r e).find? r = some e := by
  have none : (d.erase r).entries.find? (·.1 == r) = none := by
    simp [erase, List.find?_eq_none]
  simp [find?, put, h, List.find?_append, none]

@[simp] theorem find?_erase (d : Directory) {r : Route} (h : r ≠ []) :
    (d.erase r).find? r = none := by
  simp [find?, erase, h, List.find?_eq_none]

end Directory

end BoxOffice
