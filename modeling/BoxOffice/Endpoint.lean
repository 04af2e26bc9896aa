import BoxOffice.Directory
import BoxOffice.Wire.Setup
/-!
# Endpoints

An endpoint is a named pipe in the directory.  Its name has to fit the field that it is sent in.  A
pipe is made in the place of whatever file is there, so that one left behind does no harm; taking
away a pipe that is not there is no fault.
-/

namespace BoxOffice

def endpointName (p : Path) : Except Fault String :=
  match p.text? with
  | none => .error (.endpointName (.notText p))
  | some name =>
    if name.isEmpty then .error (.endpointName .empty)
    else if nameWidth ≤ name.utf8ByteSize then
      .error (.endpointName (.tooLong name name.utf8ByteSize (nameWidth - 1)))
    else .ok name

namespace Directory

/-- Takes away the pipe or the file at a path, if there is one. -/
def clear (d : Directory) (p : Path) : Except Fault Directory :=
  match d.remove p with
  | .ok d => .ok d
  | .error (.file .noEntry) => .ok d
  | .error why => .error (.transport (.notRemoved p why))

/-- Puts a new pipe at a path, in the place of the pipe or the file that is there. -/
def makePipe (d : Directory) (p : Path) : Except Fault Directory :=
  match d.clear p with
  | .error fault => .error fault
  | .ok d => (d.addPipe p).mapError fun why => .transport (.pipeNotCreated p why)

/-- What there is to read from at a path. -/
def openForReading (d : Directory) (p : Path) : Except Fault (Route × Entry) :=
  (d.entry p).mapError fun why => .transport (.notOpenedForReading p why)

/-- What there is to write to at a path. -/
def openForWriting (d : Directory) (p : Path) : Except Fault (Route × Entry) :=
  (d.target p).mapError fun why => .transport (.notOpenedForWriting p why)

end Directory

end BoxOffice
