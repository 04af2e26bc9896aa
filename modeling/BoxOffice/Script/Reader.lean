import BoxOffice.Script.Command
import BoxOffice.Text.Utf8
/-!
# Reading a script

A script is a sequence of bytes; a line ends after each line feed, and what stands after the last one
is a line too unless it is empty.  `ScriptReader.next` gives the commands one by one.  A line that is
not UTF-8 is a fault; it is passed over without being counted.
-/

namespace BoxOffice

open Text

def lineFeed : UInt8 := 0x0A

/-- The first line, with the line feed that ends it, and what follows; no line at the end. -/
def cutLine (bs : List UInt8) : List UInt8 × List UInt8 :=
  match bs.dropWhile (· ≠ lineFeed) with
  | [] => (bs, [])
  | b :: rest => (bs.takeWhile (· ≠ lineFeed) ++ [b], rest)

theorem cutLine_append (bs : List UInt8) : (cutLine bs).1 ++ (cutLine bs).2 = bs := by
  have all := List.takeWhile_append_dropWhile (p := (· ≠ lineFeed)) (l := bs)
  unfold cutLine
  split
  · simp
  · rename_i b rest e
    rw [e] at all
    simpa using all

theorem length_cutLine_lt {bs : List UInt8} (h : bs ≠ []) : (cutLine bs).2.length < bs.length := by
  have all := congrArg List.length (cutLine_append bs)
  rw [List.length_append] at all
  have : (cutLine bs).1 ≠ [] := by
    unfold cutLine
    split <;> simp [h]
  have := List.length_pos_iff.2 this
  omega

/-- The lines of a text, without the line feeds that end them. -/
def linesOf (bs : List UInt8) : List (List UInt8) :=
  let pieces := bs.splitOn lineFeed
  if pieces.getLast? = some [] then pieces.dropLast else pieces

structure ScriptReader where
  /-- What has not been read. -/
  rest : List UInt8
  /-- The most seats that a reservation may list. -/
  maxSeats : UInt64
  /-- How many lines have been read. -/
  lineNumber : Nat := 0
  deriving DecidableEq, Repr

namespace ScriptReader

/-- The next command, `finish` after the last line. -/
def next (r : ScriptReader) : Except Fault Command × ScriptReader :=
  if r.rest.isEmpty then (.ok .finish, r)
  else
    let (line, rest) := cutLine r.rest
    let r := { r with rest }
    match Utf8.decode line with
    | .error _ => (.error (.io .notText), r)
    | .ok text => (.ok (.ofLine r.maxSeats text), { r with lineNumber := r.lineNumber + 1 })

theorem length_next_lt {r : ScriptReader} (h : r.rest ≠ []) :
    r.next.2.rest.length < r.rest.length := by
  have := length_cutLine_lt h
  unfold next
  rw [if_neg (by simpa using h)]
  dsimp only
  split <;> exact this

end ScriptReader

end BoxOffice
