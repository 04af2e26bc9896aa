import BoxOffice.Seating.Event
/-!
# Listings

What people get to read: a grid has a line for each row, with the markers of the row in decimal and a
space between them; a list of events has a line for each event; a dump has both.
-/

namespace BoxOffice.Listing

def markerText (n : UInt32) : String := toString n.toNat

/-- The line of one row. -/
def rowText (markers : List UInt32) : String :=
  " ".intercalate (markers.map markerText) ++ "\n"

/-- The text with the lines of at most `rows` rows of `cols` markers at its end. -/
def gridAfter (text : String) (cols : Nat) : Nat → List UInt32 → String
  | 0, _ => text
  | rows + 1, markers =>
    if markers.isEmpty then text
    else gridAfter (text ++ rowText (markers.take cols)) cols rows (markers.drop cols)

/-- A grid whose markers are given in row-major order. -/
def gridText (rows cols : UInt64) (markers : List UInt32) : String :=
  if cols = 0 then "" else gridAfter "" cols.toNat rows.toNat markers

def noEvents : String := "No events\n"

def eventLine (id : UInt32) : String := s!"Event: {id}\n"

/-- The events by their identifiers. -/
def listText (ids : List UInt32) : String :=
  if ids.isEmpty then noEvents else String.join (ids.map eventLine)

def eventText (s : Snapshot) : String := eventLine s.id ++ gridText s.rows s.cols s.markers

def dumpText (events : List Snapshot) : String :=
  if events.isEmpty then noEvents else String.join (events.map eventText)

end BoxOffice.Listing
