import BoxOffice.Office.Settings
/-!
# Settings

What can be set beforehand, for the office and for its clients.  What the command line says wins over
the settings.
-/

namespace BoxOffice

structure ClientSettings where
  order : ByteOrder := .native
  /-- The most seats that a line of a script may list. -/
  maxReservation : UInt64 := 256
  deriving DecidableEq, Repr

structure Settings where
  /-- How much is to be noted down. -/
  logLevel : Option String := some "info"
  office : OfficeSettings := {}
  client : ClientSettings := {}
  deriving DecidableEq, Repr

/-- The settings of the office at an endpoint; a delay that is asked for wins over the one that is
set. -/
def Settings.officeAt (s : Settings) (endpoint : Path) (delay : Option UInt64) : OfficeSettings :=
  { s.office with endpoint, accessDelay := delay.getD s.office.accessDelay }

end BoxOffice
