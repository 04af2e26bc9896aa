import BoxOffice.Dispatch.Queue
import BoxOffice.Seating.Store
import BoxOffice.Wire.Setup
/-!
# The settings of an office

An `OfficeSettings` says how an office is to be run.  Under settings by which nothing could ever be
reserved, or nobody ever be served, there is no office: `OfficeSettings.queue` refuses them.
-/

namespace BoxOffice

structure OfficeSettings where
  /-- The pipe where clients announce themselves. -/
  endpoint : Path := .ofString "/tmp/ems-server"
  /-- How many clients are served at the same time, and how many more may wait. -/
  workers : UInt64 := 8
  /-- How long a look-up in the store is made to last, in microseconds. -/
  accessDelay : UInt64 := 1
  /-- The most seats that a reservation may have. -/
  maxReservation : UInt64 := 256
  /-- The most seats that an event may have. -/
  maxEventSeats : UInt64 := defaultEventCap
  order : ByteOrder := .native
  deriving DecidableEq, Repr

namespace OfficeSettings

def store (s : OfficeSettings) : Store := .empty s.maxEventSeats s.accessDelay

/-- The queue of a new office, unless the settings make no sense. -/
def queue (s : OfficeSettings) : Except Fault (Queue Setup) :=
  if s.maxReservation = 0 then .error (.settings .noReservationSize)
  else Queue.new s.workers.toNat

end OfficeSettings

end BoxOffice
