import BoxOffice.Dispatch.Crowd
import BoxOffice.Main
import BoxOffice.Proofs.Seating.History
import BoxOffice.Proofs.Job.Link
import BoxOffice.Proofs.Session.Items
import BoxOffice.Proofs.Wire.Taken
import BoxOffice.Proofs.Wire.RoundTrip
import BoxOffice.Proofs.Dispatch.Course
import BoxOffice.Proofs.Seating.SharedStore
import BoxOffice.Proofs.Seating.Apart
import BoxOffice.Proofs.Dispatch.Waiting
import BoxOffice.Proofs.Seating.Numbers
import BoxOffice.Proofs.Session.Cut
import BoxOffice.Proofs.Session.Pieces
import BoxOffice.Proofs.Session.Unsent
import BoxOffice.Proofs.Office.Acceptor
import BoxOffice.Proofs.Seating.Outcome
import BoxOffice.Proofs.Seating.Opening
import BoxOffice.Proofs.Seating.Contention
import BoxOffice.Proofs.Text.Words
import BoxOffice.Proofs.Text.Numeral
import BoxOffice.Proofs.Text.Utf8
import BoxOffice.Proofs.Script.Grammar
import BoxOffice.Proofs.Script.Lines
import BoxOffice.Proofs.Job.Script
import BoxOffice.Proofs.Script.Transcript
import BoxOffice.Proofs.Wire.Names
import BoxOffice.Proofs.Wire.SeatCount
import BoxOffice.Proofs.Seating.Listing
import BoxOffice.Proofs.Stream.Writing
import BoxOffice.Proofs.Stream.Draining
import BoxOffice.Proofs.Wire.Fields
import BoxOffice.Proofs.Script.Output
import BoxOffice.Proofs.Seating.Places
import BoxOffice.Proofs.Wire.Message
import BoxOffice.Proofs.Session.Acts
