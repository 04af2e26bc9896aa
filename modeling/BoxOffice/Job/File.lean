import BoxOffice.Directory
import BoxOffice.Job.Basic
import BoxOffice.Script.Output
/-!
# Jobs from files

A job whose script is a file of the directory writes its output beside the script.  The output is
made before the script's first line is read, and holds what the job wrote however the job ended.  A
script that is not called what a script has to be, or that is not there, leaves the directory as
it was.
-/

namespace BoxOffice

structure FileJob (σ : Type) where
  /-- The path of the output, and the counts. -/
  result : Except Fault (Path × JobSummary)
  office : σ
  directory : Directory
  record : JobRecord := {}

def runFile {σ : Type} (desk : Desk σ) (maxSeats : UInt64) (script : Path) (office : σ)
    (directory : Directory) : FileJob σ :=
  match outputPath script with
  | .error fault => { result := .error fault, office, directory }
  | .ok output =>
    match directory.contents script with
    | .error why => { result := .error (.io why), office, directory }
    | .ok contents =>
      match directory.create output with
      | .error why => { result := .error (.io why), office, directory }
      | .ok (route, directory) =>
        match contents with
        | .error why => { result := .error (.io why), office, directory }
        | .ok rest =>
          let (result, job) := ({ office, reader := { rest, maxSeats } } : Job σ).run desk
          { result := result.map (output, ·)
            office := job.office
            directory := directory.overwrite route job.record.out.written
            record := job.record }

end BoxOffice
