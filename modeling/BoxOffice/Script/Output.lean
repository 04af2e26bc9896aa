import BoxOffice.Fault
/-!
# Where a script's output goes

A script is a file whose extension is `jobs`; what it shows is written beside it, under the same path
with the extension `out`.
-/

namespace BoxOffice

def scriptExtension : List UInt8 := Text.Utf8.encode "jobs"

def outputExtension : List UInt8 := Text.Utf8.encode "out"

/-- The path of a script's output, if the script is called what a script has to be. -/
def outputPath (script : Path) : Except Fault Path :=
  if script.extension? = some scriptExtension then .ok (script.withExtension outputExtension)
  else .error (.scriptPath script)

end BoxOffice
