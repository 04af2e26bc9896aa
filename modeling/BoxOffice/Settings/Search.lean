import BoxOffice.Settings.Document
/-!
# Where settings come from

Settings that are asked for by a path have to be there and to be readable.  Otherwise they come from
the first of some usual places where they can be read, and where there is none they are as usual.
-/

namespace BoxOffice

inductive SettingsFault where
  | unread (path : Path) (why : IoCause)
  | unparsed (path : Path)
  deriving DecidableEq, Repr

/-- What went wrong, the cause of each fault after it. -/
def SettingsFault.causes : SettingsFault → List String
  | .unread path why =>
    [s!"Failed to load config from {path.shown}", "Failed to read config file", why.message]
  | .unparsed path =>
    [s!"Failed to load config from {path.shown}", "Failed to parse config file"]

namespace Settings

/-- What can be read at a place: the bytes of a file, or why there are none. -/
abbrev Place := Except IoCause (List UInt8)

def textAt (place : Place) : Except IoCause String :=
  match place with
  | .error why => .error why
  | .ok bytes => (Text.Utf8.decode bytes).mapError fun _ => .notText

def at? (place : Place) : Option Settings := (textAt place).toOption.bind ofText?

def asked (path : Path) (place : Place) : Except SettingsFault Settings :=
  match textAt place with
  | .error why => .error (.unread path why)
  | .ok text =>
    match ofText? text with
    | none => .error (.unparsed path)
    | some s => .ok s

/-- The settings of the first place that has any. -/
def found (places : List Place) : Settings := (places.findSome? at?).getD {}

/-- The settings that are asked for, or else those that are found. -/
def load (asking : Option (Path × Place)) (places : List Place) : Except SettingsFault Settings :=
  match asking with
  | some (path, place) => asked path place
  | none => .ok (found places)

end Settings

end BoxOffice
