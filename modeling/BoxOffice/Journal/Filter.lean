import BoxOffice.Pattern
/-!
# What goes into the log

A text says how much of what is noted down goes into the log: rules, with commas between them, and
perhaps a pattern behind a slash.  A rule says how much detail is wanted, of everything or of one part
of the program.  A rule or a pattern that cannot be read is left out, and is complained of;
`Filter.ofText` gives the filter and the complaints.
-/

namespace BoxOffice

inductive Detail where
  | off
  | error
  | warn
  | info
  | debug
  | trace
  deriving DecidableEq, Repr

def Detail.named : List (String × Detail) :=
  [("OFF", .off), ("ERROR", .error), ("WARN", .warn), ("INFO", .info), ("DEBUG", .debug),
    ("TRACE", .trace)]

/-- The detail with a name, however its ASCII letters are written. -/
def Detail.ofName? (name : List Char) : Option Detail :=
  Detail.named.lookup (.ofList (name.map Char.toUpper))

/-- How much is wanted of one part of the program, or of all of it. -/
structure FilterRule where
  part : Option String
  detail : Detail
  deriving DecidableEq, Repr

inductive FilterFault where
  /-- A rule, or what it says about the detail. -/
  | rule (text : String)
  /-- The whole text, because it has more than one slash. -/
  | slashes (text : String)
  | pattern (text : String) (fault : Pattern.Fault)
  deriving DecidableEq, Repr

def FilterFault.message : FilterFault → String
  | .rule text => s!"invalid logging spec '{text}'"
  | .slashes text => s!"invalid logging spec '{text}' (too many '/'s)"
  | .pattern text fault => s!"invalid regex filter - {fault.text text}"

def FilterFault.warning (f : FilterFault) : String := s!"warning: {f.message}, ignoring it\n"

structure Filter where
  rules : List FilterRule := []
  /-- What has to occur in a note. -/
  pattern : Option String := none
  deriving DecidableEq, Repr

namespace Filter

def rule (text : List Char) : Except FilterFault FilterRule :=
  match text.splitOn '=' with
  | [single] =>
    match Detail.ofName? single with
    | some detail => .ok { part := none, detail }
    | none => .ok { part := some (.ofList single), detail := .trace }
  | [part, detail] =>
    let detail := Text.trim detail
    if detail.isEmpty then .ok { part := some (.ofList part), detail := .trace }
    else match Detail.ofName? detail with
      | some detail => .ok { part := some (.ofList part), detail }
      | none => .error (.rule (.ofList detail))
  | _ => .error (.rule (.ofList text))

/-- The rules that stand between commas, empty ones left out. -/
def listed (text : List Char) : List (Except FilterFault FilterRule) :=
  (((text.splitOn ',').map Text.trim).filter (!·.isEmpty)).map rule

/-- The pattern that a text says, and what is wrong with it. -/
def searched (text : String) : Option String × List FilterFault :=
  match Pattern.fault? text with
  | none => (some text, [])
  | some fault => (none, [.pattern text fault])

/-- The filter that a text says, and what of the text could not be read. -/
def ofText (text : String) : Filter × List FilterFault :=
  match text.toList.splitOn '/' with
  | [] => ({}, [])
  | [front] => said (listed front) (none, [])
  | [front, back] => said (listed front) (searched (.ofList back))
  | _ => ({}, [.slashes text])
where
  /-- The filter of some rules and perhaps a pattern. -/
  said (read : List (Except FilterFault FilterRule)) (back : Option String × List FilterFault) :
      Filter × List FilterFault :=
    let faults := read.filterMap fun
      | .error fault => some fault
      | .ok _ => none
    ({ rules := read.filterMap (·.toOption), pattern := back.1 }, faults ++ back.2)

end Filter

end BoxOffice
