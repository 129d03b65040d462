import CardBinder.CommandLine.Run

/-! The program: its files are those of the disk. -/

namespace CardBinder.Program

/-- The system's number for a path that goes through a file as if it were a folder. -/
def notFolderCode : UInt32 := 20

/-- The system's number for a name that is too long. -/
def longNameCode : UInt32 := 36

/-- What a failure of the system means. Some of its calls turn the sign of the number. -/
def problemOf : IO.Error → FileProblem
  | .noFileOrDirectory .. => .missing
  | .alreadyExists .. => .alreadyThere
  | .inappropriateType _ code _ =>
    if code = notFolderCode || -code = notFolderCode then .notFolder else .isFolder
  | .invalidArgument name code details =>
    if code = longNameCode || -code = longNameCode then .nameTooLong
    else .other (toString (IO.Error.invalidArgument name code details))
  | other => .other (toString other)

def reading (path : String) : IO (Except FileProblem String) := do
  try
    return .ok (← IO.FS.readFile path)
  catch failure =>
    return .error (problemOf failure)

/-- The text is complete before it takes the place of what was there. -/
def writing (path text : String) : IO (Except FileProblem Unit) := do
  let folder := FileAccess.folderOf path
  let draft := path ++ "." ++ toString (← IO.monoNanosNow) ++ ".tmp"
  try
    unless folder.isEmpty do IO.FS.createDirAll folder
    IO.FS.writeFile draft text
    IO.FS.rename draft path
    return .ok ()
  catch failure =>
    try IO.FS.removeFile draft catch _ => pure ()
    return .error (problemOf failure)

def disk : FileAccess IO where
  read := reading
  write := writing

/-- The folder of the collection that is used when none is named. -/
def usualFolder : IO (Option String) := do
  if let some folder ← IO.getEnv "SUTEKH_DATA" then return some folder
  if let some data ← IO.getEnv "XDG_DATA_HOME" then
    return some (FileAccess.inFolder data "sutekh")
  return (← IO.getEnv "HOME").map (FileAccess.inFolder · ".local/share/sutekh")

end CardBinder.Program

def main (args : List String) : IO UInt32 := do
  let t ← CardBinder.CommandLine.run CardBinder.Program.disk
    (← CardBinder.Program.usualFolder) args
  IO.print t.out
  IO.eprint t.err
  return t.code.toUInt32
