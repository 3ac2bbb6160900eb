import ParamSql.Command.Program

/-!
# Command line

Runs the program on the files of the system, with databases that are kept in memory.

## Main definitions

* `main`
-/

namespace ParamSql

/-- Why a file cannot be read, in the words of the system. -/
def readingFailure : IO.Error → String
  | .noFileOrDirectory .. => "No such file or directory (os error 2)"
  | .permissionDenied .. => "Permission denied (os error 13)"
  | .inappropriateType .. => "Is a directory (os error 21)"
  | e => toString e

/-- Whether anything is at a path of the system. -/
def isThere (path : String) : IO Bool := do
  try
    let _ ← IO.FS.readFile path
    return true
  catch
    | .noFileOrDirectory .. => return false
    | _ => return true

/-- Opens the database of an address.  The contents of a database file are not read. -/
def openAddress (url : String) (o : ConnectOptions) : IO (Except OpeningFailure Database) := do
  let name := Database.addressName url
  if name = Database.memoryName then return .ok {}
  try
    if o.createIfMissing && !o.readOnly && !(← isThere name) then IO.FS.writeFile name ""
    return .ok (if (← IO.FS.readFile name).isEmpty then {} else .unreadable)
  catch _ => return .error (.connection Directory.openingMessage)

/-- The files of the system. -/
def systemSurroundings : IO (Surroundings IO Database) := do
  let home ← IO.getEnv "HOME"
  let configHome := (← IO.getEnv "XDG_CONFIG_HOME").or (home.map (· ++ "/.config"))
  return {
    read := fun path => do
      try return .ok (← IO.FS.readFile path)
      catch e => return .error (readingFailure e)
    «exists» := isThere
    connect := openAddress
    connection := Database.connection
    disconnect := modify (·.close)
    configFile := configHome.map (· ++ "/sqlq/config.toml")
    databaseUrl := ← IO.getEnv "SQLQ_DATABASE_URL" }

end ParamSql

open ParamSql in
/-- Runs the program with the words of the command line. -/
def main (args : List String) : IO UInt32 := do
  let (report, status) ← Program.carryOut (← systemSurroundings) args
  IO.print report.output
  match report.errorOutput? with
  | some text => IO.eprint text
  | none => pure ()
  return UInt32.ofNat status
