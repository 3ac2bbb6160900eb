import ParamSql.Database.Session
import ParamSql.Directory

/-!
# Surroundings

What a program can see of the outside: the texts of files, the databases, and what is set for
it.  How files are read and what a database does is left open, so that they can be those of a
system or those of a list.

## Main definitions

* `ConnectOptions`, `OpeningFailure`
* `Surroundings`
* `Database.ofAddress`, `Surroundings.ofFiles`: databases that are kept in memory
-/

namespace ParamSql

/-- How a database is opened. -/
structure ConnectOptions where
  readOnly : Bool
  createIfMissing : Bool
  maxConnections : UInt32
deriving Repr, DecidableEq, Inhabited

/-- Why a database cannot be opened. -/
inductive OpeningFailure where
  /-- its address cannot be read -/
  | address (cause : Failure)
  /-- there is no connection to it -/
  | connection (message : String)
deriving Repr, DecidableEq, Inhabited

/-- The error that a failure to open a database means. -/
def OpeningFailure.toQueryError : OpeningFailure → QueryError
  | address cause => cause.toQueryError
  | connection message => .connection message

/-- What a program can see of the outside; `σ` is what it holds of an open database. -/
structure Surroundings (m : Type → Type) (σ : Type) where
  /-- the text of a file, or why it cannot be read -/
  read : String → m (Except String String)
  /-- whether anything is at a path -/
  «exists» : String → m Bool
  /-- opens the database at an address -/
  connect : String → ConnectOptions → m (Except OpeningFailure σ)
  /-- the connection to an open database -/
  connection : Connection (StateT σ m)
  /-- closes an open database -/
  disconnect : StateT σ m Unit
  /-- the usual place of the configuration -/
  configFile : Option String := none
  /-- the database to open -/
  databaseUrl : Option String := none

/-! ## Files of a list -/

namespace Directory

/-- The directory that holds files under these paths, with the directories on the way. -/
def ofFiles (paths : List String) : Directory :=
  { entries := paths.flatMap fun path =>
      let names := (Place.ofPath path).names
      ((List.range (names.length - 1)).map fun i => (names.take (i + 1), EntryKind.directory)) ++
        [(names, .file)] }

/-- Why the text of a path cannot be read, if there is none. -/
def unreadable? (d : Directory) (path : String) : Option String :=
  match d.find (Place.ofPath path) with
  | .file => none
  | .directory => some "Is a directory (os error 21)"
  | .nothing => some "No such file or directory (os error 2)"
  | .blocked => some "Not a directory (os error 20)"
  | .tooLong => some "File name too long (os error 36)"

end Directory

namespace Database

/-- The name of a database that has no file. -/
def memoryName : String := ":memory:"

/-- What an address names: what stands behind its scheme and in front of its parameters. -/
def addressName (url : String) : String :=
  let behind (scheme : String) (cs : List Char) : Option (List Char) :=
    if scheme.toList.isPrefixOf cs then some (cs.drop scheme.length) else none
  let cs := url.toList
  let name := ((behind "sqlite://" cs).or (behind "sqlite:" cs)).getD cs
  String.ofList (name.takeWhile (· != '?'))

/-- A database whose file holds something else. -/
def unreadable : Database :=
  { unusable := some (.database (some "26") "file is not a database") }

/-- Opens the database of an address: a new one in memory, or the one of a file, which is new
unless something stands in the file. -/
def ofAddress (d : Directory) (textAt : String → String) (url : String) (o : ConnectOptions) :
    Except OpeningFailure Database :=
  let name := addressName url
  if name = memoryName then .ok {}
  else
    match d.openDatabase name o.createIfMissing o.readOnly with
    | (.error _, _) => .error (.connection Directory.openingMessage)
    | (.ok (), opened) =>
      if opened = d && textAt name != "" then .ok unreadable else .ok {}

end Database

namespace Surroundings

/-- Surroundings in which the files are those of a list of paths and texts. -/
def ofFiles (files : List (String × String)) (configFile databaseUrl : Option String) :
    Surroundings Id Database :=
  let directory := Directory.ofFiles (files.map (·.1))
  let textAt (path : String) : String :=
    let names := (Place.ofPath path).names
    ((files.find? fun (other, _) => (Place.ofPath other).names == names).map (·.2)).getD ""
  { read := fun path =>
      match directory.unreadable? path with
      | some cause => .error cause
      | none => .ok (textAt path)
    «exists» := directory.exists
    connect := Database.ofAddress directory textAt
    connection := Database.connection
    disconnect := modify (·.close)
    configFile := configFile
    databaseUrl := databaseUrl }

end Surroundings

end ParamSql
