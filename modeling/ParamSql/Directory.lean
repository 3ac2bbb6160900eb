import ParamSql.Error

/-!
# Directories

A directory with everything below it, as a value, and what happens to database files
in it.  A database file may have three siblings, which belong to it and are removed
with it.  How long names may be is up to the directory.

## Main definitions

* `Directory`, `Place`, `Directory.find`
* `Directory.touch`, `Directory.makeDirectory`, `Directory.removeFile`
* `Directory.openDatabase`, `Directory.removeDatabase`
-/

namespace ParamSql

/-- What an entry of a directory is. -/
inductive EntryKind where
  | file
  | directory
deriving Repr, DecidableEq, Inhabited

/-- A place below a directory. -/
structure Place where
  /-- the names on the way to it -/
  names : List String
  /-- the place is written with a slash at its end, and means a directory -/
  closed : Bool := false
deriving Repr, DecidableEq, Inhabited

/-- The place that a path means. -/
def Place.ofPath (path : String) : Place :=
  let parts := path.splitToList (· == '/')
  ⟨parts.filter (fun name => name != "" && name != "."),
    parts.length > 1 && (parts.getLast?.getD "") == ""⟩

/-- A directory: everything below it, under the names on the way to it. -/
structure Directory where
  entries : List (List String × EntryKind) := []
  /-- how many bytes a name may have, if there is a limit -/
  nameLimit : Option Nat := none
deriving Repr, DecidableEq, Inhabited

/-- What is found at a place. -/
inductive Finding where
  | file
  | directory
  | nothing
  /-- something that is no directory is in the way -/
  | blocked
  /-- there cannot be a name as long as one on the way -/
  | tooLong
deriving Repr, DecidableEq, Inhabited

namespace Directory

/-- The entry under these names. -/
def entry? (d : Directory) (names : List String) : Option EntryKind :=
  (d.entries.find? (·.1 == names)).map (·.2)

/-- Whether a name is not too long. -/
def admits (d : Directory) (name : String) : Bool := d.nameLimit.all (name.utf8ByteSize ≤ ·)

/-- Follows names from a directory on. -/
def follow (d : Directory) : List String → List String → Finding
  | _, [] => .directory
  | way, name :: rest =>
    if !d.admits name then .tooLong
    else
      match d.entry? (way ++ [name]) with
      | none => .nothing
      | some .directory => follow d (way ++ [name]) rest
      | some .file => if rest.isEmpty then .file else .blocked

/-- What is found at a place. -/
def find (d : Directory) (p : Place) : Finding :=
  match d.follow [] p.names with
  | .file => if p.closed then .blocked else .file
  | other => other

/-- Whether anything is found at a path. -/
def «exists» (d : Directory) (path : String) : Bool :=
  match d.find (Place.ofPath path) with
  | .file => true
  | .directory => true
  | _ => false

/-- Adds an entry whose directory is there and which is not there itself; nothing
otherwise. -/
def add? (d : Directory) (names : List String) (kind : EntryKind) : Option Directory :=
  if d.follow [] names = .nothing ∧ d.follow [] names.dropLast = .directory then
    some { d with entries := d.entries ++ [(names, kind)] }
  else none

/-- Makes sure that there is a file; nothing when there cannot be one. -/
def touch (d : Directory) (path : String) : Option Directory :=
  let p := Place.ofPath path
  match d.find p with
  | .file => some d
  | .nothing => if p.closed then none else d.add? p.names .file
  | _ => none

/-- Makes a directory; nothing when there is something already or its directory is missing. -/
def makeDirectory (d : Directory) (path : String) : Option Directory :=
  d.add? (Place.ofPath path).names .directory

/-- Removes a file.  A missing one is no error. -/
def removeFile (d : Directory) (path : String) : Except QueryError Directory :=
  let p := Place.ofPath path
  match d.find p with
  | .file => .ok { d with entries := d.entries.filter (·.1 != p.names) }
  | .nothing => .ok d
  | .directory => .error (.io "Is a directory (os error 21)")
  | .blocked => .error (.io "Not a directory (os error 20)")
  | .tooLong => .error (.io "File name too long (os error 36)")

/-- Removes files one after the other, up to the first that cannot be removed. -/
def removeFiles : List String → Directory → Except QueryError Unit × Directory
  | [], d => (.ok (), d)
  | path :: paths, d =>
    match d.removeFile path with
    | .error e => (.error e, d)
    | .ok d => removeFiles paths d

/-! ## Database files -/

/-- What is appended to the path of a database file for itself and its siblings. -/
def databaseSuffixes : List String := ["", "-wal", "-shm", "-journal"]

/-- Removes a database file and its siblings.  That the file is gone is checked at the end. -/
def removeDatabase (path : String) (d : Directory) : Except QueryError Unit × Directory :=
  match removeFiles (databaseSuffixes.map (path ++ ·)) d with
  | (.error e, d) => (.error e, d)
  | (.ok (), d) =>
    if d.exists path then (.error (.execution ("database file still exists: " ++ path)), d)
    else (.ok (), d)

/-- Why a database file cannot be opened. -/
def openingMessage : String :=
  "error returned from database: (code: 14) unable to open database file"

/-- Opens a database file.  One that is missing is created if that is asked for, but not
for reading only. -/
def openDatabase (path : String) (createIfMissing readOnly : Bool) (d : Directory) :
    Except QueryError Unit × Directory :=
  let refused : Except QueryError Unit × Directory := (.error (.connection openingMessage), d)
  match d.find (Place.ofPath path) with
  | .file => (.ok (), d)
  | .nothing =>
    if createIfMissing && !readOnly then
      match d.touch path with
      | some d => (.ok (), d)
      | none => refused
    else refused
  | _ => refused

/-- The names of the entries of the directory itself, sorted. -/
def names (d : Directory) : List String :=
  (d.entries.filterMap fun (names, _) =>
    match names with
    | [name] => some name
    | _ => none).mergeSort (· ≤ ·)

end Directory

end ParamSql
