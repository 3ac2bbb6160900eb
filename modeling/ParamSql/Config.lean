import ParamSql.Error

/-!
# Configuration

Which database to open and how, and how much to report.

## Main definitions

* `DatabaseConfig` with its setters, `DatabaseConfig.requireUrl`
* `Config`
-/

namespace ParamSql

/-- Which database to open, and how. -/
structure DatabaseConfig where
  /-- where the database is; without it nothing can be run -/
  url : Option String := none
  readOnly : Bool := false
  createIfMissing : Bool := true
  maxConnections : UInt32 := 5
deriving Repr, DecidableEq, Inhabited

namespace DatabaseConfig

def withUrl (c : DatabaseConfig) (url : String) : DatabaseConfig := { c with url := some url }

def withReadOnly (c : DatabaseConfig) (flag : Bool) : DatabaseConfig := { c with readOnly := flag }

def withCreateIfMissing (c : DatabaseConfig) (flag : Bool) : DatabaseConfig :=
  { c with createIfMissing := flag }

def withMaxConnections (c : DatabaseConfig) (n : UInt32) : DatabaseConfig :=
  { c with maxConnections := n }

/-- The database to open; it is an error not to name one. -/
def requireUrl (c : DatabaseConfig) : Except QueryError String :=
  match c.url with
  | some url => .ok url
  | none => .error (.config "no database url configured")

end DatabaseConfig

/-- The whole configuration. -/
structure Config where
  database : DatabaseConfig := {}
  logLevel : String := "warn"
deriving Repr, DecidableEq, Inhabited

end ParamSql
