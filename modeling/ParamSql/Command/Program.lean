import ParamSql.Command.Report
import ParamSql.Command.Surroundings
import ParamSql.Document.Config
import ParamSql.Document.JsonReader
import ParamSql.Document.Schema
import ParamSql.Document.Statement
import ParamSql.Document.TomlReader
import ParamSql.Expression
import ParamSql.LogFilter

/-!
# The program

A request is carried out in surroundings that can read files and open databases.  First the configuration is
read, from the file that the request names or from the usual place, where it may be missing.
What the request or the surroundings say about the database counts more than the
configuration.

A file whose name ends in `.json` holds a JSON document, any other a TOML document.

## Main definitions

* `Program.carryOut`: what a request writes, and its exit status
-/

namespace ParamSql

namespace Program

open Document

/-- The name and version of the program. -/
def versionLine : String := "sqlq 0.3.0"

/-! ## Documents -/

/-- Whether a name ends in `.json`, with something before it. -/
def endsInJson (name : String) : Bool :=
  match name.toList.reverse with
  | 'n' :: 'o' :: 's' :: 'j' :: '.' :: _ :: _ => true
  | _ => false

/-- Whether a file holds a JSON document. -/
def isJson (path : String) : Bool :=
  ((Place.ofPath path).names.getLast?.map endsInJson).getD false

/-- Reads a document as its file says. -/
def decodeFile {α : Type} (d : Decoder α) (path text : String) : Except QueryError α :=
  (if isJson path then Json.decode d text else Toml.decode d text).mapError
    fun e => .serialization e.message

variable {m : Type → Type} [Monad m] {σ : Type}

/-- Loads a document from a file. -/
def load {α : Type} (s : Surroundings m σ) (d : Decoder α) (path : String) :
    m (Except String α) := do
  match ← s.read path with
  | .error cause => return .error ("reading " ++ path ++ ": " ++ cause)
  | .ok text => return (decodeFile d path text).mapError (·.withCause)

/-- Loads the configuration from a file. -/
def loadConfigFile (s : Surroundings m σ) (path : String) : m (Except QueryError Config) := do
  match ← s.read path with
  | .error cause => return .error (.io cause)
  | .ok text => return (Toml.decode Config.decoder text).mapError fun e => .config e.message

/-- Loads the configuration.  Only the usual file may be missing. -/
def loadConfig (s : Surroundings m σ) (path : Option String) : m (Except QueryError Config) := do
  match path, s.configFile with
  | some path, _ => loadConfigFile s path
  | none, none => return .ok {}
  | none, some path => if ← s.exists path then loadConfigFile s path else return .ok {}

/-! ## Commands -/

/-- Opens the database of a configuration. -/
def openDatabase (s : Surroundings m σ) (c : DatabaseConfig) : m (Except QueryError σ) := do
  match c.requireUrl with
  | .error e => return .error e
  | .ok url =>
    let options : ConnectOptions := ⟨c.readOnly, c.createIfMissing, max c.maxConnections 1⟩
    return (← s.connect url options).mapError (·.toQueryError)

/-- Closes the database at the end of what went well. -/
def closing (s : Surroundings m σ) (action : StateT σ m Report) : StateT σ m Report := do
  let report ← action
  if report.error.isNone then s.disconnect
  return report

/-- The statements of a file, run with values or only shown. -/
def runReport (s : Surroundings m σ) (c : Config) (statements : List Statement)
    (bindings : List String) (showOnly : Bool) (format : OutputFormat) : m Report := do
  let values := bindings.map Value.ofArgument
  if c.database.url.isSome && !showOnly then
    match ← openDatabase s c.database with
    | .error e => return .ofError e.withCause
    | .ok db =>
      let run := Report.ofAllotment s.connection.executor format (.ofList true statements values)
      (closing s run).run' db
  else
    let hint :=
      if showOnly then []
      else ["⚠ No database URL. Use --database-url or set SQLQ_DATABASE_URL"]
    return (Report.ofAllotmentShown (.ofList false statements values)).andThen (.ofLines hint)

/-- A predicate expression, explained. -/
def explainReport (expr : String) : Report :=
  match Expression.parse expr with
  | .error e => .ofError e.toQueryError.withCause
  | .ok p =>
    .ofLines (["Generated SQL:", "  " ++ p.whereClause, "", "Bind order:"] ++
      p.placeholderColumns.zipIdx.map fun (column, i) =>
        "  ?" ++ toString (i + 1) ++ " " ++ column)

/-- The statements of a schema, applied if that is asked for. -/
def schemaReport (s : Surroundings m σ) (c : Config) (schema : Schema) (drop apply : Bool) :
    m Report := do
  let texts := if drop then schema.dropSql true else schema.createSql true
  let applied : m Report := do
    if !apply then return {}
    match ← openDatabase s c.database with
    | .error e => return .ofError e.withCause
    | .ok db =>
      let run : StateT σ m Report := do
        match ← s.connection.executor.executeAll texts with
        | .error e => return .ofError e.withCause
        | .ok () => return .ofLines ["✓ " ++ toString texts.length ++ " statement(s) applied"]
      (closing s run).run' db
  return (Report.ofLines texts).andThen (← applied)

/-- Carries out a command under a configuration. -/
def commandReport (s : Surroundings m σ) (c : Config) : Command → m Report
  | .run file bindings showOnly format => do
    match ← load s Statement.fileDecoder file with
    | .error message => return .ofError message
    | .ok statements => runReport s c statements bindings showOnly format
  | .explain expr => return explainReport expr
  | .schema file drop apply => do
    match ← load s Schema.decoder file with
    | .error message => return .ofError message
    | .ok schema => schemaReport s c schema drop apply

/-- The configuration with the database that the request or the surroundings name. -/
def withDatabase (s : Surroundings m σ) (i : Invocation) (c : Config) : Config :=
  match i.databaseUrl.or s.databaseUrl with
  | some url => { c with database := c.database.withUrl url }
  | none => c

/-- Carries out an invocation. -/
def invocationReport (s : Surroundings m σ) (i : Invocation) : m Report := do
  match ← loadConfig s i.configFile with
  | .error e => return .ofError ("loading config: " ++ e.withCause)
  | .ok c =>
    -- a verbose run does not read the log level
    if !i.verbose && !LogFilter.isWellFormed c.logLevel then
      return .ofError "invalid log level: invalid filter directive"
    else commandReport s (withDatabase s i c) i.command

/-- Carries out a request.  A command line that is not well formed has the status 2. -/
def carryOut (s : Surroundings m σ) (args : List String) : m (Report × Nat) := do
  match Request.ofArguments args with
  | .invoke i =>
    let r ← invocationReport s i
    return (r, r.status)
  | .version => return (.ofLines [versionLine], 0)
  | .help => return ({}, 0)
  | .misuse => return ({}, 2)

end Program

end ParamSql
