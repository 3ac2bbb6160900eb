/-!
# Invocations

The words of a command line, read as a command with its options.  An option is written with
two hyphens and its name, or with one hyphen and its letter; letters can be joined, and a value
may follow in the same word.  An option is given once, except for values to bind, which are
collected.  A word that begins with a hyphen is never a value by itself.  After `--` no word is
an option.

Options that concern every command stand before or behind the command; behind it they count more.

## Main definitions

* `Command`, `Invocation`, `Request`
* `Request.ofArguments`
-/

namespace ParamSql

/-- How rows are written. -/
inductive OutputFormat where
  | table
  | json
deriving Repr, DecidableEq, Inhabited

/-- What is to be done. -/
inductive Command where
  /-- write the statements of a file, and run them unless they are only to be shown -/
  | run (file : String) (bindings : List String) (showOnly : Bool) (format : OutputFormat)
  /-- explain a predicate expression -/
  | explain (expr : String)
  /-- write the statements that create or drop a schema, and run them if asked to -/
  | schema (file : String) (drop apply : Bool)
deriving Repr, DecidableEq, Inhabited

/-- A command with the options that concern every command. -/
structure Invocation where
  configFile : Option String := none
  databaseUrl : Option String := none
  verbose : Bool := false
  command : Command
deriving Repr, DecidableEq, Inhabited

/-- What a command line asks for. -/
inductive Request where
  | invoke (i : Invocation)
  | version
  | help
  /-- the command line is not well formed -/
  | misuse
deriving Repr, DecidableEq, Inhabited

/-! ## Words -/

/-- An option by its meaning. -/
inductive OptionName where
  | config
  | databaseUrl
  | verbose
  | version
  | help
  | bind
  | showOnly
  | format
  | drop
  | apply
deriving Repr, DecidableEq, Inhabited

namespace OptionName

/-- The name behind two hyphens. -/
def long : OptionName → String
  | config => "config"
  | databaseUrl => "database-url"
  | verbose => "verbose"
  | version => "version"
  | help => "help"
  | bind => "bind"
  | showOnly => "dry-run"
  | format => "format"
  | drop => "drop"
  | apply => "apply"

/-- The letter behind one hyphen. -/
def letter? : OptionName → Option Char
  | config => some 'c'
  | verbose => some 'v'
  | version => some 'V'
  | help => some 'h'
  | bind => some 'b'
  | showOnly => some 'd'
  | format => some 'f'
  | _ => none

/-- Whether a value belongs to the option. -/
def takesValue : OptionName → Bool
  | config => true
  | databaseUrl => true
  | bind => true
  | format => true
  | _ => false

/-- Whether the option may be given more than once. -/
def isCollected : OptionName → Bool
  | bind => true
  | _ => false

end OptionName

/-- An option with its value, or a word that is no option. -/
inductive Item where
  | option (name : OptionName) (value : String)
  | word (s : String)
deriving Repr, DecidableEq, Inhabited

namespace Item

/-- Whether a word can be a value by itself. -/
def isPlain (s : String) : Bool :=
  match s.toList with
  | '-' :: _ :: _ => false
  | _ => true

/-- Splits a text at its first equals sign. -/
def splitEquals (cs : List Char) : List Char × Option (List Char) :=
  match cs.dropWhile (· != '=') with
  | _ :: value => (cs.takeWhile (· != '='), some value)
  | [] => (cs, none)

/-- The option that a word with two hyphens is, with the words that it leaves. -/
def ofLong? (names : List OptionName) (cs : List Char) (rest : List String) :
    Option (Item × List String) := do
  let (name, value?) := splitEquals cs
  let o ← names.find? fun o => o.long.toList == name
  match o.takesValue, value?, rest with
  | true, some value, _ => return (option o (String.ofList value), rest)
  | true, none, value :: rest => if isPlain value then return (option o value, rest) else none
  | true, none, [] => none
  | false, some _, _ => none
  | false, none, _ => return (option o "", rest)

/-- The options that joined letters are, with the words that they leave. -/
def ofLetters? (names : List OptionName) : List Char → List String →
    Option (List Item × List String)
  | [], rest => some ([], rest)
  | c :: cs, rest => do
    let o ← names.find? (·.letter? == some c)
    if o.takesValue then
      -- the letters behind it are its value, or else the next word is
      match cs, rest with
      | '=' :: value, _ => return ([option o (String.ofList value)], rest)
      | _ :: _, _ => return ([option o (String.ofList cs)], rest)
      | [], value :: rest => if isPlain value then return ([option o value], rest) else none
      | [], [] => none
    else
      let (items, rest) ← ofLetters? names cs rest
      return (option o "" :: items, rest)

/-- The first items of a command line, with the words that they leave. -/
def next? (names : List OptionName) (s : String) (rest : List String) :
    Option (List Item × List String) :=
  match s.toList with
  | '-' :: '-' :: [] => some (rest.map word, [])
  | '-' :: '-' :: cs => (ofLong? names cs rest).map fun (item, rest) => ([item], rest)
  | '-' :: c :: cs => ofLetters? names (c :: cs) rest
  | _ => some ([word s], rest)

end Item

/-! ## Commands -/

/-- The options that were given, and the other words. -/
structure Given where
  options : List (OptionName × String) := []
  words : List String := []
deriving Repr, Inhabited

namespace Given

/-- The value of an option. -/
def value? (g : Given) (o : OptionName) : Option String :=
  (g.options.find? (·.1 == o)).map (·.2)

/-- Whether an option is given. -/
def has (g : Given) (o : OptionName) : Bool := (g.value? o).isSome

/-- The values of an option. -/
def values (g : Given) (o : OptionName) : List String :=
  (g.options.filter (·.1 == o)).map (·.2)

/-- Adds an item, unless its option is given already. -/
def add? (g : Given) : Item → Option Given
  | .word s => some { g with words := g.words ++ [s] }
  | .option o value =>
    if g.has o && !o.isCollected then none
    else some { g with options := g.options ++ [(o, value)] }

end Given

/-- A command by its name. -/
inductive CommandName where
  | run
  | explain
  | schema
deriving Repr, DecidableEq, Inhabited

namespace CommandName

def word : CommandName → String
  | run => "run"
  | explain => "where"
  | schema => "schema"

def ofWord? (s : String) : Option CommandName := [run, explain, schema].find? (·.word == s)

end CommandName

namespace Request

/-- The options that concern every command. -/
def globalOptions : List OptionName := [.config, .databaseUrl, .verbose, .help]

/-- The options in front of the command. -/
def leadingOptions : List OptionName := .version :: globalOptions

/-- The options behind a command. -/
def optionsOf : CommandName → List OptionName
  | .run => [.bind, .showOnly, .format] ++ globalOptions
  | .explain => globalOptions
  | .schema => [.drop, .apply] ++ globalOptions

/-- What an option asks for at once. -/
def atOnce? : Item → Option Request
  | .option .help _ => some .help
  | .option .version _ => some .version
  | _ => none

/-- How rows are to be written. -/
def format? (g : Given) : Option OutputFormat :=
  match g.value? .format with
  | none => some .table
  | some "table" => some .table
  | some "json" => some .json
  | some _ => none

/-- The parts of a text between commas. -/
def betweenCommas : List Char → List (List Char)
  | [] => [[]]
  | ',' :: cs => [] :: betweenCommas cs
  | c :: cs =>
    match betweenCommas cs with
    | part :: parts => (c :: part) :: parts
    | [] => [[c]]

/-- The values to bind that a word lists. -/
def bindingsOf (s : String) : List String := (betweenCommas s.toList).map String.ofList

/-- The name of a file is not empty. -/
def fileName? (s : String) : Option String := if s.isEmpty then none else some s

/-- The command that is given. -/
def command? (name : CommandName) (g : Given) : Option Command :=
  match name, g.words with
  | .run, [file] => do
    let file ← fileName? file
    let format ← format? g
    return .run file ((g.values .bind).flatMap bindingsOf) (g.has .showOnly) format
  | .explain, [expr] => some (.explain expr)
  | .schema, [file] => do
    let file ← fileName? file
    return .schema file (g.has .drop) (g.has .apply)
  | _, _ => none

/-- Whether the name of the configuration file, if one is given, is a name. -/
def configIsNamed (g : Given) : Bool := (g.value? .config).all (!·.isEmpty)

/-- The invocation of a command with options in front of it and behind it. -/
def invocation? (leading : Given) (name : CommandName) (g : Given) : Option Invocation := do
  let command ← command? name g
  if configIsNamed leading && configIsNamed g then
    return {
      configFile := (g.value? .config).or (leading.value? .config)
      databaseUrl := (g.value? .databaseUrl).or (leading.value? .databaseUrl)
      verbose := g.has .verbose || leading.has .verbose
      command := command }
  else none

/-- Adds items until one asks for something at once. -/
def addAll (g : Given) : List Item → Except Request Given
  | [] => .ok g
  | item :: items =>
    match atOnce? item, g.add? item with
    | some request, _ => .error request
    | none, some g => addAll g items
    | none, none => .error .misuse

/-- Reads the words behind a command, at most so many. -/
def readCommand (leading : Given) (name : CommandName) : Nat → Given → List String → Request
  | 0, _, _ => .misuse
  | _, g, [] => ((invocation? leading name g).map .invoke).getD .misuse
  | n + 1, g, s :: rest =>
    match Item.next? (optionsOf name) s rest with
    | none => .misuse
    | some (items, rest) =>
      match addAll g items with
      | .error request => request
      | .ok g => readCommand leading name n g rest

/-- Reads the words of a command line, at most so many. -/
def read : Nat → Given → List String → Request
  | 0, _, _ => .misuse
  | _, _, [] => .misuse
  | n + 1, g, s :: rest =>
    if s = "help" then .help
    else
      match CommandName.ofWord? s with
      | some name => readCommand g name (rest.length + 1) {} rest
      -- in front of the command there are options only
      | none =>
        match Item.isPlain s, Item.next? leadingOptions s rest with
        | true, _ => .misuse
        | _, none => .misuse
        | _, some (items, rest) =>
          match addAll g items with
          | .error request => request
          | .ok g => read n g rest

/-- What a command line asks for. -/
def ofArguments (args : List String) : Request := read (args.length + 1) {} args

end Request

end ParamSql
