/-
The commands and their options.

`Line.ofWords` reads a whole command line. Options about output and logs
may be given on every level; of two the inner one counts. Some options
can be given by the environment instead.
-/
import CellSync.Command.Arguments
import CellSync.Command.Log
import CellSync.Command.Output
import CellSync.Pin.Request
import CellSync.Text.Numeral
import CellSync.Transport.Address

namespace CellSync.Command

-- ============================================================== commands

/-- Serving cells from memory. -/
structure Serve where
  listen : String
  users : List String
  cells : List String
  mailboxCapacity : Nat
  loginTimeout : String
  maxAttempts : Nat
deriving DecidableEq

/-- How to reach a host and log in. -/
structure Connect where
  host : String
  user : String
  secret : String
  device : String
  timeout : String
deriving DecidableEq

/-- Following a cell. -/
structure Follow where
  connect : Connect
  request : PinRequest
  count : Option Nat

/-- Changing a cell. -/
structure Change where
  connect : Connect
  cell : String
  set : List String
  deleteAttrs : List String
  deleteCell : Bool
deriving DecidableEq

/-- What can be asked for. -/
inductive Task where
  | serve (options : Serve)
  | pin (options : Follow)
  | commit (options : Change)
  /-- A new identifier, of some content or of a random one. -/
  | tidNew (content : Option String)
  | tidInspect (text : String)
  | version (extended : Bool)

/-- A command line. -/
structure Line where
  format : Option Format
  logFormat : LogFormat
  logLevel : LogLevel
  task : Task

namespace Grammar

-- =============================================================== grammar

/-- An option with one of some names as its value. -/
def oneOf {α : Type} (name : String) (names : List (String × α)) : Switch :=
  ⟨name, .one fun value => (names.lookup value).isSome⟩

/-- An option with any text as its value. -/
def text (name : String) : Switch := ⟨name, .one fun _ => true⟩

/-- An option with a number as its value. -/
def number (name : String) (read? : String → Option Nat) : Switch :=
  ⟨name, .one fun value => (read? value).isSome⟩

/-- A count of things. -/
def count? : String → Option Nat := Text.natural? 0x10000000000000000

/-- A count of at most 32 bits. A minus sign may stand in front of zero. -/
def attempts? (value : String) : Option Nat :=
  match value.toList with
  | '-' :: cs => (Text.decimal? cs).filter (· = 0)
  | _ => Text.natural? 0x100000000 value

/-- The names of the modes. -/
def modes : List (String × SyncMode) :=
  [("none", .none), ("close-on-sync", .closeOnSync), ("maintain", .maintain)]

/-- The options of every level. -/
def everywhere : List Switch :=
  [oneOf "format" Format.names, oneOf "log-format" LogFormat.names,
   oneOf "log-level" LogLevel.names]

/-- The options of a command that connects. -/
def connecting : List Switch :=
  [text "host", text "user", text "secret", text "device", text "timeout"]

/-- The commands below a command. -/
def below : List String → List String
  | [] => ["serve", "pin", "commit", "tid", "version", "help"]
  | ["tid"] => ["new", "inspect", "help"]
  | _ => []

/-- The options of a command, and how many operands it takes. -/
def own : List String → List Switch × Nat
  | ["serve"] =>
    ([text "listen", ⟨"user", .list⟩, ⟨"cell", .list⟩, number "mailbox-capacity" count?,
      text "login-timeout", number "max-attempts" attempts?], 0)
  | ["pin"] =>
    (connecting ++ [⟨"url", .nothing⟩, ⟨"attr", .list⟩, oneOf "mode" modes,
      number "count" count?], 1)
  | ["commit"] =>
    (connecting ++ [⟨"set", .many⟩, ⟨"delete-attr", .many⟩, ⟨"delete-cell", .nothing⟩], 1)
  | ["tid", "new"] => ([text "content"], 0)
  | ["tid", "inspect"] => ([], 1)
  | ["version"] => ([⟨"extended", .nothing⟩], 0)
  | _ => ([], 0)

/-- The level of a command. -/
def level (path : List String) : Level :=
  ⟨everywhere ++ (own path).1, below path, (own path).2, path.isEmpty⟩

/-- Whether there is help on a command, named below another. -/
def explains (path : List String) : List String → Bool
  | [] => true
  | name :: rest => (below path).contains name && explains (path ++ [name]) rest

-- =============================================================== reading

/-- The command of some words and what was given on each level, the innermost
first. The option that ends an outer level is looked at after the inner one. -/
def descend : Nat → List String → List String → Except Stop (List String × List Arguments)
  | 0, _, _ => .error .usage
  | levels + 1, path, words => do
    let (here, next) ← (level path).read false {} words
    match next with
    | none =>
      if (below path).isEmpty then return (path, [← here.settle]) else throw .usage
    | some (name, rest) =>
      if name = "help" then throw (if explains path rest then .help else .usage)
      else
        let (path, inner) ← descend levels (path ++ [name]) rest
        return (path, inner ++ [← here.settle])

/-- The environment: the value of a variable, if it is set. -/
abbrev Environment := String → Option String

/-- A value that has to be there. -/
def required {α : Type} : Option α → Except Stop α
  | some a => .ok a
  | none => .error .usage

/-- The value of an option, or of the variable that stands for it. -/
def valueOr (env : Environment) (a : Arguments) (name stand : String) : Option String :=
  (a.options.lookup name).or (env stand)

/-- The value of an option, or a default. -/
def textOr (a : Arguments) (name default : String) : String :=
  (a.options.lookup name).getD default

/-- How to reach a host and log in. -/
def connect (env : Environment) (a : Arguments) : Except Stop Connect := do
  let user ← required (valueOr env a "user" "AMP_USER")
  let secret ← required (valueOr env a "secret" "AMP_SECRET")
  return ⟨(valueOr env a "host" "AMP_HOST").getD Place.defaultHost, user, secret,
    textOr a "device" "amp-cli", textOr a "timeout" "5s"⟩

/-- The command with some arguments. -/
def task (env : Environment) (path : List String) (a : Arguments) : Except Stop Task :=
  match path with
  | ["serve"] => do
    let given := a.all "user"
    let users ← if given.isEmpty then required ((env "AMP_USERS").map (·.splitOn ","))
      else pure given
    return .serve ⟨(valueOr env a "listen" "AMP_LISTEN").getD Place.defaultHost, users,
      a.all "cell", ((a.options.lookup "mailbox-capacity").bind count?).getD 1024,
      textOr a "login-timeout" "5s", ((a.options.lookup "max-attempts").bind attempts?).getD 3⟩
  | ["pin"] => do
    let connect ← connect env a
    let name ← required a.operands.head?
    let mode := ((a.options.lookup "mode").bind (modes.lookup ·)).getD .closeOnSync
    let target := if a.has "url" then Target.url name else .tag name
    return .pin ⟨connect, ⟨target, a.all "attr", mode⟩, (a.options.lookup "count").bind count?⟩
  | ["commit"] => do
    let connect ← connect env a
    let cell ← required a.operands.head?
    if a.has "delete-cell" && (a.has "set" || a.has "delete-attr") then throw .usage
    return .commit ⟨connect, cell, a.all "set", a.all "delete-attr", a.has "delete-cell"⟩
  | ["tid", "new"] => .ok (.tidNew (a.options.lookup "content"))
  | ["tid", "inspect"] => do return .tidInspect (← required a.operands.head?)
  | ["version"] => .ok (.version (a.has "extended"))
  | _ => .error .usage

/-- The value of an option that may be given on every level. -/
def inmost? {α : Type} (levels : List Arguments) (name : String) (names : List (String × α)) :
    Option α :=
  (levels.findSome? fun a => a.options.lookup name).bind (names.lookup ·)

end Grammar

/-- The command line of some words. -/
def Line.ofWords (env : Grammar.Environment) (words : List String) : Except Stop Line := do
  let (path, levels) ← Grammar.descend 3 [] words
  let task ← Grammar.task env path (levels.headD {})
  return ⟨Grammar.inmost? levels "format" Format.names,
    (Grammar.inmost? levels "log-format" LogFormat.names).getD .text,
    (Grammar.inmost? levels "log-level" LogLevel.names).getD .info, task⟩

/-- The command line of some words, where to ask for the version is to run the
command that shows it. -/
def Line.ofRequest (env : Grammar.Environment) (words : List String) : Except Stop Line :=
  match Line.ofWords env words with
  | .error .version => .ok ⟨none, .text, .info, .version false⟩
  | read => read

end CellSync.Command
