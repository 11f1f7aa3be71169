/-
Command lines: options, operands and commands within commands.

A command line is read level by level. On each level options come in any
order; the first word that is neither an option nor the value of one
names a command of the next level or, where there is none, is an
operand. Two dashes end the options. A word that asks for help or for
the version stops the reading, unless an option before it is already
known to be wrong.
-/
namespace CellSync.Command

/-- Why a command line is not run. -/
inductive Stop where
  /-- It cannot be understood. -/
  | usage
  /-- It asks for help, which is shown instead. -/
  | help
  /-- It asks for the version, which is shown instead. -/
  | version
deriving DecidableEq

/-- What an option takes. -/
inductive Taking where
  /-- Nothing. It is given at most once. -/
  | nothing
  /-- One value of a certain form. It is given at most once. -/
  | one (accepts : String → Bool)
  /-- One value, each time it is given. -/
  | many
  /-- Values with commas between them, each time it is given. -/
  | list

/-- An option. -/
structure Switch where
  name : String
  taking : Taking

/-- A level of the command line. -/
structure Level where
  switches : List Switch
  /-- The commands of the next level. -/
  commands : List String
  /-- How many operands there may be. -/
  operands : Nat
  /-- Whether the version can be asked for. -/
  versioned : Bool

-- ================================================================= words

/-- How a word begins. -/
inductive Word where
  /-- Two dashes and nothing else. -/
  | separator
  /-- Two dashes and a name, and perhaps an equals sign and a value. -/
  | long (name : String) (value : Option String)
  /-- One dash and a letter. -/
  | short (letter : Char)
  /-- Anything else, a single dash included. -/
  | plain

/-- How a word begins. -/
def Word.ofText (text : String) : Word :=
  match text.toList with
  | ['-', '-'] => .separator
  | '-' :: '-' :: cs =>
    .long (String.ofList (cs.takeWhile (· ≠ '='))) <|
      match cs.dropWhile (· ≠ '=') with
      | _ :: value => some (String.ofList value)
      | [] => none
  | '-' :: c :: _ => .short c
  | _ => .plain

-- ============================================================= arguments

/-- What has been given on a level. -/
structure Arguments where
  /-- The options with their values, in order. -/
  options : List (String × String) := []
  operands : List String := []
  /-- The last option, while its value is to come or is yet to be looked at. -/
  waiting : Option (Switch × Option String) := none

namespace Arguments

/-- Whether an option has been given. -/
def has (a : Arguments) (name : String) : Bool := (a.options.lookup name).isSome

/-- The values of an option, in order. -/
def all (a : Arguments) (name : String) : List String :=
  (a.options.filter fun (n, _) => n == name).map (·.2)

/-- Takes an option with a value. -/
def take (a : Arguments) (s : Switch) (value : String) : Except Stop Arguments :=
  let once (accepted : Bool) : Except Stop Arguments :=
    if a.has s.name || !accepted then .error .usage
    else .ok { a with options := a.options ++ [(s.name, value)] }
  match s.taking with
  | .nothing => once true
  | .one accepts => once (accepts value)
  | .many => .ok { a with options := a.options ++ [(s.name, value)] }
  | .list =>
    .ok { a with options := a.options ++ (value.splitOn ",").map fun v => (s.name, v) }

/-- Takes the option that is waiting. -/
def settle (a : Arguments) : Except Stop Arguments :=
  match a.waiting with
  | none => .ok a
  | some (_, none) => .error .usage
  | some (s, some value) => { a with waiting := none }.take s value

end Arguments

-- ================================================================ levels

namespace Level

/-- Shows something instead, unless the option before is wrong. -/
def instead (a : Arguments) (what : Stop) : Except Stop Arguments :=
  a.settle.bind fun _ => .error what

/-- Takes a long option. -/
def takeLong (level : Level) (a : Arguments) (name : String) (value : Option String) :
    Except Stop Arguments :=
  if name = "help" then if value.isSome then .error .usage else instead a .help
  else if name = "version" ∧ level.versioned then
    if value.isSome then .error .usage else instead a .version
  else
    match level.switches.find? fun s => s.name == name with
    | none => .error .usage
    | some s =>
      match a.settle with
      | .error stop => .error stop
      | .ok a =>
        match s.taking, value with
        | .nothing, some _ => .error .usage
        | .nothing, none => a.take s ""
        | _, some value => a.take s value
        | _, none => .ok { a with waiting := some (s, none) }

/-- Takes a short option. -/
def takeShort (level : Level) (a : Arguments) (letter : Char) : Except Stop Arguments :=
  if letter = 'h' then instead a .help
  else if letter = 'V' ∧ level.versioned then instead a .version
  else .error .usage

/-- Takes an operand. -/
def takeOperand (level : Level) (a : Arguments) (word : String) : Except Stop Arguments :=
  match a.settle with
  | .error stop => .error stop
  | .ok a =>
    if a.operands.length < level.operands then .ok { a with operands := a.operands ++ [word] }
    else .error .usage

/-- What a level gives: its arguments, and the command that was named with the
words after it. -/
abbrev Reading := Arguments × Option (String × List String)

/-- Reads a level. The option that comes last is not looked at yet. -/
def read (level : Level) : Bool → Arguments → List String → Except Stop Reading
  | _, a, [] => .ok (a, none)
  | true, a, word :: rest => do read level true (← level.takeOperand a word) rest
  | false, a, word :: rest =>
    match Word.ofText word with
    | .separator => read level true a rest
    | .long name value => do read level false (← level.takeLong a name value) rest
    | .short letter => do read level false (← level.takeShort a letter) rest
    | .plain =>
      match a.waiting with
      | some (s, none) => read level false { a with waiting := some (s, some word) } rest
      | _ =>
        if level.commands.contains word then .ok (a, some (word, rest))
        else do read level false (← level.takeOperand a word) rest

end Level

end CellSync.Command
