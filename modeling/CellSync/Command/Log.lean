/-
Log events and which of them are shown.

A filter is a list of directives, each a level for the events of some
modules, perhaps only those with certain fields or in a certain span; the
most particular one decides. An empty list lets only errors through.
-/
import CellSync.Json.Writer
import CellSync.Text.Blank
import CellSync.Text.Pattern

namespace CellSync.Command

-- ================================================================ events

/-- How urgent an event is. -/
inductive LogLevel where
  | error | warn | info | debug | trace
deriving DecidableEq

namespace LogLevel

/-- The names of the levels. -/
def names : List (String × LogLevel) :=
  [("error", .error), ("warn", .warn), ("info", .info), ("debug", .debug), ("trace", .trace)]

/-- How much a level lets through. -/
def verbosity : LogLevel → Nat
  | error => 1 | warn => 2 | info => 3 | debug => 4 | trace => 5

/-- The word for a level in a log. -/
def label : LogLevel → String
  | error => "ERROR" | warn => "WARN" | info => "INFO" | debug => "DEBUG" | trace => "TRACE"

end LogLevel

/-- The formats of a log. -/
inductive LogFormat where
  | text | json
deriving DecidableEq

/-- The names of the formats. -/
def LogFormat.names : List (String × LogFormat) := [("text", .text), ("json", .json)]

/-- Something that happened. -/
structure Event where
  level : LogLevel
  /-- The path of the module that reports it. -/
  source : String
  message : String
  fields : List (String × String)
deriving DecidableEq

/-- An event as a line of text, without its time. -/
def Event.text (e : Event) : String :=
  String.intercalate " "
    (e.level.label :: e.message :: e.fields.map fun (name, value) => name ++ "=" ++ value)

/-- The members of an event in JSON, without its time. -/
def Event.members (e : Event) : List (String × List UInt8) :=
  [("level", Json.string e.level.label),
   ("fields", Json.object (("message", Json.string e.message) ::
      e.fields.map fun (name, value) => (name, Json.string value)))]

/-- An event as JSON, without its time. -/
def Event.json (e : Event) : List UInt8 := Json.object e.members

/-- An event as a line of a log that tells the time. -/
def Event.line (e : Event) (time : String) : LogFormat → List UInt8
  | .text => Json.plain (time ++ " " ++ e.text)
  | .json => Json.object (("timestamp", Json.string time) :: e.members)

/-- The names of the fields of an event, of which its message is one. -/
def Event.names (e : Event) : List String := "message" :: e.fields.map Prod.fst

-- =============================================================== filters

/-- A field that an event or a span has to have, perhaps with a certain value. -/
structure FieldTest where
  name : String
  value : Option String
deriving DecidableEq

/-- How much of some events is shown. -/
structure Directive where
  /-- How the path of the module begins. -/
  source : String
  /-- The span in which the event happens. -/
  span : Option String
  fields : List FieldTest
  verbosity : Nat
deriving DecidableEq

namespace Directive

/-- A directive about all events. -/
def overall (verbosity : Nat) : Directive := ⟨"", none, [], verbosity⟩

/-- How much everything lets through. -/
def everything : Nat := LogLevel.trace.verbosity

/-- How much a name or a number in a directive lets through. -/
def verbosity? (text : String) : Option Nat :=
  match Text.natural? (Nat.pow 2 64) text with
  | some n => if n ≤ everything then some n else none
  | none =>
    let name := text.map Char.toLower
    if name = "off" then some 0 else (LogLevel.names.lookup name).map LogLevel.verbosity

end Directive

-- ------------------------------------------------- the text of a directive

/-- Whether a text with a plus sign in front is a number with a fraction or an
exponent, or one of the words for what is no finite number. -/
def isSignedNumber (text : String) : Bool :=
  match text.toList with
  | '+' :: cs =>
    let word := (String.ofList cs).map Char.toLower
    let whole := cs.takeWhile Char.isDigit
    let rest := cs.drop whole.length
    let fraction := if rest.head? = some '.' then (rest.drop 1).takeWhile Char.isDigit else []
    let rest := if rest.head? = some '.' then rest.drop (fraction.length + 1) else rest
    let exponent := match rest with
      | [] => true
      | e :: sign :: ds =>
        let ds := if sign = '+' ∨ sign = '-' then ds else sign :: ds
        e.toLower = 'e' && !ds.isEmpty && ds.all Char.isDigit
      | _ => false
    ["inf", "infinity", "nan"].contains word ||
      (!(whole.isEmpty && fraction.isEmpty) && exponent)
  | _ => false

/-- The test that a text spells: a name, or a name and a value with an equals
sign between them. The value is a number or else a pattern. -/
def FieldTest.parse? (text : String) : Option FieldTest :=
  match text.splitOn "=" with
  | name :: value :: _ =>
    if isSignedNumber value || Text.isPattern value then some ⟨name, some value⟩ else none
  | name :: _ => some ⟨name, none⟩
  | [] => none

/-- The characters that stand between two places, counted in bytes. -/
def between (start stop : Nat) : List Char → List Char
  | [] => []
  | c :: rest =>
    let others := between (start - c.utf8Size) (stop - c.utf8Size) rest
    if start = 0 ∧ 0 < stop then c :: others else others

/-- The part of a text between two places. -/
def cut (text : String) (start stop : Nat) : String :=
  String.ofList (between start stop text.toList)

/-- What is being read of a directive, and where that began. -/
inductive DirectivePart where
  | nothing
  | levelOrSource
  | span (start : Nat)
  | field (start : Nat)
  | afterField
  | afterSpan
  | level (start : Nat)
deriving DecidableEq

namespace DirectivePart

/-- Reads a character that stands at a place. The parts are cut out of `text`. -/
def read? (text : String) (d : Directive) (place : Nat) (c : Char) :
    DirectivePart → Option (Directive × DirectivePart)
  | nothing =>
    if c = '[' then some (d, span (place + 1))
    else if c = '-' || c = ':' || c = '_' || Text.isAlphanumeric c then some (d, levelOrSource)
    else none
  | levelOrSource =>
    if c = '=' then some ({ d with source := cut text 0 place }, level (place + 1))
    else if c = '[' then some ({ d with source := cut text 0 place }, span (place + 1))
    else some (d, levelOrSource)
  | span start =>
    let name := cut text start place
    if c = ']' then some ({ d with span := some name }, afterSpan)
    else if c = '\x7b' then
      some ({ d with span := if name = "" then none else some name }, field (place + 1))
    else some (d, span start)
  | field start =>
    let test := cut text start place
    if c ≠ '\x7d' then some (d, field start)
    else if test = "" then none
    else (FieldTest.parse? test).map fun test =>
      ({ d with fields := d.fields ++ [test] }, afterField)
  | afterField => if c = ']' then some (d, afterSpan) else none
  | afterSpan => if c = '=' then some (d, level (place + 1)) else none
  | level start => some (d, level start)

/-- The directive that is complete where the text ends. -/
def finish? (text : String) (d : Directive) : DirectivePart → Option Directive
  | levelOrSource =>
    match Directive.verbosity? text with
    | some verbosity => some { d with verbosity }
    | none => some { d with source := text }
  | level start =>
    let name := cut text start text.utf8ByteSize
    if name = "" then some d
    else (Directive.verbosity? name).map fun verbosity => { d with verbosity }
  | afterSpan => some d
  | _ => none

end DirectivePart

namespace Directive

/-- What is left of a directive to read from a place on. -/
def complete? (text : String) (d : Directive) (part : DirectivePart) (place : Nat) :
    List Char → Option Directive
  | [] => part.finish? text d
  | c :: rest =>
    (part.read? text d place c).bind fun (d, part) =>
      d.complete? text part (place + c.utf8Size) rest

/-- The directive that a text spells. Blanks at its ends are no part of it, but
the places of the parts are taken for places in the whole text, so that a blank
in front is found in its first part. -/
def parse? (text : String) : Option Directive :=
  (overall everything).complete? text .nothing 0 (Text.trimmed text).toList

/-- Whether a directive is about events wherever they happen and whatever their
fields hold. -/
def isOpen (d : Directive) : Bool := d.span.isNone && d.fields.all (·.value.isNone)

/-- Whether a directive is about an event. -/
def concerns (d : Directive) (e : Event) : Bool :=
  d.isOpen && e.source.startsWith d.source && d.fields.all (e.names.contains ·.name)

/-- How one directive compares with another about the same event: the one with
the longer beginning decides, then the one with more fields, then the one whose
fields come later in the alphabet. -/
def rank (d other : Directive) : Ordering :=
  ((compare d.source.utf8ByteSize other.source.utf8ByteSize).then
    (compare d.fields.length other.fields.length)).then
    (compare (d.fields.map FieldTest.name) (other.fields.map FieldTest.name))

end Directive

/-- Which events are shown. -/
abbrev LogFilter := List Directive

namespace LogFilter

/-- The filter that a text spells: directives with commas between them. -/
def parse? (text : String) : Option LogFilter :=
  let parts := (text.splitOn ",").filter (· ≠ "")
  if parts.isEmpty then some [.overall LogLevel.error.verbosity]
  else parts.mapM Directive.parse?

/-- The filter of the environment, or else that of a level. -/
def choose (text : Option String) (level : LogLevel) : LogFilter :=
  (text.bind parse?).getD [.overall level.verbosity]

/-- The directive about an event that decides; of several of the same rank, the
last. -/
def deciding? (f : LogFilter) (e : Event) : Option Directive :=
  (f.filter (·.concerns e)).foldl (fun best d =>
    match best with
    | some b => if d.rank b = .lt then some b else some d
    | none => some d) none

/-- Whether an event is shown. -/
def shows (f : LogFilter) (e : Event) : Bool :=
  (f.deciding? e).any fun d => e.level.verbosity ≤ d.verbosity

end LogFilter

end CellSync.Command
