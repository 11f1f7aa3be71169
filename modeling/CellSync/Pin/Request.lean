/-
Requests to pin a target.

A request names a target, the attributes it wants, and how long it wants
to be told of them. On the wire it is a JSON object; attributes and mode
may be missing, unknown members are passed over, and the members may
also stand in order in an array.
-/
import CellSync.Json.Reader
import CellSync.Json.Writer
import CellSync.Pin.Target
import CellSync.TagId

namespace CellSync

-- ================================================================= modes

/-- How long a pin is told of changes. -/
inductive SyncMode where
  /-- Resolve the target and close; no state is sent. -/
  | none
  /-- Send the current state, then close. -/
  | closeOnSync
  /-- Send the current state, then every change until the pin is closed. -/
  | maintain
deriving DecidableEq

namespace SyncMode

/-- Every mode. -/
def all : List SyncMode := [none, closeOnSync, maintain]

/-- The name in text. -/
def name : SyncMode → String
  | none => "none" | closeOnSync => "close_on_sync" | maintain => "maintain"

/-- The mode with a name. -/
def ofName? (s : String) : Option SyncMode := all.find? fun m => m.name == s

/-- Reads a mode as people write it: hyphens are as good as underscores. -/
def parse (text : String) : Except String SyncMode :=
  match if text = "close-on-sync" then some closeOnSync else ofName? text with
  | some mode => .ok mode
  | _ => .error ("unknown sync mode '" ++ text ++ "'")

end SyncMode

-- ============================================================== requests

/-- A client's request to pin a target. -/
structure PinRequest where
  target : Target
  /-- The names of the wanted attributes; no name at all means every attribute. -/
  attrs : List String := []
  mode : SyncMode := .maintain
deriving DecidableEq

namespace PinRequest

/-- The identifiers of the wanted attributes. -/
def attrIds (r : PinRequest) : List TagId := r.attrs.map TagId.ofName

-- ================================================================== JSON

/-- A target in JSON. -/
def targetJson : Target → List UInt8
  | .tag name => Json.object [("tag", Json.string name)]
  | .url locator => Json.object [("url", Json.string locator)]

/-- A request in JSON. -/
def toJson (r : PinRequest) : List UInt8 :=
  Json.object [("target", targetJson r.target), ("attrs", Json.array (r.attrs.map Json.string)),
    ("mode", Json.string r.mode.name)]

/-- The target that a JSON value holds. -/
def targetOf? : Json.Value → Option Target
  | .object [(some "tag", .string (some name))] => some (.tag name)
  | .object [(some "url", .string (some locator))] => some (.url locator)
  | _ => none

/-- The attribute names that a JSON value holds. -/
def attrsOf? (v : Json.Value) : Option (List String) := do (← v.items?).mapM Json.Value.text?

/-- The request of a target and of the members that are there. -/
def build (target : Json.Value) (attrs mode : Option Json.Value) : Option PinRequest := do
  let target ← targetOf? target
  let attrs ← match attrs with
    | some v => attrsOf? v
    | none => some []
  let mode ← match mode with
    | some v => v.member? SyncMode.ofName?
    | none => some .maintain
  pure ⟨target, attrs, mode⟩

/-- The request that a JSON value holds. -/
def ofValue? : Json.Value → Option PinRequest
  | .object members => do
    let members : Json.Members := members
    let target ← members.required "target"
    let attrs ← members.optional "attrs"
    let mode ← members.optional "mode"
    if members.keysAreText then build target attrs mode else none
  | .array [target] => build target none none
  | .array [target, attrs] => build target (some attrs) none
  | .array [target, attrs, mode] => build target (some attrs) (some mode)
  | _ => none

/-- The request that a JSON document holds. -/
def ofJson? (bs : List UInt8) : Option PinRequest := (Json.parse bs).bind ofValue?

end PinRequest

end CellSync
