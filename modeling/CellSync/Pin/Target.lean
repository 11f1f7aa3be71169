/-
What a pin points at.

A target is a tag, which is the name or the encoded identifier of a
cell, or a URL. `validate` checks the form only; which cell a target
means is the business of a directory.
-/
import CellSync.Code
import CellSync.Text.Blank

namespace CellSync

/-- What a pin points at. -/
inductive Target where
  /-- The name or the encoded identifier of a cell. -/
  | tag (name : String)
  /-- A locator `scheme://…`, opaque beyond its scheme. -/
  | url (locator : String)
deriving DecidableEq

namespace Target

/-- The largest size of a target in bytes. -/
def maxBytes : Nat := 2048

/-- The text before the first `://` and the text after it. -/
def splitScheme : List Char → Option (List Char × List Char)
  | ':' :: '/' :: '/' :: rest => some ([], rest)
  | c :: rest => (splitScheme rest).map fun (scheme, rest) => (c :: scheme, rest)
  | [] => none

/-- Whether a character may stand in a scheme. -/
def isSchemeChar (c : Char) : Bool := c.isAlphanum || c = '+' || c = '-' || c = '.'

/-- Whether a text is a scheme: a letter, then letters, digits and signs. -/
def isScheme : List Char → Bool
  | first :: rest => first.isAlpha && rest.all isSchemeChar
  | [] => false

/-- Whether a tag is well formed. -/
def isTag (name : String) : Bool :=
  !name.isEmpty && name.utf8ByteSize ≤ maxBytes && !Text.hasBlankOrControl name

/-- Whether a locator is well formed. -/
def isUrl (locator : String) : Bool :=
  locator.utf8ByteSize ≤ maxBytes && !Text.hasBlankOrControl locator &&
    match splitScheme locator.toList with
    | some (scheme, rest) => !rest.isEmpty && isScheme scheme
    | none => false

/-- Checks the form of a target. -/
def validate : Target → Except ErrorCode Unit
  | tag name => if isTag name then .ok () else .error .invalidTag
  | url locator => if isUrl locator then .ok () else .error .invalidUri

/-- A target in messages. -/
def display : Target → String
  | tag name => "tag:" ++ name
  | url locator => locator

end Target

end CellSync
