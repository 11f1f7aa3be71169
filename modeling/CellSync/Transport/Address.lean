/-
Socket addresses in text.

An address is an IP address and a port. `Address.parse?` reads the usual
notations: four decimal numbers, or eight groups of hexadecimal digits in
square brackets, of which one run of zeros may be left out and the last
two may be written as four decimal numbers. `Address.display` writes the
shortest such text. Any other text names a host and a port, or nothing.
-/
import CellSync.Text.Numeral
import CellSync.Text.Quoted
import CellSync.Transport.Error

namespace CellSync

/-- An IP address; one of the sixth version may be bound to a local scope. -/
inductive Ip where
  | v4 (octets : Octets 4)
  | v6 (octets : Octets 16) (scope : Nat)
deriving DecidableEq

/-- A socket address. -/
structure Address where
  ip : Ip
  port : Nat
deriving DecidableEq

namespace Ip

-- =============================================================== reading

/-- The number below `bound` that some characters begin with, of at most
`most` digits, and the characters after it. -/
def number? (base bound most : Nat) (cs : List Char) : Option (Nat × List Char) :=
  let (ds, rest) := Text.digitsOf base cs
  if ds.isEmpty || most < ds.length || bound ≤ Text.spelled base ds then none
  else some (Text.spelled base ds, rest)

/-- The decimal byte, without leading zeros, that some characters begin with. -/
def byte? (cs : List Char) : Option (Nat × List Char) := do
  let (value, rest) ← number? 10 256 3 cs
  if cs.head? = some '0' ∧ rest.length + 1 < cs.length then none else some (value, rest)

/-- The bytes, with dots between them, that some characters begin with. -/
def dotted? : Nat → List Char → Option (List Nat × List Char)
  | 0, cs => some ([], cs)
  | 1, cs => (byte? cs).map fun (value, rest) => ([value], rest)
  | count + 1, cs =>
    match byte? cs with
    | some (value, '.' :: rest) =>
      (dotted? count rest).map fun (values, rest) => (value :: values, rest)
    | _ => none

/-- The characters after the colon that stands before every group but the
first. -/
def afterColon? (first : Bool) (cs : List Char) : Option (List Char) :=
  match first, cs with
  | true, cs => some cs
  | false, ':' :: cs => some cs
  | false, _ => none

/-- The groups that some characters begin with, at most `most`: the groups,
whether the last two were written as four bytes, and the characters after
them. -/
def groups : Nat → Bool → List Char → List Nat × Bool × List Char
  | 0, _, cs => ([], false, cs)
  | most + 1, first, cs =>
    match afterColon? first cs with
    | none => ([], false, cs)
    | some inner =>
      match if most = 0 then none else dotted? 4 inner with
      | some (bytes, rest) =>
        ([ofDigits 256 (bytes.take 2), ofDigits 256 (bytes.drop 2)], true, rest)
      | none =>
        match number? 16 65536 4 inner with
        | some (group, rest) =>
          let (more, bytes, rest) := groups most false rest
          (group :: more, bytes, rest)
        | none => ([], false, cs)

/-- The eight groups that some characters begin with. Two colons stand for at
least one group of zeros. -/
def eightGroups? (cs : List Char) : Option (List Nat × List Char) :=
  match groups 8 true cs with
  | (front, bytes, rest) =>
    if front.length = 8 then some (front, rest)
    else if bytes then none
    else match rest with
      | ':' :: ':' :: rest =>
        let (back, _, rest) := groups (7 - front.length) true rest
        some (front ++ List.replicate (8 - front.length - back.length) 0 ++ back, rest)
      | _ => none

/-- The scope that some characters begin with; none is scope zero. -/
def scope (cs : List Char) : Nat × List Char :=
  match cs with
  | '%' :: inner => (number? 10 0x100000000 inner.length inner).getD (0, cs)
  | _ => (0, cs)

-- =============================================================== writing

/-- Some groups with colons between them. -/
def groupText (gs : List Nat) : String :=
  String.intercalate ":" (gs.map fun g => String.ofList (Nat.toDigits 16 g))

/-- Where the first of the longest runs of zeros begins, counted from `start`,
and how long it is. -/
def longestZeros (start : Nat) : List Nat → Nat × Nat
  | [] => (start, 0)
  | g :: gs =>
    let here := ((g :: gs).takeWhile (· = 0)).length
    let later := longestZeros (start + 1) gs
    if later.2 ≤ here then (start, here) else later

/-- Four bytes with dots between them. -/
def dottedText (value : Nat) : String :=
  String.intercalate "." ((digits 256 4 value).map toString)

/-- An address without its scope. -/
def display : Ip → String
  | v4 octets => dottedText octets.value
  | v6 octets _ =>
    let gs := digits 65536 8 octets.value
    let (start, count) := longestZeros 0 gs
    if octets.value >>> 32 = 0xffff then "::ffff:" ++ dottedText (octets.value % 0x100000000)
    else if 2 ≤ count then groupText (gs.take start) ++ "::" ++ groupText (gs.drop (start + count))
    else groupText gs

/-- An address with the text of a port. -/
def withPort (ip : Ip) (port : String) : String :=
  match ip with
  | v4 _ => ip.display ++ ":" ++ port
  | v6 _ scope =>
    "[" ++ ip.display ++ (if scope = 0 then "" else s!"%{scope}") ++ "]:" ++ port

end Ip

namespace Address

/-- The port that stands, after a colon, at the end of an address. -/
def port? (cs : List Char) : Option Nat :=
  match cs with
  | ':' :: ds =>
    match Ip.number? 10 65536 ds.length ds with
    | some (port, []) => some port
    | _ => none
  | _ => none

/-- The address that a text spells. -/
def parse? (text : String) : Option Address :=
  match text.toList with
  | '[' :: cs => do
    let (gs, rest) ← Ip.eightGroups? cs
    match Ip.scope rest with
    | (scope, ']' :: rest) =>
      (port? rest).map fun port => ⟨.v6 (.ofNat (ofDigits 65536 gs)) scope, port⟩
    | _ => none
  | cs => do
    let (bytes, rest) ← Ip.dotted? 4 cs
    (port? rest).map fun port => ⟨.v4 (.ofNat (ofDigits 256 bytes)), port⟩

/-- The text of an address. -/
def display (a : Address) : String := a.ip.withPort (toString a.port)

end Address

-- ================================================================ places

/-- Where a text says to go. -/
inductive Place where
  | address (address : Address)
  /-- A host that has to be looked up. -/
  | host (name : String) (port : Nat)
deriving DecidableEq

namespace Place

/-- The text before and the text after the last colon. -/
def lastColon? (cs : List Char) : Option (List Char × List Char) :=
  match cs.reverse.span (· ≠ ':') with
  | (back, _ :: front) => some (front.reverse, back.reverse)
  | (_, []) => none

/-- The place that a text names. -/
def ofText (text : String) : Except IoError Place :=
  match Address.parse? text with
  | some found => .ok (.address found)
  | none =>
    match lastColon? text.toList with
    | none => .error ⟨.invalidInput, "invalid socket address"⟩
    | some (name, port) =>
      match Text.natural? 65536 (String.ofList port) with
      | some port => .ok (.host (String.ofList name) port)
      | none => .error ⟨.invalidInput, "invalid port value"⟩

/-- What a text, or no text at all, is called in failures. -/
def nameOf (text : Option String) : String := (text.map Text.quoted).getD "[]"

/-- The place to listen on. -/
def toListen (text : Option String) : Except TransportError Place :=
  match text with
  | none =>
    .error (.bind (nameOf none) ⟨.invalidInput, "could not resolve to any addresses"⟩)
  | some t => (ofText t).mapError (.bind (nameOf text))

/-- The place to connect to. -/
def toConnect (text : Option String) : Except TransportError Place :=
  match text with
  | none => .error (.unresolved (nameOf none))
  | some t => (ofText t).mapError (.connect (nameOf text))

/-- The port a host listens on unless told otherwise. -/
def defaultPort : Nat := 5192

/-- The address of a host on this machine. -/
def defaultHost : String := s!"127.0.0.1:{defaultPort}"

end Place

end CellSync
