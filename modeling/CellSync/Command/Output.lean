/-
What a command writes to standard output.

Everything is shown in one of four formats. All but the raw one end in a
line end; the raw format is the bytes themselves.
-/
import CellSync.Json.Writer
import CellSync.Text.Columns
import CellSync.Tx.Basic

namespace CellSync.Command

/-- The formats of output. -/
inductive Format where
  | json | table | pretty | raw
deriving DecidableEq

/-- The names of the formats. -/
def Format.names : List (String × Format) :=
  [("json", .json), ("table", .table), ("pretty", .pretty), ("raw", .raw)]

/-- A text on lines of its own. -/
def line (text : String) : List UInt8 := Json.plain (text ++ "\n")

/-- A JSON document on a line of its own. -/
def document (json : List UInt8) : List UInt8 := json ++ [0x0a]

-- ========================================================== transactions

/-- A value as it is shown: its text, or how many bytes it has. -/
def preview (tx : Tx) (ref : DataRef) : String :=
  match tx.value? ref with
  | some value => (String.fromUTF8? value).getD s!"<binary {value.size} bytes>"
  | none => "<out of range>"

/-- The attribute of an op, as it is shown. -/
def attrText? (op : Op) : Option String := op.attr?.map TagId.encode

/-- The value of an op, as it is shown. -/
def valueText? (tx : Tx) (op : Op) : Option String := op.value?.map (preview tx)

/-- The status of a transaction, with its code if it has one. -/
def statusText (info : Info) : String :=
  if info.code = .nil then info.status.name
  else info.status.name ++ " (" ++ info.code.name ++ ")"

/-- An op as JSON. -/
def opJson (tx : Tx) (op : Op) : List UInt8 :=
  Json.object
    [("op", Json.string op.code.name),
     ("target", Json.nullable Json.string (op.target?.map TagId.encode)),
     ("attr", Json.nullable Json.string (attrText? op)),
     ("value", Json.nullable Json.string (valueText? tx op))]

/-- A transaction as JSON. -/
def txJson (tx : Tx) : List UInt8 :=
  Json.object
    [("kind", Json.string tx.info.kind.name),
     ("context_id", Json.natural tx.info.contextId.toNat),
     ("status", Json.string tx.info.status.name),
     ("err_code", Json.string tx.info.code.name),
     ("tid", Json.nullable Json.string (tx.info.tid.map Tid.encode)),
     ("ops", Json.array (tx.ops.map (opJson tx)))]

/-- The rows of a transaction: one for each op, and one that names no op if
there is none. -/
def txRows (tx : Tx) : List (List String) :=
  let row (cells : List String) : List String :=
    [toString tx.info.contextId.toNat, statusText tx.info,
     (tx.info.tid.map Tid.encode).getD ""] ++ cells
  if tx.ops.isEmpty then [row ["", "", ""]]
  else tx.ops.map fun op =>
    row [op.code.name, (attrText? op).getD "", (valueText? tx op).getD ""]

/-- A transaction as lines of names and values. -/
def txPretty (tx : Tx) : String :=
  let head := s!"pin={tx.info.contextId} status={statusText tx.info} tid=" ++
    (tx.info.tid.map Tid.encode).getD "-" ++ s!" ops={tx.ops.length}"
  let ops := tx.ops.map fun op =>
    "  " ++ op.code.name ++ " attr=" ++ (attrText? op).getD "-" ++
      " value=" ++ (valueText? tx op).getD "-"
  String.intercalate "\n" (head :: ops)

/-- The values of a transaction's ops, one after the other. -/
def txRaw (tx : Tx) : List UInt8 :=
  tx.ops.flatMap fun op =>
    match op.value?.bind tx.value? with
    | some value => Bytes.list value
    | none => []

/-- A transaction that a pin delivered. -/
def printTx (format : Format) (tx : Tx) : List UInt8 :=
  match format with
  | .json => document (txJson tx)
  | .table => line (Text.table ["PIN", "STATUS", "TID", "OP", "ATTR", "VALUE"] (txRows tx))
  | .pretty => line (txPretty tx)
  | .raw => txRaw tx

-- =========================================================== identifiers

/-- The words of an identifier, as they are shown. -/
def wordTexts (tid : Tid) : List String := tid.octets.toWords.map Hex.word

/-- An identifier and its parts as JSON. -/
def tidJson (tid : Tid) : List UInt8 :=
  Json.object
    [("tid", Json.string tid.encode),
     ("unix_secs", Json.natural tid.seconds),
     ("fraction", Json.natural tid.fraction),
     ("time_unix_nanos", Json.natural tid.timeNanos),
     ("suffix", Json.string tid.suffix.toHex),
     ("words", Json.array ((wordTexts tid).map Json.string))]

/-- The named parts of an identifier that are shown as text. -/
def tidRows (tid : Tid) : List (String × String) :=
  [("tid", tid.encode), ("unix_secs", toString tid.seconds),
   ("fraction", toString tid.fraction), ("suffix", tid.suffix.toHex)]

/-- An identifier and its parts. -/
def printTid (format : Format) (tid : Tid) : List UInt8 :=
  match format with
  | .json => document (tidJson tid)
  | .table =>
    let rows := tidRows tid ++ [("words", String.intercalate " " (wordTexts tid))]
    line (Text.table ["FIELD", "VALUE"] (rows.map fun (field, value) => [field, value]))
  | .pretty =>
    line (String.intercalate " " ((tidRows tid).map fun (field, value) => field ++ "=" ++ value))
  | .raw => tid.octets.toBytes

-- ================================================================ notices

/-- The identifier that a commit was given. -/
def printCommitted (format : Format) (tid : Tid) : List UInt8 :=
  match format with
  | .json => document (Json.object [("committed", Json.string tid.encode)])
  | .raw => tid.octets.toBytes
  | .table | .pretty => line tid.encode

/-- The address a host listens on. -/
def printListening (format : Format) (address : String) : List UInt8 :=
  match format with
  | .json => document (Json.object [("listening", Json.string address)])
  | .table | .pretty | .raw => line ("listening on " ++ address)

end CellSync.Command
