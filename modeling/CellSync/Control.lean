/-
Control payloads: JSON documents carried by transactions.

A control transaction holds one metadata op on the nil cell; the op's
attribute says which sort of document its value is.
-/
import CellSync.Bytes
import CellSync.SessionError
import CellSync.Tx.Basic

namespace CellSync.Control

/-- The attribute of a login step. -/
def loginAttr : String := "amp.login"

/-- The attribute of a pin request. -/
def pinAttr : String := "amp.pin"

/-- The transaction that carries a document. -/
def wrap (info : Info) (attr : String) (document : List UInt8) : Tx :=
  let (tx, value) := (Tx.mk info [] ByteArray.empty).push (Bytes.pack document)
  tx.pushOp (.metaAttr .nil (.ofName attr) value)

/-- The document that a transaction carries under an attribute. -/
def unwrap (tx : Tx) (attr : String) : Except SessionError (List UInt8) :=
  match tx.ops with
  | [.metaAttr _ found value] =>
    if found ≠ .ofName attr then
      .error (.rejected .attrNotFound ("expected '" ++ attr ++ "' payload"))
    else
      match tx.value? value with
      | some document => .ok (Bytes.list document)
      | none => .error (.rejected .malformedTx "payload outside data segment")
  | _ => .error (.rejected .badRequest (tx.info.kind.name ++ " message must carry one meta attr"))

/-- The value that a transaction carries as JSON under an attribute. -/
def read {α : Type} (ofJson? : List UInt8 → Option α) (tx : Tx) (attr : String) :
    Except SessionError α :=
  match unwrap tx attr with
  | .error error => .error error
  | .ok document =>
    match ofJson? document with
    | some a => .ok a
    | none => .error (.json "unexpected document")

end CellSync.Control
