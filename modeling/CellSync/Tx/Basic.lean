/-
Transactions: control fields, ops, and the data segment the ops point into.

A transaction is built by appending values to its data segment and ops
to its list (`push`, `pushOp`). Narrowing it to other ops (`withOps`)
leaves the data segment as it is, so every reference keeps its meaning.
-/
import CellSync.Bytes
import CellSync.Code
import CellSync.Tid
import CellSync.Tx.Op

namespace CellSync

/-- The control fields of a transaction. -/
structure Info where
  kind : Kind
  /-- The identifier, once a host has assigned one. -/
  tid : Option Tid := none
  /-- The pin request this belongs to, zero when it belongs to none. -/
  contextId : UInt64 := 0
  status : Status := .notStarted
  code : ErrorCode := .nil
deriving DecidableEq

/-- A transaction. -/
structure Tx where
  info : Info
  ops : List Op := []
  /-- The value bytes that the ops refer to. -/
  data : ByteArray := ByteArray.empty
deriving DecidableEq

namespace Tx

/-- A transaction of a kind with nothing in it. -/
def ofKind (kind : Kind) : Tx := ⟨⟨kind, none, 0, .notStarted, .nil⟩, [], ByteArray.empty⟩

/-- A transaction that tells a status and carries nothing. -/
def ofStatus (kind : Kind) (contextId : UInt64) (status : Status) (code : ErrorCode) : Tx :=
  ⟨⟨kind, none, contextId, status, code⟩, [], ByteArray.empty⟩

/-- Appends value bytes and returns the reference to them. -/
def push (tx : Tx) (value : ByteArray) : Tx × DataRef :=
  ({ tx with data := tx.data ++ value },
    ⟨UInt64.ofNat tx.data.size, UInt64.ofNat value.size⟩)

/-- Appends an op. -/
def pushOp (tx : Tx) (op : Op) : Tx := { tx with ops := tx.ops ++ [op] }

/-- The same transaction over other ops. -/
def withOps (tx : Tx) (ops : List Op) : Tx := { tx with ops := ops }

/-- The same transaction under another identifier. -/
def withTid (tx : Tx) (tid : Option Tid) : Tx := { tx with info := { tx.info with tid := tid } }

/-- The bytes a reference points at, when it lies inside the data segment. -/
def value? (tx : Tx) (r : DataRef) : Option ByteArray :=
  if r.fits tx.data.size then some (tx.data.extract r.offset.toNat r.stop) else none

/-- The cells that the ops mutate, each once, in ascending order. -/
def targets (tx : Tx) : List TagId := TagId.distinct (tx.ops.filterMap Op.target?)

end Tx

end CellSync
