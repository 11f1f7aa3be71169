/-
Which cell a target means, and what has been committed to a cell.

A host may resolve and record by any `Resolver`. `Directory` keeps names,
URLs and a log for each cell in memory. A cell is known once it was
named, mapped from a URL or written to; its encoded identifier resolves
then. Names win over identifiers.
-/
import CellSync.Pin.Target
import CellSync.Text.Record
import CellSync.Tx.Basic

namespace CellSync

/-- The operations of a directory with contents `ρ`. -/
structure Resolver (ρ : Type) where
  resolve : ρ → Target → Except ErrorCode TagId
  /-- The commits to a cell, in order. -/
  load : ρ → TagId → List Tx
  record : ρ → Tx → Except ErrorCode ρ

namespace Resolver

/-- A resolver that derives cells from tags, knows no URL and keeps no commits. -/
def stateless : Resolver Unit where
  resolve
    | (), .tag name => .ok (.ofName name)
    | (), .url _ => .error .cellNotFound
  load _ _ := []
  record _ _ := .ok ()

end Resolver

/-- Names, URLs and logs kept in memory. -/
structure Directory where
  tags : List (String × TagId) := []
  urls : List (String × TagId) := []
  /-- The commits to each known cell. -/
  log : List (TagId × List Tx) := []

namespace Directory

/-- The directory in which a cell is known. -/
def know (d : Directory) (cell : TagId) : Directory :=
  if (d.log.lookup cell).isSome then d else { d with log := d.log ++ [(cell, [])] }

/-- A table with the cell of a name set. -/
def put (table : List (String × TagId)) (name : String) (cell : TagId) : List (String × TagId) :=
  table.filter (·.1 ≠ name) ++ [(name, cell)]

/-- Names the cell of a name. -/
def addCell (d : Directory) (name : String) : TagId × Directory :=
  let cell := TagId.ofName name
  (cell, { d with tags := put d.tags name cell }.know cell)

/-- Maps a URL to a cell; the last mapping counts. -/
def addUrl (d : Directory) (url : String) (cell : TagId) : Directory :=
  { d with urls := put d.urls url cell }.know cell

/-- The known cell whose encoded identifier a text is. -/
def decodeKnown? (d : Directory) (text : String) : Option TagId :=
  (TagId.decode text).toOption.filter fun cell => (d.log.lookup cell).isSome

/-- The cell that a target means, if it means one. -/
def find? (d : Directory) : Target → Option TagId
  | .tag name => d.tags.lookup name <|> d.decodeKnown? name
  | .url locator => d.urls.lookup locator

/-- The cell that a target means. -/
def resolve (d : Directory) (target : Target) : Except ErrorCode TagId :=
  match d.find? target with
  | some cell => .ok cell
  | none => .error .cellNotFound

/-- The commits to a cell, in order. -/
def load (d : Directory) (cell : TagId) : List Tx := (d.log.lookup cell).getD []

/-- Appends a commit to the log of a cell. -/
def append (tx : Tx) (d : Directory) (cell : TagId) : Directory :=
  let d := d.know cell
  { d with log := d.log.map fun (k, txs) => if k = cell then (k, txs ++ [tx]) else (k, txs) }

/-- Records a commit, once for each cell it targets. -/
def record (d : Directory) (tx : Tx) : Directory := tx.targets.foldl (append tx) d

/-- How many cells are known. -/
def cellCount (d : Directory) : Nat := d.log.length

/-- How many commits a cell has. -/
def commitCount (d : Directory) (cell : TagId) : Nat := (d.load cell).length

/-- The directory as a resolver. -/
def resolver : Resolver Directory := ⟨resolve, load, fun d tx => .ok (d.record tx)⟩

/-- A directory in diagnostics. -/
def describe (d : Directory) : String :=
  Text.record "MemoryDirectory" [("cells", toString d.cellCount)]

end Directory

end CellSync
