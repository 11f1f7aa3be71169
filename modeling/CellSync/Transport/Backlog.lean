/-
How much a stream holds that nobody reads.

What is written is cut into pieces, and a piece holds memory until all of
it has been read: a header, a block with its first bytes and a record, and
pages with the others. A writer may go on as long as the pieces that wait
hold less memory than a stream has for them, so the last of them may go
beyond it.
-/
namespace CellSync

/-- The least multiple of a step that is not below a number. -/
def roundUp (n step : Nat) : Nat := (n + step - 1) / step * step

/-- A piece of what has been written. -/
structure Piece where
  /-- The bytes that have not been read. -/
  unread : Nat
  /-- The memory held until there are none. -/
  memory : Nat

namespace Piece

/-- The bytes of a page. -/
def pageSize : Nat := 4096

/-- The bytes of a piece's header. -/
def headerSize : Nat := 256

/-- The bytes of the record that a block ends with. -/
def recordSize : Nat := 320

/-- The most bytes that share a page with the record. -/
def mostInBlock : Nat := pageSize - recordSize

/-- The most bytes of a piece. -/
def maxSize : Nat := mostInBlock + 8 * pageSize

/-- How many of the bytes of a piece lie in pages: all that are left when the
others fit in the block, as whole pages. -/
def pagedSize (size : Nat) : Nat := min size (roundUp (size - mostInBlock) pageSize)

/-- The memory of a piece. A block is a power of two, and its bytes take whole
lines of a cache. -/
def memoryOf (size : Nat) : Nat :=
  let paged := pagedSize size
  headerSize + (roundUp (size - paged) 64 + recordSize).nextPowerOfTwo + roundUp paged pageSize

/-- A piece of which nothing has been read. -/
def ofSize (size : Nat) : Piece := ⟨size, memoryOf size⟩

/-- A piece of the most bytes. -/
def full : Piece := ofSize maxSize

end Piece

/-- The pieces that wait to be read, the first of them first. -/
abbrev Backlog := List Piece

namespace Backlog

/-- The memory that a stream has for what waits at an end. -/
def capacity : Nat := 212992

/-- The memory that is held. -/
def held (backlog : Backlog) : Nat := (backlog.map Piece.memory).foldr (· + ·) 0

/-- The most bytes that can be written before a writer has to wait. -/
def room (backlog : Backlog) (capacity : Nat) : Nat :=
  roundUp (capacity - backlog.held) Piece.full.memory / Piece.full.memory * Piece.maxSize

/-- What waits after so many bytes are written. -/
def write (backlog : Backlog) (size : Nat) : Backlog :=
  let last := size % Piece.maxSize
  backlog ++ List.replicate (size / Piece.maxSize) Piece.full ++
    (if last = 0 then [] else [.ofSize last])

/-- What waits after so many bytes are read. -/
def read (size : Nat) : Backlog → Backlog
  | [] => []
  | p :: rest =>
    if size < p.unread then { p with unread := p.unread - size } :: rest
    else read (size - p.unread) rest

end Backlog

end CellSync
