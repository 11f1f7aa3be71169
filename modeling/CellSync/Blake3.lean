/-
The BLAKE3 hash: plain, keyed, and key derivation.

The input is cut into chunks of 1024 bytes and each chunk into blocks of
64. Compression folds the blocks of a chunk into one chaining value; the
chaining values of all chunks are then paired, level by level, into a
binary tree whose left subtrees are full, an odd value at the end of a
level moving up as it is. The last compression carries the root flag and
its first eight words are the digest.

Everything is total: a chunk is folded by counting its blocks down, and
the tree by the length of a level, which pairing shortens.
-/
import CellSync.Octets

namespace CellSync.Blake3

-- ====================================================== words and rounds

/-- Eight words: a key or a chaining value. -/
structure Chain where
  (w0 w1 w2 w3 w4 w5 w6 w7 : UInt32)

/-- Sixteen words: a message block or the working state. -/
structure Block where
  (w0 w1 w2 w3 w4 w5 w6 w7 w8 w9 w10 w11 w12 w13 w14 w15 : UInt32)

/-- The initial words, which an unkeyed hash takes as its key. -/
def initial : Chain :=
  ⟨0x6A09E667, 0xBB67AE85, 0x3C6EF372, 0xA54FF53A,
   0x510E527F, 0x9B05688C, 0x1F83D9AB, 0x5BE0CD19⟩

/-- Rotation to the right by `r` bits, for `0 < r < 32`. -/
@[inline] def rotate (x r : UInt32) : UInt32 := (x >>> r) ||| (x <<< (32 - r))

/-- Four words of the state between two mixing steps. -/
structure Quad where
  (a b c d : UInt32)

/-- The mixing of four state words with two message words. -/
@[inline] def mix (a b c d x y : UInt32) : Quad :=
  let a := a + b + x
  let d := rotate (d ^^^ a) 16
  let c := c + d
  let b := rotate (b ^^^ c) 12
  let a := a + b + y
  let d := rotate (d ^^^ a) 8
  let c := c + d
  let b := rotate (b ^^^ c) 7
  ⟨a, b, c, d⟩

/-- One round: the four columns, then the four diagonals. -/
def round (v m : Block) : Block :=
  let p := mix v.w0 v.w4 v.w8 v.w12 m.w0 m.w1
  let q := mix v.w1 v.w5 v.w9 v.w13 m.w2 m.w3
  let r := mix v.w2 v.w6 v.w10 v.w14 m.w4 m.w5
  let s := mix v.w3 v.w7 v.w11 v.w15 m.w6 m.w7
  let t := mix p.a q.b r.c s.d m.w8 m.w9
  let u := mix q.a r.b s.c p.d m.w10 m.w11
  let x := mix r.a s.b p.c q.d m.w12 m.w13
  let y := mix s.a p.b q.c r.d m.w14 m.w15
  ⟨t.a, u.a, x.a, y.a, y.b, t.b, u.b, x.b, x.c, y.c, t.c, u.c, u.d, x.d, y.d, t.d⟩

/-- The order in which the next round reads the message. -/
def permute (m : Block) : Block :=
  ⟨m.w2, m.w6, m.w3, m.w10, m.w7, m.w0, m.w4, m.w13,
   m.w1, m.w11, m.w12, m.w5, m.w9, m.w14, m.w15, m.w8⟩

/-- `count` rounds, the message permuted between them. -/
def rounds : Nat → Block → Block → Block
  | 0, v, _ => v
  | count + 1, v, m => rounds count (round v m) (permute m)

/-- The chaining value after one block of `size` bytes. -/
def compress (h : Chain) (m : Block) (counter : UInt64) (size flags : UInt32) : Chain :=
  let v := rounds 7
    ⟨h.w0, h.w1, h.w2, h.w3, h.w4, h.w5, h.w6, h.w7,
     initial.w0, initial.w1, initial.w2, initial.w3,
     counter.toUInt32, (counter >>> 32).toUInt32, size, flags⟩ m
  ⟨v.w0 ^^^ v.w8, v.w1 ^^^ v.w9, v.w2 ^^^ v.w10, v.w3 ^^^ v.w11,
   v.w4 ^^^ v.w12, v.w5 ^^^ v.w13, v.w6 ^^^ v.w14, v.w7 ^^^ v.w15⟩

-- ================================================================ flags

/-- First block of a chunk. -/
def chunkStart : UInt32 := 1
/-- Last block of a chunk. -/
def chunkEnd : UInt32 := 2
/-- Inner node of the tree. -/
def parentNode : UInt32 := 4
/-- The compression that yields the digest. -/
def rootNode : UInt32 := 8
/-- Every compression of a keyed hash. -/
def keyedHash : UInt32 := 16
/-- Every compression over the context of a key derivation. -/
def deriveContext : UInt32 := 32
/-- Every compression over the material of a key derivation. -/
def deriveMaterial : UInt32 := 64

-- =============================================================== chunks

/-- The byte at a position, zero past the end. -/
@[inline] def byteAt (bs : ByteArray) (i : Nat) : UInt32 :=
  if h : i < bs.size then bs[i].toUInt32 else 0

/-- The little-endian word at a position, padded with zero bytes. -/
@[inline] def wordAt (bs : ByteArray) (i : Nat) : UInt32 :=
  byteAt bs i ||| (byteAt bs (i + 1) <<< 8) ||| (byteAt bs (i + 2) <<< 16) |||
    (byteAt bs (i + 3) <<< 24)

/-- The block at a position, padded with zero bytes. -/
def blockAt (bs : ByteArray) (i : Nat) : Block :=
  ⟨wordAt bs i, wordAt bs (i + 4), wordAt bs (i + 8), wordAt bs (i + 12),
   wordAt bs (i + 16), wordAt bs (i + 20), wordAt bs (i + 24), wordAt bs (i + 28),
   wordAt bs (i + 32), wordAt bs (i + 36), wordAt bs (i + 40), wordAt bs (i + 44),
   wordAt bs (i + 48), wordAt bs (i + 52), wordAt bs (i + 56), wordAt bs (i + 60)⟩

/-- Folds the `remaining` blocks of a chunk from position `i` on. The chunk's
bytes are those of `bs`, so the last block is the one that may be short. -/
def foldBlocks (bs : ByteArray) (counter : UInt64) (flags final : UInt32) :
    Nat → Nat → Chain → Chain
  | 0, _, h => h
  | remaining + 1, i, h =>
    let start := if i = 0 then chunkStart else 0
    let stop := if remaining = 0 then chunkEnd ||| final else 0
    let size := UInt32.ofNat (min 64 (bs.size - i))
    foldBlocks bs counter flags final remaining (i + 64)
      (compress h (blockAt bs i) counter size (flags ||| start ||| stop))

/-- The chaining value of one chunk; `final` is added to its last block. -/
def chunk (key : Chain) (flags final : UInt32) (counter : Nat) (bs : ByteArray) : Chain :=
  foldBlocks bs (UInt64.ofNat counter) flags final (max 1 ((bs.size + 63) / 64)) 0 key

/-- The chaining values of the `remaining` chunks from chunk `k` on. -/
def chunks (key : Chain) (flags : UInt32) (bs : ByteArray) : Nat → Nat → List Chain
  | 0, _ => []
  | remaining + 1, k =>
    chunk key flags 0 k (bs.extract (1024 * k) (1024 * k + 1024)) ::
      chunks key flags bs remaining (k + 1)

-- ============================================================= the tree

/-- The chaining value of two children. -/
def parent (key : Chain) (flags : UInt32) (l r : Chain) : Chain :=
  compress key
    ⟨l.w0, l.w1, l.w2, l.w3, l.w4, l.w5, l.w6, l.w7,
     r.w0, r.w1, r.w2, r.w3, r.w4, r.w5, r.w6, r.w7⟩ 0 64 (flags ||| parentNode)

/-- One level up: neighbours are paired, an odd last value stays. -/
def pairUp (key : Chain) (flags : UInt32) : List Chain → List Chain
  | l :: r :: rest => parent key flags l r :: pairUp key flags rest
  | last => last

theorem length_pairUp_le (key : Chain) (flags : UInt32) (level : List Chain) :
    (pairUp key flags level).length ≤ level.length := by
  fun_induction pairUp key flags level with
  | case1 l r rest ih => simp; omega
  | case2 last => exact Nat.le_refl _

/-- The digest words of a level of at least two chaining values. -/
def root (key : Chain) (flags : UInt32) : List Chain → Chain
  | [] => key
  | [only] => only
  | [l, r] => parent key (flags ||| rootNode) l r
  | l :: r :: s :: rest =>
    root key flags (parent key flags l r :: pairUp key flags (s :: rest))
termination_by level => level.length
decreasing_by
  have := length_pairUp_le key flags (s :: rest)
  simp at *
  omega

-- ============================================================== digests

/-- The digest words of an input under a key and a mode. -/
def digestWords (key : Chain) (flags : UInt32) (bs : ByteArray) : Chain :=
  let count := (bs.size + 1023) / 1024
  if count ≤ 1 then chunk key flags rootNode 0 bs
  else root key flags (chunks key flags bs count 0)

/-- The 32 bytes of eight words, each least significant byte first. -/
def Chain.toOctets (h : Chain) : Octets 32 :=
  .ofBytes ([h.w0, h.w1, h.w2, h.w3, h.w4, h.w5, h.w6, h.w7].flatMap fun w => leBytes 4 w.toNat)

/-- The eight words of 32 bytes, each least significant byte first. -/
def Chain.ofOctets (k : Octets 32) : Chain :=
  let bs : ByteArray := ⟨k.toBytes.toArray⟩
  ⟨wordAt bs 0, wordAt bs 4, wordAt bs 8, wordAt bs 12,
   wordAt bs 16, wordAt bs 20, wordAt bs 24, wordAt bs 28⟩

/-- The hash of an input. -/
def hash (bs : ByteArray) : Octets 32 := (digestWords initial 0 bs).toOctets

/-- The hash of an input under a 32-byte key. -/
def keyed (key : Octets 32) (bs : ByteArray) : Octets 32 :=
  (digestWords (.ofOctets key) keyedHash bs).toOctets

/-- The key that a purpose, named by `context`, takes from key material. -/
def deriveKey (context : String) (material : ByteArray) : Octets 32 :=
  let contextKey := digestWords initial deriveContext context.toUTF8
  (digestWords contextKey deriveMaterial material).toOctets

end CellSync.Blake3
