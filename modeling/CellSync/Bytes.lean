/-
Bulk bytes and their list view.

Data segments and stream buffers are byte arrays; the few bytes that are
looked at one by one are read through `Bytes.list`. `Bytes.pack` is its
inverse, and size, append and extract are read off the view.
-/
namespace CellSync

/-- Byte arrays are compared as arrays, whatever other decision there may be. -/
scoped instance (priority := 2000) instDecidableEqBytes : DecidableEq ByteArray :=
  ByteArray.instDecidableEq

namespace Bytes

/-- The bytes of an array, in order. -/
def list (b : ByteArray) : List UInt8 := b.data.toList

/-- The array of some bytes. -/
def pack (bs : List UInt8) : ByteArray := ⟨bs.toArray⟩

@[simp] theorem list_pack (bs : List UInt8) : list (pack bs) = bs := by
  simp [list, pack]

@[simp] theorem pack_list (b : ByteArray) : pack (list b) = b := by
  cases b; simp [list, pack]

@[simp] theorem size_pack (bs : List UInt8) : (pack bs).size = bs.length := rfl

@[simp] theorem length_list (b : ByteArray) : (list b).length = b.size := rfl

theorem list_append (a b : ByteArray) : list (a ++ b) = list a ++ list b := by
  simp only [list, ByteArray.data_append, Array.toList_append]

/-- The bytes of an array from one position up to another. -/
def slice (b : ByteArray) (start stop : Nat) : List UInt8 := list (b.extract start stop)

theorem slice_eq (b : ByteArray) (start stop : Nat) :
    slice b start stop = ((list b).drop start).take (stop - start) := by
  simp only [slice, list, ByteArray.data_extract, Array.toList_extract, List.extract_eq_take_drop]

theorem length_slice (b : ByteArray) (start stop : Nat) :
    (slice b start stop).length = min stop b.size - start := by
  rw [slice, length_list, ByteArray.size_extract]

/-- The bytes from one position to another, seen as the middle of the whole. -/
theorem slice_of_list {b : ByteArray} {before middle after : List UInt8} {start stop : Nat}
    (h : list b = before ++ (middle ++ after)) (hstart : before.length = start)
    (hstop : start + middle.length = stop) : slice b start stop = middle := by
  rw [slice_eq, h, List.drop_left' hstart, List.take_left' (by omega)]

/-- Two slices that meet are one slice. -/
theorem slice_append_slice {b : ByteArray} {i j k : Nat} (hij : i ≤ j) (hjk : j ≤ k) :
    slice b i j ++ slice b j k = slice b i k := by
  rw [slice, slice, slice, ← list_append, ByteArray.extract_append_extract,
    Nat.min_eq_left hij, Nat.max_eq_right hjk]

/-- What follows an array does not change what is cut out of it. -/
theorem extract_append_left {a b : ByteArray} {start stop : Nat} (h : stop ≤ a.size) :
    (a ++ b).extract start stop = a.extract start stop := by
  have hb : b.extract (start - a.size) (stop - a.size) = ByteArray.empty := by
    rw [ByteArray.extract_eq_empty_iff]
    omega
  rw [ByteArray.extract_append, hb, ByteArray.append_empty]

theorem slice_append_left {a b : ByteArray} {start stop : Nat} (h : stop ≤ a.size) :
    slice (a ++ b) start stop = slice a start stop :=
  congrArg list (extract_append_left h)

/-- A slice of a front part is a slice of the whole. -/
theorem slice_extract_zero {b : ByteArray} {size start stop : Nat} (h : stop ≤ size) :
    slice (b.extract 0 size) start stop = slice b start stop := by
  rw [slice, slice, ByteArray.extract_extract, Nat.zero_add, Nat.zero_add, Nat.min_eq_left h]

/-- A front part and what follows it are the whole. -/
theorem extract_append_rest {b : ByteArray} {size : Nat} (h : size ≤ b.size) :
    b.extract 0 size ++ b.extract size b.size = b := by
  rw [ByteArray.extract_append_extract, Nat.zero_min, Nat.max_eq_right h,
    ByteArray.extract_zero_size]

/-- What is left behind a position keeps what follows. -/
theorem extract_append_size {a b : ByteArray} {start : Nat} (h : start ≤ a.size) :
    (a ++ b).extract start (a ++ b).size = a.extract start a.size ++ b := by
  have hsplit : a ++ b = a.extract 0 start ++ (a.extract start a.size ++ b) := by
    rw [← ByteArray.append_assoc, extract_append_rest h]
  have hsize : start = (a.extract 0 start).size := by
    rw [ByteArray.size_extract]
    omega
  rw [hsplit]
  exact ByteArray.extract_append_eq_right hsize ByteArray.size_append

theorem slice_zero_size (b : ByteArray) : slice b 0 b.size = list b := by
  rw [slice, ByteArray.extract_zero_size]

theorem list_inj {a b : ByteArray} (h : list a = list b) : a = b := by
  rw [← pack_list a, h, pack_list]

/-- `count` copies of some bytes. -/
def repeated (b : ByteArray) : Nat → ByteArray
  | 0 => ByteArray.empty
  | count + 1 => repeated b count ++ b

end Bytes

end CellSync
