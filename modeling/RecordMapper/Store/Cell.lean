import RecordMapper.Decimal.Reading
import RecordMapper.Error
import RecordMapper.Text.Utf8

/-!
# Storage cells

What the store keeps in one column of one row. A value is stored in a cell of its own kind, except
that a boolean becomes zero or one and an instant its nanoseconds. A cell is read back as a value
unless it holds bytes that are not text.
-/

namespace RecordMapper

/-- The content of one column of a stored row. -/
inductive Cell where
  | null
  | integer (i : Integer64)
  | real (r : Binary64)
  | text (bytes : ByteArray)
  | blob (bytes : ByteArray)

namespace Cell

/-- The cell that a value is stored in. -/
def ofValue : Value → Except ConversionError Cell
  | .null => .ok .null
  | .integer i => .ok (.integer i)
  | .real r => .ok (.real r)
  | .text s => .ok (.text (Text.Utf8.encode s))
  | .bool b => .ok (.integer (.clamp .i64 (if b then 1 else 0)))
  | .timestamp t => t.toNanos.map .integer

/-- What the store keeps of a cell that is handed to it: a real that is no number becomes null. -/
def kept : Cell → Cell
  | .real r => if r.isNaN then .null else .real r
  | c => c

/-- The value read from a cell, or the reason why there is none. -/
def toValue : Cell → Except String Value
  | .null => .ok .null
  | .integer i => .ok (.integer i)
  | .real r => .ok (.real r)
  | .text bytes =>
    match Text.Utf8.decode bytes with
    | .ok s => .ok (.text s)
    | .error fault => .error ("invalid UTF-8 text: " ++ fault.message)
  | .blob _ => .error "blob columns are not supported"

/-- Null comes before numbers, numbers before text and text before blobs. -/
def rank : Cell → Nat
  | null => 0
  | integer _ => 1
  | real _ => 1
  | text _ => 2
  | blob _ => 3

/-- The order of rows of bytes. -/
def compareBytes : List UInt8 → List UInt8 → Ordering
  | [], [] => .eq
  | [], _ :: _ => .lt
  | _ :: _, [] => .gt
  | x :: xs, y :: ys => (compare x y).then (compareBytes xs ys)

/-- The order of cells. Integers and reals are compared by value, text and blobs by bytes. -/
def order : Cell → Cell → Ordering
  | .integer i, .integer j => compare i.val j.val
  | .integer i, .real s => (s.compareInt i.val).swap
  | .real r, .integer j => r.compareInt j.val
  | .real r, .real s => r.compareTo s
  | .text a, .text b => compareBytes a.toList b.toList
  | .blob a, .blob b => compareBytes a.toList b.toList
  | a, b => compare a.rank b.rank

def isNull : Cell → Bool
  | .null => true
  | _ => false

/-- The blank characters that may stand around a number in text. -/
def isSpace (c : Char) : Bool :=
  c == ' ' || (decide ('\t' ≤ c) && decide (c ≤ '\r'))

/-- The integer that a real is, where it lies strictly between the bounds. -/
def wholeReal? (r : Binary64) : Option Integer64 :=
  match r.toInt? with
  | none => none
  | some i =>
    if IntegerType.i64.least < i ∧ i < IntegerType.i64.greatest then Bounded.ofInt? .i64 i else none

/-- The integer that a text writes, as an integer or as a real. -/
def wholeText? (cs : List Char) : Option Integer64 :=
  let cs := ((cs.dropWhile isSpace).reverse.dropWhile isSpace).reverse
  match (Decimal.readInteger? cs).bind (Bounded.ofInt? .i64) with
  | some i => some i
  | none =>
    let (negative, rest) := Decimal.splitSign cs
    (Decimal.readDecimal? rest).bind fun d => wholeReal? (Decimal.toBinary .double negative d)

/-- The integer that a cell can be taken for without a loss. -/
def toInteger? : Cell → Option Integer64
  | .integer i => some i
  | .real r => wholeReal? r
  | .text bytes =>
    match Text.Utf8.decode bytes with
    | .ok s => wholeText? s.toList
    | .error _ => none
  | _ => none

end Cell

end RecordMapper
