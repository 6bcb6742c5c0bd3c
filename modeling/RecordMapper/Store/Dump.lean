import RecordMapper.Decimal.Reading
import RecordMapper.Store.Database
import RecordMapper.Text.Hexadecimal

/-!
# Written databases

A database as a row of bytes: a mark, and then a text of lines. Each table has a line with its name
and columns, a line with the positions of the columns whose cells must differ, and a line for each
row. The words of a line are separated by single spaces, and every word tells its kind by its first
letter.
-/

namespace RecordMapper.Store

namespace Dump

/-- The first byte of a written database. No text has this byte, so that no text is taken for a
database. -/
def mark : UInt8 := 0xff

def bytesText (bs : ByteArray) : String :=
  String.ofList (bs.data.toList.flatMap fun b => Text.hex 2 b.toNat)

def bytes? (cs : List Char) : Option ByteArray :=
  (Text.hexBytes? cs).map fun bs => ⟨bs.toArray⟩

/-- The word for a cell. -/
def cellWord : Cell → String
  | .null => "n"
  | .integer i => "i" ++ toString i.val
  | .real r => "r" ++ toString r.bits
  | .text bs => "t" ++ bytesText bs
  | .blob bs => "b" ++ bytesText bs

/-- The cell that a word stands for. -/
def cell? (word : String) : Option Cell :=
  match word.toList with
  | ['n'] => some .null
  | 'i' :: cs => do return .integer (← Bounded.ofInt? .i64 (← Decimal.readInteger? cs))
  | 'r' :: cs => do return .real (.ofNat .double (← Decimal.readInteger? cs).toNat)
  | 't' :: cs => (bytes? cs).map .text
  | 'b' :: cs => (bytes? cs).map .blob
  | _ => none

/-- The word for a name. -/
def nameWord (s : String) : String :=
  cellWord (.text (Text.Utf8.encode s))

def name? (word : String) : Option String :=
  match cell? word with
  | some (.text bs) => (Text.Utf8.decode bs).toOption
  | _ => none

def position? (word : String) : Option Nat :=
  (Decimal.readInteger? word.toList).map Int.toNat

def line (words : List String) : String :=
  String.intercalate " " words ++ "\n"

/-- The lines of a table. -/
def tableText (t : Table) : String :=
  line ("table" :: nameWord t.name :: t.columns.map nameWord) ++
    line ("unique" :: t.unique.map toString) ++
    String.join (t.rows.map fun row => line ("row" :: row.map cellWord))

/-- The tables read so far, the last one first, with one more line. -/
def readLine (tables : List Table) (words : List String) : Option (List Table) :=
  match words, tables with
  | "table" :: name :: columns, ts => do
    return ⟨← name? name, ← columns.mapM name?, [], []⟩ :: ts
  | "unique" :: positions, t :: ts => do
    return { t with unique := ← positions.mapM position? } :: ts
  | "row" :: cells, t :: ts => do
    return { t with rows := t.rows ++ [← cells.mapM cell?] } :: ts
  | _, _ => none

end Dump

namespace Database

/-- The tables of a database as lines of text. -/
def text (db : Database) : String :=
  String.join (db.tables.map Dump.tableText)

/-- The database with the given lines of text. -/
def ofText? (text : String) : Option Database :=
  let ls := text.splitOn "\n"
  if ls.getLast? = some "" then
    (ls.dropLast.foldlM (fun ts l => Dump.readLine ts (l.splitOn " ")) []).map fun ts =>
      { tables := ts.reverse }
  else none

/-- The database as bytes. -/
def dump (db : Database) : ByteArray :=
  ⟨#[Dump.mark]⟩ ++ Text.Utf8.encode db.text

/-- The database that some bytes hold. -/
def ofDump? (content : ByteArray) : Option Database :=
  match content.data.toList with
  | [] => none
  | b :: bs =>
    if b = Dump.mark then
      match Text.Utf8.decode ⟨bs.toArray⟩ with
      | .ok text => ofText? text
      | .error _ => none
    else none

end Database

end RecordMapper.Store
