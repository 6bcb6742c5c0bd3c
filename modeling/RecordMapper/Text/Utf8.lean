/-!
# Bytes of text

Text is stored as UTF-8 bytes. `decode` accepts exactly the valid encodings, and otherwise tells
where the bytes stop being one: either a sequence is wrong after some of its bytes, or the bytes end
inside a sequence.
-/

namespace RecordMapper.Text.Utf8

/-- Why bytes are no text. -/
inductive Fault where
  | invalid (length : Nat) (index : Nat)
  | incomplete (index : Nat)
deriving DecidableEq, Repr

def Fault.message : Fault → String
  | .invalid length index =>
    "invalid utf-8 sequence of " ++ toString length ++ " bytes from index " ++ toString index
  | .incomplete index => "incomplete utf-8 byte sequence from index " ++ toString index

/-- A range of bytes, both ends included. -/
abbrev ByteRange := UInt8 × UInt8

/-- The byte lies in the range. -/
def ByteRange.contains (r : ByteRange) (b : UInt8) : Bool :=
  decide (r.1 ≤ b) && decide (b ≤ r.2)

/-- Any continuation byte. -/
def continuation : ByteRange := (0x80, 0xbf)

/-- What must follow a first byte, or `none` where no sequence starts with it. The second byte is
restricted so that no sequence is overlong, a surrogate or beyond the last code point. -/
def followers? (b : UInt8) : Option (List ByteRange) :=
  if b < 0x80 then some []
  else if b < 0xc2 then none
  else if b < 0xe0 then some [continuation]
  else if b = 0xe0 then some [(0xa0, 0xbf), continuation]
  else if b = 0xed then some [(0x80, 0x9f), continuation]
  else if b < 0xf0 then some [continuation, continuation]
  else if b = 0xf0 then some [(0x90, 0xbf), continuation, continuation]
  else if b < 0xf4 then some [continuation, continuation, continuation]
  else if b = 0xf4 then some [(0x80, 0x8f), continuation, continuation]
  else none

/-- How the bytes after a first byte meet their ranges: the number of good ones, and whether a bad
one follows (`some true`), the bytes end (`some false`) or all ranges are met (`none`). -/
def match? : List ByteRange → List UInt8 → Nat × Option Bool
  | [], _ => (0, none)
  | _ :: _, [] => (0, some false)
  | r :: rs, b :: bs =>
    if r.contains b then
      let (n, stop) := match? rs bs
      (n + 1, stop)
    else (0, some true)

/-- The first fault at or after `index`, where the sequence in progress has `skip` bytes to go. -/
def faultFrom (index skip : Nat) : List UInt8 → Option Fault
  | [] => none
  | b :: bs =>
    match skip with
    | skip + 1 => faultFrom (index + 1) skip bs
    | 0 =>
      match followers? b with
      | none => some (.invalid 1 index)
      | some ranges =>
        match match? ranges bs with
        | (n, none) => faultFrom (index + 1) n bs
        | (n, some true) => some (.invalid (n + 1) index)
        | (_, some false) => some (.incomplete index)

/-- The first fault of a row of bytes. -/
def fault? (bs : List UInt8) : Option Fault :=
  faultFrom 0 0 bs

/-- The bytes of a text. -/
def encode (s : String) : ByteArray :=
  s.toUTF8

/-- The text with the given bytes. -/
def decode (b : ByteArray) : Except Fault String :=
  match String.fromUTF8? b with
  | some s => .ok s
  | none => .error ((fault? b.data.toList).getD (.incomplete 0))

theorem decode_encode (s : String) : decode (encode s) = .ok s := by
  have h : String.fromUTF8? s.toUTF8 = some s := by
    rw [String.fromUTF8?, String.toUTF8_eq_toByteArray, dif_pos s.isValidUTF8]
    rfl
  rw [decode, encode, h]

theorem encode_of_decode {b : ByteArray} {s : String} (h : decode b = .ok s) : encode s = b := by
  rw [decode, String.fromUTF8?] at h
  by_cases hb : b.IsValidUTF8
  · rw [dif_pos hb] at h
    cases h
    rfl
  · rw [dif_neg hb] at h
    cases h

end RecordMapper.Text.Utf8
