/-!
# Hexadecimal digits

Numbers and rows of bytes in base sixteen. Letters are written small and read in either case.
-/

namespace RecordMapper.Text

/-- A number in lower-case hexadecimal, with leading zeros up to `width` digits. -/
def hex (width n : Nat) : List Char :=
  let ds := Nat.toDigits 16 n
  List.replicate (width - ds.length) '0' ++ ds

/-- The value of a hexadecimal digit. -/
def hexDigit? (c : Char) : Option Nat :=
  if '0' ≤ c ∧ c ≤ '9' then some (c.toNat - '0'.toNat)
  else if 'a' ≤ c ∧ c ≤ 'f' then some (c.toNat - 'a'.toNat + 10)
  else if 'A' ≤ c ∧ c ≤ 'F' then some (c.toNat - 'A'.toNat + 10)
  else none

/-- The byte that two hexadecimal digits stand for. -/
def hexByte? (a b : Char) : Option UInt8 := do
  return UInt8.ofNat (16 * (← hexDigit? a) + (← hexDigit? b))

/-- The bytes that pairs of hexadecimal digits stand for. -/
def hexBytes? : List Char → Option (List UInt8)
  | [] => some []
  | [_] => none
  | a :: b :: cs => do
    let byte ← hexByte? a b
    return byte :: (← hexBytes? cs)

end RecordMapper.Text
