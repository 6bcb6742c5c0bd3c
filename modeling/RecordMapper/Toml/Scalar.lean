import RecordMapper.Decimal.Reading
import RecordMapper.Text.Hexadecimal
import RecordMapper.Toml.Value
import RecordMapper.Value.Integer

/-!
# TOML scalars

Numbers, truth values, dates and times, each recognised from its whole text.
-/

namespace RecordMapper.Toml.Scalar

open Decimal (isDigit)
open Text (hexDigit?)

/-- Digits of a class with single underscores between them; the digits without the underscores. -/
def grouped? (digit : Char → Bool) : List Char → Option (List Char)
  | [] => none
  | [c] => if digit c then some [c] else none
  | c :: d :: cs =>
    if !digit c then none
    else if d = '_' then (grouped? digit cs).map (c :: ·)
    else (grouped? digit (d :: cs)).map (c :: ·)

/-- Decimal digits that do not start with a needless zero. -/
def plainDigits? (cs : List Char) : Option (List Char) :=
  match grouped? isDigit cs with
  | some ('0' :: _ :: _) => none
  | ds => ds

def signed (negative : Bool) (i : Int) : Int :=
  if negative then -i else i

/-- An integer that fits sixty-four bits. -/
def fitting? (i : Int) : Option Value :=
  if IntegerType.i64.least ≤ i ∧ i ≤ IntegerType.i64.greatest then some (.integer i) else none

/-- The number that digits denote in a base. -/
def inBase? (base : Nat) (cs : List Char) : Option Nat :=
  (grouped? (fun c => (hexDigit? c).any (· < base)) cs).map fun ds =>
    ds.foldl (fun n c => base * n + (hexDigit? c).getD 0) 0

def integer? (cs : List Char) : Option Value :=
  match cs with
  | '0' :: 'x' :: ds => (inBase? 16 ds).bind fun n => fitting? n
  | '0' :: 'o' :: ds => (inBase? 8 ds).bind fun n => fitting? n
  | '0' :: 'b' :: ds => (inBase? 2 ds).bind fun n => fitting? n
  | _ =>
    let (negative, ds) := Decimal.splitSign cs
    (plainDigits? ds).bind fun ds => fitting? (signed negative (Decimal.ofDigits ds))

/-- A number with a point or an exponent, or one of the words for infinity and NaN. -/
def real? (cs : List Char) : Option Value := do
  let (negative, body) := Decimal.splitSign cs
  if body = ['i', 'n', 'f'] then return .real (Binary.infinite .double negative)
  else if body = ['n', 'a', 'n'] then return .real (Binary.notANumber .double)
  else
    let isPart := fun c => isDigit c || c == '_'
    let whole ← plainDigits? (body.takeWhile isPart)
    let rest := body.dropWhile isPart
    let (fraction, rest) ← match rest with
      | '.' :: more => do
        let digits ← grouped? isDigit (more.takeWhile isPart)
        pure (digits, more.dropWhile isPart)
      | _ => pure ([], rest)
    let exponent ← match rest with
      | [] => if fraction = [] then none else pure 0
      | e :: more =>
        if e = 'e' ∨ e = 'E' then do
          let (down, ds) := Decimal.splitSign more
          let digits ← grouped? isDigit ds
          pure (signed down (Decimal.ofDigits digits))
        else none
    let x := Decimal.toBinary .double negative
      ⟨Decimal.ofDigits (whole ++ fraction), exponent - fraction.length⟩
    if x.isFinite || negative then return .real x else none

/-- Two digits with a value in a range, and the rest. -/
def two? (low high : Nat) : List Char → Option (List Char)
  | a :: b :: cs =>
    let n := Decimal.ofDigits [a, b]
    if isDigit a ∧ isDigit b ∧ low ≤ n ∧ n ≤ high then some cs else none
  | _ => none

def char? (c : Char) : List Char → Option (List Char)
  | d :: cs => if c = d then some cs else none
  | [] => none

/-- The number of days of a month. -/
def daysIn (year month : Nat) : Nat :=
  if month = 2 then
    if year % 4 = 0 ∧ (year % 100 ≠ 0 ∨ year % 400 = 0) then 29 else 28
  else if month = 4 ∨ month = 6 ∨ month = 9 ∨ month = 11 then 30
  else 31

/-- What follows a date. -/
def afterDate? : List Char → Option (List Char)
  | y₁ :: y₂ :: y₃ :: y₄ :: '-' :: m₁ :: m₂ :: '-' :: cs =>
    let year := [y₁, y₂, y₃, y₄]
    let month := Decimal.ofDigits [m₁, m₂]
    if year.all isDigit ∧ isDigit m₁ ∧ isDigit m₂ ∧ 1 ≤ month ∧ month ≤ 12 then
      two? 1 (daysIn (Decimal.ofDigits year) month) cs
    else none
  | _ => none

/-- What follows a time of day. -/
def afterTime? (cs : List Char) : Option (List Char) := do
  let cs ← two? 0 23 cs >>= char? ':' >>= two? 0 59 >>= char? ':' >>= two? 0 60
  match cs with
  | '.' :: ds =>
    let digits := ds.takeWhile isDigit
    if digits = [] then none else some (ds.drop digits.length)
  | _ => some cs

/-- The rest after a time of day is an offset from universal time, or nothing. -/
def isOffset : List Char → Bool
  | [] => true
  | ['Z'] => true
  | ['z'] => true
  | c :: cs =>
    (c == '+' || c == '-') &&
      match two? 0 23 cs >>= char? ':' >>= two? 0 59 with
      | some [] => true
      | _ => false

def date? (cs : List Char) : Option Value :=
  match afterDate? cs with
  | some [] => some .date
  | some (d :: time) =>
    if d = 'T' ∨ d = 't' ∨ d = ' ' then
      match afterTime? time with
      | some rest => if isOffset rest then some .date else none
      | none => none
    else none
  | none =>
    match afterTime? cs with
    | some [] => some .date
    | _ => none

def bool? (cs : List Char) : Option Value :=
  if cs = ['t', 'r', 'u', 'e'] then some (.bool true)
  else if cs = ['f', 'a', 'l', 's', 'e'] then some (.bool false)
  else none

/-- The scalar with the given text. -/
def ofText? (cs : List Char) : Option Value :=
  (bool? cs).or ((integer? cs).or ((real? cs).or (date? cs)))

end RecordMapper.Toml.Scalar
