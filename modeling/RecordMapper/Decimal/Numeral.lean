import RecordMapper.Decimal.Reading

/-!
# Numerals

The grammars of written numbers, stated on their own. `IsInteger` relates a text to the integer that
it writes and `IsReal` relates a text to the number of a binary format that it writes; the readers
of `Decimal.Reading` are measured by them.
-/

namespace RecordMapper.Decimal

/-- One or more decimal digits. -/
def IsDigits (cs : List Char) : Prop :=
  cs ≠ [] ∧ ∀ c ∈ cs, isDigit c = true

/-- No sign, a plus or a minus; the flag tells whether it is a minus. -/
inductive IsSign : List Char → Bool → Prop where
  | none : IsSign [] false
  | plus : IsSign ['+'] false
  | minus : IsSign ['-'] true

/-- An integer is a sign and digits. -/
inductive IsInteger : List Char → Int → Prop where
  | positive {sign ds : List Char} (hs : IsSign sign false) (hd : IsDigits ds) :
      IsInteger (sign ++ ds) (ofDigits ds)
  | negative {sign ds : List Char} (hs : IsSign sign true) (hd : IsDigits ds) :
      IsInteger (sign ++ ds) (-ofDigits ds)

/-- The digits of a decimal with at most one point and at least one digit. Each digit behind the
point divides by ten. -/
inductive IsPointed : List Char → Decimal → Prop where
  | whole {ds : List Char} (hd : IsDigits ds) : IsPointed ds ⟨ofDigits ds, 0⟩
  | trailing {ds : List Char} (hd : IsDigits ds) : IsPointed (ds ++ ['.']) ⟨ofDigits ds, 0⟩
  | leading {ds : List Char} (hd : IsDigits ds) : IsPointed ('.' :: ds) ⟨ofDigits ds, -ds.length⟩
  | between {ds es : List Char} (hd : IsDigits ds) (he : IsDigits es) :
      IsPointed (ds ++ '.' :: es) ⟨ofDigits (ds ++ es), -es.length⟩

/-- Nothing, or the letter `e` in either case and an integer. -/
inductive IsExponent : List Char → Int → Prop where
  | none : IsExponent [] 0
  | some {c : Char} {cs : List Char} {i : Int} (hc : c = 'e' ∨ c = 'E') (hi : IsInteger cs i) :
      IsExponent (c :: cs) i

/-- The words for infinity, in lower case. -/
def infinityWords : List (List Char) := ["inf".toList, "infinity".toList]

/-- What follows the sign of a real: a word in any case of its letters, or a decimal with an
optional exponent. -/
inductive IsMagnitude {f : BinaryFormat} (negative : Bool) : List Char → Binary f → Prop where
  | infinity {cs : List Char} (hw : cs.map Char.toLower ∈ infinityWords) :
      IsMagnitude negative cs (.infinite f negative)
  | notANumber {cs : List Char} (hw : cs.map Char.toLower = "nan".toList) :
      IsMagnitude negative cs (.notANumber f)
  | decimal {ds es : List Char} {d : Decimal} {e : Int} (hd : IsPointed ds d)
      (he : IsExponent es e) :
      IsMagnitude negative (ds ++ es) (toBinary f negative ⟨d.coefficient, d.exponent + e⟩)

/-- A real is a sign and a magnitude. -/
inductive IsReal {f : BinaryFormat} : List Char → Binary f → Prop where
  | signed {sign cs : List Char} {negative : Bool} {r : Binary f} (hs : IsSign sign negative)
      (hm : IsMagnitude negative cs r) : IsReal (sign ++ cs) r

end RecordMapper.Decimal
