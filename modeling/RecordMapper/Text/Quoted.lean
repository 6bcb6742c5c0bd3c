/-!
# Quoted names

A quoted name stands between two quote characters; a quote inside the name is written twice.
-/

namespace RecordMapper.Text

/-- Writes every occurrence of `q` twice. -/
def double (q : Char) : List Char → List Char
  | [] => []
  | c :: cs => if c = q then q :: q :: double q cs else c :: double q cs

/-- Encloses a name in quotes, doubling those inside. -/
def enclose (q : Char) (s : String) : String :=
  String.ofList (q :: (double q s.toList ++ [q]))

theorem toList_enclose (q : Char) (s : String) :
    (enclose q s).toList = q :: (double q s.toList ++ [q]) := by
  simp [enclose]

end RecordMapper.Text
