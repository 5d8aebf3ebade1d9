import FilterSql.Text.Cut

/-!
# FilterSql.Text.Offset

Places in a text, counted in bytes of UTF-8. A text can be cut where a character begins and at its
end, but not inside of a character.
-/

namespace FilterSql
namespace Text

/-- The number of bytes of a text. -/
def byteLength : List Char → Nat
  | [] => 0
  | c :: r => c.utf8Size + byteLength r

/-- The parts of a text before and behind an offset; none inside of a character or beyond the end. -/
def cutAt? (offset : Nat) : List Char → Option (List Char × List Char)
  | [] => if offset = 0 then some ([], []) else none
  | c :: r =>
    if offset = 0 then some ([], c :: r)
    else if offset < c.utf8Size then none
    else (cutAt? (offset - c.utf8Size) r).map fun parts => (c :: parts.1, parts.2)

/-- Where `mark` first occurs. -/
def offsetOf? (mark s : List Char) : Option Nat :=
  (cutText? mark s).map fun parts => byteLength parts.1

/-- Where the last character stands that `p` accepts. -/
def lastOffsetOf? (p : Char → Bool) (s : List Char) : Option Nat :=
  (cutLast? p s).map fun parts => byteLength parts.1

end Text
end FilterSql
