/-!
# FilterSql.Text.Cut

Cutting a text in two: at the first or the last character of a class, or in front of a suffix.
The character cut at belongs to neither part.
-/

namespace FilterSql
namespace Text

/-- The parts before and after the first character that `p` accepts. -/
def cutFirst? (p : Char → Bool) : List Char → Option (List Char × List Char)
  | [] => none
  | c :: r => if p c then some ([], r) else (cutFirst? p r).map fun parts => (c :: parts.1, parts.2)

/-- The parts before and after the last character that `p` accepts. -/
def cutLast? (p : Char → Bool) : List Char → Option (List Char × List Char)
  | [] => none
  | c :: r =>
    match cutLast? p r with
    | some (before, after) => some (c :: before, after)
    | none => if p c then some ([], r) else none

def stripSuffix? (suffix s : List Char) : Option (List Char) :=
  if suffix.isSuffixOf s then some (s.take (s.length - suffix.length)) else none

/-- The parts of a text around the first occurrence of `mark`. -/
def cutText? (mark : List Char) : List Char → Option (List Char × List Char)
  | [] => if mark.isEmpty then some ([], []) else none
  | c :: r =>
    if mark.isPrefixOf (c :: r) then some ([], (c :: r).drop mark.length)
    else (cutText? mark r).map fun parts => (c :: parts.1, parts.2)

theorem cutFirst?_eq_some {p : Char → Bool} {s before after : List Char}
    (h : cutFirst? p s = some (before, after)) :
    ∃ c, p c = true ∧ s = before ++ c :: after ∧ ∀ x ∈ before, p x = false := by
  induction s generalizing before with
  | nil => simp [cutFirst?] at h
  | cons c r ih =>
    simp only [cutFirst?] at h
    split at h
    · rename_i hc
      cases h
      exact ⟨c, hc, rfl, by simp⟩
    · rename_i hc
      obtain ⟨⟨b, a⟩, hr, he⟩ := Option.map_eq_some_iff.1 h
      cases he
      obtain ⟨d, hd, hs, hb⟩ := ih hr
      refine ⟨d, hd, by simp [hs], ?_⟩
      simpa [hc] using hb

theorem cutFirst?_eq_none {p : Char → Bool} {s : List Char} :
    cutFirst? p s = none ↔ ∀ x ∈ s, p x = false := by
  induction s with
  | nil => simp [cutFirst?]
  | cons c r ih =>
    simp only [cutFirst?]
    split
    · rename_i hc; simp [hc]
    · rename_i hc; simp [hc, ih]

/-- ASCII letters compare without regard to case, all other characters exactly. -/
def sameWord (a b : List Char) : Bool := a.map Char.toLower == b.map Char.toLower

/-- Whether `part` occurs in `s`. -/
def occursIn (part s : String) : Bool := (cutText? part.toList s.toList).isSome

end Text
end FilterSql
