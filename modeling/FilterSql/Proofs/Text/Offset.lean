import FilterSql.Proofs.Text.Trimming
import FilterSql.Text.Offset

/-!
# FilterSql.Proofs.Text.Offset

Where a text is cut: at the first place of a mark, and at an offset.

* `Text.cutText?_eq_none_iff`, `Text.cutText?_eq_some`: a text is cut at the first place of a mark.
* `Text.cutText?_append`: a mark that cannot overlap itself is found where it is put.
* `Text.cutAt?_byteLength`: a text is cut between two characters.
* `Text.lastOffsetOf?_append`: the last character of a class is found.
-/

namespace FilterSql
namespace Text

variable {mark s before after : List Char}

/-! ## Marks -/

theorem cutText?_eq_none_iff : cutText? mark s = none ↔ ¬ mark <:+: s := by
  induction s with
  | nil => cases mark <;> simp [cutText?]
  | cons c r ih =>
    rw [cutText?, List.infix_cons_iff, ← List.isPrefixOf_iff_prefix]
    split
    case isTrue h => simp [h]
    case isFalse h => simp [h, ih]

theorem cutText?_eq_some (hne : mark ≠ []) (h : cutText? mark s = some (before, after)) :
    s = before ++ (mark ++ after) ∧ ¬ mark <:+: before := by
  induction s generalizing before with
  | nil => simp [cutText?, hne] at h
  | cons c r ih =>
    rw [cutText?] at h
    split at h
    case isTrue hprefix =>
      obtain ⟨tail, htail⟩ := List.isPrefixOf_iff_prefix.1 hprefix
      rw [← htail, List.drop_left] at h
      cases h
      exact ⟨htail.symm, by simpa using hne⟩
    case isFalse hprefix =>
      obtain ⟨parts, hrest, heq⟩ := Option.map_eq_some_iff.1 h
      obtain ⟨rfl, rfl⟩ := Prod.mk.inj heq
      obtain ⟨hr, hfree⟩ := ih hrest
      rw [List.isPrefixOf_iff_prefix] at hprefix
      refine ⟨by rw [List.cons_append, ← hr], ?_⟩
      rw [List.infix_cons_iff]
      rintro (hfirst | hlater)
      · refine hprefix (hfirst.trans ?_)
        rw [hr, ← List.cons_append]
        exact List.prefix_append _ _
      · exact hfree hlater

/-- No end of the mark is a beginning of it, so that two places of it in a text never overlap. -/
def Unbordered (mark : List Char) : Prop :=
  ∀ k < mark.length, 0 < k → ¬ mark.drop k <+: mark

instance (mark : List Char) : Decidable (Unbordered mark) :=
  inferInstanceAs (Decidable (∀ k < mark.length, 0 < k → ¬ mark.drop k <+: mark))

/-- A mark that begins within a text lies within it, or one of its ends begins what follows. -/
theorem Unbordered.not_prefix_append (hmark : Unbordered mark) (hs : s ≠ []) (h : ¬ mark <:+: s)
    (rest : List Char) : ¬ mark <+: s ++ (mark ++ rest) := by
  intro hprefix
  rcases Nat.lt_or_ge s.length mark.length with hlt | hle
  · obtain ⟨tail, rfl⟩ := List.prefix_of_prefix_length_le (List.prefix_append s _) hprefix hlt.le
    have htail : tail <+: s ++ tail := by
      have hrest : tail <+: (s ++ tail) ++ rest := (List.prefix_append_right_inj s).1 hprefix
      exact List.prefix_of_prefix_length_le hrest (List.prefix_append _ _) (by simp)
    refine hmark s.length hlt (List.length_pos_iff.2 hs) ?_
    rwa [List.drop_left]
  · exact h (List.prefix_of_prefix_length_le hprefix (List.prefix_append s _) hle).isInfix

theorem cutText?_append (hmark : Unbordered mark) (hne : mark ≠ []) (h : ¬ mark <:+: before)
    (rest : List Char) : cutText? mark (before ++ (mark ++ rest)) = some (before, rest) := by
  induction before with
  | nil =>
    obtain ⟨c, more, rfl⟩ := List.exists_cons_of_ne_nil hne
    have hprefix : (c :: more).isPrefixOf (c :: more ++ rest) = true :=
      List.isPrefixOf_iff_prefix.2 (List.prefix_append _ _)
    rw [List.nil_append, List.cons_append, cutText?, ← List.cons_append, if_pos hprefix,
      List.drop_left]
  | cons c before ih =>
    have hprefix : ¬ mark.isPrefixOf (c :: (before ++ (mark ++ rest))) = true := by
      rw [List.isPrefixOf_iff_prefix, ← List.cons_append]
      exact hmark.not_prefix_append (List.cons_ne_nil c before) h rest
    have hbefore : ¬ mark <:+: before := fun hin =>
      h (hin.trans (List.suffix_cons c before).isInfix)
    rw [List.cons_append, cutText?, if_neg hprefix, ih hbefore]
    rfl

/-! ## Offsets -/

@[simp] theorem byteLength_append (s t : List Char) :
    byteLength (s ++ t) = byteLength s + byteLength t := by
  induction s with
  | nil => exact (Nat.zero_add _).symm
  | cons c r ih => rw [List.cons_append, byteLength, byteLength, ih, Nat.add_assoc]

theorem cutAt?_zero (s : List Char) : cutAt? 0 s = some ([], s) := by
  cases s <;> rfl

/-- An offset that was counted up to some character is a place to cut at. -/
theorem cutAt?_byteLength (before after : List Char) :
    cutAt? (byteLength before) (before ++ after) = some (before, after) := by
  induction before with
  | nil => exact cutAt?_zero after
  | cons c before ih =>
    have hpos := c.utf8Size_pos
    rw [byteLength, List.cons_append, cutAt?, if_neg (by omega), if_neg (by omega),
      Nat.add_sub_cancel_left, ih]
    rfl

/-! ## Last characters -/

variable {p : Char → Bool} {offset : Nat}

theorem lastOffsetOf?_append {c : Char} (hc : p c = true) (hafter : ∀ x ∈ after, p x = false) :
    lastOffsetOf? p (before ++ c :: after) = some (byteLength before) := by
  rw [lastOffsetOf?, cutLast?_append hc hafter]
  rfl

/-- What follows without such a character does not move the place. -/
theorem lastOffsetOf?_append_of_forall (s : List Char) (hafter : ∀ x ∈ after, p x = false) :
    lastOffsetOf? p (s ++ after) = lastOffsetOf? p s := by
  cases hcut : cutLast? p s with
  | none =>
    have hall : ∀ x ∈ s ++ after, p x = false := by
      intro x hx
      rcases List.mem_append.1 hx with hs | hx
      · exact cutLast?_eq_none_iff.1 hcut x hs
      · exact hafter x hx
    rw [lastOffsetOf?, lastOffsetOf?, hcut, cutLast?_eq_none_iff.2 hall]
  | some parts =>
    obtain ⟨c, hc, rfl, hrest⟩ := cutLast?_eq_some hcut
    have hall : ∀ x ∈ parts.2 ++ after, p x = false := by
      intro x hx
      rcases List.mem_append.1 hx with hr | hx
      · exact hrest x hr
      · exact hafter x hx
    rw [List.append_assoc, List.cons_append, lastOffsetOf?_append hc hall,
      lastOffsetOf?_append hc hrest]

theorem lt_byteLength_of_lastOffsetOf? (h : lastOffsetOf? p s = some offset) :
    offset < byteLength s := by
  obtain ⟨parts, hcut, rfl⟩ := Option.map_eq_some_iff.1 h
  obtain ⟨c, -, rfl, -⟩ := cutLast?_eq_some hcut
  have hpos := c.utf8Size_pos
  rw [byteLength_append, byteLength]
  omega

end Text
end FilterSql
