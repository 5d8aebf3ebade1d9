import FilterSql.Database.Url
import FilterSql.Proofs.Text.Offset

/-!
# FilterSql.Proofs.Database.Redaction

What is left of a URL for a log. The credentials may hold anything, also what stands around
credentials in a URL: the mark behind the scheme is the first one, and the `@` is the last.

* `Url.redacted?_credentials`: what stands in between does not matter.
* `Url.redacted?_unmarked`, `Url.redacted?_plain`: URLs without credentials.
* `Url.redacted_hides_credentials`: both together, and that every URL can be cut where it is.
-/

namespace FilterSql
namespace Url

variable {scheme credentials host rest : List Char}

theorem unbordered_schemeMark : Text.Unbordered schemeMark := by decide

theorem offsetOf?_schemeMark (h : ¬ schemeMark <:+: scheme) (rest : List Char) :
    Text.offsetOf? schemeMark (scheme ++ (schemeMark ++ rest)) = some (Text.byteLength scheme) := by
  rw [Text.offsetOf?, Text.cutText?_append unbordered_schemeMark (by decide) h]
  rfl

/-- A place behind the mark is a place to cut at as well. -/
theorem cutAt?_schemeMark (scheme rest : List Char) :
    Text.cutAt? (Text.byteLength scheme + 3) (scheme ++ (schemeMark ++ rest)) =
      some (scheme ++ schemeMark, rest) := by
  have hmark : Text.byteLength scheme + 3 = Text.byteLength (scheme ++ schemeMark) := by
    rw [Text.byteLength_append]
    rfl
  rw [hmark, ← List.append_assoc, Text.cutAt?_byteLength]

/-! ## URLs with credentials -/

theorem redacted?_credentials (hscheme : ¬ schemeMark <:+: scheme) (hhost : '@' ∉ host)
    (credentials : List Char) :
    redacted? (String.ofList (scheme ++ (schemeMark ++ (credentials ++ '@' :: host)))) =
      some (String.ofList (scheme ++ schemeMark ++ "****".toList ++ '@' :: host)) := by
  have hfront : scheme ++ (schemeMark ++ (credentials ++ '@' :: host)) =
      (scheme ++ (schemeMark ++ credentials)) ++ '@' :: host := by simp
  have hat : Text.lastOffsetOf? (· == '@')
      (scheme ++ (schemeMark ++ (credentials ++ '@' :: host))) =
        some (Text.byteLength (scheme ++ (schemeMark ++ credentials))) := by
    rw [hfront, Text.lastOffsetOf?_append rfl (Text.forall_beq_eq_false hhost)]
  have hback : Text.cutAt? (Text.byteLength (scheme ++ (schemeMark ++ credentials)))
      (scheme ++ (schemeMark ++ (credentials ++ '@' :: host))) =
        some (scheme ++ (schemeMark ++ credentials), '@' :: host) := by
    rw [hfront, Text.cutAt?_byteLength]
  have hlt : Text.byteLength scheme < Text.byteLength (scheme ++ (schemeMark ++ credentials)) := by
    have hmark : Text.byteLength schemeMark = 3 := rfl
    rw [Text.byteLength_append, Text.byteLength_append, hmark]
    omega
  simp only [redacted?, String.toList_ofList, offsetOf?_schemeMark hscheme, hat, if_pos hlt,
    cutAt?_schemeMark, hback]

/-! ## URLs without credentials -/

theorem redacted?_unmarked {url : String} (h : ¬ schemeMark <:+: url.toList) :
    redacted? url = some url := by
  rw [redacted?, Text.offsetOf?, Text.cutText?_eq_none_iff.2 h]
  rfl

/-- An `@` in front of the mark does not count. -/
theorem redacted?_plain (hscheme : ¬ schemeMark <:+: scheme) (hrest : '@' ∉ rest) :
    redacted? (String.ofList (scheme ++ (schemeMark ++ rest))) =
      some (String.ofList (scheme ++ (schemeMark ++ rest))) := by
  have hnone : ∀ c ∈ schemeMark ++ rest, (c == '@') = false := by
    refine Text.forall_beq_eq_false fun hmem => ?_
    rcases List.mem_append.1 hmem with hmark | hmem
    · exact absurd hmark (by decide)
    · exact hrest hmem
  have hlast : Text.lastOffsetOf? (· == '@') (scheme ++ (schemeMark ++ rest)) =
      Text.lastOffsetOf? (· == '@') scheme := Text.lastOffsetOf?_append_of_forall scheme hnone
  simp only [redacted?, String.toList_ofList, offsetOf?_schemeMark hscheme, hlast]
  cases hat : Text.lastOffsetOf? (· == '@') scheme with
  | none => rfl
  | some host => exact if_neg (Text.lt_byteLength_of_lastOffsetOf? hat).asymm

/-! ## All URLs -/

/-- The parts of a URL: without a mark it is a single one, without an `@` behind the mark there are
no credentials. -/
theorem cases_of_url (url : String) :
    ¬ schemeMark <:+: url.toList ∨
      ∃ scheme, ¬ schemeMark <:+: scheme ∧
        ((∃ rest, '@' ∉ rest ∧ url = String.ofList (scheme ++ (schemeMark ++ rest))) ∨
          ∃ credentials host, '@' ∉ host ∧
            url = String.ofList (scheme ++ (schemeMark ++ (credentials ++ '@' :: host)))) := by
  cases hmark : Text.cutText? schemeMark url.toList with
  | none => exact .inl (Text.cutText?_eq_none_iff.1 hmark)
  | some parts =>
    obtain ⟨hurl, hscheme⟩ := Text.cutText?_eq_some (by decide) hmark
    refine .inr ⟨parts.1, hscheme, ?_⟩
    cases hat : Text.cutLast? (· == '@') parts.2 with
    | none =>
      have hrest := Text.cutLast?_eq_none_iff.1 hat
      refine .inl ⟨parts.2, fun hmem => absurd (hrest _ hmem) (by decide), ?_⟩
      rw [← hurl, String.ofList_toList]
    | some around =>
      obtain ⟨c, hc, hparts, hhost⟩ := Text.cutLast?_eq_some hat
      refine .inr ⟨around.1, around.2, fun hmem => absurd (hhost _ hmem) (by decide), ?_⟩
      rw [← eq_of_beq hc, ← hparts, ← hurl, String.ofList_toList]

theorem exists_redacted? (url : String) : ∃ shown, redacted? url = some shown := by
  obtain h | ⟨scheme, hscheme, ⟨rest, hrest, rfl⟩ | ⟨credentials, host, hhost, rfl⟩⟩ :=
    cases_of_url url
  · exact ⟨_, redacted?_unmarked h⟩
  · exact ⟨_, redacted?_plain hscheme hrest⟩
  · exact ⟨_, redacted?_credentials hscheme hhost credentials⟩

/-- Whatever the credentials are, the same is shown for them. -/
theorem redacted_hides_credentials :
    (∀ scheme first second host : String, ¬ "://".toList <:+: scheme.toList → '@' ∉ host.toList →
      redacted? (scheme ++ "://" ++ first ++ "@" ++ host) =
          redacted? (scheme ++ "://" ++ second ++ "@" ++ host) ∧
        redacted? (scheme ++ "://" ++ first ++ "@" ++ host) = some (scheme ++ "://****@" ++ host)) ∧
    (∀ url : String, ¬ "://".toList <:+: url.toList → redacted? url = some url) ∧
    (∀ scheme rest : String, ¬ "://".toList <:+: scheme.toList → '@' ∉ rest.toList →
      redacted? (scheme ++ "://" ++ rest) = some (scheme ++ "://" ++ rest)) ∧
    ∀ url, ∃ shown, redacted? url = some shown := by
  refine ⟨fun scheme first second host hscheme hhost => ?_, fun _ => redacted?_unmarked,
    fun scheme rest hscheme hrest => ?_, exists_redacted?⟩
  · have hshown (credentials : String) : redacted? (scheme ++ "://" ++ credentials ++ "@" ++ host) =
        some (scheme ++ "://****@" ++ host) := by
      have hurl : scheme ++ "://" ++ credentials ++ "@" ++ host = String.ofList
          (scheme.toList ++ (schemeMark ++ (credentials.toList ++ '@' :: host.toList))) :=
        String.toList_inj.1 (by simp [schemeMark])
      rw [hurl, redacted?_credentials hscheme hhost]
      exact congrArg some (String.toList_inj.1 (by simp [schemeMark]))
    exact ⟨(hshown first).trans (hshown second).symm, hshown first⟩
  · have hurl : scheme ++ "://" ++ rest =
        String.ofList (scheme.toList ++ (schemeMark ++ rest.toList)) :=
      String.toList_inj.1 (by simp [schemeMark])
    rw [hurl, redacted?_plain hscheme hrest]

/-- A user name and a password that look like further parts of the URL, in letters of more than one
byte. -/
theorem redacted_hides_credentials_postgres :
    redacted? "postgres://rk:s€cret@x://ü@db:5432/app" = redacted? "postgres://@db:5432/app" ∧
      redacted? "postgres://rk:s€cret@x://ü@db:5432/app" = some "postgres://****@db:5432/app" ∧
      redacted? "sqlite::memory:" = some "sqlite::memory:" ∧
      redacted? "me@pg://db/app" = some "me@pg://db/app" := by
  obtain ⟨hhidden, hunmarked, hplain, -⟩ := redacted_hides_credentials
  have hshown :=
    hhidden "postgres" "rk:s€cret@x://ü" "" "db:5432/app" (by decide +kernel) (by decide +kernel)
  have hkept := hplain "me@pg" "db/app" (by decide +kernel) (by decide +kernel)
  simp only [String.reduceAppend] at hshown hkept
  exact ⟨hshown.1, hshown.2, hunmarked "sqlite::memory:" (by decide +kernel), hkept⟩

end Url
end FilterSql
