import FilterSql.Config
import FilterSql.Proofs.Decimal.Bounded
import FilterSql.Proofs.Text.Trimming

/-!
# FilterSql.Proofs.Config

Which settings are accepted. The four limits are a list here, `Config.numeric`: what is said of
them is said of every member, and their order is the order in which errors are found.

* `Config.Limit.read_eq_ok_iff`, `Config.Limit.fails_of_read_eq_error`: what is read of one limit.
* `Config.fromLookup_loads`: the settings that are loaded, and the variable an error names.
-/

namespace FilterSql
namespace Config

/-! ## One limit -/

/-- A setting that is a natural number: the name of its variable and the largest value of its
type. -/
structure Limit where
  key : String
  bound : Nat
  field : Config → Nat

variable {lookup : String → Option String} {limit : Limit} {config : Config} {n m : Nat} {e : Error}

namespace Limit

/-- The number a limit has: the default without a variable, and otherwise the number that the text
writes between blanks. -/
inductive Gives (lookup : String → Option String) (limit : Limit) : Nat → Prop where
  | absent (h : lookup limit.key = none) : Gives lookup limit (limit.field default)
  | given {raw : String} {text : List Char} {n : Nat} (h : lookup limit.key = some raw)
      (hraw : Text.Padded raw.toList text) (htext : Decimal.Writes text n) (hn : n ≤ limit.bound) :
      Gives lookup limit n

def read (lookup : String → Option String) (limit : Limit) : Except Error Nat :=
  readLimit lookup limit.key limit.bound (limit.field default)

theorem read_eq_ok_iff : limit.read lookup = .ok n ↔ limit.Gives lookup n := by
  rw [read, readLimit]
  cases hraw : lookup limit.key with
  | none =>
    constructor
    · rintro ⟨⟩
      exact .absent hraw
    · rintro (_ | ⟨h, _⟩)
      · rfl
      · cases hraw.symm.trans h
  | some raw =>
    constructor
    · intro h
      cases hread : Decimal.readBounded limit.bound (Text.trim raw.toList) with
      | error reason => simp [hread] at h
      | ok m =>
        simp only [hread, Except.ok.injEq] at h
        subst h
        obtain ⟨htext, hm⟩ := Decimal.readBounded_eq_ok_iff.1 hread
        exact .given hraw (Text.exists_trim raw.toList) htext hm
    · rintro (h | ⟨h, hpadded, htext, hn⟩)
      · cases hraw.symm.trans h
      · cases hraw.symm.trans h
        have hread := Decimal.readBounded_eq_ok_iff.2 ⟨htext, hn⟩
        simp only [Text.trim_eq_iff.2 ⟨htext.noBlanks.trimmed, hpadded⟩, hread]

theorem Gives.unique (h : limit.Gives lookup n) (h' : limit.Gives lookup m) : n = m :=
  Except.ok.inj ((read_eq_ok_iff.2 h).symm.trans (read_eq_ok_iff.2 h'))

/-- The text of a variable that gives no number, and why it is refused. -/
inductive Fails (lookup : String → Option String) (limit : Limit) : Error → Prop where
  | intro {raw : String} {text : List Char} {reason : Decimal.ReadError}
      (h : lookup limit.key = some raw) (hraw : Text.Padded raw.toList text)
      (htext : Text.Trimmed text) (hreason : Decimal.Refuses limit.bound text reason) :
      Fails lookup limit (.config limit.key s!"'{raw}': {reason.message}")

theorem fails_of_read_eq_error (h : limit.read lookup = .error e) : limit.Fails lookup e := by
  rw [read, readLimit] at h
  cases hraw : lookup limit.key with
  | none => simp [hraw] at h
  | some raw =>
    cases hread : Decimal.readBounded limit.bound (Text.trim raw.toList) with
    | ok m => simp [hraw, hread] at h
    | error reason =>
      simp only [hraw, hread, Except.error.injEq] at h
      subst h
      obtain ⟨htext, hpadded⟩ := Text.trim_eq_iff.1 (Eq.refl (Text.trim raw.toList))
      exact .intro hraw hpadded htext (Decimal.refuses_of_readBounded hread)

end Limit

/-! ## All limits -/

/-- The limits, in the order in which they are read and then checked. -/
def numeric : List Limit :=
  [⟨"RK_MAX_CONNECTIONS", Decimal.max32, maxConnections⟩,
   ⟨"RK_MAX_BATCH_ROWS", Decimal.max64, maxBatchRows⟩,
   ⟨"RK_MAX_BIND_PARAMS", Decimal.max64, maxBindParams⟩,
   ⟨"RK_DEFAULT_PAGE_SIZE", Decimal.max64, defaultPageSize⟩]

/-- What a limit is by default is accepted. -/
theorem one_le_default : ∀ limit ∈ numeric, 1 ≤ limit.field default := by decide

theorem limits_eq (config : Config) :
    config.limits = numeric.map fun limit => (limit.key, limit.field config) := rfl

/-! ## The name of the identifier -/

/-- The text of the variable between the blanks around it, or the default if there is nothing but
blanks. -/
inductive NamesId (lookup : String → Option String) : String → Prop where
  | absent (h : lookup "RK_ID_COLUMN" = none) : NamesId lookup default.idColumn
  | blank {raw : String} (h : lookup "RK_ID_COLUMN" = some raw) (hraw : Text.Blanks raw.toList) :
      NamesId lookup default.idColumn
  | given {raw name : String} (h : lookup "RK_ID_COLUMN" = some raw)
      (hraw : Text.Padded raw.toList name.toList) (hname : Text.Trimmed name.toList)
      (hne : name ≠ "") : NamesId lookup name

theorem trimmed_eq_empty_iff {raw : String} : Text.trimmed raw = "" ↔ Text.Blanks raw.toList := by
  rw [Text.trimmed_eq_iff, String.toList_empty, Text.padded_nil_iff]
  exact and_iff_right ⟨nofun, nofun⟩

theorem NamesId.readIdColumn_eq {name : String} (h : NamesId lookup name) :
    readIdColumn lookup = name := by
  rw [readIdColumn]
  cases h with
  | absent h => simp [h]
  | blank h hraw => simp [h, trimmed_eq_empty_iff.2 hraw]
  | given h hraw hname hne => simp [h, Text.trimmed_eq_iff.2 ⟨hname, hraw⟩, hne]

theorem namesId_readIdColumn (lookup : String → Option String) :
    NamesId lookup (readIdColumn lookup) := by
  rw [readIdColumn]
  cases h : lookup "RK_ID_COLUMN" with
  | none => exact .absent h
  | some raw =>
    rw [Option.map_some]
    dsimp only
    split
    case isTrue hempty => exact .blank h (trimmed_eq_empty_iff.1 (String.isEmpty_iff.1 hempty))
    case isFalse hne =>
      obtain ⟨hname, hraw⟩ := Text.trimmed_eq_iff.1 (Eq.refl (Text.trimmed raw))
      exact .given h hraw hname fun heq => hne (String.isEmpty_iff.2 heq)

theorem readIdColumn_eq_iff {name : String} : readIdColumn lookup = name ↔ NamesId lookup name :=
  ⟨fun h => h ▸ namesId_readIdColumn lookup, NamesId.readIdColumn_eq⟩

/-! ## Zero -/

/-- The first limit that is zero decides the check. -/
theorem check_eq (config : Config) :
    check config = match numeric.find? fun limit => limit.field config == 0 with
      | some limit => .error (.config limit.key "must be greater than 0")
      | none => .ok config := by
  have hfind : (config.limits.find? fun limit => limit.2 == 0) =
      (numeric.find? fun limit => limit.field config == 0).map
        fun limit => (limit.key, limit.field config) := by
    rw [limits_eq, List.find?_map]
    rfl
  rw [check, hfind]
  cases numeric.find? fun limit => limit.field config == 0 <;> rfl

theorem check_eq_ok_iff {loaded : Config} :
    check config = .ok loaded ↔ config = loaded ∧ ∀ limit ∈ numeric, 1 ≤ limit.field config := by
  rw [check_eq]
  cases hzero : numeric.find? fun limit => limit.field config == 0 with
  | none =>
    have hpositive : ∀ limit ∈ numeric, 1 ≤ limit.field config := fun limit hlimit =>
      Nat.one_le_iff_ne_zero.2 (by simpa using List.find?_eq_none.1 hzero limit hlimit)
    rw [Except.ok.injEq]
    exact (and_iff_left hpositive).symm
  | some limit =>
    refine iff_of_false nofun ?_
    rintro ⟨-, hpositive⟩
    have hle := hpositive limit (List.mem_of_find?_eq_some hzero)
    have hfield : limit.field config = 0 := by simpa using List.find?_some hzero
    omega

theorem exists_of_check_eq_error (h : check config = .error e) :
    ∃ before limit after, numeric = before ++ limit :: after ∧
      (∀ earlier ∈ before, 1 ≤ earlier.field config) ∧ limit.field config = 0 ∧
        e = .config limit.key "must be greater than 0" := by
  rw [check_eq] at h
  cases hzero : numeric.find? fun limit => limit.field config == 0 with
  | none => simp [hzero] at h
  | some limit =>
    simp only [hzero, Except.error.injEq] at h
    obtain ⟨hfield, before, after, hnumeric, hbefore⟩ := List.find?_eq_some_iff_append.1 hzero
    refine ⟨before, limit, after, hnumeric, fun earlier hearlier => ?_, eq_of_beq hfield, h.symm⟩
    exact Nat.one_le_iff_ne_zero.2 (by simpa using hbefore earlier hearlier)

/-! ## Loading -/

/-- The settings that a lookup gives. -/
structure Loads (lookup : String → Option String) (config : Config) : Prop where
  limits : ∀ limit ∈ numeric, limit.Gives lookup (limit.field config)
  databaseUrl : config.databaseUrl = (lookup "RK_DATABASE_URL").getD default.databaseUrl
  idColumn : NamesId lookup config.idColumn

/-- The error of a lookup: that of the first variable that gives no number, or if all give one that
of the first one that gives zero. -/
inductive Blames (lookup : String → Option String) : Error → Prop where
  | unread {before after : List Limit} {limit : Limit} {e : Error}
      (hnumeric : numeric = before ++ limit :: after)
      (hbefore : ∀ earlier ∈ before, ∃ n, earlier.Gives lookup n)
      (hunread : ∀ n, ¬ limit.Gives lookup n) (hfails : limit.Fails lookup e) : Blames lookup e
  | zero {before after : List Limit} {limit : Limit} (hnumeric : numeric = before ++ limit :: after)
      (hread : ∀ other ∈ numeric, ∃ n, other.Gives lookup n)
      (hbefore : ∀ earlier ∈ before, ¬ earlier.Gives lookup 0) (hzero : limit.Gives lookup 0) :
      Blames lookup (.config limit.key "must be greater than 0")

theorem forall_numeric {p : Limit → Prop} :
    (∀ limit ∈ numeric, p limit) ↔
      p ⟨"RK_MAX_CONNECTIONS", Decimal.max32, maxConnections⟩ ∧
      p ⟨"RK_MAX_BATCH_ROWS", Decimal.max64, maxBatchRows⟩ ∧
      p ⟨"RK_MAX_BIND_PARAMS", Decimal.max64, maxBindParams⟩ ∧
      p ⟨"RK_DEFAULT_PAGE_SIZE", Decimal.max64, defaultPageSize⟩ := by
  simp [numeric]

/-- Either some limit cannot be read, and all limits before it can, or all of them are read and
then checked. -/
theorem cases_fromLookup (lookup : String → Option String) :
    (∃ before limit after e, numeric = before ++ limit :: after ∧
      (∀ earlier ∈ before, ∃ n, earlier.read lookup = .ok n) ∧ limit.read lookup = .error e ∧
        fromLookup lookup = .error e) ∨
    ∃ config, Loads lookup config ∧ fromLookup lookup = check config := by
  rw [fromLookup]
  cases hconnections :
      readLimit lookup "RK_MAX_CONNECTIONS" Decimal.max32 default.maxConnections with
  | error e => exact .inl ⟨[], _, _, e, rfl, nofun, hconnections, rfl⟩
  | ok connections =>
    cases hrows : readLimit lookup "RK_MAX_BATCH_ROWS" Decimal.max64 default.maxBatchRows with
    | error e =>
      refine .inl ⟨[_], _, _, e, rfl, ?_, hrows, rfl⟩
      simpa using ⟨connections, hconnections⟩
    | ok rows =>
      cases hbinds : readLimit lookup "RK_MAX_BIND_PARAMS" Decimal.max64 default.maxBindParams with
      | error e =>
        refine .inl ⟨[_, _], _, _, e, rfl, ?_, hbinds, rfl⟩
        simpa using ⟨⟨connections, hconnections⟩, rows, hrows⟩
      | ok binds =>
        cases hsize :
            readLimit lookup "RK_DEFAULT_PAGE_SIZE" Decimal.max64 default.defaultPageSize with
        | error e =>
          refine .inl ⟨[_, _, _], _, _, e, rfl, ?_, hsize, rfl⟩
          simpa using ⟨⟨connections, hconnections⟩, ⟨rows, hrows⟩, binds, hbinds⟩
        | ok size =>
          refine .inr ⟨_, ⟨?_, rfl, namesId_readIdColumn lookup⟩, rfl⟩
          exact forall_numeric.2 ⟨Limit.read_eq_ok_iff.1 hconnections, Limit.read_eq_ok_iff.1 hrows,
            Limit.read_eq_ok_iff.1 hbinds, Limit.read_eq_ok_iff.1 hsize⟩

theorem Loads.unique {other : Config} (h : Loads lookup config) (h' : Loads lookup other) :
    config = other := by
  obtain ⟨hconnections, hrows, hbinds, hsize⟩ := forall_numeric.1 h.limits
  obtain ⟨hconnections', hrows', hbinds', hsize'⟩ := forall_numeric.1 h'.limits
  have hurl := h.databaseUrl.trans h'.databaseUrl.symm
  have hid := (readIdColumn_eq_iff.2 h.idColumn).symm.trans (readIdColumn_eq_iff.2 h'.idColumn)
  cases config
  cases other
  rw [Config.mk.injEq]
  exact ⟨hurl, hconnections.unique hconnections', hrows.unique hrows', hbinds.unique hbinds',
    hsize.unique hsize', hid⟩

/-- A limit that cannot be read gives no number. -/
theorem not_gives_of_read_eq_error (h : limit.read lookup = .error e) (n : Nat) :
    ¬ limit.Gives lookup n := by
  intro hgives
  cases h.symm.trans (Limit.read_eq_ok_iff.2 hgives)

theorem fromLookup_eq_ok_iff :
    fromLookup lookup = .ok config ↔
      Loads lookup config ∧ ∀ limit ∈ numeric, 1 ≤ limit.field config := by
  obtain ⟨before, limit, after, e, hnumeric, -, hread, heq⟩ | ⟨loaded, hloads, heq⟩ :=
    cases_fromLookup lookup
  · rw [heq]
    refine iff_of_false nofun ?_
    rintro ⟨hloads, -⟩
    exact not_gives_of_read_eq_error hread _ (hloads.limits limit (by simp [hnumeric]))
  · rw [heq, check_eq_ok_iff]
    constructor
    · rintro ⟨rfl, hpositive⟩
      exact ⟨hloads, hpositive⟩
    · rintro ⟨hconfig, hpositive⟩
      cases hloads.unique hconfig
      exact ⟨rfl, hpositive⟩

theorem exists_fromLookup_iff :
    (∃ config, fromLookup lookup = .ok config) ↔
      ∀ limit ∈ numeric, lookup limit.key = none ∨ ∃ n, 1 ≤ n ∧ limit.Gives lookup n := by
  constructor
  · rintro ⟨config, h⟩ limit hlimit
    obtain ⟨hloads, hpositive⟩ := fromLookup_eq_ok_iff.1 h
    exact .inr ⟨limit.field config, hpositive limit hlimit, hloads.limits limit hlimit⟩
  · intro h
    have hgives : ∀ limit ∈ numeric, ∃ n, 1 ≤ n ∧ limit.Gives lookup n := by
      intro limit hlimit
      obtain habsent | hgives := h limit hlimit
      · exact ⟨_, one_le_default limit hlimit, .absent habsent⟩
      · exact hgives
    obtain ⟨before, limit, after, e, hnumeric, -, hread, -⟩ | ⟨config, hloads, heq⟩ :=
      cases_fromLookup lookup
    · obtain ⟨n, -, hn⟩ := hgives limit (by simp [hnumeric])
      exact absurd hn (not_gives_of_read_eq_error hread n)
    · refine ⟨config, heq.trans (check_eq_ok_iff.2 ⟨rfl, fun limit hlimit => ?_⟩)⟩
      obtain ⟨n, hpositive, hn⟩ := hgives limit hlimit
      rwa [(hloads.limits limit hlimit).unique hn]

theorem blames_of_eq_error (h : fromLookup lookup = .error e) : Blames lookup e := by
  obtain ⟨before, limit, after, e', hnumeric, hbefore, hread, heq⟩ | ⟨config, hloads, heq⟩ :=
    cases_fromLookup lookup
  · cases heq.symm.trans h
    refine .unread hnumeric (fun earlier hearlier => ?_) (not_gives_of_read_eq_error hread)
      (Limit.fails_of_read_eq_error hread)
    obtain ⟨n, hn⟩ := hbefore earlier hearlier
    exact ⟨n, Limit.read_eq_ok_iff.1 hn⟩
  · obtain ⟨before, limit, after, hnumeric, hpositive, hzero, rfl⟩ :=
      exists_of_check_eq_error (heq.symm.trans h)
    refine .zero hnumeric (fun other hother => ⟨_, hloads.limits other hother⟩) ?_ ?_
    · intro earlier hearlier hgives
      have hfield := (hloads.limits earlier (by simp [hnumeric, hearlier])).unique hgives
      exact absurd hfield (Nat.one_le_iff_ne_zero.1 (hpositive earlier hearlier))
    · have hgives := hloads.limits limit (by simp [hnumeric])
      rwa [hzero] at hgives

/-- Every lookup either gives settings with limits of at least one or is refused for the first
variable that is at fault. -/
theorem fromLookup_loads (lookup : String → Option String) :
    ((∃ config, fromLookup lookup = .ok config) ↔
      ∀ limit ∈ numeric, lookup limit.key = none ∨ ∃ n, 1 ≤ n ∧ limit.Gives lookup n) ∧
    (∀ config, fromLookup lookup = .ok config ↔
      Loads lookup config ∧ ∀ limit ∈ numeric, 1 ≤ limit.field config) ∧
    ∀ e, fromLookup lookup = .error e → Blames lookup e :=
  ⟨exists_fromLookup_iff, fun _ => fromLookup_eq_ok_iff, fun _ => blames_of_eq_error⟩

/-- A padded number with a sign and leading zeros and a blank name are accepted; a text that is no
number is reported although a limit before it is zero. -/
theorem fromLookup_loads_padded :
    fromLookup (fun key => [("RK_MAX_BATCH_ROWS", " +032\t"), ("RK_ID_COLUMN", " ")].lookup key) =
        .ok { default with maxBatchRows := 32 } ∧
      Blames (fun key => [("RK_MAX_BATCH_ROWS", "0"), ("RK_DEFAULT_PAGE_SIZE", "1_0")].lookup key)
        (.config "RK_DEFAULT_PAGE_SIZE" "'1_0': invalid digit found in string") := by
  obtain ⟨-, hloads, -⟩ := fromLookup_loads
    fun key => [("RK_MAX_BATCH_ROWS", " +032\t"), ("RK_ID_COLUMN", " ")].lookup key
  obtain ⟨-, -, hblames⟩ := fromLookup_loads
    fun key => [("RK_MAX_BATCH_ROWS", "0"), ("RK_DEFAULT_PAGE_SIZE", "1_0")].lookup key
  have hdigits : ['0', '3', '2'].all Decimal.isDigit = true := rfl
  have hwrites : Decimal.Writes ['+', '0', '3', '2'] 32 :=
    .intro (.inr rfl) (List.cons_ne_nil '0' ['3', '2']) (List.all_eq_true.1 hdigits)
  have hrows : Text.Padded " +032\t".toList ['+', '0', '3', '2'] :=
    ⟨[' '], ['\t'], by decide, by decide, by decide +kernel⟩
  refine ⟨(hloads _).2 ⟨⟨?_, rfl, .blank rfl (by decide +kernel)⟩, ?_⟩, hblames _ rfl⟩
  · exact forall_numeric.2 ⟨.absent rfl,
      .given rfl hrows hwrites (by decide), .absent rfl, .absent rfl⟩
  · exact forall_numeric.2 (by decide)

end Config
end FilterSql
