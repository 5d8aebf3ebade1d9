import FilterSql.Proofs.Decimal.Digits
import FilterSql.Proofs.Sql.Values

/-!
# FilterSql.Proofs.Sql.Reader

Statements read back from their text and their values. A reader does not know how statements are
put together: it takes keywords, quoted names and placeholders off the front of the text, and the
next value for each placeholder.

* `Sql.Reader`: readers, which may fail.
* `Sql.Reads`: a reader takes back what some pieces were written for.
* `Sql.reads_name`, `Sql.reads_cell`, `Sql.reads_list`: names, cells and lists are taken back.
-/

namespace FilterSql
namespace Sql

/-- What is left of a statement. -/
structure Unread where
  chars : List Char
  /-- The number of the next placeholder. -/
  next : Nat
  values : List Bound

def Unread.ofStatement (statement : Statement) : Unread :=
  ⟨statement.sql.toList, 1, statement.args⟩

def Reader (α : Type) : Type := Unread → Option (α × Unread)

namespace Reader

instance : Monad Reader where
  pure a := fun unread => some (a, unread)
  bind read next := fun unread =>
    match read unread with
    | none => none
    | some (a, unread) => next a unread

theorem bind_of_some {α β : Type} {read : Reader α} {next : α → Reader β} {unread after : Unread}
    {a : α} (h : read unread = some (a, after)) : (read >>= next) unread = next a after := by
  simp only [bind, h]

theorem bind_of_none {α β : Type} {read : Reader α} {next : α → Reader β} {unread : Unread}
    (h : read unread = none) : (read >>= next) unread = none := by
  simp only [bind, h]

/-- The second reader stands in where the first one fails. -/
def orElse {α : Type} (first second : Reader α) : Reader α := fun unread =>
  match first unread with
  | none => second unread
  | some result => some result

theorem orElse_of_some {α : Type} {first second : Reader α} {unread : Unread} {result : α × Unread}
    (h : first unread = some result) : orElse first second unread = some result := by
  simp only [orElse, h]

theorem orElse_of_none {α : Type} {first second : Reader α} {unread : Unread}
    (h : first unread = none) : orElse first second unread = second unread := by
  simp only [orElse, h]

/-- A whole statement: nothing is left of its text and its values. -/
def whole? {α : Type} (read : Reader α) (statement : Statement) : Option α :=
  match read (.ofStatement statement) with
  | some (a, ⟨[], _, []⟩) => some a
  | _ => none

def skip (text : String) : Reader Unit := fun unread =>
  if text.toList.isPrefixOf unread.chars then
    some ((), { unread with chars := unread.chars.drop text.toList.length })
  else none

/-- The text up to the first quote that is not doubled, and what follows that quote. -/
def quoted? : List Char → Option (List Char × List Char)
  | [] => none
  | '"' :: '"' :: rest => (quoted? rest).map fun parts => ('"' :: parts.1, parts.2)
  | '"' :: rest => some ([], rest)
  | c :: rest => (quoted? rest).map fun parts => (c :: parts.1, parts.2)

def name : Reader String := fun unread =>
  match unread.chars with
  | '"' :: rest =>
    (quoted? rest).map fun parts => (String.ofList parts.1, { unread with chars := parts.2 })
  | _ => none

/-- The name that is given and no other. -/
def named (expected : String) : Reader Unit := fun unread =>
  match name unread with
  | some (found, unread) => if found = expected then some ((), unread) else none
  | none => none

/-- What follows the placeholder of a number. PostgreSQL writes the numbers, SQLite counts. -/
def afterPlaceholder? (dialect : Dialect) (n : Nat) (chars : List Char) : Option (List Char) :=
  match dialect, chars with
  | .sqlite, '?' :: rest => some rest
  | .postgres, '$' :: rest =>
    let (digits, rest) := rest.span Decimal.isDigit
    if Nat.ofDigitChars 10 digits 0 = n then some rest else none
  | _, _ => none

def bound (dialect : Dialect) : Reader Bound := fun unread =>
  match afterPlaceholder? dialect unread.next unread.chars, unread.values with
  | some rest, value :: values => some (value, ⟨rest, unread.next + 1, values⟩)
  | _, _ => none

/-- The value of a cell, or none for the keyword of NULL. -/
def cell (dialect : Dialect) : Reader (Option Bound) :=
  orElse (do skip "NULL"; return none) (do let value ← bound dialect; return some value)

/-- The items of a list behind the first one, each with a comma in front. -/
def moreWithin {α : Type} (item : Reader α) : Nat → Reader (List α)
  | 0 => fun _ => none
  | fuel + 1 =>
    orElse (do skip ", "; let a ← item; let more ← moreWithin item fuel; return a :: more)
      (return [])

/-- One or more items. No list has more of them than the text has characters. -/
def list {α : Type} (item : Reader α) : Reader (List α) := do
  let a ← item
  let more ← fun unread => moreWithin item (unread.chars.length + 1) unread
  return a :: more

end Reader

/-! ## Reading back -/

/-- What was written for some pieces is read as `a`, in front of any text of some kind. -/
def ReadsBefore {α : Type} (dialect : Dialect) (before : List Char → Prop) (read : Reader α)
    (pieces : List Piece) (a : α) : Prop :=
  ∀ (n : Nat) (rest : List Char) (values : List Bound), before rest →
    read ⟨Piece.write dialect n pieces ++ rest, n, binds pieces ++ values⟩ =
      some (a, ⟨rest, n + (binds pieces).length, values⟩)

/-- The text is at its end, or goes on with a character of a class. -/
def GoesOn (follow : Char → Bool) (rest : List Char) : Prop := ∀ c ∈ rest.head?, follow c = true

/-- What was written for some pieces is read as `a`, in front of any text that goes on as
`follow` allows. -/
def Reads {α : Type} (dialect : Dialect) (follow : Char → Bool) (read : Reader α)
    (pieces : List Piece) (a : α) : Prop :=
  ∀ (n : Nat) (rest : List Char) (values : List Bound), GoesOn follow rest →
    read ⟨Piece.write dialect n pieces ++ rest, n, binds pieces ++ values⟩ =
      some (a, ⟨rest, n + (binds pieces).length, values⟩)

variable {dialect : Dialect} {α β : Type} {follow follow' : Char → Bool} {pieces : List Piece}
variable {before before' : List Char → Prop}

/-- The second part has to go on as the first part allows. -/
theorem ReadsBefore.bind {read : Reader α} {a : α} {next : α → Reader β} {more : List Piece} {b : β}
    (ha : ReadsBefore dialect before read pieces a)
    (hb : ReadsBefore dialect before' (next a) more b)
    (hgo : ∀ (n : Nat) (rest : List Char), before' rest →
      before (Piece.write dialect n more ++ rest)) :
    ReadsBefore dialect before' (read >>= next) (pieces ++ more) b := by
  intro n rest values hr
  have hread := ha n (Piece.write dialect (n + (binds pieces).length) more ++ rest)
    (binds more ++ values) (hgo _ _ hr)
  rw [write_append, binds_append, List.append_assoc, List.append_assoc,
    Reader.bind_of_some hread, hb _ rest values hr, List.length_append, Nat.add_assoc]

theorem ReadsBefore.map {read : Reader α} {a : α} (f : α → β)
    (h : ReadsBefore dialect before read pieces a) :
    ReadsBefore dialect before (do let a ← read; return f a) pieces (f a) :=
  fun n rest values hr => Reader.bind_of_some (h n rest values hr)

theorem Reads.mono {read : Reader α} {a : α} (h : Reads dialect follow read pieces a)
    (hf : ∀ c, follow' c = true → follow c = true) : Reads dialect follow' read pieces a :=
  fun n rest values hr => h n rest values fun c hc => hf c (hr c hc)

theorem Reads.bind {read : Reader α} {a : α} {next : α → Reader β} {more : List Piece} {b : β}
    (ha : Reads dialect follow read pieces a) (hb : Reads dialect follow' (next a) more b)
    (hgo : ∀ (n : Nat) (rest : List Char), GoesOn follow' rest →
      GoesOn follow (Piece.write dialect n more ++ rest)) :
    Reads dialect follow' (read >>= next) (pieces ++ more) b :=
  ReadsBefore.bind ha hb hgo

theorem Reads.orElse {first second : Reader α} {a : α}
    (h : Reads dialect follow first pieces a) :
    Reads dialect follow (Reader.orElse first second) pieces a :=
  fun n rest values hr => Reader.orElse_of_some (h n rest values hr)

theorem Reads.pure (a : α) : Reads dialect follow (Pure.pure a) [] a := fun _ _ _ _ => rfl

theorem Reads.map {read : Reader α} {a : α} (f : α → β) (h : Reads dialect follow read pieces a) :
    Reads dialect follow (do let a ← read; return f a) pieces (f a) :=
  ReadsBefore.map f h

theorem ReadsBefore.whole? {read : Reader α} {a : α} (h : ReadsBefore dialect before read pieces a)
    (hend : before []) : Reader.whole? read (.ofPieces dialect pieces) = some a := by
  have hread := h 1 [] [] hend
  rw [List.append_nil, List.append_nil] at hread
  simp only [Reader.whole?, Unread.ofStatement, Statement.ofPieces, String.toList_ofList]
  rw [← binds, hread]

theorem Reads.whole? {read : Reader α} {a : α} (h : Reads dialect follow read pieces a) :
    Reader.whole? read (.ofPieces dialect pieces) = some a :=
  ReadsBefore.whole? h (by intro c hc; cases hc)

/-! ## Keywords -/

theorem skip_append (text : String) (rest : List Char) (n : Nat) (values : List Bound) :
    Reader.skip text ⟨text.toList ++ rest, n, values⟩ = some ((), ⟨rest, n, values⟩) := by
  have h : text.toList.isPrefixOf (text.toList ++ rest) = true :=
    List.isPrefixOf_iff_prefix.2 (List.prefix_append _ _)
  rw [Reader.skip, if_pos h, List.drop_left]

/-- A keyword is not read off a text with another first character, nor at the end. -/
theorem skip_of_head_ne {text : String} {chars : List Char} (ht : text.toList ≠ [])
    (h : chars.head? ≠ text.toList.head?) (n : Nat) (values : List Bound) :
    Reader.skip text ⟨chars, n, values⟩ = none := by
  have hprefix : ¬ text.toList.isPrefixOf chars = true := by
    intro hp
    obtain ⟨more, rfl⟩ := List.isPrefixOf_iff_prefix.1 hp
    rw [List.head?_append, List.head?_eq_some_head ht, Option.some_or] at h
    exact h rfl
  rw [Reader.skip, if_neg hprefix]

theorem ReadsBefore.skip {next : Reader β} {b : β} (text : String)
    (h : ReadsBefore dialect before next pieces b) :
    ReadsBefore dialect before (do Reader.skip text; next) (.text text :: pieces) b := by
  intro n rest values hr
  have hskip := skip_append text (Piece.write dialect n pieces ++ rest) n (binds pieces ++ values)
  rw [Piece.write, List.append_assoc, binds_text, Reader.bind_of_some hskip]
  exact h n rest values hr

theorem Reads.skip {next : Reader β} {b : β} (text : String)
    (h : Reads dialect follow next pieces b) :
    Reads dialect follow (do Reader.skip text; next) (.text text :: pieces) b :=
  ReadsBefore.skip text h

theorem goesOn_text {text : String} {c : Char} (ht : text.toList.head? = some c)
    (hc : follow c = true) (more : List Piece) (n : Nat) (rest : List Char) :
    GoesOn follow (Piece.write dialect n (.text text :: more) ++ rest) := by
  intro x hx
  rw [Piece.write, List.append_assoc, List.head?_append, ht, Option.some_or] at hx
  cases hx
  exact hc

/-- A keyword ends the part in front of it if that part may go on with its first character. -/
theorem Reads.bind_skip {read : Reader α} {a : α} {next : α → Reader β} {more : List Piece} {b : β}
    (ha : Reads dialect follow read pieces a) {text : String} {c : Char}
    (ht : text.toList.head? = some c) (hc : follow c = true)
    (hb : Reads dialect follow' (next a) more b) :
    Reads dialect follow' (do let a ← read; Reader.skip text; next a)
      (pieces ++ .text text :: more) b :=
  ha.bind (Reads.skip text hb) fun n rest _ => goesOn_text ht hc more n rest

/-! ## Names and placeholders -/

/-- Neither a quote nor a digit, so that a name or a placeholder ends in front of it. -/
def isPlain (c : Char) : Bool := c != '"' && !Decimal.isDigit c

theorem quoted?_doubled (s : List Char) {rest : List Char} (hr : GoesOn isPlain rest) :
    Reader.quoted? (s.flatMap (fun c => if c == '"' then ['"', '"'] else [c]) ++ '"' :: rest) =
      some (s, rest) := by
  induction s with
  | nil =>
    cases rest with
    | nil => rfl
    | cons c more =>
      have hc : c ≠ '"' := by
        rintro rfl
        exact absurd (hr '"' rfl) (by decide)
      simp [Reader.quoted?, hc]
  | cons c s ih =>
    simp only [beq_iff_eq] at ih
    by_cases hc : c = '"'
    · subst hc
      simp [Reader.quoted?, ih]
    · simp [Reader.quoted?, hc, ih]

theorem reads_name (s : String) : Reads dialect isPlain Reader.name [.name s] s := by
  intro n rest values hr
  have h := quoted?_doubled s.toList hr
  simp only [Piece.write, quoteName, List.append_nil, List.cons_append, List.append_assoc,
    List.nil_append, Reader.name, h, Option.map_some, String.ofList_toList, binds_name, binds_nil,
    List.length_nil, Nat.add_zero]

theorem reads_named (s : String) : Reads dialect isPlain (Reader.named s) [.name s] () := by
  intro n rest values hr
  rw [Reader.named, reads_name s n rest values hr]
  exact if_pos rfl

theorem afterPlaceholder?_placeholder (n : Nat) {rest : List Char} (hr : GoesOn isPlain rest) :
    Reader.afterPlaceholder? dialect n (placeholder dialect n ++ rest) = some rest := by
  cases dialect with
  | sqlite => rfl
  | postgres =>
    have hends : Decimal.EndsDigits rest := by
      intro c hc
      have hplain := hr c hc
      simp only [isPlain, Bool.and_eq_true, Bool.not_eq_true'] at hplain
      exact hplain.2
    have hspan : (Nat.toDigits 10 n ++ rest).span Decimal.isDigit = (Nat.toDigits 10 n, rest) :=
      Decimal.span_digits (fun _ hc => Decimal.isDigit_toDigits hc) hends
    simp only [Reader.afterPlaceholder?, placeholder, List.cons_append, hspan,
      Nat.ofDigitChars_ten_toDigits, if_true]

theorem reads_bound (value : Bound) :
    Reads dialect isPlain (Reader.bound dialect) [.bind value] value := by
  intro n rest values hr
  simp only [Piece.write, List.append_nil, binds_bind, binds_nil, List.cons_append,
    List.nil_append, Reader.bound, afterPlaceholder?_placeholder n hr, List.length_cons,
    List.length_nil]

theorem skip_null_placeholder (dialect : Dialect) (n : Nat) (rest : List Char)
    (values : List Bound) :
    Reader.skip "NULL" ⟨placeholder dialect n ++ rest, n, values⟩ = none := by
  cases dialect with
  | sqlite => exact skip_of_head_ne (by decide) (by simp [placeholder]) _ _
  | postgres => exact skip_of_head_ne (by decide) (by simp [placeholder]) _ _

theorem reads_cell (value : Option Bound) :
    Reads dialect isPlain (Reader.cell dialect) (valuePieces value) value := by
  cases value with
  | none => exact Reads.orElse (Reads.skip "NULL" (Reads.pure none))
  | some value =>
    intro n rest values hr
    have hbound : Reads dialect isPlain (do let value ← Reader.bound dialect; return some value)
        [.bind value] (some value) := (reads_bound value).map some
    -- A placeholder is not the keyword, so the second reader comes to it.
    have hnull : (do Reader.skip "NULL"; return none : Reader (Option Bound))
        ⟨Piece.write dialect n [.bind value] ++ rest, n, binds [.bind value] ++ values⟩ = none := by
      simp only [Piece.write, List.append_nil]
      exact Reader.bind_of_none (skip_null_placeholder dialect n rest _)
    exact (Reader.orElse_of_none hnull).trans (hbound n rest values hr)

/-! ## Lists -/

theorem separated_cons (separator : String) (pieces : List Piece) (rest : List (List Piece)) :
    separated separator (pieces :: rest) =
      pieces ++ rest.flatMap fun more => .text separator :: more := by
  induction rest generalizing pieces with
  | nil => simp [separated]
  | cons next rest ih => simp [separated, ih]

/-- What may follow a list: what may follow an item, but not the comma of a further item. -/
def endsItems (follow : Char → Bool) (c : Char) : Bool := follow c && c != ','

/-- A plain character that does not lead on to a further item of a list. -/
def endsList : Char → Bool := endsItems isPlain

theorem follow_of_endsItems {c : Char} (h : endsItems follow c = true) : follow c = true :=
  (Bool.and_eq_true_iff.1 h).1

theorem skip_comma_of_goesOn {rest : List Char} (hr : GoesOn (endsItems follow) rest) (n : Nat)
    (values : List Bound) : Reader.skip ", " ⟨rest, n, values⟩ = none := by
  have hcomma : rest.head? ≠ (", ".toList).head? := by
    intro heq
    simpa [endsItems] using hr ',' heq
  exact skip_of_head_ne (by decide) hcomma n values

/-- What follows an item is a comma, or what may follow the list. -/
theorem goesOn_more (hcomma : follow ',' = true) (write : α → List Piece) (items : List α) (n : Nat)
    {rest : List Char} (hr : GoesOn (endsItems follow) rest) :
    GoesOn follow (Piece.write dialect n
      ((items.map write).flatMap fun more => .text ", " :: more) ++ rest) := by
  cases items with
  | nil => exact fun c hc => follow_of_endsItems (hr c hc)
  | cons a items => exact goesOn_text rfl hcomma _ n rest

theorem reads_item_more (hcomma : follow ',' = true) {item : Reader α} {more : Reader (List α)}
    {write : α → List Piece} {a : α} {items : List α} (ha : Reads dialect follow item (write a) a)
    (hmore : Reads dialect (endsItems follow) more
      ((items.map write).flatMap fun more => .text ", " :: more) items) :
    Reads dialect (endsItems follow) (do let a ← item; let more ← more; return a :: more)
      (write a ++ (items.map write).flatMap fun more => .text ", " :: more) (a :: items) :=
  ha.bind (hmore.map (a :: ·)) fun n _ hr => goesOn_more hcomma write items n hr

theorem reads_moreWithin (hcomma : follow ',' = true) {item : Reader α} {write : α → List Piece}
    {items : List α} (h : ∀ a ∈ items, Reads dialect follow item (write a) a) {fuel : Nat}
    (hfuel : items.length < fuel) :
    Reads dialect (endsItems follow) (Reader.moreWithin item fuel)
      ((items.map write).flatMap fun more => .text ", " :: more) items := by
  induction items generalizing fuel with
  | nil =>
    obtain ⟨fuel, rfl⟩ : ∃ k, fuel = k + 1 := ⟨fuel - 1, by omega⟩
    intro n rest values hr
    exact Reader.orElse_of_none (Reader.bind_of_none (skip_comma_of_goesOn hr _ _))
  | cons a items ih =>
    obtain ⟨fuel, rfl⟩ : ∃ k, fuel = k + 1 := ⟨fuel - 1, by omega⟩
    have hmore := ih (fun b hb => h b (List.mem_cons_of_mem _ hb)) (Nat.lt_of_succ_lt_succ hfuel)
    exact (Reads.skip ", " (reads_item_more hcomma (h a List.mem_cons_self) hmore)).orElse

/-- Each item behind the first takes at least one character. -/
theorem length_le_write_more (dialect : Dialect) (n : Nat) (lists : List (List Piece)) :
    lists.length ≤
      (Piece.write dialect n (lists.flatMap fun more => .text ", " :: more)).length := by
  induction lists generalizing n with
  | nil => exact Nat.zero_le _
  | cons pieces rest ih =>
    have h := ih (n + (binds pieces).length)
    have hcomma : (", ".toList).length = 2 := rfl
    simp only [List.flatMap_cons, List.cons_append, Piece.write, write_append,
      List.length_append, List.length_cons, hcomma]
    omega

theorem reads_items (hcomma : follow ',' = true) {item : Reader α} {write : α → List Piece}
    {items : List α} (h : ∀ a ∈ items, Reads dialect follow item (write a) a) (hne : items ≠ []) :
    Reads dialect (endsItems follow) (Reader.list item) (commaSeparated (items.map write))
      items := by
  cases items with
  | nil => exact absurd rfl hne
  | cons a items =>
    have hmore : Reads dialect (endsItems follow)
        (fun unread => Reader.moreWithin item (unread.chars.length + 1) unread)
        ((items.map write).flatMap fun more => .text ", " :: more) items := by
      intro n rest values hr
      refine reads_moreWithin hcomma (fun b hb => h b (List.mem_cons_of_mem _ hb)) ?_ n rest values
        hr
      have hlen := length_le_write_more dialect n (items.map write)
      rw [List.length_map] at hlen
      simp only [List.length_append]
      omega
    rw [commaSeparated, List.map_cons, separated_cons]
    exact reads_item_more hcomma (h a List.mem_cons_self) hmore

theorem reads_list {item : Reader α} {write : α → List Piece} {items : List α}
    (h : ∀ a ∈ items, Reads dialect isPlain item (write a) a) (hne : items ≠ []) :
    Reads dialect endsList (Reader.list item) (commaSeparated (items.map write)) items :=
  reads_items rfl h hne

end Sql
end FilterSql
