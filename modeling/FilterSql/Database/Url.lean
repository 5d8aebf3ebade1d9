import FilterSql.Error
import FilterSql.Sql.Statement
import FilterSql.Text.Offset

/-!
# FilterSql.Database.Url

Database URLs: their scheme tells the dialect, and their credentials must not get into a log.
-/

namespace FilterSql
namespace Url

def schemes : List (String × Dialect) :=
  [("sqlite:", .sqlite), ("postgres://", .postgres), ("postgresql://", .postgres)]

def dialect (url : String) : Except Error Dialect :=
  match schemes.find? fun scheme => scheme.1.toList.isPrefixOf url.toList with
  | some (_, dialect) => .ok dialect
  | none => .error (.config "RK_DATABASE_URL" s!"unsupported database url: {url}")

/-- What ends the scheme of a URL. -/
def schemeMark : List Char := "://".toList

/-- A URL with all that stands between the scheme and the last `@` made unreadable. The parts that
stay are cut off at offsets; none if a cut fell inside of a character. -/
def redacted? (url : String) : Option String :=
  match Text.offsetOf? schemeMark url.toList, Text.lastOffsetOf? (· == '@') url.toList with
  | some scheme, some host =>
    if scheme < host then
      match Text.cutAt? (scheme + 3) url.toList, Text.cutAt? host url.toList with
      | some (front, _), some (_, back) => some (String.ofList (front ++ "****".toList ++ back))
      | _, _ => none
    else some url
  | _, _ => some url

end Url
end FilterSql
