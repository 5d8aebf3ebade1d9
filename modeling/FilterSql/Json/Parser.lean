import FilterSql.Json.Tree

/-!
# FilterSql.Json.Parser

Reading JSON text. The tokens drive a machine whose stack holds the arrays and objects that are
open.

* `Machine.step`: what one token does.
* `Tree.ofText?`: the tree of a text, however deep.
* `Tree.shallow?`: the same, with arrays and objects nested up to 127 levels.
* `read?`: the value of such a text, with the fields of its objects as they are written. A text that
  is embedded in another one is read by itself, so its levels count anew.
* `parse?`: the value with repeated keys merged.
* `Fields.parse?`: the fields of a text that must be an object. The outermost object is none that
  embeds a text, whatever its first key.
-/

namespace FilterSql
namespace Json

/-- An open array or object with what it holds so far, the last first; an object waits for the
value of a key. -/
inductive Frame where
  | items (done : List Tree)
  | fields (done : List (Option String × Tree)) (key : Option String)

/-- What may follow, inside the open arrays and objects of a stack. -/
inductive Machine where
  | value (stack : List Frame)
  | itemOrEnd (stack : List Frame)
  | keyOrEnd (stack : List Frame)
  | key (done : List (Option String × Tree)) (stack : List Frame)
  | colon (done : List (Option String × Tree)) (key : Option String) (stack : List Frame)
  | after (value : Tree) (stack : List Frame)

namespace Machine

/-- A token that must be the first of a value. -/
def start (stack : List Frame) : Token → Option Machine
  | .openArr => some (.itemOrEnd stack)
  | .openObj => some (.keyOrEnd stack)
  | .null => some (.after .null stack)
  | .bool b => some (.after (.bool b) stack)
  | .num n => some (.after (.num n) stack)
  | .str s => some (.after (.str s) stack)
  | _ => none

def step : Machine → Token → Option Machine
  | .value stack, t => start stack t
  | .itemOrEnd stack, .closeArr => some (.after (.arr []) stack)
  | .itemOrEnd stack, t => start (.items [] :: stack) t
  | .keyOrEnd stack, .closeObj => some (.after (.obj []) stack)
  | .keyOrEnd stack, .str k => some (.colon [] k stack)
  | .key done stack, .str k => some (.colon done k stack)
  | .colon done k stack, .colon => some (.value (.fields done k :: stack))
  | .after v (.items done :: stack), .comma => some (.value (.items (v :: done) :: stack))
  | .after v (.items done :: stack), .closeArr => some (.after (.arr (v :: done).reverse) stack)
  | .after v (.fields done k :: stack), .comma => some (.key ((k, v) :: done) stack)
  | .after v (.fields done k :: stack), .closeObj =>
    some (.after (.obj ((k, v) :: done).reverse) stack)
  | _, _ => none

def run : Machine → List Token → Option Machine
  | m, [] => some m
  | m, t :: rest =>
    match step m t with
    | none => none
    | some m => run m rest

def result? : Machine → Option Tree
  | .after t [] => some t
  | _ => none

end Machine

/-- The tree that a list of tokens writes. -/
def Tree.ofTokens? (tokens : List Token) : Option Tree :=
  match Machine.run (.value []) tokens with
  | none => none
  | some m => m.result?

def Tree.ofText? (text : String) : Option Tree :=
  (Token.ofText? text.toList).bind Tree.ofTokens?

/-- The greatest number of arrays and objects that may be open at once in a text that is read as a
value. -/
def maxDepth : Nat := 127

/-- The tree of a text that is not nested too deep. -/
def Tree.shallow? (text : String) : Option Tree :=
  match Token.ofText? text.toList with
  | none => none
  | some tokens => if Token.deepest 0 0 tokens ≤ maxDepth then Tree.ofTokens? tokens else none

/-- Reads a text that has less than the given number of others embedded one in the other. -/
def readWithin? : Nat → String → Option Json
  | 0, _ => none
  | levels + 1, text => (Tree.shallow? text).bind (Tree.value? (readWithin? levels))

/-- Reads a text; the fields of an object stand as written, repeated keys included. An embedded text
is shorter than the one around it, so there are no more of them than characters. -/
def read? (text : String) : Option Json := readWithin? (text.length + 1) text

/-- Reads a text, merging repeated keys. -/
def parse? (text : String) : Option Json := (read? text).map merged

end Json

/-- Reads a text that must be an object, merging repeated keys. -/
def Fields.parse? (text : String) : Option Fields :=
  match Json.Tree.shallow? text with
  | some (.obj fields) =>
    (Json.Tree.fieldValues? Json.read? fields).map fun fields =>
      Fields.ofList (Json.mergedFields fields)
  | _ => none

end FilterSql
