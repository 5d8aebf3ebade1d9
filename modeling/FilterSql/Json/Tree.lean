import FilterSql.Json.Token

/-!
# FilterSql.Json.Tree

What the grammar shows of a JSON text: a tree whose leaves and keys may lack a value, as tokens may.
Whoever passes over a part of a text asks no more of it than to be such a tree.

An object may stand for the value of another JSON text, which it embeds as a string under a key of
its own.

* `Tree.embedded?`: the text that an object embeds.
* `Tree.value?`: the value of a tree, if nothing in it lacks one.
* `Token.deepest`: how deep the arrays and objects of a text are nested.
-/

namespace FilterSql
namespace Json

inductive Tree where
  | null
  | bool (value : Bool)
  | num (value : Option Number)
  | str (value : Option String)
  | arr (items : List Tree)
  | obj (fields : List (Option String × Tree))

namespace Tree

/-- The key that an object which embeds a text opens with. -/
def embeddedKey : String := "$serde_json::private::RawValue"

/-- The text that the fields of an object embed; none if they embed nothing, which the first key
tells. An object that opens with the key has to hold a text under it and no other field, or else it
has no value, which is `some none`. -/
def embedded? : List (Option String × Tree) → Option (Option String)
  | (some key, t) :: rest =>
    if key = embeddedKey then
      match t, rest with
      | .str text, [] => some text
      | _, _ => some none
    else none
  | _ => none

mutual

/-- The value of a tree, where `read` is the value of an embedded text. -/
def value? (read : String → Option Json) : Tree → Option Json
  | .null => some .null
  | .bool b => some (.bool b)
  | .num n => n.map .num
  | .str s => s.map .str
  | .arr items => (itemValues? read items).map .arr
  | .obj fields =>
    match embedded? fields with
    | some text => text.bind read
    | none => (fieldValues? read fields).map .obj

def itemValues? (read : String → Option Json) : List Tree → Option (List Json)
  | [] => some []
  | t :: rest =>
    match value? read t, itemValues? read rest with
    | some v, some more => some (v :: more)
    | _, _ => none

def fieldValues? (read : String → Option Json) :
    List (Option String × Tree) → Option (List (String × Json))
  | [] => some []
  | (key, t) :: rest =>
    match key, value? read t, fieldValues? read rest with
    | some k, some v, some more => some ((k, v) :: more)
    | _, _, _ => none

end

/-- The same fields if all their keys have a value. -/
def keyed? : List (Option String × Tree) → Option (List (String × Tree))
  | [] => some []
  | (key, t) :: rest =>
    match key, keyed? rest with
    | some k, some more => some ((k, t) :: more)
    | _, _ => none

end Tree

/-- The greatest number of arrays and objects that are open at once, of which `opened` are open in
front of the tokens and `most` were. -/
def Token.deepest (opened most : Nat) : List Token → Nat
  | [] => most
  | .openArr :: rest | .openObj :: rest => deepest (opened + 1) (max most (opened + 1)) rest
  | .closeArr :: rest | .closeObj :: rest => deepest (opened - 1) most rest
  | _ :: rest => deepest opened most rest

end Json
end FilterSql
