/-!
# FilterSql.Text.Bytes

Lists of bytes: as hexadecimal digits, as UTF-8 text, and in base 64, where four characters stand
for three bytes and `=` fills up the last four.
-/

namespace FilterSql
namespace Text

def hexDigit? (c : Char) : Option Nat :=
  if '0' ≤ c ∧ c ≤ '9' then some (c.toNat - 48)
  else if 'a' ≤ c ∧ c ≤ 'f' then some (c.toNat - 87)
  else if 'A' ≤ c ∧ c ≤ 'F' then some (c.toNat - 55)
  else none

/-- Reads two digits for each byte, of either case. -/
def bytesOfHex? : List Char → Option (List UInt8)
  | [] => some []
  | [_] => none
  | high :: low :: rest =>
    match hexDigit? high, hexDigit? low, bytesOfHex? rest with
    | some h, some l, some bytes => some (UInt8.ofNat (16 * h + l) :: bytes)
    | _, _, _ => none

/-- Reads a number of any count of digits. -/
def natOfHex? (s : List Char) : Option Nat :=
  s.foldl (fun n c =>
    match n, hexDigit? c with
    | some n, some d => some (16 * n + d)
    | _, _ => none) (some 0)

def hexByte (b : UInt8) : List Char :=
  [Nat.digitChar (b.toNat / 16), Nat.digitChar (b.toNat % 16)]

def hexOfBytes (bytes : List UInt8) : List Char := bytes.flatMap hexByte

/-- The text that the bytes encode; none if they are not valid. -/
def ofUtf8? (bytes : List UInt8) : Option String := String.fromUTF8? (ByteArray.mk bytes.toArray)

/-! ## Base 64 -/

def base64Char (n : Nat) : Char :=
  if n < 26 then Char.ofNat (65 + n)
  else if n < 52 then Char.ofNat (71 + n)
  else if n < 62 then Char.ofNat (n - 4)
  else if n = 62 then '+'
  else '/'

/-- The `k`-th group of six bits, counted from the right. -/
def base64Digit (n k : Nat) : Char := base64Char (n / Nat.pow 64 k % 64)

def base64 : List UInt8 → List Char
  | [] => []
  | [a] =>
    let n := a.toNat * 65536
    [base64Digit n 3, base64Digit n 2, '=', '=']
  | [a, b] =>
    let n := a.toNat * 65536 + b.toNat * 256
    [base64Digit n 3, base64Digit n 2, base64Digit n 1, '=']
  | a :: b :: c :: rest =>
    let n := a.toNat * 65536 + b.toNat * 256 + c.toNat
    [base64Digit n 3, base64Digit n 2, base64Digit n 1, base64Digit n 0] ++ base64 rest

end Text
end FilterSql
