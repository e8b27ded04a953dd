-- SUMMARY: The tokens of a JSON document: marks, words, numbers and strings. A faulty token keeps its error for the reader that asks for it.
import Cooling.Json.Number

/-!
# JSON tokens

A document is cut into tokens without looking at its structure. A word, a number
or a string that is faulty becomes a token as well, the last one: whether its
error counts depends on whether a reader wants such a token there.
-/

namespace Cooling.Json

inductive Word where
  | null
  | bool (b : Bool)
  deriving DecidableEq, Repr

inductive Token where
  | openObject | closeObject | openArray | closeArray | colon | comma
  | word (w : Except Error Word)
  | number (n : Except Error Number)
  | string (s : Except Error String)
  /-- A character that begins no token. -/
  | stray

/-! ## Words -/

/-- The rest of a text after a word that it must begin with. -/
def afterWord : (word cs : List Char) → Except Error (List Char)
  | [], cs => .ok cs
  | _ :: _, [] => .error .unfinished
  | w :: ws, c :: cs => if w = c then afterWord ws cs else .error .malformed

/-! ## Strings -/

def hexDigit? (c : Char) : Option Nat :=
  if '0' ≤ c ∧ c ≤ '9' then some (c.toNat - 48)
  else if 'a' ≤ c ∧ c ≤ 'f' then some (c.toNat - 87)
  else if 'A' ≤ c ∧ c ≤ 'F' then some (c.toNat - 55)
  else none

/-- The value of four hexadecimal digits. -/
def fourDigits? (a b c d : Char) : Option Nat := do
  return 4096 * (← hexDigit? a) + 256 * (← hexDigit? b) + 16 * (← hexDigit? c) + (← hexDigit? d)

/-- Four hexadecimal digits. A document with fewer than four bytes left is
    unfinished, whatever these bytes are. -/
def fourDigits : List Char → Except Error (Nat × List Char)
  | a :: b :: c :: d :: rest =>
    match fourDigits? a b c d with
    | some n => .ok (n, rest)
    | none => .error .malformed
  | cs => if 4 ≤ cs.foldl (fun n c => n + c.utf8Size) 0 then .error .malformed else .error .unfinished

/-- The second half of a character that takes two escapes. -/
def secondHalf (first : Nat) : List Char → Except Error (Char × List Char)
  | [] => .error .unfinished
  | ['\\'] => .error .unfinished
  | '\\' :: 'u' :: cs => do
    let (n, rest) ← fourDigits cs
    if 0xDC00 ≤ n ∧ n ≤ 0xDFFF then
      .ok (Char.ofNat ((first - 0xD800) * 1024 + (n - 0xDC00) + 0x10000), rest)
    else .error .malformed
  | _ => .error .malformed

/-- A character given by its number, after the letter `u`. -/
def numbered (cs : List Char) : Except Error (Char × List Char) := do
  let (n, rest) ← fourDigits cs
  if 0xDC00 ≤ n ∧ n ≤ 0xDFFF then .error .malformed
  else if 0xD800 ≤ n ∧ n ≤ 0xDBFF then secondHalf n rest
  else .ok (Char.ofNat n, rest)

/-- An escape, after its backslash. -/
def escape : List Char → Except Error (Char × List Char)
  | [] => .error .unfinished
  | '"' :: cs => .ok ('"', cs)
  | '\\' :: cs => .ok ('\\', cs)
  | '/' :: cs => .ok ('/', cs)
  | 'b' :: cs => .ok ('\x08', cs)
  | 'f' :: cs => .ok ('\x0c', cs)
  | 'n' :: cs => .ok ('\n', cs)
  | 'r' :: cs => .ok ('\r', cs)
  | 't' :: cs => .ok ('\t', cs)
  | 'u' :: cs => numbered cs
  | _ => .error .malformed

/-- The characters of a string up to its closing quote, and the rest. The first
    argument bounds the number of characters. -/
def stringChars : Nat → List Char → Except Error (List Char × List Char)
  | 0, _ => .error .unfinished
  | _ + 1, [] => .error .unfinished
  | n + 1, c :: cs =>
    if c = '"' then .ok ([], cs)
    else if c = '\\' then do
      let (d, rest) ← escape cs
      let (ds, rest) ← stringChars n rest
      .ok (d :: ds, rest)
    else if c.toNat < 32 then .error .malformed
    else do
      let (ds, rest) ← stringChars n cs
      .ok (c :: ds, rest)

/-- A string, after its opening quote. -/
def readString (cs : List Char) : Except Error (String × List Char) :=
  (stringChars (cs.length + 1) cs).map (fun (ds, rest) => (String.ofList ds, rest))

/-! ## Tokens -/

def isSpace (c : Char) : Bool := c == ' ' || c == '\n' || c == '\t' || c == '\r'

/-- The token after a first character that is not a space, and what follows it. -/
def token (c : Char) (cs : List Char) : Token × List Char :=
  match c with
  | '\x7b' => (.openObject, cs)
  | '\x7d' => (.closeObject, cs)
  | '[' => (.openArray, cs)
  | ']' => (.closeArray, cs)
  | ':' => (.colon, cs)
  | ',' => (.comma, cs)
  | 'n' => ofWord .null "ull"
  | 't' => ofWord (.bool true) "rue"
  | 'f' => ofWord (.bool false) "alse"
  | '"' =>
    match readString cs with
    | .ok (s, rest) => (.string (.ok s), rest)
    | .error e => (.string (.error e), [])
  | '-' => ofNumber (readNumber true cs)
  | c => if (Text.digit? c).isSome then ofNumber (readNumber false (c :: cs)) else (.stray, [])
where
  ofWord (w : Word) (rest : String) : Token × List Char :=
    match afterWord rest.toList cs with
    | .ok rest => (.word (.ok w), rest)
    | .error e => (.word (.error e), [])
  ofNumber : Except Error (Number × List Char) → Token × List Char
    | .ok (n, rest) => (.number (.ok n), rest)
    | .error e => (.number (.error e), [])

/-- The tokens of a text, at most as many as the first argument says. -/
def tokensUpTo : Nat → List Char → List Token
  | 0, _ => []
  | _ + 1, [] => []
  | n + 1, c :: cs =>
    if isSpace c then tokensUpTo n cs
    else let (t, rest) := token c cs; t :: tokensUpTo n rest

/-- The tokens of a text. Every token takes a character, so its length is bound enough. -/
def tokens (cs : List Char) : List Token := tokensUpTo cs.length cs

end Cooling.Json
