-- SUMMARY: Reading values off a row of JSON tokens: single values, arrays, the members of objects, and skipping a value.
import Cooling.Json.Token
import Cooling.Text.Quoted

/-!
# Reading tokens

A reader takes what it wants from the front of the tokens. It looks at no token
before it needs it, so the error that is met first is the error of the
document, whatever follows.
-/

namespace Cooling.Json

abbrev Reader (α : Type) := StateT (List Token) (Except Error) α

/-! ## Describing values in errors -/

/-- What a message tells about a value. -/
inductive Shape where
  | null
  | bool (b : Bool)
  | number (n : Number)
  | string (s : String)
  | array
  | object
  deriving DecidableEq, Repr

def Shape.description : Shape → String
  | null => "null"
  | bool b => s!"boolean `{b}`"
  | number n => n.description
  | string s => s!"string {Text.quoted s}"
  | array => "sequence"
  | object => "map"

/-- The value that a token begins. -/
def Token.shape : Token → Except Error Shape
  | .word (.ok .null) => .ok .null
  | .word (.ok (.bool b)) => .ok (.bool b)
  | .number (.ok n) => .ok (.number n)
  | .string (.ok s) => .ok (.string s)
  | .openArray => .ok .array
  | .openObject => .ok .object
  | .word (.error e) | .number (.error e) | .string (.error e) => .error e
  | .closeArray | .closeObject | .colon | .comma | .stray => .error .malformed

def wrongShape (shape : Shape) (wanted : String) : Error :=
  .mismatch s!"invalid type: {shape.description}, expected {wanted}"

def wrongValue (number : Number) (wanted : String) : Error :=
  .mismatch s!"invalid value: {number.description}, expected {wanted}"

/-- The error for tokens that do not begin with a value of the type wanted. -/
def unwanted (wanted : String) : List Token → Error
  | [] => .unfinished
  | t :: _ =>
    match t.shape with
    | .ok shape => wrongShape shape wanted
    | .error e => e

/-! ## Single values -/

/-- A whole number of 64 bits, not negative. -/
def readWord : Reader UInt64
  | .number (.ok (.natural n)) :: ts => .ok (UInt64.ofNat n, ts)
  | .number (.ok (.negative n)) :: _ => .error (wrongValue (.negative n) "u64")
  | ts => .error (unwanted "u64" ts)

/-- A whole number of 32 bits, with a sign. -/
def readSigned32 : Reader Int32
  | .number (.ok (.natural n)) :: ts =>
    if n ≤ 2147483647 then .ok (Int32.ofInt n, ts) else .error (wrongValue (.natural n) "i32")
  | .number (.ok (.negative n)) :: ts =>
    if n ≤ 2147483648 then .ok (Int32.ofInt (-n), ts) else .error (wrongValue (.negative n) "i32")
  | ts => .error (unwanted "i32" ts)

/-- The double nearest to a number. -/
def Number.toBinary64 : Number → Binary64
  | natural n => .ofNat n
  | negative n => .ofInt (-n)
  | float x => x

def readDouble : Reader Binary64
  | .number (.ok n) :: ts => .ok (n.toBinary64, ts)
  | ts => .error (unwanted "f64" ts)

def readBool : Reader Bool
  | .word (.ok (.bool b)) :: ts => .ok (b, ts)
  | ts => .error (unwanted "a boolean" ts)

def readText (wanted : String) : Reader String
  | .string (.ok s) :: ts => .ok (s, ts)
  | ts => .error (unwanted wanted ts)

/-- The name of a member: nothing but a string can be one, so another token is not
    even read as a value. -/
def readName : Reader String
  | [] => .error .unfinished
  | .string (.ok s) :: ts => .ok (s, ts)
  | .string (.error e) :: _ => .error e
  | _ => .error .malformed

/-- Null, or a value. -/
def readNullable (value : Reader α) : Reader (Option α)
  | .word (.ok .null) :: ts => .ok (none, ts)
  | ts => (some <$> value).run ts

/-- A mark that must come next. -/
def expectColon : Reader Unit
  | [] => .error .unfinished
  | .colon :: ts => .ok ((), ts)
  | _ => .error .malformed

/-! ## Arrays -/

/-- Whether another element follows. The comma before it is taken. -/
def moreElements (first : Bool) : Reader Bool
  | [] => .error .unfinished
  | .closeArray :: ts => .ok (false, .closeArray :: ts)
  | .comma :: ts =>
    if first then .ok (true, .comma :: ts)
    else match ts with
      | [] => .error .unfinished
      | .closeArray :: _ => .error .malformed
      | ts => .ok (true, ts)
  | ts => if first then .ok (true, ts) else .error .malformed

def endArray : Reader Unit
  | [] => .error .unfinished
  | .closeArray :: ts => .ok ((), ts)
  | _ => .error .malformed

/-- The elements up to the end of an array, at most as many as the first argument says. -/
def elementsUpTo (element : Reader α) : Nat → (first : Bool) → Reader (List α)
  | 0, _ => throw .malformed
  | n + 1, first => do
    if ← moreElements first then
      let a ← element
      let as ← elementsUpTo element n false
      return a :: as
    else
      endArray
      return []

/-- An array. Every element takes a token, so their number is bound enough. -/
def readArray (element : Reader α) : Reader (List α)
  | .openArray :: ts => elementsUpTo element (ts.length + 1) true ts
  | ts => .error (unwanted "a sequence" ts)

/-! ## Objects -/

/-- The name of the next member, or none at the end of the object. -/
def nextName (first : Bool) : Reader (Option String)
  | [] => .error .unfinished
  | .closeObject :: ts => .ok (none, ts)
  | .comma :: ts =>
    if first then .error .malformed else (some <$> readName).run ts
  | ts =>
    if first then (some <$> readName).run ts else .error .malformed

/-- The members up to the end of an object, at most as many as the first argument
    says. A step gets what has been gathered so far and the name of a member, and
    reads on from there. -/
def membersUpTo (step : σ → String → Reader σ) : Nat → (first : Bool) → σ → Reader σ
  | 0, _, _ => throw .malformed
  | n + 1, first, gathered => do
    match ← nextName first with
    | none => return gathered
    | some name =>
      let gathered ← step gathered name
      membersUpTo step n false gathered

/-- The members of an object whose opening brace has been taken. -/
def readMembers (step : σ → String → Reader σ) (start : σ) : Reader σ :=
  fun ts => membersUpTo step (ts.length + 1) true start ts

/-! ## Skipping -/

/-- A bracket that is still open. -/
inductive Frame where
  | array | object
  deriving DecidableEq, Repr

/-- What must come next. -/
inductive Need where
  | value
  /-- The first element of an array, or its end. -/
  | elementOrEnd
  /-- The first member of an object, or its end. -/
  | memberOrEnd
  | member
  | colon
  /-- A comma, or the end of the innermost bracket. -/
  | commaOrEnd
  deriving DecidableEq, Repr

/-- How far a value has been skipped: the brackets still open, the innermost one
    first, how many more may be opened, and what must come next. -/
structure Skipper where
  frames : List Frame
  room : Nat
  need : Need
  deriving DecidableEq, Repr

namespace Skipper

/-- Whether the whole value has been skipped. -/
def done (s : Skipper) : Bool := s.frames == [] && s.need == .commaOrEnd

/-- Opens a bracket, unless brackets are nested too deep. -/
def enter (s : Skipper) (frame : Frame) (need : Need) : Except Error Skipper :=
  if s.room ≤ 1 then .error .malformed
  else .ok { frames := frame :: s.frames, room := s.room - 1, need }

/-- Closes the innermost bracket. -/
def leave (s : Skipper) : Skipper :=
  { frames := s.frames.drop 1, room := s.room + 1, need := .commaOrEnd }

/-- Takes the first token of a value. -/
def value (s : Skipper) (t : Token) : Except Error Skipper :=
  match t.shape with
  | .error e => .error e
  | .ok .array => s.enter .array .elementOrEnd
  | .ok .object => s.enter .object .memberOrEnd
  | .ok _ => .ok { s with need := .commaOrEnd }

/-- Takes the name of a member. -/
def name (s : Skipper) : Token → Except Error Skipper
  | .string (.ok _) => .ok { s with need := .colon }
  | .string (.error e) => .error e
  | _ => .error .malformed

/-- Takes the next token. -/
def step (s : Skipper) (t : Token) : Except Error Skipper :=
  match s.need, s.frames.head?, t with
  | .value, _, t => s.value t
  | .elementOrEnd, _, .closeArray => .ok s.leave
  | .elementOrEnd, _, t => s.value t
  | .memberOrEnd, _, .closeObject => .ok s.leave
  | .memberOrEnd, _, t => s.name t
  | .member, _, t => s.name t
  | .colon, _, .colon => .ok { s with need := .value }
  | .commaOrEnd, some .array, .comma => .ok { s with need := .value }
  | .commaOrEnd, some .array, .closeArray => .ok s.leave
  | .commaOrEnd, some .object, .comma => .ok { s with need := .member }
  | .commaOrEnd, some .object, .closeObject => .ok s.leave
  | _, _, _ => .error .malformed

/-- Takes tokens until the whole value has been skipped. -/
def run (s : Skipper) : List Token → Except Error (List Token)
  | [] => if s.done then .ok [] else .error .unfinished
  | t :: ts =>
    if s.done then .ok (t :: ts)
    else match s.step t with
      | .ok s => s.run ts
      | .error e => .error e

end Skipper

/-- Skips a value, in which brackets are not nested deeper than `room` allows, and
    tells its shape. -/
def skipValue (room : Nat) : Reader Shape
  | [] => .error .unfinished
  | t :: ts => do
    let shape ← t.shape
    let rest ← Skipper.run { frames := [], room, need := .value } (t :: ts)
    .ok (shape, rest)

end Cooling.Json
