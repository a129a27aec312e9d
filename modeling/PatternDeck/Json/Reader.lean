import PatternDeck.Json.Basic
import PatternDeck.Number.Literal

/-!
Reading JSON. Besides the standard's documents the words `NaN`, `Infinity` and `-Infinity` are
numbers. Of two fields with one key the later wins. A number without fraction and exponent is whole.
-/
namespace PatternDeck.Json

/-- Why a text is no document. -/
inductive ReadFault where
  | malformed
  /-- A whole number longer than `Literal.digitLimit`. -/
  | tooManyDigits (count : Nat)
  /-- Arrays and objects are nested deeper than `depthLimit`. -/
  | tooDeep
  deriving DecidableEq, Repr

/-- How deep arrays and objects may be nested. -/
def depthLimit : Nat := 985

/-- What a reader makes of the head of a text, and the rest of it. -/
abbrev Read (α : Type) := Except ReadFault (α × List Char)

def isSpace (c : Char) : Bool :=
  c == ' ' || c == '\t' || c == '\n' || c == '\r'

def skipSpace (s : List Char) : List Char := s.dropWhile isSpace

def hexValue? (c : Char) : Option Nat :=
  if '0' ≤ c ∧ c ≤ '9' then some (c.toNat - '0'.toNat)
  else if 'a' ≤ c ∧ c ≤ 'f' then some (c.toNat - 'a'.toNat + 10)
  else if 'A' ≤ c ∧ c ≤ 'F' then some (c.toNat - 'A'.toNat + 10)
  else none

/-- Four hexadecimal digits at the head of a text. -/
def unit? : List Char → Option (Nat × List Char)
  | a :: b :: c :: d :: rest => do
    let a ← hexValue? a
    let b ← hexValue? b
    let c ← hexValue? c
    let d ← hexValue? d
    some (a * 4096 + b * 256 + c * 16 + d, rest)
  | _ => none

/-- A character given by UTF-16 units: one unit, or a high and a low surrogate. -/
def unicode? (s : List Char) : Option (Char × List Char) := do
  let (first, rest) ← unit? s
  match rest with
  | '\\' :: 'u' :: more =>
    if 0xd800 ≤ first ∧ first < 0xdc00 then
      match unit? more with
      | some (second, after) =>
        if 0xdc00 ≤ second ∧ second < 0xe000 then
          some (Char.ofNat (0x10000 + (first - 0xd800) * 0x400 + (second - 0xdc00)), after)
        else some (Char.ofNat first, rest)
      | none => some (Char.ofNat first, rest)
    else some (Char.ofNat first, rest)
  | _ => some (Char.ofNat first, rest)

/-- What a backslash and the character after it stand for, other than a code. -/
def unescape? : Char → Option Char
  | '"' => some '"'
  | '\\' => some '\\'
  | '/' => some '/'
  | 'b' => some '\x08'
  | 'f' => some '\x0c'
  | 'n' => some '\n'
  | 'r' => some '\r'
  | 't' => some '\t'
  | _ => none

/-- The characters of a string up to its closing quote. -/
def stringBody : Nat → List Char → Read (List Char)
  | _, '"' :: rest => .ok ([], rest)
  | fuel + 1, '\\' :: 'u' :: rest =>
    match unicode? rest with
    | some (c, after) => (stringBody fuel after).map fun (s, rest) => (c :: s, rest)
    | none => .error .malformed
  | fuel + 1, '\\' :: c :: rest =>
    match unescape? c with
    | some c => (stringBody fuel rest).map fun (s, rest) => (c :: s, rest)
    | none => .error .malformed
  | fuel + 1, c :: rest =>
    if c.toNat < 32 ∨ c = '\\' then .error .malformed
    else (stringBody fuel rest).map fun (s, rest) => (c :: s, rest)
  | _, _ => .error .malformed

def string (s : List Char) : Read String :=
  (stringBody s.length s).map fun (chars, rest) => (String.ofList chars, rest)

def digitsOf (s : List Char) : List Char × List Char :=
  (s.takeWhile Char.isDigit, s.dropWhile Char.isDigit)

def digitsValue (ds : List Char) : Nat :=
  ds.foldl (fun n c => 10 * n + (c.toNat - '0'.toNat)) 0

/-- The digits after a point, if there are some. -/
def fractionPart (s : List Char) : List Char × List Char :=
  match s with
  | '.' :: rest =>
    match digitsOf rest with
    | ([], _) => ([], s)
    | found => found
  | _ => ([], s)

/-- The exponent, if there is one. -/
def exponentPart (s : List Char) : Option Int × List Char :=
  match s with
  | c :: rest =>
    if c = 'e' ∨ c = 'E' then
      let (negative, body) := Literal.sign rest
      match digitsOf body with
      | ([], _) => (none, s)
      | (ds, after) => (some (if negative then -(digitsValue ds : Int) else digitsValue ds), after)
    else (none, s)
  | [] => (none, s)

/-- The digits before the point: a lone zero, or digits that start with no zero. -/
def wholePart : List Char → Option (List Char × List Char)
  | '0' :: rest => some (['0'], rest)
  | s =>
    match digitsOf s with
    | ([], _) => none
    | found => some found

def number (negative : Bool) (s : List Char) : Read Json :=
  match wholePart s with
  | none => .error .malformed
  | some (before, rest) =>
    let (after, rest) := fractionPart rest
    let (exponent, rest) := exponentPart rest
    if after.isEmpty && exponent.isNone then
      if Literal.digitLimit < before.length then .error (.tooManyDigits before.length)
      else
        let n : Int := digitsValue before
        .ok (.int (if negative then -n else n), rest)
    else
      let x := Literal.nearestFloat (digitsValue (before ++ after))
        (exponent.getD 0 - after.length)
      .ok (.float (if negative then -x else x), rest)

/-- A word at the head of a text. -/
def word? (word : String) (s : List Char) : Option (List Char) :=
  if word.toList.isPrefixOf s then some (s.drop word.toList.length) else none

def words : List (String × Json) :=
  [("null", .null), ("true", .bool true), ("false", .bool false), ("NaN", .float Literal.nan),
   ("Infinity", .float Literal.infinity), ("-Infinity", .float (-Literal.infinity))]

/-- A word or a number. -/
def scalar (s : List Char) : Read Json :=
  match words.findSome? fun (w, value) => (word? w s).map fun rest => (value, rest) with
  | some found => .ok found
  | none =>
    match s with
    | '-' :: rest => number true rest
    | _ => number false s

mutual

/-- The value at the head of a text, where no space stands, with so many arrays and objects nested in
it at most. Each step into an array or object, and from one of its items to the next, takes one from
the fuel and at least one character. -/
def value : Nat → Nat → List Char → Read Json
  | 0, _, _ => .error .malformed
  | fuel + 1, depth, s =>
    match s, depth with
    | '"' :: rest, _ => (string rest).map fun (text, rest) => (.str text, rest)
    | '[' :: _, 0 | '{' :: _, 0 => .error .tooDeep
    | '[' :: rest, depth + 1 =>
      match skipSpace rest with
      | ']' :: rest => .ok (.arr [], rest)
      | rest => (items fuel depth rest).map fun (found, rest) => (.arr found, rest)
    | '{' :: rest, depth + 1 =>
      match skipSpace rest with
      | '}' :: rest => .ok (.obj [], rest)
      | rest => (fields fuel depth [] rest).map fun (found, rest) => (.obj found, rest)
    | _, _ => scalar s

/-- The items of an array up to its end. -/
def items : Nat → Nat → List Char → Except ReadFault (List Json × List Char)
  | 0, _, _ => .error .malformed
  | fuel + 1, depth, s => do
    let (first, rest) ← value fuel depth s
    match skipSpace rest with
    | ',' :: rest =>
      let (more, rest) ← items fuel depth (skipSpace rest)
      .ok (first :: more, rest)
    | ']' :: rest => .ok ([first], rest)
    | _ => .error .malformed

/-- The fields of an object up to its end, after those already read. -/
def fields : Nat → Nat → List (String × Json) → List Char →
    Except ReadFault (List (String × Json) × List Char)
  | 0, _, _, _ => .error .malformed
  | fuel + 1, depth, found, s =>
    match s with
    | '"' :: rest => do
      let (key, rest) ← string rest
      match skipSpace rest with
      | ':' :: rest =>
        let (content, rest) ← value fuel depth (skipSpace rest)
        let found := putField key content found
        match skipSpace rest with
        | ',' :: rest => fields fuel depth found (skipSpace rest)
        | '}' :: rest => .ok (found, rest)
        | _ => .error .malformed
      | _ => .error .malformed
    | _ => .error .malformed

end

/-- A whole text as one document. -/
def read (text : String) : Except ReadFault Json :=
  let s := text.toList
  match value (s.length + 1) depthLimit (skipSpace s) with
  | .ok (found, rest) => if (skipSpace rest).isEmpty then .ok found else .error .malformed
  | .error fault => .error fault

end PatternDeck.Json
