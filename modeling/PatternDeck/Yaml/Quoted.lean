import PatternDeck.Json.Reader
import PatternDeck.Yaml.Source

/-!
Text between double quotes. It may go on over several lines: the blanks around a line break are
dropped and the break is folded, or dropped where a backslash stands before it.
-/
namespace PatternDeck.Yaml

/-- Escapes of one character. -/
def escapes : List (Char × Char) :=
  [('0', '\x00'), ('a', '\x07'), ('b', '\x08'), ('t', '\t'), ('\t', '\t'), ('n', '\n'),
   ('v', '\x0b'), ('f', '\x0c'), ('r', '\r'), ('e', '\x1b'), (' ', ' '), ('"', '"'), ('/', '/'),
   ('\\', '\\'), ('N', '\u0085'), ('_', '\u00a0'), ('L', '\u2028'), ('P', '\u2029')]

/-- How many digits follow the letter of an escape by number. -/
def codeWidth? : Char → Option Nat
  | 'x' => some 2
  | 'u' => some 4
  | 'U' => some 8
  | _ => none

/-- The character of a number. -/
def characterOf (n : Nat) : Except Fault Char :=
  if 0x80000000 ≤ n then .error .tooLarge
  else if 0x110000 ≤ n then .error .noCharacter
  else .ok (Char.ofNat n)

/-- The number in so many hexadecimal digits at the head of a source, and the rest of it. -/
def code (width : Nat) (s : Source) : Except Fault (Nat × Source) :=
  let found := s.take width
  let digits := (Source.text found).filterMap Json.hexValue?
  if digits.length < found.length then .error .badToken
  else if found.length < width then .error .unclosed
  else .ok (digits.foldl (fun n d => 16 * n + d) 0, s.drop width)

/-- The low surrogate in an escape at the head of a source, and the rest of it. -/
def lowSurrogate? : Source → Option (Nat × Source)
  | slash :: letter :: rest => do
    guard (slash.char = '\\' ∧ letter.char = 'u')
    let (n, after) ← (code 4 rest).toOption
    guard (0xdc00 ≤ n ∧ n < 0xe000)
    return (n, after)
  | _ => none

/-- The character of an escape by number. A high and a low surrogate stand for one character. -/
def coded (width : Nat) (s : Source) : Except Fault (Char × Source) := do
  let (n, after) ← code width s
  if 0xd800 ≤ n ∧ n < 0xdc00 then
    if let some (low, after) := lowSurrogate? after then
      return (Char.ofNat (0x10000 + (n - 0xd800) * 0x400 + (low - 0xdc00)), after)
  return (← characterOf n, after)

/-- What is escaped after a backslash, and the rest. -/
def escaped : Source → Except Fault (List Char × Source)
  | [] => .error .unclosed
  | spot :: rest =>
    if isBreak spot.char then
      let (breaks, after) := Source.breaks isBlank rest
      if Source.atSeparator after then .error .badToken else .ok (breaks, after)
    else
      match escapes.lookup spot.char, codeWidth? spot.char with
      | some c, _ => .ok ([c], rest)
      | none, some width => (coded width rest).map fun (c, after) => ([c], after)
      | none, none => .error .badToken

/-- The blanks at the head of a source, folded if a line break is among them, and the rest. -/
def gap (s : Source) : Except Fault (List Char × Source) :=
  let after := s.dropWhile fun spot => isBlank spot.char
  if Source.atBreak after then
    let (breaks, after) := Source.breaks isBlank after
    if Source.atSeparator after then .error .badToken else .ok (folded breaks, after)
  else .ok (Source.text (s.takeWhile fun spot => isBlank spot.char), after)

/-- The text up to a closing quote, and what follows it. Each step takes one from the fuel and at
least one character. -/
def quotedBody : Nat → Source → Except Fault (List Char × Source)
  | 0, _ | _, [] => .error .unclosed
  | fuel + 1, spot :: rest =>
    if spot.char = '"' then .ok ([], rest)
    else do
      let (part, after) ←
        if spot.char = '\\' then escaped rest
        else if isBlank spot.char || isBreak spot.char then gap (spot :: rest)
        else .ok ([spot.char], rest)
      let (more, after) ← quotedBody fuel after
      return (part ++ more, after)

/-- A text after its opening quote. -/
def quoted (s : Source) : Except Fault (String × Source) :=
  (quotedBody (s.length + 1) s).map fun (chars, after) => (String.ofList chars, after)

end PatternDeck.Yaml
