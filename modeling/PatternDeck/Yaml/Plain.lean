import PatternDeck.Yaml.Source

/-!
Plain scalars: text without quotes. It ends before a colon that a gap follows, before a comment, and
before a line that is indented less than it has to be.
-/
namespace PatternDeck.Yaml

/-- Marks that no plain scalar starts with. -/
def marks : List Char := "-?:,[]\x7b\x7d#&*!|>'\"%@\x60".toList

/-- Whether a plain scalar starts here. Three of the marks start one if no gap follows them. -/
def startsPlain : Source → Bool
  | [] => false
  | spot :: rest =>
    !(Source.atGap (spot :: rest)) &&
      (spot.char ∉ marks || spot.char ∈ ['-', '?', ':'] && !(Source.atGap rest))

/-- The characters up to a gap, or up to a colon before one, and the rest. -/
def plainPart : Source → List Char × Source
  | [] => ([], [])
  | spot :: rest =>
    if Source.atGap (spot :: rest) || spot.char == ':' && Source.atGap rest then ([], spot :: rest)
    else
      let (more, after) := plainPart rest
      (spot.char :: more, after)

/-- A plain scalar at the head of a source. -/
structure Plain where
  text : List Char
  /-- What follows it and the spaces and line breaks after it. -/
  rest : Source
  /-- Whether a line break is among those. -/
  lineEnds : Bool

/-- Whether a plain scalar that has to be indented goes on here. -/
def goesOn (indent : Nat) (s : Source) : Bool :=
  match s with
  | [] => false
  | spot :: _ => spot.char != '#' && indent ≤ spot.column && !(plainPart s).1.isEmpty

/-- The plain scalar here. Each part of it takes one from the fuel and at least one character. -/
def plainFrom : Nat → Nat → Source → Plain
  | 0, _, s => ⟨[], s, false⟩
  | fuel + 1, indent, s =>
    let (part, rest) := plainPart s
    let after := rest.dropWhile (·.char == ' ')
    if Source.atBreak after then
      let (breaks, next) := Source.breaks (· == ' ') after
      if !Source.atSeparator next && goesOn indent next then
        let more := plainFrom fuel indent next
        { more with text := part ++ folded breaks ++ more.text }
      else ⟨part, next, true⟩
    else if rest.head?.any (·.char == ' ') && goesOn indent after then
      let more := plainFrom fuel indent after
      { more with text := part ++ Source.text (rest.takeWhile (·.char == ' ')) ++ more.text }
    else ⟨part, after, false⟩

def plainScalar (indent : Nat) (s : Source) : Plain := plainFrom s.length indent s

end PatternDeck.Yaml
