/-!
Addresses of messages, and the patterns that they are matched with.
-/
namespace PatternDeck.Osc

/-- The ends of a text that begin in its first line, itself first. -/
def lineEnds : List Char → List (List Char)
  | [] => [[]]
  | c :: rest => (c :: rest) :: (if c = '\n' then [] else lineEnds rest)

/-- Whether a text fits a pattern from start to end. A star stands for any characters of a line, also
none. -/
def fits : List Char → List Char → Bool
  | [], s => s.isEmpty
  | p :: pattern, s =>
    if p = '*' then (lineEnds s).any (fits pattern)
    else
      match s with
      | [] => false
      | c :: rest => p == c && fits pattern rest

/-- Whether a pattern leads to an address. A pattern without a star is the address itself; after a
star the address may end its line. -/
def leadsTo (pattern address : List Char) : Bool :=
  if '*' ∈ pattern then
    fits pattern address || address.getLast? == some '\n' && fits pattern address.dropLast
  else pattern == address

/-- The parts of an address between its slashes. -/
def segments : List Char → List (List Char)
  | [] => [[]]
  | c :: rest =>
    if c = '/' then [] :: segments rest
    else
      match segments rest with
      | [] => [[c]]
      | first :: more => (c :: first) :: more

/-- The part of an address after so many slashes. -/
def segment (address : String) (n : Nat) : List Char :=
  ((segments address.toList)[n]?).getD []

end PatternDeck.Osc
