/-!
Texts as lists of characters: classes of characters given as tables, the blanks at the ends of a
text, its line breaks, and occurrences of one text in another. Blank is white space of every script
and the four information separators; the zero-width space and the byte order mark are not blank.
-/
namespace PatternDeck.Text

/-- Both ends of a range belong to it. -/
def inRanges (ranges : List (Nat × Nat)) (c : Char) : Bool :=
  ranges.any fun (first, last) => first ≤ c.toNat && c.toNat ≤ last

def blankRanges : List (Nat × Nat) :=
  [(0x9, 0xd), (0x1c, 0x20), (0x85, 0x85), (0xa0, 0xa0), (0x1680, 0x1680), (0x2000, 0x200a),
   (0x2028, 0x2029), (0x202f, 0x202f), (0x205f, 0x205f), (0x3000, 0x3000)]

def isBlank (c : Char) : Bool := inRanges blankRanges c

def isSeparator (c : Char) : Bool := inRanges [(0x1c, 0x1f)] c

/-- The text without the characters of a class at its ends. -/
def trimBy (drops : Char → Bool) (s : List Char) : List Char :=
  ((s.dropWhile drops).reverse.dropWhile drops).reverse

/-- The text without the blanks at its ends. -/
def trim (s : List Char) : List Char := trimBy isBlank s

/-- Whether a text stands somewhere in another. -/
def occursIn (part : List Char) : List Char → Bool
  | [] => part.isEmpty
  | c :: rest => part.isPrefixOf (c :: rest) || occursIn part rest

theorem occursIn_iff_infix {part s : List Char} : occursIn part s ↔ part <:+: s := by
  induction s with
  | nil => simp [occursIn]
  | cons c rest ih =>
    rw [occursIn, Bool.or_eq_true, ih, List.isPrefixOf_iff_prefix, List.infix_cons_iff]

/-! ### Line breaks

Files end their lines in several ways; a text that has been read has one. -/

/-- The text with a line feed for each carriage return, and for each that a line feed follows. -/
def unifyBreaks : List Char → List Char
  | '\r' :: '\n' :: rest => '\n' :: unifyBreaks rest
  | c :: rest => (if c = '\r' then '\n' else c) :: unifyBreaks rest
  | [] => []

theorem unifyBreaks_eq_self {s : List Char} (absent : '\r' ∉ s) : unifyBreaks s = s := by
  fun_induction unifyBreaks s with
  | case1 rest ih => simp at absent
  | case2 c rest _ ih =>
    simp only [List.mem_cons, not_or] at absent
    simp [ih absent.2, Ne.symm absent.1]
  | case3 => rfl

end PatternDeck.Text
