import Chargeback.Text.ColumnTable
import Chargeback.Text.EmojiTable
import Chargeback.Text.Ligature

/-!
# Columns

How many terminal columns a line of text takes. Tables are laid out by columns, not by characters,
so that their right edges meet whatever the script.

Most characters take their columns by themselves. The others share them with their neighbours: some
letters form ligatures, an emoji takes in the skin tone, the joiners and the other emoji that make
one picture of it, flags are pairs of letters, and a selector behind a character decides whether it
is drawn as text or as an emoji. A line is therefore read from its end, and of what has been read
only as much is kept as bears on the characters in front.
-/

namespace Chargeback.Text

/-! ## Characters with a part to play -/

/-- The zero width joiner. -/
def joinerCode : Nat := 0x200d

/-- The enclosing keycap. -/
def keycapCode : Nat := 0x20e3

/-- The selector of the text style. -/
def textSelector : Nat := 0xfe0e

/-- The selector of the emoji style. -/
def emojiSelector : Nat := 0xfe0f

/-- The black flag, which tags turn into the flag of a region. -/
def flagCode : Nat := 0x1f3f4

/-- The tag that ends the tags behind a flag. -/
def endTag : Nat := 0xe007f

/-- Whether a character is a small letter among the tags. -/
def isTagLetter (n : Nat) : Bool := 0xe0061 ≤ n && n ≤ 0xe007a

/-- Whether a character is a digit among the tags. -/
def isTagDigit (n : Nat) : Bool := 0xe0030 ≤ n && n ≤ 0xe0039

/-- Whether a character is a regional indicator, two of which make a flag. -/
def isIndicator (n : Nat) : Bool := 0x1f1e6 ≤ n && n ≤ 0x1f1ff

/-- Whether a character is a skin tone. -/
def isSkin (n : Nat) : Bool := 0x1f3fb ≤ n && n ≤ 0x1f3ff

/-- The sign that takes three columns: the Khmer sign for "and so on". -/
def widestCode : Nat := 0x17d8

/-! ## What has been read -/

/-- The style that a selector asks for. -/
inductive Style where
  | text
  | emoji
deriving DecidableEq, Repr

/-- What a place in a line is followed by, as far as it matters to the character in front. -/
inductive Onset where
  /-- Nothing that merges. -/
  | plain
  /-- A ligature, with a joiner or without. -/
  | ligature (ending : Ligature) (joined : Bool)
  /-- An emoji. -/
  | emoji
  /-- A skin tone. -/
  | skin
  /-- A joiner and behind it an emoji. -/
  | joiner
  /-- An enclosing keycap and behind it a joined emoji. -/
  | keycap
  /-- One regional indicator. -/
  | indicator
  /-- Several regional indicators. -/
  | indicators
  /-- One regional indicator and behind it a joined emoji. -/
  | joinedIndicator
  /-- An even number of regional indicators, other than none, and behind them a joined emoji. -/
  | joinedEven
  /-- An odd number of regional indicators, other than one, and behind them a joined emoji. -/
  | joinedOdd
  /-- Tag letters, the tag that ends them, and behind them a joined emoji. -/
  | tagLetters (count : Nat)
  /-- Tag digits, as much of a tag as follows digits, and behind them a joined emoji. -/
  | tagDigits (count : Nat)
deriving DecidableEq, Repr

/-- What a place in a line is followed by: a selector that is still to be obeyed, and what is behind
it. -/
structure Following where
  /-- What is behind the selector, if there is one. -/
  onset : Onset
  /-- The style that the selector asks for. -/
  style : Option Style
deriving DecidableEq, Repr

namespace Onset

/-- Whether an onset goes on in front of a selector. -/
def passes (style : Style) : Onset → Bool
  | ligature _ _ => true
  | joiner => style = .emoji
  | keycap => style = .emoji
  | _ => false

/-- Whether an emoji in front belongs to the picture that has begun behind it. -/
def joins : Onset → Bool
  | joiner => true
  | keycap => true
  | _ => false

/-- The onset in front of a character that stands by itself, with its columns. -/
def alone (n : Nat) : Int × Onset :=
  if inRanges zeroWidthRanges n then (0, plain)
  else if isSkin n then (2, skin)
  else if inRanges emojiRanges n then (2, emoji)
  else if isIndicator n then (1, indicator)
  else if inRanges wideRanges n then (2, plain)
  else if n = widestCode then (3, plain)
  else match Ligature.endedBy? n with
    | some ending => (1, ligature ending false)
    | none => (1, plain)

/-- The onset in front of a character that goes on with a ligature. -/
def mergeLigature? (ending : Ligature) (joined : Bool) (n : Nat) : Option (Int × Onset) :=
  match ending with
  | .alef =>
    match ending.merge? joined n with
    | some (added, _) => some (added, plain)
    | none =>
      if inRanges zeroWidthRanges n && !inRanges separatingRanges n then
        some (0, ligature ending joined)
      else none
  | _ =>
    if n = joinerCode then some (0, ligature ending true)
    else if inRanges ignorableMarkRanges n then some (0, ligature ending joined)
    else match ending.merge? joined n with
      | some (added, some longer) => some (added, ligature longer false)
      | some (added, none) => some (added, plain)
      | none => none

/-- The onset in front of a character behind which an emoji is joined. -/
def mergeJoiner? (n : Nat) : Option (Int × Onset) :=
  if n = keycapCode then some (0, keycap)
  else if isIndicator n then some (1, joinedIndicator)
  else if isSkin n then some (0, skin)
  else if n = endTag then some (0, tagLetters 0)
  else if inRanges emojiRanges n then some (0, emoji)
  else none

/-- The onset in front of a character that stands before tags. -/
def mergeTags? (letters digits : Nat) (n : Nat) : Option (Int × Onset) :=
  if isTagLetter n ∧ digits = 0 ∧ letters < 6 then some (0, tagLetters (letters + 1))
  else if isTagDigit n ∧ letters ≤ 4 ∧ digits < 3 then some (0, tagDigits (digits + 1))
  else if n = flagCode ∧ (3 ≤ letters ∨ digits = 3) then some (0, emoji)
  else none

/-- The onset in front of a character that merges with what is behind it, with the columns that it
adds. A character that stands by itself gives nothing. -/
def merge? (onset : Onset) (n : Nat) : Option (Int × Onset) :=
  match onset with
  | plain => none
  | ligature ending joined => mergeLigature? ending joined n
  | emoji => if n = joinerCode then some (0, joiner) else none
  | skin =>
    if inRanges skinRanges n then some (0, emoji)
    else if n = joinerCode then some (0, joiner)
    else none
  | joiner => mergeJoiner? n
  | keycap => none
  | indicator => if isIndicator n then some (1, indicators) else none
  | indicators =>
    if isIndicator n then some (1, indicators)
    else if n = joinerCode then some (0, joiner)
    else none
  | joinedIndicator => if isIndicator n then some (-1, joinedEven) else none
  | joinedEven =>
    if isIndicator n then some (3, joinedOdd)
    else if n = joinerCode then some (0, joiner)
    else none
  | joinedOdd =>
    if isIndicator n then some (-1, joinedEven)
    else if n = joinerCode then some (0, joiner)
    else none
  | tagLetters count => mergeTags? count 0 n
  | tagDigits count => mergeTags? 0 count n

end Onset

namespace Following

/-- What a place in front of nothing is followed by. -/
def nothing : Following := ⟨.plain, none⟩

/-- What a place in front of a selector is followed by. -/
def select (f : Following) (style : Style) : Following :=
  ⟨if f.onset.passes style then f.onset else .plain, some style⟩

/-- The onset behind a selector that the character in front does not obey. -/
def ignoringStyle (f : Following) : Onset :=
  match f.style with
  | none => f.onset
  | some _ => if f.onset.passes .text then f.onset else .plain

/-- Reads one character: the columns that it adds, and what the place in front of it is followed
by. -/
def read (f : Following) (c : Char) : Int × Following :=
  let n := c.toNat
  if f.style = some .emoji ∧ inRanges emojiStyleRanges n then
    (if f.onset.joins then 0 else 2, ⟨.emoji, none⟩)
  else if n ≤ 0xa0 then (1, nothing)
  else if n = emojiSelector then (0, select ⟨f.ignoringStyle, none⟩ .emoji)
  else if n = textSelector then (0, select ⟨f.ignoringStyle, none⟩ .text)
  else if f.style = some .text ∧ inRanges textStyleRanges n then (1, nothing)
  else
    let (added, onset) := (f.ignoringStyle.merge? n).getD (Onset.alone n)
    (added, ⟨onset, none⟩)

end Following

/-! ## Lines -/

/-- The columns of a line of text, and what a place in front of it is followed by. -/
def readColumns : List Char → Int × Following
  | [] => (0, .nothing)
  | c :: rest =>
    let (columns, following) := readColumns rest
    let (added, next) := following.read c
    (columns + added, next)

/-- The columns of a line of text. -/
def columns (line : List Char) : Nat := (readColumns line).1.toNat

/-- A line with blanks behind it up to the given number of columns. -/
def padTo (width : Nat) (line : List Char) : List Char :=
  line ++ List.replicate (width - columns line) ' '

end Chargeback.Text
