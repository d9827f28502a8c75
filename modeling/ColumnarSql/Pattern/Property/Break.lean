import ColumnarSql.Pattern.Property.Binary

/-!
# Break properties

The parts that the boundaries of graphemes, words and sentences give to characters,
by the short and the long name of the part in lower case and without marks between
words. Every character has one part for each of the three boundaries.
-/

set_option autoImplicit false

namespace ColumnarSql.Property

open CharSet (ofRuns ofCategories ofList range single)

def lineFeed : CharSet := single '\n'

def carriageReturn : CharSet := single '\r'

def zeroWidthJoiner : CharSet := single '\u200d'

/-! ## Graphemes -/

namespace Grapheme

/-- Line and paragraph separators, control and format characters, and unassigned
characters that are ignored, unless they have another part. -/
def control : CharSet :=
  let controls := ofCategories [.lineSeparator, .paragraphSeparator, .control, .format]
  let reserved := defaultIgnorable.diff (ofCategories Text.Category.assigned)
  (controls.union reserved).diff
    (ofList [graphemeExtend, carriageReturn, lineFeed, zeroWidthJoiner, prependedMarks])

def extend : CharSet := graphemeExtend.union emojiModifiers

/-- Marks that take room but end the grapheme they belong to. -/
def separateMarks : CharSet :=
  ⟨[⟨0x102b, 0x102c⟩, ⟨0x1038, 0x1038⟩, ⟨0x1062, 0x1064⟩, ⟨0x1067, 0x106d⟩, ⟨0x1083, 0x1083⟩,
    ⟨0x1087, 0x108c⟩, ⟨0x108f, 0x108f⟩, ⟨0x109a, 0x109c⟩, ⟨0x1a61, 0x1a61⟩, ⟨0x1a63, 0x1a64⟩,
    ⟨0xaa7b, 0xaa7b⟩, ⟨0xaa7d, 0xaa7d⟩, ⟨0x11720, 0x11721⟩]⟩

def spacingMark : CharSet :=
  ((ofCategories [.spacingMark]).diff (graphemeExtend.union separateMarks)).union
    ⟨[⟨0xe33, 0xe33⟩, ⟨0xeb3, 0xeb3⟩]⟩

def prepended : CharSet :=
  prependedMarks.union
    ⟨[⟨0xd4e, 0xd4e⟩, ⟨0x111c2, 0x111c3⟩, ⟨0x113d1, 0x113d1⟩, ⟨0x1193f, 0x1193f⟩,
      ⟨0x11941, 0x11941⟩, ⟨0x11a3a, 0x11a3a⟩, ⟨0x11a84, 0x11a89⟩, ⟨0x11d46, 0x11d46⟩,
      ⟨0x11f02, 0x11f02⟩]⟩

/-- Letters that begin a syllable. -/
def leading : CharSet := ⟨[⟨0x1100, 0x115f⟩, ⟨0xa960, 0xa97c⟩]⟩

/-- Vowels of a syllable. -/
def vowel : CharSet :=
  ⟨[⟨0x1160, 0x11a7⟩, ⟨0xd7b0, 0xd7c6⟩, ⟨0x16d63, 0x16d63⟩, ⟨0x16d67, 0x16d6a⟩]⟩

/-- Letters that end a syllable. -/
def trailing : CharSet := ⟨[⟨0x11a8, 0x11ff⟩, ⟨0xd7cb, 0xd7fb⟩]⟩

/-- Syllables of two letters; each is followed by those with one more letter. -/
def openSyllable : CharSet := ofRuns [⟨0xac00, 0xd788, 28⟩]

def closedSyllable : CharSet := CharSet.diff ⟨[⟨0xac00, 0xd7a3⟩]⟩ openSyllable

def parts : List (List String × CharSet) := [
  (["cn", "control"], control), (["cr"], carriageReturn), (["ex", "extend"], extend),
  (["l"], leading), (["lf"], lineFeed), (["lv"], openSyllable), (["lvt"], closedSyllable),
  (["pp", "prepend"], prepended), (["ri", "regionalindicator"], regionalIndicators),
  (["sm", "spacingmark"], spacingMark), (["t"], trailing), (["v"], vowel),
  (["zwj"], zeroWidthJoiner)]

end Grapheme

/-- Format characters that count as numbers. -/
def numberSigns : CharSet := prependedMarks.diff (single '\u070f')

def decimals : CharSet := (ofCategories [.decimalDigit]).union numberSigns

/-! ## Words -/

namespace Word

def extend : CharSet :=
  ofList [graphemeExtend, ofCategories [.spacingMark], emojiModifiers]

def format : CharSet :=
  (ofCategories [.format]).diff
    (ofList [graphemeExtend, range '\u200b' '\u200d', prependedMarks])

def hebrew : CharSet :=
  ⟨[⟨0x5d0, 0x5ea⟩, ⟨0x5ef, 0x5f2⟩, ⟨0xfb1d, 0xfb1d⟩, ⟨0xfb1f, 0xfb28⟩, ⟨0xfb2a, 0xfb36⟩,
    ⟨0xfb38, 0xfb3c⟩, ⟨0xfb3e, 0xfb3e⟩, ⟨0xfb40, 0xfb41⟩, ⟨0xfb43, 0xfb44⟩, ⟨0xfb46, 0xfb4f⟩]⟩

def katakana : CharSet :=
  ⟨[⟨0x3031, 0x3035⟩, ⟨0x309b, 0x309c⟩, ⟨0x30a0, 0x30fa⟩, ⟨0x30fc, 0x30ff⟩, ⟨0x31f0, 0x31ff⟩,
    ⟨0x32d0, 0x32fe⟩, ⟨0x3300, 0x3357⟩, ⟨0xff66, 0xff9d⟩, ⟨0x1aff0, 0x1aff3⟩, ⟨0x1aff5, 0x1affb⟩,
    ⟨0x1affd, 0x1affe⟩, ⟨0x1b000, 0x1b000⟩, ⟨0x1b120, 0x1b122⟩, ⟨0x1b155, 0x1b155⟩,
    ⟨0x1b164, 0x1b167⟩]⟩

def hiragana : CharSet :=
  ⟨[⟨0x3041, 0x3096⟩, ⟨0x309d, 0x309f⟩, ⟨0x1b001, 0x1b11f⟩, ⟨0x1b132, 0x1b132⟩,
    ⟨0x1b150, 0x1b152⟩]⟩

/-- Alphabetic characters of scripts that put spaces between words. -/
def letter : CharSet :=
  (CharSet.alphabetic.diff
    (ofList [ofRuns Text.ideographs, katakana, hiragana, hebrew, extend,
      ofRuns Text.unspacedLetters])).union (ofRuns Text.wordSigns)

def betweenLetters : CharSet :=
  ⟨[⟨0x3a, 0x3a⟩, ⟨0xb7, 0xb7⟩, ⟨0x387, 0x387⟩, ⟨0x55f, 0x55f⟩, ⟨0x5f4, 0x5f4⟩, ⟨0x2027, 0x2027⟩,
    ⟨0xfe13, 0xfe13⟩, ⟨0xfe55, 0xfe55⟩, ⟨0xff1a, 0xff1a⟩]⟩

def betweenNumbers : CharSet :=
  ⟨[⟨0x2c, 0x2c⟩, ⟨0x3b, 0x3b⟩, ⟨0x37e, 0x37e⟩, ⟨0x589, 0x589⟩, ⟨0x60c, 0x60d⟩, ⟨0x66c, 0x66c⟩,
    ⟨0x7f8, 0x7f8⟩, ⟨0x2044, 0x2044⟩, ⟨0xfe50, 0xfe50⟩, ⟨0xfe54, 0xfe54⟩, ⟨0xff0c, 0xff0c⟩,
    ⟨0xff1b, 0xff1b⟩]⟩

def betweenBoth : CharSet :=
  ⟨[⟨0x2e, 0x2e⟩, ⟨0x2018, 0x2019⟩, ⟨0x2024, 0x2024⟩, ⟨0xfe52, 0xfe52⟩, ⟨0xff07, 0xff07⟩,
    ⟨0xff0e, 0xff0e⟩]⟩

def numeric : CharSet := decimals.union ⟨[⟨0x66b, 0x66b⟩, ⟨0x19da, 0x19da⟩]⟩

def newline : CharSet := ⟨[⟨0xb, 0xc⟩, ⟨0x85, 0x85⟩, ⟨0x2028, 0x2029⟩]⟩

/-- Spaces at which a line may break. -/
def space : CharSet :=
  (ofCategories [.space]).diff ⟨[⟨0xa0, 0xa0⟩, ⟨0x2007, 0x2007⟩, ⟨0x202f, 0x202f⟩]⟩

def parts : List (List String × CharSet) := [
  (["le", "aletter"], letter), (["cr"], carriageReturn), (["dq", "doublequote"], single '"'),
  (["extend"], extend),
  (["ex", "extendnumlet"], (ofCategories [.connector]).union (single '\u202f')),
  (["fo", "format"], format), (["hl", "hebrewletter"], hebrew), (["ka", "katakana"], katakana),
  (["lf"], lineFeed), (["ml", "midletter"], betweenLetters), (["mn", "midnum"], betweenNumbers),
  (["mb", "midnumlet"], betweenBoth), (["nl", "newline"], newline), (["nu", "numeric"], numeric),
  (["ri", "regionalindicator"], regionalIndicators), (["sq", "singlequote"], single '\''),
  (["wsegspace"], space), (["zwj"], zeroWidthJoiner)]

end Word

/-! ## Sentences -/

namespace Sentence

def extend : CharSet :=
  ofList [graphemeExtend, ofCategories [.spacingMark], zeroWidthJoiner]

def format : CharSet := (ofCategories [.format]).diff (extend.union numberSigns)

def lower : CharSet := lowercase.diff (graphemeExtend.union caselessTitles)

/-- Capital letters, but for the capitals of letters without title case. -/
def upper : CharSet :=
  (uppercase.union titlecase).diff ⟨[⟨0x1c90, 0x1cba⟩, ⟨0x1cbd, 0x1cbf⟩]⟩

/-- Alphabetic characters without case, and an apostrophe. -/
def letter : CharSet :=
  (CharSet.alphabetic.diff (ofList [lower, upper, extend])).union (single '\u05f3')

def separator : CharSet := ⟨[⟨0x85, 0x85⟩, ⟨0x2028, 0x2029⟩]⟩

def space : CharSet := CharSet.blanks.diff (ofList [separator, carriageReturn, lineFeed])

/-- Full stops, which need not end a sentence. -/
def stop : CharSet := ⟨[⟨0x2e, 0x2e⟩, ⟨0x2024, 0x2024⟩, ⟨0xfe52, 0xfe52⟩, ⟨0xff0e, 0xff0e⟩]⟩

/-- Marks after which a sentence goes on. -/
def continuation : CharSet :=
  ⟨[⟨0x2c, 0x2d⟩, ⟨0x3a, 0x3b⟩, ⟨0x37e, 0x37e⟩, ⟨0x55d, 0x55d⟩, ⟨0x60c, 0x60d⟩, ⟨0x7f8, 0x7f8⟩,
    ⟨0x1802, 0x1802⟩, ⟨0x1808, 0x1808⟩, ⟨0x2013, 0x2014⟩, ⟨0x3001, 0x3001⟩, ⟨0xfe10, 0xfe11⟩,
    ⟨0xfe13, 0xfe14⟩, ⟨0xfe31, 0xfe32⟩, ⟨0xfe50, 0xfe51⟩, ⟨0xfe54, 0xfe55⟩, ⟨0xfe58, 0xfe58⟩,
    ⟨0xfe63, 0xfe63⟩, ⟨0xff0c, 0xff0d⟩, ⟨0xff1a, 0xff1b⟩, ⟨0xff64, 0xff64⟩]⟩

/-- Ornaments used as quotation marks. -/
def ornaments : CharSet :=
  ⟨[⟨0x275b, 0x2760⟩, ⟨0x2e00, 0x2e0d⟩, ⟨0x2e1c, 0x2e1d⟩, ⟨0x2e20, 0x2e21⟩, ⟨0x1f676, 0x1f678⟩]⟩

def closing : CharSet :=
  (ofList [ofCategories [.opening, .closing], quotationMarks, ornaments]).diff
    ⟨[⟨0xff02, 0xff02⟩, ⟨0xff07, 0xff07⟩]⟩

def parts : List (List String × CharSet) := [
  (["at", "aterm"], stop), (["cl", "close"], closing), (["cr"], carriageReturn),
  (["ex", "extend"], extend), (["fo", "format"], format), (["le", "oletter"], letter),
  (["lf"], lineFeed), (["lo", "lower"], lower),
  (["nu", "numeric"], decimals.union ⟨[⟨0x66b, 0x66c⟩, ⟨0x19da, 0x19da⟩]⟩),
  (["sc", "scontinue"], continuation), (["se", "sep"], separator), (["sp"], space),
  (["st", "sterm"], sentenceTerminals.diff stop), (["up", "upper"], upper)]

end Sentence

end ColumnarSql.Property
