import ColumnarSql.Pattern.CharSet
import ColumnarSql.Text.PropertyTable

/-!
# Binary properties

The sets of characters that have a property, by the short and the long name of the
property in lower case and without marks between words. Most of them are put
together from categories and a table of exceptions.
-/

set_option autoImplicit false

namespace ColumnarSql.Property

open CharSet (ofRuns ofCategories ofList range single)

/-! ## Case -/

def titlecase : CharSet := ofCategories [.titleLetter]

def lowercase : CharSet := (ofCategories [.lowerLetter]).union (ofRuns Text.otherLower)

def uppercase : CharSet := (ofCategories [.upperLetter]).union (ofRuns Text.otherUpper)

def cased : CharSet := ofList [lowercase, uppercase, titlecase]

def caseIgnorable : CharSet :=
  (ofCategories [.nonspacingMark, .enclosingMark, .format, .modifierLetter, .modifierSymbol]).union
    (ofRuns Text.otherIgnorable)

/-- The characters that a mapping changes. -/
def changedBy (runs : List Text.CaseRun) (expansions : List (Nat × List Nat)) : CharSet :=
  ofRuns (runs.map (fun r => ⟨r.first, r.last, r.step⟩) ++ expansions.map fun e => ⟨e.1, e.1, 1⟩)

def lowercased : CharSet := changedBy Text.lowerRuns Text.lowerExpansions

def uppercased : CharSet := changedBy Text.upperRuns Text.upperExpansions

/-- Small letters whose title case is the letter itself. -/
def caselessTitles : CharSet := ⟨[⟨0x10d0, 0x10fa⟩, ⟨0x10fd, 0x10ff⟩]⟩

/-- Capital letters of two parts, of which title case makes the second part small. -/
def capitalPairs : CharSet :=
  ⟨[⟨0x1c4, 0x1c4⟩, ⟨0x1c7, 0x1c7⟩, ⟨0x1ca, 0x1ca⟩, ⟨0x1f1, 0x1f1⟩]⟩

def titlecased : CharSet :=
  (uppercased.diff (titlecase.union caselessTitles)).union capitalPairs

/-- Case folding is lower case, but for one script it is upper case, and it also
changes some small letters. -/
def casefolded : CharSet :=
  (lowercased.diff ⟨[⟨0x13a0, 0x13f5⟩]⟩).union (ofRuns Text.casefolded)

/-! ## Invisible characters -/

def bidiControls : CharSet :=
  ⟨[⟨0x61c, 0x61c⟩, ⟨0x200e, 0x200f⟩, ⟨0x202a, 0x202e⟩, ⟨0x2066, 0x2069⟩]⟩

def variationSelectors : CharSet :=
  ⟨[⟨0x180b, 0x180d⟩, ⟨0x180f, 0x180f⟩, ⟨0xfe00, 0xfe0f⟩, ⟨0xe0100, 0xe01ef⟩]⟩

/-- Signs that stand before the digits they reach across. -/
def prependedMarks : CharSet :=
  ⟨[⟨0x600, 0x605⟩, ⟨0x6dd, 0x6dd⟩, ⟨0x70f, 0x70f⟩, ⟨0x890, 0x891⟩, ⟨0x8e2, 0x8e2⟩,
    ⟨0x110bd, 0x110bd⟩, ⟨0x110cd, 0x110cd⟩]⟩

def otherDefaultIgnorable : CharSet :=
  ⟨[⟨0x34f, 0x34f⟩, ⟨0x115f, 0x1160⟩, ⟨0x17b4, 0x17b5⟩, ⟨0x2065, 0x2065⟩, ⟨0x3164, 0x3164⟩,
    ⟨0xffa0, 0xffa0⟩, ⟨0xfff0, 0xfff8⟩, ⟨0xe0000, 0xe0000⟩, ⟨0xe0002, 0xe001f⟩,
    ⟨0xe0080, 0xe00ff⟩, ⟨0xe01f0, 0xe0fff⟩]⟩

/-- Format characters that are visible: annotations and signs of hieroglyphs. -/
def visibleFormats : CharSet := ⟨[⟨0xfff9, 0xfffb⟩, ⟨0x13430, 0x1343f⟩]⟩

def defaultIgnorable : CharSet :=
  (ofList [otherDefaultIgnorable, ofCategories [.format], variationSelectors]).diff
    (prependedMarks.union visibleFormats)

/-- The last two code points of every plane, and 32 more. -/
def noncharacters : CharSet :=
  ⟨⟨0xfdd0, 0xfdef⟩ :: (List.range 17).map fun p => ⟨p * 0x10000 + 0xfffe, p * 0x10000 + 0xffff⟩⟩

/-! ## Graphemes -/

def graphemeExtend : CharSet :=
  (ofCategories [.nonspacingMark, .enclosingMark]).union (ofRuns Text.otherGraphemeExtenders)

def graphemeBase : CharSet := (ofCategories (.space :: Text.Category.graphic)).diff graphemeExtend

def regionalIndicators : CharSet := ⟨[⟨0x1f1e6, 0x1f1ff⟩]⟩

def emojiModifiers : CharSet := ⟨[⟨0x1f3fb, 0x1f3ff⟩]⟩

def emojiComponents : CharSet :=
  ⟨[⟨0x23, 0x23⟩, ⟨0x2a, 0x2a⟩, ⟨0x30, 0x39⟩, ⟨0x200d, 0x200d⟩, ⟨0x20e3, 0x20e3⟩,
    ⟨0xfe0f, 0xfe0f⟩, ⟨0x1f1e6, 0x1f1ff⟩, ⟨0x1f3fb, 0x1f3ff⟩, ⟨0x1f9b0, 0x1f9b3⟩,
    ⟨0xe0020, 0xe007f⟩]⟩

/-! ## Identifiers and patterns -/

def patternSpaces : CharSet :=
  ⟨[⟨0x9, 0xd⟩, ⟨0x20, 0x20⟩, ⟨0x85, 0x85⟩, ⟨0x200e, 0x200f⟩, ⟨0x2028, 0x2029⟩]⟩

def patternSyntax : CharSet := ofRuns Text.patternSyntax

def otherStarts : CharSet :=
  ⟨[⟨0x1885, 0x1886⟩, ⟨0x2118, 0x2118⟩, ⟨0x212e, 0x212e⟩, ⟨0x309b, 0x309c⟩]⟩

def otherContinuations : CharSet :=
  ⟨[⟨0xb7, 0xb7⟩, ⟨0x387, 0x387⟩, ⟨0x1369, 0x1371⟩, ⟨0x19da, 0x19da⟩, ⟨0x200c, 0x200d⟩,
    ⟨0x30fb, 0x30fb⟩, ⟨0xff65, 0xff65⟩]⟩

def idStart : CharSet :=
  ((ofCategories (.letterNumber :: Text.Category.letters)).union otherStarts).diff
    (patternSyntax.union patternSpaces)

def idContinue : CharSet :=
  ofList [idStart, ofCategories [.nonspacingMark, .spacingMark, .decimalDigit, .connector],
    otherContinuations]

/-- Characters that may continue an identifier but whose compatible forms may not. -/
def unstableContinuations : CharSet :=
  ⟨[⟨0x37a, 0x37a⟩, ⟨0x309b, 0x309c⟩, ⟨0xfc5e, 0xfc63⟩, ⟨0xfdfa, 0xfdfb⟩, ⟨0xfe70, 0xfe70⟩,
    ⟨0xfe72, 0xfe72⟩, ⟨0xfe74, 0xfe74⟩, ⟨0xfe76, 0xfe76⟩, ⟨0xfe78, 0xfe78⟩, ⟨0xfe7a, 0xfe7a⟩,
    ⟨0xfe7c, 0xfe7c⟩, ⟨0xfe7e, 0xfe7e⟩]⟩

/-- Characters that may begin an identifier but whose compatible forms may not. -/
def unstableStarts : CharSet :=
  unstableContinuations.union ⟨[⟨0xe33, 0xe33⟩, ⟨0xeb3, 0xeb3⟩, ⟨0xff9e, 0xff9f⟩]⟩

/-- Signs of mathematics that some identifiers may begin with. -/
def mathStarts : CharSet :=
  ⟨[⟨0x2202, 0x2202⟩, ⟨0x2207, 0x2207⟩, ⟨0x221e, 0x221e⟩, ⟨0x1d6c1, 0x1d6c1⟩,
    ⟨0x1d6db, 0x1d6db⟩, ⟨0x1d6fb, 0x1d6fb⟩, ⟨0x1d715, 0x1d715⟩, ⟨0x1d735, 0x1d735⟩,
    ⟨0x1d74f, 0x1d74f⟩, ⟨0x1d76f, 0x1d76f⟩, ⟨0x1d789, 0x1d789⟩, ⟨0x1d7a9, 0x1d7a9⟩,
    ⟨0x1d7c3, 0x1d7c3⟩]⟩

def mathContinuations : CharSet :=
  mathStarts.union ⟨[⟨0xb2, 0xb3⟩, ⟨0xb9, 0xb9⟩, ⟨0x2070, 0x2070⟩, ⟨0x2074, 0x207e⟩,
    ⟨0x2080, 0x208e⟩]⟩

/-! ## Signs -/

def dashes : CharSet :=
  (ofCategories [.dash]).union
    ⟨[⟨0x2053, 0x2053⟩, ⟨0x207b, 0x207b⟩, ⟨0x208b, 0x208b⟩, ⟨0x2212, 0x2212⟩]⟩

def hyphens : CharSet :=
  ⟨[⟨0x2d, 0x2d⟩, ⟨0xad, 0xad⟩, ⟨0x58a, 0x58a⟩, ⟨0x1806, 0x1806⟩, ⟨0x2010, 0x2011⟩,
    ⟨0x2e17, 0x2e17⟩, ⟨0x30fb, 0x30fb⟩, ⟨0xfe63, 0xfe63⟩, ⟨0xff0d, 0xff0d⟩, ⟨0xff65, 0xff65⟩]⟩

def quotationMarks : CharSet :=
  ⟨[⟨0x22, 0x22⟩, ⟨0x27, 0x27⟩, ⟨0xab, 0xab⟩, ⟨0xbb, 0xbb⟩, ⟨0x2018, 0x201f⟩, ⟨0x2039, 0x203a⟩,
    ⟨0x2e42, 0x2e42⟩, ⟨0x300c, 0x300f⟩, ⟨0x301d, 0x301f⟩, ⟨0xfe41, 0xfe44⟩, ⟨0xff02, 0xff02⟩,
    ⟨0xff07, 0xff07⟩, ⟨0xff62, 0xff63⟩]⟩

def sentenceTerminals : CharSet := ofRuns Text.sentenceTerminals

def terminals : CharSet := sentenceTerminals.union (ofRuns Text.otherTerminals)

def otherMath : CharSet := ofRuns Text.otherMath

def mathematics : CharSet := (ofCategories [.mathSymbol]).union otherMath

def hexDigits : CharSet :=
  CharSet.asciiHexDigits.union ⟨[⟨0xff10, 0xff19⟩, ⟨0xff21, 0xff26⟩, ⟨0xff41, 0xff46⟩]⟩

/-! ## Letters and marks of some scripts -/

def radicals : CharSet := ⟨[⟨0x2e80, 0x2e99⟩, ⟨0x2e9b, 0x2ef3⟩, ⟨0x2f00, 0x2fd5⟩]⟩

/-- Operators that describe an ideograph by two parts. -/
def binaryDescriptions : CharSet := ⟨[⟨0x2ff0, 0x2ff1⟩, ⟨0x2ff4, 0x2ffd⟩, ⟨0x31ef, 0x31ef⟩]⟩

def trinaryDescriptions : CharSet := ⟨[⟨0x2ff2, 0x2ff3⟩]⟩

def unaryDescriptions : CharSet := ⟨[⟨0x2ffe, 0x2fff⟩]⟩

/-- Vowels written before the consonant they follow in speech. -/
def leadingVowels : CharSet :=
  ⟨[⟨0xe40, 0xe44⟩, ⟨0xec0, 0xec4⟩, ⟨0x19b5, 0x19b7⟩, ⟨0x19ba, 0x19ba⟩, ⟨0xaab5, 0xaab6⟩,
    ⟨0xaab9, 0xaab9⟩, ⟨0xaabb, 0xaabc⟩]⟩

/-- Marks that belong to the letter before the vowel signs. -/
def modifierMarks : CharSet :=
  ⟨[⟨0x654, 0x655⟩, ⟨0x658, 0x658⟩, ⟨0x6dc, 0x6dc⟩, ⟨0x6e3, 0x6e3⟩, ⟨0x6e7, 0x6e8⟩,
    ⟨0x8ca, 0x8cb⟩, ⟨0x8cd, 0x8cf⟩, ⟨0x8d3, 0x8d3⟩, ⟨0x8f3, 0x8f3⟩]⟩

/-! ## Names -/

/-- The sets by the names of the properties. -/
def binaryNames : List (List String × CharSet) := [
  (["ahex", "asciihexdigit"], CharSet.asciiHexDigits),
  (["alpha", "alphabetic"], CharSet.alphabetic),
  (["bidic", "bidicontrol"], bidiControls),
  (["bidim", "bidimirrored"], ofRuns Text.mirrored),
  (["ci", "caseignorable"], caseIgnorable),
  (["cased"], cased),
  (["cwcf", "changeswhencasefolded"], casefolded),
  (["cwcm", "changeswhencasemapped"], ofList [lowercased, uppercased, titlecased]),
  (["cwl", "changeswhenlowercased"], lowercased),
  (["cwt", "changeswhentitlecased"], titlecased),
  (["cwu", "changeswhenuppercased"], uppercased),
  (["dash"], dashes),
  (["di", "defaultignorablecodepoint"], defaultIgnorable),
  (["dep", "deprecated"], ofRuns Text.deprecated),
  (["dia", "diacritic"], ofRuns Text.diacritics),
  (["emoji"], ofRuns Text.emoji),
  (["ecomp", "emojicomponent"], emojiComponents),
  (["emod", "emojimodifier"], emojiModifiers),
  (["ebase", "emojimodifierbase"], ofRuns Text.emojiBases),
  (["epres", "emojipresentation"], ofRuns Text.emojiPresented),
  (["extpict", "extendedpictographic"], ofRuns Text.pictographs),
  (["ext", "extender"], ofRuns Text.extenders),
  (["grbase", "graphemebase"], graphemeBase),
  (["grext", "graphemeextend"], graphemeExtend),
  (["grlink", "graphemelink"], ofRuns Text.graphemeLinks),
  (["hex", "hexdigit"], hexDigits),
  (["hyphen"], hyphens),
  (["idsb", "idsbinaryoperator"], binaryDescriptions),
  (["idst", "idstrinaryoperator"], trinaryDescriptions),
  (["idsu", "idsunaryoperator"], unaryDescriptions),
  (["idcompatmathcontinue"], mathContinuations),
  (["idcompatmathstart"], mathStarts),
  (["idc", "idcontinue"], idContinue),
  (["ids", "idstart"], idStart),
  (["ideo", "ideographic"], ofRuns Text.ideographs),
  (["joinc", "joincontrol"], CharSet.joiners),
  (["loe", "logicalorderexception"], leadingVowels),
  (["lower", "lowercase"], lowercase),
  (["math"], mathematics),
  (["mcm", "modifiercombiningmark"], modifierMarks),
  (["nchar", "noncharactercodepoint"], noncharacters),
  (["oalpha", "otheralphabetic"], ofRuns Text.otherAlphabetic),
  (["odi", "otherdefaultignorablecodepoint"], otherDefaultIgnorable),
  (["ogrext", "othergraphemeextend"], ofRuns Text.otherGraphemeExtenders),
  (["oidc", "otheridcontinue"], otherContinuations),
  (["oids", "otheridstart"], otherStarts),
  (["olower", "otherlowercase"], ofRuns Text.otherLower),
  (["omath", "othermath"], otherMath),
  (["oupper", "otheruppercase"], ofRuns Text.otherUpper),
  (["patsyn", "patternsyntax"], patternSyntax),
  (["patws", "patternwhitespace"], patternSpaces),
  (["pcm", "prependedconcatenationmark"], prependedMarks),
  (["qmark", "quotationmark"], quotationMarks),
  (["radical"], radicals),
  (["ri", "regionalindicator"], regionalIndicators),
  (["sterm", "sentenceterminal"], sentenceTerminals),
  (["sd", "softdotted"], ofRuns Text.softDotted),
  (["term", "terminalpunctuation"], terminals),
  (["uideo", "unifiedideograph"], ofRuns Text.unifiedIdeographs),
  (["upper", "uppercase"], uppercase),
  (["vs", "variationselector"], variationSelectors),
  (["wspace", "space", "whitespace"], CharSet.blanks),
  (["xidc", "xidcontinue"], idContinue.diff unstableContinuations),
  (["xids", "xidstart"], idStart.diff unstableStarts)]

end ColumnarSql.Property
