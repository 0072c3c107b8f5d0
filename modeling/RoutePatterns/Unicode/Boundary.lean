import RoutePatterns.Unicode.BinaryProperty
import RoutePatterns.Unicode.Category
import RoutePatterns.Unicode.Script

/-!
# Characters at the boundaries of graphemes, words and sentences

The values of the properties Grapheme_Cluster_Break, Word_Break and Sentence_Break. Unicode's rules
of text segmentation make them from the general categories, the scripts and the binary properties,
and from lists of single characters. A character that no value claims has the value Other, which is
not the name of a set here.
-/

namespace RoutePatterns

namespace Unicode

/-! ### Characters of several properties -/

def zeroWidthJoiner : CodeSet := [(0x200D, 0x200D)]

def emojiModifier : CodeSet := binary "emojimodifier"

/-- Signs that stand before the digits that they span. -/
def prependedMark : CodeSet := binary "prependedconcatenationmark"

/-- The signs before digits that count as digits in words and sentences. -/
def numericMark : CodeSet := prependedMark.difference [(0x70F, 0x70F)]

/-! ### Graphemes -/

def graphemeBreakExtend : CodeSet := (graphemeExtend ++ emojiModifier).difference zeroWidthJoiner

/-- Letters that are written before a consonant, and the signs before digits. -/
def graphemeBreakPrepend : CodeSet :=
  unpack ["D4E 111C2-111C3 113D1 1193F 11941 11A84-11A89 11D46 11F02"] ++ prependedMark

/-- Controls, formats, line ends and the characters that are not assigned but ignored. -/
def graphemeBreakControl : CodeSet :=
  let ignored := (binary "defaultignorablecodepoint").intersection (categories ["cn"])
  (categories ["cc", "cf", "zl", "zp"] ++ ignored).difference
    (unpack ["A D 200C-200D"] ++ prependedMark ++ graphemeBreakExtend)

/-- Spacing marks that belong to the letter before them. -/
def graphemeBreakSpacingMark : CodeSet :=
  (categories ["mc"] ++ unpack ["E33 EB3"]).difference
    (graphemeBreakExtend ++ unpack [
      "102B-102C 1038 1062-1064 1067-106D 1083 1087-108C 108F 109A-109C 1A61 1A63-1A64 AA7B AA7D",
      "11720-11721"])

/-- The first code points of the blocks of 28 Hangul syllables that have the same first two
letters. -/
def hangulBlocks : List Nat := (List.range 399).map fun k => 0xAC00 + 28 * k

/-- The characters that have a value of Grapheme_Cluster_Break. -/
def graphemeBreakSet? (value : String) : Option CodeSet :=
  match value with
  | "cn" | "control" => some graphemeBreakControl
  | "cr" => some [(0xD, 0xD)]
  | "ex" | "extend" => some graphemeBreakExtend
  | "l" => some (unpack ["1100-115F A960-A97C"])
  | "lf" => some [(0xA, 0xA)]
  | "lv" => some (hangulBlocks.map fun n => (n, n))
  | "lvt" => some (hangulBlocks.map fun n => (n + 1, n + 27))
  | "pp" | "prepend" => some graphemeBreakPrepend
  | "ri" | "regionalindicator" => some (binary "regionalindicator")
  | "sm" | "spacingmark" => some graphemeBreakSpacingMark
  | "t" => some (unpack ["11A8-11FF D7CB-D7FB"])
  | "v" => some (unpack ["1160-11A7 D7B0-D7C6 16D63 16D67-16D6A"])
  | "zwj" => some zeroWidthJoiner
  | _ => none

/-! ### Words -/

def wordBreakExtend : CodeSet :=
  (graphemeExtend ++ emojiModifier ++ categories ["mc"]).difference zeroWidthJoiner

def wordBreakFormat : CodeSet :=
  (categories ["cf"]).difference (unpack ["200B-200D"] ++ wordBreakExtend ++ prependedMark)

def wordBreakKatakana : CodeSet :=
  (script "katakana" ++ unpack ["3031-3035 309B-309C 30A0 30FC FF70"]).difference wordBreakExtend

def wordBreakHebrewLetter : CodeSet := (script "hebrew").intersection (categories ["lo"])

/-- The decimal digits with the characters that count as digits. -/
def wordBreakNumeric : CodeSet := categories ["nd"] ++ unpack ["66B 19DA"] ++ numericMark

/-- Characters of scripts that are written without spaces, whose words only a dictionary finds. -/
def complexContext : CodeSet := unpack [
  "E01-E3A E40-E4E E81-E82 E84 E86-E8A E8C-EA3 EA5 EA7-EBD EC0-EC4 EC6 EC8-ECE EDC-EDF",
  "1000-103F 1050-108F 109A-109F 1780-17D3 17D7 17DC-17DD 1950-196D 1970-1974 1980-19AB",
  "19B0-19C9 19DE-19DF 1A20-1A5E 1A60-1A7C 1AA0-1AAD A9E0-A9EF A9FA-A9FE AA60-AAC2 AADB-AADF",
  "11700-1171A 1171D-1172B 1173A-1173B 1173F-11746"]

/-- Letters of the scripts that are written with spaces, and signs that stand inside words. -/
def wordBreakALetter : CodeSet :=
  (binary "alphabetic" ++ unpack [
    "B8 2C2-2C5 2D2-2D7 2DE-2DF 2E5-2EB 2ED 2EF-2FF 55A-55C 55E 58A 5F3 70F A708-A716 A720-A721",
    "A789-A78A AB5B"]).difference
    (binary "ideographic" ++ complexContext ++ script "hiragana" ++ wordBreakKatakana ++
      wordBreakHebrewLetter ++ wordBreakExtend)

/-- The characters that have a value of Word_Break. -/
def wordBreakSet? (value : String) : Option CodeSet :=
  match value with
  | "cr" => some [(0xD, 0xD)]
  | "dq" | "doublequote" => some [(0x22, 0x22)]
  | "ex" | "extendnumlet" => some (unpack ["5F 202F 203F-2040 2054 FE33-FE34 FE4D-FE4F FF3F"])
  | "extend" => some wordBreakExtend
  | "fo" | "format" => some wordBreakFormat
  | "hl" | "hebrewletter" => some wordBreakHebrewLetter
  | "ka" | "katakana" => some wordBreakKatakana
  | "le" | "aletter" => some wordBreakALetter
  | "lf" => some [(0xA, 0xA)]
  | "mb" | "midnumlet" => some (unpack ["2E 2018-2019 2024 FE52 FF07 FF0E"])
  | "ml" | "midletter" => some (unpack ["3A B7 387 55F 5F4 2027 FE13 FE55 FF1A"])
  | "mn" | "midnum" => some (unpack ["2C 3B 37E 589 60C-60D 66C 7F8 2044 FE50 FE54 FF0C FF1B"])
  | "nl" | "newline" => some (unpack ["B-C 85 2028-2029"])
  | "nu" | "numeric" => some wordBreakNumeric
  | "ri" | "regionalindicator" => some (binary "regionalindicator")
  | "sq" | "singlequote" => some [(0x27, 0x27)]
  | "wsegspace" => some (unpack ["20 1680 2000-2006 2008-200A 205F 3000"])
  | "zwj" => some zeroWidthJoiner
  | _ => none

/-! ### Sentences -/

def sentenceBreakExtend : CodeSet := graphemeExtend ++ categories ["mc"] ++ zeroWidthJoiner

def sentenceBreakFormat : CodeSet :=
  (categories ["cf"]).difference (sentenceBreakExtend ++ numericMark)

/-- Small letters, without the Georgian ones that begin a sentence too. -/
def sentenceBreakLower : CodeSet :=
  (binary "lowercase").difference (graphemeExtend ++ unpack ["10D0-10FA 10FD-10FF"])

def sentenceBreakUpper : CodeSet :=
  (categories ["lt"] ++ binary "uppercase").difference (unpack ["1C90-1CBA 1CBD-1CBF"])

def sentenceBreakNumeric : CodeSet :=
  categories ["nd"] ++ unpack ["66B-66C 19DA"] ++ numericMark

/-- Letters that are neither small nor capital. -/
def sentenceBreakOLetter : CodeSet :=
  (binary "alphabetic" ++ [(0x5F3, 0x5F3)]).difference
    (sentenceBreakLower ++ sentenceBreakUpper ++ sentenceBreakExtend)

/-- Full stops, which do not always end a sentence. -/
def sentenceBreakATerm : CodeSet := unpack ["2E 2024 FE52 FF0E"]

def sentenceBreakSTerm : CodeSet := (binary "sentenceterminal").difference sentenceBreakATerm

/-- Brackets and quotation marks. -/
def sentenceBreakClose : CodeSet :=
  categories ["pe", "pf", "pi", "ps"] ++
    unpack ["22 27 275B-2760 2E00-2E01 2E06-2E08 2E0B 1F676-1F678"]

/-- The characters that have a value of Sentence_Break. -/
def sentenceBreakSet? (value : String) : Option CodeSet :=
  match value with
  | "at" | "aterm" => some sentenceBreakATerm
  | "cl" | "close" => some sentenceBreakClose
  | "cr" => some [(0xD, 0xD)]
  | "ex" | "extend" => some sentenceBreakExtend
  | "fo" | "format" => some sentenceBreakFormat
  | "le" | "oletter" => some sentenceBreakOLetter
  | "lf" => some [(0xA, 0xA)]
  | "lo" | "lower" => some sentenceBreakLower
  | "nu" | "numeric" => some sentenceBreakNumeric
  | "sc" | "scontinue" => some (unpack [
      "2C-2D 3A-3B 37E 55D 60C-60D 7F8 1802 1808 2013-2014 3001 FE10-FE11 FE13-FE14 FE31-FE32",
      "FE50-FE51 FE54-FE55 FE58 FE63 FF0C-FF0D FF1A-FF1B FF64"])
  | "se" | "sep" => some (unpack ["85 2028-2029"])
  | "sp" => some ((binary "whitespace").difference (unpack ["A D 85 2028-2029"]))
  | "st" | "sterm" => some sentenceBreakSTerm
  | "up" | "upper" => some sentenceBreakUpper
  | _ => none

end Unicode

end RoutePatterns
