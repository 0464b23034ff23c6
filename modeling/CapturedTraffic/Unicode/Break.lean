import CapturedTraffic.Unicode.Property
import CapturedTraffic.Unicode.Script

/-!
# Breaks

The classes of code points by which text is broken into characters as readers see them, into words
and into sentences. Each class is given by its rule, with the code points that the rule names.
-/
namespace CapturedTraffic.Unicode.Break

open Category Property

def carriageReturn : RangeSet := .single 0x0D

def lineFeed : RangeSet := .single 0x0A

def zeroWidthJoiner : RangeSet := .single 0x200D

namespace Grapheme

def extend : RangeSet := graphemeExtend.union emojiModifier

def prepend : RangeSet :=
  prependedConcatenationMark.union
    (.ofText "D4E 111C2-111C3 113D1 1193F 11941 11A3A 11A84-11A89 11D46 11F02")

def control : RangeSet :=
  (RangeSet.unions [lineSeparator, paragraphSeparator, Category.control, format,
    unassigned.intersection defaultIgnorable]).difference
    (.unions [carriageReturn, lineFeed, joinControl, prepend, extend])

/-- Spacing marks that stand on their own. -/
def separateMark : RangeSet := .ofText
  "102B-102C 1038 1062-1064 1067-106D 1083 1087-108C 108F 109A-109C 1A61 1A63-1A64 AA7B AA7D 11720-11721"

def spacing : RangeSet :=
  ((spacingMark.union (.ofText "E33 EB3")).difference extend).difference separateMark

def leading : RangeSet := .ofText "1100-115F A960-A97C"

def vowel : RangeSet := .ofText "1160-11A7 D7B0-D7C6 16D63 16D67-16D6A"

def trailing : RangeSet := .ofText "11A8-11FF D7CB-D7FB"

def syllable : RangeSet := .ofText "AC00-D7A3"

/-- Every twenty-eighth syllable has no consonant at its end. -/
def openSyllable : RangeSet :=
  .ofList ((List.range 399).map fun n => (0xAC00 + 28 * n, 0xAC00 + 28 * n))

def closedSyllable : RangeSet := syllable.difference openSyllable

def named : List (List String × RangeSet) :=
  [
    (["cn", "control"], control),
    (["cr"], carriageReturn),
    (["ex", "extend"], extend),
    (["l"], leading),
    (["lf"], lineFeed),
    (["lv"], openSyllable),
    (["lvt"], closedSyllable),
    (["pp", "prepend"], prepend),
    (["ri", "regionalindicator"], regionalIndicator),
    (["sm", "spacingmark"], spacing),
    (["t"], trailing),
    (["v"], vowel),
    (["zwj"], zeroWidthJoiner)]

end Grapheme

namespace Word

/-- Marks in front of a number that belong to it. -/
def numberMark : RangeSet := .ofText "600-605 6DD 890-891 8E2 110BD 110CD"

def extend : RangeSet := (RangeSet.unions [graphemeExtend, spacingMark, emojiModifier]).difference
  zeroWidthJoiner

/-- The code points of some scripts. -/
def ofScripts (names : List String) : RangeSet := .unions (names.filterMap Script.find?)

def katakana : RangeSet :=
  (ofScripts ["katakana"]).union (.ofText "3031-3035 309B-309C 30A0 30FC FF70")

def hebrewLetter : RangeSet := (ofScripts ["hebrew"]).intersection otherLetter

/-- Signs that are read as letters of a word. -/
def letterSign : RangeSet := .ofText
  "2C2-2C5 2D2-2D7 2DE-2DF 2E5-2EB 2ED 2EF-2FF 55A-55C 55E 58A 5F3 70F A708-A716 A720-A721 A789-A78A AB5B"

/-- Letters of scripts that are written without blanks between words. -/
def unspaced : RangeSet :=
  (ofScripts ["thai", "lao", "myanmar", "khmer", "taile", "newtailue", "taitham", "taiviet", "ahom"])

def letter : RangeSet :=
  (alphabetic.union letterSign).difference
    (.unions [ideographic, katakana, unspaced, ofScripts ["hiragana"], extend, hebrewLetter])

def numeric : RangeSet := .unions [decimalNumber, .ofText "66B 19DA", numberMark]

def format : RangeSet :=
  Category.format.difference
    (.unions [.ofText "200B", joinControl, prependedConcatenationMark, graphemeExtend])

def connector : RangeSet := connectorPunctuation.union (.single 0x202F)

def newline : RangeSet := .ofText "B-C 85 2028-2029"

def blank : RangeSet := spaceSeparator.difference (.ofText "A0 2007 202F")

def named : List (List String × RangeSet) :=
  [
    (["cr"], carriageReturn),
    (["dq", "doublequote"], .single 0x22),
    (["ex", "extendnumlet"], connector),
    (["extend"], extend),
    (["fo", "format"], format),
    (["hl", "hebrewletter"], hebrewLetter),
    (["ka", "katakana"], katakana),
    (["le", "aletter"], letter),
    (["lf"], lineFeed),
    (["mb", "midnumlet"], .ofText "2E 2018-2019 2024 FE52 FF07 FF0E"),
    (["ml", "midletter"], .ofText "3A B7 387 55F 5F4 2027 FE13 FE55 FF1A"),
    (["mn", "midnum"], .ofText "2C 3B 37E 589 60C-60D 66C 7F8 2044 FE50 FE54 FF0C FF1B"),
    (["nl", "newline"], newline),
    (["nu", "numeric"], numeric),
    (["ri", "regionalindicator"], regionalIndicator),
    (["sq", "singlequote"], .single 0x27),
    (["wsegspace"], blank),
    (["zwj"], zeroWidthJoiner)]

end Word

namespace Sentence

def extend : RangeSet := .unions [graphemeExtend, spacingMark, zeroWidthJoiner]

def separator : RangeSet := .ofText "85 2028-2029"

def format : RangeSet := Category.format.difference
  (.unions [joinControl, Word.numberMark, graphemeExtend])

def blank : RangeSet :=
  whiteSpace.difference (.unions [separator, carriageReturn, lineFeed])

/-- Lower-case letters, without those of the Georgian alphabet, which has no case in running text. -/
def lower : RangeSet :=
  Property.lowercase.difference (graphemeExtend.union (.ofText "10D0-10FA 10FD-10FF"))

def upper : RangeSet :=
  (titlecaseLetter.union uppercase).difference (.ofText "1C90-1CBA 1CBD-1CBF")

def otherLetter : RangeSet :=
  (alphabetic.union (.single 0x5F3)).difference (.unions [lower, upper, extend])

def numeric : RangeSet := .unions [decimalNumber, .ofText "66B-66C 19DA", Word.numberMark]

def fullStop : RangeSet := .ofText "2E 2024 FE52 FF0E"

def terminator : RangeSet := sentenceTerminal.difference fullStop

def close : RangeSet :=
  (RangeSet.unions [openPunctuation, closePunctuation, initialPunctuation, finalPunctuation,
    .ofText "22 27 275B-2760 2E00-2E01 2E06-2E08 2E0B 1F676-1F678"]).difference
    (.unions [fullStop, terminator])

def named : List (List String × RangeSet) :=
  [
    (["at", "aterm"], fullStop),
    (["cl", "close"], close),
    (["cr"], carriageReturn),
    (["ex", "extend"], extend),
    (["fo", "format"], format),
    (["le", "oletter"], otherLetter),
    (["lf"], lineFeed),
    (["lo", "lower"], lower),
    (["nu", "numeric"], numeric),
    (["sc", "scontinue"], .ofText
      "2C-2D 3A-3B 37E 55D 60C-60D 7F8 1802 1808 2013-2014 3001 FE10-FE11 FE13-FE14 FE31-FE32 FE50-FE51 FE54-FE55 FE58 FE63 FF0C-FF0D FF1A-FF1B FF64"),
    (["se", "sep"], separator),
    (["sp"], blank),
    (["st", "sterm"], terminator),
    (["up", "upper"], upper)]

end Sentence

end CapturedTraffic.Unicode.Break
