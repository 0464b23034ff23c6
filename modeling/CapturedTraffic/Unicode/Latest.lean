import CapturedTraffic.Unicode.Property

/-!
# The latest characters

Patterns keep to the properties of version 16 of the character set. Texts and names follow version
17: a set here is the one of version 16 together with the members that the later version added.
-/
namespace CapturedTraffic.Unicode.Latest

/-- The characters that version 17 added. -/
def added : RangeSet := .ofText
  "88F C5C CDC 1ACF-1ADD 1AE0-1AEB 20C1 2B96 A7CE-A7CF A7D2 A7D4 A7F1 FBC3-FBD2 FD90-FD91 FDC8-FDCE
  10940-10959 10EC5-10EC7 10ED0-10ED8 10EFA-10EFB 11B60-11B67 11DB0-11DDB 11DE0-11DE9 16EA0-16EB8
  16EBB-16ED3 16FF2-16FF6 187F8-187FF 18D09-18D1E 18D80-18DF2 1CCFA-1CCFC 1CEBA-1CED0 1CEE0-1CEF0
  1E6C0-1E6DE 1E6E0-1E6F5 1E6FE-1E6FF 1F6D8 1F777-1F77A 1F8D0-1F8D8 1FA54-1FA57 1FA8A 1FA8E 1FAC8
  1FACD 1FAEA 1FAEF 1FBFA 2B73A-2B73F 2CEA2-2CEAD 323B0-33479"

def addedMark : RangeSet := .ofText
  "1ACF-1ADD 1AE0-1AEB 10EFA-10EFB 11B60 11B62-11B64 11B66 1E6E3 1E6E6 1E6EE-1E6EF 1E6F5"

def mark : RangeSet := .unions [Category.mark, addedMark, .ofText "11B61 11B65 11B67"]

def alphabetic : RangeSet := Property.alphabetic.union <| .ofText
  "88F C5C CDC A7CE-A7CF A7D2 A7D4 A7F1 10940-10959 10EC5-10EC7 10EFA-10EFB 11B60-11B67 11DB0-11DDB
  16EA0-16EB8 16EBB-16ED3 16FF2-16FF6 187F8-187FF 18D09-18D1E 18D80-18DF2 1E6C0-1E6DE 1E6E0-1E6F5
  1E6FE-1E6FF 2B73A-2B73F 2CEA2-2CEAD 323B0-33479"

def number : RangeSet := Category.number.union (.ofText "11DE0-11DE9 16FF4-16FF6")

/-- The letter U+0295 has no case any more. -/
def cased : RangeSet :=
  (Property.cased.difference (.single 0x295)).union
    (.ofText "A7CE-A7CF A7D2 A7D4 A7F1 16EA0-16EB8 16EBB-16ED3")

def caseIgnorable : RangeSet :=
  .unions [Property.caseIgnorable, addedMark, .ofText "A7F1 10EC5 11DD9 16FF2-16FF3 1E6FF"]

def graphemeExtend : RangeSet := Property.graphemeExtend.union addedMark

def unassigned : RangeSet := Category.unassigned.difference added

end CapturedTraffic.Unicode.Latest
