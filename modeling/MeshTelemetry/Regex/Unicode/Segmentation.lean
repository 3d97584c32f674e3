import MeshTelemetry.Regex.Unicode.Table

/-!
# MeshTelemetry.Regex.Unicode.Segmentation

The classes of characters by which a text is cut into user-perceived characters, words and
sentences. Most of them follow from categories, binary properties and scripts; the rest are listed.
Names are given in their loose form. The characters of no class have no name here.
-/

namespace MeshTelemetry
namespace Regex
namespace Unicode

def listed (row : String) : CharSet := Text.Ranges.ofRows [row]

def regionalIndicator : CharSet := listed "1f1e6-1f1ff"

/-- Number signs that stand before the digits to which they belong. -/
def numberSign : CharSet := listed "600-605 6dd 890-891 8e2 110bd 110cd"

namespace Grapheme

def joiner : CharSet := listed "200d"

def extend : CharSet :=
  CharSet.diff (CharSet.union (propertySet "Grapheme_Extend") (propertySet "Emoji_Modifier")) joiner

def prepend : CharSet :=
  CharSet.union numberSign
    (listed "70f d4e 111c2-111c3 113d1 1193f 11941 11a84-11a89 11d46 11f02")

/-- Line and paragraph ends, controls and formats, and what is to be ignored if it is unknown. -/
def control : CharSet :=
  CharSet.diff
    (CharSet.union (categoriesSet ["Zl", "Zp", "Cc", "Cf"])
      (CharSet.inter (categorySet "Cn") (propertySet "Default_Ignorable_Code_Point")))
    (CharSet.ofRanges (listed "a d 200c-200d" ++ prepend ++ extend))

def spacingMark : CharSet :=
  CharSet.diff (CharSet.union (categorySet "Mc") (listed "e33 eb3"))
    (CharSet.union extend
      (Text.Ranges.ofRows
        [ "102b-102c 1038 1062-1064 1067-106d 1083 1087-108c 108f 109a-109c 1a61 1a63-1a64 aa7b",
          "aa7d 11720-11721" ]))

/-- How many Hangul syllables share a leading consonant and a vowel. -/
def syllableBlock : Nat := 28

def firstSyllable : Nat := 0xac00

def syllableBlocks : List Nat := List.range 399

/-- The Hangul syllables without a final consonant. -/
def openSyllable : CharSet := syllableBlocks.map fun i =>
  let n := firstSyllable + i * syllableBlock
  (n, n)

def closedSyllable : CharSet := syllableBlocks.map fun i =>
  let n := firstSyllable + i * syllableBlock
  (n + 1, n + syllableBlock - 1)

def named? : String → Option CharSet
  | "cr" => some (listed "d")
  | "lf" => some (listed "a")
  | "cn" | "control" => some control
  | "ex" | "extend" => some extend
  | "zwj" => some joiner
  | "ri" | "regionalindicator" => some regionalIndicator
  | "pp" | "prepend" => some prepend
  | "sm" | "spacingmark" => some spacingMark
  | "l" => some (listed "1100-115f a960-a97c")
  | "v" => some (listed "1160-11a7 d7b0-d7c6 16d63 16d67-16d6a")
  | "t" => some (listed "11a8-11ff d7cb-d7fb")
  | "lv" => some openSyllable
  | "lvt" => some closedSyllable
  | _ => none

end Grapheme

/-- The digits and decimal marks of which a number consists. -/
def numeric : CharSet := CharSet.ofRanges (categorySet "Nd" ++ listed "66b-66c" ++ numberSign)

namespace Word

def extend : CharSet :=
  CharSet.diff
    (CharSet.ofRanges
      (propertySet "Grapheme_Extend" ++ categorySet "Mc" ++ propertySet "Emoji_Modifier"))
    (listed "200d")

def format : CharSet :=
  CharSet.diff (categorySet "Cf")
    (CharSet.ofRanges (listed "70f 200b-200d" ++ numberSign ++ extend))

def katakana : CharSet :=
  CharSet.union (scriptSet "Katakana") (listed "3031-3035 309b-309c 30a0 30fc ff70")

def hebrewLetter : CharSet := CharSet.inter (scriptSet "Hebrew") (categorySet "Lo")

/-- Scripts that do not mark the ends of words; cutting them takes a dictionary. -/
def unspacedScripts : List String :=
  ["Thai", "Lao", "Myanmar", "Khmer", "Tai_Le", "New_Tai_Lue", "Tai_Tham", "Tai_Viet", "Ahom"]

/-- The letters of scripts that mark the ends of words. -/
def letter : CharSet :=
  CharSet.diff
    (CharSet.union (propertySet "Alphabetic")
      (Text.Ranges.ofRows
        [ "2c2-2c5 2d2-2d7 2de-2df 2e5-2eb 2ed 2ef-2ff 55a-55c 55e 58a 5f3 70f a708-a716 a720-a721",
          "a789-a78a ab5b" ]))
    (CharSet.ofRanges
      (propertySet "Ideographic" ++ katakana ++ scriptSet "Hiragana" ++ extend ++ hebrewLetter ++
        unspacedScripts.flatMap scriptSet))

def named? : String → Option CharSet
  | "cr" => some (listed "d")
  | "lf" => some (listed "a")
  | "nl" | "newline" => some (listed "b-c 85 2028-2029")
  | "dq" | "doublequote" => some (listed "22")
  | "sq" | "singlequote" => some (listed "27")
  | "extend" => some extend
  | "fo" | "format" => some format
  | "zwj" => some (listed "200d")
  | "ri" | "regionalindicator" => some regionalIndicator
  | "ka" | "katakana" => some katakana
  | "hl" | "hebrewletter" => some hebrewLetter
  | "le" | "aletter" => some letter
  | "ml" | "midletter" => some (listed "3a b7 387 55f 5f4 2027 fe13 fe55 ff1a")
  | "mn" | "midnum" =>
    some (listed "2c 3b 37e 589 60c-60d 66c 7f8 2044 fe10 fe14 fe50 fe54 ff0c ff1b")
  | "mb" | "midnumlet" => some (listed "2e 2018-2019 2024 fe52 ff07 ff0e")
  | "nu" | "numeric" => some (CharSet.diff numeric (listed "66c"))
  | "ex" | "extendnumlet" => some (CharSet.union (categorySet "Pc") (listed "202f"))
  | "wsegspace" => some (CharSet.diff (categorySet "Zs") (listed "a0 2007 202f"))
  | _ => none

end Word

namespace Sentence

def extend : CharSet :=
  CharSet.ofRanges (propertySet "Grapheme_Extend" ++ categorySet "Mc" ++ listed "200d")

def separator : CharSet := listed "85 2028-2029"

def space : CharSet :=
  CharSet.diff (propertySet "White_Space") (CharSet.union separator (listed "a d"))

/-- The small letters of scripts with two cases; Georgian begins no sentence with a capital. -/
def lower : CharSet :=
  CharSet.diff (propertySet "Lowercase")
    (CharSet.union (propertySet "Grapheme_Extend") (listed "10d0-10fa 10fd-10ff"))

def upper : CharSet :=
  CharSet.diff (CharSet.union (categorySet "Lt") (propertySet "Uppercase"))
    (listed "1c90-1cba 1cbd-1cbf")

def otherLetter : CharSet :=
  CharSet.diff (CharSet.union (propertySet "Alphabetic") (listed "5f3"))
    (CharSet.ofRanges (lower ++ upper ++ extend))

def format : CharSet :=
  CharSet.diff (categorySet "Cf")
    (CharSet.ofRanges (listed "200c-200d" ++ numberSign ++ extend))

/-- The full stop, which need not end a sentence, and its variants. -/
def stop : CharSet := listed "2e 2024 fe52 ff0e"

def terminator : CharSet := CharSet.diff (propertySet "Sentence_Terminal") stop

/-- Quotation marks and brackets, which may stand behind the end of a sentence. -/
def close : CharSet :=
  CharSet.diff
    (CharSet.union (categoriesSet ["Ps", "Pe", "Pi", "Pf"])
      (listed "22 27 275b-2760 2e00-2e01 2e06-2e08 2e0b 1f676-1f678"))
    (CharSet.union stop terminator)

def named? : String → Option CharSet
  | "cr" => some (listed "d")
  | "lf" => some (listed "a")
  | "ex" | "extend" => some extend
  | "se" | "sep" => some separator
  | "fo" | "format" => some format
  | "sp" => some space
  | "lo" | "lower" => some lower
  | "up" | "upper" => some upper
  | "le" | "oletter" => some otherLetter
  | "nu" | "numeric" => some numeric
  | "at" | "aterm" => some stop
  | "sc" | "scontinue" =>
    some (Text.Ranges.ofRows
      [ "2c-2d 3a-3b 37e 55d 60c-60d 7f8 1802 1808 2013-2014 3001 fe10-fe11 fe13-fe14 fe31-fe32",
        "fe50-fe51 fe54-fe55 fe58 fe63 ff0c-ff0d ff1a-ff1b ff64" ])
  | "st" | "sterm" => some terminator
  | "cl" | "close" => some close
  | _ => none

end Sentence

end Unicode
end Regex
end MeshTelemetry
