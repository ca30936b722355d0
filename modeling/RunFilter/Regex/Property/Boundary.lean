import RunFilter.Regex.Property.Binary
import RunFilter.Regex.Property.Script

/-!
# Classes of boundaries

Which characters keep together what a reader takes for one character, one word or one sentence
(Unicode, version 16).
-/

set_option autoImplicit false

namespace RunFilter.Regex.Property

/-- One character, by its code point. -/
def point (n : Nat) : CharSet := .ranges [(n, n)]

/-- Controls of the format of texts, but for the joiners and the signs that are shown. -/
def formats : CharSet :=
  .combine .difference (without (.categories [.cf]) (joinControl ++ prependedMark)) graphemeExtend

/-- Decimal digits, the Arabic decimal separator and the signs in front of numbers. -/
def digitLike : CharSet :=
  .union (joined [.nd] [(0x66b, 0x66b)]) (without (.ranges prependedMark) [(0x70f, 0x70f)])

/-! ## Characters -/

/-- The syllables of Hangul without a final consonant: every twenty-eighth one. -/
def openSyllables : Text.Ranges := (List.range 399).map fun k => (0xac00 + 28 * k, 0xac00 + 28 * k)

/-- Marks that take a space of their own and yet do not belong to the character before. -/
def looseMarks : Text.Ranges := [
  (0x102b, 0x102c), (0x1038, 0x1038), (0x1062, 0x1064), (0x1067, 0x106d), (0x1083, 0x1083),
  (0x1087, 0x108c), (0x108f, 0x108f), (0x109a, 0x109c), (0x1a61, 0x1a61), (0x1a63, 0x1a64),
  (0xaa7b, 0xaa7b), (0xaa7d, 0xaa7d), (0x11720, 0x11721)]

/-- The consonants that are written in front of others. -/
def precedingConsonants : Text.Ranges := [
  (0xd4e, 0xd4e), (0x111c2, 0x111c3), (0x113d1, 0x113d1), (0x1193f, 0x1193f), (0x11941, 0x11941),
  (0x11a3a, 0x11a3a), (0x11a84, 0x11a89), (0x11d46, 0x11d46), (0x11f02, 0x11f02)]

/-- **Grapheme_Cluster_Break.** -/
def graphemeBreaks : List (List String × CharSet) := [
  (["control", "cn"],
    .combine .difference
      (.union (.categories [.zl, .zp, .cc, .cf])
        (.combine .intersection (.categories [.cn]) defaultIgnorable))
      (.union graphemeExtend
        (.ranges ([(0xa, 0xa), (0xd, 0xd)] ++ joinControl ++ prependedMark)))),
  (["cr"], point 0xd),
  (["extend", "ex"], .union graphemeExtend (.ranges emojiModifier)),
  (["lf"], point 0xa),
  (["l"], .ranges [(0x1100, 0x115f), (0xa960, 0xa97c)]),
  (["lv"], .ranges openSyllables),
  (["lvt"], without (.ranges [(0xac00, 0xd7a3)]) openSyllables),
  (["prepend", "pp"], .ranges (prependedMark ++ precedingConsonants)),
  (["regionalindicator", "ri"], .ranges regionalIndicator),
  (["spacingmark", "sm"],
    .combine .difference (without (joined [.mc] [(0xe33, 0xe33), (0xeb3, 0xeb3)]) looseMarks)
      graphemeExtend),
  (["t"], .ranges [(0x11a8, 0x11ff), (0xd7cb, 0xd7fb)]),
  (["v"], .ranges [(0x1160, 0x11a7), (0xd7b0, 0xd7c6), (0x16d63, 0x16d63), (0x16d67, 0x16d6a)]),
  (["zwj"], point 0x200d)]

/-! ## Words -/

/-- What extends the character before it in a word or a sentence. -/
def wordExtend : CharSet :=
  .union graphemeExtend (.union (.categories [.mc]) (.ranges emojiModifier))

/-- The signs of Katakana, and those that stand with them. -/
def katakanaLike : CharSet :=
  .union ((script? "katakana").elim .empty (·.set))
    (.ranges [(0x3031, 0x3035), (0x309b, 0x309c), (0x30a0, 0x30a0), (0x30fc, 0x30fc),
      (0xff70, 0xff70)])

/-- The letters of Hebrew. -/
def hebrewLetters : CharSet :=
  .combine .intersection ((script? "hebrew").elim .empty (·.set)) (.categories [.lo])

/-- Signs that are no letters and stand in words like letters. -/
def letterLike : Text.Ranges := [
  (0x2c2, 0x2c5), (0x2d2, 0x2d7), (0x2de, 0x2df), (0x2e5, 0x2eb), (0x2ed, 0x2ed), (0x2ef, 0x2ff),
  (0x55a, 0x55c), (0x55e, 0x55e), (0x58a, 0x58a), (0x5f3, 0x5f3), (0x70f, 0x70f),
  (0xa708, 0xa716), (0xa720, 0xa721), (0xa789, 0xa78a), (0xab5b, 0xab5b)]

/-- The letters and marks of the scripts that are written without blanks between words. -/
def complexContext : Text.Ranges := [
  (0xe01, 0xe3a), (0xe40, 0xe4e), (0xe81, 0xe82), (0xe84, 0xe84), (0xe86, 0xe8a), (0xe8c, 0xea3),
  (0xea5, 0xea5), (0xea7, 0xebd), (0xec0, 0xec4), (0xec6, 0xec6), (0xec8, 0xece), (0xedc, 0xedf),
  (0x1000, 0x103f), (0x1050, 0x108f), (0x109a, 0x109f), (0x1780, 0x17d3), (0x17d7, 0x17d7),
  (0x17dc, 0x17dd), (0x1950, 0x196d), (0x1970, 0x1974), (0x1980, 0x19ab), (0x19b0, 0x19c9),
  (0x19da, 0x19da), (0x19de, 0x19df), (0x1a20, 0x1a5e), (0x1a60, 0x1a7c), (0x1aa0, 0x1aad),
  (0xa9e0, 0xa9ef), (0xa9fa, 0xa9fe), (0xaa60, 0xaac2), (0xaadb, 0xaadf), (0x11700, 0x1171a),
  (0x1171d, 0x1172b), (0x1173a, 0x1173b), (0x1173f, 0x11746)]

/-- **Word_Break.** -/
def wordBreaks : List (List String × CharSet) := [
  (["aletter", "le"],
    .combine .difference
      (without (without (.union alphabetic (.ranges letterLike)) ideographic) complexContext)
      (.union katakanaLike
        (.union ((script? "hiragana").elim .empty (·.set)) (.union hebrewLetters wordExtend)))),
  (["cr"], point 0xd),
  (["doublequote", "dq"], point 0x22),
  (["extend"], wordExtend),
  (["extendnumlet", "ex"], .ranges [(0x5f, 0x5f), (0x202f, 0x202f), (0x203f, 0x2040),
    (0x2054, 0x2054), (0xfe33, 0xfe34), (0xfe4d, 0xfe4f), (0xff3f, 0xff3f)]),
  (["format", "fo"], without formats [(0x200b, 0x200b)]),
  (["hebrewletter", "hl"], hebrewLetters),
  (["katakana", "ka"], katakanaLike),
  (["lf"], point 0xa),
  (["midletter", "ml"], .ranges [(0x3a, 0x3a), (0xb7, 0xb7), (0x387, 0x387), (0x55f, 0x55f),
    (0x5f4, 0x5f4), (0x2027, 0x2027), (0xfe13, 0xfe13), (0xfe55, 0xfe55), (0xff1a, 0xff1a)]),
  (["midnum", "mn"], .ranges [(0x2c, 0x2c), (0x3b, 0x3b), (0x37e, 0x37e), (0x589, 0x589),
    (0x60c, 0x60d), (0x66c, 0x66c), (0x7f8, 0x7f8), (0x2044, 0x2044), (0xfe10, 0xfe10),
    (0xfe14, 0xfe14), (0xfe50, 0xfe50), (0xfe54, 0xfe54), (0xff0c, 0xff0c), (0xff1b, 0xff1b)]),
  (["midnumlet", "mb"], .ranges [(0x2e, 0x2e), (0x2018, 0x2019), (0x2024, 0x2024),
    (0xfe52, 0xfe52), (0xff07, 0xff07), (0xff0e, 0xff0e)]),
  (["newline", "nl"], .ranges [(0xb, 0xc), (0x85, 0x85), (0x2028, 0x2029)]),
  (["numeric", "nu"], digitLike),
  (["regionalindicator", "ri"], .ranges regionalIndicator),
  (["singlequote", "sq"], point 0x27),
  (["wsegspace"], .ranges [(0x20, 0x20), (0x1680, 0x1680), (0x2000, 0x2006), (0x2008, 0x200a),
    (0x205f, 0x205f), (0x3000, 0x3000)]),
  (["zwj"], point 0x200d)]

/-! ## Sentences -/

/-- The stops that may also stand inside a sentence. -/
def ambiguousStops : Text.Ranges := [
  (0x2e, 0x2e), (0x2024, 0x2024), (0xfe52, 0xfe52), (0xff0e, 0xff0e)]

/-- Small letters that may begin a sentence, since their script has capitals for titles only. -/
def sentenceSmall : CharSet :=
  .combine .difference (without lowercase [(0x10d0, 0x10fa), (0x10fd, 0x10ff)]) graphemeExtend

/-- Capital letters, but for the capitals of such a script. -/
def sentenceCapitals : CharSet :=
  .union (.categories [.lt]) (without uppercase [(0x1c90, 0x1cba), (0x1cbd, 0x1cbf)])

/-- What extends the character before it in a sentence. -/
def sentenceExtend : CharSet := .union graphemeExtend (joined [.mc] [(0x200d, 0x200d)])

/-- **Sentence_Break.** -/
def sentenceBreaks : List (List String × CharSet) := [
  (["aterm", "at"], .ranges ambiguousStops),
  (["close", "cl"], joined [.ps, .pe, .pi, .pf] [(0x22, 0x22), (0x27, 0x27), (0x275b, 0x2760),
    (0x2e00, 0x2e01), (0x2e06, 0x2e08), (0x2e0b, 0x2e0b), (0x1f676, 0x1f678)]),
  (["cr"], point 0xd),
  (["extend", "ex"], sentenceExtend),
  (["format", "fo"], .union formats (point 0x70f)),
  (["lf"], point 0xa),
  (["lower", "lo"], sentenceSmall),
  (["numeric", "nu"], .union digitLike (point 0x66c)),
  (["oletter", "le"],
    .combine .difference (.union alphabetic (point 0x5f3))
      (.union sentenceSmall (.union sentenceCapitals sentenceExtend))),
  (["scontinue", "sc"], .ranges [(0x2c, 0x2d), (0x3a, 0x3b), (0x37e, 0x37e), (0x55d, 0x55d),
    (0x60c, 0x60d), (0x7f8, 0x7f8), (0x1802, 0x1802), (0x1808, 0x1808), (0x2013, 0x2014),
    (0x3001, 0x3001), (0xfe10, 0xfe11), (0xfe13, 0xfe14), (0xfe31, 0xfe32), (0xfe50, 0xfe51),
    (0xfe54, 0xfe55), (0xfe58, 0xfe58), (0xfe63, 0xfe63), (0xff0c, 0xff0d), (0xff1a, 0xff1b),
    (0xff64, 0xff64)]),
  (["sep", "se"], .ranges [(0x85, 0x85), (0x2028, 0x2029)]),
  (["sp"], .ranges [(0x9, 0x9), (0xb, 0xc), (0x20, 0x20), (0xa0, 0xa0), (0x1680, 0x1680),
    (0x2000, 0x200a), (0x202f, 0x202f), (0x205f, 0x205f), (0x3000, 0x3000)]),
  (["sterm", "st"], without (.ranges sentenceTerminal) ambiguousStops),
  (["upper", "up"], sentenceCapitals)]

end RunFilter.Regex.Property
