import RunFilter.Regex.CharSet
import RunFilter.Regex.Property.CaseChange
import RunFilter.Regex.Property.Listed
import RunFilter.Regex.Property.Picture
import RunFilter.Text.Alphabetic
import RunFilter.Text.GraphemeExtend

/-!
# Properties that a character has or has not

Most of them follow from the general category, apart from a list of further characters and a list of
exceptions. Each has a long name and a short one.
-/

set_option autoImplicit false

namespace RunFilter.Regex.Property

/-- The characters of some categories and of a list. -/
def joined (cs : List Text.Category) (rs : Text.Ranges) : CharSet :=
  .union (.categories cs) (.ranges rs)

/-- A set without the characters of a list. -/
def without (a : CharSet) (rs : Text.Ranges) : CharSet := .combine .difference a (.ranges rs)

/-! ## Letters and their case -/

/-- Small letters, and what looks like one. -/
def lowercase : CharSet := joined [.ll] otherLowercase

/-- Capital letters, and what looks like one. -/
def uppercase : CharSet := joined [.lu] otherUppercase

/-- The alphabetic marks and symbols. -/
def otherAlphabetic : CharSet := without (.ranges Text.otherAlphabetic) laterAssigned

/-- What is written like a letter. -/
def alphabetic : CharSet := .union (.categories (.nl :: Text.letters)) otherAlphabetic

/-- Letters that have a case. -/
def cased : CharSet := .union lowercase (.union uppercase (.categories [.lt]))

/-- What does not end a word whose case is looked at. -/
def caseIgnorable : CharSet := joined [.mn, .me, .cf, .lm, .sk] caseBetween

/-- What changes among small letters. -/
def changesLowercased : CharSet := without (.union uppercase (.categories [.lt])) steadyCapitals

/-- What changes among capital letters. -/
def changesUppercased : CharSet := without (.union lowercase (.categories [.lt])) steadySmall

/-- What changes in a title. -/
def changesTitlecased : CharSet :=
  .union (.ranges titledDigraphs)
    (without (.combine .difference changesUppercased (.categories [.lt])) untitledLetters)

/-- What comparison without case replaces. -/
def changesCasefolded : CharSet :=
  .union (.ranges foldedSmall) (without changesLowercased keptCapitals)

/-! ## Graphemes and identifiers -/

/-- What extends the character before it. -/
def graphemeExtend : CharSet := joined Text.extending Text.otherGraphemeExtend

/-- What is shown and does not extend the character before it. -/
def graphemeBase : CharSet :=
  .complement (.union (.categories [.cc, .cf, .cs, .co, .cn, .zl, .zp]) graphemeExtend)

/-- What is not shown where a font has no sign for it. -/
def defaultIgnorable : CharSet :=
  .combine .difference (joined [.cf] (otherDefaultIgnorable ++ variationSelector))
    (.ranges ([(0xfff9, 0xfffb), (0x13430, 0x13440)] ++ prependedMark))

/-- What may begin an identifier. -/
def idStart : CharSet := without (joined (.nl :: Text.letters) otherIdStart) patternSyntax

/-- What may stand in an identifier. -/
def idContinue : CharSet := .union idStart (joined [.mn, .mc, .nd, .pc] otherIdContinue)

/-- Characters whose compatible forms are no identifiers. -/
def openForms : Text.Ranges := [
  (0x37a, 0x37a), (0x309b, 0x309c), (0xfc5e, 0xfc63), (0xfdfa, 0xfdfb), (0xfe70, 0xfe70),
  (0xfe72, 0xfe72), (0xfe74, 0xfe74), (0xfe76, 0xfe76), (0xfe78, 0xfe78), (0xfe7a, 0xfe7a),
  (0xfe7c, 0xfe7c), (0xfe7e, 0xfe7e)]

/-- Characters whose compatible forms begin with a mark. -/
def markedForms : Text.Ranges := [(0xe33, 0xe33), (0xeb3, 0xeb3), (0xff9e, 0xff9f)]

/-- What may begin an identifier in all compatible forms. -/
def xidStart : CharSet := without (without idStart openForms) markedForms

/-- What may stand in an identifier in all compatible forms. -/
def xidContinue : CharSet := without idContinue openForms

/-! ## Names -/

/-- **The properties**, each with its names in plain form. -/
def binaryProperties : List (List String × CharSet) := [
  (["asciihexdigit", "ahex"], .ranges asciiHexDigit),
  (["alphabetic", "alpha"], alphabetic),
  (["bidicontrol", "bidic"], .ranges bidiControl),
  (["bidimirrored", "bidim"], .ranges bidiMirrored),
  (["caseignorable", "ci"], caseIgnorable),
  (["cased"], cased),
  (["changeswhencasefolded", "cwcf"], changesCasefolded),
  (["changeswhencasemapped", "cwcm"], .union changesLowercased changesUppercased),
  (["changeswhenlowercased", "cwl"], changesLowercased),
  (["changeswhentitlecased", "cwt"], changesTitlecased),
  (["changeswhenuppercased", "cwu"], changesUppercased),
  (["dash"], .ranges dash),
  (["defaultignorablecodepoint", "di"], defaultIgnorable),
  (["deprecated", "dep"], .ranges deprecated),
  (["diacritic", "dia"], .ranges diacritic),
  (["emoji"], .ranges emoji),
  (["emojicomponent", "ecomp"], .ranges emojiComponent),
  (["emojimodifier", "emod"], .ranges emojiModifier),
  (["emojimodifierbase", "ebase"], .ranges emojiModifierBase),
  (["emojipresentation", "epres"], .ranges emojiPresentation),
  (["extendedpictographic", "extpict"], .ranges extendedPictographic),
  (["extender", "ext"], .ranges extender),
  (["graphemebase", "grbase"], graphemeBase),
  (["graphemeextend", "grext"], graphemeExtend),
  (["graphemelink", "grlink"], .ranges graphemeLink),
  (["hexdigit", "hex"], .ranges hexDigit),
  (["hyphen"], .ranges hyphen),
  (["idsbinaryoperator", "idsb"], .ranges idsBinaryOperator),
  (["idstrinaryoperator", "idst"], .ranges idsTrinaryOperator),
  (["idsunaryoperator", "idsu"], .ranges idsUnaryOperator),
  (["idcompatmathcontinue"], .ranges compatibleMathContinue),
  (["idcompatmathstart"], .ranges compatibleMathStart),
  (["idcontinue", "idc"], idContinue),
  (["idstart", "ids"], idStart),
  (["ideographic", "ideo"], .ranges ideographic),
  (["joincontrol", "joinc"], .ranges joinControl),
  (["logicalorderexception", "loe"], .ranges logicalOrderException),
  (["lowercase", "lower"], lowercase),
  (["math"], joined [.sm] otherMath),
  (["modifiercombiningmark", "mcm"], .ranges modifierCombiningMark),
  (["noncharactercodepoint", "nchar"], .ranges noncharacter),
  (["otheralphabetic", "oalpha"], otherAlphabetic),
  (["otherdefaultignorablecodepoint", "odi"], .ranges otherDefaultIgnorable),
  (["othergraphemeextend", "ogrext"], .ranges Text.otherGraphemeExtend),
  (["otheridcontinue", "oidc"], .ranges otherIdContinue),
  (["otheridstart", "oids"], .ranges otherIdStart),
  (["otherlowercase", "olower"], .ranges otherLowercase),
  (["othermath", "omath"], .ranges otherMath),
  (["otheruppercase", "oupper"], .ranges otherUppercase),
  (["patternsyntax", "patsyn"], .ranges patternSyntax),
  (["patternwhitespace", "patws"], .ranges patternWhiteSpace),
  (["prependedconcatenationmark", "pcm"], .ranges prependedMark),
  (["quotationmark", "qmark"], .ranges quotationMark),
  (["radical"], .ranges radical),
  (["regionalindicator", "ri"], .ranges regionalIndicator),
  (["sentenceterminal", "sterm"], .ranges sentenceTerminal),
  (["softdotted", "sd"], .ranges softDotted),
  (["terminalpunctuation", "term"], .ranges terminalPunctuation),
  (["unifiedideograph", "uideo"], .ranges unifiedIdeograph),
  (["uppercase", "upper"], uppercase),
  (["variationselector", "vs"], .ranges variationSelector),
  (["whitespace", "wspace", "space"], .blanks true),
  (["xidcontinue", "xidc"], xidContinue),
  (["xidstart", "xids"], xidStart)]

/-- The set with a name, among sets with all their names. -/
def lookup (sets : List (List String × CharSet)) (name : String) : Option CharSet :=
  (sets.find? fun (names, _) => names.contains name).map (·.2)

/-- The characters that have the property with a name in its plain form. -/
def binary? (name : String) : Option CharSet := lookup binaryProperties name

end RunFilter.Regex.Property
