import LineShell.Text.Basic

/-!
The names of character properties, as filters write them in `\p`: properties that hold or do not
hold, general categories, scripts and a few properties with values. Letters of either case, spaces,
`_` and `-` make no difference, nor does `is` in front.
-/
namespace LineShell.LogSpec.Property

def normal (t : Text) : Text :=
  let isMarked := (t.take 2).map Char.toLower == ['i', 's']
  let plain := ((if isMarked then t.drop 2 else t).filter fun c =>
    c != ' ' && c != '_' && c != '-' && c.toNat < 128).map Char.toLower
  if isMarked ∧ plain = ['c'] then ['i', 's', 'c'] else plain

/-- Properties that a character has or does not have. -/
def binary : List String :=
  ["ahex", "asciihexdigit", "alpha", "alphabetic", "bidic", "bidicontrol", "bidim", "bidimirrored",
    "ci", "caseignorable", "cased", "cwcf", "changeswhencasefolded", "cwcm", "changeswhencasemapped",
    "cwl", "changeswhenlowercased", "cwt", "changeswhentitlecased", "cwu", "changeswhenuppercased",
    "dash", "di", "defaultignorablecodepoint", "dep", "deprecated", "dia", "diacritic", "emoji",
    "ecomp", "emojicomponent", "emod", "emojimodifier", "ebase", "emojimodifierbase", "epres",
    "emojipresentation", "extpict", "extendedpictographic", "ext", "extender", "grbase",
    "graphemebase", "grext", "graphemeextend", "grlink", "graphemelink", "hex", "hexdigit", "hyphen",
    "idsb", "idsbinaryoperator", "idst", "idstrinaryoperator", "idsu", "idsunaryoperator",
    "idcompatmathcontinue", "idcompatmathstart", "idc", "idcontinue", "ids", "idstart", "ideo",
    "ideographic", "joinc", "joincontrol", "loe", "logicalorderexception", "lower", "lowercase",
    "math", "mcm", "modifiercombiningmark", "nchar", "noncharactercodepoint", "oalpha",
    "otheralphabetic", "odi", "otherdefaultignorablecodepoint", "ogrext", "othergraphemeextend",
    "oidc", "otheridcontinue", "oids", "otheridstart", "olower", "otherlowercase", "omath",
    "othermath", "oupper", "otheruppercase", "patsyn", "patternsyntax", "patws", "patternwhitespace",
    "pcm", "prependedconcatenationmark", "qmark", "quotationmark", "radical", "ri",
    "regionalindicator", "sterm", "sentenceterminal", "sd", "softdotted", "term",
    "terminalpunctuation", "uideo", "unifiedideograph", "upper", "uppercase", "vs",
    "variationselector", "wspace", "space", "whitespace", "xidc", "xidcontinue", "xids", "xidstart"]

def categories : List String :=
  ["any", "assigned", "ascii", "c", "other", "cc", "control", "cntrl", "cf", "format", "cn",
    "unassigned", "co", "privateuse", "l", "letter", "lc", "casedletter", "ll", "lowercaseletter",
    "lm", "modifierletter", "lo", "otherletter", "lt", "titlecaseletter", "lu", "uppercaseletter",
    "m", "mark", "combiningmark", "mc", "spacingmark", "me", "enclosingmark", "mn",
    "nonspacingmark", "n", "number", "nd", "decimalnumber", "digit", "nl", "letternumber", "no",
    "othernumber", "p", "punctuation", "punct", "pc", "connectorpunctuation", "pd",
    "dashpunctuation", "pe", "closepunctuation", "pf", "finalpunctuation", "pi",
    "initialpunctuation", "po", "otherpunctuation", "ps", "openpunctuation", "s", "symbol", "sc",
    "currencysymbol", "sk", "modifiersymbol", "sm", "mathsymbol", "so", "othersymbol", "z",
    "separator", "zl", "lineseparator", "zp", "paragraphseparator", "zs", "spaceseparator"]

def scripts : List (String × String) :=
  [("adlam", "adlm"), ("ahom", "ahom"), ("anatolianhieroglyphs", "hluw"), ("arabic", "arab"),
    ("armenian", "armn"), ("avestan", "avst"), ("balinese", "bali"), ("bamum", "bamu"),
    ("bassavah", "bass"), ("batak", "batk"), ("bengali", "beng"), ("bhaiksuki", "bhks"),
    ("bopomofo", "bopo"), ("brahmi", "brah"), ("braille", "brai"), ("buginese", "bugi"),
    ("buhid", "buhd"), ("canadianaboriginal", "cans"), ("carian", "cari"),
    ("caucasianalbanian", "aghb"), ("chakma", "cakm"), ("cham", "cham"), ("cherokee", "cher"),
    ("chorasmian", "chrs"), ("common", "zyyy"), ("coptic", "copt"), ("coptic", "qaac"),
    ("cuneiform", "xsux"), ("cypriot", "cprt"), ("cyprominoan", "cpmn"), ("cyrillic", "cyrl"),
    ("deseret", "dsrt"), ("devanagari", "deva"), ("divesakuru", "diak"), ("dogra", "dogr"),
    ("duployan", "dupl"), ("egyptianhieroglyphs", "egyp"), ("elbasan", "elba"), ("elymaic", "elym"),
    ("ethiopic", "ethi"), ("garay", "gara"), ("georgian", "geor"), ("glagolitic", "glag"),
    ("gothic", "goth"), ("grantha", "gran"), ("greek", "grek"), ("gujarati", "gujr"),
    ("gunjalagondi", "gong"), ("gurmukhi", "guru"), ("gurungkhema", "gukh"), ("han", "hani"),
    ("hangul", "hang"), ("hanifirohingya", "rohg"), ("hanunoo", "hano"), ("hatran", "hatr"),
    ("hebrew", "hebr"), ("hiragana", "hira"), ("imperialaramaic", "armi"), ("inherited", "zinh"),
    ("inherited", "qaai"), ("inscriptionalpahlavi", "phli"), ("inscriptionalparthian", "prti"),
    ("javanese", "java"), ("kaithi", "kthi"), ("kannada", "knda"), ("katakana", "kana"),
    ("kawi", "kawi"), ("kayahli", "kali"), ("kharoshthi", "khar"), ("khitansmallscript", "kits"),
    ("khmer", "khmr"), ("khojki", "khoj"), ("khudawadi", "sind"), ("kiratrai", "krai"),
    ("lao", "laoo"), ("latin", "latn"), ("lepcha", "lepc"), ("limbu", "limb"), ("lineara", "lina"),
    ("linearb", "linb"), ("lisu", "lisu"), ("lycian", "lyci"), ("lydian", "lydi"),
    ("mahajani", "mahj"), ("makasar", "maka"), ("malayalam", "mlym"), ("mandaic", "mand"),
    ("manichaean", "mani"), ("marchen", "marc"), ("masaramgondi", "gonm"), ("medefaidrin", "medf"),
    ("meeteimayek", "mtei"), ("mendekikakui", "mend"), ("meroiticcursive", "merc"),
    ("meroitichieroglyphs", "mero"), ("miao", "plrd"), ("modi", "modi"), ("mongolian", "mong"),
    ("mro", "mroo"), ("multani", "mult"), ("myanmar", "mymr"), ("nabataean", "nbat"),
    ("nagmundari", "nagm"), ("nandinagari", "nand"), ("newa", "newa"), ("newtailue", "talu"),
    ("nko", "nkoo"), ("nushu", "nshu"), ("nyiakengpuachuehmong", "hmnp"), ("ogham", "ogam"),
    ("olchiki", "olck"), ("oldhungarian", "hung"), ("olditalic", "ital"),
    ("oldnortharabian", "narb"), ("oldpermic", "perm"), ("oldpersian", "xpeo"),
    ("oldsogdian", "sogo"), ("oldsoutharabian", "sarb"), ("oldturkic", "orkh"),
    ("olduyghur", "ougr"), ("olonal", "onao"), ("oriya", "orya"), ("osage", "osge"),
    ("osmanya", "osma"), ("pahawhhmong", "hmng"), ("palmyrene", "palm"), ("paucinhau", "pauc"),
    ("phagspa", "phag"), ("phoenician", "phnx"), ("psalterpahlavi", "phlp"), ("rejang", "rjng"),
    ("runic", "runr"), ("samaritan", "samr"), ("saurashtra", "saur"), ("sharada", "shrd"),
    ("shavian", "shaw"), ("siddham", "sidd"), ("signwriting", "sgnw"), ("sinhala", "sinh"),
    ("sogdian", "sogd"), ("sorasompeng", "sora"), ("soyombo", "soyo"), ("sundanese", "sund"),
    ("sunuwar", "sunu"), ("sylotinagri", "sylo"), ("syriac", "syrc"), ("tagalog", "tglg"),
    ("tagbanwa", "tagb"), ("taile", "tale"), ("taitham", "lana"), ("taiviet", "tavt"),
    ("takri", "takr"), ("tamil", "taml"), ("tangsa", "tnsa"), ("tangut", "tang"), ("telugu", "telu"),
    ("thaana", "thaa"), ("thai", "thai"), ("tibetan", "tibt"), ("tifinagh", "tfng"),
    ("tirhuta", "tirh"), ("todhri", "todr"), ("toto", "toto"), ("tulutigalari", "tutg"),
    ("ugaritic", "ugar"), ("vai", "vaii"), ("vithkuqi", "vith"), ("wancho", "wcho"),
    ("warangciti", "wara"), ("yezidi", "yezi"), ("yi", "yiii"), ("zanabazarsquare", "zanb")]

/-- Versions, major and minor, in which characters were added. -/
def ages : List (Nat × Nat) :=
  [(1, 1), (2, 0), (2, 1), (3, 0), (3, 1), (3, 2), (4, 0), (4, 1), (5, 0), (5, 1), (5, 2), (6, 0),
    (6, 1), (6, 2), (6, 3), (7, 0), (8, 0), (9, 0), (10, 0), (11, 0), (12, 0), (12, 1), (13, 0),
    (14, 0), (15, 0), (15, 1), (16, 0)]

/-- How characters may be broken into what is read as one. -/
def graphemeBreaks : List String :=
  ["control", "cn", "cr", "extend", "ex", "l", "lf", "lv", "lvt", "prepend", "pp",
    "regionalindicator", "ri", "spacingmark", "sm", "t", "v", "zwj"]

def wordBreaks : List String :=
  ["aletter", "le", "cr", "doublequote", "dq", "extend", "extendnumlet", "ex", "format", "fo",
    "hebrewletter", "hl", "katakana", "ka", "lf", "midletter", "ml", "midnum", "mn", "midnumlet",
    "mb", "newline", "nl", "numeric", "nu", "regionalindicator", "ri", "singlequote", "sq",
    "wsegspace", "zwj"]

def sentenceBreaks : List String :=
  ["aterm", "at", "close", "cl", "cr", "extend", "ex", "format", "fo", "lf", "lower", "lo",
    "numeric", "nu", "oletter", "le", "scontinue", "sc", "sep", "se", "sp", "sterm", "st", "upper",
    "up"]

/-- Why a property cannot be looked up. -/
inductive Missing
  | property
  | value
  deriving DecidableEq

def isIn (names : List String) (t : Text) : Bool := names.any (·.toList == t)

def isScript (t : Text) : Bool := scripts.any fun (name, code) => name.toList == t || code.toList == t

def isAge (t : Text) : Bool :=
  ages.any fun (major, minor) =>
    t == Text.decimal major ++ '.' :: Text.decimal minor ||
      t == 'v' :: Text.decimal major ++ Text.decimal minor

/-- Names that are known although no character has what they stand for. -/
def isEmpty (t : Text) : Bool :=
  isIn ["cs", "surrogate", "unknown", "zzzz", "katakanaorhiragana", "hrkt"] t

/-- What is missing about a name that stands alone. -/
def missing? (name : Text) : Option Missing :=
  let name := normal name
  if isIn binary name ∨ isIn categories name ∨ isScript name then none
  else some (if isEmpty name then .value else .property)

def missingValue? (name value : Text) : Option Missing :=
  let name := normal name
  let value := normal value
  let among (isKnown : Bool) : Option Missing := if isKnown then none else some .value
  if isIn ["gc", "generalcategory"] name then among (isIn categories value)
  else if isIn ["sc", "script", "scx", "scriptextensions"] name then among (isScript value)
  else if isIn ["age"] name then among (isAge value)
  else if isIn ["gcb", "graphemeclusterbreak"] name then among (isIn graphemeBreaks value)
  else if isIn ["wb", "wordbreak"] name then among (isIn wordBreaks value)
  else if isIn ["sb", "sentencebreak"] name then among (isIn sentenceBreaks value)
  else some (if isIn binary name then .value else .property)

end LineShell.LogSpec.Property
