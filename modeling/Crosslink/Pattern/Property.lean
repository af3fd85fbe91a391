import Crosslink.Text.Cut

set_option autoImplicit false

namespace Crosslink.Pattern

def categories : List String :=
  ["any", "ascii", "assigned", "c", "casedletter", "cc", "cf", "closepunctuation", "cn", "cntrl",
   "co", "combiningmark", "connectorpunctuation", "control", "currencysymbol", "dashpunctuation",
   "decimalnumber", "digit", "enclosingmark", "finalpunctuation", "format", "initialpunctuation",
   "l", "lc", "letter", "letternumber", "lineseparator", "ll", "lm", "lo", "lowercaseletter", "lt",
   "lu", "m", "mark", "mathsymbol", "mc", "me", "mn", "modifierletter", "modifiersymbol", "n", "nd",
   "nl", "no", "nonspacingmark", "number", "openpunctuation", "other", "otherletter", "othernumber",
   "otherpunctuation", "othersymbol", "p", "paragraphseparator", "pc", "pd", "pe", "pf", "pi", "po",
   "privateuse", "ps", "punct", "punctuation", "s", "sc", "separator", "sk", "sm", "so",
   "spaceseparator", "spacingmark", "symbol", "titlecaseletter", "unassigned", "uppercaseletter",
   "z", "zl", "zp", "zs"]

def scripts : List String :=
  ["adlam", "adlm", "aghb", "ahom", "anatolianhieroglyphs", "arab", "arabic", "armenian", "armi",
   "armn", "avestan", "avst", "bali", "balinese", "bamu", "bamum", "bass", "bassavah", "batak",
   "batk", "beng", "bengali", "bhaiksuki", "bhks", "bopo", "bopomofo", "brah", "brahmi", "brai",
   "braille", "bugi", "buginese", "buhd", "buhid", "cakm", "canadianaboriginal", "cans", "cari",
   "carian", "caucasianalbanian", "chakma", "cham", "cher", "cherokee", "chorasmian", "chrs",
   "common", "copt", "coptic", "cpmn", "cprt", "cuneiform", "cypriot", "cyprominoan", "cyrillic",
   "cyrl", "deseret", "deva", "devanagari", "diak", "divesakuru", "dogr", "dogra", "dsrt", "dupl",
   "duployan", "egyp", "egyptianhieroglyphs", "elba", "elbasan", "elym", "elymaic", "ethi",
   "ethiopic", "gara", "garay", "geor", "georgian", "glag", "glagolitic", "gong", "gonm", "goth",
   "gothic", "gran", "grantha", "greek", "grek", "gujarati", "gujr", "gukh", "gunjalagondi",
   "gurmukhi", "guru", "gurungkhema", "han", "hang", "hangul", "hani", "hanifirohingya", "hano",
   "hanunoo", "hatr", "hatran", "hebr", "hebrew", "hira", "hiragana", "hluw", "hmng", "hmnp",
   "hung", "imperialaramaic", "inherited", "inscriptionalpahlavi", "inscriptionalparthian", "ital",
   "java", "javanese", "kaithi", "kali", "kana", "kannada", "katakana", "kawi", "kayahli", "khar",
   "kharoshthi", "khitansmallscript", "khmer", "khmr", "khoj", "khojki", "khudawadi", "kiratrai",
   "kits", "knda", "krai", "kthi", "lana", "lao", "laoo", "latin", "latn", "lepc", "lepcha", "limb",
   "limbu", "lina", "linb", "lineara", "linearb", "lisu", "lyci", "lycian", "lydi", "lydian",
   "mahajani", "mahj", "maka", "makasar", "malayalam", "mand", "mandaic", "mani", "manichaean",
   "marc", "marchen", "masaramgondi", "medefaidrin", "medf", "meeteimayek", "mend", "mendekikakui",
   "merc", "mero", "meroiticcursive", "meroitichieroglyphs", "miao", "mlym", "modi", "mong",
   "mongolian", "mro", "mroo", "mtei", "mult", "multani", "myanmar", "mymr", "nabataean", "nagm",
   "nagmundari", "nand", "nandinagari", "narb", "nbat", "newa", "newtailue", "nko", "nkoo", "nshu",
   "nushu", "nyiakengpuachuehmong", "ogam", "ogham", "olchiki", "olck", "oldhungarian", "olditalic",
   "oldnortharabian", "oldpermic", "oldpersian", "oldsogdian", "oldsoutharabian", "oldturkic",
   "olduyghur", "olonal", "onao", "oriya", "orkh", "orya", "osage", "osge", "osma", "osmanya",
   "ougr", "pahawhhmong", "palm", "palmyrene", "pauc", "paucinhau", "perm", "phag", "phagspa",
   "phli", "phlp", "phnx", "phoenician", "plrd", "prti", "psalterpahlavi", "qaac", "qaai", "rejang",
   "rjng", "rohg", "runic", "runr", "samaritan", "samr", "sarb", "saur", "saurashtra", "sgnw",
   "sharada", "shavian", "shaw", "shrd", "sidd", "siddham", "signwriting", "sind", "sinh",
   "sinhala", "sogd", "sogdian", "sogo", "sora", "sorasompeng", "soyo", "soyombo", "sund",
   "sundanese", "sunu", "sunuwar", "sylo", "sylotinagri", "syrc", "syriac", "tagalog", "tagb",
   "tagbanwa", "taile", "taitham", "taiviet", "takr", "takri", "tale", "talu", "tamil", "taml",
   "tang", "tangsa", "tangut", "tavt", "telu", "telugu", "tfng", "tglg", "thaa", "thaana", "thai",
   "tibetan", "tibt", "tifinagh", "tirh", "tirhuta", "tnsa", "todhri", "todr", "toto",
   "tulutigalari", "tutg", "ugar", "ugaritic", "vai", "vaii", "vith", "vithkuqi", "wancho", "wara",
   "warangciti", "wcho", "xpeo", "xsux", "yezi", "yezidi", "yi", "yiii", "zanabazarsquare", "zanb",
   "zinh", "zyyy"]

def properties : List String :=
  ["ahex", "alpha", "alphabetic", "asciihexdigit", "bidic", "bidicontrol", "cased", "caseignorable",
   "changeswhencasefolded", "changeswhencasemapped", "changeswhenlowercased",
   "changeswhentitlecased", "changeswhenuppercased", "ci", "cwcf", "cwcm", "cwl", "cwt", "cwu",
   "dash", "defaultignorablecodepoint", "dep", "deprecated", "di", "dia", "diacritic", "ebase",
   "ecomp", "emod", "emoji", "emojicomponent", "emojimodifier", "emojimodifierbase",
   "emojipresentation", "epres", "ext", "extendedpictographic", "extender", "extpict",
   "graphemebase", "graphemeextend", "graphemelink", "grbase", "grext", "grlink", "hex", "hexdigit",
   "hyphen", "idc", "idcompatmathcontinue", "idcompatmathstart", "idcontinue", "ideo",
   "ideographic", "ids", "idsb", "idsbinaryoperator", "idst", "idstart", "idstrinaryoperator",
   "idsu", "idsunaryoperator", "joinc", "joincontrol", "loe", "logicalorderexception", "lower",
   "lowercase", "math", "mcm", "modifiercombiningmark", "nchar", "noncharactercodepoint", "oalpha",
   "odi", "ogrext", "oidc", "oids", "olower", "omath", "otheralphabetic",
   "otherdefaultignorablecodepoint", "othergraphemeextend", "otheridcontinue", "otheridstart",
   "otherlowercase", "othermath", "otheruppercase", "oupper", "patsyn", "patternsyntax",
   "patternwhitespace", "patws", "pcm", "prependedconcatenationmark", "qmark", "quotationmark",
   "radical", "regionalindicator", "ri", "sd", "sentenceterminal", "softdotted", "space", "sterm",
   "term", "terminalpunctuation", "uideo", "unifiedideograph", "upper", "uppercase",
   "variationselector", "vs", "whitespace", "wspace", "xidc", "xidcontinue", "xids", "xidstart"]

def isSeparator (c : Char) : Bool := c == ' ' || c == '_' || c == '-'

def looseName (cs : List Char) : String :=
  let small := cs.map Char.toLower
  let bare :=
    match small with
    | 'i' :: 's' :: rest => rest
    | cs => cs
  String.ofList (bare.filter fun c => !isSeparator c && c.toNat < 128)

def isPropertyName (cs : List Char) : Bool :=
  let name := looseName cs
  properties.contains name || categories.contains name || scripts.contains name

def isPropertyValue (property value : List Char) : Bool :=
  let name := looseName property
  if name = "gc" || name = "generalcategory" then categories.contains (looseName value)
  else if name = "sc" || name = "script" || name = "scx" || name = "scriptextensions" then
    scripts.contains (looseName value)
  else false

def isProperty (cs : List Char) : Bool :=
  match Text.cutAt? ['!', '='] cs with
  | some (property, value) => isPropertyValue property value
  | none =>
    match Text.cutAt? [':'] cs with
    | some (property, value) => isPropertyValue property value
    | none =>
      match Text.cutAt? ['='] cs with
      | some (property, value) => isPropertyValue property value
      | none => isPropertyName cs

end Crosslink.Pattern
