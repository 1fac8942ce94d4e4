import SheetQuery.Pattern.Spread

/-! Properties of characters that patterns may ask for by name, as Unicode defines them: the general
category, the script and a number of yes-or-no properties, and with their values also the age and the classes
of text boundaries. Of each set only its spread is kept. -/

namespace SheetQuery.Pattern

/-- A property, or a value of one, under all its names. -/
structure Property where
  names : List String
  spread : Spread
deriving Repr, Inhabited

/-- The general categories. There is none of surrogates, which are not characters. -/
def categories : List Property := [
  ⟨["any"], ⟨27, 9⟩⟩, ⟨["ascii"], ⟨1, 1⟩⟩, ⟨["assigned"], ⟨1185, 786⟩⟩, ⟨["c", "other"], ⟨1204, 797⟩⟩,
  ⟨["cc", "control", "cntrl"], ⟨4, 3⟩⟩, ⟨["cf", "format"], ⟨51, 22⟩⟩, ⟨["cn", "unassigned"], ⟨1185, 786⟩⟩,
  ⟨["co", "privateuse"], ⟨24, 8⟩⟩, ⟨["l", "letter"], ⟨1190, 802⟩⟩, ⟨["lc", "casedletter"], ⟨269, 183⟩⟩,
  ⟨["ll", "lowercaseletter"], ⟨767, 679⟩⟩, ⟨["lm", "modifierletter"], ⟨138, 74⟩⟩,
  ⟨["lo", "otherletter"], ⟨945, 615⟩⟩, ⟨["lt", "titlecaseletter"], ⟨14, 10⟩⟩,
  ⟨["lu", "uppercaseletter"], ⟨737, 659⟩⟩, ⟨["m", "mark", "combiningmark"], ⟨522, 343⟩⟩,
  ⟨["mc", "spacingmark"], ⟨284, 193⟩⟩, ⟨["me", "enclosingmark"], ⟨12, 5⟩⟩,
  ⟨["mn", "nonspacingmark"], ⟨539, 361⟩⟩, ⟨["n", "number"], ⟨270, 142⟩⟩,
  ⟨["nd", "decimalnumber", "digit"], ⟨149, 71⟩⟩, ⟨["nl", "letternumber"], ⟨31, 14⟩⟩,
  ⟨["no", "othernumber"], ⟨148, 75⟩⟩, ⟨["p", "punctuation", "punct"], ⟨332, 196⟩⟩,
  ⟨["pc", "connectorpunctuation"], ⟨14, 7⟩⟩, ⟨["pd", "dashpunctuation"], ⟨37, 19⟩⟩,
  ⟨["pe", "closepunctuation"], ⟨98, 76⟩⟩, ⟨["pf", "finalpunctuation"], ⟨14, 10⟩⟩,
  ⟨["pi", "initialpunctuation"], ⟨15, 11⟩⟩, ⟨["po", "otherpunctuation"], ⟨314, 189⟩⟩,
  ⟨["ps", "openpunctuation"], ⟨102, 79⟩⟩, ⟨["s", "symbol"], ⟨444, 278⟩⟩,
  ⟨["sc", "currencysymbol"], ⟨49, 22⟩⟩, ⟨["sk", "modifiersymbol"], ⟨57, 33⟩⟩,
  ⟨["sm", "mathsymbol"], ⟨110, 69⟩⟩, ⟨["so", "othersymbol"], ⟨368, 227⟩⟩, ⟨["z", "separator"], ⟨16, 8⟩⟩,
  ⟨["zl", "lineseparator"], ⟨3, 1⟩⟩, ⟨["zp", "paragraphseparator"], ⟨3, 1⟩⟩,
  ⟨["zs", "spaceseparator"], ⟨15, 7⟩⟩]

def scripts : List Property := [
  ⟨["adlm", "adlam"], ⟨8, 4⟩⟩, ⟨["aghb", "caucasianalbanian"], ⟨7, 3⟩⟩, ⟨["ahom"], ⟨8, 4⟩⟩,
  ⟨["arab", "arabic"], ⟨100, 70⟩⟩, ⟨["armi", "imperialaramaic"], ⟨5, 2⟩⟩, ⟨["armn", "armenian"], ⟨11, 6⟩⟩,
  ⟨["avst", "avestan"], ⟨5, 2⟩⟩, ⟨["bali", "balinese"], ⟨6, 3⟩⟩, ⟨["bamu", "bamum"], ⟨11, 4⟩⟩,
  ⟨["bass", "bassavah"], ⟨5, 2⟩⟩, ⟨["batk", "batak"], ⟨4, 2⟩⟩, ⟨["beng", "bengali"], ⟨18, 15⟩⟩,
  ⟨["bhks", "bhaiksuki"], ⟨9, 5⟩⟩, ⟨["bopo", "bopomofo"], ⟨7, 3⟩⟩, ⟨["brah", "brahmi"], ⟨8, 4⟩⟩,
  ⟨["brai", "braille"], ⟨3, 1⟩⟩, ⟨["bugi", "buginese"], ⟨4, 2⟩⟩, ⟨["buhd", "buhid"], ⟨3, 1⟩⟩,
  ⟨["cakm", "chakma"], ⟨7, 3⟩⟩, ⟨["cans", "canadianaboriginal"], ⟨11, 4⟩⟩, ⟨["cari", "carian"], ⟨6, 2⟩⟩,
  ⟨["cham"], ⟨7, 4⟩⟩, ⟨["cher", "cherokee"], ⟨11, 5⟩⟩, ⟨["chrs", "chorasmian"], ⟨6, 2⟩⟩,
  ⟨["copt", "coptic", "qaac"], ⟨8, 4⟩⟩, ⟨["cpmn", "cyprominoan"], ⟨6, 2⟩⟩, ⟨["cprt", "cypriot"], ⟨9, 6⟩⟩,
  ⟨["cyrl", "cyrillic"], ⟨35, 15⟩⟩, ⟨["deva", "devanagari"], ⟨14, 6⟩⟩, ⟨["diak", "divesakuru"], ⟨13, 9⟩⟩,
  ⟨["dogr", "dogra"], ⟨4, 1⟩⟩, ⟨["dsrt", "deseret"], ⟨6, 2⟩⟩, ⟨["dupl", "duployan"], ⟨11, 6⟩⟩,
  ⟨["egyp", "egyptianhieroglyphs"], ⟨6, 2⟩⟩, ⟨["elba", "elbasan"], ⟨4, 1⟩⟩, ⟨["elym", "elymaic"], ⟨4, 1⟩⟩,
  ⟨["ethi", "ethiopic"], ⟨56, 40⟩⟩, ⟨["gara", "garay"], ⟨6, 4⟩⟩, ⟨["geor", "georgian"], ⟨17, 11⟩⟩,
  ⟨["glag", "glagolitic"], ⟨13, 7⟩⟩, ⟨["gong", "gunjalagondi"], ⟨11, 7⟩⟩,
  ⟨["gonm", "masaramgondi"], ⟨12, 8⟩⟩, ⟨["goth", "gothic"], ⟨6, 2⟩⟩, ⟨["gran", "grantha"], ⟨20, 16⟩⟩,
  ⟨["grek", "greek"], ⟨63, 41⟩⟩, ⟨["gujr", "gujarati"], ⟨18, 15⟩⟩, ⟨["gukh", "gurungkhema"], ⟨6, 4⟩⟩,
  ⟨["guru", "gurmukhi"], ⟨20, 17⟩⟩, ⟨["hang", "hangul"], ⟨41, 20⟩⟩, ⟨["hani", "han"], ⟨100, 46⟩⟩,
  ⟨["hano", "hanunoo"], ⟨3, 1⟩⟩, ⟨["hatr", "hatran"], ⟨6, 3⟩⟩, ⟨["hebr", "hebrew"], ⟨15, 10⟩⟩,
  ⟨["hira", "hiragana"], ⟨20, 9⟩⟩, ⟨["hluw", "anatolianhieroglyphs"], ⟨6, 2⟩⟩,
  ⟨["hmng", "pahawhhmong"], ⟨12, 7⟩⟩, ⟨["hmnp", "nyiakengpuachuehmong"], ⟨8, 4⟩⟩,
  ⟨["hung", "oldhungarian"], ⟨7, 3⟩⟩, ⟨["ital", "olditalic"], ⟨5, 2⟩⟩, ⟨["java", "javanese"], ⟨7, 4⟩⟩,
  ⟨["kali", "kayahli"], ⟨4, 2⟩⟩, ⟨["kana", "katakana"], ⟨34, 17⟩⟩, ⟨["kawi"], ⟨8, 4⟩⟩,
  ⟨["khar", "kharoshthi"], ⟨13, 9⟩⟩, ⟨["khmr", "khmer"], ⟨9, 5⟩⟩, ⟨["khoj", "khojki"], ⟨7, 3⟩⟩,
  ⟨["kits", "khitansmallscript"], ⟨9, 3⟩⟩, ⟨["knda", "kannada"], ⟨17, 14⟩⟩,
  ⟨["krai", "kiratrai"], ⟨6, 4⟩⟩, ⟨["kthi", "kaithi"], ⟨7, 3⟩⟩, ⟨["lana", "taitham"], ⟨11, 7⟩⟩,
  ⟨["laoo", "lao"], ⟨14, 11⟩⟩, ⟨["latn", "latin"], ⟨81, 48⟩⟩, ⟨["lepc", "lepcha"], ⟨7, 4⟩⟩,
  ⟨["limb", "limbu"], ⟨8, 5⟩⟩, ⟨["lina", "lineara"], ⟨9, 4⟩⟩, ⟨["linb", "linearb"], ⟨15, 9⟩⟩,
  ⟨["lisu"], ⟨7, 2⟩⟩, ⟨["lyci", "lycian"], ⟨4, 1⟩⟩, ⟨["lydi", "lydian"], ⟨5, 2⟩⟩,
  ⟨["mahj", "mahajani"], ⟨4, 1⟩⟩, ⟨["maka", "makasar"], ⟨4, 1⟩⟩, ⟨["mand", "mandaic"], ⟨4, 2⟩⟩,
  ⟨["mani", "manichaean"], ⟨5, 2⟩⟩, ⟨["marc", "marchen"], ⟨8, 4⟩⟩, ⟨["medf", "medefaidrin"], ⟨6, 2⟩⟩,
  ⟨["mend", "mendekikakui"], ⟨7, 3⟩⟩, ⟨["merc", "meroiticcursive"], ⟨8, 4⟩⟩,
  ⟨["mero", "meroitichieroglyphs"], ⟨4, 1⟩⟩, ⟨["mlym", "malayalam"], ⟨11, 8⟩⟩, ⟨["modi"], ⟨7, 3⟩⟩,
  ⟨["mong", "mongolian"], ⟨14, 7⟩⟩, ⟨["mroo", "mro"], ⟨6, 3⟩⟩, ⟨["mtei", "meeteimayek"], ⟨6, 3⟩⟩,
  ⟨["mult", "multani"], ⟨8, 5⟩⟩, ⟨["mymr", "myanmar"], ⟨10, 4⟩⟩, ⟨["nagm", "nagmundari"], ⟨4, 1⟩⟩,
  ⟨["nand", "nandinagari"], ⟨8, 4⟩⟩, ⟨["narb", "oldnortharabian"], ⟨4, 1⟩⟩,
  ⟨["nbat", "nabataean"], ⟨5, 2⟩⟩, ⟨["newa"], ⟨7, 3⟩⟩, ⟨["nkoo", "nko"], ⟨3, 2⟩⟩,
  ⟨["nshu", "nushu"], ⟨11, 4⟩⟩, ⟨["ogam", "ogham"], ⟨3, 1⟩⟩, ⟨["olck", "olchiki"], ⟨3, 1⟩⟩,
  ⟨["onao", "olonal"], ⟨6, 4⟩⟩, ⟨["orkh", "oldturkic"], ⟨6, 2⟩⟩, ⟨["orya", "oriya"], ⟨18, 15⟩⟩,
  ⟨["osge", "osage"], ⟨7, 3⟩⟩, ⟨["osma", "osmanya"], ⟨5, 2⟩⟩, ⟨["ougr", "olduyghur"], ⟨6, 2⟩⟩,
  ⟨["palm", "palmyrene"], ⟨4, 1⟩⟩, ⟨["pauc", "paucinhau"], ⟨4, 1⟩⟩, ⟨["perm", "oldpermic"], ⟨4, 1⟩⟩,
  ⟨["phag", "phagspa"], ⟨3, 1⟩⟩, ⟨["phli", "inscriptionalpahlavi"], ⟨5, 2⟩⟩,
  ⟨["phlp", "psalterpahlavi"], ⟨6, 3⟩⟩, ⟨["phnx", "phoenician"], ⟨5, 2⟩⟩, ⟨["plrd", "miao"], ⟨10, 5⟩⟩,
  ⟨["prti", "inscriptionalparthian"], ⟨5, 2⟩⟩, ⟨["rjng", "rejang"], ⟨6, 3⟩⟩,
  ⟨["rohg", "hanifirohingya"], ⟨5, 2⟩⟩, ⟨["runr", "runic"], ⟨6, 3⟩⟩, ⟨["samr", "samaritan"], ⟨4, 2⟩⟩,
  ⟨["sarb", "oldsoutharabian"], ⟨4, 1⟩⟩, ⟨["saur", "saurashtra"], ⟨6, 3⟩⟩,
  ⟨["sgnw", "signwriting"], ⟨8, 4⟩⟩, ⟨["shaw", "shavian"], ⟨4, 1⟩⟩, ⟨["shrd", "sharada"], ⟨6, 2⟩⟩,
  ⟨["sidd", "siddham"], ⟨7, 3⟩⟩, ⟨["sind", "khudawadi"], ⟨7, 3⟩⟩, ⟨["sinh", "sinhala"], ⟨19, 13⟩⟩,
  ⟨["sogd", "sogdian"], ⟨6, 2⟩⟩, ⟨["sogo", "oldsogdian"], ⟨4, 1⟩⟩, ⟨["sora", "sorasompeng"], ⟨5, 2⟩⟩,
  ⟨["soyo", "soyombo"], ⟨6, 2⟩⟩, ⟨["sund", "sundanese"], ⟨5, 2⟩⟩, ⟨["sunu", "sunuwar"], ⟨6, 4⟩⟩,
  ⟨["sylo", "sylotinagri"], ⟨3, 1⟩⟩, ⟨["syrc", "syriac"], ⟨9, 5⟩⟩, ⟨["tagb", "tagbanwa"], ⟨5, 3⟩⟩,
  ⟨["takr", "takri"], ⟨6, 2⟩⟩, ⟨["tale", "taile"], ⟨4, 2⟩⟩, ⟨["talu", "newtailue"], ⟨8, 5⟩⟩,
  ⟨["taml", "tamil"], ⟨25, 19⟩⟩, ⟨["tang", "tangut"], ⟨16, 6⟩⟩, ⟨["tavt", "taiviet"], ⟨6, 3⟩⟩,
  ⟨["telu", "telugu"], ⟨17, 14⟩⟩, ⟨["tfng", "tifinagh"], ⟨7, 4⟩⟩, ⟨["tglg", "tagalog"], ⟨4, 2⟩⟩,
  ⟨["thaa", "thaana"], ⟨2, 1⟩⟩, ⟨["thai"], ⟨5, 2⟩⟩, ⟨["tibt", "tibetan"], ⟨15, 10⟩⟩,
  ⟨["tirh", "tirhuta"], ⟨7, 3⟩⟩, ⟨["tnsa", "tangsa"], ⟨8, 3⟩⟩, ⟨["todr", "todhri"], ⟨6, 4⟩⟩,
  ⟨["toto"], ⟨4, 1⟩⟩, ⟨["tutg", "tulutigalari"], ⟨6, 4⟩⟩, ⟨["ugar", "ugaritic"], ⟨5, 2⟩⟩,
  ⟨["vaii", "vai"], ⟨5, 2⟩⟩, ⟨["vith", "vithkuqi"], ⟨13, 9⟩⟩, ⟨["wara", "warangciti"], ⟨7, 3⟩⟩,
  ⟨["wcho", "wancho"], ⟨5, 2⟩⟩, ⟨["xpeo", "oldpersian"], ⟨7, 3⟩⟩, ⟨["xsux", "cuneiform"], ⟨15, 7⟩⟩,
  ⟨["yezi", "yezidi"], ⟨6, 3⟩⟩, ⟨["yiii", "yi"], ⟨8, 4⟩⟩, ⟨["zanb", "zanabazarsquare"], ⟨6, 2⟩⟩,
  ⟨["zinh", "inherited", "qaai"], ⟨69, 34⟩⟩, ⟨["zyyy", "common"], ⟨355, 220⟩⟩]

/-- The properties that a character has or has not. -/
def binaryProperties : List Property := [
  ⟨["ahex", "asciihexdigit"], ⟨3, 3⟩⟩, ⟨["alpha", "alphabetic"], ⟨1304, 903⟩⟩,
  ⟨["bidic", "bidicontrol"], ⟨8, 4⟩⟩, ⟨["bidim", "bidimirrored"], ⟨157, 118⟩⟩, ⟨["cased"], ⟨292, 198⟩⟩,
  ⟨["ci", "caseignorable"], ⟨682, 460⟩⟩, ⟨["cwcf", "changeswhencasefolded"], ⟨697, 630⟩⟩,
  ⟨["cwcm", "changeswhencasemapped"], ⟨237, 162⟩⟩, ⟨["cwl", "changeswhenlowercased"], ⟨680, 617⟩⟩,
  ⟨["cwt", "changeswhentitlecased"], ⟨703, 636⟩⟩, ⟨["cwu", "changeswhenuppercased"], ⟨705, 637⟩⟩,
  ⟨["dash"], ⟨44, 23⟩⟩, ⟨["dep", "deprecated"], ⟨20, 8⟩⟩, ⟨["di", "defaultignorablecodepoint"], ⟨42, 17⟩⟩,
  ⟨["dia", "diacritic"], ⟨360, 205⟩⟩, ⟨["ebase", "emojimodifierbase"], ⟨60, 40⟩⟩,
  ⟨["ecomp", "emojicomponent"], ⟨25, 11⟩⟩, ⟨["emod", "emojimodifier"], ⟨4, 1⟩⟩, ⟨["emoji"], ⟨217, 163⟩⟩,
  ⟨["epres", "emojipresentation"], ⟨138, 94⟩⟩, ⟨["ext", "extender"], ⟨72, 33⟩⟩,
  ⟨["extpict", "extendedpictographic"], ⟨145, 92⟩⟩, ⟨["grbase", "graphemebase"], ⟨1547, 1097⟩⟩,
  ⟨["grext", "graphemeextend"], ⟨561, 379⟩⟩, ⟨["grlink", "graphemelink"], ⟨60, 40⟩⟩,
  ⟨["hex", "hexdigit"], ⟨9, 6⟩⟩, ⟨["hyphen"], ⟨23, 10⟩⟩, ⟨["idc", "idcontinue"], ⟨1371, 956⟩⟩,
  ⟨["idcompatmathcontinue"], ⟨24, 14⟩⟩, ⟨["idcompatmathstart"], ⟨20, 12⟩⟩,
  ⟨["ideo", "ideographic"], ⟨109, 48⟩⟩, ⟨["ids", "idstart"], ⟨1194, 804⟩⟩,
  ⟨["idsb", "idsbinaryoperator"], ⟨4, 2⟩⟩, ⟨["idst", "idstrinaryoperator"], ⟨3, 1⟩⟩,
  ⟨["idsu", "idsunaryoperator"], ⟨3, 1⟩⟩, ⟨["joinc", "joincontrol"], ⟨3, 1⟩⟩,
  ⟨["loe", "logicalorderexception"], ⟨14, 7⟩⟩, ⟨["lower", "lowercase"], ⟨785, 692⟩⟩,
  ⟨["math"], ⟨200, 151⟩⟩, ⟨["mcm", "modifiercombiningmark"], ⟨20, 8⟩⟩,
  ⟨["nchar", "noncharactercodepoint"], ⟨58, 18⟩⟩, ⟨["oalpha", "otheralphabetic"], ⟨60, 40⟩⟩,
  ⟨["odi", "otherdefaultignorablecodepoint"], ⟨60, 40⟩⟩, ⟨["ogrext", "othergraphemeextend"], ⟨60, 40⟩⟩,
  ⟨["oidc", "otheridcontinue"], ⟨60, 40⟩⟩, ⟨["oids", "otheridstart"], ⟨60, 40⟩⟩,
  ⟨["olower", "otherlowercase"], ⟨60, 40⟩⟩, ⟨["omath", "othermath"], ⟨60, 40⟩⟩,
  ⟨["oupper", "otheruppercase"], ⟨60, 40⟩⟩, ⟨["patsyn", "patternsyntax"], ⟨50, 32⟩⟩,
  ⟨["patws", "patternwhitespace"], ⟨8, 5⟩⟩, ⟨["pcm", "prependedconcatenationmark"], ⟨17, 7⟩⟩,
  ⟨["qmark", "quotationmark"], ⟨23, 13⟩⟩, ⟨["radical"], ⟨10, 5⟩⟩, ⟨["ri", "regionalindicator"], ⟨4, 1⟩⟩,
  ⟨["sd", "softdotted"], ⟨64, 34⟩⟩, ⟨["sterm", "sentenceterminal"], ⟨155, 81⟩⟩,
  ⟨["term", "terminalpunctuation"], ⟨200, 109⟩⟩, ⟨["uideo", "unifiedideograph"], ⟨75, 35⟩⟩,
  ⟨["upper", "uppercase"], ⟨751, 667⟩⟩, ⟨["vs", "variationselector"], ⟨13, 5⟩⟩,
  ⟨["wspace", "whitespace", "space"], ⟨18, 10⟩⟩, ⟨["xidc", "xidcontinue"], ⟨1382, 965⟩⟩,
  ⟨["xids", "xidstart"], ⟨1205, 813⟩⟩]

/-- The versions of the standard, each with all characters up to it. -/
def ages : List Property := [
  ⟨["1.1", "v11"], ⟨484, 356⟩⟩, ⟨["10.0", "v100"], ⟨1311, 875⟩⟩, ⟨["11.0", "v110"], ⟨1341, 893⟩⟩,
  ⟨["12.0", "v120"], ⟨1366, 909⟩⟩, ⟨["12.1", "v121"], ⟨1362, 907⟩⟩, ⟨["13.0", "v130"], ⟨1391, 925⟩⟩,
  ⟨["14.0", "v140"], ⟨1413, 946⟩⟩, ⟨["15.0", "v150"], ⟨1443, 964⟩⟩, ⟨["15.1", "v151"], ⟨1443, 964⟩⟩,
  ⟨["16.0", "v160"], ⟨1443, 964⟩⟩, ⟨["2.0", "v20"], ⟨562, 387⟩⟩, ⟨["2.1", "v21"], ⟨562, 387⟩⟩,
  ⟨["3.0", "v30"], ⟨673, 462⟩⟩, ⟨["3.1", "v31"], ⟨755, 513⟩⟩, ⟨["3.2", "v32"], ⟨752, 510⟩⟩,
  ⟨["4.0", "v40"], ⟨777, 527⟩⟩, ⟨["4.1", "v41"], ⟨827, 558⟩⟩, ⟨["5.0", "v50"], ⟨848, 571⟩⟩,
  ⟨["5.1", "v51"], ⟨889, 596⟩⟩, ⟨["5.2", "v52"], ⟨961, 645⟩⟩, ⟨["6.0", "v60"], ⟨1019, 675⟩⟩,
  ⟨["6.1", "v61"], ⟨1074, 716⟩⟩, ⟨["6.2", "v62"], ⟨1074, 716⟩⟩, ⟨["6.3", "v63"], ⟨1074, 716⟩⟩,
  ⟨["7.0", "v70"], ⟨1198, 803⟩⟩, ⟨["8.0", "v80"], ⟨1228, 822⟩⟩, ⟨["9.0", "v90"], ⟨1276, 854⟩⟩]

def graphemeBreaks : List Property := [
  ⟨["cn", "control"], ⟨44, 21⟩⟩, ⟨["cr"], ⟨1, 1⟩⟩, ⟨["ex", "extend"], ⟨564, 380⟩⟩, ⟨["l"], ⟨8, 3⟩⟩,
  ⟨["lf"], ⟨1, 1⟩⟩, ⟨["lv"], ⟨578, 399⟩⟩, ⟨["lvt"], ⟨728, 549⟩⟩, ⟨["pp", "prepend"], ⟨33, 15⟩⟩,
  ⟨["ri", "regionalindicator"], ⟨4, 1⟩⟩, ⟨["sm", "spacingmark"], ⟨267, 176⟩⟩, ⟨["t"], ⟨8, 3⟩⟩,
  ⟨["v"], ⟨10, 4⟩⟩, ⟨["zwj"], ⟨3, 1⟩⟩]

def wordBreaks : List Property := [
  ⟨["cr"], ⟨1, 1⟩⟩, ⟨["dq", "doublequote"], ⟨1, 1⟩⟩, ⟨["ex", "extendnumlet"], ⟨15, 8⟩⟩,
  ⟨["extend"], ⟨533, 348⟩⟩, ⟨["fo", "format"], ⟨48, 20⟩⟩, ⟨["hl", "hebrewletter"], ⟨14, 10⟩⟩,
  ⟨["ka", "katakana"], ⟨36, 18⟩⟩, ⟨["le", "aletter"], ⟨1006, 688⟩⟩, ⟨["lf"], ⟨1, 1⟩⟩,
  ⟨["mb", "midnumlet"], ⟨11, 6⟩⟩, ⟨["ml", "midletter"], ⟨19, 9⟩⟩, ⟨["mn", "midnum"], ⟨25, 14⟩⟩,
  ⟨["nl", "newline"], ⟨6, 3⟩⟩, ⟨["nu", "numeric"], ⟨136, 65⟩⟩, ⟨["ri", "regionalindicator"], ⟨4, 1⟩⟩,
  ⟨["sq", "singlequote"], ⟨1, 1⟩⟩, ⟨["wsegspace"], ⟨13, 6⟩⟩, ⟨["zwj"], ⟨3, 1⟩⟩]

def sentenceBreaks : List Property := [
  ⟨["at", "aterm"], ⟨9, 4⟩⟩, ⟨["cl", "close"], ⟨73, 46⟩⟩, ⟨["cr"], ⟨1, 1⟩⟩,
  ⟨["ex", "extend"], ⟨530, 347⟩⟩, ⟨["fo", "format"], ⟨49, 21⟩⟩, ⟨["le", "oletter"], ⟨996, 650⟩⟩,
  ⟨["lf"], ⟨1, 1⟩⟩, ⟨["lo", "lower"], ⟨783, 690⟩⟩, ⟨["nu", "numeric"], ⟨136, 65⟩⟩,
  ⟨["sc", "scontinue"], ⟨33, 19⟩⟩, ⟨["se", "sep"], ⟨5, 2⟩⟩, ⟨["sp"], ⟨17, 9⟩⟩,
  ⟨["st", "sterm"], ⟨152, 78⟩⟩, ⟨["up", "upper"], ⟨751, 668⟩⟩]

def find? (ps : List Property) (name : String) : Option Spread :=
  (ps.find? (·.names.contains name)).map Property.spread

/-- A name as it is compared: in lower case, without blanks, hyphens and underscores, and with characters
beyond ASCII left out. `is` before a name does not count, except in `isc`, which is not `c`. -/
def normalName (cs : List Char) : String :=
  let (hasIs, rest) := match cs with
    | i :: s :: rest => if i.toLower = 'i' ∧ s.toLower = 's' then (true, rest) else (false, cs)
    | cs => (false, cs)
  let kept := rest.filter fun c => c.toNat < 128 && c != ' ' && c != '-' && c != '_'
  match hasIs, String.ofList (kept.map Char.toLower) with
  | true, "c" => "isc"
  | _, name => name

def propertyAlone? (cs : List Char) : Option Spread :=
  let name := normalName cs
  find? binaryProperties name <|> find? categories name <|> find? scripts name

def propertyValue? (cs value : List Char) : Option Spread :=
  let values := match normalName cs with
    | "gc" | "generalcategory" => categories
    | "sc" | "script" | "scx" | "scriptextensions" => scripts
    | "age" => ages
    | "gcb" | "graphemeclusterbreak" => graphemeBreaks
    | "wb" | "wordbreak" => wordBreaks
    | "sb" | "sentencebreak" => sentenceBreaks
    | _ => []
  find? values (normalName value)

/-- What comes before and after the first place where a text has `sign`. -/
def splitAt? (sign : List Char) : List Char → Option (List Char × List Char)
  | [] => none
  | c :: cs =>
    if sign.isPrefixOf (c :: cs) then some ([], (c :: cs).drop sign.length)
    else (splitAt? sign cs).map fun (before, after) => (c :: before, after)

/-- A property as it stands between braces: a name, or a name and a value with `!=`, `:` or `=` between
them. -/
def property? (cs : List Char) : Option Spread :=
  match splitAt? ['!', '='] cs <|> splitAt? [':'] cs <|> splitAt? ['='] cs with
  | some (name, value) => propertyValue? name value
  | none => propertyAlone? cs

end SheetQuery.Pattern
