import RouteFeed.Pattern.Property.Basic

/-!
# Scripts

The characters that a script is written with. Those that many scripts share belong to the script
Common, and marks that take the script of the character before them to the script Inherited.

## Main definitions

* `scripts` — the scripts
-/

namespace RouteFeed

/-- The scripts. -/
def scripts : List Property :=
  [⟨["adlm", "adlam"], [], .part ⟨192, 272⟩ ⟨472, 1272⟩⟩,
   ⟨["aghb", "caucasianalbanian"], [], .part ⟨184, 236⟩ ⟨504, 1204⟩⟩,
   ⟨["ahom"], [], .part ⟨192, 272⟩ ⟨512, 1304⟩⟩,
   ⟨["arab", "arabic"], [], .part ⟨1560, 3576⟩ ⟨1808, 4644⟩⟩,
   ⟨["armi", "imperialaramaic"], [], .part ⟨136, 168⟩ ⟨456, 1136⟩⟩,
   ⟨["armn", "armenian"], [], .part ⟨248, 376⟩ ⟨616, 1444⟩⟩,
   ⟨["avst", "avestan"], [], .part ⟨136, 168⟩ ⟨448, 1100⟩⟩,
   ⟨["bali", "balinese"], [], .part ⟨144, 204⟩ ⟨456, 1136⟩⟩,
   ⟨["bamu", "bamum"], [], .part ⟨312, 368⟩ ⟨616, 1604⟩⟩,
   ⟨["bass", "bassavah"], [], .part ⟨136, 168⟩ ⟨472, 1272⟩⟩,
   ⟨["batk", "batak"], [], .part ⟨96, 136⟩ ⟨448, 1100⟩⟩,
   ⟨["beng", "bengali"], [], .part ⟨240, 636⟩ ⟨544, 1500⟩⟩,
   ⟨["bhks", "bhaiksuki"], [], .part ⟨200, 308⟩ ⟨520, 1340⟩⟩,
   ⟨["bopo", "bopomofo"], [], .part ⟨184, 236⟩ ⟨584, 1544⟩⟩,
   ⟨["brah", "brahmi"], [], .part ⟨192, 272⟩ ⟨456, 1168⟩⟩,
   ⟨["brai", "braille"], [], .part ⟨88, 100⟩ ⟨408, 1132⟩⟩,
   ⟨["bugi", "buginese"], [], .part ⟨96, 136⟩ ⟨456, 1136⟩⟩,
   ⟨["buhd", "buhid"], [], .part ⟨88, 100⟩ ⟨448, 1100⟩⟩,
   ⟨["cakm", "chakma"], [], .part ⟨184, 236⟩ ⟨504, 1268⟩⟩,
   ⟨["cans", "canadianaboriginal"], [], .part ⟨272, 368⟩ ⟨576, 1572⟩⟩,
   ⟨["cari", "carian"], [], .part ⟨176, 200⟩ ⟨496, 1168⟩⟩,
   ⟨["cham"], [], .part ⟨152, 240⟩ ⟨520, 1340⟩⟩,
   ⟨["cher", "cherokee"], [], .part ⟨280, 372⟩ ⟨616, 1540⟩⟩,
   ⟨["chrs", "chorasmian"], [], .part ⟨176, 200⟩ ⟨488, 1100⟩⟩,
   ⟨["copt", "coptic", "qaac"], [], .part ⟨192, 272⟩ ⟨520, 1372⟩⟩,
   ⟨["cpmn", "cyprominoan"], [], .part ⟨176, 200⟩ ⟨496, 1200⟩⟩,
   ⟨["cprt", "cypriot"], [], .part ⟨168, 312⟩ ⟨480, 1244⟩⟩,
   ⟨["cyrl", "cyrillic"], [], .part ⟨840, 1180⟩ ⟨1208, 2864⟩⟩,
   ⟨["deva", "devanagari"], [], .part ⟨368, 472⟩ ⟨632, 1708⟩⟩,
   ⟨["diak", "divesakuru"], [], .part ⟨232, 452⟩ ⟨552, 1484⟩⟩,
   ⟨["dogr", "dogra"], [], .part ⟨128, 132⟩ ⟨456, 1200⟩⟩,
   ⟨["dsrt", "deseret"], [], .part ⟨176, 200⟩ ⟨448, 1100⟩⟩,
   ⟨["dupl", "duployan"], [], .part ⟨248, 376⟩ ⟨528, 1376⟩⟩,
   ⟨["egyp", "egyptianhieroglyphs"], [], .part ⟨176, 200⟩ ⟨448, 1132⟩⟩,
   ⟨["elba", "elbasan"], [], .part ⟨128, 132⟩ ⟨448, 1100⟩⟩,
   ⟨["elym", "elymaic"], [], .part ⟨128, 132⟩ ⟨448, 1068⟩⟩,
   ⟨["ethi", "ethiopic"], [], .part ⟨960, 1952⟩ ⟨1288, 3488⟩⟩,
   ⟨["gara", "garay"], [], .part ⟨192, 272⟩ ⟨504, 1204⟩⟩,
   ⟨["geor", "georgian"], [], .part ⟨328, 588⟩ ⟨704, 1756⟩⟩,
   ⟨["glag", "glagolitic"], [], .part ⟨296, 444⟩ ⟨592, 1612⟩⟩,
   ⟨["gong", "gunjalagondi"], [], .part ⟨216, 380⟩ ⟨544, 1448⟩⟩,
   ⟨["gonm", "masaramgondi"], [], .part ⟨224, 416⟩ ⟨544, 1448⟩⟩,
   ⟨["goth", "gothic"], [], .part ⟨176, 200⟩ ⟨496, 1168⟩⟩,
   ⟨["gran", "grantha"], [], .part ⟨288, 704⟩ ⟨608, 1736⟩⟩,
   ⟨["grek", "greek"], [], .part ⟨1168, 2180⟩ ⟨1528, 3860⟩⟩,
   ⟨["gujr", "gujarati"], [], .part ⟨240, 636⟩ ⟨544, 1500⟩⟩,
   ⟨["gukh", "gurungkhema"], [], .part ⟨128, 132⟩ ⟨456, 1200⟩⟩,
   ⟨["guru", "gurmukhi"], [], .part ⟨256, 708⟩ ⟨568, 1608⟩⟩,
   ⟨["hang", "hangul"], [], .part ⟨800, 1392⟩ ⟨1072, 2572⟩⟩,
   ⟨["hani", "han"], [], .part ⟨1568, 3384⟩ ⟨1696, 3464⟩⟩,
   ⟨["hano", "hanunoo"], [], .part ⟨88, 100⟩ ⟨456, 1136⟩⟩,
   ⟨["hatr", "hatran"], [], .part ⟨144, 204⟩ ⟨464, 1172⟩⟩,
   ⟨["hebr", "hebrew"], [], .part ⟨280, 520⟩ ⟨656, 1624⟩⟩,
   ⟨["hira", "hiragana"], [], .part ⟨472, 676⟩ ⟨800, 2148⟩⟩,
   ⟨["hluw", "anatolianhieroglyphs"], [], .part ⟨176, 200⟩ ⟨456, 1200⟩⟩,
   ⟨["hmng", "pahawhhmong"], [], .part ⟨256, 412⟩ ⟨528, 1376⟩⟩,
   ⟨["hmnp", "nyiakengpuachuehmong"], [], .part ⟨192, 272⟩ ⟨520, 1340⟩⟩,
   ⟨["hung", "oldhungarian"], [], .part ⟨184, 236⟩ ⟨496, 1168⟩⟩,
   ⟨["ital", "olditalic"], [], .part ⟨136, 168⟩ ⟨456, 1136⟩⟩,
   ⟨["java", "javanese"], [], .part ⟨152, 240⟩ ⟨472, 1272⟩⟩,
   ⟨["kali", "kayahli"], [], .part ⟨96, 136⟩ ⟨464, 1236⟩⟩,
   ⟨["kana", "katakana"], [], .part ⟨816, 1156⟩ ⟨1184, 2840⟩⟩,
   ⟨["kawi"], [], .part ⟨192, 272⟩ ⟨512, 1304⟩⟩,
   ⟨["khar", "kharoshthi"], [], .part ⟨232, 548⟩ ⟨544, 1384⟩⟩,
   ⟨["khmr", "khmer"], [], .part ⟨200, 308⟩ ⟨520, 1308⟩⟩,
   ⟨["khoj", "khojki"], [], .part ⟨184, 236⟩ ⟨504, 1268⟩⟩,
   ⟨["kits", "khitansmallscript"], [], .part ⟨264, 300⟩ ⟨568, 1504⟩⟩,
   ⟨["knda", "kannada"], [], .part ⟨232, 600⟩ ⟨536, 1464⟩⟩,
   ⟨["krai", "kiratrai"], [], .part ⟨128, 132⟩ ⟨456, 1200⟩⟩,
   ⟨["kthi", "kaithi"], [], .part ⟨184, 236⟩ ⟨464, 1236⟩⟩,
   ⟨["lana", "taitham"], [], .part ⟨216, 380⟩ ⟨568, 1344⟩⟩,
   ⟨["laoo", "lao"], [], .part ⟨208, 492⟩ ⟨528, 1428⟩⟩,
   ⟨["latn", "latin"], [('A', 'Z'), ('a', 'z')], .part ⟨1608, 2744⟩ ⟨2008, 4732⟩⟩,
   ⟨["lepc", "lepcha"], [], .part ⟨152, 240⟩ ⟨504, 1204⟩⟩,
   ⟨["limb", "limbu"], [], .part ⟨160, 276⟩ ⟨520, 1276⟩⟩,
   ⟨["lina", "lineara"], [], .part ⟨232, 304⟩ ⟨504, 1204⟩⟩,
   ⟨["linb", "linearb"], [], .part ⟨312, 516⟩ ⟨568, 1312⟩⟩,
   ⟨["lisu"], [], .part ⟨216, 232⟩ ⟨576, 1572⟩⟩,
   ⟨["lyci", "lycian"], [], .part ⟨128, 132⟩ ⟨448, 1100⟩⟩,
   ⟨["lydi", "lydian"], [], .part ⟨136, 168⟩ ⟨456, 1136⟩⟩,
   ⟨["mahj", "mahajani"], [], .part ⟨128, 132⟩ ⟨464, 1236⟩⟩,
   ⟨["maka", "makasar"], [], .part ⟨128, 132⟩ ⟨464, 1236⟩⟩,
   ⟨["mand", "mandaic"], [], .part ⟨96, 136⟩ ⟨408, 1036⟩⟩,
   ⟨["mani", "manichaean"], [], .part ⟨136, 168⟩ ⟨456, 1136⟩⟩,
   ⟨["marc", "marchen"], [], .part ⟨192, 272⟩ ⟨520, 1340⟩⟩,
   ⟨["medf", "medefaidrin"], [], .part ⟨176, 200⟩ ⟨456, 1200⟩⟩,
   ⟨["mend", "mendekikakui"], [], .part ⟨184, 236⟩ ⟨464, 1236⟩⟩,
   ⟨["merc", "meroiticcursive"], [], .part ⟨192, 272⟩ ⟨504, 1204⟩⟩,
   ⟨["mero", "meroitichieroglyphs"], [], .part ⟨128, 132⟩ ⟨448, 1100⟩⟩,
   ⟨["mlym", "malayalam"], [], .part ⟨184, 384⟩ ⟨480, 1212⟩⟩,
   ⟨["modi"], [], .part ⟨184, 236⟩ ⟨464, 1236⟩⟩,
   ⟨["mong", "mongolian"], [], .part ⟨336, 476⟩ ⟨680, 1680⟩⟩,
   ⟨["mroo", "mro"], [], .part ⟨144, 204⟩ ⟨472, 1272⟩⟩,
   ⟨["mtei", "meeteimayek"], [], .part ⟨144, 204⟩ ⟨528, 1408⟩⟩,
   ⟨["mult", "multani"], [], .part ⟨160, 276⟩ ⟨488, 1344⟩⟩,
   ⟨["mymr", "myanmar"], [], .part ⟨272, 336⟩ ⟨616, 1540⟩⟩,
   ⟨["nagm", "nagmundari"], [], .part ⟨128, 132⟩ ⟨464, 1236⟩⟩,
   ⟨["nand", "nandinagari"], [], .part ⟨192, 272⟩ ⟨520, 1340⟩⟩,
   ⟨["narb", "oldnortharabian"], [], .part ⟨128, 132⟩ ⟨448, 1100⟩⟩,
   ⟨["nbat", "nabataean"], [], .part ⟨136, 168⟩ ⟨456, 1136⟩⟩,
   ⟨["newa"], [], .part ⟨184, 236⟩ ⟨464, 1236⟩⟩,
   ⟨["nkoo", "nko"], [], .part ⟨56, 104⟩ ⟨392, 932⟩⟩,
   ⟨["nshu", "nushu"], [], .part ⟨312, 368⟩ ⟨616, 1572⟩⟩,
   ⟨["ogam", "ogham"], [], .part ⟨88, 100⟩ ⟨448, 1100⟩⟩,
   ⟨["olck", "olchiki"], [], .part ⟨88, 100⟩ ⟨448, 1100⟩⟩,
   ⟨["onao", "olonal"], [], .part ⟨136, 168⟩ ⟨464, 1236⟩⟩,
   ⟨["orkh", "oldturkic"], [], .part ⟨176, 200⟩ ⟨448, 1100⟩⟩,
   ⟨["orya", "oriya"], [], .part ⟨240, 636⟩ ⟨552, 1536⟩⟩,
   ⟨["osge", "osage"], [], .part ⟨184, 236⟩ ⟨504, 1204⟩⟩,
   ⟨["osma", "osmanya"], [], .part ⟨136, 168⟩ ⟨456, 1136⟩⟩,
   ⟨["ougr", "olduyghur"], [], .part ⟨176, 200⟩ ⟨496, 1168⟩⟩,
   ⟨["palm", "palmyrene"], [], .part ⟨128, 132⟩ ⟨448, 1100⟩⟩,
   ⟨["pauc", "paucinhau"], [], .part ⟨128, 132⟩ ⟨456, 1200⟩⟩,
   ⟨["perm", "oldpermic"], [], .part ⟨128, 132⟩ ⟨456, 1136⟩⟩,
   ⟨["phag", "phagspa"], [], .part ⟨88, 100⟩ ⟨456, 1200⟩⟩,
   ⟨["phli", "inscriptionalpahlavi"], [], .part ⟨136, 168⟩ ⟨456, 1136⟩⟩,
   ⟨["phlp", "psalterpahlavi"], [], .part ⟨144, 204⟩ ⟨464, 1172⟩⟩,
   ⟨["phnx", "phoenician"], [], .part ⟨136, 168⟩ ⟨456, 1136⟩⟩,
   ⟨["plrd", "miao"], [], .part ⟨240, 340⟩ ⟨512, 1304⟩⟩,
   ⟨["prti", "inscriptionalparthian"], [], .part ⟨136, 168⟩ ⟨456, 1136⟩⟩,
   ⟨["rjng", "rejang"], [], .part ⟨144, 204⟩ ⟨512, 1304⟩⟩,
   ⟨["rohg", "hanifirohingya"], [], .part ⟨136, 168⟩ ⟨456, 1136⟩⟩,
   ⟨["runr", "runic"], [], .part ⟨144, 204⟩ ⟨504, 1204⟩⟩,
   ⟨["samr", "samaritan"], [], .part ⟨96, 136⟩ ⟨400, 968⟩⟩,
   ⟨["sarb", "oldsoutharabian"], [], .part ⟨128, 132⟩ ⟨448, 1100⟩⟩,
   ⟨["saur", "saurashtra"], [], .part ⟨144, 204⟩ ⟨464, 1236⟩⟩,
   ⟨["sgnw", "signwriting"], [], .part ⟨192, 272⟩ ⟨472, 1272⟩⟩,
   ⟨["shaw", "shavian"], [], .part ⟨128, 132⟩ ⟨448, 1100⟩⟩,
   ⟨["shrd", "sharada"], [], .part ⟨176, 200⟩ ⟨456, 1200⟩⟩,
   ⟨["sidd", "siddham"], [], .part ⟨184, 236⟩ ⟨504, 1268⟩⟩,
   ⟨["sind", "khudawadi"], [], .part ⟨184, 236⟩ ⟨512, 1304⟩⟩,
   ⟨["sinh", "sinhala"], [], .part ⟨344, 660⟩ ⟨656, 1836⟩⟩,
   ⟨["sogd", "sogdian"], [], .part ⟨176, 200⟩ ⟨496, 1168⟩⟩,
   ⟨["sogo", "oldsogdian"], [], .part ⟨128, 132⟩ ⟨448, 1100⟩⟩,
   ⟨["sora", "sorasompeng"], [], .part ⟨136, 168⟩ ⟨472, 1272⟩⟩,
   ⟨["soyo", "soyombo"], [], .part ⟨176, 200⟩ ⟨504, 1268⟩⟩,
   ⟨["sund", "sundanese"], [], .part ⟨136, 168⟩ ⟨456, 1168⟩⟩,
   ⟨["sunu", "sunuwar"], [], .part ⟨136, 168⟩ ⟨464, 1236⟩⟩,
   ⟨["sylo", "sylotinagri"], [], .part ⟨88, 100⟩ ⟨456, 1200⟩⟩,
   ⟨["syrc", "syriac"], [], .part ⟨200, 308⟩ ⟨520, 1276⟩⟩,
   ⟨["tagb", "tagbanwa"], [], .part ⟨104, 172⟩ ⟨472, 1208⟩⟩,
   ⟨["takr", "takri"], [], .part ⟨176, 200⟩ ⟨504, 1268⟩⟩,
   ⟨["tale", "taile"], [], .part ⟨96, 136⟩ ⟨464, 1172⟩⟩,
   ⟨["talu", "newtailue"], [], .part ⟨160, 276⟩ ⟨512, 1240⟩⟩,
   ⟨["taml", "tamil"], [], .part ⟨392, 876⟩ ⟨672, 1876⟩⟩,
   ⟨["tang", "tangut"], [], .part ⟨368, 536⟩ ⟨608, 1472⟩⟩,
   ⟨["tavt", "taiviet"], [], .part ⟨144, 204⟩ ⟨464, 1236⟩⟩,
   ⟨["telu", "telugu"], [], .part ⟨232, 600⟩ ⟨528, 1428⟩⟩,
   ⟨["tfng", "tifinagh"], [], .part ⟨152, 240⟩ ⟨512, 1304⟩⟩,
   ⟨["tglg", "tagalog"], [], .part ⟨96, 136⟩ ⟨456, 1136⟩⟩,
   ⟨["thaa", "thaana"], [], .part ⟨48, 68⟩ ⟨400, 1000⟩⟩,
   ⟨["thai"], [], .part ⟨136, 168⟩ ⟨456, 1104⟩⟩,
   ⟨["tibt", "tibetan"], [], .part ⟨280, 520⟩ ⟨520, 1212⟩⟩,
   ⟨["tirh", "tirhuta"], [], .part ⟨184, 236⟩ ⟨464, 1236⟩⟩,
   ⟨["tnsa", "tangsa"], [], .part ⟨224, 268⟩ ⟨552, 1336⟩⟩,
   ⟨["todr", "todhri"], [], .part ⟨128, 132⟩ ⟨448, 1100⟩⟩,
   ⟨["toto"], [], .part ⟨128, 132⟩ ⟨464, 1236⟩⟩,
   ⟨["tutg", "tulutigalari"], [], .part ⟨256, 560⟩ ⟨576, 1592⟩⟩,
   ⟨["ugar", "ugaritic"], [], .part ⟨136, 168⟩ ⟨456, 1136⟩⟩,
   ⟨["vaii", "vai"], [], .part ⟨136, 168⟩ ⟨456, 1200⟩⟩,
   ⟨["vith", "vithkuqi"], [], .part ⟨232, 452⟩ ⟨552, 1420⟩⟩,
   ⟨["wara", "warangciti"], [], .part ⟨184, 236⟩ ⟨504, 1268⟩⟩,
   ⟨["wcho", "wancho"], [], .part ⟨136, 168⟩ ⟨456, 1200⟩⟩,
   ⟨["xpeo", "oldpersian"], [], .part ⟨184, 236⟩ ⟨504, 1204⟩⟩,
   ⟨["xsux", "cuneiform"], [], .part ⟨296, 508⟩ ⟨560, 1372⟩⟩,
   ⟨["yezi", "yezidi"], [], .part ⟨144, 204⟩ ⟨464, 1172⟩⟩,
   ⟨["yiii", "yi"], [], .part ⟨192, 272⟩ ⟨496, 1200⟩⟩,
   ⟨["zanb", "zanabazarsquare"], [], .part ⟨176, 200⟩ ⟨456, 1200⟩⟩,
   ⟨["zinh", "inherited", "qaai"], [], .part ⟨1552, 2344⟩ ⟨2056, 5300⟩⟩,
   ⟨["zyyy", "common"], [('\x00', '@'), ('[', '\x60'), ('\x7b', '\x7f')],
     .part ⟨6168, 12132⟩ ⟨6680, 15312⟩⟩]

end RouteFeed
