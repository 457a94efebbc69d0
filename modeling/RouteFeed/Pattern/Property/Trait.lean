import RouteFeed.Pattern.Property.Basic

/-!
# Traits

A trait is a property that a character has or has not, without any other value.

## Main definitions

* `traits` — the traits
-/

namespace RouteFeed

/-- The properties that a character has or has not. -/
def traits : List Property :=
  [⟨["ahex", "asciihexdigit"], [('0', '9'), ('A', 'F'), ('a', 'f')], .none⟩,
   ⟨["alpha", "alphabetic"], [('A', 'Z'), ('a', 'z')], .part ⟨19120, 45460⟩ ⟨18728, 43304⟩⟩,
   ⟨["bidic", "bidicontrol"], [], .part ⟨192, 272⟩ ⟨584, 1480⟩⟩,
   ⟨["bidim", "bidimirrored"], [('(', ')'), ('<', '<'), ('>', '>'), ('[', '['), (']', ']'),
     ('\x7b', '\x7b'), ('\x7d', '\x7d')], .part ⟨2448, 5244⟩ ⟨3008, 7984⟩⟩,
   ⟨["ci", "caseignorable"], [('\'', '\''), ('.', '.'), (':', ':'), ('^', '^'), ('\x60', '\x60')],
     .part ⟨12048, 23580⟩ ⟨13752, 33684⟩⟩,
   ⟨["cased"], [('A', 'Z'), ('a', 'z')], .part ⟨4528, 10128⟩ ⟨4856, 12016⟩⟩,
   ⟨["cwcf", "changeswhencasefolded"], [('A', 'Z')], .part ⟨6728, 24788⟩ ⟨7320, 28152⟩⟩,
   ⟨["cwcm", "changeswhencasemapped"], [('A', 'Z'), ('a', 'z')], .part ⟨3760, 8224⟩ ⟨4120, 10192⟩⟩,
   ⟨["cwl", "changeswhenlowercased"], [('A', 'Z')], .part ⟨6464, 24224⟩ ⟨7096, 27620⟩⟩,
   ⟨["cwt", "changeswhentitlecased"], [('a', 'z')], .part ⟨6856, 25004⟩ ⟨7464, 28440⟩⟩,
   ⟨["cwu", "changeswhenuppercased"], [('a', 'z')], .part ⟨6904, 25072⟩ ⟨7520, 28576⟩⟩,
   ⟨["dash"], [('-', '-')], .part ⟨1016, 1464⟩ ⟨1536, 3716⟩⟩,
   ⟨["di", "defaultignorablecodepoint"], [], .part ⟨1136, 1412⟩ ⟨1616, 4100⟩⟩,
   ⟨["dep", "deprecated"], [], .part ⟨544, 672⟩ ⟨992, 2568⟩⟩,
   ⟨["dia", "diacritic"], [('^', '^'), ('\x60', '\x60')], .part ⟨6784, 12332⟩ ⟨8264, 22004⟩⟩,
   ⟨["emoji"], [('#', '#'), ('*', '*'), ('0', '9')], .part ⟨3280, 7488⟩ ⟨3824, 10124⟩⟩,
   ⟨["ecomp", "emojicomponent"], [('#', '#'), ('*', '*'), ('0', '9')],
     .part ⟨624, 736⟩ ⟨1016, 2656⟩⟩,
   ⟨["emod", "emojimodifier"], [], .part ⟨128, 132⟩ ⟨456, 1200⟩⟩,
   ⟨["ebase", "emojimodifierbase"], [], .part ⟨1120, 2176⟩ ⟨1648, 4368⟩⟩,
   ⟨["epres", "emojipresentation"], [], .part ⟨2392, 4792⟩ ⟨2824, 6828⟩⟩,
   ⟨["extpict", "extendedpictographic"], [], .part ⟨2456, 5008⟩ ⟨2896, 6888⟩⟩,
   ⟨["ext", "extender"], [], .part ⟨1704, 2436⟩ ⟨2432, 6616⟩⟩,
   ⟨["grbase", "graphemebase"], [(' ', '~')], .part ⟨22048, 53920⟩ ⟨21240, 48912⟩⟩,
   ⟨["grext", "graphemeextend"], [], .part ⟨9808, 19468⟩ ⟨11352, 28952⟩⟩,
   ⟨["grlink", "graphemelink"], [], .part ⟨1968, 3904⟩ ⟨2824, 9448⟩⟩,
   ⟨["hex", "hexdigit"], [('0', '9'), ('A', 'F'), ('a', 'f')], .part ⟨144, 204⟩ ⟨520, 1276⟩⟩,
   ⟨["hyphen"], [('-', '-')], .part ⟨592, 740⟩ ⟨1088, 2608⟩⟩,
   ⟨["idsb", "idsbinaryoperator"], [], .part ⟨96, 136⟩ ⟨464, 1204⟩⟩,
   ⟨["idst", "idstrinaryoperator"], [], .part ⟨88, 100⟩ ⟨456, 1168⟩⟩,
   ⟨["idsu", "idsunaryoperator"], [], .part ⟨88, 100⟩ ⟨448, 1132⟩⟩,
   ⟨["idcompatmathcontinue"], [], .part ⟨624, 1032⟩ ⟨1048, 2692⟩⟩,
   ⟨["idcompatmathstart"], [], .part ⟨464, 756⟩ ⟨864, 2276⟩⟩,
   ⟨["idc", "idcontinue"], [('0', '9'), ('A', 'Z'), ('_', '_'), ('a', 'z')],
     .part ⟨19752, 47680⟩ ⟨19112, 44340⟩⟩,
   ⟨["ids", "idstart"], [('A', 'Z'), ('a', 'z')], .part ⟨17960, 41448⟩ ⟨17936, 41812⟩⟩,
   ⟨["ideo", "ideographic"], [], .part ⟨1704, 3680⟩ ⟨1840, 3796⟩⟩,
   ⟨["joinc", "joincontrol"], [], .part ⟨88, 100⟩ ⟨456, 1168⟩⟩,
   ⟨["loe", "logicalorderexception"], [], .part ⟨296, 476⟩ ⟨672, 1888⟩⟩,
   ⟨["lower", "lowercase"], [('a', 'z')], .part ⟨8144, 27884⟩ ⟨8776, 31524⟩⟩,
   ⟨["math"], [('+', '+'), ('<', '>'), ('^', '^'), ('|', '|'), ('~', '~')],
     .part ⟨2928, 6856⟩ ⟨3360, 8796⟩⟩,
   ⟨["mcm", "modifiercombiningmark"], [], .part ⟨232, 452⟩ ⟨584, 1596⟩⟩,
   ⟨["nchar", "noncharactercodepoint"], [], .part ⟨376, 1928⟩ ⟨672, 5288⟩⟩,
   ⟨["oalpha", "otheralphabetic"], [], .part ⟨6776, 13540⟩ ⟨7832, 19640⟩⟩,
   ⟨["odi", "otherdefaultignorablecodepoint"], [], .part ⟨736, 976⟩ ⟨1184, 2904⟩⟩,
   ⟨["ogrext", "othergraphemeextend"], [], .part ⟨1168, 1960⟩ ⟨1656, 5164⟩⟩,
   ⟨["oidc", "otheridcontinue"], [], .part ⟨496, 604⟩ ⟨968, 2332⟩⟩,
   ⟨["oids", "otheridstart"], [], .part ⟨272, 336⟩ ⟨688, 1716⟩⟩,
   ⟨["olower", "otherlowercase"], [], .part ⟨1240, 1912⟩ ⟨1792, 4564⟩⟩,
   ⟨["omath", "othermath"], [('^', '^')], .part ⟨2808, 6632⟩ ⟨3224, 8628⟩⟩,
   ⟨["oupper", "otheruppercase"], [], .part ⟨424, 576⟩ ⟨784, 1948⟩⟩,
   ⟨["patsyn", "patternsyntax"], [('!', '/'), (':', '@'), ('[', '^'), ('\x60', '\x60'),
     ('\x7b', '~')], .part ⟨816, 1548⟩ ⟨1200, 2964⟩⟩,
   ⟨["patws", "patternwhitespace"], [('\x09', '\x0d'), (' ', ' ')], .part ⟨144, 204⟩ ⟨520, 1308⟩⟩,
   ⟨["pcm", "prependedconcatenationmark"], [], .part ⟨456, 572⟩ ⟨816, 2028⟩⟩,
   ⟨["qmark", "quotationmark"], [('"', '"'), ('\'', '\'')], .part ⟨488, 716⟩ ⟨944, 2340⟩⟩,
   ⟨["radical"], [], .part ⟨240, 340⟩ ⟨544, 1268⟩⟩,
   ⟨["ri", "regionalindicator"], [], .part ⟨128, 132⟩ ⟨456, 1200⟩⟩,
   ⟨["sterm", "sentenceterminal"], [('!', '!'), ('.', '.'), ('?', '?')],
     .part ⟨3384, 5176⟩ ⟨4544, 12168⟩⟩,
   ⟨["sd", "softdotted"], [('i', 'j')], .part ⟨1464, 2148⟩ ⟨2104, 5100⟩⟩,
   ⟨["term", "terminalpunctuation"], [('!', '!'), (',', ','), ('.', '.'), (':', ';'), ('?', '?')],
     .part ⟨4272, 6720⟩ ⟨5576, 14764⟩⟩,
   ⟨["uideo", "unifiedideograph"], [], .part ⟨1080, 2540⟩ ⟨1216, 2656⟩⟩,
   ⟨["upper", "uppercase"], [('A', 'Z')], .part ⟨7664, 26696⟩ ⟨8328, 30268⟩⟩,
   ⟨["vs", "variationselector"], [], .part ⟨360, 436⟩ ⟨728, 1876⟩⟩,
   .blank,
   ⟨["xidc", "xidcontinue"], [('0', '9'), ('A', 'Z'), ('_', '_'), ('a', 'z')],
     .part ⟨19864, 48004⟩ ⟨19208, 44752⟩⟩,
   ⟨["xids", "xidstart"], [('A', 'Z'), ('a', 'z')], .part ⟨18112, 41900⟩ ⟨18072, 42128⟩⟩]

end RouteFeed
