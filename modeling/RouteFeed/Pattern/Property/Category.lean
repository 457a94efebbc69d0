import RouteFeed.Pattern.Property.Basic

/-!
# General categories

Every character belongs to one of some thirty categories, which Unicode groups into larger ones.
Surrogates are no characters, so their category is not among them.

## Main definitions

* `generalCategories` — the categories and the groups of them
-/

namespace RouteFeed

/-- The general categories and their groups. -/
def generalCategories : List Property :=
  [⟨["l", "letter"], [('A', 'Z'), ('a', 'z')], .part ⟨17936, 41280⟩ ⟨18024, 41752⟩⟩,
   ⟨["lc", "casedletter"], [('A', 'Z'), ('a', 'z')], .part ⟨4200, 9268⟩ ⟨4496, 10912⟩⟩,
   ⟨["lu", "uppercaseletter"], [('A', 'Z')], .part ⟨7400, 26216⟩ ⟨8048, 29620⟩⟩,
   ⟨["ll", "lowercaseletter"], [('a', 'z')], .part ⟨7920, 27224⟩ ⟨8528, 30788⟩⟩,
   ⟨["lt", "titlecaseletter"], [], .part ⟨240, 488⟩ ⟨624, 1596⟩⟩,
   ⟨["lm", "modifierletter"], [], .part ⟨2912, 4712⟩ ⟨3832, 10244⟩⟩,
   ⟨["lo", "otherletter"], [], .part ⟨14664, 32924⟩ ⟨15128, 35508⟩⟩,
   ⟨["m", "mark", "combiningmark"], [], .part ⟨9344, 18140⟩ ⟨10656, 26464⟩⟩,
   ⟨["mn", "nonspacingmark"], [], .part ⟨9536, 18692⟩ ⟨11064, 28168⟩⟩,
   ⟨["mc", "spacingmark"], [], .part ⟨4760, 9860⟩ ⟨5728, 15372⟩⟩,
   ⟨["me", "enclosingmark"], [], .part ⟨320, 404⟩ ⟨760, 1988⟩⟩,
   ⟨["n", "number"], [('0', '9')], .part ⟨4640, 9172⟩ ⟨5976, 19200⟩⟩,
   .decimal,
   ⟨["nl", "letternumber"], [], .part ⟨792, 1048⟩ ⟨1208, 3076⟩⟩,
   ⟨["no", "othernumber"], [], .part ⟨3520, 5036⟩ ⟨4520, 10940⟩⟩,
   ⟨["p", "punctuation", "punct"], [('!', '#'), ('%', '*'), (',', '/'), (':', ';'), ('?', '@'),
     ('[', ']'), ('_', '_'), ('\x7b', '\x7b'), ('\x7d', '\x7d')],
     .part ⟨6456, 11084⟩ ⟨8112, 21544⟩⟩,
   ⟨["pc", "connectorpunctuation"], [('_', '_')], .part ⟨288, 440⟩ ⟨688, 1748⟩⟩,
   ⟨["pd", "dashpunctuation"], [('-', '-')], .part ⟨864, 1224⟩ ⟨1352, 3300⟩⟩,
   ⟨["ps", "openpunctuation"], [('(', '('), ('[', '['), ('\x7b', '\x7b')],
     .part ⟨1528, 3472⟩ ⟨2072, 5832⟩⟩,
   ⟨["pe", "closepunctuation"], [(')', ')'), (']', ']'), ('\x7d', '\x7d')],
     .part ⟨1464, 3332⟩ ⟨2016, 5760⟩⟩,
   ⟨["pi", "initialpunctuation"], [], .part ⟨248, 524⟩ ⟨640, 1732⟩⟩,
   ⟨["pf", "finalpunctuation"], [], .part ⟨240, 488⟩ ⟨632, 1696⟩⟩,
   ⟨["po", "otherpunctuation"], [('!', '#'), ('%', '\''), ('*', '*'), (',', ','), ('.', '/'),
     (':', ';'), ('?', '@'), ('\\', '\\')], .part ⟨6008, 10516⟩ ⟨7592, 20460⟩⟩,
   ⟨["s", "symbol"], [('$', '$'), ('+', '+'), ('<', '>'), ('^', '^'), ('\x60', '\x60'), ('|', '|'),
     ('~', '~')], .part ⟨7728, 15100⟩ ⟨8624, 20752⟩⟩,
   ⟨["sm", "mathsymbol"], [('+', '+'), ('<', '>'), ('|', '|'), ('~', '~')],
     .part ⟨2080, 3652⟩ ⟨2648, 6428⟩⟩,
   ⟨["sc", "currencysymbol"], [('$', '$')], .part ⟨1208, 1620⟩ ⟨1768, 4584⟩⟩,
   ⟨["sk", "modifiersymbol"], [('^', '^'), ('\x60', '\x60')], .part ⟨1208, 1916⟩ ⟨1688, 4328⟩⟩,
   ⟨["so", "othersymbol"], [], .part ⟨6536, 12684⟩ ⟨7184, 16672⟩⟩,
   ⟨["z", "separator"], [(' ', ' ')], .part ⟨336, 508⟩ ⟨728, 1716⟩⟩,
   ⟨["zs", "spaceseparator"], [(' ', ' ')], .part ⟨328, 472⟩ ⟨720, 1680⟩⟩,
   ⟨["zl", "lineseparator"], [], .part ⟨88, 100⟩ ⟨456, 1168⟩⟩,
   ⟨["zp", "paragraphseparator"], [], .part ⟨88, 100⟩ ⟨456, 1168⟩⟩,
   ⟨["c", "other"], [('\x00', '\x1f'), ('\x7f', '\x7f')], .part ⟨18640, 41868⟩ ⟨19832, 48912⟩⟩,
   ⟨["cc", "control", "cntrl"], [('\x00', '\x1f'), ('\x7f', '\x7f')], .part ⟨48, 68⟩ ⟨392, 932⟩⟩,
   ⟨["cf", "format"], [], .part ⟨1336, 1720⟩ ⟨1840, 4676⟩⟩,
   ⟨["co", "privateuse"], [], .part ⟨336, 800⟩ ⟨520, 1096⟩⟩,
   ⟨["cn", "unassigned"], [], .part ⟨18368, 41064⟩ ⟨19640, 49000⟩⟩,
   ⟨["any"], [('\x00', '\x7f')], .every⟩,
   ⟨["assigned"], [('\x00', '\x7f')], .part ⟨19640, 49000⟩ ⟨18368, 41064⟩⟩,
   ⟨["ascii"], [('\x00', '\x7f')], .none⟩]

end RouteFeed
