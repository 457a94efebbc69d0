import RouteFeed.Pattern.Property.Basic

/-!
# Breaks

Unicode divides texts into units that readers take for one character, into words and into sentences.
Each of the three divisions puts the characters into classes of its own.

## Main definitions

* `graphemeBreaks`, `wordBreaks`, `sentenceBreaks` — the classes of the three divisions
-/

namespace RouteFeed

/-- The classes of characters for the division into units. -/
def graphemeBreaks : List Property :=
  [⟨["cn", "control"], [('\x00', '\x09'), ('\x0b', '\x0c'), ('\x0e', '\x1f'), ('\x7f', '\x7f')],
     .part ⟨976, 1348⟩ ⟨1432, 3748⟩⟩,
   ⟨["cr"], [('\x0d', '\x0d')], .none⟩,
   ⟨["ex", "extend"], [], .part ⟨9896, 19568⟩ ⟨11456, 29188⟩⟩,
   ⟨["l"], [], .part ⟨224, 268⟩ ⟨568, 1472⟩⟩,
   ⟨["lf"], [('\x0a', '\x0a')], .none⟩,
   ⟨["lv"], [], .part ⟨1952, 20092⟩ ⟨2320, 26392⟩⟩,
   ⟨["lvt"], [], .part ⟨2008, 25588⟩ ⟨2272, 21028⟩⟩,
   ⟨["pp", "prepend"], [], .part ⟨840, 1116⟩ ⟨1312, 3300⟩⟩,
   ⟨["ri", "regionalindicator"], [], .part ⟨128, 132⟩ ⟨456, 1200⟩⟩,
   ⟨["sm", "spacingmark"], [], .part ⟨4600, 9280⟩ ⟨5560, 14696⟩⟩,
   ⟨["t"], [], .part ⟨224, 268⟩ ⟨504, 1204⟩⟩,
   ⟨["v"], [], .part ⟨272, 336⟩ ⟨592, 1304⟩⟩,
   ⟨["zwj"], [], .part ⟨88, 100⟩ ⟨456, 1168⟩⟩]

/-- The classes of characters for the division into words. -/
def wordBreaks : List Property :=
  [⟨["cr"], [('\x0d', '\x0d')], .none⟩,
   ⟨["dq", "doublequote"], [('"', '"')], .none⟩,
   ⟨["ex", "extendnumlet"], [('_', '_')], .part ⟨336, 476⟩ ⟨736, 1784⟩⟩,
   ⟨["extend"], [], .part ⟨9504, 18480⟩ ⟨10840, 26948⟩⟩,
   ⟨["fo", "format"], [], .part ⟨1280, 1616⟩ ⟨1840, 4676⟩⟩,
   ⟨["hl", "hebrewletter"], [], .part ⟨240, 488⟩ ⟨624, 1628⟩⟩,
   ⟨["ka", "katakana"], [], .part ⟨864, 1224⟩ ⟨1240, 2944⟩⟩,
   ⟨["le", "aletter"], [('A', 'Z'), ('a', 'z')], .part ⟨15624, 35000⟩ ⟨15968, 37716⟩⟩,
   ⟨["lf"], [('\x0a', '\x0a')], .none⟩,
   ⟨["mb", "midnumlet"], [('.', '.')], .part ⟨240, 340⟩ ⟨648, 1684⟩⟩,
   ⟨["ml", "midletter"], [(':', ':')], .part ⟨464, 608⟩ ⟨936, 2336⟩⟩,
   ⟨["mn", "midnum"], [(',', ','), (';', ';')], .part ⟨488, 784⟩ ⟨968, 2616⟩⟩,
   ⟨["nl", "newline"], [('\x0b', '\x0c')], .part ⟨136, 168⟩ ⟨512, 1272⟩⟩,
   ⟨["nu", "numeric"], [('0', '9')], .part ⟨1384, 4576⟩ ⟨2208, 11588⟩⟩,
   ⟨["ri", "regionalindicator"], [], .part ⟨128, 132⟩ ⟨456, 1200⟩⟩,
   ⟨["sq", "singlequote"], [('\'', '\'')], .none⟩,
   ⟨["wsegspace"], [(' ', ' ')], .part ⟨280, 404⟩ ⟨664, 1576⟩⟩,
   ⟨["zwj"], [], .part ⟨88, 100⟩ ⟨456, 1168⟩⟩]

/-- The classes of characters for the division into sentences. -/
def sentenceBreaks : List Property :=
  [⟨["at", "aterm"], [('.', '.')], .part ⟨224, 268⟩ ⟨632, 1612⟩⟩,
   ⟨["cl", "close"], [('"', '"'), ('\'', ')'), ('[', '['), (']', ']'), ('\x7b', '\x7b'),
     ('\x7d', '\x7d')], .part ⟨1400, 2304⟩ ⟨1928, 4868⟩⟩,
   ⟨["cr"], [('\x0d', '\x0d')], .none⟩,
   ⟨["ex", "extend"], [], .part ⟨9416, 18380⟩ ⟨10736, 26712⟩⟩,
   ⟨["fo", "format"], [], .part ⟨1288, 1652⟩ ⟨1848, 4712⟩⟩,
   ⟨["le", "oletter"], [], .part ⟨15464, 34536⟩ ⟨15912, 37732⟩⟩,
   ⟨["lf"], [('\x0a', '\x0a')], .none⟩,
   ⟨["lo", "lower"], [('a', 'z')], .part ⟨8128, 27812⟩ ⟨8768, 31488⟩⟩,
   ⟨["nu", "numeric"], [('0', '9')], .part ⟨1384, 4576⟩ ⟨2208, 11588⟩⟩,
   ⟨["sc", "scontinue"], [(',', '-'), (':', ':')], .part ⟨696, 1060⟩ ⟨1192, 2896⟩⟩,
   ⟨["se", "sep"], [], .part ⟨136, 168⟩ ⟨512, 1272⟩⟩,
   ⟨["sp"], [('\x09', '\x09'), ('\x0b', '\x0c'), (' ', ' ')], .part ⟨328, 472⟩ ⟨720, 1680⟩⟩,
   ⟨["st", "sterm"], [('!', '!'), ('?', '?')], .part ⟨3328, 5104⟩ ⟨4480, 12192⟩⟩,
   ⟨["up", "upper"], [('A', 'Z')], .part ⟨7632, 26700⟩ ⟨8288, 30236⟩⟩]

end RouteFeed
