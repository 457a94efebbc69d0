import RouteFeed.Pattern.Property.Basic

/-!
# Ages

The age of a character is the version of Unicode that introduced it. Here an age stands for all
characters that the version has, those of earlier versions included.

## Main definitions

* `ages` — the versions
-/

namespace RouteFeed

/-- The versions of Unicode. -/
def ages : List Property :=
  [⟨["v11", "1.1"], [('\x00', '\x7f')], .part ⟨6960, 16876⟩ ⟨6920, 16264⟩⟩,
   ⟨["v20", "2.0"], [('\x00', '\x7f')], .part ⟨7624, 19496⟩ ⟨7392, 20268⟩⟩,
   ⟨["v21", "2.1"], [('\x00', '\x7f')], .part ⟨7624, 19496⟩ ⟨7392, 20268⟩⟩,
   ⟨["v30", "3.0"], [('\x00', '\x7f')], .part ⟨8976, 23380⟩ ⟨8600, 22956⟩⟩,
   ⟨["v31", "3.1"], [('\x00', '\x7f')], .part ⟨10144, 26208⟩ ⟨9704, 25460⟩⟩,
   ⟨["v32", "3.2"], [('\x00', '\x7f')], .part ⟨10192, 26100⟩ ⟨9656, 24840⟩⟩,
   ⟨["v40", "4.0"], [('\x00', '\x7f')], .part ⟨10536, 27000⟩ ⟨10048, 25876⟩⟩,
   ⟨["v41", "4.1"], [('\x00', '\x7f')], .part ⟨11256, 28724⟩ ⟨10648, 26800⟩⟩,
   ⟨["v50", "5.0"], [('\x00', '\x7f')], .part ⟨11648, 29384⟩ ⟨11032, 27620⟩⟩,
   ⟨["v51", "5.1"], [('\x00', '\x7f')], .part ⟨12240, 30924⟩ ⟨11528, 28304⟩⟩,
   ⟨["v52", "5.2"], [('\x00', '\x7f')], .part ⟨13080, 33360⟩ ⟨12336, 30420⟩⟩,
   ⟨["v60", "6.0"], [('\x00', '\x7f')], .part ⟨13880, 35304⟩ ⟨13080, 32176⟩⟩,
   ⟨["v61", "6.1"], [('\x00', '\x7f')], .part ⟨14648, 37292⟩ ⟨13864, 33948⟩⟩,
   ⟨["v62", "6.2"], [('\x00', '\x7f')], .part ⟨14648, 37292⟩ ⟨13864, 33948⟩⟩,
   ⟨["v63", "6.3"], [('\x00', '\x7f')], .part ⟨14648, 37292⟩ ⟨13864, 33948⟩⟩,
   ⟨["v70", "7.0"], [('\x00', '\x7f')], .part ⟨16272, 41576⟩ ⟨15304, 37608⟩⟩,
   ⟨["v80", "8.0"], [('\x00', '\x7f')], .part ⟨16864, 42708⟩ ⟨15872, 38240⟩⟩,
   ⟨["v90", "9.0"], [('\x00', '\x7f')], .part ⟨17440, 44244⟩ ⟨16392, 39364⟩⟩,
   ⟨["v100", "10.0"], [('\x00', '\x7f')], .part ⟨17888, 45512⟩ ⟨16728, 39844⟩⟩,
   ⟨["v110", "11.0"], [('\x00', '\x7f')], .part ⟨18416, 46544⟩ ⟨17208, 41136⟩⟩,
   ⟨["v120", "12.0"], [('\x00', '\x7f')], .part ⟨18696, 47408⟩ ⟨17496, 42044⟩⟩,
   ⟨["v121", "12.1"], [('\x00', '\x7f')], .part ⟨18680, 47336⟩ ⟨17488, 41976⟩⟩,
   ⟨["v130", "13.0"], [('\x00', '\x7f')], .part ⟨19152, 48272⟩ ⟨17968, 42336⟩⟩,
   ⟨["v140", "14.0"], [('\x00', '\x7f')], .part ⟨19352, 49124⟩ ⟨18112, 43228⟩⟩,
   ⟨["v150", "15.0"], [('\x00', '\x7f')], .part ⟨19736, 50188⟩ ⟨18424, 43904⟩⟩,
   ⟨["v151", "15.1"], [('\x00', '\x7f')], .part ⟨19736, 50188⟩ ⟨18424, 43904⟩⟩,
   ⟨["v160", "16.0"], [('\x00', '\x7f')], .part ⟨19736, 50188⟩ ⟨18424, 43904⟩⟩]

end RouteFeed
