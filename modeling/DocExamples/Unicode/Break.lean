/-
# Breaks between characters

The values of the properties that tell where graphemes, words and sentences end.
-/

import DocExamples.Unicode.NamedSet

namespace DocExamples
namespace Unicode

/-- The edges of the Hangul syllables, of which every twenty-eighth has no final consonant:
those from `first` places to before `past` places after such a syllable. -/
def syllableEdges (first past : Nat) : List Nat :=
  (List.range 399).flatMap fun k => [0xAC00 + 28 * k + first, 0xAC00 + 28 * k + past]

/-- The values of the property `Grapheme_Cluster_Break`. -/
def graphemeBreaks : List NamedSet := [
  { names := ["cr"],
    toggled := [13, 14] },
  { names := ["control", "cn"],
    categories := [.zl, .zp, .cc],
    toggled := [
      10, 11, 13, 14, 173, 174, 1564, 1565, 6158, 6159, 8203, 8204, 8206, 8208, 8234, 8239, 8288,
      8304, 65279, 65280, 65520, 65532, 78896, 78912, 113824, 113828, 119155, 119163, 917504,
      917536, 917632, 917760, 918000, 921600] },
  { names := ["extend", "ex"],
    categories := [.mn, .me],
    toggled := [
      2494, 2495, 2519, 2520, 2878, 2879, 2903, 2904, 3006, 3007, 3031, 3032, 3264, 3265, 3266,
      3267, 3271, 3273, 3274, 3276, 3285, 3287, 3390, 3391, 3415, 3416, 3535, 3536, 3551, 3552,
      5909, 5910, 5940, 5941, 6965, 6966, 6971, 6972, 6973, 6974, 6979, 6981, 7082, 7083, 7154,
      7156, 8204, 8205, 12334, 12336, 43347, 43348, 43456, 43457, 65438, 65440, 70080, 70081,
      70197, 70198, 70462, 70463, 70477, 70478, 70487, 70488, 70584, 70585, 70594, 70595, 70597,
      70598, 70599, 70602, 70607, 70608, 70832, 70833, 70845, 70846, 71087, 71088, 71350, 71351,
      71984, 71985, 71997, 71998, 73537, 73538, 94192, 94194, 119141, 119143, 119149, 119155,
      127995, 128000, 917536, 917632] },
  { names := ["l"],
    toggled := [4352, 4448, 43360, 43389] },
  { names := ["lf"],
    toggled := [10, 11] },
  { names := ["lv"], toggled := syllableEdges 0 1 },
  { names := ["lvt"], toggled := syllableEdges 1 28 },
  { names := ["prepend", "pp"],
    toggled := [
      1536, 1542, 1757, 1758, 1807, 1808, 2192, 2194, 2274, 2275, 3406, 3407, 69821, 69822,
      69837, 69838, 70082, 70084, 70609, 70610, 71999, 72000, 72001, 72002, 72250, 72251, 72324,
      72330, 73030, 73031, 73474, 73475] },
  { names := ["regionalindicator", "ri"],
    toggled := [127462, 127488] },
  { names := ["spacingmark", "sm"],
    categories := [.mc],
    toggled := [
      2494, 2495, 2519, 2520, 2878, 2879, 2903, 2904, 3006, 3007, 3031, 3032, 3264, 3265, 3266,
      3267, 3271, 3273, 3274, 3276, 3285, 3287, 3390, 3391, 3415, 3416, 3535, 3536, 3551, 3552,
      3635, 3636, 3763, 3764, 4139, 4141, 4152, 4153, 4194, 4197, 4199, 4206, 4227, 4228, 4231,
      4237, 4239, 4240, 4250, 4253, 5909, 5910, 5940, 5941, 6753, 6754, 6755, 6757, 6965, 6966,
      6971, 6972, 6973, 6974, 6979, 6981, 7082, 7083, 7154, 7156, 12334, 12336, 43347, 43348,
      43456, 43457, 43643, 43644, 43645, 43646, 70080, 70081, 70197, 70198, 70462, 70463, 70477,
      70478, 70487, 70488, 70584, 70585, 70594, 70595, 70597, 70598, 70599, 70602, 70607, 70608,
      70832, 70833, 70845, 70846, 71087, 71088, 71350, 71351, 71456, 71458, 71984, 71985, 71997,
      71998, 73537, 73538, 94192, 94194, 119141, 119143, 119149, 119155] },
  { names := ["t"],
    toggled := [4520, 4608, 55243, 55292] },
  { names := ["v"],
    toggled := [4448, 4520, 55216, 55239, 93539, 93540, 93543, 93547] },
  { names := ["zwj"],
    toggled := [8205, 8206] }]

/-- The values of the property `Word_Break`. -/
def wordBreaks : List NamedSet := [
  { names := ["aletter", "le"],
    categories := [.lm, .lo, .nl],
    toggled := [
      65, 91, 97, 123, 181, 182, 192, 215, 216, 247, 248, 443, 444, 448, 452, 660, 661, 688, 706,
      710, 722, 728, 734, 736, 741, 748, 749, 750, 751, 768, 880, 884, 886, 888, 891, 894, 895,
      896, 902, 903, 904, 907, 908, 909, 910, 930, 931, 1014, 1015, 1154, 1162, 1328, 1329, 1367,
      1370, 1373, 1374, 1375, 1376, 1417, 1418, 1419, 1488, 1515, 1519, 1524, 1807, 1808, 3585,
      3633, 3634, 3636, 3648, 3655, 3713, 3715, 3716, 3717, 3718, 3723, 3724, 3748, 3749, 3750,
      3751, 3761, 3762, 3764, 3773, 3774, 3776, 3781, 3782, 3783, 3804, 3808, 4096, 4139, 4159,
      4160, 4176, 4182, 4186, 4190, 4193, 4194, 4197, 4199, 4206, 4209, 4213, 4226, 4238, 4239,
      4256, 4294, 4295, 4296, 4301, 4302, 4304, 4347, 4349, 4352, 5024, 5110, 5112, 5118, 6016,
      6068, 6103, 6104, 6108, 6109, 6480, 6510, 6512, 6517, 6528, 6572, 6576, 6602, 6688, 6741,
      6823, 6824, 7296, 7307, 7312, 7355, 7357, 7360, 7424, 7468, 7531, 7544, 7545, 7579, 7680,
      7958, 7960, 7966, 7968, 8006, 8008, 8014, 8016, 8024, 8025, 8026, 8027, 8028, 8029, 8030,
      8031, 8062, 8064, 8117, 8118, 8125, 8126, 8127, 8130, 8133, 8134, 8141, 8144, 8148, 8150,
      8156, 8160, 8173, 8178, 8181, 8182, 8189, 8450, 8451, 8455, 8456, 8458, 8468, 8469, 8470,
      8473, 8478, 8484, 8485, 8486, 8487, 8488, 8489, 8490, 8494, 8495, 8501, 8505, 8506, 8508,
      8512, 8517, 8522, 8526, 8527, 8579, 8581, 9398, 9450, 11264, 11388, 11390, 11493, 11499,
      11503, 11506, 11508, 11520, 11558, 11559, 11560, 11565, 11566, 12294, 12296, 12321, 12330,
      12337, 12342, 12344, 12347, 12353, 12439, 12445, 12448, 12449, 12539, 12540, 12544, 12784,
      12800, 13312, 19904, 19968, 40960, 42560, 42606, 42624, 42652, 42760, 42775, 42784, 42864,
      42865, 42888, 42889, 42895, 42896, 42958, 42960, 42962, 42963, 42964, 42965, 42973, 42997,
      42999, 43002, 43003, 43488, 43493, 43494, 43504, 43514, 43519, 43616, 43639, 43642, 43643,
      43646, 43696, 43697, 43698, 43701, 43703, 43705, 43710, 43712, 43713, 43714, 43715, 43739,
      43742, 43824, 43868, 43872, 43881, 43888, 43968, 63744, 64110, 64112, 64218, 64256, 64263,
      64275, 64280, 64285, 64286, 64287, 64297, 64298, 64311, 64312, 64317, 64318, 64319, 64320,
      64322, 64323, 64325, 64326, 64336, 65313, 65339, 65345, 65371, 65382, 65440, 66560, 66640,
      66736, 66772, 66776, 66812, 66928, 66939, 66940, 66955, 66956, 66963, 66964, 66966, 66967,
      66978, 66979, 66994, 66995, 67002, 67003, 67005, 68736, 68787, 68800, 68851, 68944, 68966,
      68976, 68998, 71424, 71451, 71488, 71495, 71840, 71904, 93760, 93824, 94208, 100344,
      100352, 101590, 101631, 101641, 110576, 110580, 110581, 110588, 110589, 110591, 110592,
      110883, 110898, 110899, 110928, 110931, 110933, 110934, 110948, 110952, 110960, 111356,
      119808, 119893, 119894, 119965, 119966, 119968, 119970, 119971, 119973, 119975, 119977,
      119981, 119982, 119994, 119995, 119996, 119997, 120004, 120005, 120070, 120071, 120075,
      120077, 120085, 120086, 120093, 120094, 120122, 120123, 120127, 120128, 120133, 120134,
      120135, 120138, 120145, 120146, 120486, 120488, 120513, 120514, 120539, 120540, 120571,
      120572, 120597, 120598, 120629, 120630, 120655, 120656, 120687, 120688, 120713, 120714,
      120745, 120746, 120771, 120772, 120780, 122624, 122634, 122635, 122655, 122661, 122667,
      125184, 125252, 127280, 127306, 127312, 127338, 127344, 127370, 131072, 173792, 173824,
      177978, 177984, 178206, 178208, 183970, 183984, 191457, 191472, 192094, 194560, 195102,
      196608, 201547, 201552, 205744] },
  { names := ["cr"],
    toggled := [13, 14] },
  { names := ["doublequote", "dq"],
    toggled := [34, 35] },
  { names := ["extend"],
    categories := [.mn, .mc, .me],
    toggled := [8204, 8205, 65438, 65440, 127995, 128000, 917536, 917632] },
  { names := ["extendnumlet", "ex"],
    categories := [.pc],
    toggled := [8239, 8240] },
  { names := ["format", "fo"],
    toggled := [
      173, 174, 1564, 1565, 6158, 6159, 8206, 8208, 8234, 8239, 8288, 8293, 8294, 8304, 65279,
      65280, 65529, 65532, 78896, 78912, 113824, 113828, 119155, 119163, 917505, 917506] },
  { names := ["hebrewletter", "hl"],
    toggled := [
      1488, 1515, 1519, 1523, 64285, 64286, 64287, 64297, 64298, 64311, 64312, 64317, 64318,
      64319, 64320, 64322, 64323, 64325, 64326, 64336] },
  { names := ["katakana", "ka"],
    toggled := [
      12337, 12342, 12443, 12445, 12448, 12539, 12540, 12544, 12784, 12800, 13008, 13055, 13056,
      13144, 65382, 65438, 110576, 110580, 110581, 110588, 110589, 110591, 110592, 110593,
      110880, 110883, 110933, 110934, 110948, 110952] },
  { names := ["lf"],
    toggled := [10, 11] },
  { names := ["midletter", "ml"],
    toggled := [
      58, 59, 183, 184, 903, 904, 1375, 1376, 1524, 1525, 8231, 8232, 65043, 65044, 65109, 65110,
      65306, 65307] },
  { names := ["midnum", "mn"],
    toggled := [
      44, 45, 59, 60, 894, 895, 1417, 1418, 1548, 1550, 1644, 1645, 2040, 2041, 8260, 8261,
      65104, 65105, 65108, 65109, 65292, 65293, 65307, 65308] },
  { names := ["midnumlet", "mb"],
    toggled := [46, 47, 8216, 8218, 8228, 8229, 65106, 65107, 65287, 65288, 65294, 65295] },
  { names := ["newline", "nl"],
    categories := [.zl, .zp],
    toggled := [11, 13, 133, 134] },
  { names := ["numeric", "nu"],
    categories := [.nd],
    toggled := [
      1536, 1542, 1643, 1644, 1757, 1758, 2192, 2194, 2274, 2275, 6618, 6619, 69821, 69822,
      69837, 69838] },
  { names := ["regionalindicator", "ri"],
    toggled := [127462, 127488] },
  { names := ["singlequote", "sq"],
    toggled := [39, 40] },
  { names := ["wsegspace"],
    categories := [.zs],
    toggled := [160, 161, 8199, 8200, 8239, 8240] },
  { names := ["zwj"],
    toggled := [8205, 8206] }]

/-- The values of the property `Sentence_Break`. -/
def sentenceBreaks : List NamedSet := [
  { names := ["aterm", "at"],
    toggled := [46, 47, 8228, 8229, 65106, 65107, 65294, 65295] },
  { names := ["cr"],
    toggled := [13, 14] },
  { names := ["close", "cl"],
    categories := [.ps, .pe, .pi, .pf],
    toggled := [
      34, 35, 39, 40, 10075, 10081, 11776, 11778, 11782, 11785, 11787, 11788, 128630, 128633] },
  { names := ["extend", "ex"],
    categories := [.mn, .mc, .me],
    toggled := [8204, 8206, 65438, 65440, 917536, 917632] },
  { names := ["format", "fo"],
    categories := [.cf],
    toggled := [
      1536, 1542, 1757, 1758, 2192, 2194, 2274, 2275, 8204, 8206, 69821, 69822, 69837, 69838,
      917536, 917632] },
  { names := ["lf"],
    toggled := [10, 11] },
  { names := ["lower", "lo"],
    categories := [.ll],
    toggled := [
      170, 171, 186, 187, 688, 697, 704, 706, 736, 741, 890, 891, 4304, 4347, 4348, 4352, 7468,
      7531, 7544, 7545, 7579, 7616, 8305, 8306, 8319, 8320, 8336, 8349, 8560, 8576, 9424, 9450,
      11388, 11390, 42652, 42654, 42864, 42865, 42994, 42997, 43000, 43002, 43868, 43872, 43881,
      43882, 67456, 67457, 67459, 67462, 67463, 67505, 67506, 67515, 122928, 122990] },
  { names := ["numeric", "nu"],
    categories := [.nd],
    toggled := [
      1536, 1542, 1643, 1645, 1757, 1758, 2192, 2194, 2274, 2275, 6618, 6619, 69821, 69822,
      69837, 69838] },
  { names := ["oletter", "le"],
    categories := [.lm, .lo, .nl],
    toggled := [
      170, 171, 186, 187, 688, 697, 704, 706, 736, 741, 890, 891, 1523, 1524, 4304, 4347, 4348,
      4352, 7312, 7355, 7357, 7360, 7468, 7531, 7544, 7545, 7579, 7616, 8305, 8306, 8319, 8320,
      8336, 8349, 8544, 8576, 11388, 11390, 42652, 42654, 42864, 42865, 42994, 42997, 43000,
      43002, 43868, 43872, 43881, 43882, 65438, 65440, 67456, 67457, 67459, 67462, 67463, 67505,
      67506, 67515, 122928, 122990] },
  { names := ["scontinue", "sc"],
    toggled := [
      44, 46, 58, 60, 894, 895, 1373, 1374, 1548, 1550, 2040, 2041, 6146, 6147, 6152, 6153, 8211,
      8213, 12289, 12290, 65040, 65042, 65043, 65045, 65073, 65075, 65104, 65106, 65108, 65110,
      65112, 65113, 65123, 65124, 65292, 65294, 65306, 65308, 65380, 65381] },
  { names := ["sterm", "st"],
    toggled := [
      33, 34, 63, 64, 1417, 1418, 1565, 1568, 1748, 1749, 1792, 1795, 2041, 2042, 2103, 2104,
      2105, 2106, 2109, 2111, 2404, 2406, 4170, 4172, 4962, 4963, 4967, 4969, 5742, 5743, 5941,
      5943, 6100, 6102, 6147, 6148, 6153, 6154, 6468, 6470, 6824, 6828, 6990, 6992, 7002, 7004,
      7006, 7008, 7037, 7040, 7227, 7229, 7294, 7296, 8252, 8254, 8263, 8266, 11513, 11516,
      11822, 11823, 11836, 11837, 11859, 11861, 12290, 12291, 42239, 42240, 42510, 42512, 42739,
      42740, 42743, 42744, 43126, 43128, 43214, 43216, 43311, 43312, 43464, 43466, 43613, 43616,
      43760, 43762, 44011, 44012, 65042, 65043, 65045, 65047, 65110, 65112, 65281, 65282, 65311,
      65312, 65377, 65378, 68182, 68184, 69461, 69466, 69510, 69514, 69703, 69705, 69822, 69826,
      69953, 69956, 70085, 70087, 70093, 70094, 70110, 70112, 70200, 70202, 70203, 70205, 70313,
      70314, 70612, 70614, 70731, 70733, 71106, 71108, 71113, 71128, 71233, 71235, 71484, 71487,
      72004, 72005, 72006, 72007, 72258, 72260, 72347, 72349, 72769, 72771, 73463, 73465, 73539,
      73541, 92782, 92784, 92917, 92918, 92983, 92985, 92996, 92997, 93550, 93552, 93848, 93849,
      113823, 113824, 121480, 121481] },
  { names := ["sep", "se"],
    categories := [.zl, .zp],
    toggled := [133, 134] },
  { names := ["sp"],
    categories := [.zs],
    toggled := [9, 10, 11, 13] },
  { names := ["upper", "up"],
    categories := [.lu, .lt],
    toggled := [
      7312, 7355, 7357, 7360, 8544, 8560, 9398, 9424, 127280, 127306, 127312, 127338, 127344,
      127370] }]

end Unicode
end DocExamples
