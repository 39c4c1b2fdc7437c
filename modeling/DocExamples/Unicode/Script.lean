/-
# Scripts

A character belongs to one script, and is shared by all those of its script extensions. The table
gives the characters of a script and, where the two differ, what belongs to exactly one of
the script and its extension.
-/

import DocExamples.Unicode.NamedSet

namespace DocExamples
namespace Unicode

/-- A script. -/
structure Script extends NamedSet where
  /-- The edges of what is only in the script or only in its extension. -/
  shared : List Nat := []

/-- The characters that occur in texts of the script. -/
def Script.extension (s : Script) : CharSet := s.set.symmDiff ⟨s.shared⟩

/-- The scripts, part 1 of 4. -/
def scripts1 : List Script := [
  { names := ["adlam", "adlm"],
    toggled := [
      125184, 125260, 125264, 125274, 125278, 125280],
    shared := [
      1567, 1568, 1600, 1601, 8271, 8272, 11841, 11842] },
  { names := ["ahom"],
    toggled := [
      71424, 71451, 71453, 71468, 71472, 71495] },
  { names := ["anatolianhieroglyphs", "hluw"],
    toggled := [
      82944, 83527] },
  { names := ["arabic", "arab"],
    toggled := [
      1536, 1541, 1542, 1548, 1549, 1563, 1564, 1567, 1568, 1600, 1601, 1611, 1622, 1648, 1649,
      1757, 1758, 1792, 1872, 1920, 2160, 2191, 2192, 2194, 2199, 2274, 2275, 2304, 64336, 64451,
      64467, 64830, 64832, 64912, 64914, 64968, 64975, 64976, 65008, 65024, 65136, 65141, 65142,
      65277, 69216, 69247, 69314, 69317, 69372, 69376, 126464, 126468, 126469, 126496, 126497,
      126499, 126500, 126501, 126503, 126504, 126505, 126515, 126516, 126520, 126521, 126522,
      126523, 126524, 126530, 126531, 126535, 126536, 126537, 126538, 126539, 126540, 126541,
      126544, 126545, 126547, 126548, 126549, 126551, 126552, 126553, 126554, 126555, 126556,
      126557, 126558, 126559, 126560, 126561, 126563, 126564, 126565, 126567, 126571, 126572,
      126579, 126580, 126584, 126585, 126589, 126590, 126591, 126592, 126602, 126603, 126620,
      126625, 126628, 126629, 126634, 126635, 126652, 126704, 126706],
    shared := [
      1548, 1549, 1563, 1564, 1567, 1568, 1600, 1601, 1611, 1622, 1648, 1649, 8271, 8272, 11841,
      11842, 64830, 64832, 66272, 66300] },
  { names := ["armenian", "armn"],
    toggled := [
      1329, 1367, 1369, 1419, 1421, 1424, 64275, 64280],
    shared := [
      776, 777] },
  { names := ["avestan", "avst"],
    toggled := [
      68352, 68406, 68409, 68416],
    shared := [
      183, 184, 11824, 11826] },
  { names := ["balinese", "bali"],
    toggled := [
      6912, 6989, 6990, 7040] },
  { names := ["bamum", "bamu"],
    toggled := [
      42656, 42744, 92160, 92729] },
  { names := ["bassavah", "bass"],
    toggled := [
      92880, 92910, 92912, 92918] },
  { names := ["batak", "batk"],
    toggled := [
      7104, 7156, 7164, 7168] },
  { names := ["bengali", "beng"],
    toggled := [
      2432, 2436, 2437, 2445, 2447, 2449, 2451, 2473, 2474, 2481, 2482, 2483, 2486, 2490, 2492,
      2501, 2503, 2505, 2507, 2511, 2519, 2520, 2524, 2526, 2527, 2532, 2534, 2559],
    shared := [
      700, 701, 2385, 2387, 2404, 2406, 7376, 7377, 7378, 7379, 7381, 7383, 7384, 7385, 7393,
      7394, 7402, 7403, 7405, 7406, 7410, 7411, 7413, 7416, 43249, 43250] },
  { names := ["bhaiksuki", "bhks"],
    toggled := [
      72704, 72713, 72714, 72759, 72760, 72774, 72784, 72813] },
  { names := ["bopomofo", "bopo"],
    toggled := [
      746, 748, 12549, 12592, 12704, 12736],
    shared := [
      711, 712, 713, 716, 729, 730, 12289, 12292, 12296, 12306, 12307, 12320, 12330, 12334,
      12336, 12337, 12343, 12344, 12539, 12540, 65093, 65095, 65377, 65382] },
  { names := ["brahmi", "brah"],
    toggled := [
      69632, 69710, 69714, 69750, 69759, 69760] },
  { names := ["braille", "brai"],
    toggled := [
      10240, 10496] },
  { names := ["buginese", "bugi"],
    toggled := [
      6656, 6684, 6686, 6688],
    shared := [
      43471, 43472] },
  { names := ["buhid", "buhd"],
    toggled := [
      5952, 5972],
    shared := [
      5941, 5943] },
  { names := ["canadianaboriginal", "cans"],
    toggled := [
      5120, 5760, 6320, 6390, 72368, 72384] },
  { names := ["carian", "cari"],
    toggled := [
      66208, 66257],
    shared := [
      183, 184, 8282, 8283, 8285, 8286, 11825, 11826] },
  { names := ["caucasianalbanian", "aghb"],
    toggled := [
      66864, 66916, 66927, 66928],
    shared := [
      772, 773, 817, 818, 862, 863] },
  { names := ["chakma", "cakm"],
    toggled := [
      69888, 69941, 69942, 69960],
    shared := [
      2534, 2544, 4160, 4170] },
  { names := ["cham"],
    toggled := [
      43520, 43575, 43584, 43598, 43600, 43610, 43612, 43616] },
  { names := ["cherokee", "cher"],
    toggled := [
      5024, 5110, 5112, 5118, 43888, 43968],
    shared := [
      768, 771, 772, 773, 779, 781, 803, 805, 816, 818] },
  { names := ["chorasmian", "chrs"],
    toggled := [
      69552, 69580] },
  { names := ["common", "zyyy"],
    toggled := [
      0, 65, 91, 97, 123, 170, 171, 186, 187, 192, 215, 216, 247, 248, 697, 736, 741, 746, 748,
      768, 884, 885, 894, 895, 901, 902, 903, 904, 1541, 1542, 1548, 1549, 1563, 1564, 1567,
      1568, 1600, 1601, 1757, 1758, 2274, 2275, 2404, 2406, 3647, 3648, 4053, 4057, 4347, 4348,
      5867, 5870, 5941, 5943, 6146, 6148, 6149, 6150, 7379, 7380, 7393, 7394, 7401, 7405, 7406,
      7412, 7413, 7416, 7418, 7419, 8192, 8204, 8206, 8293, 8294, 8305, 8308, 8319, 8320, 8335,
      8352, 8385, 8448, 8486, 8487, 8490, 8492, 8498, 8499, 8526, 8527, 8544, 8585, 8588, 8592,
      9258, 9280, 9291, 9312, 10240, 10496, 11124, 11126, 11158, 11159, 11264, 11776, 11870,
      12272, 12293, 12294, 12295, 12296, 12321, 12336, 12344, 12348, 12352, 12443, 12445, 12448,
      12449, 12539, 12541, 12688, 12704, 12736, 12774, 12783, 12784, 12832, 12896, 12927, 13008,
      13055, 13056, 13144, 13312, 19904, 19968, 42752, 42786, 42888, 42891, 43056, 43066, 43310,
      43311, 43471, 43472, 43867, 43868, 43882, 43884, 64830, 64832, 65040, 65050, 65072, 65107,
      65108, 65127, 65128, 65132, 65279, 65280, 65281, 65313, 65339, 65345, 65371, 65382, 65392,
      65393, 65438, 65440, 65504, 65511, 65512, 65519, 65529, 65534, 65792, 65795, 65799, 65844,
      65847, 65856, 65936, 65949, 66000, 66045, 66273, 66300, 113824, 113828, 117760, 118010,
      118016, 118452, 118608, 118724, 118784, 119030, 119040, 119079, 119081, 119143, 119146,
      119163, 119171, 119173, 119180, 119210, 119214, 119275, 119488, 119508, 119520, 119540,
      119552, 119639, 119648, 119673, 119808, 119893, 119894, 119965, 119966, 119968, 119970,
      119971, 119973, 119975, 119977, 119981, 119982, 119994, 119995, 119996, 119997, 120004,
      120005, 120070, 120071, 120075, 120077, 120085, 120086, 120093, 120094, 120122, 120123,
      120127, 120128, 120133, 120134, 120135, 120138, 120145, 120146, 120486, 120488, 120780,
      120782, 120832, 126065, 126133, 126209, 126270, 126976, 127020, 127024, 127124, 127136,
      127151, 127153, 127168, 127169, 127184, 127185, 127222, 127232, 127406, 127462, 127488,
      127489, 127491, 127504, 127548, 127552, 127561, 127568, 127570, 127584, 127590, 127744,
      128728, 128732, 128749, 128752, 128765, 128768, 128887, 128891, 128986, 128992, 129004,
      129008, 129009, 129024, 129036, 129040, 129096, 129104, 129114, 129120, 129160, 129168,
      129198, 129200, 129212, 129216, 129218, 129280, 129620, 129632, 129646, 129648, 129661,
      129664, 129674, 129679, 129735, 129742, 129757, 129759, 129770, 129776, 129785, 129792,
      129939, 129940, 130042, 917505, 917506, 917536, 917632],
    shared := [
      183, 184, 700, 701, 711, 712, 713, 716, 717, 718, 727, 728, 729, 730, 884, 885, 1548, 1549,
      1563, 1564, 1567, 1568, 1600, 1601, 2404, 2406, 4347, 4348, 5867, 5870, 5941, 5943, 6146,
      6148, 6149, 6150, 7379, 7380, 7393, 7394, 7401, 7405, 7406, 7412, 7413, 7416, 7418, 7419,
      8239, 8240, 8271, 8272, 8282, 8283, 8285, 8286, 11799, 11800, 11824, 11826, 11836, 11837,
      11841, 11842, 11843, 11844, 12272, 12288, 12289, 12292, 12294, 12295, 12296, 12306, 12307,
      12320, 12336, 12342, 12343, 12344, 12348, 12352, 12443, 12445, 12448, 12449, 12539, 12541,
      12688, 12704, 12736, 12774, 12783, 12784, 12832, 12872, 12928, 12977, 12992, 13004, 13055,
      13056, 13144, 13169, 13179, 13184, 13280, 13311, 42752, 42760, 43056, 43066, 43310, 43311,
      43471, 43472, 64830, 64832, 65093, 65095, 65377, 65382, 65392, 65393, 65438, 65440, 65792,
      65795, 65799, 65844, 65847, 65856, 66273, 66300, 113824, 113828, 119648, 119666, 127568,
      127570] },
  { names := ["coptic", "copt", "qaac"],
    toggled := [
      994, 1008, 11392, 11508, 11513, 11520],
    shared := [
      183, 184, 768, 769, 772, 774, 775, 776, 884, 886, 11799, 11800, 66272, 66300] },
  { names := ["cuneiform", "xsux"],
    toggled := [
      73728, 74650, 74752, 74863, 74864, 74869, 74880, 75076] },
  { names := ["cypriot", "cprt"],
    toggled := [
      67584, 67590, 67592, 67593, 67594, 67638, 67639, 67641, 67644, 67645, 67647, 67648],
    shared := [
      65792, 65795, 65799, 65844, 65847, 65856] },
  { names := ["cyprominoan", "cpmn"],
    toggled := [
      77712, 77811],
    shared := [
      65792, 65794] },
  { names := ["cyrillic", "cyrl"],
    toggled := [
      1024, 1157, 1159, 1328, 7296, 7307, 7467, 7468, 7544, 7545, 11744, 11776, 42560, 42656,
      65070, 65072, 122928, 122990, 123023, 123024],
    shared := [
      700, 701, 768, 771, 772, 773, 774, 775, 776, 777, 779, 780, 785, 786, 1157, 1159, 7672,
      7673, 11843, 11844] },
  { names := ["deseret", "dsrt"],
    toggled := [
      66560, 66640] },
  { names := ["devanagari", "deva"],
    toggled := [
      2304, 2385, 2389, 2404, 2406, 2432, 43232, 43264, 72448, 72458],
    shared := [
      700, 701, 2385, 2387, 2404, 2406, 7376, 7415, 7416, 7418, 8432, 8433, 43056, 43066] },
  { names := ["divesakuru", "diak"],
    toggled := [
      71936, 71943, 71945, 71946, 71948, 71956, 71957, 71959, 71960, 71990, 71991, 71993, 71995,
      72007, 72016, 72026] },
  { names := ["dogra", "dogr"],
    toggled := [
      71680, 71740],
    shared := [
      2404, 2416, 43056, 43066] },
  { names := ["duployan", "dupl"],
    toggled := [
      113664, 113771, 113776, 113789, 113792, 113801, 113808, 113818, 113820, 113824],
    shared := [
      183, 184, 775, 777, 778, 779, 803, 805, 11836, 11837, 113824, 113828] },
  { names := ["egyptianhieroglyphs", "egyp"],
    toggled := [
      77824, 78934, 78944, 82939] },
  { names := ["elbasan", "elba"],
    toggled := [
      66816, 66856],
    shared := [
      183, 184, 773, 774] },
  { names := ["elymaic", "elym"],
    toggled := [
      69600, 69623] },
  { names := ["ethiopic", "ethi"],
    toggled := [
      4608, 4681, 4682, 4686, 4688, 4695, 4696, 4697, 4698, 4702, 4704, 4745, 4746, 4750, 4752,
      4785, 4786, 4790, 4792, 4799, 4800, 4801, 4802, 4806, 4808, 4823, 4824, 4881, 4882, 4886,
      4888, 4955, 4957, 4989, 4992, 5018, 11648, 11671, 11680, 11687, 11688, 11695, 11696, 11703,
      11704, 11711, 11712, 11719, 11720, 11727, 11728, 11735, 11736, 11743, 43777, 43783, 43785,
      43791, 43793, 43799, 43808, 43815, 43816, 43823, 124896, 124903, 124904, 124908, 124909,
      124911, 124912, 124927],
    shared := [
      782, 783] },
  { names := ["garay", "gara"],
    toggled := [
      68928, 68966, 68969, 68998, 69006, 69008],
    shared := [
      1548, 1549, 1563, 1564, 1567, 1568] },
  { names := ["georgian", "geor"],
    toggled := [
      4256, 4294, 4295, 4296, 4301, 4302, 4304, 4347, 4348, 4352, 7312, 7355, 7357, 7360, 11520,
      11558, 11559, 11560, 11565, 11566],
    shared := [
      183, 184, 1417, 1418, 4347, 4348, 8282, 8283, 11825, 11826] },
  { names := ["glagolitic", "glag"],
    toggled := [
      11264, 11360, 122880, 122887, 122888, 122905, 122907, 122914, 122915, 122917, 122918,
      122923],
    shared := [
      183, 184, 771, 772, 773, 774, 1156, 1157, 1159, 1160, 1417, 1418, 4347, 4348, 8282, 8283,
      11843, 11844, 42607, 42608] },
  { names := ["gothic", "goth"],
    toggled := [
      66352, 66379],
    shared := [
      183, 184, 772, 774, 776, 777, 817, 818] }]

/-- The scripts, part 2 of 4. -/
def scripts2 : List Script := [
  { names := ["grantha", "gran"],
    toggled := [
      70400, 70404, 70405, 70413, 70415, 70417, 70419, 70441, 70442, 70449, 70450, 70452, 70453,
      70458, 70460, 70469, 70471, 70473, 70475, 70478, 70480, 70481, 70487, 70488, 70493, 70500,
      70502, 70509, 70512, 70517],
    shared := [
      2385, 2387, 2404, 2406, 3046, 3060, 7376, 7377, 7378, 7380, 7410, 7413, 7416, 7418, 8432,
      8433, 70459, 70460, 73680, 73682, 73683, 73684] },
  { names := ["greek", "grek"],
    toggled := [
      880, 884, 885, 888, 890, 894, 895, 896, 900, 901, 902, 903, 904, 907, 908, 909, 910, 930,
      931, 994, 1008, 1024, 7462, 7467, 7517, 7522, 7526, 7531, 7615, 7616, 7936, 7958, 7960,
      7966, 7968, 8006, 8008, 8014, 8016, 8024, 8025, 8026, 8027, 8028, 8029, 8030, 8031, 8062,
      8064, 8117, 8118, 8133, 8134, 8148, 8150, 8156, 8157, 8176, 8178, 8181, 8182, 8191, 8486,
      8487, 43877, 43878, 65856, 65935, 65952, 65953, 119296, 119366],
    shared := [
      183, 184, 768, 770, 772, 773, 774, 775, 776, 777, 787, 788, 834, 835, 837, 838, 884, 885,
      7616, 7618, 8285, 8286] },
  { names := ["gujarati", "gujr"],
    toggled := [
      2689, 2692, 2693, 2702, 2703, 2706, 2707, 2729, 2730, 2737, 2738, 2740, 2741, 2746, 2748,
      2758, 2759, 2762, 2763, 2766, 2768, 2769, 2784, 2788, 2790, 2802, 2809, 2816],
    shared := [
      2385, 2387, 2404, 2406, 43056, 43066] },
  { names := ["gunjalagondi", "gong"],
    toggled := [
      73056, 73062, 73063, 73065, 73066, 73103, 73104, 73106, 73107, 73113, 73120, 73130],
    shared := [
      183, 184, 2404, 2406] },
  { names := ["gurmukhi", "guru"],
    toggled := [
      2561, 2564, 2565, 2571, 2575, 2577, 2579, 2601, 2602, 2609, 2610, 2612, 2613, 2615, 2616,
      2618, 2620, 2621, 2622, 2627, 2631, 2633, 2635, 2638, 2641, 2642, 2649, 2653, 2654, 2655,
      2662, 2679],
    shared := [
      2385, 2387, 2404, 2406, 43056, 43066] },
  { names := ["gurungkhema", "gukh"],
    toggled := [
      90368, 90426],
    shared := [
      2405, 2406] },
  { names := ["hani", "han"],
    toggled := [
      11904, 11930, 11931, 12020, 12032, 12246, 12293, 12294, 12295, 12296, 12321, 12330, 12344,
      12348, 13312, 19904, 19968, 40960, 63744, 64110, 64112, 64218, 94178, 94180, 94192, 94194,
      131072, 173792, 173824, 177978, 177984, 178206, 178208, 183970, 183984, 191457, 191472,
      192094, 194560, 195102, 196608, 201547, 201552, 205744],
    shared := [
      183, 184, 12272, 12288, 12289, 12292, 12294, 12295, 12296, 12306, 12307, 12320, 12330,
      12334, 12336, 12337, 12343, 12344, 12348, 12352, 12539, 12540, 12688, 12704, 12736, 12774,
      12783, 12784, 12832, 12872, 12928, 12977, 12992, 13004, 13055, 13056, 13144, 13169, 13179,
      13184, 13280, 13311, 42752, 42760, 65093, 65095, 65377, 65382, 119648, 119666, 127568,
      127570] },
  { names := ["hangul", "hang"],
    toggled := [
      4352, 4608, 12334, 12336, 12593, 12687, 12800, 12831, 12896, 12927, 43360, 43389, 44032,
      55204, 55216, 55239, 55243, 55292, 65440, 65471, 65474, 65480, 65482, 65488, 65490, 65496,
      65498, 65501],
    shared := [
      12289, 12292, 12296, 12306, 12307, 12320, 12336, 12337, 12343, 12344, 12539, 12540, 65093,
      65095, 65377, 65382] },
  { names := ["hanifirohingya", "rohg"],
    toggled := [
      68864, 68904, 68912, 68922],
    shared := [
      1548, 1549, 1563, 1564, 1567, 1568, 1600, 1601, 1748, 1749] },
  { names := ["hanunoo", "hano"],
    toggled := [
      5920, 5941],
    shared := [
      5941, 5943] },
  { names := ["hatran", "hatr"],
    toggled := [
      67808, 67827, 67828, 67830, 67835, 67840] },
  { names := ["hebrew", "hebr"],
    toggled := [
      1425, 1480, 1488, 1515, 1519, 1525, 64285, 64311, 64312, 64317, 64318, 64319, 64320, 64322,
      64323, 64325, 64326, 64336],
    shared := [
      775, 777] },
  { names := ["hiragana", "hira"],
    toggled := [
      12353, 12439, 12445, 12448, 110593, 110880, 110898, 110899, 110928, 110931, 127488, 127489],
    shared := [
      12289, 12292, 12296, 12306, 12307, 12320, 12336, 12342, 12343, 12344, 12348, 12350, 12441,
      12445, 12448, 12449, 12539, 12541, 65093, 65095, 65377, 65382, 65392, 65393, 65438, 65440] },
  { names := ["imperialaramaic", "armi"],
    toggled := [
      67648, 67670, 67671, 67680] },
  { names := ["inherited", "qaai", "zinh"],
    toggled := [
      768, 880, 1157, 1159, 1611, 1622, 1648, 1649, 2385, 2389, 6832, 6863, 7376, 7379, 7380,
      7393, 7394, 7401, 7405, 7406, 7412, 7413, 7416, 7418, 7616, 7680, 8204, 8206, 8400, 8433,
      12330, 12334, 12441, 12443, 65024, 65040, 65056, 65070, 66045, 66046, 66272, 66273, 70459,
      70460, 118528, 118574, 118576, 118599, 119143, 119146, 119163, 119171, 119173, 119180,
      119210, 119214, 917760, 918000],
    shared := [
      768, 783, 784, 786, 787, 788, 800, 801, 803, 806, 813, 815, 816, 818, 834, 835, 837, 838,
      856, 857, 862, 863, 867, 880, 1157, 1159, 1611, 1622, 1648, 1649, 2385, 2387, 7376, 7379,
      7380, 7393, 7394, 7401, 7405, 7406, 7412, 7413, 7416, 7418, 7616, 7618, 7672, 7673, 7674,
      7675, 8432, 8433, 12330, 12334, 12441, 12443, 66272, 66273, 70459, 70460] },
  { names := ["inscriptionalpahlavi", "phli"],
    toggled := [
      68448, 68467, 68472, 68480] },
  { names := ["inscriptionalparthian", "prti"],
    toggled := [
      68416, 68438, 68440, 68448] },
  { names := ["javanese", "java"],
    toggled := [
      43392, 43470, 43472, 43482, 43486, 43488],
    shared := [
      43471, 43472] },
  { names := ["kaithi", "kthi"],
    toggled := [
      69760, 69827, 69837, 69838],
    shared := [
      2406, 2416, 11825, 11826, 43056, 43066] },
  { names := ["kannada", "knda"],
    toggled := [
      3200, 3213, 3214, 3217, 3218, 3241, 3242, 3252, 3253, 3258, 3260, 3269, 3270, 3273, 3274,
      3278, 3285, 3287, 3293, 3295, 3296, 3300, 3302, 3312, 3313, 3316],
    shared := [
      2385, 2387, 2404, 2406, 7376, 7377, 7378, 7380, 7386, 7387, 7410, 7411, 7412, 7413, 43056,
      43062] },
  { names := ["katakana", "kana"],
    toggled := [
      12449, 12539, 12541, 12544, 12784, 12800, 13008, 13055, 13056, 13144, 65382, 65392, 65393,
      65438, 110576, 110580, 110581, 110588, 110589, 110591, 110592, 110593, 110880, 110883,
      110933, 110934, 110948, 110952],
    shared := [
      773, 774, 803, 804, 12289, 12292, 12296, 12306, 12307, 12320, 12336, 12342, 12343, 12344,
      12348, 12350, 12441, 12445, 12448, 12449, 12539, 12541, 65093, 65095, 65377, 65382, 65392,
      65393, 65438, 65440] },
  { names := ["kawi"],
    toggled := [
      73472, 73489, 73490, 73531, 73534, 73563] },
  { names := ["kayahli", "kali"],
    toggled := [
      43264, 43310, 43311, 43312],
    shared := [
      43310, 43311] },
  { names := ["kharoshthi", "khar"],
    toggled := [
      68096, 68100, 68101, 68103, 68108, 68116, 68117, 68120, 68121, 68150, 68152, 68155, 68159,
      68169, 68176, 68185] },
  { names := ["khitansmallscript", "kits"],
    toggled := [
      94180, 94181, 101120, 101590, 101631, 101632] },
  { names := ["khmer", "khmr"],
    toggled := [
      6016, 6110, 6112, 6122, 6128, 6138, 6624, 6656] },
  { names := ["khojki", "khoj"],
    toggled := [
      70144, 70162, 70163, 70210],
    shared := [
      2790, 2800, 43056, 43066] },
  { names := ["khudawadi", "sind"],
    toggled := [
      70320, 70379, 70384, 70394],
    shared := [
      2404, 2406, 43056, 43066] },
  { names := ["kiratrai", "krai"],
    toggled := [
      93504, 93562] },
  { names := ["laoo", "lao"],
    toggled := [
      3713, 3715, 3716, 3717, 3718, 3723, 3724, 3748, 3749, 3750, 3751, 3774, 3776, 3781, 3782,
      3783, 3784, 3791, 3792, 3802, 3804, 3808] },
  { names := ["latin", "latn"],
    toggled := [
      65, 91, 97, 123, 170, 171, 186, 187, 192, 215, 216, 247, 248, 697, 736, 741, 7424, 7462,
      7468, 7517, 7522, 7526, 7531, 7544, 7545, 7615, 7680, 7936, 8305, 8306, 8319, 8320, 8336,
      8349, 8490, 8492, 8498, 8499, 8526, 8527, 8544, 8585, 11360, 11392, 42786, 42888, 42891,
      42958, 42960, 42962, 42963, 42964, 42965, 42973, 42994, 43008, 43824, 43867, 43868, 43877,
      43878, 43882, 64256, 64263, 65313, 65339, 65345, 65371, 67456, 67462, 67463, 67505, 67506,
      67515, 122624, 122655, 122661, 122667],
    shared := [
      183, 184, 700, 701, 711, 712, 713, 716, 717, 718, 727, 728, 729, 730, 768, 783, 784, 786,
      787, 788, 800, 801, 803, 806, 813, 815, 816, 818, 856, 857, 862, 863, 867, 880, 1157, 1159,
      2385, 2387, 4347, 4348, 7672, 7673, 8239, 8240, 8432, 8433, 11799, 11800, 42752, 42760,
      43310, 43311] },
  { names := ["lepcha", "lepc"],
    toggled := [
      7168, 7224, 7227, 7242, 7245, 7248] },
  { names := ["limbu", "limb"],
    toggled := [
      6400, 6431, 6432, 6444, 6448, 6460, 6464, 6465, 6468, 6480],
    shared := [
      2405, 2406] },
  { names := ["lineara", "lina"],
    toggled := [
      67072, 67383, 67392, 67414, 67424, 67432],
    shared := [
      65799, 65844] },
  { names := ["linearb", "linb"],
    toggled := [
      65536, 65548, 65549, 65575, 65576, 65595, 65596, 65598, 65599, 65614, 65616, 65630, 65664,
      65787],
    shared := [
      65792, 65795, 65799, 65844, 65847, 65856] },
  { names := ["lisu"],
    toggled := [
      42192, 42240, 73648, 73649],
    shared := [
      700, 701, 717, 718, 12298, 12300] },
  { names := ["lycian", "lyci"],
    toggled := [
      66176, 66205],
    shared := [
      8282, 8283] },
  { names := ["lydian", "lydi"],
    toggled := [
      67872, 67898, 67903, 67904],
    shared := [
      183, 184, 11825, 11826] },
  { names := ["mahajani", "mahj"],
    toggled := [
      69968, 70007],
    shared := [
      183, 184, 2404, 2416, 43056, 43066] },
  { names := ["makasar", "maka"],
    toggled := [
      73440, 73465] },
  { names := ["malayalam", "mlym"],
    toggled := [
      3328, 3341, 3342, 3345, 3346, 3397, 3398, 3401, 3402, 3408, 3412, 3428, 3430, 3456],
    shared := [
      2385, 2387, 2404, 2406, 7386, 7387, 7410, 7411, 43056, 43059] },
  { names := ["mandaic", "mand"],
    toggled := [
      2112, 2140, 2142, 2143],
    shared := [
      1600, 1601] },
  { names := ["manichaean", "mani"],
    toggled := [
      68288, 68327, 68331, 68343],
    shared := [
      1600, 1601] }]

/-- The scripts, part 3 of 4. -/
def scripts3 : List Script := [
  { names := ["marchen", "marc"],
    toggled := [
      72816, 72848, 72850, 72872, 72873, 72887] },
  { names := ["masaramgondi", "gonm"],
    toggled := [
      72960, 72967, 72968, 72970, 72971, 73015, 73018, 73019, 73020, 73022, 73023, 73032, 73040,
      73050],
    shared := [
      2404, 2406] },
  { names := ["medefaidrin", "medf"],
    toggled := [
      93760, 93851] },
  { names := ["meeteimayek", "mtei"],
    toggled := [
      43744, 43767, 43968, 44014, 44016, 44026] },
  { names := ["mendekikakui", "mend"],
    toggled := [
      124928, 125125, 125127, 125143] },
  { names := ["meroiticcursive", "merc"],
    toggled := [
      68000, 68024, 68028, 68048, 68050, 68096] },
  { names := ["meroitichieroglyphs", "mero"],
    toggled := [
      67968, 68000],
    shared := [
      8285, 8286] },
  { names := ["miao", "plrd"],
    toggled := [
      93952, 94027, 94031, 94088, 94095, 94112] },
  { names := ["modi"],
    toggled := [
      71168, 71237, 71248, 71258],
    shared := [
      43056, 43066] },
  { names := ["mongolian", "mong"],
    toggled := [
      6144, 6146, 6148, 6149, 6150, 6170, 6176, 6265, 6272, 6315, 71264, 71277],
    shared := [
      6146, 6148, 6149, 6150, 8239, 8240, 12289, 12291, 12296, 12300] },
  { names := ["mroo", "mro"],
    toggled := [
      92736, 92767, 92768, 92778, 92782, 92784] },
  { names := ["multani", "mult"],
    toggled := [
      70272, 70279, 70280, 70281, 70282, 70286, 70287, 70302, 70303, 70314],
    shared := [
      2662, 2672] },
  { names := ["myanmar", "mymr"],
    toggled := [
      4096, 4256, 43488, 43519, 43616, 43648, 71376, 71396],
    shared := [
      43310, 43311] },
  { names := ["nabataean", "nbat"],
    toggled := [
      67712, 67743, 67751, 67760] },
  { names := ["nagmundari", "nagm"],
    toggled := [
      124112, 124154] },
  { names := ["nandinagari", "nand"],
    toggled := [
      72096, 72104, 72106, 72152, 72154, 72165],
    shared := [
      2404, 2406, 3302, 3312, 7401, 7402, 7410, 7411, 7418, 7419, 43056, 43062] },
  { names := ["newtailue", "talu"],
    toggled := [
      6528, 6572, 6576, 6602, 6608, 6619, 6622, 6624] },
  { names := ["newa"],
    toggled := [
      70656, 70748, 70749, 70754] },
  { names := ["nkoo", "nko"],
    toggled := [
      1984, 2043, 2045, 2048],
    shared := [
      1548, 1549, 1563, 1564, 1567, 1568, 64830, 64832] },
  { names := ["nushu", "nshu"],
    toggled := [
      94177, 94178, 110960, 111356] },
  { names := ["nyiakengpuachuehmong", "hmnp"],
    toggled := [
      123136, 123181, 123184, 123198, 123200, 123210, 123214, 123216] },
  { names := ["ogham", "ogam"],
    toggled := [
      5760, 5789] },
  { names := ["olchiki", "olck"],
    toggled := [
      7248, 7296] },
  { names := ["olonal", "onao"],
    toggled := [
      124368, 124411, 124415, 124416],
    shared := [
      2404, 2406] },
  { names := ["oldhungarian", "hung"],
    toggled := [
      68736, 68787, 68800, 68851, 68858, 68864],
    shared := [
      8282, 8283, 8285, 8286, 11825, 11826, 11841, 11842] },
  { names := ["olditalic", "ital"],
    toggled := [
      66304, 66340, 66349, 66352] },
  { names := ["oldnortharabian", "narb"],
    toggled := [
      68224, 68256] },
  { names := ["oldpermic", "perm"],
    toggled := [
      66384, 66427],
    shared := [
      183, 184, 768, 769, 774, 777, 787, 788, 1155, 1156] },
  { names := ["oldpersian", "xpeo"],
    toggled := [
      66464, 66500, 66504, 66518] },
  { names := ["oldsogdian", "sogo"],
    toggled := [
      69376, 69416] },
  { names := ["oldsoutharabian", "sarb"],
    toggled := [
      68192, 68224] },
  { names := ["oldturkic", "orkh"],
    toggled := [
      68608, 68681],
    shared := [
      8282, 8283, 11824, 11825] },
  { names := ["olduyghur", "ougr"],
    toggled := [
      69488, 69514],
    shared := [
      1600, 1601, 68338, 68339] },
  { names := ["oriya", "orya"],
    toggled := [
      2817, 2820, 2821, 2829, 2831, 2833, 2835, 2857, 2858, 2865, 2866, 2868, 2869, 2874, 2876,
      2885, 2887, 2889, 2891, 2894, 2901, 2904, 2908, 2910, 2911, 2916, 2918, 2936],
    shared := [
      2385, 2387, 2404, 2406, 7386, 7387, 7410, 7411] },
  { names := ["osage", "osge"],
    toggled := [
      66736, 66772, 66776, 66812],
    shared := [
      769, 770, 772, 773, 779, 780, 856, 857] },
  { names := ["osmanya", "osma"],
    toggled := [
      66688, 66718, 66720, 66730] },
  { names := ["pahawhhmong", "hmng"],
    toggled := [
      92928, 92998, 93008, 93018, 93019, 93026, 93027, 93048, 93053, 93072] },
  { names := ["palmyrene", "palm"],
    toggled := [
      67680, 67712] },
  { names := ["paucinhau", "pauc"],
    toggled := [
      72384, 72441] },
  { names := ["phagspa", "phag"],
    toggled := [
      43072, 43128],
    shared := [
      6146, 6148, 6149, 6150, 8239, 8240, 12290, 12291] },
  { names := ["phoenician", "phnx"],
    toggled := [
      67840, 67868, 67871, 67872] },
  { names := ["psalterpahlavi", "phlp"],
    toggled := [
      68480, 68498, 68505, 68509, 68521, 68528],
    shared := [
      1600, 1601] },
  { names := ["rejang", "rjng"],
    toggled := [
      43312, 43348, 43359, 43360] }]

/-- The scripts, part 4 of 4. -/
def scripts4 : List Script := [
  { names := ["runic", "runr"],
    toggled := [
      5792, 5867, 5870, 5881],
    shared := [
      5867, 5870] },
  { names := ["samaritan", "samr"],
    toggled := [
      2048, 2094, 2096, 2111],
    shared := [
      11825, 11826] },
  { names := ["saurashtra", "saur"],
    toggled := [
      43136, 43206, 43214, 43226] },
  { names := ["sharada", "shrd"],
    toggled := [
      70016, 70112],
    shared := [
      2385, 2386, 7383, 7384, 7385, 7386, 7388, 7390, 7392, 7393, 43056, 43062, 43064, 43065] },
  { names := ["shavian", "shaw"],
    toggled := [
      66640, 66688],
    shared := [
      183, 184] },
  { names := ["siddham", "sidd"],
    toggled := [
      71040, 71094, 71096, 71134] },
  { names := ["signwriting", "sgnw"],
    toggled := [
      120832, 121484, 121499, 121504, 121505, 121520] },
  { names := ["sinhala", "sinh"],
    toggled := [
      3457, 3460, 3461, 3479, 3482, 3506, 3507, 3516, 3517, 3518, 3520, 3527, 3530, 3531, 3535,
      3541, 3542, 3543, 3544, 3552, 3558, 3568, 3570, 3573, 70113, 70133],
    shared := [
      2404, 2406, 7410, 7411] },
  { names := ["sogdian", "sogd"],
    toggled := [
      69424, 69466],
    shared := [
      1600, 1601] },
  { names := ["sorasompeng", "sora"],
    toggled := [
      69840, 69865, 69872, 69882] },
  { names := ["soyombo", "soyo"],
    toggled := [
      72272, 72355] },
  { names := ["sundanese", "sund"],
    toggled := [
      7040, 7104, 7360, 7368] },
  { names := ["sunuwar", "sunu"],
    toggled := [
      72640, 72674, 72688, 72698],
    shared := [
      768, 770, 771, 772, 781, 782, 784, 785, 813, 814, 817, 818] },
  { names := ["sylotinagri", "sylo"],
    toggled := [
      43008, 43053],
    shared := [
      2404, 2406, 2534, 2544] },
  { names := ["syriac", "syrc"],
    toggled := [
      1792, 1806, 1807, 1867, 1869, 1872, 2144, 2155],
    shared := [
      771, 773, 775, 777, 778, 779, 800, 801, 803, 806, 813, 815, 816, 817, 1548, 1549, 1563,
      1565, 1567, 1568, 1600, 1601, 1611, 1622, 1648, 1649, 7672, 7673, 7674, 7675] },
  { names := ["tagalog", "tglg"],
    toggled := [
      5888, 5910, 5919, 5920],
    shared := [
      5941, 5943] },
  { names := ["tagbanwa", "tagb"],
    toggled := [
      5984, 5997, 5998, 6001, 6002, 6004],
    shared := [
      5941, 5943] },
  { names := ["taile", "tale"],
    toggled := [
      6480, 6510, 6512, 6517],
    shared := [
      768, 770, 775, 777, 780, 781, 4160, 4170] },
  { names := ["taitham", "lana"],
    toggled := [
      6688, 6751, 6752, 6781, 6783, 6794, 6800, 6810, 6816, 6830] },
  { names := ["taiviet", "tavt"],
    toggled := [
      43648, 43715, 43739, 43744] },
  { names := ["takri", "takr"],
    toggled := [
      71296, 71354, 71360, 71370],
    shared := [
      2404, 2406, 43056, 43066] },
  { names := ["tamil", "taml"],
    toggled := [
      2946, 2948, 2949, 2955, 2958, 2961, 2962, 2966, 2969, 2971, 2972, 2973, 2974, 2976, 2979,
      2981, 2984, 2987, 2990, 3002, 3006, 3011, 3014, 3017, 3018, 3022, 3024, 3025, 3031, 3032,
      3046, 3067, 73664, 73714, 73727, 73728],
    shared := [
      2385, 2387, 2404, 2406, 7386, 7387, 43251, 43252, 70401, 70402, 70403, 70404, 70459, 70461] },
  { names := ["tangsa", "tnsa"],
    toggled := [
      92784, 92863, 92864, 92874] },
  { names := ["tangut", "tang"],
    toggled := [
      94176, 94177, 94208, 100344, 100352, 101120, 101632, 101641],
    shared := [
      12272, 12288, 12783, 12784] },
  { names := ["telugu", "telu"],
    toggled := [
      3072, 3085, 3086, 3089, 3090, 3113, 3114, 3130, 3132, 3141, 3142, 3145, 3146, 3150, 3157,
      3159, 3160, 3163, 3165, 3166, 3168, 3172, 3174, 3184, 3191, 3200],
    shared := [
      2385, 2387, 2404, 2406, 7386, 7387, 7410, 7411] },
  { names := ["thaana", "thaa"],
    toggled := [
      1920, 1970],
    shared := [
      1548, 1549, 1563, 1565, 1567, 1568, 1632, 1642, 65010, 65011, 65021, 65022] },
  { names := ["thai"],
    toggled := [
      3585, 3643, 3648, 3676],
    shared := [
      700, 701, 727, 728, 771, 772, 817, 818] },
  { names := ["tibetan", "tibt"],
    toggled := [
      3840, 3912, 3913, 3949, 3953, 3992, 3993, 4029, 4030, 4045, 4046, 4053, 4057, 4059],
    shared := [
      12296, 12300] },
  { names := ["tifinagh", "tfng"],
    toggled := [
      11568, 11624, 11631, 11633, 11647, 11648],
    shared := [
      770, 771, 772, 773, 775, 776, 777, 778] },
  { names := ["tirhuta", "tirh"],
    toggled := [
      70784, 70856, 70864, 70874],
    shared := [
      2385, 2387, 2404, 2406, 7410, 7411, 43056, 43066] },
  { names := ["todhri", "todr"],
    toggled := [
      67008, 67060],
    shared := [
      769, 770, 772, 773, 775, 776, 785, 786, 787, 788, 862, 863] },
  { names := ["toto"],
    toggled := [
      123536, 123567],
    shared := [
      700, 701] },
  { names := ["tulutigalari", "tutg"],
    toggled := [
      70528, 70538, 70539, 70540, 70542, 70543, 70544, 70582, 70583, 70593, 70594, 70595, 70597,
      70598, 70599, 70603, 70604, 70614, 70615, 70617, 70625, 70627],
    shared := [
      3302, 3312, 7410, 7411, 7412, 7413, 43056, 43062, 43249, 43250] },
  { names := ["ugaritic", "ugar"],
    toggled := [
      66432, 66462, 66463, 66464] },
  { names := ["vaii", "vai"],
    toggled := [
      42240, 42540] },
  { names := ["vithkuqi", "vith"],
    toggled := [
      66928, 66939, 66940, 66955, 66956, 66963, 66964, 66966, 66967, 66978, 66979, 66994, 66995,
      67002, 67003, 67005] },
  { names := ["wancho", "wcho"],
    toggled := [
      123584, 123642, 123647, 123648] },
  { names := ["warangciti", "wara"],
    toggled := [
      71840, 71923, 71935, 71936] },
  { names := ["yezidi", "yezi"],
    toggled := [
      69248, 69290, 69291, 69294, 69296, 69298],
    shared := [
      1548, 1549, 1563, 1564, 1567, 1568, 1632, 1642] },
  { names := ["yiii", "yi"],
    toggled := [
      40960, 42125, 42128, 42183],
    shared := [
      12289, 12291, 12296, 12306, 12308, 12316, 12539, 12540, 65377, 65382] },
  { names := ["zanabazarsquare", "zanb"],
    toggled := [
      72192, 72264] }]

/-- The script of a name. -/
def script? (name : String) : Option Script :=
  (scripts1 ++ scripts2 ++ scripts3 ++ scripts4).find? (·.names.contains name)

end Unicode
end DocExamples
