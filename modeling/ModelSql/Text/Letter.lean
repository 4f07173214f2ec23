/-
**Classes of characters: letters, digits, case.**

The classes of the Unicode character database that names are split by: alphanumeric characters,
lower-case, upper-case and title-case letters, the characters that case rules look through, and
the decimal digits.  Each is a list of runs of code points; ASCII is decided first, so that plain
names never reach the lists.

Main definitions:

* `Text.Run`, `Text.inRuns` — a run of code points with a stride, and membership in a list of them;
* `Text.isAlphanumeric`, `Text.isLowercase`, `Text.isUppercase`, `Text.isCased`,
  `Text.isCaseIgnorable`, `Text.isDecimalDigit` — the classes.
-/

set_option autoImplicit false

namespace ModelSql.Text

/-! ### Runs of code points -/

/-- A run `first, first + stride, …, last` of code points. -/
abbrev Run := Nat × Nat × Nat

/-- Whether the code point `c` belongs to the run. -/
def Run.has (r : Run) (c : Nat) : Bool :=
  r.1 ≤ c && c ≤ r.2.1 && (c - r.1) % r.2.2 == 0

/-- Whether `c` belongs to one of the runs. -/
def inRuns (runs : List Run) (c : Char) : Bool := runs.any (·.has c.toNat)

/-! ### The tables -/

/-- Letters, letter-like marks and numbers. -/
def alphanumericRuns : List Run := [
  (48, 57, 1), (65, 90, 1), (97, 122, 1), (170, 170, 1), (178, 179, 1), (181, 181, 1),
  (185, 186, 1), (188, 190, 1), (192, 214, 1), (216, 246, 1), (248, 705, 1), (710, 721, 1),
  (736, 740, 1), (748, 748, 1), (750, 750, 1), (837, 837, 1), (867, 884, 1), (886, 887, 1),
  (890, 893, 1), (895, 895, 1), (902, 902, 1), (904, 906, 1), (908, 908, 1), (910, 929, 1),
  (931, 1013, 1), (1015, 1153, 1), (1162, 1327, 1), (1329, 1366, 1), (1369, 1369, 1),
  (1376, 1416, 1), (1456, 1469, 1), (1471, 1471, 1), (1473, 1474, 1), (1476, 1477, 1),
  (1479, 1479, 1), (1488, 1514, 1), (1519, 1522, 1), (1552, 1562, 1), (1568, 1623, 1),
  (1625, 1641, 1), (1646, 1747, 1), (1749, 1756, 1), (1761, 1768, 1), (1773, 1788, 1),
  (1791, 1791, 1), (1808, 1855, 1), (1869, 1969, 1), (1984, 2026, 1), (2036, 2037, 1),
  (2042, 2042, 1), (2048, 2071, 1), (2074, 2092, 1), (2112, 2136, 1), (2144, 2154, 1),
  (2160, 2183, 1), (2185, 2191, 1), (2199, 2199, 1), (2208, 2249, 1), (2260, 2271, 1),
  (2275, 2281, 1), (2288, 2363, 1), (2365, 2380, 1), (2382, 2384, 1), (2389, 2403, 1),
  (2406, 2415, 1), (2417, 2435, 1), (2437, 2444, 1), (2447, 2448, 1), (2451, 2472, 1),
  (2474, 2480, 1), (2482, 2482, 1), (2486, 2489, 1), (2493, 2500, 1), (2503, 2504, 1),
  (2507, 2508, 1), (2510, 2510, 1), (2519, 2519, 1), (2524, 2525, 1), (2527, 2531, 1),
  (2534, 2545, 1), (2548, 2553, 1), (2556, 2556, 1), (2561, 2563, 1), (2565, 2570, 1),
  (2575, 2576, 1), (2579, 2600, 1), (2602, 2608, 1), (2610, 2611, 1), (2613, 2614, 1),
  (2616, 2617, 1), (2622, 2626, 1), (2631, 2632, 1), (2635, 2636, 1), (2641, 2641, 1),
  (2649, 2652, 1), (2654, 2654, 1), (2662, 2677, 1), (2689, 2691, 1), (2693, 2701, 1),
  (2703, 2705, 1), (2707, 2728, 1), (2730, 2736, 1), (2738, 2739, 1), (2741, 2745, 1),
  (2749, 2757, 1), (2759, 2761, 1), (2763, 2764, 1), (2768, 2768, 1), (2784, 2787, 1),
  (2790, 2799, 1), (2809, 2812, 1), (2817, 2819, 1), (2821, 2828, 1), (2831, 2832, 1),
  (2835, 2856, 1), (2858, 2864, 1), (2866, 2867, 1), (2869, 2873, 1), (2877, 2884, 1),
  (2887, 2888, 1), (2891, 2892, 1), (2902, 2903, 1), (2908, 2909, 1), (2911, 2915, 1),
  (2918, 2927, 1), (2929, 2935, 1), (2946, 2947, 1), (2949, 2954, 1), (2958, 2960, 1),
  (2962, 2965, 1), (2969, 2970, 1), (2972, 2972, 1), (2974, 2975, 1), (2979, 2980, 1),
  (2984, 2986, 1), (2990, 3001, 1), (3006, 3010, 1), (3014, 3016, 1), (3018, 3020, 1),
  (3024, 3024, 1), (3031, 3031, 1), (3046, 3058, 1), (3072, 3084, 1), (3086, 3088, 1),
  (3090, 3112, 1), (3114, 3129, 1), (3133, 3140, 1), (3142, 3144, 1), (3146, 3148, 1),
  (3157, 3158, 1), (3160, 3162, 1), (3164, 3165, 1), (3168, 3171, 1), (3174, 3183, 1),
  (3192, 3198, 1), (3200, 3203, 1), (3205, 3212, 1), (3214, 3216, 1), (3218, 3240, 1),
  (3242, 3251, 1), (3253, 3257, 1), (3261, 3268, 1), (3270, 3272, 1), (3274, 3276, 1),
  (3285, 3286, 1), (3292, 3294, 1), (3296, 3299, 1), (3302, 3311, 1), (3313, 3315, 1),
  (3328, 3340, 1), (3342, 3344, 1), (3346, 3386, 1), (3389, 3396, 1), (3398, 3400, 1),
  (3402, 3404, 1), (3406, 3406, 1), (3412, 3427, 1), (3430, 3448, 1), (3450, 3455, 1),
  (3457, 3459, 1), (3461, 3478, 1), (3482, 3505, 1), (3507, 3515, 1), (3517, 3517, 1),
  (3520, 3526, 1), (3535, 3540, 1), (3542, 3542, 1), (3544, 3551, 1), (3558, 3567, 1),
  (3570, 3571, 1), (3585, 3642, 1), (3648, 3654, 1), (3661, 3661, 1), (3664, 3673, 1),
  (3713, 3714, 1), (3716, 3716, 1), (3718, 3722, 1), (3724, 3747, 1), (3749, 3749, 1),
  (3751, 3769, 1), (3771, 3773, 1), (3776, 3780, 1), (3782, 3782, 1), (3789, 3789, 1),
  (3792, 3801, 1), (3804, 3807, 1), (3840, 3840, 1), (3872, 3891, 1), (3904, 3911, 1),
  (3913, 3948, 1), (3953, 3971, 1), (3976, 3991, 1), (3993, 4028, 1), (4096, 4150, 1),
  (4152, 4152, 1), (4155, 4169, 1), (4176, 4253, 1), (4256, 4293, 1), (4295, 4295, 1),
  (4301, 4301, 1), (4304, 4346, 1), (4348, 4680, 1), (4682, 4685, 1), (4688, 4694, 1),
  (4696, 4696, 1), (4698, 4701, 1), (4704, 4744, 1), (4746, 4749, 1), (4752, 4784, 1),
  (4786, 4789, 1), (4792, 4798, 1), (4800, 4800, 1), (4802, 4805, 1), (4808, 4822, 1),
  (4824, 4880, 1), (4882, 4885, 1), (4888, 4954, 1), (4969, 4988, 1), (4992, 5007, 1),
  (5024, 5109, 1), (5112, 5117, 1), (5121, 5740, 1), (5743, 5759, 1), (5761, 5786, 1),
  (5792, 5866, 1), (5870, 5880, 1), (5888, 5907, 1), (5919, 5939, 1), (5952, 5971, 1),
  (5984, 5996, 1), (5998, 6000, 1), (6002, 6003, 1), (6016, 6067, 1), (6070, 6088, 1),
  (6103, 6103, 1), (6108, 6108, 1), (6112, 6121, 1), (6128, 6137, 1), (6160, 6169, 1),
  (6176, 6264, 1), (6272, 6314, 1), (6320, 6389, 1), (6400, 6430, 1), (6432, 6443, 1),
  (6448, 6456, 1), (6470, 6509, 1), (6512, 6516, 1), (6528, 6571, 1), (6576, 6601, 1),
  (6608, 6618, 1), (6656, 6683, 1), (6688, 6750, 1), (6753, 6772, 1), (6784, 6793, 1),
  (6800, 6809, 1), (6823, 6823, 1), (6847, 6848, 1), (6860, 6862, 1), (6912, 6963, 1),
  (6965, 6979, 1), (6981, 6988, 1), (6992, 7001, 1), (7040, 7081, 1), (7084, 7141, 1),
  (7143, 7153, 1), (7168, 7222, 1), (7232, 7241, 1), (7245, 7293, 1), (7296, 7306, 1),
  (7312, 7354, 1), (7357, 7359, 1), (7401, 7404, 1), (7406, 7411, 1), (7413, 7414, 1),
  (7418, 7418, 1), (7424, 7615, 1), (7635, 7668, 1), (7680, 7957, 1), (7960, 7965, 1),
  (7968, 8005, 1), (8008, 8013, 1), (8016, 8023, 1), (8025, 8025, 1), (8027, 8027, 1),
  (8029, 8029, 1), (8031, 8061, 1), (8064, 8116, 1), (8118, 8124, 1), (8126, 8126, 1),
  (8130, 8132, 1), (8134, 8140, 1), (8144, 8147, 1), (8150, 8155, 1), (8160, 8172, 1),
  (8178, 8180, 1), (8182, 8188, 1), (8304, 8305, 1), (8308, 8313, 1), (8319, 8329, 1),
  (8336, 8348, 1), (8450, 8450, 1), (8455, 8455, 1), (8458, 8467, 1), (8469, 8469, 1),
  (8473, 8477, 1), (8484, 8484, 1), (8486, 8486, 1), (8488, 8488, 1), (8490, 8493, 1),
  (8495, 8505, 1), (8508, 8511, 1), (8517, 8521, 1), (8526, 8526, 1), (8528, 8585, 1),
  (9312, 9371, 1), (9398, 9471, 1), (10102, 10131, 1), (11264, 11492, 1), (11499, 11502, 1),
  (11506, 11507, 1), (11517, 11517, 1), (11520, 11557, 1), (11559, 11559, 1), (11565, 11565, 1),
  (11568, 11623, 1), (11631, 11631, 1), (11648, 11670, 1), (11680, 11686, 1), (11688, 11694, 1),
  (11696, 11702, 1), (11704, 11710, 1), (11712, 11718, 1), (11720, 11726, 1), (11728, 11734, 1),
  (11736, 11742, 1), (11744, 11775, 1), (11823, 11823, 1), (12293, 12295, 1), (12321, 12329, 1),
  (12337, 12341, 1), (12344, 12348, 1), (12353, 12438, 1), (12445, 12447, 1), (12449, 12538, 1),
  (12540, 12543, 1), (12549, 12591, 1), (12593, 12686, 1), (12690, 12693, 1), (12704, 12735, 1),
  (12784, 12799, 1), (12832, 12841, 1), (12872, 12879, 1), (12881, 12895, 1), (12928, 12937, 1),
  (12977, 12991, 1), (13312, 19903, 1), (19968, 42124, 1), (42192, 42237, 1), (42240, 42508, 1),
  (42512, 42539, 1), (42560, 42606, 1), (42612, 42619, 1), (42623, 42735, 1), (42775, 42783, 1),
  (42786, 42888, 1), (42891, 42972, 1), (42993, 43013, 1), (43015, 43047, 1), (43056, 43061, 1),
  (43072, 43123, 1), (43136, 43203, 1), (43205, 43205, 1), (43216, 43225, 1), (43250, 43255, 1),
  (43259, 43259, 1), (43261, 43306, 1), (43312, 43346, 1), (43360, 43388, 1), (43392, 43442, 1),
  (43444, 43455, 1), (43471, 43481, 1), (43488, 43518, 1), (43520, 43574, 1), (43584, 43597, 1),
  (43600, 43609, 1), (43616, 43638, 1), (43642, 43710, 1), (43712, 43712, 1), (43714, 43714, 1),
  (43739, 43741, 1), (43744, 43759, 1), (43762, 43765, 1), (43777, 43782, 1), (43785, 43790, 1),
  (43793, 43798, 1), (43808, 43814, 1), (43816, 43822, 1), (43824, 43866, 1), (43868, 43881, 1),
  (43888, 44010, 1), (44016, 44025, 1), (44032, 55203, 1), (55216, 55238, 1), (55243, 55291, 1),
  (63744, 64109, 1), (64112, 64217, 1), (64256, 64262, 1), (64275, 64279, 1), (64285, 64296, 1),
  (64298, 64310, 1), (64312, 64316, 1), (64318, 64318, 1), (64320, 64321, 1), (64323, 64324, 1),
  (64326, 64433, 1), (64467, 64829, 1), (64848, 64911, 1), (64914, 64967, 1), (65008, 65019, 1),
  (65136, 65140, 1), (65142, 65276, 1), (65296, 65305, 1), (65313, 65338, 1), (65345, 65370, 1),
  (65382, 65470, 1), (65474, 65479, 1), (65482, 65487, 1), (65490, 65495, 1), (65498, 65500, 1),
  (65536, 65547, 1), (65549, 65574, 1), (65576, 65594, 1), (65596, 65597, 1), (65599, 65613, 1),
  (65616, 65629, 1), (65664, 65786, 1), (65799, 65843, 1), (65856, 65912, 1), (65930, 65931, 1),
  (66176, 66204, 1), (66208, 66256, 1), (66273, 66299, 1), (66304, 66339, 1), (66349, 66378, 1),
  (66384, 66426, 1), (66432, 66461, 1), (66464, 66499, 1), (66504, 66511, 1), (66513, 66517, 1),
  (66560, 66717, 1), (66720, 66729, 1), (66736, 66771, 1), (66776, 66811, 1), (66816, 66855, 1),
  (66864, 66915, 1), (66928, 66938, 1), (66940, 66954, 1), (66956, 66962, 1), (66964, 66965, 1),
  (66967, 66977, 1), (66979, 66993, 1), (66995, 67001, 1), (67003, 67004, 1), (67008, 67059, 1),
  (67072, 67382, 1), (67392, 67413, 1), (67424, 67431, 1), (67456, 67461, 1), (67463, 67504, 1),
  (67506, 67514, 1), (67584, 67589, 1), (67592, 67592, 1), (67594, 67637, 1), (67639, 67640, 1),
  (67644, 67644, 1), (67647, 67669, 1), (67672, 67702, 1), (67705, 67742, 1), (67751, 67759, 1),
  (67808, 67826, 1), (67828, 67829, 1), (67835, 67867, 1), (67872, 67897, 1), (67904, 67929, 1),
  (67968, 68023, 1), (68028, 68047, 1), (68050, 68099, 1), (68101, 68102, 1), (68108, 68115, 1),
  (68117, 68119, 1), (68121, 68149, 1), (68160, 68168, 1), (68192, 68222, 1), (68224, 68255, 1),
  (68288, 68295, 1), (68297, 68324, 1), (68331, 68335, 1), (68352, 68405, 1), (68416, 68437, 1),
  (68440, 68466, 1), (68472, 68497, 1), (68521, 68527, 1), (68608, 68680, 1), (68736, 68786, 1),
  (68800, 68850, 1), (68858, 68903, 1), (68912, 68921, 1), (68928, 68965, 1), (68969, 68969, 1),
  (68975, 68997, 1), (69216, 69246, 1), (69248, 69289, 1), (69291, 69292, 1), (69296, 69297, 1),
  (69314, 69319, 1), (69370, 69372, 1), (69376, 69415, 1), (69424, 69445, 1), (69457, 69460, 1),
  (69488, 69505, 1), (69552, 69579, 1), (69600, 69622, 1), (69632, 69701, 1), (69714, 69743, 1),
  (69745, 69749, 1), (69760, 69816, 1), (69826, 69826, 1), (69840, 69864, 1), (69872, 69881, 1),
  (69888, 69938, 1), (69942, 69951, 1), (69956, 69959, 1), (69968, 70002, 1), (70006, 70006, 1),
  (70016, 70079, 1), (70081, 70084, 1), (70094, 70106, 1), (70108, 70108, 1), (70113, 70132, 1),
  (70144, 70161, 1), (70163, 70196, 1), (70199, 70199, 1), (70206, 70209, 1), (70272, 70278, 1),
  (70280, 70280, 1), (70282, 70285, 1), (70287, 70301, 1), (70303, 70312, 1), (70320, 70376, 1),
  (70384, 70393, 1), (70400, 70403, 1), (70405, 70412, 1), (70415, 70416, 1), (70419, 70440, 1),
  (70442, 70448, 1), (70450, 70451, 1), (70453, 70457, 1), (70461, 70468, 1), (70471, 70472, 1),
  (70475, 70476, 1), (70480, 70480, 1), (70487, 70487, 1), (70493, 70499, 1), (70528, 70537, 1),
  (70539, 70539, 1), (70542, 70542, 1), (70544, 70581, 1), (70583, 70592, 1), (70594, 70594, 1),
  (70597, 70597, 1), (70599, 70602, 1), (70604, 70605, 1), (70609, 70609, 1), (70611, 70611, 1),
  (70656, 70721, 1), (70723, 70725, 1), (70727, 70730, 1), (70736, 70745, 1), (70751, 70753, 1),
  (70784, 70849, 1), (70852, 70853, 1), (70855, 70855, 1), (70864, 70873, 1), (71040, 71093, 1),
  (71096, 71102, 1), (71128, 71133, 1), (71168, 71230, 1), (71232, 71232, 1), (71236, 71236, 1),
  (71248, 71257, 1), (71296, 71349, 1), (71352, 71352, 1), (71360, 71369, 1), (71376, 71395, 1),
  (71424, 71450, 1), (71453, 71466, 1), (71472, 71483, 1), (71488, 71494, 1), (71680, 71736, 1),
  (71840, 71922, 1), (71935, 71942, 1), (71945, 71945, 1), (71948, 71955, 1), (71957, 71958, 1),
  (71960, 71989, 1), (71991, 71992, 1), (71995, 71996, 1), (71999, 72002, 1), (72016, 72025, 1),
  (72096, 72103, 1), (72106, 72151, 1), (72154, 72159, 1), (72161, 72161, 1), (72163, 72164, 1),
  (72192, 72242, 1), (72245, 72254, 1), (72272, 72343, 1), (72349, 72349, 1), (72368, 72440, 1),
  (72544, 72551, 1), (72640, 72672, 1), (72688, 72697, 1), (72704, 72712, 1), (72714, 72758, 1),
  (72760, 72766, 1), (72768, 72768, 1), (72784, 72812, 1), (72818, 72847, 1), (72850, 72871, 1),
  (72873, 72886, 1), (72960, 72966, 1), (72968, 72969, 1), (72971, 73014, 1), (73018, 73018, 1),
  (73020, 73021, 1), (73023, 73025, 1), (73027, 73027, 1), (73030, 73031, 1), (73040, 73049, 1),
  (73056, 73061, 1), (73063, 73064, 1), (73066, 73102, 1), (73104, 73105, 1), (73107, 73110, 1),
  (73112, 73112, 1), (73120, 73129, 1), (73136, 73179, 1), (73184, 73193, 1), (73440, 73462, 1),
  (73472, 73488, 1), (73490, 73530, 1), (73534, 73536, 1), (73552, 73561, 1), (73648, 73648, 1),
  (73664, 73684, 1), (73728, 74649, 1), (74752, 74862, 1), (74880, 75075, 1), (77712, 77808, 1),
  (77824, 78895, 1), (78913, 78918, 1), (78944, 82938, 1), (82944, 83526, 1), (90368, 90414, 1),
  (90416, 90425, 1), (92160, 92728, 1), (92736, 92766, 1), (92768, 92777, 1), (92784, 92862, 1),
  (92864, 92873, 1), (92880, 92909, 1), (92928, 92975, 1), (92992, 92995, 1), (93008, 93017, 1),
  (93019, 93025, 1), (93027, 93047, 1), (93053, 93071, 1), (93504, 93548, 1), (93552, 93561, 1),
  (93760, 93846, 1), (93856, 93880, 1), (93883, 93907, 1), (93952, 94026, 1), (94031, 94087, 1),
  (94095, 94111, 1), (94176, 94177, 1), (94179, 94179, 1), (94192, 94198, 1), (94208, 101589, 1),
  (101631, 101662, 1), (101760, 101874, 1), (110576, 110579, 1), (110581, 110587, 1),
  (110589, 110590, 1), (110592, 110882, 1), (110898, 110898, 1), (110928, 110930, 1),
  (110933, 110933, 1), (110948, 110951, 1), (110960, 111355, 1), (113664, 113770, 1),
  (113776, 113788, 1), (113792, 113800, 1), (113808, 113817, 1), (113822, 113822, 1),
  (118000, 118009, 1), (119488, 119507, 1), (119520, 119539, 1), (119648, 119672, 1),
  (119808, 119892, 1), (119894, 119964, 1), (119966, 119967, 1), (119970, 119970, 1),
  (119973, 119974, 1), (119977, 119980, 1), (119982, 119993, 1), (119995, 119995, 1),
  (119997, 120003, 1), (120005, 120069, 1), (120071, 120074, 1), (120077, 120084, 1),
  (120086, 120092, 1), (120094, 120121, 1), (120123, 120126, 1), (120128, 120132, 1),
  (120134, 120134, 1), (120138, 120144, 1), (120146, 120485, 1), (120488, 120512, 1),
  (120514, 120538, 1), (120540, 120570, 1), (120572, 120596, 1), (120598, 120628, 1),
  (120630, 120654, 1), (120656, 120686, 1), (120688, 120712, 1), (120714, 120744, 1),
  (120746, 120770, 1), (120772, 120779, 1), (120782, 120831, 1), (122624, 122654, 1),
  (122661, 122666, 1), (122880, 122886, 1), (122888, 122904, 1), (122907, 122913, 1),
  (122915, 122916, 1), (122918, 122922, 1), (122928, 122989, 1), (123023, 123023, 1),
  (123136, 123180, 1), (123191, 123197, 1), (123200, 123209, 1), (123214, 123214, 1),
  (123536, 123565, 1), (123584, 123627, 1), (123632, 123641, 1), (124112, 124139, 1),
  (124144, 124153, 1), (124368, 124397, 1), (124400, 124410, 1), (124608, 124638, 1),
  (124640, 124661, 1), (124670, 124671, 1), (124896, 124902, 1), (124904, 124907, 1),
  (124909, 124910, 1), (124912, 124926, 1), (124928, 125124, 1), (125127, 125135, 1),
  (125184, 125251, 1), (125255, 125255, 1), (125259, 125259, 1), (125264, 125273, 1),
  (126065, 126123, 1), (126125, 126127, 1), (126129, 126132, 1), (126209, 126253, 1),
  (126255, 126269, 1), (126464, 126467, 1), (126469, 126495, 1), (126497, 126498, 1),
  (126500, 126500, 1), (126503, 126503, 1), (126505, 126514, 1), (126516, 126519, 1),
  (126521, 126521, 1), (126523, 126523, 1), (126530, 126530, 1), (126535, 126535, 1),
  (126537, 126537, 1), (126539, 126539, 1), (126541, 126543, 1), (126545, 126546, 1),
  (126548, 126548, 1), (126551, 126551, 1), (126553, 126553, 1), (126555, 126555, 1),
  (126557, 126557, 1), (126559, 126559, 1), (126561, 126562, 1), (126564, 126564, 1),
  (126567, 126570, 1), (126572, 126578, 1), (126580, 126583, 1), (126585, 126588, 1),
  (126590, 126590, 1), (126592, 126601, 1), (126603, 126619, 1), (126625, 126627, 1),
  (126629, 126633, 1), (126635, 126651, 1), (127232, 127244, 1), (127280, 127305, 1),
  (127312, 127337, 1), (127344, 127369, 1), (130032, 130041, 1), (131072, 173791, 1),
  (173824, 178205, 1), (178208, 183981, 1), (183984, 191456, 1), (191472, 192093, 1),
  (194560, 195101, 1), (196608, 201546, 1), (201552, 210041, 1)]

/-- Lower-case letters. -/
def lowercaseRuns : List Run := [
  (97, 122, 1), (170, 170, 1), (181, 181, 1), (186, 186, 1), (223, 246, 1), (248, 255, 1),
  (257, 311, 2), (312, 328, 2), (329, 375, 2), (378, 382, 2), (383, 384, 1), (387, 389, 2),
  (392, 392, 1), (396, 397, 1), (402, 402, 1), (405, 405, 1), (409, 411, 1), (414, 414, 1),
  (417, 421, 2), (424, 426, 2), (427, 429, 2), (432, 432, 1), (436, 438, 2), (441, 442, 1),
  (445, 447, 1), (454, 454, 1), (457, 457, 1), (460, 476, 2), (477, 495, 2), (496, 496, 1),
  (499, 501, 2), (505, 563, 2), (564, 569, 1), (572, 572, 1), (575, 576, 1), (578, 578, 1),
  (583, 591, 2), (592, 659, 1), (662, 696, 1), (704, 705, 1), (736, 740, 1), (837, 837, 1),
  (881, 883, 2), (887, 887, 1), (890, 893, 1), (912, 912, 1), (940, 974, 1), (976, 977, 1),
  (981, 983, 1), (985, 1007, 2), (1008, 1011, 1), (1013, 1013, 1), (1016, 1016, 1),
  (1019, 1020, 1), (1072, 1119, 1), (1121, 1153, 2), (1163, 1215, 2), (1218, 1230, 2),
  (1231, 1327, 2), (1376, 1416, 1), (4304, 4346, 1), (4348, 4351, 1), (5112, 5117, 1),
  (7296, 7304, 1), (7306, 7306, 1), (7424, 7615, 1), (7681, 7829, 2), (7830, 7837, 1),
  (7839, 7935, 2), (7936, 7943, 1), (7952, 7957, 1), (7968, 7975, 1), (7984, 7991, 1),
  (8000, 8005, 1), (8016, 8023, 1), (8032, 8039, 1), (8048, 8061, 1), (8064, 8071, 1),
  (8080, 8087, 1), (8096, 8103, 1), (8112, 8116, 1), (8118, 8119, 1), (8126, 8126, 1),
  (8130, 8132, 1), (8134, 8135, 1), (8144, 8147, 1), (8150, 8151, 1), (8160, 8167, 1),
  (8178, 8180, 1), (8182, 8183, 1), (8305, 8305, 1), (8319, 8319, 1), (8336, 8348, 1),
  (8458, 8458, 1), (8462, 8463, 1), (8467, 8467, 1), (8495, 8495, 1), (8500, 8500, 1),
  (8505, 8505, 1), (8508, 8509, 1), (8518, 8521, 1), (8526, 8526, 1), (8560, 8575, 1),
  (8580, 8580, 1), (9424, 9449, 1), (11312, 11359, 1), (11361, 11361, 1), (11365, 11366, 1),
  (11368, 11372, 2), (11377, 11379, 2), (11380, 11382, 2), (11383, 11389, 1), (11393, 11491, 2),
  (11492, 11492, 1), (11500, 11502, 2), (11507, 11507, 1), (11520, 11557, 1), (11559, 11559, 1),
  (11565, 11565, 1), (42561, 42605, 2), (42625, 42651, 2), (42652, 42653, 1), (42787, 42799, 2),
  (42800, 42801, 1), (42803, 42863, 2), (42864, 42872, 1), (42874, 42876, 2), (42879, 42887, 2),
  (42892, 42894, 2), (42897, 42899, 2), (42900, 42901, 1), (42903, 42921, 2), (42927, 42927, 1),
  (42933, 42947, 2), (42952, 42954, 2), (42957, 42971, 2), (42993, 42996, 1), (42998, 43000, 2),
  (43001, 43002, 1), (43824, 43866, 1), (43868, 43881, 1), (43888, 43967, 1), (64256, 64262, 1),
  (64275, 64279, 1), (65345, 65370, 1), (66600, 66639, 1), (66776, 66811, 1), (66967, 66977, 1),
  (66979, 66993, 1), (66995, 67001, 1), (67003, 67004, 1), (67456, 67456, 1), (67459, 67461, 1),
  (67463, 67504, 1), (67506, 67514, 1), (68800, 68850, 1), (68976, 68997, 1), (71872, 71903, 1),
  (93792, 93823, 1), (93883, 93907, 1), (119834, 119859, 1), (119886, 119892, 1),
  (119894, 119911, 1), (119938, 119963, 1), (119990, 119993, 1), (119995, 119997, 2),
  (119998, 120003, 1), (120005, 120015, 1), (120042, 120067, 1), (120094, 120119, 1),
  (120146, 120171, 1), (120198, 120223, 1), (120250, 120275, 1), (120302, 120327, 1),
  (120354, 120379, 1), (120406, 120431, 1), (120458, 120485, 1), (120514, 120538, 1),
  (120540, 120545, 1), (120572, 120596, 1), (120598, 120603, 1), (120630, 120654, 1),
  (120656, 120661, 1), (120688, 120712, 1), (120714, 120719, 1), (120746, 120770, 1),
  (120772, 120777, 1), (120779, 120779, 1), (122624, 122633, 1), (122635, 122654, 1),
  (122661, 122666, 1), (122928, 122989, 1), (125218, 125251, 1)]

/-- Upper-case letters. -/
def uppercaseRuns : List Run := [
  (65, 90, 1), (192, 214, 1), (216, 222, 1), (256, 310, 2), (313, 327, 2), (330, 376, 2),
  (377, 381, 2), (385, 386, 1), (388, 390, 2), (391, 393, 2), (394, 395, 1), (398, 401, 1),
  (403, 404, 1), (406, 408, 1), (412, 413, 1), (415, 416, 1), (418, 422, 2), (423, 425, 2),
  (428, 430, 2), (431, 433, 2), (434, 435, 1), (437, 439, 2), (440, 440, 1), (444, 444, 1),
  (452, 452, 1), (455, 455, 1), (458, 458, 1), (461, 475, 2), (478, 494, 2), (497, 497, 1),
  (500, 502, 2), (503, 504, 1), (506, 562, 2), (570, 571, 1), (573, 574, 1), (577, 579, 2),
  (580, 582, 1), (584, 590, 2), (880, 882, 2), (886, 886, 1), (895, 895, 1), (902, 904, 2),
  (905, 906, 1), (908, 910, 2), (911, 913, 2), (914, 929, 1), (931, 939, 1), (975, 975, 1),
  (978, 980, 1), (984, 1006, 2), (1012, 1012, 1), (1015, 1017, 2), (1018, 1018, 1),
  (1021, 1071, 1), (1120, 1152, 2), (1162, 1216, 2), (1217, 1229, 2), (1232, 1326, 2),
  (1329, 1366, 1), (4256, 4293, 1), (4295, 4295, 1), (4301, 4301, 1), (5024, 5109, 1),
  (7305, 7305, 1), (7312, 7354, 1), (7357, 7359, 1), (7680, 7828, 2), (7838, 7934, 2),
  (7944, 7951, 1), (7960, 7965, 1), (7976, 7983, 1), (7992, 7999, 1), (8008, 8013, 1),
  (8025, 8031, 2), (8040, 8047, 1), (8120, 8123, 1), (8136, 8139, 1), (8152, 8155, 1),
  (8168, 8172, 1), (8184, 8187, 1), (8450, 8450, 1), (8455, 8455, 1), (8459, 8461, 1),
  (8464, 8466, 1), (8469, 8469, 1), (8473, 8477, 1), (8484, 8490, 2), (8491, 8493, 1),
  (8496, 8499, 1), (8510, 8511, 1), (8517, 8517, 1), (8544, 8559, 1), (8579, 8579, 1),
  (9398, 9423, 1), (11264, 11311, 1), (11360, 11362, 2), (11363, 11364, 1), (11367, 11373, 2),
  (11374, 11376, 1), (11378, 11378, 1), (11381, 11381, 1), (11390, 11392, 1), (11394, 11490, 2),
  (11499, 11501, 2), (11506, 11506, 1), (42560, 42604, 2), (42624, 42650, 2), (42786, 42798, 2),
  (42802, 42862, 2), (42873, 42877, 2), (42878, 42886, 2), (42891, 42893, 2), (42896, 42898, 2),
  (42902, 42922, 2), (42923, 42926, 1), (42928, 42932, 1), (42934, 42948, 2), (42949, 42951, 1),
  (42953, 42955, 2), (42956, 42972, 2), (42997, 42997, 1), (65313, 65338, 1), (66560, 66599, 1),
  (66736, 66771, 1), (66928, 66938, 1), (66940, 66954, 1), (66956, 66962, 1), (66964, 66965, 1),
  (68736, 68786, 1), (68944, 68965, 1), (71840, 71871, 1), (93760, 93791, 1), (93856, 93880, 1),
  (119808, 119833, 1), (119860, 119885, 1), (119912, 119937, 1), (119964, 119966, 2),
  (119967, 119967, 1), (119970, 119970, 1), (119973, 119974, 1), (119977, 119980, 1),
  (119982, 119989, 1), (120016, 120041, 1), (120068, 120069, 1), (120071, 120074, 1),
  (120077, 120084, 1), (120086, 120092, 1), (120120, 120121, 1), (120123, 120126, 1),
  (120128, 120132, 1), (120134, 120134, 1), (120138, 120144, 1), (120172, 120197, 1),
  (120224, 120249, 1), (120276, 120301, 1), (120328, 120353, 1), (120380, 120405, 1),
  (120432, 120457, 1), (120488, 120512, 1), (120546, 120570, 1), (120604, 120628, 1),
  (120662, 120686, 1), (120720, 120744, 1), (120778, 120778, 1), (125184, 125217, 1),
  (127280, 127305, 1), (127312, 127337, 1), (127344, 127369, 1)]

/-- Title-case digraphs, cased but neither lower nor upper. -/
def titlecaseRuns : List Run := [
  (453, 453, 1), (456, 456, 1), (459, 459, 1), (498, 498, 1), (8072, 8079, 1), (8088, 8095, 1),
  (8104, 8111, 1), (8124, 8124, 1), (8140, 8140, 1), (8188, 8188, 1)]

/-- Characters that the rules on word ends look through: marks, modifiers, some punctuation. -/
def caseIgnorableRuns : List Run := [
  (39, 39, 1), (46, 46, 1), (58, 58, 1), (94, 94, 1), (96, 96, 1), (168, 168, 1), (173, 173, 1),
  (175, 175, 1), (180, 180, 1), (183, 184, 1), (688, 879, 1), (884, 885, 1), (890, 890, 1),
  (900, 901, 1), (903, 903, 1), (1155, 1161, 1), (1369, 1369, 1), (1375, 1375, 1),
  (1425, 1469, 1), (1471, 1471, 1), (1473, 1474, 1), (1476, 1477, 1), (1479, 1479, 1),
  (1524, 1524, 1), (1536, 1541, 1), (1552, 1562, 1), (1564, 1564, 1), (1600, 1600, 1),
  (1611, 1631, 1), (1648, 1648, 1), (1750, 1757, 1), (1759, 1768, 1), (1770, 1773, 1),
  (1807, 1807, 1), (1809, 1809, 1), (1840, 1866, 1), (1958, 1968, 1), (2027, 2037, 1),
  (2042, 2042, 1), (2045, 2045, 1), (2070, 2093, 1), (2137, 2139, 1), (2184, 2184, 1),
  (2192, 2193, 1), (2199, 2207, 1), (2249, 2306, 1), (2362, 2362, 1), (2364, 2364, 1),
  (2369, 2376, 1), (2381, 2381, 1), (2385, 2391, 1), (2402, 2403, 1), (2417, 2417, 1),
  (2433, 2433, 1), (2492, 2492, 1), (2497, 2500, 1), (2509, 2509, 1), (2530, 2531, 1),
  (2558, 2558, 1), (2561, 2562, 1), (2620, 2620, 1), (2625, 2626, 1), (2631, 2632, 1),
  (2635, 2637, 1), (2641, 2641, 1), (2672, 2673, 1), (2677, 2677, 1), (2689, 2690, 1),
  (2748, 2748, 1), (2753, 2757, 1), (2759, 2760, 1), (2765, 2765, 1), (2786, 2787, 1),
  (2810, 2815, 1), (2817, 2817, 1), (2876, 2876, 1), (2879, 2879, 1), (2881, 2884, 1),
  (2893, 2893, 1), (2901, 2902, 1), (2914, 2915, 1), (2946, 2946, 1), (3008, 3008, 1),
  (3021, 3021, 1), (3072, 3072, 1), (3076, 3076, 1), (3132, 3132, 1), (3134, 3136, 1),
  (3142, 3144, 1), (3146, 3149, 1), (3157, 3158, 1), (3170, 3171, 1), (3201, 3201, 1),
  (3260, 3260, 1), (3263, 3263, 1), (3270, 3270, 1), (3276, 3277, 1), (3298, 3299, 1),
  (3328, 3329, 1), (3387, 3388, 1), (3393, 3396, 1), (3405, 3405, 1), (3426, 3427, 1),
  (3457, 3457, 1), (3530, 3530, 1), (3538, 3540, 1), (3542, 3542, 1), (3633, 3633, 1),
  (3636, 3642, 1), (3654, 3662, 1), (3761, 3761, 1), (3764, 3772, 1), (3782, 3782, 1),
  (3784, 3790, 1), (3864, 3865, 1), (3893, 3893, 1), (3895, 3895, 1), (3897, 3897, 1),
  (3953, 3966, 1), (3968, 3972, 1), (3974, 3975, 1), (3981, 3991, 1), (3993, 4028, 1),
  (4038, 4038, 1), (4141, 4144, 1), (4146, 4151, 1), (4153, 4154, 1), (4157, 4158, 1),
  (4184, 4185, 1), (4190, 4192, 1), (4209, 4212, 1), (4226, 4226, 1), (4229, 4230, 1),
  (4237, 4237, 1), (4253, 4253, 1), (4348, 4348, 1), (4957, 4959, 1), (5906, 5908, 1),
  (5938, 5939, 1), (5970, 5971, 1), (6002, 6003, 1), (6068, 6069, 1), (6071, 6077, 1),
  (6086, 6086, 1), (6089, 6099, 1), (6103, 6103, 1), (6109, 6109, 1), (6155, 6159, 1),
  (6211, 6211, 1), (6277, 6278, 1), (6313, 6313, 1), (6432, 6434, 1), (6439, 6440, 1),
  (6450, 6450, 1), (6457, 6459, 1), (6679, 6680, 1), (6683, 6683, 1), (6742, 6742, 1),
  (6744, 6750, 1), (6752, 6752, 1), (6754, 6754, 1), (6757, 6764, 1), (6771, 6780, 1),
  (6783, 6783, 1), (6823, 6823, 1), (6832, 6877, 1), (6880, 6891, 1), (6912, 6915, 1),
  (6964, 6964, 1), (6966, 6970, 1), (6972, 6972, 1), (6978, 6978, 1), (7019, 7027, 1),
  (7040, 7041, 1), (7074, 7077, 1), (7080, 7081, 1), (7083, 7085, 1), (7142, 7142, 1),
  (7144, 7145, 1), (7149, 7149, 1), (7151, 7153, 1), (7212, 7219, 1), (7222, 7223, 1),
  (7288, 7293, 1), (7376, 7378, 1), (7380, 7392, 1), (7394, 7400, 1), (7405, 7405, 1),
  (7412, 7412, 1), (7416, 7417, 1), (7468, 7530, 1), (7544, 7544, 1), (7579, 7679, 1),
  (8125, 8125, 1), (8127, 8129, 1), (8141, 8143, 1), (8157, 8159, 1), (8173, 8175, 1),
  (8189, 8190, 1), (8203, 8207, 1), (8216, 8217, 1), (8228, 8228, 1), (8231, 8231, 1),
  (8234, 8238, 1), (8288, 8292, 1), (8294, 8303, 1), (8305, 8305, 1), (8319, 8319, 1),
  (8336, 8348, 1), (8400, 8432, 1), (11388, 11389, 1), (11503, 11505, 1), (11631, 11631, 1),
  (11647, 11647, 1), (11744, 11775, 1), (11823, 11823, 1), (12293, 12293, 1), (12330, 12333, 1),
  (12337, 12341, 1), (12347, 12347, 1), (12441, 12446, 1), (12540, 12542, 1), (40981, 40981, 1),
  (42232, 42237, 1), (42508, 42508, 1), (42607, 42610, 1), (42612, 42621, 1), (42623, 42623, 1),
  (42652, 42655, 1), (42736, 42737, 1), (42752, 42785, 1), (42864, 42864, 1), (42888, 42890, 1),
  (42993, 42996, 1), (43000, 43001, 1), (43010, 43010, 1), (43014, 43014, 1), (43019, 43019, 1),
  (43045, 43046, 1), (43052, 43052, 1), (43204, 43205, 1), (43232, 43249, 1), (43263, 43263, 1),
  (43302, 43309, 1), (43335, 43345, 1), (43392, 43394, 1), (43443, 43443, 1), (43446, 43449, 1),
  (43452, 43453, 1), (43471, 43471, 1), (43493, 43494, 1), (43561, 43566, 1), (43569, 43570, 1),
  (43573, 43574, 1), (43587, 43587, 1), (43596, 43596, 1), (43632, 43632, 1), (43644, 43644, 1),
  (43696, 43696, 1), (43698, 43700, 1), (43703, 43704, 1), (43710, 43711, 1), (43713, 43713, 1),
  (43741, 43741, 1), (43756, 43757, 1), (43763, 43764, 1), (43766, 43766, 1), (43867, 43871, 1),
  (43881, 43883, 1), (44005, 44005, 1), (44008, 44008, 1), (44013, 44013, 1), (64286, 64286, 1),
  (64434, 64450, 1), (65024, 65039, 1), (65043, 65043, 1), (65056, 65071, 1), (65106, 65106, 1),
  (65109, 65109, 1), (65279, 65279, 1), (65287, 65287, 1), (65294, 65294, 1), (65306, 65306, 1),
  (65342, 65342, 1), (65344, 65344, 1), (65392, 65392, 1), (65438, 65439, 1), (65507, 65507, 1),
  (65529, 65531, 1), (66045, 66045, 1), (66272, 66272, 1), (66422, 66426, 1), (67456, 67461, 1),
  (67463, 67504, 1), (67506, 67514, 1), (68097, 68099, 1), (68101, 68102, 1), (68108, 68111, 1),
  (68152, 68154, 1), (68159, 68159, 1), (68325, 68326, 1), (68900, 68903, 1), (68942, 68942, 1),
  (68969, 68973, 1), (68975, 68975, 1), (69291, 69292, 1), (69317, 69317, 1), (69370, 69375, 1),
  (69446, 69456, 1), (69506, 69509, 1), (69633, 69633, 1), (69688, 69702, 1), (69744, 69744, 1),
  (69747, 69748, 1), (69759, 69761, 1), (69811, 69814, 1), (69817, 69818, 1), (69821, 69821, 1),
  (69826, 69826, 1), (69837, 69837, 1), (69888, 69890, 1), (69927, 69931, 1), (69933, 69940, 1),
  (70003, 70003, 1), (70016, 70017, 1), (70070, 70078, 1), (70089, 70092, 1), (70095, 70095, 1),
  (70191, 70193, 1), (70196, 70196, 1), (70198, 70199, 1), (70206, 70206, 1), (70209, 70209, 1),
  (70367, 70367, 1), (70371, 70378, 1), (70400, 70401, 1), (70459, 70460, 1), (70464, 70464, 1),
  (70502, 70508, 1), (70512, 70516, 1), (70587, 70592, 1), (70606, 70606, 1), (70608, 70608, 1),
  (70610, 70610, 1), (70625, 70626, 1), (70712, 70719, 1), (70722, 70724, 1), (70726, 70726, 1),
  (70750, 70750, 1), (70835, 70840, 1), (70842, 70842, 1), (70847, 70848, 1), (70850, 70851, 1),
  (71090, 71093, 1), (71100, 71101, 1), (71103, 71104, 1), (71132, 71133, 1), (71219, 71226, 1),
  (71229, 71229, 1), (71231, 71232, 1), (71339, 71339, 1), (71341, 71341, 1), (71344, 71349, 1),
  (71351, 71351, 1), (71453, 71453, 1), (71455, 71455, 1), (71458, 71461, 1), (71463, 71467, 1),
  (71727, 71735, 1), (71737, 71738, 1), (71995, 71996, 1), (71998, 71998, 1), (72003, 72003, 1),
  (72148, 72151, 1), (72154, 72155, 1), (72160, 72160, 1), (72193, 72202, 1), (72243, 72248, 1),
  (72251, 72254, 1), (72263, 72263, 1), (72273, 72278, 1), (72281, 72283, 1), (72330, 72342, 1),
  (72344, 72345, 1), (72544, 72544, 1), (72546, 72548, 1), (72550, 72550, 1), (72752, 72758, 1),
  (72760, 72765, 1), (72767, 72767, 1), (72850, 72871, 1), (72874, 72880, 1), (72882, 72883, 1),
  (72885, 72886, 1), (73009, 73014, 1), (73018, 73018, 1), (73020, 73021, 1), (73023, 73029, 1),
  (73031, 73031, 1), (73104, 73105, 1), (73109, 73109, 1), (73111, 73111, 1), (73177, 73177, 1),
  (73459, 73460, 1), (73472, 73473, 1), (73526, 73530, 1), (73536, 73536, 1), (73538, 73538, 1),
  (73562, 73562, 1), (78896, 78912, 1), (78919, 78933, 1), (90398, 90409, 1), (90413, 90415, 1),
  (92912, 92916, 1), (92976, 92982, 1), (92992, 92995, 1), (93504, 93506, 1), (93547, 93548, 1),
  (94031, 94031, 1), (94095, 94111, 1), (94176, 94177, 1), (94179, 94180, 1), (94194, 94195, 1),
  (110576, 110579, 1), (110581, 110587, 1), (110589, 110590, 1), (113821, 113822, 1),
  (113824, 113827, 1), (118528, 118573, 1), (118576, 118598, 1), (119143, 119145, 1),
  (119155, 119170, 1), (119173, 119179, 1), (119210, 119213, 1), (119362, 119364, 1),
  (121344, 121398, 1), (121403, 121452, 1), (121461, 121461, 1), (121476, 121476, 1),
  (121499, 121503, 1), (121505, 121519, 1), (122880, 122886, 1), (122888, 122904, 1),
  (122907, 122913, 1), (122915, 122916, 1), (122918, 122922, 1), (122928, 122989, 1),
  (123023, 123023, 1), (123184, 123197, 1), (123566, 123566, 1), (123628, 123631, 1),
  (124139, 124143, 1), (124398, 124399, 1), (124643, 124643, 1), (124646, 124646, 1),
  (124654, 124655, 1), (124661, 124661, 1), (124671, 124671, 1), (125136, 125142, 1),
  (125252, 125259, 1), (127995, 127999, 1), (917505, 917505, 1), (917536, 917631, 1),
  (917760, 917999, 1)]

/-- Decimal digits of every script. -/
def decimalDigitRuns : List Run := [
  (48, 57, 1), (1632, 1641, 1), (1776, 1785, 1), (1984, 1993, 1), (2406, 2415, 1),
  (2534, 2543, 1), (2662, 2671, 1), (2790, 2799, 1), (2918, 2927, 1), (3046, 3055, 1),
  (3174, 3183, 1), (3302, 3311, 1), (3430, 3439, 1), (3558, 3567, 1), (3664, 3673, 1),
  (3792, 3801, 1), (3872, 3881, 1), (4160, 4169, 1), (4240, 4249, 1), (6112, 6121, 1),
  (6160, 6169, 1), (6470, 6479, 1), (6608, 6617, 1), (6784, 6793, 1), (6800, 6809, 1),
  (6992, 7001, 1), (7088, 7097, 1), (7232, 7241, 1), (7248, 7257, 1), (42528, 42537, 1),
  (43216, 43225, 1), (43264, 43273, 1), (43472, 43481, 1), (43504, 43513, 1), (43600, 43609, 1),
  (44016, 44025, 1), (65296, 65305, 1), (66720, 66729, 1), (68912, 68921, 1), (68928, 68937, 1),
  (69734, 69743, 1), (69872, 69881, 1), (69942, 69951, 1), (70096, 70105, 1), (70384, 70393, 1),
  (70736, 70745, 1), (70864, 70873, 1), (71248, 71257, 1), (71360, 71369, 1), (71376, 71395, 1),
  (71472, 71481, 1), (71904, 71913, 1), (72016, 72025, 1), (72688, 72697, 1), (72784, 72793, 1),
  (73040, 73049, 1), (73120, 73129, 1), (73552, 73561, 1), (90416, 90425, 1), (92768, 92777, 1),
  (92864, 92873, 1), (93008, 93017, 1), (93552, 93561, 1), (118000, 118009, 1),
  (120782, 120831, 1), (123200, 123209, 1), (123632, 123641, 1), (124144, 124153, 1),
  (124401, 124410, 1), (125264, 125273, 1), (130032, 130041, 1)]

/-! ### The classes -/

/-- Whether `c` is a letter or a number of any script. -/
def isAlphanumeric (c : Char) : Bool :=
  if c.toNat < 128 then c.isAlphanum else inRuns alphanumericRuns c

/-- Whether `c` is a lower-case letter. -/
def isLowercase (c : Char) : Bool :=
  if c.toNat < 128 then c.isLower else inRuns lowercaseRuns c

/-- Whether `c` is an upper-case letter. -/
def isUppercase (c : Char) : Bool :=
  if c.toNat < 128 then c.isUpper else inRuns uppercaseRuns c

/-- Whether `c` has a case at all. -/
def isCased (c : Char) : Bool :=
  isLowercase c || isUppercase c || inRuns titlecaseRuns c

/-- Whether a search for the neighbouring letter passes over `c`. -/
def isCaseIgnorable (c : Char) : Bool := inRuns caseIgnorableRuns c

/-- Whether `c` is a decimal digit of any script. -/
def isDecimalDigit (c : Char) : Bool :=
  if c.toNat < 128 then c.isDigit else inRuns decimalDigitRuns c

end ModelSql.Text
