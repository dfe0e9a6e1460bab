/-
# Text.WordCharacter -- the characters of words

The ranges of the characters that a search term is made of: letters (the general
categories L), numbers (N), characters of private use (Co), and every code point that
has no category in version 6.1 of the standard, so that characters which came later are
never passed over.

Every letter and digit of ASCII is a character of words (`isWordCharacter_of_isAlphanum`).
-/
import CatalogListing.Text.Basic

namespace CatalogListing.Text

set_option autoImplicit false

/-- The ranges of the characters of words, ascending. -/
def wordRanges : List (Nat × Nat) := [
  (48, 57), (65, 90), (97, 122), (170, 170), (178, 179), (181, 181), (185, 186), (188, 190),
  (192, 214), (216, 246), (248, 705), (710, 721), (736, 740), (748, 748), (750, 750), (880, 884),
  (886, 893), (895, 899), (902, 902), (904, 1013), (1015, 1153), (1162, 1369), (1376, 1416),
  (1419, 1422), (1424, 1424), (1480, 1522), (1525, 1535), (1541, 1541), (1564, 1565),
  (1568, 1610), (1632, 1641), (1646, 1647), (1649, 1747), (1749, 1749), (1765, 1766),
  (1774, 1788), (1791, 1791), (1806, 1806), (1808, 1808), (1810, 1839), (1867, 1957),
  (1969, 2026), (2036, 2037), (2042, 2069), (2074, 2074), (2084, 2084), (2088, 2088),
  (2094, 2095), (2111, 2136), (2140, 2141), (2143, 2275), (2303, 2303), (2308, 2361),
  (2365, 2365), (2384, 2384), (2392, 2401), (2406, 2415), (2417, 2432), (2436, 2491),
  (2493, 2493), (2501, 2502), (2505, 2506), (2510, 2518), (2520, 2529), (2532, 2545),
  (2548, 2553), (2556, 2560), (2564, 2619), (2621, 2621), (2627, 2630), (2633, 2634),
  (2638, 2640), (2642, 2671), (2674, 2676), (2678, 2688), (2692, 2747), (2749, 2749),
  (2758, 2758), (2762, 2762), (2766, 2785), (2788, 2799), (2802, 2816), (2820, 2875),
  (2877, 2877), (2885, 2886), (2889, 2890), (2894, 2901), (2904, 2913), (2916, 2927),
  (2929, 2945), (2947, 3005), (3011, 3013), (3017, 3017), (3022, 3030), (3032, 3058),
  (3067, 3072), (3076, 3133), (3141, 3141), (3145, 3145), (3150, 3156), (3159, 3169),
  (3172, 3198), (3200, 3201), (3204, 3259), (3261, 3261), (3269, 3269), (3273, 3273),
  (3278, 3284), (3287, 3297), (3300, 3329), (3332, 3389), (3397, 3397), (3401, 3401),
  (3406, 3414), (3416, 3425), (3428, 3448), (3450, 3457), (3460, 3529), (3531, 3534),
  (3541, 3541), (3543, 3543), (3552, 3569), (3573, 3632), (3634, 3635), (3643, 3646),
  (3648, 3654), (3664, 3673), (3676, 3760), (3762, 3763), (3770, 3770), (3773, 3783),
  (3790, 3840), (3872, 3891), (3904, 3952), (3976, 3980), (3992, 3992), (4029, 4029),
  (4045, 4045), (4059, 4138), (4159, 4169), (4176, 4181), (4186, 4189), (4193, 4193),
  (4197, 4198), (4206, 4208), (4213, 4225), (4238, 4238), (4240, 4249), (4256, 4346),
  (4348, 4956), (4969, 5007), (5018, 5119), (5121, 5740), (5743, 5759), (5761, 5786),
  (5789, 5866), (5870, 5905), (5909, 5937), (5943, 5969), (5972, 6001), (6004, 6067),
  (6103, 6103), (6108, 6108), (6110, 6143), (6159, 6312), (6314, 6431), (6444, 6447),
  (6460, 6463), (6465, 6467), (6470, 6575), (6593, 6599), (6602, 6621), (6656, 6678),
  (6684, 6685), (6688, 6740), (6751, 6751), (6781, 6782), (6784, 6815), (6823, 6823),
  (6830, 6911), (6917, 6963), (6981, 7001), (7037, 7039), (7043, 7072), (7086, 7141),
  (7156, 7163), (7168, 7203), (7224, 7226), (7232, 7293), (7296, 7359), (7368, 7375),
  (7401, 7404), (7406, 7409), (7413, 7615), (7655, 7675), (7680, 8124), (8126, 8126),
  (8130, 8140), (8144, 8156), (8160, 8172), (8176, 8188), (8191, 8191), (8293, 8297),
  (8304, 8313), (8319, 8329), (8335, 8351), (8378, 8399), (8433, 8447), (8450, 8450),
  (8455, 8455), (8458, 8467), (8469, 8469), (8473, 8477), (8484, 8484), (8486, 8486),
  (8488, 8488), (8490, 8493), (8495, 8505), (8508, 8511), (8517, 8521), (8526, 8526),
  (8528, 8591), (9204, 9215), (9255, 9279), (9291, 9371), (9450, 9471), (9984, 9984),
  (10102, 10131), (11085, 11087), (11098, 11492), (11499, 11502), (11506, 11512), (11517, 11517),
  (11520, 11631), (11633, 11646), (11648, 11743), (11823, 11823), (11836, 11903), (11930, 11930),
  (12020, 12031), (12246, 12271), (12284, 12287), (12293, 12295), (12321, 12329), (12337, 12341),
  (12344, 12348), (12352, 12440), (12445, 12447), (12449, 12538), (12540, 12687), (12690, 12693),
  (12704, 12735), (12772, 12799), (12831, 12841), (12872, 12879), (12881, 12895), (12928, 12937),
  (12977, 12991), (13055, 13055), (13312, 19903), (19968, 42127), (42183, 42237), (42240, 42508),
  (42512, 42606), (42623, 42654), (42656, 42735), (42744, 42751), (42775, 42783), (42786, 42888),
  (42891, 43009), (43011, 43013), (43015, 43018), (43020, 43042), (43052, 43061), (43066, 43123),
  (43128, 43135), (43138, 43187), (43205, 43213), (43216, 43231), (43250, 43255), (43259, 43301),
  (43312, 43334), (43348, 43358), (43360, 43391), (43396, 43442), (43470, 43485), (43488, 43560),
  (43575, 43586), (43588, 43595), (43598, 43611), (43616, 43638), (43642, 43642), (43644, 43695),
  (43697, 43697), (43701, 43702), (43705, 43709), (43712, 43712), (43714, 43741), (43744, 43754),
  (43762, 43764), (43767, 44002), (44014, 64285), (64287, 64296), (64298, 64433), (64450, 64829),
  (64832, 65019), (65022, 65023), (65050, 65055), (65063, 65071), (65107, 65107), (65127, 65127),
  (65132, 65278), (65280, 65280), (65296, 65305), (65313, 65338), (65345, 65370), (65382, 65503),
  (65511, 65511), (65519, 65528), (65536, 65791), (65795, 65846), (65856, 65912), (65930, 65935),
  (65948, 65999), (66046, 66462), (66464, 66511), (66513, 67670), (67672, 67870), (67872, 67902),
  (67904, 68096), (68100, 68100), (68103, 68107), (68112, 68151), (68155, 68158), (68160, 68175),
  (68185, 68222), (68224, 68408), (68416, 69631), (69635, 69687), (69710, 69759), (69763, 69807),
  (69826, 69887), (69891, 69926), (69941, 69951), (69956, 70015), (70019, 70066), (70081, 70084),
  (70089, 71338), (71352, 74863), (74868, 94032), (94079, 94094), (94099, 118783),
  (119030, 119039), (119079, 119080), (119262, 119295), (119366, 119551), (119639, 120512),
  (120514, 120538), (120540, 120570), (120572, 120596), (120598, 120628), (120630, 120654),
  (120656, 120686), (120688, 120712), (120714, 120744), (120746, 120770), (120772, 126703),
  (126706, 126975), (127020, 127023), (127124, 127135), (127151, 127152), (127167, 127168),
  (127184, 127184), (127200, 127247), (127279, 127279), (127340, 127343), (127387, 127461),
  (127491, 127503), (127547, 127551), (127561, 127567), (127570, 127743), (127777, 127791),
  (127798, 127798), (127869, 127871), (127892, 127903), (127941, 127941), (127947, 127967),
  (127985, 127999), (128063, 128063), (128065, 128065), (128248, 128248), (128253, 128255),
  (128318, 128319), (128324, 128335), (128360, 128506), (128577, 128580), (128592, 128639),
  (128710, 128767), (128884, 917504), (917506, 917535), (917632, 917759), (918000, 1114111)]

/-- The character may stand in a word. -/
def isWordCharacter (c : Char) : Bool :=
  wordRanges.any fun range => range.1 ≤ c.toNat && c.toNat ≤ range.2

theorem isWordCharacter_of_mem {c : Char} {range : Nat × Nat} (listed : range ∈ wordRanges)
    (inside : range.1 ≤ c.toNat ∧ c.toNat ≤ range.2) : isWordCharacter c = true :=
  List.any_eq_true.2 ⟨range, listed, by simp [inside]⟩

theorem isWordCharacter_of_isAlphanum (c : Char) (alphanum : c.isAlphanum = true) :
    isWordCharacter c = true := by
  have within : ((decide (c.val ≥ 65 ∧ c.val ≤ 90) || (c.val ≥ 97 && c.val ≤ 122)) ||
      (c.val ≥ 48 && c.val ≤ 57)) = true := alphanum
  simp only [Bool.or_eq_true, Bool.and_eq_true, decide_eq_true_eq] at within
  rcases within with (upper | lower) | digit
  · exact isWordCharacter_of_mem (.tail _ (.head _)) upper
  · exact isWordCharacter_of_mem (.tail _ (.tail _ (.head _))) lower
  · exact isWordCharacter_of_mem (.head _) digit

end CatalogListing.Text
