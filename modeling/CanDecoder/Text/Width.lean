import CanDecoder.Text.Ranges

/-!
# Display width

The number of terminal columns a text takes, as table layout counts them. Most characters
take one column. These take none: default-ignorable code points (such as the soft hyphen,
the zero width joiner, variation selectors and the Hangul fillers), characters that extend
a grapheme (combining marks) and eight vowel signs that should (`U+0CC0`, `U+0CC7`,
`U+0CC8`, `U+0CCA`, `U+0CCB`, `U+1B3B`, `U+1B3D`, `U+1B43`), letters written before the
cluster they belong to (prepended, other than the prepended concatenation marks), the
Hangul vowel and final jamo, and the marks `U+0605`, `U+070F`, `U+0890`, `U+0891`,
`U+08E2` and `U+A8FA`. East Asian wide and fullwidth characters take two, and so do the
unassigned code points of the ideograph blocks and of planes 2 and 3, the Hangul
choseong filler `U+115F` and the Khmer vowel `U+17A4`; the Khmer sign beyyal `U+17D8`
takes three. The Tifinagh consonant joiner
`U+2D7F` takes one. Every character up to `U+00A0`, controls included, takes one column;
a carriage return before a line feed and the line feed take none.

Some sequences take less or more than their characters:

* an emoji presentation sequence (a character with an emoji variation and `U+FE0F`), a
  keycap, an emoji with a skin tone modifier, and a chain of such emoji joined by zero
  width joiners each take two; a chain that leads into a flag (two regional indicators)
  takes no room of its own, and the indicators are counted as usual, one column each;
* a wide emoji with a text variation followed by `U+FE0E` asks for text presentation and
  takes one, unless it is an enclosed ideograph (`U+1F200` to `U+1F2FF`); every wide emoji
  below `U+10000` has a text variation;
* script ligatures take one column in all: Arabic lam and alef (with transparent marks
  of no width between), Hebrew alef and lamed joined by a zero width joiner, the Buginese
  `U+1A15 U+1A17 ZWJ U+1A10`, the Old Turkic `U+10C32 ZWJ U+10C03`, two Tifinagh
  consonants around a joiner, and the Lisu tone letter pairs; and a Khmer coeng sign with
  the letter after it takes none. Outside Arabic, zero width joiners and
  default-ignorable combining marks may stand between the parts of a ligature.

The character tables follow Unicode 15.1.
-/

namespace CanDecoder.Text

/-- Code points of East Asian width `W` or `F`, with the unassigned code points of the
ideograph blocks and planes, which are wide by default. -/
def wideTable : RangeTable := #[
  (4352, 4447), (8986, 8987), (9001, 9002), (9193, 9196), (9200, 9200), (9203, 9203),
  (9725, 9726), (9748, 9749), (9800, 9811), (9855, 9855), (9875, 9875), (9889, 9889),
  (9898, 9899), (9917, 9918), (9924, 9925), (9934, 9934), (9940, 9940), (9962, 9962),
  (9970, 9971), (9973, 9973), (9978, 9978), (9981, 9981), (9989, 9989), (9994, 9995),
  (10024, 10024), (10060, 10060), (10062, 10062), (10067, 10069), (10071, 10071), (10133, 10135),
  (10160, 10160), (10175, 10175), (11035, 11036), (11088, 11088), (11093, 11093), (11904, 11929),
  (11931, 12019), (12032, 12245), (12272, 12350), (12353, 12438), (12441, 12543), (12549, 12591),
  (12593, 12686), (12688, 12771), (12783, 12830), (12832, 12871), (12880, 19903), (19968, 42124),
  (42128, 42182), (43360, 43388), (44032, 55203), (63744, 64255), (65040, 65049), (65072, 65106),
  (65108, 65126), (65128, 65131), (65281, 65376), (65504, 65510), (94176, 94180), (94192, 94193),
  (94208, 100343), (100352, 101589), (101632, 101640), (110576, 110579), (110581, 110587), (110589, 110590),
  (110592, 110882), (110898, 110898), (110928, 110930), (110933, 110933), (110948, 110951), (110960, 111355),
  (126980, 126980), (127183, 127183), (127374, 127374), (127377, 127386), (127488, 127490), (127504, 127547),
  (127552, 127560), (127568, 127569), (127584, 127589), (127744, 127776), (127789, 127797), (127799, 127868),
  (127870, 127891), (127904, 127946), (127951, 127955), (127968, 127984), (127988, 127988), (127992, 128062),
  (128064, 128064), (128066, 128252), (128255, 128317), (128331, 128334), (128336, 128359), (128378, 128378),
  (128405, 128406), (128420, 128420), (128507, 128591), (128640, 128709), (128716, 128716), (128720, 128722),
  (128725, 128727), (128732, 128735), (128747, 128748), (128756, 128764), (128992, 129003), (129008, 129008),
  (129292, 129338), (129340, 129349), (129351, 129535), (129648, 129660), (129664, 129672), (129680, 129725),
  (129727, 129733), (129742, 129755), (129760, 129768), (129776, 129784), (131072, 196605), (196608, 262141)]

/-- Code points that take no column: default-ignorable code points, `Grapheme_Extend`
characters, eight Kannada and Balinese vowel signs that join them, prepended letters
(`Grapheme_Cluster_Break=Prepend` outside the prepended concatenation marks), the Hangul
vowel and final jamo, and five marks drawn over their neighbours and `U+A8FA`. -/
def zeroWidthTable : RangeTable := #[
  (173, 173), (768, 879), (1155, 1161), (1425, 1469), (1471, 1471), (1473, 1474),
  (1476, 1477), (1479, 1479), (1541, 1541), (1552, 1562), (1564, 1564), (1611, 1631),
  (1648, 1648), (1750, 1756), (1759, 1764), (1767, 1768), (1770, 1773), (1807, 1807),
  (1809, 1809), (1840, 1866), (1958, 1968), (2027, 2035), (2045, 2045), (2070, 2073),
  (2075, 2083), (2085, 2087), (2089, 2093), (2137, 2139), (2192, 2193), (2200, 2207),
  (2250, 2306), (2362, 2362), (2364, 2364), (2369, 2376), (2381, 2381), (2385, 2391),
  (2402, 2403), (2433, 2433), (2492, 2492), (2494, 2494), (2497, 2500), (2509, 2509),
  (2519, 2519), (2530, 2531), (2558, 2558), (2561, 2562), (2620, 2620), (2625, 2626),
  (2631, 2632), (2635, 2637), (2641, 2641), (2672, 2673), (2677, 2677), (2689, 2690),
  (2748, 2748), (2753, 2757), (2759, 2760), (2765, 2765), (2786, 2787), (2810, 2815),
  (2817, 2817), (2876, 2876), (2878, 2879), (2881, 2884), (2893, 2893), (2901, 2903),
  (2914, 2915), (2946, 2946), (3006, 3006), (3008, 3008), (3021, 3021), (3031, 3031),
  (3072, 3072), (3076, 3076), (3132, 3132), (3134, 3136), (3142, 3144), (3146, 3149),
  (3157, 3158), (3170, 3171), (3201, 3201), (3260, 3260), (3263, 3264), (3266, 3266),
  (3270, 3272), (3274, 3277), (3285, 3286), (3298, 3299), (3328, 3329), (3387, 3388),
  (3390, 3390), (3393, 3396), (3405, 3406), (3415, 3415), (3426, 3427), (3457, 3457),
  (3530, 3530), (3535, 3535), (3538, 3540), (3542, 3542), (3551, 3551), (3633, 3633),
  (3636, 3642), (3655, 3662), (3761, 3761), (3764, 3772), (3784, 3790), (3864, 3865),
  (3893, 3893), (3895, 3895), (3897, 3897), (3953, 3966), (3968, 3972), (3974, 3975),
  (3981, 3991), (3993, 4028), (4038, 4038), (4141, 4144), (4146, 4151), (4153, 4154),
  (4157, 4158), (4184, 4185), (4190, 4192), (4209, 4212), (4226, 4226), (4229, 4230),
  (4237, 4237), (4253, 4253), (4447, 4607), (4957, 4959), (5906, 5908), (5938, 5939),
  (5970, 5971), (6002, 6003), (6068, 6069), (6071, 6077), (6086, 6086), (6089, 6099),
  (6109, 6109), (6155, 6159), (6277, 6278), (6313, 6313), (6432, 6434), (6439, 6440),
  (6450, 6450), (6457, 6459), (6679, 6680), (6683, 6683), (6742, 6742), (6744, 6750),
  (6752, 6752), (6754, 6754), (6757, 6764), (6771, 6780), (6783, 6783), (6832, 6862),
  (6912, 6915), (6964, 6973), (6978, 6979), (7019, 7027), (7040, 7041), (7074, 7077),
  (7080, 7081), (7083, 7085), (7142, 7142), (7144, 7145), (7149, 7149), (7151, 7153),
  (7212, 7219), (7222, 7223), (7376, 7378), (7380, 7392), (7394, 7400), (7405, 7405),
  (7412, 7412), (7416, 7417), (7616, 7679), (8203, 8207), (8234, 8238), (8288, 8303),
  (8400, 8432), (11503, 11505), (11647, 11647), (11744, 11775), (12330, 12335), (12441, 12442),
  (12644, 12644), (42607, 42610), (42612, 42621), (42654, 42655), (42736, 42737), (43010, 43010),
  (43014, 43014), (43019, 43019), (43045, 43046), (43052, 43052), (43204, 43205), (43232, 43249),
  (43258, 43258), (43263, 43263), (43302, 43309), (43335, 43345), (43392, 43394), (43443, 43443),
  (43446, 43449), (43452, 43453), (43493, 43493), (43561, 43566), (43569, 43570), (43573, 43574),
  (43587, 43587), (43596, 43596), (43644, 43644), (43696, 43696), (43698, 43700), (43703, 43704),
  (43710, 43711), (43713, 43713), (43756, 43757), (43766, 43766), (44005, 44005), (44008, 44008),
  (44013, 44013), (55216, 55238), (55243, 55291), (64286, 64286), (65024, 65039), (65056, 65071),
  (65279, 65279), (65438, 65440), (65520, 65528), (66045, 66045), (66272, 66272), (66422, 66426),
  (68097, 68099), (68101, 68102), (68108, 68111), (68152, 68154), (68159, 68159), (68325, 68326),
  (68900, 68903), (69291, 69292), (69373, 69375), (69446, 69456), (69506, 69509), (69633, 69633),
  (69688, 69702), (69744, 69744), (69747, 69748), (69759, 69761), (69811, 69814), (69817, 69818),
  (69826, 69826), (69888, 69890), (69927, 69931), (69933, 69940), (70003, 70003), (70016, 70017),
  (70070, 70078), (70082, 70083), (70089, 70092), (70095, 70095), (70191, 70193), (70196, 70196),
  (70198, 70199), (70206, 70206), (70209, 70209), (70367, 70367), (70371, 70378), (70400, 70401),
  (70459, 70460), (70462, 70462), (70464, 70464), (70487, 70487), (70502, 70508), (70512, 70516),
  (70712, 70719), (70722, 70724), (70726, 70726), (70750, 70750), (70832, 70832), (70835, 70840),
  (70842, 70842), (70845, 70845), (70847, 70848), (70850, 70851), (71087, 71087), (71090, 71093),
  (71100, 71101), (71103, 71104), (71132, 71133), (71219, 71226), (71229, 71229), (71231, 71232),
  (71339, 71339), (71341, 71341), (71344, 71349), (71351, 71351), (71453, 71455), (71458, 71461),
  (71463, 71467), (71727, 71735), (71737, 71738), (71984, 71984), (71995, 71996), (71998, 71999),
  (72001, 72001), (72003, 72003), (72148, 72151), (72154, 72155), (72160, 72160), (72193, 72202),
  (72243, 72248), (72250, 72254), (72263, 72263), (72273, 72278), (72281, 72283), (72324, 72342),
  (72344, 72345), (72752, 72758), (72760, 72765), (72767, 72767), (72850, 72871), (72874, 72880),
  (72882, 72883), (72885, 72886), (73009, 73014), (73018, 73018), (73020, 73021), (73023, 73031),
  (73104, 73105), (73109, 73109), (73111, 73111), (73459, 73460), (73472, 73474), (73526, 73530),
  (73536, 73536), (73538, 73538), (78912, 78912), (78919, 78933), (92912, 92916), (92976, 92982),
  (94031, 94031), (94095, 94098), (94180, 94180), (113821, 113822), (113824, 113827), (118528, 118573),
  (118576, 118598), (119141, 119141), (119143, 119145), (119150, 119170), (119173, 119179), (119210, 119213),
  (119362, 119364), (121344, 121398), (121403, 121452), (121461, 121461), (121476, 121476), (121499, 121503),
  (121505, 121519), (122880, 122886), (122888, 122904), (122907, 122913), (122915, 122916), (122918, 122922),
  (123023, 123023), (123184, 123190), (123566, 123566), (123628, 123631), (124140, 124143), (125136, 125142),
  (125252, 125258), (917504, 921599)]

/-- Code points with the `Emoji_Presentation` property. -/
def emojiPresentationTable : RangeTable := #[
  (8986, 8987), (9193, 9196), (9200, 9200), (9203, 9203), (9725, 9726), (9748, 9749),
  (9800, 9811), (9855, 9855), (9875, 9875), (9889, 9889), (9898, 9899), (9917, 9918),
  (9924, 9925), (9934, 9934), (9940, 9940), (9962, 9962), (9970, 9971), (9973, 9973),
  (9978, 9978), (9981, 9981), (9989, 9989), (9994, 9995), (10024, 10024), (10060, 10060),
  (10062, 10062), (10067, 10069), (10071, 10071), (10133, 10135), (10160, 10160), (10175, 10175),
  (11035, 11036), (11088, 11088), (11093, 11093), (126980, 126980), (127183, 127183), (127374, 127374),
  (127377, 127386), (127462, 127487), (127489, 127489), (127514, 127514), (127535, 127535), (127538, 127542),
  (127544, 127546), (127568, 127569), (127744, 127776), (127789, 127797), (127799, 127868), (127870, 127891),
  (127904, 127946), (127951, 127955), (127968, 127984), (127988, 127988), (127992, 128062), (128064, 128064),
  (128066, 128252), (128255, 128317), (128331, 128334), (128336, 128359), (128378, 128378), (128405, 128406),
  (128420, 128420), (128507, 128591), (128640, 128709), (128716, 128716), (128720, 128722), (128725, 128727),
  (128732, 128735), (128747, 128748), (128756, 128764), (128992, 129003), (129008, 129008), (129292, 129338),
  (129340, 129349), (129351, 129535), (129648, 129660), (129664, 129672), (129680, 129725), (129727, 129733),
  (129742, 129755), (129760, 129768), (129776, 129784)]

/-- Code points that have both a text and an emoji variation: the bases of emoji
presentation sequences. -/
def variationBaseTable : RangeTable := #[
  (35, 35), (42, 42), (48, 57), (169, 169), (174, 174), (8252, 8252),
  (8265, 8265), (8482, 8482), (8505, 8505), (8596, 8601), (8617, 8618), (8986, 8987),
  (9000, 9000), (9167, 9167), (9193, 9203), (9208, 9210), (9410, 9410), (9642, 9643),
  (9654, 9654), (9664, 9664), (9723, 9726), (9728, 9732), (9742, 9742), (9745, 9745),
  (9748, 9749), (9752, 9752), (9757, 9757), (9760, 9760), (9762, 9763), (9766, 9766),
  (9770, 9770), (9774, 9775), (9784, 9786), (9792, 9792), (9794, 9794), (9800, 9811),
  (9823, 9824), (9827, 9827), (9829, 9830), (9832, 9832), (9851, 9851), (9854, 9855),
  (9874, 9879), (9881, 9881), (9883, 9884), (9888, 9889), (9895, 9895), (9898, 9899),
  (9904, 9905), (9917, 9918), (9924, 9925), (9928, 9928), (9934, 9935), (9937, 9937),
  (9939, 9940), (9961, 9962), (9968, 9973), (9975, 9978), (9981, 9981), (9986, 9986),
  (9989, 9989), (9992, 9997), (9999, 9999), (10002, 10002), (10004, 10004), (10006, 10006),
  (10013, 10013), (10017, 10017), (10024, 10024), (10035, 10036), (10052, 10052), (10055, 10055),
  (10060, 10060), (10062, 10062), (10067, 10069), (10071, 10071), (10083, 10084), (10133, 10135),
  (10145, 10145), (10160, 10160), (10175, 10175), (10548, 10549), (11013, 11015), (11035, 11036),
  (11088, 11088), (11093, 11093), (12336, 12336), (12349, 12349), (12951, 12951), (12953, 12953),
  (126980, 126980), (127344, 127345), (127358, 127359), (127490, 127490), (127514, 127514), (127535, 127535),
  (127543, 127543), (127757, 127759), (127765, 127765), (127772, 127772), (127777, 127777), (127780, 127788),
  (127798, 127798), (127864, 127864), (127869, 127869), (127891, 127891), (127894, 127895), (127897, 127899),
  (127902, 127903), (127911, 127911), (127916, 127918), (127938, 127938), (127940, 127940), (127942, 127942),
  (127946, 127950), (127956, 127968), (127981, 127981), (127987, 127987), (127989, 127989), (127991, 127991),
  (128008, 128008), (128021, 128021), (128031, 128031), (128038, 128038), (128063, 128063), (128065, 128066),
  (128070, 128073), (128077, 128078), (128083, 128083), (128106, 128106), (128125, 128125), (128163, 128163),
  (128176, 128176), (128179, 128179), (128187, 128187), (128191, 128191), (128203, 128203), (128218, 128218),
  (128223, 128223), (128228, 128230), (128234, 128237), (128247, 128247), (128249, 128251), (128253, 128253),
  (128264, 128264), (128266, 128266), (128269, 128269), (128274, 128275), (128329, 128330), (128336, 128359),
  (128367, 128368), (128371, 128377), (128391, 128391), (128394, 128397), (128400, 128400), (128421, 128421),
  (128424, 128424), (128433, 128434), (128444, 128444), (128450, 128452), (128465, 128467), (128476, 128478),
  (128481, 128481), (128483, 128483), (128488, 128488), (128495, 128495), (128499, 128499), (128506, 128506),
  (128528, 128528), (128647, 128647), (128653, 128653), (128657, 128657), (128660, 128660), (128664, 128664),
  (128685, 128685), (128690, 128690), (128697, 128698), (128700, 128700), (128715, 128715), (128717, 128719),
  (128736, 128741), (128745, 128745), (128752, 128752), (128755, 128755)]

/-- Wide emoji that have a text variation, outside the enclosed ideographs: the bases
of text presentation sequences that take one column. -/
def textPresentationTable : RangeTable := #[
  (8986, 8987), (9193, 9196), (9200, 9200), (9203, 9203), (9725, 9726), (9748, 9749),
  (9800, 9811), (9855, 9855), (9875, 9875), (9889, 9889), (9898, 9899), (9917, 9918),
  (9924, 9925), (9934, 9934), (9940, 9940), (9962, 9962), (9970, 9971), (9973, 9973),
  (9978, 9978), (9981, 9981), (9989, 9989), (9994, 9995), (10024, 10024), (10060, 10060),
  (10062, 10062), (10067, 10069), (10071, 10071), (10133, 10135), (10160, 10160), (10175, 10175),
  (11035, 11036), (11088, 11088), (11093, 11093), (126980, 126980), (127757, 127759), (127765, 127765),
  (127772, 127772), (127864, 127864), (127891, 127891), (127911, 127911), (127916, 127918), (127938, 127938),
  (127940, 127940), (127942, 127942), (127946, 127946), (127968, 127968), (127981, 127981), (128008, 128008),
  (128021, 128021), (128031, 128031), (128038, 128038), (128066, 128066), (128070, 128073), (128077, 128078),
  (128083, 128083), (128106, 128106), (128125, 128125), (128163, 128163), (128176, 128176), (128179, 128179),
  (128187, 128187), (128191, 128191), (128203, 128203), (128218, 128218), (128223, 128223), (128228, 128230),
  (128234, 128237), (128247, 128247), (128249, 128251), (128264, 128264), (128266, 128266), (128269, 128269),
  (128274, 128275), (128336, 128359), (128528, 128528), (128647, 128647), (128653, 128653), (128657, 128657),
  (128660, 128660), (128664, 128664), (128685, 128685), (128690, 128690), (128697, 128698), (128700, 128700)]

/-- Code points with the `Emoji_Modifier_Base` property. -/
def emojiModifierBaseTable : RangeTable := #[
  (9757, 9757), (9977, 9977), (9994, 9997), (127877, 127877), (127938, 127940), (127943, 127943),
  (127946, 127948), (128066, 128067), (128070, 128080), (128102, 128120), (128124, 128124), (128129, 128131),
  (128133, 128135), (128143, 128143), (128145, 128145), (128170, 128170), (128372, 128373), (128378, 128378),
  (128400, 128400), (128405, 128406), (128581, 128583), (128587, 128591), (128675, 128675), (128692, 128694),
  (128704, 128704), (128716, 128716), (129292, 129292), (129295, 129295), (129304, 129311), (129318, 129318),
  (129328, 129337), (129340, 129342), (129399, 129399), (129461, 129462), (129464, 129465), (129467, 129467),
  (129485, 129487), (129489, 129501), (129731, 129733), (129776, 129784)]

/-- Code points of joining type `T` (transparent) that take no column, the Tifinagh
joiner excepted: what may stand between an Arabic lam and alef. -/
def arabicTransparentTable : RangeTable := #[
  (173, 173), (768, 879), (1155, 1161), (1425, 1469), (1471, 1471), (1473, 1474),
  (1476, 1477), (1479, 1479), (1552, 1562), (1564, 1564), (1611, 1631), (1648, 1648),
  (1750, 1756), (1759, 1764), (1767, 1768), (1770, 1773), (1807, 1807), (1809, 1809),
  (1840, 1866), (1958, 1968), (2027, 2035), (2045, 2045), (2070, 2073), (2075, 2083),
  (2085, 2087), (2089, 2093), (2137, 2139), (2200, 2207), (2250, 2273), (2275, 2306),
  (2362, 2362), (2364, 2364), (2369, 2376), (2381, 2381), (2385, 2391), (2402, 2403),
  (2433, 2433), (2492, 2492), (2497, 2500), (2509, 2509), (2530, 2531), (2558, 2558),
  (2561, 2562), (2620, 2620), (2625, 2626), (2631, 2632), (2635, 2637), (2641, 2641),
  (2672, 2673), (2677, 2677), (2689, 2690), (2748, 2748), (2753, 2757), (2759, 2760),
  (2765, 2765), (2786, 2787), (2810, 2815), (2817, 2817), (2876, 2876), (2879, 2879),
  (2881, 2884), (2893, 2893), (2901, 2902), (2914, 2915), (2946, 2946), (3008, 3008),
  (3021, 3021), (3072, 3072), (3076, 3076), (3132, 3132), (3134, 3136), (3142, 3144),
  (3146, 3149), (3157, 3158), (3170, 3171), (3201, 3201), (3260, 3260), (3263, 3263),
  (3270, 3270), (3276, 3277), (3298, 3299), (3328, 3329), (3387, 3388), (3393, 3396),
  (3405, 3405), (3426, 3427), (3457, 3457), (3530, 3530), (3538, 3540), (3542, 3542),
  (3633, 3633), (3636, 3642), (3655, 3662), (3761, 3761), (3764, 3772), (3784, 3790),
  (3864, 3865), (3893, 3893), (3895, 3895), (3897, 3897), (3953, 3966), (3968, 3972),
  (3974, 3975), (3981, 3991), (3993, 4028), (4038, 4038), (4141, 4144), (4146, 4151),
  (4153, 4154), (4157, 4158), (4184, 4185), (4190, 4192), (4209, 4212), (4226, 4226),
  (4229, 4230), (4237, 4237), (4253, 4253), (4957, 4959), (5906, 5908), (5938, 5939),
  (5970, 5971), (6002, 6003), (6068, 6069), (6071, 6077), (6086, 6086), (6089, 6099),
  (6109, 6109), (6155, 6157), (6159, 6159), (6277, 6278), (6313, 6313), (6432, 6434),
  (6439, 6440), (6450, 6450), (6457, 6459), (6679, 6680), (6683, 6683), (6742, 6742),
  (6744, 6750), (6752, 6752), (6754, 6754), (6757, 6764), (6771, 6780), (6783, 6783),
  (6832, 6862), (6912, 6915), (6964, 6964), (6966, 6970), (6972, 6972), (6978, 6978),
  (7019, 7027), (7040, 7041), (7074, 7077), (7080, 7081), (7083, 7085), (7142, 7142),
  (7144, 7145), (7149, 7149), (7151, 7153), (7212, 7219), (7222, 7223), (7376, 7378),
  (7380, 7392), (7394, 7400), (7405, 7405), (7412, 7412), (7416, 7417), (7616, 7679),
  (8203, 8203), (8206, 8207), (8234, 8238), (8288, 8292), (8298, 8303), (8400, 8432),
  (11503, 11505), (11744, 11775), (12330, 12333), (12441, 12442), (42607, 42610), (42612, 42621),
  (42654, 42655), (42736, 42737), (43010, 43010), (43014, 43014), (43019, 43019), (43045, 43046),
  (43052, 43052), (43204, 43205), (43232, 43249), (43263, 43263), (43302, 43309), (43335, 43345),
  (43392, 43394), (43443, 43443), (43446, 43449), (43452, 43453), (43493, 43493), (43561, 43566),
  (43569, 43570), (43573, 43574), (43587, 43587), (43596, 43596), (43644, 43644), (43696, 43696),
  (43698, 43700), (43703, 43704), (43710, 43711), (43713, 43713), (43756, 43757), (43766, 43766),
  (44005, 44005), (44008, 44008), (44013, 44013), (64286, 64286), (65024, 65039), (65056, 65071),
  (65279, 65279), (66045, 66045), (66272, 66272), (66422, 66426), (68097, 68099), (68101, 68102),
  (68108, 68111), (68152, 68154), (68159, 68159), (68325, 68326), (68900, 68903), (69291, 69292),
  (69373, 69375), (69446, 69456), (69506, 69509), (69633, 69633), (69688, 69702), (69744, 69744),
  (69747, 69748), (69759, 69761), (69811, 69814), (69817, 69818), (69826, 69826), (69888, 69890),
  (69927, 69931), (69933, 69940), (70003, 70003), (70016, 70017), (70070, 70078), (70089, 70092),
  (70095, 70095), (70191, 70193), (70196, 70196), (70198, 70199), (70206, 70206), (70209, 70209),
  (70367, 70367), (70371, 70378), (70400, 70401), (70459, 70460), (70464, 70464), (70502, 70508),
  (70512, 70516), (70712, 70719), (70722, 70724), (70726, 70726), (70750, 70750), (70835, 70840),
  (70842, 70842), (70847, 70848), (70850, 70851), (71090, 71093), (71100, 71101), (71103, 71104),
  (71132, 71133), (71219, 71226), (71229, 71229), (71231, 71232), (71339, 71339), (71341, 71341),
  (71344, 71349), (71351, 71351), (71453, 71455), (71458, 71461), (71463, 71467), (71727, 71735),
  (71737, 71738), (71995, 71996), (71998, 71998), (72003, 72003), (72148, 72151), (72154, 72155),
  (72160, 72160), (72193, 72202), (72243, 72248), (72251, 72254), (72263, 72263), (72273, 72278),
  (72281, 72283), (72330, 72342), (72344, 72345), (72752, 72758), (72760, 72765), (72767, 72767),
  (72850, 72871), (72874, 72880), (72882, 72883), (72885, 72886), (73009, 73014), (73018, 73018),
  (73020, 73021), (73023, 73029), (73031, 73031), (73104, 73105), (73109, 73109), (73111, 73111),
  (73459, 73460), (73472, 73473), (73526, 73530), (73536, 73536), (73538, 73538), (78912, 78912),
  (78919, 78933), (92912, 92916), (92976, 92982), (94031, 94031), (94095, 94098), (94180, 94180),
  (113821, 113822), (113824, 113827), (118528, 118573), (118576, 118598), (119143, 119145), (119155, 119170),
  (119173, 119179), (119210, 119213), (119362, 119364), (121344, 121398), (121403, 121452), (121461, 121461),
  (121476, 121476), (121499, 121503), (121505, 121519), (122880, 122886), (122888, 122904), (122907, 122913),
  (122915, 122916), (122918, 122922), (123023, 123023), (123184, 123190), (123566, 123566), (123628, 123631),
  (124140, 124143), (125136, 125142), (125252, 125258), (917505, 917505), (917536, 917631), (917760, 917999)]

/-- The zero width joiner. -/
def zwj : Char := '‍'

/-- Whether `c` lies in `[lo, hi]`. -/
def Char.within (lo hi : Nat) (c : Char) : Bool := lo ≤ c.toNat && c.toNat ≤ hi

/-- A regional indicator symbol, half of a flag. -/
def isRegionalIndicator (c : Char) : Bool := Char.within 0x1F1E6 0x1F1FF c

/-- A skin tone modifier. -/
def isEmojiModifier (c : Char) : Bool := Char.within 0x1F3FB 0x1F3FF c

/-- The characters that start a keycap: digits, `#` and `*`. -/
def isKeycapBase (c : Char) : Bool := c.isDigit || c = '#' || c = '*'

/-- The columns taken by `c` on its own, for a character above `U+00A0`. -/
def charWidth (c : Char) : Nat :=
  let n := c.toNat
  if n = 0x17D8 then 3
  else if n = 0x115F || n = 0x17A4 then 2
  else if n = 0x2D7F then 1
  else if zeroWidthTable.contains n then 0
  else if wideTable.contains n then 2
  else 1

/-! ## Emoji sequences -/

/-- The length of the emoji at the start of `cs`, if one starts there that may stand in
a chain: a keycap, an emoji with a skin tone, a character with an emoji variation followed
by `U+FE0F`, or an emoji shown as such by default and not asked for text presentation.
Regional indicators do not count. -/
def emojiLength : List Char → Option Nat
  | b :: v :: k :: _ =>
    if isKeycapBase b && v = '️' && k = '⃣' then some 3
    else single b v
  | [b, v] => single b v
  | [b] => if emojiPresentationTable.contains b.toNat && !isRegionalIndicator b then some 1 else none
  | [] => none
where
  /-- An emoji of one or two characters starting with `b` followed by `v`. -/
  single (b v : Char) : Option Nat :=
    if emojiModifierBaseTable.contains b.toNat && isEmojiModifier v then some 2
    else if v = '️' && variationBaseTable.contains b.toNat then some 2
    else if v = '︎' && textPresentationTable.contains b.toNat then none
    else if emojiPresentationTable.contains b.toNat && !isRegionalIndicator b then some 1
    else none

/-- How a chain of emoji joined by zero width joiners ends. -/
inductive ChainEnd where
  /-- The last link is an emoji: the chain takes two columns. -/
  | emoji
  /-- The last joiner leads into a flag, two regional indicators, which are not part of
  the chain: the chain takes no column. -/
  | indicator
  deriving DecidableEq, Repr

/-- The columns a chain takes, by how it ends. -/
def ChainEnd.width : ChainEnd → Nat
  | .emoji => 2
  | .indicator => 0

/-- The length of a chain of emoji joined by zero width joiners at the start of `cs`,
counting the first emoji, which takes `first` characters, and how it ends; `fuel` bounds
the links. -/
def emojiChainFrom (fuel first : Nat) (cs : List Char) : Nat × ChainEnd :=
  match fuel with
  | 0 => (first, .emoji)
  | fuel + 1 =>
    match cs.drop first with
    | j :: rest =>
      if j = zwj then
        match emojiLength rest with
        | some k =>
          let (n, e) := emojiChainFrom fuel k rest
          (first + 1 + n, e)
        | none =>
          match rest with
          | r :: r' :: _ =>
            if isRegionalIndicator r && isRegionalIndicator r' then (first + 1, .indicator)
            else (first, .emoji)
          | _ => (first, .emoji)
      else (first, .emoji)
    | [] => (first, .emoji)

/-- The emoji chain at the start of `cs`, if an emoji starts there: its length and how
it ends. -/
def emojiChain? (cs : List Char) : Option (Nat × ChainEnd) :=
  (emojiLength cs).map fun k => emojiChainFrom cs.length k cs

/-! ## Ligatures -/

/-- Default-ignorable combining marks: the combining grapheme joiner, the Khmer inherent
vowels, the Mongolian free variation selectors and the variation selectors. -/
def isIgnorableMark (c : Char) : Bool :=
  c.toNat = 0x034F || Char.within 0x17B4 0x17B5 c || Char.within 0x180B 0x180D c ||
    c.toNat = 0x180F || Char.within 0xFE00 0xFE0F c || Char.within 0xE0100 0xE01EF c

/-- What may stand between the parts of a ligature outside Arabic. -/
def joinsThrough (c : Char) : Bool := c = zwj || isIgnorableMark c

/-- What may stand between an Arabic lam and alef. -/
def isArabicTransparent (c : Char) : Bool := arabicTransparentTable.contains c.toNat

/-- Match the parts after the first, skipping what may stand between parts. -/
def matchAfter (skip : Char → Bool) : List (Char → Bool) → List Char → Option Nat
  | [], _ => some 0
  | _ :: _, [] => none
  | p :: ps, c :: cs =>
    if p c then (matchAfter skip ps cs).map (· + 1)
    else if skip c then (matchAfter skip (p :: ps) cs).map (· + 1)
    else none

/-- Match a ligature: its first part at the start of `cs`, then the others. -/
def matchLigature (skip : Char → Bool) (parts : List (Char → Bool)) (cs : List Char) : Option Nat :=
  match parts, cs with
  | p :: ps, c :: rest => if p c then (matchAfter skip ps rest).map (· + 1) else none
  | _, _ => none

/-- A character with code point `n`. -/
def isCode (n : Nat) (c : Char) : Bool := c.toNat = n

/-- Arabic letters of the lam joining group. -/
def isLam (c : Char) : Bool :=
  [0x0644, 0x06B5, 0x06B6, 0x06B7, 0x06B8, 0x076A, 0x08A6, 0x08C7].contains c.toNat

/-- Arabic letters of the alef joining group. -/
def isAlef (c : Char) : Bool :=
  [0x0622, 0x0623, 0x0625, 0x0627, 0x0671, 0x0672, 0x0673, 0x0675, 0x0773, 0x0774].contains c.toNat

/-- Tifinagh consonants. -/
def isTifinaghConsonant (c : Char) : Bool := Char.within 0x2D31 0x2D65 c || c.toNat = 0x2D6F

/-- Khmer letters that take a coeng sign: the consonants that have a subscript form and
the independent vowels `U+17A7`, `U+17AB`, `U+17AC` and `U+17AF`. -/
def isCoengLetter (c : Char) : Bool :=
  Char.within 0x1780 0x1782 c || Char.within 0x1784 0x1787 c || Char.within 0x1789 0x178C c ||
    Char.within 0x178E 0x1793 c || Char.within 0x1795 0x1798 c || Char.within 0x179B 0x179D c ||
    [0x17A0, 0x17A2, 0x17A7, 0x17AB, 0x17AC, 0x17AF].contains c.toNat

/-- The ligatures outside Arabic, each with its width: its parts in order. -/
def ligatures : List (Nat × List (Char → Bool)) := [
  (1, [isCode 0x05D0, isCode 0x200D, isCode 0x05DC]),
  (1, [isCode 0x1A15, isCode 0x1A17, isCode 0x200D, isCode 0x1A10]),
  (1, [isCode 0x10C32, isCode 0x200D, isCode 0x10C03]),
  (1, [isTifinaghConsonant, fun c => c.toNat = 0x2D7F || c = zwj, isTifinaghConsonant]),
  (1, [Char.within 0xA4F8 0xA4FB, Char.within 0xA4FC 0xA4FD]),
  (0, [isCode 0x17D2, isCoengLetter])]

/-- The ligature at the start of `cs`, if one starts there: its width and length. -/
def ligature? (cs : List Char) : Option (Nat × Nat) :=
  match matchLigature isArabicTransparent [isLam, isAlef] cs with
  | some k => some (1, k)
  | none => ligatures.findSome? fun (w, parts) => (matchLigature joinsThrough parts cs).map (w, ·)

/-! ## Width of a text -/

/-- The unit of text at the start of `cs`: its width and its length in characters. -/
def unitAt (cs : List Char) : Nat × Nat :=
  match cs with
  | [] => (0, 1)
  | c :: rest =>
    let next := rest.head?
    if c = '\r' && next = some '\n' then (0, 1)
    else if c = '\n' then (0, 1)
    else if next = some '︎' && textPresentationTable.contains c.toNat then (1, 2)
    else match emojiChain? cs with
    | some (k, e) => (e.width, k)
    | none =>
      if c.toNat ≤ 0xA0 then (1, 1)
      else match ligature? cs with
        | some wk => wk
        | none => (charWidth c, 1)

/-- The columns taken by the characters `cs`. -/
def widthOf : List Char → Nat
  | [] => 0
  | c :: rest =>
    let (w, k) := unitAt (c :: rest)
    w + widthOf ((c :: rest).drop (max k 1))
termination_by cs => cs.length
decreasing_by simp only [List.length_drop, List.length_cons]; omega

/-- The columns taken by `s`. -/
def width (s : String) : Nat := widthOf s.toList

end CanDecoder.Text
