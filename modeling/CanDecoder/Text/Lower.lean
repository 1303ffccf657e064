import CanDecoder.Text.Letter

/-!
# Lowercase mapping

The Unicode lowercase mapping of a character, and of a string. One character maps to
two: capital I with dot above becomes `i` followed by a combining dot above. Every other
mapped character maps to one character, listed as runs `(first, last, target, step)`:
the characters `first`, `first + step`, … up to `last` map to `target`, `target + step`, ….

In a string a capital sigma becomes a final sigma `ς` when it ends a word: a cased letter
comes before it (case-ignorable characters between them are skipped) and none follows it
in the same way. The tables follow Unicode 17.0.
-/

namespace CanDecoder.Text

/-- Runs `(first, last, target, step)` of the single-character lowercase mapping. -/
def lowerRuns : Array (Nat × Nat × Nat × Nat) := #[
  (65, 90, 97, 1), (192, 214, 224, 1), (216, 222, 248, 1), (256, 302, 257, 2),
  (306, 310, 307, 2), (313, 327, 314, 2), (330, 374, 331, 2), (376, 376, 255, 1),
  (377, 381, 378, 2), (385, 385, 595, 1), (386, 388, 387, 2), (390, 390, 596, 1),
  (391, 391, 392, 1), (393, 394, 598, 1), (395, 395, 396, 1), (398, 398, 477, 1),
  (399, 399, 601, 1), (400, 400, 603, 1), (401, 401, 402, 1), (403, 403, 608, 1),
  (404, 404, 611, 1), (406, 406, 617, 1), (407, 407, 616, 1), (408, 408, 409, 1),
  (412, 412, 623, 1), (413, 413, 626, 1), (415, 415, 629, 1), (416, 420, 417, 2),
  (422, 422, 640, 1), (423, 423, 424, 1), (425, 425, 643, 1), (428, 428, 429, 1),
  (430, 430, 648, 1), (431, 431, 432, 1), (433, 434, 650, 1), (435, 437, 436, 2),
  (439, 439, 658, 1), (440, 440, 441, 1), (444, 444, 445, 1), (452, 452, 454, 1),
  (453, 453, 454, 1), (455, 455, 457, 1), (456, 456, 457, 1), (458, 458, 460, 1),
  (459, 475, 460, 2), (478, 494, 479, 2), (497, 497, 499, 1), (498, 500, 499, 2),
  (502, 502, 405, 1), (503, 503, 447, 1), (504, 542, 505, 2), (544, 544, 414, 1),
  (546, 562, 547, 2), (570, 570, 11365, 1), (571, 571, 572, 1), (573, 573, 410, 1),
  (574, 574, 11366, 1), (577, 577, 578, 1), (579, 579, 384, 1), (580, 580, 649, 1),
  (581, 581, 652, 1), (582, 590, 583, 2), (880, 882, 881, 2), (886, 886, 887, 1),
  (895, 895, 1011, 1), (902, 902, 940, 1), (904, 906, 941, 1), (908, 908, 972, 1),
  (910, 911, 973, 1), (913, 929, 945, 1), (931, 939, 963, 1), (975, 975, 983, 1),
  (984, 1006, 985, 2), (1012, 1012, 952, 1), (1015, 1015, 1016, 1), (1017, 1017, 1010, 1),
  (1018, 1018, 1019, 1), (1021, 1023, 891, 1), (1024, 1039, 1104, 1), (1040, 1071, 1072, 1),
  (1120, 1152, 1121, 2), (1162, 1214, 1163, 2), (1216, 1216, 1231, 1), (1217, 1229, 1218, 2),
  (1232, 1326, 1233, 2), (1329, 1366, 1377, 1), (4256, 4293, 11520, 1), (4295, 4295, 11559, 1),
  (4301, 4301, 11565, 1), (5024, 5103, 43888, 1), (5104, 5109, 5112, 1), (7305, 7305, 7306, 1),
  (7312, 7354, 4304, 1), (7357, 7359, 4349, 1), (7680, 7828, 7681, 2), (7838, 7838, 223, 1),
  (7840, 7934, 7841, 2), (7944, 7951, 7936, 1), (7960, 7965, 7952, 1), (7976, 7983, 7968, 1),
  (7992, 7999, 7984, 1), (8008, 8013, 8000, 1), (8025, 8031, 8017, 2), (8040, 8047, 8032, 1),
  (8072, 8079, 8064, 1), (8088, 8095, 8080, 1), (8104, 8111, 8096, 1), (8120, 8121, 8112, 1),
  (8122, 8123, 8048, 1), (8124, 8124, 8115, 1), (8136, 8139, 8050, 1), (8140, 8140, 8131, 1),
  (8152, 8153, 8144, 1), (8154, 8155, 8054, 1), (8168, 8169, 8160, 1), (8170, 8171, 8058, 1),
  (8172, 8172, 8165, 1), (8184, 8185, 8056, 1), (8186, 8187, 8060, 1), (8188, 8188, 8179, 1),
  (8486, 8486, 969, 1), (8490, 8490, 107, 1), (8491, 8491, 229, 1), (8498, 8498, 8526, 1),
  (8544, 8559, 8560, 1), (8579, 8579, 8580, 1), (9398, 9423, 9424, 1), (11264, 11311, 11312, 1),
  (11360, 11360, 11361, 1), (11362, 11362, 619, 1), (11363, 11363, 7549, 1), (11364, 11364, 637, 1),
  (11367, 11371, 11368, 2), (11373, 11373, 593, 1), (11374, 11374, 625, 1), (11375, 11375, 592, 1),
  (11376, 11376, 594, 1), (11378, 11378, 11379, 1), (11381, 11381, 11382, 1), (11390, 11391, 575, 1),
  (11392, 11490, 11393, 2), (11499, 11501, 11500, 2), (11506, 11506, 11507, 1), (42560, 42604, 42561, 2),
  (42624, 42650, 42625, 2), (42786, 42798, 42787, 2), (42802, 42862, 42803, 2), (42873, 42875, 42874, 2),
  (42877, 42877, 7545, 1), (42878, 42886, 42879, 2), (42891, 42891, 42892, 1), (42893, 42893, 613, 1),
  (42896, 42898, 42897, 2), (42902, 42920, 42903, 2), (42922, 42922, 614, 1), (42923, 42923, 604, 1),
  (42924, 42924, 609, 1), (42925, 42925, 620, 1), (42926, 42926, 618, 1), (42928, 42928, 670, 1),
  (42929, 42929, 647, 1), (42930, 42930, 669, 1), (42931, 42931, 43859, 1), (42932, 42946, 42933, 2),
  (42948, 42948, 42900, 1), (42949, 42949, 642, 1), (42950, 42950, 7566, 1), (42951, 42953, 42952, 2),
  (42955, 42955, 612, 1), (42956, 42970, 42957, 2), (42972, 42972, 411, 1), (42997, 42997, 42998, 1),
  (65313, 65338, 65345, 1), (66560, 66599, 66600, 1), (66736, 66771, 66776, 1), (66928, 66938, 66967, 1),
  (66940, 66954, 66979, 1), (66956, 66962, 66995, 1), (66964, 66965, 67003, 1), (68736, 68786, 68800, 1),
  (68944, 68965, 68976, 1), (71840, 71871, 71872, 1), (93760, 93791, 93792, 1), (93856, 93880, 93883, 1),
  (125184, 125217, 125218, 1)]

/-- Look for the run holding `n` among the entries of `runs` at positions `lo` to `hi - 1`,
and map `n` by it; `fuel` bounds the number of halving steps. -/
def runSearch (runs : Array (Nat × Nat × Nat × Nat)) (n : Nat) : Nat → Nat → Nat → Option Nat
  | 0, _, _ => none
  | fuel + 1, lo, hi =>
    if lo < hi then
      let mid := (lo + hi) / 2
      match runs[mid]? with
      | some (a, b, t, st) =>
        if n < a then runSearch runs n fuel lo mid
        else if b < n then runSearch runs n fuel (mid + 1) hi
        else if (n - a) % st = 0 then some (t + (n - a)) else none
      | none => none
    else none

/-- The lowercase of `c` as a list of characters, without regard to context. -/
def lowerChar (c : Char) : List Char :=
  if c.toNat < 128 then [c.toLower]
  else if c = '\u0130' then ['i', '\u0307']
  else match runSearch lowerRuns c.toNat (lowerRuns.size.log2 + 2) 0 lowerRuns.size with
    | some n => [Char.ofNat n]
    | none => [c]

/-- Whether, skipping case-ignorable characters, the first character of `cs` is cased. -/
def casedAfterIgnorable (cs : List Char) : Bool :=
  match cs.dropWhile isCaseIgnorable with
  | c :: _ => isCased c
  | [] => false

/-- Lowercase `cs`, where `before` holds the characters already passed, nearest first;
a capital sigma ends a word when a cased letter precedes it and none follows. -/
def lowerFrom (before : List Char) : List Char → List Char
  | [] => []
  | c :: cs =>
    let here :=
      if c = '\u03A3' then
        if casedAfterIgnorable before && !casedAfterIgnorable cs then ['\u03C2'] else ['\u03C3']
      else lowerChar c
    here ++ lowerFrom (c :: before) cs

/-- The lowercase of `cs`, with the final-sigma rule looking at the whole text. -/
def lowerChars (cs : List Char) : List Char := lowerFrom [] cs

/-- The lowercase of `s`. -/
def lower (s : String) : String := String.ofList (lowerChars s.toList)

example : lower "ΑΣ" = "ας" ∧ lower "ΣΑ" = "σα" := by decide +kernel
example : lowerChar '\u0130' = ['i', '\u0307'] := by decide +kernel

end CanDecoder.Text
