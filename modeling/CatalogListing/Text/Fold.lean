/-
# Text.Fold -- letters compared without case and diacritics

Full-text search compares letters after two mappings: simple case folding, which
keeps one character for one character (`ß` stays), and the removal of a diacritic
from a Latin letter that carries exactly one.
-/
import CatalogListing.Text.CaseRange

namespace CatalogListing.Text

set_option autoImplicit false

/-- The characters beyond ASCII that simple case folding changes. -/
def foldRanges : List CaseRange := [
  ⟨181, 181, 1, 775⟩, ⟨192, 214, 1, 32⟩, ⟨216, 222, 1, 32⟩, ⟨256, 302, 2, 1⟩, ⟨306, 310, 2, 1⟩,
  ⟨313, 327, 2, 1⟩, ⟨330, 374, 2, 1⟩, ⟨376, 376, 1, -121⟩, ⟨377, 381, 2, 1⟩, ⟨383, 383, 1, -268⟩,
  ⟨385, 385, 1, 210⟩, ⟨386, 388, 2, 1⟩, ⟨390, 390, 1, 206⟩, ⟨391, 391, 1, 1⟩, ⟨393, 394, 1, 205⟩,
  ⟨395, 395, 1, 1⟩, ⟨398, 398, 1, 79⟩, ⟨399, 399, 1, 202⟩, ⟨400, 400, 1, 203⟩, ⟨401, 401, 1, 1⟩,
  ⟨403, 403, 1, 205⟩, ⟨404, 404, 1, 207⟩, ⟨406, 406, 1, 211⟩, ⟨407, 407, 1, 209⟩,
  ⟨408, 408, 1, 1⟩, ⟨412, 412, 1, 211⟩, ⟨413, 413, 1, 213⟩, ⟨415, 415, 1, 214⟩, ⟨416, 420, 2, 1⟩,
  ⟨422, 422, 1, 218⟩, ⟨423, 423, 1, 1⟩, ⟨425, 425, 1, 218⟩, ⟨428, 428, 1, 1⟩, ⟨430, 430, 1, 218⟩,
  ⟨431, 431, 1, 1⟩, ⟨433, 434, 1, 217⟩, ⟨435, 437, 2, 1⟩, ⟨439, 439, 1, 219⟩, ⟨440, 440, 1, 1⟩,
  ⟨444, 444, 1, 1⟩, ⟨452, 452, 1, 2⟩, ⟨453, 453, 1, 1⟩, ⟨455, 455, 1, 2⟩, ⟨456, 456, 1, 1⟩,
  ⟨458, 458, 1, 2⟩, ⟨459, 475, 2, 1⟩, ⟨478, 494, 2, 1⟩, ⟨497, 497, 1, 2⟩, ⟨498, 500, 2, 1⟩,
  ⟨502, 502, 1, -97⟩, ⟨503, 503, 1, -56⟩, ⟨504, 542, 2, 1⟩, ⟨544, 544, 1, -130⟩,
  ⟨546, 562, 2, 1⟩, ⟨570, 570, 1, 10795⟩, ⟨571, 571, 1, 1⟩, ⟨573, 573, 1, -163⟩,
  ⟨574, 574, 1, 10792⟩, ⟨577, 577, 1, 1⟩, ⟨579, 579, 1, -195⟩, ⟨580, 580, 1, 69⟩,
  ⟨581, 581, 1, 71⟩, ⟨582, 590, 2, 1⟩, ⟨837, 837, 1, 116⟩, ⟨880, 882, 2, 1⟩, ⟨886, 886, 1, 1⟩,
  ⟨902, 902, 1, 38⟩, ⟨904, 906, 1, 37⟩, ⟨908, 908, 1, 64⟩, ⟨910, 911, 1, 63⟩, ⟨913, 929, 1, 32⟩,
  ⟨931, 939, 1, 32⟩, ⟨962, 962, 1, 1⟩, ⟨975, 975, 1, 8⟩, ⟨976, 976, 1, -30⟩, ⟨977, 977, 1, -25⟩,
  ⟨981, 981, 1, -15⟩, ⟨982, 982, 1, -22⟩, ⟨984, 1006, 2, 1⟩, ⟨1008, 1008, 1, -54⟩,
  ⟨1009, 1009, 1, -48⟩, ⟨1012, 1012, 1, -60⟩, ⟨1013, 1013, 1, -64⟩, ⟨1015, 1015, 1, 1⟩,
  ⟨1017, 1017, 1, -7⟩, ⟨1018, 1018, 1, 1⟩, ⟨1021, 1023, 1, -130⟩, ⟨1024, 1039, 1, 80⟩,
  ⟨1040, 1071, 1, 32⟩, ⟨1120, 1152, 2, 1⟩, ⟨1162, 1214, 2, 1⟩, ⟨1216, 1216, 1, 15⟩,
  ⟨1217, 1229, 2, 1⟩, ⟨1232, 1318, 2, 1⟩, ⟨1329, 1366, 1, 48⟩, ⟨4256, 4293, 1, 7264⟩,
  ⟨4295, 4295, 1, 7264⟩, ⟨4301, 4301, 1, 7264⟩, ⟨7680, 7828, 2, 1⟩, ⟨7835, 7835, 1, -58⟩,
  ⟨7838, 7838, 1, -7615⟩, ⟨7840, 7934, 2, 1⟩, ⟨7944, 7951, 1, -8⟩, ⟨7960, 7965, 1, -8⟩,
  ⟨7976, 7983, 1, -8⟩, ⟨7992, 7999, 1, -8⟩, ⟨8008, 8013, 1, -8⟩, ⟨8025, 8031, 2, -8⟩,
  ⟨8040, 8047, 1, -8⟩, ⟨8072, 8079, 1, -8⟩, ⟨8088, 8095, 1, -8⟩, ⟨8104, 8111, 1, -8⟩,
  ⟨8120, 8121, 1, -8⟩, ⟨8122, 8123, 1, -74⟩, ⟨8124, 8124, 1, -9⟩, ⟨8126, 8126, 1, -7173⟩,
  ⟨8136, 8139, 1, -86⟩, ⟨8140, 8140, 1, -9⟩, ⟨8152, 8153, 1, -8⟩, ⟨8154, 8155, 1, -100⟩,
  ⟨8168, 8169, 1, -8⟩, ⟨8170, 8171, 1, -112⟩, ⟨8172, 8172, 1, -7⟩, ⟨8184, 8185, 1, -128⟩,
  ⟨8186, 8187, 1, -126⟩, ⟨8188, 8188, 1, -9⟩, ⟨8486, 8486, 1, -7517⟩, ⟨8490, 8490, 1, -8383⟩,
  ⟨8491, 8491, 1, -8262⟩, ⟨8498, 8498, 1, 28⟩, ⟨8544, 8559, 1, 16⟩, ⟨8579, 8579, 1, 1⟩,
  ⟨9398, 9423, 1, 26⟩, ⟨11264, 11310, 1, 48⟩, ⟨11360, 11360, 1, 1⟩, ⟨11362, 11362, 1, -10743⟩,
  ⟨11363, 11363, 1, -3814⟩, ⟨11364, 11364, 1, -10727⟩, ⟨11367, 11371, 2, 1⟩,
  ⟨11373, 11373, 1, -10780⟩, ⟨11374, 11374, 1, -10749⟩, ⟨11375, 11375, 1, -10783⟩,
  ⟨11376, 11376, 1, -10782⟩, ⟨11378, 11378, 1, 1⟩, ⟨11381, 11381, 1, 1⟩,
  ⟨11390, 11391, 1, -10815⟩, ⟨11392, 11490, 2, 1⟩, ⟨11499, 11501, 2, 1⟩, ⟨11506, 11506, 1, 1⟩,
  ⟨42560, 42604, 2, 1⟩, ⟨42624, 42646, 2, 1⟩, ⟨42786, 42798, 2, 1⟩, ⟨42802, 42862, 2, 1⟩,
  ⟨42873, 42875, 2, 1⟩, ⟨42877, 42877, 1, -35332⟩, ⟨42878, 42886, 2, 1⟩, ⟨42891, 42891, 1, 1⟩,
  ⟨42893, 42893, 1, -42280⟩, ⟨42896, 42898, 2, 1⟩, ⟨42912, 42920, 2, 1⟩,
  ⟨42922, 42922, 1, -42308⟩, ⟨65313, 65338, 1, 32⟩, ⟨66560, 66599, 1, 40⟩]

/-- Runs of folded letters that carry one diacritic, and their base letter. -/
def diacriticRuns : List (Nat × Nat × Char) := [
  (224, 229, 'a'), (231, 231, 'c'), (232, 235, 'e'), (236, 239, 'i'), (241, 241, 'n'),
  (242, 246, 'o'), (249, 252, 'u'), (253, 253, 'y'), (255, 255, 'y'), (257, 261, 'a'),
  (263, 269, 'c'), (271, 271, 'd'), (275, 281, 'e'), (283, 283, 'e'), (285, 291, 'g'),
  (293, 293, 'h'), (297, 304, 'i'), (309, 309, 'j'), (311, 311, 'k'), (314, 318, 'l'),
  (324, 328, 'n'), (333, 337, 'o'), (341, 345, 'r'), (347, 353, 's'), (355, 357, 't'),
  (361, 367, 'u'), (369, 371, 'u'), (373, 373, 'w'), (375, 375, 'y'), (378, 382, 'z'),
  (417, 417, 'o'), (432, 432, 'u'), (462, 462, 'a'), (464, 464, 'i'), (466, 466, 'o'),
  (468, 468, 'u'), (487, 487, 'g'), (489, 489, 'k'), (491, 491, 'o'), (496, 496, 'j'),
  (501, 501, 'g'), (505, 505, 'n'), (513, 515, 'a'), (517, 519, 'e'), (521, 523, 'i'),
  (525, 527, 'o'), (529, 531, 'r'), (533, 535, 'u'), (537, 537, 's'), (539, 539, 't'),
  (543, 543, 'h'), (551, 551, 'a'), (553, 553, 'e'), (559, 559, 'o'), (563, 563, 'y'),
  (7681, 7681, 'a'), (7683, 7687, 'b'), (7691, 7697, 'd'), (7699, 7699, 'd'), (7705, 7707, 'e'),
  (7711, 7711, 'f'), (7713, 7713, 'g'), (7715, 7721, 'h'), (7723, 7723, 'h'), (7725, 7725, 'i'),
  (7729, 7733, 'k'), (7735, 7735, 'l'), (7739, 7741, 'l'), (7743, 7747, 'm'), (7749, 7755, 'n'),
  (7765, 7767, 'p'), (7769, 7771, 'r'), (7775, 7775, 'r'), (7777, 7779, 's'), (7787, 7793, 't'),
  (7795, 7799, 'u'), (7805, 7807, 'v'), (7809, 7815, 'w'), (7817, 7817, 'w'), (7819, 7821, 'x'),
  (7823, 7823, 'y'), (7825, 7829, 'z'), (7830, 7830, 'h'), (7831, 7831, 't'), (7832, 7832, 'w'),
  (7833, 7833, 'y'), (7841, 7843, 'a'), (7865, 7869, 'e'), (7881, 7883, 'i'), (7885, 7887, 'o'),
  (7909, 7911, 'u'), (7923, 7929, 'y')]

/-- The marks that a decomposed diacritic is written with. -/
def combiningRuns : List (Nat × Nat) := [
  (768, 772), (774, 780), (783, 783), (785, 785), (795, 795), (803, 808), (813, 814), (816, 817)]

/-- The character is a combining diacritic. -/
def isCombining (c : Char) : Bool :=
  combiningRuns.any fun run => run.1 ≤ c.toNat && c.toNat ≤ run.2

/-- A character without regard to case. -/
def foldCase (c : Char) : Char :=
  if c.toNat < 128 then c.toLower else Char.ofNat (mapByRanges foldRanges c.toNat)

/-- A folded Latin letter without its diacritic. -/
def removeDiacritic (c : Char) : Char :=
  match diacriticRuns.find? fun run => run.1 ≤ c.toNat && c.toNat ≤ run.2.1 with
  | some run => run.2.2
  | none => c

/-- A character as full-text search compares it. -/
def searchFold (c : Char) : Char :=
  if c.toNat < 128 then c.toLower else removeDiacritic (foldCase c)

end CatalogListing.Text
