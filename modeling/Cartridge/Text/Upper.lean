import Cartridge.Text.CaseTable

/-!
# Upper case

A character may expand: the sharp s becomes two letters, a ligature its parts.
-/

namespace Cartridge.Text

/-- The Greek letters with an iota below.  The iota becomes a letter of its own, and there are eight
capitals for each row of sixteen. -/
def iotaExpansions : Array (Nat × List Nat) :=
  (Array.range 48).map fun i =>
    (0x1F80 + i, [[0x1F08, 0x1F28, 0x1F68].getD (i / 16) 0 + i % 8, 0x399])

/-- The upper-case forms of characters. -/
def upperTable : CaseTable where
  runs := caseRuns [
    (181, 1, 1, 924), (43, 23, 1, 192), (2, 7, 1, 216), (1, 1, 1, 376), (2, 24, 2, 256),
    (2, 1, 1, 73), (2, 3, 2, 306), (3, 8, 2, 313), (3, 23, 2, 330), (3, 3, 2, 377), (1, 1, 1, 83),
    (1, 1, 1, 579), (3, 2, 2, 386), (3, 1, 1, 391), (4, 1, 1, 395), (6, 1, 1, 401), (3, 1, 1, 502),
    (4, 1, 1, 408), (1, 1, 1, 573), (1, 1, 1, 42972), (3, 1, 1, 544), (3, 3, 2, 416),
    (3, 1, 1, 423), (5, 1, 1, 428), (3, 1, 1, 431), (4, 2, 2, 435), (3, 1, 1, 440), (4, 1, 1, 444),
    (2, 1, 1, 503), (6, 1, 1, 452), (1, 1, 1, 452), (2, 1, 1, 455), (1, 1, 1, 455), (2, 1, 1, 458),
    (1, 1, 1, 458), (2, 8, 2, 461), (1, 1, 1, 398), (2, 9, 2, 478), (3, 1, 1, 497), (1, 1, 1, 497),
    (2, 1, 1, 500), (4, 20, 2, 504), (4, 9, 2, 546), (9, 1, 1, 571), (3, 2, 1, 11390),
    (2, 1, 1, 577), (5, 5, 2, 582), (1, 1, 1, 11375), (1, 1, 1, 11373), (1, 1, 1, 11376),
    (1, 1, 1, 385), (1, 1, 1, 390), (2, 2, 1, 393), (2, 1, 1, 399), (2, 1, 1, 400),
    (1, 1, 1, 42923), (4, 1, 1, 403), (1, 1, 1, 42924), (2, 1, 1, 404), (1, 1, 1, 42955),
    (1, 1, 1, 42893), (1, 1, 1, 42922), (2, 1, 1, 407), (1, 1, 1, 406), (1, 1, 1, 42926),
    (1, 1, 1, 11362), (1, 1, 1, 42925), (3, 1, 1, 412), (2, 1, 1, 11374), (1, 1, 1, 413),
    (3, 1, 1, 415), (8, 1, 1, 11364), (3, 1, 1, 422), (2, 1, 1, 42949), (1, 1, 1, 425),
    (4, 1, 1, 42929), (1, 1, 1, 430), (1, 1, 1, 580), (1, 2, 1, 433), (1, 1, 1, 581),
    (6, 1, 1, 439), (11, 1, 1, 42930), (1, 1, 1, 42928), (167, 1, 1, 921), (44, 2, 2, 880),
    (4, 1, 1, 886), (4, 3, 1, 1021), (47, 1, 1, 902), (1, 3, 1, 904), (2, 17, 1, 913),
    (1, 1, 1, 931), (1, 9, 1, 931), (1, 1, 1, 908), (1, 2, 1, 910), (2, 1, 1, 914), (1, 1, 1, 920),
    (4, 1, 1, 934), (1, 1, 1, 928), (1, 1, 1, 975), (2, 12, 2, 984), (1, 1, 1, 922), (1, 1, 1, 929),
    (1, 1, 1, 1017), (1, 1, 1, 895), (2, 1, 1, 917), (3, 1, 1, 1015), (3, 1, 1, 1018),
    (53, 32, 1, 1040), (1, 16, 1, 1024), (2, 17, 2, 1120), (10, 27, 2, 1162), (3, 7, 2, 1217),
    (1, 1, 1, 1216), (2, 48, 2, 1232), (50, 38, 1, 1329), (2890, 43, 1, 7312), (3, 3, 1, 7357),
    (761, 6, 1, 5104), (2179, 1, 1, 1042), (1, 1, 1, 1044), (1, 1, 1, 1054), (1, 2, 1, 1057),
    (1, 1, 1, 1058), (1, 1, 1, 1066), (1, 1, 1, 1122), (1, 1, 1, 42570), (2, 1, 1, 7305),
    (239, 1, 1, 42877), (4, 1, 1, 11363), (17, 1, 1, 42950), (115, 75, 2, 7680), (6, 1, 1, 7776),
    (6, 48, 2, 7840), (1, 8, 1, 7944), (9, 6, 1, 7960), (11, 8, 1, 7976), (9, 8, 1, 7992),
    (9, 6, 1, 8008), (12, 4, 2, 8025), (9, 8, 1, 8040), (9, 2, 1, 8122), (1, 4, 1, 8136),
    (1, 2, 1, 8154), (1, 2, 1, 8184), (1, 2, 1, 8170), (1, 2, 1, 8186), (51, 2, 1, 8120),
    (13, 1, 1, 921), (18, 2, 1, 8152), (15, 2, 1, 8168), (4, 1, 1, 8172), (361, 1, 1, 8498),
    (34, 16, 1, 8544), (5, 1, 1, 8579), (844, 26, 1, 9398), (1863, 48, 1, 11264), (2, 1, 1, 11360),
    (4, 1, 1, 570), (1, 1, 1, 574), (2, 3, 2, 11367), (7, 1, 1, 11378), (3, 1, 1, 11381),
    (11, 50, 2, 11392), (9, 2, 2, 11499), (5, 1, 1, 11506), (13, 38, 1, 4256), (2, 1, 1, 4295),
    (6, 1, 1, 4301), (30996, 23, 2, 42560), (20, 14, 2, 42624), (136, 7, 2, 42786),
    (4, 31, 2, 42802), (11, 2, 2, 42873), (3, 5, 2, 42878), (5, 1, 1, 42891), (5, 2, 2, 42896),
    (1, 1, 1, 42948), (3, 10, 2, 42902), (12, 8, 2, 42932), (5, 2, 2, 42951), (3, 8, 2, 42956),
    (27, 1, 1, 42997), (861, 1, 1, 42931), (29, 80, 1, 5024), (21378, 26, 1, 65313),
    (1230, 40, 1, 66560), (137, 36, 1, 66736), (156, 11, 1, 66928), (2, 15, 1, 66940),
    (2, 7, 1, 66956), (2, 2, 1, 66964), (1796, 51, 1, 68736), (126, 22, 1, 68944),
    (2875, 32, 1, 71840), (21889, 32, 1, 93760), (60, 25, 1, 93856), (31311, 34, 1, 125184)]
  expansions := iotaExpansions.append #[
    (0xDF, [0x53, 0x53]), (0x149, [0x2BC, 0x4E]), (0x1F0, [0x4A, 0x30C]),
    (0x390, [0x399, 0x308, 0x301]), (0x3B0, [0x3A5, 0x308, 0x301]), (0x587, [0x535, 0x552]),
    (0x1E96, [0x48, 0x331]), (0x1E97, [0x54, 0x308]), (0x1E98, [0x57, 0x30A]),
    (0x1E99, [0x59, 0x30A]), (0x1E9A, [0x41, 0x2BE]), (0x1F50, [0x3A5, 0x313]),
    (0x1F52, [0x3A5, 0x313, 0x300]), (0x1F54, [0x3A5, 0x313, 0x301]),
    (0x1F56, [0x3A5, 0x313, 0x342]), (0x1FB2, [0x1FBA, 0x399]), (0x1FB3, [0x391, 0x399]),
    (0x1FB4, [0x386, 0x399]), (0x1FB6, [0x391, 0x342]), (0x1FB7, [0x391, 0x342, 0x399]),
    (0x1FBC, [0x391, 0x399]), (0x1FC2, [0x1FCA, 0x399]), (0x1FC3, [0x397, 0x399]),
    (0x1FC4, [0x389, 0x399]), (0x1FC6, [0x397, 0x342]), (0x1FC7, [0x397, 0x342, 0x399]),
    (0x1FCC, [0x397, 0x399]), (0x1FD2, [0x399, 0x308, 0x300]), (0x1FD3, [0x399, 0x308, 0x301]),
    (0x1FD6, [0x399, 0x342]), (0x1FD7, [0x399, 0x308, 0x342]), (0x1FE2, [0x3A5, 0x308, 0x300]),
    (0x1FE3, [0x3A5, 0x308, 0x301]), (0x1FE4, [0x3A1, 0x313]), (0x1FE6, [0x3A5, 0x342]),
    (0x1FE7, [0x3A5, 0x308, 0x342]), (0x1FF2, [0x1FFA, 0x399]), (0x1FF3, [0x3A9, 0x399]),
    (0x1FF4, [0x38F, 0x399]), (0x1FF6, [0x3A9, 0x342]), (0x1FF7, [0x3A9, 0x342, 0x399]),
    (0x1FFC, [0x3A9, 0x399]), (0xFB00, [0x46, 0x46]), (0xFB01, [0x46, 0x49]),
    (0xFB02, [0x46, 0x4C]), (0xFB03, [0x46, 0x46, 0x49]), (0xFB04, [0x46, 0x46, 0x4C]),
    (0xFB05, [0x53, 0x54]), (0xFB06, [0x53, 0x54]), (0xFB13, [0x544, 0x546]),
    (0xFB14, [0x544, 0x535]), (0xFB15, [0x544, 0x53B]), (0xFB16, [0x54E, 0x546]),
    (0xFB17, [0x544, 0x53D])]

/-- A character in upper case. -/
def upperChar (c : Char) : List Char :=
  if c.toNat < 0x80 then [c.toUpper] else upperTable.apply c

/-- A text in upper case. -/
def upper (s : String) : String :=
  String.ofList (s.toList.flatMap upperChar)

end Cartridge.Text
