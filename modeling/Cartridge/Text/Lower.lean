import Cartridge.Text.Cased
import Cartridge.Text.CaseTable

/-!
# Lower case

`lowerChar` maps one character, possibly to several.  `lower` maps a text; there a capital sigma
at the end of a word becomes the final form of the letter, which no single character can decide.
-/

namespace Cartridge.Text

/-- The lower-case forms of characters. -/
def lowerTable : CaseTable where
  runs := caseRuns [
    (192, 23, 1, 224), (2, 7, 1, 248), (34, 24, 2, 257), (4, 3, 2, 307), (3, 8, 2, 314),
    (3, 23, 2, 331), (2, 1, 1, 255), (1, 3, 2, 378), (4, 1, 1, 595), (1, 2, 2, 387), (2, 1, 1, 596),
    (1, 1, 1, 392), (2, 2, 1, 598), (1, 1, 1, 396), (3, 1, 1, 477), (1, 1, 1, 601), (1, 1, 1, 603),
    (1, 1, 1, 402), (2, 1, 1, 608), (1, 1, 1, 611), (2, 1, 1, 617), (1, 1, 1, 616), (1, 1, 1, 409),
    (4, 1, 1, 623), (1, 1, 1, 626), (2, 1, 1, 629), (1, 3, 2, 417), (2, 1, 1, 640), (1, 1, 1, 424),
    (2, 1, 1, 643), (3, 1, 1, 429), (2, 1, 1, 648), (1, 1, 1, 432), (2, 2, 1, 650), (1, 2, 2, 436),
    (2, 1, 1, 658), (1, 1, 1, 441), (4, 1, 1, 445), (8, 1, 1, 454), (1, 1, 1, 454), (2, 1, 1, 457),
    (1, 1, 1, 457), (2, 1, 1, 460), (1, 9, 2, 460), (3, 9, 2, 479), (3, 1, 1, 499), (1, 2, 2, 499),
    (2, 1, 1, 405), (1, 1, 1, 447), (1, 20, 2, 505), (2, 1, 1, 414), (2, 9, 2, 547),
    (8, 1, 1, 11365), (1, 1, 1, 572), (2, 1, 1, 410), (1, 1, 1, 11366), (3, 1, 1, 578),
    (2, 1, 1, 384), (1, 1, 1, 649), (1, 1, 1, 652), (1, 5, 2, 583), (290, 2, 2, 881),
    (4, 1, 1, 887), (9, 1, 1, 1011), (7, 1, 1, 940), (2, 3, 1, 941), (2, 1, 1, 972), (2, 2, 1, 973),
    (2, 17, 1, 945), (2, 9, 1, 963), (36, 1, 1, 983), (9, 12, 2, 985), (6, 1, 1, 952),
    (3, 1, 1, 1016), (2, 1, 1, 1010), (1, 1, 1, 1019), (3, 3, 1, 891), (1, 16, 1, 1104),
    (1, 32, 1, 1072), (49, 17, 2, 1121), (10, 27, 2, 1163), (2, 1, 1, 1231), (1, 7, 2, 1218),
    (3, 48, 2, 1233), (3, 38, 1, 1377), (2890, 38, 1, 11520), (2, 1, 1, 11559), (6, 1, 1, 11565),
    (723, 80, 1, 43888), (1, 6, 1, 5112), (2196, 1, 1, 7306), (7, 43, 1, 4304), (3, 3, 1, 4349),
    (321, 75, 2, 7681), (10, 1, 1, 223), (2, 48, 2, 7841), (10, 8, 1, 7936), (9, 6, 1, 7952),
    (11, 8, 1, 7968), (9, 8, 1, 7984), (9, 6, 1, 8000), (12, 4, 2, 8017), (9, 8, 1, 8032),
    (25, 8, 1, 8064), (9, 8, 1, 8080), (9, 8, 1, 8096), (9, 2, 1, 8112), (1, 2, 1, 8048),
    (1, 1, 1, 8115), (12, 4, 1, 8050), (1, 1, 1, 8131), (12, 2, 1, 8144), (1, 2, 1, 8054),
    (13, 2, 1, 8160), (1, 2, 1, 8058), (1, 1, 1, 8165), (12, 2, 1, 8056), (1, 2, 1, 8060),
    (1, 1, 1, 8179), (298, 1, 1, 969), (4, 1, 1, 107), (1, 1, 1, 229), (7, 1, 1, 8526),
    (46, 16, 1, 8560), (20, 1, 1, 8580), (819, 26, 1, 9424), (1841, 48, 1, 11312),
    (49, 1, 1, 11361), (2, 1, 1, 619), (1, 1, 1, 7549), (1, 1, 1, 637), (3, 3, 2, 11368),
    (2, 1, 1, 593), (1, 1, 1, 625), (1, 1, 1, 592), (1, 1, 1, 594), (2, 1, 1, 11379),
    (3, 1, 1, 11382), (9, 2, 1, 575), (1, 50, 2, 11393), (9, 2, 2, 11500), (5, 1, 1, 11507),
    (31054, 23, 2, 42561), (20, 14, 2, 42625), (136, 7, 2, 42787), (4, 31, 2, 42803),
    (11, 2, 2, 42874), (2, 1, 1, 7545), (1, 5, 2, 42879), (5, 1, 1, 42892), (2, 1, 1, 613),
    (3, 2, 2, 42897), (4, 10, 2, 42903), (2, 1, 1, 614), (1, 1, 1, 604), (1, 1, 1, 609),
    (1, 1, 1, 620), (1, 1, 1, 618), (2, 1, 1, 670), (1, 1, 1, 647), (1, 1, 1, 669),
    (1, 1, 1, 43859), (1, 8, 2, 42933), (2, 1, 1, 42900), (1, 1, 1, 642), (1, 1, 1, 7566),
    (1, 2, 2, 42952), (2, 1, 1, 612), (1, 8, 2, 42957), (2, 1, 1, 411), (25, 1, 1, 42998),
    (22316, 26, 1, 65345), (1222, 40, 1, 66600), (137, 36, 1, 66776), (157, 11, 1, 66967),
    (2, 15, 1, 66979), (2, 7, 1, 66995), (2, 2, 1, 67003), (1771, 51, 1, 68800),
    (158, 22, 1, 68976), (2875, 32, 1, 71872), (21889, 32, 1, 93792), (65, 25, 1, 93883),
    (31304, 34, 1, 125218)]
  expansions := #[
    (0x130, [0x69, 0x307])]

/-- A character in lower case, wherever it stands. -/
def lowerChar (c : Char) : List Char :=
  if c.toNat < 0x80 then [c.toLower] else lowerTable.apply c

/-- The first character that casing does not ignore is cased. -/
def startsCased (cs : List Char) : Bool :=
  match cs.dropWhile isCaseIgnorable with
  | c :: _ => isCased c
  | [] => false

/-- Lower case of a text whose part before `cs` is `before`, read backwards. -/
def lowerChars (before : List Char) : List Char → List Char
  | [] => []
  | c :: rest =>
    let image :=
      if c == 'Σ' then
        if startsCased before && !startsCased rest then ['ς'] else ['σ']
      else lowerChar c
    image ++ lowerChars (c :: before) rest

/-- A text in lower case. -/
def lower (s : String) : String :=
  String.ofList (lowerChars [] s.toList)

end Cartridge.Text
