import Hostlink.Text.RunTable

/-!
# The table of the kinds of characters

The letters of the runs: `L` for letters, `D` for digits, `N` for letters that are numbers, `O`
for other numbers, `M` for marks and `S` for symbols, both in lower case if they can be part of an
alphabet, `C` for punctuation that connects, `P` for other punctuation, `Z` for separators, and
`-` for the rest.
-/

namespace Hostlink.Text

/-- The runs of the kinds of characters. -/
def categoryLines : List String := [
  "-20 Z P3 S P6 S P4 Da P2 S3 P2 L1a P3 S C S L1a P S P S -21 Z P S5 P S2 L P S - S4 O2 S L P2",
  "S O L P O3 P L17 S L1f S L1ca S4 Lc Se L5 S7 L S L S11 M45 m M1d md L5 S L2 -2 L4 P L -4 S2 L",
  "P L3 - L - L14 - L53 S L8b S M7 La6 - L26 -2 L P6 L29 P2 -2 S3 - M1f me P m P m2 P m2 P m -8",
  "L1b -4 L4 P2 -11 S3 P2 S P2 S2 mb P - P3 L2b md M m7 Da P4 L2 m L63 P L m7 - S M2 m4 L2 m2 S",
  "M3 m L2 Da L3 S2 L Pe -2 L m L1e m10 Mb -2 L59 mb L -e Da L21 M9 L2 S P3 L -2 M S2 L16 m2 M2",
  "L m9 L m3 L m4 M -2 Pf - L19 M3 -2 P - Lb -5 L18 S L7 -7 m M8 L2a Ma mc M2 - m7 M6 m14 L36 m2",
  "M L mf M m2 L M4 m3 La m2 P2 Da P L10 m3 - L8 -2 L2 -2 L16 - L7 - L -3 L4 -2 M L m7 -2 m2 -2",
  "m2 M L -8 m -4 L2 - L3 m2 -2 Da L2 S2 O6 S2 L P M -2 m3 - L6 -4 L2 -2 L16 - L7 - L2 - L2 - L2",
  "-2 M - m5 -4 m2 -2 m2 M -3 m -7 L4 - L -7 Da m2 L3 m P -a m3 - L9 - L3 - L16 - L7 - L2 - L5",
  "-2 M L m8 - m3 - m2 M -2 L -f L2 m2 -2 Da P S -7 L m3 M3 - m3 - L8 -2 L2 -2 L16 - L7 - L2 -",
  "L5 -2 M L m7 -2 m2 -2 m2 M -7 M m2 -4 L2 - L3 m2 -2 Da S L O6 -a m L - L6 -3 L3 - L4 -3 L2 -",
  "L - L2 -3 L2 -3 L3 -3 Lc -4 m5 -3 m3 - m3 M -2 L -6 m -e Da O3 S8 -5 m5 L8 - L3 - L17 - L10",
  "-2 M L m7 - m3 - m3 M -7 m2 - L3 - L2 -2 L2 m2 -2 Da -7 P O7 S L m3 P L8 - L3 - L17 - La - L5",
  "-2 M L m7 - m3 - m3 M -7 m2 -5 L3 - L2 m2 -2 Da - L2 m -c m4 L9 - L3 - L29 M2 L m7 - m3 - m3",
  "M L S -4 L3 m O7 L3 m2 -2 Da O9 S L6 - m3 - L12 -3 L18 - L9 - L -2 L7 -3 M -4 m6 - m - m8 -6",
  "Da -2 m2 P -c L30 m L2 m7 -4 S L7 M6 m M P Da P2 -25 L2 - L - L5 - L18 - L - La m L2 m6 M m2",
  "L -2 L5 - L - M5 m M - Da -2 L4 -20 L S3 Pf S P S3 M2 S6 Da Oa S M S M S M P4 M2 L8 - L24 -4",
  "m13 M P M2 L5 mb - m24 - S8 M S6 - S2 P5 S4 P2 -25 L2b mc M m M2 m4 L Da P6 L6 m4 L4 m3 L m3",
  "L2 m7 L3 m4 Ld mc L m Da m4 S2 L26 - L -5 L -2 L2b P L14d - L4 -2 L7 - L - L4 -2 L29 - L4 -2",
  "L21 - L4 -2 L7 - L - L4 -2 Lf - L39 - L4 -2 L43 -2 M3 P9 O14 -3 L10 Sa -6 L56 -2 L6 -2 P L26c",
  "S P L11 Z L1a P2 -3 L4b P3 N3 L8 -7 L12 m2 M2 -9 L13 m2 M P2 -9 L12 m2 -c Ld - L3 - m2 -c L34",
  "M2 m13 Mb P3 L P3 S L M -2 Da -6 Oa -6 Pb M3 - M Da -6 L59 -7 L5 m2 L22 m L -5 L46 -a L1f -",
  "mc -4 m9 M3 -4 S -3 P2 Da L1e -2 L5 -b L2c -4 L1a -6 Da O -3 S22 L17 m5 -2 P2 L35 ma - M m14",
  "M8 -2 M Da -6 Da -6 P7 L P6 -2 Mf m2 Mb m3 Mf -2 Mc -14 m5 L2f M mf M L8 - P2 Da P7 Sa M9 S9",
  "P3 m3 L1e m9 M2 m2 L2 Da L2c M mb M2 -8 P4 L24 m13 M -3 P5 Da -3 L3 Da L24 P2 Lb -5 L2b -2 L3",
  "P8 -8 M3 P M15 L4 M L6 M L2 M3 L -5 Lc0 M13 m22 Mb L116 -2 L6 -2 L26 -2 L6 -2 L8 - L - L - L",
  "- L1f -2 L35 - L7 S L S3 L3 - L7 S3 L4 -2 L6 - S3 Ld S3 -2 L3 - L7 S2 - Zb -5 P18 Z2 -5 Z Pf",
  "C2 P3 S Pd S P C Pa Z -10 O L -2 O6 S3 P2 L Oa S3 P2 - Ld -3 S22 -e M21 -f S2 L S4 L S2 La S",
  "L S3 L5 S6 L S L S L S L4 S Lb S2 L4 S5 L5 S4 L S O10 N23 L2 N4 O S2 -4 S178 P4 S1d P2 Sff",
  "-16 Sb -15 O3c S1a s34 O16 S268 Pe O1e S31 P2 S1f Pa S193 P16 S3f P4 S20 P2 S176 -2 S8a Le5",
  "S6 L4 M3 L2 -5 P4 O P2 L26 - L -5 L -2 L38 -7 L P -e M L17 -9 L7 - L7 - L7 - L7 - L7 - L7 -",
  "L7 - L7 - m20 P2f L P20 S2 Pc -22 S1a - S59 -c Sd6 -1a S10 Z P3 S L2 N Pa S2 Pc S N9 M6 P L5",
  "S2 N3 L2 P S2 - L56 -2 M2 S2 L3 P L5a P L4 -5 L2b - L5e - S2 O4 Sa L20 S26 -9 S L10 S1f - Oa",
  "S1e O8 S Of S20 Oa S27 Of S140 L19c0 S40 L568d -3 S37 -9 L2e P2 L10d P3 L10 Da L2 -14 L2f M4",
  "P m8 M2 P L1f m2 L46 Na M2 P6 -8 S17 L9 S2 L67 S2 L52 -14 L11 m L3 M L4 m L17 m5 S4 M -3 O6",
  "S4 -6 L34 P4 -8 m2 L32 m10 M m -8 P2 Da -6 M12 L6 P3 L P L2 m Da L1c m5 M3 P2 L17 mc M -b P",
  "L1d -3 m4 L2f M mc M Pd - L Da -4 P2 L5 m La Da L5 - L29 me -9 L3 m L8 m2 -2 Da -2 P4 L17 S3",
  "L m3 L32 m L m3 L2 m2 L5 m M L M L -18 L3 P2 Lb m5 P2 L3 m M -a L6 -2 L6 -2 L6 -9 L7 - L7 -",
  "L2b S Le S2 -4 L73 m8 P M2 -2 Da -6 L2ba4 -c L17 -4 L31 -2104 L16e -2 L6a -26 L7 -c L5 -5 L m",
  "La S Ld - L5 - L - L2 - L2 - L6c S21 L16b P2 S10 L40 S2 L36 S8 -20 Lc S4 M10 Pa -6 M10 P3 C2",
  "P18 C3 P3 - Pe S P S3 - P S P2 -4 L5 - L87 -4 P3 S P6 S P4 Da P2 S3 P2 L1a P3 S C S L1a P S P",
  "S P7 L59 -3 L6 -2 L6 -2 L6 -2 L3 -3 S7 - S7 -d S2 -2 Lc - L1a - L13 - L2 - Lf -2 Le -22 L7b",
  "-5 P3 -4 O2d -3 S9 N35 O4 S11 O2 S3 - Sd -3 S -2f S2d M -82 L1d -3 L31 -f M O1b -4 L20 O4 -9",
  "L14 N L8 N -5 L26 m5 -5 L1e - P L24 -4 L8 P N5 -2a L9e -2 Da -6 L24 -4 L24 -4 L28 -8 L34 -b P",
  "Lb - Lf - L7 - L2 - Lb - Lf - L7 - L2 -3 L34 -c L137 -9 L16 -a L8 -18 L6 - L2a - L9 -45 L6 -2",
  "L - L2c - L2 -3 L -2 L17 - P O8 L17 S2 O7 L1f -8 O9 -30 L13 - L2 -5 O5 L16 O6 -3 P L1a -5 P",
  "L1a -26 L38 -4 O2 L2 O10 -2 O2e L m3 - m2 -5 m4 L4 - L3 - L1d -2 M3 -4 M O9 -7 P9 -7 L1d O2 P",
  "L1d O3 -20 L8 S L1c M2 -4 O5 P7 -9 L36 -3 P7 L16 -2 O8 L13 -5 O8 L12 -7 P4 -c O7 -50 L49 -37",
  "L33 -d L33 -7 O6 L24 m4 -8 Da -6 Da L1c -3 m M4 P L17 -8 S2 -d0 O1f - L2a - m2 P -2 L2 -10 L6",
  "-8 P S8 -21 m3 M3 L1d Oa L -8 L16 Mb O4 P5 -16 L12 M4 P4 -26 L15 O7 -14 L17 -9 m3 L35 me M P7",
  "-4 O14 Da M L2 m2 L -9 M m3 L2d m9 M2 P2 - P4 m -d L19 -7 Da -6 m3 L24 mc M2 - Da P4 L m2 L",
  "-8 L23 M P2 L -9 m3 L30 md M L4 P4 M4 P m2 Da L P L P3 - O14 -b L12 - L19 m9 M2 m P6 m L2 m",
  "-3e L7 - L - L4 - Lf - La P -6 L2f ma M2 -5 Da -6 m4 - L8 -2 L2 -2 L16 - L7 - L2 - L5 - M2 L",
  "m7 -2 m2 -2 m2 M -2 L -6 m -5 L5 m2 -2 M7 -3 M5 -b La - L -2 L - L26 - L m9 - m -2 m - m4 -",
  "m2 M3 L M L P2 - P2 -8 M2 -1d L35 md M m3 M L4 P5 Da P2 - P M L3 -1e L30 m12 M2 L2 P L -8 Da",
  "-a6 L2f m7 -2 m7 M2 P17 L4 m2 -22 L30 mf M m P3 L -b Da -6 Pd -13 L2b mb M2 L P -6 Da -6 D14",
  "-1c L1b -2 me M -4 Da O2 P3 S L7 -b9 L2c md M2 P -64 L40 Da O9 -c L8 -2 L -2 L8 - L2 - L18 m6",
  "- m2 -2 m2 M2 L m L m M P3 -9 Da -46 L8 -2 L27 m7 -2 m6 M L P L m -1b L ma L28 M2 m5 L m4 P8",
  "M -8 L mb L2e me M2 P3 L P5 -d L49 -7 Pa -56 m8 -58 L21 P -e Da -6 L9 - L25 m8 - m7 M L P5 -a",
  "Da O13 -3 P2 L1e -2 m16 - me -49 L7 - L2 - L26 m6 -3 m - m2 - m3 M m M2 L m -8 Da -6 L6 - L2",
  "- L20 m5 - m2 - m4 M L -7 Da -6 L2c -4 Da -f6 L13 m4 P2 -7 m2 L m Ld - L22 m7 -3 m3 M2 Pd Da",
  "M -55 L -f O15 S1d -d P L39a -66 N6f - P5 -b Lc4 -a4c L61 P2 -d L430 -10 M L6 Mf -a Lf9b -5",
  "L247 -1ab9 L1e m11 M Da -6c6 L239 -7 L1f - Da -4 P2 L4f - Da -6 L1e -2 M5 P -a L30 M7 P5 S4",
  "L4 P S -a Da - O7 - L15 -5 L13 -1b0 L2d P3 Da -c6 L40 O17 P4 -5 L19 -2 L19 -2c L4b -4 m L m37",
  "-7 m4 Ld -40 L2 P L M -b m2 L2 N3 -9 L1cd6 -29 L20 -61 L73 -21fd L4 - L7 - L2 - L123 -f L -1d",
  "L3 -2 L -e L4 -8 L18c -904 L6b -5 Ld -3 L9 -7 La -2 S M m P -f60 Sf0 Da S3 -3 S1b4 -6 S17 -f",
  "S11 -f M2e -2 M17 -9 S74 -3c Sf6 -a S27 -2 S3c M5 S3 M6 -8 M8 S2 M7 S1e M4 S3d -15 S42 M3 S",
  "-7a O14 -c O14 -c S57 -9 O19 -87 L55 - L47 - L2 -2 L -2 L2 -2 L4 - Lc - L - L7 - L41 - L4 -2",
  "L8 - L7 - L1c - L4 - L5 - L -3 L7 - L154 -2 L19 S L19 S L1f S L19 S L1f S L19 S L1f S L19 S",
  "L1f S L19 S L8 -2 D32 S200 M37 S4 M32 S8 M Se M S2 P5 -f M5 - Mf -450 L1f -6 L6 -d5 m7 - m11",
  "-2 m7 - m2 - m5 -5 L3e -21 m -70 L2d -3 M7 L7 -2 Da -4 L S -140 L1e M -11 L2c M4 Da -5 S -1d0",
  "L1c M4 Da -d6 L1e M2 L Da -4 P -c0 L1f - L3 m L2 m L7 m2 L5 m -8 L2 -e0 L7 - L4 - L2 - Lf -",
  "Lc5 -2 O9 M7 -29 L44 M3 m M3 L -4 Da -4 P2 -311 O3b S O3 S O4 -4c O2d S Of -c2 L4 - L1b - L2",
  "- L -2 L - La - L4 - L - L -6 L -4 L - L - L - L3 - L2 - L -2 L - L - L - L - L - L2 - L -2",
  "L4 - L7 - L4 - L4 - L - La - L11 -5 L3 - L5 - L11 -34 S2 -10e S2c -4 S64 -c Sf -2 Sf - Sf -",
  "S25 -a Od S23 s1a S6 s1a S6 s1a S24 -38 S1d -d S2c -4 S9 -7 S2 -e S6 -9a S3d9 -3 S11 -3 Sd -3",
  "Sda -6 Sc -4 S -f Sc -4 S38 -8 Sa -6 S28 -8 S1e -2 Sc -4 S2 -e S9 -27 S158 -8 Se -2 Sd -3 Sb",
  "-3 S39 - S -4 S10 -2 Sc -4 Sa -7 S93 - S5c Da S -405 La6e0 -20 L111e -2 L168e -2 L1d31 -f",
  "L26e -9a2 L21e -5e2 L134b -5 L212a -acc86 Mf0 -2fe10"]

/-- The kinds of characters. -/
def categoryTable : RunTable := .ofLines 0 categoryLines

end Hostlink.Text
