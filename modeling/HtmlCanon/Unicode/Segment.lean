import HtmlCanon.Unicode.CharSet

/-!
# Segments of texts

The classes of characters by which a text is divided into graphemes, words and sentences.
-/

namespace HtmlCanon.Unicode

/-- A division of the code points into classes. -/
structure Segmentation where
  /-- The classes that have names: a letter, and the names in small letters and without separators. -/
  classes : List (Char × List String)
  /-- For each run of code points of one class, in order, its letter and its length. -/
  runs : String

/-- The classes for graphemes. The letter H is for syllables of Hangul. -/
def graphemeBreak : Segmentation where
  classes := [
  ('C', ["control", "cn"]), ('R', ["cr"]), ('E', ["extend", "ex"]), ('L', ["l"]), ('N', ["lf"]),
  ('P', ["prepend", "pp"]), ('I', ["regionalindicator", "ri"]), ('S', ["spacingmark", "sm"]), ('T',
  ["t"]), ('V', ["v"]), ('J', ["zwj"])]
  runs := "
Ca N1 C2 R1 C12 X5f C21 Xd C1 X252 E70 X113 E7 X107 E2d X1 E1 X1 E2 X1 E2 X1 E1 X38 P6 Xa Eb X1 C1
X2e E15 X10 E1 X65 E7 P1 X1 E6 X2 E2 X1 E4 X21 P1 X1 E1 X1e E1b X5b Eb X3a E9 X9 E1 X18 E4 X1 E9
X1 E3 X1 E5 X2b E3 X34 P2 X6 E8 X2a E18 P1 E20 S1 X36 E1 S1 E1 X1 S3 E8 S4 E1 S2 X1 E7 Xa E2 X1d
E1 S2 X38 E1 X1 E1 S2 E4 X2 S2 X2 S2 E1 X9 E1 Xa E2 X1a E1 X2 E2 S1 X38 E1 X1 S3 E2 X4 E2 X2 E3 X3
E1 X1e E2 X3 E1 Xb E2 S1 X38 E1 X1 S3 E5 X1 E2 S1 X1 S2 E1 X14 E2 X16 E6 X1 E1 S2 X38 E1 X1 E2 S1
E4 X2 S2 X2 S2 E1 X7 E3 Xa E2 X1e E1 X3b E1 S1 E1 S2 X3 S3 X1 S3 E1 X9 E1 X28 E1 S3 E1 X37 E1 X1
E3 S4 X1 E3 X1 E4 X7 E2 Xb E2 X1d E1 S2 X38 E1 X1 S1 E1 S2 E1 S2 X1 E1 S2 X1 S2 E2 X7 E2 Xb E2 Xf
S1 Xc E2 S2 X37 E2 X1 E1 S2 E4 X1 S3 X1 S3 E1 P1 X8 E1 Xa E2 X1d E1 S2 X46 E1 X4 E1 S2 E3 X1 E1 X1
S7 E1 X12 S2 X3d E1 X1 S1 E7 Xc E8 X62 E1 X1 S1 E9 Xb E7 X49 E2 X1b E1 X1 E1 X1 E1 X4 S2 X31 Ee S1
E5 X1 E2 X5 Eb X1 E24 X9 E1 X66 E4 S1 E6 X1 E2 S2 E2 X17 S2 E2 X4 E3 X10 E4 Xd E1 X1 S1 E2 X6 E1
Xf E1 X62 L60 V48 T58 X15d E3 X3b2 E3 S1 X1c E2 S1 X1d E2 X1e E2 X40 E2 S1 E7 S8 E1 S2 Eb X9 E1
X2d E3 C1 E1 X75 E2 X22 E1 X76 E3 S4 E2 S3 X4 S2 E1 S6 E3 Xdb E2 S2 E1 X39 S1 E1 S1 E7 X1 E1 X1 E1
X2 E8 S6 Ea X2 E1 X30 E1f X31 E4 S1 X2f E7 S1 E1 S5 E1 S2 X26 E9 Xc E2 S1 X1e S1 E4 S2 E2 S1 E3
X38 E1 S1 E2 S3 E1 S1 E3 S2 X30 S8 E8 S2 E2 X98 E3 X1 Ed S1 E7 X4 E1 X6 E1 X2 S1 E2 Xc6 E40 X20b
C1 E1 J1 C2 X18 C7 X31 C10 X60 E21 Xbfe E3 X8d E1 X60 E20 X22a E6 X69 E2 X75d4 E4 X1 Ea X20 E2 X50
E2 X110 E1 X3 E1 X4 E1 X17 S2 E2 S1 X4 E1 X53 S2 X32 S10 E2 X1a E12 Xd E1 X26 E8 X19 Eb S2 Xc L1d
X3 E3 S1 X2f E1 S2 E4 S2 E2 S3 X24 E1 X43 E6 S2 E2 S2 E2 Xc E1 X8 E1 S1 X2e E1 X33 E1 X1 E3 X2 E2
X5 E2 X1 E1 X29 S1 E2 S2 X5 S1 E1 Xec S2 E1 S2 E1 S2 X1 S1 E1 X12 H2ba4 Xc V17 X4 T31 X2322 E1
X2e1 E10 X10 E10 Xcf C1 X9e E2 X50 Cc X201 E1 Xe2 E1 X95 E5 X686 E3 X1 E2 X5 E4 X28 E3 X4 E1 Xa5
E2 X23d E4 X183 E2 X50 E3 X46 Eb X31 E4 X7a S1 E1 S1 X35 Ef X29 E1 X2 E2 Xa E3 S1 X2d S3 E4 S2 E2
X2 P1 X4 E1 Xa P1 X32 E3 X24 E5 S1 E8 X10 S2 X2c E1 Xc E2 S1 X30 S3 E9 S2 X1 P2 X5 E4 X1 S1 E1 X5c
S3 E3 S2 E1 S1 E2 X6 E1 X2 E1 X9d E1 S3 E8 X15 E2 S2 X37 E2 X1 E1 S1 E1 S4 X2 S2 X2 S3 X9 E1 Xa S2
X2 E7 X3 E5 Xc0 S3 E8 S2 E3 S1 E1 X17 E1 X51 E1 S2 E6 S1 E1 S2 E1 S1 E2 S1 E2 Xeb E1 S2 E4 X2 S4
E2 S1 E2 X1b E2 X52 S3 E8 S2 E1 S1 E2 X6a E1 S1 E1 S2 E6 S1 E1 X65 E3 X2 E4 S1 E5 X100 S3 E9 S1 E2
Xf5 E1 S5 X1 S2 X2 E2 S1 E1 P1 S1 P1 S1 E1 X8d S3 E4 X2 E2 S4 E1 X3 S1 X1c Ea X28 E6 S1 P1 E4 X8
E1 X9 E6 S2 E3 X28 P6 Ed S1 E2 X195 S1 E7 X1 E6 S1 E1 X52 E16 X1 S1 E7 S1 E2 S1 E2 X7a E6 X3 E1 X1
E2 X1 E7 P1 E1 X42 S5 X1 E2 X1 S2 E1 S1 E1 X15b E2 S2 X9 E2 P1 S1 X30 S2 E5 X3 S2 E1 S1 E1 X14ed
C10 E1 X6 Ef X369a E5 X3b E7 X418 E1 X1 S37 X7 E4 X51 E1 Xb S2 X4cab E2 X1 C4 X125c E2e X2 E17
X21e E1 S1 E3 X3 S1 E5 C8 E8 X2 E7 X1e E4 X94 E3 X7bb E37 X4 E32 X8 E1 Xe E1 X16 E5 X1 Ef X550 E7
X1 E11 X2 E7 X1 E2 X1 E5 X64 E1 Xa0 E7 X177 E1 X3d E4 X1fc E4 X3e0 E7 X6d E7 X89b I1a X1fb E5
Xc0c00 C20 E60 C80 Ef0 Ce10 X2f000
"

/-- The classes for words. -/
def wordBreak : Segmentation where
  classes := [
  ('R', ["cr"]), ('D', ["doublequote", "dq"]), ('K', ["extendnumlet", "ex"]), ('E', ["extend"]),
  ('F', ["format", "fo"]), ('H', ["hebrewletter", "hl"]), ('G', ["katakana", "ka"]), ('A',
  ["aletter", "le"]), ('N', ["lf"]), ('B', ["midnumlet", "mb"]), ('L', ["midletter", "ml"]), ('M',
  ["midnum", "mn"]), ('O', ["newline", "nl"]), ('Q', ["numeric", "nu"]), ('I', ["regionalindicator",
  "ri"]), ('S', ["singlequote", "sq"]), ('W', ["wsegspace"]), ('J', ["zwj"])]
  runs := "
Xa N1 O2 R1 X12 W1 X1 D1 X4 S1 X4 M1 X1 B1 X1 Qa L1 M1 X5 A1a X4 K1 X1 A1a Xa O1 X24 A1 X2 F1 X7
A1 X1 L1 X2 A1 X5 A17 X1 A1f X1 A1e0 X6 A22 E70 A5 X1 A2 X2 A4 M1 A1 X6 A1 L1 A3 X1 A1 X1 A14 X1
A53 X1 A8b X1 E7 Aa6 X1 A26 X2 A4 X1 A1 L1 A29 M1 A1 X6 E2d X1 E1 X1 E2 X1 E2 X1 E1 X8 H1b X4 H4
A1 L1 Xb F6 X6 M2 X2 Eb X1 F1 X3 A2b E15 Qa X1 Q1 M1 X1 A2 E1 A63 X1 A1 E7 F1 X1 E6 A2 E2 X1 E4 A2
Qa A3 X2 A1 Xf F1 A1 E1 A1e E1b X2 A59 Eb A1 Xe Qa A21 E9 A2 X2 M1 X1 A1 X2 E1 X2 A16 E4 A1 E9 A1
E3 A1 E5 X12 A19 E3 X4 Ab X5 A18 X1 A6 X1 F2 X6 E8 A2a E18 F1 E21 A36 E3 A1 E12 A1 E7 Aa E2 X2 Qa
X1 A10 E3 X1 A8 X2 A2 X2 A16 X1 A7 X1 A1 X3 A4 X2 E1 A1 E7 X2 E2 X2 E3 A1 X8 E1 X4 A2 X1 A3 E2 X2
Qa A2 Xa A1 X1 E1 X2 E3 X1 A6 X4 A2 X2 A16 X1 A7 X1 A2 X1 A2 X1 A2 X2 E1 X1 E5 X4 E2 X2 E3 X3 E1
X7 A4 X1 A1 X7 Qa E2 A3 E1 Xb E3 X1 A9 X1 A3 X1 A16 X1 A7 X1 A2 X1 A5 X2 E1 A1 E8 X1 E3 X1 E3 X2
A1 Xf A2 E2 X2 Qa X9 A1 E6 X1 E3 X1 A8 X2 A2 X2 A16 X1 A7 X1 A2 X1 A5 X2 E1 A1 E7 X2 E2 X2 E3 X7
E3 X4 A2 X1 A3 E2 X2 Qa X1 A1 X10 E1 A1 X1 A6 X3 A3 X1 A4 X3 A2 X1 A1 X1 A2 X3 A2 X3 A3 X3 Ac X4
E5 X3 E3 X1 E4 X2 A1 X6 E1 Xe Qa X10 E5 A8 X1 A3 X1 A17 X1 A10 X2 E1 A1 E7 X1 E3 X1 E4 X7 E2 X1 A3
X2 A1 X2 A2 E2 X2 Qa X10 A1 E3 X1 A8 X1 A3 X1 A17 X1 Aa X1 A5 X2 E1 A1 E7 X1 E3 X1 E4 X7 E2 X6 A2
X1 A2 E2 X2 Qa X1 A2 E1 Xc E4 A9 X1 A3 X1 A29 E2 A1 E7 X1 E3 X1 E4 A1 X5 A3 E1 X7 A3 E2 X2 Qa Xa
A6 X1 E3 X1 A12 X3 A18 X1 A9 X1 A1 X2 A7 X3 E1 X4 E6 X1 E1 X1 E8 X6 Qa X2 E2 X3d E1 X2 E7 Xc E8 X1
Qa X57 E1 X2 E9 Xb E7 X1 Qa X26 A1 X17 E2 X6 Qa Xb E1 X1 E1 X1 E1 X4 E2 A8 X1 A24 X4 E14 X1 E2 A5
Eb X1 E24 X9 E1 X64 E14 X1 Qa Xc E4 X4 E3 X1 E3 X2 E7 X3 E4 Xd Ec X1 E1 Qa E4 X2 A26 X1 A1 X5 A1
X2 A2b X1 A14d X1 A4 X2 A7 X1 A1 X1 A4 X2 A29 X1 A4 X2 A21 X1 A4 X2 A7 X1 A1 X1 A4 X2 Af X1 A39 X1
A4 X2 A43 X2 E3 X20 A10 X10 A56 X2 A6 X3 A26c X2 A11 W1 A1a X5 A4b X3 Ab X7 A12 E4 X9 A13 E3 Xb
A12 E2 Xc Ad X1 A3 X1 E2 X40 E20 X9 E1 X2 Qa X21 E3 F1 E1 Qa X6 A59 X7 A5 E2 A22 E1 A1 X5 A46 Xa
A1f X1 Ec X4 Ec Xa Qa X80 Qa X26 A17 E5 X39 Ea X1 E1d X2 E1 Qa X6 Qa X16 E1f X31 E5 A2f E11 A8 X3
Qa X11 E9 Xc E3 A1e Ed A2 Qa A2c Ee Xc A24 E14 X8 Qa X3 A3 Qa A24 X2 A9 X7 A2b X2 A3 X10 E3 X1 E15
A4 E1 A6 E1 A2 E3 A1 X5 Ac0 E40 A116 X2 A6 X2 A26 X2 A6 X2 A8 X1 A1 X1 A1 X1 A1 X1 A1f X2 A35 X1
A7 X1 A1 X3 A3 X1 A7 X3 A4 X2 A6 X4 Ad X5 A3 X1 A7 X3 W7 X1 W3 X1 E1 J1 F2 X8 B2 Xa B1 X2 L1 O2 F5
K1 Xf K2 X3 M1 Xf K1 Xa W1 F5 X1 Fa X1 A1 Xd A1 X10 Ad X33 E21 X11 A1 X4 A1 X2 Aa X1 A1 X3 A5 X6
A1 X1 A1 X1 A1 X1 A4 X1 Ab X2 A4 X5 A5 X4 A1 X11 A29 X32d A34 X716 Ae5 X6 A4 E3 A2 Xc A26 X1 A1 X5
A1 X2 A38 X7 A1 Xf E1 A17 X9 A7 X1 A7 X1 A7 X1 A7 X1 A7 X1 A7 X1 A7 X1 A7 X1 E20 X2f A1 X1d0 W1 X4
A1 X24 E6 X1 G5 X5 A2 X5c E2 G2 X3 G5b X1 G4 X5 A2b X1 A5e X11 A20 X30 G10 Xd0 G2f X1 G58 X6ca8
A48d X43 A2e X2 A10d X3 A10 Qa A2 X14 A2f E4 X1 Ea X1 A1f E2 A50 E2 X16 Ac3 X5 A2 X1 A1 X1 A5 X18
A10 E1 A3 E1 A4 E1 A17 E5 X4 E1 X13 A34 Xc E2 A32 E12 Xa Qa X6 E12 A6 X3 A1 X1 A2 E1 Qa A1c E8 X2
A17 Ed Xc A1d X3 E4 A2f Ee Xe A1 Qa Xb E1 Xa Qa X6 A29 Ee X9 A3 E1 A8 E2 X2 Qa X21 E3 X32 E1 X1 E3
X2 E2 X5 E2 X1 E1 X1e Ab E5 X2 A3 E2 Xa A6 X2 A6 X2 A6 X9 A7 X1 A7 X1 A3a X6 A73 E8 X1 E2 X2 Qa X6
A2ba4 Xc A17 X4 A31 X2304 A7 Xc A5 X5 H1 E1 Ha X1 Hd X1 H5 X1 H1 X1 H2 X1 H2 X1 Ha A62 X21 A16b
X12 A40 X2 A36 X28 Ac X4 E10 M1 X2 L1 M1 Xb E10 X3 K2 X18 K3 M1 X1 B1 X1 M1 L1 X1a A5 X1 A87 X2 F1
X7 B1 X4 M1 X1 B1 X1 Qa L1 M1 X5 A1a X4 K1 X1 A1a Xb G38 E2 A1f X3 A6 X2 A6 X2 A6 X2 A3 X1c F3 X4
Ac X1 A1a X1 A13 X1 A2 X1 Af X2 Ae X22 A7b X45 A35 X88 E1 X82 A1d X3 A31 Xf E1 X1f A20 Xd A1e X5
A26 E5 X5 A1e X2 A24 X4 A8 X1 A5 X2a A9e X2 Qa X6 A24 X4 A24 X4 A28 X8 A34 Xc Ab X1 Af X1 A7 X1 A2
X1 Ab X1 Af X1 A7 X1 A2 X43 A137 X9 A16 Xa A8 X18 A6 X1 A2a X1 A9 X45 A6 X2 A1 X1 A2c X1 A2 X3 A1
X2 A17 Xa A17 X9 A1f X41 A13 X1 A2 Xa A16 Xa A1a X46 A38 X6 A2 X40 A1 E3 X1 E2 X5 E4 A4 X1 A3 X1
A1d X2 E3 X4 E1 X20 A1d X3 A1d X23 A8 X1 A1c E2 X19 A36 Xa A16 Xa A13 Xd A12 X6e A49 X37 A33 Xd
A33 Xd A24 E4 X8 Qa X146 A2a X1 E2 X3 A2 X4b E3 A1d Xa A1 X8 A16 Eb X1f A12 E4 X2a A15 X1b A17 X9
E3 A35 Ef X1f Qa E1 A2 E2 A1 X9 E4 A2d Eb X2 F1 X4 E1 Xa F1 X2 A19 X7 Qa X6 E3 A24 Ee X1 Qa X4 A1
E2 A1 X8 A23 E1 X2 A1 X9 E3 A30 Ee A4 X4 E4 X1 E2 Qa A1 X1 A1 X23 A12 X1 A19 Ec X6 E1 A2 E1 X3e A7
X1 A1 X1 A4 X1 Af X1 Aa X7 A2f Ec X5 Qa X6 E4 X1 A8 X2 A2 X2 A16 X1 A7 X1 A2 X1 A5 X1 E2 A1 E7 X2
E2 X2 E3 X2 A1 X6 E1 X5 A5 E2 X2 E7 X3 E5 X8b A35 E12 A4 X5 Qa X4 E1 A3 X1e A30 E14 A2 X1 A1 X8 Qa
Xa6 A2f E7 X2 E9 X17 A4 E2 X22 A30 E11 X3 A1 Xb Qa X26 A2b Ed A1 X7 Qa X53 Ef X4 Qa Xc6 A2c Ef X65
A40 Qa X15 A8 X2 A1 X2 A8 X1 A2 X1 A18 E6 X1 E2 X2 E4 A1 E1 A1 E2 Xc Qa X46 A8 X2 A27 E7 X2 E7 A1
X1 A1 E1 X1b A1 Ea A28 E7 A1 E4 X8 E1 X8 A1 Eb A2e E10 X3 A1 X12 A49 X107 A9 X1 A25 E8 X1 E8 A1 Xf
Qa X18 A1e X2 E16 X1 Ee X49 A7 X1 A2 X1 A26 E6 X3 E1 X1 E2 X1 E7 A1 E1 X8 Qa X6 A6 X1 A2 X1 A20 E5
X1 E2 X1 E5 A1 X7 Qa X136 A13 E4 X9 E2 A1 E1 Ad X1 A22 E7 X3 E5 Xd Qa X56 A1 X4f A39a X66 A6f X11
Ac4 Xa4c A61 Xf A430 F10 E1 A6 Ef Xfaa A247 X21b9 A239 X7 A1f X1 Qa X6 A4f X1 Qa X6 A1e X2 E5 Xb
A30 E7 X9 A4 Xc Qa X9 A15 X5 A13 X2b0 A40 X80 A4b X4 E1 A1 E37 X7 E4 Ad X40 A2 X1 A1 E1 Xb E2
X3ffe G4 X1 G7 X1 G2 X1 G1 X11f G3 X32 G1 Xe G4 Xa98 A6b X5 Ad X3 A9 X7 Aa X3 E2 X1 F4 X125c E2e
X2 E17 X21e E5 X3 E6 F8 E8 X2 E7 X1e E4 X94 E3 X1bb A55 X1 A47 X1 A2 X2 A1 X2 A2 X2 A4 X1 Ac X1 A1
X1 A7 X1 A41 X1 A4 X2 A8 X1 A7 X1 A1c X1 A4 X1 A5 X1 A1 X3 A7 X1 A154 X2 A19 X1 A19 X1 A1f X1 A19
X1 A1f X1 A19 X1 A1f X1 A19 X1 A1f X1 A19 X1 A8 X2 Q32 X200 E37 X4 E32 X8 E1 Xe E1 X16 E5 X1 Ef
X450 A1f X6 A6 Xd5 E7 X1 E11 X2 E7 X1 E2 X1 E5 X5 A3e X21 E1 X70 A2d X3 E7 A7 X2 Qa X4 A1 X141 A1e
E1 X11 A2c E4 Qa X1d6 A1c E4 Qa X2e6 A7 X1 A4 X1 A2 X1 Af X1 Ac5 Xb E7 X29 A44 E7 A1 X4 Qa X4a6 A4
X1 A1b X1 A2 X1 A1 X2 A1 X1 Aa X1 A4 X1 A1 X1 A1 X6 A1 X4 A1 X1 A1 X1 A1 X1 A3 X1 A2 X1 A1 X2 A1
X1 A1 X1 A1 X1 A1 X1 A1 X1 A2 X1 A1 X2 A4 X1 A7 X1 A4 X1 A4 X1 A1 X1 Aa X1 A11 X5 A3 X1 A5 X1 A11
X274 A1a X6 A1a X6 A1a X5c I1a X1fb E5 X7f0 Qa Xc0407 F1 X1e E60 X80 Ef0 X2fe10
"

/-- The classes for sentences. -/
def sentenceBreak : Segmentation where
  classes := [
  ('A', ["aterm", "at"]), ('C', ["close", "cl"]), ('R', ["cr"]), ('E', ["extend", "ex"]), ('F',
  ["format", "fo"]), ('O', ["oletter", "le"]), ('N', ["lf"]), ('L', ["lower", "lo"]), ('Q',
  ["numeric", "nu"]), ('M', ["scontinue", "sc"]), ('P', ["sep", "se"]), ('S', ["sp"]), ('T',
  ["sterm", "st"]), ('U', ["upper", "up"])]
  runs := "
X9 S1 N1 S2 R1 X12 S1 T1 C1 X4 C3 X2 M2 A1 X1 Qa M1 X4 T1 X1 U1a C1 X1 C1 X3 L1a C1 X1 C1 X7 P1
X1a S1 X9 L1 C1 X1 F1 X7 L1 X4 L1 C1 X4 U17 X1 U7 L18 X1 L8 U1 L1 U1 L1 U1 L1 U1 L1 U1 L1 U1 L1 U1
L1 U1 L1 U1 L1 U1 L1 U1 L1 U1 L1 U1 L1 U1 L1 U1 L1 U1 L1 U1 L1 U1 L1 U1 L1 U1 L1 U1 L1 U1 L1 U1 L1
U1 L1 U1 L1 U1 L1 U1 L1 U1 L2 U1 L1 U1 L1 U1 L1 U1 L1 U1 L1 U1 L1 U1 L1 U1 L2 U1 L1 U1 L1 U1 L1 U1
L1 U1 L1 U1 L1 U1 L1 U1 L1 U1 L1 U1 L1 U1 L1 U1 L1 U1 L1 U1 L1 U1 L1 U1 L1 U1 L1 U1 L1 U1 L1 U1 L1
U1 L1 U1 L1 U1 L1 U2 L1 U1 L1 U1 L3 U2 L1 U1 L1 U2 L1 U3 L2 U4 L1 U2 L1 U3 L3 U2 L1 U2 L1 U1 L1 U1
L1 U2 L1 U1 L2 U1 L1 U2 L1 U3 L1 U1 L1 U2 L2 O1 U1 L3 O4 U2 L1 U2 L1 U2 L1 U1 L1 U1 L1 U1 L1 U1 L1
U1 L1 U1 L1 U1 L1 U1 L2 U1 L1 U1 L1 U1 L1 U1 L1 U1 L1 U1 L1 U1 L1 U1 L1 U1 L2 U2 L1 U1 L1 U3 L1 U1
L1 U1 L1 U1 L1 U1 L1 U1 L1 U1 L1 U1 L1 U1 L1 U1 L1 U1 L1 U1 L1 U1 L1 U1 L1 U1 L1 U1 L1 U1 L1 U1 L1
U1 L1 U1 L1 U1 L1 U1 L1 U1 L1 U1 L1 U1 L1 U1 L1 U1 L1 U1 L1 U1 L1 U1 L7 U2 L1 U2 L2 U1 L1 U4 L1 U1
L1 U1 L1 U1 L1 U1 L45 O1 L24 O7 L2 X4 Oc Xe L5 X7 O1 X1 O1 X11 E70 U1 L1 U1 L1 O1 X1 U1 L1 X2 L4
X1 U1 X6 U1 X1 U3 X1 U1 X1 U2 L1 U11 X1 U9 L23 U1 L2 U3 L3 U1 L1 U1 L1 U1 L1 U1 L1 U1 L1 U1 L1 U1
L1 U1 L1 U1 L1 U1 L1 U1 L1 U1 L5 U1 L1 X1 U1 L1 U2 L2 U33 L30 U1 L1 U1 L1 U1 L1 U1 L1 U1 L1 U1 L1
U1 L1 U1 L1 U1 L1 U1 L1 U1 L1 U1 L1 U1 L1 U1 L1 U1 L1 U1 L1 U1 L1 X1 E7 U1 L1 U1 L1 U1 L1 U1 L1 U1
L1 U1 L1 U1 L1 U1 L1 U1 L1 U1 L1 U1 L1 U1 L1 U1 L1 U1 L1 U1 L1 U1 L1 U1 L1 U1 L1 U1 L1 U1 L1 U1 L1
U1 L1 U1 L1 U1 L1 U1 L1 U1 L1 U1 L1 U2 L1 U1 L1 U1 L1 U1 L1 U1 L1 U1 L1 U1 L2 U1 L1 U1 L1 U1 L1 U1
L1 U1 L1 U1 L1 U1 L1 U1 L1 U1 L1 U1 L1 U1 L1 U1 L1 U1 L1 U1 L1 U1 L1 U1 L1 U1 L1 U1 L1 U1 L1 U1 L1
U1 L1 U1 L1 U1 L1 U1 L1 U1 L1 U1 L1 U1 L1 U1 L1 U1 L1 U1 L1 U1 L1 U1 L1 U1 L1 U1 L1 U1 L1 U1 L1 U1
L1 U1 L1 U1 L1 U1 L1 U1 L1 U1 L1 U1 L1 U1 L1 U1 L1 U1 L1 U1 L1 U1 L1 X1 U26 X2 O1 X3 M1 X2 L29 T1
X7 E2d X1 E1 X1 E2 X1 E2 X1 E1 X8 O1b X4 O5 Xc F6 X6 M2 X2 Eb X1 F1 T3 O2b E15 Qa X1 Q2 X1 O2 E1
O63 T1 O1 E7 F1 X1 E6 O2 E2 X1 E4 O2 Qa O3 X2 O1 T3 Xc F1 O1 E1 O1e E1b X2 O59 Eb O1 Xe Qa O21 E9
O2 X2 M1 T1 O1 X2 E1 X2 O16 E4 O1 E9 O1 E3 O1 E5 X9 T1 X1 T1 X3 T2 X1 O19 E3 X4 Ob X5 O18 X1 O6 X1
F2 X6 E8 O2a E18 F1 E21 O36 E3 O1 E12 O1 E7 Oa E2 T2 Qa X1 O10 E3 X1 O8 X2 O2 X2 O16 X1 O7 X1 O1
X3 O4 X2 E1 O1 E7 X2 E2 X2 E3 O1 X8 E1 X4 O2 X1 O3 E2 X2 Qa O2 Xa O1 X1 E1 X2 E3 X1 O6 X4 O2 X2
O16 X1 O7 X1 O2 X1 O2 X1 O2 X2 E1 X1 E5 X4 E2 X2 E3 X3 E1 X7 O4 X1 O1 X7 Qa E2 O3 E1 Xb E3 X1 O9
X1 O3 X1 O16 X1 O7 X1 O2 X1 O5 X2 E1 O1 E8 X1 E3 X1 E3 X2 O1 Xf O2 E2 X2 Qa X9 O1 E6 X1 E3 X1 O8
X2 O2 X2 O16 X1 O7 X1 O2 X1 O5 X2 E1 O1 E7 X2 E2 X2 E3 X7 E3 X4 O2 X1 O3 E2 X2 Qa X1 O1 X10 E1 O1
X1 O6 X3 O3 X1 O4 X3 O2 X1 O1 X1 O2 X3 O2 X3 O3 X3 Oc X4 E5 X3 E3 X1 E4 X2 O1 X6 E1 Xe Qa X10 E5
O8 X1 O3 X1 O17 X1 O10 X2 E1 O1 E7 X1 E3 X1 E4 X7 E2 X1 O3 X2 O1 X2 O2 E2 X2 Qa X10 O1 E3 X1 O8 X1
O3 X1 O17 X1 Oa X1 O5 X2 E1 O1 E7 X1 E3 X1 E4 X7 E2 X6 O2 X1 O2 E2 X2 Qa X1 O2 E1 Xc E4 O9 X1 O3
X1 O29 E2 O1 E7 X1 E3 X1 E4 O1 X5 O3 E1 X7 O3 E2 X2 Qa Xa O6 X1 E3 X1 O12 X3 O18 X1 O9 X1 O1 X2 O7
X3 E1 X4 E6 X1 E1 X1 E8 X6 Qa X2 E2 Xd O30 E1 O2 E7 X5 O7 E8 X1 Qa X27 O2 X1 O1 X1 O5 X1 O18 X1 O1
X1 Oa E1 O2 E9 O1 X2 O5 X1 O1 X1 E7 X1 Qa X2 O4 X20 O1 X17 E2 X6 Qa Xb E1 X1 E1 X1 E1 C4 E2 O8 X1
O24 X4 E14 X1 E2 O5 Eb X1 E24 X9 E1 X39 O2b E14 O1 Qa T2 X4 O6 E4 O4 E3 O1 E3 O2 E7 O3 E4 Od Ec O1
E1 Qa E4 X2 U26 X1 U1 X5 U1 X2 O2b X1 L1 O14c X1 O4 X2 O7 X1 O1 X1 O4 X2 O29 X1 O4 X2 O21 X1 O4 X2
O7 X1 O1 X1 O4 X2 Of X1 O39 X1 O4 X2 O43 X2 E3 X2 T1 X4 T2 X17 O10 X10 U56 X2 L6 X3 O26c X1 T1 O11
S1 O1a C2 X3 O4b X3 Ob X7 O12 E4 X9 O13 E3 T2 X9 O12 E2 Xc Od X1 O3 X1 E2 Xc O34 E20 X3 O1 X4 O1
E1 X2 Qa X18 M1 T1 X4 M1 T1 X1 E3 F1 E1 Qa X6 O59 X7 O5 E2 O22 E1 O1 X5 O46 Xa O1f X1 Ec X4 Ec X8
T2 Qa O1e X2 O5 Xb O2c X4 O1a X6 Qa X26 O17 E5 X4 O35 Ea X1 E1d X2 E1 Qa X6 Qa Xd O1 T4 X4 E1f X31
E5 O2f E11 O8 X3 Qa T2 X2 T2 Xb E9 X9 T2 X1 E3 O1e Ed O2 Qa O2c Ee Xc O24 E14 X3 T2 X3 Qa X3 O3 Qa
O24 T2 L9 X7 O2b X2 O3 X10 E3 X1 E15 O4 E1 O6 E1 O2 E3 O1 X5 Lc0 E40 U1 L1 U1 L1 U1 L1 U1 L1 U1 L1
U1 L1 U1 L1 U1 L1 U1 L1 U1 L1 U1 L1 U1 L1 U1 L1 U1 L1 U1 L1 U1 L1 U1 L1 U1 L1 U1 L1 U1 L1 U1 L1 U1
L1 U1 L1 U1 L1 U1 L1 U1 L1 U1 L1 U1 L1 U1 L1 U1 L1 U1 L1 U1 L1 U1 L1 U1 L1 U1 L1 U1 L1 U1 L1 U1 L1
U1 L1 U1 L1 U1 L1 U1 L1 U1 L1 U1 L1 U1 L1 U1 L1 U1 L1 U1 L1 U1 L1 U1 L1 U1 L1 U1 L1 U1 L1 U1 L1 U1
L1 U1 L1 U1 L1 U1 L1 U1 L1 U1 L1 U1 L1 U1 L1 U1 L1 U1 L1 U1 L1 U1 L1 U1 L1 U1 L1 U1 L1 U1 L1 U1 L1
U1 L1 U1 L1 U1 L1 U1 L9 U1 L1 U1 L1 U1 L1 U1 L1 U1 L1 U1 L1 U1 L1 U1 L1 U1 L1 U1 L1 U1 L1 U1 L1 U1
L1 U1 L1 U1 L1 U1 L1 U1 L1 U1 L1 U1 L1 U1 L1 U1 L1 U1 L1 U1 L1 U1 L1 U1 L1 U1 L1 U1 L1 U1 L1 U1 L1
U1 L1 U1 L1 U1 L1 U1 L1 U1 L1 U1 L1 U1 L1 U1 L1 U1 L1 U1 L1 U1 L1 U1 L1 U1 L1 U1 L1 U1 L1 U1 L1 U1
L1 U1 L1 U1 L1 U1 L9 U8 L6 X2 U6 X2 L8 U8 L8 U8 L6 X2 U6 X2 L8 X1 U1 X1 U1 X1 U1 X1 U1 L8 U8 Le X2
L8 U8 L8 U8 L8 U8 L5 X1 L2 U5 X1 L1 X3 L3 X1 L2 U5 X3 L4 X2 L2 U4 X4 L8 U5 X5 L3 X1 L2 U5 X3 Sb F1
E2 F2 X3 M2 X3 C8 X4 A1 X3 P2 F5 S1 X9 C2 X1 T2 X7 C2 T3 X15 S1 F5 X1 Fa X1 L1 Xb C2 L1 Xd C2 X1
Ld X33 E21 X11 U1 X4 U1 X2 L1 U3 L2 U3 L1 X1 U1 X3 U5 X6 U1 X1 U1 X1 U1 X1 U4 X1 L1 U4 L1 O4 L1 X2
L2 U2 X5 U1 L4 X4 L1 X11 U10 L10 O3 U1 L1 O4 X17f C4 X1d C2 X18b U1a L1a X271 C6 X7 Ce X4f C2 X1f
Ca X193 C16 X3f C4 X20 C2 X202 U30 L30 U1 L1 U3 L2 U1 L1 U1 L1 U1 L1 U4 L1 U1 L2 U1 L8 U3 L1 U1 L1
U1 L1 U1 L1 U1 L1 U1 L1 U1 L1 U1 L1 U1 L1 U1 L1 U1 L1 U1 L1 U1 L1 U1 L1 U1 L1 U1 L1 U1 L1 U1 L1 U1
L1 U1 L1 U1 L1 U1 L1 U1 L1 U1 L1 U1 L1 U1 L1 U1 L1 U1 L1 U1 L1 U1 L1 U1 L1 U1 L1 U1 L1 U1 L1 U1 L1
U1 L1 U1 L1 U1 L1 U1 L1 U1 L1 U1 L1 U1 L1 U1 L1 U1 L1 U1 L1 U1 L1 U1 L1 U1 L1 U1 L1 U1 L2 X6 U1 L1
U1 L1 E3 U1 L1 Xc L26 X1 L1 X5 L1 X2 O38 X7 O1 Xf E1 O17 X9 O7 X1 O7 X1 O7 X1 O7 X1 O7 X1 O7 X1 O7
X1 O7 X1 E20 Ce Xe C2 X2 Ca X4 T1 O1 Xc T1 X5 C1 X10 T2 C8 X1a3 S1 M1 T1 X2 O3 Ca X2 C8 X1 C3 X1
O9 E6 X1 O5 X2 O5 X4 O56 X2 E2 X2 O3 X1 O5a X1 O4 X5 O2b X1 O5e X11 O20 X30 O10 X200 O19c0 X40
O568d X43 O2e X1 T1 O10d X1 T2 O10 Qa O2 X14 U1 L1 U1 L1 U1 L1 U1 L1 U1 L1 U1 L1 U1 L1 U1 L1 U1 L1
U1 L1 U1 L1 U1 L1 U1 L1 U1 L1 U1 L1 U1 L1 U1 L1 U1 L1 U1 L1 U1 L1 U1 L1 U1 L1 U1 L1 O1 E4 X1 Ea X1
O1 U1 L1 U1 L1 U1 L1 U1 L1 U1 L1 U1 L1 U1 L1 U1 L1 U1 L1 U1 L1 U1 L1 U1 L1 U1 L1 U1 L3 E2 O50 E2
X1 T1 X3 T1 X1f O9 X2 U1 L1 U1 L1 U1 L1 U1 L1 U1 L1 U1 L1 U1 L3 U1 L1 U1 L1 U1 L1 U1 L1 U1 L1 U1
L1 U1 L1 U1 L1 U1 L1 U1 L1 U1 L1 U1 L1 U1 L1 U1 L1 U1 L1 U1 L1 U1 L1 U1 L1 U1 L1 U1 L1 U1 L1 U1 L1
U1 L1 U1 L1 U1 L1 U1 L1 U1 L1 U1 L1 U1 L1 U1 L1 U1 La U1 L1 U1 L1 U2 L1 U1 L1 U1 L1 U1 L1 U1 L1 O1
X2 U1 L1 U1 L1 O1 U1 L1 U1 L3 U1 L1 U1 L1 U1 L1 U1 L1 U1 L1 U1 L1 U1 L1 U1 L1 U1 L1 U1 L1 U5 L1 U5
L1 U1 L1 U1 L1 U1 L1 U1 L1 U1 L1 U1 L1 U1 L1 U4 L1 U1 L1 X5 U1 L1 X1 L1 X1 L1 U1 L1 U1 L1 X18 L3
U1 L1 O1 L3 O7 E1 O3 E1 O4 E1 O17 E5 X4 E1 X13 O34 X2 T2 X8 E2 O32 E12 X8 T2 Qa X6 E12 O6 X3 O1 X1
O2 E1 Qa O1c E8 X1 T1 O17 Ed Xc O1d X3 E4 O2f Ee X7 T2 X5 O1 Qa X6 O5 E1 Oa Qa O5 X1 O29 Ee X9 O3
E1 O8 E2 X2 Qa X3 T3 O17 X3 O1 E3 O32 E1 O1 E3 O2 E2 O5 E2 O1 E1 O1 X18 O3 X2 Ob E5 T2 O3 E2 Xa O6
X2 O6 X2 O6 X9 O7 X1 O7 X1 L2b X1 Le X6 L50 O23 E8 T1 E2 X2 Qa X6 O2ba4 Xc O17 X4 O31 X2104 O16e
X2 O6a X26 L7 Xc L5 X5 O1 E1 Oa X1 Od X1 O5 X1 O1 X1 O2 X1 O2 X1 O6c X21 O16b C2 X10 O40 X2 O36
X28 Oc X4 E10 M2 X1 M1 X3 C2 X7 E10 X1 M2 X2 C10 X2 C2 X7 M2 A1 X2 M1 T2 M1 C6 X4 M1 Xc O5 X1 O87
X2 F1 X1 T1 X6 C2 X2 M2 A1 X1 Qa M1 X4 T1 X1 U1a C1 X1 C1 X3 L1a C1 X1 C1 X1 C2 T1 C2 M1 X1 O38 E2
O1f X3 O6 X2 O6 X2 O6 X2 O3 X1c F3 X4 Oc X1 O1a X1 O13 X1 O2 X1 Of X2 Oe X22 O7b X45 O35 X88 E1
X82 O1d X3 O31 Xf E1 X1f O20 Xd O1e X5 O26 E5 X5 O1e X2 O24 X4 O8 X1 O5 X2a U28 L28 O4e X2 Qa X6
U24 X4 L24 X4 O28 X8 O34 Xc Ub X1 Uf X1 U7 X1 U2 X1 Lb X1 Lf X1 L7 X1 L2 X43 O137 X9 O16 Xa O8 X18
L1 O2 L3 X1 L2a X1 L9 X45 O6 X2 O1 X1 O2c X1 O2 X3 O1 X2 O17 Xa O17 X9 O1f X41 O13 X1 O2 Xa O16 Xa
O1a X46 O38 X6 O2 X40 O1 E3 X1 E2 X5 E4 O4 X1 O3 X1 O1d X2 E3 X4 E1 X16 T2 X8 O1d X3 O1d X23 O8 X1
O1c E2 X19 O36 Xa O16 Xa O13 Xd O12 X6e O49 X37 U33 Xd L33 Xd O24 E4 X8 Qa X146 O2a X1 E2 X3 O2
X4b E3 O1d Xa O1 X8 O16 Eb X4 T5 X16 O12 E4 T4 X26 O15 X1b O17 X9 E3 O35 Ef T2 X1d Qa E1 O2 E2 O1
X9 E4 O2d Eb X2 F1 T4 E1 Xa F1 X2 O19 X7 Qa X6 E3 O24 Ee X1 Qa X1 T3 O1 E2 O1 X8 O23 E1 X2 O1 X9
E3 O30 Ee O4 T2 X2 E4 T1 E2 Qa O1 X1 O1 X1 T2 X20 O12 X1 O19 Ec T2 X1 T2 X1 E1 O2 E1 X3e O7 X1 O1
X1 O4 X1 Of X1 Oa T1 X6 O2f Ec X5 Qa X6 E4 X1 O8 X2 O2 X2 O16 X1 O7 X1 O2 X1 O5 X1 E2 O1 E7 X2 E2
X2 E3 X2 O1 X6 E1 X5 O5 E2 X2 E7 X3 E5 X8b O35 E12 O4 T2 X3 Qa X4 E1 O3 X1e O30 E14 O2 X1 O1 X8 Qa
Xa6 O2f E7 X2 E9 X1 T2 X5 Tf O4 E2 X22 O30 E11 T2 X1 O1 Xb Qa X26 O2b Ed O1 X7 Qa X36 O1b X2 Ef X4
Qa X2 T3 X1 O7 Xb9 O2c Ef X65 U20 L20 Qa X15 O8 X2 O1 X2 O8 X1 O2 X1 O18 E6 X1 E2 X2 E4 O1 E1 O1
E2 T1 X1 T1 X9 Qa X46 O8 X2 O27 E7 X2 E7 O1 X1 O1 E1 X1b O1 Ea O28 E7 O1 E4 X3 T2 X3 E1 X8 O1 Eb
O2e E10 X1 T2 O1 X12 O49 X107 O9 X1 O25 E8 X1 E8 O1 T2 Xd Qa X18 O1e X2 E16 X1 Ee X49 O7 X1 O2 X1
O26 E6 X3 E1 X1 E2 X1 E7 O1 E1 X8 Qa X6 O6 X1 O2 X1 O20 E5 X1 E2 X1 E5 O1 X7 Qa X136 O13 E4 T2 X7
E2 O1 E1 Od X1 O22 E7 X3 E5 T2 Xb Qa X56 O1 X4f O39a X66 O6f X11 Oc4 Xa4c O61 Xf O430 F10 E1 O6 Ef
Xfaa O247 X21b9 O239 X7 O1f X1 Qa X4 T2 O4f X1 Qa X6 O1e X2 E5 T1 Xa O30 E7 T2 X7 O4 T1 Xb Qa X9
O15 X5 O13 X2b0 U20 L20 X18 T1 X67 O4b X4 E1 O1 E37 X7 E4 Od X40 O2 X1 O1 E1 Xb E2 Xe O17f8 X8
O4d6 X2a O9 X22e7 O4 X1 O7 X1 O2 X1 O123 Xf O1 X1d O3 X2 O1 Xe O4 X8 O18c X904 O6b X5 Od X3 O9 X7
Oa X3 E2 T1 F4 X125c E2e X2 E17 X21e E5 X3 E6 F8 E8 X2 E7 X1e E4 X94 E3 X1bb U1a L1a U1a L7 X1 L12
U1a L1a U1 X1 U2 X2 U1 X2 U2 X2 U4 X1 U8 L4 X1 L1 X1 L7 X1 Lb U1a L1a U2 X1 U4 X2 U8 X1 U7 X1 L1a
U2 X1 U4 X1 U5 X1 U1 X3 U7 X1 L1a U1a L1a U1a L1a U1a L1a U1a L1a U1a L1a U1a L1c X2 U19 X1 L19 X1
L6 U19 X1 L19 X1 L6 U19 X1 L19 X1 L6 U19 X1 L19 X1 L6 U19 X1 L19 X1 L6 U1 L1 X2 Q32 X200 E37 X4
E32 X8 E1 Xe E1 X3 T1 X12 E5 X1 Ef X450 La O1 L14 X6 L6 Xd5 E7 X1 E11 X2 E7 X1 E2 X1 E5 X5 L3e X21
E1 X70 O2d X3 E7 O7 X2 Qa X4 O1 X141 O1e E1 X11 O2c E4 Qa X1d6 O1c E4 Qa X2e6 O7 X1 O4 X1 O2 X1 Of
X1 Oc5 Xb E7 X29 U22 L22 E7 O1 X4 Qa X4a6 O4 X1 O1b X1 O2 X1 O1 X2 O1 X1 Oa X1 O4 X1 O1 X1 O1 X6
O1 X4 O1 X1 O1 X1 O1 X1 O3 X1 O2 X1 O1 X2 O1 X1 O1 X1 O1 X1 O1 X1 O1 X1 O2 X1 O1 X2 O4 X1 O7 X1 O4
X1 O4 X1 O1 X1 Oa X1 O11 X5 O3 X1 O5 X1 O11 X274 U1a X6 U1a X6 U1a X4ec C3 X577 Qa X406 Oa6e0 X20
O103a X6 Ode X2 O1682 Xe O1d31 Xc1f O21e X5e2 O134b X5 O1060 Xadc51 F1 X1e E60 X80 Ef0 X2fe10
"

/-- The code points with a letter. -/
def Segmentation.withLetter (s : Segmentation) (letter : Char) : CharSet :=
  CharSet.normalize
    (((CharSet.readPartition 1 s.runs).filter fun (k, _) => k == [letter]).map (·.2))

/-- The characters of the class with a name. -/
def Segmentation.named? (s : Segmentation) (name : String) : Option CharSet :=
  (s.classes.find? fun (_, names) => names.contains name).map fun (letter, _) =>
    s.withLetter letter

/-- The syllables of Hangul without a final consonant: every 28th one, from the first on. -/
def openSyllables (syllables : CharSet) : CharSet :=
  syllables.flatMap fun (a, b) => (List.range' a ((b - a) / 28 + 1) 28).map fun n => (n, n)

/-- The characters of the class of graphemes with a name. Syllables of Hangul are in two classes. -/
def graphemeClass? (name : String) : Option CharSet :=
  let syllables := graphemeBreak.withLetter 'H'
  if name == "lv" then some (openSyllables syllables)
  else if name == "lvt" then some (syllables.diff (openSyllables syllables))
  else graphemeBreak.named? name

end HtmlCanon.Unicode
