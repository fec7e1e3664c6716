import HtmlCanon.Unicode.CharSet

/-!
# Ages

The age of a code point is the version of Unicode that assigned it. To ask for an age is to ask for
all code points that are no younger.
-/

namespace HtmlCanon.Unicode

/-- The versions, the oldest first. Their letters are in alphabetical order. -/
def versions : List (Char × String) := [
  ('A', "1.1"), ('B', "2.0"), ('C', "2.1"), ('D', "3.0"), ('E', "3.1"), ('F', "3.2"), ('G', "4.0"),
  ('H', "4.1"), ('I', "5.0"), ('J', "5.1"), ('K', "5.2"), ('L', "6.0"), ('M', "6.1"), ('N', "6.2"),
  ('O', "6.3"), ('P', "7.0"), ('Q', "8.0"), ('R', "9.0"), ('S', "10.0"), ('T', "11.0"), ('U',
  "12.0"), ('V', "12.1"), ('W', "13.0"), ('X', "14.0"), ('Y', "15.0")]

/-- The ages of all code points in order: for each run of code points of one age its letter and its
length. The letter Z is for code points that are not assigned. -/
def ageRuns : String := "
A1f6 D4 A1e D8 F1 G1 D12 G3 Hb Ie A59 D5 G2 A2f D1 Aa D5 G11 A46 D9 F1 G8 H5 G3 A2 D1 Fd J4 A2 J2
Z2 A1 I3 A1 P1 Z4 A7 Z1 A1 Z1 A14 Z1 A2c J1 A7 D1 F2 A1 D1 A1 D1 A1 D1 A1 D1 A12 E2 F1 G5 H4 D1 Ac
D1 A42 D1 Ac D1 A29 J1 D2 F2 D4 A35 F2 A2 F2 A2 F2 I1 A1c D2 A8 H2 A2 I6 F10 I4 J10 K2 L2 P8 Z1
A26 Z2 A7 T1 A27 T1 A1 D1 Z2 P2 M1 Z1 B11 H1 Bd Aa I1 A9 B1 H3 Z8 A1b Z4 T1 A5 Zb G4 M1 P1 J5 H1
A1 G9 J5 A1 O1 X1 H1 A1 L1 A1a J5 A13 D3 G3 H6 L1 Ae F2 A48 D2 A5 D1 Af D1 A1e G2 Aa D5 G1 De Z1
D1e G3 D1b Z2 G3 H1e J12 D31 F1 Ze I3b Z2 T3 K2e Z2 Kf Z1 L1c Z2 L1 Z1 Sb Z5 X1f Z1 X2 Z6 X8 M1 P1
Mb P6 Q2 X1 R8 Wa Xb T1 Rf Q1 M1b P1 K1 A3 G1 A35 L2 A12 K1 L1 A5 K1 L2 A19 J2 L5 P1 K2 I2 H1 I2
P1 A3 Z1 A8 Z2 A2 Z2 A16 Z1 A7 Z1 A1 Z3 A4 Z2 A1 G1 A7 Z2 A2 Z2 A3 H1 Z8 A1 Z4 A2 Z1 A5 Z2 A15 K1
S2 T1 Z2 G1 A1 G1 Z1 A6 Z4 A2 Z2 A16 Z1 A7 Z1 A2 Z1 A2 Z1 A2 Z2 A1 Z1 A5 Z4 A2 Z2 A3 Z3 J1 Z7 A4
Z1 A1 Z7 Af J1 T1 Za A3 Z1 A7 G1 A1 Z1 A3 Z1 A16 Z1 A7 Z1 A2 Z1 A5 Z2 Aa Z1 A3 Z1 A3 Z2 A1 Zf A1
G3 Z2 Aa M1 G1 Z7 Q1 S6 Z1 A3 Z1 A8 Z2 A2 Z2 A16 Z1 A7 Z1 A2 Z1 G1 A4 Z2 A8 J1 Z2 A2 Z2 A3 Z7 W1
A2 Z4 A2 Z1 A3 J2 Z2 Ab G1 L6 Za A2 Z1 A6 Z3 A3 Z1 A4 Z3 A2 Z1 A1 Z1 A2 Z3 A2 Z3 A3 Z3 A8 H1 A3 Z4
A5 Z3 A3 Z1 A4 Z2 J1 Z6 A1 Ze H1 Ac G8 Z5 P1 A3 T1 A8 Z1 A3 Z1 A17 Z1 Aa P1 A5 Z2 X1 J1 A7 Z1 A3
Z1 A4 Z7 A2 Z1 J2 Q1 Z2 X1 Z2 A2 J2 Z2 Aa Z7 U1 J8 R1 P1 A2 T1 A8 Z1 A3 Z1 A17 Z1 Aa Z1 A5 Z2 G2
A7 Z1 A3 Z1 A4 Z7 A2 Z6 X1 A1 Z1 A2 I2 Z2 Aa Z1 I2 Y1 Zc S1 P1 A2 W1 A8 Z1 A3 Z1 A17 L1 A10 L1 S2
J1 A6 J1 Z1 A3 Z1 A4 L1 R1 Z4 R3 A1 R7 Q1 A2 J2 Z2 Aa J6 R3 J7 Z1 W1 D2 Z1 D12 Z3 D18 Z1 D9 Z1 D1
Z2 D7 Z3 D1 Z4 D6 Z1 D1 Z1 D8 Z6 Pa Z2 D3 Zc A3a Z4 A1d Z25 A2 Z1 A1 Z1 U1 A2 U1 A1 Z1 U1 A1 U6 A4
U1 A7 U1 A3 Z1 A1 Z1 A1 U2 A2 U1 Ad U1 A3 Z2 A5 Z1 A1 Z1 A6 Y1 Z1 Aa Z2 A2 M2 Z20 B48 Z1 B21 D1 J2
Z4 B1b L4 B6 D1 B1 Z1 B15 D3 B7 D1 B1 D3 Z1 Df Z1 J1 D1 H2 J3 K4 L2 Z25 D22 J1 D5 J1 D2 J1 D7 J3
D4 J6 D1a J40 K4 J2 A26 Z1 M1 Z5 M1 Z2 A27 F2 H2 A1 H1 M3 A5a K5 A44 K5 A52 K6 D7 H1 D3f H1 D1 Z1
D4 Z2 D7 Z1 D1 Z1 D4 Z2 D27 H1 D1 Z1 D4 Z2 D1f H1 D1 Z1 D4 Z2 D7 Z1 D1 Z1 D4 Z2 D7 H1 D7 Z1 D17 H1
D1f H1 D1 Z1 D4 Z2 D7 H1 D27 H1 D13 Z2 L2 H2 D1c Z3 H1a Z6 D55 Q1 Z2 Q6 Z2 K1 D276 K9 D1d Z3 D51
P8 Z7 Fd X1 F7 X1 Z9 X1 F17 Z9 F14 Zc Fd Z1 F3 Z1 F2 Zc D5d G1 Z2 Da Z6 Ga Z6 Df X1 Da Z6 D58 T1
Z7 D2a J1 Z5 K46 Za G1d P2 Z1 Gc Z4 Gc Z4 G1 Z3 G2a Z2 G5 Zb H2a K2 Z4 H1a Z6 Ha K1 Z3 H2 G20 H1c
Z2 H2 K3f Z1 K1d Z2 Kb Z6 Ka Z6 Ke Z2 Pf W2 Xe Z31 I4c X1 Z3 I2d X2 Z1 J2b M3 Jc M6 L34 Z8 L4 J38
Z3 Jf Z3 J33 R9 Z7 T2b Z2 T3 M8 Z8 K23 M4 S1 P2 U1 Z5 G6c H58 I7 J1c Pf S4 X1 R1 L1 K1 I2 A9b B1
J4 A5a J6 A16 Z2 A6 Z2 A26 Z2 A6 Z2 A8 Z1 A1 Z1 A1 Z1 A1 Z1 A1f Z2 A35 Z1 Af Z1 Ae Z2 A6 Z1 A13 Z2
A3 Z1 A9 Z1 A2f D1 A17 F1 D6 F5 G2 H2 F1 H7 F5 J1 Z1 O4 A7 F1 Z2 A1b Z1 H5 L8 Z3 Ab B1 C1 D3 F2 H4
K3 L1 N1 P3 Q1 S1 X1 Zf A12 D2 F7 H1 I4 J1 Zf A39 D2 G1 H1 Ff H1 I2 J1 K3 A30 D1 I1 J4 K1 Q2 Z4
A5b D9 Fc Af2 Fe A1 D1 A79 D1 F1 D1e F34 G2 Hb Ic K1 Lb P7 R4 S1 A25 D2 Z19 Ab Z15 A8b F14 G1 A96
Fa A50 D8 F8 A14 G2 F2 H1 D1 A56 D2 Fc H2 Fa G8 Hb J1 K2 G2 H10 I1 Ja K3 J4 Ka L1 K13 L1 K1 L4 K18
P1 A4 L1 A4 L2 A1c L1 A23 L1 A1 L1 A4 L3 A1 K1 A7 L2 A7 Fe A1f L3 A18 L1 Ae L1 H7 I4 M1 J1 M1 L2
F1c J4 F10 D100 F200 Ge H6 I7 J5 I4 J29 P3 J5 K5 P1a Z2 P20 Z1 W1 P22 T3 Pc U1 P8 S1 T19 Q4 Tf U1
H2f X1 H2f X1 Id J3 K1 J3 I4 J6 K2 H6b K7 M2 Z5 H2d Z1 M1 Z5 M1 Z2 H36 M2 Z7 H1 L1 Ze L1 H17 Z9 H7
Z1 H7 Z1 H7 Z1 H7 Z1 H7 Z1 H7 Z1 H7 Z1 H7 Z1 J20 H18 J4 H2 J13 K1 Ma P7 R2 S5 T5 U1 W3 Xb Z22 D1a
Z1 D59 Zc Dd6 Z1a Dc Z4 A38 D3 F3 D1 A1 Z1 A54 F2 Z2 A6 F2 A5e F1 Z5 A28 J1 S1 T1 Z1 A5e Z1 A10
D18 L3 W5 H10 J14 Zc F10 A1d G2 Z1 A24 Kc G1 Ff A1c G2 H1 A32 Ff Ac G4 A2f V1 A77 G4 A63 G2 A1f G1
D19b6 Wa G40 A51a6 H16 J8 K8 M1 Q9 S15 T5 Wd X3 D48d Z3 D12 F2 D10 F1 Dc F1 D3 F1 D1 Z9 K30 J12c
Z14 J20 L2 J12 M8 J1c P6 Q1 M1 K58 Z8 H17 I4 J5 I2 J6b L2 Q1 L2 M2 Pc La M1 P3 R1 T1 P2 Q6 T2 U6
X2 U5 W4 Z5 X2 Z1 X1 Z1 X5 Z18 X3 W2 P1 M2 L1 J5 H2c W1 Z3 Ka Z6 I38 Z8 J45 R1 Z8 Jc Z6 K1c Q2 T2
J54 Zb J1 K1d Z3 K4e Z1 Kb Z4 K2 P1f Z1 J37 Z9 Je Z2 Ja Z2 J4 K1c P4 K43 Z18 K5 M17 Za L6 Z2 L6 Z2
L6 Z9 L7 Z1 L7 Z1 P30 Q4 P2 U2 W4 Z4 Q50 K2e Z2 Ka Z6 B2ba4 Zc K17 Z4 K31 Z4 B800 A1a2e M2 F3b K3
Z2 H6a Z26 A7 Zc A5 Z5 D1 A19 Z1 A5 Z1 A1 Z1 A2 Z1 A2 Z1 A6c L10 X1 Z10 A16d X10 A40 Z2 A36 Z7 X1
E20 Ac F1 G1 X2 F10 Ha Z6 A4 J3 P7 Q2 A15 F2 G2 Aa Z1 A13 Z1 A4 Z4 A3 F1 A1 Z1 A87 Z2 A1 Z1 A5e F2
A5e Z3 A6 Z2 A6 Z2 A6 Z2 A3 Z3 A7 Z1 A7 Za D3 C1 A3 Gc Z1 G1a Z1 G13 Z1 G2 Z1 Gf Z2 Ge Z22 G7b Z5
G3 Z4 G2d Z3 G9 H4b P2 R2 Z1 Jc W1 Z3 P1 Z2f J2e Z82 J1d Z3 J31 Zf P1c Z4 E1f P1 E4 Z9 S3 E1b Z5
P2b Z5 G1e Z1 G1 H24 Z4 He Z2a E26 G2 E26 G50 Z2 Ga Z6 R24 Z4 R24 Z4 P28 Z8 P34 Zb P1 Xb Z1 Xf Z1
X7 Z1 X2 Z1 Xb Z1 Xf Z1 X7 Z1 X2 Z43 P137 Z9 P16 Za P8 Z18 X6 Z1 X2a Z1 X9 Z45 G6 Z2 G1 Z1 G2c Z1
G2 Z3 G1 Z2 G1 K16 Z1 K9 P3f Z8 P9 Z30 Q13 Z1 Q2 Z5 Q5 I1a K2 Z3 I1 J1a Z5 J1 Z40 M38 Z4 Q2 M2 Q10
Z2 Q2e H4 Z1 H2 Z5 H8 Z1 H3 Z1 H1b T2 Z2 H3 Z4 H9 T1 Z7 H9 Z7 K20 P20 Z20 P27 Z4 Pc Z9 K36 Z3 K1d
Z2 K1b Z5 K8 P12 Z7 P4 Zc P7 Z50 K49 Z37 Q33 Zd Q33 Z7 Q6 T28 Z8 Ta Z126 K1f Z1 W2a Z1 W3 Z2 W2
Z4b Y3 T28 Z8 T2a Z16 X1a Z26 W1c Z14 U17 Z9 L4e Z4 L1e X6 Z9 P1 K42 X1 Za T1 Z2 M19 Z7 Ma Z6 M35
Z1 Me T3 W1 Z8 P27 Z9 M49 Q4 P1 W2 Ma P1 Q5 Z1 P14 Zb P12 Z1 P2b R1 Y3 Z3e Q7 Z1 Q1 Z1 Q4 Z1 Qf Z1
Qb Z6 P3b Z5 Pa Z6 Q1 P3 Z1 P8 Z2 P2 Z2 P16 Z1 P7 Z1 P2 Z1 P5 Z1 T1 P9 Z2 P2 Z2 P3 Z2 Q1 Z6 P1 Z5
P7 Z2 P7 Z3 P5 Z8b R5a W1 R1 Z1 R1 T1 U1 W2 Z1e P48 Z8 Pa Za6 P36 Z2 P12 Q14 Z22 P45 Zb Pa Z6 Rd
Z13 M38 U1 X1 Z6 Ma Z36 Q1a T1 Z2 Qf Z4 Q10 X7 Zb9 T3c Z64 P53 Zc P1 W7 Z2 W1 Z2 W8 Z1 W2 Z1 W1e
Z1 W2 Z2 Wc Z9 Wa Z46 U8 Z2 U2e Z2 Ub Z1b S48 Z8 S34 U2 S17 T1 S5 Zd X10 P39 Z7 Ya Zf6 R9 Z1 R2d
Z1 Re Za R1d Z3 R20 Z2 R16 Z1 Re Z49 S7 Z1 S2 Z1 S2c Z3 S1 Z1 S2 Z1 S9 Z8 Sa Z6 T6 Z1 T2 Z1 T25 Z1
T2 Z1 T6 Z7 Ta Z136 T19 Z7 Y11 Z1 Y29 Z3 Y1c Z56 W1 Zf U32 Zd U1 I36f P2a Q1 Z66 I63 Pc Z1 I4 P1
Zb Qc4 Za4c X63 Zd K42f Y1 U9 Y1d Zfaa Q247 Z21b9 L239 Z7 P1f Z1 Pa Z4 P2 X4f Z1 Xa Z6 P1e Z2 P6
Za P46 Za Pa Z1 P7 Z1 P15 Z5 P13 Z2b0 T5b Z65 M45 U6 Z4 U1 M2f U9 Z7 M11 Z40 R1 S1 U2 W1 Zb W2 Ze
R17ed T5 U6 Z8 R2f3 W1e3 Z2a W9 Z22e7 X4 Z1 X7 Z1 X2 Z1 L2 S11d X4 Zf Y1 Z1d U3 Z2 Y1 Ze U4 Z8
S18c Z904 P6b Z5 Pd Z3 P9 Z7 Pa Z2 P8 Z125c X2e Z2 X17 Z9 X74 Z3c Ef6 Za E27 Z2 J1 Eb4 Qb X2 Z15
H46 Z7a Y14 Zc T14 Zc G57 Z9 I12 T7 Z87 E55 Z1 E47 Z1 E2 Z2 E1 Z2 E2 Z2 E4 Z1 Ec Z1 E1 Z1 E4 G1 E2
Z1 E41 Z1 E4 Z2 E8 Z1 E7 Z1 E1c Z1 E4 Z1 E5 Z1 E1 Z3 E7 Z1 E152 H2 Z2 E122 I2 Z2 E32 Q28c Zf Q5 Z1
Qf Z450 X1f Z6 Y6 Zd5 R7 Z1 R11 Z2 R7 Z1 R2 Z1 R5 Z5 Y3e Z21 Y1 Z70 U2d Z3 Ue Z2 Ua Z4 U2 Z140 X1f
Z11 U3a Z5 U1 Z1d0 Y2a Z2e6 X7 Z1 X4 Z1 X2 Z1 Xf Z1 Pc5 Z2 P10 Z29 R4b U1 Z4 Ra Z4 R2 Z311 T44 Z4c
U3d Zc2 M4 Z1 M1b Z1 M2 Z1 M1 Z2 M1 Z1 Ma Z1 M4 Z1 M1 Z1 M1 Z6 M1 Z4 M1 Z1 M1 Z1 M1 Z1 M3 Z1 M2 Z1
M1 Z2 M1 Z1 M1 Z1 M1 Z1 M1 Z1 M1 Z1 M2 Z1 M1 Z2 M4 Z1 M7 Z1 M4 Z1 M4 Z1 M1 Z1 Ma Z1 M11 Z5 M3 Z1
M5 Z1 M11 Z34 M2 Z10e J2c Z4 J64 Zc Lf Z2 Le P1 Z1 Lf Z1 Lf P16 Za Kb P2 W3 K1f T1 L1 K1 Lb K1 L1
K1 L2 K1 L3 K1 L3 K5 L8 K1 L7 K1 La M2 U1 W3 L9 K1 L1 K2 L2 K1 La K4 L2 K1 La R12 W1 Z38 L1a K1 L2
Zd K22 L9 R1 Z4 K9 Z7 L2 Ze S6 Z9a L21 Pc Q3 L6 P1 L46 P1 Q2 L14 Pc L25 P1 L5 P4 Q5 Pc L11 P7 Q8
L3f P1 L1 P1 Lb6 P1 L4 P2 Q1 L3e P2 M4 P7 Q5 L18 P12 R1 P29 R1 P56 L5 M1 L10 M1 L3 M1 L1 M1 L1 M1
L1 M1 L3 M1 L6 M2 L4 M1 L1 M2 L4 M1 Lc P2 Q2 Lb P30 L46 Pa Q1 R2 S2 U1 W2 Z4 Y1 X3 Pd Z3 P4 R3 S2
T1 U1 W2 Z3 L74 Y3 Z4 Y5 P55 T4 Y1 Z6 Uc Z4 X1 Zf Pc Z4 P38 Z8 Pa Z6 P28 Z8 P1e Z2 W2 Z4e Sc W1 U3
Q9 R6 S1 R8 S8 R1 S2 Rc U1 Rc S1 T3 Rf Sd T5 U1 W1 T4 W2 X1 T1 U1 T4 Q5 Rd S6 Tb W2 U6 W3 U2 Ta U6
Q1 T2 U8 W1 X1 U3 S17 T19 U54 Zc Te Z2 U4 W1 Y3 U3 X2 Z3 U3 W4 Y2 Z7 U6 W13 X4 Y3 W7 X4 Y3 Z1 Y1
W3 X3 Z8 Y2 W7 X3 Y2 Z4 X8 Y1 Z7 X7 Y2 Z7 W93 Z1 W37 Z25 Wa Z404 B2 Ea6d7 W7 X2 Z20 K1035 X4 Y1 Z6
Lde Z2 Q1682 Ze S1d31 Zc1f E21e Z5e0 B2 W134b Z5 Y1060 Zdc4e B2 Zfffe B2 Zfffe B2 Zfffe B2 Zfffe
B2 Zfffe B2 Zfffe B2 Zfffe B2 Zfffe B2 Zfffe B2 Zfffe B2 Z1 E1 Z1e E60 Z80 Gf0 Zfe0e B20002 Z0
"

/-- Whether a text, in small letters and without separators, names a version. -/
def namesVersion (name version : String) : Bool :=
  name == version || name.toList == 'v' :: version.toList.filter (· != '.')

/-- The characters that a version has, given its name in small letters and without separators. -/
def agedAt? (name : String) : Option CharSet := do
  let (last, _) ← versions.find? fun (_, v) => namesVersion name v
  let table := CharSet.readPartition 1 ageRuns
  pure (CharSet.normalize ((table.filter fun (k, _) => k.all (· ≤ last)).map (·.2)))

end HtmlCanon.Unicode
