/-!
# Names of character references

The names that the HTML standard gives to characters. An entry is a name, a question mark if the
name is also understood without a semicolon, and the characters it stands for, as code points.
-/

namespace HtmlCanon.Html

/-- The named character references of the HTML standard, grouped by the first two letters of their
names, with what follows these letters in each entry. -/
def referenceNames : List (String × String) := [
  ("AE", "lig?=C6"), ("AM", "P?=26"), ("Aa", "cute?=C1"), ("Ab", "reve=102"),
  ("Ac", "irc?=C2 y=410"), ("Af", "r=1D504"), ("Ag", "rave?=C0"), ("Al", "pha=391"),
  ("Am", "acr=100"), ("An", "d=2A53"), ("Ao", "gon=104 pf=1D538"), ("Ap", "plyFunction=2061"),
  ("Ar", "ing?=C5"), ("As", "cr=1D49C sign=2254"), ("At", "ilde?=C3"), ("Au", "ml?=C4"),
  ("Ba", "ckslash=2216 rv=2AE7 rwed=2306"), ("Bc", "y=411"),
  ("Be", "cause=2235 rnoullis=212C ta=392"), ("Bf", "r=1D505"), ("Bo", "pf=1D539"),
  ("Br", "eve=2D8"), ("Bs", "cr=212C"), ("Bu", "mpeq=224E"), ("CH", "cy=427"), ("CO", "PY?=A9"),
  ("Ca", "cute=106 p=22D2 pitalDifferentialD=2145 yleys=212D"),
  ("Cc", "aron=10C edil?=C7 irc=108 onint=2230"), ("Cd", "ot=10A"), ("Ce", "dilla=B8 nterDot=B7"),
  ("Cf", "r=212D"), ("Ch", "i=3A7"),
  ("Ci", "rcleDot=2299 rcleMinus=2296 rclePlus=2295 rcleTimes=2297"),
  ("Cl", "ockwiseContourIntegral=2232 oseCurlyDoubleQuote=201D oseCurlyQuote=2019"),
  ("Co", "lon=2237 lone=2A74 ngruent=2261 nint=222F ntourIntegral=222E pf=2102 product=2210
      unterClockwiseContourIntegral=2233"),
  ("Cr", "oss=2A2F"), ("Cs", "cr=1D49E"), ("Cu", "p=22D3 pCap=224D"), ("DD", "=2145 otrahd=2911"),
  ("DJ", "cy=402"), ("DS", "cy=405"), ("DZ", "cy=40F"), ("Da", "gger=2021 rr=21A1 shv=2AE4"),
  ("Dc", "aron=10E y=414"), ("De", "l=2207 lta=394"), ("Df", "r=1D507"),
  ("Di", "acriticalAcute=B4 acriticalDot=2D9 acriticalDoubleAcute=2DD acriticalGrave=60
      acriticalTilde=2DC amond=22C4 fferentialD=2146"),
  ("Do", "pf=1D53B t=A8 tDot=20DC tEqual=2250 ubleContourIntegral=222F ubleDot=A8
      ubleDownArrow=21D3 ubleLeftArrow=21D0 ubleLeftRightArrow=21D4 ubleLeftTee=2AE4
      ubleLongLeftArrow=27F8 ubleLongLeftRightArrow=27FA ubleLongRightArrow=27F9
      ubleRightArrow=21D2 ubleRightTee=22A8 ubleUpArrow=21D1 ubleUpDownArrow=21D5
      ubleVerticalBar=2225 wnArrow=2193 wnArrowBar=2913 wnArrowUpArrow=21F5 wnBreve=311
      wnLeftRightVector=2950 wnLeftTeeVector=295E wnLeftVector=21BD wnLeftVectorBar=2956
      wnRightTeeVector=295F wnRightVector=21C1 wnRightVectorBar=2957 wnTee=22A4 wnTeeArrow=21A7
      wnarrow=21D3"),
  ("Ds", "cr=1D49F trok=110"), ("EN", "G=14A"), ("ET", "H?=D0"), ("Ea", "cute?=C9"),
  ("Ec", "aron=11A irc?=CA y=42D"), ("Ed", "ot=116"), ("Ef", "r=1D508"), ("Eg", "rave?=C8"),
  ("El", "ement=2208"), ("Em", "acr=112 ptySmallSquare=25FB ptyVerySmallSquare=25AB"),
  ("Eo", "gon=118 pf=1D53C"), ("Ep", "silon=395"), ("Eq", "ual=2A75 ualTilde=2242 uilibrium=21CC"),
  ("Es", "cr=2130 im=2A73"), ("Et", "a=397"), ("Eu", "ml?=CB"), ("Ex", "ists=2203 ponentialE=2147"),
  ("Fc", "y=424"), ("Ff", "r=1D509"), ("Fi", "lledSmallSquare=25FC lledVerySmallSquare=25AA"),
  ("Fo", "pf=1D53D rAll=2200 uriertrf=2131"), ("Fs", "cr=2131"), ("GJ", "cy=403"), ("GT", "?=3E"),
  ("Ga", "mma=393 mmad=3DC"), ("Gb", "reve=11E"), ("Gc", "edil=122 irc=11C y=413"),
  ("Gd", "ot=120"), ("Gf", "r=1D50A"), ("Gg", "=22D9"), ("Go", "pf=1D53E"),
  ("Gr", "eaterEqual=2265 eaterEqualLess=22DB eaterFullEqual=2267 eaterGreater=2AA2 eaterLess=2277
      eaterSlantEqual=2A7E eaterTilde=2273"),
  ("Gs", "cr=1D4A2"), ("Gt", "=226B"), ("HA", "RDcy=42A"), ("Ha", "cek=2C7 t=5E"),
  ("Hc", "irc=124"), ("Hf", "r=210C"), ("Hi", "lbertSpace=210B"),
  ("Ho", "pf=210D rizontalLine=2500"), ("Hs", "cr=210B trok=126"),
  ("Hu", "mpDownHump=224E mpEqual=224F"), ("IE", "cy=415"), ("IJ", "lig=132"), ("IO", "cy=401"),
  ("Ia", "cute?=CD"), ("Ic", "irc?=CE y=418"), ("Id", "ot=130"), ("If", "r=2111"),
  ("Ig", "rave?=CC"), ("Im", "=2111 acr=12A aginaryI=2148 plies=21D2"),
  ("In", "t=222C tegral=222B tersection=22C2 visibleComma=2063 visibleTimes=2062"),
  ("Io", "gon=12E pf=1D540 ta=399"), ("Is", "cr=2110"), ("It", "ilde=128"),
  ("Iu", "kcy=406 ml?=CF"), ("Jc", "irc=134 y=419"), ("Jf", "r=1D50D"), ("Jo", "pf=1D541"),
  ("Js", "cr=1D4A5 ercy=408"), ("Ju", "kcy=404"), ("KH", "cy=425"), ("KJ", "cy=40C"),
  ("Ka", "ppa=39A"), ("Kc", "edil=136 y=41A"), ("Kf", "r=1D50E"), ("Ko", "pf=1D542"),
  ("Ks", "cr=1D4A6"), ("LJ", "cy=409"), ("LT", "?=3C"),
  ("La", "cute=139 mbda=39B ng=27EA placetrf=2112 rr=219E"), ("Lc", "aron=13D edil=13B y=41B"),
  ("Le", "ftAngleBracket=27E8 ftArrow=2190 ftArrowBar=21E4 ftArrowRightArrow=21C6 ftCeiling=2308
      ftDoubleBracket=27E6 ftDownTeeVector=2961 ftDownVector=21C3 ftDownVectorBar=2959 ftFloor=230A
      ftRightArrow=2194 ftRightVector=294E ftTee=22A3 ftTeeArrow=21A4 ftTeeVector=295A
      ftTriangle=22B2 ftTriangleBar=29CF ftTriangleEqual=22B4 ftUpDownVector=2951
      ftUpTeeVector=2960 ftUpVector=21BF ftUpVectorBar=2958 ftVector=21BC ftVectorBar=2952
      ftarrow=21D0 ftrightarrow=21D4 ssEqualGreater=22DA ssFullEqual=2266 ssGreater=2276
      ssLess=2AA1 ssSlantEqual=2A7D ssTilde=2272"),
  ("Lf", "r=1D50F"), ("Ll", "=22D8 eftarrow=21DA"), ("Lm", "idot=13F"),
  ("Lo", "ngLeftArrow=27F5 ngLeftRightArrow=27F7 ngRightArrow=27F6 ngleftarrow=27F8
      ngleftrightarrow=27FA ngrightarrow=27F9 pf=1D543 werLeftArrow=2199 werRightArrow=2198"),
  ("Ls", "cr=2112 h=21B0 trok=141"), ("Lt", "=226A"), ("Ma", "p=2905"), ("Mc", "y=41C"),
  ("Me", "diumSpace=205F llintrf=2133"), ("Mf", "r=1D510"), ("Mi", "nusPlus=2213"),
  ("Mo", "pf=1D544"), ("Ms", "cr=2133"), ("Mu", "=39C"), ("NJ", "cy=40A"), ("Na", "cute=143"),
  ("Nc", "aron=147 edil=145 y=41D"),
  ("Ne", "gativeMediumSpace=200B gativeThickSpace=200B gativeThinSpace=200B
      gativeVeryThinSpace=200B stedGreaterGreater=226B stedLessLess=226A wLine=A"),
  ("Nf", "r=1D511"),
  ("No", "Break=2060 nBreakingSpace=A0 pf=2115 t=2AEC tCongruent=2262 tCupCap=226D
      tDoubleVerticalBar=2226 tElement=2209 tEqual=2260 tEqualTilde=2242+338 tExists=2204
      tGreater=226F tGreaterEqual=2271 tGreaterFullEqual=2267+338 tGreaterGreater=226B+338
      tGreaterLess=2279 tGreaterSlantEqual=2A7E+338 tGreaterTilde=2275 tHumpDownHump=224E+338
      tHumpEqual=224F+338 tLeftTriangle=22EA tLeftTriangleBar=29CF+338 tLeftTriangleEqual=22EC
      tLess=226E tLessEqual=2270 tLessGreater=2278 tLessLess=226A+338 tLessSlantEqual=2A7D+338
      tLessTilde=2274 tNestedGreaterGreater=2AA2+338 tNestedLessLess=2AA1+338 tPrecedes=2280
      tPrecedesEqual=2AAF+338 tPrecedesSlantEqual=22E0 tReverseElement=220C tRightTriangle=22EB
      tRightTriangleBar=29D0+338 tRightTriangleEqual=22ED tSquareSubset=228F+338
      tSquareSubsetEqual=22E2 tSquareSuperset=2290+338 tSquareSupersetEqual=22E3 tSubset=2282+20D2
      tSubsetEqual=2288 tSucceeds=2281 tSucceedsEqual=2AB0+338 tSucceedsSlantEqual=22E1
      tSucceedsTilde=227F+338 tSuperset=2283+20D2 tSupersetEqual=2289 tTilde=2241 tTildeEqual=2244
      tTildeFullEqual=2247 tTildeTilde=2249 tVerticalBar=2224"),
  ("Ns", "cr=1D4A9"), ("Nt", "ilde?=D1"), ("Nu", "=39D"), ("OE", "lig=152"), ("Oa", "cute?=D3"),
  ("Oc", "irc?=D4 y=41E"), ("Od", "blac=150"), ("Of", "r=1D512"), ("Og", "rave?=D2"),
  ("Om", "acr=14C ega=3A9 icron=39F"), ("Oo", "pf=1D546"),
  ("Op", "enCurlyDoubleQuote=201C enCurlyQuote=2018"), ("Or", "=2A54"), ("Os", "cr=1D4AA lash?=D8"),
  ("Ot", "ilde?=D5 imes=2A37"), ("Ou", "ml?=D6"),
  ("Ov", "erBar=203E erBrace=23DE erBracket=23B4 erParenthesis=23DC"), ("Pa", "rtialD=2202"),
  ("Pc", "y=41F"), ("Pf", "r=1D513"), ("Ph", "i=3A6"), ("Pi", "=3A0"), ("Pl", "usMinus=B1"),
  ("Po", "incareplane=210C pf=2119"),
  ("Pr", "=2ABB ecedes=227A ecedesEqual=2AAF ecedesSlantEqual=227C ecedesTilde=227E ime=2033
      oduct=220F oportion=2237 oportional=221D"),
  ("Ps", "cr=1D4AB i=3A8"), ("QU", "OT?=22"), ("Qf", "r=1D514"), ("Qo", "pf=211A"),
  ("Qs", "cr=1D4AC"), ("RB", "arr=2910"), ("RE", "G?=AE"),
  ("Ra", "cute=154 ng=27EB rr=21A0 rrtl=2916"), ("Rc", "aron=158 edil=156 y=420"),
  ("Re", "=211C verseElement=220B verseEquilibrium=21CB verseUpEquilibrium=296F"), ("Rf", "r=211C"),
  ("Rh", "o=3A1"),
  ("Ri", "ghtAngleBracket=27E9 ghtArrow=2192 ghtArrowBar=21E5 ghtArrowLeftArrow=21C4
      ghtCeiling=2309 ghtDoubleBracket=27E7 ghtDownTeeVector=295D ghtDownVector=21C2
      ghtDownVectorBar=2955 ghtFloor=230B ghtTee=22A2 ghtTeeArrow=21A6 ghtTeeVector=295B
      ghtTriangle=22B3 ghtTriangleBar=29D0 ghtTriangleEqual=22B5 ghtUpDownVector=294F
      ghtUpTeeVector=295C ghtUpVector=21BE ghtUpVectorBar=2954 ghtVector=21C0 ghtVectorBar=2953
      ghtarrow=21D2"),
  ("Ro", "pf=211D undImplies=2970"), ("Rr", "ightarrow=21DB"), ("Rs", "cr=211B h=21B1"),
  ("Ru", "leDelayed=29F4"), ("SH", "CHcy=429 cy=428"), ("SO", "FTcy=42C"), ("Sa", "cute=15A"),
  ("Sc", "=2ABC aron=160 edil=15E irc=15C y=421"), ("Sf", "r=1D516"),
  ("Sh", "ortDownArrow=2193 ortLeftArrow=2190 ortRightArrow=2192 ortUpArrow=2191"),
  ("Si", "gma=3A3"), ("Sm", "allCircle=2218"), ("So", "pf=1D54A"),
  ("Sq", "rt=221A uare=25A1 uareIntersection=2293 uareSubset=228F uareSubsetEqual=2291
      uareSuperset=2290 uareSupersetEqual=2292 uareUnion=2294"),
  ("Ss", "cr=1D4AE"), ("St", "ar=22C6"),
  ("Su", "b=22D0 bset=22D0 bsetEqual=2286 cceeds=227B cceedsEqual=2AB0 cceedsSlantEqual=227D
      cceedsTilde=227F chThat=220B m=2211 p=22D1 perset=2283 persetEqual=2287 pset=22D1"),
  ("TH", "ORN?=DE"), ("TR", "ADE=2122"), ("TS", "Hcy=40B cy=426"), ("Ta", "b=9 u=3A4"),
  ("Tc", "aron=164 edil=162 y=422"), ("Tf", "r=1D517"),
  ("Th", "erefore=2234 eta=398 ickSpace=205F+200A inSpace=2009"),
  ("Ti", "lde=223C ldeEqual=2243 ldeFullEqual=2245 ldeTilde=2248"), ("To", "pf=1D54B"),
  ("Tr", "ipleDot=20DB"), ("Ts", "cr=1D4AF trok=166"), ("Ua", "cute?=DA rr=219F rrocir=2949"),
  ("Ub", "rcy=40E reve=16C"), ("Uc", "irc?=DB y=423"), ("Ud", "blac=170"), ("Uf", "r=1D518"),
  ("Ug", "rave?=D9"), ("Um", "acr=16A"),
  ("Un", "derBar=5F derBrace=23DF derBracket=23B5 derParenthesis=23DD ion=22C3 ionPlus=228E"),
  ("Uo", "gon=172 pf=1D54C"),
  ("Up", "Arrow=2191 ArrowBar=2912 ArrowDownArrow=21C5 DownArrow=2195 Equilibrium=296E Tee=22A5
      TeeArrow=21A5 arrow=21D1 downarrow=21D5 perLeftArrow=2196 perRightArrow=2197 si=3D2
      silon=3A5"),
  ("Ur", "ing=16E"), ("Us", "cr=1D4B0"), ("Ut", "ilde=168"), ("Uu", "ml?=DC"), ("VD", "ash=22AB"),
  ("Vb", "ar=2AEB"), ("Vc", "y=412"), ("Vd", "ash=22A9 ashl=2AE6"),
  ("Ve", "e=22C1 rbar=2016 rt=2016 rticalBar=2223 rticalLine=7C rticalSeparator=2758
      rticalTilde=2240 ryThinSpace=200A"),
  ("Vf", "r=1D519"), ("Vo", "pf=1D54D"), ("Vs", "cr=1D4B1"), ("Vv", "dash=22AA"), ("Wc", "irc=174"),
  ("We", "dge=22C0"), ("Wf", "r=1D51A"), ("Wo", "pf=1D54E"), ("Ws", "cr=1D4B2"), ("Xf", "r=1D51B"),
  ("Xi", "=39E"), ("Xo", "pf=1D54F"), ("Xs", "cr=1D4B3"), ("YA", "cy=42F"), ("YI", "cy=407"),
  ("YU", "cy=42E"), ("Ya", "cute?=DD"), ("Yc", "irc=176 y=42B"), ("Yf", "r=1D51C"),
  ("Yo", "pf=1D550"), ("Ys", "cr=1D4B4"), ("Yu", "ml=178"), ("ZH", "cy=416"), ("Za", "cute=179"),
  ("Zc", "aron=17D y=417"), ("Zd", "ot=17B"), ("Ze", "roWidthSpace=200B ta=396"), ("Zf", "r=2128"),
  ("Zo", "pf=2124"), ("Zs", "cr=1D4B5"), ("aa", "cute?=E1"), ("ab", "reve=103"),
  ("ac", "=223E E=223E+333 d=223F irc?=E2 ute?=B4 y=430"), ("ae", "lig?=E6"),
  ("af", "=2061 r=1D51E"), ("ag", "rave?=E0"), ("al", "efsym=2135 eph=2135 pha=3B1"),
  ("am", "acr=101 alg=2A3F p?=26"),
  ("an", "d=2227 dand=2A55 dd=2A5C dslope=2A58 dv=2A5A g=2220 ge=29A4 gle=2220 gmsd=2221
      gmsdaa=29A8 gmsdab=29A9 gmsdac=29AA gmsdad=29AB gmsdae=29AC gmsdaf=29AD gmsdag=29AE
      gmsdah=29AF grt=221F grtvb=22BE grtvbd=299D gsph=2222 gst=C5 gzarr=237C"),
  ("ao", "gon=105 pf=1D552"),
  ("ap", "=2248 E=2A70 acir=2A6F e=224A id=224B os=27 prox=2248 proxeq=224A"), ("ar", "ing?=E5"),
  ("as", "cr=1D4B6 t=2A ymp=2248 ympeq=224D"), ("at", "ilde?=E3"), ("au", "ml?=E4"),
  ("aw", "conint=2233 int=2A11"), ("bN", "ot=2AED"),
  ("ba", "ckcong=224C ckepsilon=3F6 ckprime=2035 cksim=223D cksimeq=22CD rvee=22BD rwed=2305
      rwedge=2305"),
  ("bb", "rk=23B5 rktbrk=23B6"), ("bc", "ong=224C y=431"), ("bd", "quo=201E"),
  ("be", "caus=2235 cause=2235 mptyv=29B0 psi=3F6 rnou=212C ta=3B2 th=2136 tween=226C"),
  ("bf", "r=1D51F"),
  ("bi", "gcap=22C2 gcirc=25EF gcup=22C3 godot=2A00 goplus=2A01 gotimes=2A02 gsqcup=2A06 gstar=2605
      gtriangledown=25BD gtriangleup=25B3 guplus=2A04 gvee=22C1 gwedge=22C0"),
  ("bk", "arow=290D"),
  ("bl", "acklozenge=29EB acksquare=25AA acktriangle=25B4 acktriangledown=25BE acktriangleleft=25C2
      acktriangleright=25B8 ank=2423 k12=2592 k14=2591 k34=2593 ock=2588"),
  ("bn", "e=3D+20E5 equiv=2261+20E5 ot=2310"),
  ("bo", "pf=1D553 t=22A5 ttom=22A5 wtie=22C8 xDL=2557 xDR=2554 xDl=2556 xDr=2553 xH=2550 xHD=2566
      xHU=2569 xHd=2564 xHu=2567 xUL=255D xUR=255A xUl=255C xUr=2559 xV=2551 xVH=256C xVL=2563
      xVR=2560 xVh=256B xVl=2562 xVr=255F xbox=29C9 xdL=2555 xdR=2552 xdl=2510 xdr=250C xh=2500
      xhD=2565 xhU=2568 xhd=252C xhu=2534 xminus=229F xplus=229E xtimes=22A0 xuL=255B xuR=2558
      xul=2518 xur=2514 xv=2502 xvH=256A xvL=2561 xvR=255E xvh=253C xvl=2524 xvr=251C"),
  ("bp", "rime=2035"), ("br", "eve=2D8 vbar?=A6"),
  ("bs", "cr=1D4B7 emi=204F im=223D ime=22CD ol=5C olb=29C5 olhsub=27C8"),
  ("bu", "ll=2022 llet=2022 mp=224E mpE=2AAE mpe=224F mpeq=224F"),
  ("ca", "cute=107 p=2229 pand=2A44 pbrcup=2A49 pcap=2A4B pcup=2A47 pdot=2A40 ps=2229+FE00 ret=2041
      ron=2C7"),
  ("cc", "aps=2A4D aron=10D edil?=E7 irc=109 ups=2A4C upssm=2A50"), ("cd", "ot=10B"),
  ("ce", "dil?=B8 mptyv=29B2 nt?=A2 nterdot=B7"), ("cf", "r=1D520"),
  ("ch", "cy=447 eck=2713 eckmark=2713 i=3C7"),
  ("ci", "r=25CB rE=29C3 rc=2C6 rceq=2257 rclearrowleft=21BA rclearrowright=21BB rcledR=AE
      rcledS=24C8 rcledast=229B rcledcirc=229A rcleddash=229D re=2257 rfnint=2A10 rmid=2AEF
      rscir=29C2"),
  ("cl", "ubs=2663 ubsuit=2663"),
  ("co", "lon=3A lone=2254 loneq=2254 mma=2C mmat=40 mp=2201 mpfn=2218 mplement=2201 mplexes=2102
      ng=2245 ngdot=2A6D nint=222E pf=1D554 prod=2210 py?=A9 pysr=2117"),
  ("cr", "arr=21B5 oss=2717"), ("cs", "cr=1D4B8 ub=2ACF ube=2AD1 up=2AD0 upe=2AD2"),
  ("ct", "dot=22EF"),
  ("cu", "darrl=2938 darrr=2935 epr=22DE esc=22DF larr=21B6 larrp=293D p=222A pbrcap=2A48 pcap=2A46
      pcup=2A4A pdot=228D por=2A45 ps=222A+FE00 rarr=21B7 rarrm=293C rlyeqprec=22DE rlyeqsucc=22DF
      rlyvee=22CE rlywedge=22CF rren?=A4 rvearrowleft=21B6 rvearrowright=21B7 vee=22CE wed=22CF"),
  ("cw", "conint=2232 int=2231"), ("cy", "lcty=232D"), ("dA", "rr=21D3"), ("dH", "ar=2965"),
  ("da", "gger=2020 leth=2138 rr=2193 sh=2010 shv=22A3"), ("db", "karow=290F lac=2DD"),
  ("dc", "aron=10F y=434"), ("dd", "=2146 agger=2021 arr=21CA otseq=2A77"),
  ("de", "g?=B0 lta=3B4 mptyv=29B1"), ("df", "isht=297F r=1D521"), ("dh", "arl=21C3 arr=21C2"),
  ("di", "am=22C4 amond=22C4 amondsuit=2666 ams=2666 e=A8 gamma=3DD sin=22F2 v=F7 vide?=F7
      videontimes=22C7 vonx=22C7"),
  ("dj", "cy=452"), ("dl", "corn=231E crop=230D"),
  ("do", "llar=24 pf=1D555 t=2D9 teq=2250 teqdot=2251 tminus=2238 tplus=2214 tsquare=22A1
      ublebarwedge=2306 wnarrow=2193 wndownarrows=21CA wnharpoonleft=21C3 wnharpoonright=21C2"),
  ("dr", "bkarow=2910 corn=231F crop=230C"), ("ds", "cr=1D4B9 cy=455 ol=29F6 trok=111"),
  ("dt", "dot=22F1 ri=25BF rif=25BE"), ("du", "arr=21F5 har=296F"), ("dw", "angle=29A6"),
  ("dz", "cy=45F igrarr=27FF"), ("eD", "Dot=2A77 ot=2251"), ("ea", "cute?=E9 ster=2A6E"),
  ("ec", "aron=11B ir=2256 irc?=EA olon=2255 y=44D"), ("ed", "ot=117"), ("ee", "=2147"),
  ("ef", "Dot=2252 r=1D522"), ("eg", "=2A9A rave?=E8 s=2A96 sdot=2A98"),
  ("el", "=2A99 inters=23E7 l=2113 s=2A95 sdot=2A97"),
  ("em", "acr=113 pty=2205 ptyset=2205 ptyv=2205 sp=2003 sp13=2004 sp14=2005"),
  ("en", "g=14B sp=2002"), ("eo", "gon=119 pf=1D556"),
  ("ep", "ar=22D5 arsl=29E3 lus=2A71 si=3B5 silon=3B5 siv=3F5"),
  ("eq", "circ=2256 colon=2255 sim=2242 slantgtr=2A96 slantless=2A95 uals=3D uest=225F uiv=2261
      uivDD=2A78 vparsl=29E5"),
  ("er", "Dot=2253 arr=2971"), ("es", "cr=212F dot=2250 im=2242"), ("et", "a=3B7 h?=F0"),
  ("eu", "ml?=EB ro=20AC"), ("ex", "cl=21 ist=2203 pectation=2130 ponentiale=2147"),
  ("fa", "llingdotseq=2252"), ("fc", "y=444"), ("fe", "male=2640"),
  ("ff", "ilig=FB03 lig=FB00 llig=FB04 r=1D523"), ("fi", "lig=FB01"), ("fj", "lig=66+6A"),
  ("fl", "at=266D lig=FB02 tns=25B1"), ("fn", "of=192"),
  ("fo", "pf=1D557 rall=2200 rk=22D4 rkv=2AD9"), ("fp", "artint=2A0D"),
  ("fr", "ac12?=BD ac13=2153 ac14?=BC ac15=2155 ac16=2159 ac18=215B ac23=2154 ac25=2156 ac34?=BE
      ac35=2157 ac38=215C ac45=2158 ac56=215A ac58=215D ac78=215E asl=2044 own=2322"),
  ("fs", "cr=1D4BB"), ("gE", "=2267 l=2A8C"), ("ga", "cute=1F5 mma=3B3 mmad=3DD p=2A86"),
  ("gb", "reve=11F"), ("gc", "irc=11D y=433"), ("gd", "ot=121"),
  ("ge", "=2265 l=22DB q=2265 qq=2267 qslant=2A7E s=2A7E scc=2AA9 sdot=2A80 sdoto=2A82 sdotol=2A84
      sl=22DB+FE00 sles=2A94"),
  ("gf", "r=1D524"), ("gg", "=226B g=22D9"), ("gi", "mel=2137"), ("gj", "cy=453"),
  ("gl", "=2277 E=2A92 a=2AA5 j=2AA4"),
  ("gn", "E=2269 ap=2A8A approx=2A8A e=2A88 eq=2A88 eqq=2269 sim=22E7"), ("go", "pf=1D558"),
  ("gr", "ave=60"), ("gs", "cr=210A im=2273 ime=2A8E iml=2A90"),
  ("gt", "?=3E cc=2AA7 cir=2A7A dot=22D7 lPar=2995 quest=2A7C rapprox=2A86 rarr=2978 rdot=22D7
      reqless=22DB reqqless=2A8C rless=2277 rsim=2273"),
  ("gv", "ertneqq=2269+FE00 nE=2269+FE00"), ("hA", "rr=21D4"),
  ("ha", "irsp=200A lf=BD milt=210B rdcy=44A rr=2194 rrcir=2948 rrw=21AD"), ("hb", "ar=210F"),
  ("hc", "irc=125"), ("he", "arts=2665 artsuit=2665 llip=2026 rcon=22B9"), ("hf", "r=1D525"),
  ("hk", "searow=2925 swarow=2926"),
  ("ho", "arr=21FF mtht=223B okleftarrow=21A9 okrightarrow=21AA pf=1D559 rbar=2015"),
  ("hs", "cr=1D4BD lash=210F trok=127"), ("hy", "bull=2043 phen=2010"), ("ia", "cute?=ED"),
  ("ic", "=2063 irc?=EE y=438"), ("ie", "cy=435 xcl?=A1"), ("if", "f=21D4 r=1D526"),
  ("ig", "rave?=EC"), ("ii", "=2148 iint=2A0C int=222D nfin=29DC ota=2129"), ("ij", "lig=133"),
  ("im", "acr=12B age=2111 agline=2110 agpart=2111 ath=131 of=22B7 ped=1B5"),
  ("in", "=2208 care=2105 fin=221E fintie=29DD odot=131 t=222B tcal=22BA tegers=2124 tercal=22BA
      tlarhk=2A17 tprod=2A3C"),
  ("io", "cy=451 gon=12F pf=1D55A ta=3B9"), ("ip", "rod=2A3C"), ("iq", "uest?=BF"),
  ("is", "cr=1D4BE in=2208 inE=22F9 indot=22F5 ins=22F4 insv=22F3 inv=2208"),
  ("it", "=2062 ilde=129"), ("iu", "kcy=456 ml?=EF"), ("jc", "irc=135 y=439"), ("jf", "r=1D527"),
  ("jm", "ath=237"), ("jo", "pf=1D55B"), ("js", "cr=1D4BF ercy=458"), ("ju", "kcy=454"),
  ("ka", "ppa=3BA ppav=3F0"), ("kc", "edil=137 y=43A"), ("kf", "r=1D528"), ("kg", "reen=138"),
  ("kh", "cy=445"), ("kj", "cy=45C"), ("ko", "pf=1D55C"), ("ks", "cr=1D4C0"),
  ("lA", "arr=21DA rr=21D0 tail=291B"), ("lB", "arr=290E"), ("lE", "=2266 g=2A8B"),
  ("lH", "ar=2962"),
  ("la", "cute=13A emptyv=29B4 gran=2112 mbda=3BB ng=27E8 ngd=2991 ngle=27E8 p=2A85 quo?=AB rr=2190
      rrb=21E4 rrbfs=291F rrfs=291D rrhk=21A9 rrlp=21AB rrpl=2939 rrsim=2973 rrtl=21A2 t=2AAB
      tail=2919 te=2AAD tes=2AAD+FE00"),
  ("lb", "arr=290C brk=2772 race=7B rack=5B rke=298B rksld=298F rkslu=298D"),
  ("lc", "aron=13E edil=13C eil=2308 ub=7B y=43B"),
  ("ld", "ca=2936 quo=201C quor=201E rdhar=2967 rushar=294B sh=21B2"),
  ("le", "=2264 ftarrow=2190 ftarrowtail=21A2 ftharpoondown=21BD ftharpoonup=21BC ftleftarrows=21C7
      ftrightarrow=2194 ftrightarrows=21C6 ftrightharpoons=21CB ftrightsquigarrow=21AD
      ftthreetimes=22CB g=22DA q=2264 qq=2266 qslant=2A7D s=2A7D scc=2AA8 sdot=2A7F sdoto=2A81
      sdotor=2A83 sg=22DA+FE00 sges=2A93 ssapprox=2A85 ssdot=22D6 sseqgtr=22DA sseqqgtr=2A8B
      ssgtr=2276 sssim=2272"),
  ("lf", "isht=297C loor=230A r=1D529"), ("lg", "=2276 E=2A91"),
  ("lh", "ard=21BD aru=21BC arul=296A blk=2584"), ("lj", "cy=459"),
  ("ll", "=226A arr=21C7 corner=231E hard=296B tri=25FA"),
  ("lm", "idot=140 oust=23B0 oustache=23B0"),
  ("ln", "E=2268 ap=2A89 approx=2A89 e=2A87 eq=2A87 eqq=2268 sim=22E6"),
  ("lo", "ang=27EC arr=21FD brk=27E6 ngleftarrow=27F5 ngleftrightarrow=27F7 ngmapsto=27FC
      ngrightarrow=27F6 oparrowleft=21AB oparrowright=21AC par=2985 pf=1D55D plus=2A2D times=2A34
      wast=2217 wbar=5F z=25CA zenge=25CA zf=29EB"),
  ("lp", "ar=28 arlt=2993"), ("lr", "arr=21C6 corner=231F har=21CB hard=296D m=200E tri=22BF"),
  ("ls", "aquo=2039 cr=1D4C1 h=21B0 im=2272 ime=2A8D img=2A8F qb=5B quo=2018 quor=201A trok=142"),
  ("lt", "?=3C cc=2AA6 cir=2A79 dot=22D6 hree=22CB imes=22C9 larr=2976 quest=2A7B rPar=2996 ri=25C3
      rie=22B4 rif=25C2"),
  ("lu", "rdshar=294A ruhar=2966"), ("lv", "ertneqq=2268+FE00 nE=2268+FE00"), ("mD", "Dot=223A"),
  ("ma", "cr?=AF le=2642 lt=2720 ltese=2720 p=21A6 psto=21A6 pstodown=21A7 pstoleft=21A4
      pstoup=21A5 rker=25AE"),
  ("mc", "omma=2A29 y=43C"), ("md", "ash=2014"), ("me", "asuredangle=2221"), ("mf", "r=1D52A"),
  ("mh", "o=2127"),
  ("mi", "cro?=B5 d=2223 dast=2A dcir=2AF0 ddot?=B7 nus=2212 nusb=229F nusd=2238 nusdu=2A2A"),
  ("ml", "cp=2ADB dr=2026"), ("mn", "plus=2213"), ("mo", "dels=22A7 pf=1D55E"), ("mp", "=2213"),
  ("ms", "cr=1D4C2 tpos=223E"), ("mu", "=3BC ltimap=22B8 map=22B8"),
  ("nG", "g=22D9+338 t=226B+20D2 tv=226B+338"),
  ("nL", "eftarrow=21CD eftrightarrow=21CE l=22D8+338 t=226A+20D2 tv=226A+338"),
  ("nR", "ightarrow=21CF"), ("nV", "Dash=22AF dash=22AE"),
  ("na", "bla=2207 cute=144 ng=2220+20D2 p=2249 pE=2A70+338 pid=224B+338 pos=149 pprox=2249
      tur=266E tural=266E turals=2115"),
  ("nb", "sp?=A0 ump=224E+338 umpe=224F+338"),
  ("nc", "ap=2A43 aron=148 edil=146 ong=2247 ongdot=2A6D+338 up=2A42 y=43D"), ("nd", "ash=2013"),
  ("ne", "=2260 Arr=21D7 arhk=2924 arr=2197 arrow=2197 dot=2250+338 quiv=2262 sear=2928
      sim=2242+338 xist=2204 xists=2204"),
  ("nf", "r=1D52B"),
  ("ng", "E=2267+338 e=2271 eq=2271 eqq=2267+338 eqslant=2A7E+338 es=2A7E+338 sim=2275 t=226F
      tr=226F"),
  ("nh", "Arr=21CE arr=21AE par=2AF2"), ("ni", "=220B s=22FC sd=22FA v=220B"), ("nj", "cy=45A"),
  ("nl", "Arr=21CD E=2266+338 arr=219A dr=2025 e=2270 eftarrow=219A eftrightarrow=21AE eq=2270
      eqq=2266+338 eqslant=2A7D+338 es=2A7D+338 ess=226E sim=2274 t=226E tri=22EA trie=22EC"),
  ("nm", "id=2224"),
  ("no", "pf=1D55F t?=AC tin=2209 tinE=22F9+338 tindot=22F5+338 tinva=2209 tinvb=22F7 tinvc=22F6
      tni=220C tniva=220C tnivb=22FE tnivc=22FD"),
  ("np", "ar=2226 arallel=2226 arsl=2AFD+20E5 art=2202+338 olint=2A14 r=2280 rcue=22E0 re=2AAF+338
      rec=2280 receq=2AAF+338"),
  ("nr", "Arr=21CF arr=219B arrc=2933+338 arrw=219D+338 ightarrow=219B tri=22EB trie=22ED"),
  ("ns", "c=2281 ccue=22E1 ce=2AB0+338 cr=1D4C3 hortmid=2224 hortparallel=2226 im=2241 ime=2244
      imeq=2244 mid=2224 par=2226 qsube=22E2 qsupe=22E3 ub=2284 ubE=2AC5+338 ube=2288
      ubset=2282+20D2 ubseteq=2288 ubseteqq=2AC5+338 ucc=2281 ucceq=2AB0+338 up=2285 upE=2AC6+338
      upe=2289 upset=2283+20D2 upseteq=2289 upseteqq=2AC6+338"),
  ("nt", "gl=2279 ilde?=F1 lg=2278 riangleleft=22EA rianglelefteq=22EC riangleright=22EB
      rianglerighteq=22ED"),
  ("nu", "=3BD m=23 mero=2116 msp=2007"),
  ("nv", "Dash=22AD Harr=2904 ap=224D+20D2 dash=22AC ge=2265+20D2 gt=3E+20D2 infin=29DE lArr=2902
      le=2264+20D2 lt=3C+20D2 ltrie=22B4+20D2 rArr=2903 rtrie=22B5+20D2 sim=223C+20D2"),
  ("nw", "Arr=21D6 arhk=2923 arr=2196 arrow=2196 near=2927"), ("oS", "=24C8"),
  ("oa", "cute?=F3 st=229B"), ("oc", "ir=229A irc?=F4 y=43E"),
  ("od", "ash=229D blac=151 iv=2A38 ot=2299 sold=29BC"), ("oe", "lig=153"),
  ("of", "cir=29BF r=1D52C"), ("og", "on=2DB rave?=F2 t=29C1"), ("oh", "bar=29B5 m=3A9"),
  ("oi", "nt=222E"), ("ol", "arr=21BA cir=29BE cross=29BB ine=203E t=29C0"),
  ("om", "acr=14D ega=3C9 icron=3BF id=29B6 inus=2296"), ("oo", "pf=1D560"),
  ("op", "ar=29B7 erp=29B9 lus=2295"),
  ("or", "=2228 arr=21BB d=2A5D der=2134 derof=2134 df?=AA dm?=BA igof=22B6 or=2A56 slope=2A57
      v=2A5B"),
  ("os", "cr=2134 lash?=F8 ol=2298"), ("ot", "ilde?=F5 imes=2297 imesas=2A36"), ("ou", "ml?=F6"),
  ("ov", "bar=233D"), ("pa", "r=2225 ra?=B6 rallel=2225 rsim=2AF3 rsl=2AFD rt=2202"),
  ("pc", "y=43F"), ("pe", "rcnt=25 riod=2E rmil=2030 rp=22A5 rtenk=2031"), ("pf", "r=1D52D"),
  ("ph", "i=3C6 iv=3D5 mmat=2133 one=260E"), ("pi", "=3C0 tchfork=22D4 v=3D6"),
  ("pl", "anck=210F anckh=210E ankv=210F us=2B usacir=2A23 usb=229E uscir=2A22 usdo=2214 usdu=2A25
      use=2A72 usmn?=B1 ussim=2A26 ustwo=2A27"),
  ("pm", "=B1"), ("po", "intint=2A15 pf=1D561 und?=A3"),
  ("pr", "=227A E=2AB3 ap=2AB7 cue=227C e=2AAF ec=227A ecapprox=2AB7 eccurlyeq=227C eceq=2AAF
      ecnapprox=2AB9 ecneqq=2AB5 ecnsim=22E8 ecsim=227E ime=2032 imes=2119 nE=2AB5 nap=2AB9
      nsim=22E8 od=220F ofalar=232E ofline=2312 ofsurf=2313 op=221D opto=221D sim=227E urel=22B0"),
  ("ps", "cr=1D4C5 i=3C8"), ("pu", "ncsp=2008"), ("qf", "r=1D52E"), ("qi", "nt=2A0C"),
  ("qo", "pf=1D562"), ("qp", "rime=2057"), ("qs", "cr=1D4C6"),
  ("qu", "aternions=210D atint=2A16 est=3F esteq=225F ot?=22"),
  ("rA", "arr=21DB rr=21D2 tail=291C"), ("rB", "arr=290F"), ("rH", "ar=2964"),
  ("ra", "ce=223D+331 cute=155 dic=221A emptyv=29B3 ng=27E9 ngd=2992 nge=29A5 ngle=27E9 quo?=BB
      rr=2192 rrap=2975 rrb=21E5 rrbfs=2920 rrc=2933 rrfs=291E rrhk=21AA rrlp=21AC rrpl=2945
      rrsim=2974 rrtl=21A3 rrw=219D tail=291A tio=2236 tionals=211A"),
  ("rb", "arr=290D brk=2773 race=7D rack=5D rke=298C rksld=298E rkslu=2990"),
  ("rc", "aron=159 edil=157 eil=2309 ub=7D y=440"),
  ("rd", "ca=2937 ldhar=2969 quo=201D quor=201D sh=21B3"),
  ("re", "al=211C aline=211B alpart=211C als=211D ct=25AD g?=AE"),
  ("rf", "isht=297D loor=230B r=1D52F"), ("rh", "ard=21C1 aru=21C0 arul=296C o=3C1 ov=3F1"),
  ("ri", "ghtarrow=2192 ghtarrowtail=21A3 ghtharpoondown=21C1 ghtharpoonup=21C0 ghtleftarrows=21C4
      ghtleftharpoons=21CC ghtrightarrows=21C9 ghtsquigarrow=219D ghtthreetimes=22CC ng=2DA
      singdotseq=2253"),
  ("rl", "arr=21C4 har=21CC m=200F"), ("rm", "oust=23B1 oustache=23B1"), ("rn", "mid=2AEE"),
  ("ro", "ang=27ED arr=21FE brk=27E7 par=2986 pf=1D563 plus=2A2E times=2A35"),
  ("rp", "ar=29 argt=2994 polint=2A12"), ("rr", "arr=21C9"),
  ("rs", "aquo=203A cr=1D4C7 h=21B1 qb=5D quo=2019 quor=2019"),
  ("rt", "hree=22CC imes=22CA ri=25B9 rie=22B5 rif=25B8 riltri=29CE"), ("ru", "luhar=2968"),
  ("rx", "=211E"), ("sa", "cute=15B"), ("sb", "quo=201A"),
  ("sc", "=227B E=2AB4 ap=2AB8 aron=161 cue=227D e=2AB0 edil=15F irc=15D nE=2AB6 nap=2ABA nsim=22E9
      polint=2A13 sim=227F y=441"),
  ("sd", "ot=22C5 otb=22A1 ote=2A66"),
  ("se", "Arr=21D8 arhk=2925 arr=2198 arrow=2198 ct?=A7 mi=3B swar=2929 tminus=2216 tmn=2216
      xt=2736"),
  ("sf", "r=1D530 rown=2322"),
  ("sh", "arp=266F chcy=449 cy=448 ortmid=2223 ortparallel=2225 y?=AD"),
  ("si", "gma=3C3 gmaf=3C2 gmav=3C2 m=223C mdot=2A6A me=2243 meq=2243 mg=2A9E mgE=2AA0 ml=2A9D
      mlE=2A9F mne=2246 mplus=2A24 mrarr=2972"),
  ("sl", "arr=2190"),
  ("sm", "allsetminus=2216 ashp=2A33 eparsl=29E4 id=2223 ile=2323 t=2AAA te=2AAC tes=2AAC+FE00"),
  ("so", "ftcy=44C l=2F lb=29C4 lbar=233F pf=1D564"), ("sp", "ades=2660 adesuit=2660 ar=2225"),
  ("sq", "cap=2293 caps=2293+FE00 cup=2294 cups=2294+FE00 sub=228F sube=2291 subset=228F
      subseteq=2291 sup=2290 supe=2292 supset=2290 supseteq=2292 u=25A1 uare=25A1 uarf=25AA
      uf=25AA"),
  ("sr", "arr=2192"), ("ss", "cr=1D4C8 etmn=2216 mile=2323 tarf=22C6"),
  ("st", "ar=2606 arf=2605 raightepsilon=3F5 raightphi=3D5 rns=AF"),
  ("su", "b=2282 bE=2AC5 bdot=2ABD be=2286 bedot=2AC3 bmult=2AC1 bnE=2ACB bne=228A bplus=2ABF
      brarr=2979 bset=2282 bseteq=2286 bseteqq=2AC5 bsetneq=228A bsetneqq=2ACB bsim=2AC7 bsub=2AD5
      bsup=2AD3 cc=227B ccapprox=2AB8 cccurlyeq=227D cceq=2AB0 ccnapprox=2ABA ccneqq=2AB6
      ccnsim=22E9 ccsim=227F m=2211 ng=266A p=2283 p1?=B9 p2?=B2 p3?=B3 pE=2AC6 pdot=2ABE
      pdsub=2AD8 pe=2287 pedot=2AC4 phsol=27C9 phsub=2AD7 plarr=297B pmult=2AC2 pnE=2ACC pne=228B
      pplus=2AC0 pset=2283 pseteq=2287 pseteqq=2AC6 psetneq=228B psetneqq=2ACC psim=2AC8 psub=2AD4
      psup=2AD6"),
  ("sw", "Arr=21D9 arhk=2926 arr=2199 arrow=2199 nwar=292A"), ("sz", "lig?=DF"),
  ("ta", "rget=2316 u=3C4"), ("tb", "rk=23B4"), ("tc", "aron=165 edil=163 y=442"),
  ("td", "ot=20DB"), ("te", "lrec=2315"), ("tf", "r=1D531"),
  ("th", "ere4=2234 erefore=2234 eta=3B8 etasym=3D1 etav=3D1 ickapprox=2248 icksim=223C insp=2009
      kap=2248 ksim=223C orn?=FE"),
  ("ti", "lde=2DC mes?=D7 mesb=22A0 mesbar=2A31 mesd=2A30 nt=222D"),
  ("to", "ea=2928 p=22A4 pbot=2336 pcir=2AF1 pf=1D565 pfork=2ADA sa=2929"), ("tp", "rime=2034"),
  ("tr", "ade=2122 iangle=25B5 iangledown=25BF iangleleft=25C3 ianglelefteq=22B4 iangleq=225C
      iangleright=25B9 ianglerighteq=22B5 idot=25EC ie=225C iminus=2A3A iplus=2A39 isb=29CD
      itime=2A3B pezium=23E2"),
  ("ts", "cr=1D4C9 cy=446 hcy=45B trok=167"),
  ("tw", "ixt=226C oheadleftarrow=219E oheadrightarrow=21A0"), ("uA", "rr=21D1"), ("uH", "ar=2963"),
  ("ua", "cute?=FA rr=2191"), ("ub", "rcy=45E reve=16D"), ("uc", "irc?=FB y=443"),
  ("ud", "arr=21C5 blac=171 har=296E"), ("uf", "isht=297E r=1D532"), ("ug", "rave?=F9"),
  ("uh", "arl=21BF arr=21BE blk=2580"), ("ul", "corn=231C corner=231C crop=230F tri=25F8"),
  ("um", "acr=16B l?=A8"), ("uo", "gon=173 pf=1D566"),
  ("up", "arrow=2191 downarrow=2195 harpoonleft=21BF harpoonright=21BE lus=228E si=3C5 sih=3D2
      silon=3C5 uparrows=21C8"),
  ("ur", "corn=231D corner=231D crop=230E ing=16F tri=25F9"), ("us", "cr=1D4CA"),
  ("ut", "dot=22F0 ilde=169 ri=25B5 rif=25B4"), ("uu", "arr=21C8 ml?=FC"), ("uw", "angle=29A7"),
  ("vA", "rr=21D5"), ("vB", "ar=2AE8 arv=2AE9"), ("vD", "ash=22A8"),
  ("va", "ngrt=299C repsilon=3F5 rkappa=3F0 rnothing=2205 rphi=3D5 rpi=3D6 rpropto=221D rr=2195
      rrho=3F1 rsigma=3C2 rsubsetneq=228A+FE00 rsubsetneqq=2ACB+FE00 rsupsetneq=228B+FE00
      rsupsetneqq=2ACC+FE00 rtheta=3D1 rtriangleleft=22B2 rtriangleright=22B3"),
  ("vc", "y=432"), ("vd", "ash=22A2"), ("ve", "e=2228 ebar=22BB eeq=225A llip=22EE rbar=7C rt=7C"),
  ("vf", "r=1D533"), ("vl", "tri=22B2"), ("vn", "sub=2282+20D2 sup=2283+20D2"), ("vo", "pf=1D567"),
  ("vp", "rop=221D"), ("vr", "tri=22B3"),
  ("vs", "cr=1D4CB ubnE=2ACB+FE00 ubne=228A+FE00 upnE=2ACC+FE00 upne=228B+FE00"),
  ("vz", "igzag=299A"), ("wc", "irc=175"), ("we", "dbar=2A5F dge=2227 dgeq=2259 ierp=2118"),
  ("wf", "r=1D534"), ("wo", "pf=1D568"), ("wp", "=2118"), ("wr", "=2240 eath=2240"),
  ("ws", "cr=1D4CC"), ("xc", "ap=22C2 irc=25EF up=22C3"), ("xd", "tri=25BD"), ("xf", "r=1D535"),
  ("xh", "Arr=27FA arr=27F7"), ("xi", "=3BE"), ("xl", "Arr=27F8 arr=27F5"), ("xm", "ap=27FC"),
  ("xn", "is=22FB"), ("xo", "dot=2A00 pf=1D569 plus=2A01 time=2A02"), ("xr", "Arr=27F9 arr=27F6"),
  ("xs", "cr=1D4CD qcup=2A06"), ("xu", "plus=2A04 tri=25B3"), ("xv", "ee=22C1"),
  ("xw", "edge=22C0"), ("ya", "cute?=FD cy=44F"), ("yc", "irc=177 y=44B"), ("ye", "n?=A5"),
  ("yf", "r=1D536"), ("yi", "cy=457"), ("yo", "pf=1D56A"), ("ys", "cr=1D4CE"),
  ("yu", "cy=44E ml?=FF"), ("za", "cute=17A"), ("zc", "aron=17E y=437"), ("zd", "ot=17C"),
  ("ze", "etrf=2128 ta=3B6"), ("zf", "r=1D537"), ("zh", "cy=436"), ("zi", "grarr=21DD"),
  ("zo", "pf=1D56B"), ("zs", "cr=1D4CF"), ("zw", "j=200D nj=200C")]

end HtmlCanon.Html
