/-
# Names of characters: letters from Lisu to the end of the basic plane

The names of letters from Lisu to Meetei Mayek, and of the forms that letters take in
print.
-/

import Stencil.Text.CharacterName.Run

namespace Stencil.Text.CharacterName

/-- Letters from Lisu to the end of the basic plane, in runs. -/
def modern : List Run :=
  [⟨0xA4D0, "LISU LETTER ", ["BA;PA;PHA;DA;TA;THA;GA;KA;KHA;JA;CA;CHA;DZA;TSA;TSHA;MA;NA;LA",
     "SA;ZHA;ZA;NGA;HA;XA;HHA;FA;WA;SHA;YA;GHA;A;AE;E;EU;I;O;U;UE;UH;OE;TONE MYA TI",
     "TONE NA PO;TONE MYA CYA;TONE MYA BO;TONE MYA NA;TONE MYA JEU"]⟩,
   ⟨0xA4FE, "LISU PUNCTUATION ", ["COMMA;FULL STOP"]⟩,
   ⟨0xA500, "VAI SYLLABLE ", ["EE;EEN;HEE;WEE;WEEN;PEE;BHEE;BEE;MBEE;KPEE;MGBEE;GBEE;FEE;VEE",
     "TEE;THEE;DHEE;DHHEE;LEE;REE;DEE;NDEE;SEE;SHEE;ZEE;ZHEE;CEE;JEE;NJEE;YEE;KEE;NGGEE",
     "GEE;MEE;NEE;NYEE;I;IN;HI;HIN;WI;WIN;PI;BHI;BI;MBI;KPI;MGBI;GBI;FI;VI;TI;THI;DHI;DHHI",
     "LI;RI;DI;NDI;SI;SHI;ZI;ZHI;CI;JI;NJI;YI;KI;NGGI;GI;MI;NI;NYI;A;AN;NGAN;HA;HAN;WA;WAN",
     "PA;BHA;BA;MBA;KPA;KPAN;MGBA;GBA;FA;VA;TA;THA;DHA;DHHA;LA;RA;DA;NDA;SA;SHA;ZA;ZHA;CA",
     "JA;NJA;YA;KA;KAN;NGGA;GA;MA;NA;NYA;OO;OON;HOO;WOO;WOON;POO;BHOO;BOO;MBOO;KPOO;MGBOO",
     "GBOO;FOO;VOO;TOO;THOO;DHOO;DHHOO;LOO;ROO;DOO;NDOO;SOO;SHOO;ZOO;ZHOO;COO;JOO;NJOO;YOO",
     "KOO;NGGOO;GOO;MOO;NOO;NYOO;U;UN;HU;HUN;WU;WUN;PU;BHU;BU;MBU;KPU;MGBU;GBU;FU;VU;TU",
     "THU;DHU;DHHU;LU;RU;DU;NDU;SU;SHU;ZU;ZHU;CU;JU;NJU;YU;KU;NGGU;GU;MU;NU;NYU;O;ON;NGON",
     "HO;HON;WO;WON;PO;BHO;BO;MBO;KPO;MGBO;GBO;GBON;FO;VO;TO;THO;DHO;DHHO;LO;RO;DO;NDO;SO",
     "SHO;ZO;ZHO;CO;JO;NJO;YO;KO;NGGO;GO;MO;NO;NYO;E;EN;NGEN;HE;HEN;WE;WEN;PE;BHE;BE;MBE",
     "KPE;KPEN;MGBE;GBE;GBEN;FE;VE;TE;THE;DHE;DHHE;LE;RE;DE;NDE;SE;SHE;ZE;ZHE;CE;JE;NJE;YE",
     "KE;NGGE;NGGEN;GE;GEN;ME;NE;NYE;NG;LENGTHENER"]⟩,
   ⟨0xA60D, "VAI ", ["COMMA;FULL STOP;QUESTION MARK"]⟩,
   ⟨0xA610, "VAI SYLLABLE NDOLE ", ["FA;KA;SOO"]⟩,
   ⟨0xA613, "VAI SYMBOL ", ["FEENG;KEENG;TING;NII;BANG;FAA;TAA;DANG;DOONG;KUNG;TONG;DO-O;JONG"]⟩,
   ⟨0xA620, "VAI DIGIT ", ["ZERO;ONE;TWO;THREE;FOUR;FIVE;SIX;SEVEN;EIGHT;NINE"]⟩,
   ⟨0xA62A, "VAI SYLLABLE NDOLE ", ["MA;DO"]⟩,
   ⟨0xA640, "CYRILLIC ", ["CAPITAL LETTER ZEMLYA;SMALL LETTER ZEMLYA;CAPITAL LETTER DZELO",
     "SMALL LETTER DZELO;CAPITAL LETTER REVERSED DZE;SMALL LETTER REVERSED DZE",
     "CAPITAL LETTER IOTA;SMALL LETTER IOTA;CAPITAL LETTER DJERV;SMALL LETTER DJERV",
     "CAPITAL LETTER MONOGRAPH UK;SMALL LETTER MONOGRAPH UK;CAPITAL LETTER BROAD OMEGA",
     "SMALL LETTER BROAD OMEGA;CAPITAL LETTER NEUTRAL YER;SMALL LETTER NEUTRAL YER",
     "CAPITAL LETTER YERU WITH BACK YER;SMALL LETTER YERU WITH BACK YER",
     "CAPITAL LETTER IOTIFIED YAT;SMALL LETTER IOTIFIED YAT;CAPITAL LETTER REVERSED YU",
     "SMALL LETTER REVERSED YU;CAPITAL LETTER IOTIFIED A;SMALL LETTER IOTIFIED A",
     "CAPITAL LETTER CLOSED LITTLE YUS;SMALL LETTER CLOSED LITTLE YUS",
     "CAPITAL LETTER BLENDED YUS;SMALL LETTER BLENDED YUS",
     "CAPITAL LETTER IOTIFIED CLOSED LITTLE YUS;SMALL LETTER IOTIFIED CLOSED LITTLE YUS",
     "CAPITAL LETTER YN;SMALL LETTER YN;CAPITAL LETTER REVERSED TSE",
     "SMALL LETTER REVERSED TSE;CAPITAL LETTER SOFT DE;SMALL LETTER SOFT DE",
     "CAPITAL LETTER SOFT EL;SMALL LETTER SOFT EL;CAPITAL LETTER SOFT EM",
     "SMALL LETTER SOFT EM;CAPITAL LETTER MONOCULAR O;SMALL LETTER MONOCULAR O",
     "CAPITAL LETTER BINOCULAR O;SMALL LETTER BINOCULAR O",
     "CAPITAL LETTER DOUBLE MONOCULAR O;SMALL LETTER DOUBLE MONOCULAR O",
     "LETTER MULTIOCULAR O"]⟩,
   ⟨0xA66F, "COMBINING CYRILLIC ", ["VZMET;TEN MILLIONS SIGN;HUNDRED MILLIONS SIGN",
     "THOUSAND MILLIONS SIGN"]⟩,
   ⟨0xA673, "SLAVONIC ", ["ASTERISK"]⟩,
   ⟨0xA674, "COMBINING CYRILLIC LETTER ", ["UKRAINIAN IE;I;YI;U;HARD SIGN;YERU;SOFT SIGN",
     "OMEGA"]⟩,
   ⟨0xA67C, "COMBINING CYRILLIC ", ["KAVYKA;PAYEROK"]⟩,
   ⟨0xA67E, "CYRILLIC ", ["KAVYKA;PAYEROK;CAPITAL LETTER DWE;SMALL LETTER DWE",
     "CAPITAL LETTER DZWE;SMALL LETTER DZWE;CAPITAL LETTER ZHWE;SMALL LETTER ZHWE",
     "CAPITAL LETTER CCHE;SMALL LETTER CCHE;CAPITAL LETTER DZZE;SMALL LETTER DZZE",
     "CAPITAL LETTER TE WITH MIDDLE HOOK;SMALL LETTER TE WITH MIDDLE HOOK",
     "CAPITAL LETTER TWE;SMALL LETTER TWE;CAPITAL LETTER TSWE;SMALL LETTER TSWE",
     "CAPITAL LETTER TSSE;SMALL LETTER TSSE;CAPITAL LETTER TCHE;SMALL LETTER TCHE",
     "CAPITAL LETTER HWE;SMALL LETTER HWE;CAPITAL LETTER SHWE;SMALL LETTER SHWE",
     "CAPITAL LETTER DOUBLE O;SMALL LETTER DOUBLE O;CAPITAL LETTER CROSSED O",
     "SMALL LETTER CROSSED O"]⟩,
   ⟨0xA69C, "MODIFIER LETTER CYRILLIC ", ["HARD SIGN;SOFT SIGN"]⟩,
   ⟨0xA69E, "COMBINING CYRILLIC LETTER ", ["EF;IOTIFIED E"]⟩,
   ⟨0xA6A0, "BAMUM LETTER ", ["A;KA;U;KU;EE;REE;TAE;O;NYI;I;LA;PA;RII;RIEE;LEEEE;MEEEE;TAA",
     "NDAA;NJAEM;M;SUU;MU;SHII;SI;SHEUX;SEUX;KYEE;KET;NUAE;NU;NJUAE;YOQ;SHU;YUQ;YA;NSHA",
     "KEUX;PEUX;NJEE;NTEE;PUE;WUE;PEE;FEE;RU;LU;MI;NI;REUX;RAE;KEN;NGKWAEN;NGGA;NGA;SHO",
     "PUAE;FU;FOM;WA;NA;LI;PI;LOQ;KO;MBEN;REN;MEN;MA;TI;KI;MO;MBAA;TET;KPA;TEN;NTUU;SAMBA",
     "FAAMAE;KOVUU;KOGHOM"]⟩,
   ⟨0xA6F0, "BAMUM ", ["COMBINING MARK KOQNDON;COMBINING MARK TUKWENTIS;NJAEMLI;FULL STOP",
     "COLON;COMMA;SEMICOLON;QUESTION MARK"]⟩,
   ⟨0xA700, "MODIFIER LETTER CHINESE TONE ", ["YIN PING;YANG PING;YIN SHANG;YANG SHANG;YIN QU",
     "YANG QU;YIN RU;YANG RU"]⟩,
   ⟨0xA708, "MODIFIER LETTER ", ["EXTRA-HIGH DOTTED TONE BAR;HIGH DOTTED TONE BAR",
     "MID DOTTED TONE BAR;LOW DOTTED TONE BAR;EXTRA-LOW DOTTED TONE BAR",
     "EXTRA-HIGH DOTTED LEFT-STEM TONE BAR;HIGH DOTTED LEFT-STEM TONE BAR",
     "MID DOTTED LEFT-STEM TONE BAR;LOW DOTTED LEFT-STEM TONE BAR",
     "EXTRA-LOW DOTTED LEFT-STEM TONE BAR;EXTRA-HIGH LEFT-STEM TONE BAR",
     "HIGH LEFT-STEM TONE BAR;MID LEFT-STEM TONE BAR;LOW LEFT-STEM TONE BAR",
     "EXTRA-LOW LEFT-STEM TONE BAR;DOT VERTICAL BAR;DOT SLASH;DOT HORIZONTAL BAR",
     "LOWER RIGHT CORNER ANGLE;RAISED UP ARROW;RAISED DOWN ARROW;RAISED EXCLAMATION MARK",
     "RAISED INVERTED EXCLAMATION MARK;LOW INVERTED EXCLAMATION MARK;STRESS AND HIGH TONE",
     "STRESS AND LOW TONE"]⟩,
   ⟨0xA722, "LATIN ", ["CAPITAL LETTER EGYPTOLOGICAL ALEF;SMALL LETTER EGYPTOLOGICAL ALEF",
     "CAPITAL LETTER EGYPTOLOGICAL AIN;SMALL LETTER EGYPTOLOGICAL AIN;CAPITAL LETTER HENG",
     "SMALL LETTER HENG;CAPITAL LETTER TZ;SMALL LETTER TZ;CAPITAL LETTER TRESILLO",
     "SMALL LETTER TRESILLO;CAPITAL LETTER CUATRILLO;SMALL LETTER CUATRILLO",
     "CAPITAL LETTER CUATRILLO WITH COMMA;SMALL LETTER CUATRILLO WITH COMMA",
     "LETTER SMALL CAPITAL F;LETTER SMALL CAPITAL S;CAPITAL LETTER AA;SMALL LETTER AA",
     "CAPITAL LETTER AO;SMALL LETTER AO;CAPITAL LETTER AU;SMALL LETTER AU",
     "CAPITAL LETTER AV;SMALL LETTER AV;CAPITAL LETTER AV WITH HORIZONTAL BAR",
     "SMALL LETTER AV WITH HORIZONTAL BAR;CAPITAL LETTER AY;SMALL LETTER AY",
     "CAPITAL LETTER REVERSED C WITH DOT;SMALL LETTER REVERSED C WITH DOT",
     "CAPITAL LETTER K WITH STROKE;SMALL LETTER K WITH STROKE",
     "CAPITAL LETTER K WITH DIAGONAL STROKE;SMALL LETTER K WITH DIAGONAL STROKE",
     "CAPITAL LETTER K WITH STROKE AND DIAGONAL STROKE",
     "SMALL LETTER K WITH STROKE AND DIAGONAL STROKE;CAPITAL LETTER BROKEN L",
     "SMALL LETTER BROKEN L;CAPITAL LETTER L WITH HIGH STROKE",
     "SMALL LETTER L WITH HIGH STROKE;CAPITAL LETTER O WITH LONG STROKE OVERLAY",
     "SMALL LETTER O WITH LONG STROKE OVERLAY;CAPITAL LETTER O WITH LOOP",
     "SMALL LETTER O WITH LOOP;CAPITAL LETTER OO;SMALL LETTER OO",
     "CAPITAL LETTER P WITH STROKE THROUGH DESCENDER",
     "SMALL LETTER P WITH STROKE THROUGH DESCENDER;CAPITAL LETTER P WITH FLOURISH",
     "SMALL LETTER P WITH FLOURISH;CAPITAL LETTER P WITH SQUIRREL TAIL",
     "SMALL LETTER P WITH SQUIRREL TAIL;CAPITAL LETTER Q WITH STROKE THROUGH DESCENDER",
     "SMALL LETTER Q WITH STROKE THROUGH DESCENDER;CAPITAL LETTER Q WITH DIAGONAL STROKE",
     "SMALL LETTER Q WITH DIAGONAL STROKE;CAPITAL LETTER R ROTUNDA;SMALL LETTER R ROTUNDA",
     "CAPITAL LETTER RUM ROTUNDA;SMALL LETTER RUM ROTUNDA",
     "CAPITAL LETTER V WITH DIAGONAL STROKE;SMALL LETTER V WITH DIAGONAL STROKE",
     "CAPITAL LETTER VY;SMALL LETTER VY;CAPITAL LETTER VISIGOTHIC Z",
     "SMALL LETTER VISIGOTHIC Z;CAPITAL LETTER THORN WITH STROKE",
     "SMALL LETTER THORN WITH STROKE;CAPITAL LETTER THORN WITH STROKE THROUGH DESCENDER",
     "SMALL LETTER THORN WITH STROKE THROUGH DESCENDER;CAPITAL LETTER VEND",
     "SMALL LETTER VEND;CAPITAL LETTER ET;SMALL LETTER ET;CAPITAL LETTER IS",
     "SMALL LETTER IS;CAPITAL LETTER CON;SMALL LETTER CON"]⟩,
   ⟨0xA770, "MODIFIER LETTER ", ["US"]⟩,
   ⟨0xA771, "LATIN SMALL LETTER ", ["DUM;LUM;MUM;NUM;RUM"]⟩,
   ⟨0xA776, "LATIN ", ["LETTER SMALL CAPITAL RUM;SMALL LETTER TUM;SMALL LETTER UM",
     "CAPITAL LETTER INSULAR D;SMALL LETTER INSULAR D;CAPITAL LETTER INSULAR F",
     "SMALL LETTER INSULAR F;CAPITAL LETTER INSULAR G;CAPITAL LETTER TURNED INSULAR G",
     "SMALL LETTER TURNED INSULAR G;CAPITAL LETTER TURNED L;SMALL LETTER TURNED L",
     "CAPITAL LETTER INSULAR R;SMALL LETTER INSULAR R;CAPITAL LETTER INSULAR S",
     "SMALL LETTER INSULAR S;CAPITAL LETTER INSULAR T;SMALL LETTER INSULAR T"]⟩,
   ⟨0xA788, "MODIFIER LETTER ", ["LOW CIRCUMFLEX ACCENT;COLON;SHORT EQUALS SIGN"]⟩,
   ⟨0xA78B, "LATIN ", ["CAPITAL LETTER SALTILLO;SMALL LETTER SALTILLO;CAPITAL LETTER TURNED H",
     "SMALL LETTER L WITH RETROFLEX HOOK AND BELT;LETTER SINOLOGICAL DOT",
     "CAPITAL LETTER N WITH DESCENDER;SMALL LETTER N WITH DESCENDER",
     "CAPITAL LETTER C WITH BAR;SMALL LETTER C WITH BAR;SMALL LETTER C WITH PALATAL HOOK",
     "SMALL LETTER H WITH PALATAL HOOK;CAPITAL LETTER B WITH FLOURISH",
     "SMALL LETTER B WITH FLOURISH;CAPITAL LETTER F WITH STROKE;SMALL LETTER F WITH STROKE",
     "CAPITAL LETTER VOLAPUK AE;SMALL LETTER VOLAPUK AE;CAPITAL LETTER VOLAPUK OE",
     "SMALL LETTER VOLAPUK OE;CAPITAL LETTER VOLAPUK UE;SMALL LETTER VOLAPUK UE",
     "CAPITAL LETTER G WITH OBLIQUE STROKE;SMALL LETTER G WITH OBLIQUE STROKE",
     "CAPITAL LETTER K WITH OBLIQUE STROKE;SMALL LETTER K WITH OBLIQUE STROKE",
     "CAPITAL LETTER N WITH OBLIQUE STROKE;SMALL LETTER N WITH OBLIQUE STROKE",
     "CAPITAL LETTER R WITH OBLIQUE STROKE;SMALL LETTER R WITH OBLIQUE STROKE",
     "CAPITAL LETTER S WITH OBLIQUE STROKE;SMALL LETTER S WITH OBLIQUE STROKE"]⟩,
   ⟨0xA7AA, "LATIN CAPITAL LETTER ", ["H WITH HOOK;REVERSED OPEN E;SCRIPT G;L WITH BELT",
     "SMALL CAPITAL I"]⟩,
   ⟨0xA7AF, "LATIN LETTER SMALL CAPITAL ", ["Q"]⟩,
   ⟨0xA7B0, "LATIN CAPITAL LETTER ", ["TURNED K;TURNED T;J WITH CROSSED-TAIL;CHI;BETA"]⟩,
   ⟨0xA7B5, "LATIN ", ["SMALL LETTER BETA;CAPITAL LETTER OMEGA;SMALL LETTER OMEGA",
     "CAPITAL LETTER U WITH STROKE;SMALL LETTER U WITH STROKE;CAPITAL LETTER GLOTTAL A",
     "SMALL LETTER GLOTTAL A;CAPITAL LETTER GLOTTAL I;SMALL LETTER GLOTTAL I",
     "CAPITAL LETTER GLOTTAL U;SMALL LETTER GLOTTAL U;CAPITAL LETTER OLD POLISH O",
     "SMALL LETTER OLD POLISH O;CAPITAL LETTER ANGLICANA W;SMALL LETTER ANGLICANA W"]⟩,
   ⟨0xA7C4, "LATIN CAPITAL LETTER ", ["C WITH PALATAL HOOK;S WITH HOOK;Z WITH PALATAL HOOK",
     "D WITH SHORT STROKE OVERLAY"]⟩,
   ⟨0xA7C8, "LATIN ", ["SMALL LETTER D WITH SHORT STROKE OVERLAY",
     "CAPITAL LETTER S WITH SHORT STROKE OVERLAY;SMALL LETTER S WITH SHORT STROKE OVERLAY"]⟩,
   ⟨0xA7D0, "LATIN ", ["CAPITAL LETTER CLOSED INSULAR G;SMALL LETTER CLOSED INSULAR G;",
     "SMALL LETTER DOUBLE THORN;;SMALL LETTER DOUBLE WYNN;CAPITAL LETTER MIDDLE SCOTS S",
     "SMALL LETTER MIDDLE SCOTS S;CAPITAL LETTER SIGMOID S;SMALL LETTER SIGMOID S"]⟩,
   ⟨0xA7F2, "MODIFIER LETTER CAPITAL ", ["C;F;Q"]⟩,
   ⟨0xA7F5, "", ["LATIN CAPITAL LETTER REVERSED HALF H;LATIN SMALL LETTER REVERSED HALF H",
     "LATIN EPIGRAPHIC LETTER SIDEWAYS I;MODIFIER LETTER CAPITAL H WITH STROKE",
     "MODIFIER LETTER SMALL LIGATURE OE;LATIN LETTER SMALL CAPITAL TURNED M"]⟩,
   ⟨0xA7FB, "LATIN EPIGRAPHIC LETTER ", ["REVERSED F;REVERSED P;INVERTED M;I LONGA;ARCHAIC M"]⟩,
   ⟨0xA800, "SYLOTI NAGRI ", ["LETTER A;LETTER I;SIGN DVISVARA;LETTER U;LETTER E;LETTER O",
     "SIGN HASANTA;LETTER KO;LETTER KHO;LETTER GO;LETTER GHO;SIGN ANUSVARA"]⟩,
   ⟨0xA80C, "SYLOTI NAGRI LETTER ", ["CO;CHO;JO;JHO;TTO;TTHO;DDO;DDHO;TO;THO;DO;DHO;NO;PO;PHO",
     "BO;BHO;MO;RO;LO;RRO;SO;HO"]⟩,
   ⟨0xA823, "SYLOTI NAGRI VOWEL SIGN ", ["A;I;U;E;OO"]⟩,
   ⟨0xA828, "SYLOTI NAGRI POETRY MARK-", ["1;2;3;4"]⟩,
   ⟨0xA82C, "SYLOTI NAGRI SIGN ALTERNATE ", ["HASANTA"]⟩,
   ⟨0xA830, "NORTH INDIC FRACTION ", ["ONE QUARTER;ONE HALF;THREE QUARTERS;ONE SIXTEENTH",
     "ONE EIGHTH;THREE SIXTEENTHS"]⟩,
   ⟨0xA836, "NORTH INDIC ", ["QUARTER MARK;PLACEHOLDER MARK;RUPEE MARK;QUANTITY MARK"]⟩,
   ⟨0xA840, "PHAGS-PA LETTER ", ["KA;KHA;GA;NGA;CA;CHA;JA;NYA;TA;THA;DA;NA;PA;PHA;BA;MA;TSA",
     "TSHA;DZA;WA;ZHA;ZA;SMALL A;YA;RA;LA;SHA;SA;HA;A;I;U;E;O;QA;XA;FA;GGA;EE"]⟩,
   ⟨0xA867, "PHAGS-PA SUBJOINED LETTER ", ["WA;YA"]⟩,
   ⟨0xA869, "PHAGS-PA LETTER ", ["TTA;TTHA;DDA;NNA;ALTERNATE YA;VOICELESS SHA;VOICED HA",
     "ASPIRATED FA"]⟩,
   ⟨0xA871, "PHAGS-PA ", ["SUBJOINED LETTER RA;SUPERFIXED LETTER RA;LETTER CANDRABINDU",
     "SINGLE HEAD MARK;DOUBLE HEAD MARK;MARK SHAD;MARK DOUBLE SHAD"]⟩,
   ⟨0xA880, "SAURASHTRA SIGN ", ["ANUSVARA;VISARGA"]⟩,
   ⟨0xA882, "SAURASHTRA LETTER ", ["A;AA;I;II;U;UU;VOCALIC R;VOCALIC RR;VOCALIC L;VOCALIC LL",
     "E;EE;AI;O;OO;AU;KA;KHA;GA;GHA;NGA;CA;CHA;JA;JHA;NYA;TTA;TTHA;DDA;DDHA;NNA;TA;THA;DA",
     "DHA;NA;PA;PHA;BA;BHA;MA;YA;RA;LA;VA;SHA;SSA;SA;HA;LLA"]⟩,
   ⟨0xA8B4, "SAURASHTRA CONSONANT SIGN ", ["HAARU"]⟩,
   ⟨0xA8B5, "SAURASHTRA VOWEL SIGN ", ["AA;I;II;U;UU;VOCALIC R;VOCALIC RR;VOCALIC L",
     "VOCALIC LL;E;EE;AI;O;OO;AU"]⟩,
   ⟨0xA8C4, "SAURASHTRA SIGN ", ["VIRAMA;CANDRABINDU"]⟩,
   ⟨0xA8CE, "SAURASHTRA ", ["DANDA;DOUBLE DANDA"]⟩,
   ⟨0xA8D0, "SAURASHTRA DIGIT ", ["ZERO;ONE;TWO;THREE;FOUR;FIVE;SIX;SEVEN;EIGHT;NINE"]⟩,
   ⟨0xA8E0, "COMBINING DEVANAGARI DIGIT ", ["ZERO;ONE;TWO;THREE;FOUR;FIVE;SIX;SEVEN;EIGHT",
     "NINE"]⟩,
   ⟨0xA8EA, "COMBINING DEVANAGARI LETTER ", ["A;U;KA;NA;PA;RA;VI"]⟩,
   ⟨0xA8F1, "COMBINING DEVANAGARI SIGN ", ["AVAGRAHA"]⟩,
   ⟨0xA8F2, "DEVANAGARI SIGN ", ["SPACING CANDRABINDU;CANDRABINDU VIRAMA",
     "DOUBLE CANDRABINDU VIRAMA;CANDRABINDU TWO;CANDRABINDU THREE;CANDRABINDU AVAGRAHA",
     "PUSHPIKA"]⟩,
   ⟨0xA8F9, "DEVANAGARI ", ["GAP FILLER;CARET;HEADSTROKE;SIGN SIDDHAM;JAIN OM;LETTER AY",
     "VOWEL SIGN AY"]⟩,
   ⟨0xA900, "KAYAH LI DIGIT ", ["ZERO;ONE;TWO;THREE;FOUR;FIVE;SIX;SEVEN;EIGHT;NINE"]⟩,
   ⟨0xA90A, "KAYAH LI LETTER ", ["KA;KHA;GA;NGA;SA;SHA;ZA;NYA;TA;HTA;NA;PA;PHA;MA;DA;BA;RA;YA",
     "LA;WA;THA;HA;VA;CA;A;OE;I;OO"]⟩,
   ⟨0xA926, "KAYAH LI ", ["VOWEL UE;VOWEL E;VOWEL U;VOWEL EE;VOWEL O;TONE PLOPHU;TONE CALYA",
     "TONE CALYA PLOPHU;SIGN CWI;SIGN SHYA"]⟩,
   ⟨0xA930, "REJANG LETTER ", ["KA;GA;NGA;TA;DA;NA;PA;BA;MA;CA;JA;NYA;SA;RA;LA;YA;WA;HA;MBA",
     "NGGA;NDA;NYJA;A"]⟩,
   ⟨0xA947, "REJANG VOWEL SIGN ", ["I;U;E;AI;O;AU;EU;EA"]⟩,
   ⟨0xA94F, "REJANG CONSONANT SIGN ", ["NG;N;R;H"]⟩,
   ⟨0xA953, "REJANG ", ["VIRAMA"]⟩,
   ⟨0xA95F, "REJANG SECTION ", ["MARK"]⟩,
   ⟨0xA960, "HANGUL CHOSEONG TIKEUT-", ["MIEUM;PIEUP;SIOS;CIEUC"]⟩,
   ⟨0xA964, "HANGUL CHOSEONG RIEUL-", ["KIYEOK;SSANGKIYEOK;TIKEUT;SSANGTIKEUT;MIEUM;PIEUP",
     "SSANGPIEUP;KAPYEOUNPIEUP;SIOS;CIEUC;KHIEUKH"]⟩,
   ⟨0xA96F, "HANGUL CHOSEONG ", ["MIEUM-KIYEOK;MIEUM-TIKEUT;MIEUM-SIOS;PIEUP-SIOS-THIEUTH",
     "PIEUP-KHIEUKH;PIEUP-HIEUH;SSANGSIOS-PIEUP;IEUNG-RIEUL;IEUNG-HIEUH;SSANGCIEUC-HIEUH",
     "SSANGTHIEUTH;PHIEUPH-HIEUH;HIEUH-SIOS;SSANGYEORINHIEUH"]⟩,
   ⟨0xA980, "JAVANESE SIGN ", ["PANYANGGA;CECAK;LAYAR;WIGNYAN"]⟩,
   ⟨0xA984, "JAVANESE LETTER ", ["A;I KAWI;I;II;U;PA CEREK;NGA LELET;NGA LELET RASWADI;E;AI;O",
     "KA;KA SASAK;KA MURDA;GA;GA MURDA;NGA;CA;CA MURDA;JA;NYA MURDA;JA MAHAPRANA;NYA;TTA",
     "TTA MAHAPRANA;DDA;DDA MAHAPRANA;NA MURDA;TA;TA MURDA;DA;DA MAHAPRANA;NA;PA;PA MURDA",
     "BA;BA MURDA;MA;YA;RA;RA AGUNG;LA;WA;SA MURDA;SA MAHAPRANA;SA;HA"]⟩,
   ⟨0xA9B3, "JAVANESE SIGN CECAK ", ["TELU"]⟩,
   ⟨0xA9B4, "JAVANESE VOWEL SIGN ", ["TARUNG;TOLONG;WULU;WULU MELIK;SUKU;SUKU MENDUT;TALING",
     "DIRGA MURE;PEPET"]⟩,
   ⟨0xA9BD, "JAVANESE CONSONANT SIGN ", ["KERET;PENGKAL;CAKRA"]⟩,
   ⟨0xA9C0, "JAVANESE ", ["PANGKON;LEFT RERENGGAN;RIGHT RERENGGAN;PADA ANDAP;PADA MADYA",
     "PADA LUHUR;PADA WINDU;PADA PANGKAT;PADA LINGSA;PADA LUNGSI;PADA ADEG;PADA ADEG ADEG",
     "PADA PISELEH;TURNED PADA PISELEH;;PANGRANGKEP"]⟩,
   ⟨0xA9D0, "JAVANESE DIGIT ", ["ZERO;ONE;TWO;THREE;FOUR;FIVE;SIX;SEVEN;EIGHT;NINE"]⟩,
   ⟨0xA9DE, "JAVANESE PADA ", ["TIRTA TUMETES;ISEN-ISEN"]⟩,
   ⟨0xA9E0, "MYANMAR LETTER SHAN ", ["GHA;CHA;JHA;NNA;BHA"]⟩,
   ⟨0xA9E5, "MYANMAR ", ["SIGN SHAN SAW;MODIFIER LETTER SHAN REDUPLICATION"]⟩,
   ⟨0xA9E7, "MYANMAR LETTER TAI LAING ", ["NYA;FA;GA;GHA;JA;JHA;DDA;DDHA;NNA"]⟩,
   ⟨0xA9F0, "MYANMAR TAI LAING DIGIT ", ["ZERO;ONE;TWO;THREE;FOUR;FIVE;SIX;SEVEN;EIGHT;NINE"]⟩,
   ⟨0xA9FA, "MYANMAR LETTER TAI LAING ", ["LLA;DA;DHA;BA;BHA"]⟩,
   ⟨0xAA00, "CHAM LETTER ", ["A;I;U;E;AI;O;KA;KHA;GA;GHA;NGUE;NGA;CHA;CHHA;JA;JHA;NHUE;NHA",
     "NHJA;TA;THA;DA;DHA;NUE;NA;DDA;PA;PPA;PHA;BA;BHA;MUE;MA;BBA;YA;RA;LA;VA;SSA;SA;HA"]⟩,
   ⟨0xAA29, "CHAM VOWEL SIGN ", ["AA;I;II;EI;U;OE;O;AI;AU;UE"]⟩,
   ⟨0xAA33, "CHAM CONSONANT SIGN ", ["YA;RA;LA;WA"]⟩,
   ⟨0xAA40, "CHAM LETTER FINAL ", ["K;G;NG"]⟩,
   ⟨0xAA43, "CHAM CONSONANT SIGN FINAL ", ["NG"]⟩,
   ⟨0xAA44, "CHAM LETTER FINAL ", ["CH;T;N;P;Y;R;L;SS"]⟩,
   ⟨0xAA4C, "CHAM CONSONANT SIGN FINAL ", ["M;H"]⟩,
   ⟨0xAA50, "CHAM DIGIT ", ["ZERO;ONE;TWO;THREE;FOUR;FIVE;SIX;SEVEN;EIGHT;NINE"]⟩,
   ⟨0xAA5C, "CHAM PUNCTUATION ", ["SPIRAL;DANDA;DOUBLE DANDA;TRIPLE DANDA"]⟩,
   ⟨0xAA60, "MYANMAR LETTER KHAMTI ", ["GA;CA;CHA;JA;JHA;NYA;TTA;TTHA;DDA;DDHA;DHA;NA;SA;HA",
     "HHA;FA"]⟩,
   ⟨0xAA70, "MYANMAR ", ["MODIFIER LETTER KHAMTI REDUPLICATION;LETTER KHAMTI XA",
     "LETTER KHAMTI ZA;LETTER KHAMTI RA;LOGOGRAM KHAMTI OAY;LOGOGRAM KHAMTI QN",
     "LOGOGRAM KHAMTI HM;SYMBOL AITON EXCLAMATION;SYMBOL AITON ONE;SYMBOL AITON TWO",
     "LETTER AITON RA;SIGN PAO KAREN TONE;SIGN TAI LAING TONE-2;SIGN TAI LAING TONE-5",
     "LETTER SHWE PALAUNG CHA;LETTER SHWE PALAUNG SHA"]⟩,
   ⟨0xAA80, "TAI VIET LETTER ", ["LOW KO;HIGH KO;LOW KHO;HIGH KHO;LOW KHHO;HIGH KHHO;LOW GO",
     "HIGH GO;LOW NGO;HIGH NGO;LOW CO;HIGH CO;LOW CHO;HIGH CHO;LOW SO;HIGH SO;LOW NYO",
     "HIGH NYO;LOW DO;HIGH DO;LOW TO;HIGH TO;LOW THO;HIGH THO;LOW NO;HIGH NO;LOW BO",
     "HIGH BO;LOW PO;HIGH PO;LOW PHO;HIGH PHO;LOW FO;HIGH FO;LOW MO;HIGH MO;LOW YO;HIGH YO",
     "LOW RO;HIGH RO;LOW LO;HIGH LO;LOW VO;HIGH VO;LOW HO;HIGH HO;LOW O;HIGH O"]⟩,
   ⟨0xAAB0, "TAI VIET ", ["MAI KANG;VOWEL AA;VOWEL I;VOWEL UE;VOWEL U;VOWEL E;VOWEL O",
     "MAI KHIT"]⟩,
   ⟨0xAAB8, "TAI VIET VOWEL ", ["IA;UEA;UA;AUE;AY;AN;AM"]⟩,
   ⟨0xAABF, "TAI VIET TONE MAI ", ["EK;NUENG;THO;SONG"]⟩,
   ⟨0xAADB, "TAI VIET SYMBOL ", ["KON;NUENG;SAM;HO HOI;KOI KOI"]⟩,
   ⟨0xAAE0, "MEETEI MAYEK LETTER ", ["E;O;CHA;NYA;TTA;TTHA;DDA;DDHA;NNA;SHA;SSA"]⟩,
   ⟨0xAAEB, "MEETEI MAYEK VOWEL SIGN ", ["II;UU;AAI;AU;AAU"]⟩,
   ⟨0xAAF0, "MEETEI MAYEK ", ["CHEIKHAN;AHANG KHUDAM;ANJI;SYLLABLE REPETITION MARK",
     "WORD REPETITION MARK;VOWEL SIGN VISARGA;VIRAMA"]⟩,
   ⟨0xAB01, "ETHIOPIC SYLLABLE ", ["TTHU;TTHI;TTHAA;TTHEE;TTHE;TTHO;;;DDHU;DDHI;DDHAA;DDHEE",
     "DDHE;DDHO;;;DZU;DZI;DZAA;DZEE;DZE;DZO"]⟩,
   ⟨0xAB20, "ETHIOPIC SYLLABLE ", ["CCHHA;CCHHU;CCHHI;CCHHAA;CCHHEE;CCHHE;CCHHO;;BBA;BBU;BBI",
     "BBAA;BBEE;BBE;BBO"]⟩,
   ⟨0xAB30, "LATIN SMALL LETTER ", ["BARRED ALPHA;A REVERSED-SCHWA;BLACKLETTER E;BARRED E",
     "E WITH FLOURISH;LENIS F;SCRIPT G WITH CROSSED-TAIL;L WITH INVERTED LAZY S",
     "L WITH DOUBLE MIDDLE TILDE;L WITH MIDDLE RING;M WITH CROSSED-TAIL",
     "N WITH CROSSED-TAIL;ENG WITH CROSSED-TAIL;BLACKLETTER O;BLACKLETTER O WITH STROKE",
     "OPEN O WITH STROKE;INVERTED OE;TURNED OE WITH STROKE",
     "TURNED OE WITH HORIZONTAL STROKE;TURNED O OPEN-O;TURNED O OPEN-O WITH STROKE",
     "STIRRUP R"]⟩,
   ⟨0xAB46, "LATIN LETTER SMALL CAPITAL R WITH RIGHT ", ["LEG"]⟩,
   ⟨0xAB47, "LATIN SMALL LETTER ", ["R WITHOUT HANDLE;DOUBLE R;R WITH CROSSED-TAIL",
     "DOUBLE R WITH CROSSED-TAIL;SCRIPT R;SCRIPT R WITH RING;BASELINE ESH",
     "U WITH SHORT RIGHT LEG;U BAR WITH SHORT RIGHT LEG;UI;TURNED UI;U WITH LEFT HOOK;CHI",
     "CHI WITH LOW RIGHT RING;CHI WITH LOW LEFT SERIF;X WITH LOW RIGHT RING",
     "X WITH LONG LEFT LEG;X WITH LONG LEFT LEG AND LOW RIGHT RING",
     "X WITH LONG LEFT LEG WITH SERIF;Y WITH SHORT RIGHT LEG"]⟩,
   ⟨0xAB5B, "MODIFIER BREVE WITH INVERTED ", ["BREVE"]⟩,
   ⟨0xAB5C, "MODIFIER LETTER SMALL ", ["HENG;L WITH INVERTED LAZY S;L WITH MIDDLE TILDE",
     "U WITH LEFT HOOK"]⟩,
   ⟨0xAB60, "LATIN SMALL LETTER ", ["SAKHA YAT;IOTIFIED E;OPEN OE;UO;INVERTED ALPHA"]⟩,
   ⟨0xAB65, "GREEK LETTER SMALL CAPITAL ", ["OMEGA"]⟩,
   ⟨0xAB66, "LATIN SMALL LETTER ", ["DZ DIGRAPH WITH RETROFLEX HOOK",
     "TS DIGRAPH WITH RETROFLEX HOOK;TURNED R WITH MIDDLE TILDE"]⟩,
   ⟨0xAB69, "MODIFIER LETTER ", ["SMALL TURNED W;LEFT TACK;RIGHT TACK"]⟩,
   ⟨0xAB70, "CHEROKEE SMALL LETTER ", ["A;E;I;O;U;V;GA;KA;GE;GI;GO;GU;GV;HA;HE;HI;HO;HU;HV;LA",
     "LE;LI;LO;LU;LV;MA;ME;MI;MO;MU;NA;HNA;NAH;NE;NI;NO;NU;NV;QUA;QUE;QUI;QUO;QUU;QUV;SA;S",
     "SE;SI;SO;SU;SV;DA;TA;DE;TE;DI;TI;DO;DU;DV;DLA;TLA;TLE;TLI;TLO;TLU;TLV;TSA;TSE;TSI",
     "TSO;TSU;TSV;WA;WE;WI;WO;WU;WV;YA"]⟩,
   ⟨0xABC0, "MEETEI MAYEK LETTER ", ["KOK;SAM;LAI;MIT;PA;NA;CHIL;TIL;KHOU;NGOU;THOU;WAI;YANG",
     "HUK;UN;I;PHAM;ATIYA;GOK;JHAM;RAI;BA;JIL;DIL;GHOU;DHOU;BHAM;KOK LONSUM;LAI LONSUM",
     "MIT LONSUM;PA LONSUM;NA LONSUM;TIL LONSUM;NGOU LONSUM;I LONSUM"]⟩,
   ⟨0xABE3, "MEETEI MAYEK VOWEL SIGN ", ["ONAP;INAP;ANAP;YENAP;SOUNAP;UNAP;CHEINAP;NUNG"]⟩,
   ⟨0xABEB, "MEETEI MAYEK ", ["CHEIKHEI;LUM IYEK;APUN IYEK"]⟩,
   ⟨0xABF0, "MEETEI MAYEK DIGIT ", ["ZERO;ONE;TWO;THREE;FOUR;FIVE;SIX;SEVEN;EIGHT;NINE"]⟩,
   ⟨0xD7B0, "HANGUL JUNGSEONG ", ["O-YEO;O-O-I;YO-A;YO-AE;YO-EO;U-YEO;U-I-I;YU-AE;YU-O;EU-A",
     "EU-EO;EU-E;EU-O;I-YA-O;I-YAE;I-YEO;I-YE;I-O-I;I-YO;I-YU;I-I;ARAEA-A;ARAEA-E"]⟩,
   ⟨0xD7CB, "HANGUL JONGSEONG ", ["NIEUN-RIEUL;NIEUN-CHIEUCH;SSANGTIKEUT;SSANGTIKEUT-PIEUP",
     "TIKEUT-PIEUP;TIKEUT-SIOS;TIKEUT-SIOS-KIYEOK;TIKEUT-CIEUC;TIKEUT-CHIEUCH",
     "TIKEUT-THIEUTH;RIEUL-SSANGKIYEOK;RIEUL-KIYEOK-HIEUH;SSANGRIEUL-KHIEUKH",
     "RIEUL-MIEUM-HIEUH;RIEUL-PIEUP-TIKEUT;RIEUL-PIEUP-PHIEUPH;RIEUL-YESIEUNG",
     "RIEUL-YEORINHIEUH-HIEUH;KAPYEOUNRIEUL;MIEUM-NIEUN;MIEUM-SSANGNIEUN;SSANGMIEUM",
     "MIEUM-PIEUP-SIOS;MIEUM-CIEUC;PIEUP-TIKEUT;PIEUP-RIEUL-PHIEUPH;PIEUP-MIEUM;SSANGPIEUP",
     "PIEUP-SIOS-TIKEUT;PIEUP-CIEUC;PIEUP-CHIEUCH;SIOS-MIEUM;SIOS-KAPYEOUNPIEUP",
     "SSANGSIOS-KIYEOK;SSANGSIOS-TIKEUT;SIOS-PANSIOS;SIOS-CIEUC;SIOS-CHIEUCH;SIOS-THIEUTH",
     "SIOS-HIEUH;PANSIOS-PIEUP;PANSIOS-KAPYEOUNPIEUP;YESIEUNG-MIEUM;YESIEUNG-HIEUH",
     "CIEUC-PIEUP;CIEUC-SSANGPIEUP;SSANGCIEUC;PHIEUPH-SIOS;PHIEUPH-THIEUTH"]⟩,
   ⟨0xFB00, "LATIN SMALL LIGATURE ", ["FF;FI;FL;FFI;FFL;LONG S T;ST"]⟩,
   ⟨0xFB13, "ARMENIAN SMALL LIGATURE ", ["MEN NOW;MEN ECH;MEN INI;VEW NOW;MEN XEH"]⟩,
   ⟨0xFB1D, "HEBREW ", ["LETTER YOD WITH HIRIQ;POINT JUDEO-SPANISH VARIKA",
     "LIGATURE YIDDISH YOD YOD PATAH"]⟩,
   ⟨0xFB20, "HEBREW LETTER ", ["ALTERNATIVE AYIN;WIDE ALEF;WIDE DALET;WIDE HE;WIDE KAF",
     "WIDE LAMED;WIDE FINAL MEM;WIDE RESH;WIDE TAV;ALTERNATIVE PLUS SIGN",
     "SHIN WITH SHIN DOT;SHIN WITH SIN DOT;SHIN WITH DAGESH AND SHIN DOT",
     "SHIN WITH DAGESH AND SIN DOT;ALEF WITH PATAH;ALEF WITH QAMATS;ALEF WITH MAPIQ",
     "BET WITH DAGESH;GIMEL WITH DAGESH;DALET WITH DAGESH;HE WITH MAPIQ;VAV WITH DAGESH",
     "ZAYIN WITH DAGESH;;TET WITH DAGESH;YOD WITH DAGESH;FINAL KAF WITH DAGESH",
     "KAF WITH DAGESH;LAMED WITH DAGESH;;MEM WITH DAGESH;;NUN WITH DAGESH",
     "SAMEKH WITH DAGESH;;FINAL PE WITH DAGESH;PE WITH DAGESH;;TSADI WITH DAGESH",
     "QOF WITH DAGESH;RESH WITH DAGESH;SHIN WITH DAGESH;TAV WITH DAGESH;VAV WITH HOLAM",
     "BET WITH RAFE;KAF WITH RAFE;PE WITH RAFE"]⟩,
   ⟨0xFB4F, "HEBREW LIGATURE ALEF ", ["LAMED"]⟩,
   ⟨0xFB50, "ARABIC LETTER ", ["ALEF WASLA ISOLATED FORM;ALEF WASLA FINAL FORM",
     "BEEH ISOLATED FORM;BEEH FINAL FORM;BEEH INITIAL FORM;BEEH MEDIAL FORM",
     "PEH ISOLATED FORM;PEH FINAL FORM;PEH INITIAL FORM;PEH MEDIAL FORM",
     "BEHEH ISOLATED FORM;BEHEH FINAL FORM;BEHEH INITIAL FORM;BEHEH MEDIAL FORM",
     "TTEHEH ISOLATED FORM;TTEHEH FINAL FORM;TTEHEH INITIAL FORM;TTEHEH MEDIAL FORM",
     "TEHEH ISOLATED FORM;TEHEH FINAL FORM;TEHEH INITIAL FORM;TEHEH MEDIAL FORM",
     "TTEH ISOLATED FORM;TTEH FINAL FORM;TTEH INITIAL FORM;TTEH MEDIAL FORM",
     "VEH ISOLATED FORM;VEH FINAL FORM;VEH INITIAL FORM;VEH MEDIAL FORM",
     "PEHEH ISOLATED FORM;PEHEH FINAL FORM;PEHEH INITIAL FORM;PEHEH MEDIAL FORM",
     "DYEH ISOLATED FORM;DYEH FINAL FORM;DYEH INITIAL FORM;DYEH MEDIAL FORM",
     "NYEH ISOLATED FORM;NYEH FINAL FORM;NYEH INITIAL FORM;NYEH MEDIAL FORM",
     "TCHEH ISOLATED FORM;TCHEH FINAL FORM;TCHEH INITIAL FORM;TCHEH MEDIAL FORM",
     "TCHEHEH ISOLATED FORM;TCHEHEH FINAL FORM;TCHEHEH INITIAL FORM;TCHEHEH MEDIAL FORM",
     "DDAHAL ISOLATED FORM;DDAHAL FINAL FORM;DAHAL ISOLATED FORM;DAHAL FINAL FORM",
     "DUL ISOLATED FORM;DUL FINAL FORM;DDAL ISOLATED FORM;DDAL FINAL FORM",
     "JEH ISOLATED FORM;JEH FINAL FORM;RREH ISOLATED FORM;RREH FINAL FORM",
     "KEHEH ISOLATED FORM;KEHEH FINAL FORM;KEHEH INITIAL FORM;KEHEH MEDIAL FORM",
     "GAF ISOLATED FORM;GAF FINAL FORM;GAF INITIAL FORM;GAF MEDIAL FORM;GUEH ISOLATED FORM",
     "GUEH FINAL FORM;GUEH INITIAL FORM;GUEH MEDIAL FORM;NGOEH ISOLATED FORM",
     "NGOEH FINAL FORM;NGOEH INITIAL FORM;NGOEH MEDIAL FORM;NOON GHUNNA ISOLATED FORM",
     "NOON GHUNNA FINAL FORM;RNOON ISOLATED FORM;RNOON FINAL FORM;RNOON INITIAL FORM",
     "RNOON MEDIAL FORM;HEH WITH YEH ABOVE ISOLATED FORM;HEH WITH YEH ABOVE FINAL FORM",
     "HEH GOAL ISOLATED FORM;HEH GOAL FINAL FORM;HEH GOAL INITIAL FORM",
     "HEH GOAL MEDIAL FORM"]⟩,
   ⟨0xFBAA, "ARABIC LETTER HEH DOACHASHMEE ", ["ISOLATED FORM;FINAL FORM;INITIAL FORM",
     "MEDIAL FORM"]⟩,
   ⟨0xFBAE, "ARABIC LETTER YEH BARREE ", ["ISOLATED FORM;FINAL FORM",
     "WITH HAMZA ABOVE ISOLATED FORM;WITH HAMZA ABOVE FINAL FORM"]⟩,
   ⟨0xFBB2, "ARABIC SYMBOL ", ["DOT ABOVE;DOT BELOW;TWO DOTS ABOVE;TWO DOTS BELOW",
     "THREE DOTS ABOVE;THREE DOTS BELOW;THREE DOTS POINTING DOWNWARDS ABOVE",
     "THREE DOTS POINTING DOWNWARDS BELOW;FOUR DOTS ABOVE;FOUR DOTS BELOW",
     "DOUBLE VERTICAL BAR BELOW;TWO DOTS VERTICALLY ABOVE;TWO DOTS VERTICALLY BELOW;RING",
     "SMALL TAH ABOVE;SMALL TAH BELOW;WASLA ABOVE"]⟩,
   ⟨0xFBD3, "ARABIC LETTER ", ["NG ISOLATED FORM;NG FINAL FORM;NG INITIAL FORM;NG MEDIAL FORM",
     "U ISOLATED FORM;U FINAL FORM;OE ISOLATED FORM;OE FINAL FORM;YU ISOLATED FORM",
     "YU FINAL FORM;U WITH HAMZA ABOVE ISOLATED FORM;VE ISOLATED FORM;VE FINAL FORM",
     "KIRGHIZ OE ISOLATED FORM;KIRGHIZ OE FINAL FORM;KIRGHIZ YU ISOLATED FORM",
     "KIRGHIZ YU FINAL FORM;E ISOLATED FORM;E FINAL FORM;E INITIAL FORM;E MEDIAL FORM"]⟩,
   ⟨0xFBE8, "ARABIC LETTER UIGHUR KAZAKH KIRGHIZ ALEF MAKSURA ", ["INITIAL FORM;MEDIAL FORM"]⟩,
   ⟨0xFBEA, "ARABIC LIGATURE YEH WITH HAMZA ABOVE WITH ", ["ALEF ISOLATED FORM",
     "ALEF FINAL FORM;AE ISOLATED FORM;AE FINAL FORM;WAW ISOLATED FORM;WAW FINAL FORM",
     "U ISOLATED FORM;U FINAL FORM;OE ISOLATED FORM;OE FINAL FORM;YU ISOLATED FORM",
     "YU FINAL FORM;E ISOLATED FORM;E FINAL FORM;E INITIAL FORM"]⟩,
   ⟨0xFBF9, "ARABIC LIGATURE UIGHUR KIRGHIZ YEH WITH HAMZA ABOVE WITH ALEF MAKSURA ",
     ["ISOLATED FORM;FINAL FORM;INITIAL FORM"]⟩,
   ⟨0xFBFC, "ARABIC LETTER FARSI YEH ", ["ISOLATED FORM;FINAL FORM;INITIAL FORM;MEDIAL FORM"]⟩,
   ⟨0xFC00, "ARABIC LIGATURE YEH WITH HAMZA ABOVE WITH ", ["JEEM ISOLATED FORM",
     "HAH ISOLATED FORM;MEEM ISOLATED FORM;ALEF MAKSURA ISOLATED FORM;YEH ISOLATED FORM"]⟩,
   ⟨0xFC05, "ARABIC LIGATURE BEH WITH ", ["JEEM ISOLATED FORM;HAH ISOLATED FORM",
     "KHAH ISOLATED FORM;MEEM ISOLATED FORM;ALEF MAKSURA ISOLATED FORM;YEH ISOLATED FORM"]⟩,
   ⟨0xFC0B, "ARABIC LIGATURE TEH WITH ", ["JEEM ISOLATED FORM;HAH ISOLATED FORM",
     "KHAH ISOLATED FORM;MEEM ISOLATED FORM;ALEF MAKSURA ISOLATED FORM;YEH ISOLATED FORM"]⟩,
   ⟨0xFC11, "ARABIC LIGATURE ", ["THEH WITH JEEM ISOLATED FORM;THEH WITH MEEM ISOLATED FORM",
     "THEH WITH ALEF MAKSURA ISOLATED FORM;THEH WITH YEH ISOLATED FORM",
     "JEEM WITH HAH ISOLATED FORM;JEEM WITH MEEM ISOLATED FORM;HAH WITH JEEM ISOLATED FORM",
     "HAH WITH MEEM ISOLATED FORM;KHAH WITH JEEM ISOLATED FORM;KHAH WITH HAH ISOLATED FORM",
     "KHAH WITH MEEM ISOLATED FORM;SEEN WITH JEEM ISOLATED FORM",
     "SEEN WITH HAH ISOLATED FORM;SEEN WITH KHAH ISOLATED FORM",
     "SEEN WITH MEEM ISOLATED FORM;SAD WITH HAH ISOLATED FORM;SAD WITH MEEM ISOLATED FORM",
     "DAD WITH JEEM ISOLATED FORM;DAD WITH HAH ISOLATED FORM;DAD WITH KHAH ISOLATED FORM",
     "DAD WITH MEEM ISOLATED FORM;TAH WITH HAH ISOLATED FORM;TAH WITH MEEM ISOLATED FORM",
     "ZAH WITH MEEM ISOLATED FORM;AIN WITH JEEM ISOLATED FORM;AIN WITH MEEM ISOLATED FORM",
     "GHAIN WITH JEEM ISOLATED FORM;GHAIN WITH MEEM ISOLATED FORM"]⟩,
   ⟨0xFC2D, "ARABIC LIGATURE FEH WITH ", ["JEEM ISOLATED FORM;HAH ISOLATED FORM",
     "KHAH ISOLATED FORM;MEEM ISOLATED FORM;ALEF MAKSURA ISOLATED FORM;YEH ISOLATED FORM"]⟩,
   ⟨0xFC33, "ARABIC LIGATURE QAF WITH ", ["HAH ISOLATED FORM;MEEM ISOLATED FORM",
     "ALEF MAKSURA ISOLATED FORM;YEH ISOLATED FORM"]⟩,
   ⟨0xFC37, "ARABIC LIGATURE KAF WITH ", ["ALEF ISOLATED FORM;JEEM ISOLATED FORM",
     "HAH ISOLATED FORM;KHAH ISOLATED FORM;LAM ISOLATED FORM;MEEM ISOLATED FORM",
     "ALEF MAKSURA ISOLATED FORM;YEH ISOLATED FORM"]⟩,
   ⟨0xFC3F, "ARABIC LIGATURE LAM WITH ", ["JEEM ISOLATED FORM;HAH ISOLATED FORM",
     "KHAH ISOLATED FORM;MEEM ISOLATED FORM;ALEF MAKSURA ISOLATED FORM;YEH ISOLATED FORM"]⟩,
   ⟨0xFC45, "ARABIC LIGATURE MEEM WITH ", ["JEEM ISOLATED FORM;HAH ISOLATED FORM",
     "KHAH ISOLATED FORM;MEEM ISOLATED FORM;ALEF MAKSURA ISOLATED FORM;YEH ISOLATED FORM"]⟩,
   ⟨0xFC4B, "ARABIC LIGATURE NOON WITH ", ["JEEM ISOLATED FORM;HAH ISOLATED FORM",
     "KHAH ISOLATED FORM;MEEM ISOLATED FORM;ALEF MAKSURA ISOLATED FORM;YEH ISOLATED FORM"]⟩,
   ⟨0xFC51, "ARABIC LIGATURE HEH WITH ", ["JEEM ISOLATED FORM;MEEM ISOLATED FORM",
     "ALEF MAKSURA ISOLATED FORM;YEH ISOLATED FORM"]⟩,
   ⟨0xFC55, "ARABIC LIGATURE YEH WITH ", ["JEEM ISOLATED FORM;HAH ISOLATED FORM",
     "KHAH ISOLATED FORM;MEEM ISOLATED FORM;ALEF MAKSURA ISOLATED FORM;YEH ISOLATED FORM"]⟩,
   ⟨0xFC5B, "ARABIC LIGATURE ", ["THAL WITH SUPERSCRIPT ALEF ISOLATED FORM",
     "REH WITH SUPERSCRIPT ALEF ISOLATED FORM",
     "ALEF MAKSURA WITH SUPERSCRIPT ALEF ISOLATED FORM"]⟩,
   ⟨0xFC5E, "ARABIC LIGATURE SHADDA WITH ", ["DAMMATAN ISOLATED FORM;KASRATAN ISOLATED FORM",
     "FATHA ISOLATED FORM;DAMMA ISOLATED FORM;KASRA ISOLATED FORM",
     "SUPERSCRIPT ALEF ISOLATED FORM"]⟩,
   ⟨0xFC64, "ARABIC LIGATURE YEH WITH HAMZA ABOVE WITH ", ["REH FINAL FORM;ZAIN FINAL FORM",
     "MEEM FINAL FORM;NOON FINAL FORM;ALEF MAKSURA FINAL FORM;YEH FINAL FORM"]⟩,
   ⟨0xFC6A, "ARABIC LIGATURE BEH WITH ", ["REH FINAL FORM;ZAIN FINAL FORM;MEEM FINAL FORM",
     "NOON FINAL FORM;ALEF MAKSURA FINAL FORM;YEH FINAL FORM"]⟩,
   ⟨0xFC70, "ARABIC LIGATURE TEH WITH ", ["REH FINAL FORM;ZAIN FINAL FORM;MEEM FINAL FORM",
     "NOON FINAL FORM;ALEF MAKSURA FINAL FORM;YEH FINAL FORM"]⟩,
   ⟨0xFC76, "ARABIC LIGATURE THEH WITH ", ["REH FINAL FORM;ZAIN FINAL FORM;MEEM FINAL FORM",
     "NOON FINAL FORM;ALEF MAKSURA FINAL FORM;YEH FINAL FORM"]⟩,
   ⟨0xFC7C, "ARABIC LIGATURE ", ["FEH WITH ALEF MAKSURA FINAL FORM;FEH WITH YEH FINAL FORM",
     "QAF WITH ALEF MAKSURA FINAL FORM;QAF WITH YEH FINAL FORM;KAF WITH ALEF FINAL FORM",
     "KAF WITH LAM FINAL FORM;KAF WITH MEEM FINAL FORM;KAF WITH ALEF MAKSURA FINAL FORM",
     "KAF WITH YEH FINAL FORM;LAM WITH MEEM FINAL FORM;LAM WITH ALEF MAKSURA FINAL FORM",
     "LAM WITH YEH FINAL FORM;MEEM WITH ALEF FINAL FORM;MEEM WITH MEEM FINAL FORM",
     "NOON WITH REH FINAL FORM;NOON WITH ZAIN FINAL FORM;NOON WITH MEEM FINAL FORM",
     "NOON WITH NOON FINAL FORM;NOON WITH ALEF MAKSURA FINAL FORM;NOON WITH YEH FINAL FORM",
     "ALEF MAKSURA WITH SUPERSCRIPT ALEF FINAL FORM"]⟩,
   ⟨0xFC91, "ARABIC LIGATURE YEH WITH ", ["REH FINAL FORM;ZAIN FINAL FORM;MEEM FINAL FORM",
     "NOON FINAL FORM;ALEF MAKSURA FINAL FORM;YEH FINAL FORM"]⟩,
   ⟨0xFC97, "ARABIC LIGATURE YEH WITH HAMZA ABOVE WITH ", ["JEEM INITIAL FORM",
     "HAH INITIAL FORM;KHAH INITIAL FORM;MEEM INITIAL FORM;HEH INITIAL FORM"]⟩,
   ⟨0xFC9C, "ARABIC LIGATURE BEH WITH ", ["JEEM INITIAL FORM;HAH INITIAL FORM",
     "KHAH INITIAL FORM;MEEM INITIAL FORM;HEH INITIAL FORM"]⟩,
   ⟨0xFCA1, "ARABIC LIGATURE TEH WITH ", ["JEEM INITIAL FORM;HAH INITIAL FORM",
     "KHAH INITIAL FORM;MEEM INITIAL FORM;HEH INITIAL FORM"]⟩,
   ⟨0xFCA6, "ARABIC LIGATURE ", ["THEH WITH MEEM INITIAL FORM;JEEM WITH HAH INITIAL FORM",
     "JEEM WITH MEEM INITIAL FORM;HAH WITH JEEM INITIAL FORM;HAH WITH MEEM INITIAL FORM",
     "KHAH WITH JEEM INITIAL FORM;KHAH WITH MEEM INITIAL FORM;SEEN WITH JEEM INITIAL FORM",
     "SEEN WITH HAH INITIAL FORM;SEEN WITH KHAH INITIAL FORM;SEEN WITH MEEM INITIAL FORM",
     "SAD WITH HAH INITIAL FORM;SAD WITH KHAH INITIAL FORM;SAD WITH MEEM INITIAL FORM",
     "DAD WITH JEEM INITIAL FORM;DAD WITH HAH INITIAL FORM;DAD WITH KHAH INITIAL FORM",
     "DAD WITH MEEM INITIAL FORM;TAH WITH HAH INITIAL FORM;ZAH WITH MEEM INITIAL FORM",
     "AIN WITH JEEM INITIAL FORM;AIN WITH MEEM INITIAL FORM;GHAIN WITH JEEM INITIAL FORM",
     "GHAIN WITH MEEM INITIAL FORM;FEH WITH JEEM INITIAL FORM;FEH WITH HAH INITIAL FORM",
     "FEH WITH KHAH INITIAL FORM;FEH WITH MEEM INITIAL FORM;QAF WITH HAH INITIAL FORM",
     "QAF WITH MEEM INITIAL FORM;KAF WITH JEEM INITIAL FORM;KAF WITH HAH INITIAL FORM",
     "KAF WITH KHAH INITIAL FORM;KAF WITH LAM INITIAL FORM;KAF WITH MEEM INITIAL FORM",
     "LAM WITH JEEM INITIAL FORM;LAM WITH HAH INITIAL FORM;LAM WITH KHAH INITIAL FORM",
     "LAM WITH MEEM INITIAL FORM;LAM WITH HEH INITIAL FORM;MEEM WITH JEEM INITIAL FORM",
     "MEEM WITH HAH INITIAL FORM;MEEM WITH KHAH INITIAL FORM;MEEM WITH MEEM INITIAL FORM",
     "NOON WITH JEEM INITIAL FORM;NOON WITH HAH INITIAL FORM;NOON WITH KHAH INITIAL FORM",
     "NOON WITH MEEM INITIAL FORM;NOON WITH HEH INITIAL FORM;HEH WITH JEEM INITIAL FORM",
     "HEH WITH MEEM INITIAL FORM;HEH WITH SUPERSCRIPT ALEF INITIAL FORM",
     "YEH WITH JEEM INITIAL FORM;YEH WITH HAH INITIAL FORM;YEH WITH KHAH INITIAL FORM",
     "YEH WITH MEEM INITIAL FORM;YEH WITH HEH INITIAL FORM",
     "YEH WITH HAMZA ABOVE WITH MEEM MEDIAL FORM;YEH WITH HAMZA ABOVE WITH HEH MEDIAL FORM",
     "BEH WITH MEEM MEDIAL FORM;BEH WITH HEH MEDIAL FORM;TEH WITH MEEM MEDIAL FORM",
     "TEH WITH HEH MEDIAL FORM;THEH WITH MEEM MEDIAL FORM;THEH WITH HEH MEDIAL FORM",
     "SEEN WITH MEEM MEDIAL FORM;SEEN WITH HEH MEDIAL FORM;SHEEN WITH MEEM MEDIAL FORM",
     "SHEEN WITH HEH MEDIAL FORM;KAF WITH LAM MEDIAL FORM;KAF WITH MEEM MEDIAL FORM",
     "LAM WITH MEEM MEDIAL FORM;NOON WITH MEEM MEDIAL FORM;NOON WITH HEH MEDIAL FORM",
     "YEH WITH MEEM MEDIAL FORM;YEH WITH HEH MEDIAL FORM;SHADDA WITH FATHA MEDIAL FORM",
     "SHADDA WITH DAMMA MEDIAL FORM;SHADDA WITH KASRA MEDIAL FORM",
     "TAH WITH ALEF MAKSURA ISOLATED FORM;TAH WITH YEH ISOLATED FORM",
     "AIN WITH ALEF MAKSURA ISOLATED FORM;AIN WITH YEH ISOLATED FORM",
     "GHAIN WITH ALEF MAKSURA ISOLATED FORM;GHAIN WITH YEH ISOLATED FORM",
     "SEEN WITH ALEF MAKSURA ISOLATED FORM;SEEN WITH YEH ISOLATED FORM",
     "SHEEN WITH ALEF MAKSURA ISOLATED FORM;SHEEN WITH YEH ISOLATED FORM",
     "HAH WITH ALEF MAKSURA ISOLATED FORM;HAH WITH YEH ISOLATED FORM",
     "JEEM WITH ALEF MAKSURA ISOLATED FORM;JEEM WITH YEH ISOLATED FORM",
     "KHAH WITH ALEF MAKSURA ISOLATED FORM;KHAH WITH YEH ISOLATED FORM",
     "SAD WITH ALEF MAKSURA ISOLATED FORM;SAD WITH YEH ISOLATED FORM",
     "DAD WITH ALEF MAKSURA ISOLATED FORM;DAD WITH YEH ISOLATED FORM",
     "SHEEN WITH JEEM ISOLATED FORM;SHEEN WITH HAH ISOLATED FORM",
     "SHEEN WITH KHAH ISOLATED FORM;SHEEN WITH MEEM ISOLATED FORM",
     "SHEEN WITH REH ISOLATED FORM;SEEN WITH REH ISOLATED FORM;SAD WITH REH ISOLATED FORM",
     "DAD WITH REH ISOLATED FORM;TAH WITH ALEF MAKSURA FINAL FORM;TAH WITH YEH FINAL FORM",
     "AIN WITH ALEF MAKSURA FINAL FORM;AIN WITH YEH FINAL FORM",
     "GHAIN WITH ALEF MAKSURA FINAL FORM;GHAIN WITH YEH FINAL FORM",
     "SEEN WITH ALEF MAKSURA FINAL FORM;SEEN WITH YEH FINAL FORM",
     "SHEEN WITH ALEF MAKSURA FINAL FORM;SHEEN WITH YEH FINAL FORM",
     "HAH WITH ALEF MAKSURA FINAL FORM;HAH WITH YEH FINAL FORM",
     "JEEM WITH ALEF MAKSURA FINAL FORM;JEEM WITH YEH FINAL FORM",
     "KHAH WITH ALEF MAKSURA FINAL FORM;KHAH WITH YEH FINAL FORM",
     "SAD WITH ALEF MAKSURA FINAL FORM;SAD WITH YEH FINAL FORM",
     "DAD WITH ALEF MAKSURA FINAL FORM;DAD WITH YEH FINAL FORM;SHEEN WITH JEEM FINAL FORM",
     "SHEEN WITH HAH FINAL FORM;SHEEN WITH KHAH FINAL FORM;SHEEN WITH MEEM FINAL FORM",
     "SHEEN WITH REH FINAL FORM;SEEN WITH REH FINAL FORM;SAD WITH REH FINAL FORM",
     "DAD WITH REH FINAL FORM;SHEEN WITH JEEM INITIAL FORM;SHEEN WITH HAH INITIAL FORM",
     "SHEEN WITH KHAH INITIAL FORM;SHEEN WITH MEEM INITIAL FORM;SEEN WITH HEH INITIAL FORM",
     "SHEEN WITH HEH INITIAL FORM;TAH WITH MEEM INITIAL FORM;SEEN WITH JEEM MEDIAL FORM",
     "SEEN WITH HAH MEDIAL FORM;SEEN WITH KHAH MEDIAL FORM;SHEEN WITH JEEM MEDIAL FORM",
     "SHEEN WITH HAH MEDIAL FORM;SHEEN WITH KHAH MEDIAL FORM;TAH WITH MEEM MEDIAL FORM",
     "ZAH WITH MEEM MEDIAL FORM;ALEF WITH FATHATAN FINAL FORM",
     "ALEF WITH FATHATAN ISOLATED FORM"]⟩,
   ⟨0xFD3E, "ORNATE ", ["LEFT PARENTHESIS;RIGHT PARENTHESIS"]⟩,
   ⟨0xFD40, "ARABIC LIGATURE ", ["RAHIMAHU ALLAAH;RADI ALLAAHU ANH;RADI ALLAAHU ANHAA",
     "RADI ALLAAHU ANHUM;RADI ALLAAHU ANHUMAA;RADI ALLAAHU ANHUNNA",
     "SALLALLAAHU ALAYHI WA-AALIH;ALAYHI AS-SALAAM;ALAYHIM AS-SALAAM;ALAYHIMAA AS-SALAAM",
     "ALAYHI AS-SALAATU WAS-SALAAM;QUDDISA SIRRAH;SALLALLAHU ALAYHI WAAALIHEE WA-SALLAM",
     "ALAYHAA AS-SALAAM;TABAARAKA WA-TAAALAA;RAHIMAHUM ALLAAH"]⟩,
   ⟨0xFD50, "ARABIC LIGATURE TEH WITH ", ["JEEM WITH MEEM INITIAL FORM",
     "HAH WITH JEEM FINAL FORM;HAH WITH JEEM INITIAL FORM;HAH WITH MEEM INITIAL FORM",
     "KHAH WITH MEEM INITIAL FORM;MEEM WITH JEEM INITIAL FORM;MEEM WITH HAH INITIAL FORM",
     "MEEM WITH KHAH INITIAL FORM"]⟩,
   ⟨0xFD58, "ARABIC LIGATURE JEEM WITH MEEM WITH HAH ", ["FINAL FORM;INITIAL FORM"]⟩,
   ⟨0xFD5A, "ARABIC LIGATURE HAH WITH MEEM WITH ", ["YEH FINAL FORM;ALEF MAKSURA FINAL FORM"]⟩,
   ⟨0xFD5C, "ARABIC LIGATURE SEEN WITH ", ["HAH WITH JEEM INITIAL FORM",
     "JEEM WITH HAH INITIAL FORM;JEEM WITH ALEF MAKSURA FINAL FORM",
     "MEEM WITH HAH FINAL FORM;MEEM WITH HAH INITIAL FORM;MEEM WITH JEEM INITIAL FORM",
     "MEEM WITH MEEM FINAL FORM;MEEM WITH MEEM INITIAL FORM"]⟩,
   ⟨0xFD64, "ARABIC LIGATURE SAD WITH ", ["HAH WITH HAH FINAL FORM;HAH WITH HAH INITIAL FORM",
     "MEEM WITH MEEM FINAL FORM"]⟩,
   ⟨0xFD67, "ARABIC LIGATURE SHEEN WITH ", ["HAH WITH MEEM FINAL FORM",
     "HAH WITH MEEM INITIAL FORM;JEEM WITH YEH FINAL FORM;MEEM WITH KHAH FINAL FORM",
     "MEEM WITH KHAH INITIAL FORM;MEEM WITH MEEM FINAL FORM;MEEM WITH MEEM INITIAL FORM"]⟩,
   ⟨0xFD6E, "ARABIC LIGATURE DAD WITH ", ["HAH WITH ALEF MAKSURA FINAL FORM",
     "KHAH WITH MEEM FINAL FORM;KHAH WITH MEEM INITIAL FORM"]⟩,
   ⟨0xFD71, "ARABIC LIGATURE TAH WITH MEEM WITH ", ["HAH FINAL FORM;HAH INITIAL FORM",
     "MEEM INITIAL FORM;YEH FINAL FORM"]⟩,
   ⟨0xFD75, "ARABIC LIGATURE AIN WITH ", ["JEEM WITH MEEM FINAL FORM",
     "MEEM WITH MEEM FINAL FORM;MEEM WITH MEEM INITIAL FORM",
     "MEEM WITH ALEF MAKSURA FINAL FORM"]⟩,
   ⟨0xFD79, "ARABIC LIGATURE GHAIN WITH MEEM WITH ", ["MEEM FINAL FORM;YEH FINAL FORM",
     "ALEF MAKSURA FINAL FORM"]⟩,
   ⟨0xFD7C, "ARABIC LIGATURE FEH WITH KHAH WITH MEEM ", ["FINAL FORM;INITIAL FORM"]⟩,
   ⟨0xFD7E, "ARABIC LIGATURE QAF WITH MEEM WITH ", ["HAH FINAL FORM;MEEM FINAL FORM"]⟩,
   ⟨0xFD80, "ARABIC LIGATURE LAM WITH ", ["HAH WITH MEEM FINAL FORM;HAH WITH YEH FINAL FORM",
     "HAH WITH ALEF MAKSURA FINAL FORM;JEEM WITH JEEM INITIAL FORM",
     "JEEM WITH JEEM FINAL FORM;KHAH WITH MEEM FINAL FORM;KHAH WITH MEEM INITIAL FORM",
     "MEEM WITH HAH FINAL FORM;MEEM WITH HAH INITIAL FORM"]⟩,
   ⟨0xFD89, "ARABIC LIGATURE MEEM WITH ", ["HAH WITH JEEM INITIAL FORM",
     "HAH WITH MEEM INITIAL FORM;HAH WITH YEH FINAL FORM;JEEM WITH HAH INITIAL FORM",
     "JEEM WITH MEEM INITIAL FORM;KHAH WITH JEEM INITIAL FORM;KHAH WITH MEEM INITIAL FORM;",
     ";JEEM WITH KHAH INITIAL FORM"]⟩,
   ⟨0xFD93, "ARABIC LIGATURE HEH WITH MEEM WITH ", ["JEEM INITIAL FORM;MEEM INITIAL FORM"]⟩,
   ⟨0xFD95, "ARABIC LIGATURE NOON WITH ", ["HAH WITH MEEM INITIAL FORM",
     "HAH WITH ALEF MAKSURA FINAL FORM;JEEM WITH MEEM FINAL FORM",
     "JEEM WITH MEEM INITIAL FORM;JEEM WITH ALEF MAKSURA FINAL FORM",
     "MEEM WITH YEH FINAL FORM;MEEM WITH ALEF MAKSURA FINAL FORM"]⟩,
   ⟨0xFD9C, "ARABIC LIGATURE ", ["YEH WITH MEEM WITH MEEM FINAL FORM",
     "YEH WITH MEEM WITH MEEM INITIAL FORM;BEH WITH KHAH WITH YEH FINAL FORM",
     "TEH WITH JEEM WITH YEH FINAL FORM;TEH WITH JEEM WITH ALEF MAKSURA FINAL FORM",
     "TEH WITH KHAH WITH YEH FINAL FORM;TEH WITH KHAH WITH ALEF MAKSURA FINAL FORM",
     "TEH WITH MEEM WITH YEH FINAL FORM;TEH WITH MEEM WITH ALEF MAKSURA FINAL FORM",
     "JEEM WITH MEEM WITH YEH FINAL FORM;JEEM WITH HAH WITH ALEF MAKSURA FINAL FORM",
     "JEEM WITH MEEM WITH ALEF MAKSURA FINAL FORM",
     "SEEN WITH KHAH WITH ALEF MAKSURA FINAL FORM;SAD WITH HAH WITH YEH FINAL FORM",
     "SHEEN WITH HAH WITH YEH FINAL FORM;DAD WITH HAH WITH YEH FINAL FORM",
     "LAM WITH JEEM WITH YEH FINAL FORM;LAM WITH MEEM WITH YEH FINAL FORM",
     "YEH WITH HAH WITH YEH FINAL FORM;YEH WITH JEEM WITH YEH FINAL FORM",
     "YEH WITH MEEM WITH YEH FINAL FORM;MEEM WITH MEEM WITH YEH FINAL FORM",
     "QAF WITH MEEM WITH YEH FINAL FORM;NOON WITH HAH WITH YEH FINAL FORM",
     "QAF WITH MEEM WITH HAH INITIAL FORM;LAM WITH HAH WITH MEEM INITIAL FORM",
     "AIN WITH MEEM WITH YEH FINAL FORM;KAF WITH MEEM WITH YEH FINAL FORM",
     "NOON WITH JEEM WITH HAH INITIAL FORM;MEEM WITH KHAH WITH YEH FINAL FORM",
     "LAM WITH JEEM WITH MEEM INITIAL FORM;KAF WITH MEEM WITH MEEM FINAL FORM",
     "LAM WITH JEEM WITH MEEM FINAL FORM;NOON WITH JEEM WITH HAH FINAL FORM",
     "JEEM WITH HAH WITH YEH FINAL FORM;HAH WITH JEEM WITH YEH FINAL FORM",
     "MEEM WITH JEEM WITH YEH FINAL FORM;FEH WITH MEEM WITH YEH FINAL FORM",
     "BEH WITH HAH WITH YEH FINAL FORM;KAF WITH MEEM WITH MEEM INITIAL FORM",
     "AIN WITH JEEM WITH MEEM INITIAL FORM;SAD WITH MEEM WITH MEEM INITIAL FORM",
     "SEEN WITH KHAH WITH YEH FINAL FORM;NOON WITH JEEM WITH YEH FINAL FORM"]⟩,
   ⟨0xFDCF, "ARABIC LIGATURE SALAAMUHU ", ["ALAYNAA"]⟩,
   ⟨0xFDF0, "ARABIC LIGATURE ", ["SALLA USED AS KORANIC STOP SIGN ISOLATED FORM",
     "QALA USED AS KORANIC STOP SIGN ISOLATED FORM;ALLAH ISOLATED FORM;AKBAR ISOLATED FORM",
     "MOHAMMAD ISOLATED FORM;SALAM ISOLATED FORM;RASOUL ISOLATED FORM;ALAYHE ISOLATED FORM",
     "WASALLAM ISOLATED FORM;SALLA ISOLATED FORM;SALLALLAHOU ALAYHE WASALLAM",
     "JALLAJALALOUHOU"]⟩,
   ⟨0xFDFC, "RIAL ", ["SIGN"]⟩,
   ⟨0xFDFD, "ARABIC LIGATURE ", ["BISMILLAH AR-RAHMAN AR-RAHEEM;SUBHAANAHU WA TAAALAA",
     "AZZA WA JALL"]⟩,
   ⟨0xFE00, "VARIATION SELECTOR-", ["1;2;3;4;5;6;7;8;9;10;11;12;13;14;15;16"]⟩,
   ⟨0xFE10, "PRESENTATION FORM FOR VERTICAL ", ["COMMA;IDEOGRAPHIC COMMA",
     "IDEOGRAPHIC FULL STOP;COLON;SEMICOLON;EXCLAMATION MARK;QUESTION MARK",
     "LEFT WHITE LENTICULAR BRACKET;RIGHT WHITE LENTICULAR BRAKCET;HORIZONTAL ELLIPSIS"]⟩,
   ⟨0xFE20, "COMBINING ", ["LIGATURE LEFT HALF;LIGATURE RIGHT HALF;DOUBLE TILDE LEFT HALF",
     "DOUBLE TILDE RIGHT HALF;MACRON LEFT HALF;MACRON RIGHT HALF;CONJOINING MACRON",
     "LIGATURE LEFT HALF BELOW;LIGATURE RIGHT HALF BELOW;TILDE LEFT HALF BELOW",
     "TILDE RIGHT HALF BELOW;MACRON LEFT HALF BELOW;MACRON RIGHT HALF BELOW",
     "CONJOINING MACRON BELOW;CYRILLIC TITLO LEFT HALF;CYRILLIC TITLO RIGHT HALF"]⟩,
   ⟨0xFE30, "PRESENTATION FORM FOR VERTICAL ", ["TWO DOT LEADER;EM DASH;EN DASH;LOW LINE",
     "WAVY LOW LINE;LEFT PARENTHESIS;RIGHT PARENTHESIS;LEFT CURLY BRACKET",
     "RIGHT CURLY BRACKET;LEFT TORTOISE SHELL BRACKET;RIGHT TORTOISE SHELL BRACKET",
     "LEFT BLACK LENTICULAR BRACKET;RIGHT BLACK LENTICULAR BRACKET",
     "LEFT DOUBLE ANGLE BRACKET;RIGHT DOUBLE ANGLE BRACKET;LEFT ANGLE BRACKET",
     "RIGHT ANGLE BRACKET;LEFT CORNER BRACKET;RIGHT CORNER BRACKET",
     "LEFT WHITE CORNER BRACKET;RIGHT WHITE CORNER BRACKET"]⟩,
   ⟨0xFE45, "", ["SESAME DOT;WHITE SESAME DOT",
     "PRESENTATION FORM FOR VERTICAL LEFT SQUARE BRACKET",
     "PRESENTATION FORM FOR VERTICAL RIGHT SQUARE BRACKET;DASHED OVERLINE",
     "CENTRELINE OVERLINE;WAVY OVERLINE;DOUBLE WAVY OVERLINE;DASHED LOW LINE",
     "CENTRELINE LOW LINE;WAVY LOW LINE"]⟩,
   ⟨0xFE50, "SMALL ", ["COMMA;IDEOGRAPHIC COMMA;FULL STOP;;SEMICOLON;COLON;QUESTION MARK",
     "EXCLAMATION MARK;EM DASH;LEFT PARENTHESIS;RIGHT PARENTHESIS;LEFT CURLY BRACKET",
     "RIGHT CURLY BRACKET;LEFT TORTOISE SHELL BRACKET;RIGHT TORTOISE SHELL BRACKET",
     "NUMBER SIGN;AMPERSAND;ASTERISK;PLUS SIGN;HYPHEN-MINUS;LESS-THAN SIGN",
     "GREATER-THAN SIGN;EQUALS SIGN;;REVERSE SOLIDUS;DOLLAR SIGN;PERCENT SIGN",
     "COMMERCIAL AT"]⟩,
   ⟨0xFE70, "ARABIC ", ["FATHATAN ISOLATED FORM;TATWEEL WITH FATHATAN ABOVE",
     "DAMMATAN ISOLATED FORM;TAIL FRAGMENT;KASRATAN ISOLATED FORM;;FATHA ISOLATED FORM",
     "FATHA MEDIAL FORM;DAMMA ISOLATED FORM;DAMMA MEDIAL FORM;KASRA ISOLATED FORM",
     "KASRA MEDIAL FORM;SHADDA ISOLATED FORM;SHADDA MEDIAL FORM;SUKUN ISOLATED FORM",
     "SUKUN MEDIAL FORM;LETTER HAMZA ISOLATED FORM"]⟩,
   ⟨0xFE81, "ARABIC LETTER ALEF WITH ", ["MADDA ABOVE ISOLATED FORM;MADDA ABOVE FINAL FORM",
     "HAMZA ABOVE ISOLATED FORM;HAMZA ABOVE FINAL FORM"]⟩,
   ⟨0xFE85, "ARABIC LETTER WAW WITH HAMZA ABOVE ", ["ISOLATED FORM;FINAL FORM"]⟩,
   ⟨0xFE87, "ARABIC LETTER ALEF WITH HAMZA BELOW ", ["ISOLATED FORM;FINAL FORM"]⟩,
   ⟨0xFE89, "ARABIC LETTER YEH WITH HAMZA ABOVE ", ["ISOLATED FORM;FINAL FORM;INITIAL FORM",
     "MEDIAL FORM"]⟩,
   ⟨0xFE8D, "ARABIC LETTER ", ["ALEF ISOLATED FORM;ALEF FINAL FORM;BEH ISOLATED FORM",
     "BEH FINAL FORM;BEH INITIAL FORM;BEH MEDIAL FORM;TEH MARBUTA ISOLATED FORM",
     "TEH MARBUTA FINAL FORM;TEH ISOLATED FORM;TEH FINAL FORM;TEH INITIAL FORM",
     "TEH MEDIAL FORM;THEH ISOLATED FORM;THEH FINAL FORM;THEH INITIAL FORM",
     "THEH MEDIAL FORM;JEEM ISOLATED FORM;JEEM FINAL FORM;JEEM INITIAL FORM",
     "JEEM MEDIAL FORM;HAH ISOLATED FORM;HAH FINAL FORM;HAH INITIAL FORM;HAH MEDIAL FORM",
     "KHAH ISOLATED FORM;KHAH FINAL FORM;KHAH INITIAL FORM;KHAH MEDIAL FORM",
     "DAL ISOLATED FORM;DAL FINAL FORM;THAL ISOLATED FORM;THAL FINAL FORM",
     "REH ISOLATED FORM;REH FINAL FORM;ZAIN ISOLATED FORM;ZAIN FINAL FORM",
     "SEEN ISOLATED FORM;SEEN FINAL FORM;SEEN INITIAL FORM;SEEN MEDIAL FORM",
     "SHEEN ISOLATED FORM;SHEEN FINAL FORM;SHEEN INITIAL FORM;SHEEN MEDIAL FORM",
     "SAD ISOLATED FORM;SAD FINAL FORM;SAD INITIAL FORM;SAD MEDIAL FORM;DAD ISOLATED FORM",
     "DAD FINAL FORM;DAD INITIAL FORM;DAD MEDIAL FORM;TAH ISOLATED FORM;TAH FINAL FORM",
     "TAH INITIAL FORM;TAH MEDIAL FORM;ZAH ISOLATED FORM;ZAH FINAL FORM;ZAH INITIAL FORM",
     "ZAH MEDIAL FORM;AIN ISOLATED FORM;AIN FINAL FORM;AIN INITIAL FORM;AIN MEDIAL FORM",
     "GHAIN ISOLATED FORM;GHAIN FINAL FORM;GHAIN INITIAL FORM;GHAIN MEDIAL FORM",
     "FEH ISOLATED FORM;FEH FINAL FORM;FEH INITIAL FORM;FEH MEDIAL FORM;QAF ISOLATED FORM",
     "QAF FINAL FORM;QAF INITIAL FORM;QAF MEDIAL FORM;KAF ISOLATED FORM;KAF FINAL FORM",
     "KAF INITIAL FORM;KAF MEDIAL FORM;LAM ISOLATED FORM;LAM FINAL FORM;LAM INITIAL FORM",
     "LAM MEDIAL FORM;MEEM ISOLATED FORM;MEEM FINAL FORM;MEEM INITIAL FORM",
     "MEEM MEDIAL FORM;NOON ISOLATED FORM;NOON FINAL FORM;NOON INITIAL FORM",
     "NOON MEDIAL FORM;HEH ISOLATED FORM;HEH FINAL FORM;HEH INITIAL FORM;HEH MEDIAL FORM",
     "WAW ISOLATED FORM;WAW FINAL FORM;ALEF MAKSURA ISOLATED FORM;ALEF MAKSURA FINAL FORM",
     "YEH ISOLATED FORM;YEH FINAL FORM;YEH INITIAL FORM;YEH MEDIAL FORM"]⟩,
   ⟨0xFEF5, "ARABIC LIGATURE LAM WITH ALEF ", ["WITH MADDA ABOVE ISOLATED FORM",
     "WITH MADDA ABOVE FINAL FORM;WITH HAMZA ABOVE ISOLATED FORM",
     "WITH HAMZA ABOVE FINAL FORM;WITH HAMZA BELOW ISOLATED FORM",
     "WITH HAMZA BELOW FINAL FORM;ISOLATED FORM;FINAL FORM"]⟩,
   ⟨0xFEFF, "ZERO WIDTH NO-BREAK ", ["SPACE"]⟩,
   ⟨0xFF01, "FULLWIDTH ", ["EXCLAMATION MARK;QUOTATION MARK;NUMBER SIGN;DOLLAR SIGN",
     "PERCENT SIGN;AMPERSAND;APOSTROPHE;LEFT PARENTHESIS;RIGHT PARENTHESIS;ASTERISK",
     "PLUS SIGN;COMMA;HYPHEN-MINUS;FULL STOP;SOLIDUS"]⟩,
   ⟨0xFF10, "FULLWIDTH DIGIT ", ["ZERO;ONE;TWO;THREE;FOUR;FIVE;SIX;SEVEN;EIGHT;NINE"]⟩,
   ⟨0xFF1A, "FULLWIDTH ", ["COLON;SEMICOLON;LESS-THAN SIGN;EQUALS SIGN;GREATER-THAN SIGN",
     "QUESTION MARK;COMMERCIAL AT"]⟩,
   ⟨0xFF21, "FULLWIDTH LATIN CAPITAL LETTER ", ["A;B;C;D;E;F;G;H;I;J;K;L;M;N;O;P;Q;R;S;T;U;V",
     "W;X;Y;Z"]⟩,
   ⟨0xFF3B, "FULLWIDTH ", ["LEFT SQUARE BRACKET;REVERSE SOLIDUS;RIGHT SQUARE BRACKET",
     "CIRCUMFLEX ACCENT;LOW LINE;GRAVE ACCENT"]⟩,
   ⟨0xFF41, "FULLWIDTH LATIN SMALL LETTER ", ["A;B;C;D;E;F;G;H;I;J;K;L;M;N;O;P;Q;R;S;T;U;V;W",
     "X;Y;Z"]⟩,
   ⟨0xFF5B, "FULLWIDTH ", ["LEFT CURLY BRACKET;VERTICAL LINE;RIGHT CURLY BRACKET;TILDE",
     "LEFT WHITE PARENTHESIS;RIGHT WHITE PARENTHESIS"]⟩,
   ⟨0xFF61, "HALFWIDTH ", ["IDEOGRAPHIC FULL STOP;LEFT CORNER BRACKET;RIGHT CORNER BRACKET",
     "IDEOGRAPHIC COMMA;KATAKANA MIDDLE DOT;KATAKANA LETTER WO"]⟩,
   ⟨0xFF67, "HALFWIDTH KATAKANA LETTER SMALL ", ["A;I;U;E;O;YA;YU;YO;TU"]⟩,
   ⟨0xFF70, "HALFWIDTH KATAKANA-HIRAGANA PROLONGED SOUND ", ["MARK"]⟩,
   ⟨0xFF71, "HALFWIDTH KATAKANA LETTER ", ["A;I;U;E;O;KA;KI;KU;KE;KO;SA;SI;SU;SE;SO;TA;TI;TU",
     "TE;TO;NA;NI;NU;NE;NO;HA;HI;HU;HE;HO;MA;MI;MU;ME;MO;YA;YU;YO;RA;RI;RU;RE;RO;WA;N"]⟩,
   ⟨0xFF9E, "HALFWIDTH ", ["KATAKANA VOICED SOUND MARK;KATAKANA SEMI-VOICED SOUND MARK",
     "HANGUL FILLER"]⟩,
   ⟨0xFFA1, "HALFWIDTH HANGUL LETTER ", ["KIYEOK;SSANGKIYEOK;KIYEOK-SIOS;NIEUN;NIEUN-CIEUC",
     "NIEUN-HIEUH;TIKEUT;SSANGTIKEUT;RIEUL;RIEUL-KIYEOK;RIEUL-MIEUM;RIEUL-PIEUP;RIEUL-SIOS",
     "RIEUL-THIEUTH;RIEUL-PHIEUPH;RIEUL-HIEUH;MIEUM;PIEUP;SSANGPIEUP;PIEUP-SIOS;SIOS",
     "SSANGSIOS;IEUNG;CIEUC;SSANGCIEUC;CHIEUCH;KHIEUKH;THIEUTH;PHIEUPH;HIEUH;;;;A;AE;YA",
     "YAE;EO;E;;;YEO;YE;O;WA;WAE;OE;;;YO;U;WEO;WE;WI;YU;;;EU;YI;I"]⟩,
   ⟨0xFFE0, "FULLWIDTH ", ["CENT SIGN;POUND SIGN;NOT SIGN;MACRON;BROKEN BAR;YEN SIGN;WON SIGN"]⟩,
   ⟨0xFFE8, "HALFWIDTH ", ["FORMS LIGHT VERTICAL;LEFTWARDS ARROW;UPWARDS ARROW",
     "RIGHTWARDS ARROW;DOWNWARDS ARROW;BLACK SQUARE;WHITE CIRCLE"]⟩,
   ⟨0xFFF9, "INTERLINEAR ANNOTATION ", ["ANCHOR;SEPARATOR;TERMINATOR"]⟩,
   ⟨0xFFFC, "", ["OBJECT REPLACEMENT CHARACTER;REPLACEMENT CHARACTER"]⟩]

end Stencil.Text.CharacterName
