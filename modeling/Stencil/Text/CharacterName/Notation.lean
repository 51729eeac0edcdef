/-
# Names of characters: notations

The names of the signs of music, of mathematics and of writing in signs.
-/

import Stencil.Text.CharacterName.Run

namespace Stencil.Text.CharacterName

/-- Notations, in runs. -/
def notational : List Run :=
  [⟨0x1D000, "BYZANTINE MUSICAL SYMBOL ", ["PSILI;DASEIA;PERISPOMENI;OXEIA EKFONITIKON",
     "OXEIA DIPLI;VAREIA EKFONITIKON;VAREIA DIPLI;KATHISTI;SYRMATIKI;PARAKLITIKI;YPOKRISIS",
     "YPOKRISIS DIPLI;KREMASTI;APESO EKFONITIKON;EXO EKFONITIKON;TELEIA;KENTIMATA",
     "APOSTROFOS;APOSTROFOS DIPLI;SYNEVMA;THITA;OLIGON ARCHAION;GORGON ARCHAION;PSILON",
     "CHAMILON;VATHY;ISON ARCHAION;KENTIMA ARCHAION;KENTIMATA ARCHAION;SAXIMATA;PARICHON",
     "STAVROS APODEXIA;OXEIAI ARCHAION;VAREIAI ARCHAION;APODERMA ARCHAION;APOTHEMA;KLASMA",
     "REVMA;PIASMA ARCHAION;TINAGMA;ANATRICHISMA;SEISMA;SYNAGMA ARCHAION",
     "SYNAGMA META STAVROU;OYRANISMA ARCHAION;THEMA;LEMOI;DYO;TRIA;TESSERA;KRATIMATA",
     "APESO EXO NEO;FTHORA ARCHAION;IMIFTHORA;TROMIKON ARCHAION;KATAVA TROMIKON;PELASTON",
     "PSIFISTON;KONTEVMA;CHOREVMA ARCHAION;RAPISMA;PARAKALESMA ARCHAION",
     "PARAKLITIKI ARCHAION;ICHADIN;NANA;PETASMA;KONTEVMA ALLO;TROMIKON ALLO;STRAGGISMATA",
     "GRONTHISMATA;ISON NEO;OLIGON NEO;OXEIA NEO;PETASTI;KOUFISMA;PETASTOKOUFISMA",
     "KRATIMOKOUFISMA;PELASTON NEO;KENTIMATA NEO ANO;KENTIMA NEO ANO;YPSILI;APOSTROFOS NEO",
     "APOSTROFOI SYNDESMOS NEO;YPORROI;KRATIMOYPORROON;ELAFRON;CHAMILI;MIKRON ISON",
     "VAREIA NEO;PIASMA NEO;PSIFISTON NEO;OMALON;ANTIKENOMA;LYGISMA;PARAKLITIKI NEO",
     "PARAKALESMA NEO;ETERON PARAKALESMA;KYLISMA;ANTIKENOKYLISMA;TROMIKON NEO;EKSTREPTON",
     "SYNAGMA NEO;SYRMA;CHOREVMA NEO;EPEGERMA;SEISMA NEO;XIRON KLASMA;TROMIKOPSIFISTON",
     "PSIFISTOLYGISMA;TROMIKOLYGISMA;TROMIKOPARAKALESMA;PSIFISTOPARAKALESMA;TROMIKOSYNAGMA",
     "PSIFISTOSYNAGMA;GORGOSYNTHETON;ARGOSYNTHETON;ETERON ARGOSYNTHETON;OYRANISMA NEO",
     "THEMATISMOS ESO;THEMATISMOS EXO;THEMA APLOUN;THES KAI APOTHES;KATAVASMA;ENDOFONON",
     "YFEN KATO;YFEN ANO;STAVROS;KLASMA ANO;DIPLI ARCHAION;KRATIMA ARCHAION;KRATIMA ALLO",
     "KRATIMA NEO;APODERMA NEO;APLI;DIPLI;TRIPLI;TETRAPLI;KORONIS;LEIMMA ENOS CHRONOU",
     "LEIMMA DYO CHRONON;LEIMMA TRION CHRONON;LEIMMA TESSARON CHRONON",
     "LEIMMA IMISEOS CHRONOU;GORGON NEO ANO;GORGON PARESTIGMENON ARISTERA",
     "GORGON PARESTIGMENON DEXIA;DIGORGON;DIGORGON PARESTIGMENON ARISTERA KATO",
     "DIGORGON PARESTIGMENON ARISTERA ANO;DIGORGON PARESTIGMENON DEXIA;TRIGORGON;ARGON",
     "IMIDIARGON;DIARGON;AGOGI POLI ARGI;AGOGI ARGOTERI;AGOGI ARGI;AGOGI METRIA;AGOGI MESI",
     "AGOGI GORGI;AGOGI GORGOTERI;AGOGI POLI GORGI;MARTYRIA PROTOS ICHOS",
     "MARTYRIA ALLI PROTOS ICHOS;MARTYRIA DEYTEROS ICHOS;MARTYRIA ALLI DEYTEROS ICHOS",
     "MARTYRIA TRITOS ICHOS;MARTYRIA TRIFONIAS;MARTYRIA TETARTOS ICHOS",
     "MARTYRIA TETARTOS LEGETOS ICHOS;MARTYRIA LEGETOS ICHOS;MARTYRIA PLAGIOS ICHOS",
     "ISAKIA TELOUS ICHIMATOS;APOSTROFOI TELOUS ICHIMATOS;FANEROSIS TETRAFONIAS",
     "FANEROSIS MONOFONIAS;FANEROSIS DIFONIAS;MARTYRIA VARYS ICHOS",
     "MARTYRIA PROTOVARYS ICHOS;MARTYRIA PLAGIOS TETARTOS ICHOS;GORTHMIKON N APLOUN",
     "GORTHMIKON N DIPLOUN;ENARXIS KAI FTHORA VOU;IMIFONON;IMIFTHORON",
     "FTHORA ARCHAION DEYTEROU ICHOU;FTHORA DIATONIKI PA;FTHORA DIATONIKI NANA",
     "FTHORA NAOS ICHOS;FTHORA DIATONIKI DI;FTHORA SKLIRON DIATONON DI;FTHORA DIATONIKI KE",
     "FTHORA DIATONIKI ZO;FTHORA DIATONIKI NI KATO;FTHORA DIATONIKI NI ANO",
     "FTHORA MALAKON CHROMA DIFONIAS;FTHORA MALAKON CHROMA MONOFONIAS",
     "FHTORA SKLIRON CHROMA VASIS;FTHORA SKLIRON CHROMA SYNAFI;FTHORA NENANO;CHROA ZYGOS",
     "CHROA KLITON;CHROA SPATHI;FTHORA I YFESIS TETARTIMORION;FTHORA ENARMONIOS ANTIFONIA",
     "YFESIS TRITIMORION;DIESIS TRITIMORION;DIESIS TETARTIMORION;DIESIS APLI DYO DODEKATA",
     "DIESIS MONOGRAMMOS TESSERA DODEKATA;DIESIS DIGRAMMOS EX DODEKATA",
     "DIESIS TRIGRAMMOS OKTO DODEKATA;YFESIS APLI DYO DODEKATA",
     "YFESIS MONOGRAMMOS TESSERA DODEKATA;YFESIS DIGRAMMOS EX DODEKATA",
     "YFESIS TRIGRAMMOS OKTO DODEKATA;GENIKI DIESIS;GENIKI YFESIS;DIASTOLI APLI MIKRI",
     "DIASTOLI APLI MEGALI;DIASTOLI DIPLI;DIASTOLI THESEOS;SIMANSIS THESEOS",
     "SIMANSIS THESEOS DISIMOU;SIMANSIS THESEOS TRISIMOU;SIMANSIS THESEOS TETRASIMOU",
     "SIMANSIS ARSEOS;SIMANSIS ARSEOS DISIMOU;SIMANSIS ARSEOS TRISIMOU",
     "SIMANSIS ARSEOS TETRASIMOU;DIGRAMMA GG;DIFTOGGOS OU;STIGMA;ARKTIKO PA;ARKTIKO VOU",
     "ARKTIKO GA;ARKTIKO DI;ARKTIKO KE;ARKTIKO ZO;ARKTIKO NI;KENTIMATA NEO MESO",
     "KENTIMA NEO MESO;KENTIMATA NEO KATO;KENTIMA NEO KATO;KLASMA KATO;GORGON NEO KATO"]⟩,
   ⟨0x1D100, "MUSICAL SYMBOL ", ["SINGLE BARLINE;DOUBLE BARLINE;FINAL BARLINE",
     "REVERSE FINAL BARLINE;DASHED BARLINE;SHORT BARLINE;LEFT REPEAT SIGN",
     "RIGHT REPEAT SIGN;REPEAT DOTS;DAL SEGNO;DA CAPO;SEGNO;CODA;REPEATED FIGURE-1",
     "REPEATED FIGURE-2;REPEATED FIGURE-3;FERMATA;FERMATA BELOW;BREATH MARK;CAESURA;BRACE",
     "BRACKET;ONE-LINE STAFF;TWO-LINE STAFF;THREE-LINE STAFF;FOUR-LINE STAFF",
     "FIVE-LINE STAFF;SIX-LINE STAFF;SIX-STRING FRETBOARD;FOUR-STRING FRETBOARD;G CLEF",
     "G CLEF OTTAVA ALTA;G CLEF OTTAVA BASSA;C CLEF;F CLEF;F CLEF OTTAVA ALTA",
     "F CLEF OTTAVA BASSA;DRUM CLEF-1;DRUM CLEF-2;;;MULTIPLE MEASURE REST;DOUBLE SHARP",
     "DOUBLE FLAT;FLAT UP;FLAT DOWN;NATURAL UP;NATURAL DOWN;SHARP UP;SHARP DOWN",
     "QUARTER TONE SHARP;QUARTER TONE FLAT;COMMON TIME;CUT TIME;OTTAVA ALTA;OTTAVA BASSA",
     "QUINDICESIMA ALTA;QUINDICESIMA BASSA;MULTI REST;WHOLE REST;HALF REST;QUARTER REST",
     "EIGHTH REST;SIXTEENTH REST;THIRTY-SECOND REST;SIXTY-FOURTH REST",
     "ONE HUNDRED TWENTY-EIGHTH REST;X NOTEHEAD;PLUS NOTEHEAD;CIRCLE X NOTEHEAD",
     "SQUARE NOTEHEAD WHITE;SQUARE NOTEHEAD BLACK"]⟩,
   ⟨0x1D148, "MUSICAL SYMBOL TRIANGLE NOTEHEAD ", ["UP WHITE;UP BLACK;LEFT WHITE;LEFT BLACK",
     "RIGHT WHITE;RIGHT BLACK;DOWN WHITE;DOWN BLACK;UP RIGHT WHITE;UP RIGHT BLACK"]⟩,
   ⟨0x1D152, "MUSICAL SYMBOL ", ["MOON NOTEHEAD WHITE;MOON NOTEHEAD BLACK",
     "TRIANGLE-ROUND NOTEHEAD DOWN WHITE;TRIANGLE-ROUND NOTEHEAD DOWN BLACK",
     "PARENTHESIS NOTEHEAD;VOID NOTEHEAD;NOTEHEAD BLACK;NULL NOTEHEAD",
     "CLUSTER NOTEHEAD WHITE;CLUSTER NOTEHEAD BLACK;BREVE;WHOLE NOTE;HALF NOTE",
     "QUARTER NOTE;EIGHTH NOTE;SIXTEENTH NOTE;THIRTY-SECOND NOTE;SIXTY-FOURTH NOTE",
     "ONE HUNDRED TWENTY-EIGHTH NOTE;COMBINING STEM;COMBINING SPRECHGESANG STEM",
     "COMBINING TREMOLO-1;COMBINING TREMOLO-2;COMBINING TREMOLO-3;FINGERED TREMOLO-1",
     "FINGERED TREMOLO-2;FINGERED TREMOLO-3;COMBINING AUGMENTATION DOT;COMBINING FLAG-1",
     "COMBINING FLAG-2;COMBINING FLAG-3;COMBINING FLAG-4;COMBINING FLAG-5;BEGIN BEAM",
     "END BEAM;BEGIN TIE;END TIE;BEGIN SLUR;END SLUR;BEGIN PHRASE;END PHRASE"]⟩,
   ⟨0x1D17B, "MUSICAL SYMBOL COMBINING ", ["ACCENT;STACCATO;TENUTO;STACCATISSIMO;MARCATO",
     "MARCATO-STACCATO;ACCENT-STACCATO;LOURE"]⟩,
   ⟨0x1D183, "MUSICAL SYMBOL ARPEGGIATO ", ["UP;DOWN"]⟩,
   ⟨0x1D185, "MUSICAL SYMBOL COMBINING ", ["DOIT;RIP;FLIP;SMEAR;BEND;DOUBLE TONGUE",
     "TRIPLE TONGUE"]⟩,
   ⟨0x1D18C, "MUSICAL SYMBOL ", ["RINFORZANDO;SUBITO;Z;PIANO;MEZZO;FORTE;CRESCENDO",
     "DECRESCENDO;GRACE NOTE SLASH;GRACE NOTE NO SLASH;TR;TURN;INVERTED TURN;TURN SLASH",
     "TURN UP"]⟩,
   ⟨0x1D19B, "MUSICAL SYMBOL ORNAMENT STROKE-", ["1;2;3;4;5;6;7;8;9;10;11"]⟩,
   ⟨0x1D1A6, "MUSICAL SYMBOL ", ["HAUPTSTIMME;NEBENSTIMME;END OF STIMME;DEGREE SLASH",
     "COMBINING DOWN BOW;COMBINING UP BOW;COMBINING HARMONIC;COMBINING SNAP PIZZICATO",
     "PEDAL MARK;PEDAL UP MARK;HALF PEDAL MARK;GLISSANDO UP;GLISSANDO DOWN",
     "WITH FINGERNAILS;DAMP;DAMP ALL;MAXIMA;LONGA;BREVIS;SEMIBREVIS WHITE;SEMIBREVIS BLACK",
     "MINIMA;MINIMA BLACK;SEMIMINIMA WHITE;SEMIMINIMA BLACK;FUSA WHITE;FUSA BLACK",
     "LONGA PERFECTA REST;LONGA IMPERFECTA REST;BREVIS REST;SEMIBREVIS REST;MINIMA REST",
     "SEMIMINIMA REST"]⟩,
   ⟨0x1D1C7, "MUSICAL SYMBOL TEMPUS PERFECTUM CUM PROLATIONE ", ["PERFECTA;IMPERFECTA",
     "PERFECTA DIMINUTION-1"]⟩,
   ⟨0x1D1CA, "MUSICAL SYMBOL TEMPUS IMPERFECTUM CUM PROLATIONE ", ["PERFECTA;IMPERFECTA",
     "IMPERFECTA DIMINUTION-1;IMPERFECTA DIMINUTION-2;IMPERFECTA DIMINUTION-3"]⟩,
   ⟨0x1D1CF, "MUSICAL SYMBOL ", ["CROIX;GREGORIAN C CLEF;GREGORIAN F CLEF;SQUARE B;VIRGA",
     "PODATUS;CLIVIS;SCANDICUS;CLIMACUS;TORCULUS;PORRECTUS;PORRECTUS FLEXUS",
     "SCANDICUS FLEXUS;TORCULUS RESUPINUS;PES SUBPUNCTIS"]⟩,
   ⟨0x1D1DE, "MUSICAL SYMBOL KIEVAN ", ["C CLEF;END OF PIECE;FINAL NOTE;RECITATIVE MARK",
     "WHOLE NOTE;HALF NOTE;QUARTER NOTE STEM DOWN;QUARTER NOTE STEM UP",
     "EIGHTH NOTE STEM DOWN;EIGHTH NOTE STEM UP;FLAT SIGN"]⟩,
   ⟨0x1D1E9, "MUSICAL SYMBOL ", ["SORI;KORON"]⟩,
   ⟨0x1D200, "GREEK VOCAL NOTATION SYMBOL-", ["1;2;3;4;5;6;7;8;9;10;11;12;13;14;15;16;17;18",
     "19;20;21;22;23;24;50;51;52;53;54"]⟩,
   ⟨0x1D21D, "GREEK INSTRUMENTAL NOTATION SYMBOL-", ["1;2;4;5;7;8;11;12;13;14;17;18;19;23;24",
     "25;26;27;29;30;32;36;37;38;39;40;42;43;45;47;48;49;50;51;52;53;54"]⟩,
   ⟨0x1D242, "COMBINING GREEK MUSICAL ", ["TRISEME;TETRASEME;PENTASEME"]⟩,
   ⟨0x1D245, "GREEK MUSICAL ", ["LEIMMA"]⟩,
   ⟨0x1D2E0, "MAYAN NUMERAL ", ["ZERO;ONE;TWO;THREE;FOUR;FIVE;SIX;SEVEN;EIGHT;NINE;TEN;ELEVEN",
     "TWELVE;THIRTEEN;FOURTEEN;FIFTEEN;SIXTEEN;SEVENTEEN;EIGHTEEN;NINETEEN"]⟩,
   ⟨0x1D300, "MONOGRAM FOR ", ["EARTH"]⟩,
   ⟨0x1D301, "DIGRAM FOR ", ["HEAVENLY EARTH;HUMAN EARTH;EARTHLY HEAVEN;EARTHLY HUMAN;EARTH"]⟩,
   ⟨0x1D306, "TETRAGRAM FOR ", ["CENTRE;FULL CIRCLE;MIRED;BARRIER;KEEPING SMALL;CONTRARIETY",
     "ASCENT;OPPOSITION;BRANCHING OUT;DEFECTIVENESS OR DISTORTION;DIVERGENCE;YOUTHFULNESS",
     "INCREASE;PENETRATION;REACH;CONTACT;HOLDING BACK;WAITING;FOLLOWING;ADVANCE;RELEASE",
     "RESISTANCE;EASE;JOY;CONTENTION;ENDEAVOUR;DUTIES;CHANGE;DECISIVENESS;BOLD RESOLUTION",
     "PACKING;LEGION;CLOSENESS;KINSHIP;GATHERING;STRENGTH;PURITY;FULLNESS;RESIDENCE",
     "LAW OR MODEL;RESPONSE;GOING TO MEET;ENCOUNTERS;STOVE;GREATNESS;ENLARGEMENT;PATTERN",
     "RITUAL;FLIGHT;VASTNESS OR WASTING;CONSTANCY;MEASURE;ETERNITY;UNITY;DIMINISHMENT",
     "CLOSED MOUTH;GUARDEDNESS;GATHERING IN;MASSING;ACCUMULATION;EMBELLISHMENT;DOUBT;WATCH",
     "SINKING;INNER;DEPARTURE;DARKENING;DIMMING;EXHAUSTION;SEVERANCE;STOPPAGE;HARDNESS",
     "COMPLETION;CLOSURE;FAILURE;AGGRAVATION;COMPLIANCE;ON THE VERGE;DIFFICULTIES",
     "LABOURING;FOSTERING"]⟩,
   ⟨0x1D360, "COUNTING ROD UNIT DIGIT ", ["ONE;TWO;THREE;FOUR;FIVE;SIX;SEVEN;EIGHT;NINE"]⟩,
   ⟨0x1D369, "COUNTING ROD TENS DIGIT ", ["ONE;TWO;THREE;FOUR;FIVE;SIX;SEVEN;EIGHT;NINE"]⟩,
   ⟨0x1D372, "IDEOGRAPHIC TALLY MARK ", ["ONE;TWO;THREE;FOUR;FIVE"]⟩,
   ⟨0x1D377, "TALLY MARK ", ["ONE;FIVE"]⟩,
   ⟨0x1D400, "MATHEMATICAL BOLD CAPITAL ", ["A;B;C;D;E;F;G;H;I;J;K;L;M;N;O;P;Q;R;S;T;U;V;W;X",
     "Y;Z"]⟩,
   ⟨0x1D41A, "MATHEMATICAL BOLD SMALL ", ["A;B;C;D;E;F;G;H;I;J;K;L;M;N;O;P;Q;R;S;T;U;V;W;X;Y",
     "Z"]⟩,
   ⟨0x1D434, "MATHEMATICAL ITALIC CAPITAL ", ["A;B;C;D;E;F;G;H;I;J;K;L;M;N;O;P;Q;R;S;T;U;V;W",
     "X;Y;Z"]⟩,
   ⟨0x1D44E, "MATHEMATICAL ITALIC SMALL ", ["A;B;C;D;E;F;G;;I;J;K;L;M;N;O;P;Q;R;S;T;U;V;W;X;Y",
     "Z"]⟩,
   ⟨0x1D468, "MATHEMATICAL BOLD ITALIC CAPITAL ", ["A;B;C;D;E;F;G;H;I;J;K;L;M;N;O;P;Q;R;S;T;U",
     "V;W;X;Y;Z"]⟩,
   ⟨0x1D482, "MATHEMATICAL BOLD ITALIC SMALL ", ["A;B;C;D;E;F;G;H;I;J;K;L;M;N;O;P;Q;R;S;T;U;V",
     "W;X;Y;Z"]⟩,
   ⟨0x1D49C, "MATHEMATICAL SCRIPT CAPITAL ", ["A;;C;D;;;G;;;J;K;;;N;O;P;Q;;S;T;U;V;W;X;Y;Z"]⟩,
   ⟨0x1D4B6, "MATHEMATICAL SCRIPT SMALL ", ["A;B;C;D;;F;;H;I;J;K;L;M;N;;P;Q;R;S;T;U;V;W;X;Y;Z"]⟩,
   ⟨0x1D4D0, "MATHEMATICAL BOLD SCRIPT CAPITAL ", ["A;B;C;D;E;F;G;H;I;J;K;L;M;N;O;P;Q;R;S;T;U",
     "V;W;X;Y;Z"]⟩,
   ⟨0x1D4EA, "MATHEMATICAL BOLD SCRIPT SMALL ", ["A;B;C;D;E;F;G;H;I;J;K;L;M;N;O;P;Q;R;S;T;U;V",
     "W;X;Y;Z"]⟩,
   ⟨0x1D504, "MATHEMATICAL FRAKTUR CAPITAL ", ["A;B;;D;E;F;G;;;J;K;L;M;N;O;P;Q;;S;T;U;V;W;X;Y"]⟩,
   ⟨0x1D51E, "MATHEMATICAL FRAKTUR SMALL ", ["A;B;C;D;E;F;G;H;I;J;K;L;M;N;O;P;Q;R;S;T;U;V;W;X",
     "Y;Z"]⟩,
   ⟨0x1D538, "MATHEMATICAL DOUBLE-STRUCK CAPITAL ", ["A;B;;D;E;F;G;;I;J;K;L;M;;O;;;;S;T;U;V;W",
     "X;Y"]⟩,
   ⟨0x1D552, "MATHEMATICAL DOUBLE-STRUCK SMALL ", ["A;B;C;D;E;F;G;H;I;J;K;L;M;N;O;P;Q;R;S;T;U",
     "V;W;X;Y;Z"]⟩,
   ⟨0x1D56C, "MATHEMATICAL BOLD FRAKTUR CAPITAL ", ["A;B;C;D;E;F;G;H;I;J;K;L;M;N;O;P;Q;R;S;T",
     "U;V;W;X;Y;Z"]⟩,
   ⟨0x1D586, "MATHEMATICAL BOLD FRAKTUR SMALL ", ["A;B;C;D;E;F;G;H;I;J;K;L;M;N;O;P;Q;R;S;T;U",
     "V;W;X;Y;Z"]⟩,
   ⟨0x1D5A0, "MATHEMATICAL SANS-SERIF CAPITAL ", ["A;B;C;D;E;F;G;H;I;J;K;L;M;N;O;P;Q;R;S;T;U",
     "V;W;X;Y;Z"]⟩,
   ⟨0x1D5BA, "MATHEMATICAL SANS-SERIF SMALL ", ["A;B;C;D;E;F;G;H;I;J;K;L;M;N;O;P;Q;R;S;T;U;V",
     "W;X;Y;Z"]⟩,
   ⟨0x1D5D4, "MATHEMATICAL SANS-SERIF BOLD CAPITAL ", ["A;B;C;D;E;F;G;H;I;J;K;L;M;N;O;P;Q;R;S",
     "T;U;V;W;X;Y;Z"]⟩,
   ⟨0x1D5EE, "MATHEMATICAL SANS-SERIF BOLD SMALL ", ["A;B;C;D;E;F;G;H;I;J;K;L;M;N;O;P;Q;R;S;T",
     "U;V;W;X;Y;Z"]⟩,
   ⟨0x1D608, "MATHEMATICAL SANS-SERIF ITALIC CAPITAL ", ["A;B;C;D;E;F;G;H;I;J;K;L;M;N;O;P;Q;R",
     "S;T;U;V;W;X;Y;Z"]⟩,
   ⟨0x1D622, "MATHEMATICAL SANS-SERIF ITALIC SMALL ", ["A;B;C;D;E;F;G;H;I;J;K;L;M;N;O;P;Q;R;S",
     "T;U;V;W;X;Y;Z"]⟩,
   ⟨0x1D63C, "MATHEMATICAL SANS-SERIF BOLD ITALIC CAPITAL ", ["A;B;C;D;E;F;G;H;I;J;K;L;M;N;O",
     "P;Q;R;S;T;U;V;W;X;Y;Z"]⟩,
   ⟨0x1D656, "MATHEMATICAL SANS-SERIF BOLD ITALIC SMALL ", ["A;B;C;D;E;F;G;H;I;J;K;L;M;N;O;P",
     "Q;R;S;T;U;V;W;X;Y;Z"]⟩,
   ⟨0x1D670, "MATHEMATICAL MONOSPACE CAPITAL ", ["A;B;C;D;E;F;G;H;I;J;K;L;M;N;O;P;Q;R;S;T;U;V",
     "W;X;Y;Z"]⟩,
   ⟨0x1D68A, "MATHEMATICAL MONOSPACE SMALL ", ["A;B;C;D;E;F;G;H;I;J;K;L;M;N;O;P;Q;R;S;T;U;V;W",
     "X;Y;Z"]⟩,
   ⟨0x1D6A4, "MATHEMATICAL ITALIC SMALL DOTLESS ", ["I;J"]⟩,
   ⟨0x1D6A8, "MATHEMATICAL BOLD CAPITAL ", ["ALPHA;BETA;GAMMA;DELTA;EPSILON;ZETA;ETA;THETA",
     "IOTA;KAPPA;LAMDA;MU;NU;XI;OMICRON;PI;RHO;THETA SYMBOL;SIGMA;TAU;UPSILON;PHI;CHI;PSI",
     "OMEGA"]⟩,
   ⟨0x1D6C1, "MATHEMATICAL BOLD ", ["NABLA"]⟩,
   ⟨0x1D6C2, "MATHEMATICAL BOLD SMALL ", ["ALPHA;BETA;GAMMA;DELTA;EPSILON;ZETA;ETA;THETA;IOTA",
     "KAPPA;LAMDA;MU;NU;XI;OMICRON;PI;RHO;FINAL SIGMA;SIGMA;TAU;UPSILON;PHI;CHI;PSI;OMEGA"]⟩,
   ⟨0x1D6DB, "MATHEMATICAL BOLD ", ["PARTIAL DIFFERENTIAL;EPSILON SYMBOL;THETA SYMBOL",
     "KAPPA SYMBOL;PHI SYMBOL;RHO SYMBOL;PI SYMBOL"]⟩,
   ⟨0x1D6E2, "MATHEMATICAL ITALIC CAPITAL ", ["ALPHA;BETA;GAMMA;DELTA;EPSILON;ZETA;ETA;THETA",
     "IOTA;KAPPA;LAMDA;MU;NU;XI;OMICRON;PI;RHO;THETA SYMBOL;SIGMA;TAU;UPSILON;PHI;CHI;PSI",
     "OMEGA"]⟩,
   ⟨0x1D6FB, "MATHEMATICAL ITALIC ", ["NABLA"]⟩,
   ⟨0x1D6FC, "MATHEMATICAL ITALIC SMALL ", ["ALPHA;BETA;GAMMA;DELTA;EPSILON;ZETA;ETA;THETA",
     "IOTA;KAPPA;LAMDA;MU;NU;XI;OMICRON;PI;RHO;FINAL SIGMA;SIGMA;TAU;UPSILON;PHI;CHI;PSI",
     "OMEGA"]⟩,
   ⟨0x1D715, "MATHEMATICAL ITALIC ", ["PARTIAL DIFFERENTIAL;EPSILON SYMBOL;THETA SYMBOL",
     "KAPPA SYMBOL;PHI SYMBOL;RHO SYMBOL;PI SYMBOL"]⟩,
   ⟨0x1D71C, "MATHEMATICAL BOLD ITALIC CAPITAL ", ["ALPHA;BETA;GAMMA;DELTA;EPSILON;ZETA;ETA",
     "THETA;IOTA;KAPPA;LAMDA;MU;NU;XI;OMICRON;PI;RHO;THETA SYMBOL;SIGMA;TAU;UPSILON;PHI",
     "CHI;PSI;OMEGA"]⟩,
   ⟨0x1D735, "MATHEMATICAL BOLD ITALIC ", ["NABLA"]⟩,
   ⟨0x1D736, "MATHEMATICAL BOLD ITALIC SMALL ", ["ALPHA;BETA;GAMMA;DELTA;EPSILON;ZETA;ETA",
     "THETA;IOTA;KAPPA;LAMDA;MU;NU;XI;OMICRON;PI;RHO;FINAL SIGMA;SIGMA;TAU;UPSILON;PHI;CHI",
     "PSI;OMEGA"]⟩,
   ⟨0x1D74F, "MATHEMATICAL BOLD ITALIC ", ["PARTIAL DIFFERENTIAL;EPSILON SYMBOL;THETA SYMBOL",
     "KAPPA SYMBOL;PHI SYMBOL;RHO SYMBOL;PI SYMBOL"]⟩,
   ⟨0x1D756, "MATHEMATICAL SANS-SERIF BOLD CAPITAL ", ["ALPHA;BETA;GAMMA;DELTA;EPSILON;ZETA",
     "ETA;THETA;IOTA;KAPPA;LAMDA;MU;NU;XI;OMICRON;PI;RHO;THETA SYMBOL;SIGMA;TAU;UPSILON",
     "PHI;CHI;PSI;OMEGA"]⟩,
   ⟨0x1D76F, "MATHEMATICAL SANS-SERIF BOLD ", ["NABLA"]⟩,
   ⟨0x1D770, "MATHEMATICAL SANS-SERIF BOLD SMALL ", ["ALPHA;BETA;GAMMA;DELTA;EPSILON;ZETA;ETA",
     "THETA;IOTA;KAPPA;LAMDA;MU;NU;XI;OMICRON;PI;RHO;FINAL SIGMA;SIGMA;TAU;UPSILON;PHI;CHI",
     "PSI;OMEGA"]⟩,
   ⟨0x1D789, "MATHEMATICAL SANS-SERIF BOLD ", ["PARTIAL DIFFERENTIAL;EPSILON SYMBOL",
     "THETA SYMBOL;KAPPA SYMBOL;PHI SYMBOL;RHO SYMBOL;PI SYMBOL"]⟩,
   ⟨0x1D790, "MATHEMATICAL SANS-SERIF BOLD ITALIC CAPITAL ", ["ALPHA;BETA;GAMMA;DELTA;EPSILON",
     "ZETA;ETA;THETA;IOTA;KAPPA;LAMDA;MU;NU;XI;OMICRON;PI;RHO;THETA SYMBOL;SIGMA;TAU",
     "UPSILON;PHI;CHI;PSI;OMEGA"]⟩,
   ⟨0x1D7A9, "MATHEMATICAL SANS-SERIF BOLD ITALIC ", ["NABLA"]⟩,
   ⟨0x1D7AA, "MATHEMATICAL SANS-SERIF BOLD ITALIC SMALL ", ["ALPHA;BETA;GAMMA;DELTA;EPSILON",
     "ZETA;ETA;THETA;IOTA;KAPPA;LAMDA;MU;NU;XI;OMICRON;PI;RHO;FINAL SIGMA;SIGMA;TAU",
     "UPSILON;PHI;CHI;PSI;OMEGA"]⟩,
   ⟨0x1D7C3, "MATHEMATICAL SANS-SERIF BOLD ITALIC ", ["PARTIAL DIFFERENTIAL;EPSILON SYMBOL",
     "THETA SYMBOL;KAPPA SYMBOL;PHI SYMBOL;RHO SYMBOL;PI SYMBOL"]⟩,
   ⟨0x1D7CA, "MATHEMATICAL BOLD ", ["CAPITAL DIGAMMA;SMALL DIGAMMA"]⟩,
   ⟨0x1D7CE, "MATHEMATICAL BOLD DIGIT ", ["ZERO;ONE;TWO;THREE;FOUR;FIVE;SIX;SEVEN;EIGHT;NINE"]⟩,
   ⟨0x1D7D8, "MATHEMATICAL DOUBLE-STRUCK DIGIT ", ["ZERO;ONE;TWO;THREE;FOUR;FIVE;SIX;SEVEN",
     "EIGHT;NINE"]⟩,
   ⟨0x1D7E2, "MATHEMATICAL SANS-SERIF DIGIT ", ["ZERO;ONE;TWO;THREE;FOUR;FIVE;SIX;SEVEN;EIGHT",
     "NINE"]⟩,
   ⟨0x1D7EC, "MATHEMATICAL SANS-SERIF BOLD DIGIT ", ["ZERO;ONE;TWO;THREE;FOUR;FIVE;SIX;SEVEN",
     "EIGHT;NINE"]⟩,
   ⟨0x1D7F6, "MATHEMATICAL MONOSPACE DIGIT ", ["ZERO;ONE;TWO;THREE;FOUR;FIVE;SIX;SEVEN;EIGHT",
     "NINE"]⟩,
   ⟨0x1D800, "SIGNWRITING HAND-", ["FIST INDEX;CIRCLE INDEX;CUP INDEX;OVAL INDEX;HINGE INDEX",
     "ANGLE INDEX;FIST INDEX BENT;CIRCLE INDEX BENT;FIST THUMB UNDER INDEX BENT",
     "FIST INDEX RAISED KNUCKLE;FIST INDEX CUPPED;FIST INDEX HINGED;FIST INDEX HINGED LOW",
     "CIRCLE INDEX HINGE;FIST INDEX MIDDLE;CIRCLE INDEX MIDDLE"]⟩,
   ⟨0x1D810, "SIGNWRITING HAND-FIST INDEX ", ["MIDDLE BENT;MIDDLE RAISED KNUCKLES",
     "MIDDLE HINGED;UP MIDDLE HINGED;HINGED MIDDLE UP;MIDDLE CONJOINED",
     "MIDDLE CONJOINED INDEX BENT;MIDDLE CONJOINED MIDDLE BENT;MIDDLE CONJOINED CUPPED",
     "MIDDLE CONJOINED HINGED;MIDDLE CROSSED"]⟩,
   ⟨0x1D81B, "SIGNWRITING HAND-", ["CIRCLE INDEX MIDDLE CROSSED;FIST MIDDLE BENT OVER INDEX",
     "FIST INDEX BENT OVER MIDDLE;FIST INDEX MIDDLE THUMB;CIRCLE INDEX MIDDLE THUMB"]⟩,
   ⟨0x1D820, "SIGNWRITING HAND-FIST INDEX ", ["MIDDLE STRAIGHT THUMB BENT",
     "MIDDLE BENT THUMB STRAIGHT;MIDDLE THUMB BENT;MIDDLE HINGED SPREAD THUMB SIDE",
     "UP MIDDLE HINGED THUMB SIDE;UP MIDDLE HINGED THUMB CONJOINED",
     "HINGED MIDDLE UP THUMB SIDE;MIDDLE UP SPREAD THUMB FORWARD;MIDDLE THUMB CUPPED",
     "MIDDLE THUMB CIRCLED;MIDDLE THUMB HOOKED;MIDDLE THUMB HINGED"]⟩,
   ⟨0x1D82C, "SIGNWRITING HAND-FIST ", ["THUMB BETWEEN INDEX MIDDLE STRAIGHT",
     "INDEX MIDDLE CONJOINED THUMB SIDE;INDEX MIDDLE CONJOINED THUMB SIDE CONJOINED",
     "INDEX MIDDLE CONJOINED THUMB SIDE BENT;MIDDLE THUMB HOOKED INDEX UP",
     "INDEX THUMB HOOKED MIDDLE UP;INDEX MIDDLE CONJOINED HINGED THUMB SIDE",
     "INDEX MIDDLE CROSSED THUMB SIDE;INDEX MIDDLE CONJOINED THUMB FORWARD",
     "INDEX MIDDLE CONJOINED CUPPED THUMB FORWARD;MIDDLE THUMB CUPPED INDEX UP",
     "INDEX THUMB CUPPED MIDDLE UP;MIDDLE THUMB CIRCLED INDEX UP",
     "MIDDLE THUMB CIRCLED INDEX HINGED;INDEX THUMB ANGLED OUT MIDDLE UP",
     "INDEX THUMB ANGLED IN MIDDLE UP;INDEX THUMB CIRCLED MIDDLE UP",
     "INDEX MIDDLE THUMB CONJOINED HINGED;INDEX MIDDLE THUMB ANGLED OUT",
     "INDEX MIDDLE THUMB ANGLED;MIDDLE THUMB ANGLED OUT INDEX UP",
     "MIDDLE THUMB ANGLED OUT INDEX CROSSED;MIDDLE THUMB ANGLED INDEX UP",
     "INDEX THUMB HOOKED MIDDLE HINGED"]⟩,
   ⟨0x1D844, "SIGNWRITING HAND-FLAT FOUR ", ["FINGERS;FINGERS BENT;FINGERS HINGED",
     "FINGERS CONJOINED;FINGERS CONJOINED SPLIT"]⟩,
   ⟨0x1D849, "SIGNWRITING HAND-", ["CLAW FOUR FINGERS CONJOINED",
     "FIST FOUR FINGERS CONJOINED BENT;HINGE FOUR FINGERS CONJOINED",
     "FLAT FIVE FINGERS SPREAD;FLAT HEEL FIVE FINGERS SPREAD",
     "FLAT FIVE FINGERS SPREAD FOUR BENT;FLAT HEEL FIVE FINGERS SPREAD FOUR BENT",
     "FLAT FIVE FINGERS SPREAD BENT;FLAT HEEL FIVE FINGERS SPREAD BENT",
     "FLAT FIVE FINGERS SPREAD THUMB FORWARD;CUP FIVE FINGERS SPREAD",
     "CUP FIVE FINGERS SPREAD OPEN;HINGE FIVE FINGERS SPREAD OPEN;OVAL FIVE FINGERS SPREAD",
     "FLAT FIVE FINGERS SPREAD HINGED;FLAT FIVE FINGERS SPREAD HINGED THUMB SIDE",
     "FLAT FIVE FINGERS SPREAD HINGED NO THUMB;FLAT;FLAT BETWEEN PALM FACINGS;FLAT HEEL",
     "FLAT THUMB SIDE;FLAT HEEL THUMB SIDE;FLAT THUMB BENT;FLAT THUMB FORWARD",
     "FLAT SPLIT INDEX THUMB SIDE;FLAT SPLIT CENTRE;FLAT SPLIT CENTRE THUMB SIDE",
     "FLAT SPLIT CENTRE THUMB SIDE BENT;FLAT SPLIT LITTLE;CLAW;CLAW THUMB SIDE",
     "CLAW NO THUMB;CLAW THUMB FORWARD;HOOK CURLICUE;HOOK;CUP OPEN;CUP;CUP OPEN THUMB SIDE",
     "CUP THUMB SIDE;CUP OPEN NO THUMB;CUP NO THUMB;CUP OPEN THUMB FORWARD",
     "CUP THUMB FORWARD;CURLICUE OPEN;CURLICUE;CIRCLE;OVAL;OVAL THUMB SIDE;OVAL NO THUMB",
     "OVAL THUMB FORWARD;HINGE OPEN;HINGE OPEN THUMB FORWARD;HINGE;HINGE SMALL",
     "HINGE OPEN THUMB SIDE;HINGE THUMB SIDE;HINGE OPEN NO THUMB;HINGE NO THUMB",
     "HINGE THUMB SIDE TOUCHING INDEX;HINGE THUMB BETWEEN MIDDLE RING;ANGLE",
     "FIST INDEX MIDDLE RING;CIRCLE INDEX MIDDLE RING;HINGE INDEX MIDDLE RING",
     "ANGLE INDEX MIDDLE RING;HINGE LITTLE;FIST INDEX MIDDLE RING BENT",
     "FIST INDEX MIDDLE RING CONJOINED;HINGE INDEX MIDDLE RING CONJOINED;FIST LITTLE DOWN",
     "FIST LITTLE DOWN RIPPLE STRAIGHT;FIST LITTLE DOWN RIPPLE CURVED",
     "FIST LITTLE DOWN OTHERS CIRCLED;FIST LITTLE UP;FIST THUMB UNDER LITTLE UP",
     "CIRCLE LITTLE UP;OVAL LITTLE UP;ANGLE LITTLE UP;FIST LITTLE RAISED KNUCKLE",
     "FIST LITTLE BENT;FIST LITTLE TOUCHES THUMB;FIST LITTLE THUMB;HINGE LITTLE THUMB",
     "FIST LITTLE INDEX THUMB;HINGE LITTLE INDEX THUMB",
     "ANGLE LITTLE INDEX THUMB INDEX THUMB OUT;ANGLE LITTLE INDEX THUMB INDEX THUMB",
     "FIST LITTLE INDEX;CIRCLE LITTLE INDEX;HINGE LITTLE INDEX;ANGLE LITTLE INDEX",
     "FIST INDEX MIDDLE LITTLE;CIRCLE INDEX MIDDLE LITTLE;HINGE INDEX MIDDLE LITTLE",
     "HINGE RING;ANGLE INDEX MIDDLE LITTLE;FIST INDEX MIDDLE CROSS LITTLE",
     "CIRCLE INDEX MIDDLE CROSS LITTLE;FIST RING DOWN",
     "HINGE RING DOWN INDEX THUMB HOOK MIDDLE;ANGLE RING DOWN MIDDLE THUMB INDEX CROSS",
     "FIST RING UP;FIST RING RAISED KNUCKLE;FIST RING LITTLE;CIRCLE RING LITTLE",
     "OVAL RING LITTLE;ANGLE RING LITTLE;FIST RING MIDDLE;FIST RING MIDDLE CONJOINED",
     "FIST RING MIDDLE RAISED KNUCKLES;FIST RING INDEX;FIST RING THUMB;HOOK RING THUMB",
     "FIST INDEX RING LITTLE;CIRCLE INDEX RING LITTLE;CURLICUE INDEX RING LITTLE ON",
     "HOOK INDEX RING LITTLE OUT;HOOK INDEX RING LITTLE IN;HOOK INDEX RING LITTLE UNDER",
     "CUP INDEX RING LITTLE;HINGE INDEX RING LITTLE;ANGLE INDEX RING LITTLE OUT",
     "ANGLE INDEX RING LITTLE;FIST MIDDLE DOWN;HINGE MIDDLE;FIST MIDDLE UP",
     "CIRCLE MIDDLE UP;FIST MIDDLE RAISED KNUCKLE;FIST MIDDLE UP THUMB SIDE",
     "HOOK MIDDLE THUMB;FIST MIDDLE THUMB LITTLE;FIST MIDDLE LITTLE",
     "FIST MIDDLE RING LITTLE;CIRCLE MIDDLE RING LITTLE;CURLICUE MIDDLE RING LITTLE ON",
     "CUP MIDDLE RING LITTLE;HINGE MIDDLE RING LITTLE;ANGLE MIDDLE RING LITTLE OUT",
     "ANGLE MIDDLE RING LITTLE IN;ANGLE MIDDLE RING LITTLE;CIRCLE MIDDLE RING LITTLE BENT",
     "CLAW MIDDLE RING LITTLE CONJOINED;CLAW MIDDLE RING LITTLE CONJOINED SIDE",
     "HOOK MIDDLE RING LITTLE CONJOINED OUT;HOOK MIDDLE RING LITTLE CONJOINED IN",
     "HOOK MIDDLE RING LITTLE CONJOINED;HINGE INDEX HINGED;FIST INDEX THUMB SIDE",
     "HINGE INDEX THUMB SIDE"]⟩,
   ⟨0x1D8DE, "SIGNWRITING HAND-FIST INDEX THUMB ", ["SIDE THUMB DIAGONAL;SIDE THUMB CONJOINED",
     "SIDE THUMB BENT;SIDE INDEX BENT;SIDE BOTH BENT;SIDE INDEX HINGE",
     "FORWARD INDEX STRAIGHT;FORWARD INDEX BENT;HOOK;CURLICUE;CURVE THUMB INSIDE"]⟩,
   ⟨0x1D8E9, "SIGNWRITING HAND-", ["CLAW INDEX THUMB CURVE THUMB INSIDE",
     "FIST INDEX THUMB CURVE THUMB UNDER;FIST INDEX THUMB CIRCLE;CUP INDEX THUMB",
     "CUP INDEX THUMB OPEN;HINGE INDEX THUMB OPEN;HINGE INDEX THUMB LARGE",
     "HINGE INDEX THUMB;HINGE INDEX THUMB SMALL;ANGLE INDEX THUMB OUT;ANGLE INDEX THUMB IN",
     "ANGLE INDEX THUMB;FIST THUMB"]⟩,
   ⟨0x1D8F6, "SIGNWRITING HAND-FIST THUMB ", ["HEEL;SIDE DIAGONAL;SIDE CONJOINED;SIDE BENT",
     "FORWARD;BETWEEN INDEX MIDDLE;BETWEEN MIDDLE RING;BETWEEN RING LITTLE",
     "UNDER TWO FINGERS;OVER TWO FINGERS;UNDER THREE FINGERS;UNDER FOUR FINGERS",
     "OVER FOUR RAISED KNUCKLES"]⟩,
   ⟨0x1D903, "SIGNWRITING ", ["HAND-FIST;HAND-FIST HEEL;TOUCH SINGLE;TOUCH MULTIPLE",
     "TOUCH BETWEEN;GRASP SINGLE;GRASP MULTIPLE;GRASP BETWEEN;STRIKE SINGLE",
     "STRIKE MULTIPLE;STRIKE BETWEEN;BRUSH SINGLE;BRUSH MULTIPLE;BRUSH BETWEEN;RUB SINGLE",
     "RUB MULTIPLE;RUB BETWEEN;SURFACE SYMBOLS;SURFACE BETWEEN;SQUEEZE LARGE SINGLE",
     "SQUEEZE SMALL SINGLE;SQUEEZE LARGE MULTIPLE;SQUEEZE SMALL MULTIPLE",
     "SQUEEZE SEQUENTIAL;FLICK LARGE SINGLE;FLICK SMALL SINGLE;FLICK LARGE MULTIPLE",
     "FLICK SMALL MULTIPLE;FLICK SEQUENTIAL;SQUEEZE FLICK ALTERNATING"]⟩,
   ⟨0x1D921, "SIGNWRITING MOVEMENT-", ["HINGE UP DOWN LARGE;HINGE UP DOWN SMALL",
     "HINGE UP SEQUENTIAL;HINGE DOWN SEQUENTIAL;HINGE UP DOWN ALTERNATING LARGE",
     "HINGE UP DOWN ALTERNATING SMALL;HINGE SIDE TO SIDE SCISSORS;WALLPLANE FINGER CONTACT",
     "FLOORPLANE FINGER CONTACT"]⟩,
   ⟨0x1D92A, "SIGNWRITING MOVEMENT-WALLPLANE SINGLE STRAIGHT ", ["SMALL;MEDIUM;LARGE;LARGEST"]⟩,
   ⟨0x1D92E, "SIGNWRITING MOVEMENT-WALLPLANE ", ["SINGLE WRIST FLEX;DOUBLE STRAIGHT",
     "DOUBLE WRIST FLEX;DOUBLE ALTERNATING;DOUBLE ALTERNATING WRIST FLEX;CROSS",
     "TRIPLE STRAIGHT MOVEMENT;TRIPLE WRIST FLEX;TRIPLE ALTERNATING",
     "TRIPLE ALTERNATING WRIST FLEX;BEND SMALL;BEND MEDIUM;BEND LARGE;CORNER SMALL",
     "CORNER MEDIUM;CORNER LARGE;CORNER ROTATION;CHECK SMALL;CHECK MEDIUM;CHECK LARGE",
     "BOX SMALL;BOX MEDIUM;BOX LARGE;ZIGZAG SMALL;ZIGZAG MEDIUM;ZIGZAG LARGE;PEAKS SMALL",
     "PEAKS MEDIUM;PEAKS LARGE"]⟩,
   ⟨0x1D94B, "SIGNWRITING TRAVEL-WALLPLANE ", ["ROTATION-WALLPLANE SINGLE",
     "ROTATION-WALLPLANE DOUBLE;ROTATION-WALLPLANE ALTERNATING;ROTATION-FLOORPLANE SINGLE",
     "ROTATION-FLOORPLANE DOUBLE;ROTATION-FLOORPLANE ALTERNATING;SHAKING;ARM SPIRAL SINGLE",
     "ARM SPIRAL DOUBLE;ARM SPIRAL TRIPLE"]⟩,
   ⟨0x1D955, "SIGNWRITING MOVEMENT-DIAGONAL ", ["AWAY SMALL;AWAY MEDIUM;AWAY LARGE",
     "AWAY LARGEST;TOWARDS SMALL;TOWARDS MEDIUM;TOWARDS LARGE;TOWARDS LARGEST"]⟩,
   ⟨0x1D95D, "SIGNWRITING MOVEMENT-DIAGONAL BETWEEN ", ["AWAY SMALL;AWAY MEDIUM;AWAY LARGE",
     "AWAY LARGEST;TOWARDS SMALL;TOWARDS MEDIUM;TOWARDS LARGE;TOWARDS LARGEST"]⟩,
   ⟨0x1D965, "SIGNWRITING MOVEMENT-FLOORPLANE ", ["SINGLE STRAIGHT SMALL",
     "SINGLE STRAIGHT MEDIUM;SINGLE STRAIGHT LARGE;SINGLE STRAIGHT LARGEST",
     "SINGLE WRIST FLEX;DOUBLE STRAIGHT;DOUBLE WRIST FLEX;DOUBLE ALTERNATING",
     "DOUBLE ALTERNATING WRIST FLEX;CROSS;TRIPLE STRAIGHT MOVEMENT;TRIPLE WRIST FLEX",
     "TRIPLE ALTERNATING MOVEMENT;TRIPLE ALTERNATING WRIST FLEX;BEND;CORNER SMALL",
     "CORNER MEDIUM;CORNER LARGE;CHECK;BOX SMALL;BOX MEDIUM;BOX LARGE;ZIGZAG SMALL",
     "ZIGZAG MEDIUM;ZIGZAG LARGE;PEAKS SMALL;PEAKS MEDIUM;PEAKS LARGE"]⟩,
   ⟨0x1D981, "SIGNWRITING TRAVEL-FLOORPLANE ", ["ROTATION-FLOORPLANE SINGLE",
     "ROTATION-FLOORPLANE DOUBLE;ROTATION-FLOORPLANE ALTERNATING;ROTATION-WALLPLANE SINGLE",
     "ROTATION-WALLPLANE DOUBLE;ROTATION-WALLPLANE ALTERNATING;SHAKING"]⟩,
   ⟨0x1D988, "SIGNWRITING MOVEMENT-WALLPLANE CURVE ", ["QUARTER SMALL;QUARTER MEDIUM",
     "QUARTER LARGE;QUARTER LARGEST;HALF-CIRCLE SMALL;HALF-CIRCLE MEDIUM;HALF-CIRCLE LARGE",
     "HALF-CIRCLE LARGEST;THREE-QUARTER CIRCLE SMALL;THREE-QUARTER CIRCLE MEDIUM"]⟩,
   ⟨0x1D992, "SIGNWRITING MOVEMENT-WALLPLANE ", ["HUMP SMALL;HUMP MEDIUM;HUMP LARGE",
     "LOOP SMALL;LOOP MEDIUM;LOOP LARGE;LOOP SMALL DOUBLE;WAVE CURVE DOUBLE SMALL",
     "WAVE CURVE DOUBLE MEDIUM;WAVE CURVE DOUBLE LARGE;WAVE CURVE TRIPLE SMALL",
     "WAVE CURVE TRIPLE MEDIUM;WAVE CURVE TRIPLE LARGE;CURVE THEN STRAIGHT",
     "CURVED CROSS SMALL;CURVED CROSS MEDIUM"]⟩,
   ⟨0x1D9A2, "SIGNWRITING ROTATION-WALLPLANE ", ["SINGLE;DOUBLE;ALTERNATE"]⟩,
   ⟨0x1D9A5, "SIGNWRITING MOVEMENT-WALLPLANE ", ["SHAKING;CURVE HITTING FRONT WALL",
     "HUMP HITTING FRONT WALL;LOOP HITTING FRONT WALL;WAVE HITTING FRONT WALL"]⟩,
   ⟨0x1D9AA, "SIGNWRITING ROTATION-WALLPLANE ", ["SINGLE HITTING FRONT WALL",
     "DOUBLE HITTING FRONT WALL;ALTERNATING HITTING FRONT WALL"]⟩,
   ⟨0x1D9AD, "SIGNWRITING MOVEMENT-WALLPLANE ", ["CURVE HITTING CHEST;HUMP HITTING CHEST",
     "LOOP HITTING CHEST;WAVE HITTING CHEST"]⟩,
   ⟨0x1D9B1, "SIGNWRITING ROTATION-WALLPLANE ", ["SINGLE HITTING CHEST;DOUBLE HITTING CHEST",
     "ALTERNATING HITTING CHEST"]⟩,
   ⟨0x1D9B4, "SIGNWRITING MOVEMENT-WALLPLANE WAVE DIAGONAL PATH ", ["SMALL;MEDIUM;LARGE"]⟩,
   ⟨0x1D9B7, "SIGNWRITING MOVEMENT-FLOORPLANE CURVE HITTING CEILING ", ["SMALL;LARGE"]⟩,
   ⟨0x1D9B9, "SIGNWRITING MOVEMENT-FLOORPLANE HUMP HITTING CEILING ", ["SMALL DOUBLE",
     "LARGE DOUBLE;SMALL TRIPLE;LARGE TRIPLE"]⟩,
   ⟨0x1D9BD, "SIGNWRITING MOVEMENT-FLOORPLANE LOOP HITTING CEILING ", ["SMALL SINGLE",
     "LARGE SINGLE;SMALL DOUBLE;LARGE DOUBLE"]⟩,
   ⟨0x1D9C1, "SIGNWRITING MOVEMENT-FLOORPLANE WAVE HITTING CEILING ", ["SMALL;LARGE"]⟩,
   ⟨0x1D9C3, "SIGNWRITING ROTATION-FLOORPLANE ", ["SINGLE HITTING CEILING",
     "DOUBLE HITTING CEILING;ALTERNATING HITTING CEILING"]⟩,
   ⟨0x1D9C6, "SIGNWRITING MOVEMENT-FLOORPLANE CURVE HITTING FLOOR ", ["SMALL;LARGE"]⟩,
   ⟨0x1D9C8, "SIGNWRITING MOVEMENT-FLOORPLANE HUMP HITTING FLOOR ", ["SMALL DOUBLE",
     "LARGE DOUBLE;TRIPLE SMALL TRIPLE;TRIPLE LARGE TRIPLE"]⟩,
   ⟨0x1D9CC, "SIGNWRITING MOVEMENT-FLOORPLANE LOOP HITTING FLOOR ", ["SMALL SINGLE",
     "LARGE SINGLE;SMALL DOUBLE;LARGE DOUBLE"]⟩,
   ⟨0x1D9D0, "SIGNWRITING MOVEMENT-FLOORPLANE WAVE HITTING FLOOR ", ["SMALL;LARGE"]⟩,
   ⟨0x1D9D2, "SIGNWRITING ROTATION-FLOORPLANE ", ["SINGLE HITTING FLOOR;DOUBLE HITTING FLOOR",
     "ALTERNATING HITTING FLOOR"]⟩,
   ⟨0x1D9D5, "SIGNWRITING MOVEMENT-FLOORPLANE ", ["CURVE SMALL;CURVE MEDIUM;CURVE LARGE",
     "CURVE LARGEST;CURVE COMBINED;HUMP SMALL;LOOP SMALL;WAVE SNAKE;WAVE SMALL;WAVE LARGE"]⟩,
   ⟨0x1D9DF, "SIGNWRITING ROTATION-FLOORPLANE ", ["SINGLE;DOUBLE;ALTERNATING"]⟩,
   ⟨0x1D9E2, "SIGNWRITING MOVEMENT-FLOORPLANE SHAKING ", ["PARALLEL"]⟩,
   ⟨0x1D9E3, "SIGNWRITING MOVEMENT-WALLPLANE ARM CIRCLE ", ["SMALL SINGLE;MEDIUM SINGLE",
     "SMALL DOUBLE;MEDIUM DOUBLE"]⟩,
   ⟨0x1D9E7, "SIGNWRITING MOVEMENT-FLOORPLANE ARM CIRCLE HITTING WALL ", ["SMALL SINGLE",
     "MEDIUM SINGLE;LARGE SINGLE;SMALL DOUBLE;MEDIUM DOUBLE;LARGE DOUBLE"]⟩,
   ⟨0x1D9ED, "SIGNWRITING MOVEMENT-WALLPLANE WRIST CIRCLE FRONT ", ["SINGLE;DOUBLE"]⟩,
   ⟨0x1D9EF, "SIGNWRITING MOVEMENT-FLOORPLANE WRIST CIRCLE HITTING WALL ", ["SINGLE;DOUBLE"]⟩,
   ⟨0x1D9F1, "SIGNWRITING MOVEMENT-WALLPLANE FINGER CIRCLES ", ["SINGLE;DOUBLE"]⟩,
   ⟨0x1D9F3, "SIGNWRITING MOVEMENT-FLOORPLANE FINGER CIRCLES HITTING WALL ", ["SINGLE;DOUBLE"]⟩,
   ⟨0x1D9F5, "SIGNWRITING DYNAMIC ", ["ARROWHEAD SMALL;ARROWHEAD LARGE;FAST;SLOW;TENSE",
     "RELAXED;SIMULTANEOUS;SIMULTANEOUS ALTERNATING;EVERY OTHER TIME;GRADUAL"]⟩,
   ⟨0x1D9FF, "SIGNWRITING ", ["HEAD"]⟩,
   ⟨0x1DA00, "SIGNWRITING HEAD ", ["RIM;MOVEMENT-WALLPLANE STRAIGHT;MOVEMENT-WALLPLANE TILT",
     "MOVEMENT-FLOORPLANE STRAIGHT;MOVEMENT-WALLPLANE CURVE;MOVEMENT-FLOORPLANE CURVE",
     "MOVEMENT CIRCLE"]⟩,
   ⟨0x1DA07, "SIGNWRITING FACE DIRECTION POSITION NOSE ", ["FORWARD TILTING;UP OR DOWN",
     "UP OR DOWN TILTING"]⟩,
   ⟨0x1DA0A, "SIGNWRITING EYEBROWS STRAIGHT ", ["UP;NEUTRAL;DOWN"]⟩,
   ⟨0x1DA0D, "SIGNWRITING DREAMY EYEBROWS ", ["NEUTRAL DOWN;DOWN NEUTRAL;UP NEUTRAL",
     "NEUTRAL UP"]⟩,
   ⟨0x1DA11, "SIGNWRITING ", ["FOREHEAD NEUTRAL;FOREHEAD CONTACT;FOREHEAD WRINKLED;EYES OPEN",
     "EYES SQUEEZED;EYES CLOSED;EYE BLINK SINGLE;EYE BLINK MULTIPLE;EYES HALF OPEN",
     "EYES WIDE OPEN;EYES HALF CLOSED;EYES WIDENING MOVEMENT;EYE WINK;EYELASHES UP",
     "EYELASHES DOWN;EYELASHES FLUTTERING"]⟩,
   ⟨0x1DA21, "SIGNWRITING EYEGAZE-", ["WALLPLANE STRAIGHT;WALLPLANE STRAIGHT DOUBLE",
     "WALLPLANE STRAIGHT ALTERNATING;FLOORPLANE STRAIGHT;FLOORPLANE STRAIGHT DOUBLE",
     "FLOORPLANE STRAIGHT ALTERNATING;WALLPLANE CURVED;FLOORPLANE CURVED",
     "WALLPLANE CIRCLING"]⟩,
   ⟨0x1DA2A, "SIGNWRITING ", ["CHEEKS PUFFED;CHEEKS NEUTRAL;CHEEKS SUCKED;TENSE CHEEKS HIGH",
     "TENSE CHEEKS MIDDLE;TENSE CHEEKS LOW;EARS;NOSE NEUTRAL;NOSE CONTACT;NOSE WRINKLES",
     "NOSE WIGGLES;AIR BLOWING OUT;AIR SUCKING IN;AIR BLOW SMALL ROTATIONS",
     "AIR SUCK SMALL ROTATIONS;BREATH INHALE;BREATH EXHALE"]⟩,
   ⟨0x1DA3B, "SIGNWRITING MOUTH ", ["CLOSED NEUTRAL;CLOSED FORWARD;CLOSED CONTACT;SMILE",
     "SMILE WRINKLED;SMILE OPEN;FROWN;FROWN WRINKLED;FROWN OPEN;OPEN CIRCLE;OPEN FORWARD",
     "OPEN WRINKLED;OPEN OVAL;OPEN OVAL WRINKLED;OPEN OVAL YAWN;OPEN RECTANGLE",
     "OPEN RECTANGLE WRINKLED;OPEN RECTANGLE YAWN;KISS;KISS FORWARD;KISS WRINKLED;TENSE",
     "TENSE FORWARD;TENSE SUCKED"]⟩,
   ⟨0x1DA53, "SIGNWRITING ", ["LIPS PRESSED TOGETHER;LIP LOWER OVER UPPER",
     "LIP UPPER OVER LOWER;MOUTH CORNERS;MOUTH WRINKLES SINGLE;MOUTH WRINKLES DOUBLE",
     "TONGUE STICKING OUT FAR;TONGUE LICKING LIPS;TONGUE TIP BETWEEN LIPS",
     "TONGUE TIP TOUCHING INSIDE MOUTH;TONGUE INSIDE MOUTH RELAXED",
     "TONGUE MOVES AGAINST CHEEK;TONGUE CENTRE STICKING OUT;TONGUE CENTRE INSIDE MOUTH",
     "TEETH;TEETH MOVEMENT;TEETH ON TONGUE;TEETH ON TONGUE MOVEMENT;TEETH ON LIPS",
     "TEETH ON LIPS MOVEMENT;TEETH BITE LIPS;MOVEMENT-WALLPLANE JAW",
     "MOVEMENT-FLOORPLANE JAW;NECK;HAIR;EXCITEMENT;SHOULDER HIP SPINE",
     "SHOULDER HIP POSITIONS;WALLPLANE SHOULDER HIP MOVE;FLOORPLANE SHOULDER HIP MOVE",
     "SHOULDER TILTING FROM WAIST;TORSO-WALLPLANE STRAIGHT STRETCH",
     "TORSO-WALLPLANE CURVED BEND;TORSO-FLOORPLANE TWISTING",
     "UPPER BODY TILTING FROM HIP JOINTS;LIMB COMBINATION"]⟩,
   ⟨0x1DA77, "SIGNWRITING LIMB LENGTH-", ["1;2;3;4;5;6;7"]⟩,
   ⟨0x1DA7E, "SIGNWRITING ", ["FINGER;LOCATION-WALLPLANE SPACE;LOCATION-FLOORPLANE SPACE",
     "LOCATION HEIGHT;LOCATION WIDTH;LOCATION DEPTH;LOCATION HEAD NECK;LOCATION TORSO",
     "LOCATION LIMBS DIGITS;COMMA;FULL STOP;SEMICOLON;COLON;PARENTHESIS"]⟩,
   ⟨0x1DA9B, "SIGNWRITING FILL MODIFIER-", ["2;3;4;5;6"]⟩,
   ⟨0x1DAA1, "SIGNWRITING ROTATION MODIFIER-", ["2;3;4;5;6;7;8;9;10;11;12;13;14;15;16"]⟩,
   ⟨0x1DF00, "LATIN ", ["SMALL LETTER FENG DIGRAPH WITH TRILL;SMALL LETTER REVERSED SCRIPT G",
     "LETTER SMALL CAPITAL TURNED G;SMALL LETTER REVERSED K",
     "LETTER SMALL CAPITAL L WITH BELT"]⟩,
   ⟨0x1DF05, "LATIN SMALL LETTER ", ["LEZH WITH RETROFLEX HOOK;TURNED Y WITH BELT",
     "REVERSED ENG;TURNED R WITH LONG LEG AND RETROFLEX HOOK",
     "T WITH HOOK AND RETROFLEX HOOK"]⟩,
   ⟨0x1DF0A, "LATIN ", ["LETTER RETROFLEX CLICK WITH RETROFLEX HOOK",
     "SMALL LETTER ESH WITH DOUBLE BAR;SMALL LETTER ESH WITH DOUBLE BAR AND CURL",
     "SMALL LETTER TURNED T WITH CURL;LETTER INVERTED GLOTTAL STOP WITH CURL",
     "LETTER STRETCHED C WITH CURL;LETTER SMALL CAPITAL TURNED K"]⟩,
   ⟨0x1DF11, "LATIN SMALL LETTER ", ["L WITH FISHHOOK;DEZH DIGRAPH WITH PALATAL HOOK",
     "L WITH BELT AND PALATAL HOOK;ENG WITH PALATAL HOOK;TURNED R WITH PALATAL HOOK",
     "R WITH FISHHOOK AND PALATAL HOOK;TESH DIGRAPH WITH PALATAL HOOK",
     "EZH WITH PALATAL HOOK;DEZH DIGRAPH WITH RETROFLEX HOOK",
     "I WITH STROKE AND RETROFLEX HOOK;O WITH RETROFLEX HOOK",
     "TESH DIGRAPH WITH RETROFLEX HOOK;C WITH RETROFLEX HOOK;S WITH CURL"]⟩]

end Stencil.Text.CharacterName
