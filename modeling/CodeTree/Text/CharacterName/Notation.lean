/-! Names of characters: notations of music and mathematics. -/
namespace CodeTree.Text

/-- Characters from U+1B000 to U+1DF1E. -/
def notationNames : String :=
"1B000:0KATAKANA LETTER ARCHAIC E;0HIRAGANA LETTER ARCHAIC YE;0HENTAIGANA LETTER A-1;2A-2;2A-3
1B005:0HENTAIGANA LETTER A-WO;2I-1;2I-2;2I-3;2I-4;2U-1;2U-2;2U-3;2U-4;2U-5;2E-2;2E-3;2E-4;2E-5
1B013:0HENTAIGANA LETTER E-6;2O-1;2O-2;2O-3;2KA-1;2KA-2;2KA-3;2KA-4;2KA-5;2KA-6;2KA-7;2KA-8;2KA-9
1B020:0HENTAIGANA LETTER KA-10;2KA-11;2KA-KE;2KI-1;2KI-2;2KI-3;2KI-4;2KI-5;2KI-6;2KI-7;2KI-8;2KU-1
1B02C:0HENTAIGANA LETTER KU-2;2KU-3;2KU-4;2KU-5;2KU-6;2KU-7;2KE-1;2KE-2;2KE-3;2KE-4;2KE-5;2KE-6
1B038:0HENTAIGANA LETTER KO-1;2KO-2;2KO-3;2KO-KI;2SA-1;2SA-2;2SA-3;2SA-4;2SA-5;2SA-6;2SA-7;2SA-8
1B044:0HENTAIGANA LETTER SI-1;2SI-2;2SI-3;2SI-4;2SI-5;2SI-6;2SU-1;2SU-2;2SU-3;2SU-4;2SU-5;2SU-6
1B050:0HENTAIGANA LETTER SU-7;2SU-8;2SE-1;2SE-2;2SE-3;2SE-4;2SE-5;2SO-1;2SO-2;2SO-3;2SO-4;2SO-5
1B05C:0HENTAIGANA LETTER SO-6;2SO-7;2TA-1;2TA-2;2TA-3;2TA-4;2TI-1;2TI-2;2TI-3;2TI-4;2TI-5;2TI-6
1B068:0HENTAIGANA LETTER TI-7;2TU-1;2TU-2;2TU-3;2TU-4;2TU-TO;2TE-1;2TE-2;2TE-3;2TE-4;2TE-5;2TE-6
1B074:0HENTAIGANA LETTER TE-7;2TE-8;2TE-9;2TO-1;2TO-2;2TO-3;2TO-4;2TO-5;2TO-6;2TO-RA;2NA-1;2NA-2
1B080:0HENTAIGANA LETTER NA-3;2NA-4;2NA-5;2NA-6;2NA-7;2NA-8;2NA-9;2NI-1;2NI-2;2NI-3;2NI-4;2NI-5
1B08C:0HENTAIGANA LETTER NI-6;2NI-7;2NI-TE;2NU-1;2NU-2;2NU-3;2NE-1;2NE-2;2NE-3;2NE-4;2NE-5;2NE-6
1B098:0HENTAIGANA LETTER NE-KO;2NO-1;2NO-2;2NO-3;2NO-4;2NO-5;2HA-1;2HA-2;2HA-3;2HA-4;2HA-5;2HA-6
1B0A4:0HENTAIGANA LETTER HA-7;2HA-8;2HA-9;2HA-10;2HA-11;2HI-1;2HI-2;2HI-3;2HI-4;2HI-5;2HI-6;2HI-7
1B0B0:0HENTAIGANA LETTER HU-1;2HU-2;2HU-3;2HE-1;2HE-2;2HE-3;2HE-4;2HE-5;2HE-6;2HE-7;2HO-1;2HO-2
1B0BC:0HENTAIGANA LETTER HO-3;2HO-4;2HO-5;2HO-6;2HO-7;2HO-8;2MA-1;2MA-2;2MA-3;2MA-4;2MA-5;2MA-6
1B0C8:0HENTAIGANA LETTER MA-7;2MI-1;2MI-2;2MI-3;2MI-4;2MI-5;2MI-6;2MI-7;2MU-1;2MU-2;2MU-3;2MU-4
1B0D4:0HENTAIGANA LETTER ME-1;2ME-2;2ME-MA;2MO-1;2MO-2;2MO-3;2MO-4;2MO-5;2MO-6;2YA-1;2YA-2;2YA-3
1B0E0:0HENTAIGANA LETTER YA-4;2YA-5;2YA-YO;2YU-1;2YU-2;2YU-3;2YU-4;2YO-1;2YO-2;2YO-3;2YO-4;2YO-5
1B0EC:0HENTAIGANA LETTER YO-6;2RA-1;2RA-2;2RA-3;2RA-4;2RI-1;2RI-2;2RI-3;2RI-4;2RI-5;2RI-6;2RI-7
1B0F8:0HENTAIGANA LETTER RU-1;2RU-2;2RU-3;2RU-4;2RU-5;2RU-6;2RE-1;2RE-2;2RE-3;2RE-4;2RO-1;2RO-2
1B104:0HENTAIGANA LETTER RO-3;2RO-4;2RO-5;2RO-6;2WA-1;2WA-2;2WA-3;2WA-4;2WA-5;2WI-1;2WI-2;2WI-3
1B110:0HENTAIGANA LETTER WI-4;2WI-5;2WE-1;2WE-2;2WE-3;2WE-4;2WO-1;2WO-2;2WO-3;2WO-4;2WO-5;2WO-6
1B11C:0HENTAIGANA LETTER WO-7;2N-MU-MO-1;2N-MU-MO-2;0HIRAGANA LETTER ARCHAIC WU
1B120:0KATAKANA LETTER ARCHAIC YI;3YE;3WU
1B150:0HIRAGANA LETTER SMALL WI;3WE;3WO
1B164:0KATAKANA LETTER SMALL WI;3WE;3WO;3N
1BC00:0DUPLOYAN LETTER H;2X;2P;2T;2F;2K;2L;2B;2D;2V;2G;2R;2P N;2D S;2F N;2K M;2R S;2TH;2SLOAN DH
1BC13:0DUPLOYAN LETTER DH;2KK;2SLOAN J;2HL;2LH;2RH;2M;2N;2J;2S;2M N;2N M;2J M;2S J;2M WITH DOT
1BC22:0DUPLOYAN LETTER N WITH DOT;2J WITH DOT;4DOTS INSIDE AND ABOVE;2S WITH DOT;5BELOW;2M S;2N S
1BC29:0DUPLOYAN LETTER J S;2S S;2M N S;2N M S;2J M S;2S J S;2J S WITH DOT;3N;4S;2S T;4R;3P;4R;2T S
1BC37:0DUPLOYAN LETTER T R S;2W;2WH;2W R;2S N;3M;2K R S;2G R S;2S K;4R;2A;2SLOAN OW;2OA;2O;2AOU;2I
1BC47:0DUPLOYAN LETTER E;2IE;2SHORT I;2UI;2EE;2SLOAN EH;2ROMANIAN I;2SLOAN EE;2LONG I;2YE;2U;2EU
1BC53:0DUPLOYAN LETTER XW;2U N;2LONG U;2ROMANIAN U;2UH;2SLOAN U;2OOH;2OW;2OU;2WA;2WO;2WI;2WEI;2WOW
1BC61:0DUPLOYAN LETTER NASAL U;3O;3I;3A;2PERNIN AN;3AM;2SLOAN EN;3AN;3ON;2VOCALIC M
1BC70:0DUPLOYAN AFFIX LEFT HORIZONTAL SECANT;2MID HORIZONTAL SECANT;2RIGHT HORIZONTAL SECANT
1BC73:0DUPLOYAN AFFIX LOW VERTICAL SECANT;2MID VERTICAL SECANT;2HIGH VERTICAL SECANT
1BC76:0DUPLOYAN AFFIX ATTACHED SECANT;3LEFT-TO-RIGHT SECANT;3TANGENT;3TAIL;3E HOOK;3I HOOK
1BC7C:0DUPLOYAN AFFIX ATTACHED TANGENT HOOK
1BC80:0DUPLOYAN AFFIX HIGH ACUTE;3TIGHT ACUTE;3GRAVE;3LONG GRAVE;3DOT;3CIRCLE;3LINE;3WAVE
1BC88:0DUPLOYAN AFFIX HIGH VERTICAL
1BC90:0DUPLOYAN AFFIX LOW ACUTE;3TIGHT ACUTE;3GRAVE;3LONG GRAVE;3DOT;3CIRCLE;3LINE;3WAVE;3VERTICAL
1BC99:0DUPLOYAN AFFIX LOW ARROW
1BC9C:0DUPLOYAN SIGN O WITH CROSS;1THICK LETTER SELECTOR;1DOUBLE MARK
1BC9F:0DUPLOYAN PUNCTUATION CHINOOK FULL STOP;0SHORTHAND FORMAT LETTER OVERLAP;2CONTINUING OVERLAP
1BCA2:0SHORTHAND FORMAT DOWN STEP;2UP STEP
1CF00:0ZNAMENNY COMBINING MARK GORAZDO NIZKO S KRYZHEM ON LEFT;3NIZKO S KRYZHEM ON LEFT
1CF02:0ZNAMENNY COMBINING MARK TSATA ON LEFT;3GORAZDO NIZKO ON LEFT;3NIZKO ON LEFT;3SREDNE ON LEFT
1CF06:0ZNAMENNY COMBINING MARK MALO POVYSHE ON LEFT;3POVYSHE ON LEFT;3VYSOKO ON LEFT
1CF09:0ZNAMENNY COMBINING MARK MALO POVYSHE S KHOKHLOM ON LEFT;3POVYSHE S KHOKHLOM ON LEFT
1CF0B:0ZNAMENNY COMBINING MARK VYSOKO S KHOKHLOM ON LEFT;3GORAZDO NIZKO S KRYZHEM ON RIGHT
1CF0D:0ZNAMENNY COMBINING MARK NIZKO S KRYZHEM ON RIGHT;3TSATA ON RIGHT;3GORAZDO NIZKO ON RIGHT
1CF10:0ZNAMENNY COMBINING MARK NIZKO ON RIGHT;3SREDNE ON RIGHT;3MALO POVYSHE ON RIGHT
1CF13:0ZNAMENNY COMBINING MARK POVYSHE ON RIGHT;3VYSOKO ON RIGHT;3MALO POVYSHE S KHOKHLOM ON RIGHT
1CF16:0ZNAMENNY COMBINING MARK POVYSHE S KHOKHLOM ON RIGHT;3VYSOKO S KHOKHLOM ON RIGHT
1CF18:0ZNAMENNY COMBINING MARK TSATA S KRYZHEM;3MALO POVYSHE S KRYZHEM;3STRANNO MALO POVYSHE
1CF1B:0ZNAMENNY COMBINING MARK POVYSHE S KRYZHEM;4STRANNO;3VYSOKO S KRYZHEM;3MALO POVYSHE STRANNO
1CF1F:0ZNAMENNY COMBINING MARK GORAZDO VYSOKO;3ZELO;3ON;3RAVNO;3TIKHAYA;3BORZAYA;3UDARKA
1CF26:0ZNAMENNY COMBINING MARK PODVERTKA;3LOMKA;3KUPNAYA;3KACHKA;3ZEVOK;3SKOBA;3RAZSEKA
1CF2D:0ZNAMENNY COMBINING MARK KRYZH ON LEFT
1CF30:0ZNAMENNY COMBINING TONAL RANGE MARK MRACHNO;5SVETLO;5TRESVETLO;2MARK ZADERZHKA
1CF34:0ZNAMENNY COMBINING MARK DEMESTVENNY ZADERZHKA;3OTSECHKA;3PODCHASHIE;4WITH VERTICAL STROKE
1CF38:0ZNAMENNY COMBINING MARK CHASHKA;4POLNAYA;3OBLACHKO;3SOROCHYA NOZHKA;3TOCHKA;3DVOETOCHIE
1CF3E:0ZNAMENNY COMBINING ATTACHING VERTICAL OMET;2MARK CURVED OMET;3KRYZH
1CF41:0ZNAMENNY COMBINING LOWER TONAL RANGE INDICATOR;1PRIZNAK MODIFIER LEVEL-2;3LEVEL-3
1CF44:0ZNAMENNY PRIZNAK MODIFIER DIRECTION FLIP;3KRYZH;3ROG
1CF50:0ZNAMENNY NEUME KRYUK;3TIKHY;2PARAKLIT;2DVA V CHELNU;2KLYUCH;2ZANOZHEK;2STOPITSA;3S OCHKOM
1CF58:0ZNAMENNY NEUME PEREVODKA;3NEPOSTOYANNAYA;2STOPITSA WITH SOROCHYA NOZHKA;2CHELYUSTKA;2PALKA
1CF5D:0ZNAMENNY NEUME ZAPYATAYA;2GOLUBCHIK BORZY;3TIKHY;3MRACHNY;3SVETLY;3TRESVETLY
1CF63:0ZNAMENNY NEUME VRAKHIYA PROSTAYA;3MRACHNAYA;3SVETLAYA;3TRESVETLAYA;3KLYUCHEVAYA PROSTAYA
1CF68:0ZNAMENNY NEUME VRAKHIYA KLYUCHEVAYA MRACHNAYA;4SVETLAYA;4TRESVETLAYA;2DOUBLE ZAPYATAYA
1CF6C:0ZNAMENNY NEUME REVERSED CHELYUSTKA;2DERBITSA;2KHAMILO;2CHASHKA;2PODCHASHIE
1CF71:0ZNAMENNY NEUME SKAMEYTSA MRACHNAYA;3SVETLAYA;3TRESVETLAYA;3TIKHAYA;2DEMESTVENNY KLYUCH
1CF76:0ZNAMENNY NEUME SKAMEYTSA KLYUCHEVAYA SVETLAYA;3KLYUCHENEPOSTOYANNAYA;3KLYUCHEVAYA TIKHAYA
1CF79:0ZNAMENNY NEUME SKAMEYTSA DVOECHELNAYA PROSTAYA;4SVETLAYA;4NEPOSTOYANNAYA;4KLYUCHEVAYA
1CF7D:0ZNAMENNY NEUME SLOZHITIE;3S ZAPYATOY;3ZAKRYTOE;3S KRYZHEM;2KRYZH;2ROG;2FITA;2KOBYLA
1CF85:0ZNAMENNY NEUME ZMEYTSA;2STATYA;3S ZAPYATOY;4KRYZHEM;4ZAPYATOY I KRYZHEM;4KRYZHEM I ZAPYATOY
1CF8B:0ZNAMENNY NEUME STATYA ZAKRYTAYA;4S ZAPYATOY;3S ROGOM;4DVUMYA ZAPYATYMI
1CF8F:0ZNAMENNY NEUME STATYA S ZAPYATOY I PODCHASHIEM;2POLKULIZMY;2STATYA NEPOSTOYANNAYA
1CF92:0ZNAMENNY NEUME STRELA PROSTAYA;3MRACHNOTIKHAYA;3KRYZHEVAYA;3POLUPOVODNAYA;3POVODNAYA
1CF97:0ZNAMENNY NEUME STRELA NEPOSTOYANNAYA;3KLYUCHEPOVODNAYA;3KLYUCHENEPOSTOYANNAYA
1CF9A:0ZNAMENNY NEUME STRELA TIKHAYA PUTNAYA;3DVOECHELNAYA;3DVOECHELNOKRYZHEVAYA
1CF9D:0ZNAMENNY NEUME STRELA DVOECHELNOPOVODNAYA;3DVOECHELNAYA KLYUCHEVAYA
1CF9F:0ZNAMENNY NEUME STRELA DVOECHELNOPOVODNAYA KLYUCHEVAYA;3GROMNAYA WITH SINGLE ZAPYATAYA
1CFA1:0ZNAMENNY NEUME STRELA GROMOPOVODNAYA WITH SINGLE ZAPYATAYA;3GROMNAYA;3GROMOPOVODNAYA
1CFA4:0ZNAMENNY NEUME STRELA GROMOPOVODNAYA WITH DOUBLE ZAPYATAYA;3GROMOKRYZHEVAYA;4POVODNAYA
1CFA7:0ZNAMENNY NEUME MECHIK;3POVODNY;3KLYUCHEVOY;3KLYUCHEPOVODNY;3KLYUCHENEPOSTOYANNY
1CFAC:0ZNAMENNY NEUME STRELA TRYASOGLASNAYA;3TRYASOPOVODNAYA;3TRYASOSTRELNAYA;2OSOKA;3SVETLAYA
1CFB1:0ZNAMENNY NEUME OSOKA TRESVETLAYA;3KRYUKOVAYA SVETLAYA;3KLYUCHEVAYA SVETLAYA;4NEPOSTOYANNAYA
1CFB5:0ZNAMENNY NEUME STRELA KRYUKOVAYA;4POVODNAYA;4GROMNAYA WITH SINGLE ZAPYATAYA
1CFB8:0ZNAMENNY NEUME STRELA KRYUKOVAYA GROMOPOVODNAYA WITH SINGLE ZAPYATAYA;4GROMNAYA
1CFBA:0ZNAMENNY NEUME STRELA KRYUKOVAYA GROMOPOVODNAYA;5WITH DOUBLE ZAPYATAYA;4GROMOKRYZHEVAYA
1CFBD:0ZNAMENNY NEUME STRELA KRYUKOVAYA GROMOKRYZHEVAYA POVODNAYA;4TRYASKA;2KUFISMA;2OBLAKO;2DUDA
1CFC2:0ZNAMENNY NEUME NEMKA;2PAUK
1D000:0BYZANTINE MUSICAL SYMBOL PSILI;3DASEIA;3PERISPOMENI;3OXEIA EKFONITIKON;4DIPLI
1D005:0BYZANTINE MUSICAL SYMBOL VAREIA EKFONITIKON;4DIPLI;3KATHISTI;3SYRMATIKI;3PARAKLITIKI
1D00A:0BYZANTINE MUSICAL SYMBOL YPOKRISIS;4DIPLI;3KREMASTI;3APESO EKFONITIKON;3EXO EKFONITIKON
1D00F:0BYZANTINE MUSICAL SYMBOL TELEIA;3KENTIMATA;3APOSTROFOS;4DIPLI;3SYNEVMA;3THITA
1D015:0BYZANTINE MUSICAL SYMBOL OLIGON ARCHAION;3GORGON ARCHAION;3PSILON;3CHAMILON;3VATHY
1D01A:0BYZANTINE MUSICAL SYMBOL ISON ARCHAION;3KENTIMA ARCHAION;3KENTIMATA ARCHAION;3SAXIMATA
1D01E:0BYZANTINE MUSICAL SYMBOL PARICHON;3STAVROS APODEXIA;3OXEIAI ARCHAION;3VAREIAI ARCHAION
1D022:0BYZANTINE MUSICAL SYMBOL APODERMA ARCHAION;3APOTHEMA;3KLASMA;3REVMA;3PIASMA ARCHAION
1D027:0BYZANTINE MUSICAL SYMBOL TINAGMA;3ANATRICHISMA;3SEISMA;3SYNAGMA ARCHAION;4META STAVROU
1D02C:0BYZANTINE MUSICAL SYMBOL OYRANISMA ARCHAION;3THEMA;3LEMOI;3DYO;3TRIA;3TESSERA;3KRATIMATA
1D033:0BYZANTINE MUSICAL SYMBOL APESO EXO NEO;3FTHORA ARCHAION;3IMIFTHORA;3TROMIKON ARCHAION
1D037:0BYZANTINE MUSICAL SYMBOL KATAVA TROMIKON;3PELASTON;3PSIFISTON;3KONTEVMA;3CHOREVMA ARCHAION
1D03C:0BYZANTINE MUSICAL SYMBOL RAPISMA;3PARAKALESMA ARCHAION;3PARAKLITIKI ARCHAION;3ICHADIN;3NANA
1D041:0BYZANTINE MUSICAL SYMBOL PETASMA;3KONTEVMA ALLO;3TROMIKON ALLO;3STRAGGISMATA;3GRONTHISMATA
1D046:0BYZANTINE MUSICAL SYMBOL ISON NEO;3OLIGON NEO;3OXEIA NEO;3PETASTI;3KOUFISMA
1D04B:0BYZANTINE MUSICAL SYMBOL PETASTOKOUFISMA;3KRATIMOKOUFISMA;3PELASTON NEO;3KENTIMATA NEO ANO
1D04F:0BYZANTINE MUSICAL SYMBOL KENTIMA NEO ANO;3YPSILI;3APOSTROFOS NEO;3APOSTROFOI SYNDESMOS NEO
1D053:0BYZANTINE MUSICAL SYMBOL YPORROI;3KRATIMOYPORROON;3ELAFRON;3CHAMILI;3MIKRON ISON
1D058:0BYZANTINE MUSICAL SYMBOL VAREIA NEO;3PIASMA NEO;3PSIFISTON NEO;3OMALON;3ANTIKENOMA;3LYGISMA
1D05E:0BYZANTINE MUSICAL SYMBOL PARAKLITIKI NEO;3PARAKALESMA NEO;3ETERON PARAKALESMA;3KYLISMA
1D062:0BYZANTINE MUSICAL SYMBOL ANTIKENOKYLISMA;3TROMIKON NEO;3EKSTREPTON;3SYNAGMA NEO;3SYRMA
1D067:0BYZANTINE MUSICAL SYMBOL CHOREVMA NEO;3EPEGERMA;3SEISMA NEO;3XIRON KLASMA;3TROMIKOPSIFISTON
1D06C:0BYZANTINE MUSICAL SYMBOL PSIFISTOLYGISMA;3TROMIKOLYGISMA;3TROMIKOPARAKALESMA
1D06F:0BYZANTINE MUSICAL SYMBOL PSIFISTOPARAKALESMA;3TROMIKOSYNAGMA;3PSIFISTOSYNAGMA
1D072:0BYZANTINE MUSICAL SYMBOL GORGOSYNTHETON;3ARGOSYNTHETON;3ETERON ARGOSYNTHETON;3OYRANISMA NEO
1D076:0BYZANTINE MUSICAL SYMBOL THEMATISMOS ESO;4EXO;3THEMA APLOUN;3THES KAI APOTHES;3KATAVASMA
1D07B:0BYZANTINE MUSICAL SYMBOL ENDOFONON;3YFEN KATO;4ANO;3STAVROS;3KLASMA ANO;3DIPLI ARCHAION
1D081:0BYZANTINE MUSICAL SYMBOL KRATIMA ARCHAION;4ALLO;4NEO;3APODERMA NEO;3APLI;3DIPLI;3TRIPLI
1D088:0BYZANTINE MUSICAL SYMBOL TETRAPLI;3KORONIS;3LEIMMA ENOS CHRONOU;4DYO CHRONON;4TRION CHRONON
1D08D:0BYZANTINE MUSICAL SYMBOL LEIMMA TESSARON CHRONON;4IMISEOS CHRONOU;3GORGON NEO ANO
1D090:0BYZANTINE MUSICAL SYMBOL GORGON PARESTIGMENON ARISTERA;5DEXIA;3DIGORGON
1D093:0BYZANTINE MUSICAL SYMBOL DIGORGON PARESTIGMENON ARISTERA KATO;6ANO;5DEXIA;3TRIGORGON;3ARGON
1D098:0BYZANTINE MUSICAL SYMBOL IMIDIARGON;3DIARGON;3AGOGI POLI ARGI;4ARGOTERI;4ARGI;4METRIA;4MESI
1D09F:0BYZANTINE MUSICAL SYMBOL AGOGI GORGI;4GORGOTERI;4POLI GORGI;3MARTYRIA PROTOS ICHOS
1D0A3:0BYZANTINE MUSICAL SYMBOL MARTYRIA ALLI PROTOS ICHOS;4DEYTEROS ICHOS;4ALLI DEYTEROS ICHOS
1D0A6:0BYZANTINE MUSICAL SYMBOL MARTYRIA TRITOS ICHOS;4TRIFONIAS;4TETARTOS ICHOS;5LEGETOS ICHOS
1D0AA:0BYZANTINE MUSICAL SYMBOL MARTYRIA LEGETOS ICHOS;4PLAGIOS ICHOS;3ISAKIA TELOUS ICHIMATOS
1D0AD:0BYZANTINE MUSICAL SYMBOL APOSTROFOI TELOUS ICHIMATOS;3FANEROSIS TETRAFONIAS;4MONOFONIAS
1D0B0:0BYZANTINE MUSICAL SYMBOL FANEROSIS DIFONIAS;3MARTYRIA VARYS ICHOS;4PROTOVARYS ICHOS
1D0B3:0BYZANTINE MUSICAL SYMBOL MARTYRIA PLAGIOS TETARTOS ICHOS;3GORTHMIKON N APLOUN;5DIPLOUN
1D0B6:0BYZANTINE MUSICAL SYMBOL ENARXIS KAI FTHORA VOU;3IMIFONON;3IMIFTHORON
1D0B9:0BYZANTINE MUSICAL SYMBOL FTHORA ARCHAION DEYTEROU ICHOU;4DIATONIKI PA;5NANA;4NAOS ICHOS
1D0BD:0BYZANTINE MUSICAL SYMBOL FTHORA DIATONIKI DI;4SKLIRON DIATONON DI;4DIATONIKI KE;5ZO
1D0C1:0BYZANTINE MUSICAL SYMBOL FTHORA DIATONIKI NI KATO;6ANO;4MALAKON CHROMA DIFONIAS;6MONOFONIAS
1D0C5:0BYZANTINE MUSICAL SYMBOL FHTORA SKLIRON CHROMA VASIS;3FTHORA SKLIRON CHROMA SYNAFI;4NENANO
1D0C8:0BYZANTINE MUSICAL SYMBOL CHROA ZYGOS;4KLITON;4SPATHI;3FTHORA I YFESIS TETARTIMORION
1D0CC:0BYZANTINE MUSICAL SYMBOL FTHORA ENARMONIOS ANTIFONIA;3YFESIS TRITIMORION
1D0CE:0BYZANTINE MUSICAL SYMBOL DIESIS TRITIMORION;4TETARTIMORION;4APLI DYO DODEKATA
1D0D1:0BYZANTINE MUSICAL SYMBOL DIESIS MONOGRAMMOS TESSERA DODEKATA;4DIGRAMMOS EX DODEKATA
1D0D3:0BYZANTINE MUSICAL SYMBOL DIESIS TRIGRAMMOS OKTO DODEKATA;3YFESIS APLI DYO DODEKATA
1D0D5:0BYZANTINE MUSICAL SYMBOL YFESIS MONOGRAMMOS TESSERA DODEKATA;4DIGRAMMOS EX DODEKATA
1D0D7:0BYZANTINE MUSICAL SYMBOL YFESIS TRIGRAMMOS OKTO DODEKATA;3GENIKI DIESIS;4YFESIS
1D0DA:0BYZANTINE MUSICAL SYMBOL DIASTOLI APLI MIKRI;5MEGALI;4DIPLI;4THESEOS;3SIMANSIS THESEOS
1D0DF:0BYZANTINE MUSICAL SYMBOL SIMANSIS THESEOS DISIMOU;5TRISIMOU;5TETRASIMOU;4ARSEOS;5DISIMOU
1D0E4:0BYZANTINE MUSICAL SYMBOL SIMANSIS ARSEOS TRISIMOU;5TETRASIMOU;3DIGRAMMA GG;3DIFTOGGOS OU
1D0E8:0BYZANTINE MUSICAL SYMBOL STIGMA;3ARKTIKO PA;4VOU;4GA;4DI;4KE;4ZO;4NI;3KENTIMATA NEO MESO
1D0F1:0BYZANTINE MUSICAL SYMBOL KENTIMA NEO MESO;3KENTIMATA NEO KATO;3KENTIMA NEO KATO
1D0F4:0BYZANTINE MUSICAL SYMBOL KLASMA KATO;3GORGON NEO KATO
1D100:0MUSICAL SYMBOL SINGLE BARLINE;2DOUBLE BARLINE;2FINAL BARLINE;2REVERSE FINAL BARLINE
1D104:0MUSICAL SYMBOL DASHED BARLINE;2SHORT BARLINE;2LEFT REPEAT SIGN;2RIGHT REPEAT SIGN
1D108:0MUSICAL SYMBOL REPEAT DOTS;2DAL SEGNO;2DA CAPO;2SEGNO;2CODA;2REPEATED FIGURE-1;3FIGURE-2
1D10F:0MUSICAL SYMBOL REPEATED FIGURE-3;2FERMATA;3BELOW;2BREATH MARK;2CAESURA;2BRACE;2BRACKET
1D116:0MUSICAL SYMBOL ONE-LINE STAFF;2TWO-LINE STAFF;2THREE-LINE STAFF;2FOUR-LINE STAFF
1D11A:0MUSICAL SYMBOL FIVE-LINE STAFF;2SIX-LINE STAFF;2SIX-STRING FRETBOARD;2FOUR-STRING FRETBOARD
1D11E:0MUSICAL SYMBOL G CLEF;4OTTAVA ALTA;5BASSA;2C CLEF;2F CLEF;4OTTAVA ALTA;5BASSA;2DRUM CLEF-1
1D126:0MUSICAL SYMBOL DRUM CLEF-2
1D129:0MUSICAL SYMBOL MULTIPLE MEASURE REST;2DOUBLE SHARP;3FLAT;2FLAT UP;3DOWN;2NATURAL UP;3DOWN
1D130:0MUSICAL SYMBOL SHARP UP;3DOWN;2QUARTER TONE SHARP;4FLAT;2COMMON TIME;2CUT TIME;2OTTAVA ALTA
1D137:0MUSICAL SYMBOL OTTAVA BASSA;2QUINDICESIMA ALTA;3BASSA;2MULTI REST;2WHOLE REST;2HALF REST
1D13D:0MUSICAL SYMBOL QUARTER REST;2EIGHTH REST;2SIXTEENTH REST;2THIRTY-SECOND REST
1D141:0MUSICAL SYMBOL SIXTY-FOURTH REST;2ONE HUNDRED TWENTY-EIGHTH REST;2X NOTEHEAD;2PLUS NOTEHEAD
1D145:0MUSICAL SYMBOL CIRCLE X NOTEHEAD;2SQUARE NOTEHEAD WHITE;4BLACK;2TRIANGLE NOTEHEAD UP WHITE
1D149:0MUSICAL SYMBOL TRIANGLE NOTEHEAD UP BLACK;4LEFT WHITE;5BLACK;4RIGHT WHITE;5BLACK
1D14E:0MUSICAL SYMBOL TRIANGLE NOTEHEAD DOWN WHITE;5BLACK;4UP RIGHT WHITE;6BLACK
1D152:0MUSICAL SYMBOL MOON NOTEHEAD WHITE;4BLACK;2TRIANGLE-ROUND NOTEHEAD DOWN WHITE;5BLACK
1D156:0MUSICAL SYMBOL PARENTHESIS NOTEHEAD;2VOID NOTEHEAD;2NOTEHEAD BLACK;2NULL NOTEHEAD
1D15A:0MUSICAL SYMBOL CLUSTER NOTEHEAD WHITE;4BLACK;2BREVE;2WHOLE NOTE;2HALF NOTE;2QUARTER NOTE
1D160:0MUSICAL SYMBOL EIGHTH NOTE;2SIXTEENTH NOTE;2THIRTY-SECOND NOTE;2SIXTY-FOURTH NOTE
1D164:0MUSICAL SYMBOL ONE HUNDRED TWENTY-EIGHTH NOTE;2COMBINING STEM;3SPRECHGESANG STEM;3TREMOLO-1
1D168:0MUSICAL SYMBOL COMBINING TREMOLO-2;3TREMOLO-3;2FINGERED TREMOLO-1;3TREMOLO-2;3TREMOLO-3
1D16D:0MUSICAL SYMBOL COMBINING AUGMENTATION DOT;3FLAG-1;3FLAG-2;3FLAG-3;3FLAG-4;3FLAG-5
1D173:0MUSICAL SYMBOL BEGIN BEAM;2END BEAM;2BEGIN TIE;2END TIE;2BEGIN SLUR;2END SLUR;2BEGIN PHRASE
1D17A:0MUSICAL SYMBOL END PHRASE;2COMBINING ACCENT;3STACCATO;3TENUTO;3STACCATISSIMO;3MARCATO
1D180:0MUSICAL SYMBOL COMBINING MARCATO-STACCATO;3ACCENT-STACCATO;3LOURE;2ARPEGGIATO UP;3DOWN
1D185:0MUSICAL SYMBOL COMBINING DOIT;3RIP;3FLIP;3SMEAR;3BEND;3DOUBLE TONGUE;3TRIPLE TONGUE
1D18C:0MUSICAL SYMBOL RINFORZANDO;2SUBITO;2Z;2PIANO;2MEZZO;2FORTE;2CRESCENDO;2DECRESCENDO
1D194:0MUSICAL SYMBOL GRACE NOTE SLASH;4NO SLASH;2TR;2TURN;2INVERTED TURN;2TURN SLASH;3UP
1D19B:0MUSICAL SYMBOL ORNAMENT STROKE-1;3STROKE-2;3STROKE-3;3STROKE-4;3STROKE-5;3STROKE-6
1D1A1:0MUSICAL SYMBOL ORNAMENT STROKE-7;3STROKE-8;3STROKE-9;3STROKE-10;3STROKE-11;2HAUPTSTIMME
1D1A7:0MUSICAL SYMBOL NEBENSTIMME;2END OF STIMME;2DEGREE SLASH;2COMBINING DOWN BOW;3UP BOW
1D1AC:0MUSICAL SYMBOL COMBINING HARMONIC;3SNAP PIZZICATO;2PEDAL MARK;3UP MARK;2HALF PEDAL MARK
1D1B1:0MUSICAL SYMBOL GLISSANDO UP;3DOWN;2WITH FINGERNAILS;2DAMP;3ALL;2MAXIMA;2LONGA;2BREVIS
1D1B9:0MUSICAL SYMBOL SEMIBREVIS WHITE;3BLACK;2MINIMA;3BLACK;2SEMIMINIMA WHITE;3BLACK;2FUSA WHITE
1D1C0:0MUSICAL SYMBOL FUSA BLACK;2LONGA PERFECTA REST;3IMPERFECTA REST;2BREVIS REST
1D1C4:0MUSICAL SYMBOL SEMIBREVIS REST;2MINIMA REST;2SEMIMINIMA REST
1D1C7:0MUSICAL SYMBOL TEMPUS PERFECTUM CUM PROLATIONE PERFECTA;6IMPERFECTA;6PERFECTA DIMINUTION-1
1D1CA:0MUSICAL SYMBOL TEMPUS IMPERFECTUM CUM PROLATIONE PERFECTA;6IMPERFECTA;7DIMINUTION-1
1D1CD:0MUSICAL SYMBOL TEMPUS IMPERFECTUM CUM PROLATIONE IMPERFECTA DIMINUTION-2;7DIMINUTION-3
1D1CF:0MUSICAL SYMBOL CROIX;2GREGORIAN C CLEF;3F CLEF;2SQUARE B;2VIRGA;2PODATUS;2CLIVIS;2SCANDICUS
1D1D7:0MUSICAL SYMBOL CLIMACUS;2TORCULUS;2PORRECTUS;3FLEXUS;2SCANDICUS FLEXUS;2TORCULUS RESUPINUS
1D1DD:0MUSICAL SYMBOL PES SUBPUNCTIS;2KIEVAN C CLEF;3END OF PIECE;3FINAL NOTE;3RECITATIVE MARK
1D1E2:0MUSICAL SYMBOL KIEVAN WHOLE NOTE;3HALF NOTE;3QUARTER NOTE STEM DOWN;6UP
1D1E6:0MUSICAL SYMBOL KIEVAN EIGHTH NOTE STEM DOWN;6UP;3FLAT SIGN;2SORI;2KORON
1D200:0GREEK VOCAL NOTATION SYMBOL-1;3SYMBOL-2;3SYMBOL-3;3SYMBOL-4;3SYMBOL-5;3SYMBOL-6;3SYMBOL-7
1D207:0GREEK VOCAL NOTATION SYMBOL-8;3SYMBOL-9;3SYMBOL-10;3SYMBOL-11;3SYMBOL-12;3SYMBOL-13
1D20D:0GREEK VOCAL NOTATION SYMBOL-14;3SYMBOL-15;3SYMBOL-16;3SYMBOL-17;3SYMBOL-18;3SYMBOL-19
1D213:0GREEK VOCAL NOTATION SYMBOL-20;3SYMBOL-21;3SYMBOL-22;3SYMBOL-23;3SYMBOL-24;3SYMBOL-50
1D219:0GREEK VOCAL NOTATION SYMBOL-51;3SYMBOL-52;3SYMBOL-53;3SYMBOL-54
1D21D:0GREEK INSTRUMENTAL NOTATION SYMBOL-1;3SYMBOL-2;3SYMBOL-4;3SYMBOL-5;3SYMBOL-7;3SYMBOL-8
1D223:0GREEK INSTRUMENTAL NOTATION SYMBOL-11;3SYMBOL-12;3SYMBOL-13;3SYMBOL-14;3SYMBOL-17
1D228:0GREEK INSTRUMENTAL NOTATION SYMBOL-18;3SYMBOL-19;3SYMBOL-23;3SYMBOL-24;3SYMBOL-25
1D22D:0GREEK INSTRUMENTAL NOTATION SYMBOL-26;3SYMBOL-27;3SYMBOL-29;3SYMBOL-30;3SYMBOL-32
1D232:0GREEK INSTRUMENTAL NOTATION SYMBOL-36;3SYMBOL-37;3SYMBOL-38;3SYMBOL-39;3SYMBOL-40
1D237:0GREEK INSTRUMENTAL NOTATION SYMBOL-42;3SYMBOL-43;3SYMBOL-45;3SYMBOL-47;3SYMBOL-48
1D23C:0GREEK INSTRUMENTAL NOTATION SYMBOL-49;3SYMBOL-50;3SYMBOL-51;3SYMBOL-52;3SYMBOL-53
1D241:0GREEK INSTRUMENTAL NOTATION SYMBOL-54;0COMBINING GREEK MUSICAL TRISEME;3TETRASEME
1D244:0COMBINING GREEK MUSICAL PENTASEME;0GREEK MUSICAL LEIMMA
1D2E0:0MAYAN NUMERAL ZERO;2ONE;2TWO;2THREE;2FOUR;2FIVE;2SIX;2SEVEN;2EIGHT;2NINE;2TEN;2ELEVEN
1D2EC:0MAYAN NUMERAL TWELVE;2THIRTEEN;2FOURTEEN;2FIFTEEN;2SIXTEEN;2SEVENTEEN;2EIGHTEEN;2NINETEEN
1D300:0MONOGRAM FOR EARTH;0DIGRAM FOR HEAVENLY EARTH;2HUMAN EARTH;2EARTHLY HEAVEN;3HUMAN;2EARTH
1D306:0TETRAGRAM FOR CENTRE;2FULL CIRCLE;2MIRED;2BARRIER;2KEEPING SMALL;2CONTRARIETY;2ASCENT
1D30D:0TETRAGRAM FOR OPPOSITION;2BRANCHING OUT;2DEFECTIVENESS OR DISTORTION;2DIVERGENCE
1D311:0TETRAGRAM FOR YOUTHFULNESS;2INCREASE;2PENETRATION;2REACH;2CONTACT;2HOLDING BACK;2WAITING
1D318:0TETRAGRAM FOR FOLLOWING;2ADVANCE;2RELEASE;2RESISTANCE;2EASE;2JOY;2CONTENTION;2ENDEAVOUR
1D320:0TETRAGRAM FOR DUTIES;2CHANGE;2DECISIVENESS;2BOLD RESOLUTION;2PACKING;2LEGION;2CLOSENESS
1D327:0TETRAGRAM FOR KINSHIP;2GATHERING;2STRENGTH;2PURITY;2FULLNESS;2RESIDENCE;2LAW OR MODEL
1D32E:0TETRAGRAM FOR RESPONSE;2GOING TO MEET;2ENCOUNTERS;2STOVE;2GREATNESS;2ENLARGEMENT;2PATTERN
1D335:0TETRAGRAM FOR RITUAL;2FLIGHT;2VASTNESS OR WASTING;2CONSTANCY;2MEASURE;2ETERNITY;2UNITY
1D33C:0TETRAGRAM FOR DIMINISHMENT;2CLOSED MOUTH;2GUARDEDNESS;2GATHERING IN;2MASSING;2ACCUMULATION
1D342:0TETRAGRAM FOR EMBELLISHMENT;2DOUBT;2WATCH;2SINKING;2INNER;2DEPARTURE;2DARKENING;2DIMMING
1D34A:0TETRAGRAM FOR EXHAUSTION;2SEVERANCE;2STOPPAGE;2HARDNESS;2COMPLETION;2CLOSURE;2FAILURE
1D351:0TETRAGRAM FOR AGGRAVATION;2COMPLIANCE;2ON THE VERGE;2DIFFICULTIES;2LABOURING;2FOSTERING
1D360:0COUNTING ROD UNIT DIGIT ONE;4TWO;4THREE;4FOUR;4FIVE;4SIX;4SEVEN;4EIGHT;4NINE
1D369:0COUNTING ROD TENS DIGIT ONE;4TWO;4THREE;4FOUR;4FIVE;4SIX;4SEVEN;4EIGHT;4NINE
1D372:0IDEOGRAPHIC TALLY MARK ONE;3TWO;3THREE;3FOUR;3FIVE;0TALLY MARK ONE;2FIVE
1D400:0MATHEMATICAL BOLD CAPITAL A;3B;3C;3D;3E;3F;3G;3H;3I;3J;3K;3L;3M;3N;3O;3P;3Q;3R;3S;3T;3U;3V
1D416:0MATHEMATICAL BOLD CAPITAL W;3X;3Y;3Z;2SMALL A;3B;3C;3D;3E;3F;3G;3H;3I;3J;3K;3L;3M;3N;3O;3P
1D42A:0MATHEMATICAL BOLD SMALL Q;3R;3S;3T;3U;3V;3W;3X;3Y;3Z;1ITALIC CAPITAL A;3B;3C;3D;3E;3F;3G;3H
1D43C:0MATHEMATICAL ITALIC CAPITAL I;3J;3K;3L;3M;3N;3O;3P;3Q;3R;3S;3T;3U;3V;3W;3X;3Y;3Z;2SMALL A
1D44F:0MATHEMATICAL ITALIC SMALL B;3C;3D;3E;3F;3G
1D456:0MATHEMATICAL ITALIC SMALL I;3J;3K;3L;3M;3N;3O;3P;3Q;3R;3S;3T;3U;3V;3W;3X;3Y;3Z
1D468:0MATHEMATICAL BOLD ITALIC CAPITAL A;4B;4C;4D;4E;4F;4G;4H;4I;4J;4K;4L;4M;4N;4O;4P;4Q;4R;4S;4T
1D47C:0MATHEMATICAL BOLD ITALIC CAPITAL U;4V;4W;4X;4Y;4Z;3SMALL A;4B;4C;4D;4E;4F;4G;4H;4I;4J;4K;4L
1D48E:0MATHEMATICAL BOLD ITALIC SMALL M;4N;4O;4P;4Q;4R;4S;4T;4U;4V;4W;4X;4Y;4Z;1SCRIPT CAPITAL A
1D49E:0MATHEMATICAL SCRIPT CAPITAL C;3D
1D4A2:0MATHEMATICAL SCRIPT CAPITAL G
1D4A5:0MATHEMATICAL SCRIPT CAPITAL J;3K
1D4A9:0MATHEMATICAL SCRIPT CAPITAL N;3O;3P;3Q
1D4AE:0MATHEMATICAL SCRIPT CAPITAL S;3T;3U;3V;3W;3X;3Y;3Z;2SMALL A;3B;3C;3D
1D4BB:0MATHEMATICAL SCRIPT SMALL F
1D4BD:0MATHEMATICAL SCRIPT SMALL H;3I;3J;3K;3L;3M;3N
1D4C5:0MATHEMATICAL SCRIPT SMALL P;3Q;3R;3S;3T;3U;3V;3W;3X;3Y;3Z;1BOLD SCRIPT CAPITAL A;4B;4C;4D
1D4D4:0MATHEMATICAL BOLD SCRIPT CAPITAL E;4F;4G;4H;4I;4J;4K;4L;4M;4N;4O;4P;4Q;4R;4S;4T;4U;4V;4W;4X
1D4E8:0MATHEMATICAL BOLD SCRIPT CAPITAL Y;4Z;3SMALL A;4B;4C;4D;4E;4F;4G;4H;4I;4J;4K;4L;4M;4N;4O;4P
1D4FA:0MATHEMATICAL BOLD SCRIPT SMALL Q;4R;4S;4T;4U;4V;4W;4X;4Y;4Z;1FRAKTUR CAPITAL A;3B
1D507:0MATHEMATICAL FRAKTUR CAPITAL D;3E;3F;3G
1D50D:0MATHEMATICAL FRAKTUR CAPITAL J;3K;3L;3M;3N;3O;3P;3Q
1D516:0MATHEMATICAL FRAKTUR CAPITAL S;3T;3U;3V;3W;3X;3Y
1D51E:0MATHEMATICAL FRAKTUR SMALL A;3B;3C;3D;3E;3F;3G;3H;3I;3J;3K;3L;3M;3N;3O;3P;3Q;3R;3S;3T;3U;3V
1D534:0MATHEMATICAL FRAKTUR SMALL W;3X;3Y;3Z;1DOUBLE-STRUCK CAPITAL A;3B
1D53B:0MATHEMATICAL DOUBLE-STRUCK CAPITAL D;3E;3F;3G
1D540:0MATHEMATICAL DOUBLE-STRUCK CAPITAL I;3J;3K;3L;3M
1D546:0MATHEMATICAL DOUBLE-STRUCK CAPITAL O
1D54A:0MATHEMATICAL DOUBLE-STRUCK CAPITAL S;3T;3U;3V;3W;3X;3Y
1D552:0MATHEMATICAL DOUBLE-STRUCK SMALL A;3B;3C;3D;3E;3F;3G;3H;3I;3J;3K;3L;3M;3N;3O;3P;3Q;3R;3S;3T
1D566:0MATHEMATICAL DOUBLE-STRUCK SMALL U;3V;3W;3X;3Y;3Z;1BOLD FRAKTUR CAPITAL A;4B;4C;4D;4E;4F;4G
1D573:0MATHEMATICAL BOLD FRAKTUR CAPITAL H;4I;4J;4K;4L;4M;4N;4O;4P;4Q;4R;4S;4T;4U;4V;4W;4X;4Y;4Z
1D586:0MATHEMATICAL BOLD FRAKTUR SMALL A;4B;4C;4D;4E;4F;4G;4H;4I;4J;4K;4L;4M;4N;4O;4P;4Q;4R;4S;4T
1D59A:0MATHEMATICAL BOLD FRAKTUR SMALL U;4V;4W;4X;4Y;4Z;1SANS-SERIF CAPITAL A;3B;3C;3D;3E;3F;3G;3H
1D5A8:0MATHEMATICAL SANS-SERIF CAPITAL I;3J;3K;3L;3M;3N;3O;3P;3Q;3R;3S;3T;3U;3V;3W;3X;3Y;3Z
1D5BA:0MATHEMATICAL SANS-SERIF SMALL A;3B;3C;3D;3E;3F;3G;3H;3I;3J;3K;3L;3M;3N;3O;3P;3Q;3R;3S;3T;3U
1D5CF:0MATHEMATICAL SANS-SERIF SMALL V;3W;3X;3Y;3Z;2BOLD CAPITAL A;4B;4C;4D;4E;4F;4G;4H;4I;4J;4K
1D5DF:0MATHEMATICAL SANS-SERIF BOLD CAPITAL L;4M;4N;4O;4P;4Q;4R;4S;4T;4U;4V;4W;4X;4Y;4Z;3SMALL A
1D5EF:0MATHEMATICAL SANS-SERIF BOLD SMALL B;4C;4D;4E;4F;4G;4H;4I;4J;4K;4L;4M;4N;4O;4P;4Q;4R;4S;4T
1D602:0MATHEMATICAL SANS-SERIF BOLD SMALL U;4V;4W;4X;4Y;4Z;2ITALIC CAPITAL A;4B;4C;4D;4E;4F;4G;4H
1D610:0MATHEMATICAL SANS-SERIF ITALIC CAPITAL I;4J;4K;4L;4M;4N;4O;4P;4Q;4R;4S;4T;4U;4V;4W;4X;4Y;4Z
1D622:0MATHEMATICAL SANS-SERIF ITALIC SMALL A;4B;4C;4D;4E;4F;4G;4H;4I;4J;4K;4L;4M;4N;4O;4P;4Q;4R
1D634:0MATHEMATICAL SANS-SERIF ITALIC SMALL S;4T;4U;4V;4W;4X;4Y;4Z;2BOLD ITALIC CAPITAL A;5B;5C;5D
1D640:0MATHEMATICAL SANS-SERIF BOLD ITALIC CAPITAL E;5F;5G;5H;5I;5J;5K;5L;5M;5N;5O;5P;5Q;5R;5S;5T
1D650:0MATHEMATICAL SANS-SERIF BOLD ITALIC CAPITAL U;5V;5W;5X;5Y;5Z;4SMALL A;5B;5C;5D;5E;5F;5G;5H
1D65E:0MATHEMATICAL SANS-SERIF BOLD ITALIC SMALL I;5J;5K;5L;5M;5N;5O;5P;5Q;5R;5S;5T;5U;5V;5W;5X;5Y
1D66F:0MATHEMATICAL SANS-SERIF BOLD ITALIC SMALL Z;1MONOSPACE CAPITAL A;3B;3C;3D;3E;3F;3G;3H;3I;3J
1D67A:0MATHEMATICAL MONOSPACE CAPITAL K;3L;3M;3N;3O;3P;3Q;3R;3S;3T;3U;3V;3W;3X;3Y;3Z;2SMALL A;3B
1D68C:0MATHEMATICAL MONOSPACE SMALL C;3D;3E;3F;3G;3H;3I;3J;3K;3L;3M;3N;3O;3P;3Q;3R;3S;3T;3U;3V;3W
1D6A1:0MATHEMATICAL MONOSPACE SMALL X;3Y;3Z;1ITALIC SMALL DOTLESS I;4J
1D6A8:0MATHEMATICAL BOLD CAPITAL ALPHA;3BETA;3GAMMA;3DELTA;3EPSILON;3ZETA;3ETA;3THETA;3IOTA;3KAPPA
1D6B2:0MATHEMATICAL BOLD CAPITAL LAMDA;3MU;3NU;3XI;3OMICRON;3PI;3RHO;3THETA SYMBOL;3SIGMA;3TAU
1D6BC:0MATHEMATICAL BOLD CAPITAL UPSILON;3PHI;3CHI;3PSI;3OMEGA;2NABLA;2SMALL ALPHA;3BETA;3GAMMA
1D6C5:0MATHEMATICAL BOLD SMALL DELTA;3EPSILON;3ZETA;3ETA;3THETA;3IOTA;3KAPPA;3LAMDA;3MU;3NU;3XI
1D6D0:0MATHEMATICAL BOLD SMALL OMICRON;3PI;3RHO;3FINAL SIGMA;3SIGMA;3TAU;3UPSILON;3PHI;3CHI;3PSI
1D6DA:0MATHEMATICAL BOLD SMALL OMEGA;2PARTIAL DIFFERENTIAL;2EPSILON SYMBOL;2THETA SYMBOL
1D6DE:0MATHEMATICAL BOLD KAPPA SYMBOL;2PHI SYMBOL;2RHO SYMBOL;2PI SYMBOL;1ITALIC CAPITAL ALPHA
1D6E3:0MATHEMATICAL ITALIC CAPITAL BETA;3GAMMA;3DELTA;3EPSILON;3ZETA;3ETA;3THETA;3IOTA;3KAPPA
1D6EC:0MATHEMATICAL ITALIC CAPITAL LAMDA;3MU;3NU;3XI;3OMICRON;3PI;3RHO;3THETA SYMBOL;3SIGMA;3TAU
1D6F6:0MATHEMATICAL ITALIC CAPITAL UPSILON;3PHI;3CHI;3PSI;3OMEGA;2NABLA;2SMALL ALPHA;3BETA;3GAMMA
1D6FF:0MATHEMATICAL ITALIC SMALL DELTA;3EPSILON;3ZETA;3ETA;3THETA;3IOTA;3KAPPA;3LAMDA;3MU;3NU;3XI
1D70A:0MATHEMATICAL ITALIC SMALL OMICRON;3PI;3RHO;3FINAL SIGMA;3SIGMA;3TAU;3UPSILON;3PHI;3CHI;3PSI
1D714:0MATHEMATICAL ITALIC SMALL OMEGA;2PARTIAL DIFFERENTIAL;2EPSILON SYMBOL;2THETA SYMBOL
1D718:0MATHEMATICAL ITALIC KAPPA SYMBOL;2PHI SYMBOL;2RHO SYMBOL;2PI SYMBOL
1D71C:0MATHEMATICAL BOLD ITALIC CAPITAL ALPHA;4BETA;4GAMMA;4DELTA;4EPSILON;4ZETA;4ETA;4THETA;4IOTA
1D725:0MATHEMATICAL BOLD ITALIC CAPITAL KAPPA;4LAMDA;4MU;4NU;4XI;4OMICRON;4PI;4RHO;4THETA SYMBOL
1D72E:0MATHEMATICAL BOLD ITALIC CAPITAL SIGMA;4TAU;4UPSILON;4PHI;4CHI;4PSI;4OMEGA;3NABLA
1D736:0MATHEMATICAL BOLD ITALIC SMALL ALPHA;4BETA;4GAMMA;4DELTA;4EPSILON;4ZETA;4ETA;4THETA;4IOTA
1D73F:0MATHEMATICAL BOLD ITALIC SMALL KAPPA;4LAMDA;4MU;4NU;4XI;4OMICRON;4PI;4RHO;4FINAL SIGMA
1D748:0MATHEMATICAL BOLD ITALIC SMALL SIGMA;4TAU;4UPSILON;4PHI;4CHI;4PSI;4OMEGA
1D74F:0MATHEMATICAL BOLD ITALIC PARTIAL DIFFERENTIAL;3EPSILON SYMBOL;3THETA SYMBOL;3KAPPA SYMBOL
1D753:0MATHEMATICAL BOLD ITALIC PHI SYMBOL;3RHO SYMBOL;3PI SYMBOL;1SANS-SERIF BOLD CAPITAL ALPHA
1D757:0MATHEMATICAL SANS-SERIF BOLD CAPITAL BETA;4GAMMA;4DELTA;4EPSILON;4ZETA;4ETA;4THETA;4IOTA
1D75F:0MATHEMATICAL SANS-SERIF BOLD CAPITAL KAPPA;4LAMDA;4MU;4NU;4XI;4OMICRON;4PI;4RHO
1D767:0MATHEMATICAL SANS-SERIF BOLD CAPITAL THETA SYMBOL;4SIGMA;4TAU;4UPSILON;4PHI;4CHI;4PSI
1D76E:0MATHEMATICAL SANS-SERIF BOLD CAPITAL OMEGA;3NABLA;3SMALL ALPHA;4BETA;4GAMMA;4DELTA;4EPSILON
1D775:0MATHEMATICAL SANS-SERIF BOLD SMALL ZETA;4ETA;4THETA;4IOTA;4KAPPA;4LAMDA;4MU;4NU;4XI
1D77E:0MATHEMATICAL SANS-SERIF BOLD SMALL OMICRON;4PI;4RHO;4FINAL SIGMA;4SIGMA;4TAU;4UPSILON;4PHI
1D786:0MATHEMATICAL SANS-SERIF BOLD SMALL CHI;4PSI;4OMEGA;3PARTIAL DIFFERENTIAL;3EPSILON SYMBOL
1D78B:0MATHEMATICAL SANS-SERIF BOLD THETA SYMBOL;3KAPPA SYMBOL;3PHI SYMBOL;3RHO SYMBOL;3PI SYMBOL
1D790:0MATHEMATICAL SANS-SERIF BOLD ITALIC CAPITAL ALPHA;5BETA;5GAMMA;5DELTA;5EPSILON;5ZETA;5ETA
1D797:0MATHEMATICAL SANS-SERIF BOLD ITALIC CAPITAL THETA;5IOTA;5KAPPA;5LAMDA;5MU;5NU;5XI;5OMICRON
1D79F:0MATHEMATICAL SANS-SERIF BOLD ITALIC CAPITAL PI;5RHO;5THETA SYMBOL;5SIGMA;5TAU;5UPSILON;5PHI
1D7A6:0MATHEMATICAL SANS-SERIF BOLD ITALIC CAPITAL CHI;5PSI;5OMEGA;4NABLA;4SMALL ALPHA;5BETA
1D7AC:0MATHEMATICAL SANS-SERIF BOLD ITALIC SMALL GAMMA;5DELTA;5EPSILON;5ZETA;5ETA;5THETA;5IOTA
1D7B3:0MATHEMATICAL SANS-SERIF BOLD ITALIC SMALL KAPPA;5LAMDA;5MU;5NU;5XI;5OMICRON;5PI;5RHO
1D7BB:0MATHEMATICAL SANS-SERIF BOLD ITALIC SMALL FINAL SIGMA;5SIGMA;5TAU;5UPSILON;5PHI;5CHI;5PSI
1D7C2:0MATHEMATICAL SANS-SERIF BOLD ITALIC SMALL OMEGA;4PARTIAL DIFFERENTIAL;4EPSILON SYMBOL
1D7C5:0MATHEMATICAL SANS-SERIF BOLD ITALIC THETA SYMBOL;4KAPPA SYMBOL;4PHI SYMBOL;4RHO SYMBOL
1D7C9:0MATHEMATICAL SANS-SERIF BOLD ITALIC PI SYMBOL;1BOLD CAPITAL DIGAMMA;2SMALL DIGAMMA
1D7CE:0MATHEMATICAL BOLD DIGIT ZERO;3ONE;3TWO;3THREE;3FOUR;3FIVE;3SIX;3SEVEN;3EIGHT;3NINE
1D7D8:0MATHEMATICAL DOUBLE-STRUCK DIGIT ZERO;3ONE;3TWO;3THREE;3FOUR;3FIVE;3SIX;3SEVEN;3EIGHT;3NINE
1D7E2:0MATHEMATICAL SANS-SERIF DIGIT ZERO;3ONE;3TWO;3THREE;3FOUR;3FIVE;3SIX;3SEVEN;3EIGHT;3NINE
1D7EC:0MATHEMATICAL SANS-SERIF BOLD DIGIT ZERO;4ONE;4TWO;4THREE;4FOUR;4FIVE;4SIX;4SEVEN;4EIGHT
1D7F5:0MATHEMATICAL SANS-SERIF BOLD DIGIT NINE;1MONOSPACE DIGIT ZERO;3ONE;3TWO;3THREE;3FOUR;3FIVE
1D7FC:0MATHEMATICAL MONOSPACE DIGIT SIX;3SEVEN;3EIGHT;3NINE;0SIGNWRITING HAND-FIST INDEX
1D801:0SIGNWRITING HAND-CIRCLE INDEX;1HAND-CUP INDEX;1HAND-OVAL INDEX;1HAND-HINGE INDEX
1D805:0SIGNWRITING HAND-ANGLE INDEX;1HAND-FIST INDEX BENT;1HAND-CIRCLE INDEX BENT
1D808:0SIGNWRITING HAND-FIST THUMB UNDER INDEX BENT;2INDEX RAISED KNUCKLE;3CUPPED;3HINGED;4LOW
1D80D:0SIGNWRITING HAND-CIRCLE INDEX HINGE;1HAND-FIST INDEX MIDDLE;1HAND-CIRCLE INDEX MIDDLE
1D810:0SIGNWRITING HAND-FIST INDEX MIDDLE BENT;4RAISED KNUCKLES;4HINGED;3UP MIDDLE HINGED
1D814:0SIGNWRITING HAND-FIST INDEX HINGED MIDDLE UP;3MIDDLE CONJOINED;5INDEX BENT;5MIDDLE BENT
1D818:0SIGNWRITING HAND-FIST INDEX MIDDLE CONJOINED CUPPED;5HINGED;4CROSSED
1D81B:0SIGNWRITING HAND-CIRCLE INDEX MIDDLE CROSSED;1HAND-FIST MIDDLE BENT OVER INDEX
1D81D:0SIGNWRITING HAND-FIST INDEX BENT OVER MIDDLE;3MIDDLE THUMB;1HAND-CIRCLE INDEX MIDDLE THUMB
1D820:0SIGNWRITING HAND-FIST INDEX MIDDLE STRAIGHT THUMB BENT;4BENT THUMB STRAIGHT;4THUMB BENT
1D823:0SIGNWRITING HAND-FIST INDEX MIDDLE HINGED SPREAD THUMB SIDE;3UP MIDDLE HINGED THUMB SIDE
1D825:0SIGNWRITING HAND-FIST INDEX UP MIDDLE HINGED THUMB CONJOINED;3HINGED MIDDLE UP THUMB SIDE
1D827:0SIGNWRITING HAND-FIST INDEX MIDDLE UP SPREAD THUMB FORWARD;4THUMB CUPPED;5CIRCLED;5HOOKED
1D82B:0SIGNWRITING HAND-FIST INDEX MIDDLE THUMB HINGED;2THUMB BETWEEN INDEX MIDDLE STRAIGHT
1D82D:0SIGNWRITING HAND-FIST INDEX MIDDLE CONJOINED THUMB SIDE;7CONJOINED;7BENT
1D830:0SIGNWRITING HAND-FIST MIDDLE THUMB HOOKED INDEX UP;2INDEX THUMB HOOKED MIDDLE UP
1D832:0SIGNWRITING HAND-FIST INDEX MIDDLE CONJOINED HINGED THUMB SIDE;4CROSSED THUMB SIDE
1D834:0SIGNWRITING HAND-FIST INDEX MIDDLE CONJOINED THUMB FORWARD;5CUPPED THUMB FORWARD
1D836:0SIGNWRITING HAND-FIST MIDDLE THUMB CUPPED INDEX UP;2INDEX THUMB CUPPED MIDDLE UP
1D838:0SIGNWRITING HAND-FIST MIDDLE THUMB CIRCLED INDEX UP;6HINGED
1D83A:0SIGNWRITING HAND-FIST INDEX THUMB ANGLED OUT MIDDLE UP;5IN MIDDLE UP;4CIRCLED MIDDLE UP
1D83D:0SIGNWRITING HAND-FIST INDEX MIDDLE THUMB CONJOINED HINGED;5ANGLED OUT;5ANGLED
1D840:0SIGNWRITING HAND-FIST MIDDLE THUMB ANGLED OUT INDEX UP;7CROSSED;5INDEX UP
1D843:0SIGNWRITING HAND-FIST INDEX THUMB HOOKED MIDDLE HINGED;1HAND-FLAT FOUR FINGERS;4BENT
1D846:0SIGNWRITING HAND-FLAT FOUR FINGERS HINGED;4CONJOINED;5SPLIT
1D849:0SIGNWRITING HAND-CLAW FOUR FINGERS CONJOINED;1HAND-FIST FOUR FINGERS CONJOINED BENT
1D84B:0SIGNWRITING HAND-HINGE FOUR FINGERS CONJOINED;1HAND-FLAT FIVE FINGERS SPREAD
1D84D:0SIGNWRITING HAND-FLAT HEEL FIVE FINGERS SPREAD;2FIVE FINGERS SPREAD FOUR BENT
1D84F:0SIGNWRITING HAND-FLAT HEEL FIVE FINGERS SPREAD FOUR BENT;2FIVE FINGERS SPREAD BENT
1D851:0SIGNWRITING HAND-FLAT HEEL FIVE FINGERS SPREAD BENT;2FIVE FINGERS SPREAD THUMB FORWARD
1D853:0SIGNWRITING HAND-CUP FIVE FINGERS SPREAD;5OPEN;1HAND-HINGE FIVE FINGERS SPREAD OPEN
1D856:0SIGNWRITING HAND-OVAL FIVE FINGERS SPREAD;1HAND-FLAT FIVE FINGERS SPREAD HINGED;6THUMB SIDE
1D859:0SIGNWRITING HAND-FLAT FIVE FINGERS SPREAD HINGED NO THUMB;1HAND-FLAT;2BETWEEN PALM FACINGS
1D85C:0SIGNWRITING HAND-FLAT HEEL;2THUMB SIDE;2HEEL THUMB SIDE;2THUMB BENT;3FORWARD
1D861:0SIGNWRITING HAND-FLAT SPLIT INDEX THUMB SIDE;3CENTRE;4THUMB SIDE;6BENT;3LITTLE;1HAND-CLAW
1D867:0SIGNWRITING HAND-CLAW THUMB SIDE;2NO THUMB;2THUMB FORWARD;1HAND-HOOK CURLICUE;1HAND-HOOK
1D86C:0SIGNWRITING HAND-CUP OPEN;1HAND-CUP;2OPEN THUMB SIDE;2THUMB SIDE;2OPEN NO THUMB;2NO THUMB
1D872:0SIGNWRITING HAND-CUP OPEN THUMB FORWARD;2THUMB FORWARD;1HAND-CURLICUE OPEN;1HAND-CURLICUE
1D876:0SIGNWRITING HAND-CIRCLE;1HAND-OVAL;2THUMB SIDE;2NO THUMB;2THUMB FORWARD;1HAND-HINGE OPEN
1D87C:0SIGNWRITING HAND-HINGE OPEN THUMB FORWARD;1HAND-HINGE;2SMALL;2OPEN THUMB SIDE;2THUMB SIDE
1D881:0SIGNWRITING HAND-HINGE OPEN NO THUMB;2NO THUMB;2THUMB SIDE TOUCHING INDEX
1D884:0SIGNWRITING HAND-HINGE THUMB BETWEEN MIDDLE RING;1HAND-ANGLE;1HAND-FIST INDEX MIDDLE RING
1D887:0SIGNWRITING HAND-CIRCLE INDEX MIDDLE RING;1HAND-HINGE INDEX MIDDLE RING
1D889:0SIGNWRITING HAND-ANGLE INDEX MIDDLE RING;1HAND-HINGE LITTLE
1D88B:0SIGNWRITING HAND-FIST INDEX MIDDLE RING BENT;5CONJOINED
1D88D:0SIGNWRITING HAND-HINGE INDEX MIDDLE RING CONJOINED;1HAND-FIST LITTLE DOWN;4RIPPLE STRAIGHT
1D890:0SIGNWRITING HAND-FIST LITTLE DOWN RIPPLE CURVED;4OTHERS CIRCLED;3UP;2THUMB UNDER LITTLE UP
1D894:0SIGNWRITING HAND-CIRCLE LITTLE UP;1HAND-OVAL LITTLE UP;1HAND-ANGLE LITTLE UP
1D897:0SIGNWRITING HAND-FIST LITTLE RAISED KNUCKLE;3BENT;3TOUCHES THUMB;3THUMB
1D89B:0SIGNWRITING HAND-HINGE LITTLE THUMB;1HAND-FIST LITTLE INDEX THUMB
1D89D:0SIGNWRITING HAND-HINGE LITTLE INDEX THUMB;1HAND-ANGLE LITTLE INDEX THUMB INDEX THUMB OUT
1D89F:0SIGNWRITING HAND-ANGLE LITTLE INDEX THUMB INDEX THUMB;1HAND-FIST LITTLE INDEX
1D8A1:0SIGNWRITING HAND-CIRCLE LITTLE INDEX;1HAND-HINGE LITTLE INDEX;1HAND-ANGLE LITTLE INDEX
1D8A4:0SIGNWRITING HAND-FIST INDEX MIDDLE LITTLE;1HAND-CIRCLE INDEX MIDDLE LITTLE
1D8A6:0SIGNWRITING HAND-HINGE INDEX MIDDLE LITTLE;2RING;1HAND-ANGLE INDEX MIDDLE LITTLE
1D8A9:0SIGNWRITING HAND-FIST INDEX MIDDLE CROSS LITTLE;1HAND-CIRCLE INDEX MIDDLE CROSS LITTLE
1D8AB:0SIGNWRITING HAND-FIST RING DOWN;1HAND-HINGE RING DOWN INDEX THUMB HOOK MIDDLE
1D8AD:0SIGNWRITING HAND-ANGLE RING DOWN MIDDLE THUMB INDEX CROSS;1HAND-FIST RING UP
1D8AF:0SIGNWRITING HAND-FIST RING RAISED KNUCKLE;3LITTLE;1HAND-CIRCLE RING LITTLE
1D8B2:0SIGNWRITING HAND-OVAL RING LITTLE;1HAND-ANGLE RING LITTLE;1HAND-FIST RING MIDDLE;4CONJOINED
1D8B6:0SIGNWRITING HAND-FIST RING MIDDLE RAISED KNUCKLES;3INDEX;3THUMB;1HAND-HOOK RING THUMB
1D8BA:0SIGNWRITING HAND-FIST INDEX RING LITTLE;1HAND-CIRCLE INDEX RING LITTLE
1D8BC:0SIGNWRITING HAND-CURLICUE INDEX RING LITTLE ON;1HAND-HOOK INDEX RING LITTLE OUT;5IN;5UNDER
1D8C0:0SIGNWRITING HAND-CUP INDEX RING LITTLE;1HAND-HINGE INDEX RING LITTLE
1D8C2:0SIGNWRITING HAND-ANGLE INDEX RING LITTLE OUT;4LITTLE;1HAND-FIST MIDDLE DOWN
1D8C5:0SIGNWRITING HAND-HINGE MIDDLE;1HAND-FIST MIDDLE UP;1HAND-CIRCLE MIDDLE UP
1D8C8:0SIGNWRITING HAND-FIST MIDDLE RAISED KNUCKLE;3UP THUMB SIDE;1HAND-HOOK MIDDLE THUMB
1D8CB:0SIGNWRITING HAND-FIST MIDDLE THUMB LITTLE;3LITTLE;3RING LITTLE
1D8CE:0SIGNWRITING HAND-CIRCLE MIDDLE RING LITTLE;1HAND-CURLICUE MIDDLE RING LITTLE ON
1D8D0:0SIGNWRITING HAND-CUP MIDDLE RING LITTLE;1HAND-HINGE MIDDLE RING LITTLE
1D8D2:0SIGNWRITING HAND-ANGLE MIDDLE RING LITTLE OUT;5IN;4LITTLE
1D8D5:0SIGNWRITING HAND-CIRCLE MIDDLE RING LITTLE BENT;1HAND-CLAW MIDDLE RING LITTLE CONJOINED
1D8D7:0SIGNWRITING HAND-CLAW MIDDLE RING LITTLE CONJOINED SIDE
1D8D8:0SIGNWRITING HAND-HOOK MIDDLE RING LITTLE CONJOINED OUT;6IN;5CONJOINED
1D8DB:0SIGNWRITING HAND-HINGE INDEX HINGED;1HAND-FIST INDEX THUMB SIDE
1D8DD:0SIGNWRITING HAND-HINGE INDEX THUMB SIDE;1HAND-FIST INDEX THUMB SIDE THUMB DIAGONAL
1D8DF:0SIGNWRITING HAND-FIST INDEX THUMB SIDE THUMB CONJOINED;6BENT;5INDEX BENT;5BOTH BENT
1D8E3:0SIGNWRITING HAND-FIST INDEX THUMB SIDE INDEX HINGE;4FORWARD INDEX STRAIGHT;6BENT;4HOOK
1D8E7:0SIGNWRITING HAND-FIST INDEX THUMB CURLICUE;4CURVE THUMB INSIDE
1D8E9:0SIGNWRITING HAND-CLAW INDEX THUMB CURVE THUMB INSIDE
1D8EA:0SIGNWRITING HAND-FIST INDEX THUMB CURVE THUMB UNDER;4CIRCLE;1HAND-CUP INDEX THUMB;4OPEN
1D8EE:0SIGNWRITING HAND-HINGE INDEX THUMB OPEN;4LARGE;3THUMB;4SMALL;1HAND-ANGLE INDEX THUMB OUT
1D8F3:0SIGNWRITING HAND-ANGLE INDEX THUMB IN;3THUMB;1HAND-FIST THUMB;3HEEL;3SIDE DIAGONAL
1D8F8:0SIGNWRITING HAND-FIST THUMB SIDE CONJOINED;4BENT;3FORWARD;3BETWEEN INDEX MIDDLE
1D8FC:0SIGNWRITING HAND-FIST THUMB BETWEEN MIDDLE RING;4RING LITTLE;3UNDER TWO FINGERS
1D8FF:0SIGNWRITING HAND-FIST THUMB OVER TWO FINGERS;3UNDER THREE FINGERS;4FOUR FINGERS
1D902:0SIGNWRITING HAND-FIST THUMB OVER FOUR RAISED KNUCKLES;1HAND-FIST;2HEEL;1TOUCH SINGLE
1D906:0SIGNWRITING TOUCH MULTIPLE;2BETWEEN;1GRASP SINGLE;2MULTIPLE;2BETWEEN;1STRIKE SINGLE
1D90C:0SIGNWRITING STRIKE MULTIPLE;2BETWEEN;1BRUSH SINGLE;2MULTIPLE;2BETWEEN;1RUB SINGLE;2MULTIPLE
1D913:0SIGNWRITING RUB BETWEEN;1SURFACE SYMBOLS;2BETWEEN;1SQUEEZE LARGE SINGLE;2SMALL SINGLE
1D918:0SIGNWRITING SQUEEZE LARGE MULTIPLE;2SMALL MULTIPLE;2SEQUENTIAL;1FLICK LARGE SINGLE
1D91C:0SIGNWRITING FLICK SMALL SINGLE;2LARGE MULTIPLE;2SMALL MULTIPLE;2SEQUENTIAL
1D920:0SIGNWRITING SQUEEZE FLICK ALTERNATING;1MOVEMENT-HINGE UP DOWN LARGE;4SMALL;3SEQUENTIAL
1D924:0SIGNWRITING MOVEMENT-HINGE DOWN SEQUENTIAL;2UP DOWN ALTERNATING LARGE;5SMALL
1D927:0SIGNWRITING MOVEMENT-HINGE SIDE TO SIDE SCISSORS;1MOVEMENT-WALLPLANE FINGER CONTACT
1D929:0SIGNWRITING MOVEMENT-FLOORPLANE FINGER CONTACT;1MOVEMENT-WALLPLANE SINGLE STRAIGHT SMALL
1D92B:0SIGNWRITING MOVEMENT-WALLPLANE SINGLE STRAIGHT MEDIUM;4LARGE;4LARGEST;3WRIST FLEX
1D92F:0SIGNWRITING MOVEMENT-WALLPLANE DOUBLE STRAIGHT;3WRIST FLEX;3ALTERNATING;4WRIST FLEX;2CROSS
1D934:0SIGNWRITING MOVEMENT-WALLPLANE TRIPLE STRAIGHT MOVEMENT;3WRIST FLEX;3ALTERNATING
1D937:0SIGNWRITING MOVEMENT-WALLPLANE TRIPLE ALTERNATING WRIST FLEX;2BEND SMALL;3MEDIUM;3LARGE
1D93B:0SIGNWRITING MOVEMENT-WALLPLANE CORNER SMALL;3MEDIUM;3LARGE;3ROTATION;2CHECK SMALL;3MEDIUM
1D941:0SIGNWRITING MOVEMENT-WALLPLANE CHECK LARGE;2BOX SMALL;3MEDIUM;3LARGE;2ZIGZAG SMALL;3MEDIUM
1D947:0SIGNWRITING MOVEMENT-WALLPLANE ZIGZAG LARGE;2PEAKS SMALL;3MEDIUM;3LARGE
1D94B:0SIGNWRITING TRAVEL-WALLPLANE ROTATION-WALLPLANE SINGLE;3DOUBLE;3ALTERNATING
1D94E:0SIGNWRITING TRAVEL-WALLPLANE ROTATION-FLOORPLANE SINGLE;3DOUBLE;3ALTERNATING;2SHAKING
1D952:0SIGNWRITING TRAVEL-WALLPLANE ARM SPIRAL SINGLE;4DOUBLE;4TRIPLE
1D955:0SIGNWRITING MOVEMENT-DIAGONAL AWAY SMALL;3MEDIUM;3LARGE;3LARGEST;2TOWARDS SMALL;3MEDIUM
1D95B:0SIGNWRITING MOVEMENT-DIAGONAL TOWARDS LARGE;3LARGEST;2BETWEEN AWAY SMALL;4MEDIUM;4LARGE
1D960:0SIGNWRITING MOVEMENT-DIAGONAL BETWEEN AWAY LARGEST;3TOWARDS SMALL;4MEDIUM;4LARGE;4LARGEST
1D965:0SIGNWRITING MOVEMENT-FLOORPLANE SINGLE STRAIGHT SMALL;4MEDIUM;4LARGE;4LARGEST;3WRIST FLEX
1D96A:0SIGNWRITING MOVEMENT-FLOORPLANE DOUBLE STRAIGHT;3WRIST FLEX;3ALTERNATING;4WRIST FLEX;2CROSS
1D96F:0SIGNWRITING MOVEMENT-FLOORPLANE TRIPLE STRAIGHT MOVEMENT;3WRIST FLEX;3ALTERNATING MOVEMENT
1D972:0SIGNWRITING MOVEMENT-FLOORPLANE TRIPLE ALTERNATING WRIST FLEX;2BEND;2CORNER SMALL;3MEDIUM
1D976:0SIGNWRITING MOVEMENT-FLOORPLANE CORNER LARGE;2CHECK;2BOX SMALL;3MEDIUM;3LARGE;2ZIGZAG SMALL
1D97C:0SIGNWRITING MOVEMENT-FLOORPLANE ZIGZAG MEDIUM;3LARGE;2PEAKS SMALL;3MEDIUM;3LARGE
1D981:0SIGNWRITING TRAVEL-FLOORPLANE ROTATION-FLOORPLANE SINGLE;3DOUBLE;3ALTERNATING
1D984:0SIGNWRITING TRAVEL-FLOORPLANE ROTATION-WALLPLANE SINGLE;3DOUBLE;3ALTERNATING;2SHAKING
1D988:0SIGNWRITING MOVEMENT-WALLPLANE CURVE QUARTER SMALL;4MEDIUM;4LARGE;4LARGEST
1D98C:0SIGNWRITING MOVEMENT-WALLPLANE CURVE HALF-CIRCLE SMALL;4MEDIUM;4LARGE;4LARGEST
1D990:0SIGNWRITING MOVEMENT-WALLPLANE CURVE THREE-QUARTER CIRCLE SMALL;5MEDIUM;2HUMP SMALL;3MEDIUM
1D994:0SIGNWRITING MOVEMENT-WALLPLANE HUMP LARGE;2LOOP SMALL;3MEDIUM;3LARGE;3SMALL DOUBLE
1D999:0SIGNWRITING MOVEMENT-WALLPLANE WAVE CURVE DOUBLE SMALL;5MEDIUM;5LARGE;4TRIPLE SMALL;5MEDIUM
1D99E:0SIGNWRITING MOVEMENT-WALLPLANE WAVE CURVE TRIPLE LARGE;2CURVE THEN STRAIGHT
1D9A0:0SIGNWRITING MOVEMENT-WALLPLANE CURVED CROSS SMALL;4MEDIUM;1ROTATION-WALLPLANE SINGLE
1D9A3:0SIGNWRITING ROTATION-WALLPLANE DOUBLE;2ALTERNATE;1MOVEMENT-WALLPLANE SHAKING
1D9A6:0SIGNWRITING MOVEMENT-WALLPLANE CURVE HITTING FRONT WALL;2HUMP HITTING FRONT WALL
1D9A8:0SIGNWRITING MOVEMENT-WALLPLANE LOOP HITTING FRONT WALL;2WAVE HITTING FRONT WALL
1D9AA:0SIGNWRITING ROTATION-WALLPLANE SINGLE HITTING FRONT WALL;2DOUBLE HITTING FRONT WALL
1D9AC:0SIGNWRITING ROTATION-WALLPLANE ALTERNATING HITTING FRONT WALL
1D9AD:0SIGNWRITING MOVEMENT-WALLPLANE CURVE HITTING CHEST;2HUMP HITTING CHEST;2LOOP HITTING CHEST
1D9B0:0SIGNWRITING MOVEMENT-WALLPLANE WAVE HITTING CHEST;1ROTATION-WALLPLANE SINGLE HITTING CHEST
1D9B2:0SIGNWRITING ROTATION-WALLPLANE DOUBLE HITTING CHEST;2ALTERNATING HITTING CHEST
1D9B4:0SIGNWRITING MOVEMENT-WALLPLANE WAVE DIAGONAL PATH SMALL;5MEDIUM;5LARGE
1D9B7:0SIGNWRITING MOVEMENT-FLOORPLANE CURVE HITTING CEILING SMALL;5LARGE
1D9B9:0SIGNWRITING MOVEMENT-FLOORPLANE HUMP HITTING CEILING SMALL DOUBLE;5LARGE DOUBLE
1D9BB:0SIGNWRITING MOVEMENT-FLOORPLANE HUMP HITTING CEILING SMALL TRIPLE;5LARGE TRIPLE
1D9BD:0SIGNWRITING MOVEMENT-FLOORPLANE LOOP HITTING CEILING SMALL SINGLE;5LARGE SINGLE
1D9BF:0SIGNWRITING MOVEMENT-FLOORPLANE LOOP HITTING CEILING SMALL DOUBLE;5LARGE DOUBLE
1D9C1:0SIGNWRITING MOVEMENT-FLOORPLANE WAVE HITTING CEILING SMALL;5LARGE
1D9C3:0SIGNWRITING ROTATION-FLOORPLANE SINGLE HITTING CEILING;2DOUBLE HITTING CEILING
1D9C5:0SIGNWRITING ROTATION-FLOORPLANE ALTERNATING HITTING CEILING
1D9C6:0SIGNWRITING MOVEMENT-FLOORPLANE CURVE HITTING FLOOR SMALL;5LARGE
1D9C8:0SIGNWRITING MOVEMENT-FLOORPLANE HUMP HITTING FLOOR SMALL DOUBLE;5LARGE DOUBLE
1D9CA:0SIGNWRITING MOVEMENT-FLOORPLANE HUMP HITTING FLOOR TRIPLE SMALL TRIPLE;6LARGE TRIPLE
1D9CC:0SIGNWRITING MOVEMENT-FLOORPLANE LOOP HITTING FLOOR SMALL SINGLE;5LARGE SINGLE;5SMALL DOUBLE
1D9CF:0SIGNWRITING MOVEMENT-FLOORPLANE LOOP HITTING FLOOR LARGE DOUBLE;2WAVE HITTING FLOOR SMALL
1D9D1:0SIGNWRITING MOVEMENT-FLOORPLANE WAVE HITTING FLOOR LARGE
1D9D2:0SIGNWRITING ROTATION-FLOORPLANE SINGLE HITTING FLOOR;2DOUBLE HITTING FLOOR
1D9D4:0SIGNWRITING ROTATION-FLOORPLANE ALTERNATING HITTING FLOOR;1MOVEMENT-FLOORPLANE CURVE SMALL
1D9D6:0SIGNWRITING MOVEMENT-FLOORPLANE CURVE MEDIUM;3LARGE;3LARGEST;3COMBINED;2HUMP SMALL
1D9DB:0SIGNWRITING MOVEMENT-FLOORPLANE LOOP SMALL;2WAVE SNAKE;3SMALL;3LARGE
1D9DF:0SIGNWRITING ROTATION-FLOORPLANE SINGLE;2DOUBLE;2ALTERNATING
1D9E2:0SIGNWRITING MOVEMENT-FLOORPLANE SHAKING PARALLEL
1D9E3:0SIGNWRITING MOVEMENT-WALLPLANE ARM CIRCLE SMALL SINGLE;4MEDIUM SINGLE;4SMALL DOUBLE
1D9E6:0SIGNWRITING MOVEMENT-WALLPLANE ARM CIRCLE MEDIUM DOUBLE
1D9E7:0SIGNWRITING MOVEMENT-FLOORPLANE ARM CIRCLE HITTING WALL SMALL SINGLE;6MEDIUM SINGLE
1D9E9:0SIGNWRITING MOVEMENT-FLOORPLANE ARM CIRCLE HITTING WALL LARGE SINGLE;6SMALL DOUBLE
1D9EB:0SIGNWRITING MOVEMENT-FLOORPLANE ARM CIRCLE HITTING WALL MEDIUM DOUBLE;6LARGE DOUBLE
1D9ED:0SIGNWRITING MOVEMENT-WALLPLANE WRIST CIRCLE FRONT SINGLE;5DOUBLE
1D9EF:0SIGNWRITING MOVEMENT-FLOORPLANE WRIST CIRCLE HITTING WALL SINGLE;6DOUBLE
1D9F1:0SIGNWRITING MOVEMENT-WALLPLANE FINGER CIRCLES SINGLE;4DOUBLE
1D9F3:0SIGNWRITING MOVEMENT-FLOORPLANE FINGER CIRCLES HITTING WALL SINGLE;6DOUBLE
1D9F5:0SIGNWRITING DYNAMIC ARROWHEAD SMALL;3LARGE;2FAST;2SLOW;2TENSE;2RELAXED;2SIMULTANEOUS
1D9FC:0SIGNWRITING DYNAMIC SIMULTANEOUS ALTERNATING;2EVERY OTHER TIME;2GRADUAL;1HEAD;2RIM
1DA01:0SIGNWRITING HEAD MOVEMENT-WALLPLANE STRAIGHT;3TILT;2MOVEMENT-FLOORPLANE STRAIGHT
1DA04:0SIGNWRITING HEAD MOVEMENT-WALLPLANE CURVE;2MOVEMENT-FLOORPLANE CURVE;2MOVEMENT CIRCLE
1DA07:0SIGNWRITING FACE DIRECTION POSITION NOSE FORWARD TILTING;5UP OR DOWN;8TILTING
1DA0A:0SIGNWRITING EYEBROWS STRAIGHT UP;3NEUTRAL;3DOWN;1DREAMY EYEBROWS NEUTRAL DOWN;3DOWN NEUTRAL
1DA0F:0SIGNWRITING DREAMY EYEBROWS UP NEUTRAL;3NEUTRAL UP;1FOREHEAD NEUTRAL;2CONTACT;2WRINKLED
1DA14:0SIGNWRITING EYES OPEN;2SQUEEZED;2CLOSED;1EYE BLINK SINGLE;3MULTIPLE;1EYES HALF OPEN
1DA1A:0SIGNWRITING EYES WIDE OPEN;2HALF CLOSED;2WIDENING MOVEMENT;1EYE WINK;1EYELASHES UP;2DOWN
1DA20:0SIGNWRITING EYELASHES FLUTTERING;1EYEGAZE-WALLPLANE STRAIGHT;3DOUBLE;3ALTERNATING
1DA24:0SIGNWRITING EYEGAZE-FLOORPLANE STRAIGHT;3DOUBLE;3ALTERNATING;1EYEGAZE-WALLPLANE CURVED
1DA28:0SIGNWRITING EYEGAZE-FLOORPLANE CURVED;1EYEGAZE-WALLPLANE CIRCLING;1CHEEKS PUFFED;2NEUTRAL
1DA2C:0SIGNWRITING CHEEKS SUCKED;1TENSE CHEEKS HIGH;3MIDDLE;3LOW;1EARS;1NOSE NEUTRAL;2CONTACT
1DA33:0SIGNWRITING NOSE WRINKLES;2WIGGLES;1AIR BLOWING OUT;2SUCKING IN;2BLOW SMALL ROTATIONS
1DA38:0SIGNWRITING AIR SUCK SMALL ROTATIONS;1BREATH INHALE;2EXHALE;1MOUTH CLOSED NEUTRAL;3FORWARD
1DA3D:0SIGNWRITING MOUTH CLOSED CONTACT;2SMILE;3WRINKLED;3OPEN;2FROWN;3WRINKLED;3OPEN;2OPEN CIRCLE
1DA45:0SIGNWRITING MOUTH OPEN FORWARD;3WRINKLED;3OVAL;4WRINKLED;4YAWN;3RECTANGLE;4WRINKLED;4YAWN
1DA4D:0SIGNWRITING MOUTH KISS;3FORWARD;3WRINKLED;2TENSE;3FORWARD;3SUCKED;1LIPS PRESSED TOGETHER
1DA54:0SIGNWRITING LIP LOWER OVER UPPER;2UPPER OVER LOWER;1MOUTH CORNERS;2WRINKLES SINGLE;3DOUBLE
1DA59:0SIGNWRITING TONGUE STICKING OUT FAR;2LICKING LIPS;2TIP BETWEEN LIPS;3TOUCHING INSIDE MOUTH
1DA5D:0SIGNWRITING TONGUE INSIDE MOUTH RELAXED;2MOVES AGAINST CHEEK;2CENTRE STICKING OUT
1DA60:0SIGNWRITING TONGUE CENTRE INSIDE MOUTH;1TEETH;2MOVEMENT;2ON TONGUE;4MOVEMENT;3LIPS
1DA66:0SIGNWRITING TEETH ON LIPS MOVEMENT;2BITE LIPS;1MOVEMENT-WALLPLANE JAW
1DA69:0SIGNWRITING MOVEMENT-FLOORPLANE JAW;1NECK;1HAIR;1EXCITEMENT;1SHOULDER HIP SPINE;3POSITIONS
1DA6F:0SIGNWRITING WALLPLANE SHOULDER HIP MOVE;1FLOORPLANE SHOULDER HIP MOVE
1DA71:0SIGNWRITING SHOULDER TILTING FROM WAIST;1TORSO-WALLPLANE STRAIGHT STRETCH;2CURVED BEND
1DA74:0SIGNWRITING TORSO-FLOORPLANE TWISTING;1UPPER BODY TILTING FROM HIP JOINTS;1LIMB COMBINATION
1DA77:0SIGNWRITING LIMB LENGTH-1;2LENGTH-2;2LENGTH-3;2LENGTH-4;2LENGTH-5;2LENGTH-6;2LENGTH-7
1DA7E:0SIGNWRITING FINGER;1LOCATION-WALLPLANE SPACE;1LOCATION-FLOORPLANE SPACE;1LOCATION HEIGHT
1DA82:0SIGNWRITING LOCATION WIDTH;2DEPTH;2HEAD NECK;2TORSO;2LIMBS DIGITS;1COMMA;1FULL STOP
1DA89:0SIGNWRITING SEMICOLON;1COLON;1PARENTHESIS
1DA9B:0SIGNWRITING FILL MODIFIER-2;2MODIFIER-3;2MODIFIER-4;2MODIFIER-5;2MODIFIER-6
1DAA1:0SIGNWRITING ROTATION MODIFIER-2;2MODIFIER-3;2MODIFIER-4;2MODIFIER-5;2MODIFIER-6;2MODIFIER-7
1DAA7:0SIGNWRITING ROTATION MODIFIER-8;2MODIFIER-9;2MODIFIER-10;2MODIFIER-11;2MODIFIER-12
1DAAC:0SIGNWRITING ROTATION MODIFIER-13;2MODIFIER-14;2MODIFIER-15;2MODIFIER-16
1DF00:0LATIN SMALL LETTER FENG DIGRAPH WITH TRILL;3REVERSED SCRIPT G
1DF02:0LATIN LETTER SMALL CAPITAL TURNED G;1SMALL LETTER REVERSED K
1DF04:0LATIN LETTER SMALL CAPITAL L WITH BELT;1SMALL LETTER LEZH WITH RETROFLEX HOOK
1DF06:0LATIN SMALL LETTER TURNED Y WITH BELT;3REVERSED ENG
1DF08:0LATIN SMALL LETTER TURNED R WITH LONG LEG AND RETROFLEX HOOK
1DF09:0LATIN SMALL LETTER T WITH HOOK AND RETROFLEX HOOK
1DF0A:0LATIN LETTER RETROFLEX CLICK WITH RETROFLEX HOOK;1SMALL LETTER ESH WITH DOUBLE BAR
1DF0C:0LATIN SMALL LETTER ESH WITH DOUBLE BAR AND CURL;3TURNED T WITH CURL
1DF0E:0LATIN LETTER INVERTED GLOTTAL STOP WITH CURL;2STRETCHED C WITH CURL;2SMALL CAPITAL TURNED K
1DF11:0LATIN SMALL LETTER L WITH FISHHOOK;3DEZH DIGRAPH WITH PALATAL HOOK
1DF13:0LATIN SMALL LETTER L WITH BELT AND PALATAL HOOK;3ENG WITH PALATAL HOOK
1DF15:0LATIN SMALL LETTER TURNED R WITH PALATAL HOOK;3R WITH FISHHOOK AND PALATAL HOOK
1DF17:0LATIN SMALL LETTER TESH DIGRAPH WITH PALATAL HOOK;3EZH WITH PALATAL HOOK
1DF19:0LATIN SMALL LETTER DEZH DIGRAPH WITH RETROFLEX HOOK;3I WITH STROKE AND RETROFLEX HOOK
1DF1B:0LATIN SMALL LETTER O WITH RETROFLEX HOOK;3TESH DIGRAPH WITH RETROFLEX HOOK
1DF1D:0LATIN SMALL LETTER C WITH RETROFLEX HOOK;3S WITH CURL"

end CodeTree.Text
