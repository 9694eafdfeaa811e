/-!
# Signs

The names of the components of Tangut, of musical, mathematical and sign writing signs, and of some
minor scripts: the code points from 17000 to 1EFFF.
-/

namespace LineScript.Text.Name

/-- The names in the order of their code points; `Reading.entry` says how they are written. -/
def signs : List String :=
  ["18800:0TANGUT COMPONENT-001*767,1aff0:lo o MINNAN TONE-2*3,1aff5:3TONE-7*1",
   "NASALIZED TONE-1*4,1affd:4TONE-7*1,1b000:2az E,0jr o az YE,HENTAIGANA o A-1*2,2A-WO,I-1*3",
   "U-1*4,E-2*4,O-1*2,KA-1*10,KA-KE,KI-1*7,KU-1*6,KE-1*5,KO-1*2,KO-KI,SA-1*7,SI-1*5,SU-1*7",
   "SE-1*4,SO-1*6,TA-1*3,TI-1*6,TU-1*3,TU-TO,TE-1*8,TO-1*5,TO-RA,NA-1*8,NI-1*6,NI-TE,NU-1*2",
   "NE-1*5,NE-KO,NO-1*4,HA-1*10,HI-1*6,HU-1*2,HE-1*6,HO-1*7,MA-1*6,MI-1*6,MU-1*3,ME-1*1,ME-MA",
   "MO-1*5,YA-1*4,YA-YO,YU-1*3,YO-1*5,RA-1*3,RI-1*6,RU-1*5,RE-1*3,RO-1*5,WA-1*4,WI-1*4,WE-1*3",
   "WO-1*6,N-MU-MO-1*1,0jr o az WU,lo o az YI,3YE,WU,1b150:0jr o s WI,3WE,WO,1b164:0lo o s WI",
   "3WE,WO,N,1bc00:0DUPLOYAN o H,2X,P,T,F,K,L,B,D,V,G,R,P N,D S,F N,K M,R S,TH,SLOAN DH,DH,KK",
   "SLOAN J,HL,LH,RH,M,N,J,S,M N,N M,J M,S J,M z ft,N z ft,J z ft,4fv kl b a,2S z ft,5d,2M S,N S",
   "J S,S S,M N S,N M S,J M S,S J S,J S z ft,3N,4S,2S T,4R,3P,4R,2T S,3R S,2W,WH,W R,S N,3M",
   "2K R S,G R S,S K,4R,2A,SLOAN OW,OA,O,AOU,I,E,IE,uf I,UI,EE,SLOAN EH,ROMANIAN I,SLOAN EE,na I",
   "YE,U,EU,XW,U N,na U,ROMANIAN U,UH,SLOAN U,OOH,OW,OU,WA,WO,WI,WEI,WOW,NASAL U,3O,I,A",
   "2PERNIN AN,3AM,2SLOAN EN,3AN,ON,2yz M,1bc70:1AFFIX m j ti,2MID j ti,p j ti,nd x ti,MID x ti",
   "jp x ti,bi ti,3mo ti,TANGENT,wj,E ju,I ju,TANGENT ju,1bc80:2jp ae,3TIGHT ae,ip,na ip,ft,dg",
   "mv,ze,x,1bc90:2nd ae,3TIGHT ae,ip,na ip,ft,dg,mv,ze,x,c,1bc9c:1r O z ef,THICK o SELECTOR",
   "g nm,rm CHINOOK id vr,0SHORTHAND FORMAT o OVERLAP,2CONTINUING OVERLAP,fz STEP,UP STEP",
   "1cf00:0ZNAMENNY dq nm GORAZDO NIZKO S mc ON m,3NIZKO S mc ON m,TSATA ON m,GORAZDO NIZKO ON m",
   "NIZKO ON m,SREDNE ON m,MALO rd ON m,rd ON m,VYSOKO ON m,MALO rd S lv ON m,rd S lv ON m",
   "VYSOKO S lv ON m,GORAZDO NIZKO S mc ON p,NIZKO S mc ON p,TSATA ON p,GORAZDO NIZKO ON p",
   "NIZKO ON p,SREDNE ON p,MALO rd ON p,rd ON p,VYSOKO ON p,MALO rd S lv ON p,rd S lv ON p",
   "VYSOKO S lv ON p,TSATA S mc,MALO rd S mc,STRANNO MALO rd,rd S mc,4STRANNO,3VYSOKO S mc",
   "MALO rd STRANNO,GORAZDO VYSOKO,ZELO,ON,RAVNO,TIKHAYA,BORZAYA,UDARKA,PODVERTKA,LOMKA,KUPNAYA",
   "KACHKA,ZEVOK,SKOBA,RAZSEKA,KRYZH ON m,1cf30:2TONAL RANGE nm MRACHNO,5SVETLO,TRESVETLO",
   "2nm ZADERZHKA,3DEMESTVENNY ZADERZHKA,OTSECHKA,PODCHASHIE,4z x t,3CHASHKA,4POLNAYA,3OBLACHKO",
   "SOROCHYA NOZHKA,TOCHKA,DVOETOCHIE,2ATTACHING x OMET,nm eo OMET,3KRYZH,2ne TONAL RANGE ki",
   "1PRIZNAK ny LEVEL-2*1,3DIRECTION FLIP,KRYZH,ROG,1cf50:1NEUME KRYUK,3TIKHY,2PARAKLIT",
   "DVA V CHELNU,KLYUCH,ZANOZHEK,STOPITSA,3S OCHKOM,2PEREVODKA,3on,2STOPITSA z SOROCHYA NOZHKA",
   "CHELYUSTKA,PALKA,zu,GOLUBCHIK BORZY,3TIKHY,MRACHNY,SVETLY,TRESVETLY,2VRAKHIYA PROSTAYA",
   "3MRACHNAYA,we,xq,ly PROSTAYA,4MRACHNAYA,we,xq,2g zu,sd CHELYUSTKA,DERBITSA,KHAMILO,CHASHKA",
   "PODCHASHIE,SKAMEYTSA MRACHNAYA,3we,xq,TIKHAYA,2DEMESTVENNY KLYUCH,SKAMEYTSA ly we",
   "3KLYUCHENEPOSTOYANNAYA,ly TIKHAYA,DVOECHELNAYA PROSTAYA,4we,on,ly,2SLOZHITIE,3S zv,ZAKRYTOE",
   "S mc,2KRYZH,ROG,FITA,KOBYLA,ZMEYTSA,STATYA,3S zv,4mc,zv I mc,mc I zv,3ZAKRYTAYA,4S zv",
   "3S ROGOM,4DVUMYA ZAPYATYMI,zv I PODCHASHIEM,2POLKULIZMY,STATYA on,STRELA PROSTAYA",
   "3MRACHNOTIKHAYA,KRYZHEVAYA,POLUPOVODNAYA,POVODNAYA,on,KLYUCHEPOVODNAYA,KLYUCHENEPOSTOYANNAYA",
   "TIKHAYA PUTNAYA,DVOECHELNAYA,DVOECHELNOKRYZHEVAYA,DVOECHELNOPOVODNAYA,DVOECHELNAYA ly",
   "DVOECHELNOPOVODNAYA ly,GROMNAYA z uo zu,is z uo zu,GROMNAYA,is,4z g zu,3GROMOKRYZHEVAYA",
   "4POVODNAYA,2MECHIK,3POVODNY,KLYUCHEVOY,KLYUCHEPOVODNY,KLYUCHENEPOSTOYANNY",
   "2STRELA TRYASOGLASNAYA,3TRYASOPOVODNAYA,TRYASOSTRELNAYA,2OSOKA,3we,xq,KRYUKOVAYA we,ly we",
   "4on,2STRELA KRYUKOVAYA,4POVODNAYA,GROMNAYA z uo zu,is z uo zu,GROMNAYA,is,5z g zu",
   "4GROMOKRYZHEVAYA,5POVODNAYA,4TRYASKA,2KUFISMA,OBLAKO,DUDA,NEMKA,PAUK",
   "1d000:0BYZANTINE oj u rl,3DASEIA,qp,OXEIA gl,4DIPLI,3VAREIA gl,4DIPLI,3KATHISTI,SYRMATIKI",
   "PARAKLITIKI,YPOKRISIS,4DIPLI,3KREMASTI,APESO gl,EXO gl,TELEIA,lq,APOSTROFOS,4DIPLI,3SYNEVMA",
   "THITA,OLIGON ba,GORGON ba,PSILON,CHAMILON,VATHY,ISON ba,KENTIMA ba,lq ba,SAXIMATA,PARICHON",
   "STAVROS APODEXIA,OXEIAI ba,VAREIAI ba,APODERMA ba,APOTHEMA,KLASMA,REVMA,PIASMA ba,TINAGMA",
   "ANATRICHISMA,SEISMA,SYNAGMA ba,4META STAVROU,3OYRANISMA ba,THEMA,LEMOI,DYO,TRIA,TESSERA",
   "KRATIMATA,APESO EXO om,FTHORA ba,IMIFTHORA,TROMIKON ba,KATAVA TROMIKON,PELASTON,PSIFISTON",
   "KONTEVMA,CHOREVMA ba,RAPISMA,PARAKALESMA ba,PARAKLITIKI ba,ICHADIN,NANA,PETASMA",
   "KONTEVMA ALLO,TROMIKON ALLO,STRAGGISMATA,GRONTHISMATA,ISON om,OLIGON om,OXEIA om,PETASTI",
   "KOUFISMA,PETASTOKOUFISMA,KRATIMOKOUFISMA,PELASTON om,lq om ANO,KENTIMA om ANO,YPSILI",
   "APOSTROFOS om,APOSTROFOI SYNDESMOS om,YPORROI,KRATIMOYPORROON,ELAFRON,CHAMILI,MIKRON ISON",
   "VAREIA om,PIASMA om,PSIFISTON om,OMALON,ANTIKENOMA,LYGISMA,PARAKLITIKI om,PARAKALESMA om",
   "ETERON PARAKALESMA,KYLISMA,ANTIKENOKYLISMA,TROMIKON om,EKSTREPTON,SYNAGMA om,SYRMA",
   "CHOREVMA om,EPEGERMA,SEISMA om,XIRON KLASMA,TROMIKOPSIFISTON,PSIFISTOLYGISMA,TROMIKOLYGISMA",
   "TROMIKOPARAKALESMA,PSIFISTOPARAKALESMA,TROMIKOSYNAGMA,PSIFISTOSYNAGMA,GORGOSYNTHETON",
   "ARGOSYNTHETON,ETERON ARGOSYNTHETON,OYRANISMA om,THEMATISMOS ESO,4EXO,3THEMA APLOUN",
   "THES KAI APOTHES,KATAVASMA,ENDOFONON,YFEN KATO,4ANO,3STAVROS,KLASMA ANO,DIPLI ba,KRATIMA ba",
   "4ALLO,om,3APODERMA om,APLI,DIPLI,TRIPLI,TETRAPLI,KORONIS,LEIMMA ENOS CHRONOU,4DYO CHRONON",
   "TRION CHRONON,TESSARON CHRONON,IMISEOS CHRONOU,3GORGON om ANO,4PARESTIGMENON ARISTERA,5DEXIA",
   "3DIGORGON,4PARESTIGMENON ARISTERA KATO,6ANO,5DEXIA,3TRIGORGON,ARGON,IMIDIARGON,DIARGON",
   "AGOGI POLI ARGI,4ARGOTERI,ARGI,METRIA,MESI,GORGI,GORGOTERI,POLI GORGI,3MARTYRIA PROTOS ka",
   "4ALLI PROTOS ka,DEYTEROS ka,ALLI DEYTEROS ka,TRITOS ka,TRIFONIAS,TETARTOS ka,5LEGETOS ka",
   "4LEGETOS ka,PLAGIOS ka,3ISAKIA TELOUS ICHIMATOS,APOSTROFOI TELOUS ICHIMATOS",
   "FANEROSIS TETRAFONIAS,4MONOFONIAS,DIFONIAS,3MARTYRIA VARYS ka,4PROTOVARYS ka",
   "PLAGIOS TETARTOS ka,3GORTHMIKON N APLOUN,5DIPLOUN,3ENARXIS KAI FTHORA VOU,IMIFONON",
   "IMIFTHORON,FTHORA ba DEYTEROU ICHOU,4DIATONIKI PA,5NANA,4NAOS ka,DIATONIKI DI",
   "SKLIRON DIATONON DI,DIATONIKI KE,5ZO,NI KATO,6ANO,4MALAKON CHROMA DIFONIAS,6MONOFONIAS",
   "3FHTORA SKLIRON CHROMA VASIS,FTHORA SKLIRON CHROMA SYNAFI,4NENANO,3CHROA ZYGOS,4KLITON",
   "SPATHI,3FTHORA I YFESIS TETARTIMORION,4ENARMONIOS ANTIFONIA,3YFESIS TRITIMORION",
   "DIESIS TRITIMORION,4TETARTIMORION,APLI DYO fr,MONOGRAMMOS TESSERA fr,DIGRAMMOS EX fr",
   "TRIGRAMMOS OKTO fr,3YFESIS APLI DYO fr,4MONOGRAMMOS TESSERA fr,DIGRAMMOS EX fr",
   "TRIGRAMMOS OKTO fr,3GENIKI DIESIS,4YFESIS,3DIASTOLI APLI MIKRI,5MEGALI,4DIPLI,THESEOS",
   "3SIMANSIS THESEOS,5DISIMOU,TRISIMOU,TETRASIMOU,4ARSEOS,5DISIMOU,TRISIMOU,TETRASIMOU",
   "3DIGRAMMA GG,DIFTOGGOS OU,STIGMA,ARKTIKO PA,4VOU,GA,DI,KE,ZO,NI,3lq om MESO,KENTIMA om MESO",
   "lq om KATO,KENTIMA om KATO,KLASMA KATO,GORGON om KATO,1d100:0oj u uo br,2g br,h br,sc h br",
   "ew br,uf br,m REPEAT r,p REPEAT r,REPEAT fv,DAL SEGNO,DA CAPO,SEGNO,CODA,REPEATED FIGURE-1*2",
   "FERMATA,3d,2BREATH nm,CAESURA,BRACE,cg,ONE-LINE STAFF,TWO-LINE STAFF,THREE-LINE STAFF",
   "FOUR-LINE STAFF,FIVE-LINE STAFF,SIX-LINE STAFF,SIX-STRING FRETBOARD,FOUR-STRING FRETBOARD",
   "G CLEF,4OTTAVA ALTA,5BASSA,2C CLEF,F CLEF,4OTTAVA ALTA,5BASSA,2DRUM CLEF-1*1,1d129:og np sa",
   "g SHARP,3FLAT,2FLAT UP,3fz,2NATURAL UP,3fz,2SHARP UP,3fz,2rr xj SHARP,4FLAT,2COMMON TIME",
   "CUT TIME,OTTAVA ALTA,3BASSA,2QUINDICESIMA ALTA,3BASSA,2MULTI sa,WHOLE sa,iv sa,rr sa,gi sa",
   "us sa,xb sa,SIXTY-FOURTH sa,ps jx TWENTY-EIGHTH sa,X pe,qz pe,dg X pe,vh pe y,4e,2xr pe UP y",
   "5e,4m y,5e,4p y,5e,4fz y,5e,4UP p y,6e,2oa pe y,4e,2TRIANGLE-ROUND pe fz y,5e,2qk pe,VOID pe",
   "pe e,NULL pe,CLUSTER pe y,4e,2ch,WHOLE pd,iv pd,rr pd,gi pd,us pd,xb pd,SIXTY-FOURTH pd",
   "ps jx TWENTY-EIGHTH pd,dq STEM,3SPRECHGESANG STEM,TREMOLO-1*2,2FINGERED TREMOLO-1*2",
   "dq AUGMENTATION ft,3FLAG-1*4,2BEGIN BEAM,gp BEAM,BEGIN TIE,gp TIE,BEGIN SLUR,gp SLUR",
   "BEGIN PHRASE,gp PHRASE,dq ac,3STACCATO,TENUTO,STACCATISSIMO,MARCATO,MARCATO-STACCATO",
   "ACCENT-STACCATO,LOURE,2ARPEGGIATO UP,3fz,2dq DOIT,3RIP,FLIP,SMEAR,BEND,g xk,xt xk",
   "2RINFORZANDO,SUBITO,Z,PIANO,MEZZO,FORTE,CRESCENDO,DECRESCENDO,GRACE pd uw,4NO uw,2TR,TURN",
   "kr TURN,TURN uw,3UP,2pz STROKE-1*10,HAUPTSTIMME,NEBENSTIMME,gp OF STIMME,DEGREE uw,dq fz BOW",
   "3UP BOW,HARMONIC,SNAP PIZZICATO,2PEDAL nm,3UP nm,2iv PEDAL nm,GLISSANDO UP,3fz",
   "2z FINGERNAILS,DAMP,3ALL,2MAXIMA,LONGA,BREVIS,SEMIBREVIS y,3e,2MINIMA,3e,2SEMIMINIMA y,3e",
   "2FUSA y,3e,2LONGA PERFECTA sa,3IMPERFECTA sa,2BREVIS sa,SEMIBREVIS sa,MINIMA sa",
   "SEMIMINIMA sa,TEMPUS PERFECTUM CUM PROLATIONE PERFECTA,6IMPERFECTA,PERFECTA DIMINUTION-1",
   "3IMPERFECTUM CUM PROLATIONE PERFECTA,6IMPERFECTA,7DIMINUTION-1*2,2CROIX,GREGORIAN C CLEF",
   "3F CLEF,2vh B,VIRGA,PODATUS,CLIVIS,SCANDICUS,CLIMACUS,TORCULUS,PORRECTUS,3FLEXUS",
   "2SCANDICUS FLEXUS,TORCULUS RESUPINUS,PES SUBPUNCTIS,KIEVAN C CLEF,3gp OF PIECE,h pd",
   "RECITATIVE nm,WHOLE pd,iv pd,rr pd STEM fz,6UP,3gi pd STEM fz,6UP,3FLAT r,2SORI,KORON",
   "1d200:0ir VOCAL pb SYMBOL-1*23,3SYMBOL-50*4,1INSTRUMENTAL pb SYMBOL-1*1,3SYMBOL-4*1",
   "SYMBOL-7*1,SYMBOL-11*3,SYMBOL-17*2,SYMBOL-23*4,SYMBOL-29*1,SYMBOL-32,SYMBOL-36*4,SYMBOL-42*1",
   "SYMBOL-45,SYMBOL-47*7,0dq ir oj TRISEME,3TETRASEME,PENTASEME,0ir oj LEIMMA,1d2e0:MAYAN pi zx",
   "2ps,yg,v,hz,hr,uq,tr,gg,ot,wp,gn,yd,wz,ia,hi,ur,ts,gh,ou,1d300:0nz hw gd",
   "DIGRAM hw HEAVENLY gd,2HUMAN gd,EARTHLY HEAVEN,3HUMAN,2gd,0TETRAGRAM hw cv,2id dg,MIRED",
   "BARRIER,KEEPING s,CONTRARIETY,ASCENT,OPPOSITION,BRANCHING OUT,DEFECTIVENESS OR DISTORTION",
   "DIVERGENCE,YOUTHFULNESS,INCREASE,PENETRATION,REACH,dw,jt BACK,WAITING,FOLLOWING,ADVANCE",
   "RELEASE,RESISTANCE,EASE,JOY,CONTENTION,ENDEAVOUR,DUTIES,CHANGE,DECISIVENESS,cd RESOLUTION",
   "PACKING,LEGION,CLOSENESS,KINSHIP,GATHERING,STRENGTH,PURITY,FULLNESS,RESIDENCE,LAW OR MODEL",
   "RESPONSE,GOING TO MEET,ENCOUNTERS,STOVE,GREATNESS,ENLARGEMENT,PATTERN,RITUAL,FLIGHT",
   "VASTNESS OR WASTING,CONSTANCY,np,ETERNITY,UNITY,DIMINISHMENT,dn oc,GUARDEDNESS,GATHERING IN",
   "MASSING,ACCUMULATION,EMBELLISHMENT,DOUBT,WATCH,SINKING,INNER,DEPARTURE,DARKENING,DIMMING",
   "EXHAUSTION,SEVERANCE,STOPPAGE,HARDNESS,COMPLETION,CLOSURE,FAILURE,AGGRAVATION,COMPLIANCE",
   "ON ws VERGE,DIFFICULTIES,LABOURING,FOSTERING,1d360:0COUNTING ROD UNIT fm ps,4yg,v,hz,hr,uq",
   "tr,gg,ot,2TENS fm ps,4yg,v,hz,hr,uq,tr,gg,ot,0kc TALLY nm ps,3yg,v,hz,hr,0TALLY nm ps,2hr",
   "1d400:0no cd f A,3B,C,D,E,F,G,H,I,J,K,L,M,N,O,P,Q,R,S,T,U,V,W,X,Y,Z,2s A,3B,C,D,E,F,G,H,I,J",
   "K,L,M,N,O,P,Q,R,S,T,U,V,W,X,Y,Z,1kv f A,3B,C,D,E,F,G,H,I,J,K,L,M,N,O,P,Q,R,S,T,U,V,W,X,Y,Z",
   "2s A,3B,C,D,E,F,G,1d456:I,J,K,L,M,N,O,P,Q,R,S,T,U,V,W,X,Y,Z,1cd kv f A,4B,C,D,E,F,G,H,I,J,K",
   "L,M,N,O,P,Q,R,S,T,U,V,W,X,Y,Z,3s A,4B,C,D,E,F,G,H,I,J,K,L,M,N,O,P,Q,R,S,T,U,V,W,X,Y,Z",
   "1th f A,1d49e:3C,D,1d4a2:G,1d4a5:J,K,1d4a9:N,O,P,Q,1d4ae:S,T,U,V,W,X,Y,Z,2s A,3B,C,D,1d4bb:F",
   "1d4bd:H,I,J,K,L,M,N,1d4c5:P,Q,R,S,T,U,V,W,X,Y,Z,1cd th f A,4B,C,D,E,F,G,H,I,J,K,L,M,N,O,P,Q",
   "R,S,T,U,V,W,X,Y,Z,3s A,4B,C,D,E,F,G,H,I,J,K,L,M,N,O,P,Q,R,S,T,U,V,W,X,Y,Z,1FRAKTUR f A,3B",
   "1d507:D,E,F,G,1d50d:J,K,L,M,N,O,P,Q,1d516:S,T,U,V,W,X,Y,1d51e:2s A,3B,C,D,E,F,G,H,I,J,K,L,M",
   "N,O,P,Q,R,S,T,U,V,W,X,Y,Z,1fy f A,3B,1d53b:D,E,F,G,1d540:I,J,K,L,M,1d546:O,1d54a:S,T,U,V,W,X",
   "Y,1d552:2s A,3B,C,D,E,F,G,H,I,J,K,L,M,N,O,P,Q,R,S,T,U,V,W,X,Y,Z,1cd FRAKTUR f A,4B,C,D,E,F,G",
   "H,I,J,K,L,M,N,O,P,Q,R,S,T,U,V,W,X,Y,Z,3s A,4B,C,D,E,F,G,H,I,J,K,L,M,N,O,P,Q,R,S,T,U,V,W,X,Y",
   "Z,1td f A,3B,C,D,E,F,G,H,I,J,K,L,M,N,O,P,Q,R,S,T,U,V,W,X,Y,Z,2s A,3B,C,D,E,F,G,H,I,J,K,L,M,N",
   "O,P,Q,R,S,T,U,V,W,X,Y,Z,2cd f A,4B,C,D,E,F,G,H,I,J,K,L,M,N,O,P,Q,R,S,T,U,V,W,X,Y,Z,3s A,4B,C",
   "D,E,F,G,H,I,J,K,L,M,N,O,P,Q,R,S,T,U,V,W,X,Y,Z,2kv f A,4B,C,D,E,F,G,H,I,J,K,L,M,N,O,P,Q,R,S,T",
   "U,V,W,X,Y,Z,3s A,4B,C,D,E,F,G,H,I,J,K,L,M,N,O,P,Q,R,S,T,U,V,W,X,Y,Z,2cd kv f A,5B,C,D,E,F,G",
   "H,I,J,K,L,M,N,O,P,Q,R,S,T,U,V,W,X,Y,Z,4s A,5B,C,D,E,F,G,H,I,J,K,L,M,N,O,P,Q,R,S,T,U,V,W,X,Y",
   "Z,1MONOSPACE f A,3B,C,D,E,F,G,H,I,J,K,L,M,N,O,P,Q,R,S,T,U,V,W,X,Y,Z,2s A,3B,C,D,E,F,G,H,I,J",
   "K,L,M,N,O,P,Q,R,S,T,U,V,W,X,Y,Z,1kv s fu I,4J,1d6a8:1cd f al,3bv,ie,fb,gr,zy,ETA,wv,ks,lg,mf",
   "MU,NU,XI,pq,PI,se,wv u,uj,TAU,yq,qt,dd,PSI,pp,2NABLA,s al,3bv,ie,fb,gr,zy,ETA,wv,ks,lg,mf,MU",
   "NU,XI,pq,PI,se,h uj,uj,TAU,yq,qt,dd,PSI,pp,2qm fk,gr u,wv u,lg u,qt u,se u,PI u,1kv f al,3bv",
   "ie,fb,gr,zy,ETA,wv,ks,lg,mf,MU,NU,XI,pq,PI,se,wv u,uj,TAU,yq,qt,dd,PSI,pp,2NABLA,s al,3bv,ie",
   "fb,gr,zy,ETA,wv,ks,lg,mf,MU,NU,XI,pq,PI,se,h uj,uj,TAU,yq,qt,dd,PSI,pp,2qm fk,gr u,wv u,lg u",
   "qt u,se u,PI u,1cd kv f al,4bv,ie,fb,gr,zy,ETA,wv,ks,lg,mf,MU,NU,XI,pq,PI,se,wv u,uj,TAU,yq",
   "qt,dd,PSI,pp,3NABLA,s al,4bv,ie,fb,gr,zy,ETA,wv,ks,lg,mf,MU,NU,XI,pq,PI,se,h uj,uj,TAU,yq,qt",
   "dd,PSI,pp,3qm fk,gr u,wv u,lg u,qt u,se u,PI u,1td cd f al,4bv,ie,fb,gr,zy,ETA,wv,ks,lg,mf",
   "MU,NU,XI,pq,PI,se,wv u,uj,TAU,yq,qt,dd,PSI,pp,3NABLA,s al,4bv,ie,fb,gr,zy,ETA,wv,ks,lg,mf,MU",
   "NU,XI,pq,PI,se,h uj,uj,TAU,yq,qt,dd,PSI,pp,3qm fk,gr u,wv u,lg u,qt u,se u,PI u,kv f al,5bv",
   "ie,fb,gr,zy,ETA,wv,ks,lg,mf,MU,NU,XI,pq,PI,se,wv u,uj,TAU,yq,qt,dd,PSI,pp,4NABLA,s al,5bv,ie",
   "fb,gr,zy,ETA,wv,ks,lg,mf,MU,NU,XI,pq,PI,se,h uj,uj,TAU,yq,qt,dd,PSI,pp,4qm fk,gr u,wv u,lg u",
   "qt u,se u,PI u,1cd f fl,2s fl,1d7ce:fm zx,3ps,yg,v,hz,hr,uq,tr,gg,ot,1fy fm zx,3ps,yg,v,hz",
   "hr,uq,tr,gg,ot,1td fm zx,3ps,yg,v,hz,hr,uq,tr,gg,ot,2cd fm zx,4ps,yg,v,hz,hr,uq,tr,gg,ot",
   "1MONOSPACE fm zx,3ps,yg,v,hz,hr,uq,tr,gg,ot,0SIGNWRITING jc kh,1iz kh,ja kh,jf kh,jd kh",
   "iy kh,jc kh bt,iz kh bt,jc xf yk kh bt,2kh rw KNUCKLE,3CUPPED,jq,4nd,1iz kh HINGE,jc kh nu",
   "iz kh nu,jc kh nu bt,4rw KNUCKLES,jq,3UP nu jq,jq nu UP,nu du,5kh bt,nu bt,CUPPED,jq,4eg",
   "1iz kh nu eg,jc nu bt qb kh,2kh bt qb nu,3nu xf,1iz kh nu xf,jc kh nu vs xf bt,4bt xf vs",
   "xf bt,jq vg xf uh,3UP nu jq xf uh,7du,3jq nu UP xf uh,nu UP vg xf hy,4xf CUPPED,5dh,HOOKED",
   "jq,2xf bx kh nu vs,kh nu du xf uh,7du,bt,2nu xf HOOKED kh UP,kh xf HOOKED nu UP",
   "3nu du jq xf uh,4eg xf uh,du xf hy,5CUPPED xf hy,2nu xf CUPPED kh UP,kh xf CUPPED nu UP",
   "nu xf dh kh UP,6jq,2kh xf ANGLED OUT nu UP,5IN nu UP,4dh nu UP,3nu xf du jq,5ANGLED OUT,6",
   "2nu xf ANGLED OUT kh UP,7eg,5kh UP,2kh xf HOOKED nu jq,1HAND-FLAT hz ho,4bt,jq,du,5SPLIT",
   "1HAND-CLAW hz ho du,jc hz ho du bt,jd hz ho du,HAND-FLAT hr ho vg,2HEEL hr ho vg",
   "hr ho vg hz bt,HEEL hr ho vg hz bt,hr ho vg bt,HEEL hr ho vg bt,hr ho vg xf hy,1ja hr ho vg",
   "5pu,1jd hr ho vg pu,jf hr ho vg,HAND-FLAT hr ho vg jq,6xf uh,NO xf,2,bx PALM FACINGS,HEEL",
   "xf uh,HEEL xf uh,xf bt,3hy,2SPLIT kh xf uh,3cv,4xf uh,6bt,3mw,1HAND-CLAW,2xf uh,NO xf,xf hy",
   "1je CURLICUE,2,1ja pu,2,pu xf uh,xf uh,pu NO xf,NO xf,pu xf hy,xf hy,1jb pu,2,1iz,jf,2xf uh",
   "NO xf,xf hy,1jd pu,3xf hy,2,s,pu xf uh,xf uh,pu NO xf,NO xf,xf uh TOUCHING kh,3bx nu sq,1iy",
   "jc kh nu sq,iz kh nu sq,jd kh nu sq,iy kh nu sq,jd mw,jc kh nu sq bt,5du,1jd kh nu sq du",
   "jc mw fz,4RIPPLE vs,5eo,4OTHERS dh,3UP,2xf yk mw UP,1iz mw UP,jf mw UP,iy mw UP",
   "jc mw rw KNUCKLE,3bt,TOUCHES xf,xf,1jd mw xf,jc mw kh xf,jd mw kh xf,iy mw kh xf kh xf OUT,7",
   "1jc mw kh,iz mw kh,jd mw kh,iy mw kh,jc kh nu mw,iz kh nu mw,jd kh nu mw,2sq,1iy kh nu mw",
   "jc kh nu ef mw,iz kh nu ef mw,jc sq fz,jd sq fz kh xf ju nu,iy sq fz nu xf kh ef,jc sq UP",
   "3rw KNUCKLE,mw,1iz sq mw,jf sq mw,iy sq mw,jc sq nu,4du,rw KNUCKLES,3kh,xf,1je sq xf",
   "jc kh sq mw,iz kh sq mw,jb kh sq mw ON,je kh sq mw OUT,5IN,yk,1ja kh sq mw,jd kh sq mw",
   "iy kh sq mw OUT,5,1jc nu fz,jd nu,jc nu UP,iz nu UP,jc nu rw KNUCKLE,3UP xf uh,1je nu xf",
   "jc nu xf mw,3mw,sq mw,1iz nu sq mw,jb nu sq mw ON,ja nu sq mw,jd nu sq mw,iy nu sq mw OUT",
   "5IN,5,1iz nu sq mw bt,HAND-CLAW nu sq mw du,6uh,1je nu sq mw du OUT,6IN,6,1jd kh jq",
   "jc kh xf uh,jd kh xf uh,jc kh xf uh xf ff,6du,bt,5kh bt,BOTH bt,kh HINGE,4hy kh vs,6bt,4ju",
   "CURLICUE,en xf kl,1HAND-CLAW kh xf en xf kl,jc kh xf en xf yk,4dg,1ja kh xf,4pu,1jd kh xf pu",
   "4mh,4,s,1iy kh xf OUT,4IN,4,1jc xf,3HEEL,uh ff,4du,bt,3hy,bx kh nu,4nu sq,sq mw,3yk yg ho",
   "qb yg ho,yk v ho,4hz ho,3qb hz rw KNUCKLES,2,HEEL,1TOUCH uo,2og,bx,1GRASP uo,2og,bx",
   "1STRIKE uo,2og,bx,1BRUSH uo,2og,bx,1RUB uo,2og,bx,1SURFACE SYMBOLS,2bx,1SQUEEZE mh uo,2s uo",
   "mh og,s og,tq,1FLICK mh uo,2s uo,mh og,s og,tq,1SQUEEZE FLICK an,MOVEMENT-HINGE UP fz mh,4s",
   "3tq,2fz tq,UP fz an mh,5s,2uh TO uh tg,1of hm dw,oe hm dw,of uo vs s,4ns,mh,mi,3zl FLEX",
   "2g vs,3zl FLEX,an,4zl FLEX,2ef,xt vs od,3zl FLEX,an,4zl FLEX,2BEND s,3ns,mh,2eb s,3ns,mh",
   "ROTATION,2db s,3ns,mh,2cf s,3ns,mh,2zz s,3ns,mh,2PEAKS s,3ns,mh,1TRAVEL-WALLPLANE sv uo,3g",
   "an,2su uo,3g,an,2SHAKING,ARM SPIRAL uo,4g,xt,1MOVEMENT-DIAGONAL AWAY s,3ns,mh,mi,2TOWARDS s",
   "3ns,mh,mi,2bx AWAY s,4ns,mh,mi,3TOWARDS s,4ns,mh,mi,1oe uo vs s,4ns,mh,mi,3zl FLEX,2g vs",
   "3zl FLEX,an,4zl FLEX,2ef,xt vs od,3zl FLEX,an od,4zl FLEX,2BEND,eb s,3ns,mh,2db,cf s,3ns,mh",
   "2zz s,3ns,mh,2PEAKS s,3ns,mh,1TRAVEL-FLOORPLANE su uo,3g,an,2sv uo,3g,an,2SHAKING",
   "1of en rr s,4ns,mh,mi,3HALF-CIRCLE s,4ns,mh,mi,3THREE-QUARTER dg s,5ns,2HUMP s,3ns,mh,2nc s",
   "3ns,mh,s g,2ze en g s,5ns,mh,4xt s,5ns,mh,2en THEN vs,eo ef s,4ns,1sv uo,2g,am,1of SHAKING",
   "2en js FRONT WALL,HUMP js FRONT WALL,nc js FRONT WALL,ze js FRONT WALL,1sv uo js FRONT WALL",
   "2g js FRONT WALL,an js FRONT WALL,1of en js CHEST,2HUMP js CHEST,nc js CHEST,ze js CHEST",
   "1sv uo js CHEST,2g js CHEST,an js CHEST,1of ze ff PATH s,5ns,mh,1oe en js ct s,5mh",
   "2HUMP js ct s g,5mh g,s xt,mh xt,2nc js ct s uo,5mh uo,s g,mh g,2ze js ct s,5mh,1su uo js ct",
   "2g js ct,an js ct,1oe en js ht s,5mh,2HUMP js ht s g,5mh g,xt s xt,6mh xt,2nc js ht s uo",
   "5mh uo,s g,mh g,2ze js ht s,5mh,1su uo js ht,2g js ht,an js ht,1oe en s,3ns,mh,mi,COMBINED",
   "2HUMP s,nc s,ze SNAKE,3s,mh,1su uo,2g,an,1oe SHAKING qj,of ARM dg s uo,4ns uo,s g,ns g",
   "1oe ARM dg js WALL s uo,6ns uo,mh uo,s g,ns g,mh g,1of zl dg FRONT uo,5g",
   "1oe zl dg js WALL uo,6g,1of hm di uo,4g,1oe hm di js WALL uo,6g,1DYNAMIC bd s,3mh,2FAST,SLOW",
   "TENSE,RELAXED,SIMULTANEOUS,3an,2EVERY OTHER TIME,GRADUAL,1jj,2RIM,of vs,3TILT,2oe vs,of en",
   "oe en,od dg,1he DIRECTION POSITION NOSE hy TILTING,5UP OR fz,8TILTING,1EYEBROWS vs UP,3oo,fz",
   "1DREAMY EYEBROWS oo fz,3fz oo,UP oo,oo UP,1FOREHEAD oo,2dw,zk,1hd pu,2SQUEEZED,dn",
   "1EYE BLINK uo,3og,1hd iv pu,2WIDE pu,iv dn,WIDENING od,1EYE WINK,EYELASHES UP,2fz,FLUTTERING",
   "1hc vs,3g,an,1EYEGAZE-FLOORPLANE vs,3g,an,1hc eo,EYEGAZE-FLOORPLANE eo,hc CIRCLING",
   "CHEEKS PUFFED,2oo,SUCKED,1TENSE CHEEKS jp,3nu,nd,1EARS,NOSE oo,2dw,WRINKLES,WIGGLES",
   "1AIR BLOWING OUT,2SUCKING IN,BLOW s ROTATIONS,SUCK s ROTATIONS,1BREATH INHALE,2EXHALE",
   "1oc dn oo,3hy,dw,2SMILE,3zk,pu,2FROWN,3zk,pu,2pu dg,3hy,zk,OVAL,4zk,YAWN,3rx,4zk,YAWN,2KISS",
   "3hy,zk,2TENSE,3hy,SUCKED,1LIPS PRESSED TOGETHER,LIP ne qb yp,2yp qb ne,1oc ec,2WRINKLES uo",
   "3g,1xk STICKING OUT FAR,2LICKING LIPS,TIP bx LIPS,3TOUCHING kl oc,2kl oc RELAXED",
   "MOVES AGAINST CHEEK,cv STICKING OUT,3kl oc,1TEETH,2od,ON xk,4od,3LIPS,4od,2BITE LIPS,1of JAW",
   "oe JAW,NECK,HAIR,EXCITEMENT,SHOULDER HIP SPINE,3POSITIONS,1WALLPLANE SHOULDER HIP MOVE",
   "FLOORPLANE SHOULDER HIP MOVE,SHOULDER TILTING ic WAIST,TORSO-WALLPLANE vs STRETCH,2eo BEND",
   "1TORSO-FLOORPLANE TWISTING,yp BODY TILTING ic HIP JOINTS,LIMB COMBINATION,2LENGTH-1*6,1hm",
   "LOCATION-WALLPLANE vc,LOCATION-FLOORPLANE vc,LOCATION HEIGHT,2WIDTH,DEPTH,jj NECK,TORSO",
   "LIMBS DIGITS,1dr,id vr,tn,dp,qk,1da9b:hk MODIFIER-2*4,1daa1:ROTATION MODIFIER-2*14",
   "1df00:0mj s o FENG fn z TRILL,3sd th G,1o s f ya G,s o sd K,o s f L z BELT,s o LEZH z sb ju",
   "3ya Y z BELT,sd ENG,ya R z na LEG b sb ju,T z ju b sb ju,1o sb dl z sb ju,s o ESH z g bp",
   "7b ek,3ya T z ek,1o kr io vr z ek,2STRETCHED C z ek,s f ya K,1s o L z hq,3DEZH fn z qh ju",
   "L z BELT b qh ju,ENG z qh ju,ya R z qh ju,R z hq b qh ju,TESH fn z qh ju,EZH z qh ju",
   "DEZH fn z sb ju,I z t b sb ju,O z sb ju,TESH fn z sb ju,C z sb ju,S z ek",
   "1e000:0dq GLAGOLITIC o AZU,3BUKY,VEDE,GLAGOLI,DOBRO,YESTU,ZHIVETE,1e008:ZEMLJA,IZHE,k IZHE,I",
   "DJERVI,KAKO,LJUDIJE,MYSLITE,NASHI,ONU,POKOJI,RITSI,SLOVO,TVRIDO,UKU,FRITU,HERU,1e01b:SHTA",
   "TSI,CHRIVI,tu,YERU,YERI,YATI,1e023:YU,s zs,1e026:YO,kt s zs,BIG zs,kt BIG zs,FITA",
   "1e100:0NYIAKENG PUACHUE HMONG o MA,4xu,NTA,TA,HA,NA,XA,NKA,CA,LA,SA,ZA,NCA,NTSA,KA,DA,pk,NRA",
   "VA,NTXA,TXA,FA,RA,QA,YA,NQA,PA,XYA,NPA,DLA,NPLA,iu,MLA,PLA,GA,RRA,A,AA,I,U,O,OO,E,EE,W",
   "1e130:3TONE-B,TONE-M,TONE-J,TONE-V,TONE-S,TONE-G,TONE-D,r hw qr,5THING,LOCATION,ANIMAL",
   "INVERTEBRATE,4XW XW,3wf mq,1e140:fm zx,4ps,yg,v,hz,hr,uq,tr,gg,ot,1e14e:3mz NYAJ,dh CA",
   "1e290:0TOTO o PA,2BA,TA,DA,KA,GA,MA,NA,op,SA,cx,YA,WA,JA,HA,RA,LA,I,BREATHY I,IU,BREATHY IU",
   "U,E,BREATHY E,EO,BREATHY EO,O,AE,BREATHY AE,A,1r sr xj,1e2c0:0WANCHO o AA,2A,BA,CA,DA,GA,YA",
   "qs,LA,NA,PA,TA,wr,FA,SA,tu,JA,ZA,WA,VA,KA,O,AU,RA,MA,ls,HA,E,I,op,U,LLHA,xu,TRA,ONG,AANG,ANG",
   "ING,ON,EN,AAN,pk,UEN,YIH,1xj TUP,2TUPNI,KOI,KOINI,1fm zx,2ps,yg,v,hz,hr,uq,tr,gg,ot",
   "1e2ff:1NGUN r,1e7e0:0ETHIOPIC wf HHYA,2HHYU,HHYI,HHYAA,HHYEE,HHYE,HHYO,1e7e8:GURAGE HHWA",
   "HHWI,HHWEE,HHWE,1e7ed:GURAGE MWI,3MWEE,1e7f0:QWI,QWEE,QWE,BWI,BWEE,KWI,KWEE,KWE,GWI,GWEE,GWE",
   "FWI,FWEE,PWI,PWEE,1e800:0MENDE KIKAKUI wf M001 KI,3M002 KA,M003 KU,M065 KEE,M095 KE,M076 KOO",
   "M048 KO,M179 KUA,M004 WI,M005 WA,M006 WU,M126 WEE,M118 WE,M114 WOO,M045 WO,M194 WUI,M143 WEI",
   "M061 WVI,M049 WVA,M139 WVE,M007 MIN,M008 MAN,M009 MUN,M059 MEN,M094 MON,M154 MUAN,M189 MUEN",
   "M010 BI,M011 BA,M012 BU,M150 BEE,M097 BE,M103 BOO,M138 BO,M013 I,M014 A,M015 U,M163 EE",
   "M100 E,M165 OO,M147 O,M137 EI,M131 IN,M135 IN,M195 AN,M178 EN,M019 SI,M020 SA,M021 SU",
   "M162 SEE,M116 SE,M136 SOO,M079 SO,M196 SIA,M025 LI,M026 LA,M027 LU,M084 LEE,M073 LE,M054 LOO",
   "M153 LO,M110 na LE,M016 DI,M017 DA,M018 DU,M089 DEE,M180 DOO,M181 DO,M022 TI,M023 TA,M024 TU",
   "M091 TEE,M055 TE,M104 TOO,M069 TO,M028 JI,M029 JA,M030 JU,M157 JEE,M113 JE,M160 JOO,M063 JO",
   "M175 na JO,M031 YI,M032 YA,M033 YU,M109 YEE,M080 YE,M141 YOO,M121 YO,M034 FI,M035 FA,M036 FU",
   "M078 FEE,M075 FE,M133 FOO,M088 FO,M197 FUA,M101 FAN,M037 NIN,M038 NAN,M039 pj,M117 NEN",
   "M169 NON,M176 HI,M041 HA,M186 HU,M040 HEE,M096 HE,M042 HOO,M140 HO,M083 HEEI,M128 HOOU",
   "M053 HIN,M130 HAN,M087 HUN,M052 HEN,M193 HON,M046 HUAN,M090 NGGI,M043 NGGA,M082 NGGU",
   "M115 NGGEE,M146 NGGE,M156 NGGOO,M120 NGGO,M159 NGGAA,M127 NGGUA,M086 na NGGE,M106 na NGGOO",
   "M183 na NGGO,M155 GI,M111 GA,M168 GU,M190 GEE,M166 GUEI,M167 GUAN,M184 NGEN,M057 NGON",
   "M177 NGUAN,M068 PI,M099 PA,M050 PU,M081 PEE,M051 PE,M102 POO,M066 PO,M145 MBI,M062 MBA",
   "M122 MBU,M047 MBEE,M188 MBEE,M072 MBE,M172 MBOO,M174 MBO,M187 MBUU,M161 na MBE,M105 na MBOO",
   "M142 na MBO,M132 KPI,M092 KPA,M074 KPU,M044 KPEE,M108 KPE,M112 KPOO,M158 KPO,M124 GBI",
   "M056 GBA,M148 GBU,M093 GBEE,M107 GBE,M071 GBOO,M070 GBO,M171 RA,M123 NDI,M129 NDA,M125 NDU",
   "M191 NDEE,M119 NDE,M067 NDOO,M064 NDO,M152 NJA,M192 NJU,M149 NJEE,M134 NJOO,M182 VI,M185 VA",
   "M151 VU,M173 VEE,M085 VE,M144 VOO,M077 VO,M164 NYIN,M058 NYAN,M170 NYUN,M098 NYEN,M060 NYON",
   "1e8c7:2fm ps,3yg,v,hz,hr,uq,tr,gg,ot,2dq ph TEENS,4TENS,HUNDREDS,xd,wp xd,jx xd,nw",
   "1e900:0ADLAM f o ALIF,3DAALI,LAAM,MIIM,BA,SINNYIIYHE,PE,BHE,RA,E,FA,I,O,fd,YHE,zf,pj,le,YA,U",
   "JIIM,dd,HA,QAAF,GA,pk,TU,NHA,VA,ls,GBE,ZAL,KPO,tu,1s o ALIF,3DAALI,LAAM,MIIM,BA,SINNYIIYHE",
   "PE,BHE,RA,E,FA,I,O,fd,YHE,zf,pj,le,YA,U,JIIM,dd,HA,QAAF,GA,pk,TU,NHA,VA,ls,GBE,ZAL,KPO,tu",
   "1ALIF mq,zc mq,ih nm,iw,dv ny,GEMINATE dv ny,pg,NASALIZATION nm,1e950:fm zx,2ps,yg,v,hz,hr",
   "uq,tr,gg,ot,1e95e:1k gx nm,2ru nm,1ec71:0INDIC SIYAQ ph ps,3yg,v,hz,hr,uq,tr,gg,ot,wp,ye,xa",
   "hx,hj,uu,tt,gk,ov,ps jx,yg jx,v jx,hz jx,hr jx,uq jx,tr jx,gg jx,ot jx,ps xc,yg xc,v xc",
   "hz xc,hr xc,uq xc,tr xc,gg xc,ot xc,wp xc,ye xc,xa xc,hx xc,hj xc,uu xc,tt xc,gk xc,ov xc",
   "LAKH,LAKHAN,2LAKH nm,ph KAROR,3KARORAN,PREFIXED ps,4yg,v,hz,hr,uq,tr,gg,ot,2PLACEHOLDER",
   "ib ps rr,4iv,3v rs,2RUPEE nm,ph am ps,4yg,wp xc,2am LAKH nm,1ed01:0OTTOMAN SIYAQ ph ps,3yg,v",
   "hz,hr,uq,tr,gg,ot,wp,ye,xa,hx,hj,uu,tt,gk,ov,ps jx,yg jx,v jx,hz jx,hr jx,uq jx,tr jx,gg jx",
   "ot jx,ps xc,yg xc,v xc,hz xc,hr xc,uq xc,tr xc,gg xc,ot xc,wp xc,ye xc,xa xc,hx xc,hj xc",
   "uu xc,tt xc,gk xc,ov xc,2MARRATAN,am ph yg,4v,hz,hr,uq,tr,gg,ot,wp,hz jx,uq jx,yg xc,wp xc",
   "2ib ps iv,4SIXTH,1ee00:0ax no ah,2BEH,la,DAL,1ee05:zf,zt,iu,wi,zo,le,me,nt,ox,tl,af,FEH,sz",
   "rn,ry,ub,TEH,wt,lt,THAL,DAD,ZAH,il,fu BEH,3ox,FEH,rn,1ee21:2k BEH,3la,1ee24:jn,1ee27:iu",
   "1ee29:zo,le,me,nt,ox,tl,af,FEH,sz,rn,1ee34:ub,TEH,wt,lt,1ee39:DAD,1ee3b:il,1ee42:2TAILED la",
   "1ee47:3iu,1ee49:zo,1ee4b:me,1ee4d:ox,tl,af,1ee51:sz,rn,1ee54:ub,1ee57:lt,1ee59:DAD,1ee5b:il",
   "1ee5d:fu ox,1ee5f:4rn,1ee61:2STRETCHED BEH,3la,1ee64:jn,1ee67:iu,wi,zo,le,1ee6c:nt,ox,tl,af",
   "FEH,sz,rn,1ee74:ub,TEH,wt,lt,1ee79:DAD,ZAH,il,fu BEH,1ee7e:4FEH,1ee80:2LOOPED ah,3BEH,la,DAL",
   "jn,zf,zt,iu,wi,zo,1ee8b:me,nt,ox,tl,af,FEH,sz,rn,ry,ub,TEH,wt,lt,THAL,DAD,ZAH,il",
   "1eea1:2fy BEH,3la,DAL,1eea5:zf,zt,iu,wi,zo,1eeab:me,nt,ox,tl,af,FEH,sz,rn,ry,ub,TEH,wt,lt",
   "THAL,DAD,ZAH,il,1eef0:2pv nt z iu z TATWEEL,3iu z DAL"]

end LineScript.Text.Name
