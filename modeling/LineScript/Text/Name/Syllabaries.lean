/-!
# Syllabaries

The names of the characters of East Asia that are no ideographs and no Hangul syllables, and of the
scripts and letters beside them: the code points from 2C00 to F8FF.
-/

namespace LineScript.Text.Name

/-- The names in the order of their code points; `Reading.entry` says how they are written. -/
def syllabaries : List String :=
  ["GLAGOLITIC f o AZU,3BUKY,VEDE,GLAGOLI,DOBRO,YESTU,ZHIVETE,DZELO,ZEMLJA,IZHE,k IZHE,I,DJERVI",
   "KAKO,LJUDIJE,MYSLITE,NASHI,ONU,POKOJI,RITSI,SLOVO,TVRIDO,UKU,FRITU,HERU,OTU,PE,SHTA,TSI",
   "CHRIVI,tu,YERU,YERI,YATI,SPIDERY HA,YU,s zs,5z wj,3YO,kt s zs,BIG zs,kt BIG zs,FITA,kx",
   "SHTAPIC,TROKUTASTI A,LATINATE MYSLITE,CAUDATE CHRIVI,1s o AZU,3BUKY,VEDE,GLAGOLI,DOBRO,YESTU",
   "ZHIVETE,DZELO,ZEMLJA,IZHE,k IZHE,I,DJERVI,KAKO,LJUDIJE,MYSLITE,NASHI,ONU,POKOJI,RITSI,SLOVO",
   "TVRIDO,UKU,FRITU,HERU,OTU,PE,SHTA,TSI,CHRIVI,tu,YERU,YERI,YATI,SPIDERY HA,YU,s zs,5z wj,3YO",
   "kt s zs,BIG zs,kt BIG zs,FITA,kx,SHTAPIC,TROKUTASTI A,LATINATE MYSLITE,CAUDATE CHRIVI",
   "0mj f o L z g bp,1s o L z g bp,f o L z nu xh,3P z t,R z wj,1s o A z t,3T z ff t,1f o H z fc",
   "s o H z fc,f o K z fc,s o K z fc,f o Z z fc,s o Z z fc,f o al,3M z ju,ya A,4al,1s o V z p ju",
   "f o W z ju,s o W z ju,3V z ek,1f o iv H,s o iv H,3TAILLESS qt,E z NOTCH,ya R z wj",
   "O z nd sq kl,1o s f ya E,vw s o J,0ny o f V,mj f o S z SWASH wj,3Z z SWASH wj,0ea f o ALFA",
   "1s o ALFA,f o VIDA,s o VIDA,f o ie,s o ie,f o DALDA,s o DALDA,f o EIE,s o EIE,f o SOU",
   "s o SOU,f o ZATA,s o ZATA,f o HATE,s o HATE,f o THETHE,s o THETHE,f o IAUDA,s o IAUDA",
   "f o KAPA,s o KAPA,f o LAULA,s o LAULA,f o MI,s o MI,f o NI,s o NI,f o KSI,s o KSI,f o O",
   "s o O,f o PI,s o PI,f o RO,s o RO,f o SIMA,s o SIMA,f o TAU,s o TAU,f o UA,s o UA,f o FI",
   "s o FI,f o KHI,s o KHI,f o PSI,s o PSI,f o OOU,s o OOU,f o fg ah,s o fg ah,f o po ea af",
   "s o po ea af,f o ej EIE,s o ej EIE,f o fg KAPA,s o fg KAPA,f o fg NI,s o fg NI,f o ej NI",
   "s o ej NI,f o po ea OOU,s o po ea OOU,f o SAMPI,s o SAMPI,f o eg SHEI,s o eg SHEI",
   "f o po ea SHEI,s o po ea SHEI,f o po ea ESH,s o po ea ESH,f o AKHMIMIC KHEI",
   "s o AKHMIMIC KHEI,f o fg HORI,s o fg HORI,f o po ea HORI,s o po ea HORI,f o po ea HA",
   "s o po ea HA,f o L-SHAPED HA,s o L-SHAPED HA,f o po ea HEI,s o po ea HEI,f o po ea HAT",
   "s o po ea HAT,f o po ea GANGIA,s o po ea GANGIA,f o po ea DJA,s o po ea DJA,f o po ea SHIMA",
   "s o po ea SHIMA,f o po pf SHIMA,s o po pf SHIMA,f o po pf NGI,s o po pf NGI,f o po pf NYI",
   "s o po pf NYI,f o po pf WAU,s o po pf WAU,u KAI,2MI RO,PI RO,STAUROS,TAU RO,KHI RO",
   "SHIMA SIMA,1f o ej SHEI,s o ej SHEI,f o ej GANGIA,s o ej GANGIA,dq NI a,2SPIRITUS ASPER",
   "3LENIS,1f o BOHAIRIC KHEI,s o BOHAIRIC KHEI,2cf9:po pf id vr,3DIRECT ru nm,INDIRECT ru nm",
   "VERSE fp,1ib ps iv,id vr,MORPHOLOGICAL fp,0ii s o AN,3BAN,GAN,DON,EN,VIN,ZEN,TAN,IN,KAN,LAS",
   "MAN,NAR,ON,PAR,ZHAR,RAE,SAN,TAR,UN,PHAR,KHAR,GHAN,QAR,ue,CHIN,CAN,JIL,CIL,CHAR,XAN,JHAN,HAE",
   "HE,HIE,WE,HAR,HOE,2d27:YN,2d2d:AEN,2d30:0TIFINAGH o YA,2YAB,YABH,YAG,YAGHH",
   "BERBER ACADEMY YAJ,YAJ,YAD,YADH,YADD,YADDH,YEY,YAF,YAK,xz YAK,YAKHH,YAH,BERBER ACADEMY YAH",
   "xz YAH,YAHH,YAA,YAKH,xz YAKH,YAQ,xz YAQ,YI,YAZH,AHAGGAR YAZH,xz YAZH,YAL,YAM,YAN,xz YAGN,3zn",
   "2YAP,YU,YAR,YARR,YAGH,xz YAGH,AYER YAGH,YAS,YASS,YASH,YAT,YATH,YACH,YATT,YAV,YAW,YAY,YAZ",
   "TAWELLEMET YAZ,YAZZ,YE,YO,2d6f:1ny o LABIALIZATION nm,tp nm,2d7f:dv ld,0ETHIOPIC wf LOA,2MOA",
   "ROA,SOA,SHOA,BOA,TOA,COA,NOA,NYOA,io OA,ZOA,DOA,DDOA,JOA,THOA,CHOA,PHOA,POA,GGWA,GGWI,GGWEE",
   "GGWE,2da0:vj,SSU,SSI,SSAA,SSEE,SSE,SSO,2da8:CCA,CCU,CCI,CCAA,CCEE,CCE,CCO,2db0:ZZA,ZZU,ZZI",
   "ZZAA,ZZEE,ZZE,ZZO,2db8:CCHA,CCHU,CCHI,CCHAA,CCHEE,CCHE,CCHO,2dc0:QYA,QYU,QYI,QYAA,QYEE,QYE",
   "QYO,2dc8:KYA,KYU,KYI,KYAA,KYEE,KYE,KYO,2dd0:XYA,XYU,XYI,XYAA,XYEE,XYE,XYO,2dd8:GYA,GYU,GYI",
   "GYAA,GYEE,GYE,GYO,2de0:0dq ep o BE,3VE,GHE,DE,ZHE,ZE,KA,EL,EM,EN,O,PE,ER,ES,TE,HA,TSE,da,tu",
   "SHCHA,FITA,ES-TE,A,IE,DJERV,MONOGRAPH UK,YAT,YU,ku A,mw zs,BIG zs,ku BIG zs,0p ap vy nn",
   "2fw vy nn,0m vy cg,p vy cg,m fw vy cg,p fw vy cg,rw INTERPOLATION nn,1fw INTERPOLATION nn",
   "0fw xp nn,m xp cg,p xp cg,rw vh,m rw OMISSION cg,p rw OMISSION cg,EDITORIAL CORONIS",
   "PARAGRAPHOS,FORKED PARAGRAPHOS,sd FORKED PARAGRAPHOS,HYPODIASTOLE,fw OBELOS,gb ANCORA",
   "yr ANCORA,fw sn ap,g pl jy,kr ko,PALM BRANCH,jy z fe,xh z sq a,m nd PARAPHRASE cg",
   "p nd PARAPHRASE cg,xh z ft a,3d,0m x bp z QUILL,p x bp z QUILL,xm m iv cg,1p iv cg",
   "0ce m iv cg,1p iv cg,0m ui U cg,p ui U cg,m g qk,p g qk,yg fv qb ps ft rm,ps ft qb yg fv rm",
   "vi hz ft rm,hr ft nm,sd ru nm,x xh,sq ra,zj tp nu ft,ya dr,rw ft,1dr,0ya tn,DAGGER z m GUARD",
   "2p GUARD,0ya DAGGER,xm iv tk r,TWO-EM ev,THREE-EM ev,STENOGRAPHIC id vr,x uq fv,WIGGLY x mv",
   "CAPITULUM,g jy,sd dr,g LOW-REVERSED-9 rv nm,ev z m UPTURN,g SUSPENSION nm,kr nd KAVYKA",
   "3z KAVYKA a,0nd KAVYKA,2z ft,0g STACKED dr,fw uz,xt DAGGER,MEDIEVAL dr,PARAGRAPHUS nm",
   "PUNCTUS ELEVATUS nm,CORNISH VERSE fp,ef PATTY z p CROSSBAR,3m CROSSBAR,0TIRONIAN r f ET",
   "MEDIEVAL gx nm,1ru nm,0m vh cg z t,p vh cg z t,m vh cg z g t,p vh cg z g t,xm iv m qk,2p qk",
   "0ce iv m qk,2p qk,0pl jy,2e80:CJK RADICAL REPEAT,2CLIFF,tj ps,3yg,v,2qr,cf,TABLE,KNIFE ps",
   "3yg,2DIVINATION,SEAL,s ps,3yg,2LAME ps,3yg,v,hz,2SNAKE,THREAD,SNOUT ps,3yg,2jk ps,3yg,2ix",
   "RAP,2e9b:CHOKE,SUN,oa,DEATH,MOTHER,CIVILIAN,zd ps,3yg,2FIRE,PAW ps,3yg,2un iv TREE TRUNK,COW",
   "DOG,JADE,BOLT OF CLOTH,EYE,SPIRIT ps,3yg,2BAMBOO,SILK,cl SILK,NET ps,3yg,v,hz,2MESH,SHEEP",
   "RAM,EWE,po,BRUSH ps,3yg,2MEAT,MORTAR,GRASS ps,3yg,v,2TIGER,CLOTHES,zg ps,3yg,2cl SEE,un jv",
   "jv,cl ve,3uc,2FOOT,cl CART,un WALK,WALK ps,3yg,2CITY,cl GOLD,na ps,3yg,2cl na,3GATE",
   "2MOUND ps,3yg,2RAIN,BLUE,cl TANNED LEATHER,3mk,WIND,FLY,2EAT ps,3yg,v,2cl EAT,jj,cl jw,BONE",
   "GHOST,cl FISH,3BIRD,SALT,2un WHEAT,3YELLOW,2cl FROG,ky EVEN,cl EVEN,ky TOOTH,cl TOOTH,ky gc",
   "cl gc,TURTLE,ky TURTLE,cl TURTLE,2f00:0KANGXI RADICAL ps,2mv,ft,uw,tj,ju,yg,LID,MAN,LEGS",
   "ENTER,gg,fz cf,COVER,ICE,TABLE,pu cf,KNIFE,POWER,WRAP,SPOON,p pu cf,HIDING ENCLOSURE,wp",
   "DIVINATION,SEAL,CLIFF,PRIVATE,AGAIN,oc,ENCLOSURE,gd,SCHOLAR,GO,3SLOWLY,2EVENING,BIG,WOMAN",
   "CHILD,ROOF,INCH,s,LAME,CORPSE,SPROUT,ob,RIVER,WORK,ONESELF,TURBAN,DRY,uf THREAD,fw CLIFF",
   "na STRIDE,yg jg,SHOOT,BOW,SNOUT,BRISTLE,STEP,jk,HALBERD,DOOR,ix,BRANCH,RAP,th,DIPPER,AXE,vh",
   "pa,SUN,SAY,oa,TREE,LACK,vr,DEATH,WEAPON,DO pa,COMPARE,FUR,CLAN,STEAM,zd,FIRE,CLAW,FATHER,g X",
   "iv TREE TRUNK,SLICE,FANG,COW,DOG,PROFOUND,JADE,MELON,TILE,SWEET,LIFE,USE,FIELD,BOLT OF CLOTH",
   "SICKNESS,fw TENT,y,SKIN,fo,EYE,SPEAR,c,STONE,SPIRIT,TRACK,GRAIN,CAVE,STAND,BAMBOO,RICE,SILK",
   "JAR,NET,SHEEP,FEATHER,po,b,PLOW,EAR,BRUSH,MEAT,MINISTER,SELF,ARRIVE,MORTAR,xk,OPPOSE,BOAT",
   "STOPPING,COLOR,GRASS,TIGER,INSECT,BLOOD,WALK ENCLOSURE,CLOTHES,zg,SEE,jv,ve,VALLEY,BEAN,PIG",
   "BADGER,uc,RED,RUN,FOOT,BODY,CART,BITTER,MORNING,WALK,CITY,WINE,DISTINGUISH,VILLAGE,GOLD,na",
   "GATE,MOUND,SLAVE,uf TAILED BIRD,RAIN,BLUE,WRONG,he,LEATHER,TANNED LEATHER,LEEK,va,mk,WIND",
   "FLY,EAT,jj,FRAGRANT,jw,BONE,TALL,HAIR,FIGHT,SACRIFICIAL WINE,CAULDRON,GHOST,FISH,BIRD,SALT",
   "DEER,WHEAT,HEMP,YELLOW,MILLET,e,EMBROIDERY,FROG,TRIPOD,DRUM,RAT,NOSE,EVEN,TOOTH,gc,TURTLE",
   "FLUTE,2ff0:0kc DESCRIPTION cy m TO p,3a TO d,m TO nu b p,a TO nu b d,id SURROUND",
   "SURROUND ic a,5d,m,yp m,6p,5ne m,3OVERLAID,3000:1vc,dr,id vr,0DITTO nm",
   "kz INDUSTRIAL STANDARD u,kc kw nm,1CLOSING nm,ph zx,0m ap cg,p ap cg,m g ap cg,p g ap cg",
   "m eb cg,p eb cg,m y eb cg,p y eb cg,m e mr cg,p e mr cg,POSTAL nm,GETA nm,m xn uc cg",
   "p xn uc cg,m y mr cg,p y mr cg,m y xn uc cg,p y xn uc cg,m y vh cg,p y vh cg,ze ev",
   "sd g rh rv nm,g rh rv nm,nd g rh rv nm,POSTAL nm he,HANGZHOU pi ps,2yg,v,hz,hr,uq,tr,gg,ot",
   "0kc LEVEL xj nm,1sr xj nm,DEPARTING xj nm,ENTERING xj nm,0jh uo ft xj nm,1g ft xj nm",
   "0WAVY ev,x KANA REPEAT nm,3z za va nm,nm yp iv,z za va nm yp iv,nm ne iv,0dh POSTAL nm",
   "kc TELEGRAPH mv FEED tp u,HANGZHOU pi wp,2ye,xa,0x kc kw nm,MASU nm,PART ALTERNATION nm",
   "kc yu ki,1iv hk vc,3041:0jr o s A,2A,s I,I,s U,U,s E,E,s O,O,KA,GA,KI,GI,KU,GU,KE,GE,KO,GO",
   "SA,ZA,SI,ZI,SU,ZU,SE,ZE,SO,ZO,TA,DA,TI,DI,s TU,TU,DU,TE,DE,TO,DO,NA,NI,NU,NE,NO,HA,BA,PA,HI",
   "BI,PI,HU,BU,PU,HE,BE,PE,HO,BO,PO,MA,MI,MU,ME,MO,s YA,YA,s YU,YU,s YO,YO,RA,RI,RU,RE,RO,s WA",
   "WA,WI,WE,WO,N,VU,s KA,3KE,3099:0dq lp za va nm,2SEMI-VOICED va nm,0lp za va nm",
   "1SEMI-VOICED va nm,0jr kw nm,1za kw nm,fn YORI,0lp g jy,lo o s A,2A,s I,I,s U,U,s E,E,s O,O",
   "KA,GA,KI,GI,KU,GU,KE,GE,KO,GO,SA,ZA,SI,ZI,SU,ZU,SE,ZE,SO,ZO,TA,DA,TI,DI,s TU,TU,DU,TE,DE,TO",
   "DO,NA,NI,NU,NE,NO,HA,BA,PA,HI,BI,PI,HU,BU,PU,HE,BE,PE,HO,BO,PO,MA,MI,MU,ME,MO,s YA,YA,s YU",
   "YU,s YO,YO,RA,RI,RU,RE,RO,s WA,WA,WI,WE,WO,N,VU,s KA,3KE,2VA,VI,VE,VO,1nu ft",
   "0lp PROLONGED va nm,lo kw nm,1za kw nm,fn KOTO,3105:0BOPOMOFO o B,2P,M,F,D,T,N,L,G,K,H,J,Q,X",
   "ZH,CH,SH,R,Z,C,S,A,O,E,EH,AI,EI,AU,OU,AN,EN,ANG,ENG,ER,I,U,IU,V,NG,GN,IH,O z ft a,NN",
   "3131:0jh o lx,2vl,KIYEOK-SIOS,NIEUN,oq,or,xg,vn,RIEUL,sg,sh,sj,sk,sl,si,sf,MIEUM,PIEUP,vm,qv",
   "SIOS,SSANGSIOS,kd,df,vk,de,lu,ww,qu,HIEUH,A,AE,YA,YAE,EO,E,YEO,YE,O,WA,WAE,OE,YO,U,WEO,WE,WI",
   "YU,EU,YI,I,1hl,o SSANGNIEUN,2NIEUN-TIKEUT,NIEUN-SIOS,NIEUN-PANSIOS,RIEUL-KIYEOK-SIOS",
   "RIEUL-TIKEUT,RIEUL-PIEUP-SIOS,RIEUL-PANSIOS,RIEUL-YEORINHIEUH,MIEUM-PIEUP,MIEUM-SIOS",
   "MIEUM-PANSIOS,lh,PIEUP-KIYEOK,PIEUP-TIKEUT,PIEUP-SIOS-KIYEOK,qw,PIEUP-CIEUC,PIEUP-THIEUTH,lj",
   "KAPYEOUNSSANGPIEUP,SIOS-KIYEOK,SIOS-NIEUN,SIOS-TIKEUT,SIOS-PIEUP,SIOS-CIEUC,PANSIOS",
   "SSANGIEUNG,YESIEUNG,YESIEUNG-SIOS,YESIEUNG-PANSIOS,li,SSANGHIEUH,YEORINHIEUH,YO-YA,YO-YAE",
   "YO-I,YU-YEO,YU-YE,YU-I,ARAEA,ARAEAE,3190:0kc ANNOTATION LINKING nm,2sc nm,ps nm,yg nm,v nm",
   "hz nm,xm nm,nu nm,ce nm,hp nm,tj nm,wx nm,FOURTH nm,HEAVEN nm,gd nm,MAN nm,0BOPOMOFO o BU",
   "2ZI,JI,GU,EE,ENN,OO,ONN,IR,ANN,INN,UNN,IM,NGG,AINN,AUNN,AM,OM,ONG,INNN,1h o P,3T,K,H,1o GH",
   "2LH,ZY,1h o G,o GW,2KW,OE,AH,0CJK t T,2WG,XG,BXG,SW,HZZ,HZG,HP,HZWG,SZWG,HZT,HZZP,HPWG,HZW",
   "HZZZ,N,H,S,P,SP,D,HZ,HG,SZ,SWZ,ST,SG,PD,PZ,TN,SZZ,SWG,HXWG,HZZZG,PG,Q,31f0:0lo o s KU,3SI,SU",
   "TO,NU,HA,HI,HU,HE,HO,MU,RA,RI,RU,RE,RO,0ql jh lx,2NIEUN,xg,RIEUL,MIEUM,PIEUP,SIOS,kd,df,de",
   "lu,ww,qu,HIEUH,lx A,NIEUN A,xg A,RIEUL A,MIEUM A,PIEUP A,SIOS A,kd A,df A,de A,lu A,ww A",
   "qu A,HIEUH A,df U,1KOREAN cy OJEON,3O HU,3220:1IDEOGRAPH ps,2yg,v,hz,hr,uq,tr,gg,ot,wp,oa",
   "FIRE,zd,WOOD,METAL,gd,SUN,STOCK,HAVE,SOCIETY,NAME,SPECIAL,FINANCIAL,CONGRATULATION,LABOR",
   "REPRESENT,CALL,STUDY,SUPERVISE,ENTERPRISE,RESOURCE,ALLIANCE,FESTIVAL,sa,SELF,REACH",
   "0dh IDEOGRAPH ru,2KINDERGARTEN,SCHOOL,KOTO,1ph wp ON e vh,2ye ON e vh,xa ON e vh,hx ON e vh",
   "hj ON e vh,uu ON e vh,tt ON e vh,gk ON e vh,0PARTNERSHIP r,dh ph ye ps,3yg,v,hz,hr,uq,tr,gg",
   "ot,2xa,3ps,yg,v,hz,hr,1jh lx,2NIEUN,xg,RIEUL,MIEUM,PIEUP,SIOS,kd,df,de,lu,ww,qu,HIEUH,lx A",
   "NIEUN A,xg A,RIEUL A,MIEUM A,PIEUP A,SIOS A,kd A,df A,de A,lu A,ww A,qu A,HIEUH A",
   "1KOREAN cy CHAMKO,3JUEUI,1jh kd U,0KOREAN STANDARD u,dh IDEOGRAPH ps,2yg,v,hz,hr,uq,tr,gg,ot",
   "wp,oa,FIRE,zd,WOOD,METAL,gd,SUN,STOCK,HAVE,SOCIETY,NAME,SPECIAL,FINANCIAL,CONGRATULATION",
   "LABOR,SECRET,MALE,FEMALE,SUITABLE,EXCELLENT,PRINT,ATTENTION,ITEM,sa,COPY,CORRECT,jp,cv,nd,m",
   "p,MEDICINE,RELIGION,STUDY,SUPERVISE,ENTERPRISE,RESOURCE,ALLIANCE,NIGHT,1ph xa uq,3tr,gg,ot",
   "2hx,3ps,yg,v,hz,hr,uq,tr,gg,ot,2hj,0kc TELEGRAPH u hw JANUARY,4FEBRUARY,MARCH,APRIL,MAY,JUNE",
   "JULY,AUGUST,SEPTEMBER,OCTOBER,NOVEMBER,DECEMBER,0vh HG,1ERG,EV,0LIMITED LIABILITY r,dh lo A",
   "2I,U,E,O,KA,KI,KU,KE,KO,SA,SI,SU,SE,SO,TA,TI,TU,TE,TO,NA,NI,NU,NE,NO,HA,HI,HU,HE,HO,MA,MI,MU",
   "ME,MO,YA,YU,YO,RA,RI,RU,RE,RO,WA,WI,WE,WO,0vh ERA NAME REIWA,1APAATO,ARUHUA,ANPEA,AARU",
   "ININGU,INTI,UON,ESUKUUDO,EEKAA,ONSU,OOMU,KAIRI,KARATTO,KARORII,GARON,GANMA,GIGA,GINII,KYURII",
   "GIRUDAA,KIRO,KIROGURAMU,KIROMEETORU,KIROWATTO,GURAMU,GURAMUTON,KURUZEIRO,KUROONE,KEESU",
   "KORUNA,KOOPO,SAIKURU,SANTIIMU,SIRINGU,SENTI,SENTO,DAASU,DESI,DORU,TON,NANO,NOTTO,HAITU",
   "PAASENTO,PAATU,BAARERU,PIASUTORU,PIKURU,PIKO,BIRU,HUARADDO,HUIITO,BUSSYERU,HURAN,HEKUTAARU",
   "PESO,PENIHI,HERUTU,PENSU,PEEZI,BEETA,POINTO,BORUTO,HON,PONDO,HOORU,HOON,MAIKURO,MAIRU,MAHHA",
   "MARUKU,MANSYON,MIKURON,MIRI,MIRIBAARU,MEGA,MEGATON,MEETORU,YAADO,YAARU,YUAN,RITTORU,RIRA",
   "RUPII,RUUBURU,REMU,RENTOGEN,WATTO,0kc TELEGRAPH u hw HOUR zx,5ps,yg,v,hz,hr,uq,tr,gg,ot,wp",
   "gn,yd,wz,ia,hi,ur,ts,gh,ou,ye,TWENTY-ONE,TWENTY-TWO,TWENTY-THREE,TWENTY-FOUR,0vh HPA,1DA,AU",
   "bp,OV,PC,DM,2vi,CUBED,1IU,ERA NAME HEISEI,3SYOUWA,TAISYOU,MEIZI,1CORPORATION,PA AMPS,NA,MU A",
   "MA,KA,KB,MB,GB,CAL,KCAL,PF,NF,MU F,2G,1MG,KG,HZ,KHZ,MHZ,GHZ,THZ,MU L,ML,DL,KL,FM,NM,MU M,MM",
   "CM,KM,MM vi,CM vi,M vi,KM vi,MM CUBED,CM CUBED,M CUBED,KM CUBED,M qb S,4vi,1PA,KPA,MPA,GPA",
   "RAD,2qb S,4vi,1PS,NS,MU S,MS,PV,NV,MU V,MV,KV,MV MEGA,PW,NW,MU W,MW,KW,MW MEGA,K OHM,M OHM",
   "AM,BQ,CC,CD,C qb KG,CO,DB,GY,HA,HP,IN,KK,KM f,KT,LM,LN,LOG,LX,MB s,MIL,MOL,PH,PM,PPM,PR,SR",
   "SV,WB,V qb M,A qb M,0kc TELEGRAPH u hw DAY ps,5yg,v,hz,hr,uq,tr,gg,ot,wp,gn,yd,wz,ia,hi,ur",
   "ts,gh,ou,ye,TWENTY-ONE,TWENTY-TWO,TWENTY-THREE,TWENTY-FOUR,yf,TWENTY-SIX,TWENTY-SEVEN",
   "TWENTY-EIGHT,TWENTY-NINE,xa,THIRTY-ONE,0vh GAL,4dc0:HEXAGRAM hw ws CREATIVE HEAVEN",
   "3RECEPTIVE gd,2DIFFICULTY AT ws BEGINNING,YOUTHFUL FOLLY,WAITING,CONFLICT,ws ARMY",
   "jt TOGETHER,s TAMING,TREADING,PEACE,STANDSTILL,FELLOWSHIP,GREAT POSSESSION,MODESTY",
   "ENTHUSIASM,FOLLOWING,WORK ON ws DECAYED,APPROACH,CONTEMPLATION,BITING xe,GRACE",
   "SPLITTING APART,RETURN,INNOCENCE,GREAT TAMING,oc ec,GREAT PREPONDERANCE,ws ABYSMAL zd",
   "3CLINGING FIRE,2INFLUENCE,DURATION,RETREAT,GREAT POWER,PROGRESS,DARKENING OF ws mu,ws FAMILY",
   "OPPOSITION,OBSTRUCTION,DELIVERANCE,DECREASE,INCREASE,BREAKTHROUGH,COMING TO MEET",
   "GATHERING TOGETHER,PUSHING UPWARD,OPPRESSION,ws WELL,REVOLUTION,ws CAULDRON",
   "3AROUSING THUNDER,KEEPING STILL ob,2DEVELOPMENT,ws MARRYING MAIDEN,ABUNDANCE,ws WANDERER",
   "3GENTLE WIND,JOYOUS LAKE,2DISPERSION,LIMITATION,INNER TRUTH,s PREPONDERANCE,AFTER COMPLETION",
   "BEFORE COMPLETION,a000:0YI wf IT,2IX,I,IP,IET,IEX,IE,IEP,AT,AX,A,AP,UOX,UO,UOP,OT,OX,O,OP,EX",
   "E,WU,BIT,BIX,BI,BIP,BIET,BIEX,BIE,BIEP,BAT,BAX,BA,BAP,BUOX,BUO,BUOP,BOT,cf,BO,BOP,BEX,BE,BEP",
   "BUT,BUX,BU,BUP,BURX,BUR,BYT,BYX,BY,BYP,BYRX,BYR,PIT,PIX,PI,PIP,PIEX,PIE,PIEP,PAT,PAX,PA,PAP",
   "PUOX,PUO,PUOP,POT,POX,PO,POP,PUT,PUX,PU,PUP,PURX,PUR,PYT,PYX,PY,PYP,PYRX,PYR,BBIT,BBIX,BBI",
   "BBIP,BBIET,BBIEX,BBIE,BBIEP,BBAT,BBAX,BBA,BBAP,BBUOX,BBUO,BBUOP,BBOT,BBOX,BBO,BBOP,BBEX,BBE",
   "BBEP,BBUT,BBUX,BBU,BBUP,BBURX,BBUR,BBYT,BBYX,BBY,BBYP,NBIT,NBIX,NBI,NBIP,NBIEX,NBIE,NBIEP",
   "NBAT,NBAX,NBA,NBAP,NBOT,NBOX,NBO,NBOP,NBUT,NBUX,NBU,NBUP,NBURX,NBUR,NBYT,NBYX,NBY,NBYP,NBYRX",
   "NBYR,HMIT,HMIX,HMI,HMIP,HMIEX,HMIE,HMIEP,HMAT,HMAX,HMA,HMAP,HMUOX,HMUO,HMUOP,HMOT,HMOX,HMO",
   "HMOP,HMUT,HMUX,HMU,HMUP,HMURX,HMUR,HMYX,HMY,HMYP,HMYRX,HMYR,MIT,MIX,MI,MIP,MIEX,MIE,MIEP,MAT",
   "MAX,MA,MAP,MUOT,MUOX,MUO,MUOP,MOT,MOX,MO,MOP,MEX,ME,MUT,MUX,MU,MUP,MURX,MUR,MYT,MYX,MY,MYP",
   "FIT,FIX,FI,FIP,FAT,FAX,FA,FAP,FOX,FO,FOP,FUT,FUX,FU,FUP,FURX,FUR,FYT,FYX,FY,FYP,VIT,VIX,VI",
   "VIP,VIET,VIEX,VIE,VIEP,VAT,VAX,VA,VAP,VOT,VOX,VO,VOP,VEX,VEP,VUT,VUX,VU,VUP,VURX,VUR,VYT,VYX",
   "VY,VYP,VYRX,VYR,DIT,DIX,DI,DIP,DIEX,DIE,DIEP,DAT,DAX,DA,DAP,DUOX,DUO,ft,DOX,DO,DOP,DEX,DE",
   "DEP,DUT,DUX,DU,DUP,DURX,DUR,TIT,TIX,TI,TIP,TIEX,TIE,TIEP,TAT,TAX,TA,TAP,TUOT,TUOX,TUO,TUOP",
   "TOT,TOX,TO,xm,TEX,TE,TEP,TUT,TUX,TU,TUP,TURX,TUR,DDIT,DDIX,DDI,DDIP,DDIEX,DDIE,DDIEP,DDAT",
   "DDAX,ey,DDAP,DDUOX,DDUO,DDUOP,DDOT,DDOX,DDO,DDOP,DDEX,DDE,DDEP,DDUT,DDUX,DDU,DDUP,DDURX,DDUR",
   "NDIT,NDIX,NDI,NDIP,NDIEX,NDIE,NDAT,NDAX,NDA,NDAP,NDOT,NDOX,NDO,NDOP,NDEX,NDE,NDEP,NDUT,NDUX",
   "NDU,NDUP,NDURX,NDUR,HNIT,HNIX,HNI,HNIP,HNIET,HNIEX,HNIE,HNIEP,HNAT,HNAX,HNA,HNAP,HNUOX,HNUO",
   "HNOT,HNOX,HNOP,HNEX,HNE,HNEP,HNUT,NIT,NIX,NI,NIP,NIEX,NIE,NIEP,NAX,NA,NAP,NUOX,NUO,NUOP,pa",
   "NOX,NO,NOP,NEX,NE,NEP,NUT,NUX,NU,NUP,NURX,NUR,HLIT,HLIX,HLI,HLIP,HLIEX,HLIE,HLIEP,HLAT,HLAX",
   "HLA,HLAP,HLUOX,HLUO,HLUOP,HLOX,HLO,HLOP,HLEX,HLE,HLEP,HLUT,HLUX,HLU,HLUP,HLURX,HLUR,HLYT",
   "HLYX,HLY,HLYP,HLYRX,HLYR,LIT,LIX,LI,LIP,LIET,LIEX,LIE,LIEP,LAT,LAX,LA,LAP,LUOT,LUOX,LUO,LUOP",
   "LOT,LOX,LO,LOP,LEX,LE,LEP,LUT,LUX,LU,LUP,LURX,LUR,LYT,LYX,LY,LYP,LYRX,LYR,GIT,GIX,GI,GIP",
   "GIET,GIEX,GIE,GIEP,GAT,GAX,GA,GAP,GUOT,GUOX,GUO,GUOP,GOT,GOX,GO,GOP,GET,GEX,GE,GEP,GUT,GUX",
   "GU,GUP,GURX,GUR,KIT,KIX,KI,KIP,KIEX,KIE,KIEP,KAT,KAX,KA,KAP,KUOX,KUO,KUOP,KOT,KOX,KO,KOP,KET",
   "KEX,KE,KEP,KUT,KUX,KU,KUP,KURX,KUR,GGIT,GGIX,GGI,GGIEX,GGIE,GGIEP,GGAT,GGAX,GGA,GGAP,GGUOT",
   "GGUOX,GGUO,GGUOP,GGOT,GGOX,GGO,GGOP,GGET,GGEX,GGE,GGEP,GGUT,GGUX,GGU,GGUP,GGURX,GGUR,MGIEX",
   "MGIE,MGAT,MGAX,MGA,MGAP,MGUOX,MGUO,MGUOP,MGOT,MGOX,MGO,MGOP,MGEX,MGE,MGEP,MGUT,MGUX,MGU,MGUP",
   "MGURX,MGUR,HXIT,HXIX,HXI,HXIP,HXIET,HXIEX,HXIE,HXIEP,HXAT,HXAX,HXA,HXAP,HXUOT,HXUOX,HXUO",
   "HXUOP,HXOT,HXOX,HXO,HXOP,HXEX,HXE,HXEP,NGIEX,NGIE,NGIEP,NGAT,NGAX,op,NGAP,NGUOT,NGUOX,NGUO",
   "NGOT,NGOX,NGO,NGOP,NGEX,NGE,NGEP,HIT,HIEX,HIE,HAT,HAX,HA,HAP,HUOT,HUOX,HUO,HUOP,HOT,HOX,HO",
   "HOP,HEX,HE,HEP,WAT,WAX,WA,WAP,WUOX,WUO,WUOP,WOX,WO,WOP,WEX,WE,WEP,ZIT,ZIX,ZI,ZIP,ZIEX,ZIE",
   "ZIEP,ZAT,ZAX,ZA,ZAP,ZUOX,ZUO,ZUOP,ZOT,ZOX,ZO,ZOP,ZEX,ZE,ZEP,ZUT,ZUX,ZU,ZUP,ZURX,ZUR,ZYT,ZYX",
   "ZY,ZYP,ZYRX,ZYR,CIT,CIX,CI,CIP,CIET,CIEX,CIE,CIEP,CAT,CAX,CA,CAP,CUOX,CUO,CUOP,COT,COX,CO",
   "COP,CEX,CE,CEP,CUT,CUX,CU,CUP,CURX,CUR,CYT,CYX,CY,CYP,CYRX,CYR,ZZIT,ZZIX,ZZI,ZZIP,ZZIET",
   "ZZIEX,ZZIE,ZZIEP,ZZAT,ZZAX,ZZA,ZZAP,ZZOX,ZZO,ZZOP,ZZEX,ZZE,ZZEP,ZZUX,ZZU,ZZUP,ZZURX,ZZUR",
   "ZZYT,ZZYX,ZZY,ZZYP,ZZYRX,ZZYR,NZIT,NZIX,NZI,NZIP,NZIEX,NZIE,NZIEP,NZAT,NZAX,NZA,NZAP,NZUOX",
   "NZUO,NZOX,NZOP,NZEX,NZE,NZUX,NZU,NZUP,NZURX,NZUR,NZYT,NZYX,NZY,NZYP,NZYRX,NZYR,SIT,uq,SI,SIP",
   "SIEX,SIE,SIEP,SAT,SAX,SA,SAP,SUOX,SUO,SUOP,SOT,SOX,SO,SOP,SEX,SE,SEP,SUT,SUX,SU,SUP,SURX,SUR",
   "SYT,SYX,SY,SYP,SYRX,SYR,SSIT,SSIX,SSI,SSIP,SSIEX,SSIE,SSIEP,SSAT,SSAX,vj,SSAP,SSOT,SSOX,SSO",
   "SSOP,SSEX,SSE,SSEP,SSUT,SSUX,SSU,SSUP,SSYT,SSYX,SSY,SSYP,SSYRX,SSYR,ZHAT,ZHAX,ZHA,ZHAP,ZHUOX",
   "ZHUO,ZHUOP,ZHOT,ZHOX,ZHO,ZHOP,ZHET,ZHEX,ZHE,ZHEP,ZHUT,ZHUX,ZHU,ZHUP,ZHURX,ZHUR,ZHYT,ZHYX,ZHY",
   "ZHYP,ZHYRX,ZHYR,CHAT,CHAX,cx,CHAP,CHUOT,CHUOX,CHUO,CHUOP,CHOT,CHOX,CHO,CHOP,CHET,CHEX,da",
   "CHEP,CHUX,CHU,CHUP,CHURX,CHUR,CHYT,CHYX,CHY,CHYP,CHYRX,CHYR,RRAX,RRA,RRUOX,RRUO,RROT,RROX",
   "RRO,RROP,RRET,RREX,RRE,RREP,RRUT,RRUX,RRU,RRUP,RRURX,RRUR,RRYT,RRYX,RRY,RRYP,RRYRX,RRYR,NRAT",
   "NRAX,NRA,NRAP,NROX,NRO,NROP,NRET,NREX,NRE,NREP,NRUT,NRUX,NRU,NRUP,NRURX,NRUR,NRYT,NRYX,NRY",
   "NRYP,NRYRX,NRYR,SHAT,SHAX,tu,SHAP,SHUOX,SHUO,SHUOP,SHOT,SHOX,SHO,SHOP,SHET,SHEX,ua,SHEP,SHUT",
   "SHUX,SHU,SHUP,SHURX,SHUR,SHYT,SHYX,SHY,SHYP,SHYRX,SHYR,RAT,RAX,RA,RAP,RUOX,RUO,RUOP,ROT,ROX",
   "RO,ROP,REX,RE,REP,RUT,RUX,RU,RUP,RURX,RUR,RYT,RYX,RY,RYP,RYRX,RYR,JIT,JIX,JI,JIP,JIET,JIEX",
   "JIE,JIEP,JUOT,JUOX,JUO,JUOP,JOT,JOX,JO,JOP,JUT,JUX,JU,JUP,JURX,JUR,JYT,JYX,JY,JYP,JYRX,JYR",
   "QIT,QIX,QI,QIP,QIET,QIEX,QIE,QIEP,QUOT,QUOX,QUO,QUOP,QOT,QOX,QO,QOP,QUT,QUX,QU,QUP,QURX,QUR",
   "QYT,QYX,QY,QYP,QYRX,QYR,JJIT,JJIX,JJI,JJIP,JJIET,JJIEX,JJIE,JJIEP,JJUOX,JJUO,JJUOP,JJOT,JJOX",
   "JJO,JJOP,JJUT,JJUX,JJU,JJUP,JJURX,JJUR,JJYT,JJYX,JJY,JJYP,NJIT,NJIX,NJI,NJIP,NJIET,NJIEX",
   "NJIE,NJIEP,NJUOX,NJUO,NJOT,NJOX,NJO,NJOP,NJUX,NJU,NJUP,NJURX,NJUR,NJYT,NJYX,NJY,NJYP,NJYRX",
   "NJYR,NYIT,NYIX,NYI,NYIP,NYIET,NYIEX,NYIE,NYIEP,NYUOX,NYUO,NYUOP,NYOT,NYOX,NYO,NYOP,NYUT,NYUX",
   "NYU,NYUP,XIT,XIX,XI,XIP,XIET,XIEX,XIE,XIEP,XUOX,XUO,XOT,XOX,XO,XOP,XYT,XYX,XY,XYP,XYRX,XYR",
   "YIT,YIX,YI,YIP,YIET,YIEX,YIE,YIEP,YUOT,YUOX,YUO,YUOP,YOT,YOX,YO,YOP,YUT,YUX,YU,YUP,YURX,YUR",
   "YYT,YYX,YY,YYP,YYRX,YYR,a490:1RADICAL QOT,2LI,KIT,NYIP,CYP,SSI,GGOP,GEP,MI,HXIT,LYR,BBUT,MOP",
   "YO,PUT,HXUO,TAT,GA,ZUP,CYT,DDUR,BUR,GGUO,NYOP,TU,OP,JJUT,ZOT,PYT,HMO,YIT,VUR,SHY,VEP,ZA,JO",
   "NZUP,JJY,GOT,JJIE,WO,DU,SHUR,LIE,CY,CUOP,CIP,HXOP,SHAT,ZUR,SHOP,da,ZZIET,NBIE,KE",
   "a4d0:0LISU o BA,2PA,qs,DA,TA,wr,GA,KA,ls,JA,CA,cx,DZA,xu,xv,MA,NA,LA,SA,ZHA,ZA,op,HA,XA,HHA",
   "FA,WA,tu,YA,ik,A,AE,E,EU,I,O,U,UE,UH,OE,xj MYA TI,3NA PO,MYA CYA,4BO,NA,JEU,1rm dr,2id vr",
   "0VAI wf EE,2EEN,HEE,WEE,WEEN,PEE,BHEE,BEE,MBEE,KPEE,MGBEE,GBEE,FEE,VEE,TEE,THEE,DHEE,DHHEE",
   "LEE,REE,DEE,NDEE,SEE,SHEE,ZEE,ZHEE,CEE,JEE,NJEE,YEE,KEE,NGGEE,GEE,MEE,NEE,NYEE,I,IN,HI,HIN",
   "WI,WIN,PI,BHI,BI,MBI,KPI,MGBI,GBI,FI,VI,TI,THI,DHI,DHHI,LI,RI,DI,NDI,SI,SHI,ZI,ZHI,CI,JI,NJI",
   "YI,KI,NGGI,GI,MI,NI,NYI,A,AN,NGAN,HA,HAN,WA,WAN,PA,by,BA,MBA,KPA,KPAN,MGBA,GBA,FA,VA,TA,wr",
   "fd,DHHA,LA,RA,DA,NDA,SA,tu,ZA,ZHA,CA,JA,NJA,YA,KA,KAN,NGGA,GA,MA,NA,pk,OO,OON,HOO,WOO,WOON",
   "POO,BHOO,BOO,MBOO,KPOO,MGBOO,GBOO,FOO,VOO,TOO,THOO,DHOO,DHHOO,LOO,ROO,DOO,NDOO,SOO,SHOO,ZOO",
   "ZHOO,COO,JOO,NJOO,YOO,KOO,NGGOO,GOO,MOO,NOO,NYOO,U,UN,HU,HUN,WU,WUN,PU,BHU,BU,MBU,KPU,MGBU",
   "GBU,FU,VU,TU,THU,DHU,DHHU,LU,RU,DU,NDU,SU,SHU,ZU,ZHU,CU,JU,NJU,YU,KU,NGGU,GU,MU,NU,NYU,O,ON",
   "NGON,HO,HON,WO,WON,PO,BHO,BO,MBO,KPO,MGBO,GBO,GBON,FO,VO,TO,THO,DHO,DHHO,LO,RO,DO,NDO,SO,SHO",
   "ZO,ZHO,CO,JO,NJO,YO,KO,NGGO,GO,MO,NO,NYO,E,EN,NGEN,HE,HEN,WE,WEN,PE,BHE,BE,MBE,KPE,KPEN,MGBE",
   "GBE,GBEN,FE,VE,TE,ws,DHE,DHHE,LE,RE,DE,NDE,SE,ua,ZE,ZHE,CE,JE,NJE,YE,KE,NGGE,NGGEN,GE,GEN,ME",
   "NE,NYE,NG,mq,1dr,id vr,ru nm,wf NDOLE FA,3KA,SOO,1u FEENG,2KEENG,TING,NII,BANG,FAA,TAA,DANG",
   "DOONG,KUNG,TONG,DO-O,JONG,1fm zx,2ps,yg,v,hz,hr,uq,tr,gg,ot,1wf NDOLE MA,3DO",
   "a640:0ep f o ZEMLYA,1s o ZEMLYA,f o DZELO,s o DZELO,f o sd DZE,s o sd DZE,f o ks,s o ks",
   "f o DJERV,s o DJERV,f o MONOGRAPH UK,s o MONOGRAPH UK,f o BROAD pp,s o BROAD pp,f o oo YER",
   "s o oo YER,f o YERU z BACK YER,s o YERU z BACK YER,f o ku YAT,s o ku YAT,f o sd YU,s o sd YU",
   "f o ku A,s o ku A,f o dn mw zs,s o dn mw zs,f o BLENDED zs,s o BLENDED zs,f o ku dn mw zs",
   "s o ku dn mw zs,f o YN,s o YN,f o sd TSE,s o sd TSE,f o uy DE,s o uy DE,f o uy EL,s o uy EL",
   "f o uy EM,s o uy EM,f o MONOCULAR O,s o MONOCULAR O,f o BINOCULAR O,s o BINOCULAR O",
   "f o g MONOCULAR O,s o g MONOCULAR O,o MULTIOCULAR O,0dq ep VZMET,2wp nw r,jx nw r,xc nw r",
   "0SLAVONIC bh,dq ep o UKRAINIAN IE,3I,YI,U,HARD r,YERU,uy r,pp,2KAVYKA,PAYEROK,0ep KAVYKA",
   "1PAYEROK,f o DWE,s o DWE,f o DZWE,s o DZWE,f o ZHWE,s o ZHWE,f o CCHE,s o CCHE,f o DZZE",
   "s o DZZE,f o TE z nu ju,s o TE z nu ju,f o TWE,s o TWE,f o TSWE,s o TSWE,f o TSSE,s o TSSE",
   "f o TCHE,s o TCHE,f o HWE,s o HWE,f o SHWE,s o SHWE,f o g O,s o g O,f o eg O,s o eg O",
   "0ny o ep HARD r,3uy r,0dq ep o EF,3ku E,0BAMUM o A,2KA,U,KU,EE,REE,TAE,O,NYI,I,LA,PA,RII",
   "RIEE,LEEEE,MEEEE,TAA,NDAA,NJAEM,M,SUU,MU,SHII,SI,SHEUX,SEUX,KYEE,KET,NUAE,NU,NJUAE,YOQ,SHU",
   "YUQ,YA,NSHA,KEUX,PEUX,NJEE,NTEE,PUE,WUE,PEE,FEE,RU,LU,MI,NI,REUX,RAE,KEN,NGKWAEN,NGGA,op,SHO",
   "PUAE,FU,FOM,WA,NA,LI,PI,LOQ,KO,MBEN,REN,MEN,MA,TI,KI,MO,MBAA,TET,KPA,wp,NTUU,SAMBA,FAAMAE",
   "KOVUU,KOGHOM,1dq nm KOQNDON,3TUKWENTIS,1NJAEMLI,id vr,dp,dr,tn,ru nm",
   "a700:0ny o CHINESE xj YIN PING,4zn PING,YIN SHANG,zn SHANG,YIN QU,zn QU,YIN RU,zn RU",
   "2ha fw xj bp,jp fw xj bp,MID fw xj bp,nd fw xj bp,EXTRA-LOW fw xj bp,ha fw mn xj bp",
   "jp fw mn xj bp,MID fw mn xj bp,nd fw mn xj bp,EXTRA-LOW fw mn xj bp,ha mn xj bp,jp mn xj bp",
   "MID mn xj bp,nd mn xj bp,EXTRA-LOW mn xj bp,ft x bp,3uw,j bp,2ne p eb ap,rw UP c,3fz c,gx nm",
   "kr gx nm,2nd kr gx nm,STRESS b jp xj,4nd xj,0mj f o gf ah,1s o gf ah,f o gf af,s o gf af",
   "f o HENG,s o HENG,f o TZ,s o TZ,f o TRESILLO,s o TRESILLO,f o CUATRILLO,s o CUATRILLO",
   "f o CUATRILLO z dr,s o CUATRILLO z dr,o s f F,4S,1f o AA,s o AA,f o AO,s o AO,f o AU,s o AU",
   "f o AV,s o AV,f o AV z j bp,s o AV z j bp,f o AY,s o AY,f o sd C z ft,s o sd C z ft",
   "f o K z t,s o K z t,f o K z ff t,s o K z ff t,f o K z t b ff t,s o K z t b ff t,f o BROKEN L",
   "s o BROKEN L,f o L z jp t,s o L z jp t,f o O z na t qd,s o O z na t qd,f o O z nc,s o O z nc",
   "f o OO,s o OO,f o P z t xe fc,s o P z t xe fc,f o P z hu,s o P z hu,f o P z SQUIRREL wj",
   "s o P z SQUIRREL wj,f o Q z t xe fc,s o Q z t xe fc,f o Q z ff t,s o Q z ff t,f o R ROTUNDA",
   "s o R ROTUNDA,f o RUM ROTUNDA,s o RUM ROTUNDA,f o V z ff t,s o V z ff t,f o VY,s o VY",
   "f o VISIGOTHIC Z,s o VISIGOTHIC Z,f o THORN z t,s o THORN z t,f o THORN z t xe fc",
   "s o THORN z t xe fc,f o VEND,s o VEND,f o ET,s o ET,f o IS,s o IS,f o CON,s o CON,0ny o US",
   "mj s o DUM,3LUM,MUM,NUM,RUM,1o s f RUM,s o TUM,3UM,1f o km D,s o km D,f o km F,s o km F",
   "f o km G,3ya km G,1s o ya km G,f o ya L,s o ya L,f o km R,s o km R,f o km S,s o km S",
   "f o km T,s o km T,0ny o nd dk ac,2dp,uf gt r,0mj f o SALTILLO,1s o SALTILLO,f o ya H",
   "s o L z sb ju b BELT,o SINOLOGICAL ft,f o N z fc,s o N z fc,f o C z bp,s o C z bp,5qh ju",
   "3H z qh ju,1f o B z hu,s o B z hu,f o F z t,s o F z t,f o zb AE,s o zb AE,f o zb OE",
   "s o zb OE,f o zb UE,s o zb UE,f o G z pl t,s o G z pl t,f o K z pl t,s o K z pl t",
   "f o N z pl t,s o N z pl t,f o R z pl t,s o R z pl t,f o S z pl t,s o S z pl t,f o H z ju",
   "3sd pu E,th G,L z BELT,s f I,1o s f Q,f o ya K,4T,3J z eh,dd,bv,1s o bv,f o pp,s o pp",
   "f o U z t,s o U z t,f o io A,s o io A,f o io I,s o io I,f o io U,s o io U,f o po POLISH O",
   "s o po POLISH O,f o ANGLICANA W,s o ANGLICANA W,f o C z qh ju,3S z ju,Z z qh ju,D z uf t qd",
   "1s o D z uf t qd,f o S z uf t qd,s o S z uf t qd,a7d0:f o dn km G,s o dn km G,a7d3:3g THORN",
   "a7d5:4WYNN,1f o nu SCOTS S,s o nu SCOTS S,f o SIGMOID S,s o SIGMOID S,a7f2:0ny o f C,3F,Q",
   "0mj f o sd iv H,1s o sd iv H,EPIGRAPHIC o ui I,0ny o f H z t,2s mt OE,0mj o s f ya M",
   "1EPIGRAPHIC o sd F,4P,3kr M,I LONGA,az M,0SYLOTI NAGRI o A,3I,2r DVISVARA,o U,3E,O",
   "2r HASANTA,o KO,3KHO,GO,GHO,2r at,o CO,3CHO,JO,JHO,TTO,TTHO,DDO,DDHO,TO,THO,DO,DHO,NO,PO,PHO",
   "BO,BHO,MO,RO,LO,RRO,SO,HO,2zc r A,4I,U,E,OO,2POETRY MARK-1*3,r am HASANTA",
   "a830:0oz INDIC ib ps rr,4iv,3v rs,ps us,4gi,3v ut,2rr nm,PLACEHOLDER nm,RUPEE nm,QUANTITY nm",
   "a840:0PHAGS-PA o KA,2ls,GA,op,CA,cx,JA,pk,TA,wr,DA,NA,PA,qs,BA,MA,xu,xv,DZA,WA,ZHA,ZA,s A,YA",
   "RA,LA,tu,SA,HA,A,I,U,E,O,QA,XA,FA,GGA,EE,1vu o WA,3YA,1o xx,2xy,ey,ow,am YA,VOICELESS tu",
   "za HA,ASPIRATED FA,1vu o RA,SUPERFIXED o RA,o co,uo jj nm,g jj nm,nm tv,2g tv",
   "a880:0SAURASHTRA r at,2yy,1o A,2AA,I,II,U,UU,yz R,3RR,L,LL,2E,EE,AI,O,OO,AU,KA,ls,GA,ik,op",
   "CA,cx,JA,lb,pk,xx,xy,ey,ez,ow,TA,wr,DA,fd,NA,PA,qs,BA,by,MA,YA,RA,LA,VA,tu,vj,SA,HA,mx",
   "1dv r HAARU,zc r AA,3I,II,U,UU,yz R,4RR,L,LL,3E,EE,AI,O,OO,AU,1r yx,2co,a8ce:1eu,g eu,fm zx",
   "2ps,yg,v,hz,hr,uq,tr,gg,ot,a8e0:0dq DEVANAGARI fm zx,3ps,yg,v,hz,hr,uq,tr,gg,ot,2o A,3U,KA",
   "NA,PA,RA,VI,2r bj,0DEVANAGARI r SPACING co,2co yx,g co yx,co yg,3v,bj,2PUSHPIKA,1GAP hl,cp",
   "HEADSTROKE,r ug,JAIN OM,o AY,zc r AY,0KAYAH LI fm zx,3ps,yg,v,hz,hr,uq,tr,gg,ot,2o KA,3ls,GA",
   "op,SA,tu,ZA,pk,TA,HTA,NA,PA,qs,MA,DA,BA,RA,YA,LA,WA,wr,HA,VA,CA,A,OE,I,OO,2zc UE,3E,U,EE,O",
   "2xj PLOPHU,3CALYA,4PLOPHU,2r CWI,3SHYA,0REJANG o KA,2GA,op,TA,DA,NA,PA,BA,MA,CA,JA,pk,SA,RA",
   "LA,YA,WA,HA,MBA,NGGA,NDA,NYJA,A,1zc r I,3U,E,AI,O,AU,EU,EA,1dv r NG,3N,R,H,1yx,a95f:tk nm",
   "0jh CHOSEONG TIKEUT-MIEUM,2TIKEUT-PIEUP,TIKEUT-SIOS,TIKEUT-CIEUC,sg,RIEUL-SSANGKIYEOK",
   "RIEUL-TIKEUT,RIEUL-SSANGTIKEUT,sh,sj,RIEUL-SSANGPIEUP,RIEUL-KAPYEOUNPIEUP,sk,RIEUL-CIEUC",
   "RIEUL-KHIEUKH,MIEUM-KIYEOK,MIEUM-TIKEUT,MIEUM-SIOS,PIEUP-SIOS-THIEUTH,PIEUP-KHIEUKH",
   "PIEUP-HIEUH,SSANGSIOS-PIEUP,IEUNG-RIEUL,IEUNG-HIEUH,SSANGCIEUC-HIEUH,SSANGTHIEUTH",
   "PHIEUPH-HIEUH,HIEUH-SIOS,SSANGYEORINHIEUH,a980:0JAVANESE r PANYANGGA,2CECAK,LAYAR,WIGNYAN",
   "1o A,2I KAWI,I,II,U,PA CEREK,op LELET,4RASWADI,2E,AI,O,KA,3SASAK,oi,2GA,3oi,2op,CA,3oi,2JA",
   "pk oi,JA nk,pk,xx,3nk,2ey,3nk,2NA oi,TA,3oi,2DA,3nk,2NA,PA,3oi,2BA,3oi,2MA,YA,RA,3AGUNG,2LA",
   "WA,SA oi,3nk,3,2HA,1r CECAK TELU,zc r TARUNG,3TOLONG,WULU,4MELIK,3SUKU,4MENDUT,3TALING",
   "DIRGA MURE,PEPET,1dv r KERET,3PENGKAL,CAKRA,1PANGKON,m RERENGGAN,p RERENGGAN,PADA ANDAP",
   "2MADYA,LUHUR,WINDU,PANGKAT,LINGSA,LUNGSI,ADEG,3ADEG,2PISELEH,1ya PADA PISELEH",
   "a9cf:PANGRANGKEP,fm zx,2ps,yg,v,hz,hr,uq,tr,gg,ot,a9de:1PADA TIRTA TUMETES,2ISEN-ISEN",
   "0MYANMAR o SHAN ik,3cx,lb,ow,by,1r SHAN SAW,ny o SHAN REDUPLICATION,o TAI LAING pk,4FA,GA,ik",
   "JA,lb,ey,ez,ow,1TAI LAING fm zx,4ps,yg,v,hz,hr,uq,tr,gg,ot,1o TAI LAING mx,4DA,fd,BA,by",
   "aa00:0CHAM o A,2I,U,E,AI,O,KA,ls,GA,ik,NGUE,op,cx,CHHA,JA,lb,NHUE,NHA,NHJA,TA,wr,DA,fd,NUE",
   "NA,ey,PA,PPA,qs,BA,by,MUE,MA,BBA,YA,RA,LA,VA,vj,SA,HA,1zc r AA,3I,II,EI,U,OE,O,AI,AU,UE",
   "1dv r YA,3RA,LA,WA,aa40:1o h K,3G,NG,1dv r h NG,o h CH,3T,N,P,Y,R,L,SS,1dv r h M,4H",
   "aa50:1fm zx,2ps,yg,v,hz,hr,uq,tr,gg,ot,aa5c:1rm SPIRAL,2eu,g eu,xt eu,0MYANMAR o KHAMTI GA",
   "3CA,cx,JA,lb,pk,xx,xy,ey,ez,fd,NA,SA,HA,HHA,FA,1ny o KHAMTI REDUPLICATION,o KHAMTI XA,3ZA,RA",
   "1mz KHAMTI OAY,3QN,HM,1u AITON gx,3ps,yg,1o AITON RA,r PAO lk xj,2TAI LAING TONE-2,4TONE-5",
   "1o SHWE PALAUNG cx,4tu,0TAI VIET o nd KO,3jp KO,nd KHO,jp KHO,nd KHHO,jp KHHO,nd GO,jp GO",
   "nd NGO,jp NGO,nd CO,jp CO,nd CHO,jp CHO,nd SO,jp SO,nd NYO,jp NYO,nd DO,jp DO,nd TO,jp TO",
   "nd THO,jp THO,nd NO,jp NO,nd BO,jp BO,nd PO,jp PO,nd PHO,jp PHO,nd FO,jp FO,nd MO,jp MO",
   "nd YO,jp YO,nd RO,jp RO,nd LO,jp LO,nd VO,jp VO,nd HO,jp HO,nd O,jp O,2MAI KANG,zc AA,3I,UE",
   "U,E,O,2MAI KHIT,zc IA,3UEA,UA,AUE,AY,AN,AM,2xj MAI EK,4NUENG,THO,SONG,aadb:2u KON,3NUENG,SAM",
   "HO HOI,KOI KOI,0MEETEI MAYEK o E,3O,cx,pk,xx,xy,ey,ez,ow,tu,vj,2zc r II,4UU,AAI,AU,AAU",
   "2CHEIKHAN,AHANG KHUDAM,ANJI,wf REPETITION nm,zj REPETITION nm,zc r yy,yx",
   "ab01:0ETHIOPIC wf TTHU,2TTHI,TTHAA,TTHEE,TTHE,TTHO,ab09:DDHU,DDHI,DDHAA,DDHEE,DDHE,DDHO",
   "ab11:DZU,DZI,DZAA,DZEE,DZE,DZO,ab20:CCHHA,CCHHU,CCHHI,CCHHAA,CCHHEE,CCHHE,CCHHO,ab28:BBA,BBU",
   "BBI,BBAA,BBEE,BBE,BBO,ab30:0mj s o bs al,3A REVERSED-SCHWA,BLACKLETTER E,bs E,E z hu,LENIS F",
   "th G z eh,L z kr LAZY S,5g nu xh,nu sq,3M z eh,N z eh,ENG z eh,BLACKLETTER O,5z t,3pu O z t",
   "kr OE,ya OE z t,6j t,4O OPEN-O,6z t,3STIRRUP R,1o s f R z p LEG,s o R WITHOUT HANDLE,3g R",
   "R z eh,g R z eh,th R,5z sq,3BASELINE ESH,U z uf p LEG,4bp z uf p LEG,3UI,ya UI,U z m ju,dd",
   "4z nd p sq,6m SERIF,3X z nd p sq,5na m LEG,8b nd p sq,z SERIF,3Y z uf p LEG,0ny ch z kr ch",
   "1o s HENG,3L z kr LAZY S,5nu xh,3U z m ju,0mj s o SAKHA YAT,3ku E,pu OE,UO,kr al",
   "0ir o s f pp,mj s o DZ fn z sb ju,3TS fn z sb ju,ya R z nu xh,0ny o s ya W,2m wh,p wh",
   "ab70:0CHEROKEE s o A,3E,I,O,U,V,GA,KA,GE,GI,GO,GU,GV,HA,HE,HI,HO,HU,HV,LA,LE,LI,LO,LU,LV,MA",
   "ME,MI,MO,MU,NA,HNA,NAH,NE,NI,NO,NU,NV,QUA,QUE,QUI,QUO,QUU,QUV,SA,S,SE,SI,SO,SU,SV,DA,TA,DE",
   "TE,DI,TI,DO,DU,DV,DLA,TLA,TLE,TLI,TLO,TLU,TLV,xu,TSE,TSI,TSO,TSU,TSV,WA,WE,WI,WO,WU,WV,YA",
   "0MEETEI MAYEK o KOK,3SAM,LAI,MIT,PA,NA,CHIL,TIL,KHOU,NGOU,THOU,WAI,zn,HUK,UN,I,PHAM,ATIYA",
   "GOK,JHAM,RAI,BA,JIL,DIL,GHOU,DHOU,BHAM,KOK nb,LAI nb,MIT nb,PA nb,NA nb,TIL nb,NGOU nb,I nb",
   "2zc r ONAP,4INAP,ANAP,YENAP,SOUNAP,UNAP,CHEINAP,NUNG,2CHEIKHEI,LUM IYEK,APUN IYEK,abf0:fm zx",
   "3ps,yg,v,hz,hr,uq,tr,gg,ot,d7b0:0jh JUNGSEONG O-YEO,2O-O-I,YO-A,YO-AE,YO-EO,U-YEO,U-I-I",
   "YU-AE,YU-O,EU-A,EU-EO,EU-E,EU-O,I-YA-O,I-YAE,I-YEO,I-YE,I-O-I,I-YO,I-YU,I-I,ARAEA-A,ARAEA-E",
   "d7cb:1JONGSEONG NIEUN-RIEUL,2NIEUN-CHIEUCH,vn,SSANGTIKEUT-PIEUP,TIKEUT-PIEUP,TIKEUT-SIOS",
   "TIKEUT-SIOS-KIYEOK,TIKEUT-CIEUC,TIKEUT-CHIEUCH,TIKEUT-THIEUTH,RIEUL-SSANGKIYEOK",
   "RIEUL-KIYEOK-HIEUH,SSANGRIEUL-KHIEUKH,RIEUL-MIEUM-HIEUH,RIEUL-PIEUP-TIKEUT",
   "RIEUL-PIEUP-PHIEUPH,RIEUL-YESIEUNG,RIEUL-YEORINHIEUH-HIEUH,KAPYEOUNRIEUL,MIEUM-NIEUN",
   "MIEUM-SSANGNIEUN,SSANGMIEUM,MIEUM-PIEUP-SIOS,MIEUM-CIEUC,PIEUP-TIKEUT,PIEUP-RIEUL-PHIEUPH",
   "PIEUP-MIEUM,vm,qw,PIEUP-CIEUC,PIEUP-CHIEUCH,SIOS-MIEUM,SIOS-KAPYEOUNPIEUP,SSANGSIOS-KIYEOK",
   "SSANGSIOS-TIKEUT,SIOS-PANSIOS,SIOS-CIEUC,SIOS-CHIEUCH,SIOS-THIEUTH,SIOS-HIEUH,PANSIOS-PIEUP",
   "PANSIOS-KAPYEOUNPIEUP,YESIEUNG-MIEUM,YESIEUNG-HIEUH,CIEUC-PIEUP,CIEUC-SSANGPIEUP,vk",
   "PHIEUPH-SIOS,PHIEUPH-THIEUTH"]

end LineScript.Text.Name
