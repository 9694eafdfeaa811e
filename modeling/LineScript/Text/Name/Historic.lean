/-!
# Historic scripts

The names of the characters of scripts that are no longer in daily use, with cuneiform signs and
hieroglyphs: the code points from 10000 to 16FFF.
-/

namespace LineScript.Text.Name

/-- The names in the order of their code points; `Reading.entry` says how they are written. -/
def historic : List String :=
  ["10000:LINEAR B wf B008 A,3B038 E,B028 I,B061 O,B010 U,B001 DA,B045 DE,B007 DI,B014 DO",
   "B051 DU,B057 JA,B046 JE,1000d:B036 JO,B065 JU,B077 KA,B044 KE,B067 KI,B070 KO,B081 KU",
   "B080 MA,B013 ME,B073 MI,B015 MO,B023 MU,B006 NA,B024 NE,B030 NI,B052 NO,B055 NU,B003 PA",
   "B072 PE,B039 PI,B011 PO,B050 PU,B016 QA,B078 QE,B021 QI,B032 QO,10028:B060 RA,B027 RE",
   "B053 RI,B002 RO,B026 RU,B031 SA,B009 SE,B041 SI,B012 SO,B058 SU,B059 TA,B004 TE,B037 TI",
   "B005 TO,B069 TU,B054 WA,B075 WE,B040 WI,B042 WO,1003c:B017 ZA,B074 ZE,1003f:B020 ZO,B025 A2",
   "B043 A3,B085 AU,B071 DWE,B090 DWO,B048 NWA,B029 PU2,B062 PTE,B076 RA2,B033 RA3,B068 RO2",
   "B066 TA2,B087 TWE,B091 yg,10050:2u B018*1,3B022,B034,B047,B049,B056,B063*1,B079,B082*1,B086",
   "B089,10080:2kb B100 MAN,3B102 WOMAN,B104 DEER,B105 EQUID,B105F MARE,B105M STALLION,B106F EWE",
   "B106M RAM,B107F SHE-GOAT,B107M HE-GOAT,B108F SOW,B108M BOAR,B109F COW,B109M BULL,B120 WHEAT",
   "B121 BARLEY,B122 OLIVE,B123 SPICE,B125 CYPERUS,2nz B127 KAPO,3B128 KANAKO,2kb B130 OIL",
   "3B131 WINE,B132,2nz B133 AREPA,3B135 MERI,2kb B140 BRONZE,3B141 GOLD,B142,B145 WOOL,B146",
   "B150,B151 jv,B152*2,2nz B156 TURO2,kb B157*1,3B159 CLOTH,B160*1,B162 GARMENT,B163 ARMOUR",
   "B164*8,B173 MONTH,B174,B176 TREE,B177*8,B189*1,B191 HELMET,B220 FOOTSTOOL,B225 BATHTUB",
   "B230 SPEAR,B231 c,B232,B233 SWORD,B234,B236,B240 WHEELED CHARIOT,B241 CHARIOT",
   "B242 CHARIOT FRAME,B243 WHEEL,B245*1,2nz B247 DIPTE,kb B248*1,3B251*2,B254 DART,B255*4",
   "VESSEL B155,4B200*19,B221*1,B226*3,B250,B305,10100:0AEGEAN zj tp mv,3ft,1db nm,10107:ph ps",
   "2yg,v,hz,hr,uq,tr,gg,ot,wp,ye,xa,hx,hj,uu,tt,gk,ov,ps jx,yg jx,v jx,hz jx,hr jx,uq jx,tr jx",
   "gg jx,ot jx,ps xc,yg xc,v xc,hz xc,hr xc,uq xc,tr xc,gg xc,ot xc,wp xc,ye xc,xa xc,hx xc",
   "hj xc,uu xc,tt xc,gk xc,ov xc,10137:1WEIGHT BASE UNIT,2hp vz,tj vz,wx vz,FOURTH vz",
   "1DRY np hp vz,LIQUID np hp vz,np tj vz,2wx vz,0ir ACROPHONIC ATTIC ps rr,4iv,DRACHMA,3hr,hj",
   "hr jx,4xc,3hj xc,hr wl,wp wl,hj wl,ps jx wl,hr jx wl,ps xc wl,hr xc wl,4vq,3wp vq,hj vq",
   "ps jx vq,hr jx vq,ps xc vq,wp xc vq,hj xc vq,wp MNAS,2HERAEUM ps PLETHRON,wu ps",
   "HERMIONIAN ps,EPIDAUREAN yg,wu yg,CYRENAIC yg DRACHMAS,EPIDAUREAN yg DRACHMAS,TROEZENIAN hr",
   "3wp,4am i,2HERMIONIAN wp,MESSENIAN wp,wu wp,3xa,2TROEZENIAN hj,4am i,2HERMIONIAN hj,wu hj",
   "3ps jx,v jx,2EPIDAUREAN hr jx,TROEZENIAN hr jx,wu hr jx,CARYSTIAN hr jx,NAXIAN hr jx",
   "wu ps xc,3hr xc,2DELPHIC hr MNAS,STRATIAN hj MNAS,1ps iv r,4am i,1yg wy r,v rs r,YEAR r",
   "TALENT r,DRACHMA r,OBOL r,yg OBOLS r,v OBOLS r,hz OBOLS r,hr OBOLS r,METRETES r",
   "KYATHOS BASE r,LITRA r,OUNKIA r,XESTES r,ARTABE r,AROURA r,GRAMMA r,TRYBLION BASE r,zx r",
   "ps rr r,SINUSOID r,INDICTION r,0NOMISMA r,10190:ROMAN SEXTANS r,1UNCIA r,SEMUNCIA r",
   "SEXTULA r,DIMIDIA SEXTULA r,SILIQUA r,DENARIUS r,QUINARIUS r,SESTERTIUS r,DUPONDIUS r,AS r",
   "CENTURIAL r,0ASCIA u,101a0:ir u TAU se,101d0:PHAISTOS DISC r PEDESTRIAN,3PLUMED jj",
   "TATTOOED jj,CAPTIVE,CHILD,WOMAN,HELMET,GAUNTLET,TIARA,c,BOW,SHIELD,CLUB,MANACLES,MATTOCK,SAW",
   "LID,BOOMERANG,CARPENTRY PLANE,DOLIUM,COMB,SLING,COLUMN,BEEHIVE,SHIP,jv,HIDE,BULLS LEG,CAT",
   "RAM,EAGLE,DOVE,TUNNY,BEE,PLANE TREE,VINE,PAPYRUS,ROSETTE,LILY,OX BACK,FLUTE,GRATER,STRAINER",
   "s AXE,WAVY BAND,dq pl t,10280:0LYCIAN o A,2E,B,BH,G,D,I,W,Z,TH,J,K,Q,L,M,N,MM,NN,U,P,KK,R,S",
   "T,TT,AN,EN,H,X,102a0:0CARIAN o A,2P2,D,L,UUU,R,LD,A2,Q,B,M,O,D2,T,SH,SH2,S,C-18,U,NN,X,N,TT2",
   "P,SS,I,E,UUUU,K,K2,ND,UU,G,G2,ST,ST2,NG,II,C-39,TT,UUU2,RR,MB,MB2*2,LD2,E2,UUU3",
   "102e0:0ea EPACT xd nm,2fm ps,3yg,v,hz,hr,uq,tr,gg,ot,2ph wp,3ye,xa,hx,hj,uu,tt,gk,ov,ps jx",
   "yg jx,v jx,hz jx,hr jx,uq jx,tr jx,gg jx,ot jx,10300:0po kv o A,3BE,KE,DE,E,VE,ZE,HE,ws,I,KA",
   "EL,EM,EN,ESH,O,PE,ua,KU,ER,ES,TE,U,EKS,PHE,KHE,EF,ERS,da,II,UU,ESS,2pi ps,3hr,wp,hj",
   "1032d:2o YE,3NORTHERN TSE,SOUTHERN TSE,0GOTHIC o AHSA,2BAIRKAN,GIBA,DAGS,AIHVUS,QAIRTHRA",
   "IUJA,HAGL,THIUTH,EIS,KUSMA,LAGUS,MANNA,NAUTHS,JER,URUS,PAIRTHRA,ov,RAIDA,SAUIL,TEIWS,WINJA",
   "FAIHU,IGGWS,HWAIR,OTHAL,ot jx,10350:0po PERMIC o AN,3BUR,GAI,DOI,E,ZHOI,DZHOI,ZATA,DZITA,I",
   "KOKE,LEI,MENOE,NENOE,VOOI,PEEI,REI,SII,TAI,U,CHERY,SHOOI,SHCHOOI,YRY,YERU,O,OO,EF,HA,TSIU",
   "VER,YER,YERI,YAT,IE,YU,YA,IA,0dq po PERMIC o AN,4DOI,ZATA,NENOE,SII,10380:0UGARITIC o ALPA",
   "2bv,GAMLA,ls,fb,HO,WO,zy,HOTA,TET,YOD,le,ue,mf,MEM,DHAL,pj,ZU,SAMKA,af,PU,SADE,QOPA,RASHA",
   "THANNA,il,TO,I,U,SSU,1039f:1zj fp,0po PERSIAN r A,3I,U,KA,KU,GA,GU,XA,CA,JA,JI,TA,TU,DA,DI",
   "DU,wr,PA,BA,FA,NA,NU,MA,MI,MU,YA,VA,VI,RA,RU,LA,SA,ZA,tu,vj,HA,103c8:AURAMAZDAA,AURAMAZDAA-2",
   "AURAMAZDAAHA,XSHAAYATHIYA,DAHYAAUSH,DAHYAAUSH-2,BAGA,BUUMISH,2zj fp,ph ps,3yg,wp,ye,jx",
   "10400:0DESERET f o na I,4E,A,AH,O,OO,3uf I,4E,A,AH,O,OO,3AY,OW,WU,YEE,H,PEE,BEE,TEE,DEE,CHEE",
   "JEE,KAY,GAY,EF,VEE,ETH,THEE,ES,ZEE,ESH,ZHEE,ER,EL,EM,EN,ENG,OI,EW,1s o na I,4E,A,AH,O,OO",
   "3uf I,4E,A,AH,O,OO,3AY,OW,WU,YEE,H,PEE,BEE,TEE,DEE,CHEE,JEE,KAY,GAY,EF,VEE,ETH,THEE,ES,ZEE",
   "ESH,ZHEE,ER,EL,EM,EN,ENG,OI,EW,0SHAVIAN o PEEP,2TOT,KICK,FEE,THIGH,SO,SURE,CHURCH,YEA,HUNG",
   "BIB,DEAD,GAG,VOW,THEY,ZOO,np,JUDGE,WOE,HA-HA,LOLL,MIME,IF,EGG,bg,ADO,ON,WOOL,OUT,AH,ROAR,pj",
   "EAT,AGE,ICE,UP,OAK,OOZE,OIL,AWE,ARE,OR,AIR,ERR,ARRAY,EAR,IAN,YEW,0OSMANYA o ah,2BA,TA,JA,XA",
   "ls,DEEL,RA,SA,SHIIN,fd,CAYN,GA,FA,QAAF,KAAF,LAAN,MIIN,NUUN,zf,HA,YA,A,E,I,O,U,AA,EE,OO",
   "104a0:1fm zx,2ps,yg,v,hz,hr,uq,tr,gg,ot,104b0:0OSAGE f o A,3AI,af,AH,BRA,cx,EHCHA,E,EIN,HA",
   "HYA,I,KA,EHKA,KYA,LA,MA,NA,O,OIN,PA,EHPA,SA,tu,TA,EHTA,xu,EHTSA,xv,fd,U,WA,ls,ik,ZA,ZHA",
   "104d8:1s o A,3AI,af,AH,BRA,cx,EHCHA,E,EIN,HA,HYA,I,KA,EHKA,KYA,LA,MA,NA,O,OIN,PA,EHPA,SA,tu",
   "TA,EHTA,xu,EHTSA,xv,fd,U,WA,ls,ik,ZA,ZHA,10500:0ELBASAN o A,2BE,CE,da,DE,NDE,DHE,EI,E,FE,GE",
   "GJE,HE,I,JE,KE,LE,LLE,ME,NE,NA,NJE,O,PE,QE,RE,RRE,SE,ua,TE,ws,U,VE,XE,Y,ZE,ZHE,GHE,GHAMMA",
   "KHE,10530:0CAUCASIAN ALBANIAN o ALT,3BET,GIM,DAT,EB,ZARL,EYN,ZHIL,TAS,cx,YOWD,ZHA,IRB,tu,LAN",
   "INYA,XEYN,DYAN,CAR,JHOX,KAR,LYIT,HEYT,QAY,AOR,CHOY,dd,CYAY,MAQ,QAR,NOWC,DZYAY,SHAK,JAYN,ON",
   "TYAY,FAM,DZAY,CHAT,PEN,GHEYS,RAT,SEYK,VEYZ,TIWR,SHOY,IWN,CYAW,CAYN,YAYD,PIWR,KIW",
   "1056f:2CITATION nm,0VITHKUQI f o A,3BBE,BE,CE,da,DE,DHE,EI,E,FE,GA,1057c:HA,HHA,I,IJE,JE,KA",
   "LA,mx,ME,NE,NJE,O,PE,QA,RE,1058c:SE,ua,TE,ws,U,VE,XE,10594:Y,ZE,10597:1s o A,3BBE,BE,CE,da",
   "DE,DHE,EI,E,FE,GA,105a3:HA,HHA,I,IJE,JE,KA,LA,mx,ME,NE,NJE,O,PE,QA,RE,105b3:SE,ua,TE,ws,U,VE",
   "XE,105bb:Y,ZE,10600:0LINEAR A r AB001*10,3AB013,AB016*1,AB020*1,AB021F,AB021M,AB022,AB022F",
   "AB022M,AB023,AB023M,AB024,AB026*2,A028B,AB029*2,AB034,AB037*4,AB044*7,AB053*8,AB065*2",
   "AB069*1,AB073*1,AB076*6,AB085*2,A100-102,AB118,AB120,A120B,AB122*1,AB131A,AB131B,A131C,AB164",
   "AB171,AB180,AB188,AB191,A301*7,A309A,A309B,A309C,A310*2,A313A,A313B,A313C,A314*57,A400-VAS",
   "A401-VAS,A402-VAS,A403-VAS,A404-VAS,A405-VAS,A406-VAS,A407-VAS,A408-VAS,A409-VAS,A410-VAS",
   "A411-VAS,A412-VAS,A413-VAS,A414-VAS,A415-VAS,A416-VAS,A417-VAS,A418-VAS,A501*5,A508*5,A515*1",
   "A520*1,A523*9,A534*8,A545,A547*10,A559,A563*3,A568*21,A591*1,A594*2,A598,A600*4,A606,A608*16",
   "A626*3,A634,A637*1,A640,A642*4,A648*1,A651*13,10740:A701 A,A702 B,A703 D,A704 E,A705 F",
   "A706 H,A707 J,A708 K,A709 L,A709-2 L2,A709-3 L3,A709-4 L4,A709-6 L6,A710 W,A711 X,A712 Y",
   "A713 pp,A714 ABB,A715 BB,A717 DD,A726 EYYY,A732 JE,10760:A800*7,10780:0ny o s f AA,2wb xs dp",
   "3iv xs dp,2s AE,3f B,B z ju,10787:DZ fn,5z sb ju,6ek,3DEZH fn,D z wj,5ju,6b wj,3sd E",
   "dn sd pu E,FENG fn,RAMS jv,f G,G z ju,f G z ju,H z t,f H,HENG z ju,fu J z t b ju,LS fn,LZ fn",
   "L z BELT,f L z BELT,L z sb ju b BELT,LEZH,4z sb ju,3ya Y,5z BELT,3O z t,f OE,dn pp,Q",
   "ya R z na LEG,8b sb ju,3R z wj,5hq,3f R,TC fn z ek,TS fn,5z sb ju,3TESH fn,T z sb ju",
   "V z p ju,107b2:f Y,2io vr z t,sd io vr z t,BILABIAL dl,DENTAL dl,LATERAL dl,ALVEOLAR dl",
   "sb dl z sb ju,s S z ek,10800:0CYPRIOT wf A,2E,I,O,U,JA,10808:JO,1080a:KA,KE,KI,KO,KU,LA,LE",
   "LI,LO,LU,MA,ME,MI,MO,MU,NA,NE,NI,NO,NU,PA,PE,PI,PO,PU,RA,RE,RI,RO,RU,SA,SE,SI,SO,SU,TA,TE,TI",
   "TO,TU,WA,WE,WI,WO,10837:XA,XE,1083c:ZA,1083f:ZO,0IMPERIAL ARAMAIC o ai,3bw,im,er,HE,zf,zw,jo",
   "TETH,zq,lf,mg,MEM,pj,tc,AYIN,PE,ta,QOPH,rz,ue,TAW,10857:2tk r,ph ps,3yg,v,wp,ye,ps jx,4xc",
   "3wp xc,0PALMYRENE o ai,2bw,im,er,HE,zf,zw,jo,TETH,zq,lf,mg,MEM,h pj,pj,tc,AYIN,PE,ta,QOPH,rz",
   "ue,TAW,1mm FLEURON,sn FLEURON,ph ps,2yg,v,hz,hr,wp,ye,0NABATAEAN o h ai,2ai,h bw,bw,im,er",
   "h HE,HE,zf,zw,jo,TETH,h zq,zq,h lf,lf,h mg,mg,h MEM,MEM,h pj,pj,tc,AYIN,PE,ta,QOPH,rz,h ue",
   "ue,TAW,108a7:1ph ps,2yg,v,hz,1CRUCIFORM ph hz,ph hr,2wp,ye,ps jx,108e0:0HATRAN o ai,2bw,im",
   "DALETH-RESH,HE,zf,ZAYN,jo,TETH,zq,lf,mg,MEM,pj,tc,AYN,PE,ta,QOPH,108f4:ue,TAW,108fb:1ph ps",
   "2hr,wp,ye,ps jx,0PHOENICIAN o ALF,2BET,GAML,DELT,HE,WAU,ZAI,HET,TET,YOD,le,LAMD,MEM,pj,SEMK",
   "af,PE,SADE,QOF,ROSH,ue,TAU,1ph ps,2wp,ye,ps jx,yg,v,1091f:1zj tp,0LYDIAN o A,2B,G,D,E,V,I,Y",
   "K,L,M,N,O,R,SS,T,U,F,Q,S,TT,AN,EN,LY,NN,C,1093f:1xs nm,10980:0MEROITIC HIEROGLYPHIC o A,3E,I",
   "O,YA,WA,BA,BA-2,PA,MA,NA,NA-2,NE,NE-2,RA,RA-2,LA,ls,HHA,SA,SA-2,SE,KA,QA,TA,TA-2,TE,TE-2,TO",
   "DA,2u VIDJ,3VIDJ-2,1CURSIVE o A,3E,I,O,YA,WA,BA,PA,MA,NA,NE,RA,LA,ls,HHA,SA,az SA,SE,KA,QA",
   "TA,TE,TO,DA,109bc:2ib gn yc,3ps iv,2mz RMT,3IMN,2ph ps,3yg,v,hz,hr,uq,tr,gg,ot,wp,ye,xa,hx",
   "hj,uu,tt,109d2:ps jx,yg jx,v jx,hz jx,hr jx,uq jx,tr jx,gg jx,ot jx,ps xc,yg xc,v xc,hz xc",
   "hr xc,uq xc,tr xc,gg xc,ot xc,wp xc,ye xc,xa xc,hx xc,hj xc,uu xc,tt xc,gk xc,ov xc,ps jx xc",
   "yg jx xc,v jx xc,hz jx xc,hr jx xc,uq jx xc,tr jx xc,gg jx xc,ot jx xc,2ib ps TWELFTH,3yg yc",
   "v yc,hz yc,hr yc,uq yc,tr yc,gg yc,ot yc,wp yc,0KHAROSHTHI o A,1zc r I,3U,yz R,10a05:E,O",
   "10a0c:2mp nm,1r g sq d,2at,yy,1o KA,2ls,GA,ik,10a15:CA,cx,JA,10a19:pk,xx,xy,ey,ez,ow,TA,wr",
   "DA,fd,NA,PA,qs,BA,by,MA,YA,RA,LA,VA,tu,vj,SA,ZA,HA,KKA,TTTHA,TTTA,VHA,10a38:1r bp a,2CAUDA",
   "ft d,10a3f:1yx,fm ps,2yg,v,hz,1ph wp,2ye,ps jx,3xc,1ib ps iv,10a50:rm ft,2s dg,dg,ed bp",
   "MANGALAM,LOTUS,eu,g eu,LINES,10a60:0po vb ARABIAN o HE,4mg,jo,MEM,QOPH,zf,ue,rz,bw,TAW,SAT",
   "lf,pj,KHETH,ta,tc,FE,ah,AYN,DHADHE,im,er,GHAYN,TETH,ZAYN,DHALETH,zq,THAW,THETH,3ph ps,4hj",
   "3NUMERIC ki,1oz ARABIAN o jn,4me,iu,nt,rn,zf,ES-2,ry,BEH,TEH,ES-1,le,ox,lt,sz,ES-3,FEH,ah,af",
   "DAD,GEEM,DAL,il,wi,zt,THAL,zo,wt,ZAH,3ph ps,4wp,ye,10ac0:0MANICHAEAN o ai,2bw,BHETH,im",
   "GHIMEL,er,HE,zf,1r UD,o zw,2ZHAYIN,JAYIN,JHAYIN,jo,TETH,zq,lf,XAPH,KHAPH,mg,DHAMEDH,THAMEDH",
   "MEM,pj,tc,AYIN,AAYIN,PE,FE,ta,QOPH,XOPH,QHOPH,rz,ue,SSHIN,TAW,1aa nm a,3d,10aeb:1ph ps,2hr",
   "wp,ye,ps jx,1rm vo,2FLEURON,g ft zi ft,ft zi ft,3,2yg fv,mv hl,10b00:0AVESTAN o A,2AA,AO,AAO",
   "AN,AAN,AE,AEE,E,EE,O,OO,I,II,U,UU,KE,XE,XYE,XVE,GE,GGE,GHE,CE,JE,TE,ws,DE,DHE,TTE,PE,FE,BE",
   "BHE,NGE,NGYE,NGVE,NE,NYE,NNE,ME,HME,YYE,YE,VE,RE,LE,SE,ZE,ua,ZHE,SHYE,SSHE,HE,10b39:1aa nm",
   "0TINY yg fv qb ps ft rm,s yg fv qb ps ft rm,mh yg fv qb ps ft rm,1ps ft qb yg fv rm",
   "yg RINGS qb ps sq rm,ps sq qb yg RINGS rm,0INSCRIPTIONAL PARTHIAN o ai,3bw,im,er,HE,zf,zw,jo",
   "TETH,zq,lf,mg,MEM,pj,tc,AYIN,PE,ta,QOPH,rz,ue,TAW,10b58:2ph ps,3yg,v,hz,wp,ye,ps jx,4xc",
   "1PAHLAVI o ai,3bw,im,er,HE,WAW-AYIN-RESH,zw,jo,TETH,zq,lf,mg,MEM-QOPH,pj,tc,PE,ta,ue,TAW",
   "10b78:2ph ps,3yg,v,hz,wp,ye,ps jx,4xc,0PSALTER PAHLAVI o ai,3bw,im,er,HE,WAW-AYIN-RESH,zw,jo",
   "zq,lf,mg,MEM-QOPH,pj,tc,PE,ta,ue,TAW,10b99:2tk nm,ya tk nm,hz fv z ef,5ft,10ba9:2ph ps,3yg,v",
   "hz,wp,ye,ps jx,10c00:0po TURKIC o py A,3zp A,4AE,3py I,zp I,4E,3py O,4OE,3zp OE,py AB,zp AB",
   "py AEB,zp AEB,py AG,zp AG,py AEG,zp AEG,py AD,zp AD,py AED,4EZ,3zp EZ,py AY,zp AY,py AEY",
   "zp AEY,py AEK,zp AEK,py OEK,zp OEK,py AL,zp AL,py AEL,4ELT,EM,AN,AEN,3zp AEN,py ENT,zp ENT",
   "py ENC,zp ENC,py ENY,zp ENY,4ANG,3py ENG,zp AENG,py EP,4OP,IC,EC,3zp EC,py AQ,zp AQ,py IQ",
   "zp IQ,py OQ,zp OQ,py AR,zp AR,py AER,4AS,AES,bg,3zp bg,py ESH,zp ESH,py AT,zp AT,py AET",
   "zp AET,py OT,4BASH,10c80:1HUNGARIAN f o A,4AA,EB,AMB,EC,ENC,ECS,ED,b,E,CLOSE E,EE,EF,EG,EGY",
   "EH,I,II,EJ,EK,AK,UNK,EL,ELY,EM,EN,ENY,O,OO,os OE,RUDIMENTA OE,OEE,EP,EMP,ER,uf ER,ES,ESZ,ET",
   "ENT,ETY,ECH,U,UU,os UE,RUDIMENTA UE,EV,EZ,EZS,ENT-SHAPED r,US,10cc0:2s o A,4AA,EB,AMB,EC,ENC",
   "ECS,ED,b,E,CLOSE E,EE,EF,EG,EGY,EH,I,II,EJ,EK,AK,UNK,EL,ELY,EM,EN,ENY,O,OO,os OE",
   "RUDIMENTA OE,OEE,EP,EMP,ER,uf ER,ES,ESZ,ET,ENT,ETY,ECH,U,UU,os UE,RUDIMENTA UE,EV,EZ,EZS",
   "ENT-SHAPED r,US,10cfa:2ph ps,3hr,wp,hj,ps jx,4xc,0HANIFI ROHINGYA o A,3BA,PA,TA,xx,JA,CA,HA",
   "ls,FA,DA,ey,RA,RRA,ZA,SA,tu,KA,GA,LA,MA,NA,WA,KINNA WA,YA,KINNA YA,op,pk,VA,2zc A,3I,U,E,O",
   "2nm SAKIN,3NA KHONNA,2r HARBAHAY,3TAHALA,TANA,TASSI,10d30:2fm zx,3ps,yg,v,hz,hr,uq,tr,gg,ot",
   "10e60:0RUMI fm ps,2yg,v,hz,hr,uq,tr,gg,ot,1ph wp,2ye,xa,hx,hj,uu,tt,gk,ov,ps jx,yg jx,v jx",
   "hz jx,hr jx,uq jx,tr jx,gg jx,ot jx,1ib ps iv,3rr,wx,2yg wy,10e80:0YEZIDI o ELIF,2BE,PE,PHE",
   "ws,SE,CIM,CHIM,CHHIM,HHA,XA,DAL,ZAL,RA,RHA,ZA,JA,SIN,ue,sz,DAD,TA,ZE,EYN,XHEYN,FA,VA,3am i",
   "2rn,le,KHAF,GAF,me,MIM,pj,UM,zf,OW,EW,HAY,YOT,ET,10eab:1dq iw nm,2ni nm,1HYPHENATION nm",
   "10eb0:o me z ft a,2YOT z dk a,10f00:0po SOGDIAN o ai,3h ai,bw,h bw,im,HE,h HE,zf,zw,jo,zq,lf",
   "mg,MEM,pj,h pj,5z x wj,3tc,AYIN,am AYIN,PE,ta,h ta,5z x wj,3RESH-AYIN-DALETH,ue,TAW,h TAW",
   "5z x wj,2ph ps,3yg,v,hz,hr,wp,ye,xa,ps jx,2ib ps iv,mt AYIN-DALETH,10f30:0SOGDIAN o ai,2bw",
   "im,HE,zf,zw,jo,zq,lf,mg,MEM,pj,tc,AYIN,PE,ta,RESH-AYIN,ue,TAW,FETH,LESH,1kg ue,dq ft d",
   "2yg fv d,ft a,yg fv a,en a,3d,2ju a,3d,2na ju d,rz d,t d,1ph ps,2wp,ye,ps jx,1rm yg x BARS",
   "5z fv,2dg z ft,yg di z fv,iv dg z ft,10f70:0po UYGHUR o ai,3bw,GIMEL-HETH,zf,zw,h jo,zq,lf",
   "mg,MEM,pj,tc,PE,ta,rz,ue,TAW,LESH,2dq ft a,4d,3yg fv a,5d,2rm bp,3yg BARS,4fv,3hz fv",
   "10fb0:0CHORASMIAN o ai,2s ai,bw,im,er,HE,zf,CURLED zf,zw,jo,zq,lf,mg,MEM,pj,tc,AYIN,PE,rz,ue",
   "TAW,1ph ps,2yg,v,hz,wp,ye,ps jx,10fe0:0ELYMAIC o ai,2bw,im,er,HE,zf,zw,jo,TETH,zq,lf,mg,MEM",
   "pj,tc,AYIN,PE,ta,QOPH,rz,ue,TAW,1mt ZAYIN-YODH,11000:0BRAHMI r co,2at,yy,lc,yo,1o A,2AA,I,II",
   "U,UU,yz R,3RR,L,LL,2E,AI,O,AU,KA,ls,GA,ik,op,CA,cx,JA,lb,pk,xx,xy,ey,ez,ow,TA,wr,DA,fd,NA,PA",
   "qs,BA,by,MA,YA,RA,LA,VA,tu,vj,SA,HA,mx,po TAMIL LLLA,4RRA,NNNA,1zc r AA,3BHATTIPROLU AA,I,II",
   "U,UU,yz R,4RR,L,LL,3E,AI,O,AU,1yx,eu,g eu,rm ft,2g ft,mv,ed bp,LOTUS,11052:1ph ps,2yg,v,hz",
   "hr,uq,tr,gg,ot,wp,ye,xa,hx,hj,uu,tt,gk,ov,ps jx,3xc,1fm zx,2ps,yg,v,hz,hr,uq,tr,gg,ot",
   "1r po TAMIL yx,o po TAMIL uf E,5O,1zc r po TAMIL uf E,6O,1o po TAMIL mx,1107f:ph ld",
   "0KAITHI r co,2at,yy,1o A,2AA,I,II,U,UU,E,AI,O,AU,KA,ls,GA,ik,op,CA,cx,JA,lb,pk,xx,xy,ey",
   "DDDHA,ez,RHA,ow,TA,wr,DA,fd,NA,PA,qs,BA,by,MA,YA,RA,LA,VA,tu,vj,SA,HA,1zc r AA,3I,II,U,UU,E",
   "AI,O,AU,1r yx,2pg,1aa r,ENUMERATION r,ph r,tk nm,g tk nm,eu,g eu,zc r yz R,110cd:ph r a",
   "110d0:0SORA SOMPENG o SAH,3wi,BAH,CAH,DAH,GAH,MAH,NGAH,LAH,NAH,VAH,PAH,YAH,RAH,iu,KAH,JAH",
   "NYAH,AH,EEH,IH,UH,OH,EH,MAE,110f0:2fm zx,3ps,yg,v,hz,hr,uq,tr,gg,ot,11100:0CHAKMA r co,2at",
   "yy,1o AA,2I,U,E,KAA,KHAA,GAA,GHAA,NGAA,CAA,CHAA,JAA,JHAA,NYAA,TTAA,TTHAA,DDAA,DDHAA,NNAA,TAA",
   "THAA,DAA,DHAA,NAA,PAA,PHAA,BAA,BHAA,MAA,YYAA,YAA,RAA,LAA,WAA,SAA,HAA,1zc r A,3I,II,U,UU,E,AI",
   "O,AU,OI,1O nm,AU nm,yx,MAAYYAA,11136:fm zx,2ps,yg,v,hz,hr,uq,tr,gg,ot,1tk nm,eu,g eu,ru nm",
   "o LHAA,zc r AA,3EI,1o VAA,11150:0MAHAJANI o A,2I,U,E,O,KA,ls,GA,ik,CA,cx,JA,lb,pk,xx,xy,ey",
   "ez,ow,TA,wr,DA,fd,NA,PA,qs,BA,by,MA,RA,LA,VA,SA,HA,RRA,1r pg,aa r,tk nm,mt SHRI",
   "11180:0SHARADA r co,2at,yy,1o A,2AA,I,II,U,UU,yz R,3RR,L,LL,2E,AI,O,AU,KA,ls,GA,ik,op,CA,cx",
   "JA,lb,pk,xx,xy,ey,ez,ow,TA,wr,DA,fd,NA,PA,qs,BA,by,MA,YA,RA,LA,mx,VA,tu,vj,SA,HA,1zc r AA,3I",
   "II,U,UU,yz R,4RR,L,LL,3E,AI,O,AU,1r yx,2bj,lc,yo,1OM,eu,g eu,aa r,tp,SANDHI nm,r pg,zc ny nm",
   "EXTRA uf zc nm,SUTRA nm,zc r ri E,r kr co,fm zx,2ps,yg,v,hz,hr,uq,tr,gg,ot,1EKAM,r ug",
   "HEADSTROKE,CONTINUATION r,tk MARK-1*1,111e1:0SINHALA az fm ps,3yg,v,hz,hr,uq,tr,gg,ot,2ph wp",
   "3ye,xa,hx,hj,uu,tt,gk,ov,ps jx,4xc,11200:0KHOJKI o A,2AA,I,U,E,AI,O,AU,KA,ls,GA,GGA,ik,op,CA",
   "cx,JA,JJA,11213:pk,xx,xy,ey,ez,ow,TA,wr,DA,DDDA,fd,NA,PA,qs,BA,BBA,by,MA,YA,RA,LA,VA,SA,HA",
   "mx,1zc r AA,3I,II,U,E,AI,O,AU,1r at,2yx,pg,SHADDA,1eu,g eu,zj tp,tk nm,g tk nm,aa r,r SUKUN",
   "11280:0MULTANI o A,2I,U,E,KA,ls,GA,11288:ik,1128a:CA,cx,JA,JJA,1128f:pk,xx,xy,ey,DDDA,ez,ow",
   "TA,wr,DA,fd,NA,PA,qs,BA,1129f:by,MA,YA,RA,LA,VA,SA,HA,RRA,RHA,1tk nm,112b0:0KHUDAWADI o A",
   "2AA,I,II,U,UU,E,AI,O,AU,KA,ls,GA,GGA,ik,op,CA,cx,JA,JJA,lb,pk,xx,xy,ey,DDDA,RRA,ez,ow,TA,wr",
   "DA,fd,NA,PA,qs,BA,BBA,by,MA,YA,RA,LA,VA,tu,SA,HA,1r at,zc r AA,3I,II,U,UU,E,AI,O,AU,1r pg",
   "2yx,112f0:1fm zx,2ps,yg,v,hz,hr,uq,tr,gg,ot,11300:0GRANTHA r dq at a,2co,at,yy,11305:1o A",
   "2AA,I,II,U,UU,yz R,3L,1130f:2EE,AI,11313:OO,AU,KA,ls,GA,ik,op,CA,cx,JA,lb,pk,xx,xy,ey,ez,ow",
   "TA,wr,DA,fd,NA,1132a:PA,qs,BA,by,MA,YA,RA,11332:LA,mx,11335:VA,tu,vj,SA,HA,1133b:0dq BINDU d",
   "GRANTHA r pg,2bj,1zc r AA,3I,II,U,UU,yz R,4RR,11347:3EE,AI,1134b:OO,AU,1r yx,11350:OM",
   "11357:AU mp nm,1135d:r PLUTA,o VEDIC at,3g at,2yz RR,3LL,1zc r yz L,4LL",
   "11366:0dq GRANTHA fm zx,3ps,yg,v,hz,hr,uq,11370:2o A,3KA,NA,VI,PA,11400:0NEWA o A,2AA,I,II,U",
   "UU,yz R,3RR,L,LL,2E,AI,O,AU,KA,ls,GA,ik,op,NGHA,CA,cx,JA,lb,pk,NYHA,xx,xy,ey,ez,ow,TA,wr,DA",
   "fd,NA,NHA,PA,qs,BA,by,MA,MHA,YA,RA,RHA,LA,LHA,WA,tu,vj,SA,HA,1zc r AA,3I,II,U,UU,yz R,4RR,L",
   "LL,3E,AI,O,AU,1r yx,2co,at,yy,pg,bj,h at,1OM,SIDDHI,eu,g eu,dr,GAP hl,aa r,fm zx,2ps,yg,v,hz",
   "hr,uq,tr,gg,ot,1g dr,PLACEHOLDER nm,1145d:INSERTION r,SANDHI nm,o VEDIC at,r lc,2yo",
   "11480:0TIRHUTA ANJI,1o A,2AA,I,II,U,UU,yz R,3RR,L,LL,2E,AI,O,AU,KA,ls,GA,ik,op,CA,cx,JA,lb",
   "pk,xx,xy,ey,ez,ow,TA,wr,DA,fd,NA,PA,qs,BA,by,MA,YA,RA,LA,VA,tu,vj,SA,HA,1zc r AA,3I,II,U,UU",
   "yz R,4RR,L,LL,3E,uf E,AI,O,uf O,AU,1r co,2at,yy,yx,pg,bj,1GVANG,aa r,OM,114d0:fm zx,2ps,yg,v",
   "hz,hr,uq,tr,gg,ot,11580:0ug o A,2AA,I,II,U,UU,yz R,3RR,L,LL,2E,AI,O,AU,KA,ls,GA,ik,op,CA,cx",
   "JA,lb,pk,xx,xy,ey,ez,ow,TA,wr,DA,fd,NA,PA,qs,BA,by,MA,YA,RA,LA,VA,tu,vj,SA,HA,1zc r AA,3I,II",
   "U,UU,yz R,4RR,115b8:3E,AI,O,AU,1r co,2at,yy,yx,pg,ug,1eu,g eu,tp ft,2bp,1REPETITION MARK-1*2",
   "gp OF TEXT nm,tk nm z TRIDENT b yi ORNAMENTS,6fw ee,4RAYS b fw ee,7g ee,xt ee,3g sq,5z RAYS",
   "3z g ee,4xt ee,rq ee,SEPTUPLE ee,di b RAYS,6yg ENCLOSURES,hz ENCLOSURES,1o THREE-CIRCLE am I",
   "2TWO-CIRCLE am I,4II,2am U,1zc r am U,4UU,11600:0MODI o A,2AA,I,II,U,UU,yz R,3RR,L,LL,2E,AI",
   "O,AU,KA,ls,GA,ik,op,CA,cx,JA,lb,pk,xx,xy,ey,ez,ow,TA,wr,DA,fd,NA,PA,qs,BA,by,MA,YA,RA,LA,VA",
   "tu,vj,SA,HA,mx,1zc r AA,3I,II,U,UU,yz R,4RR,L,LL,3E,AI,O,AU,1r at,2yy,yx,ARDHACANDRA,1eu",
   "g eu,aa r,r HUVA,11650:fm zx,2ps,yg,v,hz,hr,uq,tr,gg,ot,11660:0MONGOLIAN bz z pz,1st bz",
   "g bz z pz,xt bz z pz,bz z g pz,st bz z pz,4g pz,1kr bz,3z g pz,1SWIRL bz,3z pz,4g pz",
   "1ya SWIRL bz z g pz,11680:0TAKRI o A,2AA,I,II,U,UU,E,AI,O,AU,KA,ls,GA,ik,op,CA,cx,JA,lb,pk",
   "xx,xy,ey,ez,ow,TA,wr,DA,fd,NA,PA,qs,BA,by,MA,YA,RA,LA,VA,tu,SA,HA,RRA,1r at,2yy,1zc r AA,3I",
   "II,U,UU,E,AI,O,AU,1r yx,2pg,1o az ls,aa r,116c0:fm zx,2ps,yg,v,hz,hr,uq,tr,gg,ot",
   "11700:0AHOM o KA,2ls,op,NA,TA,am TA,PA,qs,BA,MA,JA,cx,wr,RA,LA,SA,pk,HA,A,DA,fd,GA,am GA,ik",
   "by,lb,am BA,1171d:1dv r nr LA,4RA,LIGATING RA,1zc r A,3AA,I,II,U,UU,E,AW,O,AI,AM,1r KILLER",
   "11730:fm zx,2ps,yg,v,hz,hr,uq,tr,gg,ot,1ph wp,2ye,1r s tk,2tk,RULAI,1u VI,o CA,2xx,xy,ey,ez",
   "ow,mx,11800:0DOGRA o A,2AA,I,II,U,UU,E,AI,O,AU,KA,ls,GA,ik,op,CA,cx,JA,lb,pk,xx,xy,ey,ez,ow",
   "TA,wr,DA,fd,NA,PA,qs,BA,by,MA,YA,RA,LA,VA,tu,vj,SA,HA,RRA,1zc r AA,3I,II,U,UU,yz R,4RR,3E,AI",
   "O,AU,1r at,2yy,yx,pg,1aa r,118a0:0WARANG CITI f o NGAA,4A,WI,YU,YA,YO,II,UU,E,O,ANG,GA,KO",
   "ENY,YUJ,UC,ENN,ODD,TTE,NUNG,DA,AT,AM,BU,PU,HIYO,HOLO,HORR,HAR,SSUU,SII,VIYO,2s o NGAA,4A,WI",
   "YU,YA,YO,II,UU,E,O,ANG,GA,KO,ENY,YUJ,UC,ENN,ODD,TTE,NUNG,DA,AT,AM,BU,PU,HIYO,HOLO,HORR,HAR",
   "SSUU,SII,VIYO,2fm zx,3ps,yg,v,hz,hr,uq,tr,gg,ot,2ph wp,3ye,xa,hx,hj,uu,tt,gk,ov,118ff:2OM",
   "0DIVES AKURU o A,3AA,I,II,U,UU,E,11909:O,1190c:KA,ls,GA,ik,op,CA,cx,JA,11915:pk,xx,11918:ey",
   "ez,ow,TA,wr,DA,fd,NA,PA,qs,BA,by,MA,YA,YYA,RA,LA,VA,tu,vj,SA,HA,mx,ZA,2zc r AA,4I,II,U,UU,E",
   "11937:AI,O,1193b:2r at,3co,HALANTA,2yx,PREFIXED NASAL r,nr YA,k RA,nr RA,r pg,g eu,GAP hl",
   "gp OF TEXT nm,11950:fm zx,3ps,yg,v,hz,hr,uq,tr,gg,ot,119a0:0NANDINAGARI o A,2AA,I,II,U,UU",
   "yz R,3RR,119aa:2E,AI,O,AU,KA,ls,GA,ik,op,CA,cx,JA,lb,pk,xx,xy,ey,ez,ow,TA,wr,DA,fd,NA,PA,qs",
   "BA,by,MA,YA,RA,LA,VA,tu,vj,SA,HA,mx,RRA,1zc r AA,3I,II,U,UU,yz R,4RR,119da:3E,AI,O,AU,1r at",
   "2yy,yx,bj,ug,1HEADSTROKE,zc r ri E,11a00:0ZANABAZAR vh o A,2zc r I,4UE,U,E,OE,O,AI,AU,sd I",
   "3mp nm,2o KA,3ls,GA,ik,op,CA,cx,JA,pk,xx,xy,ey,ez,ow,TA,wr,DA,fd,NA,PA,qs,BA,by,MA,xu,xv,DZA",
   "DZHA,ZHA,ZA,-A,YA,RA,LA,VA,tu,vj,SA,HA,KSSA,2h dv nm,r yx,3co,4z pz,3cn z pz,at,yy",
   "2CLUSTER-INITIAL o RA,CLUSTER-FINAL o YA,4RA,LA,VA,2k jj nm,CLOSING jj nm,nm xw,3tv,g tv",
   "na xw,2k DOUBLE-LINED jj nm,CLOSING DOUBLE-LINED jj nm,SUBJOINER,11a50:0SOYOMBO o A,1zc r I",
   "3UE,U,E,O,OE,AI,AU,yz R,4L,2mp nm,1o KA,2ls,GA,ik,op,CA,cx,JA,lb,pk,xx,xy,ey,ez,ow,TA,wr,DA",
   "fd,NA,PA,qs,BA,by,MA,xu,xv,DZA,ZHA,ZA,-A,YA,RA,LA,VA,tu,vj,SA,HA,KSSA,1r lc,2yo",
   "1CLUSTER-INITIAL o RA,3LA,tu,SA,1h dv r G,4K,NG,D,N,B,M,R,L,SH,S,-A,1r at,2yy,1ih nm",
   "SUBJOINER,nm xw,2tv,g tv,PLUTA,1jj nm z oa b SUN b xt FLAME,8FLAME,7,1TERMINAL MARK-1*1",
   "11ab0:0CANADIAN SYLLABICS NATTILIK HI,3HII,HO,HOO,HA,HAA,SHRI,SHRII,SHRO,SHROO,SHRA,SHRAA",
   "2SPE,SPI,SPO,SPA,0PAU CIN HAU o PA,4KA,LA,MA,DA,ZA,VA,op,HA,GA,ls,SA,BA,CA,TA,wr,NA,qs,RA,FA",
   "cx,A,E,I,O,U,UA,IA,h P,5K,T,M,N,L,W,NG,Y,3sr xj na,5,3SANDHI io vr,sr xj na h,5h",
   "3SANDHI io vr h,4xj na,5,na h,h,3MID-LEVEL xj,io vr yt,MID-LEVEL xj na h,5h",
   "3LOW-FALLING xj na,5,3io vr,LOW-FALLING xj na h,5h,3io vr h,11c00:0BHAIKSUKI o A,2AA,I,II,U",
   "UU,yz R,3RR,L,11c0a:2E,AI,O,AU,KA,ls,GA,ik,op,CA,cx,JA,lb,pk,xx,xy,ey,ez,ow,TA,wr,DA,fd,NA",
   "PA,qs,BA,by,MA,YA,RA,LA,VA,tu,vj,SA,HA,1zc r AA,3I,II,U,UU,yz R,4RR,L,11c38:3E,AI,O,AU,1r co",
   "2at,yy,yx,bj,1eu,g eu,zj tp,GAP FILLER-1*1,11c50:fm zx,2ps,yg,v,hz,hr,uq,tr,gg,ot,1ph ps,2yg",
   "v,hz,hr,uq,tr,gg,ot,wp,ye,xa,hx,hj,uu,tt,gk,ov,1HUNDREDS UNIT nm,11c70:0MARCHEN jj nm,1nm tv",
   "o KA,2ls,GA,op,CA,cx,JA,pk,TA,wr,DA,NA,PA,qs,BA,MA,xu,xv,DZA,WA,ZHA,ZA,-A,YA,RA,LA,tu,SA,HA",
   "A,11c92:1vu o KA,3ls,GA,op,CA,cx,JA,pk,TA,wr,DA,NA,PA,qs,BA,MA,xu,xv,DZA,WA,ZHA,ZA,11ca9:YA",
   "RA,LA,tu,SA,HA,A,1zc r AA,3I,U,E,O,1r at,2co,11d00:0MASARAM GONDI o A,3AA,I,II,U,UU,E",
   "11d08:AI,O,11d0b:AU,KA,ls,GA,ik,op,CA,cx,JA,lb,pk,xx,xy,ey,ez,ow,TA,wr,DA,fd,NA,PA,qs,BA,by",
   "MA,YA,RA,LA,VA,tu,vj,SA,HA,mx,KSSA,JNYA,TRA,2zc r AA,4I,II,U,UU,yz R,11d3a:E,11d3c:AI,O",
   "11d3f:AU,2r at,3yy,pg,cn,HALANTA,2yx,REPHA,RA-KARA,11d50:fm zx,3ps,yg,v,hz,hr,uq,tr,gg,ot",
   "11d60:0GUNJALA GONDI o A,3AA,I,II,U,UU,11d67:EE,AI,11d6a:OO,AU,YA,VA,BA,by,MA,KA,ls,TA,wr,LA",
   "GA,ik,DA,fd,NA,CA,cx,xx,xy,mx,JA,lb,ey,ez,op,PA,qs,HA,RA,SA,2zc r AA,4I,II,U,UU,11d90:EE,AI",
   "11d93:OO,AU,2r at,3yy,2yx,OM,11da0:fm zx,3ps,yg,v,hz,hr,uq,tr,gg,ot,11ee0:0MAKASAR o KA,2GA",
   "op,PA,BA,MA,TA,DA,NA,CA,JA,pk,YA,RA,LA,VA,SA,A,1ANGKA,zc r I,3U,E,O,1PASSIMBANG,gp OF tk",
   "11fb0:0LISU o YHA,11fc0:TAMIL ib ps THREE-HUNDRED-AND-TWENTIETH,3pt,EIGHTIETH,SIXTY-FOURTH",
   "FORTIETH,xb,2v EIGHTIETHS,3SIXTY-FOURTHS,2ps TWENTIETH,3SIXTEENTH-1*1,TENTH,gi,2v TWENTIETHS",
   "3ut,2ps FIFTH,3rr,HALF-1*1,2v rs,DOWNSCALING FACTOR KIIZH,1r NEL,2CEVITU,AAZHAAKKU,UZHAKKU",
   "MUUVUZHAKKU,KURUNI,PATHAKKU,MUKKURUNI,KAACU,PANAM,PON,VARAAKAN,PAARAM,KUZHI,VELI",
   "1WET CULTIVATION r,DRY CULTIVATION r,LAND r,SALT PAN r,TRADITIONAL CREDIT r,2ph r,1CURRENT r",
   "b ODD r,SPENT r,TOTAL r,IN POSSESSION r,STARTING ic r,r MUTHALIYA,2VAKAIYARAA",
   "11fff:1rm gp OF TEXT,0CUNEIFORM r A,3xi A,4BAD,if wq,HA,ke,LAGAR it,MUSH,SAG,2A2,AB,3xi ASH2",
   "4DUN3 it,GAL,if wq,HA,ke it,IMIN,md,SHESH,U qz U qz U,3it,2AB2,3xi BALAG,4if wq,ME qz EN",
   "SHA3,wk,2AD,AK,3xi ERIN2,4SHITA qz in,2AL,3xi AL,4DIM2,in,HA,KAD3,KI,ua,USH,2ALAN,ai,AMAR",
   "3xi ua,2AN,3qb AN,v xi,qz NAGA pw AN qz NAGA,5vi,2ANSHE,APIN,ARAD,3xi KUR,2ARKAB,ASAL2,bg",
   "3ZIDA wq,KABA wq,qb bg TUG2 qb TUG2 TUG2 qb TUG2 PAP,5qb bg,7ei bg qb bg qb bg,2ASH2,ASHGAB",
   "BA,BAD,BAG3,BAHAR2,BAL,3qb BAL,2BALAG,bp,BARA2,BI,3xi A,4ig,ke it,2BU,3qb BU AB,5UN,3ei BU",
   "2BULUG,3qb BULUG,2BUR,BUR2,DA,DAG,3KISIM5 xi A qz MASH,5AMAR,BALAG,BI,GA,6qz MASH,5GI,GIR2",
   "GUD,HA,IR,6qz LU,5KAK,LA,LU,6qz MASH2,5LUM,NE,PAP qz PAP,SI,wk,U2 qz GIR2,USH,2DAM,DAR",
   "DARA3*1,DI,DIB,DIM,3xi ua,2DIM2,DIN,3ll U it fo,2fo,DU,3qb DU,it,ud,2DUB,3xi ESH2,2DUB2,DUG",
   "DUGUD,DUH,DUN,DUN3,3it,4it,2DUN4,DUR2,E,3xi PAP,qb E pj qb pj,2E2,3xi A qz HA qz DA,4ig,MI",
   "SAL,ua,U,2EDIN,EGIR,EL,EN,3xi if,5wq,4ME,3ei EN,pw EN,vi,2EREN,ERIN2,ESH2,EZEN,3xi A,5qz LAL",
   "7xi LAL,4AN,BAD,DUN3 it,6it,4HA,5it,4ke it,ll,5vi,4KU3,LA,LAL xi LAL,LI,LU,U2,UD,2GA,3it",
   "2GA2,3xi A qz DA qz HA,6HA,ke,4AB2 wq qz TAB,AN,bg,ASH2 qz GAL,BAD,bp qz RA,BUR,5qz RA,4DA",
   "DI,DIM xi ua,DUB,EL,5qz LA,4EN,5xi if wq,4if wq,ig,GI,GI4,5qz A,4GIR2 qz SU,HA qz LU qz ESH2",
   "HAL,5qz LA,4HI qz LI,HUB2,ke it,ISH qz HU qz bg,KAK,ll,KID,5qz LAL,4KU3 qz AN,LA,ME qz EN,MI",
   "pj,5qb pj,4PA,SAL,SAR,ua,5qz TUR,4SHID,SUM,wk,U,UD,5qz DU,3qb GA2,2GABA,3ei GABA,2GAD",
   "3qb GAD ig qb ig,2GAL,3GAD qb GAD ig qb ig,2GALAM,GAM,GAN,if,3wq,qb if,ei if,2ig,GAR3,GASHAN",
   "GESHTIN,3xi KUR,2GI,3xi E,4U,3ei GI,2GI4,3qb GI4,ei GI4,2GIDIM,GIR2,3it,2GIR3,3xi A qz ke",
   "4if wq,ke,LU qz ke,PA,2GISAL,in,3ei in,xi BAD,4wk,3wq,2GU,3ei GU,2GU2,3xi KAK,5xi ke it,4pj",
   "SAL qz TUG2,3it,2GUD,3xi A qz KUR,4KUR,3qb GUD LUGAL,2GUL,GUM,3xi ua,2GUR,GUR7,GURUN,GURUSH",
   "HA,3wq,it,2HAL,HI,3xi bg,4ASH2,BAD,fo,GAD,KIN,pj,ua,U,2HU,HUB2,3xi AN,4HAL,ll,LISH,UD,2HUL2",
   "I,3A,2IB,IDIM,3qb IDIM BUR,5vi,2IG,ke,3DIB,RI,qb ke SHIR qb SHIR UD qb UD,it,2IL,3xi if wq",
   "2IL2,IM,3xi wk,ei IM,pw IM,vi,2IMIN,IN,IR,ISH,KA,3xi A,4AD,5qz KU3,4ASH2,BAD,BALAG,bp,BI",
   "ERIN2,ESH2,GA,GAL,if wq,ig,5qz SHA3 qz A,4GI,GIR2,in qz SAR,5ei in,4GU,GUR7,ke,IM,KAK,KI,KID",
   "LI,LU,ME,5qz DU,6GI,TE,4MI,5qz NUNUZ,4NE,pj,PI,RU,SA,SAR,tu,ua,SHID,SHU,SIG,SUHUR,TAR,U,U2",
   "UD,UMUM xi PA,USH,ZI,2KA2,3ei KA2,2KAB,KAD2*3,3qb KAD5,2KAK,3xi ke it,2KAL,3xi BAD,ei KAL",
   "2KAM2,KAM4,ll,3md xi U qb md xi U,qb ll md xi U qb md xi U,2KESH2,KI,3xi BAD,4U,UD,2KID,KIN",
   "KISAL,KISH,KISIM5,3qb KISIM5,2KU,3qb HI xi ASH2 KU qb HI xi ASH2,2KU3*1,3yt i,2KU7,KUL,3it",
   "2KUN,KUR,3pw KUR,2KUSHU2,KWU318,LA,md,3xi A,5qz DA qz HA,6ig,LAL,4AL,AN,bg ZIDA wq,BAD,BI",
   "DAR,EN,GA,ig,GUD,5qz GUD,4HA,HAL,HI xi pj,ke it,IM,5qz HA,6LU,4KI,KIN,KU3,KUL,5qz HI qz A",
   "4md,LISH,LU,LUL,ME,5qz EN,4MUSH,NE,ua qz SUM,SHITA qz in qz ERIN2,7wq,4SHU2,5qz SHU2,4SUM",
   "TAG,wk,TE qz A qz SU qz NA,U,5qz A,6U qz U,4U2 qz bg,UD,USH,3vi,2LAGAR,3xi ua,5qz SUM,3it",
   "4qb LAGAR it ua,2LAHSHU,LAL,3xi LAL,2me,3xi KUR,5qz RU,2LI,LIL,LIMMU2,LISH,LU,3xi BAD,2LU2",
   "3xi AL,4BAD,ESH2,5wq,4if wq,HI xi BAD,IM,KAD2*1,5qz bg,4KI,LA qz bg,md,ME qz EN,NE,NU",
   "SI qz bg,SIK2 qz BU,TUG2,3wq,ei LU2,pw LU2,vi,ud,2LU3,LUGAL,3qb LUGAL,pw LUGAL,ud,2LUH,LUL",
   "LUM,3qb LUM,5ig qb ig,2MA,3xi wk,it,2MA2,MAH,MAR,MASH,MASH2,ME,MES,MI,MIN,MU,3qb MU,2MUG,3it",
   "2MUNSUB,MURGU2,MUSH,3xi A,4KUR,ZA,3qb MUSH,5xi A qz NA,3ei MUSH,2MUSH3,3xi A,5qz DI,4DI,3it",
   "2NA,NA2,NAGA,3kr,xi SHU wq,pw NAGA,2NAGAR,NAM NUTILLU,3,2NAM2,NE,3xi A,4UD,3ud,2NI,3xi E",
   "2NI2,NIM,3xi if wq,4ig qz if wq,2NINDA2,3xi AN,4bg,5qz bg,4GUD,ME qz if wq,NE,pj,ua,5qz A AN",
   "6bg,7qz bg,4U2 qz bg,USH,2NISAG,NU,NU11,pj,3LAGAR xi ig,5MASH,SAL,6qb pj LAGAR xi SAL,5USH",
   "3wq,qb pj,ei pj,5LAGAR qb LAGAR,2NUNUZ,3AB2 xi ASHGAB,5BI,DUG,GUD,ke it,KAD3,LA,NE,SILA3,U2",
   "3KISIM5 xi BI,6U,2PA,PAD,PAN,PAP,PESH2,PI,3xi A,4AB,BI,BU,E,I,IB,U,U2,3ei PI,2PIRIG,3xi KAL",
   "4UD,ZA,3pw PIRIG,2RA,RAB,RI,RU,SA,SAG NUTILLU,3,xi A,4DU,DUB,HA,KAK,KUR,LUM,MI,pj,SAL,SHID",
   "TAB,U2,UB,UM,UR,USH,3qb SAG,it,2SAL,3md xi ASH2,2SANGA2,SAR,tu,SHA3,3xi A,4BAD,in,NE,SHU2",
   "TUR,U,5qz A,2SHA6,SHAB6,tz,ua,3HU,qb ua GAD qb GAD ig qb ig,5TAB qb TAB ig qb ig,2SHEG9,SHEN",
   "SHESH,SHESH2,SHESHLAM,SHID,3xi A,4IM,2SHIM,3xi A,4BAL,BULUG,DIN,ig,ke,5it,4KUSHU2,LUL,MUG",
   "SAL,2SHINIG,SHIR,3wq,qb SHIR BUR qb BUR,2SHITA,SHU,3qb kr SHU,2SHU2,SHUBUR,SI,3it,2SIG,SIG4",
   "3qb SIG4 SHU2,2SIK2,SILA3,SU,3qb SU,2SUD,SUD2,SUHUR,SUM,SUMASH,SUR,SUR9,TA,3bh,xi HI,4MI,3it",
   "2TAB,3qb TAB NI qb NI fo qb fo,vi,2TAG,3xi BI,4GUD,ua,SHU,TUG2,UD,2wk,TAR,TE,3it,2TI,3wq",
   "2TIL,TIR,3xi wk,qb TIR,5GAD qb GAD ig qb ig,2TU,TUG2,TUK,TUM,TUR,3qb TUR ZA qb ZA,2U,3GUD",
   "U U,qb U PA qb PA ig qb ig,5SUR qb SUR,U sd qb U sd,2U2,UB,UD,3KUSHU2,xi BAD,4MI,U qz U qz U",
   "9it,3it,ud,4xi BAD,2UDUG,UM,3xi md,4ME qz DA,SHA3,U,2UMBIN,UMUM,3xi ll,4PA,2UN,3it,2UR",
   "3ei UR,ud,2UR2,3xi A qz HA,6NA,4AL,HA,pj,U2,5qz bg,6BI,2UR4,URI,URI3,URU,3xi A,4ASHGAB,bp",
   "DUN,GA,GAL,if wq,ig,GU,HA,ke,IM,ISH,KI,LUM,MIN,PA,ua,SIG4,TU,U qz GUD,UD,URUDA,2URUDA,3xi U",
   "2USH,3xi A,4KU,KUR,wk,2USHX,USH2,USHUMX,UTUKI,UZ3,3xi ll,2UZU,ZA,3wq,vi xi KUR,2ZAG,ZAMX,ZE2",
   "ZI,3qb ZI,2ZI3,ZIB,3KABA wq,2ZIG,ZIZ2,ZU,ZU5,3xi A,2ZUBUR,ZUM,KAP ELAMITE,AB xi pj,AB2 xi A",
   "AMAR xi KUG,DAG KISIM5 xi U2 qz MASH,DAG3,fo qz SHU,DUB xi ua,EZEN xi GUD,4ua",
   "2GA2 xi AN qz KAK qz A,4ASH2,2GE22,GIG,HUSH,KA xi ANSHE,4ASH3,in,GUD,HI xi ASH2,LUM,PA,SHUL",
   "TU,UR2,2md xi GI,LU2 ud xi BAD,3xi ESH2 qz LAL,4SHU,2MESH,MUSH3 xi ZA,NA4,NIN,NIN9",
   "NINDA2 xi BAL,4GI,2NU11 st ov fa,PESH2 bh,PIR2,SAG xi ke it,TI2,UM xi ME,U U",
   "12400:1NUMERIC r yg bg,3v bg,hz bg,hr bg,uq bg,tr bg,gg bg,ot bg,v fo,hz fo,hr fo,uq fo",
   "tr fo,gg fo,ot fo,hz U,hr U,uq U,tr U,gg U,ot U,ps ij,yg ij,v ij,hz ij,hr ij,uq ij,tr ij",
   "gg ij,ot ij,ps GESHU,yg GESHU,v GESHU,hz GESHU,hr GESHU,yg tz,v tz,5yt i,3hz tz,hr tz,uq tz",
   "tr tz,gg tz,ot tz,ps SHARU,yg SHARU,v SHARU,5yt i,3hz SHARU,hr SHARU,tz xi GAL qz fo,7MIN",
   "3ps BURU,yg BURU,v BURU,5yt i,3hz BURU,hr BURU,v yt i ESH16,6ESH21,3hz yt i LIMMU,6LIMMU4",
   "LIMMU A,7B,3uq yt i ASH9,tr yt i IMIN3,6IMIN A,7B,3gg yt i USSU,6USSU3,3ot yt i ILIMMU",
   "6ILIMMU3*1,ILIMMU A,3yg bg wq,v bg wq,hz bg wq,hr bg wq,uq bg wq,ps BAN2,yg BAN2,v BAN2",
   "hz BAN2,5yt i,3hr BAN2,5yt i,3NIGIDAMIN,NIGIDAESH,ps ESHE3,yg ESHE3,ps wx fo,yg wy fo",
   "hr SIXTHS fo,ps wx yt i A,yg wy yt i A,ps gi bg,4rr bg,3po ASSYRIAN ps SIXTH,6rr,3ps rr GUR",
   "4iv GUR,3ELAMITE ps wx,4yg wy,hx,hj,3hz U yt i,hr U yt i,uq U yt i,tr U yt i,gg U yt i",
   "ot U yt i,12470:1rm r po ASSYRIAN zj fp,3x dp,ff dp,4TRICOLON,QUADCOLON,12480:1r AB xi pj wq",
   "4SHU2,2AD xi ESH2,BAD xi fo wq,BAHAR2 xi AB2,4NI,ZA,2BU qb BU xi NA2,DA xi wk,DAG xi KUR",
   "DIM xi ke,4U U U,2DIM2 xi UD,DUG xi ANSHE,4bg,5AT m,4DIN,DUN,ERIN2,GA,GI,GIR2 it,in,HA,HI",
   "ke it,ll,KUR,KUSHU2,5qz ll,4LAK-020,me,5xi KUR,4LUH qz in,MASH,MES,MI,NI,PI,ua,SI it",
   "2E2 xi KUR,4PAP,2ERIN2 X,ESH2 ei ESH2,EZEN ud xi bg,5HI,ke it,LA,LAL,ME,MES,SU,3xi SU",
   "2GA2 xi BAHAR2,4DIM it,DUG xi ke it,6ll,4EREN,GA,ig qz DI,6NE,4HA qz A,KUSHU2 qz ll,me",
   "5xi KUR,4LUH,MUSH,NE,5qz E2,6GI,4SHIM,ZIZ2,2GABA st ov fa,GESHTIN xi U,in xi in ei in",
   "GU2 xi ke it,GUD qz in xi wk,HA wq it,HI xi bg qb HI xi bg,KA xi BU,4KA,U U U,UR",
   "2md xi ZU qb ZU,LAK-003,LAK-021,LAK-025,LAK-030,LAK-050*1,LAK-062,LAK-079 qb LAK-079 it",
   "LAK-080,LAK-081 qb LAK-081,LAK-092,LAK-130,LAK-142,LAK-210,LAK-219*1,LAK-225,LAK-228,LAK-238",
   "LAK-265*1,LAK-343,LAK-347*1,LAK-383*1,LAK-390,LAK-441,LAK-449,3xi GU,4ke,PAP qz LU3",
   "6PAP qz LU3,4U2 qz BA,2LAK-450,LAK-457,LAK-470,LAK-483,LAK-490,LAK-492*1,LAK-495,LAK-550",
   "LAK-608,LAK-617,3xi bg,4BAD,DUN3 it it,KU3,LA,TAR,TE,U2,UD,URUDA,2LAK-636,LAK-648,3xi DUB",
   "4GA,ke,5it,4NI,PAP qz PAP qz LU3,SHESH qz KI,UD,URUDA,2LAK-724,LAK-749,LU2 it xi bg,3xi fo",
   "4HAL,PAP,5qz PAP qz LU3,4wk,2MI qz ZA7,MUSH qb MUSH xi GA,6KAK,2NINDA2 xi DIM it,4in,GUL,HI",
   "KESH2,LAK-050,MASH,PAP qz PAP,U,5qz U,4URUDA,2SAG it xi HA,3xi EN,4ua AT m,wk,2SHA6 wq",
   "ua qb ua,3qz HUB2,4NAM2,SAR,2SHU2 qz DUG xi NI,4E2 xi AN,2SI xi wk,wk qz SAG,TUM xi if wq",
   "4v fo,2UR2 kr,3xi UD,2URU xi DARA3,4LAK-668,LU3,2ZA7,ZU qb ZU qz SAR,ZU5 xi v fo wq",
   "12f90:0CYPRO-MINOAN r CM001*1,2CM004*8,CM012B,CM013,CM015,CM017,CM019,CM021,CM023*7,CM033*8",
   "CM044,CM046*1,CM049*7,CM058*6,CM066*9,CM075B,CM076,CM078*14,CM094*11,CM107*3,CM112,CM114",
   "CM301*1,13000:0EGYPTIAN HIEROGLYPH A001*4,2A005A,A006,A006A,A006B,A007*7,A014A,A015*2,A017A",
   "A018*14,A032A,A033*7,A040A,A041*1,A042A,A043,A043A,A044*1,A045A,A046*24,B001*4,B005A,B006*3",
   "C001*1,C002A,C002B,C002C,C003*7,C010A,C011*13,D001*7,D008A,D009*18,D027A,D028*3,D031A,D032*2",
   "D034A,D035*11,D046A,D047*1,D048A,D049*1,D050A,D050B,D050C,D050D,D050E,D050F,D050G,D050H",
   "D050I,D051*1,D052A,D053*1,D054A,D055*12,D067A,D067B,D067C,D067D,D067E,D067F,D067G,D067H",
   "E001*7,E008A,E009,E009A,E010*6,E016A,E017,E017A,E018*2,E020A,E021*7,E028A,E029*5,E034A",
   "E036*2,F001,F001A,F002*11,F013A,F014*7,F021A,F022*9,F031A,F032*5,F037A,F038,F038A,F039*6",
   "F045A,F046,F046A,F047,F047A,F048*3,F051A,F051B,F051C,F052*1,G001*5,G006A,G007,G007A,G007B",
   "G008*3,G011A,G012*8,G020A,G021*5,G026A,G027*9,G036A,G037,G037A,G038*5,G043A,G044*1,G045A",
   "G046*8,H001*5,H006A,H007*1,I001*4,I005A,I006*3,I009A,I010,I010A,I011,I011A,I012*3,K001*7",
   "L001*1,L002A,L003*3,L006A,L007*1,M001,M001A,M001B,M002*1,M003A,M004*6,M010A,M011*1,M012A",
   "M012B,M012C,M012D,M012E,M012F,M012G,M012H,M013*2,M015A,M016,M016A,M017,M017A,M018*4,M022A",
   "M023*1,M024A,M025*3,M028A,M029*2,M031A,M032*1,M033A,M033B,M034*6,M040A,M041*3,N001*17,N018A",
   "N018B,N019*6,N025A,N026*7,N033A,N034,N034A,N035,N035A,N036*1,N037A,N038*4,NL001*4,NL005A",
   "NL006*11,NL017A,NL018*2,NU001*9,NU010A,NU011,NU011A,NU012*6,NU018A,NU019*3,NU022A,O001,O001A",
   "O002*3,O005A,O006,O006A,O006B,O006C,O006D,O006E,O006F,O007*3,O010A,O010B,O010C,O011*8,O019A",
   "O020,O020A,O021*3,O024A,O025,O025A,O026*3,O029A,O030,O030A,O031*2,O033A,O034*2,O036A,O036B",
   "O036C,O036D,O037*13,O050A,O050B,O051,P001,P001A,P002*1,P003A,P004*7,Q001*6,R001*1,R002A,R003",
   "R003A,R003B,R004*6,R010A,R011*5,R016A,R017*12,S001*1,S002A,S003*3,S006A,S007*7,S014A,S014B",
   "S015*2,S017A,S018*8,S026A,S026B,S027*8,S035A,S036*10,T001*2,T003A,T004*3,T007A,T008,T008A",
   "T009,T009A,T010*1,T011A,T012*4,T016A,T017*15,T032A,T033,T033A,T034*2,U001*5,U006A,U006B",
   "U007*16,U023A,U024*5,U029A,U030*2,U032A,U033*9,V001,V001A,V001B,V001C,V001D,V001E,V001F",
   "V001G,V001H,V001I,V002,V002A,V003*4,V007A,V007B,V008*3,V011A,V011B,V011C,V012,V012A,V012B",
   "V013*7,V020A,V020B,V020C,V020D,V020E,V020F,V020G,V020H,V020I,V020J,V020K,V020L,V021*2,V023A",
   "V024*4,V028A,V029,V029A,V030,V030A,V031,V031A,V032*1,V033A,V034*3,V037A,V038*2,V040A,W001*2",
   "W003A,W004*5,W009A,W010,W010A,W011*3,W014A,W015*2,W017A,W018,W018A,W019*5,W024A,W025,X001*3",
   "X004A,X004B,X005*1,X006A,X007*1,X008A,Y001,Y001A,Y002*6,Z001*1,Z002A,Z002B,Z002C,Z002D,Z003",
   "Z003A,Z003B,Z004,Z004A,Z005,Z005A,Z006*9,Z015A,Z015B,Z015C,Z015D,Z015E,Z015F,Z015G,Z015H",
   "Z015I,Z016,Z016A,Z016B,Z016C,Z016D,Z016E,Z016F,Z016G,Z016H,AA001*6,AA007A,AA007B,AA008*24",
   "13430:x ld,j ld,INSERT AT xm vp,4ce vp,xm gp,ce gp,2qd nu,BEGIN SEGMENT,gp SEGMENT",
   "14400:0ANATOLIAN HIEROGLYPH A001*9,2A010A,A011*15,A026A,A027*12,A039A,A040*1,A041A,A042*3",
   "A045A,A046,A046A,A046B,A047*19,A066A,A066B,A066C,A067*30,A097A,A098,A098A,A099*1,A100A,A101",
   "A101A,A102,A102A,A103*1,A104A,A104B,A104C,A105,A105A,A105B,A106*1,A107A,A107B,A107C,A108*2",
   "A110A,A110B,A111*4,A115A,A116*9,A125A,A126*9,A135A,A136*66,A202A,A202B,A203*4,A207A,A208*1",
   "A209A,A210*5,A215A,A216,A216A,A217*10,A227A,A228*39,A267A,A268*21,A289A,A290*4,A294A,A295*4",
   "A299A,A300*9,A309A,A310*19,A329A,A330*1,A332A,A332B,A332C,A333*3,A336A,A336B,A336C,A337*22",
   "A359A,A360*4,A364A,A365*3,A368A,A369*2,A371A,A372*9,A381A,A382,A383 RA OR RI,A383A,A384*2",
   "A386A,A387*5,A393 gg,A394*15,A410 BEGIN mz nm,A410A gp mz nm,A411*39,A450A,A451*6,A457A",
   "A458*39,A501*29,16800:0BAMUM o PHASE-A NGKUE MFON,3GBIEE FON,PON MFON PIPAEMGBIEE,5PIPAEMBA",
   "3NAA MFON,SHUENSHUET,TITA MFON,NZA MFON,SHINDA PA NJI,PON PA NJI PIPAEMGBIEE,6PIPAEMBA",
   "3MAEMBGBIEE,TU MAEMBA,NGANGU,MAEMVEUX,MANSUAE,MVEUAENGAM,SEUNYAM,NTOQPEN,KEUKEUTNDA,NKINDI",
   "SUU,NGKUENZEUM,LAPAQ,LET KUT,NTAP MFAA,MAEKEUP,PASHAE,GHEUAERAE,PAMSHAE,MON NGGEUAET",
   "NZUN MEUT,U YUQ NAE,GHEUAEGHEUAE,NTAP NTAA,SISA,MGBASA,MEUNJOMNDEUQ,MOOMPUQ,KAFA,PA LEERAEWA",
   "NDA LEERAEWA,PET,MAEMKPEN,NIKA,PUP,TUAEP,LUAEP,SONJAM,TEUTEUWEN,MAENYI,KET,NDAANGGEUAET,KUOQ",
   "MOOMEUT,SHUM,LOMMAE,FIRI,ROM,KPOQ,SOQ,MAP PIEET,SHIRAE,NTAP,SHOQ NSHUT YUM,NYIT MONGKEUAEQ",
   "PAARAE,NKAARAE,UNKNOWN,NGGEN,MAESI,NJAM,MBANYI,NYET,TEUAEN,SOT,PAAM,NSHIEE,MAEM,NYI,KAQ,NSHA",
   "VEE,LU,NEN,NAQ,MBAQ,2PHASE-B NSHUET,3TU MAEMGBIEE,SIEE,SET TU,LOM NTEUM,MBA MAELEE,KIEEM",
   "YEURAE,MBAARAE,KAM,PEESHI,YAFU LEERAEWA,me NSHUT NYAM,NTIEE SHEUOQ,NDU NJAA,GHEUGHEUAEM,PIT",
   "TU NSIEE,SHET NJAQ,SHEUAEQTU,MFON TEUAEQ,MBIT MBAAKET,NYI NTEUM,KEUPUQ,GHEUGHEN,KEUYEUX",
   "LAANAE,PARUM,VEUM,NGKINDI MVOP,NGGEU MBU,WUAET,SAKEUAE,TAAM,MEUQ,NGGUOQ,4mh,3MFIYAQ,SUE",
   "MBEURI,MONTIEEN,NYAEMAE,PUNGAAM,MEUT NGGEET,FEUX,MBUOQ,FEE,KEUAEM,MA NJEUAENA,4NJUQA,3LET",
   "NGGAAM,NSEN,MA,KIQ,NGOM,2PHASE-C NGKUE MAEMBA,3NZA,YUM,WANGKUOQ,NGGEN,NDEUAEREE,NGKAQ,GHARAE",
   "MBEEKEET,GBAYI,NYIR MKPARAQ MEUN,NTU MBIT,MBEUM,PIRIEEN,NDOMBU,MBAA CABBAGE-TREE,KEUSHEUAEP",
   "GHAP,KEUKAQ,YU MUOMAE,NZEUM,MBUE,NSEUAEN,MBIT,YEUQ,KPARAQ,KAA,SEUX,NDIDA,TAASHAE,NJUEQ",
   "TITA YUE,SUAET,NGGUAEN NYAM,VEUX,NANSANAQ,MA KEUAERI,NTAA,NGGUON,LAP,MBIRIEEN,MGBASAQ",
   "NTEUNGBA,TEUTEUX,NGGUM,FUE,NDEUT,NSA,NSHAQ,BUNG,VEUAEPEN,MBERAE,RU,NJAEM,me,TITUAEP",
   "NSUOT NGOM,NJEEEE,KET,NGGU,MAESI,MBUAEM,LU,KUT,NJAM,NGOM,WUP,NGGUEET,NSOM,NTEN,KUOP NKAARAE",
   "NSUN,NDAM,MA NSIEE,YAA,NDAP,SHUEQ,SETFON,MBI,MAEMBA,MBANYI,KEUSEUX,MBEUX,KEUM,MBAA PICKET",
   "YUWOQ,NJEUX,MIEE,MUAE,SHIQ,KEN LAW,4FATIGUE,3NGAQ,NAQ,LIQ,PIN,PEN,TET,2PHASE-D MBUO,3WAP,NJI",
   "MFON,NJIEE,LIEE,NJEUT,NSHEE,NGGAAMAE,NYAM,WUAEN,NGKUN,SHEE,NGKAP,KEUAETMEUN,TEUT,SHEUAE,NJAP",
   "SUE,KET,YAEMMAE,KUOM,SAP,MFEUT,NDEUX,MALEERI,MEUT,SEUAEQ,YEN,NJEUAEM,KEUOT MBUAE,NGKEURI,TU",
   "GHAA,NGKYEE,FEUFEUAET,NDEE,MGBOFUM,LEUAEP,NDON,MONI,MGBEUN,PUUT,MGBIEE,MFO,LUM,NSIEEP,MBAA",
   "KWAET,NYET,TEUAEN,SOT,YUWOQ,KEUM,RAEM,TEEEE,NGKEUAEQ,MFEUAE,NSIEET,KEUP,PIP,PEUTAE,NYUE,LET",
   "NGGAAM,MFIEE,NGGWAEN,YUOM,PAP,YUOP,NDAM,NTEUM,SUAE,KUN,NGGEUX,NGKIEE,TUOT,MEUN,KUQ,NSUM,TEUN",
   "MAENJET,NGGAP,LEUM,NGGUOM,NSHUT,NJUEQ,GHEUAE,KU,REN po,TAE,TOQ,NYI,RII,LEEEE,MEEEE,M,SUU,MU",
   "SHII,SHEUX,KYEE,NU,SHU,NTEE,PEE,NI,SHOQ,PUQ,MVOP,LOQ,REN MUCH,TI,NTUU,MBAA tr,SAQ,FAA",
   "2PHASE-E NDAP,3TOON,MBEUM,LAP,VOM,LOON,PAA,SOM,RAQ,NSHUOP,NDUN,PUAE,TAM,NGKA,KPEUX,WUO,SEE",
   "NGGEUAET,PAAM,TOO,KUOP,LOM,NSHIEE,NGOP,MAEM,NGKEUX,NGOQ,NSHUE,RIMGBA,NJEUX,PEEM,SAA,NGGURAE",
   "MGBA,GHEUX,NGKEUAEM,NJAEMLI,MAP,LOOT,NGGEEEE,NDIQ,TAEN NTEUM,SET,PUM,NDAA SOFTNESS",
   "NGGUAESHAE NYAM,YIEE,GHEUN,TUAE,YEUAE,PO,TUMAE,KEUAE,SUAEN,TEUAEQ,VEUAE,WEUX,LAAM,PU,TAAQ",
   "GHAAMAE,NGEUREUT,SHEUAEQ,MGBEN,MBEE,NZAQ,NKOM,GBET,TUM,KUET,YAP,NYI CLEAVER,YIT,MFEUQ,NDIAQ",
   "PIEEQ,YUEQ,LEUAEM,FUE,GBEUX,NGKUP,KET,MAE,NGKAAMI,GHET,FA,NTUM,PEUT,YEUM,NGGEUAE,NYI bx,NZUQ",
   "POON,MIEE,FUET,NAE,MUAE,GHEUAE,FU I,MVI,PUAQ,NGKUM,KUT,PIET,NTAP,YEUAET,NGGUP,PA PEOPLE",
   "FU CALL,FOM,NJEE,A,TOQ,O,I,LAQ,PA PLURAL,TAA,TAQ,NDAA MY HOUSE,SHIQ,YEUX,NGUAE,YUAEN",
   "YOQ SWIMMING,4COVER,3YUQ,YUN,KEUX,PEUX,NJEE EPOCH,PUE,WUE,FEE,VEE,LU,MI,REUX,RAE,NGUAET,op",
   "SHO,SHOQ,FU REMEDY,NA,PI,LOQ,KO,MEN,MA,MAQ,TEU,KI,MON,wp,FAQ,GHOM,2PHASE-F KA,3U,KU,EE,REE",
   "TAE,NYI,LA,RII,RIEE,MEEEE,TAA,NDAA,NJAEM,M,SUU,SHII,SI,SEUX,KYEE,KET,NUAE,NU,NJUAE,YOQ,SHU",
   "YA,NSHA,PEUX,NTEE,WUE,PEE,RU,NI,REUX,KEN,NGKWAEN,NGGA,SHO,PUAE,FOM,WA,LI,LOQ,KO,MBEN,REN,MA",
   "MO,MBAA,TET,KPA,SAMBA,VUEQ,16a40:0MRO o TA,2NGI,YO,MIM,BA,DA,A,qt,KHAI,HAO,DAI,CHU,KEAAE,OL",
   "MAEM,NIN,PA,OO,O,RO,SHI,THEA,EA,WA,E,KO,LAN,LA,HAI,RI,TEK,16a60:1fm zx,2ps,yg,v,hz,hr,uq,tr",
   "gg,ot,16a6e:1eu,g eu,0TANGSA o OZ,2OC,OQ,OX,AZ,AC,AQ,AX,VZ,VC,VQ,VX,EZ,EC,EQ,EX,IZ,IC,IQ,IX",
   "UZ,UC,UQ,UX,AWZ,AWC,AWQ,AWX,UIZ,UIC,UIQ,UIX,h NG,na UEX,uf UEZ,3AWX,2UEC,UEZ,UEQ,UEX,UIUZ",
   "UIUC,UIUQ,UIUX,MZ,MC,MQ,MX,KA,ls,GA,op,SA,YA,WA,PA,pk,qs,BA,MA,NA,HA,LA,HTA,TA,DA,RA,NHA,tu",
   "CA,xu,ik,HTTA,wr,XA,FA,fd,cx,ZA,16ac0:1fm zx,2ps,yg,v,hz,hr,uq,tr,gg,ot",
   "16ad0:0BASSA VAH o ENNI,3KA,SE,FA,MBE,YIE,GAH,DHII,KPAH,JO,HWAH,WA,ZO,GBU,DO,CE,UWU,TO,BA,VU",
   "YEIN,PA,WADDA,A,O,OO,U,EE,E,I,16af0:2dq jp xj,3nd xj,MID xj,LOW-MID xj,HIGH-LOW xj,2id vr",
   "16b00:0PAHAWH HMONG zc KEEB,3KEEV,KIB,KIV,KAUB,KAUV,KUB,KUV,KEB,KEV,KAIB,KAIV,KOOB,KOOV,KAWB",
   "KAWV,KUAB,KUAV,KOB,KOV,KIAB,KIAV,KAB,KAV,KWB,KWV,KAAB,KAAV,2dv VAU,3NTSAU,LAU,HAU,NLAU,RAU",
   "NKAU,QHAU,YAU,HLAU,MAU,CHAU,NCHAU,HNAU,PLHAU,NTHAU,NAU,AU,XAU,CAU,2nm CIM TUB,4SO,KES,KHAV",
   "SUAM,HOM,TAUM,2r VOS THOM,4TSHAB CEEB,3CIM CHEEM,VOS THIAB,4FEEM,3XYEEM NTXIV,4se,TOV,FAIB",
   "3VOS SEEV,MEEJ SUAB,VOS NRUA,IB YAM,XAUS,CIM TSOV ROG,16b50:2fm zx,3ps,yg,v,hz,hr,uq,tr,gg",
   "ot,16b5b:2ph TENS,3HUNDREDS,wp xd,nw,jx nw,wp BILLIONS,TRILLIONS,16b63:2r VOS LUB,3XYOO,HLI",
   "THIRD-STAGE HLI,ZWJ THAJ,HNUB,NQIG,XIAB,NTUJ,AV,TXHEEJ CEEV,MEEJ TSEEB,TAU,LOS,MUS",
   "CIM HAIS LUS NTOG NTOG,4CUAM TSHOOJ,TXWV,5CHWV,4PUB DAWB,NRES TOS,16b7d:2CLAN r TSHEEJ,4YEEG",
   "LIS,LAUJ,XYOOJ,KOO,HAWJ,MUAS,THOJ,TSAB,PHAB,KHAB,HAM,VAJ,FAJ,YAJ,TSWB,KWM,VWJ",
   "16e40:0MEDEFAIDRIN f o M,3S,V,W,ATIU,Z,KP,P,T,G,F,I,K,A,J,E,B,C,U,YU,L,Q,HP,NY,X,D,OE,N,R,O",
   "AI,Y,1s o M,3S,V,W,ATIU,Z,KP,P,T,G,F,I,K,A,J,E,B,C,U,YU,L,Q,HP,NY,X,D,OE,N,R,O,AI,Y,1fm zx",
   "2ps,yg,v,hz,hr,uq,tr,gg,ot,1ph wp,2gn,yd,wz,ia,hi,ur,ts,gh,ou,1fm ps am i,2yg am i,v am i",
   "1dr,id vr,u AIVA,gx OH,16f00:0MIAO o PA,2BA,YI PA,PLA,MA,MHA,az MA,FA,VA,VFA,TA,DA,YI xx,3TA",
   "2xx,ey,NA,NHA,YI ow,az NA,ow,NNHA,LA,LYA,LHA,LHYA,TLHA,DLHA,TLHYA,DLHYA,KA,GA,YI KA,QA,QGA",
   "op,NGHA,az op,HA,XA,ik,GHHA,TSSA,DZZA,pk,NYHA,xv,DZHA,YI xv,3DZHA,2REFORMED xv,tu,vj,ZHA",
   "ZSHA,xu,DZA,YI xu,SA,ZA,ZSA,ZZA,ZZSA,az ZZA,ZZYA,ZZSYA,WA,AH,HHA,BRI,SYI,DZYI,TE,TSE,RTE",
   "16f4f:1r dv ny bp,o NASALIZATION,r ASPIRATION,2REFORMED VOICING,3ASPIRATION,1zc r A,3AA,AHH",
   "AN,ANG,O,OO,WO,W,E,EN,ENG,OEY,I,IA,IAN,IANG,IO,IE,II,IU,ING,U,UA,UAN,UANG,UU,UEI,UNG,Y,YI,AE",
   "AEE,ERR,sx ERR,ER,sx ER,AI,EI,AU,OU,N,NG,UOG,YUI,OG,OER,VW,IG,EA,IONG,UI,16f8f:1xj p,2xm p,a",
   "d,1o TONE-2*6,2REFORMED TONE-1*1,3TONE-4*2,TONE-8,16fe0:0TANGUT kw nm,NUSHU kw nm",
   "po CHINESE ju nm,2kw nm,0KHITAN s th hl,16ff0:VIETNAMESE am READING nm CA,4NHAY"]

end LineScript.Text.Name
