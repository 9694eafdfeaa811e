/-!
# Further scripts

The names of the characters of the scripts of Africa, America and Asia, and of the extensions of the
Latin and Greek alphabets: the code points from 800 to 1FFF.
-/

namespace LineScript.Text.Name

/-- The names in the order of their code points; `Reading.entry` says how they are written. -/
def scripts : List String :=
  ["0SAMARITAN o ALAF,2BIT,GAMAN,DALAT,IY,BAA,ZEN,IT,TIT,YUT,KAAF,LABAT,MIM,pj,SINGAAT,IN,FI",
   "TSAADIY,QUF,RISH,SHAN,TAAF,1nm IN,2IN-ALAF,OCCLUSION,eq,1ny o EPENTHETIC YUT",
   "nm EPENTHETIC YUT,zc r na E,3E,OVERLONG AA,na AA,AA,OVERLONG A,na A,A,1ny o uf A,zc r uf A",
   "3na U,U,1ny o I,zc r na I,3I,O,SUKUN,1nm NEQUDAA,830:rm NEQUDAA,2AFSAAQ,ANGED,BAU,ATMAAU",
   "SHIYYAALAA,1aa nm,rm MELODIC QITSA,2ZIQAA,QITSA,ZAEF,TURU,ARKAANU,SOF MASHFAAT,ANNAAU",
   "840:0MANDAIC o HALQA,2AB,AG,AD,AH,USHENNA,AZ,IT,ATT,AKSA,AK,AL,AM,AN,AS,IN,AP,ASZ,AQ,AR,bg",
   "AT,DUSHENNA,KAD,af,1AFFRICATION nm,VOCALIZATION nm,ih nm,85e:rm,860:0SYRIAC o MALAYALAM op",
   "3JA,pk,xx,ow,NNNA,by,RA,mx,LLLA,vj,870:0ax o ah z bi hg,5xm p hg,4p nu t,m nu t,bi lm",
   "5ce p lm,sw ft a,p sw ft,m sw ft,sw ft d,4ft a,bi xm p hg b ft a,p nu t b ft a",
   "bi ce p lm b ft a,5xm p hg b m sq,4p nu t b m sq,bi ce p lm b m sq,5p iw,m iw",
   "1TATWEEL z OVERSTRUCK iw,4zf,3yg fv d,1o THIN zo,BASELINE sw ft,rw sw ft,o ox z kr s V",
   "2iu z kr s V d,wi z ft d,4v fv d,2KEHEH z yg fv yv d,1x wj,890:POUND nm a,PIASTRE nm a",
   "898:s jp zj AL-JUZ,2nd zj ISHMAAM,4IMAALA,TASHEEL,1ni WAAJIB,wb ah MOKHASSAS,DOUBLED ni",
   "iv ni qb ni,o BEH z s V d,4iw a,2la z yg fv a,wi z yg fv a,FEH z ft d b v fv a,rn z ft d",
   "me z g bp,nt z v fv a,zo z yg fv d b iw a,8ft a,2ry z nc,zf z ft zi,ROHINGYA zo,nd ah",
   "DAL z v fv d,sz z v fv d,GAF z kr t,vs zf,zt z kr V a,af z v fv d,le z ft d",
   "rn z ft d b NO fv a,BEH z s nt a,PEH z s nt a,TEH z s TEH a,ry z s ox a",
   "zo z yg fv d b s ox a,AFRICAN FEH,3rn,ox,2PEH z s V,TEH z s V,TTEH z s V,TCHEH z s V",
   "KEHEH z s V,il z v fv a,AFRICAN rn z v fv a,la z v fv a,6d,2me z s ax o wi a,GRAF",
   "1s FARSI zo,2jp FARSI zo,3zo BARREE z yg fv d,zj SAH,ZAH,1mh sw ft a,4d,1SUKUN d,mh dg d",
   "2sw ft kl dg d,1s nd zf,2jp zj AR-RUB,3sz,af,rn,ox z lm,2nd ox z lm,jp zj ATH-THALATHA",
   "4AS-SAJDA,AN-NISF,SAKTA,QIF,WAQFA,3FOOTNOTE nn,r SAFHA,1DISPUTED gp OF AYAH,ya es d,el hg",
   "2es,lm,hh,et,ln,1xj ps ft a,2yg fv a,nc a,ps ft d,yg fv d,nc d,1pu hh,2et,ln,1s jp zf",
   "hg z sq,3ft a,1lm z ft d,m bd a,p bd a,m bd d,p bd d,g p bd a,5z ft,1p bd a z ft,es z ft",
   "nm ui ox GHUNNA,0DEVANAGARI r kr co,2co,at,yy,1o uf A,2A,AA,I,II,U,UU,yz R,3L,2cn E,uf E,E",
   "AI,cn O,uf O,O,AU,KA,ls,GA,ik,op,CA,cx,JA,lb,pk,xx,xy,ey,ez,ow,TA,wr,DA,fd,NA,NNNA,PA,qs,BA",
   "by,MA,YA,RA,RRA,LA,mx,LLLA,VA,tu,vj,SA,HA,1zc r OE,3OOE,1r pg,2bj,1zc r AA,3I,II,U,UU,yz R",
   "4RR,3cn E,uf E,E,AI,cn O,uf O,O,AU,1r yx,zc r ri E,3AW,1OM,STRESS r UDATTA,3as,1ip ac,ae ac",
   "zc r cn na E,3UE,UUE,1o QA,2KHHA,GHHA,ZA,DDDHA,RHA,FA,YYA,yz RR,3LL,1zc r yz L,4LL,1eu,g eu",
   "fm zx,2ps,yg,v,hz,hr,uq,tr,gg,ot,1aa r,r jp SPACING ft,o cn A,2OE,OOE,AW,UE,UUE,MARWARI ey",
   "ZHA,jm YA,GGA,JJA,io vr,DDDA,BBA,0BENGALI ANJI,1r co,2at,yy,985:1o A,2AA,I,II,U,UU,yz R,3L",
   "98f:2E,AI,993:O,AU,KA,ls,GA,ik,op,CA,cx,JA,lb,pk,xx,xy,ey,ez,ow,TA,wr,DA,fd,NA,9aa:PA,qs,BA",
   "by,MA,YA,RA,9b2:LA,9b6:tu,vj,SA,HA,9bc:1r pg,2bj,1zc r AA,3I,II,U,UU,yz R,4RR,9c7:3E,AI",
   "9cb:O,AU,1r yx,o KHANDA TA,9d7:AU mp nm,9dc:o RRA,2RHA,9df:YYA,yz RR,3LL,1zc r yz L,4LL",
   "9e6:1fm zx,2ps,yg,v,hz,hr,uq,tr,gg,ot,1o RA z nu ff,4ne ff,1RUPEE nm,2r,1em NUMERATOR ps,3yg",
   "v,hz,ps LESS THAN ws DENOMINATOR,2DENOMINATOR ur,1ISSHAR,GANDA nm,o VEDIC at,aa r,SANDHI nm",
   "a01:0GURMUKHI r ADAK BINDI,2BINDI,yy,a05:1o A,2AA,I,II,U,UU,a0f:EE,AI,a13:OO,AU,KA,ls,GA,ik",
   "op,CA,cx,JA,lb,pk,xx,xy,ey,ez,ow,TA,wr,DA,fd,NA,a2a:PA,qs,BA,by,MA,YA,RA,a32:LA,mx,a35:VA,tu",
   "a38:SA,HA,a3c:1r pg,a3e:zc r AA,3I,II,U,UU,a47:EE,AI,a4b:OO,AU,1r yx,a51:2UDAAT,a59:1o KHHA",
   "2GHHA,ZA,RRA,a5e:FA,a66:1fm zx,2ps,yg,v,hz,hr,uq,tr,gg,ot,1TIPPI,ADDAK,IRI,URA,EK ONKAR",
   "r YAKASH,aa r,a81:0GUJARATI r co,2at,yy,a85:1o A,2AA,I,II,U,UU,yz R,3L,1zc cn E,a8f:o E,2AI",
   "1zc cn O,a93:o O,2AU,KA,ls,GA,ik,op,CA,cx,JA,lb,pk,xx,xy,ey,ez,ow,TA,wr,DA,fd,NA,aaa:PA,qs",
   "BA,by,MA,YA,RA,ab2:LA,mx,ab5:VA,tu,vj,SA,HA,abc:1r pg,2bj,1zc r AA,3I,II,U,UU,yz R,4RR,3cn E",
   "ac7:E,AI,cn O,acb:O,AU,1r yx,ad0:OM,ae0:o yz RR,3LL,1zc r yz L,4LL,ae6:1fm zx,2ps,yg,v,hz,hr",
   "uq,tr,gg,ot,1aa r,RUPEE r,af9:o ZHA,r SUKUN,2SHADDA,MADDAH,THREE-DOT pg a,dg pg a",
   "TWO-CIRCLE pg a,b01:0ORIYA r co,2at,yy,b05:1o A,2AA,I,II,U,UU,yz R,3L,b0f:2E,AI,b13:O,AU,KA",
   "ls,GA,ik,op,CA,cx,JA,lb,pk,xx,xy,ey,ez,ow,TA,wr,DA,fd,NA,b2a:PA,qs,BA,by,MA,YA,RA,b32:LA,mx",
   "b35:VA,tu,vj,SA,HA,b3c:1r pg,2bj,1zc r AA,3I,II,U,UU,yz R,4RR,b47:3E,AI,b4b:O,AU,1r yx",
   "b55:2qe,1AI mp nm,AU mp nm,b5c:o RRA,2RHA,b5f:YYA,yz RR,3LL,1zc r yz L,4LL,b66:1fm zx,2ps,yg",
   "v,hz,hr,uq,tr,gg,ot,1ISSHAR,o WA,ib ps rr,3iv,2v rs,ps us,3gi,2v ut,b82:0TAMIL r at,2yy",
   "b85:1o A,2AA,I,II,U,UU,b8e:E,EE,AI,b92:O,OO,AU,KA,b99:op,CA,b9c:JA,b9e:pk,xx,ba3:ow,TA",
   "ba8:NA,NNNA,PA,bae:MA,YA,RA,RRA,LA,mx,LLLA,VA,tu,vj,SA,HA,bbe:1zc r AA,3I,II,U,UU,bc6:E,EE",
   "AI,bca:O,OO,AU,1r yx,bd0:OM,bd7:AU mp nm,be6:fm zx,2ps,yg,v,hz,hr,uq,tr,gg,ot,1ph wp,2ps jx",
   "3xc,1DAY r,MONTH r,YEAR r,DEBIT r,CREDIT r,AS a r,RUPEE r,ph r,c00:0TELUGU r dq co a,2co,at",
   "yy,dq at a,1o A,2AA,I,II,U,UU,yz R,3L,c0e:2E,EE,AI,c12:O,OO,AU,KA,ls,GA,ik,op,CA,cx,JA,lb,pk",
   "xx,xy,ey,ez,ow,TA,wr,DA,fd,NA,c2a:PA,qs,BA,by,MA,YA,RA,RRA,LA,mx,LLLA,VA,tu,vj,SA,HA",
   "c3c:1r pg,2bj,1zc r AA,3I,II,U,UU,yz R,4RR,c46:3E,EE,AI,c4a:O,OO,AU,1r yx,c55:mp nm,AI mp nm",
   "c58:o xu,2DZA,RRRA,c5d:NAKAARA POLLU,c60:yz RR,3LL,1zc r yz L,4LL,c66:1fm zx,2ps,yg,v,hz,hr",
   "uq,tr,gg,ot,c77:1r ug,ib fm zx hw ODD re OF hz,3ps hw ODD re OF hz,yg hw ODD re OF hz",
   "v hw ODD re OF hz,ps hw EVEN re OF hz,yg hw EVEN re OF hz,v hw EVEN re OF hz,1r TUUMU",
   "0KANNADA r SPACING co,2co,at,yy,ug,1o A,2AA,I,II,U,UU,yz R,3L,c8e:2E,EE,AI,c92:O,OO,AU,KA,ls",
   "GA,ik,op,CA,cx,JA,lb,pk,xx,xy,ey,ez,ow,TA,wr,DA,fd,NA,caa:PA,qs,BA,by,MA,YA,RA,RRA,LA,mx",
   "cb5:VA,tu,vj,SA,HA,cbc:1r pg,2bj,1zc r AA,3I,II,U,UU,yz R,4RR,cc6:3E,EE,AI,cca:O,OO,AU,1r yx",
   "cd5:mp nm,AI mp nm,cdd:o NAKAARA POLLU,2FA,ce0:yz RR,3LL,1zc r yz L,4LL,ce6:1fm zx,2ps,yg,v",
   "hz,hr,uq,tr,gg,ot,cf1:1r lc,2yo,d00:0MALAYALAM r dq at a,2co,at,yy,1o VEDIC at,2A,AA,I,II,U",
   "UU,yz R,3L,d0e:2E,EE,AI,d12:O,OO,AU,KA,ls,GA,ik,op,CA,cx,JA,lb,pk,xx,xy,ey,ez,ow,TA,wr,DA,fd",
   "NA,NNNA,PA,qs,BA,by,MA,YA,RA,RRA,LA,mx,LLLA,VA,tu,vj,SA,HA,TTTA,1r x bp yx,2dj yx,bj",
   "1zc r AA,3I,II,U,UU,yz R,4RR,d46:3E,EE,AI,d4a:O,OO,AU,1r yx,o ft REPH,r PARA,d54:o CHILLU M",
   "3Y,LLL,1AU mp nm,ib ps pt,3FORTIETH,2v EIGHTIETHS,ps TWENTIETH,3TENTH,2v TWENTIETHS,ps FIFTH",
   "1o az II,2yz RR,3LL,1zc r yz L,4LL,d66:1fm zx,2ps,yg,v,hz,hr,uq,tr,gg,ot,1ph wp,2ps jx,3xc",
   "1ib ps rr,3iv,2v rs,ps us,3gi,2v ut,1DATE nm,o CHILLU NN,3N,RR,L,LL,K,d81:0SINHALA r co",
   "2ANUSVARAYA,VISARGAYA,d85:1o AYANNA,2AAYANNA,AEYANNA,AEEYANNA,IYANNA,IIYANNA,UYANNA,UUYANNA",
   "IRUYANNA,IRUUYANNA,ILUYANNA,ILUUYANNA,EYANNA,EEYANNA,AIYANNA,OYANNA,OOYANNA,AUYANNA",
   "d9a:ak KAYANNA,nj KAYANNA,ak GAYANNA,nj GAYANNA,KANTAJA NAASIKYAYA,SANYAKA GAYANNA",
   "ak CAYANNA,nj CAYANNA,ak JAYANNA,nj JAYANNA,TAALUJA NAASIKYAYA,3SANYOOGA NAAKSIKYAYA",
   "2SANYAKA JAYANNA,ak TTAYANNA,nj TTAYANNA,ak DDAYANNA,nj DDAYANNA,MUURDHAJA NAYANNA",
   "SANYAKA DDAYANNA,ak TAYANNA,nj TAYANNA,ak DAYANNA,nj DAYANNA,DANTAJA NAYANNA",
   "db3:SANYAKA DAYANNA,ak PAYANNA,nj PAYANNA,ak BAYANNA,nj BAYANNA,MAYANNA,AMBA BAYANNA,YAYANNA",
   "RAYANNA,dbd:DANTAJA LAYANNA,dc0:VAYANNA,TAALUJA SAYANNA,MUURDHAJA SAYANNA,DANTAJA SAYANNA",
   "HAYANNA,MUURDHAJA LAYANNA,FAYANNA,dca:1r AL-LAKUNA,dcf:zc r AELA-PILLA,3KETTI AEDA-PILLA",
   "DIGA AEDA-PILLA,KETTI IS-PILLA,DIGA IS-PILLA,KETTI PAA-PILLA,dd6:DIGA PAA-PILLA",
   "dd8:GAETTA-PILLA,KOMBUVA,DIGA KOMBUVA,KOMBU DEKA,KOMBUVA HAA AELA-PILLA,5DIGA AELA-PILLA",
   "GAYANUKITTA,3GAYANUKITTA,de6:1LITH fm zx,3ps,yg,v,hz,hr,uq,tr,gg,ot",
   "df2:1zc r DIGA GAETTA-PILLA,4GAYANUKITTA,1rm KUNDDALIYA,e01:0THAI cy KO KAI,2KHO KHAI,3KHUAT",
   "KHWAI,KHON,RAKHANG,2NGO NGU,CHO CHAN,3CHING,CHANG,2SO SO,CHO CHOE,YO YING,DO CHADA,TO PATAK",
   "THO THAN,3NANGMONTHO,PHUTHAO,2NO NEN,DO DEK,TO TAO,THO THUNG,3THAHAN,THONG,2NO NU,BO BAIMAI",
   "PO PLA,PHO PHUNG,FO FA,PHO PHAN,FO FAN,PHO SAMPHAO,MO MA,YO YAK,RO RUA,RU,LO LING,LU,WO WAEN",
   "SO SALA,3RUSI,SUA,2HO HIP,LO CHULA,O ANG,HO NOKHUK,PAIYANNOI,SARA A,MAI HAN-AKAT,SARA AA,3AM",
   "I,II,UE,UEE,U,UU,2PHINTHU,e3f:1em u BAHT,cy SARA E,3AE,O,AI MAIMUAN,4MAIMALAI,2LAKKHANGYAO",
   "MAIYAMOK,MAITAIKHU,MAI EK,3THO,TRI,CHATTAWA,2THANTHAKHAT,NIKHAHIT,YAMAKKAN,FONGMAN,1fm zx",
   "2ps,yg,v,hz,hr,uq,tr,gg,ot,1cy ANGKHANKHU,2KHOMUT,e81:0LAO o KO,2KHO SUNG,e84:3TAM",
   "e86:2PALI ik,NGO,CO,PALI cx,SO TAM,e8c:PALI lb,NYO,PALI pk,3xx,xy,ey,ez,ow,2DO,TO,THO SUNG",
   "3TAM,2PALI fd,NO,BO,PO,PHO SUNG,FO TAM,PHO TAM,FO SUNG,PALI by,MO,YO,LO LING,ea5:3LOOT",
   "ea7:2WO,SANSKRIT tu,3vj,2SO SUNG,HO SUNG,PALI mx,O,HO TAM,1go,zc r A,3MAI KAN,AA,AM,I,II,Y",
   "YY,U,UU,1r PALI yx,zc r MAI KON,SEMIVOWEL r LO,3NYO,ec0:1zc r E,3EI,O,AY,AI,ec6:1KO LA",
   "ec8:xj MAI EK,3THO,TI,CATAWA,1cm nm,NIGGAHITA,ed0:fm zx,2ps,yg,v,hz,hr,uq,tr,gg,ot",
   "edc:1HO NO,2MO,1o KHMU GO,3NYO,f00:0TIBETAN wf OM,1nm GTER YIG MGO TRUNCATED A",
   "5-UM RNAM BCAD MA,6GTER xw MA,2k YIG MGO MDUN MA,CLOSING YIG MGO SGAB MA",
   "cp YIG MGO PHUR tv MA,YIG MGO xw tv MA,SBRUL tv,BSKUR YIG MGO,BKA- SHOG YIG MGO",
   "INTERSYLLABIC xw,DELIMITER xw BSTAR,tv,NYIS tv,xw tv,NYIS xw tv,RIN CHEN SPUNGS tv",
   "RGYA GRAM tv,cp -DZUD sy ME na CAN,GTER xw,1LOGOTYPE r CHAD sy,3LHAG sy",
   "1ASTROLOGICAL r SGRA GCAN -CHAR sy,3-KHYUD PA,SDONG TSHUGS,1r RDEL DKAR GCIG,4GNYIS,GSUM",
   "3NAG GCIG,4GNYIS,3DKAR RDEL NAG,1fm zx,2ps,yg,v,hz,hr,uq,tr,gg,ot,iv ps,3yg,v,hz,hr,uq,tr,gg",
   "ot,zx,1nm BSDUS sy,2NGAS BZUNG NYI ZLA,cp -DZUD sy BZHI MIG CAN,NGAS BZUNG SGOR sy,da MGO",
   "xu -PHRU,GUG sy GYON,4GYAS,2ANG KHANG GYON,4GYAS,1r YAR TSHES,2MAR TSHES,1o KA,2ls,GA,ik,op",
   "CA,cx,JA,f49:pk,xx,xy,ey,ez,ow,TA,wr,DA,fd,NA,PA,qs,BA,by,MA,xu,xv,DZA,DZHA,WA,ZHA,ZA,-A,YA",
   "RA,LA,tu,vj,SA,HA,A,KSSA,FIXED-FORM RA,KKA,RRA,f71:1zc r AA,3I,II,U,UU,yz R,4RR,L,LL,3E,EE,O",
   "OO,1r RJES SU op RO,2RNAM BCAD,1zc r sd I,4II,1r NYI ZLA NAA DA,2SNA LDAN,1nm HALANTA",
   "2PALUTA,1r LCI sy,2zn sy,LCE xu CAN,MCHU CAN,GRU CAN RGYINGS,3MED RGYINGS,2kr MCHU CAN",
   "1vu r LCE xu CAN,3MCHU CAN,kr MCHU CAN,2o KA,3ls,GA,ik,op,CA,cx,JA,f99:pk,xx,xy,ey,ez,ow,TA",
   "wr,DA,fd,NA,PA,qs,BA,by,MA,xu,xv,DZA,DZHA,WA,ZHA,ZA,-A,YA,RA,LA,tu,vj,SA,HA,A,KSSA",
   "FIXED-FORM WA,4YA,RA,fbe:1KU RU ls,4BZHI MIG CAN,1CANTILLATION r jm BEAT,3mu BEAT,CANG TE-U",
   "SBUB -CHAL,1u DRIL BU,2RDO RJE,PADMA GDAN,RDO RJE RGYA GRAM,PHUR PA,NOR BU,4NYIS -KHYIL",
   "GSUM -KHYIL,BZHI -KHYIL,fce:1r RDEL NAG RDEL DKAR,4GSUM,1nm BSKA- SHOG GI MGO RGYAN",
   "2MNYAM YIG GI MGO RGYAN,NYIS xw,k BRDA RNYING YIG MGO MDUN MA",
   "CLOSING BRDA RNYING YIG MGO SGAB MA,0sm SVASTI r,ml SVASTI r,sm SVASTI r z fv",
   "ml SVASTI r z fv,TIBETAN nm LEADING MCHAN sy,2TRAILING MCHAN sy,1000:0MYANMAR o KA,2ls,GA,ik",
   "op,CA,cx,JA,lb,pk,NNYA,xx,xy,ey,ez,ow,TA,wr,DA,fd,NA,PA,qs,BA,by,MA,YA,RA,LA,WA,SA,HA,mx,A",
   "SHAN A,I,II,U,UU,E,MON E,O,AU,1zc r TALL AA,3AA,I,II,U,UU,E,AI,MON II,4O,3E a,1r at,2ft d,yy",
   "yx,ASAT,1dv r nr YA,4RA,WA,HA,1o GREAT SA,fm zx,2ps,yg,v,hz,hr,uq,tr,gg,ot,1r mw tk,2tk",
   "1u LOCATIVE,2COMPLETED,AFOREMENTIONED,GENITIVE,1o tu,2vj,yz R,3RR,L,LL,1zc r yz R,4RR,L,LL",
   "1o MON op,3lb,BBA,BBE,1dv r MON nr NA,5MA,LA,1o SGAW lk tu,zc r SGAW lk EU",
   "xj nm SGAW lk HATHI,5KE PHO,1o WESTERN PWO lk wr,5PWA,1zc r WESTERN PWO lk EU,6UE",
   "1r WESTERN PWO lk TONE-1*4,o EASTERN PWO lk ow,5YWA,GHWA,1zc r GEBA lk I,3KAYAH OE,4U,EE",
   "1o SHAN KA,3ls,GA,CA,ZA,pk,DA,NA,qs,FA,BA,wr,HA,1dv r SHAN nr WA,zc r SHAN AA,4E,5a,4h Y",
   "1r SHAN TONE-2*1,3TONE-5*1,COUNCIL TONE-2*1,4EMPHATIC xj,1o RUMAI PALAUNG FA",
   "r RUMAI PALAUNG TONE-5,SHAN fm zx,3ps,yg,v,hz,hr,uq,tr,gg,ot,1r KHAMTI TONE-1,3TONE-3",
   "1zc r AITON A,4AI,1u SHAN ps,3gx,0ii f o AN,3BAN,GAN,DON,EN,VIN,ZEN,TAN,IN,KAN,LAS,MAN,NAR",
   "ON,PAR,ZHAR,RAE,SAN,TAR,UN,PHAR,KHAR,GHAN,QAR,ue,CHIN,CAN,JIL,CIL,CHAR,XAN,JHAN,HAE,HE,HIE",
   "WE,HAR,HOE,10c7:YN,10cd:AEN,10d0:1o AN,2BAN,GAN,DON,EN,VIN,ZEN,TAN,IN,KAN,LAS,MAN,NAR,ON,PAR",
   "ZHAR,RAE,SAN,TAR,UN,PHAR,KHAR,GHAN,QAR,ue,CHIN,CAN,JIL,CIL,CHAR,XAN,JHAN,HAE,HE,HIE,WE,HAR",
   "HOE,FI,YN,ELIFI,ya GAN,af,1qi tp,0ny o ii NAR,ii o AEN,2HARD r,LABIAL r,0jh CHOSEONG lx,2vl",
   "NIEUN,xg,vn,RIEUL,MIEUM,PIEUP,vm,SIOS,SSANGSIOS,kd,df,vk,de,lu,ww,qu,HIEUH,NIEUN-KIYEOK",
   "SSANGNIEUN,NIEUN-TIKEUT,NIEUN-PIEUP,TIKEUT-KIYEOK,RIEUL-NIEUN,SSANGRIEUL,sf,KAPYEOUNRIEUL",
   "MIEUM-PIEUP,lh,PIEUP-KIYEOK,PIEUP-NIEUN,PIEUP-TIKEUT,qv,PIEUP-SIOS-KIYEOK,qw",
   "PIEUP-SIOS-PIEUP,PIEUP-SSANGSIOS,PIEUP-SIOS-CIEUC,PIEUP-CIEUC,PIEUP-CHIEUCH,PIEUP-THIEUTH",
   "PIEUP-PHIEUPH,lj,KAPYEOUNSSANGPIEUP,SIOS-KIYEOK,SIOS-NIEUN,SIOS-TIKEUT,SIOS-RIEUL,SIOS-MIEUM",
   "SIOS-PIEUP,SIOS-PIEUP-KIYEOK,SIOS-SSANGSIOS,SIOS-IEUNG,SIOS-CIEUC,SIOS-CHIEUCH,SIOS-KHIEUKH",
   "SIOS-THIEUTH,SIOS-PHIEUPH,SIOS-HIEUH,CHITUEUMSIOS,CHITUEUMSSANGSIOS,CEONGCHIEUMSIOS",
   "CEONGCHIEUMSSANGSIOS,PANSIOS,IEUNG-KIYEOK,IEUNG-TIKEUT,IEUNG-MIEUM,IEUNG-PIEUP,IEUNG-SIOS",
   "IEUNG-PANSIOS,SSANGIEUNG,IEUNG-CIEUC,IEUNG-CHIEUCH,IEUNG-THIEUTH,IEUNG-PHIEUPH,YESIEUNG",
   "CIEUC-IEUNG,CHITUEUMCIEUC,CHITUEUMSSANGCIEUC,CEONGCHIEUMCIEUC,CEONGCHIEUMSSANGCIEUC",
   "CHIEUCH-KHIEUKH,CHIEUCH-HIEUH,CHITUEUMCHIEUCH,CEONGCHIEUMCHIEUCH,PHIEUPH-PIEUP,li,SSANGHIEUH",
   "YEORINHIEUH,KIYEOK-TIKEUT,NIEUN-SIOS,oq,or,TIKEUT-RIEUL,hl,1JUNGSEONG hl,2A,AE,YA,YAE,EO,E",
   "YEO,YE,O,WA,WAE,OE,YO,U,WEO,WE,WI,YU,EU,YI,I,A-O,A-U,YA-O,YA-YO,EO-O,EO-U,EO-EU,YEO-O,YEO-U",
   "O-EO,O-E,O-YE,O-O,O-U,YO-YA,YO-YAE,YO-YEO,YO-O,YO-I,U-A,U-AE,U-EO-EU,U-YE,U-U,YU-A,YU-EO",
   "YU-E,YU-YEO,YU-YE,YU-U,YU-I,EU-U,EU-EU,YI-U,I-A,I-YA,I-O,I-U,I-EU,I-ARAEA,ARAEA,ARAEA-EO",
   "ARAEA-U,ARAEA-I,SSANGARAEA,A-EU,YA-U,YEO-YA,O-YA,O-YAE,1JONGSEONG lx,2vl,KIYEOK-SIOS,NIEUN",
   "oq,or,xg,RIEUL,sg,sh,sj,sk,sl,si,sf,MIEUM,PIEUP,qv,SIOS,SSANGSIOS,kd,df,de,lu,ww,qu,HIEUH",
   "KIYEOK-RIEUL,KIYEOK-SIOS-KIYEOK,NIEUN-KIYEOK,NIEUN-TIKEUT,NIEUN-SIOS,NIEUN-PANSIOS",
   "NIEUN-THIEUTH,TIKEUT-KIYEOK,TIKEUT-RIEUL,RIEUL-KIYEOK-SIOS,RIEUL-NIEUN,RIEUL-TIKEUT",
   "RIEUL-TIKEUT-HIEUH,SSANGRIEUL,RIEUL-MIEUM-KIYEOK,RIEUL-MIEUM-SIOS,RIEUL-PIEUP-SIOS",
   "RIEUL-PIEUP-HIEUH,RIEUL-KAPYEOUNPIEUP,RIEUL-SSANGSIOS,RIEUL-PANSIOS,RIEUL-KHIEUKH",
   "RIEUL-YEORINHIEUH,MIEUM-KIYEOK,MIEUM-RIEUL,MIEUM-PIEUP,MIEUM-SIOS,MIEUM-SSANGSIOS",
   "MIEUM-PANSIOS,MIEUM-CHIEUCH,MIEUM-HIEUH,lh,PIEUP-RIEUL,PIEUP-PHIEUPH,PIEUP-HIEUH,lj",
   "SIOS-KIYEOK,SIOS-TIKEUT,SIOS-RIEUL,SIOS-PIEUP,PANSIOS,IEUNG-KIYEOK,IEUNG-SSANGKIYEOK",
   "SSANGIEUNG,IEUNG-KHIEUKH,YESIEUNG,YESIEUNG-SIOS,YESIEUNG-PANSIOS,PHIEUPH-PIEUP,li",
   "HIEUH-NIEUN,HIEUH-RIEUL,HIEUH-MIEUM,HIEUH-PIEUP,YEORINHIEUH,KIYEOK-NIEUN,KIYEOK-PIEUP",
   "KIYEOK-CHIEUCH,KIYEOK-KHIEUKH,KIYEOK-HIEUH,SSANGNIEUN,0ETHIOPIC wf HA,2HU,HI,HAA,HEE,HE,HO",
   "HOA,LA,LU,LI,LAA,LEE,LE,LO,LWA,HHA,HHU,HHI,HHAA,HHEE,HHE,HHO,HHWA,MA,MU,MI,MAA,MEE,ME,MO,MWA",
   "SZA,SZU,SZI,SZAA,SZEE,SZE,SZO,SZWA,RA,RU,RI,RAA,REE,RE,RO,RWA,SA,SU,SI,SAA,SEE,SE,SO,SWA,tu",
   "SHU,SHI,SHAA,SHEE,ua,SHO,SHWA,QA,QU,QI,QAA,QEE,QE,QO,QOA,QWA,124a:QWI,QWAA,QWEE,QWE,1250:QHA",
   "QHU,QHI,QHAA,QHEE,QHE,QHO,1258:QHWA,125a:QHWI,QHWAA,QHWEE,QHWE,1260:BA,BU,BI,BAA,BEE,BE,BO",
   "BWA,VA,VU,VI,VAA,VEE,VE,VO,VWA,TA,TU,TI,TAA,TEE,TE,TO,TWA,CA,CU,CI,CAA,CEE,CE,CO,CWA,XA,XU",
   "XI,XAA,XEE,XE,XO,XOA,XWA,128a:XWI,XWAA,XWEE,XWE,1290:NA,NU,NI,NAA,NEE,NE,NO,NWA,pk,NYU,NYI",
   "NYAA,NYEE,NYE,NYO,NYWA,io A,3U,I,AA,EE,E,O,WA,2KA,KU,KI,KAA,KEE,KE,KO,KOA,KWA,12b2:KWI,KWAA",
   "KWEE,KWE,12b8:KXA,KXU,KXI,KXAA,KXEE,KXE,KXO,12c0:KXWA,12c2:KXWI,KXWAA,KXWEE,KXWE,12c8:WA,WU",
   "WI,WAA,WEE,WE,WO,WOA,PHARYNGEAL A,3U,I,AA,EE,E,O,12d8:2ZA,ZU,ZI,ZAA,ZEE,ZE,ZO,ZWA,ZHA,ZHU",
   "ZHI,ZHAA,ZHEE,ZHE,ZHO,ZHWA,YA,YU,YI,YAA,YEE,YE,YO,YOA,DA,DU,DI,DAA,DEE,DE,DO,DWA,ey,DDU,DDI",
   "DDAA,DDEE,DDE,DDO,DDWA,JA,JU,JI,JAA,JEE,JE,JO,JWA,GA,GU,GI,GAA,GEE,GE,GO,GOA,GWA,1312:GWI",
   "GWAA,GWEE,GWE,1318:GGA,GGU,GGI,GGAA,GGEE,GGE,GGO,GGWAA,wr,THU,THI,THAA,THEE,ws,THO,THWA,cx",
   "CHU,dd,CHAA,CHEE,da,CHO,CHWA,qs,PHU,qt,PHAA,PHEE,PHE,PHO,PHWA,xu,TSU,TSI,TSAA,TSEE,TSE,TSO",
   "TSWA,TZA,TZU,TZI,TZAA,TZEE,TZE,TZO,TZOA,FA,FU,FI,FAA,FEE,FE,FO,FWA,PA,PU,PI,PAA,PEE,PE,PO",
   "PWA,RYA,MYA,FYA,135d:1dq ih b zc mp nm,2zc mp nm,ih nm,1tk nm,WORDSPACE,id vr,dr,tn,dp",
   "PREFACE dp,ru nm,qi tp,fm ps,2yg,v,hz,hr,uq,tr,gg,ot,1ph wp,2ye,xa,hx,hj,uu,tt,gk,ov,jx",
   "wp xc,1380:1wf SEBATBEIT MWA,2MWI,MWEE,MWE,SEBATBEIT BWA,BWI,BWEE,BWE,SEBATBEIT FWA,FWI,FWEE",
   "FWE,SEBATBEIT PWA,PWI,PWEE,PWE,1TONAL nm YIZET,3DERET,RIKRIK,uf RIKRIK,DIFAT,KENAT,CHIRET",
   "HIDET,DERET-HIDET,KURT,13a0:0CHEROKEE o A,2E,I,O,U,V,GA,KA,GE,GI,GO,GU,GV,HA,HE,HI,HO,HU,HV",
   "LA,LE,LI,LO,LU,LV,MA,ME,MI,MO,MU,NA,HNA,NAH,NE,NI,NO,NU,NV,QUA,QUE,QUI,QUO,QUU,QUV,SA,S,SE",
   "SI,SO,SU,SV,DA,TA,DE,TE,DI,TI,DO,DU,DV,DLA,TLA,TLE,TLI,TLO,TLU,TLV,xu,TSE,TSI,TSO,TSU,TSV,WA",
   "WE,WI,WO,WU,WV,YA,YE,YI,YO,YU,YV,MV,13f8:1s o YE,3YI,YO,YU,YV,MV,1400:0CANADIAN SYLLABICS jy",
   "2E,AAI,I,II,O,OO,zm OO,cr EE,3I,2A,AA,WE,zh WE,WI,zh WI,WII,zh WII,WO,zh WO,WOO,zh WOO",
   "ok WOO,WA,zh WA,WAA,zh WAA,ok WAA,AI,zm W,io vr,h ae,3ip,ce iv sq,xm iv sq,p iv sq,sq,g ae",
   "4uf x STROKES,3nu ft,uf j t,qz,fz wh,2EN,IN,ON,AN,PE,PAAI,PI,PII,PO,POO,zm POO,cr HEE,3HI",
   "2PA,PAA,PWE,zh PWE,PWI,zh PWI,PWII,zh PWII,PWO,zh PWO,PWOO,zh PWOO,PWA,zh PWA,PWAA,zh PWAA",
   "zm PWAA,P,zh P,cr H,TE,TAAI,TI,TII,TO,TOO,zm TOO,cr DEE,3DI,2TA,TAA,TWE,zh TWE,TWI,zh TWI",
   "TWII,zh TWII,yg,zh yg,TWOO,zh TWOO,TWA,zh TWA,TWAA,zh TWAA,ok TWAA,T,TTE,TTI,TTO,xx,KE,KAAI",
   "KI,KII,KO,KOO,zm KOO,KA,KAA,KWE,zh KWE,KWI,zh KWI,KWII,zh KWII,KWO,zh KWO,KWOO,zh KWOO,KWA",
   "zh KWA,KWAA,zh KWAA,ok KWAA,K,KW,SOUTH-SLAVEY KEH,3KIH,KOH,KAH,2CE,CAAI,CI,CII,CO,COO,zm COO",
   "CA,CAA,CWE,zh CWE,CWI,zh CWI,CWII,zh CWII,CWO,zh CWO,CWOO,zh CWOO,CWA,zh CWA,CWAA,zh CWAA",
   "ok CWAA,C,te TH,ME,MAAI,MI,MII,MO,MOO,zm MOO,MA,MAA,MWE,zh MWE,MWI,zh MWI,MWII,zh MWII,MWO",
   "zh MWO,MWOO,zh MWOO,MWA,zh MWA,MWAA,zh MWAA,ok MWAA,M,zh M,MH,ATHAPASCAN M,te M,NE,NAAI,NI",
   "NII,NO,NOO,zm NOO,NA,NAA,NWE,zh NWE,NWA,zh NWA,NWAA,zh NWAA,ok NWAA,N,cr NG,NH,LE,LAAI,LI",
   "LII,LO,LOO,zm LOO,LA,LAA,LWE,zh LWE,LWI,zh LWI,LWII,zh LWII,LWO,zh LWO,LWOO,zh LWOO,LWA",
   "zh LWA,LWAA,zh LWAA,L,zh L,nr L,SE,SAAI,SI,SII,SO,SOO,zm SOO,SA,SAA,SWE,zh SWE,SWI,zh SWI",
   "SWII,zh SWII,SWO,zh SWO,SWOO,zh SWOO,SWA,zh SWA,SWAA,zh SWAA,ok SWAA,S,ATHAPASCAN S,SW",
   "BLACKFOOT S,MOOSE-CREE SK,ok SKW,3S-W,SPWA,STWA,SKWA,SCWA,2ua,SHI,SHII,SHO,SHOO,tu,SHAA,SHWE",
   "zh SHWE,SHWI,zh SHWI,SHWII,zh SHWII,SHWO,zh SHWO,SHWOO,zh SHWOO,SHWA,zh SHWA,SHWAA,zh SHWAA",
   "SH,YE,YAAI,YI,YII,YO,YOO,zm YOO,YA,YAA,YWE,zh YWE,YWI,zh YWI,YWII,zh YWII,YWO,zh YWO,YWOO",
   "zh YWOO,YWA,zh YWA,YWAA,zh YWAA,ok YWAA,Y,BIBLE-CREE Y,zh Y,te YI,RE,R-CREE RE,zh LE,RAAI,RI",
   "RII,RO,ROO,zh LO,RA,RAA,zh LA,RWAA,zh RWAA,R,zh R,nr R,FE,FAAI,FI,FII,FO,FOO,FA,FAA,FWAA",
   "zh FWAA,F,ws,N-CREE ws,THI,N-CREE THI,THII,N-CREE THII,THO,THOO,wr,THAA,THWAA,zh THWAA,TH",
   "TTHE,TTHI,TTHO,xy,TTH,TYE,TYI,TYO,TYA,NUNAVIK HE,3HI,HII,HO,HOO,HA,HAA,H,2NUNAVUT H,HK,QAAI",
   "QI,QII,QO,QOO,QA,QAA,Q,TLHE,TLHI,TLHO,TLHA,zh RE,3RI,RO,RA,2NGAAI,NGI,NGII,NGO,NGOO,op,NGAA",
   "NG,NNG,te ua,3SHI,SHO,tu,2WOODS-CREE ws,3THI,THO,wr,TH,2LHI,LHII,LHO,LHOO,LHA,LHAA,LH",
   "TH-CREE ws,3THI,THII,THO,THOO,wr,THAA,TH,2AIVILIK B,BLACKFOOT E,3I,O,A,WE,WI,WO,WA,NE,NI,NO",
   "NA,KE,KI,KO,KA,2te HE,3HI,HO,HA,2cr GHU,3GHO,GHE,GHEE,GHI,ik,RU,RO,RE,REE,RI,RA,WU,WO,WE,WEE",
   "WI,WA,HWU,HWO,HWE,HWEE,HWI,HWA,THU,THO,ws,THEE,THI,wr,TTU,TTO,TTE,TTEE,TTI,xx,PU,PO,PE,PEE",
   "PI,PA,P,GU,GO,GE,GEE,GI,GA,KHU,KHO,KHE,KHEE,KHI,ls,KKU,KKO,KKE,KKEE,KKI,KKA,KK,NU,NO,NE,NEE",
   "NI,NA,MU,MO,ME,MEE,MI,MA,YU,YO,YE,YEE,YI,YA,JU,2te JU,cr JO,3JE,JEE,JI,2te JI,cr JA,3JJU,JJO",
   "JJE,JJEE,JJI,JJA,LU,LO,LE,LEE,LI,LA,DLU,DLO,DLE,DLEE,DLI,DLA,LHU,LHO,LHE,LHEE,LHI,LHA,TLHU",
   "TLHO,TLHE,TLHEE,TLHI,TLHA,TLU,TLO,TLE,TLEE,TLI,TLA,ZU,ZO,ZE,ZEE,ZI,ZA,Z,k Z,DZU,DZO,DZE,DZEE",
   "DZI,DZA,SU,SO,SE,SEE,SI,SA,SHU,SHO,ua,SHEE,SHI,tu,SH,TSU,TSO,TSE,TSEE,TSI,xu,CHU,CHO,da,CHEE",
   "dd,cx,TTSU,TTSO,TTSE,TTSEE,TTSI,TTSA,2dd r,id vr,QAI,NGAI,NNGI,NNGII,NNGO,NNGOO,NNGA,NNGAA",
   "WOODS-CREE THWEE,3THWI,THWII,THWO,THWOO,THWA,THWAA,h TH,2BLACKFOOT W,0OGHAM vc nm,1o BEITH",
   "2LUIS,FEARN,SAIL,NION,UATH,DAIR,TINNE,COLL,CEIRT,MUIN,GORT,NGEADAL,STRAIF,RUIS,AILM,ONN,UR",
   "EADHADH,IODHADH,EABHADH,OR,UILLEANN,IFIN,EAMHANCHOLL,PEITH,1FEATHER nm,sd FEATHER nm",
   "16a0:0RUNIC o FEHU FEOH FE F,2V,URUZ UR U,YR,Y,W,THURISAZ THURS THORN,ETH,ANSUZ A,OS O,AC A",
   "AESC,LONG-BRANCH-OSS O,SHORT-TWIG-OSS O,O,OE,ON,RAIDO RAD REID R,KAUNA,CEN,KAUN K,G,ENG",
   "GEBO GYFU G,ig,WUNJO WYNN W,HAGLAZ H,HAEGL H,LONG-BRANCH-HAGALL H,SHORT-TWIG-HAGALL H",
   "NAUDIZ NYD NAUD N,SHORT-TWIG-NAUD N,DOTTED-N,ISAZ IS ISS I,E,JERAN J,GER,LONG-BRANCH-AR AE",
   "SHORT-TWIG-AR A,IWAZ EOH,PERTHO PEORTH P,ALGIZ EOLHX,SOWILO S,SIGEL LONG-BRANCH-SOL S",
   "SHORT-TWIG-SOL S,C,Z,TIWAZ TIR TYR T,SHORT-TWIG-TYR T,D,BERKANAN BEORC BJARKAN B",
   "SHORT-TWIG-BJARKAN B,DOTTED-P,OPEN-P,EHWAZ EH E,MANNAZ MAN M,LONG-BRANCH-MADR M",
   "SHORT-TWIG-MADR M,LAUKAZ LAGU LOGR L,DOTTED-L,INGWAZ,ING,DAGAZ DAEG D,OTHALAN ETHEL O,EAR",
   "IOR,CWEORTH,CALC,CEALC,STAN,LONG-BRANCH-YR,SHORT-TWIG-YR,ICELANDIC-YR,Q,X,1uo rm,og rm,ef rm",
   "ARLAUG u,TVIMADUR u,BELGTHOR u,o K,2SH,OO,FRANKS CASKET OS,4IS,EH,AC,AESC,1700:0TAGALOG o A",
   "2I,U,KA,GA,op,TA,DA,NA,PA,BA,MA,YA,RA,LA,WA,SA,HA,1zc r I,3U,1r yx,2PAMUDPOD,171f:1o az RA",
   "0HANUNOO o A,2I,U,KA,GA,op,TA,DA,NA,PA,BA,MA,YA,RA,LA,WA,SA,HA,1zc r I,3U,1r PAMUDPOD",
   "0PHILIPPINE uo rm,1g rm,1740:0BUHID o A,2I,U,KA,GA,op,TA,DA,NA,PA,BA,MA,YA,RA,LA,WA,SA,HA",
   "1zc r I,3U,1760:0TAGBANWA o A,2I,U,KA,GA,op,TA,DA,NA,PA,BA,MA,YA,176e:LA,WA,SA,1772:1zc r I",
   "3U,1780:0KHMER o KA,2ls,KO,KHO,NGO,CA,cx,CO,CHO,NYO,DA,xy,DO,TTHO,NNO,TA,wr,TO,THO,NO,BA,qs",
   "PO,PHO,MO,YO,RO,LO,VO,tu,SSO,SA,HA,LA,QA,1kg zc QAQ,3QAA,QI,QII,QU,QUK,QUU,QUUV,RY,RYY,LY",
   "LYY,QE,QAI,QOO TYPE ps,5yg,3QAU,1zc INHERENT AQ,3AA,2r AA,3I,II,Y,YY,U,UU,UA,OE,YA,IE,E,AE",
   "AI,OO,AU,1r NIKAHIT,2REAHMUK,YUUKALEAPINTU,MUUSIKATOAN,TRIISAP,BANTOC,ROBAT,TOANDAKHIAT",
   "KAKABAT,AHSDA,SAMYOK SANNYA,VIRIAM,COENG,BATHAMASAT,KHAN,BARIYOOSAN,CAMNUC PII KUUH,LEK TOO",
   "BEYYAL,PHNAEK MUAN,KOOMUUT,1em u RIEL,r AVAKRAHASANYA,2ATTHACAN,17e0:1fm zx,2ps,yg,v,hz,hr",
   "uq,tr,gg,ot,17f0:1u LEK ATTAK SON,4MUOY,PII,BEI,BUON,PRAM,PRAM-MUOY,PRAM-PII,PRAM-BEI",
   "PRAM-BUON,1800:0MONGOLIAN bz,1go,dr,id vr,dp,hz fv,TODO uy jy,SIBE wf BOUNDARY nn,MANCHU dr",
   "2id vr,1NIRUGU,FREE yu SELECTOR ps,4yg,v,1zc tp,FREE yu SELECTOR hz,fm zx,2ps,yg,v,hz,hr,uq",
   "tr,gg,ot,1820:1o A,2E,I,O,U,OE,UE,EE,NA,ANG,BA,PA,QA,GA,MA,LA,SA,tu,TA,DA,cx,JA,YA,RA,WA,FA",
   "KA,ls,xu,ZA,HAA,ZRA,LHA,ZHI,dd,TODO na zc r,3E,I,O,U,OE,UE,ANG,BA,PA,QA,GA,MA,TA,DA,cx,JA,xu",
   "YA,WA,KA,GAA,HAA,JIA,NIA,DZA,2SIBE E,3I,IY,UE,U,ANG,KA,GA,HA,PA,tu,TA,DA,JA,FA,GAA,HAA,xu,ZA",
   "RAA,cx,ZHA,2MANCHU I,3KA,RA,FA,ZHA,2cx z yg fv,1880:ALI GALI at ps,4yy ps,DAMARU,UBADAMA",
   "kr UBADAMA,BALUDA,v BALUDA,A,I,KA,op,CA,xx,xy,ey,ow,TA,DA,PA,qs,vj,ZHA,ZA,AH",
   "2TODO ALI GALI TA,5ZHA,2MANCHU ALI GALI ik,5op,CA,lb,xx,ez,TA,fd,vj,CYA,ZHA,ZA",
   "2ALI GALI iv U,5YA,2MANCHU ALI GALI by,ALI GALI DAGALGA,MANCHU ALI GALI LHA",
   "18b0:0CANADIAN SYLLABICS OY,2AY,AAY,WAY,POY,PAY,PWOY,TAY,KAY,KWAY,MAY,NOY,NAY,LAY,SOY,SAY",
   "SHOY,SHAY,SHWOY,YOY,YAY,RAY,NWI,OJIBWAY NWI,NWII,OJIBWAY NWII,NWO,OJIBWAY NWO,NWOO",
   "OJIBWAY NWOO,RWEE,RWI,RWII,RWO,RWOO,RWA,OJIBWAY P,3T,K,C,M,N,S,SH,2EASTERN W,WESTERN W",
   "h s sq,3rw ft,2R-CREE RWE,zh LOO,3LAA,2THWE,THWA,TTHWE,TTHOO,TTHAA,TLHWE,TLHOO,te SHWE,3SHOO",
   "HOO,2cr GWU,3DENE GEE,GAA,GWA,2te JUU,cr JWA,BEAVER DENE L,4R,2cr DENTAL S",
   "1900:0LIMBU VOWEL-CARRIER o,1o KA,2ls,GA,ik,op,CA,cx,JA,lb,YAN,TA,wr,DA,fd,NA,PA,qs,BA,by,MA",
   "YA,RA,LA,WA,tu,vj,SA,HA,GYAN,TRA,1920:1zc r A,3I,U,EE,AI,OO,AU,E,O,1vu o YA,3RA,WA",
   "1930:1s o KA,3op,at,TA,NA,PA,MA,RA,LA,1r MUKPHRENG,2KEMPHRENG,SA-I,1940:LOO,1944:1gx nm",
   "ru nm,fm zx,2ps,yg,v,hz,hr,uq,tr,gg,ot,0TAI LE o KA,3XA,op,xu,SA,YA,TA,wr,LA,PA,qs,MA,FA,VA",
   "HA,QA,ls,xv,NA,A,I,EE,EH,U,OO,O,UE,E,AUE,AI,1970:TONE-2*4,1980:0NEW TAI LUE o jp QA,4nd QA",
   "jp KA,5XA,op,4nd KA,5XA,op,4jp xu,5SA,YA,4nd xu,5SA,YA,4jp TA,5wr,NA,4nd TA,5wr,NA,4jp PA",
   "5qs,MA,4nd PA,5qs,MA,4jp FA,5VA,LA,4nd FA,5VA,LA,4jp HA,5DA,BA,4nd HA,5DA,BA,4jp KVA,5XVA",
   "4nd KVA,5XVA,4jp SUA,nd SUA,19b0:3zc r zc SHORTENER,5AA,II,U,UU,E,AE,O,OA,UE,AY,AAY,UY,OY",
   "OAY,UEY,IY,3o h V,5NG,N,M,K,D,B,3xj MARK-1*1,19d0:fm zx,4ps,yg,v,hz,hr,uq,tr,gg,ot",
   "3THAM fm ps,19de:r LAE,4LAEV,0KHMER u PATHAMASAT,2MUOY ma,PII ma,BEI ma,BUON ma,PRAM ma",
   "PRAM-MUOY ma,PRAM-PII ma,PRAM-BEI ma,PRAM-BUON ma,DAP ma,DAP-MUOY ma,DAP-PII ma,DAP-BEI ma",
   "DAP-BUON ma,DAP-PRAM ma,TUTEYASAT,MUOY ROC,PII ROC,BEI ROC,BUON ROC,PRAM ROC,PRAM-MUOY ROC",
   "PRAM-PII ROC,PRAM-BEI ROC,PRAM-BUON ROC,DAP ROC,DAP-MUOY ROC,DAP-PII ROC,DAP-BEI ROC",
   "DAP-BUON ROC,DAP-PRAM ROC,0BUGINESE o KA,2GA,op,NGKA,PA,BA,MA,MPA,TA,DA,NA,NRA,CA,JA,pk,NYCA",
   "YA,RA,LA,VA,SA,A,HA,1zc r I,3U,E,O,AE,1a1e:1PALLAWA,gp OF tk,0TAI THAM o jp KA,4ls,KXA",
   "3nd KA,4KXA,ls,3op,jp CA,4cx,3nd CA,4SA,cx,3pk,RATA,jp RATHA,DA,nd RATHA,RANA,jp TA,4wr",
   "3nd TA,4wr,3NA,BA,jp PA,4qs,FA,3nd PA,4FA,qs,3MA,nd YA,jp YA,RA,RUE,LA,LUE,WA,jp tu,4vj,SA",
   "HA,3mx,A,nd HA,I,II,U,UU,EE,OO,LAE,GREAT SA,2dv r nr RA,5LA,4LA TANG LAI,2r MAI KANG LAI",
   "dv r h op,4nd PA,jp RATHA OR nd PA,MA,BA,SA,1a60:2r SAKOT,zc r A,4MAI SAT,AA,TALL AA,I,II,UE",
   "UUE,U,UU,O,OA d,OY,E,AE,OO,AI,THAM AI,OA a,2r MAI KANG,3TONE-1*1,KHUEN TONE-3*2,RA HAAM",
   "MAI SAM,KHUEN-LUE KARAN,1a7f:2dq ej ft,HORA fm zx,4ps,yg,v,hz,hr,uq,tr,gg,ot",
   "1a90:2THAM fm zx,4ps,yg,v,hz,hr,uq,tr,gg,ot,1aa0:2r WIANG,3WIANGWAAK,SAWAN,KEOW,HOY,DOKMAI",
   "sd st RANA,MAI YAMOK,KAAN,KAANKUU,SATKAAN,SATKAANKUU,HANG,CAANG,1ab0:0dq DOUBLED dk ac",
   "1DIAERESIS-RING,kj,gb c,xt ft,X-X d,WIGGLY mv d,pu nm d,g pu nm d,mu cu t d,STRONG cu t d",
   "PARENTHESES a,g PARENTHESES a,PARENTHESES d,2qd,1mj s o W d,4ya W d,1m qk a m,p qk a p",
   "m qk d m,p qk d p,vh BRACKETS a,ph r a,kr g ARCH a,qz r a,g qz r a,4d,1xt ae ac,mj s o km G",
   "5R,T,1b00:0BALINESE r ULU RICEM,3cn,2CECEK,SURANG,BISAH,1o AKARA,3wn,2IKARA,3wn,2UKARA,3wn",
   "2RA REPA,4wn,2LA LENGA,4wn,2EKARA,AIKARA,OKARA,3wn,2KA,3nk,2GA,3GORA,2op,CA,3LACA,2JA,3JERA",
   "2pk,TA LATIK,3oi nk,2DA oi ALPAPRANA,4nk,2NA RAMBAT,TA,3TAWA,2DA,3MADU,2NA,PA,3KAPAL,2BA",
   "3KEMBANG,2MA,YA,RA,LA,WA,SA SAGA,3SAPA,3,2HA,1r REREKAN,zc r wn,3ULU,4SARI,3SUKU,4ILUT",
   "3RA REPA,5wn,3LA LENGA,5wn,3TALING,4REPA,wn,REPA wn,3PEPET,4wn,1ADEG ADEG,o le SASAK",
   "2KHOT SASAK,TZIR SASAK,EF SASAK,VE SASAK,ZAL SASAK,ASYURA SASAK,az JNYA,1b50:1fm zx,2ps,yg,v",
   "hz,hr,uq,tr,gg,ot,1PANTI,PAMADA,WINDU,CARIK PAMUNGKAH,2SIKI,PAREREN,1PAMENENG,oj u DONG",
   "3DENG,DUNG,DANG,4SURANG,3DING,DAENG,DEUNG,DAING,DANG GEDE,dq TEGEH,4ENDEP,KEMPUL,KEMPLI",
   "JEGOGAN,KEMPUL z JEGOGAN,KEMPLI z JEGOGAN,BENDE,GONG,3RIGHT-HAND pu DUG,5DAG,4dn TUK,5TAK",
   "3LEFT-HAND pu PANG,5PUNG,4dn PLAK,5PLUK,4pu PING,1PANTI LANTANG,PAMADA LANTANG",
   "1b80:0SUNDANESE r PANYECEK,2PANGLAYAR,PANGWISAD,1o A,2I,U,AE,O,E,EU,KA,QA,GA,op,CA,JA,ZA,pk",
   "TA,DA,NA,PA,FA,VA,BA,MA,YA,RA,LA,WA,SA,XA,HA,1dv r PAMINGKAL,3PANYAKRA,PANYIKU",
   "1zc r PANGHULU,3PANYUKU,PANAELAENG,PANOLONG,PAMEPET,PANEULEUNG,1r PAMAAEH,2yx",
   "1dv r PASANGAN MA,4WA,1o ls,2SYA,1fm zx,2ps,yg,v,hz,hr,uq,tr,gg,ot,1bj,o REU,2LEU,by,h K,3M",
   "0BATAK o A,2ul A,HA,ul HA,MANDAILING HA,BA,KARO BA,PA,ul PA,NA,MANDAILING NA,WA,ul WA",
   "PAKPAK WA,GA,ul GA,JA,DA,RA,ul RA,MA,ul MA,SOUTHERN TA,NORTHERN TA,SA,ul SA,MANDAILING SA,YA",
   "ul YA,op,LA,ul LA,pk,CA,NDA,MBA,I,U,1r TOMPI,zc r E,3PAKPAK E,EE,I,KARO I,O,KARO O,U",
   "4hw ul SA,1dv r NG,3H,1PANGOLAT,PANONGONAN,1bfc:u BINDU NA METEK,3PINARBORAS,JUDUL,PANGOLAT",
   "0LEPCHA o KA,2KLA,ls,GA,GLA,op,CA,cx,JA,pk,TA,wr,DA,NA,PA,PLA,qs,FA,FLA,BA,BLA,MA,MLA,xu,xv",
   "DZA,YA,RA,LA,HA,HLA,VA,SA,tu,WA,A,1vu o YA,3RA,1zc r AA,3I,O,OO,U,UU,E,1dv r K,3M,L,N,P,R,T",
   "NYIN-DO,KANG,1r RAN,2pg,1c3b:1rm TA-ROL,2NYET THYOOM TA-ROL,CER-WA,TSHOOK CER-WA,3,1fm zx",
   "2ps,yg,v,hz,hr,uq,tr,gg,ot,1c4d:1o xx,2xy,ey,0OL CHIKI fm zx,3ps,yg,v,hz,hr,uq,tr,gg,ot",
   "2o LA,3AT,AG,ANG,AL,LAA,AAK,AAJ,AAM,AAW,LI,IS,IH,INY,IR,LU,UC,UD,UNN,UY,LE,EP,EDD,EN,ERR,LO",
   "OTT,OB,OV,OH,2MU TTUDDAG,GAAHLAA TTUDDAAG,MU-GAAHLAA TTUDDAAG,RELAA,PHAARKAA,AHAD,rm MUCAAD",
   "3g MUCAAD,0ep s o sx VE,3LONG-LEGGED DE,NARROW O,WIDE ES,TALL TE,THREE-LEGGED TE,TALL HARD r",
   "4YAT,3UNBLENDED UK,1c90:0ii MTAVRULI f o AN,4BAN,GAN,DON,EN,VIN,ZEN,TAN,IN,KAN,LAS,MAN,NAR",
   "ON,PAR,ZHAR,RAE,SAN,TAR,UN,PHAR,KHAR,GHAN,QAR,ue,CHIN,CAN,JIL,CIL,CHAR,XAN,JHAN,HAE,HE,HIE",
   "WE,HAR,HOE,FI,YN,ELIFI,ya GAN,af,1cbd:AEN,HARD r,LABIAL r,0SUNDANESE rm BINDU SURYA",
   "3PANGLONG,PURNAMA,CAKRA,LEU SATANGA,KA SATANGA,DA SATANGA,BA SATANGA,1cd0:0VEDIC xj KARSHANA",
   "2SHARA,PRENKHA,1r NIHSHVASA,2YAJURVEDIC MIDLINE wd,1xj YAJURVEDIC AGGRAVATED kg wd,3kg wd",
   "KATHAKA kg wd,2cn d,YAJURVEDIC KATHAKA kg wd SCHROEDER,g wd,xt wd,KATHAKA as,ft d,yg fv d",
   "v fv d,RIGVEDIC KASHMIRI kg wd,ATHARVAVEDIC kg wd,1r yy wd,3UDATTA,2sd yy UDATTA,yy as",
   "sd yy as,yy UDATTA z wj,3as z wj,2at ANTARGOMUKHA,3BAHIRGOMUKHA,VAMAGOMUKHA,4z wj,2TIRYAK",
   "HEXIFORM na at,na at,RTHANG na at,at UBHAYATO MUKHA,ARDHAVISARGA,st ARDHAVISARGA,1xj cn a",
   "r lc,2yo,ATIKRAMA,1xj sq a,2g sq a,1r g at ANTARGOMUKHA,1d00:0mj o s f A,4AE,1s o ya AE",
   "o s f bs B,4C,D,ETH,E,1s o ya pu E,4I,1o s f J,4K,L z t,M,sd N,O,pu O,1s o ui O,4pu O,O z t",
   "3ya OE,1o s f OU,s o xm iv O,3ce iv O,1o s f P,4sd R,ya R,T,U,1s o ui U,4DIAERESIZED U,ya M",
   "1o s f V,4W,Z,EZH,2za LARYNGEAL SPIRANT,af,0ir o s f ie,4mf,PI,se,PSI,0ep o s f EL,ny o f A",
   "3AE,B,bs B,D,E,sd E,G,H,I,J,K,L,M,N,sd N,O,OU,P,R,T,U,W,2s A,3ya A,al,ya AE,B,D,E,tf,pu E",
   "ya pu E,G,ya I,K,M,ENG,O,pu O,xm iv O,ce iv O,P,T,U,ui U,ya M,V,af,bv,ir ie,fb,ir qt,dd",
   "0mj vw s o I,4R,U,V,0ir vw s o bv,4ie,se,qt,dd,0mj s o UE,3B z nu xh,D z nu xh,F z nu xh",
   "M z nu xh,N z nu xh,P z nu xh,R z nu xh,5hq b nu xh,3S z nu xh,T z nu xh,Z z nu xh,ya G",
   "0ny o ep EN,mj s o km G,3TH z STRIKETHROUGH,2f o I z t,o ks z t,3P z t,2f o U z t,o yq z t",
   "3B z qh ju,D z qh ju,F z qh ju,G z qh ju,K z qh ju,L z qh ju,M z qh ju,N z qh ju,P z qh ju",
   "R z qh ju,S z qh ju,ESH z qh ju,V z qh ju,X z qh ju,Z z qh ju,A z sb ju,al z sb ju",
   "D z ju b wj,E z sb ju,pu E z sb ju,sd pu E z sb ju,tf z sb ju,I z sb ju,pu O z sb ju",
   "ESH z sb ju,U z sb ju,EZH z sb ju,0ny o s ya al,3C,4z ek,3ETH,sd pu E,F,fu J z t,th G,ya H",
   "I z t,ks,f I,5z t,3J z eh,L z sb ju,5qh ju,3f L,M z ju,ya M z na LEG,N z m ju,5sb ju,3f N",
   "bs O,qt,S z ju,ESH,T z qh ju,U bp,yq,f U,V z ju,ya V,Z,4z sb ju,5ek,3EZH,wv,0dq fw ip ac",
   "2ae ac,1SNAKE d,SUSPENSION nm,MACRON-ACUTE,GRAVE-MACRON,MACRON-GRAVE,ACUTE-MACRON",
   "GRAVE-ACUTE-GRAVE,ACUTE-GRAVE-ACUTE,mj s o R d,BREVE-MACRON,MACRON-BREVE,g dk a,pn a,zz d",
   "IS d,UR a,US a,mj s o FLATTENED pu A a,4AE,AO,AV,C cs,km D,ETH,G,2o s f G,s o K,4L,2o s f L",
   "5M,2s o N,o s f N,5R,2s o R ROTUNDA,4S,na S,Z,al,B,bv,tf,F,L z g nu xh,O z mu cu t,P,ESH",
   "U z mu cu t,W,A z fe,O z fe,U z fe,1UP wh a,KAVYKA a p,3m,1ft a m,WIDE kr BRIDGE d,ft d m",
   "DELETION nm,g kr ch d,aj gs TO d,m bd a,p bd b fz bd d,0mj f o A z sq d,1s o A z sq d",
   "f o B z ft a,s o B z ft a,f o B z ft d,s o B z ft d,f o B z mv d,s o B z mv d",
   "f o C z cs b ae,s o C z cs b ae,f o D z ft a,s o D z ft a,f o D z ft d,s o D z ft d",
   "f o D z mv d,s o D z mv d,f o D z cs,s o D z cs,f o D z dk d,s o D z dk d,f o E z nh b ip",
   "s o E z nh b ip,f o E z nh b ae,s o E z nh b ae,f o E z dk d,s o E z dk d,f o E z xh d",
   "s o E z xh d,f o E z cs b ch,s o E z cs b ch,f o F z ft a,s o F z ft a,f o G z nh,s o G z nh",
   "f o H z ft a,s o H z ft a,f o H z ft d,s o H z ft d,f o H z fe,s o H z fe,f o H z cs",
   "s o H z cs,f o H z ch d,s o H z ch d,f o I z xh d,s o I z xh d,f o I z fe b ae",
   "s o I z fe b ae,f o K z ae,s o K z ae,f o K z ft d,s o K z ft d,f o K z mv d,s o K z mv d",
   "f o L z ft d,s o L z ft d,f o L z ft d b nh,s o L z ft d b nh,f o L z mv d,s o L z mv d",
   "f o L z dk d,s o L z dk d,f o M z ae,s o M z ae,f o M z ft a,s o M z ft a,f o M z ft d",
   "s o M z ft d,f o N z ft a,s o N z ft a,f o N z ft d,s o N z ft d,f o N z mv d,s o N z mv d",
   "f o N z dk d,s o N z dk d,f o O z xh b ae,s o O z xh b ae,f o O z xh b fe,s o O z xh b fe",
   "f o O z nh b ip,s o O z nh b ip,f o O z nh b ae,s o O z nh b ae,f o P z ae,s o P z ae",
   "f o P z ft a,s o P z ft a,f o R z ft a,s o R z ft a,f o R z ft d,s o R z ft d",
   "f o R z ft d b nh,s o R z ft d b nh,f o R z mv d,s o R z mv d,f o S z ft a,s o S z ft a",
   "f o S z ft d,s o S z ft d,f o S z ae b ft a,s o S z ae b ft a,f o S z cq b ft a",
   "s o S z cq b ft a,f o S z ft d b ft a,s o S z ft d b ft a,f o T z ft a,s o T z ft a",
   "f o T z ft d,s o T z ft d,f o T z mv d,s o T z mv d,f o T z dk d,s o T z dk d,f o U z fe d",
   "s o U z fe d,f o U z xh d,s o U z xh d,f o U z dk d,s o U z dk d,f o U z xh b ae",
   "s o U z xh b ae,f o U z nh b fe,s o U z nh b fe,f o V z xh,s o V z xh,f o V z ft d",
   "s o V z ft d,f o W z ip,s o W z ip,f o W z ae,s o W z ae,f o W z fe,s o W z fe,f o W z ft a",
   "s o W z ft a,f o W z ft d,s o W z ft d,f o X z ft a,s o X z ft a,f o X z fe,s o X z fe",
   "f o Y z ft a,s o Y z ft a,f o Z z dk,s o Z z dk,f o Z z ft d,s o Z z ft d,f o Z z mv d",
   "s o Z z mv d,3H z mv d,T z fe,W z sq a,Y z sq a,A z p iv sq,na S z ft a,6ff t,jp t",
   "1f o SHARP S,s o fb,f o A z ft d,s o A z ft d,f o A z ju a,s o A z ju a,f o A z dk b ae",
   "s o A z dk b ae,f o A z dk b ip,s o A z dk b ip,f o A z dk b ju a,s o A z dk b ju a",
   "f o A z dk b xh,s o A z dk b xh,f o A z dk b ft d,s o A z dk b ft d,f o A z ch b ae",
   "s o A z ch b ae,f o A z ch b ip,s o A z ch b ip,f o A z ch b ju a,s o A z ch b ju a",
   "f o A z ch b xh,s o A z ch b xh,f o A z ch b ft d,s o A z ch b ft d,f o E z ft d",
   "s o E z ft d,f o E z ju a,s o E z ju a,f o E z xh,s o E z xh,f o E z dk b ae,s o E z dk b ae",
   "f o E z dk b ip,s o E z dk b ip,f o E z dk b ju a,s o E z dk b ju a,f o E z dk b xh",
   "s o E z dk b xh,f o E z dk b ft d,s o E z dk b ft d,f o I z ju a,s o I z ju a,f o I z ft d",
   "s o I z ft d,f o O z ft d,s o O z ft d,f o O z ju a,s o O z ju a,f o O z dk b ae",
   "s o O z dk b ae,f o O z dk b ip,s o O z dk b ip,f o O z dk b ju a,s o O z dk b ju a",
   "f o O z dk b xh,s o O z dk b xh,f o O z dk b ft d,s o O z dk b ft d,f o O z jv b ae",
   "s o O z jv b ae,f o O z jv b ip,s o O z jv b ip,f o O z jv b ju a,s o O z jv b ju a",
   "f o O z jv b xh,s o O z jv b xh,f o O z jv b ft d,s o O z jv b ft d,f o U z ft d",
   "s o U z ft d,f o U z ju a,s o U z ju a,f o U z jv b ae,s o U z jv b ae,f o U z jv b ip",
   "s o U z jv b ip,f o U z jv b ju a,s o U z jv b ju a,f o U z jv b xh,s o U z jv b xh",
   "f o U z jv b ft d,s o U z jv b ft d,f o Y z ip,s o Y z ip,f o Y z ft d,s o Y z ft d",
   "f o Y z ju a,s o Y z ju a,f o Y z xh,s o Y z xh,f o nv LL,s o nv LL,f o nv V,s o nv V",
   "f o Y z nc,s o Y z nc,0ir s o al z rl,5ex,rl b ys,ex b ys,rl b qf,ex b qf,rl b qp,ex b qp",
   "1f o al z rl,5ex,rl b ys,ex b ys,rl b qf,ex b qf,rl b qp,ex b qp,1s o gr z rl,5ex,rl b ys",
   "ex b ys,rl b qf,ex b qf,1f18:1f o gr z rl,5ex,rl b ys,ex b ys,rl b qf,ex b qf",
   "1f20:1s o ETA z rl,5ex,rl b ys,ex b ys,rl b qf,ex b qf,rl b qp,ex b qp,1f o ETA z rl,5ex",
   "rl b ys,ex b ys,rl b qf,ex b qf,rl b qp,ex b qp,1s o ks z rl,5ex,rl b ys,ex b ys,rl b qf",
   "ex b qf,rl b qp,ex b qp,1f o ks z rl,5ex,rl b ys,ex b ys,rl b qf,ex b qf,rl b qp,ex b qp",
   "1s o pq z rl,5ex,rl b ys,ex b ys,rl b qf,ex b qf,1f48:1f o pq z rl,5ex,rl b ys,ex b ys",
   "rl b qf,ex b qf,1f50:1s o yq z rl,5ex,rl b ys,ex b ys,rl b qf,ex b qf,rl b qp,ex b qp",
   "1f59:1f o yq z ex,1f5b:6b ys,1f5d:7qf,1f5f:qp,1s o pp z rl,5ex,rl b ys,ex b ys,rl b qf",
   "ex b qf,rl b qp,ex b qp,1f o pp z rl,5ex,rl b ys,ex b ys,rl b qf,ex b qf,rl b qp,ex b qp",
   "1s o al z ys,5qf,3gr z ys,5qf,3ETA z ys,5qf,3ks z ys,5qf,3pq z ys,5qf,3yq z ys,5qf,3pp z ys",
   "5qf,1f80:3al z rl b zr,5ex b zr,rl b ys b zr,ex b ys b zr,rl b qf b zr,ex b qf b zr",
   "rl b qp b zr,ex b qp b zr,1f o al z rl b rk,5ex b rk,rl b ys b rk,ex b ys b rk,rl b qf b rk",
   "ex b qf b rk,rl b qp b rk,ex b qp b rk,1s o ETA z rl b zr,5ex b zr,rl b ys b zr,ex b ys b zr",
   "rl b qf b zr,ex b qf b zr,rl b qp b zr,ex b qp b zr,1f o ETA z rl b rk,5ex b rk,rl b ys b rk",
   "ex b ys b rk,rl b qf b rk,ex b qf b rk,rl b qp b rk,ex b qp b rk,1s o pp z rl b zr,5ex b zr",
   "rl b ys b zr,ex b ys b zr,rl b qf b zr,ex b qf b zr,rl b qp b zr,ex b qp b zr",
   "1f o pp z rl b rk,5ex b rk,rl b ys b rk,ex b ys b rk,rl b qf b rk,ex b qf b rk,rl b qp b rk",
   "ex b qp b rk,1s o al z VRACHY,5nh,ys b zr,zr,qf b zr,1fb6:qp,6b zr,1f o al z VRACHY,5nh,ys",
   "qf,rk,1KORONIS,rk,rl,qp,fh b qp,s o ETA z ys b zr,5zr,qf b zr,1fc6:qp,6b zr,1f o gr z ys,5qf",
   "3ETA z ys,5qf,rk,1rl b ys,3qf,qp,1s o ks z VRACHY,5nh,fh b ys,7qf,1fd6:5qp,fh b qp",
   "1f o ks z VRACHY,5nh,ys,qf,1fdd:1ex b ys,3qf,qp,1s o yq z VRACHY,5nh,fh b ys,7qf,3se z rl",
   "5ex,3yq z qp,5fh b qp,1f o yq z VRACHY,5nh,ys,qf,3se z ex,1fh b ys,3qf,1ys",
   "1ff2:s o pp z ys b zr,5zr,qf b zr,1ff6:qp,6b zr,1f o pq z ys,5qf,3pp z ys,5qf,rk,1qf,ex"]

end LineScript.Text.Name
