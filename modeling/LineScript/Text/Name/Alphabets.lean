/-!
# Alphabets

The names of the characters of the alphabets of Europe and the Near East, with their punctuation: the
code points up to 7FF.
-/

namespace LineScript.Text.Name

/-- The names in the order of their code points; `Reading.entry` says how they are written. -/
def alphabets : List String :=
  ["20:vc,gx nm,rv nm,ph r,fs r,PERCENT r,ao,au,m qk,p qk,bh,qz r,dr,jz,id vr,uz,fm zx,1ps,yg,v",
   "hz,hr,uq,tr,gg,ot,0dp,tn,ms r,gt r,iq r,ru nm,ds AT,mj f o A,3B,C,D,E,F,G,H,I,J,K,L,M,N,O,P",
   "Q,R,S,T,U,V,W,X,Y,Z,0m vh cg,sc uz,p vh cg,dk ac,nd mv,ip ac,mj s o A,3B,C,D,E,F,G,H,I,J,K,L",
   "M,N,O,P,Q,R,S,T,U,V,W,X,Y,Z,0m el cg,x mv,p el cg,xh,a0:NO-BREAK vc,kr gx nm,CENT r,POUND r",
   "em r,YEN r,BROKEN bp,tk r,fe,COPYRIGHT r,FEMININE ORDINAL ki,mm g ap rv nm,pa r,uy jy",
   "REGISTERED r,nh,DEGREE r,PLUS-MINUS r,wb yg,1v,0ae ac,MICRO r,PILCROW r,nu ft,cs,wb ps",
   "MASCULINE ORDINAL ki,sn g ap rv nm,VULGAR ib ps rr,3iv,2v rs,0kr ru nm,mj f o A z ip,5ae,dk",
   "xh,fe,sq a,3AE,C z cs,E z ip,5ae,dk,fe,3I z ip,5ae,dk,fe,3ETH,N z xh,O z ip,5ae,dk,xh,fe",
   "0oh r,mj f o O z t,3U z ip,5ae,dk,fe,3Y z ae,THORN,1s o SHARP S,3A z ip,5ae,dk,xh,fe,sq a",
   "3AE,C z cs,E z ip,5ae,dk,fe,3I z ip,5ae,dk,fe,3ETH,N z xh,O z ip,5ae,dk,xh,fe,0fq r",
   "mj s o O z t,3U z ip,5ae,dk,fe,3Y z ae,THORN,Y z fe,1f o A z nh,s o A z nh,f o A z ch",
   "s o A z ch,f o A z pn,s o A z pn,f o C z ae,s o C z ae,f o C z dk,s o C z dk,f o C z ft a",
   "s o C z ft a,f o C z cq,s o C z cq,f o D z cq,s o D z cq,f o D z t,s o D z t,f o E z nh",
   "s o E z nh,f o E z ch,s o E z ch,f o E z ft a,s o E z ft a,f o E z pn,s o E z pn,f o E z cq",
   "s o E z cq,f o G z dk,s o G z dk,f o G z ch,s o G z ch,f o G z ft a,s o G z ft a,f o G z cs",
   "s o G z cs,f o H z dk,s o H z dk,f o H z t,s o H z t,f o I z xh,s o I z xh,f o I z nh",
   "s o I z nh,f o I z ch,s o I z ch,f o I z pn,s o I z pn,f o I z ft a,s o fu I,f mt IJ,s mt IJ",
   "f o J z dk,s o J z dk,f o K z cs,s o K z cs,3KRA,1f o L z ae,s o L z ae,f o L z cs",
   "s o L z cs,f o L z cq,s o L z cq,f o L z nu ft,s o L z nu ft,f o L z t,s o L z t,f o N z ae",
   "s o N z ae,f o N z cs,s o N z cs,f o N z cq,s o N z cq,4PRECEDED BY au,1f o ENG,s o ENG",
   "f o O z nh,s o O z nh,f o O z ch,s o O z ch,f o O z g ae,s o O z g ae,f mt OE,s mt OE",
   "f o R z ae,s o R z ae,f o R z cs,s o R z cs,f o R z cq,s o R z cq,f o S z ae,s o S z ae",
   "f o S z dk,s o S z dk,f o S z cs,s o S z cs,f o S z cq,s o S z cq,f o T z cs,s o T z cs",
   "f o T z cq,s o T z cq,f o T z t,s o T z t,f o U z xh,s o U z xh,f o U z nh,s o U z nh",
   "f o U z ch,s o U z ch,f o U z sq a,s o U z sq a,f o U z g ae,s o U z g ae,f o U z pn",
   "s o U z pn,f o W z dk,s o W z dk,f o Y z dk,s o Y z dk,f o Y z fe,3Z z ae,1s o Z z ae",
   "f o Z z ft a,s o Z z ft a,f o Z z cq,s o Z z cq,3na S,B z t,1f o B z ju,5TOPBAR",
   "1s o B z TOPBAR,f o xj uq,s o xj uq,f o pu O,3C z ju,1s o C z ju,f o AFRICAN D,3D z ju",
   "5TOPBAR,1s o D z TOPBAR,3ya fb,1f o sd E,3tf,pu E,F z ju,1s o F z ju,f o G z ju,3ie,1s o HV",
   "f o ks,3I z t,K z ju,1s o K z ju,3L z bp,LAMBDA z t,1f o ya M,3N z m ju,1s o N z na p LEG",
   "f o O z nu xh,5jv,1s o O z jv,f o OI,s o OI,f o P z ju,s o P z ju,o YR,f o xj yg,s o xj yg",
   "f o ESH,o sd ESH nc,s o T z qh ju,f o T z ju,s o T z ju,f o T z sb ju,3U z jv,1s o U z jv",
   "f o yq,3V z ju,Y z ju,1s o Y z ju,f o Z z t,s o Z z t,f o EZH,4sd,1s o EZH sd,4z wj",
   "1o yg z t,f o xj hr,s o xj hr,o kr io vr z t,2WYNN,DENTAL dl,LATERAL dl,ALVEOLAR dl,sb dl",
   "1f o DZ z cq,3D z s o Z z cq,1s o DZ z cq,f o LJ,3L z s o J,1s o LJ,f o NJ,3N z s o J",
   "1s o NJ,f o A z cq,s o A z cq,f o I z cq,s o I z cq,f o O z cq,s o O z cq,f o U z cq",
   "s o U z cq,f o U z fe b nh,s o U z fe b nh,f o U z fe b ae,s o U z fe b ae,f o U z fe b cq",
   "s o U z fe b cq,f o U z fe b ip,s o U z fe b ip,3ya E,1f o A z fe b nh,s o A z fe b nh",
   "f o A z ft a b nh,s o A z ft a b nh,f o AE z nh,s o AE z nh,f o G z t,s o G z t,f o G z cq",
   "s o G z cq,f o K z cq,s o K z cq,f o O z pn,s o O z pn,f o O z pn b nh,s o O z pn b nh",
   "f o EZH z cq,s o EZH z cq,3J z cq,1f o DZ,3D z s o Z,1s o DZ,f o G z ae,s o G z ae,f o HWAIR",
   "3WYNN,N z ip,1s o N z ip,f o A z sq a b ae,s o A z sq a b ae,f o AE z ae,s o AE z ae",
   "f o O z t b ae,s o O z t b ae,f o A z g ip,s o A z g ip,f o A z kr ch,s o A z kr ch",
   "f o E z g ip,s o E z g ip,f o E z kr ch,s o E z kr ch,f o I z g ip,s o I z g ip",
   "f o I z kr ch,s o I z kr ch,f o O z g ip,s o O z g ip,f o O z kr ch,s o O z kr ch",
   "f o R z g ip,s o R z g ip,f o R z kr ch,s o R z kr ch,f o U z g ip,s o U z g ip",
   "f o U z kr ch,s o U z kr ch,f o S z dr d,s o S z dr d,f o T z dr d,s o T z dr d,f o YOGH",
   "s o YOGH,f o H z cq,s o H z cq,f o N z na p LEG,s o D z ek,f o OU,s o OU,f o Z z ju",
   "s o Z z ju,f o A z ft a,s o A z ft a,f o E z cs,s o E z cs,f o O z fe b nh,s o O z fe b nh",
   "f o O z xh b nh,s o O z xh b nh,f o O z ft a,s o O z ft a,f o O z ft a b nh",
   "s o O z ft a b nh,f o Y z nh,s o Y z nh,3L z ek,N z ek,T z ek,fu J,DB fn,QP fn,1f o A z t",
   "3C z t,1s o C z t,f o L z bp,3T z ff t,1s o S z SWASH wj,3Z z SWASH wj,1f o io vr,s o io vr",
   "f o B z t,3U bp,ya V,E z t,1s o E z t,f o J z t,s o J z t,f o s Q z ju wj,s o Q z ju wj",
   "f o R z t,s o R z t,f o Y z t,s o Y z t,3ya A,al,ya al,B z ju,pu O,C z ek,D z wj,5ju,3sd E",
   "tf,4z ju,3pu E,sd pu E,6z ju,3dn sd pu E,fu J z t,G z ju,th G,1o s f G,s o ie,3RAMS jv,ya H",
   "H z ju,HENG z ju,I z t,ks,1o s f I,s o L z nu xh,5BELT,sb ju,3LEZH,ya M,5z na LEG,3M z ju",
   "N z m ju,5sb ju,1o s f N,s o bs O,o s f OE,s o dn pp,3qt,ya R,5z na LEG,6ju,3R z na LEG,5wj",
   "hq,3sd R z hq,1o s f R,4kr R,1s o S z ju,3ESH,fu J z t b ju,SQUAT sd ESH,ESH z ek,ya T",
   "T z sb ju,U bp,yq,V z ju,ya V,4W,Y,1o s f Y,s o Z z sb ju,5ek,3EZH,4z ek,1o io vr",
   "2PHARYNGEAL za FRICATIVE,kr io vr,STRETCHED C,BILABIAL dl,s f B,1s o dn pu E,o s f G z ju,4H",
   "1s o J z eh,3ya K,1o s f L,s o Q z ju,o io vr z t,2sd io vr z t,1s o DZ fn,3DEZH fn",
   "DZ fn z ek,TS fn,TESH fn,TC fn z ek,FENG fn,LS fn,LZ fn,1o BILABIAL PERCUSSIVE",
   "2BIDENTAL PERCUSSIVE,1s o ya H z hq,7b wj,0ny o s H,4z ju,3J,R,ya R,5z ju,3f kr R,W,Y,2rh",
   "g rh,ya dr,au,sd dr,p iv sq,m iv sq,io vr,sd io vr,m bd,p bd,UP bd,fz bd,dk ac,0cq,ny o x mv",
   "2nh,ae ac,ip ac,nd x mv,3nh,ip ac,ae ac,2xs dp,iv xs dp,cw p iv sq,3m iv sq,2UP wh,fz wh",
   "qz r,nx r,0ch,ft a,sq a,pn,s xh,g ae ac,ny o RHOTIC ju,2ef ac,s ie,3L,S,X,sd io vr,2ha xj bp",
   "jp xj bp,MID xj bp,nd xj bp,EXTRA-LOW xj bp,YIN DEPARTING xj nm,zn DEPARTING xj nm,VOICING",
   "UNASPIRATED,g au,nd fz bd,3UP bd,m bd,p bd,sq,2nu ip ac,3g ip ac,4ae ac,2nd xh,rw dp",
   "BEGIN jp xj,gp jp xj,BEGIN nd xj,gp nd xj,SHELF,pu SHELF,nd m c,0dq ip ac,1ae ac,dk ac,xh,nh",
   "qe,ch,ft a,fe,ju a,sq a,g ae ac,cq,x mv a,g x mv a,2ip ac,1co,kr ch,ya dr a,dr a,sd dr a",
   "dr a p,ip ac d,ae ac d,m wh d,p wh d,m ap a,jv,m iv sq d,UP wh d,fz wh d,qz r d,nx r d",
   "PALATALIZED ju d,sb ju d,ft d,fe d,sq d,dr d,cs,pn,x mv d,BRIDGE d,kr g ARCH d,cq d,dk ac d",
   "ch d,kr ch d,xh d,nh d,nd mv,g nd mv,xh qd,uf t qd,na t qd,uf uz qd,na uz qd,p iv sq d",
   "kr BRIDGE d,vh d,SEAGULL d,X a,x xh,g qe,ip xj nm,ae xj nm,ir qp,2KORONIS,fh xl,zr,1BRIDGE a",
   "gt r d,g x mv d,m ap d,pa xh a,HOMOTHETIC a,aj gs TO a,m p c d,yr c d,GRAPHEME ld,p bd a",
   "m iv sq a,FERMATA,X d,m bd d,p bd d,3b UP bd d,2iv sq a,1ft a p,bh d,g sq d,zz a,g ch d,3",
   "2nh,3d,2xh,kr ch,q c d,1mj s o A,4E,I,O,U,C,D,H,M,R,T,V,X,0ir f o HETA,1s o HETA",
   "f o az SAMPI,s o az SAMPI,pi r,ne pi r,f o PAMPHYLIAN fl,s o PAMPHYLIAN fl,37a:zr",
   "s sd ng uj u,2fw ng uj u,sd fw ng uj u,1ru nm,f o YOT,384:xl,fh xl,f o al z xl,ANO TELEIA",
   "f o gr z xl,3ETA z xl,ks z xl,38c:pq z xl,38e:yq z xl,pp z xl,1s o ks z fh b xl,f o al,3bv",
   "ie,fb,gr,zy,ETA,wv,ks,lg,mf,MU,NU,XI,pq,PI,se,3a3:uj,TAU,yq,qt,dd,PSI,pp,ks z fh,yq z fh",
   "1s o al z xl,3gr z xl,ETA z xl,ks z xl,yq z fh b xl,al,bv,ie,fb,gr,zy,ETA,wv,ks,lg,mf,MU,NU",
   "XI,pq,PI,se,h uj,uj,TAU,yq,qt,dd,PSI,pp,ks z fh,yq z fh,pq z xl,yq z xl,pp z xl,1f KAI u",
   "bv u,wv u,yq z ju u,3ae b ju u,fe b ju u,1qt u,PI u,KAI u,o az KOPPA,s o az KOPPA,o STIGMA",
   "s o STIGMA,o fl,s o fl,o KOPPA,s o KOPPA,o SAMPI,s o SAMPI,0ea f o SHEI,1s o SHEI,f o FEI",
   "s o FEI,f o KHEI,s o KHEI,f o HORI,s o HORI,f o GANGIA,s o GANGIA,f o SHIMA,s o SHIMA",
   "f o DEI,s o DEI,0ir lg u,1se u,ng uj u,o YOT,f wv u,ng gr u,sd ng gr u,f o SHO,s o SHO",
   "f ng uj u,2o SAN,1s o SAN,se z t u,f sd ng uj u,2fw ng uj u,sd fw ng uj u,0ep f o IE z ip",
   "3IO,DJE,GJE,UKRAINIAN IE,DZE,BYELORUSSIAN-UKRAINIAN I,YI,JE,LJE,NJE,TSHE,KJE,I z ip,uf U",
   "DZHE,A,BE,VE,GHE,DE,IE,ZHE,ZE,I,uf I,KA,EL,EM,EN,O,PE,ER,ES,TE,U,EF,HA,TSE,da,tu,SHCHA",
   "HARD r,YERU,uy r,E,YU,YA,1s o A,3BE,VE,GHE,DE,IE,ZHE,ZE,I,uf I,KA,EL,EM,EN,O,PE,ER,ES,TE,U",
   "EF,HA,TSE,da,tu,SHCHA,HARD r,YERU,uy r,E,YU,YA,IE z ip,IO,DJE,GJE,UKRAINIAN IE,DZE",
   "BYELORUSSIAN-UKRAINIAN I,YI,JE,LJE,NJE,TSHE,KJE,I z ip,uf U,DZHE,1f o pp,s o pp,f o YAT",
   "s o YAT,f o ku E,s o ku E,f o mw zs,s o mw zs,f o ku mw zs,s o ku mw zs,f o BIG zs",
   "s o BIG zs,f o ku BIG zs,s o ku BIG zs,f o KSI,s o KSI,f o PSI,s o PSI,f o FITA,s o FITA",
   "f o kx,s o kx,f o kx z g ip ac,s o kx z g ip ac,f o UK,s o UK,f o sw pp,s o sw pp",
   "f o pp z TITLO,s o pp z TITLO,f o OT,s o OT,f o KOPPA,s o KOPPA,xd r,0dq ep TITLO",
   "2PALATALIZATION,ex PNEUMATA,rl PNEUMATA,POKRYTIE,jx xd r,nw r,0ep f o uf I z wj",
   "1s o uf I z wj,f o SEMISOFT r,s o SEMISOFT r,f o ER z TICK,s o ER z TICK,f o GHE z UPTURN",
   "s o GHE z UPTURN,f o GHE z t,s o GHE z t,f o GHE z nu ju,s o GHE z nu ju,f o ZHE z fc",
   "s o ZHE z fc,f o ZE z fc,s o ZE z fc,f o KA z fc,s o KA z fc,f o KA z x t,s o KA z x t",
   "f o KA z t,s o KA z t,f o BASHKIR KA,s o BASHKIR KA,f o EN z fc,s o EN z fc,f mt EN GHE",
   "s mt EN GHE,f o PE z nu ju,s o PE z nu ju,f o ab HA,s o ab HA,f o ES z fc,s o ES z fc",
   "f o TE z fc,s o TE z fc,f o vs U,s o vs U,f o vs U z t,s o vs U z t,f o HA z fc,s o HA z fc",
   "f mt TE TSE,s mt TE TSE,f o da z fc,s o da z fc,f o da z x t,s o da z x t,f o SHHA,s o SHHA",
   "f o ab da,s o ab da,f o ab da z fc,s o ab da z fc,o PALOCHKA,f o ZHE z ch,s o ZHE z ch",
   "f o KA z ju,s o KA z ju,f o EL z wj,s o EL z wj,f o EN z ju,s o EN z ju,f o EN z wj",
   "s o EN z wj,f o KHAKASSIAN da,s o KHAKASSIAN da,f o EM z wj,s o EM z wj,3PALOCHKA",
   "1f o A z ch,s o A z ch,f o A z fe,s o A z fe,f mt A IE,s mt A IE,f o IE z ch,s o IE z ch",
   "f o tf,s o tf,f o tf z fe,s o tf z fe,f o ZHE z fe,s o ZHE z fe,f o ZE z fe,s o ZE z fe",
   "f o ab DZE,s o ab DZE,f o I z nh,s o I z nh,f o I z fe,s o I z fe,f o O z fe,s o O z fe",
   "f o bs O,s o bs O,f o bs O z fe,s o bs O z fe,f o E z fe,s o E z fe,f o U z nh,s o U z nh",
   "f o U z fe,s o U z fe,f o U z g ae,s o U z g ae,f o da z fe,s o da z fe,f o GHE z fc",
   "s o GHE z fc,f o YERU z fe,s o YERU z fe,f o GHE z t b ju,s o GHE z t b ju,f o HA z ju",
   "s o HA z ju,f o HA z t,s o HA z t,f o mb DE,s o mb DE,f o mb DJE,s o mb DJE,f o mb ZJE",
   "s o mb ZJE,f o mb DZJE,s o mb DZJE,f o mb LJE,s o mb LJE,f o mb NJE,s o mb NJE,f o mb SJE",
   "s o mb SJE,f o mb TJE,s o mb TJE,f o sd ZE,s o sd ZE,f o EL z ju,s o EL z ju,f o LHA,s o LHA",
   "f o RHA,s o RHA,f o YAE,s o YAE,f o QA,s o QA,f o WE,s o WE,f o ALEUT KA,s o ALEUT KA",
   "f o EL z nu ju,s o EL z nu ju,f o EN z nu ju,s o EN z nu ju,f o PE z fc,s o PE z fc",
   "f o SHHA z fc,s o SHHA z fc,f o EN z m ju,s o EN z m ju,f o DZZHE,s o DZZHE,f o DCHE",
   "s o DCHE,f o EL z fc,s o EL z fc,531:0bb f o AYB,3BEN,GIM,DA,ECH,ZA,EH,ET,TO,ZHE,INI,LIWN",
   "XEH,CA,KEN,HO,JA,GHAD,CHEH,MEN,YI,NOW,tu,VO,cx,PEH,JHEH,RA,SEH,VEW,TIWN,ry,CO,YIWN,PIWR,KEH",
   "OH,FEH,559:1ny o m iv sq,au,EMPHASIS nm,gx nm,dr,ru nm,aa nm,s o ya AYB,3AYB,BEN,GIM,DA,ECH",
   "ZA,EH,ET,TO,ZHE,INI,LIWN,XEH,CA,KEN,HO,JA,GHAD,CHEH,MEN,YI,NOW,tu,VO,cx,PEH,JHEH,RA,SEH,VEW",
   "TIWN,ry,CO,YIWN,PIWR,KEH,OH,FEH,2mt ECH YIWN,o YI z t,1id vr,jy,58d:0sm bb ETERNITY r",
   "ml bb ETERNITY r,bb DRAM r,591:HEBREW ac ETNAHTA,2SEGOL,SHALSHELET,ZAQEF QATAN,3GADOL",
   "2TIPEHA,REVIA,ZARQA,PASHTA,YETIV,TEVIR,GERESH,3MUQDAM,2GERSHAYIM,QARNEY PARA,TELISHA GEDOLA",
   "PAZER,ATNAH HAFUKH,MUNAH,MAHAPAKH,MERKHA,3KEFULA,2DARGA,QADMA,TELISHA QETANA,YERAH BEN YOMO",
   "OLE,ILUY,DEHI,ZINOR,1nm MASORA dg,ra SHEVA,2HATAF SEGOL,3PATAH,QAMATS,2HIRIQ,TSERE,SEGOL",
   "PATAH,QAMATS,HOLAM,3HASER hw VAV,2QUBUTS,eq OR MAPIQ,METEG,1rm MAQAF,ra RAFE,rm PASEQ",
   "ra ue ft,2SIN ft,1rm SOF PASUQ,nm yp ft,2ne ft,1rm pj HAFUKHA,ra QAMATS QATAN,5d0:o ah,2BET",
   "im,DALET,HE,VAV,zw,HET,TET,YOD,h le,le,LAMED,h MEM,MEM,h pj,pj,tc,AYIN,h PE,PE,h TSADI,TSADI",
   "QOF,rz,ue,TAV,5ef:1YOD xr,mt YIDDISH g VAV,3VAV YOD,g YOD,1rm GERESH,2GERSHAYIM,600:0ax ph r",
   "1r SANAH,FOOTNOTE nn,r SAFHA,2SAMVAT,1ph nm a,0ay CUBE ROOT,1FOURTH ROOT,0ax RAY",
   "ay PER MILLE r,2wp xc r,0AFGHANI r,ax dr,1DATE tp,POETIC VERSE r,r MISRA",
   "2SALLALLAHOU ALAYHE WASSALLAM,ALAYHE ASSALLAM,RAHMATULLAH ALAYHE,RADI ALLAHOU ANHU,TAKHALLUS",
   "1s jp wi,3mt ah z me z zo,zt,2hg,es,lm,1tn,o nm,gp OF TEXT nm,xt ft rm nm,ru nm",
   "o KASHMIRI zo,2iw,ah z ni a,4iw a,2zf z iw a,ah z iw d,zo z iw a,ah,BEH,TEH MARBUTA,3,2wt,la",
   "iu,lt,DAL,THAL,ry,zt,tl,ub,sz,DAD,wi,ZAH,af,il,KEHEH z yg fv a,4v fv d,2FARSI zo z kr V",
   "5yg fv a,v fv a,1TATWEEL,o FEH,2rn,le,me,nt,ox,jn,zf,ah nl,zo,1hh,et,ln,hg,es,lm,SHADDA",
   "SUKUN,MADDAH a,iw a,2d,1vw ah,kr es,nm ox GHUNNA,ZWARAKAY,zc r s V a,3kr s V a,ft d,1sd es",
   "hg z yg fv,WAVY iw d,0ay fm zx,2ps,yg,v,hz,hr,uq,tr,gg,ot,0ax PERCENT r,1DECIMAL tp,xd tp",
   "hr rb vo,o fu BEH,3rn,2wb ah,ah WASLA,3z WAVY iw a,6d,2jp iw,4ah,zf,2U z iw a,jp iw zo,TTEH",
   "TTEHEH,BEEH,TEH z sq,4v fv a gb,2PEH,TEHEH,BEHEH,iu z iw a,4yg fv x a,2NYEH,DYEH,iu z v fv a",
   "TCHEH,TCHEHEH,DDAL,DAL z sq,4ft d,6b s wi,2DAHAL,DDAHAL,DUL,DAL z v fv a gb,4hz fv a,2RREH",
   "ry z s V,4sq,ft d,s V d,ft d b ft a,yg fv a,2JEH,ry z hz fv a,tl z ft d b ft a,4v fv d",
   "7b v fv a,2sz z yg fv d,4v fv a,2wi z v fv a,af z v fv a,fu FEH,FEH z ft MOVED d,5d,2VEH",
   "FEH z v fv d,PEHEH,rn z ft a,4v fv a,2KEHEH,SWASH le,le z sq,4ft a,2NG,le z v fv d,GAF,3z sq",
   "2NGOEH,GAF z yg fv d,GUEH,GAF z v fv a,me z s V,4ft a,v fv a,6d,2ox z ft d,3GHUNNA,2RNOON",
   "ox z sq,4v fv a,2jn DOACHASHMEE,TCHEH z ft a,jn z zo a,3GOAL,4z iw a,2TEH MARBUTA GOAL",
   "zf z sq,KIRGHIZ OE,OE,U,YU,KIRGHIZ YU,zf z yg fv a,VE,FARSI zo,zo z wj,4s V,2zf z ft a,E",
   "zo z v fv d,3BARREE,4z iw a,1id vr,o AE,s jp mt sz z me z ah nl,4rn z me z ah nl,3nt k i",
   "me ah,la,v fv,tl,1gp OF AYAH,vp OF RUB EL HIZB,s jp sx zx,3UPRIGHT RECTANGULAR zx",
   "fu jj OF lt,nt l i,2nd tl,jp ni,zf,zo,jp zo,3ox,1PLACE OF SAJDAH,EMPTY cv nd vr,3jp vr",
   "1sx jp vr z FILLED cv,s nd nt,o DAL z kr V,2ry z kr V,0gy ay fm zx,3ps,yg,v,hz,hr,uq,tr,gg",
   "ot,0ax o ub z ft d,2DAD z ft d,il z ft d,1r SINDHI ao,3POSTPOSITION MEN,1o jn z kr V",
   "0SYRIAC gp OF qi,1SUPRALINEAR id vr,SUBLINEAR id vr,SUPRALINEAR dp,SUBLINEAR dp,j dp",
   "dp SKEWED m,3p,1SUPRALINEAR dp SKEWED m,SUBLINEAR dp SKEWED p,CONTRACTION,HARKLEAN OBELUS",
   "2METOBELUS,ASTERISCUS,70f:1aa nm,o ALAPH,2wb ALAPH,bw,GAMAL,3GARSHUNI,2DALATH,fu DALATH RISH",
   "HE,zf,zt,jo,TETH,3GARSHUNI,2YUDH,3HE,2lf,LAMADH,MIM,pj,SEMKATH,h SEMKATH,E,PE,sd PE,ta,QAPH",
   "RISH,ue,TAW,PERSIAN BHETH,3GHAMAL,DHALATH,1PTHAHA a,2d,fw,1ZQAPHA a,2d,fw,1RBASA a,2d",
   "1fw ZLAMA j,3ANGULAR,1HBASA a,2d,1HBASA-ESASA fw,ESASA a,2d,1RWAHA,FEMININE ft,QUSHSHAYA",
   "RUKKAKHA,yg x fv a,4d,1v fv a,3d,1pl mv a,3d,1MUSIC,BARREKH,74d:o SOGDIAN ZHAIN,3KHAPH,FE",
   "0ax o BEH z v fv HORIZONTALLY d,4ft d b v fv a,v fv rc yr d,9b yg fv a,4yg fv d b ft a",
   "kr s V d,s V,2iu z yg fv a,4v fv rc yr d,2DAL z yg fv yv d b s wi,4kr s V d,2ry z t",
   "tl z hz fv a,af z yg fv a,4v fv rc gb a,yg fv yv a,2FEH z yg fv d,4v fv rc yr d",
   "2KEHEH z ft a,4v fv a,6rc yr d,2nt z ft a,5d,2ox z yg fv d,4s wi,5V,2me z bp,ry z yg fv yv a",
   "4iw a,2tl z yg fv yv a,iu z s ax o wi d,8b yg fv,2tl z s ax o wi b yg fv",
   "ry z s ax o wi b yg fv,iu z s ax o wi a,ah z gy ay fm yg a,7v a,2FARSI zo z gy ay fm yg a",
   "8v a,hz d,2zf z gy ay fm yg a,7v a,2zo BARREE z gy ay fm yg a,8v a,2iu z gy ay fm hz d",
   "tl z gy ay fm hz a,4kr V,2le z yg fv a,0THAANA o HAA,2SHAVIYANI,NOONU,RAA,BAA,LHAVIYANI",
   "KAAFU,ALIFU,VAAVU,MEEMU,FAAFU,DHAALU,THAA,LAAMU,GAAFU,GNAVIYANI,SEENU,DAVIYANI,ZAVIYANI",
   "TAVIYANI,YAA,PAVIYANI,JAVIYANI,CHAVIYANI,TTAA,HHAA,KHAA,THAALU,ZAA,SHEENU,SAADHU,DAADHU,TO",
   "ZO,AINU,GHAINU,QAAFU,WAAVU,1ABAFILI,AABAAFILI,IBIFILI,EEBEEFILI,UBUFILI,OOBOOFILI,EBEFILI",
   "EYBEYFILI,OBOFILI,OABOAFILI,SUKUN,o NAA,7c0:0NKO fm zx,2ps,yg,v,hz,hr,uq,tr,gg,ot,1o A,2EE,I",
   "E,U,OO,O,DAGBASINNA,N,BA,PA,TA,JA,cx,DA,RA,RRA,SA,GBA,FA,KA,LA,NA WOLOSO,MA,pk,NA,HA,WA,YA",
   "pk WOLOSO,JONA JA,3cx,RA,1dq uf jp xj,3nd xj,sr xj,2na DESCENDING xj,3jp xj,nd xj,sr xj",
   "2NASALIZATION nm,g ft a,1jp xj au,nd xj au,u OO DENNEN,2GBAKURUNEN,1dr,gx nm,LAJANYALAN",
   "7fd:DANTAYALAN,DOROME r,TAMAN r"]

end LineScript.Text.Name
