/-!
# Symbols

The names of punctuation, arrows, mathematical operators, shapes and other symbols: the code points
from 2000 to 2BFF.
-/

namespace LineScript.Text.Name

/-- The names in the order of their code points; `Reading.entry` says how they are written. -/
def symbols : List String :=
  ["2000:0EN ro,EM ro,EN vc,EM vc,THREE-PER-EM vc,FOUR-PER-EM vc,SIX-PER-EM vc,FIGURE vc,rm vc",
   "THIN vc,HAIR vc,zx WIDTH vc,2NON-JOINER,ld,0mo nm,sp nm,jy,NON-BREAKING jy,FIGURE ev,EN ev",
   "EM ev,j bp,g x mv,1nd mv,0m uo rv nm,p uo rv nm,uo LOW-9 rv nm,1HIGH-REVERSED-9 rv nm",
   "0m g rv nm,p g rv nm,g LOW-9 rv nm,1HIGH-REVERSED-9 rv nm,0DAGGER,g DAGGER,ck,xs ck",
   "ps ft LEADER,yg ft LEADER,j go,HYPHENATION ra,mv tp,qi tp,mo EMBEDDING,sp EMBEDDING",
   "POP DIRECTIONAL FORMATTING,mo OVERRIDE,sp OVERRIDE,NARROW NO-BREAK vc,PER MILLE r,1wp xc r",
   "0rh,g rh,xt rh,sd rh,1g rh,xt rh,0cp,uo mm ap rv nm,1sn ap rv nm,0REFERENCE nm,g gx nm,ko,qe",
   "UNDERTIE,cy TIE,cp INSERTION ra,ASTERISM,jy ck,ib uw,m vh cg z QUILL,p vh cg z QUILL,g ru nm",
   "ru gx nm,gx ru nm,TIRONIAN r ET,sd PILCROW r,e n ck,1q ck,0nd bh,sd tn,CLOSE UP",
   "yg ASTERISKS ALIGNED yv,ds nx r,SWUNG ev,kr UNDERTIE,FLOWER rm nm,v ft rm,rq rh,hz ft rm",
   "hr ft rm,yg ft rm,hz ft nm,fw ef,TRICOLON,x hz fv,ns no vc,zj ld,FUNCTION APPLICATION",
   "INVISIBLE xi,1tp,qz,2066:0mo ISOLATE,sp ISOLATE,hp STRONG ISOLATE,POP DIRECTIONAL ISOLATE",
   "INHIBIT SYMMETRIC SWAPPING,ACTIVATE SYMMETRIC SWAPPING,INHIBIT ax i SHAPING",
   "ACTIVATE ax i SHAPING,NATIONAL fm SHAPES,NOMINAL fm SHAPES,wb zx,1mj s o I,2074:hz,hr,uq,tr",
   "gg,ot,qz r,nx,gt r,m qk,p qk,mj s o N,0vw zx,1ps,yg,v,hz,hr,uq,tr,gg,ot,qz r,nx,gt r,m qk",
   "p qk,2090:0mj vw s o A,4E,O,X,tf,H,K,L,M,N,P,S,T,20a0:0EURO-CURRENCY r,dp r,CRUZEIRO r",
   "FRENCH FRANC r,LIRA r,MILL r,NAIRA r,PESETA r,RUPEE r,WON r,NEW SHEQEL r,DONG r,EURO r,KIP r",
   "TUGRIK r,DRACHMA r,GERMAN PENNY r,PESO r,GUARANI r,AUSTRAL r,HRYVNIA r,CEDI r",
   "LIVRE TOURNOIS r,SPESMILO r,TENGE r,INDIAN RUPEE r,TURKISH LIRA r,NORDIC nm r,MANAT r",
   "RUBLE r,LARI r,BITCOIN r,SOM r,20d0:dq m ji a,1p ji a,na x mv qd,uf x mv qd,aq c a,dm c a",
   "m c a,p c a,sq qd,dm sq qd,aq sq qd,v fv a,hz fv a,ENCLOSING dg,2vh,fi,dg bl,1m p c a",
   "ENCLOSING SCREEN,2KEYCAP,UPWARD rc xr,1sc uz qd,g x t qd,ANNUITY u,xt UNDERDOT,WIDE BRIDGE a",
   "n c qd,na g uz qd,q ji z bq gb,n ji z bq gb,m c d,p c d,bh a,2100:0ACCOUNT OF",
   "ADDRESSED TO ws SUBJECT,fy f C,DEGREE CELSIUS,cv mv u,CARE OF,CADA UNA,EULER CONSTANT",
   "SCRUPLE,DEGREE FAHRENHEIT,th s G,1f H,0cb f H,fy f H,PLANCK CONSTANT,2qb yg PI,0th f I",
   "cb f I,th f L,1s L,0L B bp u,fy f N,NUMERO r,va RECORDING COPYRIGHT,th f P,fy f P,2Q,0th f R",
   "cb f R,fy f R,PRESCRIPTION TAKE,RESPONSE,SERVICE nm,wo r,TRADE nm r,VERSICLE,fy f Z,OUNCE r",
   "OHM r,kr OHM r,cb f Z,ya ir s o ks,KELVIN r,ANGSTROM r,th f B,cb f C,ESTIMATED u,th s E,1f E",
   "2F,0ya f F,th f M,1s O,0ah u,BET u,im u,DALET u,kk SOURCE,st f Q,FACSIMILE r,fy s PI,2ie",
   "1f ie,2PI,1N-ARY SUMMATION,0ya td f G,3L,0sd td f L,ya td f Y,fy kv f D,2s D,3E,I,J",
   "0PROPERTY mv,ya ao,PER r,AKTIESELSKAB,ya s F,u hw SAMARITAN SOURCE,VULGAR ib ps SEVENTH",
   "3NINTH,TENTH,wx,2yg wy,ps FIFTH,yg FIFTHS,v FIFTHS,hz FIFTHS,ps SIXTH,hr SIXTHS,ps gi,v gj",
   "hr gj,tr gj,0ib NUMERATOR ps,ROMAN pi ps,2yg,v,hz,hr,uq,tr,gg,ot,wp,gn,yd,hj,ps jx,hr jx",
   "ps xc,0s ROMAN pi ps,3yg,v,hz,hr,uq,tr,gg,ot,wp,gn,yd,hj,ps jx,hr jx,ps xc",
   "0ROMAN pi ps xc C D,2hr xc,wp xc,sd ps jx,0mj s o sd C,ROMAN pi uq LATE i,2hj EARLY i,3xc",
   "2ps jx xc,0VULGAR ib zx wy,ya fm yg,2v,2190:0n c,yr c,q c,gb c,m p c,UP fz c,oz zg c,1ge c",
   "0vb ge c,1zg c,0n c z t,q c z t,n ze c,q ze c,n yg HEADED c,yr yg HEADED c,q yg HEADED c",
   "gb yg HEADED c,n c z wj,q c z wj,n c ic bp,yr c ic bp,q c ic bp,gb c ic bp,UP fz c z BASE",
   "n c z ju,q c z ju,n c z nc,q c z nc,m p ze c,2c z t,0gb zz c,yr c z TIP n,4q,0gb c z TIP n",
   "4q,0q c z eb gb,gb c z eb n,aq xm tm c,dm xm tm c,oz zg c TO na bp,n c TO bp qb q c TO bp",
   "aq pu dg c,dm pu dg c,n ji z bq yr,4gb,0yr ji z bq q,4n,0q ji z bq yr,4gb,0gb ji z bq q,4n",
   "0q c qb n c,yr c n OF gb c,n c qb q c,1qg bf,0yr qg bf,q qg bf,gb qg bf,n ji qb q ji",
   "q ji qb n ji,n g c z t,m p g c z t,q g c z t,n g c,yr g c,q g c,gb g c,m p g c,UP fz g c",
   "oz zg g c,1ge g c,0vb ge g c,1zg g c,0n xt c,q xt c,n SQUIGGLE c,q SQUIGGLE c,yr c z g t",
   "gb c z g t,n ew c,yr ew c,q ew c,gb ew c,n c TO bp,q c TO bp,n y c,yr y c,q y c,gb y c",
   "yr y c ic bp,3ON PEDESTAL,5z j bp,6x bp,2g c,4ON PEDESTAL,0q y c ic WALL,oz zg c TO eb",
   "vb ge c TO eb,UP fz y c,p c z s dg,gb c n OF yr c,v q bf,n c z x t,q c z x t,m p c z x t",
   "n c z g x t,q c z g x t,m p c z g x t,n OPEN-HEADED c,q OPEN-HEADED c,m p OPEN-HEADED c",
   "hw ALL,COMPLEMENT,qm fk,THERE EXISTS,1DOES pa EXIST,0EMPTY SET,INCREMENT,NABLA,gm OF",
   "pa AN gm OF,s gm OF,dy AS MEMBER,DOES pa CONTAIN AS MEMBER,s dy AS MEMBER,gp OF PROOF",
   "N-ARY rj,1COPRODUCT,SUMMATION,0nx r,MINUS-OR-PLUS r,ft qz,fq uw,SET nx,bh pv,sq pv,ck pv",
   "vh ROOT,CUBE ROOT,FOURTH ROOT,PROPORTIONAL TO,kj,p ap,ap,nq ap,SPHERICAL ap,DIVIDES",
   "DOES pa DIVIDE,qj TO,pa qj TO,my b,1OR,0kp,ym,kn,g kn,xt kn,CONTOUR kn,SURFACE kn,VOLUME kn",
   "dm kn,1CONTOUR kn,0aq CONTOUR kn,THEREFORE,BECAUSE,RATIO,PROPORTION,ft nx,EXCESS",
   "GEOMETRIC PROPORTION,HOMOTHETIC,xh pv,sd xh,kr LAZY S,SINE ze,WREATH rj,pa xh,nx xh",
   "ASYMPTOTICALLY gs TO,pa ASYMPTOTICALLY gs TO,aw gs TO,1BUT pa ACTUALLY gs TO",
   "0NEITHER aw NOR ACTUALLY gs TO,aj gs TO,pa aj gs TO,aj gs OR gs TO,xt xh,ALL gs TO,gw TO",
   "GEOMETRICALLY gw TO,DIFFERENCE bx,APPROACHES ws LIMIT,GEOMETRICALLY gs TO",
   "aw gs TO OR ws kf OF,kf OF OR aw gs TO,dp gt,gt dp,sq IN gs TO,1gs TO,0CORRESPONDS TO",
   "ESTIMATES,EQUIANGULAR TO,vo gt,fb gs TO,gs TO BY DEFINITION,nq BY,QUESTIONED gs TO,pa gs TO",
   "IDENTICAL TO,pa IDENTICAL TO,STRICTLY gw TO,ms OR gs TO,iq OR gs TO,ms qb gs TO,iq qb gs TO",
   "ms BUT pa gs TO,iq BUT pa gs TO,MUCH ms,1iq,0bx,pa gw TO,1ms,iq,0NEITHER ms NOR gs TO",
   "1iq NOR gs TO,0ms OR gw TO,iq OR gw TO,NEITHER ms NOR gw TO,1iq NOR gw TO,0ms OR iq,iq OR ms",
   "NEITHER ms NOR iq,1iq NOR ms,0rf,wa,rf OR gs TO,wa OR gs TO,rf OR gw TO,wa OR gw TO",
   "DOES pa PRECEDE,2SUCCEED,0vx OF,wc OF,pa A vx OF,2wc OF,0vx OF OR gs TO,wc OF OR gs TO",
   "NEITHER A vx OF NOR gs TO,2wc OF NOR gs TO,0vx OF z pa gs TO,wc OF z pa gs TO,MULTISET,1oh",
   "ym,0vh kf OF,1px OF,kf OF OR gs TO,px OF OR gs TO,CAP,CUP,0dh qz,1nx,xi,fq uw,ft pv,sq pv",
   "bh pv,gt,ev,0vi qz,1nx,xi,ft pv,0p wh,m wh,fz wh,UP wh,ASSERTION,MODELS,TRUE,FORCES",
   "xt x bp p yb,g x bp g p yb,DOES pa PROVE,pa TRUE,DOES pa FORCE,NEGATED g x bp g p yb",
   "rf yk RELATION,wa yk RELATION,oy vt OF,dy AS oy vt,oy vt OF OR gs TO,dy AS oy vt OR gs TO",
   "px OF,kf OF,MULTIMAP,HERMITIAN CONJUGATE MATRIX,INTERCALATE,XOR,NAND,NOR,p ap z ARC,1xr",
   "0N-ARY my b,2OR,1kp,ym,0fi pv,ft pv,vo pv,fq xi,BOWTIE,m oy FACTOR to rj,p oy FACTOR to rj",
   "m to rj,p to rj,sd xh gt,el my OR,2b,0g vx,1wc,kp,ym,0PITCHFORK,gs b qj TO,ms z ft,iq z ft",
   "yw MUCH ms,2iq,0ms gs TO OR iq,iq gs TO OR ms,gs TO OR ms,3iq,rf,wa,0DOES pa PRECEDE OR gs",
   "2SUCCEED OR gs,0pa vh kf OF OR gs TO,2px OF OR gs TO,0vh kf OF OR pa gs TO",
   "1px OF OR pa gs TO,0ms BUT pa gw TO,iq BUT pa gw TO,rf BUT pa gw TO,wa BUT pa gw TO",
   "pa oy vt OF,DOES pa CONTAIN AS oy vt,pa oy vt OF OR gs TO,DOES pa CONTAIN AS oy vt OR gs",
   "x go,MIDLINE j go,UP p ff go,fz p ff go,gm OF z na j t,3x bp AT gp OF j t",
   "0s gm OF z x bp AT gp OF j t,gm OF z ft a,3qc,0s gm OF z qc,gm OF z yl,3yg j STROKES",
   "0dy z na j t,2x bp AT gp OF j t,0s dy z x bp AT gp OF j t,dy z qc,s dy z qc",
   "Z pb BAG MEMBERSHIP,DIAMETER r,ELECTRIC c,HOUSE,UP bd,fz bd,PROJECTIVE,PERSPECTIVE,WAVY mv",
   "m ct,p ct,m ht,p ht,ce p CROP,1m CROP,0xm p CROP,1m CROP,0sd pa r,vh nf,ARC,SEGMENT,SECTOR",
   "wo RECORDER,POSITION ki,VIEWDATA vh,PLACE OF INTEREST r,ya pa r,WATCH,HOURGLASS,xm m eb",
   "1p eb,0ce m eb,1p eb,0xm iv kn,ce iv kn,FROWN,SMILE,UP bd bx yg j BARS,OPTION KEY",
   "ERASE TO ws p,X IN A rx cf,lr,mm ap cg,sn ap cg,ERASE TO ws m,BENZENE sq,CYLINDRICITY",
   "ALL AROUND-PROFILE,SYMMETRY,TOTAL RUNOUT,DIMENSION ORIGIN,CONICAL TAPER,SLOPE,COUNTERBORE",
   "COUNTERSINK,APL FUNCTIONAL u I-BEAM,3SQUISH ro,ro gs,4DIVIDE,fi,JOT,dg,3dg STILE,4JOT,3uw bp",
   "bl bp,ro uw,4bl,ms,iq,3n VANE,q VANE,ro n c,4q c,3dg bl,fz wh yl,fb STILE,ro fz cp,4fb",
   "3fz wh JOT,yr VANE,ro yr c,UP wh qc,DEL STILE,ro UP cp,4DEL,3UP wh JOT,gb VANE,ro gb c",
   "QUOTE yl,fb yl,fi yl,JOT yl,dg yl,UP SHOE JOT,QUOTE ro,dg vo,ro dp,UP wh fe,DEL fe,vo fe",
   "JOT fe,dg fe,fz SHOE STILE,m SHOE STILE,xh fe,iq fe,dr bp,DEL xh,ZILDE,STILE xh,tn yl",
   "ro pa gs,4ru,3fz cp xh,UP cp xh,ks,se,pp,al yl,gr yl,ks yl,pp yl,al,0pa db nm,p ap z gb zz c",
   "SHOULDERED pu cf,BELL u,x mv z nu ft,INSERTION u,CONTINUOUS UNDERLINE u",
   "DISCONTINUOUS UNDERLINE u,EMPHASIS u,COMPOSITION u,y vh z cv x mv,ENTER u,ALTERNATIVE KEY u",
   "HELM u,dh j bp z NOTCH,1xr fz,0BROKEN dg z NORTHWEST c,UNDO u,MONOSTABLE u,HYSTERESIS u",
   "OPEN-CIRCUIT-OUTPUT H-TYPE u,1L-TYPE u,0PASSIVE-PULL-DOWN-OUTPUT u,PASSIVE-PULL-UP-OUTPUT u",
   "DIRECT CURRENT u i yg,SOFTWARE-FUNCTION u,APL FUNCTIONAL u ro,DECIMAL tp KEY u,PREVIOUS PAGE",
   "NEXT PAGE,PRINT SCREEN u,CLEAR SCREEN u,m qk yp ju,2gz,ne ju,0p qk yp ju,2gz,ne ju",
   "0m vh cg yp eb,3gz,ne eb,0p vh cg yp eb,3gz,ne eb,0m el cg yp ju,3nu PIECE,ne ju,0el cg gz",
   "p el cg yp ju,3nu PIECE,ne ju,0kn gz,j mv gz,yp m OR ne p el cg tk,1p OR ne m el cg tk",
   "0SUMMATION xm,1ce,0xm vh cg,ce vh cg,3qb xm vh cg,0RADICAL u ce,m x cf mv,p x cf mv",
   "j SCAN LINE-1,2LINE-3,LINE-7,LINE-9,0DENTISTRY u mu x b xm p,5ce p,4z dg,3fz b j z dg",
   "UP b j z dg,x z xr,fz b j z xr,UP b j z xr,x b ze,fz b j z ze,UP b j z ze,fz b j,UP b j",
   "x b xm m,5ce m,0vh FOOT,RETURN u,EJECT u,x mv gz,METRICAL ch,1na qb uf,uf qb na",
   "na qb yg SHORTS,yg SHORTS qb na,3JOINED,1TRISEME,TETRASEME,PENTASEME,0gd GROUND,FUSE,xm qk",
   "ce qk,xm el cg,ce el cg,xm xn uc cg,ce xn uc cg,y TRAPEZIUM,BENZENE sq z dg,STRAIGHTNESS",
   "FLATNESS,AC CURRENT,ELECTRICAL kp,DECIMAL EXPONENT u,e sn g xr,1mm g xr,yn g xr,ga g xr",
   "sn g xr z x bp,mm g xr z x bp,sn xr z g x bp,0ALARM CLOCK,STOPWATCH,TIMER CLOCK",
   "HOURGLASS z FLOWING SAND,e ns mm xr,2sn xr,yn xr,ga xr,0g x bp,e vh hw vr,1dg hw RECORD",
   "0POWER u,1ON-OFF u,ON u,SLEEP u,0OBSERVER EYE u,u hw NULL,2vp OF HEADING,4TEXT,2gp OF TEXT",
   "4xo,2ENQUIRY,ad,BELL,BACKSPACE,j wg,mv FEED,x wg,i FEED,CARRIAGE RETURN,SHIFT OUT,3IN",
   "2DATA LINK ESCAPE,DEVICE dz ps,4yg,v,hz,2ol ad,SYNCHRONOUS IDLE,gp OF xo cc,CANCEL,gp OF ns",
   "SUBSTITUTE,ESCAPE,FILE tp,GROUP tp,RECORD tp,UNIT tp,vc,DELETE,0BLANK u,pu cf,u hw NEWLINE",
   "2DELETE i yg,SUBSTITUTE i yg,2440:0OCR ju,1CHAIR,FORK,kr FORK,BELT BUCKLE,BOW TIE",
   "BRANCH BANK IDENTIFICATION,AMOUNT OF db,ev,CUSTOMER ACCOUNT ph,g bl,2460:0dh fm ps,2yg,v,hz",
   "hr,uq,tr,gg,ot,1ph wp,2gn,yd,wz,ia,hi,ur,ts,gh,ou,ye,0ql fm ps,2yg,v,hz,hr,uq,tr,gg,ot",
   "1ph wp,2gn,yd,wz,ia,hi,ur,ts,gh,ou,ye,0fm ps id vr,1yg id vr,v id vr,hz id vr,hr id vr",
   "uq id vr,tr id vr,gg id vr,ot id vr,0ph wp id vr,1gn id vr,yd id vr,wz id vr,ia id vr",
   "hi id vr,ur id vr,ts id vr,gh id vr,ou id vr,ye id vr,0ql mj s o A,4B,C,D,E,F,G,H,I,J,K,L,M",
   "N,O,P,Q,R,S,T,U,V,W,X,Y,Z,0dh mj f o A,4B,C,D,E,F,G,H,I,J,K,L,M,N,O,P,Q,R,S,T,U,V,W,X,Y,Z",
   "2s o A,4B,C,D,E,F,G,H,I,J,K,L,M,N,O,P,Q,R,S,T,U,V,W,X,Y,Z,1fm zx,0ol dh ph gn,3yd,wz,ia,hi",
   "ur,ts,gh,ou,ye,0g dh fm ps,3yg,v,hz,hr,uq,tr,gg,ot,2ph wp,0ol dh fm zx,cf DRAWINGS mu j",
   "2jm j,mu x,jm x,mu xt ev j,jm xt ev j,mu xt ev x,jm xt ev x,mu rq ev j,jm rq ev j,mu rq ev x",
   "jm rq ev x,mu fz b p,fz mu b p jm,3jm b p mu,2jm fz b p,mu fz b m,fz mu b m jm,3jm b m mu",
   "2jm fz b m,mu UP b p,UP mu b p jm,3jm b p mu,2jm UP b p,mu UP b m,UP mu b m jm,3jm b m mu",
   "2jm UP b m,mu x b p,x mu b p jm,UP jm b p fz mu,fz jm b p UP mu,x jm b p mu,fz mu b p UP jm",
   "UP mu b p fz jm,jm x b p,mu x b m,x mu b m jm,UP jm b m fz mu,fz jm b m UP mu,x jm b m mu",
   "fz mu b m UP jm,UP mu b m fz jm,jm x b m,mu fz b j,m jm b p fz mu,p jm b m fz mu",
   "fz mu b j jm,3jm b j mu,2p mu b m fz jm,m mu b p fz jm,jm fz b j,mu UP b j,m jm b p UP mu",
   "p jm b m UP mu,UP mu b j jm,3jm b j mu,2p mu b m UP jm,m mu b p UP jm,jm UP b j,mu x b j",
   "m jm b p x mu,p jm b m x mu,x mu b j jm,UP jm b fz j mu,fz jm b UP j mu,x jm b j mu",
   "m UP jm b p fz mu,p UP jm b m fz mu,m fz jm b p UP mu,p fz jm b m UP mu,fz mu b UP j jm",
   "UP mu b fz j jm,p mu b m x jm,m mu b p x jm,jm x b j,mu g ev j,jm g ev j,mu g ev x,jm g ev x",
   "g j,3x,2fz uo b p g,3g b p uo,2g fz b p,fz uo b m g,3g b m uo,2g fz b m,UP uo b p g",
   "3g b p uo,2g UP b p,UP uo b m g,3g b m uo,2g UP b m,x uo b p g,3g b p uo,2g x b p,x uo b m g",
   "3g b m uo,2g x b m,fz uo b j g,3g b j uo,2g fz b j,UP uo b j g,3g b j uo,2g UP b j",
   "x uo b j g,3g b j uo,2g x b j,mu ARC fz b p,6m,4UP b m,6p,3ff yp p TO ne m,5m TO ne p,4ef,3m",
   "UP,p,fz,2jm m,3UP,p,fz,2mu m b jm p,3UP b jm fz,2jm m b mu p,3UP b mu fz,0yp iv cc",
   "ne ps gi cc,2rr cc,1v gj cc,iv cc,hr gj cc,v rs cc,tr gj cc,0id cc,m tr gj cc,1v rs cc",
   "hr gj cc,iv cc,v gj cc,ps rr cc,2gi cc,0p iv cc,mu tw,ns tw,DARK tw,yp ps gi cc,p ps gi cc",
   "rp ne m,2p,1yp m,3b ne m b ne p,5p,4yp p b ne m,8p,2p,3b ne m,6b ne p,0e vh,y vh,2z sx ec",
   "dx e s vh,0vh z j hk,2x hk,ORTHOGONAL CROSSHATCH hk,yp m TO ne p hk,3p TO ne m hk",
   "2ff CROSSHATCH hk,0e s vh,y s vh,e rx,y rx,e x rx,y x rx,e PARALLELOGRAM,y PARALLELOGRAM",
   "e yn xr,y yn xr,e yn s xr,y yn s xr,e sn xr,y sn xr,e sn s xr,y sn s xr,e sn POINTER",
   "y sn POINTER,e ga xr,y ga xr,e ga s xr,y ga s xr,e mm xr,y mm xr,e mm s xr,y mm s xr",
   "e mm POINTER,y mm POINTER,e fi,y fi,2dx e s fi,0FISHEYE,nf,y dg,fw dg,dg z x hk,BULLSEYE",
   "e dg,dg z m iv e,2p iv e,ne iv e,yp iv e,3p rp e,2ALL BUT yp m rp e,0m iv e dg,p iv e dg",
   "kq ck,1y dg,0yp iv kq y dg,ne iv kq y dg,yp m rp dj ARC,1p rp dj ARC,0ne p rp dj ARC",
   "1m rp dj ARC,0yp iv dg,ne iv dg,e ne p xr,2m xr,1yp m xr,2p xr,0y ck,vh z m iv e,2p iv e",
   "yp m ff iv e,ne p ff iv e,0y vh z x BISECTING mv,1yn xr z ft,0yn xr z m iv e,3p iv e,0mh dg",
   "y vh z yp m rp,3ne m rp,4p rp,3yp p rp,1dg z yp m rp,3ne m rp,4p rp,3yp p rp,0yp m xr,1p xr",
   "0ne m xr,y ns vh,e ns vh,y ns s vh,e ns s vh,ne p xr,e SUN z RAYS,CLOUD,yj,SNOWMAN,COMET",
   "e vo,y vo,LIGHTNING,THUNDERSTORM,SUN,ASCENDING NODE,DESCENDING NODE,CONJUNCTION,OPPOSITION",
   "e wo,y wo,bn cf,2z db,3X,0tb,yj z RAIN DROPS,HOT BEVERAGE,y SHOGI PIECE,e SHOGI PIECE",
   "SHAMROCK,sd st FLORAL jk ck,e m rc kh,1p rc kh,0y m rc kh,1UP rc kh,p rc kh,fz rc kh",
   "0SKULL b CROSSBONES,CAUTION r,RADIOACTIVE r,BIOHAZARD r,CADUCEUS,ANKH,ORTHODOX ef,dd se",
   "ef OF LORRAINE,2JERUSALEM,0vo b ed,FARSI u,ADI SHAKTI,HAMMER b SICKLE,PEACE u,YIN zn",
   "TRIGRAM hw HEAVEN,2LAKE,FIRE,THUNDER,WIND,zd,ob,gd,0WHEEL OF DHARMA,y FROWNING he,1ux he",
   "0e ux he,y SUN z RAYS,hp rr oa,LAST rr oa,MERCURY,FEMALE r,gd,MALE r,JUPITER,SATURN,URANUS",
   "NEPTUNE,PLUTO,ARIES,TAURUS,GEMINI,CANCER,LEO,VIRGO,LIBRA,SCORPIUS,SAGITTARIUS,CAPRICORN",
   "AQUARIUS,PISCES,y dc lw,2rt,ss,ca,lz,qn,0e dc lw,2rt,ss,ca,lz,qn,1SPADE SUIT,0y jk SUIT",
   "1fi SUIT,0e CLUB SUIT,y SPADE SUIT,e jk SUIT,1fi SUIT,0y CLUB SUIT,HOT SPRINGS,rr pd,gi pd",
   "BEAMED gi NOTES,1us NOTES,0MUSIC FLAT r,1NATURAL r,SHARP r,0zg SYRIAC ef,ge SYRIAC ef",
   "UNIVERSAL RECYCLING u,RECYCLING u hw TYPE-1 qy,3TYPE-2 qy,TYPE-3 qy,TYPE-4 qy,TYPE-5 qy",
   "TYPE-6 qy,TYPE-7 qy,GENERIC MATERIALS,0e UNIVERSAL RECYCLING u,RECYCLED PAPER u",
   "PARTIALLY-RECYCLED PAPER u,PERMANENT PAPER r,WHEELCHAIR u,DIE FACE-1*5,y dg z ft p,3yg fv",
   "0e dg z y ft p,3yg y fv,0nz hw zn,2YIN,0DIGRAM hw GREATER zn,2LESSER YIN,3zn,2GREATER YIN",
   "0y hs,e hs,HAMMER b PICK,ANCHOR,eg SWORDS,STAFF OF AESCULAPIUS,SCALES,ALEMBIC,FLOWER,GEAR",
   "STAFF OF HERMES,ATOM u,FLEUR-DE-LIS,qa y vo,v LINES CONVERGING p,3m,0WARNING r,jp VOLTAGE r",
   "DOUBLED FEMALE r,1MALE r,0INTERLOCKED FEMALE b MALE r,MALE b FEMALE r,1z t r",
   "3b MALE b FEMALE r,0x MALE z t r,j MALE z t r,ns y dg,1e dg,s y dg,0MARRIAGE u,DIVORCE u",
   "UNMARRIED PARTNERSHIP u,COFFIN,FUNERAL URN,NEUTER,CERES,PALLAS,JUNO,VESTA,CHIRON,e oa LILITH",
   "SEXTILE,SEMISEXTILE,QUINCUNX,SESQUIQUADRATE,SOCCER BALL,BASEBALL,vi KEY,y DRAUGHTS MAN,2lw",
   "0e DRAUGHTS MAN,2lw,0SNOWMAN WITHOUT SNOW,SUN BEHIND CLOUD,RAIN,e SNOWMAN",
   "THUNDER CLOUD b RAIN,ya y SHOGI PIECE,1e SHOGI PIECE,0y fi IN vh,ei LANES,DISABLED CAR",
   "OPHIUCHUS,PICK,CAR SLIDING,HELMET z y ef,dh ei LANES,CHAINS,NO ENTRY",
   "am ONE-WAY m WAY TRAFFIC,e TWO-WAY m WAY TRAFFIC,y TWO-WAY m WAY TRAFFIC,e m LANE MERGE",
   "y m LANE MERGE,DRIVE SLOW r,jm y ga xr,m dn ENTRY,vi tb,hf ff IN y dg IN e vh,e TRUCK",
   "RESTRICTED m ENTRY-1*1,ASTRONOMICAL u hw URANUS,jm dg z t b yg fv a,PENTAGRAM",
   "RIGHT-HANDED INTERLACED PENTAGRAM,LEFT-HANDED INTERLACED PENTAGRAM,kr PENTAGRAM",
   "e ef ON SHIELD,SHINTO SHRINE,CHURCH,CASTLE,HISTORIC SITE,GEAR WITHOUT HUB,1z HANDLES",
   "0MAP u hw LIGHTHOUSE,ob,yj ON GROUND,FOUNTAIN,hs IN HOLE,FERRY,SAILBOAT,vh hz ec,SKIER",
   "ICE SKATE,qr z BALL,TENT,kz BANK u,HEADSTONE GRAVEYARD u,FUEL PUMP,CUP ON e vh",
   "y hs z j nu e STRIPE,e SAFETY tg,yp BLADE tg,e tg,ne BLADE tg,y tg,1jm db nm,0wo LOCATION r",
   "TAPE DRIVE,ag,gq,rw FIST,1ix,0VICTORY ix,WRITING ix,ne p PENCIL,PENCIL,yp p PENCIL,y NIB",
   "e NIB,db nm,jm db nm,oh X,jm oh X,bn X,jm bn X,qa ir ef,jm ir ef,pu cv ef,jm pu cv ef,mj ef",
   "tx y mj ef,qa mj ef,MALTESE ef,vo OF DAVID,hz wm bh,1bm bh,0jm hz bm bh,hz CLUB-SPOKED bh",
   "e hz rb vo,y hz rb vo,SPARKLES,STRESS qa y vo,dh y vo,pu cv e vo,e cv y vo,qa e vo",
   "jm qa e vo,qx vo,tx y vo,jm bh,pu cv bh,gg vf bh,1rb e vo,2qx vo,0uq rb e vo",
   "gg rb RECTILINEAR e vo,jm gg rb RECTILINEAR e vo,yd rb e vo,ur rb bh,wm bh,pu cv wm bh",
   "jm wm bh,uq PETALLED e b y FLORETTE,e FLORETTE,y FLORETTE,gg PETALLED qa e FLORETTE",
   "dh pu cv gg rb vo,jm wm qx bh,SNOWFLAKE,TIGHT TRIFOLIATE SNOWFLAKE,jm CHEVRON SNOWFLAKE",
   "SPARKLE,jm SPARKLE,bm bh,gg wm PROPELLER bh,jm gg wm PROPELLER bh,ef nm,tx y dg,ol vi ef nm",
   "ne p DROP-SHADOWED y vh,yp p DROP-SHADOWED y vh,ne p tx y vh,yp p tx y vh,e ru nm pz",
   "y ru nm pz,1gx nm pz,0e fi nx y X,jm gx nm u,mu x bp,ns x bp,jm x bp,1uo ya dr rv nm pz",
   "2dr rv nm pz,1g ya dr rv nm pz,2dr rv nm pz,1nd uo dr rv nm pz,2g dr rv nm pz",
   "0eo STEM qi r pz,jm gx nm pz,1jk gx nm pz,e jk,0st jm e jk ck,FLORAL jk,st FLORAL jk ck",
   "ns m qk pz,1p qk pz,FLATTENED m qk pz,2p qk pz,1mm ap cg pz,sn ap cg pz,0jm mm ap rv nm pz",
   "1sn ap rv nm pz,mm ap cg pz,sn ap cg pz,0mu m xn uc cg pz,1p xn uc cg pz,0ns m el cg pz",
   "1p el cg pz,0DINGBAT ol dh fm ps,4yg,v,hz,hr,uq,tr,gg,ot,3ph wp,1dh td fm ps,4yg,v,hz,hr,uq",
   "tr,gg,ot,3ph wp,1ol dh td fm ps,5yg,v,hz,hr,uq,tr,gg,ot,4ph wp,0jm WIDE-HEADED q c,1qz r",
   "nx r,fq r,vb ge c,q c,oz ge c,0DRAFTING ra q c,jm ROUND-TIPPED q c,w q c,jm w q c,ew w q c",
   "jm ew w q c,e q c,THREE-D TOP-LIGHTED q bd,1BOTTOM-LIGHTED q bd,0e q bd,jm e eo gb b q c",
   "3yr b q c,0SQUAT e q c,jm CONCAVE-POINTED e q c,RIGHT-SHADED y q c,LEFT-SHADED y q c",
   "BACK-TILTED tx y q c,FRONT-TILTED tx y q c,jm ne so y q c,1yp so y q c,0pc ne so y q c,el nc",
   "pc yp so y q c,dh jm y q c,WHITE-FEATHERED q c,BLACK-FEATHERED vb ge c,1q c,oz ge c",
   "0jm BLACK-FEATHERED vb ge c,2q c,oz ge c,0TEARDROP-BARBED q c,jm TEARDROP-SHANKED q c",
   "WEDGE-TAILED q c,jm WEDGE-TAILED q c,OPEN-OUTLINED q c,g el nc,v DIMENSIONAL ap",
   "y xr dx s y xr,qq,pu vx,1wc,0m S-SHAPED BAG DELIMITER,p S-SHAPED BAG DELIMITER,OR z ft kl",
   "sc uz PRECEDING vx,wc PRECEDING uz,x bp z j t,no sr ff,na fq,no hf ff,vi my b,2OR",
   "0y fi z cw ft,b z ft,gm OF OPENING yr,ne p eb z ft,yp m eb z ft,m OUTER JOIN,p OUTER JOIN",
   "id OUTER JOIN,mh UP wh,1fz wh,0m b p g yb,3wh,1MULTIMAP,0na p wh,1m wh,0UP wh z dg a",
   "nf DIVIDED BY j RULE,y CONCAVE-SIDED fi,3z n TICK,4q TICK,1vh z n TICK,3q TICK,0no m y vh cg",
   "1p y vh cg,m ap cg,p ap cg,m g ap cg,p g ap cg,m y xn uc cg,p y xn uc cg,m FLATTENED qk",
   "p FLATTENED qk,0yr rq c,gb rq c,aq GAPPED dg c,dm GAPPED dg c,p c z dh qz,na n c,1q c,m p c",
   "n g c,q g c,m p g c,n c ic bp,q c ic bp,n g c ic bp,q g c ic bp,2SQUIGGLE c",
   "0BRAILLE PATTERN BLANK,2DOTS-1*1,DOTS-12,DOTS-3,DOTS-13,DOTS-23,DOTS-123,DOTS-4,DOTS-14",
   "DOTS-24,DOTS-124,DOTS-34,DOTS-134,DOTS-234,DOTS-1234,DOTS-5,DOTS-15,DOTS-25,DOTS-125,DOTS-35",
   "DOTS-135,DOTS-235,DOTS-1235,DOTS-45,DOTS-145,DOTS-245,DOTS-1245,DOTS-345,DOTS-1345,DOTS-2345",
   "DOTS-12345,DOTS-6,DOTS-16,DOTS-26,DOTS-126,DOTS-36,DOTS-136,DOTS-236,DOTS-1236,DOTS-46",
   "DOTS-146,DOTS-246,DOTS-1246,DOTS-346,DOTS-1346,DOTS-2346,DOTS-12346,DOTS-56,DOTS-156",
   "DOTS-256,DOTS-1256,DOTS-356,DOTS-1356,DOTS-2356,DOTS-12356,DOTS-456,DOTS-1456,DOTS-2456",
   "DOTS-12456,DOTS-3456,DOTS-13456,DOTS-23456,DOTS-123456,DOTS-7,DOTS-17,DOTS-27,DOTS-127",
   "DOTS-37,DOTS-137,DOTS-237,DOTS-1237,DOTS-47,DOTS-147,DOTS-247,DOTS-1247,DOTS-347,DOTS-1347",
   "DOTS-2347,DOTS-12347,DOTS-57,DOTS-157,DOTS-257,DOTS-1257,DOTS-357,DOTS-1357,DOTS-2357",
   "DOTS-12357,DOTS-457,DOTS-1457,DOTS-2457,DOTS-12457,DOTS-3457,DOTS-13457,DOTS-23457",
   "DOTS-123457,DOTS-67,DOTS-167,DOTS-267,DOTS-1267,DOTS-367,DOTS-1367,DOTS-2367,DOTS-12367",
   "DOTS-467,DOTS-1467,DOTS-2467,DOTS-12467,DOTS-3467,DOTS-13467,DOTS-23467,DOTS-123467,DOTS-567",
   "DOTS-1567,DOTS-2567,DOTS-12567,DOTS-3567,DOTS-13567,DOTS-23567,DOTS-123567,DOTS-4567",
   "DOTS-14567,DOTS-24567,DOTS-124567,DOTS-34567,DOTS-134567,DOTS-234567,DOTS-1234567,DOTS-8",
   "DOTS-18,DOTS-28,DOTS-128,DOTS-38,DOTS-138,DOTS-238,DOTS-1238,DOTS-48,DOTS-148,DOTS-248",
   "DOTS-1248,DOTS-348,DOTS-1348,DOTS-2348,DOTS-12348,DOTS-58,DOTS-158,DOTS-258,DOTS-1258",
   "DOTS-358,DOTS-1358,DOTS-2358,DOTS-12358,DOTS-458,DOTS-1458,DOTS-2458,DOTS-12458,DOTS-3458",
   "DOTS-13458,DOTS-23458,DOTS-123458,DOTS-68,DOTS-168,DOTS-268,DOTS-1268,DOTS-368,DOTS-1368",
   "DOTS-2368,DOTS-12368,DOTS-468,DOTS-1468,DOTS-2468,DOTS-12468,DOTS-3468,DOTS-13468,DOTS-23468",
   "DOTS-123468,DOTS-568,DOTS-1568,DOTS-2568,DOTS-12568,DOTS-3568,DOTS-13568,DOTS-23568",
   "DOTS-123568,DOTS-4568,DOTS-14568,DOTS-24568,DOTS-124568,DOTS-34568,DOTS-134568,DOTS-234568",
   "DOTS-1234568,DOTS-78,DOTS-178,DOTS-278,DOTS-1278,DOTS-378,DOTS-1378,DOTS-2378,DOTS-12378",
   "DOTS-478,DOTS-1478,DOTS-2478,DOTS-12478,DOTS-3478,DOTS-13478,DOTS-23478,DOTS-123478,DOTS-578",
   "DOTS-1578,DOTS-2578,DOTS-12578,DOTS-3578,DOTS-13578,DOTS-23578,DOTS-123578,DOTS-4578",
   "DOTS-14578,DOTS-24578,DOTS-124578,DOTS-34578,DOTS-134578,DOTS-234578,DOTS-1234578,DOTS-678",
   "DOTS-1678,DOTS-2678,DOTS-12678,DOTS-3678,DOTS-13678,DOTS-23678,DOTS-123678,DOTS-4678",
   "DOTS-14678,DOTS-24678,DOTS-124678,DOTS-34678,DOTS-134678,DOTS-234678,DOTS-1234678,DOTS-5678",
   "DOTS-15678,DOTS-25678,DOTS-125678,DOTS-35678,DOTS-135678,DOTS-235678,DOTS-1235678,DOTS-45678",
   "DOTS-145678,DOTS-245678,DOTS-1245678,DOTS-345678,DOTS-1345678,DOTS-2345678,DOTS-12345678",
   "0q yh c z x t,4g x t,0n g c z x t,q g c z x t,m p g c z x t,q yh c ic bp,n g c ic bp",
   "q g c ic bp,gb c z j t,yr c z j t,1xt c,0gb xt c,n g ev c,q g ev c,n xt ev c,q xt ev c",
   "1yh xt ev c,c z fw STEM,0yr c TO bp,gb c TO bp,q c z wj z x t,5g x t,1yh c z wj,5z x t",
   "6g x t,0n bc,q bc,n g bc,q g bc,n c TO e fi,q c TO e fi,n c ic bp TO e fi,q c ic bp TO e fi",
   "oz zg b vb ge c,1ge b vb zg c,zg c z ju,ge c z ju,0vb ge c z ju,1zg c z ju",
   "0oz zg c b oz ge c,1ge c b vb ge c,0vb ge c b vb zg c,1zg c b oz zg c,0sr ff ei hf ff",
   "hf ff ei sr ff,vb ge c ei oz ge c,oz ge c ei vb ge c,hf ff ei oz ge c,sr ff ei vb ge c",
   "oz ge c ei oz zg c,1zg c ei oz ge c,0ze c rc DIRECTLY p,c rc q THEN CURVING yr,5gb",
   "2gb THEN CURVING n,5q,0RIGHT-SIDE ARC dm c,LEFT-SIDE ARC aq c,xm ARC aq c,ce ARC aq c",
   "xm ARC dm c z nx,2aq c z qz,0ne p SEMICIRCULAR dm c,1m SEMICIRCULAR aq c,0aq dn dg c",
   "dm dn dg c,q c a uf n c,n c a uf q c,uf q c a n c,q c z qz d,n c z qz d,q c xe X",
   "m p c xe s dg,yr yh c ic s dg,m bq UP p bq fz ji,2fz p bq UP ji,0UP bq p fz bq m ji",
   "2m fz bq p ji,0m bq UP p bq UP ji,UP bq p fz bq p ji,m bq fz p bq fz ji,UP bq m fz bq m ji",
   "n ji z bq UP TO bp,q ji z bq UP TO bp,yr ji z bq p TO bp,gb ji z bq p TO bp",
   "n ji z bq fz TO bp,q ji z bq fz TO bp,yr ji z bq m TO bp,gb ji z bq m TO bp",
   "n ji z bq UP ic bp,q ji z bq UP ic bp,yr ji z bq p ic bp,gb ji z bq p ic bp",
   "n ji z bq fz ic bp,q ji z bq fz ic bp,yr ji z bq m ic bp,gb ji z bq m ic bp",
   "n ji z bq UP a n ji z bq fz,yr ji z bq m bu yr ji z bq p,q ji z bq UP a q ji z bq fz",
   "gb ji z bq m bu gb ji z bq p,n ji z bq UP a q ji z bq UP,4fz a q ji z bq fz",
   "0q ji z bq UP a n ji z bq UP,4fz a n ji z bq fz,0n ji z bq UP a na ev,4fz d na ev",
   "0q ji z bq UP a na ev,4fz d na ev,0yr ji z bq m bu gb ji z bq p,gb ji z bq m bu yr ji z bq p",
   "p g c z sx jj,gt r a q c,xh pv a q c,n c a xh pv,q c a xh pv,3aj gs TO,0ms a n c,n c xe ms",
   "iq a q c,vx a q c,n c xe vx,wc a n c,m FISH wj,p FISH wj,UP FISH wj,fz FISH wj",
   "xt x bp DELIMITER,Z pb SPOT,2TYPE dp,0m y el cg,p y el cg,m y qk,p y qk,Z pb m kf cg",
   "2p kf cg,m BINDING cg,p BINDING cg,0m vh cg z yl,p vh cg z yl,m vh cg z TICK IN xm eb",
   "p vh cg z TICK IN ce eb,m vh cg z TICK IN ce eb,p vh cg z TICK IN xm eb,m ap cg z ft",
   "p ap cg z ft,m ARC ms cg,p ARC iq cg,g m ARC iq cg,1p ARC ms cg,0m e xn uc cg,p e xn uc cg",
   "fw FENCE,x zz mv,nq ap OPENING m,p ap yt z vh,nq p ap z ft,ap z S kl,ae ap",
   "SPHERICAL ap OPENING m,3UP,0ya ap,sd ap,ap z yl,sd ap z yl,pl ap OPENING UP,3fz",
   "0nq ap z pu ARM ENDING IN c rc UP b p,9UP b m,fz b p,fz b m,p b UP,m b UP,p b fz,m b fz",
   "0sd EMPTY SET,EMPTY SET z qc,3s dg a,p c a,m c a,0dg z j bp,dh x bp,1qj,sc uz,qq",
   "0dg DIVIDED BY j bp b xm iv DIVIDED BY x bp,1z SUPERIMPOSED X,0dh ANTICLOCKWISE-ROTATED fq r",
   "UP c xe dg,dh y ck,1ck,ms,iq,0dg z s dg TO ws p,2yg j STROKES TO ws p,0vi sr ff uw,1hf ff uw",
   "bh,s dg,vh,0yg JOINED SQUARES,xr z ft a,2yl,0S IN xr,xr z SERIFS AT ce,p xr a m xr",
   "m xr bu x bp,x bp bu p xr,BOWTIE z m iv e,2p iv e,0e BOWTIE,xi z m iv e,2p iv e,0y HOURGLASS",
   "e HOURGLASS,m WIGGLY FENCE,p WIGGLY FENCE,m g WIGGLY FENCE,p g WIGGLY FENCE,INCOMPLETE kj",
   "TIE qb kj,kj NEGATED z x bp,DOUBLE-ENDED MULTIMAP,vh z CONTOURED OUTLINE,INCREASES AS",
   "SHUFFLE rj,gt r b uv qj,5z xh a,0IDENTICAL TO b uv qj,GLEICH STARK,THERMODYNAMIC",
   "ga xr z m iv e,3p iv e,0e fi z fz c,1nf,0y dg z fz c,e dg z fz c,ERROR-BARRED y vh,1e vh",
   "y fi,e fi,y dg,e dg,0RULE-DELAYED,sc uz pv,uz z qc,sc uz z j t,BIG uz,1sc uz,0g qz,xt qz",
   "mm eo ap cg,sn eo ap cg,TINY,MINY,N-ARY dh ft pv,2qz pv,xi pv,1ym pv z ft,4qz,1vh kp pv",
   "2ym pv,0yg my b pv,2OR pv,0N-ARY xi pv,MODULO yg SUM,SUMMATION z kn,rq kn pv,FINITE PART kn",
   "kn z g t,1AVERAGE z uw,0CIRCULATION FUNCTION,aq INTEGRATION",
   "mv INTEGRATION z RECTANGULAR PATH AROUND POLE,3SEMICIRCULAR PATH AROUND POLE",
   "2pa INCLUDING ws POLE,0kn AROUND A ra pv,QUATERNION kn pv,kn z n c z ju,2xi r,kp,ym,qc,yl",
   "0JOIN,mh m xr pv,Z pb SCHEMA COMPOSITION,3PIPING,PROJECTION,0qz r z s dg a,3dk ac a,xh a",
   "ft d,xh d,vw yg,e xr,0nx r z dr a,3ft d,hf fv,sr fv,0qz r IN m iv dg,3p iv dg",
   "0VECTOR OR ef rj,oh r z ft a,3yl,0to rj z ce dn,SMASH rj,oh r IN m iv dg,3p iv dg",
   "0dh oh r z dk ac,oh r IN g dg,dh fq r,qz r IN xr,nx r IN xr,oh r IN xr,INTERIOR rj",
   "RIGHTHAND INTERIOR rj,Z pb RELATIONAL COMPOSITION,AMALGAMATION OR COPRODUCT,kp z ft",
   "ym z nx r,2qc,0kp z qc,2my b,0ym z my OR,1a kp,0kp a ym,ym a bp a kp,kp a bp a ym",
   "ym bu b JOINED z ym,kp bu b JOINED z kp,dn ym z SERIFS,1kp z SERIFS,0g vh kp,2ym",
   "0dn ym z SERIFS b SMASH rj,my b z ft a,1OR z ft a,0g my b,2OR,0yg INTERSECTING my b,3OR",
   "0SLOPING mh OR,2b,0my OR OVERLAPPING my b,1b z nu STEM,OR z nu STEM,b z j ev,OR z j ev",
   "b z g qc,3yl,g yl,0s VEE z yl,my OR z g qc,4yl,0Z pb DOMAIN ANTIRESTRICTION",
   "2RANGE ANTIRESTRICTION,0gt r z ft d,IDENTICAL z ft a,xt j bp z g x t,4xt x t,0xh pv z ft a",
   "3sr fv,0um nx um,CONGRUENT z ft a,gt z bh,aj gs TO z dk ac,aw gs OR gs TO,gt r a qz r",
   "qz r a gt r,gt r a xh pv,g dp gs,yg CONSECUTIVE gt SIGNS,v CONSECUTIVE gt SIGNS",
   "gt r z yg fv a b yg fv d,gw z hz fv a,ms z dg kl,iq z dg kl,ms z ru nm a,iq z ru nm a",
   "ms OR uv gs TO,iq OR uv gs TO,ms OR uv gs TO z ft kl,iq OR uv gs TO z ft kl",
   "ms OR uv gs TO z ft a,iq OR uv gs TO z ft a,ms OR uv gs TO z ft a p,iq OR uv gs TO z ft a m",
   "ms OR av,iq OR av,ms b up pa gs TO,iq b up pa gs TO,ms b pa av,iq b pa av,ms a fx gs a iq",
   "iq a fx gs a ms,ms a um OR gs,iq a um OR gs,ms a um a iq,iq a um a ms,ms a iq a fx gs",
   "iq a ms a fx gs,ms a uv gs a iq a uv gs,iq a uv gs a ms a uv gs,uv gs TO OR ms,4iq",
   "ms z ft kl,iq z ft kl,0fx gs TO OR ms,4iq,1uv gs TO OR ms,5iq,0um OR ms,2iq,1a ms a gt r",
   "2iq a gt r,0g NESTED ms,2iq,ms z yl,0iq OVERLAPPING ms,1bu ms,0ms dn BY en,iq dn BY en",
   "ms dn BY en a uv gs,iq dn BY en a uv gs,SMALLER THAN,LARGER THAN,SMALLER THAN OR gs TO",
   "LARGER THAN OR gs TO,gt r z BUMPY a,rf a up gt r,wa a up gt r,rf a up pa gs TO",
   "wa a up pa gs TO,rf a gt r,wa a gt r,rf a pa gs TO,wa a pa gs TO,rf a aj gs TO,wa a aj gs TO",
   "rf a pa aj gs TO,wa a pa aj gs TO,g rf,1wa,0vx z ft,wc z ft,vx z qz r d,wc z qz r d",
   "vx z oh r d,wc z oh r d,vx OF OR gs TO z ft a,wc OF OR gs TO z ft a,vx OF a gt r",
   "wc OF a gt r,vx OF a xh pv,wc OF a xh pv,vx OF a aj gs TO,wc OF a aj gs TO,vx OF a pa gs TO",
   "wc OF a pa gs TO,vh m pu cf pv,1p pu cf pv,0dn vx,1wc,vx OR gs TO,wc OR gs TO,0vx a wc",
   "wc a vx,vx a vx,wc a wc,1bu vx,2b JOINED BY ev z vx,0gm OF OPENING gb,PITCHFORK z TEE xm",
   "TRANSVERSAL kp,FORKING,NONFORKING,uf m wh,1fz wh,UP wh,0qq z S,x bp xt p yb,g x bp m yb",
   "x bp g m yb,g x bp g m yb,na ev ic m MEMBER OF g x,uf fz wh z qc,1UP wh z yl,3a uf fz wh",
   "0g fz wh,1UP wh,t pa r,0sd g t pa r,DOES pa DIVIDE z sd NEGATION uw,x mv z dg a,4d",
   "0fz wh z dg d,qj z j t,2xh pv,0xt x bp BINARY RELATION,3z j t,1dp pv,NESTED ms,2iq",
   "0fx uv ms OR gs TO,2iq OR gs TO,0xt uz BINARY RELATION,mh xt x bp pv,g uz pv,y x bp",
   "N-ARY y x bp,oz ge y c,1zg y c,0vb ge y c,1zg y c,0m p y c,n e c,yr e c,gb e c,oz ge e c",
   "1zg e c,0vb ge e c,1zg e c,0m p e c,UP fz e c,q c z TIP gb,4yr,0n c z TIP gb,4yr",
   "0vh z xm iv e,2ce iv e,yp p ff iv e,ne m ff iv e,0fi z m iv e,2p iv e,xm iv e,ce iv e,0fw vh",
   "e mh vh,y mh vh,e yw s vh,y yw s vh,e qo,y qo,1HEXAGON,0e HEXAGON,j e HEXAGON,e mh dg,1ns fi",
   "0y ns fi,e ns nf,y ns nf,e s fi,2nf,0y s nf,e j ELLIPSE,y j ELLIPSE,e x ELLIPSE,y x ELLIPSE",
   "m c z s dg,v n bf,m c z dh qz,na n SQUIGGLE c,n yh c z x t,4g x t,3ic bp,2xt ev c",
   "1c z fw STEM,3wj z x t,5g x t,1yh c z wj,5z x t,6g x t,1c xe X,0ze c rc DIRECTLY m",
   "gt r a n c,sc xh pv a n c,n c a sc aj gs TO,q c xe iq,3wc,0n rq c,q rq c,sc xh pv a q c",
   "q c a sc aj gs TO,xh pv a n c,n c a aj gs TO,3sc xh pv,0q c a sc xh pv,gb w zz c,uf uv oz c",
   "1BACKSLANTED vb c,0y ns vo,e s vo,y s vo,e sn qo,y sn qo,jm mh dg,1OVAL z OVAL kl,dg z dg kl",
   "2,1dh tb,0uv oz c z HOOKED jj,BACKSLANTED vb c z HOOKED wj,uv oz c z j wj",
   "BACKSLANTED vb c z j wj,bt c rc gb THEN oz ge,uf bt c rc gb THEN oz ge,n w c,yr w c,q w c",
   "gb w c,m p w c,UP fz w c,oz zg w c,1ge w c,0vb ge w c,1zg w c,0n w ew c,yr w ew c,q w ew c",
   "gb w ew c,dm w pu dg c,aq w pu dg c,n w c TO bp,yr w c TO bp,q w c TO bp,gb w c TO bp",
   "2b76:oz zg w c TO bp,1ge w c TO bp,0vb ge w c TO bp,1zg w c TO bp,0n w c z g j t",
   "yr w c z g j t,q w c z g j t,gb w c z g j t,j TAB KEY,x TAB KEY,n w c qb q w c",
   "yr w c n OF gb w c,q w c qb n w c,gb w c n OF yr w c,n w qg bf,yr w qg bf,q w qg bf",
   "gb w qg bf,n e dh y c,yr e dh y c,q e dh y c,gb e dh y c,aq w p yi c,2ce yi c,m yi c,xm yi c",
   "0RETURN m,1p,0NEWLINE m,1p,0hz eb bf CIRCLING aq,q e c,2b97:u hw TYPE A ELECTRONICS",
   "THREE-D TOP-LIGHTED n gv bd,1RIGHT-LIGHTED yr gv bd,TOP-LIGHTED q gv bd",
   "LEFT-LIGHTED gb gv bd,0e n gv bd,1yr gv bd,q gv bd,gb gv bd,0gb w c z na TIP n,6q",
   "0yr w c z na TIP n,6q,0n w c z na TIP yr,q w c z na TIP yr,n w c z na TIP gb",
   "q w c z na TIP gb,e eo gb b n c,4q c,2yr b n c,4q c,2n b yr c,q b yr c,n b gb c,q b gb c",
   "0RIBBON c fz m,3p,2UP m,3p,2m UP,p UP,m fz,p fz,0yr y c ic bp z j bp,UP bd IN A rx cf",
   "OVERLAPPING y SQUARES,2b e SQUARES,1e SQUARES,0bn cf z mu X,dh X,1cd X,0e vh cw,1fi cw",
   "0ya e qo,j e OCTAGON,e OCTAGON,1ns yn xr cw,2ga xr cw,mm xr cw,sn xr cw,0NEPTUNE i yg",
   "xm iv e dg,ce iv e dg,mu hz rb e CUSP,st mu hz rb e CUSP,y hz rb CUSP,st y hz rb CUSP",
   "vh POSITION ki,UNCERTAINTY r,GROUP nm,PLUTO i yg,2v,hz,hr,0TRANSPLUTO,PROSERPINA,ASTRAEA",
   "HYGIEA,PHOLUS,NESSUS,y oa SELENA,e fi ON ef,TRUE mu oa ARTA,CUPIDO,HADES,ZEUS,KRONOS,APOLLON",
   "ADMETOS,VULCANUS,POSEIDON,m iv e vo,p iv e vo,vo z m iv e,2p iv e,0n yh c z xr be",
   "yr yh c z xr be,q yh c z xr be,gb yh c z xr be,ERIS i ps,2yg,0SEDNA",
   "RUSSIAN ASTROLOGICAL u VIGINTILE,3NOVILE,QUINTILE,BINOVILE,SENTAGON,TREDECILE,0gt r z kj d",
   "UNITED u,SEPARATED u,DOUBLED u,PASSED u,sd p ap,HELLSCHREIBER PAUSE u"]

end LineScript.Text.Name
