/-!
# Presentation forms

The names of ligatures, of positional forms of Arabic letters, and of half and full width forms: the
code points from F900 to FFFF.
-/

namespace LineScript.Text.Name

/-- The names in the order of their code points; `Reading.entry` says how they are written. -/
def forms : List String :=
  ["fb00:0mj s mt FF,3FI,FL,FFI,FFL,na S T,ST,fb13:0bb s mt MEN NOW,4ECH,INI,3VEW NOW,MEN XEH",
   "fb1d:0HEBREW o YOD z HIRIQ,1ra JUDEO-SPANISH VARIKA,mt YIDDISH YOD YOD PATAH",
   "o ALTERNATIVE AYIN,2WIDE ah,3DALET,HE,le,LAMED,h MEM,rz,TAV,2ALTERNATIVE qz r,ue z ue ft",
   "4SIN ft,eq b ue ft,6SIN ft,2ah z PATAH,4QAMATS,MAPIQ,2BET z eq,im z eq,DALET z eq,HE z MAPIQ",
   "VAV z eq,zw z eq,fb38:TET z eq,YOD z eq,h le z eq,le z eq,LAMED z eq,fb3e:MEM z eq",
   "fb40:pj z eq,tc z eq,fb43:h PE z eq,PE z eq,fb46:TSADI z eq,QOF z eq,rz z eq,ue z eq",
   "TAV z eq,VAV z HOLAM,BET z RAFE,le z RAFE,PE z RAFE,1mt ah LAMED,0ax o ah WASLA l i,4h i",
   "2BEEH l i,3h i,k i,nr i,2PEH l i,3h i,k i,nr i,2BEHEH l i,3h i,k i,nr i,2TTEHEH l i,3h i,k i",
   "nr i,2TEHEH l i,3h i,k i,nr i,2TTEH l i,3h i,k i,nr i,2VEH l i,3h i,k i,nr i,2PEHEH l i,3h i",
   "k i,nr i,2DYEH l i,3h i,k i,nr i,2NYEH l i,3h i,k i,nr i,2TCHEH l i,3h i,k i,nr i",
   "2TCHEHEH l i,3h i,k i,nr i,2DDAHAL l i,3h i,2DAHAL l i,3h i,2DUL l i,3h i,2DDAL l i,3h i",
   "2JEH l i,3h i,2RREH l i,3h i,2KEHEH l i,3h i,k i,nr i,2GAF l i,3h i,k i,nr i,2GUEH l i,3h i",
   "k i,nr i,2NGOEH l i,3h i,k i,nr i,2ox GHUNNA l i,4h i,2RNOON l i,3h i,k i,nr i",
   "2jn z zo a l i,6h i,3GOAL l i,4h i,k i,nr i,3DOACHASHMEE l i,4h i,k i,nr i,2zo BARREE l i",
   "4h i,z iw a l i,7h i,1u ft a,3d,2yg fv a,4d,2v fv a,4d,rc gb a,6d,2hz fv a,4d,2g x bp d",
   "yg fv yv a,5d,2sq,s wi a,4d,2WASLA a,fbd3:1o NG l i,3h i,k i,nr i,2U l i,3h i,2OE l i,3h i",
   "2YU l i,3h i,2U z iw a l i,VE l i,3h i,2KIRGHIZ OE l i,4h i,3YU l i,4h i,2E l i,3h i,k i",
   "nr i,2UIGHUR KAZAKH KIRGHIZ ah nl k i,7nr i,1mt zo z iw a z ah l i,8h i,7AE l i,8h i,7zf l i",
   "8h i,7U l i,8h i,7OE l i,8h i,7YU l i,8h i,7E l i,8h i,k i",
   "2UIGHUR KIRGHIZ zo z iw a z ah nl l i,9ah nl h i,ah nl k i,1o FARSI zo l i,4h i,k i,nr i",
   "1mt zo z iw a z la l i,7iu l i,nt l i,ah nl l i,zo l i,2BEH z la l i,4iu l i,lt l i,nt l i",
   "ah nl l i,zo l i,2TEH z la l i,4iu l i,lt l i,nt l i,ah nl l i,zo l i,2wt z la l i,4nt l i",
   "ah nl l i,zo l i,2la z iu l i,4nt l i,2iu z la l i,4nt l i,2lt z la l i,4iu l i,nt l i",
   "2tl z la l i,4iu l i,lt l i,nt l i,2sz z iu l i,4nt l i,2DAD z la l i,4iu l i,lt l i,nt l i",
   "2wi z iu l i,4nt l i,2ZAH z nt l i,af z la l i,4nt l i,2il z la l i,4nt l i,2FEH z la l i",
   "4iu l i,lt l i,nt l i,ah nl l i,zo l i,2rn z iu l i,4nt l i,ah nl l i,zo l i,2le z ah l i",
   "4la l i,iu l i,lt l i,me l i,nt l i,ah nl l i,zo l i,2me z la l i,4iu l i,lt l i,nt l i",
   "ah nl l i,zo l i,2nt z la l i,4iu l i,lt l i,nt l i,ah nl l i,zo l i,2ox z la l i,4iu l i",
   "lt l i,nt l i,ah nl l i,zo l i,2jn z la l i,4nt l i,ah nl l i,zo l i,2zo z la l i,4iu l i",
   "lt l i,nt l i,ah nl l i,zo l i,2THAL z wb ah l i,ry z wb ah l i,ah nl z wb ah l i",
   "SHADDA z et l i,4ln l i,hg l i,es l i,lm l i,wb ah l i,2zo z iw a z ry h i,7zt h i,nt h i",
   "ox h i,ah nl h i,zo h i,2BEH z ry h i,4zt h i,nt h i,ox h i,ah nl h i,zo h i,2TEH z ry h i",
   "4zt h i,nt h i,ox h i,ah nl h i,zo h i,2wt z ry h i,4zt h i,nt h i,ox h i,ah nl h i,zo h i",
   "2FEH z ah nl h i,4zo h i,2rn z ah nl h i,4zo h i,2le z ah h i,4me h i,nt h i,ah nl h i",
   "zo h i,2me z nt h i,4ah nl h i,zo h i,2nt z ah h i,4nt h i,2ox z ry h i,4zt h i,nt h i",
   "ox h i,ah nl h i,zo h i,2ah nl z wb ah h i,zo z ry h i,4zt h i,nt h i,ox h i,ah nl h i",
   "zo h i,iw a z la k i,7iu k i,lt k i,nt k i,jn k i,2BEH z la k i,4iu k i,lt k i,nt k i,jn k i",
   "2TEH z la k i,4iu k i,lt k i,nt k i,jn k i,2wt z nt k i,la z iu k i,4nt k i,2iu z la k i",
   "4nt k i,2lt z la k i,4nt k i,2tl z la k i,4iu k i,lt k i,nt k i,2sz z iu k i,4lt k i,nt k i",
   "2DAD z la k i,4iu k i,lt k i,nt k i,2wi z iu k i,ZAH z nt k i,af z la k i,4nt k i",
   "2il z la k i,4nt k i,2FEH z la k i,4iu k i,lt k i,nt k i,2rn z iu k i,4nt k i,2le z la k i",
   "4iu k i,lt k i,me k i,nt k i,2me z la k i,4iu k i,lt k i,nt k i,jn k i,2nt z la k i,4iu k i",
   "lt k i,nt k i,2ox z la k i,4iu k i,lt k i,nt k i,jn k i,2jn z la k i,4nt k i,wb ah k i",
   "2zo z la k i,4iu k i,lt k i,nt k i,jn k i,iw a z nt nr i,7jn nr i,2BEH z nt nr i,4jn nr i",
   "2TEH z nt nr i,4jn nr i,2wt z nt nr i,4jn nr i,2tl z nt nr i,4jn nr i,2ub z nt nr i,4jn nr i",
   "2le z me nr i,4nt nr i,2me z nt nr i,ox z nt nr i,4jn nr i,2zo z nt nr i,4jn nr i",
   "2SHADDA z hg nr i,4es nr i,lm nr i,2wi z ah nl l i,4zo l i,2af z ah nl l i,4zo l i",
   "2il z ah nl l i,4zo l i,2tl z ah nl l i,4zo l i,2ub z ah nl l i,4zo l i,2iu z ah nl l i",
   "4zo l i,2la z ah nl l i,4zo l i,2lt z ah nl l i,4zo l i,2sz z ah nl l i,4zo l i",
   "2DAD z ah nl l i,4zo l i,2ub z la l i,4iu l i,lt l i,nt l i,ry l i,2tl z ry l i,sz z ry l i",
   "DAD z ry l i,wi z ah nl h i,4zo h i,2af z ah nl h i,4zo h i,2il z ah nl h i,4zo h i",
   "2tl z ah nl h i,4zo h i,2ub z ah nl h i,4zo h i,2iu z ah nl h i,4zo h i,2la z ah nl h i",
   "4zo h i,2lt z ah nl h i,4zo h i,2sz z ah nl h i,4zo h i,2DAD z ah nl h i,4zo h i",
   "2ub z la h i,4iu h i,lt h i,nt h i,ry h i,2tl z ry h i,sz z ry h i,DAD z ry h i,ub z la k i",
   "4iu k i,lt k i,nt k i,2tl z jn k i,ub z jn k i,wi z nt k i,tl z la nr i,4iu nr i,lt nr i",
   "2ub z la nr i,4iu nr i,lt nr i,2wi z nt nr i,ZAH z nt nr i,ah z hh h i,5l i,0ORNATE m qk",
   "1p qk,0ax mt RAHIMAHU ALLAAH,2RADI ALLAAHU ANH,4ANHAA,ANHUM,ANHUMAA,ANHUNNA",
   "2SALLALLAAHU ALAYHI WA-AALIH,ALAYHI AS-SALAAM,ALAYHIM AS-SALAAM,ALAYHIMAA AS-SALAAM",
   "ALAYHI AS-SALAATU WAS-SALAAM,QUDDISA SIRRAH,SALLALLAHU ALAYHI WAAALIHEE WA-SALLAM",
   "ALAYHAA AS-SALAAM,TABAARAKA WA-TAAALAA,RAHIMAHUM ALLAAH,TEH z la z nt k i,4iu z la h i,7k i",
   "6nt k i,4lt z nt k i,nt z la k i,6iu k i,lt k i,2la z nt z iu h i,7k i,2iu z nt z zo h i",
   "6ah nl h i,2tl z iu z la k i,4la z iu k i,6ah nl h i,4nt z iu h i,7k i,6la k i,nt h i,7k i",
   "2sz z iu z iu h i,7k i,4nt z nt h i,2ub z iu z nt h i,7k i,4la z zo h i,nt z lt h i,7k i",
   "6nt h i,7k i,2DAD z iu z ah nl h i,4lt z nt h i,7k i,2wi z nt z iu h i,7k i,6nt k i,zo h i",
   "2af z la z nt h i,4nt z nt h i,7k i,6ah nl h i,2il z nt z nt h i,6zo h i,ah nl h i",
   "2FEH z lt z nt h i,7k i,2rn z nt z iu h i,6nt h i,2me z iu z nt h i,6zo h i,ah nl h i",
   "4la z la k i,7h i,4lt z nt h i,7k i,4nt z iu h i,7k i,2nt z iu z la k i,6nt k i,zo h i",
   "4la z iu k i,6nt k i,4lt z la k i,6nt k i,fd92:4la z lt k i,2jn z nt z la k i,6nt k i",
   "2ox z iu z nt k i,6ah nl h i,4la z nt h i,7k i,6ah nl h i,4nt z zo h i,6ah nl h i",
   "2zo z nt z nt h i,7k i,2BEH z lt z zo h i,TEH z la z zo h i,6ah nl h i,4lt z zo h i",
   "6ah nl h i,4nt z zo h i,6ah nl h i,2la z nt z zo h i,4iu z ah nl h i,nt z ah nl h i",
   "2tl z lt z ah nl h i,sz z iu z zo h i,ub z iu z zo h i,DAD z iu z zo h i,me z la z zo h i",
   "4nt z zo h i,2zo z iu z zo h i,4la z zo h i,nt z zo h i,2nt z nt z zo h i,rn z nt z zo h i",
   "ox z iu z zo h i,rn z nt z iu k i,me z iu z nt k i,af z nt z zo h i,le z nt z zo h i",
   "ox z la z iu k i,nt z lt z zo h i,me z la z nt k i,le z nt z nt h i,me z la z nt h i",
   "ox z la z iu h i,la z iu z zo h i,iu z la z zo h i,nt z la z zo h i,FEH z nt z zo h i",
   "BEH z iu z zo h i,le z nt z nt k i,af z la z nt k i,sz z nt z nt k i,tl z lt z zo h i",
   "ox z la z zo h i,fdcf:SALAAMUHU ALAYNAA,fdf0:SALLA USED AS KORANIC vr r l i",
   "QALA USED AS KORANIC vr r l i,ALLAH l i,AKBAR l i,MOHAMMAD l i,SALAM l i,RASOUL l i",
   "ALAYHE l i,WASALLAM l i,SALLA l i,SALLALLAHOU ALAYHE WASALLAM,JALLAJALALOUHOU,0RIAL r",
   "ax mt BISMILLAH AR-RAHMAN AR-RAHEEM,2SUBHAANAHU WA TAAALAA,AZZA WA JALL,0yu SELECTOR-1*15",
   "rg i hw x dr,4kc dr,5id vr,4dp,tn,gx nm,ru nm,m y mr cg,p y mr BRAKCET,j go,fe20:0dq mt m iv",
   "2p iv,1g xh m iv,3p iv,1nh m iv,2p iv,1CONJOINING nh,mt m iv d,2p iv d,1xh m iv d,2p iv d",
   "1nh m iv d,2p iv d,1CONJOINING nh d,ep TITLO m iv,3p iv,0rg i hw x yg ft LEADER,4EM ev,EN ev",
   "nd mv,WAVY nd mv,m qk,p qk,m el cg,p el cg,m xn uc cg,p xn uc cg,m e mr cg,p e mr cg",
   "m g ap cg,p g ap cg,m ap cg,p ap cg,m eb cg,p eb cg,m y eb cg,p y eb cg,0SESAME ft",
   "y SESAME ft,rg i hw x m vh cg,4p vh cg,0ew qe,CENTRELINE qe,WAVY qe,g WAVY qe,ew nd mv",
   "CENTRELINE nd mv,WAVY nd mv,s dr,1kc dr,id vr,fe54:tn,dp,ru nm,gx nm,EM ev,m qk,p qk,m el cg",
   "p el cg,m xn uc cg,p xn uc cg,ph r,ao,bh,qz r,jz,ms r,iq r,gt r,fe68:sc uz,fs r,PERCENT r",
   "ds AT,fe70:0ax hh l i,1TATWEEL z hh a,et l i,wj FRAGMENT,ln l i,fe76:hg l i,2nr i,1es l i",
   "2nr i,1lm l i,2nr i,1SHADDA l i,2nr i,1SUKUN l i,2nr i,1o iw l i,2ah z ni a l i,6h i",
   "4iw a l i,6h i,2zf z iw a l i,6h i,2ah z iw d l i,6h i,2zo z iw a l i,6h i,k i,nr i,2ah l i",
   "3h i,2BEH l i,3h i,k i,nr i,2TEH MARBUTA l i,4h i,3l i,h i,k i,nr i,2wt l i,3h i,k i,nr i",
   "2la l i,3h i,k i,nr i,2iu l i,3h i,k i,nr i,2lt l i,3h i,k i,nr i,2DAL l i,3h i,2THAL l i",
   "3h i,2ry l i,3h i,2zt l i,3h i,2tl l i,3h i,k i,nr i,2ub l i,3h i,k i,nr i,2sz l i,3h i,k i",
   "nr i,2DAD l i,3h i,k i,nr i,2wi l i,3h i,k i,nr i,2ZAH l i,3h i,k i,nr i,2af l i,3h i,k i",
   "nr i,2il l i,3h i,k i,nr i,2FEH l i,3h i,k i,nr i,2rn l i,3h i,k i,nr i,2le l i,3h i,k i",
   "nr i,2me l i,3h i,k i,nr i,2nt l i,3h i,k i,nr i,2ox l i,3h i,k i,nr i,2jn l i,3h i,k i,nr i",
   "2zf l i,3h i,2ah nl l i,4h i,2zo l i,3h i,k i,nr i,1mt me z ah z ni a l i,8h i,6iw a l i",
   "8h i,7d l i,8h i,5l i,h i,feff:0zx WIDTH NO-BREAK vc,ff01:FULLWIDTH gx nm,1rv nm,ph r,fs r",
   "PERCENT r,ao,au,m qk,p qk,bh,qz r,dr,jz,id vr,uz,fm zx,2ps,yg,v,hz,hr,uq,tr,gg,ot,1dp,tn",
   "ms r,gt r,iq r,ru nm,ds AT,mj f o A,4B,C,D,E,F,G,H,I,J,K,L,M,N,O,P,Q,R,S,T,U,V,W,X,Y,Z",
   "1m vh cg,sc uz,p vh cg,dk ac,nd mv,ip ac,mj s o A,4B,C,D,E,F,G,H,I,J,K,L,M,N,O,P,Q,R,S,T,U,V",
   "W,X,Y,Z,1m el cg,x mv,p el cg,xh,m y qk,p y qk,0HALFWIDTH kc id vr,1m eb cg,p eb cg,kc dr",
   "lo nu ft,2o WO,3s A,4I,U,E,O,YA,YU,YO,TU,1lp PROLONGED va nm,lo o A,3I,U,E,O,KA,KI,KU,KE,KO",
   "SA,SI,SU,SE,SO,TA,TI,TU,TE,TO,NA,NI,NU,NE,NO,HA,HI,HU,HE,HO,MA,MI,MU,ME,MO,YA,YU,YO,RA,RI,RU",
   "RE,RO,WA,N,2za va nm,SEMI-VOICED va nm,1jh hl,2o lx,3vl,KIYEOK-SIOS,NIEUN,oq,or,xg,vn,RIEUL",
   "sg,sh,sj,sk,sl,si,sf,MIEUM,PIEUP,vm,qv,SIOS,SSANGSIOS,kd,df,vk,de,lu,ww,qu,HIEUH,ffc2:A,AE",
   "YA,YAE,EO,E,ffca:YEO,YE,O,WA,WAE,OE,ffd2:YO,U,WEO,WE,WI,YU,ffda:EU,YI,I",
   "ffe0:0FULLWIDTH CENT r,1POUND r,pa r,nh,BROKEN bp,YEN r,WON r,ffe8:0HALFWIDTH FORMS mu x",
   "1n c,yr c,q c,gb c,e vh,y dg,fff9:0INTERLINEAR ANNOTATION ANCHOR,2tp,TERMINATOR",
   "0OBJECT REPLACEMENT cy,REPLACEMENT cy"]

end LineScript.Text.Name
