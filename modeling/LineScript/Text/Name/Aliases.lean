/-!
# Further names

The names that characters have beside their own: the usual names and abbreviations of control
characters, which have no name of their own, and the corrected forms of mistaken names.
-/

namespace LineScript.Text.Name

/-- The names in the order of their code points; `Reading.entry` says how they are written. -/
def aliases : List String :=
  ["0:NULL,0:NUL,vp OF HEADING,1:SOH,vp OF TEXT,2:STX,gp OF TEXT,3:ETX,gp OF xo,4:EOT,ENQUIRY",
   "5:ENQ,ad,6:ACK,ALERT,7:BEL,BACKSPACE,8:BS,cy wg,9:j wg,9:HT,9:TAB,mv FEED,a:NEW mv",
   "a:gp OF mv,a:LF,a:NL,a:EOL,mv wg,b:x wg,b:VT,i FEED,c:FF,CARRIAGE RETURN,d:CR,SHIFT OUT",
   "e:LOCKING-SHIFT ps,e:SO,SHIFT IN,f:LOCKING-SHIFT zx,f:SI,DATA LINK ESCAPE,10:DLE",
   "DEVICE dz ps,11:DC1,DEVICE dz yg,12:DC2,DEVICE dz v,13:DC3,DEVICE dz hz,14:DC4,ol ad,15:NAK",
   "SYNCHRONOUS IDLE,16:SYN,gp OF xo cc,17:ETB,CANCEL,18:CAN,gp OF ns,19:EOM,SUBSTITUTE,1a:SUB",
   "ESCAPE,1b:ESC,kk tp hz,1c:FILE tp,1c:FS,kk tp v,1d:GROUP tp,1d:GS,kk tp yg,1e:RECORD tp",
   "1e:RS,kk tp ps,1f:UNIT tp,1f:US,SP,7f:DELETE,7f:DEL,PADDING cy,80:PAD,jp OCTET PRESET,81:HOP",
   "BREAK PERMITTED HERE,82:BPH,NO BREAK HERE,83:NBH,kh,84:IND,NEXT mv,85:NEL",
   "vp OF SELECTED AREA,86:vj,gp OF SELECTED AREA,87:ESA,cy wg SET,88:j wg SET,88:HTS",
   "cy wg z JUSTIFICATION,89:j wg z JUSTIFICATION,89:HTJ,mv wg SET,8a:x wg SET,8a:VTS,qm mv hy",
   "8b:2fz,8b:0PLD,qm mv BACKWARD,8c:2UP,8c:0PLU,sc mv FEED,8d:1kh,8d:0RI,uo SHIFT yg",
   "8e:SINGLE-SHIFT-2,8e:SS2,uo SHIFT v,8f:SINGLE-SHIFT-3,8f:SS3,DEVICE dz STRING,90:DCS",
   "PRIVATE USE ps,91:1USE-1,91:0PU1,PRIVATE USE yg,92:1USE-2,92:0PU2,SET TRANSMIT STATE,93:STS",
   "CANCEL cy,94:CCH,MESSAGE WAITING,95:MW,vp OF GUARDED AREA,96:2PROTECTED AREA,96:0SPA",
   "gp OF GUARDED AREA,97:2PROTECTED AREA,97:0EPA,vp OF STRING,98:SOS,uo GRAPHIC cy INTRODUCER",
   "99:SGC,uo cy INTRODUCER,9a:SCI,dz SEQUENCE INTRODUCER,9b:CSI,STRING TERMINATOR,9c:ST",
   "OPERATING SYSTEM COMMAND,9d:OSC,PRIVACY MESSAGE,9e:PM,APPLICATION PROGRAM COMMAND,9f:APC",
   "NBSP,ad:SHY,1a2:mj f o ik,1s o ik,34f:0CGJ,61c:ALM,709:SYRIAC SUBLINEAR dp SKEWED m",
   "cde:KANNADA o LLLA,e9d:LAO o FO FON,e9f:3FAY,ea3:2RO,ea5:LO",
   "fd0:0TIBETAN nm BKA- SHOG GI MGO RGYAN,11ec:jh JONGSEONG YESIEUNG-KIYEOK",
   "2YESIEUNG-SSANGKIYEOK,SSANGYESIEUNG,YESIEUNG-KHIEUKH,180b:0FVS1*2,MVS,FVS4,200b:ZWSP,ZWNJ",
   "ZWJ,LRM,RLM,202a:LRE,RLE,PDF,LRO,RLO,NNBSP,205f:MMSP,WJ,2066:LRI,RLI,FSI,PDI",
   "2118:WEIERSTRASS ELLIPTIC FUNCTION,2448:MICR ON US u,1ev u,2b7a:0n w c z g x t",
   "2b7c:q w c z g x t,a015:YI wf kw nm,aa6e:MYANMAR o KHAMTI mx,fe00:VS1*15",
   "fe18:rg i hw x p y mr cg,feff:BYTE ORDER nm,feff:BOM,feff:ZWNBSP,122d4:CUNEIFORM r NU11 wq",
   "3qb NU11 BUR qb BUR,16e56:0MEDEFAIDRIN f o H,3NG,16e76:1s o H,3NG,1b001:0HENTAIGANA o E-1",
   "1d0c5:BYZANTINE oj u FTHORA SKLIRON CHROMA VASIS,e0100:VS17*239"]

end LineScript.Text.Name
