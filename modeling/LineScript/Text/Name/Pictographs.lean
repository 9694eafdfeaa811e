/-!
# Pictographs

The names of game pieces, enclosed letters, pictographs, tags and variation selectors: the code points
from 1F000 on.
-/

namespace LineScript.Text.Name

/-- The names in the order of their code points; `Reading.entry` says how they are written. -/
def pictographs : List String :=
  ["1f000:0MAHJONG TILE ge WIND,2vb WIND,zg WIND,oz WIND,RED gc,GREEN gc,y gc,ps OF cz,yg OF cz",
   "v OF cz,hz OF cz,hr OF cz,uq OF cz,tr OF cz,gg OF cz,ot OF cz,ps OF bo,yg OF bo,v OF bo",
   "hz OF bo,hr OF bo,uq OF bo,tr OF bo,gg OF bo,ot OF bo,ps OF di,yg OF di,v OF di,hz OF di",
   "hr OF di,uq OF di,tr OF di,gg OF di,ot OF di,PLUM,ORCHID,BAMBOO,CHRYSANTHEMUM,SPRING,SUMMER",
   "AUTUMN,WINTER,JOKER,BACK,1f030:0DOMINO TILE j BACK,2HORIZONTAL-00-00*6,HORIZONTAL-01-00*6",
   "HORIZONTAL-02-00*6,HORIZONTAL-03-00*6,HORIZONTAL-04-00*6,HORIZONTAL-05-00*6",
   "HORIZONTAL-06-00*6,x BACK,VERTICAL-00-00*6,VERTICAL-01-00*6,VERTICAL-02-00*6",
   "VERTICAL-03-00*6,VERTICAL-04-00*6,VERTICAL-05-00*6,VERTICAL-06-00*6,1f0a0:0PLAYING CARD BACK",
   "2ACE OF vd,yg OF vd,v OF vd,hz OF vd,hr OF vd,uq OF vd,tr OF vd,gg OF vd,ot OF vd,wp OF vd",
   "JACK OF vd,lz OF vd,rt OF vd,lw OF vd,1f0b1:ACE OF jl,yg OF jl,v OF jl,hz OF jl,hr OF jl",
   "uq OF jl,tr OF jl,gg OF jl,ot OF jl,wp OF jl,JACK OF jl,lz OF jl,rt OF jl,lw OF jl,RED JOKER",
   "1f0c1:ACE OF fj,yg OF fj,v OF fj,hz OF fj,hr OF fj,uq OF fj,tr OF fj,gg OF fj,ot OF fj",
   "wp OF fj,JACK OF fj,lz OF fj,rt OF fj,lw OF fj,e JOKER,1f0d1:ACE OF do,yg OF do,v OF do",
   "hz OF do,hr OF do,uq OF do,tr OF do,gg OF do,ot OF do,wp OF do,JACK OF do,lz OF do,rt OF do",
   "lw OF do,y JOKER,FOOL,TRUMP-1*20,1f100:0fm zx id vr,2dr,1ps dr,yg dr,v dr,hz dr,hr dr,uq dr",
   "tr dr,gg dr,ot dr,0DINGBAT dh td fm zx,1ol dh td fm zx,0dh zx z uw,1aq c,fs r z OVERLAID bl",
   "0ql mj f o A,4B,C,D,E,F,G,H,I,J,K,L,M,N,O,P,Q,R,S,T,U,V,W,X,Y,Z,0xn uc BRACKETED mj f o S",
   "dh kv mj f o C,5R,1CD,WZ,0COPYLEFT u,vi mj f o A,4B,C,D,E,F,G,H,I,J,K,L,M,N,O,P,Q,R,S,T,U,V",
   "W,X,Y,Z,1HV,MV,SD,SS,PPV,WC,0ol dh mj f o A,5B,C,D,E,F,G,H,I,J,K,L,M,N,O,P,Q,R,S,T,U,V,W,X,Y",
   "Z,0rw MC r,1MD r,MR r,0dh CC,1C z OVERLAID bl,HUMAN FIGURE,0ol vi mj f o A,5B,C,D,E,F,G,H,I",
   "J,K,L,M,N,O,P,Q,R,S,T,U,V,W,X,Y,Z,0eg ol vi mj f o P,ol vi IC,2PA,SA,AB,WC,0vh DJ,vi CL",
   "1COOL,FREE,ID,NEW,NG,OK,SOS,UP z gx nm,VS,v D,tj SCREEN,yg K,hz K,gg K,hr ra ps,tr ra ps",
   "TWENTY-TWO ra yg,uu P,ps jx ye P,mj s o D,HC,HDR,HI-RES,LOSSLESS,SHV,UHD,VOD,0MASK WORK u",
   "1f1e6:REGIONAL ki u o A,4B,C,D,E,F,G,H,I,J,K,L,M,N,O,P,Q,R,S,T,U,V,W,X,Y,Z,0vh jr HOKA",
   "vi lo KOKO,2SA,1f210:1CJK UNIFIED IDEOGRAPH-624B,3IDEOGRAPH-5B57,IDEOGRAPH-53CC,1lo DE",
   "CJK UNIFIED IDEOGRAPH-4E8C,3IDEOGRAPH-591A,IDEOGRAPH-89E3,IDEOGRAPH-5929,IDEOGRAPH-4EA4",
   "IDEOGRAPH-6620,IDEOGRAPH-7121,IDEOGRAPH-6599,IDEOGRAPH-524D,IDEOGRAPH-5F8C,IDEOGRAPH-518D",
   "IDEOGRAPH-65B0,IDEOGRAPH-521D,IDEOGRAPH-7D42,IDEOGRAPH-751F,IDEOGRAPH-8CA9,IDEOGRAPH-58F0",
   "IDEOGRAPH-5439,IDEOGRAPH-6F14,IDEOGRAPH-6295,IDEOGRAPH-6355,IDEOGRAPH-4E00,IDEOGRAPH-4E09",
   "IDEOGRAPH-904A,IDEOGRAPH-5DE6,IDEOGRAPH-4E2D,IDEOGRAPH-53F3,IDEOGRAPH-6307,IDEOGRAPH-8D70",
   "IDEOGRAPH-6253,IDEOGRAPH-7981,IDEOGRAPH-7A7A,IDEOGRAPH-5408,IDEOGRAPH-6E80,IDEOGRAPH-6709",
   "IDEOGRAPH-6708,IDEOGRAPH-7533,IDEOGRAPH-5272,IDEOGRAPH-55B6,IDEOGRAPH-914D",
   "1f240:0xn uc BRACKETED CJK UNIFIED IDEOGRAPH-672C,5IDEOGRAPH-4E09,IDEOGRAPH-4E8C",
   "IDEOGRAPH-5B89,IDEOGRAPH-70B9,IDEOGRAPH-6253,IDEOGRAPH-76D7,IDEOGRAPH-52DD,IDEOGRAPH-6557",
   "1f250:0dh IDEOGRAPH ADVANTAGE,2ACCEPT,1f260:0sx u hw FU,3LU,SHOU,XI,SHUANGXI,CAI",
   "1f300:0CYCLONE,FOGGY,dn yj,NIGHT z STARS,SUNRISE qb MOUNTAINS,1,0CITYSCAPE AT DUSK",
   "SUNSET qb BUILDINGS,RAINBOW,BRIDGE AT NIGHT,zd ze,VOLCANO,MILKY WAY,gd GLOBE EUROPE-AFRICA",
   "2AMERICAS,ASIA-AUSTRALIA,0GLOBE z MERIDIANS,NEW oa u,WAXING ed oa u,hp rr oa u",
   "WAXING GIBBOUS oa u,id oa u,WANING GIBBOUS oa u,LAST rr oa u,WANING ed oa u,ed oa",
   "NEW oa z he,hp rr oa z he,LAST rr oa z he,id oa z he,SUN z he,GLOWING vo,SHOOTING vo",
   "THERMOMETER,e DROPLET,y SUN,2z s CLOUD,BEHIND CLOUD,4z RAIN,0CLOUD z RAIN,2SNOW,LIGHTNING",
   "TORNADO,0FOG,WIND BLOWING he,HOT DOG,TACO,BURRITO,CHESTNUT,SEEDLING,EVERGREEN TREE",
   "DECIDUOUS TREE,PALM TREE,CACTUS,HOT PEPPER,TULIP,CHERRY BLOSSOM,ROSE,HIBISCUS,SUNFLOWER",
   "BLOSSOM,EAR OF MAIZE,2RICE,0HERB,hz mk CLOVER,MAPLE mk,FALLEN mk,mk FLUTTERING IN WIND",
   "MUSHROOM,TOMATO,AUBERGINE,GRAPES,MELON,WATERMELON,TANGERINE,LEMON,BANANA,PINEAPPLE,RED APPLE",
   "GREEN APPLE,PEAR,PEACH,CHERRIES,STRAWBERRY,HAMBURGER,SLICE OF PIZZA,MEAT ON BONE,POULTRY LEG",
   "RICE CRACKER,1BALL,0COOKED RICE,CURRY b RICE,STEAMING BOWL,SPAGHETTI,BREAD,FRENCH FRIES",
   "ROASTED SWEET POTATO,DANGO,ODEN,SUSHI,FRIED SHRIMP,FISH CAKE z SWIRL DESIGN,uy ICE CREAM",
   "SHAVED ICE,ICE CREAM,DOUGHNUT,COOKIE,CHOCOLATE bp,CANDY,LOLLIPOP,CUSTARD,HONEY POT,SHORTCAKE",
   "BENTO cf,POT OF FOOD,COOKING,FORK b KNIFE,TEACUP WITHOUT HANDLE,SAKE BOTTLE b CUP,WINE GLASS",
   "COCKTAIL GLASS,TROPICAL DRINK,BEER MUG,CLINKING BEER MUGS,BABY BOTTLE,FORK b KNIFE z PLATE",
   "BOTTLE z POPPING CORK,POPCORN,RIBBON,WRAPPED PRESENT,BIRTHDAY CAKE,JACK-O-LANTERN",
   "CHRISTMAS TREE,FATHER CHRISTMAS,FIREWORKS,FIREWORK SPARKLER,BALLOON,PARTY POPPER",
   "CONFETTI BALL,TANABATA TREE,eg FLAGS,PINE DECORATION,kz DOLLS,CARP STREAMER,WIND CHIME",
   "oa VIEWING CEREMONY,SCHOOL SATCHEL,GRADUATION CAP,jk z TIP ON ws m,BOUQUET OF FLOWERS",
   "MILITARY MEDAL,REMINDER RIBBON,oj lr z JACKS,STUDIO MICROPHONE,LEVEL SLIDER,dz KNOBS",
   "BEAMED ASCENDING oj NOTES,1DESCENDING oj NOTES,0FILM FRAMES,ADMISSION TICKETS,CAROUSEL jw",
   "FERRIS WHEEL,ROLLER COASTER,FISHING POLE b FISH,MICROPHONE,MOVIE CAMERA,CINEMA,HEADPHONE",
   "ARTIST PALETTE,xm HAT,CIRCUS TENT,TICKET,CLAPPER BOARD,PERFORMING ARTS,VIDEO GAME,DIRECT HIT",
   "SLOT MACHINE,BILLIARDS,GAME DIE,BOWLING,FLOWER PLAYING CARDS,oj pd,og oj NOTES,SAXOPHONE",
   "GUITAR,oj lr,TRUMPET,VIOLIN,oj SCORE,RUNNING SHIRT z SASH,TENNIS RACQUET b BALL",
   "SKI b SKI BOOT,BASKETBALL b HOOP,CHEQUERED hs,SNOWBOARDER,RUNNER,SURFER,SPORTS MEDAL,TROPHY",
   "jw RACING,AMERICAN FOOTBALL,RUGBY FOOTBALL,SWIMMER,WEIGHT LIFTER,GOLFER,RACING MOTORCYCLE",
   "1CAR,0CRICKET BAT b BALL,VOLLEYBALL,FIELD HOCKEY STICK b BALL,ICE HOCKEY STICK b PUCK",
   "TABLE TENNIS PADDLE b BALL,SNOW CAPPED ob,CAMPING,BEACH z yj,cj CONSTRUCTION,HOUSE BUILDINGS",
   "CITYSCAPE,DERELICT HOUSE cj,CLASSICAL cj,DESERT,1ISLAND,0NATIONAL PARK,STADIUM,HOUSE cj",
   "1z GARDEN,0OFFICE cj,kz POST OFFICE,EUROPEAN POST OFFICE,HOSPITAL,BANK",
   "AUTOMATED TELLER MACHINE,HOTEL,LOVE HOTEL,CONVENIENCE STORE,SCHOOL,DEPARTMENT STORE,FACTORY",
   "IZAKAYA LANTERN,kz CASTLE,EUROPEAN CASTLE,y PENNANT,e PENNANT,WAVING y hs,1e hs,0ROSETTE",
   "e ROSETTE,LABEL,BADMINTON RACQUET b SHUTTLECOCK,BOW b c,AMPHORA",
   "EMOJI ny FITZPATRICK TYPE-1-2,3TYPE-3*3,0RAT,MOUSE,OX,zd BUFFALO,COW,TIGER,LEOPARD,RABBIT",
   "CAT,gc,CROCODILE,WHALE,SNAIL,SNAKE,jw,RAM,GOAT,SHEEP,MONKEY,ROOSTER,CHICKEN,DOG,PIG,BOAR",
   "ELEPHANT,OCTOPUS,SPIRAL uc,BUG,ANT,HONEYBEE,LADY BEETLE,FISH,TROPICAL FISH,BLOWFISH,TURTLE",
   "HATCHING CHICK,BABY CHICK,FRONT-FACING BABY CHICK,BIRD,PENGUIN,KOALA,POODLE,DROMEDARY CAMEL",
   "BACTRIAN CAMEL,DOLPHIN,MOUSE he,COW he,TIGER he,RABBIT he,CAT he,gc he,SPOUTING WHALE,jw he",
   "MONKEY he,DOG he,PIG he,FROG he,HAMSTER he,WOLF he,BEAR he,PANDA he,PIG NOSE,PAW PRINTS",
   "CHIPMUNK,hd,EYE,EAR,NOSE,oc,xk,y UP rc bk kh,1fz rc bk kh,m rc bk kh,p rc bk kh,0FISTED ix r",
   "WAVING ix r,OK ix r,THUMBS UP r,1fz r,0CLAPPING jg r,pu jg r,CROWN,WOMANS HAT,EYEGLASSES",
   "NECKTIE,T-SHIRT,JEANS,DRESS,KIMONO,BIKINI,WOMANS CLOTHES,PURSE,HANDBAG,POUCH,MANS SHOE",
   "ATHLETIC SHOE,HIGH-HEELED SHOE,WOMANS SANDAL,1BOOTS,0FOOTPRINTS,BUST IN uk,BUSTS IN uk,BOY",
   "GIRL,MAN,WOMAN,FAMILY,MAN b WOMAN jt jg,yg MEN jt jg,1WOMEN jt jg,0POLICE OFFICER",
   "WOMAN z BUNNY EARS,BRIDE z VEIL,qr z BLOND HAIR,MAN z GUA PI MAO,2TURBAN,0OLDER MAN,1WOMAN",
   "0BABY,CONSTRUCTION WORKER,PRINCESS,kz OGRE,1GOBLIN,0GHOST,BABY ANGEL,EXTRATERRESTRIAL ALIEN",
   "ALIEN MONSTER,IMP,SKULL,kk DESK qr,GUARDSMAN,DANCER,LIPSTICK,NAIL POLISH,he MASSAGE,HAIRCUT",
   "BARBER POLE,SYRINGE,PILL,KISS nm,LOVE o,sq,GEM STONE,KISS,BOUQUET,COUPLE z jk,WEDDING",
   "BEATING jk,BROKEN jk,yg jl,SPARKLING jk,GROWING jk,jk z c,BLUE jk,GREEN jk,YELLOW jk",
   "PURPLE jk,jk z RIBBON,REVOLVING jl,jk DECORATION,fi SHAPE z A ft kl,ELECTRIC mu BULB,ANGER u",
   "BOMB,SLEEPING u,COLLISION u,SPLASHING SWEAT u,DROPLET,ev u,PILE OF POO,FLEXED BICEPS,DIZZY u",
   "ve BALLOON,THOUGHT BALLOON,y FLOWER,jx POINTS u,MONEY BAG,em EXCHANGE,jm fs r,CREDIT CARD",
   "BANKNOTE z YEN r,2fs r,EURO r,POUND r,0MONEY z WINGS,CHART z yr TREND b YEN r,SEAT",
   "PERSONAL COMPUTER,BRIEFCASE,MINIDISC,FLOPPY DISK,OPTICAL DISC,DVD,FILE hv,pu FILE hv",
   "PAGE z ek,1FACING UP,0CALENDAR,TEAR-OFF CALENDAR,CARD kh,CHART z yr TREND,2gb TREND",
   "0bp CHART,CLIPBOARD,PUSHPIN,sw PUSHPIN,PAPERCLIP,vs RULER,xs RULER,BOOKMARK TABS,LEDGER",
   "NOTEBOOK,1z DECORATIVE COVER,0dn BOOK,pu BOOK,GREEN BOOK,BLUE BOOK,ORANGE BOOK,BOOKS",
   "NAME BADGE,SCROLL,MEMO,wo RECEIVER,PAGER,FAX MACHINE,SATELLITE ANTENNA",
   "PUBLIC ADDRESS LOUDSPEAKER,CHEERING MEGAPHONE,OUTBOX TRAY,INBOX TRAY,PACKAGE,E-MAIL u",
   "INCOMING gq,gq z gb c a,dn MAILBOX z LOWERED hs,3rw hs,0pu MAILBOX z rw hs,3LOWERED hs",
   "0POSTBOX,POSTAL jv,NEWSPAPER,MOBILE PHONE,2z q c AT m,0VIBRATION MODE,MOBILE PHONE OFF",
   "NO MOBILE PHONES,ANTENNA z BARS,CAMERA,1z FLASH,0VIDEO CAMERA,TELEVISION,RADIO,VIDEOCASSETTE",
   "FILM PROJECTOR,PORTABLE STEREO,PRAYER BEADS,TWISTED q bf,dm q b n pu dg bf,7z dh ps qd",
   "1gb b yr pu dg bf,0aq gb b yr pu dg bf,nd BRIGHTNESS u,jp BRIGHTNESS u,SPEAKER z cm t,1",
   "z ps va ze,2v va WAVES,0BATTERY,ELECTRIC PLUG,mm MAGNIFYING GLASS,sn MAGNIFYING GLASS",
   "LOCK z INK PEN,dn LOCK z KEY,KEY,LOCK,pu LOCK,BELL,1z cm t,0BOOKMARK,LINK u,RADIO BUTTON",
   "BACK z n c a,gp z n c a,ON z gx nm z m p c a,SOON z q c a,xm z yr c a,NO ps yk gh u",
   "KEYCAP wp,INPUT u hw mj f LETTERS,4s LETTERS,3NUMBERS,SYMBOLS,mj LETTERS,0FIRE",
   "ELECTRIC TORCH,WRENCH,HAMMER,NUT b BOLT,HOCHO,PISTOL,MICROSCOPE,TELESCOPE,CRYSTAL BALL",
   "uq rb vo z nu ft,kz u hw BEGINNER,TRIDENT EMBLEM,e vh BUTTON,y vh BUTTON,mh RED dg,1BLUE dg",
   "ORANGE fi,BLUE fi,0s ORANGE fi,1BLUE fi,0yn RED xr,ga RED xr,yn s RED xr,ga s RED xr",
   "ne p tx y dg,yp p tx y dg,dh ef POMMEE,ef POMMEE z HALF-CIRCLE d,2,0pc m tm z v fv",
   "1p tm z v fv,0u hw MARKS CHAPTER,y mj ef,jm mj ef,CELTIC ef,OM u,DOVE OF PEACE,KAABA,MOSQUE",
   "SYNAGOGUE,MENORAH z ot BRANCHES,BOWL OF HYGIEIA,CLOCK he ps pm,2yg pm,v pm,hz pm,hr pm,uq pm",
   "tr pm,gg pm,ot pm,wp pm,gn pm,yd pm,ONE-THIRTY,TWO-THIRTY,THREE-THIRTY,FOUR-THIRTY",
   "FIVE-THIRTY,SIX-THIRTY,SEVEN-THIRTY,EIGHT-THIRTY,NINE-THIRTY,TEN-THIRTY,ELEVEN-THIRTY",
   "TWELVE-THIRTY,0p SPEAKER,2z ps va ze,3v va WAVES,0BULLHORN,1z va WAVES,0RINGING BELL,BOOK",
   "CANDLE,MANTELPIECE CLOCK,e SKULL b CROSSBONES,NO PIRACY,HOLE,MAN IN BUSINESS SUIT LEVITATING",
   "SLEUTH OR SPY,DARK SUNGLASSES,SPIDER,1WEB,0JOYSTICK,MAN DANCING,m ix wo RECEIVER",
   "wo RECEIVER z PAGE,p ix wo RECEIVER,y TOUCHTONE wo,e TOUCHTONE wo,wo ON xm OF MODEM",
   "CLAMSHELL MOBILE PHONE,BACK OF gq,STAMPED gq,gq z LIGHTNING,FLYING gq,PEN qb STAMPED gq",
   "LINKED PAPERCLIPS,e PUSHPIN,ne m PENCIL,2BALLPOINT PEN,FOUNTAIN PEN,PAINTBRUSH,CRAYON",
   "0m WRITING ix,ya OK ix r,rw ix z ho SPLAYED,sd rw ix z ho SPLAYED,1THUMBS UP r,2fz r",
   "1VICTORY ix,ix z nu hm gy,0rw ix z PART bx nu b sq ho,y fz rc m ix kh,ui y m rc kh,2p rc kh",
   "1e m rc kh,2p rc kh,0e m rc bk kh,1p rc bk kh,0ui y UP rc kh,2fz rc kh,1e UP rc kh,2fz rc kh",
   "0e UP rc bk kh,1fz rc bk kh,jk,0DESKTOP COMPUTER,lr b MOUSE,v NETWORKED COMPUTERS,PRINTER",
   "POCKET CALCULATOR,e HARD uc FLOPPY DISK,y HARD uc FLOPPY DISK,uy uc FLOPPY DISK",
   "TAPE CARTRIDGE,WIRED lr,ps BUTTON MOUSE,yg BUTTON MOUSE,v BUTTON MOUSE,TRACKBALL",
   "po PERSONAL COMPUTER,HARD DISK,SCREEN,PRINTER ICON,FAX ICON,OPTICAL DISC ICON",
   "DOCUMENT z TEXT,3b PICTURE,2PICTURE,0FRAME z PICTURE,2TILES,AN X,0e hv,hv,pu hv",
   "CARD kh DIVIDERS,1FILE cf,0FILE CABINET,EMPTY pd,2PAGE,PAD,0pd,1PAGE,PAD,0EMPTY DOCUMENT",
   "1PAGE,PAGES,0DOCUMENT,PAGE,PAGES,WASTEBASKET,SPIRAL pd PAD,1CALENDAR PAD,0DESKTOP WINDOW",
   "MINIMIZE,MAXIMIZE,OVERLAP,dm p b m tm bf,cm X,INCREASE FONT SIZE u,DECREASE FONT SIZE u",
   "COMPRESSION,po KEY,ROLLED-UP NEWSPAPER,PAGE z dh TEXT,STOCK CHART,DAGGER KNIFE,LIPS",
   "SPEAKING jj IN uk,v RAYS a,2d,m,p,0m ve ci,p ve ci,yg ve BUBBLES,v ve BUBBLES,m THOUGHT ci",
   "p THOUGHT ci,m ANGER ci,p ANGER ci,MOOD ci,LIGHTNING MOOD ci,2,0bn cf z bn,1th X,cf z th X",
   "cd th X,cf z cd th X,0mu db nm,bn cf z cd db,WORLD MAP,MOUNT FUJI,TOKYO TOWER",
   "STATUE OF LIBERTY,uk OF JAPAN,MOYAI,GRINNING he,2z ux hd,0he z TEARS OF JOY,ux he z pu oc",
   "5b ux hd,6COLD SWEAT,TIGHTLY-CLOSED hd,3HALO,HORNS,0WINKING he,ux he z ux hd",
   "he SAVOURING DELICIOUS FOOD,RELIEVED he,ux he z HEART-SHAPED hd,3SUNGLASSES,0SMIRKING he",
   "oo he,EXPRESSIONLESS he,UNAMUSED he,he z COLD SWEAT,PENSIVE he,CONFUSED he,CONFOUNDED he",
   "KISSING he,he THROWING A KISS,KISSING he z ux hd,3dn hd,0he z STUCK-OUT xk,4b WINKING EYE",
   "5TIGHTLY-CLOSED hd,0DISAPPOINTED he,WORRIED he,ANGRY he,POUTING he,CRYING he,PERSEVERING he",
   "he z LOOK OF TRIUMPH,DISAPPOINTED BUT RELIEVED he,FROWNING he z pu oc,ANGUISHED he",
   "FEARFUL he,WEARY he,SLEEPY he,TIRED he,GRIMACING he,LOUDLY CRYING he,he z pu oc,HUSHED he",
   "he z pu oc b COLD SWEAT,1SCREAMING IN FEAR,0ASTONISHED he,FLUSHED he,SLEEPING he,DIZZY he",
   "he WITHOUT oc,1z MEDICAL MASK,0GRINNING CAT he z ux hd,CAT he z TEARS OF JOY",
   "ux CAT he z pu oc,4HEART-SHAPED hd,0CAT he z WRY SMILE,KISSING CAT he z dn hd,POUTING CAT he",
   "CRYING CAT he,WEARY CAT he,SLIGHTLY FROWNING he,1ux he,0UPSIDE-DOWN he,he z ROLLING hd",
   "2NO GOOD GESTURE,OK GESTURE,0qr BOWING DEEPLY,SEE-NO-EVIL MONKEY,HEAR-NO-EVIL MONKEY",
   "SPEAK-NO-EVIL MONKEY,HAPPY qr RAISING ps ix,qr RAISING BOTH jg IN CELEBRATION,1FROWNING",
   "z POUTING he,2FOLDED jg,0oz zg rc mk,vb zg rc mk,oz ge rc mk,vb ge rc mk,ya oz zg rc mk",
   "1vb zg rc mk,oz ge rc mk,vb ge rc mk,0oz zg rc VINE mk,vb zg rc VINE mk,oz ge rc VINE mk",
   "vb ge rc VINE mk,jm oz zg rc VINE mk,1vb zg rc VINE mk,oz ge rc VINE mk,vb ge rc VINE mk",
   "0oz zg rc BUD,vb zg rc BUD,oz ge rc BUD,vb ge rc BUD,jm oz zg rc BUD,1vb zg rc BUD",
   "oz ge rc BUD,vb ge rc BUD,0HOLLOW QUILT vh pz,4IN e vh,0SOLID QUILT vh pz,4IN e vh,0n ROCKET",
   "yr ROCKET,q ROCKET,gb ROCKET,th mt ET pz,jm th mt ET pz,mt pu ET pz,jm mt pu ET pz,1ao pz",
   "0SWASH ao pz,td jm g ya dr rv nm pz,3dr rv nm pz,2nd g dr rv nm pz,0jm ko pz,td ko pz",
   "jm td ko pz,yw jm uz,2sc uz,0CHECKER BOARD,sc CHECKER BOARD,ROCKET,HELICOPTER",
   "STEAM LOCOMOTIVE,RAILWAY CAR,HIGH-SPEED TRAIN,2z ck NOSE,0TRAIN,METRO,mu RAIL,STATION,TRAM",
   "1CAR,0BUS,pr BUS,TROLLEYBUS,BUS vr,MINIBUS,AMBULANCE,FIRE ENGINE,POLICE CAR,pr POLICE CAR",
   "TAXI,pr TAXI,AUTOMOBILE,pr AUTOMOBILE,RECREATIONAL VEHICLE,DELIVERY TRUCK,ARTICULATED LORRY",
   "TRACTOR,MONORAIL,ob RAILWAY,SUSPENSION RAILWAY,ob CABLEWAY,AERIAL TRAMWAY,SHIP,ROWBOAT",
   "SPEEDBOAT,j TRAFFIC mu,x TRAFFIC mu,CONSTRUCTION r,POLICE CARS REVOLVING mu,xs hs ON POST",
   "DOOR,NO ENTRY r,SMOKING u,NO SMOKING u,PUT LITTER IN ITS PLACE u,DO pa LITTER u,POTABLE zd u",
   "NON-POTABLE zd u,BICYCLE,NO BICYCLES,BICYCLIST,ob BICYCLIST,PEDESTRIAN,NO PEDESTRIANS",
   "CHILDREN ei,MENS u,WOMENS u,RESTROOM,BABY u,TOILET,zd CLOSET,SHOWER,BATH,BATHTUB,PASSPORT dz",
   "CUSTOMS,BAGGAGE CLAIM,m LUGGAGE,xr z sx ec,PROHIBITED r,dh kk SOURCE,BOYS u,GIRLS u",
   "COUCH b LAMP,SLEEPING ACCOMMODATION,SHOPPING BAGS,BELLHOP BELL,BED,PLACE OF WORSHIP",
   "OCTAGONAL r,SHOPPING TROLLEY,STUPA,PAGODA,HINDU TEMPLE,HUT,ELEVATOR,1f6dd:PLAYGROUND SLIDE",
   "WHEEL,sq BUOY,HAMMER b WRENCH,SHIELD,OIL DRUM,MOTORWAY,RAILWAY TRACK,MOTOR BOAT",
   "yn MILITARY ag,1ag,s ag,0s ag,NORTHEAST-POINTING ag,ag DEPARTURE,1ARRIVING,1f6f0:0SATELLITE",
   "pr FIRE ENGINE,DIESEL LOCOMOTIVE,PASSENGER SHIP,SCOOTER,MOTOR SCOOTER,CANOE,SLED",
   "FLYING SAUCER,SKATEBOARD,AUTO RICKSHAW,PICKUP TRUCK,ROLLER SKATE",
   "1f700:ALCHEMICAL u hw QUINTESSENCE,3AIR,FIRE,gd,zd,AQUAFORTIS,AQUA REGIA,4REGIA-2,VITAE",
   "VITAE-2,3VINEGAR,VINEGAR-2*1,SULFUR,PHILOSOPHERS SULFUR,e SULFUR,MERCURY vv,4SUBLIMATE-2*1",
   "3CINNABAR,SALT,NITRE,VITRIOL,VITRIOL-2,ROCK SALT,4SALT-2,3GOLD,SILVER,IRON ORE,4ORE-2",
   "3CROCUS OF IRON,REGULUS OF IRON,COPPER ORE,IRON-COPPER ORE,vv OF COPPER,CROCUS OF COPPER",
   "5COPPER-2,3COPPER ANTIMONIATE,SALT OF COPPER ANTIMONIATE,vv OF SALT OF COPPER,VERDIGRIS",
   "TIN ORE,LEAD ORE,ar ORE,vv OF ar,SALT OF ar,vv OF SALT OF ar,VINEGAR OF ar,REGULUS OF ar",
   "5ANTIMONY-2,4,3REGULUS-2*2,ALKALI,ALKALI-2,MARCASITE,SAL-AMMONIAC,ARSENIC,REALGAR,REALGAR-2",
   "AURIPIGMENT,BISMUTH ORE,TARTAR,TARTAR-2,QUICK LIME,BORAX,BORAX-2*1,ALUM,OIL,SPIRIT,TINCTURE",
   "GUM,WAX,POWDER,CALX,TUTTY,CAPUT MORTUUM,SCEPTER OF JOVE,CADUCEUS,TRIDENT,STARRED TRIDENT",
   "LODESTONE,SOAP,URINE,jw DUNG,ASHES,POT ASHES,BRICK,POWDERED BRICK,AMALGAM",
   "STRATUM SUPER STRATUM,5STRATUM-2,3SUBLIMATION,PRECIPITATE,DISTILL,DISSOLVE,DISSOLVE-2,PURIFY",
   "PUTREFACTION,CRUCIBLE,CRUCIBLE-2*3,ALEMBIC,BATH OF MARY,5VAPOURS,3RETORT,HOUR,NIGHT",
   "DAY-NIGHT,MONTH,iv DRAM,4OUNCE,1f780:0e mm ISOSCELES p xr,1yn ISOSCELES p xr",
   "sn ISOSCELES p xr,ga ISOSCELES p xr,SLIGHTLY s dg,0ns cd y dg,cd y dg,jm y dg,yw jm y dg",
   "hb jm y dg,y dg dx e s dg,sw TARGET,e TINY vh,1SLIGHTLY s vh,0mu y vh,ns y vh,cd y vh",
   "jm y vh,yw jm y vh,hb jm y vh,y vh dx e yw s vh,4ns vh,0vh TARGET,e TINY fi,1yw s fi,ns s fi",
   "0y fi dx e yw s fi,4ns fi,0fi TARGET,e TINY nf,1yw s nf,ns s nf,0y nf dx e s nf,THIN ir ef",
   "mu ir ef,ns ir ef,cd ir ef,yw cd ir ef,1jm ir ef,0hb jm ir ef,THIN tb,mu tb,ns tb,cd tb",
   "jm tb,yw jm tb,hb jm tb,mu hr vf bh,ns hr vf bh,cd hr vf bh,jm hr vf bh,yw jm hr vf bh",
   "hb jm hr vf bh,mu uq vf bh,ns uq vf bh,cd uq vf bh,jm uq vf bh,yw jm uq vf bh,hb jm uq vf bh",
   "mu gg vf bh,ns gg vf bh,cd gg vf bh,jm gg vf bh,yw jm gg vf bh,mu v rb e vo,ns v rb e vo",
   "v rb e vo,ns v rb qx vo,mu hz rb e vo,ns hz rb e vo,hz rb e vo,ns hz rb qx vo",
   "sc mu hz rb qx vo,mu hr rb e vo,jm hr rb e vo,ns uq rb e vo,jm uq rb e vo,uq rb qx vo",
   "ns gg rb e vo,jm gg rb e vo,yw jm gg rb e vo,jm gg rb qx vo,mu yd rb e vo,jm yd rb e vo",
   "3qx vo,0dh xr,ol dh xr,dh vh,ol dh vh,1f7e0:mh ORANGE dg,1YELLOW dg,GREEN dg,PURPLE dg",
   "BROWN dg,RED vh,BLUE vh,ORANGE vh,YELLOW vh,GREEN vh,PURPLE vh,BROWN vh,1f7f0:0jm gt r",
   "1f800:n c z s xr bd,yr c z s xr bd,q c z s xr bd,gb c z s xr bd,n c z ns xr bd",
   "yr c z ns xr bd,q c z ns xr bd,gb c z ns xr bd,n c z mh xr bd,yr c z mh xr bd,q c z mh xr bd",
   "gb c z mh xr bd,1f810:n c z s gv bd,yr c z s gv bd,q c z s gv bd,gb c z s gv bd,n c z gv bd",
   "yr c z gv bd,q c z gv bd,gb c z gv bd,jm n c z gv bd,1yr c z gv bd,q c z gv bd,gb c z gv bd",
   "n c z mh gv bd,yr c z mh gv bd,q c z mh gv bd,gb c z mh gv bd,0n w c z NARROW ty",
   "yr w c z NARROW ty,q w c z NARROW ty,gb w c z NARROW ty,n w c z ns ty,yr w c z ns ty",
   "q w c z ns ty,gb w c z ns ty,n w c z cd ty,yr w c z cd ty,q w c z cd ty,gb w c z cd ty",
   "n w c z jm ty,yr w c z jm ty,q w c z jm ty,gb w c z jm ty,n w c z yw jm ty,yr w c z yw jm ty",
   "q w c z yw jm ty,gb w c z yw jm ty,n hn c,yr hn c,q hn c,gb hn c,n vi c,yr vi c,q vi c",
   "gb vi c,n dt c,yr dt c,q dt c,gb dt c,n jm dt c,yr jm dt c,q jm dt c,gb jm dt c,n jm c",
   "yr jm c,q jm c,gb jm c,1f850:n td c,yr td c,q td c,gb td c,oz zg td c,1ge td c,0vb ge td c",
   "1zg td c,0m p td c,UP fz td c,1f860:WIDE-HEADED n mu bq c,1yr mu bq c,q mu bq c,gb mu bq c",
   "oz zg mu bq c,2ge mu bq c,1vb ge mu bq c,2zg mu bq c,1n bq c,yr bq c,q bq c,gb bq c",
   "oz zg bq c,2ge bq c,1vb ge bq c,2zg bq c,1n ns bq c,yr ns bq c,q ns bq c,gb ns bq c",
   "oz zg ns bq c,2ge ns bq c,1vb ge ns bq c,2zg ns bq c,1n jm bq c,yr jm bq c,q jm bq c",
   "gb jm bq c,oz zg jm bq c,2ge jm bq c,1vb ge jm bq c,2zg jm bq c,1n yw jm bq c,yr yw jm bq c",
   "q yw jm bq c,gb yw jm bq c,oz zg yw jm bq c,2ge yw jm bq c,1vb ge yw jm bq c,2zg yw jm bq c",
   "1f890:0n xr bd,yr xr bd,q xr bd,gb xr bd,n y c zi xr bd,yr y c zi xr bd,q y c zi xr bd",
   "gb y c zi xr bd,n c z pc wj,yr c z pc wj,q c z pc wj,gb c z pc wj,jm c ty WIDTH ps,4yg wy",
   "ps iv,5wx,0n BOTTOM-SHADED y c,q ce SHADED y c,n xm SHADED y c,q xm SHADED y c",
   "n LEFT-SHADED y c,q RIGHT-SHADED y c,n RIGHT-SHADED y c,q LEFT-SHADED y c",
   "n BACK-TILTED tx y c,q BACK-TILTED tx y c,n FRONT-TILTED tx y c,q FRONT-TILTED tx y c",
   "y c ty WIDTH ps,4yg wy,1f8b0:0c rc yr THEN oz zg,2q THEN CURVING vb zg",
   "1f900:0dh ef FORMEE z hz fv,4yg fv,3,0m iv dg z hz fv,4v fv,yg fv,ft,3,0DOWNWARD FACING ju",
   "2pc ju,ju z ft,pc ju z ft,0PINCHED ho,y jk,BROWN jk,PINCHING ix,ZIPPER-MOUTH he",
   "MONEY-MOUTH he,he z THERMOMETER,NERD he,THINKING he,he z HEAD-BANDAGE,ROBOT he,HUGGING he",
   "r OF ws HORNS,CALL ME ix,rw BACK OF ix,ml FIST,sm FIST,HANDSHAKE,ix z kh b nu ho eg",
   "I LOVE YOU ix r,he z COWBOY HAT,CLOWN he,NAUSEATED he,ROLLING ON ws ht LAUGHING,DROOLING he",
   "LYING he,he PALM,SNEEZING he,he z ps EYEBROW rw,GRINNING he z vo hd,3ps mh b ps s EYE",
   "0he z hm COVERING dn LIPS,SERIOUS he z SYMBOLS COVERING oc,ux he z ux hd b ix COVERING oc",
   "he z pu oc VOMITING,SHOCKED he z EXPLODING jj,PREGNANT WOMAN,BREAST-FEEDING",
   "PALMS UP TOGETHER,SELFIE,PRINCE,MAN IN TUXEDO,MOTHER CHRISTMAS,SHRUG,qr DOING CARTWHEEL",
   "JUGGLING,FENCER,MODERN PENTATHLON,WRESTLERS,zd POLO,HANDBALL,DIVING MASK,WILTED FLOWER",
   "DRUM z DRUMSTICKS,CLINKING GLASSES,TUMBLER GLASS,SPOON,GOAL NET,RIFLE,hp PLACE MEDAL",
   "tj PLACE MEDAL,wx PLACE MEDAL,BOXING GLOVE,MARTIAL ARTS UNIFORM,CURLING STONE",
   "LACROSSE STICK b BALL,SOFTBALL,FLYING DISC,CROISSANT,AVOCADO,CUCUMBER,BACON,POTATO,CARROT",
   "BAGUETTE BREAD,GREEN SALAD,SHALLOW PAN OF FOOD,STUFFED FLATBREAD,EGG,GLASS OF MILK,PEANUTS",
   "KIWIFRUIT,PANCAKES,DUMPLING,FORTUNE COOKIE,TAKEOUT cf,CHOPSTICKS,BOWL z SPOON,CUP z STRAW",
   "COCONUT,BROCCOLI,PIE,PRETZEL,CUT OF MEAT,SANDWICH,CANNED FOOD,LEAFY GREEN,MANGO,oa CAKE",
   "BAGEL,ux he z ux hd b v jl,YAWNING he,ux he z TEAR,he z PARTY jv b PARTY HAT",
   "2UNEVEN hd b WAVY oc,0OVERHEATED he,FREEZING he,NINJA,DISGUISED he,he jt BACK TEARS",
   "1z PLEADING hd,0SARI,LAB COAT,GOGGLES,HIKING BOOT,FLAT SHOE,CRAB,LION he,SCORPION,TURKEY",
   "UNICORN he,EAGLE,DUCK,BAT,SHARK,OWL,FOX he,BUTTERFLY,DEER,GORILLA,LIZARD,RHINOCEROS,SHRIMP",
   "SQUID,GIRAFFE he,ZEBRA he,HEDGEHOG,SAUROPOD,T-REX,CRICKET,KANGAROO,LLAMA,PEACOCK",
   "HIPPOPOTAMUS,PARROT,RACCOON,LOBSTER,MOSQUITO,MICROBE,BADGER,SWAN,MAMMOTH,DODO,SLOTH,OTTER",
   "ORANGUTAN,SKUNK,FLAMINGO,OYSTER,BEAVER,BISON,SEAL,GUIDE DOG,PROBING CANE",
   "EMOJI COMPONENT RED HAIR,2el HAIR,BALD,y HAIR,0BONE,LEG,FOOT,TOOTH,SUPERHERO,SUPERVILLAIN",
   "SAFETY VEST,EAR z HEARING AID,MOTORIZED WHEELCHAIR,MANUAL WHEELCHAIR,MECHANICAL ARM,1LEG",
   "0CHEESE WEDGE,CUPCAKE,SALT SHAKER,BEVERAGE cf,GARLIC,ONION,FALAFEL,WAFFLE,BUTTER,MATE DRINK",
   "ICE CUBE,ci TEA,TROLL,STANDING qr,KNEELING qr,DEAF qr,he z MONOCLE,ADULT,CHILD,OLDER ADULT",
   "BEARDED qr,qr z HEADSCARF,1IN STEAMY ROOM,CLIMBING,IN LOTUS POSITION,0MAGE,FAIRY,VAMPIRE",
   "MERPERSON,ELF,GENIE,ZOMBIE,BRAIN,ORANGE jk,BILLED CAP,SCARF,GLOVES,COAT,SOCKS,RED GIFT gq",
   "FIRECRACKER,JIGSAW PUZZLE PIECE,TEST TUBE,PETRI fo,DNA g HELIX,COMPASS,ABACUS",
   "FIRE EXTINGUISHER,TOOLBOX,BRICK,MAGNET,LUGGAGE,LOTION BOTTLE,SPOOL OF THREAD,BALL OF YARN",
   "SAFETY PIN,TEDDY BEAR,BROOM,BASKET,ROLL OF PAPER,bp OF SOAP,SPONGE,RECEIPT,NAZAR AMULET",
   "oo dc lw,2rt,ss,ca,lz,qn,0y dc lz st FORTY-FIVE fa,e dc lz st FORTY-FIVE fa",
   "oo dc lz st FORTY-FIVE fa,y dc lw st ov fa,2rt st ov fa,ss st ov fa,ca st ov fa,lz st ov fa",
   "qn st ov fa,0e dc lw st ov fa,2rt st ov fa,ss st ov fa,ca st ov fa,lz st ov fa,qn st ov fa",
   "0oo dc lw st ov fa,2rt st ov fa,ss st ov fa,ca st ov fa,lz st ov fa,qn st ov fa",
   "0y dc lz st ps jx THIRTY-FIVE fa,e dc lz st ps jx THIRTY-FIVE fa",
   "oo dc lz st ps jx THIRTY-FIVE fa,y dc ya lw,3rt,ss,ca,lz,qn,0e dc ya lw,3rt,ss,ca,lz,qn",
   "0oo dc ya lw,3rt,ss,ca,lz,qn,0y dc lz st yg jx yf fa,e dc lz st yg jx yf fa",
   "oo dc lz st yg jx yf fa,y dc lw st yg jx tt fa,2rt st yg jx tt fa,ss st yg jx tt fa",
   "ca st yg jx tt fa,lz st yg jx tt fa,qn st yg jx tt fa,0e dc lw st yg jx tt fa",
   "2rt st yg jx tt fa,ss st yg jx tt fa,ca st yg jx tt fa,lz st yg jx tt fa,qn st yg jx tt fa",
   "0oo dc lw st yg jx tt fa,2rt st yg jx tt fa,ss st yg jx tt fa,ca st yg jx tt fa",
   "lz st yg jx tt fa,qn st yg jx tt fa,0y dc lz st v jx hi fa,e dc lz st v jx hi fa",
   "oo dc lz st v jx hi fa,y dc gu,e dc gu,oo dc gu,y dc gu st ov fa,e dc gu st ov fa",
   "oo dc gu st ov fa,y dc KNIGHT-QUEEN,2KNIGHT-ROOK,KNIGHT-BISHOP,0e dc KNIGHT-QUEEN",
   "2KNIGHT-ROOK,KNIGHT-BISHOP,1fa60:0XIANGQI RED GENERAL,2MANDARIN,ELEPHANT,jw,CHARIOT,CANNON",
   "SOLDIER,1e GENERAL,2MANDARIN,ELEPHANT,jw,CHARIOT,CANNON,SOLDIER,1fa70:0BALLET SHOES",
   "ONE-PIECE SWIMSUIT,BRIEFS,SHORTS,THONG SANDAL,1fa78:DROP OF BLOOD,ADHESIVE BANDAGE",
   "STETHOSCOPE,X-RAY,CRUTCH,1fa80:YO-YO,KITE,PARACHUTE,BOOMERANG,MAGIC WAND,PINATA",
   "NESTING DOLLS,1fa90:RINGED PLANET,CHAIR,RAZOR,AXE,DIYA LAMP,BANJO,MILITARY HELMET,ACCORDION",
   "na DRUM,COIN,CARPENTRY SAW,SCREWDRIVER,LADDER,ju,MIRROR,WINDOW,PLUNGER,SEWING NEEDLE,KNOT",
   "BUCKET,MOUSE TRAP,TOOTHBRUSH,HEADSTONE,PLACARD,ROCK,MIRROR BALL,IDENTIFICATION CARD",
   "nd BATTERY,HAMSA,1fab0:FLY,WORM,BEETLE,COCKROACH,POTTED PLANT,WOOD,FEATHER,LOTUS,CORAL",
   "EMPTY NEST,NEST z EGGS,1fac0:ANATOMICAL jk,LUNGS,PEOPLE HUGGING,PREGNANT MAN,1qr,0qr z CROWN",
   "1fad0:BLUEBERRIES,BELL PEPPER,OLIVE,FLATBREAD,TAMALE,FONDUE,TEAPOT,POURING LIQUID,BEANS,JAR",
   "1fae0:MELTING he,SALUTING he,he z pu hd b ix qb oc,2PEEKING EYE,ff oc,0fw mv he,BITING LIP",
   "BUBBLES,1faf0:ix z kh hm b xf eg,q ix,n ix,PALM fz ix,1UP ix,0kh rc AT ws VIEWER,jk jg",
   "1fb00:cc SEXTANT-1*1,1SEXTANT-12,SEXTANT-3,SEXTANT-13,SEXTANT-23,SEXTANT-123,SEXTANT-4",
   "SEXTANT-14,SEXTANT-24,SEXTANT-124,SEXTANT-34,SEXTANT-134,SEXTANT-234,SEXTANT-1234,SEXTANT-5",
   "SEXTANT-15,SEXTANT-25,SEXTANT-125,SEXTANT-35,SEXTANT-235,SEXTANT-1235,SEXTANT-45,SEXTANT-145",
   "SEXTANT-245,SEXTANT-1245,SEXTANT-345,SEXTANT-1345,SEXTANT-2345,SEXTANT-12345,SEXTANT-6",
   "SEXTANT-16,SEXTANT-26,SEXTANT-126,SEXTANT-36,SEXTANT-136,SEXTANT-236,SEXTANT-1236,SEXTANT-46",
   "SEXTANT-146,SEXTANT-1246,SEXTANT-346,SEXTANT-1346,SEXTANT-2346,SEXTANT-12346,SEXTANT-56",
   "SEXTANT-156,SEXTANT-256,SEXTANT-1256,SEXTANT-356,SEXTANT-1356,SEXTANT-2356,SEXTANT-12356",
   "SEXTANT-456,SEXTANT-1456,SEXTANT-2456,SEXTANT-12456,SEXTANT-3456,SEXTANT-13456,SEXTANT-23456",
   "0ne m cc ff ne nu m TO ne cv,9p,4yp nu m TO ne cv,9p,5m TO ne cv,1p cc ff yp nu m TO yp cv",
   "9p,4ne nu m TO yp cv,9p,5m TO yp cv,nu m TO yp nu p,cv TO ne nu p,m TO ne nu p,cv TO yp nu p",
   "m TO yp nu p,cv TO yp p,1m cc ff yp cv TO yp nu p,5m TO yp nu p,cv TO ne nu p,m TO ne nu p",
   "cv TO ne p,nu m TO ne nu p,0yp p cc ff ne nu m TO ne cv,9p,4yp nu m TO ne cv,9p,5m TO ne cv",
   "1m cc ff yp nu m TO yp cv,9p,4ne nu m TO yp cv,9p,5m TO yp cv,nu m TO yp nu p,cv TO ne nu p",
   "m TO ne nu p,cv TO yp nu p,m TO yp nu p,cv TO yp p,1p cc ff yp cv TO yp nu p,5m TO yp nu p",
   "cv TO ne nu p,m TO ne nu p,cv TO ne p,nu m TO ne nu p,1b p b ne xs v rs cc",
   "0m b ne b p xs v rs cc,yp b m b ne xs v rs cc,m b yp b p xs v rs cc,1xs ps rr cc",
   "0yp xs ps rr cc,p xs ps rr cc,ne xs ps rr cc,x ps gi BLOCK-2*5,j ps gi BLOCK-2*5",
   "m b ne ps gi cc,2yp ps gi cc,0p b yp ps gi cc,2ne ps gi cc,0yp b ne ps gi cc",
   "j ps gi BLOCK-1358,yp ps rr cc,1v gj cc,hr gj cc,v rs cc,tr gj cc,0p ps rr cc,1v gj cc",
   "hr gj cc,v rs cc,tr gj cc,0m iv ns tw,p iv ns tw,yp iv ns tw,ne iv ns tw,kq ns tw",
   "yp iv cc b ne iv kq ns tw,2kq ns tw b ne iv cc,1fb94:0m iv kq ns tw b p iv cc",
   "CHECKER BOARD hk,kq CHECKER BOARD hk,jm j hk,yp m TO ne p hk,1p TO ne m hk,b ne xs iv cc",
   "0m b p xs iv cc,yp m xs ns tw,1p xs ns tw,0ne p xs ns tw,1m xs ns tw",
   "0cf DRAWINGS mu ff yp cv TO nu m,8p,4nu m TO ne cv,5p TO ne cv,4yp cv TO nu m TO ne cv",
   "8p TO ne cv,4nu m TO ne cv TO nu p,7yp cv TO nu p,4yp cv TO nu m b nu p TO ne cv",
   "8p b nu m TO ne cv,9TO ne cv TO nu m,8m TO ne cv TO nu p,4nu m TO yp cv TO nu p TO ne cv",
   "5p TO yp cv TO nu m TO ne cv,4fi,3j z x t,0ARROWHEAD-SHAPED POINTER,kq db nm",
   "m iv RUNNING MAN,p iv RUNNING MAN,kq gb c z TIP n,n c b yp b ne ps gi cc",
   "q c b yp b ne ps gi cc,gb c b p ps gi cc,yr c b p ps gi cc,m iv hv,p iv hv,VOIDED ir ef",
   "p pu vi ft,ol ff ef,2nu p TO ne cv,fi,0y jm tb z sx ec,m wx y p rc kh,nu wx y p rc kh",
   "p wx y p rc kh,ol vi ru nm,STICK FIGURE,2z ARMS rw,LEANING m,3p,2z DRESS,0y yn CHEVRON",
   "1fbf0:SEGMENTED fm zx,2ps,yg,v,hz,hr,uq,tr,gg,ot,e0001:0LANGUAGE TAG,e0020:TAG vc,1gx nm",
   "rv nm,ph r,fs r,PERCENT r,ao,au,m qk,p qk,bh,qz r,dr,jz,id vr,uz,fm zx,2ps,yg,v,hz,hr,uq,tr",
   "gg,ot,1dp,tn,ms r,gt r,iq r,ru nm,ds AT,mj f o A,4B,C,D,E,F,G,H,I,J,K,L,M,N,O,P,Q,R,S,T,U,V",
   "W,X,Y,Z,1m vh cg,sc uz,p vh cg,dk ac,nd mv,ip ac,mj s o A,4B,C,D,E,F,G,H,I,J,K,L,M,N,O,P,Q,R",
   "S,T,U,V,W,X,Y,Z,1m el cg,x mv,p el cg,xh,0CANCEL TAG,e0100:yu SELECTOR-17*239"]

end LineScript.Text.Name
