import SchemaSeed.Text.CodePoints

/-!
The scripts: for each its short and long name, the characters that belong to it, and the larger set
of characters that it uses together with other scripts where the two differ.
-/

set_option autoImplicit false
set_option relaxedAutoImplicit false

namespace SchemaSeed.Text

/-- A script with its names and its characters. -/
structure Script where
  shortName : String
  longName : String
  /-- Characters whose script this is. -/
  members : CodePoints
  /-- Characters that this script uses, alone or with others. -/
  extended : CodePoints

namespace Script

private def adlamMembers : CodePoints := .ofRuns
    "2olc 24 4 a 4 2"

private def adlamExtended : CodePoints := .ofRuns
    "17j 1 w 1 55a 1 2r5 1 2fge 24 4 a 4 2"

private def caucasianAlbanianMembers : CodePoints := .ofRuns
    "1flc 1g b 1"

private def caucasianAlbanianExtended : CodePoints := .ofRuns
    "lg 1 18 1 18 1 1exd 1g b 1"

private def ahomMembers : CodePoints := .ofRuns
    "1j40 r 2 f 4 n"

private def arabicMembers : CodePoints := .ofRuns
    ("16o 5 1 6 1 e 1 3 1 w 1 a b q 1 30 1 y 28 1c 6o y 5 23 1 t 1bv4 dq 2 40 w g 34 5 1 3r 31f v " ++
    "1v 6 8 9 x 6 181s 4 1 r 1 2 1 1 2 1 1 a 1 4 1 1 1 1 6 1 4 1 1 1 1 1 1 3 1 2 1 1 2 1 1 1 1 1 " ++
    "1 1 1 1 1 2 1 1 2 4 1 7 1 4 1 4 1 1 1 a 1 h 5 3 1 5 1 h 1g 2")

private def arabicExtended : CodePoints := .ofRuns
    ("16o 5 1 5z 1 y 28 1c 6o y 5 23 1 t 4lr 1 2r5 1 14i6 hs w g 34 5 1 3r rn s 290 v 1v 6 8 9 x " ++
    "6 181s 4 1 r 1 2 1 1 2 1 1 a 1 4 1 1 1 1 6 1 4 1 1 1 1 1 1 3 1 2 1 1 2 1 1 1 1 1 1 1 1 1 1 " ++
    "2 1 1 2 4 1 7 1 4 1 4 1 1 1 a 1 h 5 3 1 5 1 h 1g 2")

private def imperialAramaicMembers : CodePoints := .ofRuns
    "1g74 m 1 9"

private def armenianMembers : CodePoints := .ofRuns
    "10x 12 2 1e 2 3 1chv 5"

private def armenianExtended : CodePoints := .ofRuns
    "lk 1 fc 12 2 1e 2 3 1chv 5"

private def avestanMembers : CodePoints := .ofRuns
    "1gqo 1i 3 7"

private def avestanExtended : CodePoints := .ofRuns
    "53 1 8zc 2 17m6 1i 3 7"

private def balineseMembers : CodePoints := .ofRuns
    "5c0 25 1 1e"

private def bamumMembers : CodePoints := .ofRuns
    "www 2g 124o ft"

private def bassaVahMembers : CodePoints := .ofRuns
    "1zo0 u 2 6"

private def batakMembers : CodePoints := .ofRuns
    "5hc 1g 8 4"

private def bengaliMembers : CodePoints := .ofRuns
    "1vk 4 1 8 2 2 2 m 1 7 1 1 3 4 2 9 2 2 2 4 8 1 4 2 1 5 2 p"

private def bengaliExtended : CodePoints := .ofRuns
    ("jg 1 1as 2 h 2 q 4 1 8 2 2 2 m 1 7 1 1 3 4 2 9 2 2 2 4 8 1 4 2 1 5 2 p 3pt 1 1 1 2 2 1 1 8 " ++
    "1 8 1 2 1 4 1 2 3 rnd 1")

private def bhaiksukiMembers : CodePoints := .ofRuns
    "1k3k 9 1 19 1 e a t"

private def bopomofoMembers : CodePoints := .ofRuns
    "kq 2 93t 17 34 w"

private def bopomofoExtended : CodePoints := .ofRuns
    "jr 1 1 3 d 1 g 2 8wl 3 4 a 1 d a 4 2 1 6 1 5f 1 9 17 34 w 14ed 2 7u 5"

private def brahmiMembers : CodePoints := .ofRuns
    "1hq8 26 4 10 9 1"

private def brailleMembers : CodePoints := .ofRuns
    "7wg 74"

private def bugineseMembers : CodePoints := .ofRuns
    "54w s 2 2"

private def bugineseExtended : CodePoints := .ofRuns
    "54w s 2 2 sdr 1"

private def buhidMembers : CodePoints := .ofRuns
    "4lc k"

private def buhidExtended : CodePoints := .ofRuns
    "4l1 2 9 k"

private def chakmaMembers : CodePoints := .ofRuns
    "1hxc 1h 1 i"

private def chakmaExtended : CodePoints := .ofRuns
    "1ye a 18w a 1epi 1h 1 i"

private def canadianAboriginalMembers : CodePoints := .ofRuns
    "3y8 hs fk 1y 1ewq g"

private def carianMembers : CodePoints := .ofRuns
    "1f34 1d"

private def carianExtended : CodePoints := .ofRuns
    "53 1 68y 1 2 1 2qb 1 15ym 1d"

private def chamMembers : CodePoints := .ofRuns
    "xkw 1j 9 e 2 a 2 4"

private def cherokeeMembers : CodePoints := .ofRuns
    "3vk 2e 2 6 twy 28"

private def cherokeeExtended : CodePoints := .ofRuns
    "lc 3 1 1 6 2 m 2 b 2 38u 2e 2 6 twy 28"

private def chorasmianMembers : CodePoints := .ofRuns
    "1ho0 s"

private def copticMembers : CodePoints := .ofRuns
    "rm e 80g 38 5 7"

private def copticExtended : CodePoints := .ofRuns
    "53 1 g8 1 3 2 1 1 30 2 30 e 80g 38 5 7 7r 1 1614 s"

private def cyproMinoanMembers : CodePoints := .ofRuns
    "1nyo 2r"

private def cyproMinoanExtended : CodePoints := .ofRuns
    "1erk 2 972 2r"

private def cypriotMembers : CodePoints := .ofRuns
    "1g5c 6 2 1 1 18 1 2 3 1 2 1"

private def cypriotExtended : CodePoints := .ofRuns
    "1erk 3 4 19 3 9 1c0 6 2 1 1 18 1 2 3 1 2 1"

private def cyrillicMembers : CodePoints := .ofRuns
    "sg 3p 2 4p 4ls b 4g 1 24 1 38n w nr4 2o ham 2 18n4 1q x 1"

private def cyrillicExtended : CodePoints := .ofRuns
    "jg 1 1v 3 1 1 1 1 1 1 2 1 5 1 6m 8g 4ls b 4g 1 24 1 3j 1 353 w 1v 1 np8 2o ham 2 18n4 1q x 1"

private def devanagariMembers : CodePoints := .ofRuns
    "1s0 29 4 f 2 q vhc w mio a"

private def devanagariExtended : CodePoints := .ofRuns
    "jg 1 18j 2b 2 17 3tc 13 1 2 s6 1 qpr a 4m w mio a"

private def divesAkuruMembers : CodePoints := .ofRuns
    "1ji8 7 2 1 2 8 1 2 1 u 1 2 2 c 9 a"

private def dograMembers : CodePoints := .ofRuns
    "1jb4 1o"

private def dograExtended : CodePoints := .ofRuns
    "1us c vcw a m2u 1o"

private def deseretMembers : CodePoints := .ofRuns
    "1fcw 28"

private def duployanMembers : CodePoints := .ofRuns
    "2fpc 2z 5 d 3 9 7 a 2 4"

private def duployanExtended : CodePoints := .ofRuns
    "53 1 gf 2 1 1 o 2 8if 1 26kj 2z 5 d 3 9 7 a 2 8"

private def egyptianHieroglyphsMembers : CodePoints := .ofRuns
    "1o1s uu a 32z"

private def elbasanMembers : CodePoints := .ofRuns
    "1fk0 14"

private def elbasanExtended : CodePoints := .ofRuns
    "53 1 gd 1 1eyi 14"

private def elymaicMembers : CodePoints := .ofRuns
    "1hpc n"

private def ethiopicMembers : CodePoints := .ofRuns
    ("3k0 21 1 4 2 7 1 1 1 4 2 15 1 4 2 x 1 4 2 7 1 1 1 4 2 f 1 1l 1 4 2 1v 2 w 3 q 546 n 9 7 1 7 " ++
    "1 7 1 7 1 7 1 7 1 7 1 7 opu 6 2 6 2 6 9 7 1 7 1qk1 7 1 4 1 2 1 f")

private def ethiopicExtended : CodePoints := .ofRuns
    ("lq 1 2y9 21 1 4 2 7 1 1 1 4 2 15 1 4 2 x 1 4 2 7 1 1 1 4 2 f 1 1l 1 4 2 1v 2 w 3 q 546 n 9 " ++
    "7 1 7 1 7 1 7 1 7 1 7 1 7 1 7 opu 6 2 6 2 6 9 7 1 7 1qk1 7 1 4 1 2 1 f")

private def georgianMembers : CodePoints := .ofRuns
    "3a8 12 1 1 5 1 2 17 1 4 2a8 17 2 3 37k 12 1 1 5 1"

private def georgianExtended : CodePoints := .ofRuns
    "53 1 y9 1 26u 12 1 1 5 1 2 1c 2a8 17 2 3 pm 1 2hx 12 1 1 5 1 77 1"

private def glagoliticMembers : CodePoints := .ofRuns
    "8ow 2o 2e1s 7 1 h 2 7 1 2 1 5"

private def glagoliticExtended : CodePoints := .ofRuns
    "53 1 gb 1 1 1 am 1 2 1 75 1 29d 1 31a 1 2at 2o df 1 nqj 1 1pxs 7 1 h 2 7 1 2 1 5"

private def gunjalaGondiMembers : CodePoints := .ofRuns
    "1kdc 6 1 2 1 11 1 2 1 6 7 a"

private def gunjalaGondiExtended : CodePoints := .ofRuns
    "53 1 1po 2 1iii 6 1 2 1 11 1 2 1 6 7 a"

private def masaramGondiMembers : CodePoints := .ofRuns
    "1kao 7 1 2 1 18 3 1 1 2 1 9 8 a"

private def masaramGondiExtended : CodePoints := .ofRuns
    "1us 2 1ifu 7 1 2 1 18 3 1 1 2 1 9 8 a"

private def gothicMembers : CodePoints := .ofRuns
    "1f74 r"

private def gothicExtended : CodePoints := .ofRuns
    "53 1 gc 2 2 1 14 1 1eke r"

private def granthaMembers : CodePoints := .ofRuns
    "1ibk 4 1 8 2 2 2 m 1 7 1 2 1 5 2 9 2 2 2 3 2 1 6 1 5 7 2 7 3 5"

private def granthaExtended : CodePoints := .ofRuns
    ("1u9 2 h 2 hs e 3bw 1 1 2 u 3 3 2 s6 1 1btb 4 1 8 2 2 2 m 1 7 1 2 1 5 1 a 2 2 2 3 2 1 6 1 5 " ++
    "7 2 7 3 5 2fv 2 1 1")

private def greekMembers : CodePoints := .ofRuns
    ("og 4 1 3 2 4 1 1 4 1 1 1 1 3 1 1 1 k 1 1r e g 4yu 5 1e 5 4 5 2c 1 8w m 2 6 2 12 2 6 2 8 1 1 " ++
    "1 1 1 1 1 v 2 1h 1 f 1 e 2 6 1 j 2 3 1 9 87 1 rb2 1 gyi 27 h 1 155r 1y")

private def greekExtended : CodePoints := .ofRuns
    ("53 1 g8 2 2 1 1 1 1 1 a 1 1a 1 2 1 16 8 2 4 1 1 4 1 1 1 1 3 1 1 1 k 1 1r e g 4yu 5 1e 5 4 5 " ++
    "2c 3 8u m 2 6 2 12 2 6 2 8 1 1 1 1 1 1 1 v 2 1h 1 f 1 e 2 6 1 j 2 3 1 9 2m 1 5k 1 rb2 1 gyi " ++
    "27 h 1 155r 1y")

private def gujaratiMembers : CodePoints := .ofRuns
    "22p 3 1 9 1 3 1 m 1 7 1 2 1 5 2 a 1 3 1 3 2 1 f 4 2 c 7 7"

private def gujaratiExtended : CodePoints := .ofRuns
    "1u9 2 h 2 7v 3 1 9 1 3 1 m 1 7 1 2 1 5 2 a 1 3 1 3 2 1 f 4 2 c 7 7 v1s a"

private def gurmukhiMembers : CodePoints := .ofRuns
    "1z5 3 1 6 4 2 2 m 1 7 1 2 1 2 1 2 2 1 1 5 4 2 2 3 3 1 7 4 1 1 7 h"

private def gurmukhiExtended : CodePoints := .ofRuns
    "1u9 2 h 2 4b 3 1 6 4 2 2 m 1 7 1 2 1 2 1 2 2 1 1 5 4 2 2 3 3 1 7 4 1 1 7 h v5l a"

private def hangulMembers : CodePoints := .ofRuns
    "3cw 74 5ym 2 75 2m 35 v 1t v nhd t hv 8mc c n 4 1d 7tw v 3 6 2 6 2 6 2 3"

private def hangulExtended : CodePoints := .ofRuns
    ("3cw 74 5xd 3 4 a 1 d e 3 6 1 5f 1 1h 2m 35 v 1t v nhd t hv 8mc c n 4 1d 7k9 2 7u 5 1m v 3 6 " ++
    "2 6 2 6 2 3")

private def hanMembers : CodePoints := .ofRuns
    ("96o q 1 2h c 5y 1b 1 1 1 p 9 e 4 qs 534 1s g74 hkw a6 2 2y n48 2 c 7 sg9 wyo w 3dq 2 4ge 2 " ++
    "5rl f ha 1wi f2 15u 3t7 5 6ju")

private def hanExtended : CodePoints := .ofRuns
    ("53 1 91k q 1 2h c 5y q g 1 3 1 d 1 d 1 d 2 1 6 9 57 1 44 g w 12 9 1 1c 14 1k 1d f c 1f 1 2g " ++
    "p a 5 2o v 1 534 1s g74 1ds 8 g6w a6 2 2y ob 2 7u 5 m7w 2 c 7 jmx i 63i 2 2pa wyo w 3dq 2 " ++
    "4ge 2 5rl f ha 1wi f2 15u 3t7 5 6ju")

private def hanunooMembers : CodePoints := .ofRuns
    "4kg l"

private def hanunooExtended : CodePoints := .ofRuns
    "4kg n"

private def hatranMembers : CodePoints := .ofRuns
    "1gbk j 1 2 5 5"

private def hebrewMembers : CodePoints := .ofRuns
    "13l 1j 8 r 4 6 1cfc q 1 5 1 1 1 2 1 2 1 a"

private def hebrewExtended : CodePoints := .ofRuns
    "lj 2 i0 1j 8 r 4 6 1cfc q 1 5 1 1 1 2 1 2 1 a"

private def hiraganaMembers : CodePoints := .ofRuns
    "9j5 2e 6 3 23q9 7z i 1 t 3 crx 1"

private def hiraganaExtended : CodePoints := .ofRuns
    "9hd 3 4 a 1 d g 6 1 1 4 2 3 2e 2 8 2i 2 14js 2 7u 5 a 1 19 2 yu9 7z i 1 t 3 crx 1"

private def anatolianHieroglyphsMembers : CodePoints := .ofRuns
    "1s00 g7"

private def pahawhHmongMembers : CodePoints := .ofRuns
    "1zpc 1y a a 1 7 1 l 5 j"

private def nyiakengPuachueHmongMembers : CodePoints := .ofRuns
    "2n0g 19 3 e 2 a 4 2"

private def oldHungarianMembers : CodePoints := .ofRuns
    "1h1c 1f d 1f 7 6"

private def oldHungarianExtended : CodePoints := .ofRuns
    "6e2 1 2 1 2qb 1 f 1 17we 1f d 1f 7 6"

private def oldItalicMembers : CodePoints := .ofRuns
    "1f5s 10 9 3"

private def javaneseMembers : CodePoints := .ofRuns
    "xhc 26 2 a 4 2"

private def javaneseExtended : CodePoints := .ofRuns
    "xhc 26 1 b 4 2"

private def kayahLiMembers : CodePoints := .ofRuns
    "xds 1a 1 1"

private def kayahLiExtended : CodePoints := .ofRuns
    "xds 1c"

private def katakanaMembers : CodePoints := .ofRuns
    "9lt 2i 2 3 6o g 5s 1b 1 2g 14b2 a 1 19 ytu 4 1 7 1 2 1 1 7z 3 1e 1 e 4"

private def katakanaExtended : CodePoints := .ofRuns
    ("lh 1 t 1 8v1 3 4 a 1 d g 6 1 1 4 2 2j 4 3 2o 6o g 5s 1b 1 2g 1431 2 7u 1r yts 4 1 7 1 2 1 1 " ++
    "7z 3 1e 1 e 4")

private def kawiMembers : CodePoints := .ofRuns
    "1kow h 1 15 3 t"

private def kharoshthiMembers : CodePoints := .ofRuns
    "1gjk 4 1 2 5 8 1 3 1 t 2 3 4 a 7 9"

private def khmerMembers : CodePoints := .ofRuns
    "4n4 2m 2 a 6 a di w"

private def khojkiMembers : CodePoints := .ofRuns
    "1i4g i 1 1b"

private def khojkiExtended : CodePoints := .ofRuns
    "25i a v28 a kw6 i 1 1b"

private def khitanSmallScriptMembers : CodePoints := .ofRuns
    "20o4 1 5cr d2 15 1"

private def kannadaMembers : CodePoints := .ofRuns
    "2gw d 1 3 1 n 1 a 1 5 2 9 1 3 1 4 7 2 5 3 1 4 2 a 1 3"

private def kannadaExtended : CodePoints := .ofRuns
    "1u9 2 h 2 m2 d 1 3 1 n 1 a 1 5 2 9 1 3 1 4 7 2 5 3 1 4 2 a 1 3 34s 1 1 2 6 1 n 1 1 1 ri3 6"

private def kaithiMembers : CodePoints := .ofRuns
    "1hts 1v a 1"

private def kaithiExtended : CodePoints := .ofRuns
    "1uu a 79d 1 o3i a kli 1v a 1"

private def taiThamMembers : CodePoints := .ofRuns
    "55s 1r 1 t 2 b 6 a 6 e"

private def laoMembers : CodePoints := .ofRuns
    "2v5 2 1 1 1 5 1 o 1 1 1 n 2 5 1 1 1 7 1 a 2 4"

private def latinMembers : CodePoints := .ofRuns
    ("1t q 6 q 1b 1 f 1 5 n 1 v 1 ch 13 5 55n 12 6 1d 5 4 5 d 1 1y 1t 74 a9 1 d 1 g d 3x 2 6 1 r " ++
    "1 h 15 253 w o82 2u 3 2a k f mo 17 1 9 1 4 fpy 7 t6 q 6 q 1lx 6 1 16 1 9 16it v 6 6")

private def latinExtended : CodePoints := .ofRuns
    ("1t q 6 q 1b 1 c 1 2 1 5 n 1 v 1 ch 3 1 a 1 1 3 1 1 9 1 1 1 6 5 r f 1 2 1 1 f 3 7 2 1 2 12 1 " ++
    "5 1 4 d 7p 2 y2 2 1ig 1 2dg 12 6 1d 5 4 5 d 1 1y 1l 1 7 74 8f 1 1t 1 d 1 g d 2b 1 1l 2 6 1 " ++
    "r 1 h 15 253 w bb 1 nvs 8 q 2u 3 2a k f 8e 1 e9 17 1 9 1 4 fpy 7 t6 q 6 q 1lx 6 1 16 1 9 " ++
    "16it v 6 6")

private def lepchaMembers : CodePoints := .ofRuns
    "5j4 1k 3 f 3 3"

private def limbuMembers : CodePoints := .ofRuns
    "4xs v 1 c 4 c 4 1 3 c"

private def limbuExtended : CodePoints := .ofRuns
    "1ut 1 32y v 1 c 4 c 4 1 3 c"

private def linearAMembers : CodePoints := .ofRuns
    "1fr4 8n 9 m a 8"

private def linearAExtended : CodePoints := .ofRuns
    "1err 19 y4 8n 9 m a 8"

private def linearBMembers : CodePoints := .ofRuns
    "1ekg c 1 q 1 j 1 2 1 f 2 e y 3f"

private def linearBExtended : CodePoints := .ofRuns
    "1ekg c 1 q 1 j 1 2 1 f 2 e y 3f 5 3 4 19 3 9"

private def lisuMembers : CodePoints := .ofRuns
    "wk0 1c o8g 1"

private def lisuExtended : CodePoints := .ofRuns
    "jg 1 g 1 8xo 2 n2c 1c o8g 1"

private def lycianMembers : CodePoints := .ofRuns
    "1f28 t"

private def lycianExtended : CodePoints := .ofRuns
    "6e2 1 18o5 t"

private def lydianMembers : CodePoints := .ofRuns
    "1gdc q 5 1"

private def lydianExtended : CodePoints := .ofRuns
    "53 1 8zd 1 178u q 5 1"

private def mahajaniMembers : CodePoints := .ofRuns
    "1hzk 13"

private def mahajaniExtended : CodePoints := .ofRuns
    "53 1 1po c vcw a kra 13"

private def makasarMembers : CodePoints := .ofRuns
    "1ko0 p"

private def mandaicMembers : CodePoints := .ofRuns
    "1mo s 2 1"

private def mandaicExtended : CodePoints := .ofRuns
    "18g 1 e7 s 2 1"

private def manichaeanMembers : CodePoints := .ofRuns
    "1gow 13 4 c"

private def manichaeanExtended : CodePoints := .ofRuns
    "18g 1 1fgf 13 4 c"

private def marchenMembers : CodePoints := .ofRuns
    "1k6o w 2 m 1 e"

private def medefaidrinMembers : CodePoints := .ofRuns
    "20cg 2j"

private def mendeKikakuiMembers : CodePoints := .ofRuns
    "2oe8 5h 2 g"

private def meroiticCursiveMembers : CodePoints := .ofRuns
    "1ggw o 4 k 2 1a"

private def meroiticHieroglyphsMembers : CodePoints := .ofRuns
    "1gg0 w"

private def meroiticHieroglyphsExtended : CodePoints := .ofRuns
    "6e5 1 1a1u w"

private def malayalamMembers : CodePoints := .ofRuns
    "2kg d 1 3 1 1f 1 3 1 6 4 g 2 q"

private def malayalamExtended : CodePoints := .ofRuns
    "1u9 2 h 2 pm d 1 3 1 1f 1 3 1 6 4 g 2 q 316 1 n 1 ri5 3"

private def modiMembers : CodePoints := .ofRuns
    "1iww 1x b a"

private def modiExtended : CodePoints := .ofRuns
    "x80 a lom 1x b a"

private def mongolianMembers : CodePoints := .ofRuns
    "4qo 2 2 1 1 k 6 2h 7 17 1e45 d"

private def mongolianExtended : CodePoints := .ofRuns
    "4qo q 6 2h 7 17 1hg 1 34h 2 5 4 19hw d"

private def mroMembers : CodePoints := .ofRuns
    "1zk0 v 1 a 4 2"

private def meeteiMayekMembers : CodePoints := .ofRuns
    "xr4 n 5l 1a 2 a"

private def multaniMembers : CodePoints := .ofRuns
    "1i80 7 1 1 1 4 1 f 1 b"

private def multaniExtended : CodePoints := .ofRuns
    "21y a 1g5s 7 1 1 1 4 1 f 1 b"

private def myanmarMembers : CodePoints := .ofRuns
    "35s 4g u9s v 2p w le8 k"

private def myanmarExtended : CodePoints := .ofRuns
    "35s 4g u4u 1 4x v 2p w le8 k"

private def nagMundariMembers : CodePoints := .ofRuns
    "2nrk 16"

private def nandinagariMembers : CodePoints := .ofRuns
    "1jmo 8 2 1a 2 b"

private def nandinagariExtended : CodePoints := .ofRuns
    "1u9 1 i 2 ow a 35l 1 8 1 7 1 rhx 6 mei 8 2 1a 2 b"

private def oldNorthArabianMembers : CodePoints := .ofRuns
    "1gn4 w"

private def nabataeanMembers : CodePoints := .ofRuns
    "1g8w v 8 9"

private def newaMembers : CodePoints := .ofRuns
    "1iio 2k 1 5"

private def newaExtended : CodePoints := .ofRuns
    "1u9 2 3uq 1 1 2 9 1 6 1 1 1 1 1 1csy 2k 1 5"

private def nkoMembers : CodePoints := .ofRuns
    "1j4 1n 2 3"

private def nkoExtended : CodePoints := .ofRuns
    "170 1 e 1 3 1 bk 1n 2 3 1cfy 2"

private def nushuMembers : CodePoints := .ofRuns
    "20o1 1 cy6 b0"

private def oghamMembers : CodePoints := .ofRuns
    "4g0 t"

private def olChikiMembers : CodePoints := .ofRuns
    "5lc 1c"

private def oldTurkicMembers : CodePoints := .ofRuns
    "1gxs 21"

private def oldTurkicExtended : CodePoints := .ofRuns
    "6e2 1 2qd 1 17tb 21"

private def oriyaMembers : CodePoints := .ofRuns
    "269 3 1 8 2 2 2 m 1 7 1 2 1 5 2 9 2 2 2 3 7 3 4 2 1 5 2 i"

private def oriyaExtended : CodePoints := .ofRuns
    "1u9 2 h 2 bf 3 1 8 2 2 2 m 1 7 1 2 1 5 2 9 2 2 2 3 7 3 4 2 1 5 2 i 3fm 1 n 1"

private def osageMembers : CodePoints := .ofRuns
    "1fhs 10 4 10"

private def osageExtended : CodePoints := .ofRuns
    "ld 1 2 1 6 1 24 1 1etz 10 4 10"

private def osmanyaMembers : CodePoints := .ofRuns
    "1fgg u 2 a"

private def oldUyghurMembers : CodePoints := .ofRuns
    "1hm8 q"

private def oldUyghurExtended : CodePoints := .ofRuns
    "18g 1 1fht 1 vx q"

private def palmyreneMembers : CodePoints := .ofRuns
    "1g80 w"

private def pauCinHauMembers : CodePoints := .ofRuns
    "1juo 1l"

private def oldPermicMembers : CodePoints := .ofRuns
    "1f80 17"

private def oldPermicExtended : CodePoints := .ofRuns
    "53 1 g8 1 5 3 a 1 a7 1 1ebw 17"

private def phagsPaMembers : CodePoints := .ofRuns
    "x8g 1k"

private def phagsPaExtended : CodePoints := .ofRuns
    "4qq 2 1 1 1m1 1 34i 1 nr1 1k"

private def inscriptionalPahlaviMembers : CodePoints := .ofRuns
    "1gtc j 5 8"

private def psalterPahlaviMembers : CodePoints := .ofRuns
    "1gu8 i 7 4 c 7"

private def psalterPahlaviExtended : CodePoints := .ofRuns
    "18g 1 1flr i 7 4 c 7"

private def phoenicianMembers : CodePoints := .ofRuns
    "1gcg s 3 1"

private def miaoMembers : CodePoints := .ofRuns
    "20hs 23 4 1l 7 h"

private def inscriptionalParthianMembers : CodePoints := .ofRuns
    "1gsg m 2 8"

private def rejangMembers : CodePoints := .ofRuns
    "xf4 10 b 1"

private def hanifiRohingyaMembers : CodePoints := .ofRuns
    "1h4w 14 8 a"

private def hanifiRohingyaExtended : CodePoints := .ofRuns
    "170 1 e 1 3 1 w 1 43 1 1fsb 14 8 a"

private def runicMembers : CodePoints := .ofRuns
    "4gw 23 3 b"

private def runicExtended : CodePoints := .ofRuns
    "4gw 2h"

private def samaritanMembers : CodePoints := .ofRuns
    "1kw 1a 2 f"

private def samaritanExtended : CodePoints := .ofRuns
    "1kw 1a 2 f 7hu 1"

private def oldSouthArabianMembers : CodePoints := .ofRuns
    "1gm8 w"

private def saurashtraMembers : CodePoints := .ofRuns
    "xa8 1y 8 c"

private def signWritingMembers : CodePoints := .ofRuns
    "2l8g i4 f 5 1 f"

private def shavianMembers : CodePoints := .ofRuns
    "1ff4 1c"

private def shavianExtended : CodePoints := .ofRuns
    "53 1 1fa0 1c"

private def sharadaMembers : CodePoints := .ofRuns
    "1i0w 2o 1vk 8"

private def sharadaExtended : CodePoints := .ofRuns
    "1u9 1 3ut 1 1 1 2 2 2 1 9 1 2 1 ria 6 2 1 ksn 2o 1vk 8"

private def siddhamMembers : CodePoints := .ofRuns
    "1itc 1i 2 12"

private def khudawadiMembers : CodePoints := .ofRuns
    "1i9c 1n 5 a"

private def khudawadiExtended : CodePoints := .ofRuns
    "1us 2 vd6 a l12 1n 5 a"

private def sinhalaMembers : CodePoints := .ofRuns
    "2o1 3 1 i 3 o 1 9 1 1 2 7 3 1 4 6 1 1 1 8 6 a 2 3 1fcc k"

private def sinhalaExtended : CodePoints := .ofRuns
    "1us 2 t7 3 1 i 3 o 1 9 1 1 2 7 3 1 4 6 1 1 1 8 6 a 2 3 2yl 1 1cdq k"

private def sogdianMembers : CodePoints := .ofRuns
    "1hkg 16"

private def sogdianExtended : CodePoints := .ofRuns
    "18g 1 1gbz 16"

private def oldSogdianMembers : CodePoints := .ofRuns
    "1hj4 14"

private def soraSompengMembers : CodePoints := .ofRuns
    "1hw0 p 7 a"

private def soyomboMembers : CodePoints := .ofRuns
    "1jrk 2b"

private def sundaneseMembers : CodePoints := .ofRuns
    "5fk 1s 74 8"

private def sylotiNagriMembers : CodePoints := .ofRuns
    "x6o 19"

private def sylotiNagriExtended : CodePoints := .ofRuns
    "1us 2 3k a v80 19"

private def syriacMembers : CodePoints := .ofRuns
    "1ds e 1 1o 2 3 7k b"

private def syriacExtended : CodePoints := .ofRuns
    "lf 2 2 2 1 1 o 3 7 2 1 2 ka 1 e 2 2 1 w 1 a b q 1 3z e 1 1o 2 3 7k b 499 1 1 1"

private def tagbanwaMembers : CodePoints := .ofRuns
    "4m8 d 1 3 1 2"

private def tagbanwaExtended : CodePoints := .ofRuns
    "4l1 2 15 d 1 3 1 2"

private def takriMembers : CodePoints := .ofRuns
    "1j0g 1m 6 a"

private def takriExtended : CodePoints := .ofRuns
    "1us 2 vd6 a ls6 1m 6 a"

private def taiLeMembers : CodePoints := .ofRuns
    "500 u 2 5"

private def taiLeExtended : CodePoints := .ofRuns
    "lc 2 5 2 3 1 2lv a 1s6 u 2 5"

private def newTaiLueMembers : CodePoints := .ofRuns
    "51c 18 4 q 6 b 3 2"

private def tamilMembers : CodePoints := .ofRuns
    "29u 2 1 6 3 3 1 4 3 2 1 1 1 2 3 2 3 3 3 c 4 5 3 3 1 4 2 1 6 1 e l 1ih1 1e d 1"

private def tamilExtended : CodePoints := .ofRuns
    ("1u9 2 h 2 f0 2 1 6 3 3 1 4 3 2 1 1 1 2 3 2 3 3 3 c 4 5 3 3 1 4 2 1 6 1 e l 3bz 1 ro8 1 ky5 " ++
    "1 1 1 1j 2 2gz 1e d 1")

private def tangutMembers : CodePoints := .ofRuns
    "20o0 1 v 5c0 e8 v 2p 37"

private def tangutExtended : CodePoints := .ofRuns
    "9gw g dr 1 1qsw 1 v 5c0 e8 v 2p 37"

private def taiVietMembers : CodePoints := .ofRuns
    "xog 1v o 5"

private def teluguMembers : CodePoints := .ofRuns
    "2dc d 1 3 1 n 1 g 2 9 1 3 1 4 7 2 1 3 1 2 2 4 2 a 7 9"

private def teluguExtended : CodePoints := .ofRuns
    "1u9 2 h 2 ii d 1 3 1 n 1 g 2 9 1 3 1 4 7 2 1 3 1 2 2 4 2 a 7 9 385 2 1 1 1 1 n 1"

private def tifinaghMembers : CodePoints := .ofRuns
    "8xc 1k 7 2 e 1"

private def tifinaghExtended : CodePoints := .ofRuns
    "le 1 1 1 1 4 p 1 8b0 1k 7 2 e 1"

private def tagalogMembers : CodePoints := .ofRuns
    "4jk m 9 1"

private def tagalogExtended : CodePoints := .ofRuns
    "4jk m 9 1 l 2"

private def thaanaMembers : CodePoints := .ofRuns
    "1hc 1e"

private def thaanaExtended : CodePoints := .ofRuns
    "170 1 e 2 2 1 1s a 7q 1e 1cn4 1 a 1"

private def thaiMembers : CodePoints := .ofRuns
    "2rl 1m 5 s"

private def thaiExtended : CodePoints := .ofRuns
    "jg 1 q 1 17 1 19 1 24v 1m 5 s"

private def tibetanMembers : CodePoints := .ofRuns
    "2yo 20 1 10 4 13 1 10 1 f 1 7 4 2"

private def tibetanExtended : CodePoints := .ofRuns
    "2yo 20 1 10 4 13 1 10 1 f 1 7 4 2 6ct 4"

private def tirhutaMembers : CodePoints := .ofRuns
    "1im8 20 8 a"

private def tirhutaExtended : CodePoints := .ofRuns
    "1u9 2 h 2 3u7 1 c 1 f 1 ri5 a ldy 20 8 a"

private def tangsaMembers : CodePoints := .ofRuns
    "1zlc 27 1 a"

private def totoMembers : CodePoints := .ofRuns
    "2nbk v"

private def totoExtended : CodePoints := .ofRuns
    "jg 1 2ms3 v"

private def ugariticMembers : CodePoints := .ofRuns
    "1f9c u 1 1"

private def vaiMembers : CodePoints := .ofRuns
    "wlc 8c"

private def vithkuqiMembers : CodePoints := .ofRuns
    "1fn4 b 1 f 1 7 1 2 1 b 1 f 1 7 1 2"

private def warangCitiMembers : CodePoints := .ofRuns
    "1jfk 2b c 1"

private def wanchoMembers : CodePoints := .ofRuns
    "2ncw 1m 5 1"

private def oldPersianMembers : CodePoints := .ofRuns
    "1fa8 10 4 e"

private def cuneiformMembers : CodePoints := .ofRuns
    "1kw0 pm 2u 33 1 5 b 5g"

private def yezidiMembers : CodePoints := .ofRuns
    "1hfk 16 1 3 2 2"

private def yezidiExtended : CodePoints := .ofRuns
    "170 1 e 1 3 1 1s a 1g5y 16 1 3 2 2"

private def yiMembers : CodePoints := .ofRuns
    "vls wd 3 1j"

private def yiExtended : CodePoints := .ofRuns
    "9hd 2 5 a 2 8 67 1 lxg wd 3 1j hwa 5"

private def zanabazarSquareMembers : CodePoints := .ofRuns
    "1jpc 20"

private def inheritedMembers : CodePoints := .ofRuns
    ("lc 34 7p 2 ck b q 1 kg 4 3ff 1a 2 c dg 3 1 d 1 7 4 1 6 1 3 2 5i 1s ek 2 5e x 309 4 2z 2 " ++
    "14kl g g e r3 1 6a 1 38a 1 1138 1a 2 n f4 3 h 8 2 7 u 4 h45u 6o")

private def inheritedExtended : CodePoints := .ofRuns
    ("lr 1 2 1 1 f 3 7 2 1 2 g 1 2 1 i 1 5 1 4 168 2 3ff 1a 2 c k6 1i 1 1 1 5 ek 2 5e w 17o0 g g " ++
    "e r3 1 14hu 1a 2 n f4 3 h 8 2 7 u 4 h45u 6o")

private def commonMembers : CodePoints := .ofRuns
    ("0 1t q 6 q 1b 1 f 1 5 n 1 v 1 ch 13 5 5 2 k 38 1 9 1 6 1 1 1 hp 1 6 1 e 1 3 1 w 1 4c 1 ec 1 " ++
    "3l 2 yh 1 b9 4 82 1 167 3 1z 2 5n 2 1 1 y5 1 d 1 7 4 1 6 1 3 2 1 lh c 2 2f 1 b 3 b 1 f h y " ++
    "1q 12 1 3 2 6 1 r 1 h 15 3 4 ii m b l ps 74 hg 2 3u e8 2m b6 l 1 1 1 p f 8 4 4 2j 2 3 1 2i " ++
    "2 43 g w 12 9 1 1c 1s v 29 1b 1 2g 4o 534 1s hkw y 2u 3 4l a 6s 1 4g 1 az 1 e 2 g5u 2 5s a " ++
    "m z 1 j 1 4 43 1 1 w q 6 q b a 1 19 2 1s 7 1 7 a 5 76 3 4 19 3 9 28 d 1f 19 6c r 10o4 4 318 " ++
    "71 3 c4 6 n f h 2n 38 1o 6u a 13 2 1q 3 h 8 2 7 u 4 1p 5x k c k c 2f 9 p 3r 2d 1 1z 1 2 2 1 " ++
    "2 2 2 4 1 c 1 1 1 7 1 1t 1 4 2 8 1 7 1 s 1 4 1 5 1 1 3 7 1 9g 2 84 2 1e 41d 1w 24 1p jm 18 " ++
    "4 2s c f 2 f 1 f 1 11 a 4u 1k q 1 2 d 18 4 9 7 2 e 6 4a rd 3 h 3 d 3 62 6 c 4 1 f c 4 1k 8 " ++
    "a 6 14 8 u 2 c 4 2 e 9 13 9k 8 e 2 d 3 b 3 1l 1 1 4 g 2 c 4 a 7 43 1 2v gvly 1 u 2o")

private def commonExtended : CodePoints := .ofRuns
    ("0 1t q 6 q 1b 1 c 1 2 1 5 n 1 v 1 ch 3 1 a 1 1 3 1 1 9 1 1 1 6 5 5 2 k 3i 1 6 1 1 1 hp 1 5z " ++
    "1 ec 1 124 1 b9 4 36v c 2 x 1 v 1 a 1 2 1 7 1 b 3 b 1 f h y 1q 12 1 3 2 6 1 r 1 h 15 3 4 ii " ++
    "m b l ps 74 hg 2 3u e8 n 1 o 2 a 1 4 1 1 1 q bm 1 3 1 d 1 d 1 l 1 ep o v 1 1d f c 4 4h a 5 " ++
    "2o v 1 534 1s hl4 q 2u 3 r4 1 e 2 gbo a m l 2 c 1 j 1 4 43 1 1 w q 6 q 6 3j 7 1 7 a 5 b6 d " ++
    "1f 19 13wj 71 3 c4 6 n f h 2n 38 1o 6u a 13 2 1q 3 h 8 2 7 u 4 1p 5x k c k c 2f r 7 3r 2d 1 " ++
    "1z 1 2 2 1 2 2 2 4 1 c 1 1 1 7 1 1t 1 4 2 8 1 7 1 s 1 4 1 5 1 1 3 7 1 9g 2 84 2 1e 41d 1w " ++
    "24 1p jm 18 4 2s c f 2 f 1 f 1 11 a 4u 1k q 1 2 d 18 4 9 n 6 4a rd 3 h 3 d 3 62 6 c 4 1 f c " ++
    "4 1k 8 a 6 14 8 u 2 c 4 2 e 9 13 9k 8 e 2 d 3 b 3 1l 1 1 4 g 2 c 4 a 7 43 1 2v gvly 1 u 2o")

private def garayMembers : CodePoints := .ofRuns
    "1h6o 12 3 t 8 2"

private def garayExtended : CodePoints := .ofRuns
    "170 1 e 1 3 1 1fz4 12 3 t 8 2"

private def gurungKhemaMembers : CodePoints := .ofRuns
    "1xq8 1m"

private def gurungKhemaExtended : CodePoints := .ofRuns
    "1ut 1 1vve 1m"

private def kiratRaiMembers : CodePoints := .ofRuns
    "205c 1m"

private def olOnalMembers : CodePoints := .ofRuns
    "2nyo 17 4 1"

private def olOnalExtended : CodePoints := .ofRuns
    "1us 2 2m3u 17 4 1"

private def sunuwarMembers : CodePoints := .ofRuns
    "1k1s y e a"

private def sunuwarExtended : CodePoints := .ofRuns
    "lc 2 1 1 9 1 2 1 s 1 3 1 1jf2 y e a"

private def todhriMembers : CodePoints := .ofRuns
    "1fpc 1g"

private def todhriExtended : CodePoints := .ofRuns
    "ld 1 2 1 2 1 9 1 1 1 22 1 1f1d 1g"

private def tuluTigalariMembers : CodePoints := .ofRuns
    "1if4 a 1 1 2 1 1 12 1 a 1 1 2 1 1 4 1 a 1 2 8 2"

private def tuluTigalariExtended : CodePoints := .ofRuns
    "2jq a 35u 1 1 1 ri3 6 57 1 l1q a 1 1 2 1 1 12 1 a 1 1 2 1 1 4 1 a 1 2 8 2"

/-- Every script. -/
def all : List Script :=
  [⟨"Adlm", "Adlam", adlamMembers, adlamExtended⟩,
    ⟨"Aghb", "Caucasian_Albanian", caucasianAlbanianMembers, caucasianAlbanianExtended⟩,
    ⟨"Ahom", "Ahom", ahomMembers, ahomMembers⟩,
    ⟨"Arab", "Arabic", arabicMembers, arabicExtended⟩,
    ⟨"Armi", "Imperial_Aramaic", imperialAramaicMembers, imperialAramaicMembers⟩,
    ⟨"Armn", "Armenian", armenianMembers, armenianExtended⟩,
    ⟨"Avst", "Avestan", avestanMembers, avestanExtended⟩,
    ⟨"Bali", "Balinese", balineseMembers, balineseMembers⟩,
    ⟨"Bamu", "Bamum", bamumMembers, bamumMembers⟩,
    ⟨"Bass", "Bassa_Vah", bassaVahMembers, bassaVahMembers⟩,
    ⟨"Batk", "Batak", batakMembers, batakMembers⟩,
    ⟨"Beng", "Bengali", bengaliMembers, bengaliExtended⟩,
    ⟨"Bhks", "Bhaiksuki", bhaiksukiMembers, bhaiksukiMembers⟩,
    ⟨"Bopo", "Bopomofo", bopomofoMembers, bopomofoExtended⟩,
    ⟨"Brah", "Brahmi", brahmiMembers, brahmiMembers⟩,
    ⟨"Brai", "Braille", brailleMembers, brailleMembers⟩,
    ⟨"Bugi", "Buginese", bugineseMembers, bugineseExtended⟩,
    ⟨"Buhd", "Buhid", buhidMembers, buhidExtended⟩,
    ⟨"Cakm", "Chakma", chakmaMembers, chakmaExtended⟩,
    ⟨"Cans", "Canadian_Aboriginal", canadianAboriginalMembers, canadianAboriginalMembers⟩,
    ⟨"Cari", "Carian", carianMembers, carianExtended⟩,
    ⟨"Cham", "Cham", chamMembers, chamMembers⟩,
    ⟨"Cher", "Cherokee", cherokeeMembers, cherokeeExtended⟩,
    ⟨"Chrs", "Chorasmian", chorasmianMembers, chorasmianMembers⟩,
    ⟨"Copt", "Coptic", copticMembers, copticExtended⟩,
    ⟨"Cpmn", "Cypro_Minoan", cyproMinoanMembers, cyproMinoanExtended⟩,
    ⟨"Cprt", "Cypriot", cypriotMembers, cypriotExtended⟩,
    ⟨"Cyrl", "Cyrillic", cyrillicMembers, cyrillicExtended⟩,
    ⟨"Deva", "Devanagari", devanagariMembers, devanagariExtended⟩,
    ⟨"Diak", "Dives_Akuru", divesAkuruMembers, divesAkuruMembers⟩,
    ⟨"Dogr", "Dogra", dograMembers, dograExtended⟩,
    ⟨"Dsrt", "Deseret", deseretMembers, deseretMembers⟩,
    ⟨"Dupl", "Duployan", duployanMembers, duployanExtended⟩,
    ⟨"Egyp", "Egyptian_Hieroglyphs", egyptianHieroglyphsMembers, egyptianHieroglyphsMembers⟩,
    ⟨"Elba", "Elbasan", elbasanMembers, elbasanExtended⟩,
    ⟨"Elym", "Elymaic", elymaicMembers, elymaicMembers⟩,
    ⟨"Ethi", "Ethiopic", ethiopicMembers, ethiopicExtended⟩,
    ⟨"Geor", "Georgian", georgianMembers, georgianExtended⟩,
    ⟨"Glag", "Glagolitic", glagoliticMembers, glagoliticExtended⟩,
    ⟨"Gong", "Gunjala_Gondi", gunjalaGondiMembers, gunjalaGondiExtended⟩,
    ⟨"Gonm", "Masaram_Gondi", masaramGondiMembers, masaramGondiExtended⟩,
    ⟨"Goth", "Gothic", gothicMembers, gothicExtended⟩,
    ⟨"Gran", "Grantha", granthaMembers, granthaExtended⟩,
    ⟨"Grek", "Greek", greekMembers, greekExtended⟩,
    ⟨"Gujr", "Gujarati", gujaratiMembers, gujaratiExtended⟩,
    ⟨"Guru", "Gurmukhi", gurmukhiMembers, gurmukhiExtended⟩,
    ⟨"Hang", "Hangul", hangulMembers, hangulExtended⟩,
    ⟨"Hani", "Han", hanMembers, hanExtended⟩,
    ⟨"Hano", "Hanunoo", hanunooMembers, hanunooExtended⟩,
    ⟨"Hatr", "Hatran", hatranMembers, hatranMembers⟩,
    ⟨"Hebr", "Hebrew", hebrewMembers, hebrewExtended⟩,
    ⟨"Hira", "Hiragana", hiraganaMembers, hiraganaExtended⟩,
    ⟨"Hluw", "Anatolian_Hieroglyphs", anatolianHieroglyphsMembers, anatolianHieroglyphsMembers⟩,
    ⟨"Hmng", "Pahawh_Hmong", pahawhHmongMembers, pahawhHmongMembers⟩,
    ⟨"Hmnp", "Nyiakeng_Puachue_Hmong", nyiakengPuachueHmongMembers, nyiakengPuachueHmongMembers⟩,
    ⟨"Hung", "Old_Hungarian", oldHungarianMembers, oldHungarianExtended⟩,
    ⟨"Ital", "Old_Italic", oldItalicMembers, oldItalicMembers⟩,
    ⟨"Java", "Javanese", javaneseMembers, javaneseExtended⟩,
    ⟨"Kali", "Kayah_Li", kayahLiMembers, kayahLiExtended⟩,
    ⟨"Kana", "Katakana", katakanaMembers, katakanaExtended⟩,
    ⟨"Kawi", "Kawi", kawiMembers, kawiMembers⟩,
    ⟨"Khar", "Kharoshthi", kharoshthiMembers, kharoshthiMembers⟩,
    ⟨"Khmr", "Khmer", khmerMembers, khmerMembers⟩,
    ⟨"Khoj", "Khojki", khojkiMembers, khojkiExtended⟩,
    ⟨"Kits", "Khitan_Small_Script", khitanSmallScriptMembers, khitanSmallScriptMembers⟩,
    ⟨"Knda", "Kannada", kannadaMembers, kannadaExtended⟩,
    ⟨"Kthi", "Kaithi", kaithiMembers, kaithiExtended⟩,
    ⟨"Lana", "Tai_Tham", taiThamMembers, taiThamMembers⟩,
    ⟨"Laoo", "Lao", laoMembers, laoMembers⟩,
    ⟨"Latn", "Latin", latinMembers, latinExtended⟩,
    ⟨"Lepc", "Lepcha", lepchaMembers, lepchaMembers⟩,
    ⟨"Limb", "Limbu", limbuMembers, limbuExtended⟩,
    ⟨"Lina", "Linear_A", linearAMembers, linearAExtended⟩,
    ⟨"Linb", "Linear_B", linearBMembers, linearBExtended⟩,
    ⟨"Lisu", "Lisu", lisuMembers, lisuExtended⟩,
    ⟨"Lyci", "Lycian", lycianMembers, lycianExtended⟩,
    ⟨"Lydi", "Lydian", lydianMembers, lydianExtended⟩,
    ⟨"Mahj", "Mahajani", mahajaniMembers, mahajaniExtended⟩,
    ⟨"Maka", "Makasar", makasarMembers, makasarMembers⟩,
    ⟨"Mand", "Mandaic", mandaicMembers, mandaicExtended⟩,
    ⟨"Mani", "Manichaean", manichaeanMembers, manichaeanExtended⟩,
    ⟨"Marc", "Marchen", marchenMembers, marchenMembers⟩,
    ⟨"Medf", "Medefaidrin", medefaidrinMembers, medefaidrinMembers⟩,
    ⟨"Mend", "Mende_Kikakui", mendeKikakuiMembers, mendeKikakuiMembers⟩,
    ⟨"Merc", "Meroitic_Cursive", meroiticCursiveMembers, meroiticCursiveMembers⟩,
    ⟨"Mero", "Meroitic_Hieroglyphs", meroiticHieroglyphsMembers, meroiticHieroglyphsExtended⟩,
    ⟨"Mlym", "Malayalam", malayalamMembers, malayalamExtended⟩,
    ⟨"Modi", "Modi", modiMembers, modiExtended⟩,
    ⟨"Mong", "Mongolian", mongolianMembers, mongolianExtended⟩,
    ⟨"Mroo", "Mro", mroMembers, mroMembers⟩,
    ⟨"Mtei", "Meetei_Mayek", meeteiMayekMembers, meeteiMayekMembers⟩,
    ⟨"Mult", "Multani", multaniMembers, multaniExtended⟩,
    ⟨"Mymr", "Myanmar", myanmarMembers, myanmarExtended⟩,
    ⟨"Nagm", "Nag_Mundari", nagMundariMembers, nagMundariMembers⟩,
    ⟨"Nand", "Nandinagari", nandinagariMembers, nandinagariExtended⟩,
    ⟨"Narb", "Old_North_Arabian", oldNorthArabianMembers, oldNorthArabianMembers⟩,
    ⟨"Nbat", "Nabataean", nabataeanMembers, nabataeanMembers⟩,
    ⟨"Newa", "Newa", newaMembers, newaExtended⟩,
    ⟨"Nkoo", "Nko", nkoMembers, nkoExtended⟩,
    ⟨"Nshu", "Nushu", nushuMembers, nushuMembers⟩,
    ⟨"Ogam", "Ogham", oghamMembers, oghamMembers⟩,
    ⟨"Olck", "Ol_Chiki", olChikiMembers, olChikiMembers⟩,
    ⟨"Orkh", "Old_Turkic", oldTurkicMembers, oldTurkicExtended⟩,
    ⟨"Orya", "Oriya", oriyaMembers, oriyaExtended⟩,
    ⟨"Osge", "Osage", osageMembers, osageExtended⟩,
    ⟨"Osma", "Osmanya", osmanyaMembers, osmanyaMembers⟩,
    ⟨"Ougr", "Old_Uyghur", oldUyghurMembers, oldUyghurExtended⟩,
    ⟨"Palm", "Palmyrene", palmyreneMembers, palmyreneMembers⟩,
    ⟨"Pauc", "Pau_Cin_Hau", pauCinHauMembers, pauCinHauMembers⟩,
    ⟨"Perm", "Old_Permic", oldPermicMembers, oldPermicExtended⟩,
    ⟨"Phag", "Phags_Pa", phagsPaMembers, phagsPaExtended⟩,
    ⟨"Phli", "Inscriptional_Pahlavi", inscriptionalPahlaviMembers, inscriptionalPahlaviMembers⟩,
    ⟨"Phlp", "Psalter_Pahlavi", psalterPahlaviMembers, psalterPahlaviExtended⟩,
    ⟨"Phnx", "Phoenician", phoenicianMembers, phoenicianMembers⟩,
    ⟨"Plrd", "Miao", miaoMembers, miaoMembers⟩,
    ⟨"Prti", "Inscriptional_Parthian", inscriptionalParthianMembers, inscriptionalParthianMembers⟩,
    ⟨"Rjng", "Rejang", rejangMembers, rejangMembers⟩,
    ⟨"Rohg", "Hanifi_Rohingya", hanifiRohingyaMembers, hanifiRohingyaExtended⟩,
    ⟨"Runr", "Runic", runicMembers, runicExtended⟩,
    ⟨"Samr", "Samaritan", samaritanMembers, samaritanExtended⟩,
    ⟨"Sarb", "Old_South_Arabian", oldSouthArabianMembers, oldSouthArabianMembers⟩,
    ⟨"Saur", "Saurashtra", saurashtraMembers, saurashtraMembers⟩,
    ⟨"Sgnw", "SignWriting", signWritingMembers, signWritingMembers⟩,
    ⟨"Shaw", "Shavian", shavianMembers, shavianExtended⟩,
    ⟨"Shrd", "Sharada", sharadaMembers, sharadaExtended⟩,
    ⟨"Sidd", "Siddham", siddhamMembers, siddhamMembers⟩,
    ⟨"Sind", "Khudawadi", khudawadiMembers, khudawadiExtended⟩,
    ⟨"Sinh", "Sinhala", sinhalaMembers, sinhalaExtended⟩,
    ⟨"Sogd", "Sogdian", sogdianMembers, sogdianExtended⟩,
    ⟨"Sogo", "Old_Sogdian", oldSogdianMembers, oldSogdianMembers⟩,
    ⟨"Sora", "Sora_Sompeng", soraSompengMembers, soraSompengMembers⟩,
    ⟨"Soyo", "Soyombo", soyomboMembers, soyomboMembers⟩,
    ⟨"Sund", "Sundanese", sundaneseMembers, sundaneseMembers⟩,
    ⟨"Sylo", "Syloti_Nagri", sylotiNagriMembers, sylotiNagriExtended⟩,
    ⟨"Syrc", "Syriac", syriacMembers, syriacExtended⟩,
    ⟨"Tagb", "Tagbanwa", tagbanwaMembers, tagbanwaExtended⟩,
    ⟨"Takr", "Takri", takriMembers, takriExtended⟩,
    ⟨"Tale", "Tai_Le", taiLeMembers, taiLeExtended⟩,
    ⟨"Talu", "New_Tai_Lue", newTaiLueMembers, newTaiLueMembers⟩,
    ⟨"Taml", "Tamil", tamilMembers, tamilExtended⟩,
    ⟨"Tang", "Tangut", tangutMembers, tangutExtended⟩,
    ⟨"Tavt", "Tai_Viet", taiVietMembers, taiVietMembers⟩,
    ⟨"Telu", "Telugu", teluguMembers, teluguExtended⟩,
    ⟨"Tfng", "Tifinagh", tifinaghMembers, tifinaghExtended⟩,
    ⟨"Tglg", "Tagalog", tagalogMembers, tagalogExtended⟩,
    ⟨"Thaa", "Thaana", thaanaMembers, thaanaExtended⟩,
    ⟨"Thai", "Thai", thaiMembers, thaiExtended⟩,
    ⟨"Tibt", "Tibetan", tibetanMembers, tibetanExtended⟩,
    ⟨"Tirh", "Tirhuta", tirhutaMembers, tirhutaExtended⟩,
    ⟨"Tnsa", "Tangsa", tangsaMembers, tangsaMembers⟩,
    ⟨"Toto", "Toto", totoMembers, totoExtended⟩,
    ⟨"Ugar", "Ugaritic", ugariticMembers, ugariticMembers⟩,
    ⟨"Vaii", "Vai", vaiMembers, vaiMembers⟩,
    ⟨"Vith", "Vithkuqi", vithkuqiMembers, vithkuqiMembers⟩,
    ⟨"Wara", "Warang_Citi", warangCitiMembers, warangCitiMembers⟩,
    ⟨"Wcho", "Wancho", wanchoMembers, wanchoMembers⟩,
    ⟨"Xpeo", "Old_Persian", oldPersianMembers, oldPersianMembers⟩,
    ⟨"Xsux", "Cuneiform", cuneiformMembers, cuneiformMembers⟩,
    ⟨"Yezi", "Yezidi", yezidiMembers, yezidiExtended⟩,
    ⟨"Yiii", "Yi", yiMembers, yiExtended⟩,
    ⟨"Zanb", "Zanabazar_Square", zanabazarSquareMembers, zanabazarSquareMembers⟩,
    ⟨"Zinh", "Inherited", inheritedMembers, inheritedExtended⟩,
    ⟨"Zyyy", "Common", commonMembers, commonExtended⟩,
    ⟨"Gara", "Garay", garayMembers, garayExtended⟩,
    ⟨"Gukh", "Gurung_Khema", gurungKhemaMembers, gurungKhemaExtended⟩,
    ⟨"Krai", "Kirat_Rai", kiratRaiMembers, kiratRaiMembers⟩,
    ⟨"Onao", "Ol_Onal", olOnalMembers, olOnalExtended⟩,
    ⟨"Sunu", "Sunuwar", sunuwarMembers, sunuwarExtended⟩,
    ⟨"Todr", "Todhri", todhriMembers, todhriExtended⟩,
    ⟨"Tutg", "Tulu_Tigalari", tuluTigalariMembers, tuluTigalariExtended⟩]

end Script

end SchemaSeed.Text
