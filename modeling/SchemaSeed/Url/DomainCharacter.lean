import SchemaSeed.Text.Case
import SchemaSeed.Text.Category

/-!
What becomes of single characters in domain names: some are left out, some are not allowed, some are
written in another way, and the others become small letters. Cherokee letters become capitals.
-/

set_option autoImplicit false
set_option relaxedAutoImplicit false

namespace SchemaSeed.Url

open SchemaSeed.Text

namespace DomainCharacter

/-- Characters that a domain name loses. -/
def ignored : CodePoints := .ofRuns
    "4t 1 ip 1 2rz 2 18z 2 2d 5 1kr 1 2c 5 5 6 3ck 1 14ez g 6n 1 4g 1 11bz 4 43z 8 h479 6o"

/-- Assigned characters that a domain name cannot hold, apart from controls and private ones. -/
def excluded : CodePoints := .ofRuns
    ("16o 6 m 1 5c 1 1d 1 ao 2 28 1 2ot 1 1vx 2 k 3 1 7 1j 4 ta k 28k g dr 1 cy 1 4 1 g 1 13y1 1 " ++
    "6 1 m 1 x 1 bq 5 3b3 1 f 1 6zm g 11a8 1 gxs0 1 u 2o")

/-- Characters that domain names have admitted since version 18.0 of the character standard. -/
def recent : CodePoints := .ofRanges [(0x558, 0x558), (0x20C2, 0x20C3)]

/-- The marks that have a meaning in URLs. -/
def reservedMarks : List Char :=
  ['%', '#', '/', ':', '<', '>', '?', '@', '[', '\\', ']', '^', '|']

/-- Whether a domain name may hold a character once the name is in its final form. -/
def isFinal (c : Char) : Bool :=
  0x7F < c.toNat || (0x20 < c.toNat && c.toNat < 0x7F && !reservedMarks.contains c)

/-- Whether a character beyond the first 128 may stand in the text of a domain name. -/
def isAdmitted (c : Char) : Bool :=
  c.toNat < 128 || recent.contains c.toNat ||
    !((Category.unionOf [.control, .unassigned, .privateUse]).contains c.toNat ||
      excluded.contains c.toNat)

/-- Cherokee letters in the form that domain names hold. -/
def cherokee : CodePoints := .range 0x13A0 0x13F5

private def shifts : List ShiftRun := ShiftRun.ofTable
    ("4g 1 1 1 3k a 1 1 1 21 8 2 1 1 3k 3 1 1 0 lj 4 1 1 1 3s 1 1 1 1 23 5h 1 1 1 7g 8h 1 1 1 g8 " ++
    "1 1 1 1 23 1 1 1 1 g8 1 1 1 1 g1 1 1 1 1 1n 1 1 1 1 1m 1 1 1 1 1h 1 1 1 1 g0 1 1 1 1 fz 14 " ++
    "1 1 1 3h 1 1 1 1 hh 1 1 1 1 hb 1 1 1 1 h7 1 1 1 1 27 2p 1 1 0 38 3v 1 1 1 u 1 1 1 1 p 1 1 1 " ++
    "1 d 1 1 1 1 6 1 1 1 1 9 1 1 1 1 f 1 1 1 1 m q 1 1 1 1i 1 1 1 1 1c 1 1 1 1 1b 3 1 1 1 1s 4 1 " ++
    "1 1 1i 26r 1 1 1 1 ds 1 1 1 w l8 6 1 1 8 1oo 1 1 1 4su 1 1 1 1 4st 1 1 1 1 4sk 1 2 1 1 4si " ++
    "2 1 1 1 4sj 1 1 1 1 4sc 1 1 1 1 4ro 1 1 1 0 r7n 4k 1 1 1 5or 1 1 1 1 5l3 1 2 2 1 5os 3 1 1 " ++
    "1 5os 1 1 1 1 5ed 1 8 1 1 5os 9 1 1 1 5ot 1 1 1 1 5cq 1 1 1 1 5ou 1 1 1 1 5ot 1 2 1 1 5os 2 " ++
    "1 1 1 5or 1 1 1 1 5pe 1 2 1 1 5bo 2 1 1 1 1w 1 1 1 1 5ph 1 2 1 1 5pg 2 1 1 1 5bl 1 2 1 1 " ++
    "5bk 2 1 1 1 5pi 2 1 1 1 5pg 1 1 1 1 5pf 1 1 1 1 5ja 1 1 1 1 5pf 1 1 1 1 5bz 1 2 1 1 1q 2 1 " ++
    "1 1 5pi 1 2 1 1 5pf 2 1 1 1 1o 1 1 1 1 5bf 1 1 1 1 5ph 1 1 1 1 1j 1 3 1 1 52j 3 2 1 1 522 2 " ++
    "1 1 1 5q1 1 1 1 1 5pt 1 2 1 1 5pr 2 2 1 1 52s 2 1 1 1 52f 1 2 1 1 52b f 1 1 1 4zf z 1 1 1 " ++
    "5e1 1 1 1 1 5rt 1 1 1 1 5e0 1 1 1 1 5ny 1 1 1 1 5dv 1 1 1 1 5ru 1 1 1 1 5du 1 1 1 1 5dt 1 1 " ++
    "1 1 5dq 1 3 1 1 5do 3 1 1 1 18 1 1 1 1 5cb 1 1 1 1 5do 1 1 1 1 11 1 1 1 1 5cc 1 1 1 1 5dn 1 " ++
    "1 1 1 5dp 1 4 1 1 5do 4 1 1 1 5dm 1 2 1 1 5dd 2 1 1 1 5je 1 2 1 1 5d9 2 1 1 1 4c 1 2 1 1 " ++
    "5da 2 1 1 1 5s1 1 3 1 1 5d8 3 1 1 1 553 64 1 1 1 1m 9x 1 1 1 6ao 1 1 1 1 6ap 1 1 1 1 6aq 1 " ++
    "1 1 1 6ar 1 1 1 1 6as 1 1 1 1 6at 1 1 1 1 6au 1 1 1 1 6av 1 1 1 1 6aw 1 1 1 1 6ax 1 1 1 1 " ++
    "6ay 7 1 1 1 1 u 1 1 1 6bz 1c 1 1 1 6db h 1 1 1 6dc 1 1 1 1 6bs 3 6 1 1 6dc 6 1 1 1 6dr 1 1 " ++
    "1 0 bb 1 1 1 1 6db 1 2 1 1 6dx 2 1 1 1 6c1 1 a 1 1 6ds a 1 1 1 6e7 1 1 1 0 av 1 1 1 1 6dr 1 " ++
    "2 1 1 6ed 3 1 1 1 6cv 1 1 1 1 6cs 1 1 1 1 6cj 1 1 1 1 6cb 1 1 1 1 5yz 1 1 1 1 6ct 1 4 1 1 " ++
    "6cr 4 1 1 1 6cq 1 2 1 1 6co 2v 1 1 1 6fz 5 1 1 1 624 3 2 1 1 6g3 2 1 1 1 6g4 1 1 1 1 6g5 1 " ++
    "1 1 1 6g6 1 1 1 1 6aw 1 1 1 1 6g7 1 1 1 1 6g8 1 1 1 1 6g6 1 2 2 1 6g7 6 3 1 1 6g9 3 1 1 1 " ++
    "6ga 1 1 1 1 6gb 7 1 1 1 6ga 4 1 1 1 6ge 4 2 1 1 6h6 3 1 1 1 6h6 1 2 1 1 6h7 3 1 1 1 6h2 1 1 " ++
    "1 1 6h1 1 4 1 1 5et 4 1 1 1 6hc 3 1 1 1 5to 1 1 1 1 5u2 1 1 1 1 5u3 1 1 1 1 5tr 1 1 1 0 5t " ++
    "5 1 1 1 6ht 1 2 1 1 6hu 2 2 1 1 6hr o 1 1 1 6if 4 1 1 1 6i6 5 1 1 1 6i9 3 1 1 1 6io 1 2 1 1 " ++
    "6iy 2 1 1 1 6iq 1 1 1 1 6iv 4 1 1 1 6im 5 1 1 1 6ip 3 1 1 1 6j4 1 2 1 1 6je 2 1 1 1 6j6 kh " ++
    "9 1 1 75b 2e q 1 1 76d q q 1 1 773 q 1 1 1 796 1hu 1 1 1 8pe 1 1 1 1 8p3 6q 1 1 1 e 8g 1 1 " ++
    "0 c32 2c 1 1 0 m98 d 1 1 0 64g 1 1 1 0 65j 1 1 1 0 65w 1 1 1 0 664 1 1 1 0 66t 1 1 1 0 680 " ++
    "1 1 1 0 686 1 1 1 0 68p 1 1 1 0 69e 1 1 1 0 6ra 1 1 1 0 6sb 1 1 1 0 6sg 1 1 1 0 6t2 1 1 1 0 " ++
    "6tl 1 1 1 0 6u5 1 1 1 0 6vl 1 1 1 0 6w5 1 1 1 0 6wf 1 1 1 0 70p 1 1 1 0 73a 1 1 1 0 741 1 1 " ++
    "1 0 745 1 1 1 0 74y 1 1 1 0 756 1 1 1 0 75w 1 1 1 0 768 1 1 1 0 76w 1 1 1 0 78b 1 1 1 0 78s " ++
    "1 1 1 0 79i 1 1 1 0 7uh 1 1 1 0 7wg 1 1 1 0 897 1 1 1 0 89t 1 1 1 0 8a0 1 1 1 0 8aa 1 1 1 0 " ++
    "8ar 1 1 1 0 8cu 1 1 1 0 8q2 1 1 1 0 8rd 1 1 1 0 8uo 1 1 1 0 8va 1 1 1 0 8vs 1 1 1 0 8wd 1 1 " ++
    "1 0 8xu 1 1 1 0 8xw 1 1 1 0 97x 1 1 1 0 986 1 1 1 0 98h 1 1 1 0 98t 1 1 1 0 9c0 1 1 1 0 9c7 " ++
    "1 1 1 0 9cb 1 1 1 0 9fj 1 1 1 0 9fs 1 1 1 0 9g4 1 1 1 0 9gb 1 1 1 0 9hz 1 1 1 0 9if 1 1 1 0 " ++
    "9iw 1 1 1 0 9l3 1 1 1 0 a17 1 1 1 0 a2g 1 1 1 0 a30 1 1 1 0 anj 1 1 1 0 ann 1 1 1 0 apx 1 1 " ++
    "1 0 aqc 1 1 1 0 aqo 1 1 1 0 ar8 1 1 1 0 asa 1 1 1 0 ase 1 1 1 0 azs 1 1 1 0 b0f 1 1 1 0 b1a " ++
    "1 1 1 0 bth 1 1 1 0 bva 1 1 1 0 bvw 1 1 1 0 bxh 1 1 1 0 by4 1 1 1 0 byc 1 1 1 0 byi 1 1 1 0 " ++
    "bzx 1 1 1 0 c01 1 1 1 0 c0w 1 1 1 0 cuu 1 1 1 0 d78 1 1 1 0 d7j 1 1 1 0 d7n 1 1 1 0 d7q 1 1 " ++
    "1 0 d7x 1 1 1 0 d8e 1 1 1 0 d8f 1 1 1 0 dan 1 1 1 0 dgm 1 1 1 0 dgq 1 1 1 0 dq4 1 1 1 0 dqd " ++
    "1 1 1 0 drq 1 1 1 0 drw 1 1 1 0 ds4 1 1 1 0 dsb 1 1 1 0 dut 1 1 1 0 duz 1 1 1 0 e1a 1 1 1 0 " ++
    "e1g 1 1 1 0 e2s 1 1 1 0 e38 1 1 1 0 e4i 1 1 1 0 eb2 1 1 1 0 eb8 1 1 1 0 ebo 1 1 1 0 ekq 1 1 " ++
    "1 0 eo7 1 1 1 0 eoc 1 1 1 0 etd 1 1 1 0 evr 1 1 1 0 ex0 1 1 1 0 f7h 1 1 1 0 fb5 1 1 1 0 fr2 " ++
    "1 1 1 0 frs 1 1 1 0 ftc 1 1 1 0 fuq 1 1 1 0 fwl 1 1 1 0 fwv 1 1 1 0 fx0 1 1 1 0 fxw 1 1 1 0 " ++
    "fzz 1 1 1 0 g08 1 1 1 0 g9t 1 1 1 0 g9z 1 1 1 0 ga7 1 1 1 0 gaf 1 1 1 0 gau 1 1 1 0 gb8 1 1 " ++
    "1 0 gbb 1 1 1 0 gdh 1 1 1 0 gdk 1 1 1 0 gdp 1 1 1 0 h4x 1 1 1 0 h5q 1 1 1 0 hiq 1 1 1 0 hj1 " ++
    "1 1 1 0 hjn 1 1 1 0 hrh 1 1 1 0 hrt 1 1 1 0 htr 1 1 1 0 hv0 1 1 1 0 iaq 1 1 1 0 ib4 1 1 1 0 " ++
    "ibi 1 1 1 0 icg 1 1 1 0 idg 1 1 1 0 iiy 1 1 1 0 ij9 1 1 1 0 il3 1 1 1 0 iry 1 1 1 0 iss 1 1 " ++
    "1 0 iyk 1 1 1 0 iz4 1 1 1 0 iz8 1 1 1 0 j5b 1 1 1 0 jae 1 1 1 0 jdu 1 1 1 0 jdz 1 1 1 0 je3 " ++
    "1 1 1 0 k40 1 1 1 0 k48 1 1 1 0 k8j 1 1 1 0 kcs 1 1 1 0 kcu 1 1 1 0 ke4 1 1 1 0 kh0 1 1 1 0 " ++
    "khc 1 1 1 0 khf 1 1 1 0 khl 1 1 1 0 kka 1 1 1 0 kl7 1 1 1 0 klc 1 1 1 0 klp 1 1 1 0 kqb 1 1 " ++
    "1 0 krp 1 1 1 0 krs 1 1 1 0 kwu 1 1 1 0 kww 1 1 1 0 kxe 1 1 1 0 l4d 1 1 1 0 l5o 1 1 1 0 l5u " ++
    "1 1 1 0 l7r 1 1 1 0 l80 1 1 1 0 l82 1 1 1 0 l8b 1 1 1 0 l94 1 1 1 0 lk2 1 1 1 0 lv5 1 1 1 0 " ++
    "lve 1 1 1 0 lwf 1 1 1 0 lx0 1 1 1 0 lx7 1 1 1 0 lxg 1 1 1 0 lxj 1 1 1 0 lym 1 1 1 0 lyp 1 1 " ++
    "1 0 lz5 1 1 1 0 lz9 1 1 1 0 lzl 1 1 1 0 m0b 1 1 1 0 m0p 1 1 1 0 m0w 1 1 1 0 m2i 1 1 1 0 m2w " ++
    "1 1 1 0 m2z 17 1 1 1 9gg 2 1 1 1 9g4 1g 1 1 1 10 2 1 1 0 6x5 1 2 1 0 6x7 6w 2 1 1 6cx 2 1 1 " ++
    "1 689 1 1 1 1 6cy 1 2 1 1 689 2 3 1 1 6d0 3 6 1 1 68a 6 1 1 1 6cm 1 3 1 1 6d7 3 1 1 1 6cj 1 " ++
    "a 1 1 6d8 a l 1 1 6b2 m 2 1 1 6dt 2 2 1 1 68w 2 1 1 1 68t 1 1 1 1 68s 1 1 1 1 68o 1 1 1 1 " ++
    "68l 1 1 1 1 68k 1 1 1 1 6du 1 1 1 1 68i 1 1 1 1 68h 1 2 1 1 6dw 2 1 1 1 6dv 1 2 1 1 6du 2 1 " ++
    "1 1 6dr 1 1 1 1 6dq 1 5 1 1 6dp 5 1 1 1 6dn 1 1 1 1 6dk 1 1 1 1 6db 1 1 1 1 6d5 1 1 1 1 6d1 " ++
    "1 2 1 1 68h 2 3 1 1 6ct 3 2 1 1 6bn 2 1 1 1 6bl 1 2 1 1 6bd 2 1 1 1 6bc 1 1 1 1 6b3 1 1 1 1 " ++
    "6b1 4 1 1 0 5m6 1 1 1 0 5q1 1 1 1 0 5md 1 1 1 0 7d2 1 1 1 0 5mc 1 1 1 0 5na 1 1 1 0 5mb 1 1 " ++
    "1 0 dcp 1 1 1 0 5of 1 1 1 0 5mm 1 1 1 0 5lx 1 1 1 0 7t8 1 1 1 0 7f6 1 1 1 0 5qz 4l 1 1 0 " ++
    "6x7 1 1 1 0 8qf 1 1 1 0 a4h 1 1 1 0 eh4 p 1 1 1 6lc 1 2 1 1 6lb 2 3 1 1 6la 3 1 1 1 6l9 1 2 " ++
    "1 1 6l8 2 5 1 1 6l7 5 1 1 0 o0i 1 1 1 0 ox5 1 1 1 0 pdg 1 1 1 0 qa3 1 1 1 0 qqe 1 1 1 0 r6p " ++
    "1 1 1 0 s3c 1 1 1 0 szz 1 1 1 0 tga 1 1 1 0 ucx 1 1 1 0 ut8 1 1 1 0 v9j 1 1 1 0 vpu 1 1 1 0 " ++
    "w65 3 1 1 0 t9u 2 1 1 0 5fk 1 1 1 0 5jf 1 1 1 0 5fr 1 1 1 0 76g 1 1 1 0 5jk 1 1 1 0 63s 1 1 " ++
    "1 0 5fh 1 1 1 0 63o 1 1 1 0 5hx 1 1 1 0 6go 1 1 1 0 ada 1 1 1 0 c80 1 1 1 0 be0 1 1 1 0 ae3 " ++
    "1 1 1 0 itf 1 1 1 0 780 1 1 1 0 a51 1 1 1 0 al5 1 1 1 0 ad3 1 1 1 0 dyj 1 1 1 0 6m1 1 1 1 0 " ++
    "cmc 1 1 1 0 hsb 1 1 1 0 dza 1 1 1 0 6cc 1 1 1 0 e2n 1 1 1 0 d5p 1 1 1 0 7o8 1 1 1 0 ij1 1 1 " ++
    "1 0 619 1 1 1 0 6he 1 1 1 0 bih 1 1 1 0 k11 1 1 1 0 5m8 1 1 1 0 647 1 1 1 0 b7k 1 1 1 0 5eu " ++
    "1 1 1 0 5fs 1 1 1 0 5et 1 1 1 0 8jj 1 1 1 0 6kr 1 1 1 0 6fm 1 1 1 0 831 1 1 1 0 81n 1 1 1 0 " ++
    "dh3 1 1 1 0 5lg 1 1 1 0 hsp 1 1 1 0 6g5 1 1 1 0 7l8 w 1 1 1 fi 1 1 1 1 fh 1 1 1 1 fg 1 1 1 " ++
    "1 ff 1 2 1 1 fe 2 1 1 1 fd 1 1 1 1 fc 1 1 1 1 fb 1 1 1 1 fa 1 1 1 1 f9 1 1 1 1 f8 1 1 1 1 " ++
    "f7 1 1 1 1 f6 1 1 1 1 f5 1 1 1 1 f4 1 1 1 1 f3 1 1 1 1 f1 1 1 1 1 f0 1 1 1 1 ez 1 6 1 1 ey " ++
    "6 1 1 1 ew 1 1 1 1 eu 1 1 1 1 es 1 1 1 1 eq 1 5 1 1 eo 5 1 1 1 en 1 1 1 1 em 1 6 1 1 el 6 4 " ++
    "1 1 ek mu9 1 1 1 w2a 1 1 1 1 w29 5v 1 1 1 1 3l 1 1 1 x32 1 1 1 1 x3j 1 1 1 1 x3h 1 1 1 1 " ++
    "x37 4 1 1 1 wy9 1 1 1 1 wx2 o3 1 1 1 tx 1 1 1 1 12 1 1 1 1 xdf 1 1 1 1 d a 1 1 1 xcs 7 28 1 " ++
    "1 tzk fqo 1 1 1 1cfy 1 1 1 1 1cgh 1 2 1 1 1cgf 2 3 1 1 1cg9 3 1 1 1 1cfz 1 1 1 1 1cfy 1 1 1 " ++
    "1 1dku 13 1 1 1 1cdb 1 1 1 1 1cdc 1 1 1 1 1cd3 1 1 1 1 1cd4 1 1 1 1 1cd5 1 1 1 1 1cd6 1 1 1 " ++
    "1 1cd4 1 1 1 1 1cd5 1 1 1 1 1cd6 1 1 1 1 1cd7 1 1 1 1 1cd6 1 1 1 1 1cd7 1 1 1 1 1cd8 1 1 1 " ++
    "1 1cd9 1 1 1 1 1cdg 1 1 1 1 1cdh 1 1 1 1 1cdi 1 1 1 1 1cdj 1 1 1 1 1cdf 1 1 1 1 1cdg 1 1 1 " ++
    "1 1cdh 1 1 1 1 1cdi 1 1 1 1 1cdp 1 1 1 1 1cdq 1 1 1 1 1cdr 1 1 1 1 1cds 1 1 1 1 1ccm 1 1 1 " ++
    "1 1ccn 1 1 1 1 1cco 1 1 1 1 1ccp 1 1 1 1 1cco 1 1 1 1 1ccp 1 1 1 1 1ccq 1 1 1 1 1ccr 1 1 1 " ++
    "1 1cdq 1 1 1 1 1cdr 1 1 1 1 1cds 1 1 1 1 1cdt 1 1 1 1 1cdv 1 1 1 1 1cdw 1 1 1 1 1cdx 1 1 1 " ++
    "1 1cdy 1 1 1 1 1cdw 1 1 1 1 1cdx 1 1 1 1 1cdy 1 2 1 1 1cdz 2 1 1 1 1ce0 1 1 1 1 1ce1 1 1 1 " ++
    "1 1ce2 1 1 1 1 1cdx 1 1 1 1 1cdy 1 1 1 1 1ce0 1 1 1 1 1ce1 1 1 1 1 1ce0 1 1 1 1 1ce1 1 1 1 " ++
    "1 1ce8 1 1 1 1 1ce9 1 1 1 1 1cdu 1 1 1 1 1cdv 1 1 1 1 1ce3 1 1 1 1 1ce4 1 1 1 1 1cdh 1 1 1 " ++
    "1 1cdi 1 1 1 1 1cdj 1 1 1 1 1cdk 1 1 1 1 1cdf 1 1 1 1 1cdg 1 1 1 1 1cdh 1 1 1 1 1cdi 1 1 1 " ++
    "1 1cdf 1 1 1 1 1cdg 1 1 1 1 1cdh 1 1 1 1 1cdi 1 1 1 1 1cdl 1 1 1 1 1cdm 1 1 1 1 1cdn 1 1 1 " ++
    "1 1cdo 1 1 1 1 1cdg 1 2 1 1 1cdh 2 1 1 1 1cdi 1 1 1 1 1cdj 1 1 1 1 1cdk 1 1 1 1 1cdg 1 2 1 " ++
    "1 1cdh 2 1 1 1 1cdi 1 1 1 1 1cdj 1 1 1 1 1cdk 1 1 1 1 1cdo 1 1 1 1 1cdp 1 1 1 1 1cdq 1 1 1 " ++
    "1 1cdr 1 1 1 1 1cd8 1 2 1 1 1cd9 2 1 1 1 1cda y 1 1 1 1cfa 1 1 1 1 1cfb 1 1 1 1 1cfc 1 1 1 " ++
    "1 1cfd 1 1 1 1 1ceo 1 1 1 1 1cep 1 1 1 1 1cer 1 1 1 1 1ces 1 1 1 1 1cer 1 1 1 1 1ces 2 1 1 " ++
    "1 1cer 1 1 1 1 1ces 1 1 1 1 1cez 1 1 1 1 1cf0 1 1 1 1 1cex 1 1 1 1 1cey 1 1 1 1 1ces 1 1 1 " ++
    "1 1cet 1 1 1 1 1ceu 1 1 1 1 1cev 1 1 1 1 1cin 1 1 1 1 1cio j 1 1 1 1cfk 1 1 1 1 1cfl 1 1 1 " ++
    "1 1cfm 1 1 1 1 1cfn ep 1 1 1 1e5g 1 1 1 1 14pc 2 2 1 1 1e55 2 1 1 1 1e5w 1 1 1 1 1e53 1 2 1 " ++
    "1 14ox q 1 1 1 17vh 1 1 1 1 17vj 1 1 1 1 1e50 1 1 1 1 1e51 1 2 1 1 1e6l 2 1 1 1 1e4c 1 1 1 " ++
    "1 1e4b 1 2 1 1 14px 2 2 1 1 14q3 2 2 1 1 14qb 2 2 1 1 14qf 2 4 1 1 14qd 6 1 1 1 1e5o 1 1 1 " ++
    "1 1e5n 5 1 1 1 1e5q 1 1 1 1 1e5r 1 1 1 1 1e5s 1 1 1 1 1e78 1 1 1 1 14r4 3 1 1 1 1e6x 1 1 1 " ++
    "1 1e6z 1 1 1 1 1e6v 1 1 1 1 1e7q 1 1 1 1 17wk 1 2 1 1 1e7l 2 1 1 1 1e5c 1 1 1 1 1e5b 1 2 1 " ++
    "1 14qx 2 1 1 1 1e7w 1 1 1 1 1e7u 1 2 1 1 1e7r 2 1 1 1 1e7q 1 1 1 1 1e7c 1 1 1 1 1e7b 1 1 1 " ++
    "1 1e7d 2 1 1 1 1e6k 1 2 1 1 1e85 2 1 1 1 1e7f l 2 1 1 1d27 2 2 1 1 1d28 2 2 1 1 1d29 2 2 1 " ++
    "1 1d2a 2 2 1 1 1d2b 2 1 1 1 1d2c 1 1 1 1 1d2d 1 2 1 1 1d2e 2 2 1 1 1d2f 2 1 1 1 1d2g 1 1 1 " ++
    "1 1d2h 1 2 1 1 1d2i 2 2 1 1 1d2j 2 1 1 1 1d2k 1 1 1 1 1d2l 1 2 1 1 1d2m 2 1 1 1 1d2n 1 1 1 " ++
    "1 1d2o 1 2 1 1 1d2p 2 1 1 1 1d2q 1 1 1 1 1d2r 1 2 1 1 1d2s 2 1 1 1 1d2t 1 1 1 1 1d2u 1 2 1 " ++
    "1 1d2v 2 1 1 1 1d2w 1 1 1 1 1d2x 1 2 1 1 1d2y 2 2 1 1 1d2z 2 2 1 1 1d30 2 2 1 1 1d31 2 2 1 " ++
    "1 1d32 2 1 1 1 1d33 1 1 1 1 1d34 1 2 1 1 1d35 2 1 1 1 1d36 1 1 1 1 1d37 1 2 1 1 1d38 2 1 1 " ++
    "1 1d39 1 1 1 1 1d3a 1 2 1 1 1d3b 2 1 1 1 1d3c 1 1 1 1 1d3d 1 2 1 1 1d3e 2 1 1 1 1d3f 1 1 1 " ++
    "1 1d3g 1 2 1 1 1d3h 2 1 1 1 1d3i 1 1 1 1 1d3j 1 2 1 1 1d3k 2 1 1 1 1d3l 1 1 1 1 1d3m 1 2 1 " ++
    "1 1d3n 2 1 1 1 1d3o 1 1 1 1 1d3p 1 1 1 1 1d3q 1 1 1 1 1d3k 1 1 1 1 1d3l 1 1 1 1 1d3m 1 2 1 " ++
    "1 1d3n 2 1 1 1 1d3o 1 1 1 1 1d3p 1 2 1 1 1d3q 2 1 1 1 1d3r 1 1 1 1 1d3s 1 2 1 1 1d3t 2 1 1 " ++
    "1 1d3u 1 1 1 1 1d3v 1 2 1 1 1d3w 2 1 1 1 1d3x 1 1 1 1 1d3y 1 2 1 1 1d3z 2 1 1 1 1d40 1 1 1 " ++
    "1 1d41 1 2 1 1 1d42 2 1 1 1 1d43 1 1 1 1 1d44 1 2 1 1 1d45 2 2 1 1 1d46 2 2 1 1 1d47 2 1 1 " ++
    "1 1d48 1 1 1 1 1d49 1 1 1 1 1d4a d w 1 1 1ecg w q 1 1 1ebk q 10 1 1 1ecg 10 2 1 1 168q 2 1 " ++
    "1 1 1eer 1 2 1 1 14ye 2 1 1 1 14yr 1 1 1 1 14ru 1 1 1 1 14s4 1 1 1 1 14ue 1 1 1 1 14ud 1 1 " ++
    "1 1 14uc 1 1 1 1 14ub 1 1 1 1 14ua 1 1 1 1 14sp 1 1 1 1 14so 1 1 1 1 14sn 1 1 1 1 14to 1 1 " ++
    "1 1 14s4 1 1 1 1 14un 1 1 1 1 14um 1 1 1 1 14ul 1 1 1 1 14uk 1 2 1 1 14uj 2 1 1 1 14ui 1 1 " ++
    "1 1 14uh 1 1 1 1 14ug 1 1 1 1 14uf 1 1 1 1 14ue 1 1 1 1 14ud 1 1 1 1 14uc 1 1 1 1 14ub 1 1 " ++
    "1 1 14ua 1 1 1 1 14u9 1 1 1 1 14u8 1 1 1 1 14u6 1 1 1 1 14u5 1 1 1 1 14u4 1 6 1 1 14u3 6 1 " ++
    "1 1 14u1 1 1 1 1 14tz 1 1 1 1 14tx 1 1 1 1 14tv 1 5 1 1 14tt 5 1 1 1 14ts 1 1 1 1 14tr 1 6 " ++
    "1 1 14tq 6 1 1 1 14tp 1 1 1 1 14tm 1 2 1 1 14w5 3 2 1 1 1b4x 2 1 1 1 1b09 1 1 1 1 1b4y 1 2 " ++
    "1 1 1b09 2 3 1 1 1b50 3 6 1 1 1b0a 6 1 1 1 1b4m 1 3 1 1 1b57 3 1 1 1 1b4j 1 a 1 1 1b58 d 6 " ++
    "1 1 1b35 8 6 1 1 1b37 8 6 1 1 1b39 8 3 1 1 1b3b 6 2 1 1 1ef2 2 1 1 1 1eeu 2 1 1 1 1ef2 1 1 " ++
    "1 1 1ef4 1 1 1 1 183h 2 1 1 1 178m 1 4 1 1 17x5 4 1 1 1 174d 1 1 1 1 1737 1hv 2 1 1 1fht 2 " ++
    "1 1 1 1fvh 1 1 1 1 1fjf 1 1 1 1 1fle 2 1 1 1 1fj8 1 1 1 1 i76 1 1 1 1 1fj8 1 1 1 1 1fja 1 2 " ++
    "1 1 1flh 2 1 1 1 1a7w 1 1 1 1 1fli 1 1 1 1 1fld 1 1 1 1 1fjb 1 1 1 1 1fl9 1 1 1 1 1flc 1 1 " ++
    "1 1 1flf 1 1 1 1 1fjt 1 1 1 1 1fu6 1 1 1 1 1fju 1 1 1 1 1flc 1 1 1 1 1fkk 1 2 1 1 1fjj 2 1 " ++
    "1 1 1flb 1 1 1 0 16js 1 1 1 1 iz3 1 1 1 1 1flc 1 1 1 0 16jq 1 1 1 1 1fki 1 1 1 0 16jp 1 1 1 " ++
    "1 1fvu 1 2 1 1 1fl9 2 1 1 1 1fzo 1 1 1 1 1fl8 1 1 1 0 16jl 1 2 1 1 1fl7 2 1 1 1 1fl6 1 1 1 " ++
    "1 1fk3 1 1 1 1 1fk6 1 1 1 1 i86 1 1 1 1 1fk7 1 1 1 1 1fl3 1 1 1 1 17b3 2 1 1 1 1fkz 1 2 1 1 " ++
    "1fki 2 1 1 1 1fkt 1 3 1 1 1fqu 3 1 1 0 16j5 1 1 1 0 16jo 12xo q 1 1 2iyd q a 1 1 2j0g 1e8 q " ++
    "1 1 2kdb q q 1 1 2ke1 q q 1 1 2ker q 7 1 1 2kfh 8 i 1 1 2kfh i q 1 1 2kg7 q q 1 1 2kgx q 2 " ++
    "2 1 2khn 3 1 1 1 2khn 3 1 1 1 2khn 3 2 1 1 2khn 4 4 1 1 2khn 5 8 1 1 2khn 8 4 1 1 2kid 5 2 " ++
    "2 1 2kid 3 6 1 1 2kid 7 b 1 1 2kid b q 1 1 2kj3 q q 1 1 2kjt q 2 1 1 2kkj 3 4 1 1 2kkj 6 8 " ++
    "1 1 2kkj 9 7 1 1 2kkj 8 q 1 1 2kl9 q 2 1 1 2klz 3 4 1 1 2klz 5 5 1 1 2klz 6 1 1 1 2klz 4 7 " ++
    "1 1 2klz 8 q 1 1 2kmp q q 1 1 2knf q q 1 1 2ko5 q q 1 1 2kov q q 1 1 2kpl q q 1 1 2kqb q q " ++
    "1 1 2kr1 q q 1 1 2krr q q 1 1 2ksh q q 1 1 2kt7 q q 1 1 2ktx q q 1 1 2kun q q 1 1 2kvd q 1 " ++
    "1 1 2kqb 1 1 1 1 2kj2 3 h 1 1 2k8n h 1 1 1 2k8x 1 7 1 1 2k8n 7 1 1 1 2e9m 1 h 1 1 2k9d h 1 " ++
    "1 1 2k9c 1 7 1 1 2k9d 7 1 1 1 2eah 1 1 1 1 2k9z 1 1 1 1 2k9x 1 1 1 1 2k9w 1 1 1 1 2k9l 1 1 " ++
    "1 1 2k9r 1 1 1 1 2k9t 1 h 1 1 2ka9 h 1 1 1 2kaj 1 7 1 1 2ka9 7 1 1 1 2eb8 1 h 1 1 2kaz h 1 " ++
    "1 1 2kay 1 7 1 1 2kaz 7 1 1 1 2ec3 1 1 1 1 2kbl 1 1 1 1 2kbj 1 1 1 1 2kbi 1 1 1 1 2kb7 1 1 " ++
    "1 1 2kbd 1 1 1 1 2kbf 1 h 1 1 2kbv h 1 1 1 2kc5 1 7 1 1 2kbv 7 1 1 1 2ecu 1 h 1 1 2kcl h 1 " ++
    "1 1 2kck 1 7 1 1 2kcl 7 1 1 1 2edp 1 1 1 1 2kd7 1 1 1 1 2kd5 1 1 1 1 2kd4 1 1 1 1 2kct 1 1 " ++
    "1 1 2kcz 1 1 1 1 2kd1 1 h 1 1 2kdh h 1 1 1 2kdr 1 7 1 1 2kdh 7 1 1 1 2eeg 1 h 1 1 2ke7 h 1 " ++
    "1 1 2ke6 1 7 1 1 2ke7 7 1 1 1 2efb 1 1 1 1 2ket 1 1 1 1 2ker 1 1 1 1 2keq 1 1 1 1 2kef 1 1 " ++
    "1 1 2kel 1 1 1 1 2ken 1 h 1 1 2kf3 h 1 1 1 2kfd 1 7 1 1 2kf3 7 1 1 1 2eg2 1 h 1 1 2kft h 1 " ++
    "1 1 2kfs 1 7 1 1 2kft 7 1 1 1 2egx 1 1 1 1 2kgf 1 1 1 1 2kgd 1 1 1 1 2kgc 1 1 1 1 2kg1 1 1 " ++
    "1 1 2kg7 1 1 1 1 2kg9 1 1 1 1 2kfh 1 1 1 1 2kfi 3 a 1 1 2l5q a a 1 1 2l60 a a 1 1 2l6a a a " ++
    "1 1 2l6k a a 1 1 2l6u 1mi 9 1 1 2m0w 9 3 1 1 2m0v 3 b 1 1 2m0u b 1 1 1 2m0s 1 2 1 1 2m0r 2 " ++
    "1 1 1 1pz5 1 1 1 1 2lwy 1 1 1 1 2m0m 1 1 1 1 2m0l 1 1 1 1 2lwl 1 1 1 1 2ly8 1 1 1 1 2lxd 1 " ++
    "9 1 1 2m1t 9 2 1 1 2m1s 2 2 1 1 2m1q 2 1 1 1 2m1p 1 6 1 1 2m1o 6 2 1 1 2m1n 2 1 1 1 2lzq 1 " ++
    "1 1 1 2m1e 1 1 1 1 2m1g 1 1 1 1 2m17 1 1 1 1 2lz4 1 1 1 1 1q1n 1 1 1 1 2lz0 2oj 2 1 1 2od5 " ++
    "2 1 1 1 2od2 1 1 1 1 2od0 2 1 1 1 2ocd 1 1 1 1 2od0 1 1 1 1 2od6 1 1 1 1 2ocx 1 1 1 1 2ocf " ++
    "1 4 1 1 2ocn 4 1 1 1 2od7 1 1 1 1 2od2 1 1 1 1 2ocv 1 1 1 1 2od8 1 1 1 1 2ocw 1 1 1 1 2ode " ++
    "1 1 1 1 2odc 1 2 1 1 2odn 2 1 1 1 2odl 1 1 1 1 2odk 1 1 1 1 2odf 1 1 1 1 2ode 1 1 1 1 2odd " ++
    "1 1 1 1 2oby 1 1 1 1 2o9v 1 1 1 1 2oal 1 1 1 1 2oc0 2 1 1 1 2oe1 1 1 1 1 2ody 2 1 1 1 2od9 " ++
    "3 1 1 1 2oe2 2 1 1 1 2odb 1 4 1 1 2odj 4 1 1 1 2oe3 1 1 1 1 2ody 1 1 1 1 2odr 1 1 1 1 2oe4 " ++
    "1 1 1 1 2ods 2 1 1 1 2oe8 1 2 1 1 2oej 2 1 1 1 2oeh 2 1 1 1 2oeb 2 1 1 1 2oe9 7 1 1 1 2oeu " ++
    "5 1 1 1 2oey 2 1 1 1 2oe7 2 2 2 1 2oef 3 1 1 1 2oez 1 1 1 1 2oeu 2 1 1 1 2of0 1 1 1 1 2oeo " ++
    "2 1 1 1 2of4 3 1 1 1 2ofd 2 1 1 1 2of7 2 1 1 1 2of5 2 1 1 1 2obn 2 1 1 1 2ods 2 1 1 1 2oft " ++
    "1 1 1 1 2ofq 2 1 1 1 2of1 3 1 1 1 2ofu 1 1 1 1 2ofl 1 1 1 1 2of3 1 2 2 1 2ofb 3 1 1 1 2ofb " ++
    "1 1 1 1 2ofv 1 1 1 1 2ofq 1 1 1 1 2ofj 1 1 1 1 2ofw 1 1 1 1 2ofk 2 1 1 1 2og0 1 2 1 1 2ogb " ++
    "2 1 1 1 2og9 2 1 1 1 2og3 1 1 1 1 2og2 1 1 1 1 2og1 1 1 1 1 2oem 2 1 1 1 2od9 2 2 1 1 2ogp " ++
    "2 1 1 1 2ogm 1 1 1 1 2ogk 1 2 1 1 2ofx 2 1 1 1 2ogk 1 1 1 1 2ogq 1 1 1 1 2ogh 1 1 1 1 2ofz " ++
    "2 3 1 1 2og7 3 1 1 1 2ogr 1 1 1 1 2ogm 1 1 1 1 2ogf 1 1 1 1 2ogs 1 1 1 1 2ogg 1 1 1 1 2ogy " ++
    "1 1 1 1 2ogw 1 2 1 1 2oh7 2 1 1 1 2oh5 1 1 1 1 2oh4 1 1 1 1 2ogz 1 1 1 1 2ogy 1 1 1 1 2ogx " ++
    "6 1 1 1 2ohl 1 1 1 1 2ohi 1 1 1 1 2ohg 2 1 1 1 2ogt 1 1 1 1 2ohg 1 1 1 1 2ohm 1 1 1 1 2ohd " ++
    "1 1 1 1 2ogv 2 3 1 1 2oh3 3 1 1 1 2ohn 1 1 1 1 2ohi 1 1 1 1 2ohb 1 1 1 1 2oho 1 1 1 1 2ohc " ++
    "1 1 1 1 2ohu 1 1 1 1 2ohs 1 2 1 1 2oi3 2 1 1 1 2oi1 1 1 1 1 2oi0 1 1 1 1 2ohv 1 1 1 1 2ohu " ++
    "1 1 1 1 2oht hc 1 1 1 2q4o 1 1 1 1 2q4a 4 q 1 1 2q4v 5u 1 1 1 2gr1 e 1 1 1 26yt 1 1 1 1 " ++
    "28ca 1 1 1 1 29ty 1 1 1 1 2gr0 1 1 1 1 2avc 1 1 1 1 28sb 1 1 1 1 1z5f 1 1 1 1 28ry 1 1 1 1 " ++
    "2aus 1 1 1 1 267t 1 1 1 1 241l 1 1 1 1 26bm 1 1 1 1 2a4v 1 1 1 1 27ip 1 1 1 1 2aa9 1 1 1 1 " ++
    "26b3 1 1 1 1 2a6b 1 1 1 1 21nj 1 1 1 1 239f 1 1 1 1 1ym2 1 1 1 1 28tw 1 1 1 1 29rg 1 1 1 1 " ++
    "24gi 1 1 1 1 26xe 1 1 1 1 26s3 1 1 1 1 2azt 1 1 1 1 2azl 1 1 1 1 1xwh 1 1 1 1 27uu 1 1 1 1 " ++
    "2ayo 1 1 1 1 29tn 1 1 1 1 26ug 1 1 1 1 1ygw 1 1 1 1 26zi 1 1 1 1 22ep 1 1 1 1 227t 1 1 1 1 " ++
    "29t8 1 1 1 1 24l1 1 1 1 1 2625 1 1 1 1 2627 1 1 1 1 239h 1 1 1 1 2a4n 1 1 1 1 29hg 1 1 1 1 " ++
    "1xpq l 1 1 1 27jt 1 1 1 1 29uq 1wf a 1 1 2sao")

private def sequences : List (Nat × List Nat) := charSequences
    ("4o 2 w lk 4v 2 w lg 50 2 w ld 54 2 w mf 58 3 1d 6dg 1g 59 3 1d 6dg 1e 5a 3 1f 6dg 1g 8i 2 " ++
    "2x 2y 8j 2 2x 2y 8v 2 30 53 8w 2 30 53 95 2 jg 32 ck 2 2s am cl 2 2s am cm 2 2s am cn 2 30 " ++
    "2y co 2 30 2y cp 2 30 2y cq 2 32 2y cr 2 32 2y cs 2 32 2y dt 2 2s 3e du 2 2s 3e dv 2 2s 3e " ++
    "k8 2 w li k9 2 w lj ka 2 w lm kb 2 w mg kc 2 w lf kd 2 w ln oq 2 w qh p0 2 w ld p1 3 w lk " ++
    "ld 13b 2 12d 136 19x 2 17r 19w 19y 2 18o 19w 19z 2 1c7 19w 1a0 2 18q 19w 2sz 2 2tp 2sy 2wj " ++
    "2 2x9 2wi 2xo 2 2wb 2vt 2xp 2 2wb 2w1 31z 3 33m 31t 328 321 3 33n 31t 328 61m 2 2p ji 680 2 " ++
    "64g qh 681 2 64h qh 682 2 64i qh 683 2 64j qh 684 2 64k qh 685 2 64l qh 686 2 64m qh 687 2 " ++
    "64n qh 688 2 64g qh 689 2 64h qh 68a 2 64i qh 68b 2 64j qh 68c 2 64k qh 68d 2 64l qh 68e 2 " ++
    "64m qh 68f 2 64n qh 68g 2 65c qh 68h 2 65d qh 68i 2 65e qh 68j 2 65f qh 68k 2 65g qh 68l 2 " ++
    "65h qh 68m 2 65i qh 68n 2 65j qh 68o 2 65c qh 68p 2 65d qh 68q 2 65e qh 68r 2 65f qh 68s 2 " ++
    "65g qh 68t 2 65h qh 68u 2 65i qh 68v 2 65j qh 68w 2 674 qh 68x 2 675 qh 68y 2 676 qh 68z 2 " ++
    "677 qh 690 2 678 qh 691 2 679 qh 692 2 67a qh 693 2 67b qh 694 2 674 qh 695 2 675 qh 696 2 " ++
    "676 qh 697 2 677 qh 698 2 678 qh 699 2 679 qh 69a 2 67a qh 69b 2 67b qh 69e 2 67k qh 69f 2 " ++
    "q9 qh 69g 2 q4 qh 69j 2 69i qh 69o 2 q9 qh 69p 2 w lv 69r 2 w lv 69s 2 w n6 69t 3 w lk n6 " ++
    "69u 2 67o qh 69v 2 qf qh 69w 2 q6 qh 69z 2 69y qh 6a4 2 qf qh 6a5 3 w lv lc 6a6 3 w lv ld " ++
    "6a7 3 w lv n6 6al 3 w lw lc 6am 3 w lw ld 6an 3 w lw n6 6b1 3 w lk lc 6b2 3 w lk ld 6b6 2 " ++
    "67w qh 6b7 2 qx qh 6b8 2 r2 qh 6bb 2 6ba qh 6bg 2 qx qh 6bh 2 w ld 6bi 2 w lw 6c7 2 w mr " ++
    "6cz 2 6cy 6cy 6d0 3 6cy 6cy 6cy 6d2 2 6d1 6d1 6d3 3 6d1 6d1 6d1 6d8 2 x x 6da 2 w lh 6dj 2 " ++
    "1r 1r 6dk 2 1r x 6dl 2 x 1r 6dz 4 6cy 6cy 6cy 6cy 6g8 2 36 37 6io 3 2p 1b 2r 6ip 3 2p 1b 37 " ++
    "6ir 2 4w 2r 6it 3 2r 1b 33 6iu 3 2r 1b 39 6ix 2 4w 2u 6ja 2 32 33 6jk 2 37 31 6jl 3 38 2t " ++
    "30 6jm 2 38 31 6kb 3 2u 2p 3c 6kw 3 1d 6dg 1j 6kx 3 1d 6dg 1l 6ky 4 1d 6dg 1d 1c 6kz 3 1d " ++
    "6dg 1f 6l0 3 1e 6dg 1f 6l1 3 1d 6dg 1h 6l2 3 1e 6dg 1h 6l3 3 1f 6dg 1h 6l4 3 1g 6dg 1h 6l5 " ++
    "3 1d 6dg 1i 6l6 3 1h 6dg 1i 6l7 3 1d 6dg 1k 6l8 3 1f 6dg 1k 6l9 3 1h 6dg 1k 6la 3 1j 6dg 1k " ++
    "6lb 2 1d 6dg 6ld 2 2x 2x 6le 3 2x 2x 2x 6lf 2 2x 3a 6lh 2 3a 2x 6li 3 3a 2x 2x 6lj 4 3a 2x " ++
    "2x 2x 6lk 2 2x 3c 6lm 2 3c 2x 6ln 3 3c 2x 2x 6lt 2 2x 2x 6lu 3 2x 2x 2x 6lv 2 2x 3a 6lx 2 " ++
    "3a 2x 6ly 3 3a 2x 2x 6lz 4 3a 2x 2x 2x 6m0 2 2x 3c 6m2 2 3c 2x 6m3 3 3c 2x 2x 6mh 3 1c 6dg " ++
    "1f 6r0 2 6qz 6qz 6r1 3 6qz 6qz 6qz 6r3 2 6r2 6r2 6r4 3 6r2 6r2 6r2 76x 2 1d 1c 76y 2 1d 1d " ++
    "76z 2 1d 1e 770 2 1d 1f 771 2 1d 1g 772 2 1d 1h 773 2 1d 1i 774 2 1d 1j 775 2 1d 1k 776 2 " ++
    "1d 1l 777 2 1e 1c 778 3 14 1d 15 779 3 14 1e 15 77a 3 14 1f 15 77b 3 14 1g 15 77c 3 14 1h " ++
    "15 77d 3 14 1i 15 77e 3 14 1j 15 77f 3 14 1k 15 77g 3 14 1l 15 77h 4 14 1d 1c 15 77i 4 14 " ++
    "1d 1d 15 77j 4 14 1d 1e 15 77k 4 14 1d 1f 15 77l 4 14 1d 1g 15 77m 4 14 1d 1h 15 77n 4 14 " ++
    "1d 1i 15 77o 4 14 1d 1j 15 77p 4 14 1d 1k 15 77q 4 14 1d 1l 15 77r 4 14 1e 1c 15 78c 3 14 " ++
    "2p 15 78d 3 14 2q 15 78e 3 14 2r 15 78f 3 14 2s 15 78g 3 14 2t 15 78h 3 14 2u 15 78i 3 14 " ++
    "2v 15 78j 3 14 2w 15 78k 3 14 2x 15 78l 3 14 2y 15 78m 3 14 2z 15 78n 3 14 30 15 78o 3 14 " ++
    "31 15 78p 3 14 32 15 78q 3 14 33 15 78r 3 14 34 15 78s 3 14 35 15 78t 3 14 36 15 78u 3 14 " ++
    "37 15 78v 3 14 38 15 78w 3 14 39 15 78x 3 14 3a 15 78y 3 14 3b 15 78z 3 14 3c 15 790 3 14 " ++
    "3d 15 791 3 14 3e 15 8b0 4 6qz 6qz 6qz 6qz 8dw 3 1m 1m 1p 8dx 2 1p 1p 8dy 3 1p 1p 1p 9ln 2 " ++
    "w 9ll 9lo 2 w 9lm 9lr 2 9l4 9l6 9of 2 9mb 9mw 9vk 3 14 3cw 15 9vl 3 14 3cy 15 9vm 3 14 3cz " ++
    "15 9vn 3 14 3d1 15 9vo 3 14 3d2 15 9vp 3 14 3d3 15 9vq 3 14 3d5 15 9vr 3 14 3d7 15 9vs 3 14 " ++
    "3d8 15 9vt 3 14 3da 15 9vu 3 14 3db 15 9vv 3 14 3dc 15 9vw 3 14 3dd 15 9vx 3 14 3de 15 9vy " ++
    "3 14 xz4 15 9vz 3 14 yvs 15 9w0 3 14 zc4 15 9w1 3 14 108s 15 9w2 3 14 10p4 15 9w3 3 14 115g " ++
    "15 9w4 3 14 1224 15 9w5 3 14 12ys 15 9w6 3 14 13f4 15 9w7 3 14 14bs 15 9w8 3 14 14s4 15 9w9 " ++
    "3 14 158g 15 9wa 3 14 15os 15 9wb 3 14 1654 15 9wc 3 14 13p8 15 9wd 4 14 1350 13ic 15 9we 4 " ++
    "14 1350 16f8 15 9wg 3 14 feo 15 9wh 3 14 fik 15 9wi 3 14 fex 15 9wj 3 14 h5n 15 9wk 3 14 " ++
    "fis 15 9wl 3 14 g31 15 9wm 3 14 fer 15 9wn 3 14 g2z 15 9wo 3 14 fh9 15 9wp 3 14 gg1 15 9wq " ++
    "3 14 kco 15 9wr 3 14 m7f 15 9ws 3 14 ldg 15 9wt 3 14 kdk 15 9wu 3 14 ssx 15 9wv 3 14 h7j 15 " ++
    "9ww 3 14 k4l 15 9wx 3 14 kkq 15 9wy 3 14 kcp 15 9wz 3 14 ny6 15 9x0 3 14 glp 15 9x1 3 14 " ++
    "mm1 15 9x2 3 14 rs1 15 9x3 3 14 nz1 15 9x4 3 14 gc4 15 9x5 3 14 fkz 15 9x6 3 14 gos 15 9x7 " ++
    "3 14 i1y 15 9x8 3 14 nhf 15 9x9 3 14 flt 15 9xa 3 14 rt3 15 9xb 3 14 ggk 15 9xc 3 14 nzh 15 " ++
    "9xd 3 14 fm9 15 9xe 3 14 pnu 15 9xf 3 14 po3 15 9xs 3 34 38 2t 9xt 2 1e 1d 9xu 2 1e 1e 9xv " ++
    "2 1e 1f 9xw 2 1e 1g 9xx 2 1e 1h 9xy 2 1e 1i 9xz 2 1e 1j 9y0 2 1e 1k 9y1 2 1e 1l 9y2 2 1f 1c " ++
    "9y3 2 1f 1d 9y4 2 1f 1e 9y5 2 1f 1f 9y6 2 1f 1g 9y7 2 1f 1h 9z0 2 14c8 y5c 9z1 2 13p8 13dk " ++
    "a0h 2 1f 1i a0i 2 1f 1j a0j 2 1f 1k a0k 2 1f 1l a0l 2 1g 1c a0m 2 1g 1d a0n 2 1g 1e a0o 2 " ++
    "1g 1f a0p 2 1g 1g a0q 2 1g 1h a0r 2 1g 1i a0s 2 1g 1j a0t 2 1g 1k a0u 2 1g 1l a0v 2 1h 1c " ++
    "a0w 2 1d kco a0x 2 1e kco a0y 2 1f kco a0z 2 1g kco a10 2 1h kco a11 2 1i kco a12 2 1j kco " ++
    "a13 2 1k kco a14 2 1l kco a15 3 1d 1c kco a16 3 1d 1d kco a17 3 1d 1e kco a18 2 2w 2v a19 3 " ++
    "2t 36 2v a1a 2 2t 3a a1b 3 30 38 2s a2n 2 fl0 gp8 a2o 4 9lu 9n5 9oc 9mw a2p 4 9lu 9nv 9n9 " ++
    "9lt a2q 4 9lu 9o3 9ne 9lu a2r 3 9lu 9oc 9nv a2s 4 9lw 9mz 9o3 9m8 a2t 3 9lw 9o3 9mp a2u 3 " ++
    "9ly 9m1 9o3 a2v 5 9m0 9mh 9m7 9oc 9mx a2w 4 9m0 9oc 9m3 9oc a2x 3 9m2 9o3 9mh a2y 3 9m2 9oc " ++
    "9nk a2z 3 9m3 9lw 9nu a30 4 9m3 9nt 9mr 9mw a31 4 9m3 9nx 9nu 9oc a32 3 9m4 9nx 9o3 a33 3 " ++
    "9m4 9o3 9ni a34 2 9m6 9m4 a35 3 9m6 9mz 9oc a36 4 9m5 9np 9nu 9oc a37 4 9m6 9nv 9mo 9oc a38 " ++
    "2 9m5 9nx a39 5 9m5 9nx 9m8 9nt 9nk a3a 6 9m5 9nx 9nl 9oc 9mw 9nv a3b 5 9m5 9nx 9nz 9mr 9mw " ++
    "a3c 3 9m8 9nt 9nk a3d 5 9m8 9nt 9nk 9mw 9o3 a3e 5 9m7 9nv 9mk 9lw 9nx a3f 4 9m7 9nx 9oc 9n1 " ++
    "a3g 3 9m9 9oc 9mh a3h 3 9mb 9nv 9my a3i 3 9mb 9oc 9nh a3j 4 9md 9lw 9m7 9nv a3k 5 9md 9o3 " ++
    "9mp 9oc 9nk a3l 4 9mf 9nu 9o3 9m8 a3m 3 9mj 9o3 9mp a3n 3 9mj 9o3 9mw a3o 3 9mo 9oc 9mh a3p " ++
    "2 9mv 9mf a3q 2 9mx 9nv a3r 2 9mw 9o3 a3s 2 9my 9n2 a3t 3 9n2 9mr 9mw a3u 3 9n3 9lw 9ms a3v " ++
    "5 9n5 9oc 9mj 9o3 9mw a3w 3 9n5 9oc 9ms a3x 4 9n4 9oc 9nw 9nv a3y 5 9n8 9lu 9mh 9mw 9nv a3z " ++
    "3 9n8 9m7 9nv a40 2 9n8 9mb a41 2 9n7 9nv a42 5 9n9 9lt 9nt 9mr 9mx a43 4 9n9 9lv 9oc 9mw " ++
    "a44 5 9na 9mr 9mf 9lz 9nv a45 3 9n9 9nt 9o3 a46 5 9nc 9m7 9mn 9oc 9nv a47 2 9ne 9ml a48 3 " ++
    "9ne 9mz 9n6 a49 3 9nc 9nv 9ms a4a 3 9ne 9o3 9mh a4b 3 9ne 9oc 9mg a4c 3 9nd 9oc 9mn a4d 4 " ++
    "9nh 9lw 9o3 9mw a4e 3 9ng 9nv 9mw a4f 2 9nf 9o3 a4g 3 9nh 9o3 9mx a4h 3 9nf 9oc 9nv a4i 3 " ++
    "9nf 9oc 9o3 a4j 4 9ni 9lw 9m7 9nx a4k 3 9ni 9lw 9nv a4l 3 9ni 9mr 9n3 a4m 3 9ni 9nv 9m7 a4n " ++
    "5 9ni 9o3 9mf 9nr 9o3 a4o 4 9nj 9m7 9nx 9o3 a4p 2 9nj 9nu a4q 5 9nj 9nu 9n4 9oc 9nv a4r 2 " ++
    "9nl 9m4 a4s 4 9nl 9m4 9mw 9o3 a4t 4 9nl 9oc 9mw 9nv a4u 3 9no 9oc 9mx a4v 3 9no 9oc 9nv a4w " ++
    "3 9nq 9lu 9o3 a4x 4 9nu 9mr 9mw 9nv a4y 2 9nu 9nt a4z 3 9nv 9n8 9oc a50 4 9nv 9oc 9na 9nv " ++
    "a51 2 9nw 9nk a52 5 9nw 9o3 9mw 9ma 9o3 a53 3 9nz 9mr 9mw a54 2 1c m9l a55 2 1d m9l a56 2 " ++
    "1e m9l a57 2 1f m9l a58 2 1g m9l a59 2 1h m9l a5a 2 1i m9l a5b 2 1j m9l a5c 2 1k m9l a5d 2 " ++
    "1l m9l a5e 3 1d 1c m9l a5f 3 1d 1d m9l a5g 3 1d 1e m9l a5h 3 1d 1f m9l a5i 3 1d 1g m9l a5j " ++
    "3 1d 1h m9l a5k 3 1d 1i m9l a5l 3 1d 1j m9l a5m 3 1d 1k m9l a5n 3 1d 1l m9l a5o 3 1e 1c m9l " ++
    "a5p 3 1e 1d m9l a5q 3 1e 1e m9l a5r 3 1e 1f m9l a5s 3 1e 1g m9l a5t 3 2w 34 2p a5u 2 2s 2p " ++
    "a5v 2 2p 39 a5w 3 2q 2p 36 a5x 2 33 3a a5y 2 34 2r a5z 2 2s 31 a60 3 2s 31 1e a61 3 2s 31 " ++
    "1f a62 2 2x 39 a63 2 inn jdc a64 2 k6l gp8 a65 2 hlz l7n a66 2 k5q lh7 a67 4 kkq irz fmi " ++
    "ny6 a68 2 34 2p a69 2 32 2p a6a 2 qk 2p a6b 2 31 2p a6c 2 2z 2p a6d 2 2z 2q a6e 2 31 2q a6f " ++
    "2 2v 2q a6g 3 2r 2p 30 a6h 4 2z 2r 2p 30 a6i 2 34 2u a6j 2 32 2u a6k 2 qk 2u a6l 2 qk 2v " ++
    "a6m 2 31 2v a6n 2 2z 2v a6o 2 2w 3e a6p 3 2z 2w 3e a6q 3 31 2w 3e a6r 3 2v 2w 3e a6s 3 38 " ++
    "2w 3e a6t 2 qk 30 a6u 2 31 30 a6v 2 2s 30 a6w 2 2z 30 a6x 2 2u 31 a6y 2 32 31 a6z 2 qk 31 " ++
    "a70 2 31 31 a71 2 2r 31 a72 2 2z 31 a73 3 31 31 1e a74 3 2r 31 1e a75 2 31 1e a76 3 2z 31 " ++
    "1e a77 3 31 31 1f a78 3 2r 31 1f a79 2 31 1f a7a 3 2z 31 1f a7b 3 31 6qd 37 a7c 4 31 6qd 37 " ++
    "1e a7d 2 34 2p a7e 3 2z 34 2p a7f 3 31 34 2p a7g 3 2v 34 2p a7h 3 36 2p 2s a7i 5 36 2p 2s " ++
    "6qd 37 a7j 6 36 2p 2s 6qd 37 1e a7k 2 34 37 a7l 2 32 37 a7m 2 qk 37 a7n 2 31 37 a7o 2 34 3a " ++
    "a7p 2 32 3a a7q 2 qk 3a a7r 2 31 3a a7s 2 2z 3a a7t 2 31 3a a7u 2 34 3b a7v 2 32 3b a7w 2 " ++
    "qk 3b a7x 2 31 3b a7y 2 2z 3b a7z 2 31 3b a80 2 2z qx a81 2 31 qx a83 2 2q 35 a84 2 2r 2r " ++
    "a85 2 2r 2s a86 4 2r 6qd 2z 2v a88 2 2s 2q a89 2 2v 3d a8a 2 2w 2p a8b 2 2w 34 a8c 2 2x 32 " ++
    "a8d 2 2z 2z a8e 2 2z 31 a8f 2 2z 38 a8g 2 30 31 a8h 2 30 32 a8i 3 30 33 2v a8j 2 30 3c a8k " ++
    "2 31 2q a8l 3 31 2x 30 a8m 3 31 33 30 a8n 2 34 2w a8p 3 34 34 31 a8q 2 34 36 a8r 2 37 36 " ++
    "a8s 2 37 3a a8t 2 3b 2q a8u 3 3a 6qd 31 a8v 3 2p 6qd 31 a8w 2 1d k4l a8x 2 1e k4l a8y 2 1f " ++
    "k4l a8z 2 1g k4l a90 2 1h k4l a91 2 1i k4l a92 2 1j k4l a93 2 1k k4l a94 2 1l k4l a95 3 1d " ++
    "1c k4l a96 3 1d 1d k4l a97 3 1d 1e k4l a98 3 1d 1f k4l a99 3 1d 1g k4l a9a 3 1d 1h k4l a9b " ++
    "3 1d 1i k4l a9c 3 1d 1j k4l a9d 3 1d 1k k4l a9e 3 1d 1l k4l a9f 3 1e 1c k4l a9g 3 1e 1d k4l " ++
    "a9h 3 1e 1e k4l a9i 3 1e 1f k4l a9j 3 1e 1g k4l a9k 3 1e 1h k4l a9l 3 1e 1i k4l a9m 3 1e 1j " ++
    "k4l a9n 3 1e 1k k4l a9o 3 1e 1l k4l a9p 3 1f 1c k4l a9q 3 1f 1d k4l a9r 3 2v 2p 30 1dkw 2 " ++
    "2u 2u 1dkx 2 2u 2x 1dky 2 2u 30 1dkz 3 2u 2u 2x 1dl0 3 2u 2u 30 1dl1 2 37 38 1dl2 2 37 38 " ++
    "1dlf 2 12s 12u 1dlg 2 12s 12d 1dlh 2 12s 12j 1dli 2 132 12u 1dlj 2 12s 12l 1dn3 2 15c 15o " ++
    "1dr1 2 1c7 19w 1dre 2 17q 17r 1drf 2 17q 17r 1drg 2 17q 1cl 1drh 2 17q 1cl 1dri 2 17q 18o " ++
    "1drj 2 17q 18o 1drk 2 17q 1c7 1drl 2 17q 1c7 1drm 2 17q 1c6 1drn 2 17q 1c6 1dro 2 17q 1c8 " ++
    "1drp 2 17q 1c8 1drq 2 17q 1cg 1drr 2 17q 1cg 1drs 2 17q 1cg 1drt 2 17q 18p 1dru 2 17q 18p " ++
    "1drv 2 17q 18p 1ds0 2 17q 17w 1ds1 2 17q 17x 1ds2 2 17q 18l 1ds3 2 17q 18p 1ds4 2 17q 18q " ++
    "1ds5 2 17s 17w 1ds6 2 17s 17x 1ds7 2 17s 17y 1ds8 2 17s 18l 1ds9 2 17s 18p 1dsa 2 17s 18q " ++
    "1dsb 2 17u 17w 1dsc 2 17u 17x 1dsd 2 17u 17y 1dse 2 17u 18l 1dsf 2 17u 18p 1dsg 2 17u 18q " ++
    "1dsh 2 17v 17w 1dsi 2 17v 18l 1dsj 2 17v 18p 1dsk 2 17v 18q 1dsl 2 17w 17x 1dsm 2 17w 18l " ++
    "1dsn 2 17x 17w 1dso 2 17x 18l 1dsp 2 17y 17w 1dsq 2 17y 17x 1dsr 2 17y 18l 1dss 2 183 17w " ++
    "1dst 2 183 17x 1dsu 2 183 17y 1dsv 2 183 18l 1dsw 2 185 17x 1dsx 2 185 18l 1dsy 2 186 17w " ++
    "1dsz 2 186 17x 1dt0 2 186 17y 1dt1 2 186 18l 1dt2 2 187 17x 1dt3 2 187 18l 1dt4 2 188 18l " ++
    "1dt5 2 189 17w 1dt6 2 189 18l 1dt7 2 18a 17w 1dt8 2 18a 18l 1dt9 2 18h 17w 1dta 2 18h 17x " ++
    "1dtb 2 18h 17y 1dtc 2 18h 18l 1dtd 2 18h 18p 1dte 2 18h 18q 1dtf 2 18i 17x 1dtg 2 18i 18l " ++
    "1dth 2 18i 18p 1dti 2 18i 18q 1dtj 2 18j 17r 1dtk 2 18j 17w 1dtl 2 18j 17x 1dtm 2 18j 17y " ++
    "1dtn 2 18j 18k 1dto 2 18j 18l 1dtp 2 18j 18p 1dtq 2 18j 18q 1dtr 2 18k 17w 1dts 2 18k 17x " ++
    "1dtt 2 18k 17y 1dtu 2 18k 18l 1dtv 2 18k 18p 1dtw 2 18k 18q 1dtx 2 18l 17w 1dty 2 18l 17x " ++
    "1dtz 2 18l 17y 1du0 2 18l 18l 1du1 2 18l 18p 1du2 2 18l 18q 1du3 2 18m 17w 1du4 2 18m 17x " ++
    "1du5 2 18m 17y 1du6 2 18m 18l 1du7 2 18m 18p 1du8 2 18m 18q 1du9 2 18n 17w 1dua 2 18n 18l " ++
    "1dub 2 18n 18p 1duc 2 18n 18q 1dud 2 18q 17w 1due 2 18q 17x 1duf 2 18q 17y 1dug 2 18q 18l " ++
    "1duh 2 18q 18p 1dui 2 18q 18q 1duj 2 180 19s 1duk 2 181 19s 1dul 2 18p 19s 1dum 3 w 18s 18x " ++
    "1dun 3 w 18t 18x 1duo 3 w 18u 18x 1dup 3 w 18v 18x 1duq 3 w 18w 18x 1dur 3 w 18x 19s 1dus 2 " ++
    "17q 181 1dut 2 17q 182 1duu 2 17q 18l 1duv 2 17q 18m 1duw 2 17q 18p 1dux 2 17q 18q 1duy 2 " ++
    "17s 181 1duz 2 17s 182 1dv0 2 17s 18l 1dv1 2 17s 18m 1dv2 2 17s 18p 1dv3 2 17s 18q 1dv4 2 " ++
    "17u 181 1dv5 2 17u 182 1dv6 2 17u 18l 1dv7 2 17u 18m 1dv8 2 17u 18p 1dv9 2 17u 18q 1dva 2 " ++
    "17v 181 1dvb 2 17v 182 1dvc 2 17v 18l 1dvd 2 17v 18m 1dve 2 17v 18p 1dvf 2 17v 18q 1dvg 2 " ++
    "18h 18p 1dvh 2 18h 18q 1dvi 2 18i 18p 1dvj 2 18i 18q 1dvk 2 18j 17r 1dvl 2 18j 18k 1dvm 2 " ++
    "18j 18l 1dvn 2 18j 18p 1dvo 2 18j 18q 1dvp 2 18k 18l 1dvq 2 18k 18p 1dvr 2 18k 18q 1dvs 2 " ++
    "18l 17r 1dvt 2 18l 18l 1dvu 2 18m 181 1dvv 2 18m 182 1dvw 2 18m 18l 1dvx 2 18m 18m 1dvy 2 " ++
    "18m 18p 1dvz 2 18m 18q 1dw0 2 18p 19s 1dw1 2 18q 181 1dw2 2 18q 182 1dw3 2 18q 18l 1dw4 2 " ++
    "18q 18m 1dw5 2 18q 18p 1dw6 2 18q 18q 1dw7 2 17q 17w 1dw8 2 17q 17x 1dw9 2 17q 17y 1dwa 2 " ++
    "17q 18l 1dwb 2 17q 18n 1dwc 2 17s 17w 1dwd 2 17s 17x 1dwe 2 17s 17y 1dwf 2 17s 18l 1dwg 2 " ++
    "17s 18n 1dwh 2 17u 17w 1dwi 2 17u 17x 1dwj 2 17u 17y 1dwk 2 17u 18l 1dwl 2 17u 18n 1dwm 2 " ++
    "17v 18l 1dwn 2 17w 17x 1dwo 2 17w 18l 1dwp 2 17x 17w 1dwq 2 17x 18l 1dwr 2 17y 17w 1dws 2 " ++
    "17y 18l 1dwt 2 183 17w 1dwu 2 183 17x 1dwv 2 183 17y 1dww 2 183 18l 1dwx 2 185 17x 1dwy 2 " ++
    "185 17y 1dwz 2 185 18l 1dx0 2 186 17w 1dx1 2 186 17x 1dx2 2 186 17y 1dx3 2 186 18l 1dx4 2 " ++
    "187 17x 1dx5 2 188 18l 1dx6 2 189 17w 1dx7 2 189 18l 1dx8 2 18a 17w 1dx9 2 18a 18l 1dxa 2 " ++
    "18h 17w 1dxb 2 18h 17x 1dxc 2 18h 17y 1dxd 2 18h 18l 1dxe 2 18i 17x 1dxf 2 18i 18l 1dxg 2 " ++
    "18j 17w 1dxh 2 18j 17x 1dxi 2 18j 17y 1dxj 2 18j 18k 1dxk 2 18j 18l 1dxl 2 18k 17w 1dxm 2 " ++
    "18k 17x 1dxn 2 18k 17y 1dxo 2 18k 18l 1dxp 2 18k 18n 1dxq 2 18l 17w 1dxr 2 18l 17x 1dxs 2 " ++
    "18l 17y 1dxt 2 18l 18l 1dxu 2 18m 17w 1dxv 2 18m 17x 1dxw 2 18m 17y 1dxx 2 18m 18l 1dxy 2 " ++
    "18m 18n 1dxz 2 18n 17w 1dy0 2 18n 18l 1dy1 2 18n 19s 1dy2 2 18q 17w 1dy3 2 18q 17x 1dy4 2 " ++
    "18q 17y 1dy5 2 18q 18l 1dy6 2 18q 18n 1dy7 2 17q 18l 1dy8 2 17q 18n 1dy9 2 17s 18l 1dya 2 " ++
    "17s 18n 1dyb 2 17u 18l 1dyc 2 17u 18n 1dyd 2 17v 18l 1dye 2 17v 18n 1dyf 2 183 18l 1dyg 2 " ++
    "183 18n 1dyh 2 184 18l 1dyi 2 184 18n 1dyj 2 18j 18k 1dyk 2 18j 18l 1dyl 2 18k 18l 1dym 2 " ++
    "18m 18l 1dyn 2 18m 18n 1dyo 2 18q 18l 1dyp 2 18q 18n 1dyq 3 18g 18u 18x 1dyr 3 18g 18v 18x " ++
    "1dys 3 18g 18w 18x 1dyt 2 187 18p 1dyu 2 187 18q 1dyv 2 189 18p 1dyw 2 189 18q 1dyx 2 18a " ++
    "18p 1dyy 2 18a 18q 1dyz 2 183 18p 1dz0 2 183 18q 1dz1 2 184 18p 1dz2 2 184 18q 1dz3 2 17x " ++
    "18p 1dz4 2 17x 18q 1dz5 2 17w 18p 1dz6 2 17w 18q 1dz7 2 17y 18p 1dz8 2 17y 18q 1dz9 2 185 " ++
    "18p 1dza 2 185 18q 1dzb 2 186 18p 1dzc 2 186 18q 1dzd 2 184 17w 1dze 2 184 17x 1dzf 2 184 " ++
    "17y 1dzg 2 184 18l 1dzh 2 184 181 1dzi 2 183 181 1dzj 2 185 181 1dzk 2 186 181 1dzl 2 187 " ++
    "18p 1dzm 2 187 18q 1dzn 2 189 18p 1dzo 2 189 18q 1dzp 2 18a 18p 1dzq 2 18a 18q 1dzr 2 183 " ++
    "18p 1dzs 2 183 18q 1dzt 2 184 18p 1dzu 2 184 18q 1dzv 2 17x 18p 1dzw 2 17x 18q 1dzx 2 17w " ++
    "18p 1dzy 2 17w 18q 1dzz 2 17y 18p 1e00 2 17y 18q 1e01 2 185 18p 1e02 2 185 18q 1e03 2 186 " ++
    "18p 1e04 2 186 18q 1e05 2 184 17w 1e06 2 184 17x 1e07 2 184 17y 1e08 2 184 18l 1e09 2 184 " ++
    "181 1e0a 2 183 181 1e0b 2 185 181 1e0c 2 186 181 1e0d 2 184 17w 1e0e 2 184 17x 1e0f 2 184 " ++
    "17y 1e0g 2 184 18l 1e0h 2 183 18n 1e0i 2 184 18n 1e0j 2 187 18l 1e0k 2 183 17w 1e0l 2 183 " ++
    "17x 1e0m 2 183 17y 1e0n 2 184 17w 1e0o 2 184 17x 1e0p 2 184 17y 1e0q 2 187 18l 1e0r 2 188 " ++
    "18l 1e0s 2 17r 18r 1e0t 2 17r 18r 1e1c 3 17u 17w 18l 1e1d 3 17u 17x 17w 1e1e 3 17u 17x 17w " ++
    "1e1f 3 17u 17x 18l 1e1g 3 17u 17y 18l 1e1h 3 17u 18l 17w 1e1i 3 17u 18l 17x 1e1j 3 17u 18l " ++
    "17y 1e1k 3 17w 18l 17x 1e1l 3 17w 18l 17x 1e1m 3 17x 18l 18q 1e1n 3 17x 18l 18p 1e1o 3 183 " ++
    "17x 17w 1e1p 3 183 17w 17x 1e1q 3 183 17w 18p 1e1r 3 183 18l 17x 1e1s 3 183 18l 17x 1e1t 3 " ++
    "183 18l 17w 1e1u 3 183 18l 18l 1e1v 3 183 18l 18l 1e1w 3 185 17x 17x 1e1x 3 185 17x 17x " ++
    "1e1y 3 185 18l 18l 1e1z 3 184 17x 18l 1e20 3 184 17x 18l 1e21 3 184 17w 18q 1e22 3 184 18l " ++
    "17y 1e23 3 184 18l 17y 1e24 3 184 18l 18l 1e25 3 184 18l 18l 1e26 3 186 17x 18p 1e27 3 186 " ++
    "17y 18l 1e28 3 186 17y 18l 1e29 3 187 18l 17x 1e2a 3 187 18l 17x 1e2b 3 187 18l 18l 1e2c 3 " ++
    "187 18l 18q 1e2d 3 189 17w 18l 1e2e 3 189 18l 18l 1e2f 3 189 18l 18l 1e2g 3 189 18l 18p " ++
    "1e2h 3 18a 18l 18l 1e2i 3 18a 18l 18q 1e2j 3 18a 18l 18p 1e2k 3 18h 17y 18l 1e2l 3 18h 17y " ++
    "18l 1e2m 3 18i 18l 17x 1e2n 3 18i 18l 18l 1e2o 3 18k 17x 18l 1e2p 3 18k 17x 18q 1e2q 3 18k " ++
    "17x 18p 1e2r 3 18k 17w 17w 1e2s 3 18k 17w 17w 1e2t 3 18k 17y 18l 1e2u 3 18k 17y 18l 1e2v 3 " ++
    "18k 18l 17x 1e2w 3 18k 18l 17x 1e2x 3 18l 17x 17w 1e2y 3 18l 17x 18l 1e2z 3 18l 17x 18q " ++
    "1e30 3 18l 17w 17x 1e31 3 18l 17w 18l 1e32 3 18l 17y 17w 1e33 3 18l 17y 18l 1e36 3 18l 17w " ++
    "17y 1e37 3 18n 18l 17w 1e38 3 18n 18l 18l 1e39 3 18m 17x 18l 1e3a 3 18m 17x 18p 1e3b 3 18m " ++
    "17w 18l 1e3c 3 18m 17w 18l 1e3d 3 18m 17w 18p 1e3e 3 18m 18l 18q 1e3f 3 18m 18l 18p 1e3g 3 " ++
    "18q 18l 18l 1e3h 3 18q 18l 18l 1e3i 3 17s 17y 18q 1e3j 3 17u 17w 18q 1e3k 3 17u 17w 18p " ++
    "1e3l 3 17u 17y 18q 1e3m 3 17u 17y 18p 1e3n 3 17u 18l 18q 1e3o 3 17u 18l 18p 1e3p 3 17w 18l " ++
    "18q 1e3q 3 17w 17x 18p 1e3r 3 17w 18l 18p 1e3s 3 183 17y 18p 1e3t 3 185 17x 18q 1e3u 3 184 " ++
    "17x 18q 1e3v 3 186 17x 18q 1e3w 3 18k 17w 18q 1e3x 3 18k 18l 18q 1e3y 3 18q 17x 18q 1e3z 3 " ++
    "18q 17w 18q 1e40 3 18q 18l 18q 1e41 3 18l 18l 18q 1e42 3 18i 18l 18q 1e43 3 18m 17x 18q " ++
    "1e44 3 18i 18l 17x 1e45 3 18k 17x 18l 1e46 3 189 18l 18q 1e47 3 18j 18l 18q 1e48 3 18m 17w " ++
    "17x 1e49 3 18l 17y 18q 1e4a 3 18k 17w 18l 1e4b 3 18j 18l 18l 1e4c 3 18k 17w 18l 1e4d 3 18m " ++
    "17w 17x 1e4e 3 17w 17x 18q 1e4f 3 17x 17w 18q 1e4g 3 18l 17w 18q 1e4h 3 18h 18l 18q 1e4i 3 " ++
    "17s 17x 18q 1e4j 3 18j 18l 18l 1e4k 3 189 17w 18l 1e4l 3 185 18l 18l 1e4m 3 183 17y 18q " ++
    "1e4n 3 18m 17w 18q 1e5s 3 185 18k 1ci 1e5t 3 18i 18k 1ci 1e5u 4 17r 18k 18k 18n 1e5v 4 17r " ++
    "18j 17s 181 1e5w 4 18l 17x 18l 17z 1e5x 4 185 18k 189 18l 1e5y 4 181 183 18o 18k 1e5z 4 189 " ++
    "18k 18q 18n 1e60 4 18o 183 18k 18l 1e61 3 185 18k 18p 1e62 i 185 18k 18p w 17r 18k 18k 18n " ++
    "w 189 18k 18q 18n w 18o 183 18k 18l 1e63 8 17w 18k w 17w 18k 17r 18k 18n 1e64 4 181 1cc 17r " ++
    "18k 1e89 2 w lh 1e8a 2 w lh 1e8b 2 w lh 1e8c 2 w lh 1e9c 2 w 18r 1e9d 2 18g 18r 1e9e 2 w " ++
    "18s 1e9g 2 w 18t 1e9i 2 w 18u 1e9j 2 18g 18u 1e9k 2 w 18v 1e9l 2 18g 18v 1e9m 2 w 18w 1e9n " ++
    "2 18g 18w 1e9o 2 w 18x 1e9p 2 18g 18x 1e9q 2 w 18y 1e9r 2 18g 18y 1ed1 2 18k 17m 1ed2 2 18k " ++
    "17m 1ed3 2 18k 17n 1ed4 2 18k 17n 1ed5 2 18k 17p 1ed6 2 18k 17p 1ed7 2 18k 17r 1ed8 2 18k " ++
    "17r 1ejn 2 w lg 2q69 2 1c 18 2q6a 2 1d 18 2q6b 2 1e 18 2q6c 2 1f 18 2q6d 2 1g 18 2q6e 2 1h " ++
    "18 2q6f 2 1i 18 2q6g 2 1j 18 2q6h 2 1k 18 2q6i 2 1l 18 2q6o 3 14 2p 15 2q6p 3 14 2q 15 2q6q " ++
    "3 14 2r 15 2q6r 3 14 2s 15 2q6s 3 14 2t 15 2q6t 3 14 2u 15 2q6u 3 14 2v 15 2q6v 3 14 2w 15 " ++
    "2q6w 3 14 2x 15 2q6x 3 14 2y 15 2q6y 3 14 2z 15 2q6z 3 14 30 15 2q70 3 14 31 15 2q71 3 14 " ++
    "32 15 2q72 3 14 33 15 2q73 3 14 34 15 2q74 3 14 35 15 2q75 3 14 36 15 2q76 3 14 37 15 2q77 " ++
    "3 14 38 15 2q78 3 14 39 15 2q79 3 14 3a 15 2q7a 3 14 3b 15 2q7b 3 14 3c 15 2q7c 3 14 3d 15 " ++
    "2q7d 3 14 3e 15 2q7e 3 9hw 37 9hx 2q7h 2 2r 2s 2q7i 2 3b 3e 2q8a 2 2w 3a 2q8b 2 31 3a 2q8c " ++
    "2 37 2s 2q8d 2 37 37 2q8e 3 34 34 3a 2q8f 2 3b 2r 2q96 2 31 2r 2q97 2 31 2s 2q98 2 31 36 " ++
    "2qa8 2 2s 2y 2qdc 2 9kr 9jf 2qdd 2 9mb 9mb 2qf4 3 9hw kdo 9hx 2qf5 3 9hw fex 9hx 2qf6 3 9hw " ++
    "fik 9hx 2qf7 3 9hw i2x 9hx 2qf8 3 9hw m9l 9hx 2qf9 3 9hw jf7 9hx 2qfa 3 9hw nh3 9hx 2qfb 3 " ++
    "9hw gd9 9hx 2qfc 3 9hw k0n 9hx")

/-- What a character becomes. -/
def mapped (c : Char) : List Char :=
  if c.toNat < 128 then [c.toLower]
  else if ignored.contains c.toNat then []
  else if cherokee.contains c.toNat then [c]
  else
    match shifts.find? (·.covers c.toNat) with
    | some r => [Char.ofNat (r.apply c.toNat)]
    | none =>
      match sequences.find? (·.1 == c.toNat) with
      | some (_, cs) => cs.map Char.ofNat
      | none => lowerChar c

end DomainCharacter

end SchemaSeed.Url
