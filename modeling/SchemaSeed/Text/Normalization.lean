import SchemaSeed.Text.CodePoints

/-!
The composed normal form of texts: characters are taken apart as far as possible, marks that do not
touch each other are put into the order of their combining classes, and then every character that can
be joined with an earlier one is.
-/

set_option autoImplicit false
set_option relaxedAutoImplicit false

namespace SchemaSeed.Text

namespace Normalization

/-- The combining classes other than zero, with their marks. -/
def combiningClasses : List (Nat × CodePoints) :=
  [(1, .ofRuns
      "ms 5 523 1 d 7 rt 2 4 3 a 2 3 2 1a31 1 j3q 5 g4p 1 43s 3"),
   (6, .ofRuns
      "20og 2"),
   (7, .ofRuns
      ("1to 1 3j 1 3j 1 3j 1 3j 1 73 1 3j 1 oq 1 264 1 4x 1 28 1 ry3 1 kcm 1 54 1 2e 1 2z 1 4y " ++
      "1 29 2 7d 1 3g 1 70 1 6u 1 aq 1 7c 1 se 1 14av 1")),
   (8, .ofRuns
      "9ll 2"),
   (9, .ofRuns
      ("1u5 1 3j 1 3j 1 3j 1 3j 1 3j 1 3j 1 3j 1 31 2 g 1 3g 1 33 1 3j 1 5l 1 50 2 1cp 2 u 1 4d " ++
      "1 i5 1 6b 1 2t 2 1y 2 3gr 1 o7a 1 11 1 47 1 3y 1 30 1 8l 1 6u 1 imp 1 16u 1 15 1 e 1 1l " ++
      "1 3d 2 3v 1 38 1 50 1 2q 1 3k 3 35 1 3j 1 70 1 3j 1 3a 1 38 1 7h 1 77 2 4h 1 2b 1 i 1 " ++
      "29 1 bp 1 78 2 29 1 bt 2 d0s 1")),
   (10, .ofRuns
      "14g 1"),
   (11, .ofRuns
      "14h 1"),
   (12, .ofRuns
      "14i 1"),
   (13, .ofRuns
      "14j 1"),
   (14, .ofRuns
      "14k 1"),
   (15, .ofRuns
      "14l 1"),
   (16, .ofRuns
      "14m 1"),
   (17, .ofRuns
      "14n 1"),
   (18, .ofRuns
      "14o 1 e 1"),
   (19, .ofRuns
      "14p 2"),
   (20, .ofRuns
      "14r 1"),
   (21, .ofRuns
      "14s 1"),
   (22, .ofRuns
      "14t 1"),
   (23, .ofRuns
      "14v 1"),
   (24, .ofRuns
      "14x 1"),
   (25, .ofRuns
      "14y 1"),
   (26, .ofRuns
      "1dlq 1"),
   (27, .ofRuns
      "18r 1 is 1"),
   (28, .ofRuns
      "18s 1 is 1"),
   (29, .ofRuns
      "18t 1 is 1"),
   (30, .ofRuns
      "17c 1 1h 1"),
   (31, .ofRuns
      "17d 1 1h 1"),
   (32, .ofRuns
      "17e 1 1h 1"),
   (33, .ofRuns
      "18x 1"),
   (34, .ofRuns
      "18y 1"),
   (35, .ofRuns
      "19s 1"),
   (36, .ofRuns
      "1e9 1"),
   (84, .ofRuns
      "2fp 1"),
   (91, .ofRuns
      "2fq 1"),
   (103, .ofRuns
      "2t4 2"),
   (107, .ofRuns
      "2tk 4"),
   (118, .ofRuns
      "2wo 2"),
   (122, .ofRuns
      "2x4 4"),
   (129, .ofRuns
      "31t 1"),
   (130, .ofRuns
      "31u 1 7 4 2 1"),
   (132, .ofRuns
      "31w 1"),
   (202, .ofRuns
      "m9 2 4 2 59j 1"),
   (214, .ofRuns
      "5vy 1"),
   (216, .ofRuns
      "m3 1 2e5 1 2gx7 2 7 5"),
   (218, .ofRuns
      "5x6 1 3lb 1"),
   (220, .ofRuns
      ("ly 4 2 5 2 4 2 b 5 4 a 3 3 2 4 4 2 2 fq 1 4 1 4 1 6 6 2 1 q 1 3z 2 5 1 2 1 3n 1 6 1 2 1 " ++
      "1v 1 2 1 2 3 1 2 1 1 3 1 1 1 1 1 1 1 4p 1 a 1 2j 3 1p 3 1f 5 f 1 2 1 2 1 3 3 6 1 2 2 2f " ++
      "1 151 2 r 1 1 1 3y 1 5i 1 1pp 1 64 1 2u 1 1h 6 2 1 1 2 2 2 5 1 i 1 8 1 3p 1 a0 5 2 4 d " ++
      "1 5w 1 7 1 4 1 15 1 3 1 1 1 ko 1 3 4 qwr 3 au 1 ghe 7 r3 1 6a 1 1f0 1 18 1 4r 1 sz 2 1 " ++
      "3 1y 2 3 1 1 4 1e 1 1 1 12b9 8 7 2 3tu 1 74 1 kg 7")),
   (222, .ofRuns
      "13u 1 i 1 3uz 1 4j7 1"),
   (224, .ofRuns
      "9im 2"),
   (226, .ofRuns
      "2jxp 1"),
   (228, .ofRuns
      "14e 1 3qy 1 11p 2 3le 1"),
   (230, .ofRuns
      ("lc l 14 3 2 1 3 1 3 3 3 3 4 1 3 1 7 d 7n 5 7e 4 1 3 2 6 6 2 1 2 2 1 k 1 23 8 1n 2 2 5 1 " ++
      "2 3b 7 2 4 1 1 2 2 2 2 1v 1 1 2 1 2 3 1 2 1 1 3 1 1 1 1 1 1 1 2 4g 7 1 1 y 4 1 9 1 3 1 " ++
      "5 2x 2 3 4 16 5 5 e 2 2 1 2 1 3 6 3 1 2 2 5 29 1 1 2 4p 1 137 2 2 2 r9 3 vx 1 9o 1 64 1 " ++
      "2l 8 1f 5 6 2 4 2 2 5 1 i 3 6 1 4 3k 1 1 7 9o 3 7 2 4 1 j 1 3 2 5i 2 1 7 1 2 4 11 5 1 2 " ++
      "1 k1 2 2 4 3 2 4 1 5 1 1 1 6 1 2da 3 6m w nsf 1 4 a w 2 28 2 dq i ce 1 1 2 3 2 5 2 1 1 " ++
      "ggu 7 7 2 11i 5 1as 1 14 1 4s 1 fy 4 1t 5 8t 2 4b 3 1 1 1h 1 1 1 aj 3 gz 7 3 5 6h 1 h5d " ++
      "7 k7i 5 w 4 44 3 2pn 7 1 h 2 7 1 2 1 5 2s 1 4g 7 af 1 1p 4 e7 1 72 1 6s 1 2 1 7 2 5 1 " ++
      "ge 6")),
   (232, .ofRuns
      "lx 1 4 1 1p 1 599 1 3lh 1 2e9r 2"),
   (233, .ofRuns
      "nw 1 2 1 2 1 595 1"),
   (234, .ofRuns
      "nx 2 1 2 4nd 1 kh 1"),
   (240, .ofRuns
      "n9 1")]

/-- The combining class of a character: marks of different classes do not touch each other. -/
def combiningClass (c : Nat) : Nat :=
  if c < 0x300 then 0
  else
    match combiningClasses.find? fun k => k.2.contains c with
    | some (k, _) => k
    | none => 0

/-- A character that is made of two others. -/
structure Composite where
  whole : Nat
  first : Nat
  second : Nat
  deriving DecidableEq, Repr

private def readComposites (base : Nat) : List Nat → List Composite
  | gap :: first :: second :: rest =>
    ⟨base + gap, first, second⟩ :: readComposites (base + gap) rest
  | _ => []

/-- The characters that are taken apart and put together again. -/
def composites : List Composite := readComposites 0 (CodePoints.numbers
    ("5c 1t lc 1 1t ld 1 1t le 1 1t lf 1 1t lk 1 1t lm 2 1v mf 1 1x lc 1 1x ld 1 1x le 1 1x lk 1 " ++
    "21 lc 1 21 ld 1 21 le 1 21 lk 2 26 lf 1 27 lc 1 27 ld 1 27 le 1 27 lf 1 27 lk 3 2d lc 1 2d " ++
    "ld 1 2d le 1 2d lk 1 2h ld 3 2p lc 1 2p ld 1 2p le 1 2p lf 1 2p lk 1 2p lm 2 2r mf 1 2t lc " ++
    "1 2t ld 1 2t le 1 2t lk 1 2x lc 1 2x ld 1 2x le 1 2x lk 2 32 lf 1 33 lc 1 33 ld 1 33 le 1 " ++
    "33 lf 1 33 lk 3 39 lc 1 39 ld 1 39 le 1 39 lk 1 3d ld 2 3d lk 1 1t lg 1 2p lg 1 1t li 1 2p " ++
    "li 1 1t mg 1 2p mg 1 1v ld 1 2r ld 1 1v le 1 2r le 1 1v lj 1 2r lj 1 1v lo 1 2r lo 1 1w lo " ++
    "1 2s lo 3 1x lg 1 2t lg 1 1x li 1 2t li 1 1x lj 1 2t lj 1 1x mg 1 2t mg 1 1x lo 1 2t lo 1 " ++
    "1z le 1 2v le 1 1z li 1 2v li 1 1z lj 1 2v lj 1 1z mf 1 2v mf 1 20 le 1 2w le 3 21 lf 1 2x " ++
    "lf 1 21 lg 1 2x lg 1 21 li 1 2x li 1 21 mg 1 2x mg 1 21 lj 4 22 le 1 2y le 1 23 mf 1 2z mf " ++
    "2 24 ld 1 30 ld 1 24 mf 1 30 mf 1 24 lo 1 30 lo 5 26 ld 1 32 ld 1 26 mf 1 32 mf 1 26 lo 1 " ++
    "32 lo 4 27 lg 1 33 lg 1 27 li 1 33 li 1 27 ln 1 33 ln 3 2a ld 1 36 ld 1 2a mf 1 36 mf 1 2a " ++
    "lo 1 36 lo 1 2b ld 1 37 ld 1 2b le 1 37 le 1 2b mf 1 37 mf 1 2b lo 1 37 lo 1 2c mf 1 38 mf " ++
    "1 2c lo 1 38 lo 3 2d lf 1 39 lf 1 2d lg 1 39 lg 1 2d li 1 39 li 1 2d lm 1 39 lm 1 2d ln 1 " ++
    "39 ln 1 2d mg 1 39 mg 1 2f le 1 3b le 1 2h le 1 3d le 1 2h lk 1 2i ld 1 3e ld 1 2i lj 1 3e " ++
    "lj 1 2i lo 1 3e lo y 27 m3 1 33 m3 e 2d m3 1 39 m3 t 1t lo 1 2p lo 1 21 lo 1 2x lo 1 27 lo " ++
    "1 33 lo 1 2d lo 1 39 lo 1 64 lg 1 70 lg 1 64 ld 1 70 ld 1 64 lo 1 70 lo 1 64 lc 1 70 lc 2 " ++
    "5g lg 1 6c lg 1 fa lg 1 fb lg 1 5i lg 1 6e lg 3 1z lo 1 2v lo 1 23 lo 1 2z lo 1 27 mg 1 33 " ++
    "mg 1 dm lg 1 dn lg 1 c7 lo 1 ia lo 1 2y lo 4 1z ld 1 2v ld 3 26 lc 1 32 lc 1 5h ld 1 6d ld " ++
    "1 5i ld 1 6e ld 1 60 ld 1 6w ld 1 1t lr 1 2p lr 1 1t lt 1 2p lt 1 1x lr 1 2t lr 1 1x lt 1 " ++
    "2t lt 1 21 lr 1 2x lr 1 21 lt 1 2x lt 1 27 lr 1 33 lr 1 27 lt 1 33 lt 1 2a lr 1 36 lr 1 2a " ++
    "lt 1 36 lt 1 2d lr 1 39 lr 1 2d lt 1 39 lt 1 2b me 1 37 me 1 2c me 1 38 me 3 20 lo 1 2w lo " ++
    "7 1t lj 1 2p lj 1 1x mf 1 2t mf 1 5y lg 1 6u lg 1 5x lg 1 6t lg 1 27 lj 1 33 lj 1 fi lg 1 " ++
    "fj lg 1 2h lg 1 3d lg 9e 4o ld 1 pd ld 2 ph ld 1 pj ld 1 pl ld 2 pr ld 2 px ld 1 q1 ld 1 qy " ++
    "ld q pl lk 1 px lk 1 q9 ld 1 qd ld 1 qf ld 1 qh ld 1 qz ld q qh lk 1 qt lk 1 qn ld 1 qt ld " ++
    "1 qx ld 5 r6 ld 1 r6 lk 18 t1 lc 1 t1 lk 2 sz ld 4 sm lk 5 t6 ld 1 t4 lc 1 tf li b t4 li w " ++
    "u0 li n tx lc 1 tx lk 2 tv ld 4 uu lk 5 u2 ld 1 u0 lc 1 ub li o vo lr 1 vp lr 22 t2 li 1 ty " ++
    "li e sw li 1 ts li 1 sw lk 1 ts lk 3 t1 li 1 tx li 3 yg lk 1 yh lk 1 t2 lk 1 ty lk 1 t3 lk " ++
    "1 tz lk 3 t4 lg 1 u0 lg 1 t4 lk 1 u0 lk 1 ta lk 1 u6 lk 3 yw lk 1 yx lk 1 tp lk 1 ul lk 1 " ++
    "tf lg 1 ub lg 1 tf lk 1 ub lk 1 tf ln 1 ub ln 1 tj lk 1 uf lk 3 tn lk 1 uj lk 89 17r 18z 1 " ++
    "17r 190 1 18o 190 1 17r 191 1 18q 190 4a 1cl 190 2 1c1 190 h 1ci 190 gm 1t4 1to 8 1tc 1to 3 " ++
    "1tf 1to 47 1xj 1xa 1 1xj 1xz ak 287 28m 3 287 27y 1 287 28n 20 2aa 2c7 1i 2bq 2bi 1 2br 2bi " ++
    "1 2bq 2c7 3g 2fa 2fq 3c 2in 2j9 7 2iu 2j9 1 2iu 2ja 2 2iu 2iq 1 2iy 2j9 3j 2me 2m6 1 2mf " ++
    "2m6 1 2me 2mv 3y 2qh 2q2 2 2qh 2q7 1 2qk 2q2 1 2qh 2qn g8 36t 372 25c 5c5 5dh 2 5c7 5dh 2 " ++
    "5c9 5dh 2 5cb 5dh 2 5cd 5dh 4 5ch 5dh 15 5dm 5dh 2 5do 5dh 3 5dq 5dh 1 5dr 5dh 2 5du 5dh jh " ++
    "1t md 1 2p md 1 1u lj 1 2q lj 1 1u mb 1 2q mb 1 1u mp 1 2q mp 1 5j ld 1 6f ld 1 1w lj 1 2s " ++
    "lj 1 1w mb 1 2s mb 1 1w mp 1 2s mp 1 1w mf 1 2s mf 1 1w ml 1 2s ml 1 7m lc 1 7n lc 1 7m ld " ++
    "1 7n ld 1 1x ml 1 2t ml 1 1x mo 1 2t mo 1 fc li 1 fd li 1 1y lj 1 2u lj 1 1z lg 1 2v lg 1 " ++
    "20 lj 1 2w lj 1 20 mb 1 2w mb 1 20 lk 1 2w lk 1 20 mf 1 2w mf 1 20 mm 1 2w mm 1 21 mo 1 2x " ++
    "mo 1 5r ld 1 6n ld 1 23 ld 1 2z ld 1 23 mb 1 2z mb 1 23 mp 1 2z mp 1 24 mb 1 30 mb 1 5yu lg " ++
    "1 5yv lg 1 24 mp 1 30 mp 1 24 ml 1 30 ml 1 25 ld 1 31 ld 1 25 lj 1 31 lj 1 25 mb 1 31 mb 1 " ++
    "26 lj 1 32 lj 1 26 mb 1 32 mb 1 26 mp 1 32 mp 1 26 ml 1 32 ml 1 5x ld 1 6t ld 1 5x lk 1 6t " ++
    "lk 1 98 lc 1 99 lc 1 98 ld 1 99 ld 1 28 ld 1 34 ld 1 28 lj 1 34 lj 1 2a lj 1 36 lj 1 2a mb " ++
    "1 36 mb 1 5zu lg 1 5zv lg 1 2a mp 1 36 mp 1 2b lj 1 37 lj 1 2b mb 1 37 mb 1 9m lj 1 9n lj 1 " ++
    "9s lj 1 9t lj 1 602 lj 1 603 lj 1 2c lj 1 38 lj 1 2c mb 1 38 mb 1 2c mp 1 38 mp 1 2c ml 1 " ++
    "38 ml 1 2d mc 1 39 mc 1 2d mo 1 39 mo 1 2d ml 1 39 ml 1 a0 ld 1 a1 ld 1 a2 lk 1 a3 lk 1 2e " ++
    "lf 1 3a lf 1 2e mb 1 3a mb 1 2f lc 1 3b lc 1 2f ld 1 3b ld 1 2f lk 1 3b lk 1 2f lj 1 3b lj " ++
    "1 2f mb 1 3b mb 1 2g lj 1 3c lj 1 2g lk 1 3c lk 1 2h lj 1 3d lj 1 2i le 1 3e le 1 2i mb 1 " ++
    "3e mb 1 2i mp 1 3e mp 1 2w mp 1 38 lk 1 3b lm 1 3d lm 2 an lj 5 1t mb 1 2p mb 1 1t ll 1 2p " ++
    "ll 1 5e ld 1 6a ld 1 5e lc 1 6a lc 1 5e ll 1 6a ll 1 5e lf 1 6a lf 1 61s le 1 61t le 1 76 " ++
    "ld 1 77 ld 1 76 lc 1 77 lc 1 76 ll 1 77 ll 1 76 lf 1 77 lf 1 61s li 1 61t li 1 1x mb 1 2t " ++
    "mb 1 1x ll 1 2t ll 1 1x lf 1 2t lf 1 5m ld 1 6i ld 1 5m lc 1 6i lc 1 5m ll 1 6i ll 1 5m lf " ++
    "1 6i lf 1 62g le 1 62h le 1 21 ll 1 2x ll 1 21 mb 1 2x mb 1 27 mb 1 33 mb 1 27 ll 1 33 ll 1 " ++
    "5w ld 1 6s ld 1 5w lc 1 6s lc 1 5w ll 1 6s ll 1 5w lf 1 6s lf 1 630 le 1 631 le 1 bk ld 1 " ++
    "bl ld 1 bk lc 1 bl lc 1 bk ll 1 bl ll 1 bk lf 1 bl lf 1 bk mb 1 bl mb 1 2d mb 1 39 mb 1 2d " ++
    "ll 1 39 ll 1 bz ld 1 c0 ld 1 bz lc 1 c0 lc 1 bz ll 1 c0 ll 1 bz lf 1 c0 lf 1 bz mb 1 c0 mb " ++
    "1 2h lc 1 3d lc 1 2h mb 1 3d mb 1 2h ll 1 3d ll 1 2h lf 1 3d lf 7 q9 lv 1 q9 lw 1 64g lc 1 " ++
    "64h lc 1 64g ld 1 64h ld 1 64g n6 1 64h n6 1 pd lv 1 pd lw 1 64o lc 1 64p lc 1 64o ld 1 64p " ++
    "ld 1 64o n6 1 64p n6 1 qd lv 1 qd lw 1 64w lc 1 64x lc 1 64w ld 1 64x ld 3 ph lv 1 ph lw 1 " ++
    "654 lc 1 655 lc 1 654 ld 1 655 ld 3 qf lv 1 qf lw 1 65c lc 1 65d lc 1 65c ld 1 65d ld 1 65c " ++
    "n6 1 65d n6 1 pj lv 1 pj lw 1 65k lc 1 65l lc 1 65k ld 1 65l ld 1 65k n6 1 65l n6 1 qh lv 1 " ++
    "qh lw 1 65s lc 1 65t lc 1 65s ld 1 65t ld 1 65s n6 1 65t n6 1 pl lv 1 pl lw 1 660 lc 1 661 " ++
    "lc 1 660 ld 1 661 ld 1 660 n6 1 661 n6 1 qn lv 1 qn lw 1 668 lc 1 669 lc 1 668 ld 1 669 ld " ++
    "3 pr lv 1 pr lw 1 66g lc 1 66h lc 1 66g ld 1 66h ld 3 qt lv 1 qt lw 1 66o lc 1 66p lc 1 66o " ++
    "ld 1 66p ld 1 66o n6 1 66p n6 2 px lw 2 66x lc 2 66x ld 2 66x n6 1 qx lv 1 qx lw 1 674 lc 1 " ++
    "675 lc 1 674 ld 1 675 ld 1 674 n6 1 675 n6 1 q1 lv 1 q1 lw 1 67c lc 1 67d lc 1 67c ld 1 67d " ++
    "ld 1 67c n6 1 67d n6 1 q9 lc 2 qd lc 2 qf lc 2 qh lc 2 qn lc 2 qt lc 2 qx lc 4 64g n9 1 64h " ++
    "n9 1 64i n9 1 64j n9 1 64k n9 1 64l n9 1 64m n9 1 64n n9 1 64o n9 1 64p n9 1 64q n9 1 64r " ++
    "n9 1 64s n9 1 64t n9 1 64u n9 1 64v n9 1 65c n9 1 65d n9 1 65e n9 1 65f n9 1 65g n9 1 65h " ++
    "n9 1 65i n9 1 65j n9 1 65k n9 1 65l n9 1 65m n9 1 65n n9 1 65o n9 1 65p n9 1 65q n9 1 65r " ++
    "n9 1 674 n9 1 675 n9 1 676 n9 1 677 n9 1 678 n9 1 679 n9 1 67a n9 1 67b n9 1 67c n9 1 67d " ++
    "n9 1 67e n9 1 67f n9 1 67g n9 1 67h n9 1 67i n9 1 67j n9 1 q9 li 1 q9 lg 1 67k n9 1 q9 n9 1 " ++
    "q4 n9 2 q9 n6 1 69i n9 1 pd li 1 pd lg 1 pd lc 2 pd n9 5 4o n6 1 67o n9 1 qf n9 1 q6 n9 2 " ++
    "qf n6 1 69y n9 1 ph lc 2 pj lc 2 pj n9 1 69r lc 1 69r ld 1 69r n6 1 qh li 1 qh lg 1 qy lc 4 " ++
    "qh n6 1 qy n6 1 pl li 1 pl lg 1 pl lc 3 6bi lc 1 6bi ld 1 6bi n6 1 qt li 1 qt lg 1 qz lc 2 " ++
    "qp lv 1 qp lw 1 qt n6 1 qz n6 1 px li 1 px lg 1 px lc 2 pt lw 1 4o lc 5 67w n9 1 qx n9 1 r2 " ++
    "n9 2 qx n6 1 6ba n9 1 pr lc 2 q1 lc 2 q1 n9 bi 6mo mw 1 6mq mw j 6ms mw v 6og mw 1 6ok mw 1 " ++
    "6oi mw 1h 6pv mw 5 6q0 mw 3 6q3 mw o 6qr mw 2 6qt mw r 6rg mw 3 6rn mw 3 6rp mw 2 6rs mw n " ++
    "1p mw 2 6sh mw b 6rx mw 1 1o mw 1 1q mw 1 6sk mw 1 6sl mw 3 6sy mw 1 6sz mw 3 6t2 mw 1 6t3 " ++
    "mw 7 6t6 mw 1 6t7 mw 3 6te mw 1 6tf mw 3 6ti mw 1 6tj mw z 6ua mw 1 6ug mw 1 6uh mw 1 6uj " ++
    "mw 1d 6t8 mw 1 6t9 mw 1 6tt mw 1 6tu mw 7 6uq mw 1 6ur mw 1 6us mw 1 6ut mw 2n3 9jf 9ll 2 " ++
    "9jh 9ll 2 9jj 9ll 2 9jl 9ll 2 9jn 9ll 2 9jp 9ll 2 9jr 9ll 2 9jt 9ll 2 9jv 9ll 2 9jx 9ll 2 " ++
    "9jz 9ll 2 9k1 9ll 3 9k4 9ll 2 9k6 9ll 2 9k8 9ll 7 9kf 9ll 1 9kf 9lm 2 9ki 9ll 1 9ki 9lm 2 " ++
    "9kl 9ll 1 9kl 9lm 2 9ko 9ll 1 9ko 9lm 2 9kr 9ll 1 9kr 9lm n 9ja 9ll a 9lp 9ll e 9m3 9ll 2 " ++
    "9m5 9ll 2 9m7 9ll 2 9m9 9ll 2 9mb 9ll 2 9md 9ll 2 9mf 9ll 2 9mh 9ll 2 9mj 9ll 2 9ml 9ll 2 " ++
    "9mn 9ll 2 9mp 9ll 3 9ms 9ll 2 9mu 9ll 2 9mw 9ll 7 9n3 9ll 1 9n3 9lm 2 9n6 9ll 1 9n6 9lm 2 " ++
    "9n9 9ll 1 9n9 9lm 2 9nc 9ll 1 9nc 9lm 2 9nf 9ll 1 9nf 9lm n 9ly 9ll 3 9nz 9ll 1 9o0 9ll 1 " ++
    "9o1 9ll 1 9o2 9ll 4 9od 9ll 1617 1fpu lj r 1fq2 lj 246 1huh 1hve 2 1huj 1hve f 1hut 1hve 3n " ++
    "1hyp 1hyf 1 1hyq 1hyf f0 1idj 1ida 1 1idj 1idz 1j 1if6 1ih5 2 1if8 1igr 9 1iff 1igy 3 1ifk " ++
    "1ih5 1g 1igy 1igy 2 1igy 1igo 1 1igy 1ih5 6r 1int 1inu 1 1int 1ink 2 1int 1inx 70 1iuw 1iun " ++
    "1 1iux 1iun ot 1jjp 1jjk e7d 1xr2 1xr2 1 1xr2 1xrd 1 1xr2 1xr3 1 1xrd 1xr3 1 1xr2 1xr4 1 " ++
    "1xr5 1xr3 1 1xr6 1xr3 1 1xr5 1xr4 2f4 206f 206f 1 206b 206f 1 206h 206f"))

private def readReplaced : Nat → Nat → List Nat → List (Nat × Nat)
  | fuel + 1, base, gap :: count :: rest =>
    ((List.range count).zip rest).map (fun (i, c) => (base + gap + i, c)) ++
      readReplaced fuel (base + gap + count - 1) (rest.drop count)
  | _, _, _ => []

private def replacedNumbers : List Nat := CodePoints.numbers
    ("n4 2 lc ld 2 1 lv 1d 1 jd a 1 1n 9 1 53 5kn 1 qh 1d 1 2o e 1 50 3 2 6bm 6bn 85 1 q1 4 1 23 " ++
    "e7 2 9hk 9hl 168m 7i rpk kc4 s7e rt4 lw1 fg2 gkl vj0 vj0 hn5 ssx gw7 hmw jcm ne1 p6t qin " ++
    "qt6 r20 sjz kxu ljv mah mvy q4d sq2 uep fia ghh l50 mjf qi5 v8e ifk m3v qfh r50 jih pnc qvz " ++
    "iq2 kd3 lm2 mpo slq fpi g53 gda jwk l3n mj4 nhj pa9 qh2 qjg s1b tv6 upb v7e nt8 nzz otc q15 " ++
    "t1g vb3 rfa hjz iro okg pdq mle nuy rsy ttj hjs i8y kyb lp6 lxr oq7 oxj tor gcy pe3 g64 g5o " ++
    "o4c ou6 q29 tpx rk0 jin kxu rge fg9 i5j iz6 mtj n74 gev nwb fr3 iw9 ff1 lho k1k opu gjn hge " ++
    "ni9 q4p re2 la2 sds lfs jjy put jog n6t fji g2x g5l kn5 oo7 prj rf6 ssv gdx gn6 ho3 ir0 k3p " ++
    "m4e nxm tkd ui2 vbr vda gbf kau l87 sbm ino j9s jcw jve lyb mdl n0p o22 ovo pdb s9y q9a sgz " ++
    "t3e g7r gbn gql ma0 r0i re2 iq1 iyd jnf l9q oji mt1 fl0 h6h i5j iii izg muq mzt p7e pc6 svo " ++
    "tti tvs u1k fpn o1a ss4 trs j4x fie fyy i5q i7z k2h kxu mha ncy q9o sjg vil k94 tny gax kfv " ++
    "kj7 lkx luk mx5 n6h nsb opc u3i g31 je6 tq0 fu3 ie1 lpm sa2 ivf j7o kk7 mtj tqe g89 glr i91 " ++
    "k5v kem ko8 lid mx2 naa p6h r0v r1d sss tsy gfz lve gm5 mhc n14 qgq tr7 uvr vbz kgn lor pns " ++
    "o97 obk olu mo0 m8p riw fk0 px2 g8q g7b ip2 jir onq i2t ljy kac saj qx8 tot r63 iqb g1s gxs " ++
    "3 1 hga 2 1 k8k 3 a g66 mqy ngq ny4 nz2 nz9 o0f tw6 on2 p8d 2 1 qhe 2 1 rg8 3 2 shk sn1 4 " ++
    "1w u7j u7w u94 v5g sm6 trr fqm fzb g25 gcp gdg ggh gwt gzq h2g hfk hig i90 i9a j2s j8o j9q " ++
    "jci k0f k4i k9d kn9 lmf lqy lya mem mjv mxu ntd ny6 nyh nyg nyo nyu nz1 o0d o0e o5c o75 og0 " ++
    "ovo ow9 oxt p6a pad pnx prt prt q53 r2o r6e rgh ri1 rtf ruw sdy shk tsz u0v u2j j1x 36cu " ++
    "pp4 3 2y ffq g51 g2w fpc g1x g3k gcn ge2 gwt gut gwp gyq hga hir hms hn8 huq i08 iqa iqh " ++
    "iuh iwd j4o j7y j60 j9q j8g jci jec jpg jrw jte k0m k8k kd3 kd7 keu l89 la2 lkx lwb lvv lya " ++
    "m5a mem nmv mk5 mnj mqy n01 n46 n5n nbx nbz ngq nh7 nhw nka nk0 nv0 o8h og0 ol7 orf ovo p4u " ++
    "pad pxu q27 qrd r41 r5y r6e ren rg8 rez rgh rge rfx ri1 rka ruw sag sj6 srd sxi tq4 tsz tw6 " ++
    "tzv u0v u17 u2j umq vj0 313e 3138 33dh brx cns cop 39e1 3bgw 3i6r vgj vim 2skn f2 fgd fg8 " ++
    "fgh 2tcy fog fqm fqz fsy fwa fx5 fzb fyn ae6 2ud6 g25 g2c g2s g3b 2u58 aex g2v g3x 2u6j g47 " ++
    "g4k fkc g4s g51 3ly7 g6t g77 afz g8r g92 gaa gaf ahh gcn gcp gdg ge2 ged gee gev gg9 ggh " ++
    "ggq ghf ghp ghr ghr ghr 2v58 m7k gju gkf 2vdv gkr gkx gli gpq gmw gnc go8 gpu gs6 gsw gur " ++
    "gv7 gw4 gw4 gwp gx7 gxf gxu h7a gzq h7b h1t h2s g7b hke hce hdg he5 haj hf6 hf5 hik 2x9g " ++
    "hki hkn hl2 hlm hlu hnm 2xm0 2xnu hrg hsr ht3 hqw huu aum av0 hzc i0u i0u 2y88 i4j i54 i5j " ++
    "i5v 2yhk i67 i6e itv i76 ayp i8w i9a ibk ia5 2z1g if7 2z1i ige igb igs ijl ijm b3j ikd ilk " ++
    "im5 ind b4y 2zr7 b5o ipc ipf ipi iq2 3pg2 iri 3035 3035 poh isi isi b7r 335k 3cgq iua iuj " ++
    "b8j ivu ix9 ixj iyh j29 bay ba4 j2s 30t0 j47 j7s j7w j7y j7w j96 j9q jaq jac jan jby jci " ++
    "jcm jdc jdn jfh jht jis jm8 31n0 jlp jjw jmw jnn jqc 31td js2 jph jop bhq ju1 jum jvh juf " ++
    "bjg k0f k18 32mi k4j kc8 k7d bo9 k9d bns bms g42 g45 kcg k9o pf1 deh kd3 kd7 kdd kf2 ker " ++
    "33cz bpl kje kg5 klu kn9 33hp kni kkf kr8 brx ksi kv7 kx6 l2g 33xf l3v bvc l5t 34br l78 bwu " ++
    "l82 l9b la2 la3 34p9 2yvf 34sa le6 354s lhb lhp lev ljq lku lmf lkx lm1 lmg lmt 357i lkk " ++
    "lrj lta c37 lvv lvr 35jl lq1 m0e 35ni 35ou m2u m61 m5a m57 c5y m6i m7x m7r m99 2u5h mdh " ++
    "368z mfw 36i3 mjs mk5 mkw 36yw mm8 mmt 3779 37dg mt6 mtn cdo mud ce0 ce0 myv mzg n01 n0l " ++
    "n2i cgr n50 386u n5q 389e n74 2zrz nbk 38v5 38vs 38zo cn0 cnc nhw 394j 394i 395l 396b nj2 " ++
    "nj3 nj3 nka cop nm3 cp2 cra 39r1 nri nt8 nv0 ctf 3a5i nyu 3a8q 3a9x o0f o2z cvj o5c o5m o5r " ++
    "3at8 3b1j 3b1j oa6 d1e 3b8r og6 og9 d2f 3beo onm d5s oo8 oo3 oow 3c06 orn d8h ouf ow2 oxx " ++
    "d9w 3ciw 3cjr dax 3cnt p6i 3cqm p79 pa2 pad 3d22 3d43 pcw 3d7s pdc 33a7 ded pf6 phf dfv pj2 " ++
    "hx1 3dlz 3dmd 33bn 33bw poh pok sda dij psh psb pst gc3 ptd ptf ptp puu 3ebg put pwd pyb " ++
    "q0d pwj q0t q1z q53 pxv q16 q18 q1o 3eie 3eqz 3emt dnv q9d q9f qae 3g0a qck 3f3g dp9 dpd " ++
    "3f75 3ff6 dpn qj4 qjg qjr qjt qll qko qoe qn6 qrd qp4 qqz qrq dsn qu9 qv5 dtl qxs qxv 3giv " ++
    "r13 r1a dv9 r22 aez 3gz2 3h46 dz2 dzb rds rfx rka rpx 3hrc rsb rsx rvf rxz 3i9b 2upw s0b " ++
    "rzw s1c 2uvy s7o sag 3jki 3jl9 sk4 smp snl 3ju6 snv svs t07 t08 sxo t89 t91 3ksa tjf ej9 " ++
    "tkn 3l2v eli ts3 iia tur 3ltx 3lzu epa epi u00 3mdm er6 3mhi u17 u17 u21 3mpi u76 eur u95 " ++
    "ucn ude uf2 ez2 3nsg umq uv4 v0d f66 f71 v3b 3owe f7c 3oxx 3p5a 3p8x vcr f9y veh vem vet " ++
    "vf3 vfa vgb 3pxc")

/-- Characters that are the same as another one and always replaced by it. -/
def replaced : List (Nat × Nat) := readReplaced replacedNumbers.length 0 replacedNumbers

private def readSplit : Nat → List Nat → List (Nat × List Nat)
  | fuel + 1, c :: count :: rest => (c, rest.take count) :: readSplit fuel (rest.drop count)
  | _, _ => []

private def splitNumbers : List Nat := CodePoints.numbers
    ("n8 2 lk ld 1ug 2 1sl 1to 1uh 2 1sm 1to 1ui 2 1sn 1to 1uj 2 1ss 1to 1uk 2 1sx 1to 1ul 2 1sy " ++
    "1to 1um 2 1t7 1to 1un 2 1tb 1to 1y4 2 1wh 1x8 1y5 2 1wi 1x8 1y7 2 1wv 1x8 20j 2 20i 20s 20m " ++
    "2 20o 20s 21l 2 1zq 20s 21m 2 1zr 20s 21n 2 1zw 20s 21q 2 20b 20s 28s 2 275 27w 28t 2 276 " ++
    "27w 30j 2 30i 33r 30t 2 30s 33r 30y 2 30x 33r 313 2 312 33r 318 2 317 33r 31l 2 30g 33p 31v " ++
    "2 31t 31u 31x 2 31t 31w 31y 2 33m 328 320 2 33n 328 329 2 31t 328 32r 2 32q 33r 331 2 330 " ++
    "33r 336 2 335 33r 33b 2 33a 33r 33g 2 33f 33r 33t 2 32o 33p 67l 2 q9 ld 67n 2 qd ld 67p 2 " ++
    "qf ld 67r 2 qh ld 67t 2 qn ld 67v 2 qt ld 67x 2 qx ld 69n 2 pd ld 6a1 2 ph ld 6a3 2 pj ld " ++
    "6ab 3 qh lk ld 6aj 2 pl ld 6ar 3 qt lk ld 6az 2 px ld 6b2 2 4o ld 6bd 2 pr ld 6bf 2 q1 ld " ++
    "6jv 2 1t lm 8gs 2 8gt mw 1dlp 2 15l 14k 1dlr 2 16a 14n 1dm2 2 161 14x 1dm3 2 161 14y 1dm4 3 " ++
    "161 14s 14x 1dm5 3 161 14s 14y 1dm6 2 15c 14n 1dm7 2 15c 14o 1dm8 2 15c 14s 1dm9 2 15d 14s " ++
    "1dma 2 15e 14s 1dmb 2 15f 14s 1dmc 2 15g 14s 1dmd 2 15h 14s 1dme 2 15i 14s 1dmg 2 15k 14s " ++
    "1dmh 2 15l 14s 1dmi 2 15m 14s 1dmj 2 15n 14s 1dmk 2 15o 14s 1dmm 2 15q 14s 1dmo 2 15s 14s " ++
    "1dmp 2 15t 14s 1dmr 2 15v 14s 1dms 2 15w 14s 1dmu 2 15y 14s 1dmv 2 15z 14s 1dmw 2 160 14s " ++
    "1dmx 2 161 14s 1dmy 2 162 14s 1dmz 2 15h 14p 1dn0 2 15d 14v 1dn1 2 15n 14v 1dn2 2 15w 14v " ++
    "2jxa 2 2jx3 2jxh 2jxb 2 2jx4 2jxh 2jxc 3 2jx4 2jxh 2jxq 2jxd 3 2jx4 2jxh 2jxr 2jxe 3 2jx4 " ++
    "2jxh 2jxs 2jxf 3 2jx4 2jxh 2jxt 2jxg 3 2jx4 2jxh 2jxu 2jzv 2 2jzt 2jxh 2jzw 2 2jzu 2jxh " ++
    "2jzx 3 2jzt 2jxh 2jxq 2jzy 3 2jzu 2jxh 2jxq 2jzz 3 2jzt 2jxh 2jxr 2k00 3 2jzu 2jxh 2jxr")

/-- Characters that are taken apart and never put together. -/
def split : List (Nat × List Nat) := readSplit splitNumbers.length splitNumbers

/-- Hangul syllables are made of a leading consonant, a vowel and maybe a trailing consonant. -/
def firstSyllable : Nat := 0xAC00

/-- The number of syllables. -/
def syllableCount : Nat := 11172

private def leadBase : Nat := 0x1100

private def vowelBase : Nat := 0x1161

private def trailBase : Nat := 0x11A7

private def vowelCount : Nat := 21

private def trailCount : Nat := 28

private def splitSyllable (c : Nat) : List Nat :=
  let index := c - firstSyllable
  let block := index / trailCount
  let trail := index % trailCount
  [leadBase + block / vowelCount, vowelBase + block % vowelCount] ++
    if trail = 0 then [] else [trailBase + trail]

private def joinSyllable? (a b : Nat) : Option Nat :=
  if leadBase ≤ a ∧ a < leadBase + 19 ∧ vowelBase ≤ b ∧ b < vowelBase + vowelCount then
    some (firstSyllable + ((a - leadBase) * vowelCount + (b - vowelBase)) * trailCount)
  else if firstSyllable ≤ a ∧ a < firstSyllable + syllableCount ∧
      (a - firstSyllable) % trailCount = 0 ∧ trailBase < b ∧ b < trailBase + trailCount then
    some (a + (b - trailBase))
  else none

/-- The parts of a character. The first part of a composite may be one itself, a few steps deep. -/
def splitChar : Nat → Nat → List Nat
  | 0, c => [c]
  | fuel + 1, c =>
    if c < 0xC0 then [c]
    else if firstSyllable ≤ c ∧ c < firstSyllable + syllableCount then splitSyllable c
    else
      match composites.find? (·.whole == c) with
      | some p => splitChar fuel p.first ++ [p.second]
      | none =>
        match replaced.find? (·.1 == c) with
        | some (_, d) => [d]
        | none =>
          match split.find? (·.1 == c) with
          | some (_, parts) => parts
          | none => [c]

/-- Composites are nested at most this deep. -/
def maxDepth : Nat := 4

private def insertMark (k c : Nat) : List Nat → List Nat
  | d :: before =>
    if k ≠ 0 ∧ k < combiningClass d then d :: insertMark k c before else c :: d :: before
  | [] => [c]

/-- Puts marks that follow each other into the order of their classes; marks of one class stay. -/
def order (cs : List Nat) : List Nat :=
  (cs.foldl (fun before c => insertMark (combiningClass c) c before) []).reverse

/-- The character that two characters are joined to. -/
def join? (a b : Nat) : Option Nat :=
  (joinSyllable? a b) <|> (composites.find? fun p => p.first == a && p.second == b).map (·.whole)

/-- What was composed so far: the characters before the last that marks can be joined with, that one,
and the marks behind it, the latest first. -/
structure Composing where
  before : List Nat := []
  start : Option Nat := none
  marks : List Nat := []
  lastClass : Nat := 0

/-- Goes on with one more character. A mark is kept from its start by one between them whose class is
not lower. -/
def Composing.next (s : Composing) (c : Nat) : Composing :=
  let k := combiningClass c
  match s.start with
  | none => if k = 0 then { s with start := some c } else { s with before := c :: s.before }
  | some a =>
    let isBlocked := !s.marks.isEmpty && k ≤ s.lastClass
    match if isBlocked then none else join? a c with
    | some joined => { s with start := some joined }
    | none =>
      if k = 0 then ⟨s.marks ++ a :: s.before, some c, [], 0⟩
      else { s with marks := c :: s.marks, lastClass := k }

/-- Joins what can be joined. -/
def compose (cs : List Nat) : List Nat :=
  let s := cs.foldl Composing.next {}
  (s.marks ++ s.start.toList ++ s.before).reverse

end Normalization

/-- The composed normal form of some characters. -/
def normalForm (cs : List Char) : List Char :=
  if cs.all fun c => c.toNat < 0xC0 then cs
  else
    (Normalization.compose
      (Normalization.order
        (cs.flatMap fun c => Normalization.splitChar Normalization.maxDepth c.toNat))).map Char.ofNat

end SchemaSeed.Text
