import SchemaSeed.Text.BinaryProperty

/-!
Full case mapping of texts, with the rule for the final sigma, and the classes of characters that
are equal when case is ignored.

A table of shifts lists runs of characters as start (counted from the start of the run before),
length, step, direction and distance: every character of a run is moved by the same distance.
-/

set_option autoImplicit false
set_option relaxedAutoImplicit false

namespace SchemaSeed.Text

/-- A run of characters that a mapping moves by one distance. -/
structure ShiftRun where
  start : Nat
  count : Nat
  step : Nat
  down : Bool
  distance : Nat
  deriving DecidableEq, Repr

namespace ShiftRun

private def readFrom (base : Nat) : List Nat → List ShiftRun
  | start :: count :: step :: down :: distance :: rest =>
    ⟨base + start, count, step, down == 1, distance⟩ :: readFrom (base + start) rest
  | _ => []

/-- The runs of a table of shifts. -/
def ofTable (table : String) : List ShiftRun := readFrom 0 (CodePoints.numbers table)

/-- Whether a code point is in the run. -/
def covers (r : ShiftRun) (c : Nat) : Bool :=
  r.start ≤ c && c ≤ r.start + (r.count - 1) * r.step && (c - r.start) % r.step == 0

/-- Where the run moves a code point. -/
def apply (r : ShiftRun) (c : Nat) : Nat := if r.down then c - r.distance else c + r.distance

end ShiftRun

private def readSpecials : Nat → List Nat → List (Nat × List Nat)
  | fuel + 1, c :: count :: rest => (c, rest.take count) :: readSpecials fuel (rest.drop count)
  | _, _ => []

/-- A table of characters, each with the number of the characters that it becomes and these. -/
def charSequences (table : String) : List (Nat × List Nat) :=
  let ns := CodePoints.numbers table
  readSpecials ns.length ns

private def readClasses : Nat → List Nat → List (List Nat)
  | fuel + 1, count :: rest => rest.take count :: readClasses fuel (rest.drop count)
  | _, _ => []

private def upperRuns : List ShiftRun := ShiftRun.ofTable
    ("2p q 1 1 w 2c 1 1 0 kn 17 n 1 1 w o 7 1 1 w 7 1 1 0 3d 2 o 2 1 1 1c 1 1 1 6g 2 3 2 1 1 7 8 " ++
    "2 1 1 h n 2 1 1 1b 3 2 1 1 5 1 1 1 8c 1 1 1 0 5f 3 2 2 1 1 5 1 1 1 1 4 1 1 1 1 6 1 1 1 1 3 " ++
    "1 1 0 2p 4 1 1 1 1 1 1 1 0 4j 1 1 1 0 wu9 3 1 1 0 3m 3 3 2 1 1 7 1 1 1 1 5 1 1 1 1 3 1 1 1 " ++
    "1 4 2 2 1 1 5 1 1 1 1 4 1 1 1 1 2 1 1 0 1k 6 1 1 1 1 1 1 1 1 2 2 1 1 1 1 1 1 1 1 2 2 1 1 1 " ++
    "1 1 1 1 1 2 2 8 2 1 1 f 1 1 1 27 2 9 2 1 1 j 1 1 1 1 1 1 1 1 2 2 1 1 1 1 4 k 2 1 1 16 9 2 1 " ++
    "1 p 1 1 1 1 3 2 1 0 8cf 3 1 1 1 1 5 5 2 1 1 9 1 1 0 8bj 1 1 1 0 8bg 1 1 1 0 8bi 1 1 1 1 5u " ++
    "1 1 1 1 5q 2 2 1 1 5p 3 1 1 1 5m 2 1 1 1 5n 1 1 1 0 wnj 4 1 1 1 5p 1 1 1 0 wnf 2 1 1 1 5r 1 " ++
    "1 1 0 wo7 1 1 1 0 wmg 1 1 1 0 wn8 2 1 1 1 5t 1 1 1 1 5v 1 1 1 0 wn8 1 1 1 0 8af 1 1 1 0 wn5 " ++
    "3 1 1 1 5v 2 1 1 0 8al 1 1 1 1 5x 3 1 1 1 5y 8 1 1 0 89z 3 1 1 1 62 2 1 1 0 wn7 1 1 1 1 62 " ++
    "4 1 1 0 wmi 1 1 1 1 62 1 1 1 1 1x 1 2 1 1 61 2 1 1 1 1z 6 1 1 1 63 b 1 1 0 wlx 1 1 1 0 wlu " ++
    "4n 1 1 0 2c 18 2 2 1 1 6 1 1 1 1 4 3 1 0 3m 1d 1 1 1 12 1 3 1 1 11 4 h 1 1 w h 1 1 1 v 1 9 " ++
    "1 1 w 9 1 1 1 1s 1 2 1 1 1r 3 1 1 1 1q 1 1 1 1 1l 4 1 1 1 1b 1 1 1 1 1i 1 1 1 1 8 2 c 2 1 1 " ++
    "n 1 1 1 2e 1 1 1 1 28 1 1 1 0 7 1 1 1 1 38 2 1 1 1 2o 3 1 1 1 1 3 1 1 1 1 1h w 1 1 w w g 1 " ++
    "1 28 h h 2 1 1 16 r 2 1 1 1j 7 2 1 1 d 1 1 1 f 2 1c 2 1 1 40 12 1 1 1c 29b 17 1 0 2bk 19 3 " ++
    "1 0 2bk l7 6 1 1 8 1oo 1 1 1 4tq 1 1 1 1 4tp 1 1 1 1 4tg 1 2 1 1 4te 2 1 1 1 4tf 1 1 1 1 " ++
    "4t8 1 1 1 1 4rp 1 1 1 0 r7m 2 1 1 1 1 6n 1 1 0 r9g 4 1 1 0 2xy h 1 1 0 raw 37 23 2 1 1 4a 1 " ++
    "1 1 1n 6 1c 2 1 1 2n 8 1 0 8 g 6 1 0 8 g 8 1 0 8 g 8 1 0 8 g 6 1 0 8 h 4 2 0 8 f 8 1 0 8 g " ++
    "2 1 0 22 2 4 1 0 2e 4 2 1 0 2s 2 2 1 0 3k 2 2 1 0 34 2 2 1 0 3i 1g 2 1 0 8 e 1 1 1 5k5 i 2 " ++
    "1 0 8 g 2 1 0 8 5 1 1 0 7 a1 1 1 1 s y g 1 1 g k 1 1 1 1 ng q 1 1 q 1gg 1c 1 1 1c 1d 1 1 1 " ++
    "1 4 1 1 1 8bv 1 1 1 1 8bs 2 3 2 1 1 b 1 1 1 1 3 1 1 1 1 b 1e 2 1 1 2z 2 2 1 1 7 1 1 1 1 d " ++
    "12 1 1 5ls 13 1 1 1 5ls 6 1 1 1 5ls nx0 n 2 1 1 1s e 2 1 1 4i 7 2 1 1 g v 2 1 1 1z 2 2 1 1 " ++
    "5 5 2 1 1 d 1 1 1 1 5 2 2 1 1 3 1 1 0 1c 3 a 2 1 1 u 8 2 1 1 j 2 2 1 1 5 8 2 1 1 15 1 1 1 1 " ++
    "nx 1 1 1 ps t 28 1 1 tzk gk1 q 1 1 w yv 14 1 1 14 4w 10 1 1 14 5b b 1 1 13 c f 1 1 13 g 7 1 " ++
    "1 13 8 2 1 1 13 1dx 1f 1 1 1s 4w m 1 1 w 28g w 1 1 w gww w 1 1 w 2j p 1 1 r o6f y 1 1 y")

private def upperSpecials : List (Nat × List Nat) := charSequences
    ("67 2 2b 2b 95 2 jg 26 ds 2 22 lo pc 3 pl lk ld q8 3 px lk ld 13b 2 111 11u 61i 2 20 mp 61j " ++
    "2 2c lk 61k 2 2f lm 61l 2 2h lm 61m 2 1t ji 66o 2 px lv 66q 3 px lv lc 66s 3 px lv ld 66u 3 " ++
    "px lv n6 680 2 64o pl 681 2 64p pl 682 2 64q pl 683 2 64r pl 684 2 64s pl 685 2 64t pl 686 " ++
    "2 64u pl 687 2 64v pl 688 2 64o pl 689 2 64p pl 68a 2 64q pl 68b 2 64r pl 68c 2 64s pl 68d " ++
    "2 64t pl 68e 2 64u pl 68f 2 64v pl 68g 2 65k pl 68h 2 65l pl 68i 2 65m pl 68j 2 65n pl 68k " ++
    "2 65o pl 68l 2 65p pl 68m 2 65q pl 68n 2 65r pl 68o 2 65k pl 68p 2 65l pl 68q 2 65m pl 68r " ++
    "2 65n pl 68s 2 65o pl 68t 2 65p pl 68u 2 65q pl 68v 2 65r pl 68w 2 67c pl 68x 2 67d pl 68y " ++
    "2 67e pl 68z 2 67f pl 690 2 67g pl 691 2 67h pl 692 2 67i pl 693 2 67j pl 694 2 67c pl 695 " ++
    "2 67d pl 696 2 67e pl 697 2 67f pl 698 2 67g pl 699 2 67h pl 69a 2 67i pl 69b 2 67j pl 69e " ++
    "2 69m pl 69f 2 pd pl 69g 2 p2 pl 69i 2 pd n6 69j 3 pd n6 pl 69o 2 pd pl 69u 2 6a2 pl 69v 2 " ++
    "pj pl 69w 2 p5 pl 69y 2 pj n6 69z 3 pj n6 pl 6a4 2 pj pl 6aa 3 pl lk lc 6ab 3 pl lk ld 6ae " ++
    "2 pl n6 6af 3 pl lk n6 6aq 3 px lk lc 6ar 3 px lk ld 6as 2 pt lv 6au 2 px n6 6av 3 px lk n6 " ++
    "6b6 2 6be pl 6b7 2 q1 pl 6b8 2 pb pl 6ba 2 q1 n6 6bb 3 q1 n6 pl 6bg 2 q1 pl 1dkw 2 1y 1y " ++
    "1dkx 2 1y 21 1dky 2 1y 24 1dkz 3 1y 1y 21 1dl0 3 1y 1y 24 1dl1 2 2b 2c 1dl2 2 2b 2c 1dlf 2 " ++
    "11g 11i 1dlg 2 11g 111 1dlh 2 11g 117 1dli 2 11q 11i 1dlj 2 11g 119")

private def lowerRuns : List ShiftRun := ShiftRun.ofTable
    ("1t q 1 0 w 3j n 1 0 w o 7 1 0 w 14 o 2 0 1 1e 3 2 0 1 7 8 2 0 1 h n 2 0 1 1a 1 1 1 3d 1 3 2 " ++
    "0 1 8 1 1 0 5u 1 2 2 0 1 4 1 1 0 5q 1 1 1 0 1 2 2 1 0 5p 2 1 1 0 1 3 1 1 0 27 1 1 1 0 5m 1 " ++
    "1 1 0 5n 1 1 1 0 1 2 1 1 0 5p 1 1 1 0 5r 2 1 1 0 5v 1 1 1 0 5t 1 1 1 0 1 4 1 1 0 5v 1 1 1 0 " ++
    "5x 2 1 1 0 5y 1 3 2 0 1 6 1 1 0 62 1 1 1 0 1 2 1 1 0 62 3 1 1 0 1 2 1 1 0 62 1 1 1 0 1 2 2 " ++
    "1 0 61 2 2 2 0 1 4 1 1 0 63 1 1 1 0 1 4 1 1 0 1 8 1 1 0 2 1 1 1 0 1 2 1 1 0 2 1 1 1 0 1 2 1 " ++
    "1 0 2 1 9 2 0 1 j 9 2 0 1 j 1 1 0 2 1 2 2 0 1 4 1 1 1 2p 1 1 1 1 1k 1 k 2 0 1 14 1 1 1 3m 2 " ++
    "9 2 0 1 o 1 1 0 8bv 1 1 1 0 1 2 1 1 1 4j 1 1 1 0 8bs 3 1 1 0 1 2 1 1 1 5f 1 1 1 0 1x 1 1 1 " ++
    "0 1z 1 5 2 0 1 8a 2 2 0 1 6 1 1 0 1 9 1 1 0 38 7 1 1 0 12 2 3 1 0 11 4 1 1 0 1s 2 2 1 0 1r " ++
    "3 h 1 0 w i 9 1 0 w 18 1 1 0 8 9 c 2 0 1 s 1 1 1 1o 3 1 1 0 1 2 1 1 1 7 1 1 1 0 1 3 3 1 1 " ++
    "3m 3 g 1 0 28 g w 1 0 w 28 h 2 0 1 16 r 2 0 1 1i 1 1 0 f 1 7 2 0 1 f 1c 2 0 1 2p 12 1 0 1c " ++
    "29b 12 1 0 5ls 13 1 1 0 5ls 6 1 1 0 5ls k3 28 1 0 tzk 28 6 1 0 8 1p5 1 1 0 1 7 17 1 1 2bk " ++
    "19 3 1 1 2bk 8z 23 2 0 1 4e 1 1 1 5vj 2 1c 2 0 1 2w 8 1 1 8 g 6 1 1 8 g 8 1 1 8 g 8 1 1 8 g " ++
    "6 1 1 8 h 4 2 1 8 f 8 1 1 8 w 8 1 1 8 g 8 1 1 8 g 8 1 1 8 g 2 1 1 8 2 2 1 1 22 2 1 1 1 9 c " ++
    "4 1 1 2e 4 1 1 1 9 c 2 1 1 8 2 2 1 1 2s e 2 1 1 8 2 2 1 1 34 2 1 1 1 7 c 2 1 1 3k 2 2 1 1 " ++
    "3i 2 1 1 1 9 8a 1 1 1 5st 4 1 1 1 6gv 1 1 1 1 6di 7 1 1 0 s 1a g 1 0 g z 1 1 0 1 mr q 1 0 q " ++
    "1fu 1c 1 0 1c 2o 1 1 0 1 2 1 1 1 8af 1 1 1 1 2xy 1 1 1 1 89z 3 3 2 0 1 6 1 1 1 8bg 1 1 1 1 " ++
    "8al 1 1 1 1 8bj 1 1 1 1 8bi 2 1 1 0 1 3 1 1 0 1 9 2 1 1 8cf 2 1e 2 0 1 2z 2 2 0 1 7 1 1 0 1 " ++
    "nym n 2 0 1 1s e 2 0 1 4i 7 2 0 1 g v 2 0 1 1z 2 2 0 1 4 1 1 1 r9g 1 5 2 0 1 d 1 1 0 1 2 1 " ++
    "1 1 wmg 3 2 2 0 1 6 a 2 0 1 k 1 1 1 wn8 1 1 1 1 wnj 1 1 1 1 wnf 1 1 1 1 wn5 1 1 1 1 wn8 2 1 " ++
    "1 1 wlu 1 1 1 1 wmi 1 1 1 1 wlx 1 1 1 0 ps 1 8 2 0 1 g 1 1 1 1c 1 1 1 1 wn7 1 1 1 1 raw 1 2 " ++
    "2 0 1 4 1 1 1 wo7 1 8 2 0 1 g 1 1 1 wu9 p 1 1 0 1 h7w q 1 0 w yn 14 1 0 14 4w 10 1 0 14 5c " ++
    "b 1 0 13 c f 1 0 13 g 7 1 0 13 8 2 1 0 13 1d8 1f 1 0 1s 5s m 1 0 w 28g w 1 0 w gww w 1 0 w " ++
    "2o p 1 0 r o68 y 1 0 y")

private def lowerSpecials : List (Nat × List Nat) := charSequences
    "8g 2 2x lj"

private def pairRuns : List ShiftRun := ShiftRun.ofTable
    ("1t a 1 0 w b 7 1 0 w 8 7 1 0 w 30 5 1 0 w 6 h 1 0 w i 7 1 0 w 7 1 1 0 5vj w 1 1 0 3d 1 o 2 " ++
    "0 1 1e 3 2 0 1 7 8 2 0 1 h n 2 0 1 1b 3 2 0 1 7 1 1 0 5f 1 1 1 0 5u 1 2 2 0 1 4 1 1 0 5q 1 " ++
    "1 1 0 1 2 2 1 0 5p 2 1 1 0 1 3 1 1 0 27 1 1 1 0 5m 1 1 1 0 5n 1 1 1 0 1 2 1 1 0 5p 1 1 1 0 " ++
    "5r 1 1 1 0 2p 1 1 1 0 5v 1 1 1 0 5t 1 1 1 0 1 2 1 1 0 4j 1 1 1 0 wu9 1 1 1 0 5v 1 1 1 0 5x " ++
    "1 1 1 0 3m 1 1 1 0 5y 1 3 2 0 1 6 1 1 0 62 1 1 1 0 1 2 1 1 0 62 3 1 1 0 1 2 1 1 0 62 1 1 1 " ++
    "0 1 2 2 1 0 61 2 2 2 0 1 4 1 1 0 63 1 1 1 0 1 4 1 1 0 1 3 1 1 0 1k e 8 2 0 1 h 9 2 0 1 m 1 " ++
    "1 0 1 4 k 2 0 1 16 9 2 0 1 o 1 1 0 8bv 1 1 1 0 1 3 1 1 0 8bs 1 2 1 0 8cf 2 1 1 0 1 3 1 1 0 " ++
    "1x 1 1 1 0 1z 1 5 2 0 1 a 1 1 0 8bj 1 1 1 0 8bg 1 1 1 0 8bi a 1 1 0 wnj 5 1 1 0 wnf 3 1 1 0 " ++
    "wo7 1 1 1 0 wmg 1 1 1 0 wn8 4 1 1 0 wn8 1 1 1 0 8af 1 1 1 0 wn5 5 1 1 0 8al c 1 1 0 89z 5 1 " ++
    "1 0 wn7 5 1 1 0 wmi m 1 1 0 wlx 1 1 1 0 wlu 5u 2 2 0 1 6 1 1 0 1 5 3 1 0 3m 4 1 1 0 38 7 1 " ++
    "1 0 12 2 3 1 0 11 4 1 1 0 1s 2 2 1 0 1r 2 1 1 0 5kz 1 2 2 0 w 3 2 2 0 w 3 1 1 0 w 4 2 2 0 w " ++
    "3 2 1 0 w 6 2 1 0 w 3 2 1 0 w 3 2 1 0 w 6 1 1 0 5kj v 1 1 0 8 9 c 2 0 1 q 1 1 0 7 5 1 1 0 1 " ++
    "3 1 1 0 1 6 g 1 0 28 g 2 1 0 w 3 2 2 0 w 3 8 1 0 w 9 2 1 0 w 4 7 1 0 w 8 5 1 0 w 1h 1 1 0 1 " ++
    "4 f 2 0 1 12 r 2 0 1 1i 1 1 0 f 1 7 2 0 1 f 1c 2 0 1 2p 12 1 0 1c 29b 12 1 0 5ls 13 1 1 0 " ++
    "5ls 6 1 1 0 5ls 3 17 1 0 2bk 19 3 1 0 2bk ir 28 1 0 tzk 28 6 1 0 8 1p5 1 1 0 1 6o 1 1 0 r9g " ++
    "4 1 1 0 2xy h 1 1 0 raw 36 1c 2 0 1 2q q 2 0 1 1q 1c 2 0 1 2o 8 1 0 8 g 6 1 0 8 g 8 1 0 8 g " ++
    "8 1 0 8 g 6 1 0 8 h 4 2 0 8 f 8 1 0 8 g 2 1 0 22 2 4 1 0 2e 4 2 1 0 2s 2 2 1 0 3k 2 2 1 0 " ++
    "34 2 2 1 0 3i 4 8 1 0 8 g 8 1 0 8 g 8 1 0 8 g 2 1 0 8 3 1 1 0 9 g 1 1 0 9 d 2 1 0 8 g 2 1 0 " ++
    "8 5 1 1 0 7 e 1 1 0 9 8v 1 1 0 s 1a g 1 0 g z 1 1 0 1 mr q 1 0 q 1fu 1c 1 0 1c 2o 1 1 0 1 7 " ++
    "3 2 0 1 b 1 1 0 1 3 1 1 0 1 b 1e 2 0 1 2z 2 2 0 1 7 1 1 0 1 nym 5 2 0 1 c h 2 0 1 1g e 2 0 " ++
    "1 4i 7 2 0 1 g v 2 0 1 1z 2 2 0 1 5 5 2 0 1 d 1 1 0 1 5 2 2 0 1 4 1 1 0 1c 2 a 2 0 1 t 1 1 " ++
    "0 ps 1 8 2 0 1 j 2 2 0 1 5 8 2 0 1 15 1 1 0 1 geo 1 1 0 1 t8 q 1 0 w yn 14 1 0 14 4w 10 1 0 " ++
    "14 5c b 1 0 13 c f 1 0 13 g 7 1 0 13 8 2 1 0 13 1d8 1f 1 0 1s 5s m 1 0 w 28g w 1 0 w gww w " ++
    "1 0 w 2o p 1 0 r o68 y 1 0 y")

private def largeClasses : List (List Nat) :=
  let ns := CodePoints.numbers
    ("3 23 2z 6ju 3 2b 37 an 3 51 po qk 3 5h 6d 6jv 3 ck cl cm 3 cn co cp 3 cq cr cs 3 dt du dv 4 " ++
    "n9 pl qh 69q 3 pe qa r4 3 ph qd s5 4 pk qg r5 s4 3 pm qi s0 3 ps qo ra 3 pt qp s1 3 pv qq " ++
    "qr 3 py qu r9 3 q1 qx 6jq 3 sy tu 5mo 3 t0 tw 5mp 3 ta u6 5mq 3 td u9 5mr 4 te ua 5ms 5mt 3 " ++
    "tm ui 5mu 3 v6 v7 5mv 3 5mw wui wuj 3 600 601 61n")
  readClasses ns.length ns

private def mapChar (runs : List ShiftRun) (specials : List (Nat × List Nat)) (c : Char) :
    List Char :=
  match specials.find? (·.1 == c.toNat) with
  | some (_, cs) => cs.map Char.ofNat
  | none =>
    match runs.find? (·.covers c.toNat) with
    | some r => [Char.ofNat (r.apply c.toNat)]
    | none => [c]

/-- The full upper-case form of a character. -/
def upperChar (c : Char) : List Char :=
  if c.toNat < 128 then [c.toUpper] else mapChar upperRuns upperSpecials c

/-- The full lower-case form of a character, wherever it stands. -/
def lowerChar (c : Char) : List Char :=
  if c.toNat < 128 then [c.toLower] else mapChar lowerRuns lowerSpecials c

/-- The upper-case form of a text. -/
def uppercase (s : String) : String := String.ofList (s.toList.flatMap upperChar)

private def casedFirst (cs : List Char) : Bool :=
  match cs.dropWhile (fun c => BinaryProperty.caseIgnorable.codePoints.contains c.toNat) with
  | c :: _ => BinaryProperty.cased.codePoints.contains c.toNat
  | [] => false

private def lowerFrom (before : List Char) : List Char → List Char
  | [] => []
  | c :: rest =>
    let mapped :=
      if c = 'Σ' then (if casedFirst before && !casedFirst rest then ['ς'] else ['σ'])
      else lowerChar c
    mapped ++ lowerFrom (c :: before) rest

/-- The lower-case form of a text; a sigma that ends a word takes its final form. -/
def lowercase (s : String) : String := String.ofList (lowerFrom [] s.toList)

/-- The other characters that equal a character when case is ignored. -/
def caseVariants (c : Nat) : List Nat :=
  match largeClasses.find? (·.contains c) with
  | some members => members.filter (· != c)
  | none =>
    (pairRuns.filterMap fun r => if r.covers c then some (r.apply c) else none) ++
      (pairRuns.filterMap fun r =>
        let back := if r.down then c + r.distance else c - r.distance
        if (r.down || r.distance ≤ c) && r.covers back then some back else none)

/-- The characters that have a variant of other case. -/
def caseVarying : List Nat :=
  largeClasses.flatten ++ pairRuns.flatMap fun r =>
    (List.range r.count).flatMap fun i =>
      let c := r.start + i * r.step
      [c, r.apply c]

end SchemaSeed.Text
