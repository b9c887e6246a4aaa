import PartnerRecords.Unicode.Table

/-!
# Joining of characters

How a character joins its neighbours in cursive scripts: 1 to the left, 2 to the right, 3 on both
sides, 4 not at all while others join across it.
-/

namespace PartnerRecords.Unicode

def joiningStream : String :=
  "4t 1 4 gi 34 4 7n 7 4 7b 19 4 1 1 4 1 2 4 1 2 4 1 2 4 1z b 4 1 1 4 3 1 3 1 4 2 0 1 3 0 1 2 0 1 3
0 1 2 0 5 3 0 4 2 0 d 3 1 7 3 0 1 2 0 2 3 0 l 4 e 2 3 0 1 4 0 3 2 1 3 2 0 g 3 0 i 2 0 12 3 0 1 2
0 2 3 0 9 2 0 1 3 0 1 2 0 1 3 0 1 2 0 2 3 0 2 2 1 1 2 0 7 4 2 6 4 2 2 4 1 4 4 0 2 2 a 3 3 2 1 3
f 1 4 0 1 2 0 1 4 0 3 3 0 5 2 0 4 3 0 1 2 0 9 3 0 1 2 0 1 3 0 1 2 0 1 3 0 1 2 0 2 3 0 1 2 0 r 4
2 1 2 0 b 3 0 3 2 0 f 3 0 2 2 0 4 3 0 1 2 0 1 3 0 2 2 0 3 3 0 2 2 0 6 3 12 b 4 p x 3 0 9 4 9 1 4
o 4 4 1 9 4 1 3 4 1 5 4 i 1 2 0 5 3 0 2 2 0 1 3 0 1 2 0 a 3 0 1 2 0 1 3 0 3 2 0 3 4 4 1 3 1 4 3
1 1 2 0 1 3 0 2 2 5 j 2 3 1 3 2 5 3 0 1 2 0 1 3 7 9 4 0 a 3 0 3 2 1 1 2 0 2 3 0 2 2 0 6 3 0 1 2
0 f 3 1 o 4 1 w 4 1j 1 4 1 1 4 4 8 4 4 1 4 3 7 4 a 2 4 t 1 4 1m 1 4 4 4 4 8 1 4 k 2 4 q 1 4 2 2
4 1l 1 4 4 2 4 4 2 4 2 3 4 3 1 4 u 2 4 3 1 4 b 2 4 1l 1 4 4 5 4 1 2 4 4 1 4 k 2 4 m 6 4 1 1 4 1m
1 4 2 1 4 1 4 4 8 1 4 5 1 4 1 2 4 b 2 4 u 1 4 1p 1 4 c 1 4 1e 1 4 3 1 4 1j 1 4 1 3 4 5 3 4 1 4 4
7 2 4 b 2 4 t 1 4 1m 1 4 2 1 4 6 1 4 5 2 4 k 2 4 s 2 4 1l 2 4 4 4 4 8 1 4 k 2 4 t 1 4 20 1 4 7 3
4 1 1 4 2i 1 4 2 7 4 c 8 4 2q 1 4 2 9 4 b 7 4 21 2 4 r 1 4 1 1 4 1 1 4 1j e 4 1 5 4 1 2 4 5 b 4
1 10 4 9 1 4 2u 4 4 1 6 4 1 2 4 2 2 4 p 2 4 4 3 4 g 4 4 d 1 4 2 2 4 6 1 4 f 1 4 jj 3 4 qa 3 4 t
2 4 u 2 4 u 2 4 1s 2 4 1 7 4 8 1 4 2 b 4 9 1 4 15 1 3 3 3 4 1 1 4 g 2h 3 c 2 4 0 y 3 0 1 4 0 1 3
39 3 4 4 2 4 9 1 4 6 3 4 63 2 4 2 1 4 1m 1 4 1 7 4 1 1 4 1 1 4 2 8 4 6 a 4 2 1 4 1c 1b 4 1 d 4 j
4 4 1c 1 4 1 4 4 1d 9 4 c 2 4 w 4 4 2 2 4 1 3 4 1k 1 4 1 2 4 3 1 4 1 3 4 1m 8 4 2 2 4 48 3 4 1 d
4 1 7 4 4 1 4 6 1 4 3 2 4 5i 1s 4 ej 1 4 2 2 4 q 5 4 1d 5 4 5 6 4 2o x 4 2da 3 4 3x 1 4 2o w 4
fe 4 4 2z 2 4 n9w 4 4 1 a 4 w 2 4 28 2 4 7k 1 4 3 1 4 4 1 4 p 2 4 5 1 4 j 1e 3 0 1 1 29 2 4 q i
4 d 1 4 12 8 4 p b 4 1a 3 4 1c 1 4 2 4 4 2 2 4 13 1 4 1v 6 4 2 2 4 2 2 4 c 1 4 8 1 4 1b 1 4 1f 1
4 1 3 4 2 2 4 5 2 4 1 1 4 16 2 4 8 1 4 6m 1 4 2 1 4 4 1 4 fn4 1 4 kh g 4 g g 4 5r 1 4 6x 3 4 e9
1 4 6a 1 4 45 5 4 1ae 3 4 1 2 4 5 4 4 14 3 4 4 1 4 3k 5 3 0 1 2 1 1 2 1 2 2 2 1 1 0 5 2 0 4 3 0
1 1 0 5 3 0 1 2 0 3 3 0 1 2 2 1 2 0 2 4 4 4 3 0 1 2 40 1 3 0 1 2 0 1 3 0 3 2 0 3 3 0 1 2 0 2 3 0
1 2 0 1 3 0 2 2 0 1 3 0 1 2 n 4 2 0 2 3 9d 1 1 0 x 3 0 1 2 0 1 3 0 4 4 1t 5 4 8t 2 4 l 1 2 0 2 3
1 2 3 3 1 4 1a 6 4 1c 3 3 0 1 2 0 h 3 1 b 4 0 3 3 0 1 2 r 4 3 0 2 2 0 c 3 0 4 4 16 1 3 1 2 3 0 3
2 1 1 3 0 2 2 0 2 3 0 1 2 0 2 3 1 1 3 0 2 2 0 1 3 4 1 2 0 1 3 0 1 1 1h 1 4 1i f 4 15 1 4 2 2 4 a
3 4 1d 4 4 2 2 4 7 1 4 1p 3 4 10 5 4 1 8 4 1q 1 4 c 2 4 1g 9 4 a 4 4 2 1 4 2n 3 4 2 1 4 1 2 4 6
1 4 2 1 4 4d 1 4 3 8 4 l 2 4 1l 2 4 3 1 4 11 7 4 3 5 4 1y 6 4 d 1 4 1 1 4 1 1 4 e 2 4 2d 8 4 2 3
4 1 1 4 n 1 4 2c 6 4 1 1 4 4 2 4 1 2 4 6m 4 4 6 2 4 1 2 4 r 2 4 2d 8 4 2 1 4 1 2 4 2y 1 4 1 1 4
2 6 4 1 1 4 2t 1 4 1 1 4 2 4 4 1 5 4 77 9 4 1 2 4 74 2 4 1 1 4 4 1 4 40 4 4 2 2 4 4 1 4 w a 4 14
6 4 2 4 4 8 1 4 9 6 4 2 3 4 1a d 4 1 2 4 5i 1 4 1 3 4 1 1 4 5l 7 4 1 6 4 1 1 4 2a m 4 2 7 4 1 2
4 1 2 4 3e 6 4 3 1 4 1 2 4 1 7 4 1 1 4 20 2 4 3 1 4 1 1 4 2g 1 4 76 2 4 b 2 4 1g 5 4 5 1 4 1 1 4
n 1 4 445 h 4 6 f 4 8ug c 4 3 3 4 1xc 5 4 1n 7 4 t4 1 4 1r 4 4 29 1 4 f5k 2 4 1 4 4 3mk 1a 4 2 n
4 dc 1 4 1r 3 4 9 g 4 2 7 4 u 4 4 44 3 4 1iz 1j 4 4 1e 4 8 1 4 e 1 4 m 5 4 1 f 4 11s 7 4 1 h 4 2
7 4 1 2 4 1 5 4 2s 1 4 4g 7 4 af 1 4 1p 4 4 e4 4 4 72 2 4 6r 1 4 2 1 4 7 2 4 5 1 4 d6 7 4 15 1w
3 0 8 4 gzat 1 4 u 2o 4 3k 6o 4"

def joiningRanges : Array Range :=
  valueRanges joiningStream

end PartnerRecords.Unicode
