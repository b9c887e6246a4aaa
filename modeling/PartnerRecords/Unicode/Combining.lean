import PartnerRecords.Unicode.Table

/-!
# Combining marks

The marks, and the classes by which marks are ordered.
-/

namespace PartnerRecords.Unicode

def markStream : String :=
  "lc 34 7n 7 7b 19 1 1 1 2 1 2 1 2 1z b 1c l g 1 2t 7 2 6 2 2 1 4 z 1 u r 2j b 1m 9 9 1 o 4 1 9 1
3 1 5 17 3 1n 9 16 o 1 x 1i 3 1 i 1 7 a 2 t 3 1k 1 1 7 2 2 2 3 9 1 a 2 q 1 2 3 1k 1 1 5 4 2 2 3
3 1 u 2 3 1 b 3 1k 1 1 8 1 3 1 3 k 2 m 6 1 3 1k 1 1 7 2 2 2 3 5 1 1 3 a 2 u 1 1n 5 3 3 1 4 9 1
14 5 1j 1 1 7 1 3 1 4 7 2 b 2 t 3 1k 1 1 7 1 3 1 4 7 2 b 2 f 1 c 4 1j 2 1 7 1 3 1 4 9 1 a 2 t 3
1y 1 4 6 1 1 1 8 i 2 1p 1 2 7 c 8 2q 1 2 9 b 7 21 2 r 1 1 1 1 1 4 2 1d k 1 2 5 b 1 10 9 1 2s k n
4 4 3 1 3 2 7 3 4 d c 1 1 a 4 jj 3 qa 4 s 3 t 2 u 2 1s w 9 1 19 3 1 1 39 2 y 1 3a c 4 c 63 5 1l
a 1 t 2 1 1c 1b 1 d j 5 1b h 12 9 c 3 u d 1k e 1c k 48 3 1 l 4 1 6 1 2 3 5i 1s k0 x 2da 3 3x 1
2o w fe 6 2x 2 n9w 4 1 a w 2 28 2 7k 1 3 1 4 1 n 5 4 1 2b 2 1e i q i d 1 12 8 p d 18 4 1b e 10 1
1v e c 1 8 2 19 3 1e 1 1 3 2 2 5 2 1 1 15 5 5 2 6k 8 1 2 fn4 1 kh g g g r1 1 6a 1 45 5 1ae 3 1 2
5 4 14 3 4 1 4l 2 fx 4 1t 5 8t 2 u 1 1a 6 1y b 1d 4 3e 3 1h f 15 1 2 2 a 4 19 b 7 1 1p 3 10 e g
2 18 1 c 3 1c e 8 4 1 2 2k c 6 1 2 1 4d c l 4 1j 2 1 7 2 2 2 3 9 1 a 2 2 7 3 5 1v 9 1 1 2 1 1 4
1 5 1 1 e 2 2a i n 1 29 k 6j 7 2 9 r 2 2a h 2y d 2t f 74 f 6t 6 1 2 2 4 1 1 1 2 3x 7 2 7 3 1 s a
14 7 1 4 8 1 9 b 1a g 5i 8 5j 8 1 8 2a m 1 e 3e 6 3 1 1 2 1 7 1 1 1u 5 1 2 1 5 2g 1 76 4 9 2 1 1
1c 7 3 5 n 1 44l 1 6 f 8ug i 1xc 5 1n 7 t4 1 1 1j 7 4 29 1 b 2 f57 2 3mp 1a 2 n dc 1 1p 5 3 6 8
8 2 7 u 4 44 3 1iz 1j 4 1e 8 1 e 1 m 5 1 f 11s 7 1 h 2 7 1 2 1 5 2s 1 4g 7 af 1 1p 4 e4 4 72 2
6r 1 2 1 7 2 5 1 d6 7 31 7 gzhx 6o"

def markRanges : Array Range :=
  setRanges markStream

def classStream : String :=
  "lc l 6e 0 1 6g 0 4 64 0 1 6g 0 1 60 0 5 64 0 2 5m 0 4 64 0 2 5m 0 b 64 0 5 1 0 4 64 0 8 6e 0 1
6o 0 1 6e 0 3 64 0 3 6e 0 2 64 1 3 6e 0 4 64 0 1 6e 0 1 6g 0 2 64 0 1 6e 0 1 6h 0 2 6i 0 1 6h 0
2 6i 0 1 6h 0 d 6e 7n 5 6e 7d 1 64 0 4 6e 0 1 64 0 3 6e 0 1 66 0 1 64 0 6 6e 0 6 64 0 2 6e 0 1
64 0 2 6e 0 1 66 0 1 6c 0 1 6e 0 1 a 0 1 b 0 1 c 0 1 d 0 1 e 0 1 f 0 1 g 0 1 h 0 1 i 0 2 j 0 1 k
0 1 l 0 1 m 1 1 n 1 1 o 0 1 p 1 1 6e 0 1 64 1 1 i 0 1 6e 1z 8 6e 0 1 u 0 1 v 0 1 w 1c 1 r 0 1 s
0 1 t 0 1 u 0 1 v 0 1 w 0 1 x 0 1 y 0 2 6e 0 2 64 0 5 6e 0 1 64 0 2 6e 0 1 64 g 1 z 2t 7 6e 2 4
6e 0 1 64 0 1 6e 2 2 6e 1 1 64 0 2 6e 0 1 64 z 1 10 u 1 6e 0 1 64 0 2 6e 0 1 64 0 2 6e 0 3 64 0
1 6e 0 2 64 0 1 6e 0 1 64 0 3 6e 0 1 64 0 1 6e 0 1 64 0 1 6e 0 1 64 0 1 6e 0 1 64 0 2 6e 4g 7 6e
0 1 64 0 1 6e 9 1 64 o 4 6e 1 9 6e 1 3 6e 1 5 6e 17 3 64 1n 2 6e 0 3 64 0 4 6e 16 5 6e 0 5 64 0
e 6e 1 1 64 0 2 6e 0 1 64 0 2 6e 0 1 64 0 3 6e 0 3 64 0 1 r 0 1 s 0 1 t 0 3 6e 0 1 64 0 2 6e 0 2
64 0 5 6e 1o 1 7 g 1 9 3 1 6e 0 1 64 0 2 6e 2v 1 7 g 1 9 1c 1 6e 1p 1 7 g 1 9 32 1 7 g 1 9 32 1
7 g 1 9 3j 1 9 32 1 7 g 1 9 7 1 2c 0 1 2j 2t 1 7 g 1 9 31 2 9 g 1 9 3g 1 9 31 2 2v 0 1 9 d 4 2z
30 2 3a 0 1 9 d 4 3e 24 2 64 r 1 64 1 1 64 1 1 60 1j 1 3l 0 1 3m 1 1 3o 5 4 3m 2 1 3m 1 2 6e 0 1
9 1 2 6e 1q 1 64 34 1 7 1 2 9 2a 1 64 jz 3 6e qc 2 9 u 1 9 4d 1 9 a 1 6e 5n 1 6c 3z 1 66 0 1 6e
0 1 64 63 1 6e 0 1 64 1z 1 9 k 8 6e 2 1 64 1c 5 6e 0 6 64 0 2 6e 0 1 64 1 2 64 0 2 6e 0 2 64 0 5
6e 0 1 64 0 i 6e 0 1 64 0 1 6e 1 6 6e 0 1 64 0 4 6e 0 1 6i 0 1 6e 1z 1 7 f 1 9 12 1 6e 0 1 64 0
7 6e 1i 2 9 1m 1 7 b 2 9 1v 1 7 48 3 6e 1 1 1 0 5 64 0 2 6e 0 4 64 0 1 6e 1 7 1 4 1 64 6 1 6e 3
2 6e 5i 2 6e 0 1 64 0 7 6e 0 1 64 0 2 6e 0 1 6i 0 1 5y 0 1 64 0 1 5m 0 11 6e 0 1 6g 0 2 6c 0 1
64 0 1 62 0 1 6e 0 1 6h 0 1 64 0 1 6e 0 1 64 k0 2 6e 0 2 1 0 4 6e 0 3 1 0 2 6e 4 1 6e 3 2 1 0 1
6e 0 1 64 0 1 6e 0 2 1 0 4 64 0 1 6e 2da 3 6e 3x 1 9 2o w 6e fe 1 62 0 1 6c 0 1 6g 0 1 66 0 2 68
2x 2 8 n9w 1 6e 4 a 6e w 2 6e 28 2 6e 7o 1 9 11 1 9 47 1 9 r i 6e 1l 3 64 11 1 9 2n 1 7 c 1 9 6n
1 6e 1 2 6e 0 1 64 2 2 6e 5 2 6e 1 1 6e 1g 1 9 6u 1 9 fn4 1 q ld 7 6e 0 7 64 0 2 6e r1 1 64 6a 1
64 45 5 6e 1aq 1 64 1 1 6e 14 1 6e 0 1 1 0 1 64 4 1 9 4l 1 6e 0 1 64 fx 4 6e 1t 5 6e 8t 2 6e u 1
6e 1a 2 64 1 3 64 1y 2 64 0 3 6e 0 1 64 0 1 6e 0 4 64 1d 1 6e 0 1 64 0 1 6e 0 1 64 5c 1 9 15 1 9
e 1 9 1l 1 9 0 1 7 1x 3 6e 1c 2 9 1q 1 7 24 1 9 9 1 7 2y 1 9 0 1 7 4y 1 7 0 1 9 28 2 7 g 1 9 o 7
6e 3 5 6e 2h 3 9 35 1 9 3 1 7 n 1 6e 2r 1 9 0 1 7 6z 1 9 0 1 7 3i 1 9 3a 1 9 0 1 7 37 1 9 7h 1 9
0 1 7 76 2 9 4 1 7 4c 1 9 2b 1 9 i 1 9 29 1 9 bp 1 9 76 1 7 1 2 9 29 1 9 bt 2 9 d0s 1 9 1xc 5 1
1n 7 6e xl 2 6 f58 1 1 43q 2 60 0 3 1 3 1 6a 0 5 60 8 8 64 2 5 6e 0 2 64 u 4 6e 44 3 6e 2pn 7 6e
1 h 6e 2 7 6e 1 2 6e 1 5 6e 2s 1 6e 4g 7 6e af 1 6e 1p 4 6e e4 2 6g 0 1 64 0 1 6e 72 1 6e 0 1 64
6r 1 6e 2 1 6e 7 2 6e 5 1 6e d6 7 64 31 6 6e 0 1 7"

def classRanges : Array Range :=
  valueRanges classStream

end PartnerRecords.Unicode
