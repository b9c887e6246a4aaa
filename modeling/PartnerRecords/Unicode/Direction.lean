import PartnerRecords.Unicode.Table

/-!
# Direction of characters

The class of a character in text that runs both ways; left to right where nothing is listed.
-/

namespace PartnerRecords.Unicode

def directionStream : String :=
  "0 9 9 0 5 b 0 e 9 0 5 b 0 2 8 0 3 7 0 5 8 0 1 5 0 1 6 0 1 5 0 2 6 0 a 4 0 1 6 0 6 8 q 6 8 q 4 8
0 6 9 0 1 b 0 q 9 0 1 6 0 1 8 0 4 7 0 4 8 1 2 8 0 1 9 0 2 8 0 2 7 0 2 4 0 1 8 1 3 8 0 1 4 1 5 8
n 1 8 v 1 8 ch 2 8 7 e 8 2 e 8 5 9 8 1 h 8 0 34 a 4 2 8 8 1 8 5 2 8 1 1 8 32 1 8 3w 7 a 74 1 8 2
2 8 0 1 7 0 1 1 0 19 a 0 1 1 0 1 a 0 1 1 0 2 a 0 1 1 0 2 a 0 1 1 0 2 a 0 1j 1 0 6 3 0 2 8 0 1 2
0 2 7 0 1 2 0 1 6 0 1 2 0 2 8 0 b a 0 1c 2 0 l a 0 a 3 0 1 7 0 2 3 0 3 2 0 1 a 0 2t 2 0 7 a 0 1
3 0 1 8 0 6 a 0 2 2 0 2 a 0 1 8 0 4 a 0 2 2 0 a 4 0 n 2 0 1 a 0 u 2 0 r a 0 2j 2 0 b a 0 f 2 0
17 1 0 9 a 0 2 1 0 4 8 0 3 1 0 1 a 0 o 1 0 4 a 0 1 1 0 9 a 0 1 1 0 3 a 0 1 1 0 5 a 0 17 1 0 3 a
0 4 1 0 1c 2 0 2 3 0 5 2 0 9 a 0 16 2 0 o a 0 1 3 0 w a 1j 1 a 1 1 a 4 8 a 4 1 a 3 7 a a 2 a t 1
a 1m 1 a 4 4 a 8 1 a k 2 a e 2 7 7 1 7 2 1 a 2 2 a 1l 1 a 4 2 a 4 2 a 2 3 a 3 1 a u 2 a 3 1 a b
2 a 1l 1 a 4 5 a 1 2 a 4 1 a k 2 a d 1 7 8 6 a 1 1 a 1m 1 a 2 1 a 1 4 a 8 1 a 5 1 a 1 2 a b 2 a
u 1 a 1p 1 a c 1 a 11 6 8 0 1 7 0 1 8 5 1 a 3 1 a 1j 1 a 1 3 a 5 3 a 1 4 a 7 2 a b 2 a k 7 8 2 1
a 1m 1 a f 2 a k 2 a s 2 a 1l 2 a 4 4 a 8 1 a k 2 a t 1 a 20 1 a 7 3 a 1 1 a 2i 1 a 2 7 a 4 1 7
7 8 a 2q 1 a 2 9 a b 7 a 21 2 a r 1 a 1 1 a 1 1 a 0 4 8 1f e a 1 5 a 1 2 a 5 b a 1 10 a 9 1 a 2u
4 a 1 6 a 1 2 a 2 2 a p 2 a 4 3 a g 4 a d 1 a 2 2 a 6 1 a f 1 a jj 3 a 1c a 8 2u 1 8 hr 1 b q 2
8 39 3 a t 2 a u 2 a u 2 a 1s 2 a 1 7 a 8 1 a 2 b a 7 1 7 1 1 a i a 8 6 b 8 0 3 a 0 1 9 0 1 a 39
2 a y 1 a 3a 3 a 4 2 a 9 1 a 6 3 a 4 1 8 3 2 8 48 y 8 n 2 a 2 1 a 1m 1 a 1 7 a 1 1 a 1 1 a 2 8 a
6 a a 2 1 a 1c 1b a 1 d a j 4 a 1c 1 a 1 4 a 1d 9 a c 2 a w 4 a 2 2 a 1 3 a 1k 1 a 1 2 a 3 1 a 1
3 a 1m 8 a 2 2 a 48 3 a 1 d a 1 7 a 4 1 a 6 1 a 3 2 a 5i 1s a cd 1 8 1 3 8 b 3 8 d 3 8 d 3 8 d 2
8 1 b b 0 3 9 1 1 1 0 o 8 0 7 b 0 1 6 0 5 7 0 f 8 0 1 6 0 q 8 0 1 b 0 6 9 0 4 b 0 6 9 0 1 4 3 6
4 0 2 5 0 3 8 1 a 4 0 2 5 0 4 8 g 1c 7 0 x a f 2 8 1 4 8 1 2 8 a 1 8 1 3 8 5 6 8 1 1 8 1 1 8 1 1
8 4 1 7 b 2 8 4 5 8 5 4 8 2 g 8 15 3 8 4 3m 8 0 1 5 0 1 7 0 82 8 1x q 8 1 44 8 m b 8 l 14 8 0 k
4 26 ci 8 1 9f 8 74 hg 8 2 3u 8 6d 6 8 4 3 a 7 7 8 3j 1 a 2o w a 0 2m 8 y q 8 1 2h 8 c 5y 8 q g
8 0 1 b 0 4 8 3 p 8 9 4 a 2 1 8 5 2 8 5 3 8 2h 2 a 0 2 8 3 1 8 2i 1 8 5g 12 8 9 1 8 19 2 8 1d g
8 s 3 8 1e f 8 c 4 8 4n 4 8 2r 2 8 v 1 8 534 1s 8 h3k 1j 8 92 3 8 2n 4 a 0 1 8 0 a a 0 2 8 u 2 a
28 2 a e y 8 2u 1 8 3d 1 a 3 1 a 4 1 a p 2 a 1 4 8 0 1 a b 2 7 1m 4 8 24 2 a q i a d 1 a 12 8 a
p b a 1a 3 a 1c 1 a 2 4 a 2 2 a 13 1 a 1v 6 a 2 2 a 2 2 a c 1 a 8 1 a 1b 1 a 1f 1 a 1 3 a 2 2 a
5 2 a 1 1 a 16 2 a 8 1 a 37 2 8 3d 1 a 2 1 a 4 1 a fn3 1 1 0 1 a 0 a 1 0 1 5 0 12 1 0 37 2 0 g 8
0 a3 2 0 i 8 0 1s 2 0 2 8 0 1i 2 0 8 8 0 w 9 0 d 2 0 3 8 0 g a 0 a 8 6 g a 0 w 8 0 1 6 0 1 8 0 1
6 1 1 8 0 1 6 0 9 8 0 1 7 0 2 8 0 2 5 0 3 8 1 1 8 0 2 7 0 1 8 4 3z 2 0 1 9 1 2 8 0 3 7 0 5 8 0 1
5 0 1 6 0 1 5 0 2 6 0 a 4 0 1 6 0 6 8 q 6 8 q b 8 3e 2 7 0 3 8 0 2 7 1 7 8 1 9 9 0 5 8 0 2 9 75
1 8 1q 25 8 3 d 8 3 1 8 2k 1 a 6a 1 a 0 r 4 3e 5 a w5 7z 1 0 1 8 0 69 1 0 3 a 0 1 1 0 2 a 0 5 1
0 4 a 0 14 1 0 3 a 0 4 1 0 1 a 0 4l 1 0 2 a 0 2a 1 0 7 8 0 cg 1 0 10 2 0 4 a 0 8 2 0 a 3 0 6 2 0
a 3 0 v 1 0 5 a 0 1 8 0 6p 1 0 v 3 0 18 1 0 2 a 0 j 1 0 b 2 0 1 a 0 4 2 0 9 8 0 x 2 0 6 a 0 1c 1
0 m 2 0 b a 0 v 2 0 i 1 0 4 a 0 3e 1 1 1 a 1i f a b k 8 a 1 a 2 2 a a 3 a 1d 4 a 2 2 a 7 1 a 1p
3 a 10 5 a 1 8 a 1q 1 a c 2 a 1g 9 a a 4 a 2 1 a 2n 3 a 2 1 a 1 2 a 6 1 a 2 1 a 4d 1 a 3 8 a l 2
a 1l 2 a 3 1 a 11 7 a 3 5 a 1y 6 a d 1 a 1 1 a 1 1 a e 2 a 2d 8 a 2 3 a 1 1 a n 1 a 2c 6 a 1 1 a
4 2 a 1 2 a 6m 4 a 6 2 a 1 2 a r 2 a 2d 8 a 2 1 a 1 2 a v d 8 1q 1 a 1 1 a 2 6 a 1 1 a 2t 1 a 1
1 a 2 4 a 1 5 a 77 9 a 1 2 a 74 2 a 1 1 a 4 1 a 40 4 a 2 2 a 4 1 a w 6 a 2 2 a 14 6 a 2 4 a 8 1
a 9 6 a 2 3 a 1a d a 1 2 a 5i 1 a 1 3 a 1 1 a 5l 7 a 1 6 a 2c m a 2 7 a 1 2 a 1 2 a 3e 6 a 3 1 a
1 2 a 1 7 a 1 1 a 20 2 a 3 1 a 1 1 a 2g 1 a 76 2 a b 2 a 1g 5 a 5 1 a 1 1 a n 1 a 3e 8 8 0 4 7 0
h 8 40e 1 a 6 f a 8ug c a 3 3 a 1xc 5 a 1n 7 a t4 1 a 1r 4 a 27 1 8 1 1 a 6nv 2o 8 8f1 2 a 1 4 9
318 6o 8 0 a 4 0 3 8 3 c4 8 6 n 8 f h 8 f 1a a 2 n a dc 1 a 1r 3 a 9 8 9 0 8 a 2 7 a u 4 a 1n 2
8 l 1u 8 0 3 a 0 1 8 56 2f 8 p0 1 8 1l 1 8 1l 1 8 1l 1 8 1l 1 8 a 1e 4 e8 1j a 4 1e a 8 1 a e 1
a m 5 a 1 f a 11s 7 a 1 h a 2 7 a 1 2 a 1 5 a 2s 1 a 4g 7 a af 1 a 1p 4 a f 1 7 do 4 a 72 2 a 6r
1 a 2 1 a 7 2 a 5 1 a 7e 5s 1 0 7 a 0 31 1 0 7 a 0 md 1 0 28 2 0 1s 1 0 28 2 0 4w 1 0 6o 2 0 2 8
0 e 2 0 74 1 0 18 8 4 2s 8 c f 8 2 f 8 1 f 8 1 11 8 a b 4 0 5 8 v 1 8 1m 6 8 1p 2 8 4x 6 8 4a re
8 2 h 8 3 d 8 3 62 8 6 c 8 4 1 8 f c 8 4 1k 8 8 a 8 6 14 8 8 u 8 2 c 8 4 2 8 e 9 8 13 9k 8 8 e 8
2 d 8 3 1z 8 1 1 8 3 i 8 1 d 8 3 c 8 5 43 8 1 2k 8 0 a 4 0 1 8 sj 2 9 1eke 2 9 1eke 2 9 1eke 2 9
1eke 2 9 1eke 2 9 1eke 2 9 1eke 2 9 1eke 2 9 1eke 2 9 1eke 2 9 1eke 2 9 1eke 76 9 0 6o a 0 2s0 9
1bem 2 9 1eke 2 9 1eke 2 9"

def directionRanges : Array Range :=
  valueRanges directionStream

end PartnerRecords.Unicode
