import PartnerRecords.Unicode.Table

/-!
# Composed characters

The full canonical decompositions of characters, and the pairs that compose to one character.
-/

namespace PartnerRecords.Unicode

/-- The gap before each character and the number and codes of the characters it decomposes to. -/
def decompositionStream : String :=
  "5c 2 1t lc 0 2 1t ld 0 2 1t le 0 2 1t lf 0 2 1t lk 0 2 1t lm 1 2 1v mf 0 2 1x lc 0 2 1x ld 0 2
1x le 0 2 1x lk 0 2 21 lc 0 2 21 ld 0 2 21 le 0 2 21 lk 1 2 26 lf 0 2 27 lc 0 2 27 ld 0 2 27 le
0 2 27 lf 0 2 27 lk 2 2 2d lc 0 2 2d ld 0 2 2d le 0 2 2d lk 0 2 2h ld 2 2 2p lc 0 2 2p ld 0 2 2p
le 0 2 2p lf 0 2 2p lk 0 2 2p lm 1 2 2r mf 0 2 2t lc 0 2 2t ld 0 2 2t le 0 2 2t lk 0 2 2x lc 0 2
2x ld 0 2 2x le 0 2 2x lk 1 2 32 lf 0 2 33 lc 0 2 33 ld 0 2 33 le 0 2 33 lf 0 2 33 lk 2 2 39 lc
0 2 39 ld 0 2 39 le 0 2 39 lk 0 2 3d ld 1 2 3d lk 0 2 1t lg 0 2 2p lg 0 2 1t li 0 2 2p li 0 2 1t
mg 0 2 2p mg 0 2 1v ld 0 2 2r ld 0 2 1v le 0 2 2r le 0 2 1v lj 0 2 2r lj 0 2 1v lo 0 2 2r lo 0 2
1w lo 0 2 2s lo 2 2 1x lg 0 2 2t lg 0 2 1x li 0 2 2t li 0 2 1x lj 0 2 2t lj 0 2 1x mg 0 2 2t mg
0 2 1x lo 0 2 2t lo 0 2 1z le 0 2 2v le 0 2 1z li 0 2 2v li 0 2 1z lj 0 2 2v lj 0 2 1z mf 0 2 2v
mf 0 2 20 le 0 2 2w le 2 2 21 lf 0 2 2x lf 0 2 21 lg 0 2 2x lg 0 2 21 li 0 2 2x li 0 2 21 mg 0 2
2x mg 0 2 21 lj 3 2 22 le 0 2 2y le 0 2 23 mf 0 2 2z mf 1 2 24 ld 0 2 30 ld 0 2 24 mf 0 2 30 mf
0 2 24 lo 0 2 30 lo 4 2 26 ld 0 2 32 ld 0 2 26 mf 0 2 32 mf 0 2 26 lo 0 2 32 lo 3 2 27 lg 0 2 33
lg 0 2 27 li 0 2 33 li 0 2 27 ln 0 2 33 ln 2 2 2a ld 0 2 36 ld 0 2 2a mf 0 2 36 mf 0 2 2a lo 0 2
36 lo 0 2 2b ld 0 2 37 ld 0 2 2b le 0 2 37 le 0 2 2b mf 0 2 37 mf 0 2 2b lo 0 2 37 lo 0 2 2c mf
0 2 38 mf 0 2 2c lo 0 2 38 lo 2 2 2d lf 0 2 39 lf 0 2 2d lg 0 2 39 lg 0 2 2d li 0 2 39 li 0 2 2d
lm 0 2 39 lm 0 2 2d ln 0 2 39 ln 0 2 2d mg 0 2 39 mg 0 2 2f le 0 2 3b le 0 2 2h le 0 2 3d le 0 2
2h lk 0 2 2i ld 0 2 3e ld 0 2 2i lj 0 2 3e lj 0 2 2i lo 0 2 3e lo x 2 27 m3 0 2 33 m3 d 2 2d m3
0 2 39 m3 s 2 1t lo 0 2 2p lo 0 2 21 lo 0 2 2x lo 0 2 27 lo 0 2 33 lo 0 2 2d lo 0 2 39 lo 0 3 2d
lk lg 0 3 39 lk lg 0 3 2d lk ld 0 3 39 lk ld 0 3 2d lk lo 0 3 39 lk lo 0 3 2d lk lc 0 3 39 lk lc
1 3 1t lk lg 0 3 2p lk lg 0 3 1t lj lg 0 3 2p lj lg 0 2 5i lg 0 2 6e lg 2 2 1z lo 0 2 2v lo 0 2
23 lo 0 2 2z lo 0 2 27 mg 0 2 33 mg 0 3 27 mg lg 0 3 33 mg lg 0 2 c7 lo 0 2 ia lo 0 2 2y lo 3 2
1z ld 0 2 2v ld 2 2 26 lc 0 2 32 lc 0 3 1t lm ld 0 3 2p lm ld 0 2 5i ld 0 2 6e ld 0 2 60 ld 0 2
6w ld 0 2 1t lr 0 2 2p lr 0 2 1t lt 0 2 2p lt 0 2 1x lr 0 2 2t lr 0 2 1x lt 0 2 2t lt 0 2 21 lr
0 2 2x lr 0 2 21 lt 0 2 2x lt 0 2 27 lr 0 2 33 lr 0 2 27 lt 0 2 33 lt 0 2 2a lr 0 2 36 lr 0 2 2a
lt 0 2 36 lt 0 2 2d lr 0 2 39 lr 0 2 2d lt 0 2 39 lt 0 2 2b me 0 2 37 me 0 2 2c me 0 2 38 me 2 2
20 lo 0 2 2w lo 6 2 1t lj 0 2 2p lj 0 2 1x mf 0 2 2t mf 0 3 27 lk lg 0 3 33 lk lg 0 3 27 lf lg 0
3 33 lf lg 0 2 27 lj 0 2 33 lj 0 3 27 lj lg 0 3 33 lj lg 0 2 2h lg 0 2 3d lg 7g 1 lc 0 1 ld 1 1
lv 0 2 lk ld 1b 1 jd 9 1 1n 6 2 4o ld 0 2 pd ld 0 1 53 0 2 ph ld 0 2 pj ld 0 2 pl ld 1 2 pr ld 1
2 px ld 0 2 q1 ld 0 3 qh lk ld p 2 pl lk 0 2 px lk 0 2 q9 ld 0 2 qd ld 0 2 qf ld 0 2 qh ld 0 3
qt lk ld p 2 qh lk 0 2 qt lk 0 2 qn ld 0 2 qt ld 0 2 qx ld 4 2 r6 ld 0 2 r6 lk 17 2 t1 lc 0 2 t1
lk 1 2 sz ld 3 2 sm lk 4 2 t6 ld 0 2 t4 lc 0 2 tf li a 2 t4 li v 2 u0 li m 2 tx lc 0 2 tx lk 1 2
tv ld 3 2 uu lk 4 2 u2 ld 0 2 u0 lc 0 2 ub li n 2 vo lr 0 2 vp lr 21 2 t2 li 0 2 ty li d 2 sw li
0 2 ts li 0 2 sw lk 0 2 ts lk 2 2 t1 li 0 2 tx li 2 2 yg lk 0 2 yh lk 0 2 t2 lk 0 2 ty lk 0 2 t3
lk 0 2 tz lk 2 2 t4 lg 0 2 u0 lg 0 2 t4 lk 0 2 u0 lk 0 2 ta lk 0 2 u6 lk 2 2 yw lk 0 2 yx lk 0 2
tp lk 0 2 ul lk 0 2 tf lg 0 2 ub lg 0 2 tf lk 0 2 ub lk 0 2 tf ln 0 2 ub ln 0 2 tj lk 0 2 uf lk
2 2 tn lk 0 2 uj lk 88 2 17r 18z 0 2 17r 190 0 2 18o 190 0 2 17r 191 0 2 18q 190 49 2 1cl 190 1
2 1c1 190 g 2 1ci 190 gl 2 1t4 1to 7 2 1tc 1to 2 2 1tf 1to z 2 1sl 1to 0 2 1sm 1to 0 2 1sn 1to 0
2 1ss 1to 0 2 1sx 1to 0 2 1sy 1to 0 2 1t7 1to 0 2 1tb 1to 2z 2 1xj 1xa 0 2 1xj 1xz f 2 1wh 1x8 0
2 1wi 1x8 1 2 1wv 1x8 2b 2 20i 20s 2 2 20o 20s y 2 1zq 20s 0 2 1zr 20s 0 2 1zw 20s 2 2 20b 20s
6h 2 287 28m 2 2 287 27y 0 2 287 28n f 2 275 27w 0 2 276 27w 1i 2 2aa 2c7 1h 2 2bq 2bi 0 2 2br
2bi 0 2 2bq 2c7 3f 2 2fa 2fq 3b 2 2in 2j9 6 2 2iu 2j9 0 2 2iu 2ja 1 2 2iu 2iq 0 3 2iu 2iq 2j9 3i
2 2me 2m6 0 2 2mf 2m6 0 2 2me 2mv 3x 2 2qh 2q2 1 2 2qh 2q7 0 3 2qh 2q7 2q2 0 2 2qh 2qn 9w 2 30i
33r 9 2 30s 33r 4 2 30x 33r 4 2 312 33r 4 2 317 33r c 2 30g 33p 9 2 31t 31u 1 2 31t 31w 0 2 33m
328 1 2 33n 328 8 2 31t 328 h 2 32q 33r 9 2 330 33r 4 2 335 33r 4 2 33a 33r 4 2 33f 33r c 2 32o
33p 30 2 36t 372 25b 2 5c5 5dh 1 2 5c7 5dh 1 2 5c9 5dh 1 2 5cb 5dh 1 2 5cd 5dh 3 2 5ch 5dh 14 2
5dm 5dh 1 2 5do 5dh 2 2 5dq 5dh 0 2 5dr 5dh 1 2 5du 5dh jg 2 1t md 0 2 2p md 0 2 1u lj 0 2 2q lj
0 2 1u mb 0 2 2q mb 0 2 1u mp 0 2 2q mp 0 3 1v mf ld 0 3 2r mf ld 0 2 1w lj 0 2 2s lj 0 2 1w mb
0 2 2s mb 0 2 1w mp 0 2 2s mp 0 2 1w mf 0 2 2s mf 0 2 1w ml 0 2 2s ml 0 3 1x lg lc 0 3 2t lg lc
0 3 1x lg ld 0 3 2t lg ld 0 2 1x ml 0 2 2t ml 0 2 1x mo 0 2 2t mo 0 3 1x mf li 0 3 2t mf li 0 2
1y lj 0 2 2u lj 0 2 1z lg 0 2 2v lg 0 2 20 lj 0 2 2w lj 0 2 20 mb 0 2 2w mb 0 2 20 lk 0 2 2w lk
0 2 20 mf 0 2 2w mf 0 2 20 mm 0 2 2w mm 0 2 21 mo 0 2 2x mo 0 3 21 lk ld 0 3 2x lk ld 0 2 23 ld
0 2 2z ld 0 2 23 mb 0 2 2z mb 0 2 23 mp 0 2 2z mp 0 2 24 mb 0 2 30 mb 0 3 24 mb lg 0 3 30 mb lg
0 2 24 mp 0 2 30 mp 0 2 24 ml 0 2 30 ml 0 2 25 ld 0 2 31 ld 0 2 25 lj 0 2 31 lj 0 2 25 mb 0 2 31
mb 0 2 26 lj 0 2 32 lj 0 2 26 mb 0 2 32 mb 0 2 26 mp 0 2 32 mp 0 2 26 ml 0 2 32 ml 0 3 27 lf ld
0 3 33 lf ld 0 3 27 lf lk 0 3 33 lf lk 0 3 27 lg lc 0 3 33 lg lc 0 3 27 lg ld 0 3 33 lg ld 0 2
28 ld 0 2 34 ld 0 2 28 lj 0 2 34 lj 0 2 2a lj 0 2 36 lj 0 2 2a mb 0 2 36 mb 0 3 2a mb lg 0 3 36
mb lg 0 2 2a mp 0 2 36 mp 0 2 2b lj 0 2 37 lj 0 2 2b mb 0 2 37 mb 0 3 2b ld lj 0 3 37 ld lj 0 3
2b lo lj 0 3 37 lo lj 0 3 2b mb lj 0 3 37 mb lj 0 2 2c lj 0 2 38 lj 0 2 2c mb 0 2 38 mb 0 2 2c
mp 0 2 38 mp 0 2 2c ml 0 2 38 ml 0 2 2d mc 0 2 39 mc 0 2 2d mo 0 2 39 mo 0 2 2d ml 0 2 39 ml 0 3
2d lf ld 0 3 39 lf ld 0 3 2d lg lk 0 3 39 lg lk 0 2 2e lf 0 2 3a lf 0 2 2e mb 0 2 3a mb 0 2 2f
lc 0 2 3b lc 0 2 2f ld 0 2 3b ld 0 2 2f lk 0 2 3b lk 0 2 2f lj 0 2 3b lj 0 2 2f mb 0 2 3b mb 0 2
2g lj 0 2 3c lj 0 2 2g lk 0 2 3c lk 0 2 2h lj 0 2 3d lj 0 2 2i le 0 2 3e le 0 2 2i mb 0 2 3e mb
0 2 2i mp 0 2 3e mp 0 2 2w mp 0 2 38 lk 0 2 3b lm 0 2 3d lm 1 2 an lj 4 2 1t mb 0 2 2p mb 0 2 1t
ll 0 2 2p ll 0 3 1t le ld 0 3 2p le ld 0 3 1t le lc 0 3 2p le lc 0 3 1t le ll 0 3 2p le ll 0 3
1t le lf 0 3 2p le lf 0 3 1t mb le 0 3 2p mb le 0 3 1t li ld 0 3 2p li ld 0 3 1t li lc 0 3 2p li
lc 0 3 1t li ll 0 3 2p li ll 0 3 1t li lf 0 3 2p li lf 0 3 1t mb li 0 3 2p mb li 0 2 1x mb 0 2
2t mb 0 2 1x ll 0 2 2t ll 0 2 1x lf 0 2 2t lf 0 3 1x le ld 0 3 2t le ld 0 3 1x le lc 0 3 2t le
lc 0 3 1x le ll 0 3 2t le ll 0 3 1x le lf 0 3 2t le lf 0 3 1x mb le 0 3 2t mb le 0 2 21 ll 0 2
2x ll 0 2 21 mb 0 2 2x mb 0 2 27 mb 0 2 33 mb 0 2 27 ll 0 2 33 ll 0 3 27 le ld 0 3 33 le ld 0 3
27 le lc 0 3 33 le lc 0 3 27 le ll 0 3 33 le ll 0 3 27 le lf 0 3 33 le lf 0 3 27 mb le 0 3 33 mb
le 0 3 27 m3 ld 0 3 33 m3 ld 0 3 27 m3 lc 0 3 33 m3 lc 0 3 27 m3 ll 0 3 33 m3 ll 0 3 27 m3 lf 0
3 33 m3 lf 0 3 27 m3 mb 0 3 33 m3 mb 0 2 2d mb 0 2 39 mb 0 2 2d ll 0 2 39 ll 0 3 2d m3 ld 0 3 39
m3 ld 0 3 2d m3 lc 0 3 39 m3 lc 0 3 2d m3 ll 0 3 39 m3 ll 0 3 2d m3 lf 0 3 39 m3 lf 0 3 2d m3 mb
0 3 39 m3 mb 0 2 2h lc 0 2 3d lc 0 2 2h mb 0 2 3d mb 0 2 2h ll 0 2 3d ll 0 2 2h lf 0 2 3d lf 6 2
q9 lv 0 2 q9 lw 0 3 q9 lv lc 0 3 q9 lw lc 0 3 q9 lv ld 0 3 q9 lw ld 0 3 q9 lv n6 0 3 q9 lw n6 0
2 pd lv 0 2 pd lw 0 3 pd lv lc 0 3 pd lw lc 0 3 pd lv ld 0 3 pd lw ld 0 3 pd lv n6 0 3 pd lw n6
0 2 qd lv 0 2 qd lw 0 3 qd lv lc 0 3 qd lw lc 0 3 qd lv ld 0 3 qd lw ld 2 2 ph lv 0 2 ph lw 0 3
ph lv lc 0 3 ph lw lc 0 3 ph lv ld 0 3 ph lw ld 2 2 qf lv 0 2 qf lw 0 3 qf lv lc 0 3 qf lw lc 0
3 qf lv ld 0 3 qf lw ld 0 3 qf lv n6 0 3 qf lw n6 0 2 pj lv 0 2 pj lw 0 3 pj lv lc 0 3 pj lw lc
0 3 pj lv ld 0 3 pj lw ld 0 3 pj lv n6 0 3 pj lw n6 0 2 qh lv 0 2 qh lw 0 3 qh lv lc 0 3 qh lw
lc 0 3 qh lv ld 0 3 qh lw ld 0 3 qh lv n6 0 3 qh lw n6 0 2 pl lv 0 2 pl lw 0 3 pl lv lc 0 3 pl
lw lc 0 3 pl lv ld 0 3 pl lw ld 0 3 pl lv n6 0 3 pl lw n6 0 2 qn lv 0 2 qn lw 0 3 qn lv lc 0 3
qn lw lc 0 3 qn lv ld 0 3 qn lw ld 2 2 pr lv 0 2 pr lw 0 3 pr lv lc 0 3 pr lw lc 0 3 pr lv ld 0
3 pr lw ld 2 2 qt lv 0 2 qt lw 0 3 qt lv lc 0 3 qt lw lc 0 3 qt lv ld 0 3 qt lw ld 0 3 qt lv n6
0 3 qt lw n6 1 2 px lw 1 3 px lw lc 1 3 px lw ld 1 3 px lw n6 0 2 qx lv 0 2 qx lw 0 3 qx lv lc 0
3 qx lw lc 0 3 qx lv ld 0 3 qx lw ld 0 3 qx lv n6 0 3 qx lw n6 0 2 q1 lv 0 2 q1 lw 0 3 q1 lv lc
0 3 q1 lw lc 0 3 q1 lv ld 0 3 q1 lw ld 0 3 q1 lv n6 0 3 q1 lw n6 0 2 q9 lc 0 2 q9 ld 0 2 qd lc 0
2 qd ld 0 2 qf lc 0 2 qf ld 0 2 qh lc 0 2 qh ld 0 2 qn lc 0 2 qn ld 0 2 qt lc 0 2 qt ld 0 2 qx
lc 0 2 qx ld 2 3 q9 lv n9 0 3 q9 lw n9 0 4 q9 lv lc n9 0 4 q9 lw lc n9 0 4 q9 lv ld n9 0 4 q9 lw
ld n9 0 4 q9 lv n6 n9 0 4 q9 lw n6 n9 0 3 pd lv n9 0 3 pd lw n9 0 4 pd lv lc n9 0 4 pd lw lc n9
0 4 pd lv ld n9 0 4 pd lw ld n9 0 4 pd lv n6 n9 0 4 pd lw n6 n9 0 3 qf lv n9 0 3 qf lw n9 0 4 qf
lv lc n9 0 4 qf lw lc n9 0 4 qf lv ld n9 0 4 qf lw ld n9 0 4 qf lv n6 n9 0 4 qf lw n6 n9 0 3 pj
lv n9 0 3 pj lw n9 0 4 pj lv lc n9 0 4 pj lw lc n9 0 4 pj lv ld n9 0 4 pj lw ld n9 0 4 pj lv n6
n9 0 4 pj lw n6 n9 0 3 qx lv n9 0 3 qx lw n9 0 4 qx lv lc n9 0 4 qx lw lc n9 0 4 qx lv ld n9 0 4
qx lw ld n9 0 4 qx lv n6 n9 0 4 qx lw n6 n9 0 3 q1 lv n9 0 3 q1 lw n9 0 4 q1 lv lc n9 0 4 q1 lw
lc n9 0 4 q1 lv ld n9 0 4 q1 lw ld n9 0 4 q1 lv n6 n9 0 4 q1 lw n6 n9 0 2 q9 li 0 2 q9 lg 0 3 q9
lc n9 0 2 q9 n9 0 3 q9 ld n9 1 2 q9 n6 0 3 q9 n6 n9 0 2 pd li 0 2 pd lg 0 2 pd lc 0 2 pd ld 0 2
pd n9 1 1 qh 2 2 4o n6 0 3 qf lc n9 0 2 qf n9 0 3 qf ld n9 1 2 qf n6 0 3 qf n6 n9 0 2 ph lc 0 2
ph ld 0 2 pj lc 0 2 pj ld 0 2 pj n9 0 2 69r lc 0 2 69r ld 0 2 69r n6 0 2 qh li 0 2 qh lg 0 3 qh
lk lc 0 3 qh lk ld 2 2 qh n6 0 3 qh lk n6 0 2 pl li 0 2 pl lg 0 2 pl lc 0 2 pl ld 1 2 6bi lc 0 2
6bi ld 0 2 6bi n6 0 2 qt li 0 2 qt lg 0 3 qt lk lc 0 3 qt lk ld 0 2 qp lv 0 2 qp lw 0 2 qt n6 0
3 qt lk n6 0 2 px li 0 2 px lg 0 2 px lc 0 2 px ld 0 2 pt lw 0 2 4o lc 0 2 4o ld 0 1 2o 2 3 qx
lc n9 0 2 qx n9 0 3 qx ld n9 1 2 qx n6 0 3 qx n6 n9 0 2 pr lc 0 2 pr ld 0 2 q1 lc 0 2 q1 ld 0 2
q1 n9 0 1 50 2 1 6bm 0 1 6bn 84 1 q1 3 1 23 0 2 1t lm 32 2 6mo mw 0 2 6mq mw i 2 6ms mw u 2 6og
mw 0 2 6ok mw 0 2 6oi mw 1g 2 6pv mw 4 2 6q0 mw 2 2 6q3 mw n 2 6qr mw 1 2 6qt mw q 2 6rg mw 2 2
6rn mw 2 2 6rp mw 1 2 6rs mw m 2 1p mw 1 2 6sh mw a 2 6rx mw 0 2 1o mw 0 2 1q mw 0 2 6sk mw 0 2
6sl mw 2 2 6sy mw 0 2 6sz mw 2 2 6t2 mw 0 2 6t3 mw 6 2 6t6 mw 0 2 6t7 mw 2 2 6te mw 0 2 6tf mw 2
2 6ti mw 0 2 6tj mw y 2 6ua mw 0 2 6ug mw 0 2 6uh mw 0 2 6uj mw 1c 2 6t8 mw 0 2 6t9 mw 0 2 6tt
mw 0 2 6tu mw 6 2 6uq mw 0 2 6ur mw 0 2 6us mw 0 2 6ut mw 1n 1 9hk 0 1 9hl 1ip 2 8gt mw 12n 2
9jf 9ll 1 2 9jh 9ll 1 2 9jj 9ll 1 2 9jl 9ll 1 2 9jn 9ll 1 2 9jp 9ll 1 2 9jr 9ll 1 2 9jt 9ll 1 2
9jv 9ll 1 2 9jx 9ll 1 2 9jz 9ll 1 2 9k1 9ll 2 2 9k4 9ll 1 2 9k6 9ll 1 2 9k8 9ll 6 2 9kf 9ll 0 2
9kf 9lm 1 2 9ki 9ll 0 2 9ki 9lm 1 2 9kl 9ll 0 2 9kl 9lm 1 2 9ko 9ll 0 2 9ko 9lm 1 2 9kr 9ll 0 2
9kr 9lm m 2 9ja 9ll 9 2 9lp 9ll d 2 9m3 9ll 1 2 9m5 9ll 1 2 9m7 9ll 1 2 9m9 9ll 1 2 9mb 9ll 1 2
9md 9ll 1 2 9mf 9ll 1 2 9mh 9ll 1 2 9mj 9ll 1 2 9ml 9ll 1 2 9mn 9ll 1 2 9mp 9ll 2 2 9ms 9ll 1 2
9mu 9ll 1 2 9mw 9ll 6 2 9n3 9ll 0 2 9n3 9lm 1 2 9n6 9ll 0 2 9n6 9lm 1 2 9n9 9ll 0 2 9n9 9lm 1 2
9nc 9ll 0 2 9nc 9lm 1 2 9nf 9ll 0 2 9nf 9lm m 2 9ly 9ll 2 2 9nz 9ll 0 2 9o0 9ll 0 2 9o1 9ll 0 2
9o2 9ll 3 2 9od 9ll 13i9 1 rpk 0 1 kc4 0 1 s7e 0 1 rt4 0 1 lw1 0 1 fg2 0 1 gkl 0 1 vj0 0 1 vj0 0
1 hn5 0 1 ssx 0 1 gw7 0 1 hmw 0 1 jcm 0 1 ne1 0 1 p6t 0 1 qin 0 1 qt6 0 1 r20 0 1 sjz 0 1 kxu 0
1 ljv 0 1 mah 0 1 mvy 0 1 q4d 0 1 sq2 0 1 uep 0 1 fia 0 1 ghh 0 1 l50 0 1 mjf 0 1 qi5 0 1 v8e 0
1 ifk 0 1 m3v 0 1 qfh 0 1 r50 0 1 jih 0 1 pnc 0 1 qvz 0 1 iq2 0 1 kd3 0 1 lm2 0 1 mpo 0 1 slq 0
1 fpi 0 1 g53 0 1 gda 0 1 jwk 0 1 l3n 0 1 mj4 0 1 nhj 0 1 pa9 0 1 qh2 0 1 qjg 0 1 s1b 0 1 tv6 0
1 upb 0 1 v7e 0 1 nt8 0 1 nzz 0 1 otc 0 1 q15 0 1 t1g 0 1 vb3 0 1 rfa 0 1 hjz 0 1 iro 0 1 okg 0
1 pdq 0 1 mle 0 1 nuy 0 1 rsy 0 1 ttj 0 1 hjs 0 1 i8y 0 1 kyb 0 1 lp6 0 1 lxr 0 1 oq7 0 1 oxj 0
1 tor 0 1 gcy 0 1 pe3 0 1 g64 0 1 g5o 0 1 o4c 0 1 ou6 0 1 q29 0 1 tpx 0 1 rk0 0 1 jin 0 1 kxu 0
1 rge 0 1 fg9 0 1 i5j 0 1 iz6 0 1 mtj 0 1 n74 0 1 gev 0 1 nwb 0 1 fr3 0 1 iw9 0 1 ff1 0 1 lho 0
1 k1k 0 1 opu 0 1 gjn 0 1 hge 0 1 ni9 0 1 q4p 0 1 re2 0 1 la2 0 1 sds 0 1 lfs 0 1 jjy 0 1 put 0
1 jog 0 1 n6t 0 1 fji 0 1 g2x 0 1 g5l 0 1 kn5 0 1 oo7 0 1 prj 0 1 rf6 0 1 ssv 0 1 gdx 0 1 gn6 0
1 ho3 0 1 ir0 0 1 k3p 0 1 m4e 0 1 nxm 0 1 tkd 0 1 ui2 0 1 vbr 0 1 vda 0 1 gbf 0 1 kau 0 1 l87 0
1 sbm 0 1 ino 0 1 j9s 0 1 jcw 0 1 jve 0 1 lyb 0 1 mdl 0 1 n0p 0 1 o22 0 1 ovo 0 1 pdb 0 1 s9y 0
1 q9a 0 1 sgz 0 1 t3e 0 1 g7r 0 1 gbn 0 1 gql 0 1 ma0 0 1 r0i 0 1 re2 0 1 iq1 0 1 iyd 0 1 jnf 0
1 l9q 0 1 oji 0 1 mt1 0 1 fl0 0 1 h6h 0 1 i5j 0 1 iii 0 1 izg 0 1 muq 0 1 mzt 0 1 p7e 0 1 pc6 0
1 svo 0 1 tti 0 1 tvs 0 1 u1k 0 1 fpn 0 1 o1a 0 1 ss4 0 1 trs 0 1 j4x 0 1 fie 0 1 fyy 0 1 i5q 0
1 i7z 0 1 k2h 0 1 kxu 0 1 mha 0 1 ncy 0 1 q9o 0 1 sjg 0 1 vil 0 1 k94 0 1 tny 0 1 gax 0 1 kfv 0
1 kj7 0 1 lkx 0 1 luk 0 1 mx5 0 1 n6h 0 1 nsb 0 1 opc 0 1 u3i 0 1 g31 0 1 je6 0 1 tq0 0 1 fu3 0
1 ie1 0 1 lpm 0 1 sa2 0 1 ivf 0 1 j7o 0 1 kk7 0 1 mtj 0 1 tqe 0 1 g89 0 1 glr 0 1 i91 0 1 k5v 0
1 kem 0 1 ko8 0 1 lid 0 1 mx2 0 1 naa 0 1 p6h 0 1 r0v 0 1 r1d 0 1 sss 0 1 tsy 0 1 gfz 0 1 lve 0
1 gm5 0 1 mhc 0 1 n14 0 1 qgq 0 1 tr7 0 1 uvr 0 1 vbz 0 1 kgn 0 1 lor 0 1 pns 0 1 o97 0 1 obk 0
1 olu 0 1 mo0 0 1 m8p 0 1 riw 0 1 fk0 0 1 px2 0 1 g8q 0 1 g7b 0 1 ip2 0 1 jir 0 1 onq 0 1 i2t 0
1 ljy 0 1 kac 0 1 saj 0 1 qx8 0 1 tot 0 1 r63 0 1 iqb 0 1 g1s 0 1 gxs 2 1 hga 1 1 k8k 2 1 g66 0
1 mqy 0 1 ngq 0 1 ny4 0 1 nz2 0 1 nz9 0 1 o0f 0 1 tw6 0 1 on2 0 1 p8d 1 1 qhe 1 1 rg8 2 1 shk 0
1 sn1 3 1 u7j 0 1 u7w 0 1 u94 0 1 v5g 0 1 sm6 0 1 trr 0 1 fqm 0 1 fzb 0 1 g25 0 1 gcp 0 1 gdg 0
1 ggh 0 1 gwt 0 1 gzq 0 1 h2g 0 1 hfk 0 1 hig 0 1 i90 0 1 i9a 0 1 j2s 0 1 j8o 0 1 j9q 0 1 jci 0
1 k0f 0 1 k4i 0 1 k9d 0 1 kn9 0 1 lmf 0 1 lqy 0 1 lya 0 1 mem 0 1 mjv 0 1 mxu 0 1 ntd 0 1 ny6 0
1 nyh 0 1 nyg 0 1 nyo 0 1 nyu 0 1 nz1 0 1 o0d 0 1 o0e 0 1 o5c 0 1 o75 0 1 og0 0 1 ovo 0 1 ow9 0
1 oxt 0 1 p6a 0 1 pad 0 1 pnx 0 1 prt 0 1 prt 0 1 q53 0 1 r2o 0 1 r6e 0 1 rgh 0 1 ri1 0 1 rtf 0
1 ruw 0 1 sdy 0 1 shk 0 1 tsz 0 1 u0v 0 1 u2j 0 1 j1x 0 1 36cu 0 1 pp4 2 1 ffq 0 1 g51 0 1 g2w 0
1 fpc 0 1 g1x 0 1 g3k 0 1 gcn 0 1 ge2 0 1 gwt 0 1 gut 0 1 gwp 0 1 gyq 0 1 hga 0 1 hir 0 1 hms 0
1 hn8 0 1 huq 0 1 i08 0 1 iqa 0 1 iqh 0 1 iuh 0 1 iwd 0 1 j4o 0 1 j7y 0 1 j60 0 1 j9q 0 1 j8g 0
1 jci 0 1 jec 0 1 jpg 0 1 jrw 0 1 jte 0 1 k0m 0 1 k8k 0 1 kd3 0 1 kd7 0 1 keu 0 1 l89 0 1 la2 0
1 lkx 0 1 lwb 0 1 lvv 0 1 lya 0 1 m5a 0 1 mem 0 1 nmv 0 1 mk5 0 1 mnj 0 1 mqy 0 1 n01 0 1 n46 0
1 n5n 0 1 nbx 0 1 nbz 0 1 ngq 0 1 nh7 0 1 nhw 0 1 nka 0 1 nk0 0 1 nv0 0 1 o8h 0 1 og0 0 1 ol7 0
1 orf 0 1 ovo 0 1 p4u 0 1 pad 0 1 pxu 0 1 q27 0 1 qrd 0 1 r41 0 1 r5y 0 1 r6e 0 1 ren 0 1 rg8 0
1 rez 0 1 rgh 0 1 rge 0 1 rfx 0 1 ri1 0 1 rka 0 1 ruw 0 1 sag 0 1 sj6 0 1 srd 0 1 sxi 0 1 tq4 0
1 tsz 0 1 tw6 0 1 tzv 0 1 u0v 0 1 u17 0 1 u2j 0 1 umq 0 1 vj0 0 1 313e 0 1 3138 0 1 33dh 0 1 brx
0 1 cns 0 1 cop 0 1 39e1 0 1 3bgw 0 1 3i6r 0 1 vgj 0 1 vim 1v 2 15l 14k 1 2 16a 14n a 2 161 14x
0 2 161 14y 0 3 161 14s 14x 0 3 161 14s 14y 0 2 15c 14n 0 2 15c 14o 0 2 15c 14s 0 2 15d 14s 0 2
15e 14s 0 2 15f 14s 0 2 15g 14s 0 2 15h 14s 0 2 15i 14s 1 2 15k 14s 0 2 15l 14s 0 2 15m 14s 0 2
15n 14s 0 2 15o 14s 1 2 15q 14s 1 2 15s 14s 0 2 15t 14s 1 2 15v 14s 0 2 15w 14s 1 2 15y 14s 0 2
15z 14s 0 2 160 14s 0 2 161 14s 0 2 162 14s 0 2 15h 14p 0 2 15d 14v 0 2 15n 14v 0 2 15w 14v 22i
2 1fpu lj q 2 1fq2 lj 245 2 1huh 1hve 1 2 1huj 1hve e 2 1hut 1hve 3m 2 1hyp 1hyf 0 2 1hyq 1hyf
ez 2 1idj 1ida 0 2 1idj 1idz 1i 2 1if6 1ih5 1 2 1if8 1igr 8 2 1iff 1igy 2 2 1ifk 1ih5 1f 2 1igy
1igy 1 2 1igy 1igo 0 2 1igy 1ih5 6q 2 1int 1inu 0 2 1int 1ink 1 2 1int 1inx 6z 2 1iuw 1iun 0 2
1iux 1iun os 2 1jjp 1jjk e7c 2 1xr2 1xr2 0 2 1xr2 1xrd 0 2 1xr2 1xr3 0 2 1xrd 1xr3 0 2 1xr2 1xr4
0 3 1xr2 1xr2 1xr3 0 3 1xr2 1xrd 1xr3 0 3 1xr2 1xr2 1xr4 2f3 2 206f 206f 0 2 206b 206f 0 3 206b
206f 206f jqr 2 2jx3 2jxh 0 2 2jx4 2jxh 0 3 2jx4 2jxh 2jxq 0 3 2jx4 2jxh 2jxr 0 3 2jx4 2jxh 2jxs
0 3 2jx4 2jxh 2jxt 0 3 2jx4 2jxh 2jxu 2e 2 2jzt 2jxh 0 2 2jzu 2jxh 0 3 2jzt 2jxh 2jxq 0 3 2jzu
2jxh 2jxq 0 3 2jzt 2jxh 2jxr 0 3 2jzu 2jxh 2jxr 1m4f 1 fgd 0 1 fg8 0 1 fgh 0 1 2tcy 0 1 fog 0 1
fqm 0 1 fqz 0 1 fsy 0 1 fwa 0 1 fx5 0 1 fzb 0 1 fyn 0 1 ae6 0 1 2ud6 0 1 g25 0 1 g2c 0 1 g2s 0 1
g3b 0 1 2u58 0 1 aex 0 1 g2v 0 1 g3x 0 1 2u6j 0 1 g47 0 1 g4k 0 1 fkc 0 1 g4s 0 1 g51 0 1 3ly7 0
1 g6t 0 1 g77 0 1 afz 0 1 g8r 0 1 g92 0 1 gaa 0 1 gaf 0 1 ahh 0 1 gcn 0 1 gcp 0 1 gdg 0 1 ge2 0
1 ged 0 1 gee 0 1 gev 0 1 gg9 0 1 ggh 0 1 ggq 0 1 ghf 0 1 ghp 0 1 ghr 0 1 ghr 0 1 ghr 0 1 2v58 0
1 m7k 0 1 gju 0 1 gkf 0 1 2vdv 0 1 gkr 0 1 gkx 0 1 gli 0 1 gpq 0 1 gmw 0 1 gnc 0 1 go8 0 1 gpu 0
1 gs6 0 1 gsw 0 1 gur 0 1 gv7 0 1 gw4 0 1 gw4 0 1 gwp 0 1 gx7 0 1 gxf 0 1 gxu 0 1 h7a 0 1 gzq 0
1 h7b 0 1 h1t 0 1 h2s 0 1 g7b 0 1 hke 0 1 hce 0 1 hdg 0 1 he5 0 1 haj 0 1 hf6 0 1 hf5 0 1 hik 0
1 2x9g 0 1 hki 0 1 hkn 0 1 hl2 0 1 hlm 0 1 hlu 0 1 hnm 0 1 2xm0 0 1 2xnu 0 1 hrg 0 1 hsr 0 1 ht3
0 1 hqw 0 1 huu 0 1 aum 0 1 av0 0 1 hzc 0 1 i0u 0 1 i0u 0 1 2y88 0 1 i4j 0 1 i54 0 1 i5j 0 1 i5v
0 1 2yhk 0 1 i67 0 1 i6e 0 1 itv 0 1 i76 0 1 ayp 0 1 i8w 0 1 i9a 0 1 ibk 0 1 ia5 0 1 2z1g 0 1
if7 0 1 2z1i 0 1 ige 0 1 igb 0 1 igs 0 1 ijl 0 1 ijm 0 1 b3j 0 1 ikd 0 1 ilk 0 1 im5 0 1 ind 0 1
b4y 0 1 2zr7 0 1 b5o 0 1 ipc 0 1 ipf 0 1 ipi 0 1 iq2 0 1 3pg2 0 1 iri 0 1 3035 0 1 3035 0 1 poh
0 1 isi 0 1 isi 0 1 b7r 0 1 335k 0 1 3cgq 0 1 iua 0 1 iuj 0 1 b8j 0 1 ivu 0 1 ix9 0 1 ixj 0 1
iyh 0 1 j29 0 1 bay 0 1 ba4 0 1 j2s 0 1 30t0 0 1 j47 0 1 j7s 0 1 j7w 0 1 j7y 0 1 j7w 0 1 j96 0 1
j9q 0 1 jaq 0 1 jac 0 1 jan 0 1 jby 0 1 jci 0 1 jcm 0 1 jdc 0 1 jdn 0 1 jfh 0 1 jht 0 1 jis 0 1
jm8 0 1 31n0 0 1 jlp 0 1 jjw 0 1 jmw 0 1 jnn 0 1 jqc 0 1 31td 0 1 js2 0 1 jph 0 1 jop 0 1 bhq 0
1 ju1 0 1 jum 0 1 jvh 0 1 juf 0 1 bjg 0 1 k0f 0 1 k18 0 1 32mi 0 1 k4j 0 1 kc8 0 1 k7d 0 1 bo9 0
1 k9d 0 1 bns 0 1 bms 0 1 g42 0 1 g45 0 1 kcg 0 1 k9o 0 1 pf1 0 1 deh 0 1 kd3 0 1 kd7 0 1 kdd 0
1 kf2 0 1 ker 0 1 33cz 0 1 bpl 0 1 kje 0 1 kg5 0 1 klu 0 1 kn9 0 1 33hp 0 1 kni 0 1 kkf 0 1 kr8
0 1 brx 0 1 ksi 0 1 kv7 0 1 kx6 0 1 l2g 0 1 33xf 0 1 l3v 0 1 bvc 0 1 l5t 0 1 34br 0 1 l78 0 1
bwu 0 1 l82 0 1 l9b 0 1 la2 0 1 la3 0 1 34p9 0 1 2yvf 0 1 34sa 0 1 le6 0 1 354s 0 1 lhb 0 1 lhp
0 1 lev 0 1 ljq 0 1 lku 0 1 lmf 0 1 lkx 0 1 lm1 0 1 lmg 0 1 lmt 0 1 357i 0 1 lkk 0 1 lrj 0 1 lta
0 1 c37 0 1 lvv 0 1 lvr 0 1 35jl 0 1 lq1 0 1 m0e 0 1 35ni 0 1 35ou 0 1 m2u 0 1 m61 0 1 m5a 0 1
m57 0 1 c5y 0 1 m6i 0 1 m7x 0 1 m7r 0 1 m99 0 1 2u5h 0 1 mdh 0 1 368z 0 1 mfw 0 1 36i3 0 1 mjs 0
1 mk5 0 1 mkw 0 1 36yw 0 1 mm8 0 1 mmt 0 1 3779 0 1 37dg 0 1 mt6 0 1 mtn 0 1 cdo 0 1 mud 0 1 ce0
0 1 ce0 0 1 myv 0 1 mzg 0 1 n01 0 1 n0l 0 1 n2i 0 1 cgr 0 1 n50 0 1 386u 0 1 n5q 0 1 389e 0 1
n74 0 1 2zrz 0 1 nbk 0 1 38v5 0 1 38vs 0 1 38zo 0 1 cn0 0 1 cnc 0 1 nhw 0 1 394j 0 1 394i 0 1
395l 0 1 396b 0 1 nj2 0 1 nj3 0 1 nj3 0 1 nka 0 1 cop 0 1 nm3 0 1 cp2 0 1 cra 0 1 39r1 0 1 nri 0
1 nt8 0 1 nv0 0 1 ctf 0 1 3a5i 0 1 nyu 0 1 3a8q 0 1 3a9x 0 1 o0f 0 1 o2z 0 1 cvj 0 1 o5c 0 1 o5m
0 1 o5r 0 1 3at8 0 1 3b1j 0 1 3b1j 0 1 oa6 0 1 d1e 0 1 3b8r 0 1 og6 0 1 og9 0 1 d2f 0 1 3beo 0 1
onm 0 1 d5s 0 1 oo8 0 1 oo3 0 1 oow 0 1 3c06 0 1 orn 0 1 d8h 0 1 ouf 0 1 ow2 0 1 oxx 0 1 d9w 0 1
3ciw 0 1 3cjr 0 1 dax 0 1 3cnt 0 1 p6i 0 1 3cqm 0 1 p79 0 1 pa2 0 1 pad 0 1 3d22 0 1 3d43 0 1
pcw 0 1 3d7s 0 1 pdc 0 1 33a7 0 1 ded 0 1 pf6 0 1 phf 0 1 dfv 0 1 pj2 0 1 hx1 0 1 3dlz 0 1 3dmd
0 1 33bn 0 1 33bw 0 1 poh 0 1 pok 0 1 sda 0 1 dij 0 1 psh 0 1 psb 0 1 pst 0 1 gc3 0 1 ptd 0 1
ptf 0 1 ptp 0 1 puu 0 1 3ebg 0 1 put 0 1 pwd 0 1 pyb 0 1 q0d 0 1 pwj 0 1 q0t 0 1 q1z 0 1 q53 0 1
pxv 0 1 q16 0 1 q18 0 1 q1o 0 1 3eie 0 1 3eqz 0 1 3emt 0 1 dnv 0 1 q9d 0 1 q9f 0 1 qae 0 1 3g0a
0 1 qck 0 1 3f3g 0 1 dp9 0 1 dpd 0 1 3f75 0 1 3ff6 0 1 dpn 0 1 qj4 0 1 qjg 0 1 qjr 0 1 qjt 0 1
qll 0 1 qko 0 1 qoe 0 1 qn6 0 1 qrd 0 1 qp4 0 1 qqz 0 1 qrq 0 1 dsn 0 1 qu9 0 1 qv5 0 1 dtl 0 1
qxs 0 1 qxv 0 1 3giv 0 1 r13 0 1 r1a 0 1 dv9 0 1 r22 0 1 aez 0 1 3gz2 0 1 3h46 0 1 dz2 0 1 dzb 0
1 rds 0 1 rfx 0 1 rka 0 1 rpx 0 1 3hrc 0 1 rsb 0 1 rsx 0 1 rvf 0 1 rxz 0 1 3i9b 0 1 2upw 0 1 s0b
0 1 rzw 0 1 s1c 0 1 2uvy 0 1 s7o 0 1 sag 0 1 3jki 0 1 3jl9 0 1 sk4 0 1 smp 0 1 snl 0 1 3ju6 0 1
snv 0 1 svs 0 1 t07 0 1 t08 0 1 sxo 0 1 t89 0 1 t91 0 1 3ksa 0 1 tjf 0 1 ej9 0 1 tkn 0 1 3l2v 0
1 eli 0 1 ts3 0 1 iia 0 1 tur 0 1 3ltx 0 1 3lzu 0 1 epa 0 1 epi 0 1 u00 0 1 3mdm 0 1 er6 0 1
3mhi 0 1 u17 0 1 u17 0 1 u21 0 1 3mpi 0 1 u76 0 1 eur 0 1 u95 0 1 ucn 0 1 ude 0 1 uf2 0 1 ez2 0
1 3nsg 0 1 umq 0 1 uv4 0 1 v0d 0 1 f66 0 1 f71 0 1 v3b 0 1 3owe 0 1 f7c 0 1 3oxx 0 1 3p5a 0 1
3p8x 0 1 vcr 0 1 f9y 0 1 veh 0 1 vem 0 1 vet 0 1 vf3 0 1 vfa 0 1 vgb 0 1 3pxc"

def decompositions : Array Decomposition :=
  decompositionsOf decompositionStream

/-- For each pair the gap from the first character of the pair before, the second character and
the composed one. -/
def pairStream : String :=
  "1o mw 6su 1 mw 6sg 1 mw 6sv 3 lc 5c 0 ld 5d 0 le 5e 0 lf 5f 0 lg 74 0 li 76 0 lj fa 0 lk 5g 0 ll
61u 0 lm 5h 0 lo ct 0 lr e8 0 lt ea 0 mb 61s 0 md 5xc 0 mg 78 1 lj 5xe 0 mb 5xg 0 mp 5xi 1 ld 7a
0 le 7c 0 lj 7e 0 lo 7g 0 mf 5j 1 lj 5xm 0 lo 7i 0 mb 5xo 0 mf 5xs 0 ml 5xu 0 mp 5xq 1 lc 5k 0
ld 5l 0 le 5m 0 lf 62k 0 lg 7m 0 li 7o 0 lj 7q 0 lk 5n 0 ll 62i 0 lo 7u 0 lr ec 0 lt ee 0 mb 62g
0 mf fc 0 mg 7s 0 ml 5y0 0 mo 5y2 1 lj 5y6 1 ld dw 0 le 7w 0 lg 5y8 0 li 7y 0 lj 80 0 lo di 0 mf
82 1 le 84 0 lj 5ya 0 lk 5ye 0 lo f2 0 mb 5yc 0 mf 5yg 0 mm 5yi 1 lc 5o 0 ld 5p 0 le 5q 0 lf 88
0 lg 8a 0 li 8c 0 lj 8g 0 lk 5r 0 ll 62w 0 lo cv 0 lr eg 0 lt ei 0 mb 62y 0 mg 8e 0 mo 5yk 1 le
8k 1 ld 5yo 0 lo dk 0 mb 5yq 0 mf 8m 0 mp 5ys 1 ld 8p 0 lo 8t 0 mb 5yu 0 mf 8r 0 ml 5z0 0 mp 5yy
1 ld 5z2 0 lj 5z4 0 mb 5z6 1 lc e0 0 ld 8z 0 lf 5t 0 lj 5z8 0 lo 93 0 mb 5za 0 mf 91 0 ml 5ze 0
mp 5zc 1 lc 5u 0 ld 5v 0 le 5w 0 lf 5x 0 lg 98 0 li 9a 0 lj fi 0 lk 5y 0 ll 632 0 ln 9c 0 lo cx
0 lr ek 0 lt em 0 m3 bk 0 mb 630 0 mg dm 1 ld 5zo 0 lj 5zq 2 ld 9g 0 lj 5zs 0 lo 9k 0 lr eo 0 lt
eq 0 mb 5zu 0 mf 9i 0 mp 5zy 1 ld 9m 0 le 9o 0 lj 600 0 lo 9s 0 mb 602 0 me ew 0 mf 9q 1 lj 60a
0 lo 9w 0 mb 60c 0 me ey 0 mf 9u 0 ml 60g 0 mp 60e 1 lc 61 0 ld 62 0 le 63 0 lf a0 0 lg a2 0 li
a4 0 lk 64 0 ll 63q 0 lm a6 0 ln a8 0 lo cz 0 lr es 0 lt eu 0 m3 bz 0 mb 63o 0 mc 60i 0 mg aa 0
ml 60m 0 mo 60k 1 lf 60s 0 mb 60u 1 lc 60w 0 ld 60y 0 le ac 0 lj 612 0 lk 610 0 mb 614 1 lj 616
0 lk 618 1 lc 642 0 ld 65 0 le ae 0 lf 648 0 lg fm 0 lj 61a 0 lk ag 0 ll 646 0 mb 644 1 ld ah 0
le 61c 0 lj aj 0 lo al 0 mb 61e 0 mp 61g 7 lc 68 0 ld 69 0 le 6a 0 lf 6b 0 lg 75 0 li 77 0 lj fb
0 lk 6c 0 ll 61v 0 lm 6d 0 lo cu 0 lr e9 0 lt eb 0 mb 61t 0 md 5xd 0 mg 79 1 lj 5xf 0 mb 5xh 0
mp 5xj 1 ld 7b 0 le 7d 0 lj 7f 0 lo 7h 0 mf 6f 1 lj 5xn 0 lo 7j 0 mb 5xp 0 mf 5xt 0 ml 5xv 0 mp
5xr 1 lc 6g 0 ld 6h 0 le 6i 0 lf 62l 0 lg 7n 0 li 7p 0 lj 7r 0 lk 6j 0 ll 62j 0 lo 7v 0 lr ed 0
lt ef 0 mb 62h 0 mf fd 0 mg 7t 0 ml 5y1 0 mo 5y3 1 lj 5y7 1 ld dx 0 le 7x 0 lg 5y9 0 li 7z 0 lj
81 0 lo dj 0 mf 83 1 le 85 0 lj 5yb 0 lk 5yf 0 lo f3 0 mb 5yd 0 mf 5yh 0 mm 5yj 0 mp 61i 1 lc 6k
0 ld 6l 0 le 6m 0 lf 89 0 lg 8b 0 li 8d 0 lk 6n 0 ll 62x 0 lo cw 0 lr eh 0 lt ej 0 mb 62z 0 mg
8f 0 mo 5yl 1 le 8l 0 lo ds 1 ld 5yp 0 lo dl 0 mb 5yr 0 mf 8n 0 mp 5yt 1 ld 8q 0 lo 8u 0 mb 5yv
0 mf 8s 0 ml 5z1 0 mp 5yz 1 ld 5z3 0 lj 5z5 0 mb 5z7 1 lc e1 0 ld 90 0 lf 6p 0 lj 5z9 0 lo 94 0
mb 5zb 0 mf 92 0 ml 5zf 0 mp 5zd 1 lc 6q 0 ld 6r 0 le 6s 0 lf 6t 0 lg 99 0 li 9b 0 lj fj 0 lk 6u
0 ll 633 0 ln 9d 0 lo cy 0 lr el 0 lt en 0 m3 bl 0 mb 631 0 mg dn 1 ld 5zp 0 lj 5zr 2 ld 9h 0 lj
5zt 0 lo 9l 0 lr ep 0 lt er 0 mb 5zv 0 mf 9j 0 mp 5zz 1 ld 9n 0 le 9p 0 lj 601 0 lo 9t 0 mb 603
0 me ex 0 mf 9r 1 lj 60b 0 lk 61j 0 lo 9x 0 mb 60d 0 me ez 0 mf 9v 0 ml 60h 0 mp 60f 1 lc 6x 0
ld 6y 0 le 6z 0 lf a1 0 lg a3 0 li a5 0 lk 70 0 ll 63r 0 lm a7 0 ln a9 0 lo d0 0 lr et 0 lt ev 0
m3 c0 0 mb 63p 0 mc 60j 0 mg ab 0 ml 60n 0 mo 60l 1 lf 60t 0 mb 60v 1 lc 60x 0 ld 60z 0 le ad 0
lj 613 0 lk 611 0 lm 61k 0 mb 615 1 lj 617 0 lk 619 1 lc 643 0 ld 71 0 le af 0 lf 649 0 lg fn 0
lj 61b 0 lk 73 0 ll 647 0 lm 61l 0 mb 645 1 ld ai 0 le 61d 0 lj ak 0 lo am 0 mb 61f 0 mp 61h 1a
lc 6b1 0 ld p1 0 n6 69t q lc 61y 0 ld 61w 0 lf 622 0 ll 620 2 lg da 1 ld e2 1 ld e4 0 lg de 1 ld
5xk 3 lc 62o 0 ld 62m 0 lf 62s 0 ll 62q 5 ld 5ym 5 lc 636 0 ld 634 0 lf 63a 0 ll 638 1 ld 5zg 0
lg fg 0 lk 5zi 1 lg fe 2 ld e6 4 lc d7 0 ld d3 0 lg d1 0 lo d5 6 lc 61z 0 ld 61x 0 lf 623 0 ll
621 2 lg db 1 ld e3 1 ld e5 0 lg df 1 ld 5xl 3 lc 62p 0 ld 62n 0 lf 62t 0 ll 62r 5 ld 5yn 5 lc
637 0 ld 635 0 lf 63b 0 ll 639 1 ld 5zh 0 lg fh 0 lk 5zj 1 lg ff 2 ld e7 4 lc d8 0 ld d4 0 lg d2
0 lo d6 6 lc 628 0 ld 626 0 lf 62c 0 ll 62a 1 lc 629 0 ld 627 0 lf 62d 0 ll 62b f lc 5xw 0 ld
5xy 1 lc 5xx 0 ld 5xz 1l lc 5zk 0 ld 5zm 1 lc 5zl 0 ld 5zn d lj 604 1 lj 605 5 lj 606 1 lj 607 7
ld 60o 1 ld 60p 1 lk 60q 1 lk 60r k lj 61n x lc 63g 0 ld 63e 0 lf 63k 0 ll 63i 0 mb 63m 1 lc 63h
0 ld 63f 0 lf 63l 0 ll 63j 0 mb 63n e lc 63u 0 ld 63s 0 lf 63y 0 ll 63w 0 mb 640 1 lc 63v 0 ld
63t 0 lf 63z 0 ll 63x 0 mb 641 7 lo dq 1f lg do 1 lg dp 1n lg dc 1 lg dd 1 li 5y4 1 li 5y5 5 lg
fk 1 lg fl 2r lo dr 73 lc 69m 0 ld p2 0 lg 69l 0 li 69k 0 lv 64o 0 lw 64p 0 n9 69o 4 lc 6a0 0 ld
p4 0 lv 654 0 lw 655 2 lc 6a2 0 ld p5 0 lv 65k 0 lw 65l 0 n9 6a4 2 lc 6ai 0 ld p6 0 lg 6ah 0 li
6ag 0 lk q2 0 lv 660 0 lw 661 6 lc 6bc 0 ld p8 0 lv 66g 0 lw 66h 2 lw 6b0 4 lc 6ay 0 ld pa 0 lg
6ax 0 li 6aw 0 lk q3 0 lw 66x 4 lc 6be 0 ld pb 0 lv 67c 0 lw 67d 0 n9 6bg 3 n9 69g 2 n9 69w 3 lc
67k 0 ld q4 0 lg 69d 0 li 69c 0 lv 64g 0 lw 64h 0 n6 69i 0 n9 69f 4 lc 67m 0 ld q5 0 lv 64w 0 lw
64x 2 lc 67o 0 ld q6 0 lv 65c 0 lw 65d 0 n6 69y 0 n9 69v 2 lc 67q 0 ld q7 0 lg 6a9 0 li 6a8 0 lk
qy 0 lv 65s 0 lw 65t 0 n6 6ae 6 lc 67s 0 ld r0 0 lv 668 0 lw 669 2 lv 6as 0 lw 6at 4 lc 67u 0 ld
r1 0 lg 6ap 0 li 6ao 0 lk qz 0 lv 66o 0 lw 66p 0 n6 6au 4 lc 67w 0 ld r2 0 lv 674 0 lw 675 0 n6
6ba 0 n9 6b7 1 lc 6aa 0 ld pc 0 n6 6af 1 lc 6aq 0 ld q8 0 n6 6av 3 n9 6b8 4 ld r7 0 lk r8 1g lk
sn a li y8 0 lk ya 3 ld sj 2 lc sg 0 li ye 0 lk sh 1 li xt 0 lk yk 1 lk ym 1 lc st 0 lg yq 0 li
t5 0 lk ys 2 ld ss 4 lk yu 5 lg z2 0 li su 0 lk z4 0 ln z6 4 lk z8 4 lk zc 2 lk z0 3 li y9 0 lk
yb 3 ld ur 2 lc uo 0 li yf 0 lk up 1 li xu 0 lk yl 1 lk yn 1 lc v1 0 lg yr 0 li u1 0 lk yt 2 ld
v0 4 lk yv 5 lg z3 0 li v2 0 lk z5 0 ln z7 4 lk z9 4 lk zd 2 lk z1 9 lk uv u lr vq 1 lr vr 2r lk
yi 1 lk yj f lk yy 1 lk yz 8u 18z 17m 0 190 17n 0 191 17p x 190 17o 2 190 17q 3b 190 1c2 h 190
1cj 3 190 1c0 gj 1to 1t5 8 1to 1td 3 1to 1tg 44 1xa 1xn 0 1xz 1xo ao 27y 28b 0 28m 288 0 28n 28c
23 2c7 2ac 1g 2bi 2bu 0 2c7 2bw 1 2bi 2bv 3j 2fq 2fc 3d 2j9 2io 7 2iq 2iy 0 2j9 2iv 0 2ja 2iw 4
2j9 2iz 3g 2m6 2mi 0 2mv 2mk 1 2m6 2mj 42 2q2 2qi 0 2q7 2qk 0 2qn 2qm 3 2q2 2ql g9 372 36u 25c
5dh 5c6 2 5dh 5c8 2 5dh 5ca 2 5dh 5cc 2 5dh 5ce 4 5dh 5ci 15 5dh 5dn 2 5dh 5dp 2 5dh 5ds 1 5dh
5dt 3 5dh 5dv l0 lg 5yw 1 lg 5yx z lg 5zw 1 lg 5zx 7 lj 608 1 lj 609 1p le 624 0 li 62e 1 le 625
0 li 62f n le 62u 1 le 62v j le 63c 1 le 63d 1f lc 64i 0 ld 64k 0 n6 64m 0 n9 680 1 lc 64j 0 ld
64l 0 n6 64n 0 n9 681 1 n9 682 1 n9 683 1 n9 684 1 n9 685 1 n9 686 1 n9 687 1 lc 64q 0 ld 64s 0
n6 64u 0 n9 688 1 lc 64r 0 ld 64t 0 n6 64v 0 n9 689 1 n9 68a 1 n9 68b 1 n9 68c 1 n9 68d 1 n9 68e
1 n9 68f 1 lc 64y 0 ld 650 1 lc 64z 0 ld 651 7 lc 656 0 ld 658 1 lc 657 0 ld 659 7 lc 65e 0 ld
65g 0 n6 65i 0 n9 68g 1 lc 65f 0 ld 65h 0 n6 65j 0 n9 68h 1 n9 68i 1 n9 68j 1 n9 68k 1 n9 68l 1
n9 68m 1 n9 68n 1 lc 65m 0 ld 65o 0 n6 65q 0 n9 68o 1 lc 65n 0 ld 65p 0 n6 65r 0 n9 68p 1 n9 68q
1 n9 68r 1 n9 68s 1 n9 68t 1 n9 68u 1 n9 68v 1 lc 65u 0 ld 65w 0 n6 65y 1 lc 65v 0 ld 65x 0 n6
65z 7 lc 662 0 ld 664 0 n6 666 1 lc 663 0 ld 665 0 n6 667 7 lc 66a 0 ld 66c 1 lc 66b 0 ld 66d 7
lc 66i 0 ld 66k 1 lc 66j 0 ld 66l 7 lc 66q 0 ld 66s 0 n6 66u 1 lc 66r 0 ld 66t 0 n6 66v 8 lc 66z
0 ld 671 0 n6 673 7 lc 676 0 ld 678 0 n6 67a 0 n9 68w 1 lc 677 0 ld 679 0 n6 67b 0 n9 68x 1 n9
68y 1 n9 68z 1 n9 690 1 n9 691 1 n9 692 1 n9 693 1 lc 67e 0 ld 67g 0 n6 67i 0 n9 694 1 lc 67f 0
ld 67h 0 n6 67j 0 n9 695 1 n9 696 1 n9 697 1 n9 698 1 n9 699 1 n9 69a 1 n9 69b 1 n9 69e 4 n9 69u
8 n9 6b6 1m n9 69j 9 lc 6a5 0 ld 6a6 0 n6 6a7 7 n9 69z 1c n9 6bb 8 lc 6al 0 ld 6am 0 n6 6an b6
mw 6my 2 mw 6mz 2 mw 6ni 1o mw 6od 2 mw 6of 2 mw 6oe 1b mw 6pw 5 mw 6q1 3 mw 6q4 o mw 6qs 2 mw
6qu n mw 6rl 7 mw 6ro 2 mw 6rr 3 mw 6rt 5 mw 6st k mw 6si 3 mw 6sw 1 mw 6sx d mw 6t0 1 mw 6t1 3
mw 6t4 1 mw 6t5 3 mw 6tc 1 mw 6td 1 mw 6w0 1 mw 6w1 5 mw 6tg 1 mw 6th 3 mw 6tk 1 mw 6tl a mw 6w2
1 mw 6w3 g mw 6uk 6 mw 6ul 1 mw 6um 2 mw 6un 7 mw 6wa 1 mw 6wb 1 mw 6wc 1 mw 6wd 2oh 9ll 9lg 5
9ll 9jg 2 9ll 9ji 2 9ll 9jk 2 9ll 9jm 2 9ll 9jo 2 9ll 9jq 2 9ll 9js 2 9ll 9ju 2 9ll 9jw 2 9ll
9jy 2 9ll 9k0 2 9ll 9k2 3 9ll 9k5 2 9ll 9k7 2 9ll 9k9 7 9ll 9kg 0 9lm 9kh 3 9ll 9kj 0 9lm 9kk 3
9ll 9km 0 9lm 9kn 3 9ll 9kp 0 9lm 9kq 3 9ll 9ks 0 9lm 9kt y 9ll 9lq 9 9ll 9o4 5 9ll 9m4 2 9ll
9m6 2 9ll 9m8 2 9ll 9ma 2 9ll 9mc 2 9ll 9me 2 9ll 9mg 2 9ll 9mi 2 9ll 9mk 2 9ll 9mm 2 9ll 9mo 2
9ll 9mq 3 9ll 9mt 2 9ll 9mv 2 9ll 9mx 7 9ll 9n4 0 9lm 9n5 3 9ll 9n7 0 9lm 9n8 3 9ll 9na 0 9lm
9nb 3 9ll 9nd 0 9lm 9ne 3 9ll 9ng 0 9lm 9nh k 9ll 9o7 1 9ll 9o8 1 9ll 9o9 1 9ll 9oa b 9ll 9oe
161h lj 1fpl 8 lj 1fqc 24f 1hve 1hui 2 1hve 1huk a 1hve 1huz 3w 1hyf 1hym 1 1hyf 1hyn et 1ida
1idn 0 1idz 1ido 1n 1ih5 1if7 2 1igr 1if9 7 1igy 1ifi 5 1ih5 1ifl 1e 1igo 1ih3 0 1igy 1ih1 0
1ih5 1ih4 6v 1ink 1inw 0 1inu 1inv 0 1inx 1iny 73 1iun 1iuy 1 1iun 1iuz os 1jjk 1jjs e7d 1xr2
1xr5 0 1xr3 1xr7 0 1xr4 1xr9 0 1xrd 1xr6 3 1xr3 1xra 0 1xr4 1xrc 1 1xr3 1xrb 7 1xr3 1xr8 2ey
206f 206h 4 206f 206g 2 206f 206i"

def pairs : Array Pair :=
  pairsOf pairStream

end PartnerRecords.Unicode
