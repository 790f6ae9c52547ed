/-
Composed form.

Two texts that read alike may be spelled differently: a letter with an
accent is one character or two. The composed form is the spelling that
Unicode prefers. A text is first taken apart, then the combining
characters of each run are put in the order of their classes, and last
the characters that have a joint form are joined again. Korean syllables
are taken apart and joined by arithmetic.
-/
import SchemaDocs.Unicode.Ranges

namespace SchemaDocs.Unicode

-- ============================================================ tables

/-- Groups of three numbers: gap, and the two parts of a character. -/
def readPairs (place : Nat) : List Nat → List (Nat × Char × Char)
  | gap :: first :: second :: rest =>
      (place + gap, Char.ofNat first, Char.ofNat second)
        :: readPairs (place + gap + 1) rest
  | _ => []

/-- The characters that are the joint form of two others. -/
def composites : Array (Nat × Char × Char) := (readPairs 0 (numbers [
  "5c 1t lc 0 1t ld 0 1t le 0 1t lf 0 1t lk 0 1t lm 1 1v mf 0 1x lc 0 1x ld 0",
  "1x le 0 1x lk 0 21 lc 0 21 ld 0 21 le 0 21 lk 1 26 lf 0 27 lc 0 27 ld 0 27",
  "le 0 27 lf 0 27 lk 2 2d lc 0 2d ld 0 2d le 0 2d lk 0 2h ld 2 2p lc 0 2p ld",
  "0 2p le 0 2p lf 0 2p lk 0 2p lm 1 2r mf 0 2t lc 0 2t ld 0 2t le 0 2t lk 0",
  "2x lc 0 2x ld 0 2x le 0 2x lk 1 32 lf 0 33 lc 0 33 ld 0 33 le 0 33 lf 0 33",
  "lk 2 39 lc 0 39 ld 0 39 le 0 39 lk 0 3d ld 1 3d lk 0 1t lg 0 2p lg 0 1t li",
  "0 2p li 0 1t mg 0 2p mg 0 1v ld 0 2r ld 0 1v le 0 2r le 0 1v lj 0 2r lj 0",
  "1v lo 0 2r lo 0 1w lo 0 2s lo 2 1x lg 0 2t lg 0 1x li 0 2t li 0 1x lj 0 2t",
  "lj 0 1x mg 0 2t mg 0 1x lo 0 2t lo 0 1z le 0 2v le 0 1z li 0 2v li 0 1z lj",
  "0 2v lj 0 1z mf 0 2v mf 0 20 le 0 2w le 2 21 lf 0 2x lf 0 21 lg 0 2x lg 0",
  "21 li 0 2x li 0 21 mg 0 2x mg 0 21 lj 3 22 le 0 2y le 0 23 mf 0 2z mf 1 24",
  "ld 0 30 ld 0 24 mf 0 30 mf 0 24 lo 0 30 lo 4 26 ld 0 32 ld 0 26 mf 0 32 mf",
  "0 26 lo 0 32 lo 3 27 lg 0 33 lg 0 27 li 0 33 li 0 27 ln 0 33 ln 2 2a ld 0",
  "36 ld 0 2a mf 0 36 mf 0 2a lo 0 36 lo 0 2b ld 0 37 ld 0 2b le 0 37 le 0 2b",
  "mf 0 37 mf 0 2b lo 0 37 lo 0 2c mf 0 38 mf 0 2c lo 0 38 lo 2 2d lf 0 39 lf",
  "0 2d lg 0 39 lg 0 2d li 0 39 li 0 2d lm 0 39 lm 0 2d ln 0 39 ln 0 2d mg 0",
  "39 mg 0 2f le 0 3b le 0 2h le 0 3d le 0 2h lk 0 2i ld 0 3e ld 0 2i lj 0 3e",
  "lj 0 2i lo 0 3e lo x 27 m3 0 33 m3 d 2d m3 0 39 m3 s 1t lo 0 2p lo 0 21 lo",
  "0 2x lo 0 27 lo 0 33 lo 0 2d lo 0 39 lo 0 64 lg 0 70 lg 0 64 ld 0 70 ld 0",
  "64 lo 0 70 lo 0 64 lc 0 70 lc 1 5g lg 0 6c lg 0 fa lg 0 fb lg 0 5i lg 0 6e",
  "lg 2 1z lo 0 2v lo 0 23 lo 0 2z lo 0 27 mg 0 33 mg 0 dm lg 0 dn lg 0 c7 lo",
  "0 ia lo 0 2y lo 3 1z ld 0 2v ld 2 26 lc 0 32 lc 0 5h ld 0 6d ld 0 5i ld 0",
  "6e ld 0 60 ld 0 6w ld 0 1t lr 0 2p lr 0 1t lt 0 2p lt 0 1x lr 0 2t lr 0 1x",
  "lt 0 2t lt 0 21 lr 0 2x lr 0 21 lt 0 2x lt 0 27 lr 0 33 lr 0 27 lt 0 33 lt",
  "0 2a lr 0 36 lr 0 2a lt 0 36 lt 0 2d lr 0 39 lr 0 2d lt 0 39 lt 0 2b me 0",
  "37 me 0 2c me 0 38 me 2 20 lo 0 2w lo 6 1t lj 0 2p lj 0 1x mf 0 2t mf 0 5y",
  "lg 0 6u lg 0 5x lg 0 6t lg 0 27 lj 0 33 lj 0 fi lg 0 fj lg 0 2h lg 0 3d lg",
  "9d 4o ld 0 pd ld 1 ph ld 0 pj ld 0 pl ld 1 pr ld 1 px ld 0 q1 ld 0 qy ld p",
  "pl lk 0 px lk 0 q9 ld 0 qd ld 0 qf ld 0 qh ld 0 qz ld p qh lk 0 qt lk 0 qn",
  "ld 0 qt ld 0 qx ld 4 r6 ld 0 r6 lk 17 t1 lc 0 t1 lk 1 sz ld 3 sm lk 4 t6",
  "ld 0 t4 lc 0 tf li a t4 li v u0 li m tx lc 0 tx lk 1 tv ld 3 uu lk 4 u2 ld",
  "0 u0 lc 0 ub li n vo lr 0 vp lr 21 t2 li 0 ty li d sw li 0 ts li 0 sw lk 0",
  "ts lk 2 t1 li 0 tx li 2 yg lk 0 yh lk 0 t2 lk 0 ty lk 0 t3 lk 0 tz lk 2 t4",
  "lg 0 u0 lg 0 t4 lk 0 u0 lk 0 ta lk 0 u6 lk 2 yw lk 0 yx lk 0 tp lk 0 ul lk",
  "0 tf lg 0 ub lg 0 tf lk 0 ub lk 0 tf ln 0 ub ln 0 tj lk 0 uf lk 2 tn lk 0",
  "uj lk 88 17r 18z 0 17r 190 0 18o 190 0 17r 191 0 18q 190 49 1cl 190 1 1c1",
  "190 g 1ci 190 gl 1t4 1to 7 1tc 1to 2 1tf 1to 46 1xj 1xa 0 1xj 1xz aj 287",
  "28m 2 287 27y 0 287 28n 1z 2aa 2c7 1h 2bq 2bi 0 2br 2bi 0 2bq 2c7 3f 2fa",
  "2fq 3b 2in 2j9 6 2iu 2j9 0 2iu 2ja 1 2iu 2iq 0 2iy 2j9 3i 2me 2m6 0 2mf",
  "2m6 0 2me 2mv 3x 2qh 2q2 1 2qh 2q7 0 2qk 2q2 0 2qh 2qn g7 36t 372 25b 5c5",
  "5dh 1 5c7 5dh 1 5c9 5dh 1 5cb 5dh 1 5cd 5dh 3 5ch 5dh 14 5dm 5dh 1 5do 5dh",
  "2 5dq 5dh 0 5dr 5dh 1 5du 5dh jg 1t md 0 2p md 0 1u lj 0 2q lj 0 1u mb 0",
  "2q mb 0 1u mp 0 2q mp 0 5j ld 0 6f ld 0 1w lj 0 2s lj 0 1w mb 0 2s mb 0 1w",
  "mp 0 2s mp 0 1w mf 0 2s mf 0 1w ml 0 2s ml 0 7m lc 0 7n lc 0 7m ld 0 7n ld",
  "0 1x ml 0 2t ml 0 1x mo 0 2t mo 0 fc li 0 fd li 0 1y lj 0 2u lj 0 1z lg 0",
  "2v lg 0 20 lj 0 2w lj 0 20 mb 0 2w mb 0 20 lk 0 2w lk 0 20 mf 0 2w mf 0 20",
  "mm 0 2w mm 0 21 mo 0 2x mo 0 5r ld 0 6n ld 0 23 ld 0 2z ld 0 23 mb 0 2z mb",
  "0 23 mp 0 2z mp 0 24 mb 0 30 mb 0 5yu lg 0 5yv lg 0 24 mp 0 30 mp 0 24 ml",
  "0 30 ml 0 25 ld 0 31 ld 0 25 lj 0 31 lj 0 25 mb 0 31 mb 0 26 lj 0 32 lj 0",
  "26 mb 0 32 mb 0 26 mp 0 32 mp 0 26 ml 0 32 ml 0 5x ld 0 6t ld 0 5x lk 0 6t",
  "lk 0 98 lc 0 99 lc 0 98 ld 0 99 ld 0 28 ld 0 34 ld 0 28 lj 0 34 lj 0 2a lj",
  "0 36 lj 0 2a mb 0 36 mb 0 5zu lg 0 5zv lg 0 2a mp 0 36 mp 0 2b lj 0 37 lj",
  "0 2b mb 0 37 mb 0 9m lj 0 9n lj 0 9s lj 0 9t lj 0 602 lj 0 603 lj 0 2c lj",
  "0 38 lj 0 2c mb 0 38 mb 0 2c mp 0 38 mp 0 2c ml 0 38 ml 0 2d mc 0 39 mc 0",
  "2d mo 0 39 mo 0 2d ml 0 39 ml 0 a0 ld 0 a1 ld 0 a2 lk 0 a3 lk 0 2e lf 0 3a",
  "lf 0 2e mb 0 3a mb 0 2f lc 0 3b lc 0 2f ld 0 3b ld 0 2f lk 0 3b lk 0 2f lj",
  "0 3b lj 0 2f mb 0 3b mb 0 2g lj 0 3c lj 0 2g lk 0 3c lk 0 2h lj 0 3d lj 0",
  "2i le 0 3e le 0 2i mb 0 3e mb 0 2i mp 0 3e mp 0 2w mp 0 38 lk 0 3b lm 0 3d",
  "lm 1 an lj 4 1t mb 0 2p mb 0 1t ll 0 2p ll 0 5e ld 0 6a ld 0 5e lc 0 6a lc",
  "0 5e ll 0 6a ll 0 5e lf 0 6a lf 0 61s le 0 61t le 0 76 ld 0 77 ld 0 76 lc",
  "0 77 lc 0 76 ll 0 77 ll 0 76 lf 0 77 lf 0 61s li 0 61t li 0 1x mb 0 2t mb",
  "0 1x ll 0 2t ll 0 1x lf 0 2t lf 0 5m ld 0 6i ld 0 5m lc 0 6i lc 0 5m ll 0",
  "6i ll 0 5m lf 0 6i lf 0 62g le 0 62h le 0 21 ll 0 2x ll 0 21 mb 0 2x mb 0",
  "27 mb 0 33 mb 0 27 ll 0 33 ll 0 5w ld 0 6s ld 0 5w lc 0 6s lc 0 5w ll 0 6s",
  "ll 0 5w lf 0 6s lf 0 630 le 0 631 le 0 bk ld 0 bl ld 0 bk lc 0 bl lc 0 bk",
  "ll 0 bl ll 0 bk lf 0 bl lf 0 bk mb 0 bl mb 0 2d mb 0 39 mb 0 2d ll 0 39 ll",
  "0 bz ld 0 c0 ld 0 bz lc 0 c0 lc 0 bz ll 0 c0 ll 0 bz lf 0 c0 lf 0 bz mb 0",
  "c0 mb 0 2h lc 0 3d lc 0 2h mb 0 3d mb 0 2h ll 0 3d ll 0 2h lf 0 3d lf 6 q9",
  "lv 0 q9 lw 0 64g lc 0 64h lc 0 64g ld 0 64h ld 0 64g n6 0 64h n6 0 pd lv 0",
  "pd lw 0 64o lc 0 64p lc 0 64o ld 0 64p ld 0 64o n6 0 64p n6 0 qd lv 0 qd",
  "lw 0 64w lc 0 64x lc 0 64w ld 0 64x ld 2 ph lv 0 ph lw 0 654 lc 0 655 lc 0",
  "654 ld 0 655 ld 2 qf lv 0 qf lw 0 65c lc 0 65d lc 0 65c ld 0 65d ld 0 65c",
  "n6 0 65d n6 0 pj lv 0 pj lw 0 65k lc 0 65l lc 0 65k ld 0 65l ld 0 65k n6 0",
  "65l n6 0 qh lv 0 qh lw 0 65s lc 0 65t lc 0 65s ld 0 65t ld 0 65s n6 0 65t",
  "n6 0 pl lv 0 pl lw 0 660 lc 0 661 lc 0 660 ld 0 661 ld 0 660 n6 0 661 n6 0",
  "qn lv 0 qn lw 0 668 lc 0 669 lc 0 668 ld 0 669 ld 2 pr lv 0 pr lw 0 66g lc",
  "0 66h lc 0 66g ld 0 66h ld 2 qt lv 0 qt lw 0 66o lc 0 66p lc 0 66o ld 0",
  "66p ld 0 66o n6 0 66p n6 1 px lw 1 66x lc 1 66x ld 1 66x n6 0 qx lv 0 qx",
  "lw 0 674 lc 0 675 lc 0 674 ld 0 675 ld 0 674 n6 0 675 n6 0 q1 lv 0 q1 lw 0",
  "67c lc 0 67d lc 0 67c ld 0 67d ld 0 67c n6 0 67d n6 0 q9 lc 1 qd lc 1 qf",
  "lc 1 qh lc 1 qn lc 1 qt lc 1 qx lc 3 64g n9 0 64h n9 0 64i n9 0 64j n9 0",
  "64k n9 0 64l n9 0 64m n9 0 64n n9 0 64o n9 0 64p n9 0 64q n9 0 64r n9 0",
  "64s n9 0 64t n9 0 64u n9 0 64v n9 0 65c n9 0 65d n9 0 65e n9 0 65f n9 0",
  "65g n9 0 65h n9 0 65i n9 0 65j n9 0 65k n9 0 65l n9 0 65m n9 0 65n n9 0",
  "65o n9 0 65p n9 0 65q n9 0 65r n9 0 674 n9 0 675 n9 0 676 n9 0 677 n9 0",
  "678 n9 0 679 n9 0 67a n9 0 67b n9 0 67c n9 0 67d n9 0 67e n9 0 67f n9 0",
  "67g n9 0 67h n9 0 67i n9 0 67j n9 0 q9 li 0 q9 lg 0 67k n9 0 q9 n9 0 q4 n9",
  "1 q9 n6 0 69i n9 0 pd li 0 pd lg 0 pd lc 1 pd n9 4 4o n6 0 67o n9 0 qf n9",
  "0 q6 n9 1 qf n6 0 69y n9 0 ph lc 1 pj lc 1 pj n9 0 69r lc 0 69r ld 0 69r",
  "n6 0 qh li 0 qh lg 0 qy lc 3 qh n6 0 qy n6 0 pl li 0 pl lg 0 pl lc 2 6bi",
  "lc 0 6bi ld 0 6bi n6 0 qt li 0 qt lg 0 qz lc 1 qp lv 0 qp lw 0 qt n6 0 qz",
  "n6 0 px li 0 px lg 0 px lc 1 pt lw 0 4o lc 4 67w n9 0 qx n9 0 r2 n9 1 qx",
  "n6 0 6ba n9 0 pr lc 1 q1 lc 1 q1 n9 bh 6mo mw 0 6mq mw i 6ms mw u 6og mw 0",
  "6ok mw 0 6oi mw 1g 6pv mw 4 6q0 mw 2 6q3 mw n 6qr mw 1 6qt mw q 6rg mw 2",
  "6rn mw 2 6rp mw 1 6rs mw m 1p mw 1 6sh mw a 6rx mw 0 1o mw 0 1q mw 0 6sk",
  "mw 0 6sl mw 2 6sy mw 0 6sz mw 2 6t2 mw 0 6t3 mw 6 6t6 mw 0 6t7 mw 2 6te mw",
  "0 6tf mw 2 6ti mw 0 6tj mw y 6ua mw 0 6ug mw 0 6uh mw 0 6uj mw 1c 6t8 mw 0",
  "6t9 mw 0 6tt mw 0 6tu mw 6 6uq mw 0 6ur mw 0 6us mw 0 6ut mw 2n2 9jf 9ll 1",
  "9jh 9ll 1 9jj 9ll 1 9jl 9ll 1 9jn 9ll 1 9jp 9ll 1 9jr 9ll 1 9jt 9ll 1 9jv",
  "9ll 1 9jx 9ll 1 9jz 9ll 1 9k1 9ll 2 9k4 9ll 1 9k6 9ll 1 9k8 9ll 6 9kf 9ll",
  "0 9kf 9lm 1 9ki 9ll 0 9ki 9lm 1 9kl 9ll 0 9kl 9lm 1 9ko 9ll 0 9ko 9lm 1",
  "9kr 9ll 0 9kr 9lm m 9ja 9ll 9 9lp 9ll d 9m3 9ll 1 9m5 9ll 1 9m7 9ll 1 9m9",
  "9ll 1 9mb 9ll 1 9md 9ll 1 9mf 9ll 1 9mh 9ll 1 9mj 9ll 1 9ml 9ll 1 9mn 9ll",
  "1 9mp 9ll 2 9ms 9ll 1 9mu 9ll 1 9mw 9ll 6 9n3 9ll 0 9n3 9lm 1 9n6 9ll 0",
  "9n6 9lm 1 9n9 9ll 0 9n9 9lm 1 9nc 9ll 0 9nc 9lm 1 9nf 9ll 0 9nf 9lm m 9ly",
  "9ll 2 9nz 9ll 0 9o0 9ll 0 9o1 9ll 0 9o2 9ll 3 9od 9ll 1616 1fpu lj q 1fq2",
  "lj 245 1huh 1hve 1 1huj 1hve e 1hut 1hve 3m 1hyp 1hyf 0 1hyq 1hyf ez 1idj",
  "1ida 0 1idj 1idz 1i 1if6 1ih5 1 1if8 1igr 8 1iff 1igy 2 1ifk 1ih5 1f 1igy",
  "1igy 1 1igy 1igo 0 1igy 1ih5 6q 1int 1inu 0 1int 1ink 1 1int 1inx 6z 1iuw",
  "1iun 0 1iux 1iun os 1jjp 1jjk e7c 1xr2 1xr2 0 1xr2 1xrd 0 1xr2 1xr3 0 1xrd",
  "1xr3 0 1xr2 1xr4 0 1xr5 1xr3 0 1xr6 1xr3 0 1xr5 1xr4 2f3 206f 206f 0 206b",
  "206f 0 206h 206f"])).toArray

/-- The characters that come apart into two and are never joined again. -/
def splitOnly : Array (Nat × Char × Char) := (readPairs 0 (numbers [
  "n8 lk ld 177 1sl 1to 0 1sm 1to 0 1sn 1to 0 1ss 1to 0 1sx 1to 0 1sy 1to 0",
  "1t7 1to 0 1tb 1to 3g 1wh 1x8 0 1wi 1x8 1 1wv 1x8 2b 20i 20s 2 20o 20s y",
  "1zq 20s 0 1zr 20s 0 1zw 20s 2 20b 20s 71 275 27w 0 276 27w rp 30i 33r 9",
  "30s 33r 4 30x 33r 4 312 33r 4 317 33r c 30g 33p 9 31t 31u 1 31t 31w 0 33m",
  "328 1 33n 328 8 31t 328 h 32q 33r 9 330 33r 4 335 33r 4 33a 33r 4 33f 33r",
  "c 32o 33p 5cy 8gt mw 154w 15l 14k 1 16a 14n a 161 14x 0 161 14y 0 1dmx 14x",
  "0 1dmx 14y 0 15c 14n 0 15c 14o 0 15c 14s 0 15d 14s 0 15e 14s 0 15f 14s 0",
  "15g 14s 0 15h 14s 0 15i 14s 1 15k 14s 0 15l 14s 0 15m 14s 0 15n 14s 0 15o",
  "14s 1 15q 14s 1 15s 14s 0 15t 14s 1 15v 14s 0 15w 14s 1 15y 14s 0 15z 14s",
  "0 160 14s 0 161 14s 0 162 14s 0 15h 14p 0 15d 14v 0 15n 14v 0 15w 14v 16a7",
  "2jx3 2jxh 0 2jx4 2jxh 0 2jxb 2jxq 0 2jxb 2jxr 0 2jxb 2jxs 0 2jxb 2jxt 0",
  "2jxb 2jxu 2e 2jzt 2jxh 0 2jzu 2jxh 0 2jzv 2jxq 0 2jzw 2jxq 0 2jzv 2jxr 0",
  "2jzw 2jxr"])).toArray

/-- The characters that are another spelling of one other character. -/
def singletons : Shifts := .ofLines [
  "n4 4 3j 1 2 2n 1c 2 ad 9 2 1ad 8 2 13z 5ih 2 ayx 1 2 ayz 1 2 az1 1 2 az3 1",
  "2 axl 1 2 axn 1 2 axp 1p 2 b55 2 2 b2h a 2 b5t 1 2 b5v 7 2 b5x 7 2 b6p 7 2",
  "b51 7 2 b7d 2 2 b81 0 2 cgt 9 2 b89 1 2 b87 1 2 ccx 2 4 4 84 2 bnd 3 2 czh",
  "0 2 csr e5 4 532 168l 2 16y7 0 2 1lp5 0 2 15yn 0 2 16r9 0 2 1ilh 0 2 1vhh",
  "0 2 1t8h 0 2 zbp 0 2 zbr 0 2 1r3j 0 2 14s1 0 2 1slj 0 2 1r47 0 2 1not 0 2",
  "1fm1 0 2 1c0j 0 2 19cx 0 2 18rx 0 2 18ab 0 2 15af 0 2 1kir 0 2 1jar 0 2",
  "1htl 0 2 1gmp 0 2 1a5x 0 2 14yl 0 2 11ld 0 2 1ve9 0 2 1tfx 0 2 1k4x 0 2",
  "1hc5 0 2 19er 0 2 zyb 0 2 1pk1 0 2 1i7h 0 2 19kb 0 2 185b 0 2 1nef 0 2",
  "1b4r 0 2 18nj 0 2 1ozf 0 2 1lpf 0 2 1j7j 0 2 1h0d 0 2 158b 0 2 1v0t 0 2",
  "1u5p 0 2 1tpd 0 2 1mmv 0 2 1k8r 0 2 1hdv 0 2 1fh3 0 2 1bvp 0 2 19i5 0 2",
  "19df 0 2 16dr 0 2 12q3 0 2 111v 0 2 101r 0 2 1eu5 0 2 1egp 0 2 1cu1 0 2",
  "1aeh 0 2 14dx 0 2 zup 0 2 17md 0 2 1rd1 0 2 1oxp 0 2 1dc7 0 2 1bpp 0 2",
  "1haf 0 2 1erd 0 2 16vf 0 2 12ub 0 2 1rdv 0 2 1pzl 0 2 1kkx 0 2 1j39 0 2",
  "1im5 0 2 1d1b 0 2 1cmp 0 2 134b 0 2 1trz 0 2 1bpr 0 2 1u5r 0 2 1u6p 0 2",
  "1e9f 0 2 1ctt 0 2 1adp 0 2 132f 0 2 17eb 0 2 1nh3 0 2 1kmr 0 2 17lp 0 2",
  "1vm1 0 2 1q7j 0 2 1okb 0 2 1gvn 0 2 1g4j 0 2 1tp3 0 2 1eq9 0 2 1v0r 0 2",
  "1oqh 0 2 1voz 0 2 1jjr 0 2 1mg1 0 2 1d3j 0 2 1tfz 0 2 1rmj 0 2 1fiv 0 2",
  "1aa1 0 2 17rd 0 2 1jzf 0 2 15s1 0 2 1jo3 0 2 1nft 0 2 1au5 0 2 1n6x 0 2",
  "1g69 0 2 1vgx 0 2 1ue5 0 2 1u8v 0 2 1l9t 0 2 1d7r 0 2 1b15 0 2 17px 0 2",
  "14yl 0 2 1tsj 0 2 1ta3 0 2 1r8b 0 2 1p2j 0 2 1md7 0 2 1ibv 0 2 1eph 0 2",
  "13g1 0 2 11kp 0 2 zxd 0 2 zud 0 2 1ty5 0 2 1lzd 0 2 1k4p 0 2 15xx 0 2 1p9v",
  "0 2 1o1p 0 2 1nvj 0 2 1mul 0 2 1iot 0 2 1hub 0 2 1gk5 0 2 1ehh 0 2 1cub 0",
  "2 1bv3 0 2 161v 0 2 1a39 0 2 15nx 0 2 14f5 0 2 1u6h 0 2 1tyr 0 2 1t4x 0 2",
  "1i25 0 2 18l7 0 2 17u5 0 2 1p69 0 2 1opn 0 2 1nbl 0 2 1k31 0 2 1djj 0 2",
  "1h0j 0 2 1vgn 0 2 1s9r 0 2 1qbp 0 2 1plt 0 2 1onz 0 2 1gxh 0 2 1gnd 0 2",
  "1c89 0 2 1byr 0 2 14vt 0 2 1307 0 2 12vp 0 2 12k7 0 2 1v83 0 2 1ekv 0 2",
  "1539 0 2 133z 0 2 1odr 0 2 1vmv 0 2 1upt 0 2 1qcb 0 2 1q7v 0 2 1mix 0 2",
  "1ks9 0 2 1hpf 0 2 1fy5 0 2 1a4r 0 2 15l9 0 2 zn1 0 2 1m61 0 2 13cf 0 2",
  "1u2j 0 2 1lsp 0 2 1lm3 0 2 1jip 0 2 1izh 0 2 1gud 0 2 1gbr 0 2 1f45 0 2",
  "1da5 0 2 12hv 0 2 1uiv 0 2 1nwn 0 2 1391 0 2 1v0x 0 2 1px3 0 2 1j9z 0 2",
  "1655 0 2 1oyh 0 2 1oa1 0 2 1ll1 0 2 1h2f 0 2 138r 0 2 1u93 0 2 1ti5 0 2",
  "1q7n 0 2 1me1 0 2 1lwl 0 2 1ldf 0 2 1jp7 0 2 1gvv 0 2 1g5h 0 2 1cd5 0 2",
  "18of 0 2 18nh 0 2 154p 0 2 134f 0 2 1tuf 0 2 1izn 0 2 1ti7 0 2 1hrv 0 2",
  "1god 0 2 19t7 0 2 138b 0 2 10z9 0 2 102v 0 2 1ltl 0 2 1jdf 0 2 1bff 0 2",
  "1e8n 0 2 1e3z 0 2 1djh 0 2 1hf7 0 2 1i9v 0 2 17pj 0 2 1vnd 0 2 1axb 0 2",
  "1ua1 0 2 1ucx 0 2 1pdh 0 2 1nq5 0 2 1dg9 0 2 1qm5 0 2 1jnx 0 2 1m77 0 2",
  "166v 0 2 18xj 0 2 13ef 0 2 18fx 0 2 1pbj 0 2 1uon 0 2 1swp 2 2 1rvv 1 2",
  "1mbf 2 2 1ugd 0 2 1hav 0 2 1fvd 0 2 1ewn 0 2 1eut 0 2 1euh 0 2 1es7 0 2",
  "130r 0 2 1dj1 0 2 1cch 1 2 19uj 1 2 17wz 2 2 15uh 0 2 15jl 3 2 12et 0 2",
  "12e5 0 2 12br 0 2 10j5 0 2 15lr 0 2 13an 0 2 1vcz 0 2 1uvn 0 2 1uq1 0 2",
  "1u4z 0 2 1u3j 0 2 1txj 0 2 1t0x 0 2 1sv5 0 2 1spr 0 2 1rzl 0 2 1rtv 0 2",
  "1qct 0 2 1qcb 0 2 1opd 0 2 1odn 0 2 1obl 0 2 1o63 0 2 1mub 0 2 1mm7 0 2",
  "1mcj 0 2 1lkt 0 2 1jmj 0 2 1jdj 0 2 1iyx 0 2 1i2b 0 2 1hrv 0 2 1gzz 0 2",
  "1f8z 0 2 1ezf 0 2 1eyv 0 2 1eyz 0 2 1eyl 0 2 1eyb 0 2 1exz 0 4 1evd 0 2",
  "1elj 0 2 1ehz 0 2 1e0b 0 2 1d51 0 2 1d3x 0 2 1d0v 0 2 1cjz 0 2 1cbv 0 2",
  "1bkt 0 2 1bd3 0 2 1bd5 0 2 1amn 0 2 18rj 0 2 18k5 0 2 1801 0 2 17wz 0 2",
  "17a9 0 2 177d 0 2 165b 0 2 15y5 0 2 13bd 0 2 12vn 0 2 12sd 0 2 1otn 0 2",
  "3ls4 0 2 1bjd 2 2 1w2b 0 2 1unr 0 2 1us3 0 2 1vj9 0 2 1uu5 0 2 1uqx 0 2",
  "1u8t 0 2 1u61 0 2 1t4l 0 2 1t8n 0 2 1t4x 0 2 1t0x 0 2 1s1v 0 2 1rwz 0 2",
  "1roz 0 2 1ro5 0 2 1r97 0 2 1qy9 0 2 1pi7 0 2 1phv 0 2 1p9x 0 2 1p67 0 2",
  "1opn 0 2 1oj5 0 2 1on3 0 2 1ofp 0 2 1oib 0 2 1oa9 0 2 1o6n 0 2 1nkh 0 2",
  "1nfn 0 2 1ncp 0 2 1myb 0 2 1mih 0 2 1m9h 0 2 1m9b 0 2 1m63 0 2 1kjb 0 2",
  "1kfr 0 2 1ju3 0 2 1j7d 0 2 1j8b 0 2 1j3j 0 2 1ipl 0 2 1i6z 0 2 1fqj 0 2",
  "1hw1 0 2 1hpb 0 2 1hij 0 2 1h0f 0 2 1gs7 0 2 1gpb 0 2 1gct 0 2 1gcr 0 2",
  "1g3b 0 2 1g2f 0 2 1g13 0 2 1fwd 0 2 1fwz 0 2 1fb1 0 2 1ek5 0 2 1e55 0 2",
  "1dut 0 2 1dif 0 2 1d9z 0 2 1crp 0 2 1cgp 0 2 1b5t 0 2 1ax5 0 2 19iv 0 2",
  "18tl 0 2 18pt 0 2 18oz 0 2 188j 0 2 185f 0 2 187z 0 2 1851 0 2 1859 0 2",
  "1869 0 2 1823 0 2 17xn 0 2 17ch 0 2 16hf 0 2 1601 0 2 15jp 0 2 157h 0 2",
  "13mb 0 2 13gn 0 2 13ab 0 2 132z 0 2 1311 0 2 130f 0 2 12xt 0 2 11th 0 2",
  "100z 0 2 3b3q 0 2 3b3c 0 2 3fns 0 2 23jd 0 2 21rp 0 2 21px 0 2 3roo 0 2",
  "3vuc 0 2 49a0 0 2 106h 0 2 102d 2skm 2 7hc5 0 2 7hch 0 2 7hc1 0 2 2pj5 0 2",
  "7gw7 0 2 7grx 0 2 7gr9 0 2 7gnd 0 2 7ggr 0 2 7gf3 0 2 7gat 0 2 7gc7 0 2",
  "7rh7 0 2 2nj9 0 2 7g5d 0 2 7g51 0 2 7g47 0 2 7g37 0 2 2nzf 0 2 7rg3 0 2",
  "7g49 0 2 7g27 0 2 2nx1 0 2 7g1r 0 2 7g13 0 2 7h5l 0 2 7g0r 0 2 7g0b 0 2",
  "14e1 0 2 7fwv 0 2 7fw5 0 2 7ren 0 2 7ft5 0 2 7fsl 0 2 7fq7 0 2 7fpz 0 2",
  "7rbx 0 2 7fln 0 2 7fll 0 2 7fk5 0 2 7fiz 0 4 7fif 0 2 7fhj 0 2 7fet 0 2",
  "7fef 0 2 7fdz 0 2 7fcn 0 2 7fc5 0 2 7fc3 0 2 7fc5 0 2 7fc7 0 2 2m1b 0 2",
  "73wp 0 2 7f87 0 2 7f73 0 2 2lk9 0 2 7f6j 0 2 7f69 0 2 7f55 0 2 7ewr 0 2",
  "7f2h 0 2 7f1n 0 2 7ezx 0 2 7ewr 0 2 7es5 0 2 7eqr 0 2 7en3 0 2 7em9 0 2",
  "7ekh 0 2 7ekj 0 2 7ejf 0 2 7eih 0 2 7ei3 0 2 7ehb 0 2 7dyh 0 2 7edn 0 2",
  "7dyj 0 2 7e9l 0 2 7e7p 0 2 7fyp 0 2 7d8l 0 2 7don 0 2 7dml 0 2 7dl9 0 2",
  "7dsj 0 2 7djb 0 2 7djf 0 2 7dcn 0 2 2hux 0 2 7d8v 0 2 7d8n 0 2 7d7v 0 2",
  "7d6t 0 2 7d6f 0 2 7d2x 0 2 2h67 0 2 2h2l 0 2 7cvf 0 2 7csv 0 2 7cs9 0 2",
  "7cwp 0 2 7cov 0 2 7qpd 0 2 7qon 0 2 7cg1 0 2 7cd3 0 2 7cd5 0 2 2fyf 0 2",
  "7c5v 0 2 7c4r 0 2 7c3z 0 2 7c3d 0 2 2fg1 0 2 7c2t 0 2 7c2h 0 2 7arl 0 2",
  "7c11 0 2 7qi1 0 2 7bxp 0 2 7bwz 0 2 7bsh 0 2 7bvd 0 2 2ect 0 2 7bld 0 2",
  "2ect 0 2 7bj3 0 2 7bjb 0 2 7bif 0 4 7bcv 0 2 7q93 0 2 7bbh 0 2 7b95 0 2",
  "7b81 0 2 7b5n 0 2 7q6j 0 2 2cy3 0 2 7q57 0 2 7b1x 0 2 7b1t 0 2 7b1p 0 2",
  "7b0n 0 2 xkp 0 2 7axv 0 2 2can 0 2 2cap 0 2 6x43 0 2 7aw3 0 2 7aw5 0 2",
  "7q1p 0 2 2665 0 2 1njv 0 2 7ast 0 2 7asd 0 2 7q0f 0 2 7apv 0 2 7an3 0 2",
  "7aml 0 2 7akr 0 2 7ad9 0 2 7pvx 0 2 7pxn 0 2 7acd 0 2 2avz 0 2 7a9n 0 2",
  "7a2j 0 2 7a2d 0 2 7a2b 0 2 7a2h 0 2 79zz 0 2 79yx 0 2 79wz 0 2 79xt 0 2",
  "79x9 0 2 79up 0 2 79tn 0 2 79th 0 2 79s3 0 2 79rj 0 2 79nx 0 2 79jb 0 2",
  "79hf 0 2 79al 0 2 2993 0 2 79br 0 2 79ff 0 2 799h 0 2 7981 0 2 792p 0 2",
  "28wp 0 2 78zd 0 2 794l 0 2 7967 0 2 7pk7 0 2 78vn 0 2 78uj 0 2 78sv 0 2",
  "78v1 0 2 7ph1 0 2 78j5 0 2 78hl 0 2 27b3 0 2 78b3 0 2 77vr 0 2 785j 0 2",
  "7p7t 0 2 781n 0 2 7p8v 0 2 7pax 0 2 7gcf 0 2 7gcb 0 2 77vr 0 2 781d 0 2",
  "6xqp 0 2 7lrv 0 2 77up 0 2 77uj 0 2 77u9 0 2 77qx 0 2 77rl 0 2 25v7 0 2",
  "7p61 0 2 77ih 0 2 77p1 0 2 77dp 0 2 77ax 0 2 25m3 0 2 77aj 0 2 77gr 0 2",
  "7737 0 2 7p1v 0 2 770r 0 2 76vf 0 2 76rj 0 2 76h1 0 2 24r5 0 2 76eb 0 2",
  "7ovf 0 2 76aj 0 2 23yp 0 2 767t 0 2 7osn 0 2 7669 0 2 763t 0 4 762d 0 2",
  "2383 0 2 2evt 0 2 2325 0 2 75uf 0 2 22d9 0 2 75o9 0 2 75nj 0 2 75t9 0 2",
  "75jl 0 2 75hf 0 2 75eb 0 2 75hd 0 2 75f7 0 2 75ef 0 2 75dr 0 2 228f 0 2",
  "75id 0 2 754h 0 2 7511 0 2 7oh9 0 2 74vz 0 2 74w9 0 2 21kn 0 2 757t 0 2",
  "74n5 0 2 21cz 0 2 21ad 0 2 74if 0 2 74c3 0 2 74dn 0 2 74dv 0 2 7ocf 0 2",
  "74bd 0 2 748l 0 2 748z 0 2 7461 0 2 2odn 0 2 73xp 0 2 206r 0 2 73sz 0 2",
  "1zon 0 2 73lb 0 2 73kn 0 2 73j7 0 2 1yr9 0 2 73gn 0 2 73fj 0 2 1yap 0 2",
  "1xyd 0 2 732z 0 2 7323 0 2 7ny3 0 2 730r 0 2 7nxj 0 2 7nxl 0 2 72rx 0 2",
  "72qt 0 2 72pp 0 2 72on 0 2 72kv 0 2 7nsf 0 2 72fz 0 2 1wcd 0 2 72en 0 2",
  "1w7d 0 2 72bz 0 2 2d6b 0 2 7237 0 2 1v03 0 2 1uyv 0 2 1ur5 0 2 7ngj 0 2",
  "7nfx 0 2 71qv 0 2 1uhn 0 2 1uhr 0 2 1ufn 0 2 1ue9 0 4 71ot 0 2 71ov 0 2",
  "71mj 0 2 7ndr 0 2 71j1 0 2 7nd5 0 2 7n8r 0 2 1t9b 0 2 718f 0 2 7151 0 2",
  "711j 0 2 7n4r 0 2 1sgn 0 2 70u1 0 2 1sab 0 2 1s7z 0 2 70r1 0 2 70lz 0 2",
  "7n0x 0 2 70hd 0 2 70gv 0 2 70gn 0 2 1r5r 0 2 1qp7 0 2 1qp9 0 2 7081 0 2",
  "7mpn 0 2 1qaz 0 2 6zw7 0 2 6zw3 0 2 7mnt 0 2 1pzd 0 2 6zhj 0 2 7mh9 0 2",
  "6zgf 0 2 6zgr 0 2 6zf7 0 2 1osp 0 2 6z9t 0 2 7mc7 0 2 6z4d 0 2 6z15 0 2",
  "6yxh 0 2 7m9l 0 2 1nrn 0 2 1npz 0 2 7m7p 0 2 1nhz 0 2 6ygn 0 2 1nch 0 2",
  "6yf9 0 2 6y9p 0 2 6y95 0 2 1mpt 0 2 1mlt 0 2 6y49 0 2 1mej 0 2 6y3h 0 2",
  "269t 0 2 7m1j 0 2 6xzz 0 2 6xvj 0 2 7lyp 0 2 6xsd 0 2 7d0h 0 2 1lmn 0 2",
  "1llx 0 2 267f 0 2 266z 0 2 6xhv 0 2 6xhr 0 2 6s4d 0 2 7ltx 0 2 6xa3 0 2",
  "6xah 0 2 6x9j 0 2 7g71 0 2 6x8j 0 2 6x8h 0 2 6x7z 0 2 6x5r 0 2 1k8l 0 2",
  "6x5x 0 2 6x2v 0 2 6wz1 0 2 6wuz 0 2 6x2p 0 2 6wu7 0 2 6wrx 0 2 6wlr 0 2",
  "6x09 0 2 6wtp 0 2 6wtn 0 2 6wst 0 2 1jvf 0 2 1jeb 0 2 1jmp 0 2 7lkn 0 2",
  "6wdp 0 2 6wdn 0 2 6wbr 0 2 1gw1 0 2 6w7j 0 2 1ipt 0 2 7li9 0 2 7li3 0 2",
  "1iil 0 2 1i2l 0 2 7lhp 0 2 6vut 0 2 6vu7 0 2 6vtn 0 2 6vtl 0 2 6vq3 0 2",
  "6vrz 0 2 6vkl 0 2 6vn3 0 2 6ver 0 2 6vjb 0 2 6vfn 0 2 6ve7 0 2 7lcf 0 2",
  "6v99 0 2 6v7j 0 2 7lap 0 2 6v2d 0 2 6v29 0 2 1fwb 0 2 6uvx 0 2 6uvl 0 2",
  "7l7p 0 2 6uu5 0 2 7s4d 0 2 1f09 0 2 1eq3 0 2 7l0d 0 2 7kzx 0 2 6u71 0 2",
  "6u2t 0 2 6tu5 0 2 6tix 0 2 1dg5 0 2 6te9 0 2 6td3 0 2 6t85 0 2 6t33 0 2",
  "1cgh 0 2 2njd 0 2 6syl 0 2 6szh 0 2 6swn 0 2 2n7h 0 2 6sk3 0 2 6sel 0 2",
  "19uj 0 2 19t3 0 2 6rvf 0 2 6rqb 0 2 6rol 0 2 19bh 0 2 6ro5 0 2 6r8d 0 4",
  "6qzl 0 2 6r4r 0 2 6qjn 0 2 6qi5 0 2 17fp 0 2 6pxh 0 2 7jxv 0 2 6pv5 0 2",
  "16ur 0 2 7jtj 0 2 6pgf 0 2 7c03 0 2 6pb7 0 2 15cx 0 2 1515 0 2 7jmb 0 2",
  "7jlx 0 2 6p0z 0 2 149t 0 2 7jir 0 2 1425 0 2 6oyt 0 2 6oyv 0 2 6ox9 0 2",
  "13md 0 2 6on3 0 2 7jbz 0 2 6oj9 0 2 6ocb 0 2 6oav 0 2 6o7l 0 2 7j3n 0 2",
  "11gx 0 2 6nsf 0 2 6nbp 0 2 6n19 0 2 7ipp 0 2 7io1 0 2 6mvj 0 2 z9f 0 2",
  "7inl 0 2 z6h 0 2 yrt 0 2 ykl 0 2 6mcz 0 2 7iin 0 2 6m9n 0 2 6m9f 0 2 6m93",
  "0 2 6m8l 0 2 6m89 0 2 6m69 0 2 x89"]

/-- The classes of combining characters; zero is the class of all others. -/
def combiningClass : Classes := .ofLines [
  "lc k 6e 0 0 6g 0 3 64 0 0 6g 0 0 60 0 4 64 0 1 5m 0 3 64 0 1 5m 0 a 64 0 4",
  "1 0 3 64 0 7 6e 0 0 6o 0 0 6e 0 2 64 0 2 6e 0 1 64 1 2 6e 0 3 64 0 0 6e 0",
  "0 6g 0 1 64 0 0 6e 0 0 6h 0 1 6i 0 0 6h 0 1 6i 0 0 6h 0 c 6e 7n 4 6e 7d 0",
  "64 0 3 6e 0 0 64 0 2 6e 0 0 66 0 0 64 0 5 6e 0 5 64 0 1 6e 0 0 64 0 1 6e 0",
  "0 66 0 0 6c 0 0 6e 0 0 a 0 0 b 0 0 c 0 0 d 0 0 e 0 0 f 0 0 g 0 0 h 0 0 i 0",
  "1 j 0 0 k 0 0 l 0 0 m 1 0 n 1 0 o 0 0 p 1 0 6e 0 0 64 1 0 i 20 7 6e 0 0 u",
  "0 0 v 0 0 w 1c 0 r 0 0 s 0 0 t 0 0 u 0 0 v 0 0 w 0 0 x 0 0 y 0 1 6e 0 1 64",
  "0 4 6e 0 0 64 0 1 6e 0 0 64 g 0 z 2t 6 6e 2 3 6e 0 0 64 0 0 6e 2 1 6e 1 0",
  "64 0 1 6e 0 0 64 z 0 10 u 0 6e 0 0 64 0 1 6e 0 0 64 0 1 6e 0 2 64 0 0 6e 0",
  "1 64 0 0 6e 0 0 64 0 2 6e 0 0 64 0 0 6e 0 0 64 0 0 6e 0 0 64 0 0 6e 0 0 64",
  "0 1 6e 4g 6 6e 0 0 64 0 0 6e 9 0 64 o 3 6e 1 8 6e 1 2 6e 1 4 6e 17 2 64 1n",
  "1 6e 0 2 64 0 3 6e 16 4 6e 0 4 64 0 d 6e 1 0 64 0 1 6e 0 0 64 0 1 6e 0 0",
  "64 0 2 6e 0 2 64 0 0 r 0 0 s 0 0 t 0 2 6e 0 0 64 0 1 6e 0 1 64 0 4 6e 1o 0",
  "7 g 0 9 3 0 6e 0 0 64 0 1 6e 2v 0 7 g 0 9 1c 0 6e 1p 0 7 g 0 9 32 0 7 g 0",
  "9 32 0 7 g 0 9 3j 0 9 32 0 7 g 0 9 7 0 2c 0 0 2j 2t 0 7 g 0 9 31 1 9 g 0 9",
  "3g 0 9 31 1 2v 0 0 9 d 3 2z 30 1 3a 0 0 9 d 3 3e 24 1 64 r 0 64 1 0 64 1 0",
  "60 1j 0 3l 0 0 3m 1 0 3o 5 3 3m 2 0 3m 1 1 6e 0 0 9 1 1 6e 1q 0 64 34 0 7",
  "1 1 9 2a 0 64 jz 2 6e qc 1 9 u 0 9 4d 0 9 a 0 6e 5n 0 6c 3z 0 66 0 0 6e 0",
  "0 64 63 0 6e 0 0 64 1z 0 9 k 7 6e 2 0 64 1c 4 6e 0 5 64 0 1 6e 0 0 64 1 1",
  "64 0 1 6e 0 1 64 0 4 6e 0 0 64 0 h 6e 0 0 64 2 5 6e 0 0 64 0 3 6e 0 0 6i",
  "20 0 7 f 0 9 12 0 6e 0 0 64 0 6 6e 1i 1 9 1m 0 7 b 1 9 1v 0 7 48 2 6e 1 0",
  "1 0 4 64 0 1 6e 0 3 64 0 0 6e 1 6 1 4 0 64 6 0 6e 3 1 6e 5i 1 6e 0 0 64 0",
  "6 6e 0 0 64 0 1 6e 0 0 6i 0 0 5y 0 0 64 0 0 5m 0 10 6e 0 0 6g 0 1 6c 0 0",
  "64 0 0 62 0 0 6e 0 0 6h 0 0 64 0 0 6e 0 0 64 k0 1 6e 0 1 1 0 3 6e 0 2 1 0",
  "1 6e 4 0 6e 3 1 1 0 0 6e 0 0 64 0 0 6e 0 1 1 0 3 64 0 0 6e 2da 2 6e 3x 0 9",
  "2o v 6e fe 0 62 0 0 6c 0 0 6g 0 0 66 0 1 68 2x 1 8 n9w 0 6e 4 9 6e w 1 6e",
  "28 1 6e 7o 0 9 11 0 9 47 0 9 r h 6e 1l 2 64 11 0 9 2n 0 7 c 0 9 6n 0 6e 1",
  "1 6e 0 0 64 2 1 6e 5 1 6e 1 0 6e 1g 0 9 6u 0 9 fn4 0 q ld 6 6e 0 6 64 0 1",
  "6e r1 0 64 6a 0 64 45 4 6e 1aq 0 64 1 0 6e 14 0 6e 0 0 1 0 0 64 4 0 9 4l 0",
  "6e 0 0 64 fx 3 6e 1t 4 6e 8t 1 6e 25 1 64 1 2 64 1y 1 64 0 2 6e 0 0 64 0 0",
  "6e 0 3 64 1d 0 6e 0 0 64 0 0 6e 0 0 64 5c 0 9 15 0 9 e 0 9 1l 0 9 0 0 7 1x",
  "2 6e 1c 1 9 1q 0 7 24 0 9 9 0 7 2y 0 9 0 0 7 4y 0 7 0 0 9 28 1 7 g 0 9 o 6",
  "6e 3 4 6e 2h 2 9 35 0 9 3 0 7 n 0 6e 2r 0 9 0 0 7 6z 0 9 0 0 7 3i 0 9 3a 0",
  "9 0 0 7 37 0 9 7h 0 9 0 0 7 76 1 9 4 0 7 4c 0 9 2b 0 9 i 0 9 29 0 9 bp 0 9",
  "76 0 7 1 1 9 29 0 9 bt 1 9 d0s 0 9 1xc 4 1 1n 6 6e xl 1 6 f58 0 1 43q 1 60",
  "0 2 1 3 0 6a 0 4 60 8 7 64 2 4 6e 0 1 64 u 3 6e 44 2 6e 2pn 6 6e 1 g 6e 2",
  "6 6e 1 1 6e 1 4 6e 2s 0 6e 4g 6 6e af 0 6e 1p 3 6e e4 1 6g 0 0 64 0 0 6e",
  "72 0 6e 0 0 64 6r 0 6e 2 0 6e 7 1 6e 5 0 6e d6 6 64 31 5 6e 0 0 7"]

-- ============================================================ Korean

/-- The code point of the first syllable. -/
def syllableBase : Nat := 0xAC00

/-- The code point of the first leading consonant. -/
def leadBase : Nat := 0x1100

/-- The code point of the first vowel. -/
def vowelBase : Nat := 0x1161

/-- The code point before the first trailing consonant. -/
def trailBase : Nat := 0x11A7

/-- The two or three parts of a Korean syllable. -/
def splitSyllable (n : Nat) : List Char :=
  let index := n - syllableBase
  let lead := Char.ofNat (leadBase + index / 588)
  let vowel := Char.ofNat (vowelBase + index % 588 / 28)
  if index % 28 = 0 then [lead, vowel]
  else [lead, vowel, Char.ofNat (trailBase + index % 28)]

/-- The syllable that two parts make. -/
def joinSyllable (a b : Nat) : Option Char :=
  if leadBase ≤ a ∧ a < leadBase + 19 ∧ vowelBase ≤ b ∧ b < vowelBase + 21 then
    some (Char.ofNat
      (syllableBase + ((a - leadBase) * 21 + (b - vowelBase)) * 28))
  else if syllableBase ≤ a ∧ a < syllableBase + 11172
      ∧ (a - syllableBase) % 28 = 0 ∧ trailBase < b ∧ b < trailBase + 28 then
    some (Char.ofNat (a + (b - trailBase)))
  else none

-- ============================================================ taking apart

/-- The two characters that a character comes apart into. -/
def splitPair? (c : Char) : Option (Char × Char) :=
  let among (rows : Array (Nat × Char × Char)) : Option (Char × Char) :=
    match seek Prod.fst rows c.toNat 0 rows.size with
    | some (place, pair) => if place = c.toNat then some pair else none
    | none => none
  (among composites).or (among splitOnly)

/-- A character taken apart. No character comes apart more than `depth`
times over; the standard's depth is three. -/
def splitFully : Nat → Char → List Char
  | 0, c => [c]
  | depth + 1, c =>
      match splitPair? c with
      | some (first, second) =>
          splitFully depth first ++ splitFully depth second
      | none =>
          match singletons.find? c with
          | some other => splitFully depth other
          | none => [c]

/-- A character taken apart, Korean syllables included. -/
def split (c : Char) : List Char :=
  if syllableBase ≤ c.toNat ∧ c.toNat < syllableBase + 11172 then
    splitSyllable c.toNat
  else splitFully 5 c

-- ============================================================ ordering

/-- Puts `c` before the run of combining characters of a higher class
that `reversed` starts with. -/
def sink (c : Char) : List Char → List Char
  | [] => [c]
  | last :: earlier =>
      if combiningClass.of c ≠ 0
          ∧ combiningClass.of c < combiningClass.of last then
        last :: sink c earlier
      else c :: last :: earlier

/-- The text with every run of combining characters in class order. -/
def ordered (cs : List Char) : List Char :=
  (cs.foldl (fun reversed c => sink c reversed) []).reverse

-- ============================================================ joining

/-- The joint form of two characters. -/
def join? (a b : Char) : Option Char :=
  match joinSyllable a.toNat b.toNat with
  | some syllable => some syllable
  | none =>
      (composites.find? fun (_, first, second) => first = a ∧ second = b).map
        fun (place, _) => Char.ofNat place

/-- A text being joined: what is finished, last first; the latest
character of class zero; the combining characters after it, last first;
and the class of the last of them. -/
structure Joining where
  finished : List Char
  starter : Option Char
  pending : List Char
  lastClass : Nat

/-- The text joined so far, last character first. -/
def Joining.all (joining : Joining) : List Char :=
  joining.pending ++ joining.starter.toList ++ joining.finished

/-- Takes in one more character. It joins the latest character of class
zero unless a character between them has its class or a higher one. -/
def Joining.push (joining : Joining) (c : Char) : Joining :=
  let rank := combiningClass.of c
  let reachable := joining.pending.isEmpty || joining.lastClass < rank
  match joining.starter.bind fun starter =>
    if reachable then join? starter c else none with
  | some joint => { joining with starter := some joint }
  | none =>
      if rank = 0 then ⟨joining.all, some c, [], 0⟩
      else { joining with pending := c :: joining.pending, lastClass := rank }

/-- The composed form of a text. -/
def composed (cs : List Char) : List Char :=
  ((ordered (cs.flatMap split)).foldl Joining.push
    ⟨[], none, [], 0⟩).all.reverse

end SchemaDocs.Unicode
