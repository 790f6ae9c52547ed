/-
Characters in domain names.

Before a domain name is looked at, each of its characters is replaced by
its preferred form: a capital by the small letter, a full-width letter by
the plain one, a ligature by its letters; some characters are dropped,
and some may not occur at all. The tables say which; ASCII needs none.
-/
import SchemaDocs.Unicode.Composed

namespace SchemaDocs.Url.Domain

open Unicode (Ranges Shifts Expansions)

-- ============================================================ ASCII

/-- Whether a character is ASCII. -/
def isAscii (c : Char) : Bool := c.toNat < 128

/-- An ASCII capital becomes the small letter. -/
def lowerAscii (c : Char) : Char :=
  if 'A' ≤ c ∧ c ≤ 'Z' then Char.ofNat (c.toNat + 32) else c

-- ============================================================ tables

/-- The characters that stay as they are. -/
def kept : Ranges := .ofLines [
  "0 1s q 10 x 6 1 0 1 1 1 0 1 1 4 1 3 0 3 0 n 0 7 w 1 0 1 0 1 0 1 0 1 0 1 0",
  "1 0 1 0 1 0 1 0 1 0 1 0 1 0 1 0 1 0 1 0 1 0 1 0 1 0 1 0 1 0 1 0 1 0 1 0 1",
  "0 3 0 1 1 1 0 1 0 1 0 3 0 1 0 1 0 1 0 2 0 1 0 1 0 1 0 1 0 1 0 1 0 1 0 1 0",
  "1 0 1 0 1 0 1 0 1 0 1 0 1 0 1 0 1 0 1 0 1 0 1 0 1 0 1 0 2 0 1 0 1 0 1 0 2",
  "0 1 0 2 0 3 1 4 0 2 0 3 2 2 0 2 0 1 0 1 0 2 0 1 1 1 0 2 0 3 0 1 0 2 2 1 6",
  "a 0 1 0 1 0 1 0 1 0 1 0 1 0 1 1 1 0 1 0 1 0 1 0 1 0 1 0 1 0 1 0 1 1 4 0 3",
  "0 1 0 1 0 1 0 1 0 1 0 1 0 1 0 1 0 1 0 1 0 1 0 1 0 1 0 1 0 1 0 1 0 1 0 1 0",
  "1 0 1 0 1 0 1 0 1 0 1 0 1 0 1 0 1 0 1 0 1 6 2 0 2 1 1 0 4 0 1 0 1 0 1 0 1",
  "2o 9 u 6 1 5 2n 1 8 1 v 1 0 1 2 1 0 3 3 8 0 8 0 r y 8 0 1 0 1 0 1 0 1 0 1",
  "0 1 0 1 0 1 0 1 0 1 0 1 0 1 0 3 0 2 0 1 0 2 1 1f 1b 1 0 1 0 1 0 1 0 1 0 1",
  "0 1 0 1 0 1 0 1 0 1 0 1 0 1 0 1 0 1 0 1 0 1 8 1 0 1 0 1 0 1 0 1 0 1 0 1 0",
  "1 0 1 0 1 0 1 0 1 0 1 0 1 0 1 0 1 0 1 0 1 0 1 0 1 0 1 0 1 0 1 0 1 0 1 0 1",
  "0 1 0 2 0 1 0 1 0 1 0 1 0 1 0 1 1 1 0 1 0 1 0 1 0 1 0 1 0 1 0 1 0 1 0 1 0",
  "1 0 1 0 1 0 1 0 1 0 1 0 1 0 1 0 1 0 1 0 1 0 1 0 1 0 1 0 1 0 1 0 1 0 1 0 1",
  "0 1 0 1 0 1 0 1 0 1 0 1 0 1 0 1 0 1 0 1 0 1 0 1 0 1 0 1 0 1 0 1 0 1 0 1 0",
  "1 0 15 19 1 2 2 2 1 1i 8 q 4 5 h l 1 2f 4 2r 1 1b 2 1m 2 2s e 1m 2 1c 2 e",
  "1 r 2 0 1 a 5 v 7 22 1 4g 1 7 2 1 2 l 1 6 1 0 3 3 2 8 2 1 2 3 8 0 4 1 1 4",
  "2 o 2 2 1 5 4 1 2 l 1 6 1 1 1 1 1 1 2 0 1 4 4 1 2 2 3 0 7 3 1 0 7 g a 2 1",
  "8 1 2 1 l 1 6 1 1 1 4 2 9 1 2 1 2 2 0 f 3 2 b 7 6 1 2 1 7 2 1 2 l 1 6 1 1",
  "1 4 2 8 2 1 2 2 7 2 4 1 1 4 2 h a 1 1 5 3 2 1 3 3 1 1 0 1 1 3 1 3 2 3 b 4",
  "4 3 2 1 3 2 0 6 0 e k 5 c 1 2 1 m 1 f 2 8 1 2 1 3 7 1 1 2 1 1 2 3 2 9 7 l",
  "1 2 1 m 1 9 1 4 2 8 1 2 1 3 7 1 5 2 1 3 2 9 1 2 c c 1 2 1 1e 1 2 1 5 4 f 2",
  "p 1 2 1 h 3 n 1 8 1 0 2 6 3 0 4 5 1 0 1 7 6 9 2 2 c 1d 1 6 4 s 11 1 1 0 1",
  "4 1 n 1 0 1 b 1 9 2 4 1 0 1 6 1 9 4 1 w b 1 1m 1 z 4 5 1 0 1 t 1 z 1 e 1 c",
  "11 4f 1c 17 1 2p 2 6f 1 3 2 6 1 0 1 3 2 14 1 3 2 w 1 3 2 6 1 0 1 3 2 e 1",
  "1k 1 3 2 1u 2 v 3 p 6 2d a hr 1 r 3 2g 7 l 9 n 9 j c c 1 2 1 1 c 1f 2 13 2",
  "9 6 9 6 a 5 9 6 2g 7 16 5 1x a u 1 b 4 b 4 0 3 15 2 4 b 17 4 p 6 a 3 1p 2",
  "1s 1 s 2 a 6 9 6 d 2 19 2 b k 24 1 4l 8 1n 3 e 3 1e a 0 1h 7 8 16 5 17 3 0",
  "b 0 i 0 s c 1 x 11 1r 1 0 1 0 1 0 1 0 1 0 1 0 1 0 1 0 1 0 1 0 1 0 1 0 1 0",
  "1 0 1 0 1 0 1 0 1 0 1 0 1 0 1 0 1 0 1 0 1 0 1 0 1 0 1 0 1 0 1 0 1 0 1 0 1",
  "0 1 0 1 0 1 0 1 0 1 0 1 0 1 0 1 0 1 0 1 0 1 0 1 0 1 0 1 0 1 0 1 0 1 0 1 0",
  "1 0 1 0 1 0 1 0 1 0 1 0 1 0 1 0 1 0 1 0 1 0 1 0 1 0 1 0 1 0 1 0 1 0 1 0 1",
  "0 1 0 1 0 1 0 1 0 1 0 1 4 2 1 1 0 1 0 1 0 1 0 1 0 1 0 1 0 1 0 1 0 1 0 1 0",
  "1 0 1 0 1 0 1 0 1 0 1 0 1 0 1 0 1 0 1 0 1 0 1 0 1 0 1 0 1 0 1 0 1 0 1 0 1",
  "0 1 0 1 0 1 0 1 0 1 0 1 0 1 0 1 0 1 0 1 0 1 0 1 0 1 0 1 0 1 0 1 0 1 0 1 0",
  "1 8 8 5 a 7 8 7 8 5 a 7 8 7 8 d 1e 1 4 0 7 0 7 0 9 3 2 1 8 7 7 0 6 0 l 1 2",
  "0 1 4 1 b 3 0 8 2 2 0 2 3 1 0 1 7 3 c 1 6 1t 7 1 o e w j 0 3 0 b 0 2 1 5 1",
  "3 0 1 0 1 0 1 0 4 0 b 0 6 3 5 5 1c 2 1 4 1 1 4 4b 2 0 2 e0 m a 4g 10g 1 2u",
  "3 70 2 3t 1c 1b 1 0 3 1 1 0 1 0 1 0 4 0 1 1 1 5 5 0 1 0 1 0 1 0 1 0 1 0 1",
  "0 1 0 1 0 1 0 1 0 1 0 1 0 1 0 1 0 1 0 1 0 1 0 1 0 1 0 1 0 1 0 1 0 1 0 1 0",
  "1 0 1 0 1 0 1 0 1 0 1 0 1 0 1 0 1 0 1 0 1 0 1 0 1 0 1 0 1 0 1 0 1 0 1 0 1",
  "0 1 0 1 0 1 0 1 0 1 0 1 7 1 0 1 3 1 0 5 18 1 0 5 0 2 1j 8 0 e n 9 6 1 6 1",
  "6 1 6 1 6 1 6 1 6 1 6 1 3h y p 1 3 1 2a 7i 0 1 1e 1 0 3 4 1 2d 2 1 2 1 1",
  "2m 6 16 2o 1 e 1x a f 20 7 1b 0 ao m8c 3 1i 9 9n l 0 1 0 1 0 1 0 1 0 1 0 1",
  "0 1 0 1 0 1 0 1 0 1 0 1 0 1 0 1 0 1 0 1 0 1 0 1 0 1 0 1 0 1 0 1 i 1 0 1 0",
  "1 0 1 0 1 0 1 0 1 0 1 0 1 0 1 0 1 0 1 0 1 0 1 0 2 2h 8 x 1 0 1 0 1 0 1 0 1",
  "0 1 0 1 2 1 0 1 0 1 0 1 0 1 0 1 0 1 0 1 0 1 0 1 0 1 0 1 0 1 0 1 0 1 0 1 0",
  "1 0 1 0 1 0 1 0 1 0 1 0 1 0 1 0 1 0 1 0 1 0 1 0 1 0 1 0 1 0 1 7 1 0 1 0 2",
  "0 1 0 1 0 1 0 1 3 1 0 1 1 1 0 1 2 1 0 1 0 1 0 1 0 1 0 1 0 1 0 1 0 1 0 1 0",
  "5 0 5 0 1 0 1 0 1 0 1 0 1 0 1 0 1 0 4 0 1 0 2 0 1 0 1 0 1 0 1 0 1 0 1 0 1",
  "0 q 1 2 1e 3 9 6 1j 8 1x 8 b 6 37 b t 3 25 1 a 4 w 1 1i 9 d 2 9 2 2u o r a",
  "5 2 5 2 5 9 6 1 6 1 17 4 8 1 1 2c 19 2 9 6 8mb c m 4 1c 6is a5 2 2x 1v 2 a",
  "c 1 4 1 0 1 1 1 1 1 8 2r w a3 h 1s 1 1i 7 19 2 w f l 1 18 0 b0 b 1 p 1 i 1",
  "1 1 e 2 d y 3e 5 2 4 18 3 2f 1 c 3 0 1b 19 3m s 3 1c f r 4 z 9 t 5 16 5 t",
  "1 10 4 d 2a 39 2 9 1a z 4 13 8 1f b 0 13 a 1 e 1 6 1 1 3 1f c 8m 9 l a 7 o",
  "0 3j 5 2 0 1 17 1 1 3 0 2 m 1 1z 8 8 1c i 1 1 5 w 3 q 5 q 12 1j 4 j 2 1d 1",
  "1 5 7 1 2 1 s 2 2 4 9 7 8 7 1r w 12 4 b 9 1h 3 s 2 q 5 p 7 3 c 6 28 20 3b",
  "1e 7 19 8 9 6 f p s 8 1 5s u 1 15 1 2 2 1 g 5 8 8 x 19 8 15 m p 12 r k m 9",
  "25 4 z 9 1p 1 4 d o 7 9 6 1g 1 h 8 12 9 2n 1 j b h 1 1a 1q 6 1 0 1 3 1 e 1",
  "a 6 1m 5 9 6 3 1 7 2 1 2 l 1 6 1 1 1 4 1 9 2 1 2 2 2 0 6 0 5 6 2 6 3 4 b 9",
  "1 0 2 0 1 11 1 9 1 0 2 0 1 3 1 9 1 1 8 1 t 2j 1 4 u 1z 8 9 4m 1h 2 11 y 1w",
  "b 9 6 c j 1l 6 9 6 j s q 2 e 4 m 55 1n 3o 1e c 7 2 0 2 7 1 1 1 t 1 1 2 b 9",
  "9 1y 7 2 19 2 a r 1z 8 2a d 20 7 9 2e 7 2g x e 9 6 8 1 18 1 d a s 3 v 2 l",
  "1 d 21 6 1 1 1 17 3 0 1 1 1 8 8 9 6 5 1 1 1 10 1 1 1 5 7 9 6 17 4 9 6u o 7",
  "g 1 14 3 s 2d 0 f 1d d pm 2u 32 1 4 b 5f 218 2q d tr g l a 32y 5 g6 5a1 1l",
  "1c6 fs 7 u 1 9 4 28 1 9 6 t 2 5 a 1x a 9 1 6 1 k 5 i c0 1l 6e 1m w o 18 22",
  "4 1k 7 g 1s 4 b 6 9 5p1 15 v 2p 36 6pp 3 1 6 1 1 1 82 f 0 t 2 2 0 e 3 8 az",
  "1s4 2y 5 c 3 8 7 9 2 3 31c 5x 10 2 3 c3 6 m f g f 19 2 m 9 37 1o 6t a 12 2",
  "21 8 33 l 1x 3e j c j c 2e 9 o w7 i3 f 4 1 e uo u 6 5 5x 6 1 g 2 6 1 1 1 4",
  "2s 0 34 18 3 d 2 9 4 1 8w u h 1l 5 0 cw 15 5y 16 4 0 5c u 1 l 8 1 68 6 1 3",
  "1 1 1 e 1 5g 2 f 23 15 4 9 4 1 lt 1v 24 1o c2 1 7i 17 4 2r c e 2 e 1 e 1",
  "10 l 4 v 0 w p 3 y 1 s 1k p 2o 5 4a rc 3 g 3 c 3 61 6 b 4 0 f b 4 1j 8 9 6",
  "13 8 t 2 b 4 1 e 8 13 9j 8 d 2 c 3 a 3 1k 1 0 4 f 2 b 4 9 7 42 1 2j a 0 sl",
  "wyn w 3dp 2 4gd 2 5rk f h9 1wi f1 15u 3t6 5 6jt"]

/-- The characters that are dropped. -/
def dropped : Ranges := .ofLines [
  "4t 0 ip 0 2rz 1 18z 1 2d 4 1kr 0 2c 4 5 5 3ck 0 14ez f 6n 0 4g 0 11bz 3",
  "43z 7 h479 6n"]

/-- The characters that are replaced by one other. -/
def replaced : Shifts := .ofLines [
  "4g 2 73 9 2 41 7 4 73 1 2 172 3 2 7j 0 2 45 5 1a 1s 1 e 1s x 1d 2 5 5 2 2",
  "7 2 3 9 2 2 1b 2 1 2 6p 0 7 2 1 2 ev 1 2 bo 0 5 2 1 2 bg 0 2 2 1 4 be 0 2",
  "2 2 2 4e 0 2 b8 0 2 ba 0 2 2 1 2 be 0 2 bi 1 2 bq 0 2 bm 0 2 2 3 2 bq 0 2",
  "bu 1 2 bw 0 7 2 1 2 c4 0 2 2 1 2 c4 2 2 2 1 2 c4 0 2 2 1 4 c2 0 5 2 1 2 c6",
  "0 2 2 3 2 2 g h 2 2 j 2 5 2 2 1 2 5d 0 2 33 0 15 2 1 2 77 1 j 2 7 2 gnq 0",
  "2 2 1 2 91 0 2 gnk 2 2 2 1 2 at 0 2 3u 0 2 3y 0 b 2 2p 2 wf 0 2 45 0 2 wf",
  "0 2 w1 0 2 39 0 2 37 0 2 2x 0 2 vz 0 2 vx 13 2 6x 0 2 yx 0 2 yl 0 2 yd 0 2",
  "4d 2o 2 6g 16 5 2 3 2 2 8 2 6g 6 2 24 1 6 22 1 2 3k 1 4 3i 1 y 1s 1 i 1s z",
  "2 g 0 2 1n 0 2 1d 0 2 p 0 2 b 0 2 h 0 2 t 0 2 17 1 p 2 1 2 2z 0 2 2n 0 2",
  "2l 1 2 3b 0 2 3j 1 2 2 1 2 2z 0 2 2 2 6 77 0 w 4g 0 1s 1s 1c z 2 9 1j 2 1",
  "2 u 0 f 2 2 2p 2 2 24 2o 1x1 2 1 b7 24 b7k 1 2 b7k 5 2 b7k 1a 2 1r l7 c f",
  "1oi 2 9ln 0 2 9ll 0 2 9l3 0 4 9kz 0 2 9l1 0 2 9kn 0 2 9jb 0 2 1ifa 0 2 2 6",
  "2e 4n3 2 6 4n3 30 2 bdh 0 2 b65 0 5 bdj 0 2 bdj 0 2 asp 0 g bdj 1 2 bdl 0",
  "2 apf 0 2 bdn 0 2 bdl 0 4 bdj 0 2 bdh 0 2 ber 0 4 anb 0 2 3r 0 2 bex 0 4",
  "bev 0 2 an5 0 4 an3 0 2 bez 1 2 bev 0 2 bet 0 2 b2j 0 2 bet 0 2 anx 0 4 3f",
  "0 2 bez 0 4 bet 0 2 3b 0 2 amt 0 2 bex 0 2 31 0 6 a51 0 4 a43 0 2 bg1 0 2",
  "bfl 0 4 bfh 0 4 a5j 0 2 a4t 0 4 a4l d 2 9yt y 2 as1 0 2 bjl 0 2 arz 0 2",
  "bbv 0 2 arp 0 2 bjn 0 2 arn 0 2 arl 0 2 arf 0 6 arb 0 2 2f 0 2 aol 0 2 arb",
  "0 2 21 0 2 aon 0 2 ar9 0 2 ard 0 8 arb 0 2 ar7 0 4 aqp 0 2 b2r 0 4 aqh 0 2",
  "8n 0 4 aqj 0 2 bk1 0 6 aqf 0 2 aa5 1s 47 2 6 2 37 2 2 br1 1 2p 2 9 g f 8 c",
  "f a g f 8 g f 8 c f b 9 f 8 g f 20 4 f 0 2 43 0 2 b31 c 2 4r 0 2 b3r 0 2",
  "4r 0 2 b3t c 4 f 0 2 5j 0 2 b4n c 4 f 0 2 67 0 2 b3v 0 2 d b 2 73 0 2 b4p",
  "0 2 6z 0 2 b4p 4 2 clb 0 2 cld 0 2 clf 0 2 clh 0 2 clj 0 2 cll 0 2 cln 0 2",
  "clp 0 2 clr 0 2 clt 0 2 clv 6 2 1 t 2 cnx 1b 2 cql g 2 cqn 0 2 cnj 2 c cqn",
  "0 2 crh 0 2 mm 0 2 cql 0 4 crt 0 2 co1 0 k crj 0 2 csd 0 2 lq 0 2 crh 0 4",
  "csp 1 2 cpp 0 2 cpj 0 2 cp1 0 2 col 0 2 bxx 0 2 cpl 0 8 cph 0 2 cpf 0 4",
  "cpb 2t 2 cvx 4 2 c47 2 4 cw5 0 2 cw7 0 2 cw9 0 2 cwb 0 2 clr 0 2 cwd 0 2",
  "cwf 0 2 cwb 0 5 cwd 3 6 cwh 0 2 cwj 0 2 cwl 6 2 cwj 1 2 bll 1 2 cwr 1 2",
  "cxp 0 2 cqz 0 4 cyb 1 2 cyb 0 4 cyd 0 2 1k 0 2 cy3 0 2 cy1 0 8 atl 0 2 cyn",
  "2 2 bnb 0 2 bo3 0 2 bo5 0 2 bnh 0 2 bm 4 2 czl 0 4 czn 0 4 czh m 2 d0t 3 2",
  "d0b 4 2 d0h 2 2 d1b 0 4 d1v 0 2 d1f 0 2 d1p 3 2 d17 4 2 d1d 2 2 d27 0 4",
  "d2r 0 2 d2b 3 2 2 kc i eal 25 1g ecp 0 1g ee5 0 2 eib 1ed 2o 2o 1c 2 2 1 2",
  "gkt 0 2 5vv 0 2 gjx 2 7 2 1 2 gmv 0 2 gl5 0 2 gn1 0 2 gmz 1 2 2 2 2 2 6 2",
  "her 0 2 he5 0 4 got 0 2t 2 8 5 2 4 2 2 3g 2 r 8f 2 o64 2b 2 18ig c 2 c8w 0",
  "2 cb2 0 2 cbs 0 2 cc8 0 2 cdm 0 2 cg0 0 2 cgc 0 2 che 0 2 cis 0 2 dik 0 2",
  "dkm 0 2 dkw 0 2 dm4 0 2 dn6 0 2 doa 0 2 dr6 0 2 dsa 0 2 dsu 0 2 e1e 0 2",
  "e6k 0 2 e82 0 2 e8a 0 2 e9w 0 2 eac 0 2 ebs 0 2 ecg 0 2 eds 0 2 egm 0 2",
  "ehk 0 2 ej0 0 2 foy 0 2 fsw 0 2 gie 0 2 gjm 0 2 gk0 0 2 gkk 0 2 gli 0 2",
  "gpo 0 2 hg4 0 2 hiq 0 2 hpc 0 2 hqk 0 2 hrk 0 2 hsq 0 2 hvo 0 2 hvs 0 2",
  "ifu 0 2 igc 0 2 igy 0 2 ihm 0 2 io0 0 2 ioe 0 2 iom 0 2 iv2 0 2 ivk 0 2",
  "iw8 0 2 iwm 0 2 izy 0 2 j0u 0 2 j1s 0 2 j66 0 2 k2e 0 2 k4w 0 2 k60 0 2",
  "lb2 0 2 lba 0 2 lfu 0 2 lgo 0 2 lhc 0 2 lig 0 2 lkk 0 2 lks 0 2 lzk 0 2",
  "m0u 0 2 m2k 0 2 nmy 0 2 nqk 0 2 nrs 0 2 nuy 0 2 nw8 0 2 nwo 0 2 nx0 0 2",
  "nzu 0 2 o02 0 2 o1s 0 2 ppo 0 2 qeg 0 2 qf2 0 2 qfa 0 2 qfg 0 2 qfu 0 2",
  "qgs 0 2 qgu 0 2 qla 0 2 qx8 0 2 qxg 0 2 rg8 0 2 rgq 0 2 rjg 0 2 rjs 0 2",
  "rk8 0 2 rkm 0 2 rpm 0 2 rpy 0 2 s2k 0 2 s2w 0 2 s5k 0 2 s6g 0 2 s90 0 2",
  "sm4 0 2 smg 0 2 snc 0 2 t5g 0 2 tce 0 2 tco 0 2 tmq 0 2 tri 0 2 tu0 0 2",
  "uey 0 2 uma 0 2 vi4 0 2 vjk 0 2 vmo 0 2 vpg 0 2 vt6 0 2 vtq 0 2 vu0 0 2",
  "vvs 0 2 vzy 0 2 w0g 0 2 wjm 0 2 wjy 0 2 wke 0 2 wku 0 2 wlo 0 2 wmg 0 2",
  "wmm 0 2 wqy 0 2 wr4 0 2 wre 0 2 y9u 0 2 ybg 0 2 z1g 0 2 z22 0 2 z3a 0 2",
  "ziy 0 2 zjm 0 2 zni 0 2 zq0 0 2 10lg 0 2 10m8 0 2 10n0 0 2 10ow 0 2 10qw 0",
  "2 111w 0 2 112i 0 2 1166 0 2 11jw 0 2 11lk 0 2 11x4 0 2 11y8 0 2 11yg 0 2",
  "12am 0 2 12ks 0 2 12ro 0 2 12ry 0 2 12s6 0 2 1480 0 2 148g 0 2 14h2 0 2",
  "14pk 0 2 14po 0 2 14s8 0 2 14y0 0 2 14yo 0 2 14yu 0 2 14z6 0 2 154k 0 2",
  "156e 0 2 156o 0 2 157e 0 2 15gm 0 2 15je 0 2 15jk 0 2 15to 0 2 15ts 0 2",
  "15us 0 2 168q 0 2 16bc 0 2 16bo 0 2 16fi 0 2 16g0 0 2 16g4 0 2 16gm 0 2",
  "16i8 0 2 1744 0 2 17qa 0 2 17qs 0 2 17su 0 2 17u0 0 2 17ue 0 2 17uw 0 2",
  "17v2 0 2 17x8 0 2 17xe 0 2 17ya 0 2 17yi 0 2 17z6 0 2 180m 0 2 181e 0 2",
  "181s 0 2 1850 0 2 185s 0 2 185y 16 2 iwv 1 2 iw7 1f 2 1z 1 2 dua 0 4 due",
  "6u 4 cpt 0 2 cgh 0 2 cpv 0 4 cgh 0 6 cpz 0 c cgj 0 2 cp7 0 6 cqd 0 2 cp1 0",
  "k cqf 0 16 cm3 1 4 crl 0 4 chr 0 2 chl 0 2 chj 0 2 chb 0 2 ch5 0 2 ch3 0 2",
  "crn 0 2 cgz 0 2 cgx 0 4 crr 0 2 crp 0 4 crn 0 2 crh 0 2 crf 0 a crd 0 2",
  "cr9 0 2 cr3 0 2 cql 0 2 cq9 0 2 cq1 0 4 cgx 0 6 cpl 0 4 cn9 0 2 cn5 0 4",
  "cmp 0 2 cmn 0 2 cm5 0 2 cm1 3 2 b8c 0 2 bg2 0 2 b8q 0 2 eq4 0 2 b8o 0 2",
  "bak 0 2 b8m 0 2 qpe 0 2 bcu 0 2 b98 0 2 b7u 0 2 fmg 0 2 euc 0 2 bhy 4k 2",
  "due 0 2 hgu 0 2 k8y 0 2 sy8 o 2 d6n 0 4 d6l 0 6 d6j 0 2 d6h 0 4 d6f 0 a",
  "d6d 0 2 1c10 0 2 1dua 0 2 1eqw 0 2 1gk6 0 2 1hgs 0 2 1ide 0 2 1k6o 0 2",
  "1lzy 0 2 1mwk 0 2 1opu 0 2 1pmg 0 2 1qj2 0 2 1rfo 0 2 1sca 2 2 1mjo 1 2",
  "av4 0 2 b2u 0 2 avi 0 2 ecw 0 2 b34 0 2 c7k 0 2 auy 0 2 c7c 0 2 azu 0 2",
  "cxc 0 2 kqk 0 2 og0 0 2 ms0 0 2 ks6 0 2 11mu 0 2 eg0 0 2 ka2 0 2 l6a 0 2",
  "kq6 0 2 rx2 0 2 d82 0 2 p8o 0 2 zkm 0 2 ryk 0 2 coo 0 2 s5a 0 2 qbe 0 2",
  "fcg 0 2 1122 0 2 c2i 0 2 cys 0 2 n0y 0 2 1422 0 2 b8g 0 2 c8e 0 2 mf4 0 2",
  "ato 0 2 avk 0 2 atm 0 2 h32 0 2 d5i 0 2 cv8 0 2 g62 0 2 g3a 0 2 qy6 0 2",
  "b6w 0 2 zle 0 2 cwa 0 2 f6g v 2 uz 0 2 ux 0 2 uv 0 2 ut 0 4 ur 0 2 up 0 2",
  "un 0 2 ul 0 2 uj 0 2 uh 0 2 uf 0 2 ud 0 2 ub 0 2 u9 0 2 u7 0 2 u5 0 2 u1 0",
  "2 tz 0 2 tx 0 c tv 0 2 tr 0 2 tn 0 2 tj 0 2 tf 0 a tb 0 2 t9 0 2 t7 0 c t5",
  "0 8 t3 mrl 1b 2 j t 2 1 2 1s4j 0 2 1s4h 3o f 2 3 1r 2 1 2 1 8 5 2 1 2 1iiv",
  "0 b 2 4 2 2 1 2 1t8v 2 5 2 3 l 2 1 2 1taf 0 2 1tb1 0 2 1tat 0 2 1ta9 0 2",
  "1taf 1 2 1t7n 0 2 1t8z 0 2 1t7t 0 2 1fk 0 h 2 1 2 2n 0 2 1tad 0 2 1ilr 0 5",
  "2 1 2 1tcd 0 h 2 1 2 1toh k 2 1u63 0 2 1u71 0 2 1u6x 0 2 1u6d 0 2 2 2 2",
  "1twh 0 2 1tu3 o2 2 1nt 0 2 23 0 2 1uqt 0 2 p 9 2 1upj 6 4g 1nz3 fog 2 2ovv",
  "0 2 2owx 0 4 2owt 0 6 2owh 0 2 2ovx 0 2 2ovv 0 2 2r5n 12 2 2oql 0 2 2oqn 0",
  "2 2oq5 0 2 2oq7 0 2 2oq9 0 2 2oqb 0 2 2oq7 0 2 2oq9 0 2 2oqb 0 2 2oqd 0 2",
  "2oqb 0 2 2oqd 0 2 2oqf 0 2 2oqh 0 2 2oqv 0 2 2oqx 0 2 2oqz 0 2 2or1 0 2",
  "2oqt 0 2 2oqv 0 2 2oqx 0 2 2oqz 0 2 2ord 0 2 2orf 0 2 2orh 0 2 2orj 0 2",
  "2op7 0 2 2op9 0 2 2opb 0 2 2opd 0 2 2opb 0 2 2opd 0 2 2opf 0 2 2oph 0 2",
  "2orf 0 2 2orh 0 2 2orj 0 2 2orl 0 2 2orp 0 2 2orr 0 2 2ort 0 2 2orv 0 2",
  "2orr 0 2 2ort 0 2 2orv 0 4 2orx 0 2 2orz 0 2 2os1 0 2 2os3 0 2 2ort 0 2",
  "2orv 0 2 2orz 0 2 2os1 0 2 2orz 0 2 2os1 0 2 2osf 0 2 2osh 0 2 2orn 0 2",
  "2orp 0 2 2os5 0 2 2os7 0 2 2oqx 0 2 2oqz 0 2 2or1 0 2 2or3 0 2 2oqt 0 2",
  "2oqv 0 2 2oqx 0 2 2oqz 0 2 2oqt 0 2 2oqv 0 2 2oqx 0 2 2oqz 0 2 2or5 0 2",
  "2or7 0 2 2or9 0 2 2orb 0 2 2oqv 0 4 2oqx 0 2 2oqz 0 2 2or1 0 2 2or3 0 2",
  "2oqv 0 4 2oqx 0 2 2oqz 0 2 2or1 0 2 2or3 0 2 2orb 0 2 2ord 0 2 2orf 0 2",
  "2orh 0 2 2oqf 0 4 2oqh 0 2 2oqj x 2 2ouj 0 2 2oul 0 2 2oun 0 2 2oup 0 2",
  "2otb 0 2 2otd 0 2 2oth 0 2 2otj 0 2 2oth 0 2 2otj 1 2 2oth 0 2 2otj 0 2",
  "2otx 0 2 2otz 0 2 2ott 0 2 2otv 0 2 2otj 0 2 2otl 0 2 2otn 0 2 2otp 0 2",
  "2p19 0 2 2p1b i 2 2ov3 0 2 2ov5 0 2 2ov7 0 2 2ov9 eo 2 2sav 0 2 29en 1 4",
  "2sa9 0 2 2sbr 0 2 2sa5 0 4 29dt o 2 2fqx 0 2 2fr1 0 2 2s9z 0 2 2sa1 0 4",
  "2sd5 0 2 2s8n 0 2 2s8l 0 4 29ft 0 4 29g5 0 4 29gl 0 4 29gt 0 8 29gp 2 2",
  "2sbb 0 2 2sb9 4 2 2sbf 0 2 2sbh 0 2 2sbj 0 2 2sef 0 2 29i7 2 2 2sdt 0 2",
  "2sdx 0 2 2sdp 0 2 2sff 0 2 2ft3 0 4 2sf5 0 2 2san 0 2 2sal 0 4 29ht 0 2",
  "2sfr 0 2 2sfn 0 4 2sfh 0 2 2sff 0 2 2sen 0 2 2sel 0 2 2sep 1 2 2sd3 0 4",
  "2sg9 0 2 2set k 4 2q4d 0 4 2q4f 0 4 2q4h 0 4 2q4j 0 4 2q4l 0 2 2q4n 0 2",
  "2q4p 0 4 2q4r 0 4 2q4t 0 2 2q4v 0 2 2q4x 0 4 2q4z 0 4 2q51 0 2 2q53 0 2",
  "2q55 0 4 2q57 0 2 2q59 0 2 2q5b 0 4 2q5d 0 2 2q5f 0 2 2q5h 0 4 2q5j 0 2",
  "2q5l 0 2 2q5n 0 4 2q5p 0 2 2q5r 0 2 2q5t 0 4 2q5v 0 4 2q5x 0 4 2q5z 0 4",
  "2q61 0 4 2q63 0 2 2q65 0 2 2q67 0 4 2q69 0 2 2q6b 0 2 2q6d 0 4 2q6f 0 2",
  "2q6h 0 2 2q6j 0 4 2q6l 0 2 2q6n 0 2 2q6p 0 4 2q6r 0 2 2q6t 0 2 2q6v 0 4",
  "2q6x 0 2 2q6z 0 2 2q71 0 4 2q73 0 2 2q75 0 2 2q77 0 4 2q79 0 2 2q7b 0 2",
  "2q7d 0 2 2q7f 0 2 2q73 0 2 2q75 0 2 2q77 0 4 2q79 0 2 2q7b 0 2 2q7d 0 4",
  "2q7f 0 2 2q7h 0 2 2q7j 0 4 2q7l 0 2 2q7n 0 2 2q7p 0 4 2q7r 0 2 2q7t 0 2",
  "2q7v 0 4 2q7x 0 2 2q7z 0 2 2q81 0 4 2q83 0 2 2q85 0 2 2q87 0 4 2q89 0 4",
  "2q8b 0 4 2q8d 0 2 2q8f 0 2 2q8h 0 2 2q8j c 1s 2sov 0 1g 2sn3 0 20 2sov 0 4",
  "2chf 0 2 2sth 0 4 29wr 0 2 29xh 0 2 29jn 0 2 29k7 0 2 29or 0 2 29op 0 2",
  "29on 0 2 29ol 0 2 29oj 0 2 29ld 0 2 29lb 0 2 29l9 0 2 29nb 0 2 29k7 0 2",
  "29p9 0 2 29p7 0 2 29p5 0 2 29p3 0 4 29p1 0 2 29oz 0 2 29ox 0 2 29ov 0 2",
  "29ot 0 2 29or 0 2 29op 0 2 29on 0 2 29ol 0 2 29oj 0 2 29oh 0 2 29of 0 2",
  "29ob 0 2 29o9 0 2 29o7 0 c 29o5 0 2 29o1 0 2 29nx 0 2 29nt 0 2 29np 0 a",
  "29nl 0 2 29nj 0 2 29nh 0 c 29nf 0 2 29nd 0 2 29n7 0 4 29s9 1 4 2m9t 0 2",
  "2m0h 0 2 2m9v 0 4 2m0h 0 6 2m9z 0 c 2m0j 0 2 2m97 0 6 2mad 0 2 2m91 0 k",
  "2maf 3 c 2m69 2 c 2m6d 2 c 2m6h 2 6 2m6l 3 4 2su3 0 2 2stn 1 2 2su3 0 2",
  "2su7 0 2 2g6x 1 2 2eh7 0 8 2fu9 0 2 2e8p 0 2 2e6d sx 28 28 3s 20 28 4c m",
  "26 1 u 26 1 e 26 1 4 26 dn 4 2uzl 0 2 2vqx 0 2 2v2t 0 2 2v6r 1 2 2v2f 0 2",
  "10eb 0 2 2v2f 0 2 2v2j 0 4 2v6x 0 2 2kfr 0 2 2v6z 0 2 2v6p 0 2 2v2l 0 2",
  "2v6h 0 2 2v6n 0 2 2v6t 0 2 2v3l 0 2 2vob 0 2 2v3n 0 2 2v6n 0 2 2v53 0 4",
  "2v31 0 2 2v6l 0 2 2d3k 0 2 11y5 0 2 2v6n 0 2 2d3g 0 2 2v4z 0 2 2d3e 0 2",
  "2vrn 0 4 2v6h 0 2 2vzb 0 2 2v6f 0 2 2d36 0 4 2v6d 0 2 2v6b 0 2 2v45 0 2",
  "2v4b 0 2 10gb 0 2 2v4d 0 2 2v65 0 2 2em5 1 2 2v5x 0 4 2v4z 0 2 2v5l 0 6",
  "2vhn 0 2 2d2a 0 2 2d3c xx 2u 3k 4d 18 1s 27u 1s 1s gw0 1s 1s 1s 1e 1i il9",
  "1g 51wp 0 k 520v 1dy 1g 54ql 0 1g 54s1 0 1g 54th 0 e 54ux 1 10 54ux 0 1g",
  "54wd 0 1g 54xt 0 5 54z9 0 2 54z9 2 2 54z9 2 4 54z9 2 8 54z9 1 g 54z9 0 8",
  "550p 1 5 550p 0 c 550p 1 m 550p 0 1g 5525 0 1g 553l 0 4 5551 1 8 5551 2 g",
  "5551 1 e 5551 1 1g 556h 0 4 557x 1 8 557x 1 a 557x 1 2 557x 3 e 557x 1 1g",
  "559d 0 1g 55at 0 1g 55c9 0 1g 55dp 0 1g 55f5 0 1g 55gl 0 1g 55i1 0 1g 55jh",
  "0 1g 55kx 0 1g 55md 0 1g 55nt 0 1g 55p9 0 1g 55qp 0 2 55gl 0 2 5523 2 y",
  "54h9 0 2 54ht 0 e 54h9 0 2 4sj7 0 y 54ip 0 2 54in 0 e 54ip 0 2 4skx 0 2",
  "54jx 0 2 54jt 0 2 54jr 0 2 54j5 0 2 54jh 0 2 54jl 0 y 54kh 0 2 54l1 0 e",
  "54kh 0 2 4smf 0 y 54lx 0 2 54lv 0 e 54lx 0 2 4so5 0 2 54n5 0 2 54n1 0 2",
  "54mz 0 2 54md 0 2 54mp 0 2 54mt 0 y 54np 0 2 54o9 0 e 54np 0 2 4spn 0 y",
  "54p5 0 2 54p3 0 e 54p5 0 2 4srd 0 2 54qd 0 2 54q9 0 2 54q7 0 2 54pl 0 2",
  "54px 0 2 54q1 0 y 54qx 0 2 54rh 0 e 54qx 0 2 4ssv 0 y 54sd 0 2 54sb 0 e",
  "54sd 0 2 4sul 0 2 54tl 0 2 54th 0 2 54tf 0 2 54st 0 2 54t5 0 2 54t9 0 y",
  "54u5 0 2 54up 0 e 54u5 0 2 4sw3 0 y 54vl 0 2 54vj 0 e 54vl 0 2 4sxt 0 2",
  "54wt 0 2 54wp 0 2 54wn 0 2 54w1 0 2 54wd 0 2 54wh 0 2 54ux 0 2 54uz 2 k",
  "56bf 0 k 56bz 0 k 56cj 0 k 56d3 0 k 56dn 1m8 i 581r 0 6 581p 0 m 581n 0 2",
  "581j 0 4 581h 0 2 3fy9 0 2 57tv 0 2 5817 0 2 5815 0 2 57t5 0 2 57wf 0 2",
  "57up 0 i 583l 0 4 583j 0 4 583f 0 2 583d 0 c 583b 0 4 5839 0 2 57zf 0 2",
  "582r 0 2 582v 0 2 582d 0 2 57y7 0 2 3g39 0 2 57xz 1oy 1w 1w ym 4 5cq9 0 2",
  "5cq3 0 2 5cpz 1 2 5cop 0 2 5cpz 0 2 5cqb 0 2 5cpt 0 2 5cot 0 8 5cp9 0 2",
  "5cqd 0 2 5cq3 0 2 5cpp 0 2 5cqf 0 2 5cpr 0 2 5cqr 0 2 5cqn 0 4 5cr9 0 2",
  "5cr5 0 2 5cr3 0 2 5cqt 0 2 5cqr 0 2 5cqp 0 2 5cnv 0 2 5cjp 0 2 5cl5 0 2",
  "5cnz 1 2 5cs1 0 2 5crv 1 2 5cqh 2 2 5cs3 1 2 5cql 0 8 5cr1 0 2 5cs5 0 2",
  "5crv 0 2 5crh 0 2 5cs7 0 2 5crj 1 2 5csf 0 4 5ct1 0 2 5csx 1 2 5csl 1 2",
  "5csh 6 2 5ctn 4 2 5ctv 1 2 5csd 1 5 5cst 0 2 5ctx 0 2 5ctn 1 2 5ctz 0 2",
  "5ctb 1 2 5cu7 2 2 5cup 1 2 5cud 1 2 5cu9 1 2 5cn9 1 2 5crj 1 2 5cvl 0 2",
  "5cvf 1 2 5cu1 2 2 5cvn 0 2 5cv5 0 2 5cu5 0 5 5cul 0 2 5cul 0 2 5cvp 0 2",
  "5cvf 0 2 5cv1 0 2 5cvr 0 2 5cv3 1 2 5cvz 0 4 5cwl 0 2 5cwh 1 2 5cw5 0 2",
  "5cw3 0 2 5cw1 0 2 5ct7 1 2 5cqh 1 4 5cxd 0 2 5cx7 0 2 5cx3 0 4 5cvt 0 2",
  "5cx3 0 2 5cxf 0 2 5cwx 0 2 5cvx 1 6 5cwd 0 2 5cxh 0 2 5cx7 0 2 5cwt 0 2",
  "5cxj 0 2 5cwv 0 2 5cxv 0 2 5cxr 0 4 5cyd 0 2 5cy9 0 2 5cy7 0 2 5cxx 0 2",
  "5cxv 0 2 5cxt 5 2 5cz5 0 2 5cyz 0 2 5cyv 1 2 5cxl 0 2 5cyv 0 2 5cz7 0 2",
  "5cyp 0 2 5cxp 1 6 5cy5 0 2 5cz9 0 2 5cyz 0 2 5cyl 0 2 5czb 0 2 5cyn 0 2",
  "5czn 0 2 5czj 0 4 5d05 0 2 5d01 0 2 5czz 0 2 5czp 0 2 5czn 0 2 5czl hb 2",
  "5g9b 0 2 5g8j 3 1g 5g9p 54 2 4xi1 d 2 4dxl 0 2 4goj 0 2 4jnv 0 2 4xhz 0 2",
  "4lqn 0 2 4hkl 0 2 3yat 0 2 4hjv 0 2 4lpj 0 2 4cfl 0 2 4835 0 2 4cn7 0 2",
  "4k9p 0 2 4f1d 0 2 4kkh 0 2 4cm5 0 2 4kcl 0 2 43b1 0 2 46it 0 2 3x83 0 2",
  "4hnr 0 2 4jiv 0 2 48wz 0 2 4dur 0 2 4dk5 0 2 4lzl 0 2 4lz5 0 2 3vsx 0 2",
  "4fpn 0 2 4lxb 0 2 4jn9 0 2 4dov 0 2 3wxr 0 2 4dyz 0 2 44td 0 2 44fl 0 2",
  "4jmf 0 2 4961 0 2 4c49 0 2 4c4d 0 2 46ix 0 2 4k99 0 2 4iyv 0 2 3vff k 2",
  "4f3l 0 2 4jpf 1we k 5klb"]

/-- The characters that are replaced by several others. -/
def expanded : Expansions := .ofLines [
  "4o 2 w lk 6 2 w lg 4 2 w ld 3 2 w mf 3 3 1d 6dg 1g 0 3 1d 6dg 1e 0 3 1f",
  "6dg 1g 35 2 2x lj 1 2 2x 2y 0 2 2x 2y b 2 30 53 0 2 30 53 8 2 jg 32 3e 2",
  "2s am 0 2 2s am 0 2 2s am 0 2 30 2y 0 2 30 2y 0 2 30 2y 0 2 32 2y 0 2 32",
  "2y 0 2 32 2y 10 2 2s 3e 0 2 2s 3e 0 2 2s 3e 6c 2 w li 0 2 w lj 0 2 w lm 0",
  "2 w mg 0 2 w lf 0 2 w ln 4c 2 w qh 9 2 w ld 0 3 w lk ld e9 2 12d 136 6l 2",
  "17r 19w 0 2 18o 19w 0 2 1c7 19w 0 2 18q 19w 1iy 2 2tp 2sy 3j 2 2x9 2wi 14",
  "2 2wb 2vt 0 2 2wb 2w1 49 3 33m 31t 328 1 3 33n 31t 328 2zk 2 2p ji 6d 2",
  "64g qh 0 2 64h qh 0 2 64i qh 0 2 64j qh 0 2 64k qh 0 2 64l qh 0 2 64m qh 0",
  "2 64n qh 0 2 64g qh 0 2 64h qh 0 2 64i qh 0 2 64j qh 0 2 64k qh 0 2 64l qh",
  "0 2 64m qh 0 2 64n qh 0 2 65c qh 0 2 65d qh 0 2 65e qh 0 2 65f qh 0 2 65g",
  "qh 0 2 65h qh 0 2 65i qh 0 2 65j qh 0 2 65c qh 0 2 65d qh 0 2 65e qh 0 2",
  "65f qh 0 2 65g qh 0 2 65h qh 0 2 65i qh 0 2 65j qh 0 2 674 qh 0 2 675 qh 0",
  "2 676 qh 0 2 677 qh 0 2 678 qh 0 2 679 qh 0 2 67a qh 0 2 67b qh 0 2 674 qh",
  "0 2 675 qh 0 2 676 qh 0 2 677 qh 0 2 678 qh 0 2 679 qh 0 2 67a qh 0 2 67b",
  "qh 2 2 67k qh 0 2 q9 qh 0 2 q4 qh 2 2 69i qh 4 2 q9 qh 0 2 w lv 1 2 w lv 0",
  "2 w n6 0 3 w lk n6 0 2 67o qh 0 2 qf qh 0 2 q6 qh 2 2 69y qh 4 2 qf qh 0 3",
  "w lv lc 0 3 w lv ld 0 3 w lv n6 d 3 w lw lc 0 3 w lw ld 0 3 w lw n6 d 3 w",
  "lk lc 0 3 w lk ld 3 2 67w qh 0 2 qx qh 0 2 r2 qh 2 2 6ba qh 4 2 qx qh 0 2",
  "w ld 0 2 w lw o 2 w mr r 2 6cy 6cy 0 3 6cy 6cy 6cy 1 2 6d1 6d1 0 3 6d1 6d1",
  "6d1 4 2 x x 1 2 w lh 8 2 1r 1r 0 2 1r x 0 2 x 1r d 4 6cy 6cy 6cy 6cy 28 2",
  "36 37 2f 3 2p 1b 2r 0 3 2p 1b 37 1 2 4w 2r 1 3 2r 1b 33 0 3 2r 1b 39 2 2",
  "4w 2u c 2 32 33 9 2 37 31 0 3 38 2t 30 0 2 38 31 o 3 2u 2p 3c k 3 1d 6dg",
  "1j 0 3 1d 6dg 1l 0 4 1d 6dg 1d 1c 0 3 1d 6dg 1f 0 3 1e 6dg 1f 0 3 1d 6dg",
  "1h 0 3 1e 6dg 1h 0 3 1f 6dg 1h 0 3 1g 6dg 1h 0 3 1d 6dg 1i 0 3 1h 6dg 1i 0",
  "3 1d 6dg 1k 0 3 1f 6dg 1k 0 3 1h 6dg 1k 0 3 1j 6dg 1k 0 2 1d 6dg 1 2 2x 2x",
  "0 3 2x 2x 2x 0 2 2x 3a 1 2 3a 2x 0 3 3a 2x 2x 0 4 3a 2x 2x 2x 0 2 2x 3c 1",
  "2 3c 2x 0 3 3c 2x 2x 5 2 2x 2x 0 3 2x 2x 2x 0 2 2x 3a 1 2 3a 2x 0 3 3a 2x",
  "2x 0 4 3a 2x 2x 2x 0 2 2x 3c 1 2 3c 2x 0 3 3c 2x 2x d 3 1c 6dg 1f 4i 2 6qz",
  "6qz 0 3 6qz 6qz 6qz 1 2 6r2 6r2 0 3 6r2 6r2 6r2 fs 2 1d 1c 0 2 1d 1d 0 2",
  "1d 1e 0 2 1d 1f 0 2 1d 1g 0 2 1d 1h 0 2 1d 1i 0 2 1d 1j 0 2 1d 1k 0 2 1d",
  "1l 0 2 1e 1c 0 3 14 1d 15 0 3 14 1e 15 0 3 14 1f 15 0 3 14 1g 15 0 3 14 1h",
  "15 0 3 14 1i 15 0 3 14 1j 15 0 3 14 1k 15 0 3 14 1l 15 0 4 14 1d 1c 15 0 4",
  "14 1d 1d 15 0 4 14 1d 1e 15 0 4 14 1d 1f 15 0 4 14 1d 1g 15 0 4 14 1d 1h",
  "15 0 4 14 1d 1i 15 0 4 14 1d 1j 15 0 4 14 1d 1k 15 0 4 14 1d 1l 15 0 4 14",
  "1e 1c 15 k 3 14 2p 15 0 3 14 2q 15 0 3 14 2r 15 0 3 14 2s 15 0 3 14 2t 15",
  "0 3 14 2u 15 0 3 14 2v 15 0 3 14 2w 15 0 3 14 2x 15 0 3 14 2y 15 0 3 14 2z",
  "15 0 3 14 30 15 0 3 14 31 15 0 3 14 32 15 0 3 14 33 15 0 3 14 34 15 0 3 14",
  "35 15 0 3 14 36 15 0 3 14 37 15 0 3 14 38 15 0 3 14 39 15 0 3 14 3a 15 0 3",
  "14 3b 15 0 3 14 3c 15 0 3 14 3d 15 0 3 14 3e 15 11y 4 6qz 6qz 6qz 6qz 2v 3",
  "1m 1m 1p 0 2 1p 1p 0 3 1p 1p 1p 17o 2 w 9ll 0 2 w 9lm 2 2 9l4 9l6 2n 2 9mb",
  "9mw 74 3 14 3cw 15 0 3 14 3cy 15 0 3 14 3cz 15 0 3 14 3d1 15 0 3 14 3d2 15",
  "0 3 14 3d3 15 0 3 14 3d5 15 0 3 14 3d7 15 0 3 14 3d8 15 0 3 14 3da 15 0 3",
  "14 3db 15 0 3 14 3dc 15 0 3 14 3dd 15 0 3 14 3de 15 0 3 14 xz4 15 0 3 14",
  "yvs 15 0 3 14 zc4 15 0 3 14 108s 15 0 3 14 10p4 15 0 3 14 115g 15 0 3 14",
  "1224 15 0 3 14 12ys 15 0 3 14 13f4 15 0 3 14 14bs 15 0 3 14 14s4 15 0 3 14",
  "158g 15 0 3 14 15os 15 0 3 14 1654 15 0 3 14 13p8 15 0 4 14 1350 13ic 15 0",
  "4 14 1350 16f8 15 1 3 14 feo 15 0 3 14 fik 15 0 3 14 fex 15 0 3 14 h5n 15",
  "0 3 14 fis 15 0 3 14 g31 15 0 3 14 fer 15 0 3 14 g2z 15 0 3 14 fh9 15 0 3",
  "14 gg1 15 0 3 14 kco 15 0 3 14 m7f 15 0 3 14 ldg 15 0 3 14 kdk 15 0 3 14",
  "ssx 15 0 3 14 h7j 15 0 3 14 k4l 15 0 3 14 kkq 15 0 3 14 kcp 15 0 3 14 ny6",
  "15 0 3 14 glp 15 0 3 14 mm1 15 0 3 14 rs1 15 0 3 14 nz1 15 0 3 14 gc4 15 0",
  "3 14 fkz 15 0 3 14 gos 15 0 3 14 i1y 15 0 3 14 nhf 15 0 3 14 flt 15 0 3 14",
  "rt3 15 0 3 14 ggk 15 0 3 14 nzh 15 0 3 14 fm9 15 0 3 14 pnu 15 0 3 14 po3",
  "15 c 3 34 38 2t 0 2 1e 1d 0 2 1e 1e 0 2 1e 1f 0 2 1e 1g 0 2 1e 1h 0 2 1e",
  "1i 0 2 1e 1j 0 2 1e 1k 0 2 1e 1l 0 2 1f 1c 0 2 1f 1d 0 2 1f 1e 0 2 1f 1f 0",
  "2 1f 1g 0 2 1f 1h s 2 14c8 y5c 0 2 13p8 13dk 1f 2 1f 1i 0 2 1f 1j 0 2 1f",
  "1k 0 2 1f 1l 0 2 1g 1c 0 2 1g 1d 0 2 1g 1e 0 2 1g 1f 0 2 1g 1g 0 2 1g 1h 0",
  "2 1g 1i 0 2 1g 1j 0 2 1g 1k 0 2 1g 1l 0 2 1h 1c 0 2 1d kco 0 2 1e kco 0 2",
  "1f kco 0 2 1g kco 0 2 1h kco 0 2 1i kco 0 2 1j kco 0 2 1k kco 0 2 1l kco 0",
  "3 1d 1c kco 0 3 1d 1d kco 0 3 1d 1e kco 0 2 2w 2v 0 3 2t 36 2v 0 2 2t 3a 0",
  "3 30 38 2s 1b 2 fl0 gp8 0 4 9lu 9n5 9oc 9mw 0 4 9lu 9nv 9n9 9lt 0 4 9lu",
  "9o3 9ne 9lu 0 3 9lu 9oc 9nv 0 4 9lw 9mz 9o3 9m8 0 3 9lw 9o3 9mp 0 3 9ly",
  "9m1 9o3 0 5 9m0 9mh 9m7 9oc 9mx 0 4 9m0 9oc 9m3 9oc 0 3 9m2 9o3 9mh 0 3",
  "9m2 9oc 9nk 0 3 9m3 9lw 9nu 0 4 9m3 9nt 9mr 9mw 0 4 9m3 9nx 9nu 9oc 0 3",
  "9m4 9nx 9o3 0 3 9m4 9o3 9ni 0 2 9m6 9m4 0 3 9m6 9mz 9oc 0 4 9m5 9np 9nu",
  "9oc 0 4 9m6 9nv 9mo 9oc 0 2 9m5 9nx 0 5 9m5 9nx 9m8 9nt 9nk 0 6 9m5 9nx",
  "9nl 9oc 9mw 9nv 0 5 9m5 9nx 9nz 9mr 9mw 0 3 9m8 9nt 9nk 0 5 9m8 9nt 9nk",
  "9mw 9o3 0 5 9m7 9nv 9mk 9lw 9nx 0 4 9m7 9nx 9oc 9n1 0 3 9m9 9oc 9mh 0 3",
  "9mb 9nv 9my 0 3 9mb 9oc 9nh 0 4 9md 9lw 9m7 9nv 0 5 9md 9o3 9mp 9oc 9nk 0",
  "4 9mf 9nu 9o3 9m8 0 3 9mj 9o3 9mp 0 3 9mj 9o3 9mw 0 3 9mo 9oc 9mh 0 2 9mv",
  "9mf 0 2 9mx 9nv 0 2 9mw 9o3 0 2 9my 9n2 0 3 9n2 9mr 9mw 0 3 9n3 9lw 9ms 0",
  "5 9n5 9oc 9mj 9o3 9mw 0 3 9n5 9oc 9ms 0 4 9n4 9oc 9nw 9nv 0 5 9n8 9lu 9mh",
  "9mw 9nv 0 3 9n8 9m7 9nv 0 2 9n8 9mb 0 2 9n7 9nv 0 5 9n9 9lt 9nt 9mr 9mx 0",
  "4 9n9 9lv 9oc 9mw 0 5 9na 9mr 9mf 9lz 9nv 0 3 9n9 9nt 9o3 0 5 9nc 9m7 9mn",
  "9oc 9nv 0 2 9ne 9ml 0 3 9ne 9mz 9n6 0 3 9nc 9nv 9ms 0 3 9ne 9o3 9mh 0 3",
  "9ne 9oc 9mg 0 3 9nd 9oc 9mn 0 4 9nh 9lw 9o3 9mw 0 3 9ng 9nv 9mw 0 2 9nf",
  "9o3 0 3 9nh 9o3 9mx 0 3 9nf 9oc 9nv 0 3 9nf 9oc 9o3 0 4 9ni 9lw 9m7 9nx 0",
  "3 9ni 9lw 9nv 0 3 9ni 9mr 9n3 0 3 9ni 9nv 9m7 0 5 9ni 9o3 9mf 9nr 9o3 0 4",
  "9nj 9m7 9nx 9o3 0 2 9nj 9nu 0 5 9nj 9nu 9n4 9oc 9nv 0 2 9nl 9m4 0 4 9nl",
  "9m4 9mw 9o3 0 4 9nl 9oc 9mw 9nv 0 3 9no 9oc 9mx 0 3 9no 9oc 9nv 0 3 9nq",
  "9lu 9o3 0 4 9nu 9mr 9mw 9nv 0 2 9nu 9nt 0 3 9nv 9n8 9oc 0 4 9nv 9oc 9na",
  "9nv 0 2 9nw 9nk 0 5 9nw 9o3 9mw 9ma 9o3 0 3 9nz 9mr 9mw 0 2 1c m9l 0 2 1d",
  "m9l 0 2 1e m9l 0 2 1f m9l 0 2 1g m9l 0 2 1h m9l 0 2 1i m9l 0 2 1j m9l 0 2",
  "1k m9l 0 2 1l m9l 0 3 1d 1c m9l 0 3 1d 1d m9l 0 3 1d 1e m9l 0 3 1d 1f m9l",
  "0 3 1d 1g m9l 0 3 1d 1h m9l 0 3 1d 1i m9l 0 3 1d 1j m9l 0 3 1d 1k m9l 0 3",
  "1d 1l m9l 0 3 1e 1c m9l 0 3 1e 1d m9l 0 3 1e 1e m9l 0 3 1e 1f m9l 0 3 1e",
  "1g m9l 0 3 2w 34 2p 0 2 2s 2p 0 2 2p 39 0 3 2q 2p 36 0 2 33 3a 0 2 34 2r 0",
  "2 2s 31 0 3 2s 31 1e 0 3 2s 31 1f 0 2 2x 39 0 2 inn jdc 0 2 k6l gp8 0 2",
  "hlz l7n 0 2 k5q lh7 0 4 kkq irz fmi ny6 0 2 34 2p 0 2 32 2p 0 2 qk 2p 0 2",
  "31 2p 0 2 2z 2p 0 2 2z 2q 0 2 31 2q 0 2 2v 2q 0 3 2r 2p 30 0 4 2z 2r 2p 30",
  "0 2 34 2u 0 2 32 2u 0 2 qk 2u 0 2 qk 2v 0 2 31 2v 0 2 2z 2v 0 2 2w 3e 0 3",
  "2z 2w 3e 0 3 31 2w 3e 0 3 2v 2w 3e 0 3 38 2w 3e 0 2 qk 30 0 2 31 30 0 2 2s",
  "30 0 2 2z 30 0 2 2u 31 0 2 32 31 0 2 qk 31 0 2 31 31 0 2 2r 31 0 2 2z 31 0",
  "3 31 31 1e 0 3 2r 31 1e 0 2 31 1e 0 3 2z 31 1e 0 3 31 31 1f 0 3 2r 31 1f 0",
  "2 31 1f 0 3 2z 31 1f 0 3 31 6qd 37 0 4 31 6qd 37 1e 0 2 34 2p 0 3 2z 34 2p",
  "0 3 31 34 2p 0 3 2v 34 2p 0 3 36 2p 2s 0 5 36 2p 2s 6qd 37 0 6 36 2p 2s",
  "6qd 37 1e 0 2 34 37 0 2 32 37 0 2 qk 37 0 2 31 37 0 2 34 3a 0 2 32 3a 0 2",
  "qk 3a 0 2 31 3a 0 2 2z 3a 0 2 31 3a 0 2 34 3b 0 2 32 3b 0 2 qk 3b 0 2 31",
  "3b 0 2 2z 3b 0 2 31 3b 0 2 2z qx 0 2 31 qx 1 2 2q 35 0 2 2r 2r 0 2 2r 2s 0",
  "4 2r 6qd 2z 2v 1 2 2s 2q 0 2 2v 3d 0 2 2w 2p 0 2 2w 34 0 2 2x 32 0 2 2z 2z",
  "0 2 2z 31 0 2 2z 38 0 2 30 31 0 2 30 32 0 3 30 33 2v 0 2 30 3c 0 2 31 2q 0",
  "3 31 2x 30 0 3 31 33 30 0 2 34 2w 1 3 34 34 31 0 2 34 36 0 2 37 36 0 2 37",
  "3a 0 2 3b 2q 0 3 3a 6qd 31 0 3 2p 6qd 31 0 2 1d k4l 0 2 1e k4l 0 2 1f k4l",
  "0 2 1g k4l 0 2 1h k4l 0 2 1i k4l 0 2 1j k4l 0 2 1k k4l 0 2 1l k4l 0 3 1d",
  "1c k4l 0 3 1d 1d k4l 0 3 1d 1e k4l 0 3 1d 1f k4l 0 3 1d 1g k4l 0 3 1d 1h",
  "k4l 0 3 1d 1i k4l 0 3 1d 1j k4l 0 3 1d 1k k4l 0 3 1d 1l k4l 0 3 1e 1c k4l",
  "0 3 1e 1d k4l 0 3 1e 1e k4l 0 3 1e 1f k4l 0 3 1e 1g k4l 0 3 1e 1h k4l 0 3",
  "1e 1i k4l 0 3 1e 1j k4l 0 3 1e 1k k4l 0 3 1e 1l k4l 0 3 1f 1c k4l 0 3 1f",
  "1d k4l 0 3 2v 2p 30 13b4 2 2u 2u 0 2 2u 2x 0 2 2u 30 0 3 2u 2u 2x 0 3 2u",
  "2u 30 0 2 37 38 0 2 37 38 c 2 12s 12u 0 2 12s 12d 0 2 12s 12j 0 2 132 12u",
  "0 2 12s 12l 1j 2 15c 15o 3x 2 1c7 19w c 2 17q 17r 0 2 17q 17r 0 2 17q 1cl",
  "0 2 17q 1cl 0 2 17q 18o 0 2 17q 18o 0 2 17q 1c7 0 2 17q 1c7 0 2 17q 1c6 0",
  "2 17q 1c6 0 2 17q 1c8 0 2 17q 1c8 0 2 17q 1cg 0 2 17q 1cg 0 2 17q 1cg 0 2",
  "17q 18p 0 2 17q 18p 0 2 17q 18p 4 2 17q 17w 0 2 17q 17x 0 2 17q 18l 0 2",
  "17q 18p 0 2 17q 18q 0 2 17s 17w 0 2 17s 17x 0 2 17s 17y 0 2 17s 18l 0 2",
  "17s 18p 0 2 17s 18q 0 2 17u 17w 0 2 17u 17x 0 2 17u 17y 0 2 17u 18l 0 2",
  "17u 18p 0 2 17u 18q 0 2 17v 17w 0 2 17v 18l 0 2 17v 18p 0 2 17v 18q 0 2",
  "17w 17x 0 2 17w 18l 0 2 17x 17w 0 2 17x 18l 0 2 17y 17w 0 2 17y 17x 0 2",
  "17y 18l 0 2 183 17w 0 2 183 17x 0 2 183 17y 0 2 183 18l 0 2 185 17x 0 2",
  "185 18l 0 2 186 17w 0 2 186 17x 0 2 186 17y 0 2 186 18l 0 2 187 17x 0 2",
  "187 18l 0 2 188 18l 0 2 189 17w 0 2 189 18l 0 2 18a 17w 0 2 18a 18l 0 2",
  "18h 17w 0 2 18h 17x 0 2 18h 17y 0 2 18h 18l 0 2 18h 18p 0 2 18h 18q 0 2",
  "18i 17x 0 2 18i 18l 0 2 18i 18p 0 2 18i 18q 0 2 18j 17r 0 2 18j 17w 0 2",
  "18j 17x 0 2 18j 17y 0 2 18j 18k 0 2 18j 18l 0 2 18j 18p 0 2 18j 18q 0 2",
  "18k 17w 0 2 18k 17x 0 2 18k 17y 0 2 18k 18l 0 2 18k 18p 0 2 18k 18q 0 2",
  "18l 17w 0 2 18l 17x 0 2 18l 17y 0 2 18l 18l 0 2 18l 18p 0 2 18l 18q 0 2",
  "18m 17w 0 2 18m 17x 0 2 18m 17y 0 2 18m 18l 0 2 18m 18p 0 2 18m 18q 0 2",
  "18n 17w 0 2 18n 18l 0 2 18n 18p 0 2 18n 18q 0 2 18q 17w 0 2 18q 17x 0 2",
  "18q 17y 0 2 18q 18l 0 2 18q 18p 0 2 18q 18q 0 2 180 19s 0 2 181 19s 0 2",
  "18p 19s 0 3 w 18s 18x 0 3 w 18t 18x 0 3 w 18u 18x 0 3 w 18v 18x 0 3 w 18w",
  "18x 0 3 w 18x 19s 0 2 17q 181 0 2 17q 182 0 2 17q 18l 0 2 17q 18m 0 2 17q",
  "18p 0 2 17q 18q 0 2 17s 181 0 2 17s 182 0 2 17s 18l 0 2 17s 18m 0 2 17s",
  "18p 0 2 17s 18q 0 2 17u 181 0 2 17u 182 0 2 17u 18l 0 2 17u 18m 0 2 17u",
  "18p 0 2 17u 18q 0 2 17v 181 0 2 17v 182 0 2 17v 18l 0 2 17v 18m 0 2 17v",
  "18p 0 2 17v 18q 0 2 18h 18p 0 2 18h 18q 0 2 18i 18p 0 2 18i 18q 0 2 18j",
  "17r 0 2 18j 18k 0 2 18j 18l 0 2 18j 18p 0 2 18j 18q 0 2 18k 18l 0 2 18k",
  "18p 0 2 18k 18q 0 2 18l 17r 0 2 18l 18l 0 2 18m 181 0 2 18m 182 0 2 18m",
  "18l 0 2 18m 18m 0 2 18m 18p 0 2 18m 18q 0 2 18p 19s 0 2 18q 181 0 2 18q",
  "182 0 2 18q 18l 0 2 18q 18m 0 2 18q 18p 0 2 18q 18q 0 2 17q 17w 0 2 17q",
  "17x 0 2 17q 17y 0 2 17q 18l 0 2 17q 18n 0 2 17s 17w 0 2 17s 17x 0 2 17s",
  "17y 0 2 17s 18l 0 2 17s 18n 0 2 17u 17w 0 2 17u 17x 0 2 17u 17y 0 2 17u",
  "18l 0 2 17u 18n 0 2 17v 18l 0 2 17w 17x 0 2 17w 18l 0 2 17x 17w 0 2 17x",
  "18l 0 2 17y 17w 0 2 17y 18l 0 2 183 17w 0 2 183 17x 0 2 183 17y 0 2 183",
  "18l 0 2 185 17x 0 2 185 17y 0 2 185 18l 0 2 186 17w 0 2 186 17x 0 2 186",
  "17y 0 2 186 18l 0 2 187 17x 0 2 188 18l 0 2 189 17w 0 2 189 18l 0 2 18a",
  "17w 0 2 18a 18l 0 2 18h 17w 0 2 18h 17x 0 2 18h 17y 0 2 18h 18l 0 2 18i",
  "17x 0 2 18i 18l 0 2 18j 17w 0 2 18j 17x 0 2 18j 17y 0 2 18j 18k 0 2 18j",
  "18l 0 2 18k 17w 0 2 18k 17x 0 2 18k 17y 0 2 18k 18l 0 2 18k 18n 0 2 18l",
  "17w 0 2 18l 17x 0 2 18l 17y 0 2 18l 18l 0 2 18m 17w 0 2 18m 17x 0 2 18m",
  "17y 0 2 18m 18l 0 2 18m 18n 0 2 18n 17w 0 2 18n 18l 0 2 18n 19s 0 2 18q",
  "17w 0 2 18q 17x 0 2 18q 17y 0 2 18q 18l 0 2 18q 18n 0 2 17q 18l 0 2 17q",
  "18n 0 2 17s 18l 0 2 17s 18n 0 2 17u 18l 0 2 17u 18n 0 2 17v 18l 0 2 17v",
  "18n 0 2 183 18l 0 2 183 18n 0 2 184 18l 0 2 184 18n 0 2 18j 18k 0 2 18j",
  "18l 0 2 18k 18l 0 2 18m 18l 0 2 18m 18n 0 2 18q 18l 0 2 18q 18n 0 3 18g",
  "18u 18x 0 3 18g 18v 18x 0 3 18g 18w 18x 0 2 187 18p 0 2 187 18q 0 2 189",
  "18p 0 2 189 18q 0 2 18a 18p 0 2 18a 18q 0 2 183 18p 0 2 183 18q 0 2 184",
  "18p 0 2 184 18q 0 2 17x 18p 0 2 17x 18q 0 2 17w 18p 0 2 17w 18q 0 2 17y",
  "18p 0 2 17y 18q 0 2 185 18p 0 2 185 18q 0 2 186 18p 0 2 186 18q 0 2 184",
  "17w 0 2 184 17x 0 2 184 17y 0 2 184 18l 0 2 184 181 0 2 183 181 0 2 185",
  "181 0 2 186 181 0 2 187 18p 0 2 187 18q 0 2 189 18p 0 2 189 18q 0 2 18a",
  "18p 0 2 18a 18q 0 2 183 18p 0 2 183 18q 0 2 184 18p 0 2 184 18q 0 2 17x",
  "18p 0 2 17x 18q 0 2 17w 18p 0 2 17w 18q 0 2 17y 18p 0 2 17y 18q 0 2 185",
  "18p 0 2 185 18q 0 2 186 18p 0 2 186 18q 0 2 184 17w 0 2 184 17x 0 2 184",
  "17y 0 2 184 18l 0 2 184 181 0 2 183 181 0 2 185 181 0 2 186 181 0 2 184",
  "17w 0 2 184 17x 0 2 184 17y 0 2 184 18l 0 2 183 18n 0 2 184 18n 0 2 187",
  "18l 0 2 183 17w 0 2 183 17x 0 2 183 17y 0 2 184 17w 0 2 184 17x 0 2 184",
  "17y 0 2 187 18l 0 2 188 18l 0 2 17r 18r 0 2 17r 18r i 3 17u 17w 18l 0 3",
  "17u 17x 17w 0 3 17u 17x 17w 0 3 17u 17x 18l 0 3 17u 17y 18l 0 3 17u 18l",
  "17w 0 3 17u 18l 17x 0 3 17u 18l 17y 0 3 17w 18l 17x 0 3 17w 18l 17x 0 3",
  "17x 18l 18q 0 3 17x 18l 18p 0 3 183 17x 17w 0 3 183 17w 17x 0 3 183 17w",
  "18p 0 3 183 18l 17x 0 3 183 18l 17x 0 3 183 18l 17w 0 3 183 18l 18l 0 3",
  "183 18l 18l 0 3 185 17x 17x 0 3 185 17x 17x 0 3 185 18l 18l 0 3 184 17x",
  "18l 0 3 184 17x 18l 0 3 184 17w 18q 0 3 184 18l 17y 0 3 184 18l 17y 0 3",
  "184 18l 18l 0 3 184 18l 18l 0 3 186 17x 18p 0 3 186 17y 18l 0 3 186 17y",
  "18l 0 3 187 18l 17x 0 3 187 18l 17x 0 3 187 18l 18l 0 3 187 18l 18q 0 3",
  "189 17w 18l 0 3 189 18l 18l 0 3 189 18l 18l 0 3 189 18l 18p 0 3 18a 18l",
  "18l 0 3 18a 18l 18q 0 3 18a 18l 18p 0 3 18h 17y 18l 0 3 18h 17y 18l 0 3",
  "18i 18l 17x 0 3 18i 18l 18l 0 3 18k 17x 18l 0 3 18k 17x 18q 0 3 18k 17x",
  "18p 0 3 18k 17w 17w 0 3 18k 17w 17w 0 3 18k 17y 18l 0 3 18k 17y 18l 0 3",
  "18k 18l 17x 0 3 18k 18l 17x 0 3 18l 17x 17w 0 3 18l 17x 18l 0 3 18l 17x",
  "18q 0 3 18l 17w 17x 0 3 18l 17w 18l 0 3 18l 17y 17w 0 3 18l 17y 18l 2 3",
  "18l 17w 17y 0 3 18n 18l 17w 0 3 18n 18l 18l 0 3 18m 17x 18l 0 3 18m 17x",
  "18p 0 3 18m 17w 18l 0 3 18m 17w 18l 0 3 18m 17w 18p 0 3 18m 18l 18q 0 3",
  "18m 18l 18p 0 3 18q 18l 18l 0 3 18q 18l 18l 0 3 17s 17y 18q 0 3 17u 17w",
  "18q 0 3 17u 17w 18p 0 3 17u 17y 18q 0 3 17u 17y 18p 0 3 17u 18l 18q 0 3",
  "17u 18l 18p 0 3 17w 18l 18q 0 3 17w 17x 18p 0 3 17w 18l 18p 0 3 183 17y",
  "18p 0 3 185 17x 18q 0 3 184 17x 18q 0 3 186 17x 18q 0 3 18k 17w 18q 0 3",
  "18k 18l 18q 0 3 18q 17x 18q 0 3 18q 17w 18q 0 3 18q 18l 18q 0 3 18l 18l",
  "18q 0 3 18i 18l 18q 0 3 18m 17x 18q 0 3 18i 18l 17x 0 3 18k 17x 18l 0 3",
  "189 18l 18q 0 3 18j 18l 18q 0 3 18m 17w 17x 0 3 18l 17y 18q 0 3 18k 17w",
  "18l 0 3 18j 18l 18l 0 3 18k 17w 18l 0 3 18m 17w 17x 0 3 17w 17x 18q 0 3",
  "17x 17w 18q 0 3 18l 17w 18q 0 3 18h 18l 18q 0 3 17s 17x 18q 0 3 18j 18l",
  "18l 0 3 189 17w 18l 0 3 185 18l 18l 0 3 183 17y 18q 0 3 18m 17w 18q 14 3",
  "185 18k 1ci 0 3 18i 18k 1ci 0 4 17r 18k 18k 18n 0 4 17r 18j 17s 181 0 4",
  "18l 17x 18l 17z 0 4 185 18k 189 18l 0 4 181 183 18o 18k 0 4 189 18k 18q",
  "18n 0 4 18o 183 18k 18l 0 3 185 18k 18p 0 i 185 18k 18p w 17r 18k 18k 18n",
  "w 189 18k 18q 18n w 18o 183 18k 18l 0 8 17w 18k w 17w 18k 17r 18k 18n 0 4",
  "181 1cc 17r 18k 24 2 w lh 0 2 w lh 0 2 w lh 0 2 w lh z 2 w 18r 0 2 18g 18r",
  "0 2 w 18s 1 2 w 18t 1 2 w 18u 0 2 18g 18u 0 2 w 18v 0 2 18g 18v 0 2 w 18w",
  "0 2 18g 18w 0 2 w 18x 0 2 18g 18x 0 2 w 18y 0 2 18g 18y 39 2 18k 17m 0 2",
  "18k 17m 0 2 18k 17n 0 2 18k 17n 0 2 18k 17p 0 2 18k 17p 0 2 18k 17r 0 2",
  "18k 17r 6e 2 w lg 1bml 2 1c 18 0 2 1d 18 0 2 1e 18 0 2 1f 18 0 2 1g 18 0 2",
  "1h 18 0 2 1i 18 0 2 1j 18 0 2 1k 18 0 2 1l 18 5 3 14 2p 15 0 3 14 2q 15 0",
  "3 14 2r 15 0 3 14 2s 15 0 3 14 2t 15 0 3 14 2u 15 0 3 14 2v 15 0 3 14 2w",
  "15 0 3 14 2x 15 0 3 14 2y 15 0 3 14 2z 15 0 3 14 30 15 0 3 14 31 15 0 3 14",
  "32 15 0 3 14 33 15 0 3 14 34 15 0 3 14 35 15 0 3 14 36 15 0 3 14 37 15 0 3",
  "14 38 15 0 3 14 39 15 0 3 14 3a 15 0 3 14 3b 15 0 3 14 3c 15 0 3 14 3d 15",
  "0 3 14 3e 15 0 3 9hw 37 9hx 2 2 2r 2s 0 2 3b 3e r 2 2w 3a 0 2 31 3a 0 2 37",
  "2s 0 2 37 37 0 3 34 34 3a 0 2 3b 2r q 2 31 2r 0 2 31 2s 0 2 31 36 z 2 2s",
  "2y 33 2 9kr 9jf 0 2 9mb 9mb 1q 3 9hw kdo 9hx 0 3 9hw fex 9hx 0 3 9hw fik",
  "9hx 0 3 9hw i2x 9hx 0 3 9hw m9l 9hx 0 3 9hw jf7 9hx 0 3 9hw nh3 9hx 0 3",
  "9hw gd9 9hx 0 3 9hw k0n 9hx"]

-- ============================================================ mapping

/-- What becomes of a character; `none` if it may not occur. -/
def mapChar (c : Char) : Option (List Char) :=
  if isAscii c then some [lowerAscii c]
  else if kept.contains c then some [c]
  else if dropped.contains c then some []
  else
    match expanded.find? c with
    | some text => some text
    | none => (replaced.find? c).map ([·])

/-- A name with every character in its preferred form, in composed form. -/
def mapped (name : List Char) : Option (List Char) :=
  if name.all isAscii then some (name.map lowerAscii)
  else (name.mapM mapChar).map fun parts => Unicode.composed parts.flatten

end SchemaDocs.Url.Domain
