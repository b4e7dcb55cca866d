import Hostlink.Text.RunTable

/-!
# Writing directions of characters

The table of the directional classes of the characters that domain names can have; what it says
about others is of no account.  The letters of the runs are

* `l`: written from left to right; `r`: from right to left; `a`: an Arabic letter;
* `e`: a European digit; `n`: an Arabic digit; `s`, `t`, `c`: what stands between or beside digits;
* `m`: a mark; `b`: a character without width; `o`: anything else.
-/

namespace Hostlink.Domain

/-- The runs of the directional classes. -/
def directionLines : List String := [
  "o24 t2 o5 s c s c2 eb o26 l1a o27 t4 oa t6 o29 l18 o l1c1 o2 l7 oe l2 o1c l o11 m71 l4 o2",
  "l7f o2 l8b m8 lff o5 t2 m2d r m r m2 r m2 r m9 r36 o2 a t2 a c a o2 mb a30 m15 na t n2 a3 m",
  "a65 m8 o m6 a2 m2 o m4 a2 ea a17 m a1e m1d a59 mb af r2b m9 r2 o4 r3 m r18 m4 r m9 r m3 r",
  "m7 r29 m5 r2 a37 m9 a2a m39 l37 m l m l4 m8 l4 m l3 mf l2 m2 l1d m l3a m l4 m6 l6 m l14 m4",
  "lc t2 l7 t l2 m5 l39 m2 l3 m1b l14 m2 l3 m lb m2 l39 m l4 m8 l4 m3 l12 m4 lb t8 l m8 l3a m",
  "l2 m l m6 l6 ma lb m4 l1c m l3d m lc m3 l23 o6 t o6 m l3 m l37 m l m3 l5 m12 la m4 l12 o7",
  "l2 m l3a m lf m9 ld m4 l1a m2 l39 m2 l4 m5 l7 m l14 m4 l1b m l48 m5 l3 m6 l59 m l2 mb t l7",
  "m8 l62 m l2 m9 lb m8 l48 m2 l1b m l m l m o4 l33 me l m5 l m2 l5 m31 l8 m l66 m4 l m6 l m2",
  "l2 m2 l19 m2 l4 m3 l10 m4 ld m l2 m2 l6 m lf m l2bf m3 l30 o10 l60 o l29a o5 l72 m3 l1d m2",
  "l1e me l12 me l37 m7 l8 m l2 mb l7 t l m3 l10 o20 l75 m2 l22 m l76 m3 l4 m2 l9 m l6 m7 o6",
  "l98 o22 l17 m2 l2 m3 l38 m l m9 l m l2 m8 l6 md l30 m54 l30 m l m5 l m l5 m l28 m9 lc m2",
  "l20 m4 l2 m2 l m3 l38 m l m2 l3 m l m3 l3a m8 l2 m5 l95 m3 l md l m7 l4 m l6 m l3 m2 lc6",
  "m41 l20b b4 o20 t5 of c o5b t21 of m34 o2a tc o14 l3c o88 s t o122 l45 o1a l o316 l o153",
  "l100 o330 lb5 o7 l3 m4 l6 o7 l7f m l60 m20 o205 l3 o19 l9 m4 l2 o l6 o4 l2 o4 l58 m4 l3 o",
  "l5a o lc4 o30 l1bd0 o40 l5690 o40 l13d o3 l5f m4 o ma o3 l1d m2 l50 m2 le o23 l65 o l79 m",
  "l3 m l4 m l19 m2 l o4 m4 l8 t8 l34 oc l44 ma l12 m12 ld m l26 m8 l19 mb l2e m3 l30 m l2 m4",
  "l2 m2 l27 m l43 m6 l2 m2 l2 mb l3 m l8 m l2f m l33 m l m3 l2 m2 l5 m2 l m l2a m2 l8 mb l69",
  "o56 l25 m l2 m l4 m3 l4f2e m94 a11 o25d m25 o2e a18d l101 o l3e o4d l3 o40 l2d m83 l60 m",
  "e1f l76 ma l480 r11f o re1 mf r28 m8 ra5 m6 r4e o7 r1c0 a24 mc n10 r29 m5 o r1f od2 n20 r2b",
  "m2 r15 ae o2a m6 r30 a16 mb a1f r12 m4 r7a l m l36 mf lb o14 la m l2 m2 la m3 l31 m4 l2 m2",
  "l7 me l30 m3 l24 m5 l m9 l3d m lc m2 l34 m9 la m4 l2 m l5f m3 l2 m l m2 l6 m l2 m3f l5f m",
  "l3 md l10 m2 l39 m2 l3 m l25 m1a l3b m7 lc m l m l m le m1f l38 m8 l2 m3 l m l17 m l54 m6 l",
  "m l4 m2 l m2 lee m6 l4 m2 l m2 l1b m24 l33 m8 l2 m l m2 l1f o20 l2b m l m l2 m6 l m l65 m3",
  "l2 m4 l m9 lff m9 l m2 l100 m2 l m l4 m l90 m8 l4 m l20 m6 l2 m2 l28 m6 l2 m4 l8 m9 l m6 l2",
  "m3 l2e md l m2 lc6 m l m3 l m lc9 me l54 m17 l m7 l m2 l m4b l31 m15 l m9 l40 m3 l2 m l m",
  "l15b m2 lb m2 l34 m8 l2 m l m l17 m56 l25 o8 t4 o1e l1441 m l6 m19 l2cbe mc l3 m3 l9c0 m5",
  "l3b m7 l418 m l3f m4 l4f o l mc l4cad m2 lf61 o300 m50 l217 m3 l11 m8 l2 m7 l1e m4 l3b o59",
  "m3 o7b l40 o60 l6a0 m37 l4 m32 l8 m le m l16 m465 l100 m100 l30 m7 l177 m12 l2c m4 lf t1d1",
  "l1c m4 lfe m2 lf3 m l2 m l7 m2 l5 m9 l102 rd0 m52 r22 m7 r326 a27f o260 l1d o3 l3d o39 l7a",
  "oda0 lf0000"]

/-- The directional classes. -/
def directionTable : Text.RunTable := .ofLines 0 directionLines

end Hostlink.Domain
