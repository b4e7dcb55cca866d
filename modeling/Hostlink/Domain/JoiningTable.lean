import Hostlink.Text.RunTable

/-!
# How letters join

The table of the characters of domain names whose shapes join: `d` on both sides, `l` and `r` on one
side; `t` is looked through, and `-` does not join.
-/

namespace Hostlink.Domain

/-- The runs of the joining types. -/
def joiningLines : List String := [
  "-300 t71 -112 t8 -106 t2d - t - t2 - t2 - t9 -40 tb -5 d - r4 d r d r d5 r4 dd - d7 r d2",
  "t15 -e d2 t r3 -5 df r12 d26 r d2 r9 d r d r d2 r2 - r t8 - t6 -2 t2 - t4 r2 -a d3 -2 d -10",
  "r t d3 r5 d4 r d9 r d r d r d2 r t1d r db r3 df r2 d4 r d r2 d3 r2 d6 -26 tb -19 d21 t9 -9",
  "t -18 t4 - t9 - t3 - t7 -10 r d5 r2 d r da r d r3 t5 -2 d - d4 - r d r1a -3 d -2 d5 r d8 t9",
  "da r3 - r d2 r2 d6 r df - t39 -37 t - t -4 t8 -4 t -3 tf -2 t2 -1d t -3a t -4 t6 -6 t -14",
  "t4 -18 t5 -39 t2 -3 t1b -14 t2 -3 t -b t2 -39 t -4 t8 -4 t3 -12 t4 -14 t8 -3a t -2 t - t6",
  "-6 ta -b t4 -1c t -3d t -c t3 -30 t -3 t -37 t - t3 -5 t12 -a t4 -1b t -3a t -2 t -6 t -5",
  "t9 -d t4 -1a t2 -39 t2 -4 t5 -7 t -14 t4 -1b t -48 t5 -3 t6 -59 t -2 tb -8 t8 -62 t -2 t9",
  "-b t8 -48 t2 -1b t - t - t -37 te - t5 - t2 -5 t31 -8 t -66 t4 - t6 - t2 -2 t2 -19 t2 -4 t3",
  "-10 t4 -d t -2 t2 -6 t -f t -2bf t3 -3b2 t3 -1d t2 -1e te -12 te -37 t7 -8 t -2 tb -9 t3",
  "-27 d -18 d60 -5 t2 d22 t d6 -70 t3 -4 t2 -9 t -6 t7 -d7 t2 -2 t3 -38 t - t9 - t -2 t8 -6",
  "td -30 t54 -30 t - t5 - t -5 t -28 t9 -c t2 -20 t4 -2 t2 - t3 -38 t - t2 -3 t - t3 -3a t8",
  "-2 t5 -95 t3 - td - t7 -4 t -6 t -3 t2 -c6 t41 -2cf t34 -beb t4 -8c t -60 t20 -22a t4 -6b",
  "t4 -75d2 t4 - ta -20 t2 -50 t2 -110 t -3 t -4 t -19 t2 -5 t4 -10 d32 l -51 ta -12 t12 -d t",
  "-26 t8 -19 tb -2e t3 -30 t -2 t4 -2 t2 -27 t -43 t6 -2 t2 -2 tb -3 t -8 t -2f t -33 t - t3",
  "-2 t2 -5 t2 - t -2a t2 -8 tb -e4 t -2 t -4 t3 -4f2e t94 -26e t25 -3b8 t83 -60 t -95 ta -681",
  "tf -28 t8 -80 d5 r - r - r2 -2 l r5 d4 l d5 r d3 r -2 r t6 d4 r -90 d r d r3 d3 r d2 r d r2",
  "d r8 -10 r4 d2 -151 l d21 r d tc -39 t5 -13d t2 -15 r d2 - da -2a t6 -30 d3 r d11 - tb d3 r",
  "-1b d4 r2 dc t4 -2a d - d2 r3 - d r2 d2 r d2 - d r2 d -4 r d l15 -21 t -36 tf -29 t -2 t2",
  "-a t3 -31 t4 -2 t2 -7 te -30 t3 -24 t5 - t9 -3d t -c t2 -34 t9 -a t4 -2 t -5f t3 -2 t - t2",
  "-6 t -2 t3f -5f t -3 td -10 t2 -39 t2 -3 t -25 t1a -3b t7 -c t - t - t -e t1f -38 t8 -2 t3",
  "- t -17 t -54 t6 - t -4 t2 - t2 -ee t6 -4 t2 - t2 -1b t24 -33 t8 -2 t - t2 -6a t - t -2 t6",
  "- t -65 t - t -2 t4 - t9 -ff t9 - t2 -100 t2 - t -4 t -90 t8 -4 t -20 ta -28 t6 -2 t4 -8 t9",
  "- t6 -2 t3 -2e td - t2 -c6 t - t3 - t -c9 te - t -52 t17 - t7 - t2 - t4b -31 t15 - t9 -40",
  "t3 -2 t - t -15b t2 -b t2 -34 t8 -2 t - t -17 t56 -1490 t -6 t19 -2cbe tc -3 t3 -9c0 t5 -3b",
  "t7 -418 t -3f t4 -51 tc -4cad t2 -1261 t50 -217 t3 -11 t8 -2 t7 -1e t4 -94 t3 -7bb t37 -4",
  "t32 -8 t -e t -16 t465 -100 t100 -30 t7 -177 t12 -2c t4 -1fc t4 -fe t2 -f3 t -2 t -7 t2 -5",
  "t9 -1d2 t52 d22 tc -f16b0"]

/-- The joining types. -/
def joiningTable : Text.RunTable := .ofLines 0 joiningLines

end Hostlink.Domain
