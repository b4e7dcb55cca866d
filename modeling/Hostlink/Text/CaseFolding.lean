import Hostlink.Text.RunTable

/-!
# Letters in two cases

Characters that differ in case only have one common form.  The runs of the table have the letter
`f` if the forms of the characters are neighbours, which begin at the code point behind the colon,
and `p` if the first and every second character after it has its neighbour as its form.
-/

namespace Hostlink.Text

/-- The runs of the characters that have another one as their form. -/
def foldingLines : List String := [
  "-41 f1a:61 -65 f17:e0 - f7:f8 -21 p30 -2 p6 - p10 - p2e f:ff p6 f:73 - f:253 p4 f:254 p2",
  "f2:256 p2 - f:1dd f:259 f:25b p2 f:260 f:263 - f:269 f:268 p2 -2 f:26f f:272 - f:275 p6 f:280",
  "p2 f:283 -2 p2 f:288 p2 f2:28a p4 f:292 p2 -2 p2 -6 f:1c6 p2 f:1c9 p2 f:1cc p12 - p12 - f:1f3",
  "p4 f:195 f:1bf p28 f:19e - p12 -6 f:2c65 p2 f:19a f:2c66 -2 p2 f:180 f:289 f:28c pa -120 p4",
  "-2 p2 -7 f:3f3 -6 f:3ac - f3:3ad - f:3cc - f2:3cd - f8:3b1 f:345 f2:3ba f:b5 f5:3bd - f9:3c3",
  "-d f:345 -2 f:b5 -5 p2 -b f:3d7 f:3b2 f:3b8 -3 f:3c6 f:3c0 - p18 f:3ba f:3c1 -2 f:3b8 f:3b5 -",
  "p2 f:3f2 p2 - f3:37b f10:450 f20:430 -30 p22 -8 p36 f:4cf pe - p60 - f26:561 -b49 f26:2d00 -",
  "f:2d27 -5 f:2d2d -2d2 f50:ab70 f6:13f8 -88a f:432 f:434 f:43e f2:441 f:442 f:44a f:463 - p2",
  "-5 f2b:10d0 -2 f3:10fd -140 p96 -5 f:1e61 -2 f:df - p60 -8 f8:1f00 -8 f6:1f10 -a f8:1f20 -8",
  "f8:1f30 -8 f6:1f40 -b f:1f51 - f:1f53 - f:1f55 - f:1f57 -8 f8:1f60 -18 f8:1f80 -8 f8:1f90 -8",
  "f8:1fa0 -8 f2:1fb0 f2:1f70 f:1fb3 - f:345 -9 f4:1f72 f:1fc3 -6 f:390 -4 f2:1fd0 f2:1f76 -7",
  "f:3b0 -4 f2:1fe0 f2:1f7a f:1fe5 -b f2:1f78 f2:1f7c f:1ff3 -129 f:3c9 -3 f:6b f:e5 -6 f:214e",
  "-2d f10:2170 -13 p2 -331 f1a:24d0 -730 f30:2c30 -30 p2 f:26b f:1d7d f:27d -2 p6 f:251 f:271",
  "f:250 f:252 - p2 - p2 -7 f2:23f p64 -7 p4 -3 p2 -794c pa f:1c88 f:1c88 p22 -12 p1c -86 pe -2",
  "p3e -9 p4 f:1d79 pa -3 p2 f:265 -2 p4 -2 p14 f:266 f:25c f:261 f:26c f:26a - f:29e f:287",
  "f:29d f:ab53 p10 f:a794 f:282 f:1d8e p4 f:264 p10 f:19b -18 p2 -530f f:fb05 -41a f1a:ff41",
  "-4c5 f28:10428 -88 f24:104d8 -9c fb:10597 - ff:105a3 - f7:105b3 - f2:105bb -6ea f33:10cc0 -9d",
  "f16:10d70 -b3a f20:118c0 -5580 f20:16e60 -40 f19:16ebb -7a47 f22:1e922 -"]

/-- The forms of characters. -/
def foldingTable : RunTable := .ofLines 0 foldingLines

/-- The form of the characters of a run at a code point. -/
def Run.folded (run : Run) (code : Nat) : Nat :=
  if run.label = 'f' then readCode run.detail + (code - run.start)
  else if run.label = 'p' && (code - run.start) % 2 = 0 then code + 1
  else code

/-- The form that a character has in common with those that differ from it in case only. -/
def foldCase (c : Char) : Char :=
  match foldingTable.run? c with
  | some run => Char.ofNat (run.folded c.toNat)
  | none => c

/-- The characters that may have a form, by the runs whose forms are neighbours and by those with
every second character. -/
def unfoldings (form : Char) : List Char :=
  Char.ofNat (form.toNat - 1) :: (foldingTable.toList.filter (·.label = 'f')).map fun run =>
    Char.ofNat (run.start + (form.toNat - readCode run.detail))

/-- The characters that differ from a character in case only, and the character itself. -/
def caseVariants (c : Char) : List Char :=
  let form := foldCase c
  form :: (unfoldings form).filter fun d => d ≠ form && foldCase d = form

end Hostlink.Text
