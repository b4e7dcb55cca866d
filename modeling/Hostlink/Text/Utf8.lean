import Hostlink.Text.Hex

/-!
# Reading bytes as text

A byte sequence is text when it is a run of well-formed scalar encodings.  The reader reports
where the first fault begins and how many bytes belong to it; the lenient reader replaces every
fault by the replacement character.
-/

namespace Hostlink.Text

/-- What the bytes at some position begin with. -/
inductive Utf8Head where
  /-- A character in an encoding of `length` bytes. -/
  | scalar (c : Char) (length : Nat)
  /-- `length` bytes that begin no encoding. -/
  | invalid (length : Nat)
  /-- An encoding cut off by the end of the bytes. -/
  | incomplete
  deriving DecidableEq, Repr

/-- Where bytes stop being text. -/
structure Utf8Fault where
  index : Nat
  /-- The number of bytes at fault; `none` when the bytes end too early. -/
  length : Option Nat
  deriving DecidableEq, Repr

/-- The sentence that describes a fault. -/
def Utf8Fault.message (fault : Utf8Fault) : String :=
  match fault.length with
  | some n => s!"invalid utf-8 sequence of {n} bytes from index {fault.index}"
  | none => s!"incomplete utf-8 byte sequence from index {fault.index}"

/-- A byte that can only continue an encoding. -/
def isContinuation (b : UInt8) : Bool := 0x80 ≤ b && b ≤ 0xbf

/-- The six payload bits of a continuation byte. -/
def continuationBits (b : UInt8) : Nat := b.toNat % 0x40

/-- Whether `b` may follow the lead byte `a`: the choices that would give an overlong form, a
surrogate or a value past the last code point are left out. -/
def admitsSecond (a b : UInt8) : Bool :=
  if a = 0xe0 then 0xa0 ≤ b && b ≤ 0xbf
  else if a = 0xed then 0x80 ≤ b && b ≤ 0x9f
  else if a = 0xf0 then 0x90 ≤ b && b ≤ 0xbf
  else if a = 0xf4 then 0x80 ≤ b && b ≤ 0x8f
  else isContinuation b

/-- Reads the encoding at the front of a non-empty byte sequence. -/
def utf8Head (a : UInt8) (rest : Bytes) : Utf8Head :=
  if a < 0x80 then .scalar (Char.ofNat a.toNat) 1
  else if 0xc2 ≤ a ∧ a ≤ 0xdf then
    match rest with
    | [] => .incomplete
    | b :: _ =>
      if isContinuation b then
        .scalar (Char.ofNat (a.toNat % 0x20 * 0x40 + continuationBits b)) 2
      else .invalid 1
  else if 0xe0 ≤ a ∧ a ≤ 0xef then
    match rest with
    | [] => .incomplete
    | b :: rest =>
      if admitsSecond a b then
        match rest with
        | [] => .incomplete
        | c :: _ =>
          if isContinuation c then
            .scalar (Char.ofNat (a.toNat % 0x10 * 0x1000 + continuationBits b * 0x40
              + continuationBits c)) 3
          else .invalid 2
      else .invalid 1
  else if 0xf0 ≤ a ∧ a ≤ 0xf4 then
    match rest with
    | [] => .incomplete
    | b :: rest =>
      if admitsSecond a b then
        match rest with
        | [] => .incomplete
        | c :: rest =>
          if isContinuation c then
            match rest with
            | [] => .incomplete
            | d :: _ =>
              if isContinuation d then
                .scalar (Char.ofNat (a.toNat % 0x08 * 0x40000 + continuationBits b * 0x1000
                  + continuationBits c * 0x40 + continuationBits d)) 4
              else .invalid 3
          else .invalid 2
      else .invalid 1
  else .invalid 1

/-- Reads bytes as characters.  `skip` counts the bytes that belong to the character before. -/
def decodeUtf8From (skip index : Nat) : Bytes → Except Utf8Fault (List Char)
  | [] => .ok []
  | a :: rest =>
    match skip with
    | skip + 1 => decodeUtf8From skip (index + 1) rest
    | 0 =>
      match utf8Head a rest with
      | .scalar c length => (c :: ·) <$> decodeUtf8From (length - 1) (index + 1) rest
      | .invalid length => .error ⟨index, some length⟩
      | .incomplete => .error ⟨index, none⟩

/-- The text that the bytes encode, or the first fault. -/
def decodeUtf8 (bytes : Bytes) : Except Utf8Fault String :=
  String.ofList <$> decodeUtf8From 0 0 bytes

/-- Reads bytes as characters, with one replacement character for each fault. -/
def decodeUtf8LossyFrom (skip : Nat) : Bytes → List Char
  | [] => []
  | a :: rest =>
    match skip with
    | skip + 1 => decodeUtf8LossyFrom skip rest
    | 0 =>
      match utf8Head a rest with
      | .scalar c length => c :: decodeUtf8LossyFrom (length - 1) rest
      | .invalid length => '\ufffd' :: decodeUtf8LossyFrom (length - 1) rest
      | .incomplete => ['\ufffd']

/-- The text that the bytes encode, faults replaced. -/
def decodeUtf8Lossy (bytes : Bytes) : String :=
  String.ofList (decodeUtf8LossyFrom 0 bytes)

/-- The bytes of a text. -/
def encodeUtf8 (s : String) : Bytes := s.toUTF8.toList

end Hostlink.Text
