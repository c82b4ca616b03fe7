import ScriptFormat.Text.CodecFault

/-!
# UTF-8

Texts are encoded one code point after the other, and no surrogate has an
encoding. Decoding is strict: it refuses over-long forms, encoded surrogates and
values past the last code point, and says at which byte.
-/

namespace ScriptFormat.Utf8

def encodePoint (point : CodePoint) : Bytes :=
  let value := point.val
  if value < 0x80 then [.ofNat value]
  else if value < 0x800 then [.ofNat (0xC0 + value / 64), .ofNat (0x80 + value % 64)]
  else if value < 0x10000 then
    [.ofNat (0xE0 + value / 4096), .ofNat (0x80 + value / 64 % 64), .ofNat (0x80 + value % 64)]
  else
    [.ofNat (0xF0 + value / 262144), .ofNat (0x80 + value / 4096 % 64),
      .ofNat (0x80 + value / 64 % 64), .ofNat (0x80 + value % 64)]

/-- The bytes of a text without surrogates. -/
def encodeAll (text : Text) : Bytes := text.flatMap encodePoint

def encode (text : Text) : Except EncodeFault Bytes :=
  match EncodeFault.find? "utf-8" "surrogates not allowed" CodePoint.isSurrogate text with
  | some fault => .error fault
  | none => .ok (encodeAll text)

/-- How many continuation bytes a lead byte announces. -/
def follow? (lead : UInt8) : Option Nat :=
  if lead < 0x80 then some 0
  else if 0xC2 ≤ lead && lead ≤ 0xDF then some 1
  else if 0xE0 ≤ lead && lead ≤ 0xEF then some 2
  else if 0xF0 ≤ lead && lead ≤ 0xF4 then some 3
  else none

def isContinuation (byte : UInt8) : Bool := 0x80 ≤ byte && byte ≤ 0xBF

/-- The second byte, which also excludes over-long forms, surrogates and too large values. -/
def isSecond (lead byte : UInt8) : Bool :=
  if lead = 0xE0 then 0xA0 ≤ byte && byte ≤ 0xBF
  else if lead = 0xED then 0x80 ≤ byte && byte ≤ 0x9F
  else if lead = 0xF0 then 0x90 ≤ byte && byte ≤ 0xBF
  else if lead = 0xF4 then 0x80 ≤ byte && byte ≤ 0x8F
  else isContinuation byte

def tail (byte : UInt8) : Nat := byte.toNat - 0x80

def pointOfTwo (lead second : UInt8) : CodePoint :=
  CodePoint.ofNat ((lead.toNat - 0xC0) * 64 + tail second)

def pointOfThree (lead second third : UInt8) : CodePoint :=
  CodePoint.ofNat ((lead.toNat - 0xE0) * 4096 + tail second * 64 + tail third)

def pointOfFour (lead second third fourth : UInt8) : CodePoint :=
  CodePoint.ofNat ((lead.toNat - 0xF0) * 262144 + tail second * 4096 + tail third * 64 +
    tail fourth)

/-- Decodes what is left, with the code points already `read` in reverse. -/
def decodeFrom (position : Nat) (read : Text) : Bytes → Except DecodeFault Text
  | [] => .ok read.reverse
  | lead :: rest =>
      let fault width reason := .error ⟨lead, position, width, reason⟩
      match follow? lead with
      | none => fault 1 .invalidStart
      | some 0 => decodeFrom (position + 1) (CodePoint.ofNat lead.toNat :: read) rest
      | some count =>
          match rest with
          | [] => fault 1 .endOfData
          | second :: rest =>
              if !isSecond lead second then fault 1 .invalidContinuation
              else if count = 1 then
                decodeFrom (position + 2) (pointOfTwo lead second :: read) rest
              else match rest with
                | [] => fault 2 .endOfData
                | third :: rest =>
                    if !isContinuation third then fault 2 .invalidContinuation
                    else if count = 2 then
                      decodeFrom (position + 3) (pointOfThree lead second third :: read) rest
                    else match rest with
                      | [] => fault 3 .endOfData
                      | fourth :: rest =>
                          if !isContinuation fourth then fault 3 .invalidContinuation
                          else
                            decodeFrom (position + 4)
                              (pointOfFour lead second third fourth :: read) rest

def decode (bytes : Bytes) : Except DecodeFault Text := decodeFrom 0 [] bytes

end ScriptFormat.Utf8
