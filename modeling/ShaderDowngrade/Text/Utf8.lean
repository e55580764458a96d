import ShaderDowngrade.Text.Basic

/-!
# UTF-8

A character takes one to four bytes. The first byte says how many, and together with the second
byte excludes surrogates, numbers beyond U+10FFFF and forms that are longer than need be. Decoding
stops at the first byte that rules the text out and says which bytes are at fault: those that form
the beginning of a character, up to but not including the one that does not fit.
-/

namespace ShaderDowngrade.Utf8

/-- Why bytes are not the beginning of a text. -/
inductive Cause where
  /-- No character begins with this byte. -/
  | startByte
  /-- A character is not continued as it must be. -/
  | continuation
  /-- The text ends within a character. -/
  | endOfData
deriving DecidableEq, Repr

/-- Where decoding stops, and why. -/
structure Error where
  /-- Why. -/
  cause : Cause
  /-- The first byte at fault. -/
  byte : UInt8
  /-- The number of bytes before it. -/
  position : Nat
  /-- The number of bytes at fault. -/
  count : Nat
deriving DecidableEq, Repr

def Cause.message : Cause → String
  | .startByte => "invalid start byte"
  | .continuation => "invalid continuation byte"
  | .endOfData => "unexpected end of data"

/-- The two hexadecimal digits of a byte. -/
def hexByte (b : UInt8) : String :=
  String.ofList [Nat.digitChar (b.toNat / 16), Nat.digitChar (b.toNat % 16)]

/-- The error in words. A single byte is shown, of several only their places. -/
def Error.message (e : Error) : String :=
  "'utf-8' codec can't decode " ++
    (if e.count = 1 then "byte 0x" ++ hexByte e.byte ++ " in position " ++ toString e.position
      else "bytes in position " ++ toString e.position ++ "-" ++
        toString (e.position + e.count - 1)) ++
    ": " ++ e.cause.message

/-! ## Decoding -/

/-- Whether a byte continues a character. -/
def isTail (b : UInt8) : Bool := 0x80 ≤ b && b ≤ 0xbf

/-- Whether a byte may come second after the given first one. -/
def isSecond (first b : UInt8) : Bool :=
  isTail b && (first != 0xe0 || 0xa0 ≤ b) && (first != 0xed || b ≤ 0x9f) &&
    (first != 0xf0 || 0x90 ≤ b) && (first != 0xf4 || b ≤ 0x8f)

/-- The last six bits of a byte, which continue a number. -/
def extend (n : Nat) (b : UInt8) : Nat := 64 * n + b.toNat % 64

/-- The text of bytes of which `position` more came before. -/
def decodeFrom (position : Nat) : List UInt8 → Except Error Text
  | [] => .ok []
  | a :: rest =>
    let fault (cause : Cause) (count : Nat) : Except Error Text :=
      .error ⟨cause, a, position, count⟩
    if a < 0x80 then (decodeFrom (position + 1) rest).map (Char.ofNat a.toNat :: ·)
    else if a < 0xc2 ∨ 0xf4 < a then fault .startByte 1
    else
      match rest with
      | [] => fault .endOfData 1
      | b :: rest =>
        let n := extend (a.toNat % 32) b
        if !isSecond a b then fault .continuation 1
        else if a < 0xe0 then (decodeFrom (position + 2) rest).map (Char.ofNat n :: ·)
        else
          match rest with
          | [] => fault .endOfData 2
          | c :: rest =>
            let n := extend (extend (a.toNat % 16) b) c
            if !isTail c then fault .continuation 2
            else if a < 0xf0 then (decodeFrom (position + 3) rest).map (Char.ofNat n :: ·)
            else
              match rest with
              | [] => fault .endOfData 3
              | d :: rest =>
                let n := extend (extend (extend (a.toNat % 8) b) c) d
                if !isTail d then fault .continuation 3
                else (decodeFrom (position + 4) rest).map (Char.ofNat n :: ·)

/-- The text that bytes hold. -/
def decode (bytes : List UInt8) : Except Error Text := decodeFrom 0 bytes

/-! ## Encoding -/

/-- The bytes of a character. -/
def encodeChar (c : Char) : List UInt8 :=
  let n := c.toNat
  let tail (k : Nat) : UInt8 := .ofNat (0x80 + n / Nat.pow 64 k % 64)
  if n < 0x80 then [.ofNat n]
  else if n < 0x800 then [.ofNat (0xc0 + n / 64), tail 0]
  else if n < 0x10000 then [.ofNat (0xe0 + n / Nat.pow 64 2), tail 1, tail 0]
  else [.ofNat (0xf0 + n / Nat.pow 64 3), tail 2, tail 1, tail 0]

/-- The bytes of a text. -/
def encode (text : Text) : List UInt8 := text.flatMap encodeChar

/-! ## Line ends -/

/-- The text with a newline for every carriage return and for every carriage return that is
followed by a newline. -/
def unifyNewlines : Text → Text
  | [] => []
  | '\r' :: '\n' :: cs => '\n' :: unifyNewlines cs
  | '\r' :: cs => '\n' :: unifyNewlines cs
  | c :: cs => c :: unifyNewlines cs

end ShaderDowngrade.Utf8
