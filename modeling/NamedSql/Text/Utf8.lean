import NamedSql.Text.Basic

/-!
# UTF-8

The octets of a text, and the text of a sequence of octets. Reading accepts only the shortest form
of a code point and no surrogate, so a text has one encoding.
-/

namespace NamedSql.Utf8

def encodeChar (c : Char) : List UInt8 :=
  let n := c.toNat
  let tail (shift : Nat) : UInt8 := UInt8.ofNat (0x80 + n / shift % 64)
  if n < 0x80 then [UInt8.ofNat n]
  else if n < 0x800 then [UInt8.ofNat (0xC0 + n / 64), tail 1]
  else if n < 0x10000 then [UInt8.ofNat (0xE0 + n / 4096), tail 64, tail 1]
  else [UInt8.ofNat (0xF0 + n / 262144), tail 4096, tail 64, tail 1]

def encode (s : Text) : List UInt8 := s.flatMap encodeChar

def isTail (b : UInt8) : Bool := 0x80 ≤ b && b < 0xC0

/-- The text of a sequence of octets, when it is well formed. -/
def decode? : List UInt8 → Option Text
  | [] => some []
  | a :: rest =>
    if a < 0x80 then (decode? rest).map (Char.ofNat a.toNat :: ·)
    else match rest with
      | b :: rest =>
        if !isTail b then none
        else if 0xC2 ≤ a && a < 0xE0 then
          let n := (a.toNat - 0xC0) * 64 + (b.toNat - 0x80)
          (decode? rest).map (Char.ofNat n :: ·)
        else match rest with
          | c :: rest =>
            if !isTail c then none
            else if 0xE0 ≤ a && a < 0xF0 then
              let n := (a.toNat - 0xE0) * 4096 + (b.toNat - 0x80) * 64 + (c.toNat - 0x80)
              if n < 0x800 || (0xD800 ≤ n && n < 0xE000) then none
              else (decode? rest).map (Char.ofNat n :: ·)
            else match rest with
              | d :: rest =>
                if !isTail d then none
                else
                  let n := (a.toNat - 0xF0) * 262144 + (b.toNat - 0x80) * 4096
                    + (c.toNat - 0x80) * 64 + (d.toNat - 0x80)
                  if a < 0xF0 || n < 0x10000 || 0x110000 ≤ n then none
                  else (decode? rest).map (Char.ofNat n :: ·)
              | [] => none
          | [] => none
      | [] => none

end NamedSql.Utf8
