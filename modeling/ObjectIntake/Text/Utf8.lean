/-! UTF-8: the bytes of characters, and strict decoding, which takes no other form of them. -/
namespace ObjectIntake.Text.Utf8

def byte (n : Nat) : UInt8 := UInt8.ofNat n

def encodeChar (c : Char) : List UInt8 :=
  let n := c.toNat
  if n < 0x80 then [byte n]
  else if n < 0x800 then [byte (0xC0 + n / 64), byte (0x80 + n % 64)]
  else if n < 0x10000 then
    [byte (0xE0 + n / 4096), byte (0x80 + n / 64 % 64), byte (0x80 + n % 64)]
  else
    [byte (0xF0 + n / 262144), byte (0x80 + n / 4096 % 64), byte (0x80 + n / 64 % 64),
      byte (0x80 + n % 64)]

def encode (s : List Char) : List UInt8 := s.flatMap encodeChar

/-- The six bits carried by a continuation byte. -/
def tail? (b : UInt8) : Option Nat :=
  if 0x80 ≤ b.toNat ∧ b.toNat < 0xC0 then some (b.toNat - 0x80) else none

/-- The character of code point `n`, if it is a scalar value and needs at least `least`. -/
def scalar? (least n : Nat) : Option Char :=
  if least ≤ n ∧ n.isValidChar then some (Char.ofNat n) else none

def decode : List UInt8 → Option (List Char)
  | [] => some []
  | a :: r =>
      let n := a.toNat
      if n < 0x80 then (decode r).map (Char.ofNat n :: ·)
      else if n < 0xC0 then none
      else match r with
        | [] => none
        | b :: r => do
            let x ← tail? b
            if n < 0xE0 then
              let c ← scalar? 0x80 ((n - 0xC0) * 64 + x)
              return c :: (← decode r)
            else match r with
              | [] => none
              | b :: r => do
                  let y ← tail? b
                  if n < 0xF0 then
                    let c ← scalar? 0x800 ((n - 0xE0) * 4096 + x * 64 + y)
                    return c :: (← decode r)
                  else match r with
                    | [] => none
                    | b :: r => do
                        let z ← tail? b
                        if n < 0xF8 then
                          let c ← scalar? 0x10000 ((n - 0xF0) * 262144 + x * 4096 + y * 64 + z)
                          return c :: (← decode r)
                        else none

end ObjectIntake.Text.Utf8
