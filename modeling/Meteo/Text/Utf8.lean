/-
# Meteo.Text.Utf8 -- bytes read as text

Station names may be stored as bytes.  They are read as UTF-8; where the bytes
are not UTF-8, each longest beginning of a character that cannot be completed
becomes one replacement character, and reading goes on behind it.
-/

namespace Meteo.Text

set_option autoImplicit false

/-- The shape of a character by its first byte: how many bytes follow, the bits it contributes,
and the range of the second byte. -/
structure Lead where
  following : Nat
  bits : Nat
  low : Nat
  high : Nat

/-- What a first byte announces; none for a byte that begins no character. -/
def lead? (b : Nat) : Option Lead :=
  if b < 0x80 then some ⟨0, b, 0, 0⟩
  else if b < 0xc2 then none
  else if b < 0xe0 then some ⟨1, b - 0xc0, 0x80, 0xbf⟩
  else if b = 0xe0 then some ⟨2, 0, 0xa0, 0xbf⟩
  else if b = 0xed then some ⟨2, 0xd, 0x80, 0x9f⟩
  else if b < 0xf0 then some ⟨2, b - 0xe0, 0x80, 0xbf⟩
  else if b = 0xf0 then some ⟨3, 0, 0x90, 0xbf⟩
  else if b < 0xf4 then some ⟨3, b - 0xf0, 0x80, 0xbf⟩
  else if b = 0xf4 then some ⟨3, 4, 0x80, 0x8f⟩
  else none

def replacement : Char := '\uFFFD'

/-- Reads on inside a character that still needs `need + 1` bytes, the next of them in
`[low, high]`.  `need` and `acc` describe the character begun; between characters it is none. -/
def decodeFrom (begun : Option (Nat × Nat × Nat × Nat)) : List UInt8 → List Char
  | [] => if begun.isSome then [replacement] else []
  | b :: bs =>
      let n := b.toNat
      let start : List Char × Option (Nat × Nat × Nat × Nat) :=
        match lead? n with
        | none => ([replacement], none)
        | some ⟨0, bits, _, _⟩ => ([Char.ofNat bits], none)
        | some ⟨k + 1, bits, low, high⟩ => ([], some (k, bits, low, high))
      match begun with
      | none => start.1 ++ decodeFrom start.2 bs
      | some (need, bits, low, high) =>
          if low ≤ n && n ≤ high then
            let bits := bits * 64 + n % 64
            match need with
            | 0 => Char.ofNat bits :: decodeFrom none bs
            | need + 1 => decodeFrom (some (need, bits, 0x80, 0xbf)) bs
          else replacement :: start.1 ++ decodeFrom start.2 bs

def ofUtf8 (bs : List UInt8) : String := String.ofList (decodeFrom none bs)

end Meteo.Text
