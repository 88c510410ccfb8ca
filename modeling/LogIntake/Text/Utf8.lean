/-!
# Bytes and characters

* `Progress`: where a reader of bytes stands inside a character.
* `units`: the characters of a byte string, with a mark for each longest malformed stretch.
* `decodeLossy`: each malformed stretch becomes the replacement character.
* `decode?`: a byte string that is well formed throughout.
* `encode`: the bytes of a text.
-/

namespace LogIntake.Text.Utf8

/-- Inside a character: `need` more bytes, of which the next lies in `low..high`, and the value
`code` of the bits read so far. -/
structure Progress where
  need : Nat
  code : Nat
  low : Nat
  high : Nat

/-- What a byte can be at the start of a character. -/
inductive Opening where
  /-- A character of one byte. -/
  | whole (c : Char)
  /-- The first byte of a longer character. -/
  | opens (p : Progress)
  /-- No character starts so. -/
  | malformed

/-- Reads the first byte of a character. The bounds on the second byte leave out overlong forms,
surrogates and what lies beyond the last code point. -/
def opening (b : UInt8) : Opening :=
  let n := b.toNat
  if n < 0x80 then .whole (Char.ofNat n)
  else if n < 0xC2 then .malformed
  else if n < 0xE0 then .opens ⟨1, n - 0xC0, 0x80, 0xBF⟩
  else if n = 0xE0 then .opens ⟨2, 0, 0xA0, 0xBF⟩
  else if n = 0xED then .opens ⟨2, 0xD, 0x80, 0x9F⟩
  else if n < 0xF0 then .opens ⟨2, n - 0xE0, 0x80, 0xBF⟩
  else if n = 0xF0 then .opens ⟨3, 0, 0x90, 0xBF⟩
  else if n < 0xF4 then .opens ⟨3, n - 0xF0, 0x80, 0xBF⟩
  else if n = 0xF4 then .opens ⟨3, 4, 0x80, 0x8F⟩
  else .malformed

/-- The characters of the bytes from a given progress on; `none` stands for a longest stretch that
begins a character without completing it. -/
def unitsFrom : Option Progress → List UInt8 → List (Option Char)
  | none, [] => []
  | some _, [] => [none]
  | none, b :: rest =>
    match opening b with
    | .whole c => some c :: unitsFrom none rest
    | .opens p => unitsFrom (some p) rest
    | .malformed => none :: unitsFrom none rest
  | some p, b :: rest =>
    if p.low ≤ b.toNat && b.toNat ≤ p.high then
      let code := p.code * 64 + (b.toNat - 0x80)
      if p.need ≤ 1 then some (Char.ofNat code) :: unitsFrom none rest
      else unitsFrom (some ⟨p.need - 1, code, 0x80, 0xBF⟩) rest
    else
      none ::
        match opening b with
        | .whole c => some c :: unitsFrom none rest
        | .opens q => unitsFrom (some q) rest
        | .malformed => none :: unitsFrom none rest

/-- The characters of a byte string, `none` for each longest malformed stretch. -/
def units (bytes : List UInt8) : List (Option Char) :=
  unitsFrom none bytes

/-- The text of a byte string, with the replacement character for each malformed stretch. -/
def decodeLossy (bytes : List UInt8) : List Char :=
  (units bytes).map (·.getD '\uFFFD')

/-- The text of a byte string that is well formed. -/
def decode? (bytes : List UInt8) : Option (List Char) :=
  (units bytes).mapM id

/-- The bytes of a text. -/
def encode (s : List Char) : List UInt8 :=
  s.flatMap String.utf8EncodeChar

/-- The number of bytes of a text. -/
def size (s : List Char) : Nat :=
  s.foldl (fun n c => n + c.utf8Size) 0

end LogIntake.Text.Utf8
