import ShellMenu.Error

/-
  The SHA-1 digest of a key, as forty hexadecimal digits.
-/

namespace ShellMenu.Digest

structure State where
  a : UInt32
  b : UInt32
  c : UInt32
  d : UInt32
  e : UInt32
deriving DecidableEq

def start : State := ⟨0x67452301, 0xefcdab89, 0x98badcfe, 0x10325476, 0xc3d2e1f0⟩

def State.add (s t : State) : State :=
  ⟨s.a + t.a, s.b + t.b, s.c + t.c, s.d + t.d, s.e + t.e⟩

def State.words (s : State) : List UInt32 := [s.a, s.b, s.c, s.d, s.e]

def rotate (word count : UInt32) : UInt32 :=
  (word <<< count) ||| (word >>> (32 - count))

/-- Adds the next words of the schedule to those before it; the newest comes first. -/
def expand : Nat → List UInt32 → List UInt32
  | 0, words => words
  | count + 1, words =>
      let word := words.getD 2 0 ^^^ words.getD 7 0 ^^^ words.getD 13 0 ^^^ words.getD 15 0
      expand count (rotate word 1 :: words)

def schedule (block : List UInt32) : List UInt32 :=
  (expand 64 block.reverse).reverse

/-- The mixing function and the constant of a round. -/
def mix (round : Nat) (b c d : UInt32) : UInt32 × UInt32 :=
  if round < 20 then ((b &&& c) ||| (~~~b &&& d), 0x5a827999)
  else if round < 40 then (b ^^^ c ^^^ d, 0x6ed9eba1)
  else if round < 60 then ((b &&& c) ||| (b &&& d) ||| (c &&& d), 0x8f1bbcdc)
  else (b ^^^ c ^^^ d, 0xca62c1d6)

def step (s : State) (word : UInt32 × Nat) : State :=
  let (mixed, constant) := mix word.2 s.b s.c s.d
  ⟨rotate s.a 5 + mixed + s.e + constant + word.1, s.a, rotate s.b 30, s.c, s.d⟩

def compress (s : State) (block : List UInt32) : State :=
  s.add ((schedule block).zipIdx.foldl step s)

def compressAll (s : State) (words : List UInt32) : State :=
  if words.isEmpty then s
  else compressAll (compress s (words.take 16)) (words.drop 16)
termination_by words.length
decreasing_by
  cases words with
  | nil => simp_all
  | cons head tail =>
      simp only [List.length_drop, List.length_cons]
      omega

/-- The lowest `count` bytes of `n`, highest first. -/
def bigEndian : Nat → Nat → List UInt8
  | 0, _ => []
  | count + 1, n => bigEndian count (n / 256) ++ [UInt8.ofNat (n % 256)]

/-- A one bit, zeros up to eight bytes short of a whole block, and the length in bits. -/
def padded (bytes : List UInt8) : List UInt8 :=
  bytes ++ 0x80 :: List.replicate ((119 - bytes.length % 64) % 64) 0 ++ bigEndian 8 (8 * bytes.length)

def toWords : List UInt8 → List UInt32
  | a :: b :: c :: d :: rest =>
      ((a.toUInt32 <<< 24) ||| (b.toUInt32 <<< 16) ||| (c.toUInt32 <<< 8) ||| d.toUInt32)
        :: toWords rest
  | _ => []

def ofBytes (bytes : List UInt8) : State :=
  compressAll start (toWords (padded bytes))

def hex (s : State) : String :=
  String.ofList (s.words.flatMap fun word => Text.hexDigits 8 word.toNat)

/-- The digest of the UTF-8 form of a key. -/
def ofKey (key : String) : String :=
  hex (ofBytes key.toUTF8.toList)

/-! ## Keys -/

/-- A key is a sequence of code points. Half of a pair of code units is one of them, and no
character. -/
abbrev CodePoint := Fin 0x110000

theorem toNat_lt (c : Char) : c.toNat < 0x110000 := by
  rcases c.valid with low | high
  · exact Nat.lt_trans low (by decide)
  · exact high.2

def codePoint (c : Char) : CodePoint :=
  ⟨c.toNat, toNat_lt c⟩

/-- Half of a pair has no UTF-8 form. -/
def isEncodable (key : List CodePoint) : Bool :=
  key.all fun point => !(Json.isHighUnit point.val || Json.isLowUnit point.val)

def hashKey (key : List CodePoint) : Result String :=
  if isEncodable key then .ok (ofKey (String.ofList (key.map fun point => Char.ofNat point.val)))
  else breaking .notEncodable

theorem length_hexDigits (width n : Nat) : (Text.hexDigits width n).length = width := by
  induction width generalizing n with
  | zero => rfl
  | succ width ih => simp [Text.hexDigits, ih]

end ShellMenu.Digest
