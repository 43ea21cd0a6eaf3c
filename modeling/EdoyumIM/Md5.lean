import EdoyumIM.BlockHashing
import EdoyumIM.ByteFiles
import EdoyumIM.MachineWords

/-!
The MD5 class of the file server. The words of a round are renamed instead of
passed in turns: the one that was written comes to stand second. `none` is a
block loop that goes on for ever, because its 32-bit index starts again at zero.
The buffer and the digest of a new object hold whatever was in memory. Reads of
a file that fail behind its opening are left out.
-/

namespace EdoyumIM.Md5

open MachineWords ByteFiles BlockHashing

structure Words where
  a : UInt32
  b : UInt32
  c : UInt32
  d : UInt32
  deriving DecidableEq, Repr

/-! The compression of one block. -/
section Transform

def F (x y z : UInt32) : UInt32 := (x &&& y) ||| (~~~x &&& z)

def G (x y z : UInt32) : UInt32 := (x &&& z) ||| (y &&& ~~~z)

def H (x y z : UInt32) : UInt32 := x ^^^ y ^^^ z

def I (x y z : UInt32) : UInt32 := y ^^^ (x ||| ~~~z)

def rotateLeft (x n : UInt32) : UInt32 := (x <<< n) ||| (x >>> (32 - n))

/-- One line of a round: the index into the block, the rotation and the constant. -/
abbrev Line := Nat × UInt32 × UInt32

/-- `FF`, `GG`, `HH` and `II`. -/
def mix (f : UInt32 → UInt32 → UInt32 → UInt32) (x : List UInt32) (words : Words)
    (line : Line) : Words :=
  let sum := words.a + (f words.b words.c words.d + x.getD line.1 0 + line.2.2)
  ⟨words.d, rotateLeft sum line.2.1 + words.b, words.b, words.c⟩

def round1 : List Line :=
  [(0, 7, 0xd76aa478), (1, 12, 0xe8c7b756), (2, 17, 0x242070db), (3, 22, 0xc1bdceee),
    (4, 7, 0xf57c0faf), (5, 12, 0x4787c62a), (6, 17, 0xa8304613), (7, 22, 0xfd469501),
    (8, 7, 0x698098d8), (9, 12, 0x8b44f7af), (10, 17, 0xffff5bb1), (11, 22, 0x895cd7be),
    (12, 7, 0x6b901122), (13, 12, 0xfd987193), (14, 17, 0xa679438e), (15, 22, 0x49b40821)]

def round2 : List Line :=
  [(1, 5, 0xf61e2562), (6, 9, 0xc040b340), (11, 14, 0x265e5a51), (0, 20, 0xe9b6c7aa),
    (5, 5, 0xd62f105d), (10, 9, 0x2441453), (15, 14, 0xd8a1e681), (4, 20, 0xe7d3fbc8),
    (9, 5, 0x21e1cde6), (14, 9, 0xc33707d6), (3, 14, 0xf4d50d87), (8, 20, 0x455a14ed),
    (13, 5, 0xa9e3e905), (2, 9, 0xfcefa3f8), (7, 14, 0x676f02d9), (12, 20, 0x8d2a4c8a)]

def round3 : List Line :=
  [(5, 4, 0xfffa3942), (8, 11, 0x8771f681), (11, 16, 0x6d9d6122), (14, 23, 0xfde5380c),
    (1, 4, 0xa4beea44), (4, 11, 0x4bdecfa9), (7, 16, 0xf6bb4b60), (10, 23, 0xbebfbc70),
    (13, 4, 0x289b7ec6), (0, 11, 0xeaa127fa), (3, 16, 0xd4ef3085), (6, 23, 0x4881d05),
    (9, 4, 0xd9d4d039), (12, 11, 0xe6db99e5), (15, 16, 0x1fa27cf8), (2, 23, 0xc4ac5665)]

def round4 : List Line :=
  [(0, 6, 0xf4292244), (7, 10, 0x432aff97), (14, 15, 0xab9423a7), (5, 21, 0xfc93a039),
    (12, 6, 0x655b59c3), (3, 10, 0x8f0ccc92), (10, 15, 0xffeff47d), (1, 21, 0x85845dd1),
    (8, 6, 0x6fa87e4f), (15, 10, 0xfe2ce6e0), (6, 15, 0xa3014314), (13, 21, 0x4e0811a1),
    (4, 6, 0xf7537e82), (11, 10, 0xbd3af235), (2, 15, 0x2ad7d2bb), (9, 21, 0xeb86d391)]

def decode (input : Bytes) : List UInt32 :=
  (List.range 16).map fun i => UInt32.ofNat (leNat ((input.drop (4 * i)).take 4))

def encode (input : List UInt32) : Bytes := input.flatMap fun word => leBytes 4 word.toNat

def Words.list (words : Words) : List UInt32 := [words.a, words.b, words.c, words.d]

def transform (state : Words) (block : Bytes) : Words :=
  let x := decode block
  let words := round4.foldl (mix I x) (round3.foldl (mix H x)
    (round2.foldl (mix G x) (round1.foldl (mix F x) state)))
  ⟨state.a + words.a, state.b + words.b, state.c + words.c, state.d + words.d⟩

end Transform

/-! The object. -/
section Objects

structure MD5 where
  state : Words
  count0 : UInt32
  count1 : UInt32
  buffer : Bytes
  digest : Bytes
  finished : Bool

def initial : Words := ⟨0x67452301, 0xefcdab89, 0x98badcfe, 0x10325476⟩

def PADDING : Bytes := 0x80 :: List.replicate 63 0

def HEX : Bytes :=
  [0x30, 0x31, 0x32, 0x33, 0x34, 0x35, 0x36, 0x37, 0x38, 0x39, 0x61, 0x62, 0x63, 0x64, 0x65, 0x66]

def bytesToHexString (input : Bytes) : Bytes :=
  input.flatMap fun t => [HEX.getD (t.toNat / 16) 0, HEX.getD (t.toNat % 16) 0]

namespace MD5

def reset (md5 : MD5) : MD5 :=
  { md5 with finished := false, count0 := 0, count1 := 0, state := initial }

def new (buffer digest : Bytes) : MD5 :=
  reset { state := initial, count0 := 0, count1 := 0, buffer := buffer, digest := digest
          finished := false }

/-- How many bytes of the buffer are in use. -/
def index (md5 : MD5) : Nat := ((md5.count0 >>> 3) &&& 0x3f).toNat

/-- The loop over whole blocks of the input; the index has 32 bits. -/
def transformLoop (input : Bytes) : Nat → UInt32 → Words → Option (UInt32 × Words)
  | 0, _, _ => none
  | fuel + 1, i, state =>
      if (i + 63).toNat < input.length then
        transformLoop input fuel (i + 64) (transform state ((input.drop i.toNat).take 64))
      else some (i, state)

/-- Update the number of bits. -/
def countBits (length : Nat) (md5 : MD5) : MD5 :=
  let low := UInt32.ofNat length <<< 3
  let carried := if md5.count0 + low < low then md5.count1 + 1 else md5.count1
  { md5 with count0 := md5.count0 + low, count1 := carried + (UInt32.ofNat length >>> 29)
             finished := false }

def update (input : Bytes) (md5 : MD5) : Option MD5 :=
  let partLen := 64 - md5.index
  let counted := md5.countBits input.length
  if partLen ≤ input.length then
    let filled := writeAt md5.index (input.take partLen) md5.buffer
    (transformLoop input (input.length + 1) (UInt32.ofNat partLen)
        (transform md5.state filled)).map fun looped =>
      { counted with state := looped.2, buffer := writeAt 0 (input.drop looped.1.toNat) filled }
  else some { counted with buffer := writeAt md5.index input md5.buffer }

/-- The digest is taken from a copy of the state and the count; the buffer is
not among what is saved and restored. -/
def final (md5 : MD5) : Option MD5 := do
  let bits := encode [md5.count0, md5.count1]
  let padLen := if md5.index < 56 then 56 - md5.index else 120 - md5.index
  let padded ← md5.update (PADDING.take padLen)
  let done ← padded.update bits
  some { done with digest := encode done.state.list, state := md5.state, count0 := md5.count0
                   count1 := md5.count1 }

def takeDigest (md5 : MD5) : Option (Bytes × MD5) :=
  if md5.finished then some (md5.digest, md5)
  else (final { md5 with finished := true }).map fun done => (done.digest, done)

def toString (md5 : MD5) : Option (Bytes × MD5) :=
  md5.takeDigest.map fun taken => (bytesToHexString taken.1, taken.2)

def BUFFER_SIZE : Nat := 1024

def readLoop : Nat → Bytes → MD5 → Option MD5
  | 0, _, _ => none
  | fuel + 1, rest, md5 =>
      let chunk := rest.take BUFFER_SIZE
      (if chunk = [] then some md5 else md5.update chunk).bind fun next =>
        -- a read that was cut short has met the end of the file
        if chunk.length < BUFFER_SIZE then some next
        else readLoop fuel (rest.drop BUFFER_SIZE) next

/-- `update(ifstream&)`; `none` is a stream that did not open. -/
def updateFile (content : Option Bytes) (md5 : MD5) : Option MD5 :=
  match content with
  | none => some md5
  | some content => readLoop (content.length + 1) content md5

end MD5

end Objects

/-- The empty message. -/
example : ((MD5.new (List.replicate 64 7) []).takeDigest).map Prod.fst = some
    [0xd4, 0x1d, 0x8c, 0xd9, 0x8f, 0x00, 0xb2, 0x04, 0xe9, 0x80, 0x09, 0x98, 0xec, 0xf8, 0x42,
      0x7e] := by
  decide +kernel

end EdoyumIM.Md5
