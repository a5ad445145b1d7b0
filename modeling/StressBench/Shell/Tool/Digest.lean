/-
# Digests

A digest is a short number that is computed from all bytes of a file. The bytes are filled
up to blocks, and each block changes a state of a few words.

Key definitions: `Digest.md5`, `Digest.sha1`, `Digest.sha256`, `Digest.sha512`, `Digest.crc`,
`Digest.rotated`, `Tool.digest`.
-/
import StressBench.Shell.Tool.Reading

namespace StressBench
namespace Shell
namespace Digest

/-! ### Blocks -/

/-- Bytes filled up to blocks, with their number in bits at the end. -/
def filledUp (block lengthSize : Nat) (littleEndian : Bool) (s : Text) : List Nat :=
  let bits := 8 * s.length
  let missing := (2 * block - (s.length + 1 + lengthSize) % block) % block
  let bytes := (List.range lengthSize).map fun i => (bits >>> (8 * i)) % 256
  s.map Char.toNat ++ 128 :: (List.replicate missing 0 ++ if littleEndian then bytes
    else bytes.reverse)

/-- The number of bytes, the highest first. -/
def bigEndian (bytes : List Nat) : Nat :=
  bytes.foldl (fun n b => n * 256 + b) 0

/-- A word turned to the left. -/
def turnedLeft (w : UInt32) (k : UInt32) : UInt32 :=
  (w <<< k) ||| (w >>> (32 - k))

/-- A word turned to the right. -/
def turnedRight (w : UInt32) (k : UInt32) : UInt32 :=
  (w >>> k) ||| (w <<< (32 - k))

/-- A long word turned to the right. -/
def turnedRight64 (w : UInt64) (k : UInt64) : UInt64 :=
  (w >>> k) ||| (w <<< (64 - k))

/-- The bytes of words in digits of base sixteen. -/
def hexadecimal (size : Nat) (words : List Nat) : Text :=
  words.flatMap fun w => Tool.digitsIn 16 (2 * size) '0' w

/-! ### Four words -/

/-- The shifts of the four rounds. -/
def md5Shifts : Array UInt32 :=
  #[7, 12, 17, 22, 5, 9, 14, 20, 4, 11, 16, 23, 6, 10, 15, 21]

/-- The constants of the steps: the sines of whole numbers. -/
def md5Constants : Array UInt32 :=
  #[0xd76aa478, 0xe8c7b756, 0x242070db, 0xc1bdceee, 0xf57c0faf, 0x4787c62a, 0xa8304613, 0xfd469501,
    0x698098d8, 0x8b44f7af, 0xffff5bb1, 0x895cd7be, 0x6b901122, 0xfd987193, 0xa679438e, 0x49b40821,
    0xf61e2562, 0xc040b340, 0x265e5a51, 0xe9b6c7aa, 0xd62f105d, 0x02441453, 0xd8a1e681, 0xe7d3fbc8,
    0x21e1cde6, 0xc33707d6, 0xf4d50d87, 0x455a14ed, 0xa9e3e905, 0xfcefa3f8, 0x676f02d9, 0x8d2a4c8a,
    0xfffa3942, 0x8771f681, 0x6d9d6122, 0xfde5380c, 0xa4beea44, 0x4bdecfa9, 0xf6bb4b60, 0xbebfbc70,
    0x289b7ec6, 0xeaa127fa, 0xd4ef3085, 0x04881d05, 0xd9d4d039, 0xe6db99e5, 0x1fa27cf8, 0xc4ac5665,
    0xf4292244, 0x432aff97, 0xab9423a7, 0xfc93a039, 0x655b59c3, 0x8f0ccc92, 0xffeff47d, 0x85845dd1,
    0x6fa87e4f, 0xfe2ce6e0, 0xa3014314, 0x4e0811a1, 0xf7537e82, 0xbd3af235, 0x2ad7d2bb, 0xeb86d391]

/-- The state of four words after a block. -/
def md5Block (state : UInt32 × UInt32 × UInt32 × UInt32) (block : List Nat) :
    UInt32 × UInt32 × UInt32 × UInt32 :=
  let words := ((Tool.piecesOf 4 block).map fun b => UInt32.ofNat (bigEndian b.reverse)).toArray
  let (a₀, b₀, c₀, d₀) := state
  let (a, b, c, d) := (List.range 64).foldl (fun (a, b, c, d) i =>
    let (f, g) :=
      if i < 16 then ((b &&& c) ||| ((b ^^^ 0xffffffff) &&& d), i)
      else if i < 32 then ((d &&& b) ||| ((d ^^^ 0xffffffff) &&& c), (5 * i + 1) % 16)
      else if i < 48 then (b ^^^ c ^^^ d, (3 * i + 5) % 16)
      else (c ^^^ (b ||| (d ^^^ 0xffffffff)), (7 * i) % 16)
    let sum := a + f + md5Constants[i]?.getD 0 + words[g]?.getD 0
    (d, b + turnedLeft sum (md5Shifts[i / 16 * 4 + i % 4]?.getD 0), b, c)) (a₀, b₀, c₀, d₀)
  (a₀ + a, b₀ + b, c₀ + c, d₀ + d)

/-- The digest of four words. -/
def md5 (s : Text) : Text :=
  let (a, b, c, d) := (Tool.piecesOf 64 (filledUp 64 8 true s)).foldl md5Block
    (0x67452301, 0xefcdab89, 0x98badcfe, 0x10325476)
  let swapped (w : UInt32) : Nat :=
    bigEndian ((List.range 4).map fun i => (w.toNat >>> (8 * i)) % 256)
  hexadecimal 4 ([a, b, c, d].map swapped)

/-! ### Five words -/

/-- The words of a block, and those that are made of them by turning the sum of others. -/
def extended (count : Nat) (next : Array UInt32 → Nat → UInt32) (block : List Nat) : Array UInt32 :=
  let words := ((Tool.piecesOf 4 block).map fun b => UInt32.ofNat (bigEndian b)).toArray
  (List.range (count - 16)).foldl (fun ws i => ws.push (next ws (i + 16))) words

/-- The word of a place. -/
def at_ (ws : Array UInt32) (i : Nat) : UInt32 :=
  ws[i]?.getD 0

/-- The state of five words after a block. -/
def sha1Block (state : List UInt32) (block : List Nat) : List UInt32 :=
  let words := extended 80 (fun ws i =>
    turnedLeft (at_ ws (i - 3) ^^^ at_ ws (i - 8) ^^^ at_ ws (i - 14) ^^^ at_ ws (i - 16)) 1) block
  match state with
  | [a₀, b₀, c₀, d₀, e₀] =>
    let (a, b, c, d, e) := (List.range 80).foldl (fun (a, b, c, d, e) i =>
      let (f, k) : UInt32 × UInt32 :=
        if i < 20 then ((b &&& c) ||| ((b ^^^ 0xffffffff) &&& d), 0x5a827999)
        else if i < 40 then (b ^^^ c ^^^ d, 0x6ed9eba1)
        else if i < 60 then ((b &&& c) ||| (b &&& d) ||| (c &&& d), 0x8f1bbcdc)
        else (b ^^^ c ^^^ d, 0xca62c1d6)
      (turnedLeft a 5 + f + e + k + at_ words i, a, turnedLeft b 30, c, d)) (a₀, b₀, c₀, d₀, e₀)
    [a₀ + a, b₀ + b, c₀ + c, d₀ + d, e₀ + e]
  | state => state

/-- The digest of five words. -/
def sha1 (s : Text) : Text :=
  let state := (Tool.piecesOf 64 (filledUp 64 8 false s)).foldl sha1Block
    [0x67452301, 0xefcdab89, 0x98badcfe, 0x10325476, 0xc3d2e1f0]
  hexadecimal 4 (state.map UInt32.toNat)

/-! ### Eight words -/

/-- The constants of eight words: beginnings of the cube roots of the first primes. -/
def roots : Array UInt64 :=
  #[0x428a2f98d728ae22, 0x7137449123ef65cd, 0xb5c0fbcfec4d3b2f, 0xe9b5dba58189dbbc,
    0x3956c25bf348b538, 0x59f111f1b605d019, 0x923f82a4af194f9b, 0xab1c5ed5da6d8118,
    0xd807aa98a3030242, 0x12835b0145706fbe, 0x243185be4ee4b28c, 0x550c7dc3d5ffb4e2,
    0x72be5d74f27b896f, 0x80deb1fe3b1696b1, 0x9bdc06a725c71235, 0xc19bf174cf692694,
    0xe49b69c19ef14ad2, 0xefbe4786384f25e3, 0x0fc19dc68b8cd5b5, 0x240ca1cc77ac9c65,
    0x2de92c6f592b0275, 0x4a7484aa6ea6e483, 0x5cb0a9dcbd41fbd4, 0x76f988da831153b5,
    0x983e5152ee66dfab, 0xa831c66d2db43210, 0xb00327c898fb213f, 0xbf597fc7beef0ee4,
    0xc6e00bf33da88fc2, 0xd5a79147930aa725, 0x06ca6351e003826f, 0x142929670a0e6e70,
    0x27b70a8546d22ffc, 0x2e1b21385c26c926, 0x4d2c6dfc5ac42aed, 0x53380d139d95b3df,
    0x650a73548baf63de, 0x766a0abb3c77b2a8, 0x81c2c92e47edaee6, 0x92722c851482353b,
    0xa2bfe8a14cf10364, 0xa81a664bbc423001, 0xc24b8b70d0f89791, 0xc76c51a30654be30,
    0xd192e819d6ef5218, 0xd69906245565a910, 0xf40e35855771202a, 0x106aa07032bbd1b8,
    0x19a4c116b8d2d0c8, 0x1e376c085141ab53, 0x2748774cdf8eeb99, 0x34b0bcb5e19b48a8,
    0x391c0cb3c5c95a63, 0x4ed8aa4ae3418acb, 0x5b9cca4f7763e373, 0x682e6ff3d6b2b8a3,
    0x748f82ee5defb2fc, 0x78a5636f43172f60, 0x84c87814a1f0ab72, 0x8cc702081a6439ec,
    0x90befffa23631e28, 0xa4506cebde82bde9, 0xbef9a3f7b2c67915, 0xc67178f2e372532b,
    0xca273eceea26619c, 0xd186b8c721c0c207, 0xeada7dd6cde0eb1e, 0xf57d4f7fee6ed178,
    0x06f067aa72176fba, 0x0a637dc5a2c898a6, 0x113f9804bef90dae, 0x1b710b35131c471b,
    0x28db77f523047d84, 0x32caab7b40c72493, 0x3c9ebe0a15c9bebc, 0x431d67c49c100d4c,
    0x4cc5d4becb3e42b6, 0x597f299cfc657e2a, 0x5fcb6fab3ad6faec, 0x6c44198c4a475817]

/-- The state of eight words after a block. -/
def sha256Block (state : List UInt32) (block : List Nat) : List UInt32 :=
  let words := extended 64 (fun ws i =>
    let x := at_ ws (i - 15)
    let y := at_ ws (i - 2)
    at_ ws (i - 16) + (turnedRight x 7 ^^^ turnedRight x 18 ^^^ (x >>> 3)) + at_ ws (i - 7) +
      (turnedRight y 17 ^^^ turnedRight y 19 ^^^ (y >>> 10))) block
  let final := (List.range 64).foldl (fun (s : List UInt32) i =>
    match s with
    | [a, b, c, d, e, f, g, h] =>
      let k := UInt32.ofNat ((roots[i]?.getD 0).toNat >>> 32)
      let t := h + (turnedRight e 6 ^^^ turnedRight e 11 ^^^ turnedRight e 25) +
        ((e &&& f) ^^^ ((e ^^^ 0xffffffff) &&& g)) + k + at_ words i
      let u := (turnedRight a 2 ^^^ turnedRight a 13 ^^^ turnedRight a 22) +
        ((a &&& b) ^^^ (a &&& c) ^^^ (b &&& c))
      [t + u, a, b, c, d + t, e, f, g]
    | s => s) state
  List.zipWith (· + ·) state final

/-- The digest of eight words, or of the first of them, from a first state. -/
def sha256From (first : List UInt32) (count : Nat) (s : Text) : Text :=
  let state := (Tool.piecesOf 64 (filledUp 64 8 false s)).foldl sha256Block first
  hexadecimal 4 ((state.take count).map UInt32.toNat)

/-- The digest of eight words. -/
def sha256 : Text → Text :=
  sha256From [0x6a09e667, 0xbb67ae85, 0x3c6ef372, 0xa54ff53a, 0x510e527f, 0x9b05688c, 0x1f83d9ab,
    0x5be0cd19] 8

/-- The digest of seven words. -/
def sha224 : Text → Text :=
  sha256From [0xc1059ed8, 0x367cd507, 0x3070dd17, 0xf70e5939, 0xffc00b31, 0x68581511, 0x64f98fa7,
    0xbefa4fa4] 7

/-- The state of eight long words after a block. -/
def sha512Block (state : List UInt64) (block : List Nat) : List UInt64 :=
  let get (ws : Array UInt64) (i : Nat) : UInt64 := ws[i]?.getD 0
  let words := ((Tool.piecesOf 8 block).map fun b => UInt64.ofNat (bigEndian b)).toArray
  let words := (List.range 64).foldl (fun ws j =>
    let i := j + 16
    let x := get ws (i - 15)
    let y := get ws (i - 2)
    ws.push (get ws (i - 16) + (turnedRight64 x 1 ^^^ turnedRight64 x 8 ^^^ (x >>> 7)) +
      get ws (i - 7) + (turnedRight64 y 19 ^^^ turnedRight64 y 61 ^^^ (y >>> 6)))) words
  let final := (List.range 80).foldl (fun (s : List UInt64) i =>
    match s with
    | [a, b, c, d, e, f, g, h] =>
      let t := h + (turnedRight64 e 14 ^^^ turnedRight64 e 18 ^^^ turnedRight64 e 41) +
        ((e &&& f) ^^^ ((e ^^^ 0xffffffffffffffff) &&& g)) + roots[i]?.getD 0 + get words i
      let u := (turnedRight64 a 28 ^^^ turnedRight64 a 34 ^^^ turnedRight64 a 39) +
        ((a &&& b) ^^^ (a &&& c) ^^^ (b &&& c))
      [t + u, a, b, c, d + t, e, f, g]
    | s => s) state
  List.zipWith (· + ·) state final

/-- The digest of long words, or of the first of them, from a first state. -/
def sha512From (first : List UInt64) (count : Nat) (s : Text) : Text :=
  let state := (Tool.piecesOf 128 (filledUp 128 16 false s)).foldl sha512Block first
  hexadecimal 8 ((state.take count).map UInt64.toNat)

/-- The digest of eight long words. -/
def sha512 : Text → Text :=
  sha512From [0x6a09e667f3bcc908, 0xbb67ae8584caa73b, 0x3c6ef372fe94f82b, 0xa54ff53a5f1d36f1,
    0x510e527fade682d1, 0x9b05688c2b3e6c1f, 0x1f83d9abfb41bd6b, 0x5be0cd19137e2179] 8

/-- The digest of six long words. -/
def sha384 : Text → Text :=
  sha512From [0xcbbb9d5dc1059ed8, 0x629a292a367cd507, 0x9159015a3070dd17, 0x152fecd8f70e5939,
    0x67332667ffc00b31, 0x8eb44a8768581511, 0xdb0c2e0d64f98fa7, 0x47b5481dbefa4fa4] 6

/-! ### Remainders and sums -/

/-- A remainder after one more byte, with the polynomial of the standard. -/
def crcStep (crc : UInt32) (byte : Nat) : UInt32 :=
  (List.range 8).foldl (fun crc _ =>
    if crc &&& 0x80000000 != 0 then (crc <<< 1) ^^^ 0x04c11db7 else crc <<< 1)
    (crc ^^^ (UInt32.ofNat byte <<< 24))

/-- The bytes of a number, the lowest first, without zeros at the end. -/
def lengthBytes : Nat → Nat → List Nat
  | 0, _ | _, 0 => []
  | k + 1, n => n % 256 :: lengthBytes k (n / 256)

/-- The remainder of the bytes and of their number. -/
def crc (s : Text) : Nat :=
  let crc := s.foldl (fun crc c => crcStep crc c.toNat) 0
  ((lengthBytes 16 s.length).foldl crcStep crc ^^^ 0xffffffff).toNat

/-- The sum of the bytes, turned to the right before each. -/
def rotated (s : Text) : Nat :=
  s.foldl (fun n c => ((n >>> 1) + ((n % 2) <<< 15) + c.toNat) % 65536) 0

/-- The sum of the bytes, cut down to sixteen bits. -/
def plainSum (s : Text) : Nat :=
  let n := s.foldl (fun n c => n + c.toNat) 0 % 4294967296
  let r := n % 65536 + n / 65536
  (r % 65536) + r / 65536

end Digest

namespace Tool

/-- Checks the digests that lines list with the names of files. -/
def checkDigests (name : Text) (compute : Text → Text) (quiet silent : Bool) (lines : List Text) :
    Action Nat := do
  let mut failed := 0
  let mut unread := 0
  for line in lines do
    let digest := line.takeWhile fun c => c.isDigit || ('a' ≤ c && c ≤ 'f')
    let path := (line.drop digest.length).drop 2
    unless digest.isEmpty || path.isEmpty do
      match ← withInput path Action.readAll with
      | .error e =>
        plainComplaint name path e
        unread := unread + 1
        unless silent do Action.printLine (path ++ ": FAILED open or read".toList)
      | .ok text =>
        if compute text == digest then
          unless quiet || silent do Action.printLine (path ++ ": OK".toList)
        else
          failed := failed + 1
          unless silent do Action.printLine (path ++ ": FAILED".toList)
  unless silent do
    if unread == 1 then fault name "WARNING: 1 listed file could not be read"
    else if 1 < unread then
      fault name ("WARNING: " ++ toString unread ++ " listed files could not be read")
    if failed == 1 then fault name "WARNING: 1 computed checksum did NOT match"
    else if 1 < failed then
      fault name ("WARNING: " ++ toString failed ++ " computed checksums did NOT match")
  return if failed == 0 && unread == 0 then 0 else 1

/-- Prints the digests of files, or checks them. -/
def digest (kind : String) (compute : Text → Text) : Tool :=
  withOptions "b/binary c/check t/text /tag w/warn q/quiet /status /strict /ignore-missing z/zero" 1
    fun name o => do
      let mut status := 0
      for path in (if o.operands.isEmpty then [['-']] else o.operands) do
        match ← withInput path Action.readAll with
        | .error e =>
          plainComplaint name path e
          status := 1
        | .ok text =>
          if o.has "c" then
            let result ← checkDigests name compute (o.has "q" || o.has "quiet") (o.has "status")
              (linesOf text)
            status := max status result
          else if o.has "tag" then
            Action.printLine (kind.toList ++ " (".toList ++ path ++ ") = ".toList ++ compute text)
          else
            Action.printLine (compute text ++ [' ', if o.has "b" then '*' else ' '] ++ path)
      return status

/-- Prints numbers that are computed from files, each with the size and the name. -/
def checksum (line : Text → Text → Text) : Tool := withOptions "r s/sysv a/algorithm= /debug" 1
    fun name o => do
  let mut status := 0
  for path in (if o.operands.isEmpty then [['-']] else o.operands) do
    match ← withInput path Action.readAll with
    | .error e =>
      plainComplaint name path e
      status := 1
    | .ok text =>
      let label := if o.operands.isEmpty then [] else ' ' :: path
      let number :=
        if o.has "s" then
          numeral (Digest.plainSum text) ++ ' ' :: numeral ((text.length + 511) / 512) ++ label
        else line text label
      Action.printLine number
  return status

/-- The remainder and the size of files. -/
def cksum : Tool := checksum fun text label =>
  numeral (Digest.crc text) ++ ' ' :: numeral text.length ++ label

/-- The sum and the number of blocks of files. -/
def sum : Tool := checksum fun text label =>
  digitsIn 10 5 '0' (Digest.rotated text) ++
    ' ' :: padLeft 5 (numeral ((text.length + 1023) / 1024)) ++
    label

end Tool
end Shell
end StressBench
