import CyberLion.PyText

/-!
# SHA-256

`hashlib.sha256(data).hexdigest()` on data that encodes a text.  The digest is
the standard's own computation on 32 bit words, kept as natural numbers below
`2 ^ 32`.  Proofs use only that a digest is 64 lower case hexadecimal digits.
-/

namespace PyLib

namespace Sha256

def wordModulus : Nat := 4294967296

def rotateRight (count word : Nat) : Nat :=
  (word >>> count) ||| ((word <<< (32 - count)) % wordModulus)

def choose (x y z : Nat) : Nat :=
  (x &&& y) ^^^ ((x ^^^ (wordModulus - 1)) &&& z)

def majority (x y z : Nat) : Nat :=
  (x &&& y) ^^^ (x &&& z) ^^^ (y &&& z)

def bigSigma0 (x : Nat) : Nat :=
  rotateRight 2 x ^^^ rotateRight 13 x ^^^ rotateRight 22 x

def bigSigma1 (x : Nat) : Nat :=
  rotateRight 6 x ^^^ rotateRight 11 x ^^^ rotateRight 25 x

def smallSigma0 (x : Nat) : Nat :=
  rotateRight 7 x ^^^ rotateRight 18 x ^^^ (x >>> 3)

def smallSigma1 (x : Nat) : Nat :=
  rotateRight 17 x ^^^ rotateRight 19 x ^^^ (x >>> 10)

def roundConstants : List Nat := [
  0x428a2f98, 0x71374491, 0xb5c0fbcf, 0xe9b5dba5, 0x3956c25b, 0x59f111f1,
  0x923f82a4, 0xab1c5ed5, 0xd807aa98, 0x12835b01, 0x243185be, 0x550c7dc3,
  0x72be5d74, 0x80deb1fe, 0x9bdc06a7, 0xc19bf174, 0xe49b69c1, 0xefbe4786,
  0x0fc19dc6, 0x240ca1cc, 0x2de92c6f, 0x4a7484aa, 0x5cb0a9dc, 0x76f988da,
  0x983e5152, 0xa831c66d, 0xb00327c8, 0xbf597fc7, 0xc6e00bf3, 0xd5a79147,
  0x06ca6351, 0x14292967, 0x27b70a85, 0x2e1b2138, 0x4d2c6dfc, 0x53380d13,
  0x650a7354, 0x766a0abb, 0x81c2c92e, 0x92722c85, 0xa2bfe8a1, 0xa81a664b,
  0xc24b8b70, 0xc76c51a3, 0xd192e819, 0xd6990624, 0xf40e3585, 0x106aa070,
  0x19a4c116, 0x1e376c08, 0x2748774c, 0x34b0bcb5, 0x391c0cb3, 0x4ed8aa4a,
  0x5b9cca4f, 0x682e6ff3, 0x748f82ee, 0x78a5636f, 0x84c87814, 0x8cc70208,
  0x90befffa, 0xa4506ceb, 0xbef9a3f7, 0xc67178f2]

structure Working where
  a : Nat
  b : Nat
  c : Nat
  d : Nat
  e : Nat
  f : Nat
  g : Nat
  h : Nat

def initialWorking : Working :=
  ⟨0x6a09e667, 0xbb67ae85, 0x3c6ef372, 0xa54ff53a, 0x510e527f, 0x9b05688c,
    0x1f83d9ab, 0x5be0cd19⟩

def nextWord (window : List Nat) : Nat :=
  (smallSigma1 (window.getD 14 0) + window.getD 9 0 +
    smallSigma0 (window.getD 1 0) + window.getD 0 0) % wordModulus

def roundStep (state : Working) (constant word : Nat) : Working :=
  let first := (state.h + bigSigma1 state.e + choose state.e state.f state.g +
    constant + word) % wordModulus
  let second := (bigSigma0 state.a + majority state.a state.b state.c) % wordModulus
  ⟨(first + second) % wordModulus, state.a, state.b, state.c,
    (state.d + first) % wordModulus, state.e, state.f, state.g⟩

/-- The rounds of one block; the schedule window slides by one word a round. -/
def rounds : List Nat → List Nat → Working → Working
  | constant :: constants, word :: window, state =>
    rounds constants (window ++ [nextWord (word :: window)])
      (roundStep state constant word)
  | _, _, state => state

def compress (state : Working) (block : List Nat) : Working :=
  let mixed := rounds roundConstants block state
  ⟨(state.a + mixed.a) % wordModulus, (state.b + mixed.b) % wordModulus,
    (state.c + mixed.c) % wordModulus, (state.d + mixed.d) % wordModulus,
    (state.e + mixed.e) % wordModulus, (state.f + mixed.f) % wordModulus,
    (state.g + mixed.g) % wordModulus, (state.h + mixed.h) % wordModulus⟩

/-- The `count` low bytes of a number, most significant first. -/
def bigEndian : Nat → Nat → List Nat
  | 0, _ => []
  | count + 1, value => bigEndian count (value / 256) ++ [value % 256]

def pad (message : List Nat) : List Nat :=
  message ++ 0x80 :: List.replicate ((119 - message.length % 64) % 64) 0 ++
    bigEndian 8 (8 * message.length)

def wordsOf : List Nat → List Nat
  | a :: b :: c :: d :: rest =>
    (((a * 256 + b) * 256 + c) * 256 + d) :: wordsOf rest
  | _ => []

def absorb : Nat → Working → List Nat → Working
  | 0, state, _ => state
  | count + 1, state, words =>
    absorb count (compress state (words.take 16)) (words.drop 16)

def digestWords (message : List Nat) : List Nat :=
  let words := wordsOf (pad message)
  let state := absorb (words.length / 16) initialWorking words
  [state.a, state.b, state.c, state.d, state.e, state.f, state.g, state.h]

def hexByte (byte : Nat) : PyStr :=
  let digit := fun value : Nat =>
    (Fin.ofNat 0x110000 (if value < 10 then 0x30 + value else 0x57 + value))
  [digit (byte / 16 % 16), digit (byte % 16)]

def hexWord (word : Nat) : PyStr :=
  (bigEndian 4 word).flatMap hexByte

end Sha256

/-- `hashlib.sha256(data).hexdigest()`. -/
def sha256 (data : Utf8Bytes) : PyStr :=
  (Sha256.digestWords (data.text.flatMap utf8Point)).flatMap Sha256.hexWord

/-- The pattern `[0-9a-f]{count}` matches the whole text. -/
def isLowerHexOf (count : Nat) (text : PyStr) : Bool :=
  text.length == count && text.all CodePoint.isLowerHex

theorem CodePoint.solid_of_isLowerHex {c : CodePoint} (hex : c.isLowerHex = true) :
    c.isSpace = false ∧ c.val ≠ 0 := by
  simp only [CodePoint.isLowerHex, CodePoint.isAsciiDigit, Bool.or_eq_true, Bool.and_eq_true,
    decide_eq_true_eq] at hex
  constructor
  · simp only [CodePoint.isSpace, Bool.or_eq_false_iff, Bool.and_eq_false_iff,
      decide_eq_false_iff_not, beq_eq_false_iff_ne, ne_eq]
    omega
  · omega

theorem solid_of_isLowerHexOf {value : PyStr} (hex : isLowerHexOf 64 value = true) :
    value.length = 64 ∧ isBlank value = false ∧ hasNul value = false := by
  rw [isLowerHexOf, Bool.and_eq_true, beq_iff_eq, List.all_eq_true] at hex
  obtain ⟨length, digits⟩ := hex
  refine ⟨length, ?_, ?_⟩
  · cases value with
    | nil => simp at length
    | cons c rest => simp [isBlank, (CodePoint.solid_of_isLowerHex (digits c (by simp))).1]
  · rw [hasNul, List.any_eq_false]
    intro c member
    simp [(CodePoint.solid_of_isLowerHex (digits c member)).2]

theorem isEncodable_of_isLowerHexOf {count : Nat} {value : PyStr}
    (hex : isLowerHexOf count value = true) : isEncodable value = true := by
  rw [isLowerHexOf, Bool.and_eq_true, List.all_eq_true] at hex
  rw [isEncodable, List.all_eq_true]
  intro c member
  have digit := hex.2 c member
  simp only [CodePoint.isLowerHex, CodePoint.isAsciiDigit, Bool.or_eq_true, Bool.and_eq_true,
    decide_eq_true_eq] at digit
  simp only [CodePoint.isSurrogate, CodePoint.isHighSurrogate, CodePoint.isLowSurrogate,
    Bool.not_eq_true', Bool.or_eq_false_iff, Bool.and_eq_false_iff, decide_eq_false_iff_not]
  omega

theorem Sha256.hexWord_shape (word : Nat) :
    (Sha256.hexWord word).length = 8 ∧
      ∀ c ∈ Sha256.hexWord word, c.isLowerHex = true := by
  have digitShape : ∀ value < 16, CodePoint.isLowerHex (Fin.ofNat 0x110000
      (if value < 10 then 0x30 + value else 0x57 + value)) = true := by
    decide
  have digitBound : ∀ value : Nat, value % 16 < 16 := fun value =>
    Nat.mod_lt value (by decide)
  constructor
  · simp [Sha256.hexWord, Sha256.bigEndian, Sha256.hexByte]
  · intro c member
    obtain ⟨byte, -, inByte⟩ := List.mem_flatMap.mp member
    rcases List.mem_cons.mp inByte with rfl | inByte
    · exact digitShape _ (digitBound _)
    · rw [List.mem_singleton.mp inByte]
      exact digitShape _ (digitBound _)

theorem isLowerHexOf_sha256 (data : Utf8Bytes) :
    isLowerHexOf 64 (sha256 data) = true := by
  simp only [isLowerHexOf, sha256, Sha256.digestWords, List.flatMap_cons,
    List.flatMap_nil, List.append_nil, List.length_append,
    (Sha256.hexWord_shape _).1, List.all_append, Bool.and_eq_true]
  refine ⟨by decide, ?_⟩
  have wordHex : ∀ word, (Sha256.hexWord word).all CodePoint.isLowerHex = true :=
    fun word => List.all_eq_true.mpr (Sha256.hexWord_shape word).2
  simp [wordHex]

attribute [irreducible] sha256

end PyLib
