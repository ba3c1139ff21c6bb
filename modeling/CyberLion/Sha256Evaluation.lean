import CyberLion.Sha256

/-!
# Evaluating SHA-256

A second computation of the digest, on numerals: each word and each working variable is
evaluated before the next round takes it.  It is the digest, and concrete digests are found
with it.
-/

namespace PyLib

namespace Sha256

def forced {α : Type} (number : Nat) (continuation : Nat → α) : α :=
  Nat.casesOn number (continuation 0) fun predecessor => continuation (Nat.succ predecessor)

@[simp]
theorem forced_eq {α : Type} (number : Nat) (continuation : Nat → α) :
    forced number continuation = continuation number := by
  cases number <;> rfl

def rotated (count rest word : Nat) : Nat :=
  Nat.lor (Nat.shiftRight word count) (Nat.mod (Nat.shiftLeft word rest) 4294967296)

def firstOf (constant word e f g h : Nat) : Nat :=
  let mixed := Nat.xor (Nat.xor (rotated 6 26 e) (rotated 11 21 e)) (rotated 25 7 e)
  let chosen := Nat.xor (Nat.land e f) (Nat.land (Nat.xor e 4294967295) g)
  Nat.mod (Nat.add (Nat.add (Nat.add (Nat.add h mixed) chosen) constant) word) 4294967296

def secondOf (a b c : Nat) : Nat :=
  let mixed := Nat.xor (Nat.xor (rotated 2 30 a) (rotated 13 19 a)) (rotated 22 10 a)
  let most := Nat.xor (Nat.xor (Nat.land a b) (Nat.land a c)) (Nat.land b c)
  Nat.mod (Nat.add mixed most) 4294967296

def wordAfter (w0 w1 w9 w14 : Nat) : Nat :=
  let late := Nat.xor (Nat.xor (rotated 17 15 w14) (rotated 19 13 w14)) (Nat.shiftRight w14 10)
  let early := Nat.xor (Nat.xor (rotated 7 25 w1) (rotated 18 14 w1)) (Nat.shiftRight w1 3)
  Nat.mod (Nat.add (Nat.add (Nat.add late w9) early) w0) 4294967296

/-- `rounds`, with the window and the working variables as arguments. -/
def evalRounds (constants : List Nat) (w0 w1 w2 w3 w4 w5 w6 w7 w8 w9 w10 w11 w12 w13 w14 w15 : Nat)
    (a b c d e f g h : Nat) : Working :=
  match constants with
  | [] => ⟨a, b, c, d, e, f, g, h⟩
  | constant :: constants =>
    forced (firstOf constant w0 e f g h) fun first =>
    forced (Nat.mod (Nat.add first (secondOf a b c)) 4294967296) fun newA =>
    forced (Nat.mod (Nat.add d first) 4294967296) fun newE =>
    forced (wordAfter w0 w1 w9 w14) fun w16 =>
    evalRounds constants w1 w2 w3 w4 w5 w6 w7 w8 w9 w10 w11 w12 w13 w14 w15 w16
      newA a b c newE e f g

theorem evalRounds_eq (constants : List Nat)
    (w0 w1 w2 w3 w4 w5 w6 w7 w8 w9 w10 w11 w12 w13 w14 w15 a b c d e f g h : Nat) :
    evalRounds constants w0 w1 w2 w3 w4 w5 w6 w7 w8 w9 w10 w11 w12 w13 w14 w15 a b c d e f g h =
      rounds constants [w0, w1, w2, w3, w4, w5, w6, w7, w8, w9, w10, w11, w12, w13, w14, w15]
        ⟨a, b, c, d, e, f, g, h⟩ := by
  induction constants generalizing w0 w1 w2 w3 w4 w5 w6 w7 w8 w9 w10 w11 w12 w13 w14 w15
      a b c d e f g h with
  | nil => rfl
  | cons constant constants ih =>
    simp only [evalRounds, forced_eq, ih, rounds]
    rfl

def evalSum (first second : Working) : Working :=
  forced (Nat.mod (Nat.add first.a second.a) 4294967296) fun a =>
  forced (Nat.mod (Nat.add first.b second.b) 4294967296) fun b =>
  forced (Nat.mod (Nat.add first.c second.c) 4294967296) fun c =>
  forced (Nat.mod (Nat.add first.d second.d) 4294967296) fun d =>
  forced (Nat.mod (Nat.add first.e second.e) 4294967296) fun e =>
  forced (Nat.mod (Nat.add first.f second.f) 4294967296) fun f =>
  forced (Nat.mod (Nat.add first.g second.g) 4294967296) fun g =>
  forced (Nat.mod (Nat.add first.h second.h) 4294967296) fun h =>
  ⟨a, b, c, d, e, f, g, h⟩

/-- `absorb`, whose blocks are evaluated. -/
def evalAbsorb : Nat → Working → List Nat → Working
  | count + 1, ⟨a, b, c, d, e, f, g, h⟩, w0 :: w1 :: w2 :: w3 :: w4 :: w5 :: w6 :: w7 :: w8 ::
      w9 :: w10 :: w11 :: w12 :: w13 :: w14 :: w15 :: words =>
      evalAbsorb count (evalSum ⟨a, b, c, d, e, f, g, h⟩
        (evalRounds roundConstants w0 w1 w2 w3 w4 w5 w6 w7 w8 w9 w10 w11 w12 w13 w14 w15
          a b c d e f g h)) words
  | count, state, words => absorb count state words

theorem evalAbsorb_eq (count : Nat) (state : Working) (words : List Nat) :
    evalAbsorb count state words = absorb count state words := by
  fun_induction evalAbsorb count state words with
  | case1 count a b c d e f g h w0 w1 w2 w3 w4 w5 w6 w7 w8 w9 w10 w11 w12 w13 w14 w15 words ih =>
    rw [ih, absorb]
    simp only [evalSum, forced_eq, evalRounds_eq]
    rfl
  | case2 count state words => rfl

/-- `digestWords`, evaluated. -/
def evalDigest (message : List Nat) : List Nat :=
  let words := wordsOf (pad message)
  let state := evalAbsorb (words.length / 16) initialWorking words
  [state.a, state.b, state.c, state.d, state.e, state.f, state.g, state.h]

def hexNumeral (value : Nat) : PyStr :=
  (bigEndian 32 value).flatMap hexByte

def evalText (text : PyStr) : PyStr :=
  (evalDigest (text.flatMap utf8Point)).flatMap hexWord

theorem sha256_eq (data : Utf8Bytes) : sha256 data = evalText data.text := by
  simp only [sha256, digestWords, evalText, evalDigest, evalAbsorb_eq]

theorem sha256_eq_evalText : sha256 = fun data => evalText data.text :=
  funext sha256_eq

end Sha256

end PyLib
