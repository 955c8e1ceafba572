import BridgeClient.Bytes

set_option autoImplicit false

/-!
The SHA-2 hash with words of 32 and of 64 bits. Both are one construction: the constants are the
leading fraction bits of roots of the first primes, and only word size, rounds and rotations differ.
-/
namespace BridgeClient.Sha2

/-- The largest number whose `k`-th power is at most `n`, its bits tried from the top. -/
def floorRoot (k n : Nat) : Nat :=
  (List.range (Nat.log2 n / k + 1)).reverse.foldl
    (fun root i => if Nat.pow (root + Nat.pow 2 i) k ≤ n then root + Nat.pow 2 i else root) 0

def isPrime (n : Nat) : Bool :=
  2 ≤ n && (List.range n).all fun d => d < 2 || n % d != 0

/-- The first `count` primes; eighty of them lie below 410. -/
def primes (count : Nat) : List Nat := ((List.range 410).filter isPrime).take count

/-- The first `width` fraction bits of the `k`-th root of a number. -/
def rootFraction (width k n : Nat) : BitVec width :=
  BitVec.ofNat width (floorRoot k (n * Nat.pow 2 (k * width)))

/-- Two rotations and a third amount, which is a rotation or a shift. -/
structure Mixing where
  first : Nat
  second : Nat
  third : Nat

/-- What tells one member of the family from another. -/
structure Variant (width : Nat) where
  majorA : Mixing
  majorE : Mixing
  scheduleLow : Mixing
  scheduleHigh : Mixing
  constants : List (BitVec width)
  initial : List (BitVec width)

variable {width : Nat}

def Mixing.rotate (m : Mixing) (x : BitVec width) : BitVec width :=
  x.rotateRight m.first ^^^ x.rotateRight m.second ^^^ x.rotateRight m.third

def Mixing.shift (m : Mixing) (x : BitVec width) : BitVec width :=
  x.rotateRight m.first ^^^ x.rotateRight m.second ^^^ (x >>> m.third)

/-- The eight working words. -/
structure State (width : Nat) where
  a : BitVec width
  b : BitVec width
  c : BitVec width
  d : BitVec width
  e : BitVec width
  f : BitVec width
  g : BitVec width
  h : BitVec width

namespace State

def ofList (words : List (BitVec width)) : State width :=
  let wordAt := fun i => words.getD i 0
  ⟨wordAt 0, wordAt 1, wordAt 2, wordAt 3, wordAt 4, wordAt 5, wordAt 6, wordAt 7⟩

def toList (s : State width) : List (BitVec width) := [s.a, s.b, s.c, s.d, s.e, s.f, s.g, s.h]

def add (s t : State width) : State width :=
  ⟨s.a + t.a, s.b + t.b, s.c + t.c, s.d + t.d, s.e + t.e, s.f + t.f, s.g + t.g, s.h + t.h⟩

end State

/-- One round, with a constant and a word of the schedule. -/
def round (v : Variant width) (s : State width) (input : BitVec width × BitVec width) :
    State width :=
  let choose := (s.e &&& s.f) ^^^ (~~~s.e &&& s.g)
  let majority := (s.a &&& s.b) ^^^ (s.a &&& s.c) ^^^ (s.b &&& s.c)
  let t1 := s.h + v.majorE.rotate s.e + choose + input.1 + input.2
  let t2 := v.majorA.rotate s.a + majority
  ⟨t1 + t2, s.a, s.b, s.c, s.d + t1, s.e, s.f, s.g⟩

/-- Adds so many words to a schedule held with its latest word first. -/
def extend (v : Variant width) : Nat → List (BitVec width) → List (BitVec width)
  | 0, words => words
  | count + 1, words =>
      let next := v.scheduleHigh.shift (words.getD 1 0) + words.getD 6 0
        + v.scheduleLow.shift (words.getD 14 0) + words.getD 15 0
      extend v count (next :: words)

def wordsOfBlock (block : Bytes) : List (BitVec width) :=
  (Bytes.blocks (width / 8) 16 block).map fun word => BitVec.ofNat width (Bytes.ofBigEndian word)

/-- Works one block into the state. -/
def compress (v : Variant width) (s : State width) (block : Bytes) : State width :=
  let schedule := (extend v (v.constants.length - 16) (wordsOfBlock block).reverse).reverse
  s.add ((v.constants.zip schedule).foldl (round v) s)

/-- The message, a one bit, zeros, and the length in bits at the end of a block. -/
def pad (width : Nat) (message : Bytes) : Bytes :=
  let block := 2 * width
  let used := message.length + 1 + width / 4
  message ++ 0x80 :: List.replicate ((block - used % block) % block) 0
    ++ Bytes.bigEndian (width / 4) (8 * message.length)

def digest (v : Variant width) (message : Bytes) : State width :=
  let padded := pad width message
  (Bytes.blocks (2 * width) (padded.length / (2 * width)) padded).foldl (compress v)
    (State.ofList v.initial)

def digestBytes (v : Variant width) (message : Bytes) : FixedBytes (8 * (width / 8)) :=
  ⟨(digest v message).toList.flatMap fun word => Bytes.bigEndian (width / 8) word.toNat, by
    simp [State.toList]; omega⟩

def variant256 : Variant 32 where
  majorA := ⟨2, 13, 22⟩
  majorE := ⟨6, 11, 25⟩
  scheduleLow := ⟨7, 18, 3⟩
  scheduleHigh := ⟨17, 19, 10⟩
  constants := (primes 64).map (rootFraction 32 3)
  initial := (primes 8).map (rootFraction 32 2)

def variant512 : Variant 64 where
  majorA := ⟨28, 34, 39⟩
  majorE := ⟨14, 18, 41⟩
  scheduleLow := ⟨1, 8, 7⟩
  scheduleHigh := ⟨19, 61, 6⟩
  constants := (primes 80).map (rootFraction 64 3)
  initial := (primes 8).map (rootFraction 64 2)

end BridgeClient.Sha2

namespace BridgeClient

/-- The 32-byte hash. -/
def sha256 (message : Bytes) : FixedBytes 32 := Sha2.digestBytes Sha2.variant256 message

/-- The 64-byte hash. -/
def sha512 (message : Bytes) : FixedBytes 64 := Sha2.digestBytes Sha2.variant512 message

end BridgeClient
