/-! The Mersenne Twister with 624 words of 32 bits, seeded by an integer of any size. -/

set_option autoImplicit false

namespace Gamebook

structure Twister where
  words : Array UInt32
  /-- The next word to be handed out; all are renewed when it reaches the end. -/
  next : Nat

namespace Twister

def size : Nat := 624

def shift : Nat := 397

def word (words : Array UInt32) (i : Nat) : UInt32 :=
  words.getD i 0

def mix (w : UInt32) : UInt32 :=
  w ^^^ (w >>> 30)

def grow (seed : UInt32) : Array UInt32 :=
  (List.range (size - 1)).foldl
    (fun words i => words.push (1812433253 * mix (word words i) + (i + 1).toUInt32)) #[seed]

/-- One pass of `count` updates that runs through the words from the second on, over and over; the
last word is copied to the front at each turn. -/
def pass (update : Nat → Nat → UInt32 → UInt32 → UInt32) (count : Nat)
    (start : Array UInt32 × Nat) : Array UInt32 × Nat :=
  (List.range count).foldl
    (fun (words, i) step =>
      let words := words.set! i (update step i (word words i) (mix (word words (i - 1))))
      if i + 1 < size then (words, i + 1) else (words.set! 0 (word words (size - 1)), 1))
    start

def ofKey (key : Array UInt32) : Array UInt32 :=
  let absorbed := pass
    (fun step _ w mixed =>
      let j := step % key.size
      (w ^^^ (mixed * 1664525)) + key.getD j 0 + j.toUInt32)
    (max size key.size) (grow 19650218, 1)
  let spread := pass (fun _ i w mixed => (w ^^^ (mixed * 1566083941)) - i.toUInt32)
    (size - 1) absorbed
  spread.1.set! 0 0x80000000

/-- The 32-bit digits of a number, lowest first; `fuel` bounds their count. -/
def digits32 : Nat → Nat → List UInt32
  | 0, _ => []
  | fuel + 1, n =>
    if n < 2 ^ 32 then [n.toUInt32] else (n % 2 ^ 32).toUInt32 :: digits32 fuel (n / 2 ^ 32)

/-- The generator of a seed; its sign does not count. -/
def ofSeed (seed : Int) : Twister :=
  let n := seed.natAbs
  ⟨ofKey (digits32 (n.log2 / 32 + 1) n).toArray, size⟩

def renew (words : Array UInt32) : Array UInt32 :=
  (List.range size).foldl
    (fun words i =>
      let joined := (word words i &&& 0x80000000) ||| (word words ((i + 1) % size) &&& 0x7fffffff)
      let twist : UInt32 := if joined &&& 1 = 0 then 0 else 0x9908b0df
      words.set! i (word words ((i + shift) % size) ^^^ (joined >>> 1) ^^^ twist))
    words

def temper (w : UInt32) : UInt32 :=
  let w := w ^^^ (w >>> 11)
  let w := w ^^^ ((w <<< 7) &&& 0x9d2c5680)
  let w := w ^^^ ((w <<< 15) &&& 0xefc60000)
  w ^^^ (w >>> 18)

def nextWord (t : Twister) : UInt32 × Twister :=
  let t := if t.next < size then t else ⟨renew t.words, 0⟩
  (temper (word t.words t.next), { t with next := t.next + 1 })

/-- A number in `[0, 1)` with 53 random bits. -/
def nextUnit (t : Twister) : Float × Twister :=
  let (a, t) := t.nextWord
  let (b, t) := t.nextWord
  let high := (a >>> 5).toNat
  let low := (b >>> 6).toNat
  (Float.ofNat (high * 67108864 + low) / 9007199254740992.0, t)

end Twister

end Gamebook
