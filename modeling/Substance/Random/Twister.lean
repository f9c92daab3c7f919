import Substance.Random.Word

/-!
# The Mersenne Twister

The generator with 19937 bits of state: a window of 624 words, renewed as a whole, of which every
word is tempered before it is handed out.  A seed is an integer of any size; its sign does not
count.
-/

namespace Substance.Random

/-- The window of words and the number of those handed out. -/
structure Twister where
  window : Vector UInt32 624
  used : Nat
deriving DecidableEq, Repr

namespace Twister

/-- The window that a single word spreads over. -/
def spread (seed : UInt32) : Vector UInt32 624 :=
  Fin.foldl 624
    (fun window i =>
      let last := window[i - 1]
      let word := (last ^^^ (last >>> 30)) * 1812433253 + UInt32.ofNat i.val
      window.set i.val (if i = 0 then seed else word) i.isLt)
    (Vector.replicate 624 0)

/-- The 32-bit digits of a number, least significant first. -/
def digits (n : Nat) : List UInt32 :=
  if n = 0 then [] else UInt32.ofNat n :: digits (n / UInt32.size)
termination_by n
decreasing_by exact Nat.div_lt_self (Nat.pos_of_ne_zero ‹_›) (by decide)

/-- A place in the window that is filled from the place before it.  The first place takes part last,
so after the last one the walk goes on with the second. -/
structure Walk where
  window : Vector UInt32 624
  place : Fin 624

/-- Fill the place where the walk stands and step on.  A step over the end copies the last word to
the front. -/
def Walk.fill (w : Walk) (mix : UInt32 → UInt32 → UInt32) : Walk :=
  let last := w.window[w.place - 1]
  let window := w.window.set w.place.val
    (mix w.window[w.place] (last ^^^ (last >>> 30))) w.place.isLt
  if w.place = 623 then ⟨window.set 0 window[623], 1⟩ else ⟨window, w.place + 1⟩

/-- The state for a key of one or more words. -/
def ofKey (key : Array UInt32) : Twister :=
  let steps := max 624 key.size
  let absorbed := Nat.fold steps
    (fun step _ w =>
      let j := step % key.size
      w.fill fun word last => (word ^^^ (last * 1664525)) + key.getD j 0 + UInt32.ofNat j)
    (Walk.mk (spread 19650218) 1)
  let settled := Nat.fold 623
    (fun _ _ (w : Walk) =>
      let i := w.place
      w.fill fun word last => (word ^^^ (last * 1566083941)) - UInt32.ofNat i.val)
    absorbed
  ⟨settled.window.set 0 0x80000000, 624⟩

/-- The state for a seed. -/
def ofSeed (seed : Int) : Twister :=
  ofKey (if seed = 0 then #[0] else (digits seed.natAbs).toArray)

/-- Renew the window. -/
def renew (window : Vector UInt32 624) : Vector UInt32 624 :=
  Fin.foldl 624
    (fun window i =>
      let joined := (window[i] &&& 0x80000000) ||| (window[i + 1] &&& 0x7fffffff)
      let twist : UInt32 := if joined &&& 1 = 0 then 0 else 0x9908b0df
      window.set i.val (window[i + 397] ^^^ (joined >>> 1) ^^^ twist) i.isLt)
    window

/-- Stir the bits of a word before it is handed out. -/
def temper (y : UInt32) : UInt32 :=
  let y := y ^^^ (y >>> 11)
  let y := y ^^^ ((y <<< 7) &&& 0x9d2c5680)
  let y := y ^^^ ((y <<< 15) &&& 0xefc60000)
  y ^^^ (y >>> 18)

/-- The next word. -/
def next (t : Twister) : UInt32 × Twister :=
  if h : t.used < 624 then (temper t.window[t.used], { t with used := t.used + 1 })
  else
    let window := renew t.window
    (temper window[0], ⟨window, 1⟩)

instance : WordSource Twister := ⟨next⟩

end Twister

end Substance.Random
