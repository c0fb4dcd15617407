import Wiznet.Lib.Resumption

/-! # The lock-free ring

`spsc_ring.rs`. Every atomic load, every atomic store and every copied byte is
one step. `w` is the width of `usize`; subtractions wrap, as in a release
build. -/

namespace Wiznet
open Resumption

/-- The ring's shared words. `buf` is the storage behind the pointer, which
never moves once installed, so loading the pointer is not a step. -/
structure SpscRing (w : Nat) where
  buf : Nat → UInt8
  cap : BitVec w
  /-- Consumer index: bytes taken out so far. -/
  head : BitVec w
  /-- Producer index: bytes put in so far. -/
  tail : BitVec w
  framesIn : BitVec w
  framesOut : BitVec w

namespace SpscRing

variable {w : Nat}

/-- No storage yet: every operation is a no-op. -/
def new : SpscRing w := ⟨fun _ => 0, 0, 0, 0, 0, 0⟩

def poke (r : SpscRing w) (i : Nat) (b : UInt8) : SpscRing w :=
  { r with buf := Function.update r.buf i b }

/-- Install the backing buffer; the capacity is published last. -/
def install (buf : List UInt8) : Prog (SpscRing w) Unit := do
  Prog.store fun r => { r with head := 0 }
  Prog.store fun r => { r with tail := 0 }
  Prog.store fun r => { r with framesIn := 0 }
  Prog.store fun r => { r with framesOut := 0 }
  Prog.store fun r => { r with buf := fun i => buf.getD i 0 }
  Prog.store fun r => { r with cap := BitVec.ofNat w buf.length }

def capacity : Prog (SpscRing w) (BitVec w) := Prog.load (·.cap)

/-- Discard all buffered bytes: four separate stores. -/
def clear : Prog (SpscRing w) Unit := do
  Prog.store fun r => { r with head := 0 }
  Prog.store fun r => { r with framesOut := 0 }
  Prog.store fun r => { r with framesIn := 0 }
  Prog.store fun r => { r with tail := 0 }

/-- Bytes currently stored. -/
def len : Prog (SpscRing w) (BitVec w) := do
  let tail ← Prog.load (·.tail)
  let head ← Prog.load (·.head)
  pure (tail - head)

/-- Free space currently available to write. -/
def free : Prog (SpscRing w) (BitVec w) := do
  let cap ← capacity
  let len ← len
  pure (cap - len)

/-- Copy bytes into the storage from index `i` on. -/
def copyIn (i : Nat) : List UInt8 → Prog (SpscRing w) Unit
  | [] => pure ()
  | b :: bs => do
    Prog.store fun r => r.poke i b
    copyIn (i + 1) bs

/-- Copy `n` bytes out of the storage from index `i` on. -/
def copyOut (i : Nat) : Nat → Prog (SpscRing w) (List UInt8)
  | 0 => pure []
  | n + 1 => do
    let b ← Prog.load fun r => r.buf i
    let bs ← copyOut (i + 1) n
    pure (b :: bs)

/-- Producer: copy up to `src.len()` bytes in, returning the number stored. -/
def write (src : List UInt8) : Prog (SpscRing w) Nat := do
  let cap ← capacity
  if cap = 0 then pure 0
  else
    let head ← Prog.load (·.head)
    let tail ← Prog.load (·.tail)
    let n := min src.length (cap - (tail - head)).toNat
    if n = 0 then pure 0
    else
      let start := tail.toNat % cap.toNat
      let first := min n (cap.toNat - start)
      copyIn start (src.take first)
      copyIn 0 ((src.take n).drop first)
      Prog.store fun r => { r with tail := tail + BitVec.ofNat w n }
      pure n

/-- The bytes of the two `memcpy`s of `read` and `peek`: `n` from `head` on. -/
def copyFrom (cap head : BitVec w) (n : Nat) : Prog (SpscRing w) (List UInt8) := do
  let start := head.toNat % cap.toNat
  let first := min n (cap.toNat - start)
  let front ← copyOut start first
  let back ← copyOut 0 (n - first)
  pure (front ++ back)

/-- Consumer: copy up to `n` bytes out, returning those taken. -/
def read (n : Nat) : Prog (SpscRing w) (List UInt8) := do
  let cap ← capacity
  if cap = 0 then pure []
  else
    let tail ← Prog.load (·.tail)
    let head ← Prog.load (·.head)
    let n := min n (tail - head).toNat
    if n = 0 then pure []
    else
      let dst ← copyFrom cap head n
      Prog.store fun r => { r with head := head + BitVec.ofNat w n }
      pure dst

/-- Consumer: as `read`, without advancing `head`. -/
def peek (n : Nat) : Prog (SpscRing w) (List UInt8) := do
  let cap ← capacity
  if cap = 0 then pure []
  else
    let tail ← Prog.load (·.tail)
    let head ← Prog.load (·.head)
    let n := min n (tail - head).toNat
    if n = 0 then pure []
    else copyFrom cap head n

/-- Number of complete datagram frames available to the consumer. -/
def frames : Prog (SpscRing w) (BitVec w) := do
  let produced ← Prog.load (·.framesIn)
  let consumed ← Prog.load (·.framesOut)
  pure (produced - consumed)

/-- Producer: publish one datagram frame. -/
def commitFrame : Prog (SpscRing w) Unit := do
  let produced ← Prog.load (·.framesIn)
  Prog.store fun r => { r with framesIn := produced + 1 }

/-- Consumer: retire one datagram frame. -/
def releaseFrame : Prog (SpscRing w) Unit := do
  let consumed ← Prog.load (·.framesOut)
  Prog.store fun r => { r with framesOut := consumed + 1 }

end SpscRing

end Wiznet
