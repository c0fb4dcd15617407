import Wiznet.UdpStaging

/-! # Taking datagrams

`recv_from` takes the frame at the head of the rx ring, whatever the length of
the buffer it is given: what does not fit is read and dropped. Its two loops wait
for bytes that a whole frame always has. -/

namespace Wiznet
open Resumption

variable {w : Nat}

namespace UdpSocket

open SpscRing

variable {r : SpscRing w}

/-- One round is enough where the bytes are there. -/
theorem run_copyLoop (hs : Sound r) {n : Nat} (hn : n ≤ (contents r).length) :
    (copyLoop n n []).run r = (some ((contents r).take n), popped n r) := by
  have hdone : ∀ (fuel : Nat) (copied : List UInt8) (r : SpscRing w), copied.length = n →
      (copyLoop n fuel copied).run r = (some copied, r) := by
    intro fuel copied r hlen
    cases fuel <;> simp [copyLoop, hlen]
  cases n with
  | zero => simp [copyLoop, popped]
  | succ n =>
    have hlen : ((contents r).take (n + 1)).length = n + 1 := List.length_take_of_le hn
    rw [copyLoop, if_pos (by simp), Prog.bind_eq, Prog.run_bind, List.length_nil, Nat.sub_zero,
      run_read_contents hs, Nat.min_eq_left hn]
    exact hdone _ _ _ hlen

theorem run_discardLoop (hs : Sound r) {n fuel : Nat} (hn : n ≤ (contents r).length)
    (hfuel : n ≤ fuel) : (discardLoop fuel n).run r = (true, popped n r) := by
  induction fuel generalizing n r with
  | zero =>
    obtain rfl := Nat.le_zero.mp hfuel
    simp [discardLoop, popped]
  | succ fuel ih =>
    by_cases hz : n = 0
    · subst hz
      simp [discardLoop, popped]
    · have htake : min n 64 ≤ (contents r).length := Nat.le_trans (Nat.min_le_left ..) hn
      have hlen : ((contents r).take (min n 64)).length = min n 64 := List.length_take_of_le htake
      have hpop : min n 64 ≤ (r.tail - r.head).toNat := by rwa [← length_contents]
      rw [discardLoop, if_pos (Nat.pos_of_ne_zero hz), Prog.bind_eq, Prog.run_bind,
        run_read_contents hs, Nat.min_eq_left htake]
      dsimp only
      rw [hlen, ih (hs.popped hpop) (by rw [contents_popped hs hpop, List.length_drop]; omega)
        (by omega), popped_popped]
      congr 2
      omega

theorem run_recvFrom_none (h : Framed [] r) (dstLen : Nat) :
    (recvFrom dstLen).run r = (.nothing, r) := by
  have hz : r.framesIn - r.framesOut = 0 := BitVec.eq_of_toNat_eq h.count
  simp only [recvFrom, Prog.bind_eq, Prog.run_bind, run_frames, hz, if_true]
  rfl

/-- The ring without the frame at its head. -/
def released (f : Frame) (r : SpscRing w) : SpscRing w :=
  { popped (FRAME_HEADER + f.payload.length) r with framesOut := r.framesOut + 1 }

theorem framed_released {f : Frame} {fs : List Frame} (h : Framed (f :: fs) r)
    (hcap : r.cap ≠ 0) : Framed fs (released f r) := by
  have hs := h.sound hcap
  have hlen := congrArg List.length h.bytes
  rw [List.flatMap_cons, List.length_append, Frame.bytes, stagedBytes_length, length_contents]
    at hlen
  have hn : FRAME_HEADER + f.payload.length ≤ (r.tail - r.head).toNat := by omega
  have hs' := hs.popped hn
  refine ⟨hs'.room, hs'.straight, ?_, ?_⟩
  · have hcontents := contents_popped hs hn
    rw [h.bytes, List.flatMap_cons, Frame.bytes, List.drop_left' (stagedBytes_length ..)]
      at hcontents
    exact hcontents
  · have h1 : 1 ≤ (r.framesIn - r.framesOut).toNat := by rw [h.count]; simp
    change (r.framesIn - (r.framesOut + BitVec.ofNat w 1)).toNat = fs.length
    rw [toNat_sub_advance h1, h.count]
    simp

/-- The frame at the head is taken whole, for a buffer of any length. -/
theorem run_recvFrom {f : Frame} {fs : List Frame} (h : Framed (f :: fs) r) (hcap : r.cap ≠ 0)
    (dstLen : Nat) :
    (recvFrom dstLen).run r = (.datagram (f.payload.take dstLen) f.dst, released f r) := by
  have hs := h.sound hcap
  have hcount := h.count
  have hbytes := h.bytes
  rw [List.flatMap_cons, Frame.bytes, stagedBytes, List.append_assoc] at hbytes
  have hheader := frameHeader_length (UInt16.ofNat f.payload.length) f.dst
  have hlen := congrArg List.length hbytes
  simp only [List.length_append, hheader] at hlen
  have hframes : r.framesIn - r.framesOut ≠ 0 := by
    intro hz
    rw [hz] at hcount
    cases hcount
  -- the header
  have h8 : FRAME_HEADER ≤ (contents r).length := by omega
  have h8' : FRAME_HEADER ≤ (r.tail - r.head).toNat := by rwa [← length_contents]
  have hhead : (SpscRing.read FRAME_HEADER).run r =
      (frameHeader (UInt16.ofNat f.payload.length) f.dst, popped FRAME_HEADER r) := by
    rw [run_read_contents hs, Nat.min_eq_left h8, hbytes, List.take_left' hheader]
  have hs₁ := hs.popped h8'
  have hcontents₁ := contents_popped hs h8'
  rw [hbytes, List.drop_left' hheader] at hcontents₁
  -- what goes into the buffer, and what does not
  have htake : f.payload.take (min f.payload.length dstLen) = f.payload.take dstLen := by
    rw [Nat.min_comm, ← List.take_eq_take_min]
  generalize hn : min f.payload.length dstLen = n at htake
  have hn₁ : n ≤ (contents (popped FRAME_HEADER r)).length := by
    rw [hcontents₁, List.length_append]
    omega
  have hn₁' : n ≤ ((popped FRAME_HEADER r).tail - (popped FRAME_HEADER r).head).toNat := by
    rwa [← length_contents]
  have hcopy := run_copyLoop hs₁ hn₁
  rw [hcontents₁, List.take_append_of_le_length (by omega), htake] at hcopy
  have hs₂ := hs₁.popped hn₁'
  have hn₂ : f.payload.length - n ≤ (contents (popped n (popped FRAME_HEADER r))).length := by
    rw [contents_popped hs₁ hn₁', hcontents₁, List.length_drop, List.length_append]
    omega
  have hdiscard := run_discardLoop hs₂ hn₂ (Nat.le_refl _)
  have hsum : FRAME_HEADER + n + (f.payload.length - n) = FRAME_HEADER + f.payload.length := by
    omega
  rw [popped_popped, popped_popped, hsum] at hdiscard
  have hfits : (UInt16.ofNat f.payload.length).toNat = f.payload.length :=
    UInt16.toNat_ofNat_of_lt' f.fits
  simp only [recvFrom, Prog.bind_eq, Prog.run_bind, run_frames, hframes, if_false, hhead,
    fillHeader_eq hheader, parse_frameHeader, hfits, hn, hcopy, popped_popped, hdiscard]
  rfl

end UdpSocket

end Wiznet
