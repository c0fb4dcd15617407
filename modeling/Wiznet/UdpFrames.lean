import Wiznet.TickSteps
import Wiznet.UdpSocket
import Wiznet.Scripted

/-! # Frames in the tx ring

A datagram waits in the tx ring as a frame: an 8-byte header and the payload.
`transmit` takes the header out before the last operation that can fail, so the
ring stays aligned exactly when nothing behind that point fails. -/

namespace Wiznet
open Resumption Resumption.Code Tick

variable {w L : Nat} {D : Type}

/-- One datagram as `send_to` stages it. -/
structure Frame where
  payload : List UInt8
  dst : SocketAddr
  fits : payload.length < 2 ^ 16

theorem frameHeader_length (len : UInt16) (addr : SocketAddr) :
    (frameHeader len addr).length = FRAME_HEADER := by simp [frameHeader, FRAME_HEADER]

/-- The header a consumer reads is the header the producer wrote. -/
theorem parse_frameHeader (len : UInt16) (addr : SocketAddr) :
    parseFrameHeader (frameHeader len addr) = (len.toNat, addr) := by
  have hlen : len.toNat < 256 ^ 2 := len.toNat_lt
  have hip : addr.ip.toNat < 256 ^ 4 := addr.ip.toNat_lt
  have hport : addr.port.toNat < 256 ^ 2 := addr.port.toNat_lt
  have hdrop2 : (frameHeader len addr).drop 2 =
      BigEndian.encode 4 addr.ip.toNat ++ BigEndian.encode 2 addr.port.toNat := by
    rw [frameHeader, List.append_assoc]
    exact List.drop_left' (BigEndian.encode_length ..)
  have hdrop6 : ((frameHeader len addr).drop 6).take 2 = BigEndian.encode 2 addr.port.toNat := by
    rw [frameHeader, List.drop_left' (by simp)]
    exact List.take_of_length_le (by simp)
  have htake : (frameHeader len addr).take 2 = BigEndian.encode 2 len.toNat := by
    rw [frameHeader, List.append_assoc]
    exact List.take_left' (BigEndian.encode_length ..)
  rw [parseFrameHeader, htake, hdrop2, hdrop6, List.take_left' (BigEndian.encode_length ..),
    BigEndian.decode_encode_of_lt hlen, BigEndian.decode_encode_of_lt hip,
    BigEndian.decode_encode_of_lt hport, UInt32.ofNat_toNat, UInt16.ofNat_toNat]

theorem fillHeader_eq {h : List UInt8} (hh : h.length = FRAME_HEADER) : fillHeader h = h := by
  have hl : 0 + h.length ≤ (List.replicate FRAME_HEADER (0 : UInt8)).length := by simp [hh]
  simp [fillHeader, copyFromSlice_eq hl, hh]

namespace SpscRing

/-- The ring after `n` bytes were read. -/
def taken (n : Nat) (r : SpscRing w) : SpscRing w := ((read n).run r).2

/-- Read frame by frame, the ring yields `fs` and is then empty. -/
def HoldsFrames : List Frame → SpscRing w → Prop
  | [], r => r.tail = r.head
  | f :: fs, r =>
    ((read FRAME_HEADER).run r).1 = frameHeader (UInt16.ofNat f.payload.length) f.dst ∧
      ((read f.payload.length).run (taken FRAME_HEADER r)).1 = f.payload ∧
      HoldsFrames fs (taken f.payload.length (taken FRAME_HEADER r))

/-- The ring holds exactly `frames()` frames. -/
structure Aligned (fs : List Frame) (r : SpscRing w) : Prop where
  bytes : HoldsFrames fs r
  count : (r.framesIn - r.framesOut).toNat = fs.length

/-- The whole head frame removed and released. -/
def retireHead (f : Frame) (r : SpscRing w) : SpscRing w :=
  { taken f.payload.length (taken FRAME_HEADER r) with framesOut := r.framesOut + 1 }

/-- A read that yields as many bytes as were asked for advances `head` by them. -/
theorem taken_eq {n : Nat} {r : SpscRing w} (h : ((read n).run r).1.length = n) :
    taken n r = { r with head := r.head + BitVec.ofNat w n } ∧ n ≤ (r.tail - r.head).toNat := by
  rw [taken]
  rw [run_read] at h ⊢
  by_cases hc : r.cap = 0
  · rw [if_pos hc] at h ⊢
    cases h
    exact ⟨by simp, Nat.zero_le _⟩
  · rw [if_neg hc] at h ⊢
    by_cases hm : min n (r.tail - r.head).toNat = 0
    · rw [if_pos hm] at h ⊢
      cases h
      exact ⟨by simp, Nat.zero_le _⟩
    · rw [if_neg hm, length_run_copyFrom] at h
      rw [if_neg hm, h]
      exact ⟨rfl, by omega⟩

/-- The frame counters are no part of the byte ring. -/
theorem run_read_framesOut (n : Nat) (x : BitVec w) (r : SpscRing w) :
    (read n).run { r with framesOut := x } =
      (((read n).run r).1, { ((read n).run r).2 with framesOut := x }) := by
  simp only [run_read, run_copyFrom]
  split
  · rfl
  · split <;> rfl

theorem HoldsFrames.framesOut {fs : List Frame} {r : SpscRing w} (h : HoldsFrames fs r)
    (x : BitVec w) : HoldsFrames fs { r with framesOut := x } := by
  induction fs generalizing r with
  | nil => exact h
  | cons f fs ih =>
    obtain ⟨hh, hp, hrest⟩ := h
    simp only [HoldsFrames, taken, run_read_framesOut]
    exact ⟨hh, hp, ih hrest⟩

end SpscRing

namespace UdpSocketState

open SpscRing

variable [SpiDmaDevice D] {block : BlockAddress}

/-- The SPI operations of `transmit` behind the point where the header of `f`
leaves the ring. -/
def headOperations (block : BlockAddress) (f : Frame) : Code Error (Transceiver L D) Unit := do
  setIpv4DstAddr block f.dst.ip
  setDstPort block f.dst.port
  if f.payload.length = 0 then sendSockCommand block .send
  else do
    let pointer ← getTxWritePointer block
    startWriteTxBuffer Lens.refl block pointer f.payload.length fun _ => pure f.payload

/-- The head frame is not sent this tick, or all of its operations succeed. -/
def Undisturbed (block : BlockAddress) (fs : List Frame) (cell : Transceiver L D) : Prop :=
  match fs with
  | [] => True
  | f :: _ =>
    match exec (getTxFreeSize block) cell with
    | (.error _, _) => True
    | (.ok free, cell) =>
      free.toNat < f.payload.length ∨ (exec (headOperations block f) cell).1 = .ok ()

instance (block : BlockAddress) (fs : List Frame) (cell : Transceiver L D) :
    Decidable (Undisturbed block fs cell) :=
  match fs with
  | [] => .isTrue trivial
  | f :: _ =>
    match h : exec (getTxFreeSize block) cell with
    | (.error _, _) => .isTrue (by rw [Undisturbed, h]; trivial)
    | (.ok free, cell) =>
      decidable_of_iff
        (free.toNat < f.payload.length ∨ (exec (headOperations block f) cell).1 = .ok ())
        (by rw [Undisturbed, h])

/-! ## The tick step by step -/

section Steps

variable {u : UdpSocketState} {cell : Transceiver L D} {rx tx : SpscRing w}

/-- The part of `transmit` behind the drained header. -/
def sendHead (block : BlockAddress) (payloadLen : Nat) (dst : SocketAddr) :
    Code Error (Tick UdpSocketState w L D) BulkAction := do
  onBus (setIpv4DstAddr block dst.ip)
  onBus (setDstPort block dst.port)
  if payloadLen = 0 then do
    onBus (sendSockCommand block .send)
    onTx SpscRing.releaseFrame
    pure .none
  else do
    let pointer ← onBus (getTxWritePointer block)
    startWriteTxBuffer bus block pointer payloadLen fun buf => do
      let got ← Prog.zoom Tick.tx (SpscRing.read buf.length)
      pure (copyFromSlice buf 0 got)
    onTx SpscRing.releaseFrame
    pure (.started .transmit pointer payloadLen)

/-- A tick that finds the ring without a frame leaves it alone. -/
theorem transmit_idle (h : tx.framesIn - tx.framesOut = 0) :
    exec (transmit block) ((u, ⟨cell, rx, tx⟩) : Tick UdpSocketState w L D) =
      (.ok .none, (u, ⟨cell, rx, tx⟩)) := by
  rw [transmit, exec_bind, exec_onTx, run_frames]
  simp only [h, if_true]
  rfl

/-- A tick that finds a frame header looks at the room on the chip first. -/
theorem transmit_header {len : UInt16} {dst : SocketAddr}
    (h : ((SpscRing.read FRAME_HEADER).run tx).1 = frameHeader len dst)
    (hn : tx.framesIn - tx.framesOut ≠ 0) :
    exec (transmit block) ((u, ⟨cell, rx, tx⟩) : Tick UdpSocketState w L D) =
      match exec (getTxFreeSize block) cell with
      | (.error e, cell) => (.error e, (u, ⟨cell, rx, tx⟩))
      | (.ok free, cell) =>
        if free.toNat < len.toNat then (.ok .none, (u, ⟨cell, rx, tx⟩))
        else exec (sendHead block len.toNat dst) (u, ⟨cell, rx, taken FRAME_HEADER tx⟩) := by
  rw [transmit, exec_bind, exec_onTx, run_frames]
  simp only [hn, if_false]
  rw [exec_bind, exec_onTx, run_peek, h]
  simp only [fillHeader_eq (frameHeader_length _ _), parse_frameHeader]
  rw [exec_bind, exec_onBus]
  rcases exec (getTxFreeSize block) cell with ⟨e | free, cell'⟩
  · rfl
  · by_cases hroom : free.toNat < len.toNat
    · simp only [hroom, if_true]
      rfl
    · simp only [hroom, if_false]
      rw [exec_bind, exec_onTx]
      rfl

theorem transmit_head {f : Frame} {fs : List Frame} (h : HoldsFrames (f :: fs) tx)
    (hn : tx.framesIn - tx.framesOut ≠ 0) :
    exec (transmit block) ((u, ⟨cell, rx, tx⟩) : Tick UdpSocketState w L D) =
      match exec (getTxFreeSize block) cell with
      | (.error e, cell) => (.error e, (u, ⟨cell, rx, tx⟩))
      | (.ok free, cell) =>
        if free.toNat < f.payload.length then (.ok .none, (u, ⟨cell, rx, tx⟩))
        else exec (sendHead block f.payload.length f.dst) (u, ⟨cell, rx, taken FRAME_HEADER tx⟩) := by
  have hlen : (UInt16.ofNat f.payload.length).toNat = f.payload.length :=
    UInt16.toNat_ofNat_of_lt' f.fits
  rw [transmit_header h.1 hn, hlen]

/-- A start on an idle bus comes to the same whether the payload is handed over
or drained from the ring. -/
theorem exec_startWrite_drained (block : BlockAddress) (pointer : UInt16) (u : UdpSocketState)
    (rx : SpscRing w) {f : Frame} (hi : Held none cell)
    (hp : ((SpscRing.read f.payload.length).run tx).1 = f.payload) :
    let drained := exec (startWriteTxBuffer bus block pointer f.payload.length fun buf => do
      let got ← Prog.zoom Tick.tx (SpscRing.read buf.length)
      pure (copyFromSlice buf 0 got)) ((u, ⟨cell, rx, tx⟩) : Tick UdpSocketState w L D)
    let handed := exec (startWriteTxBuffer Lens.refl block pointer f.payload.length fun _ =>
      pure f.payload) cell
    drained.1 = handed.1 ∧ (handed.1 = .ok () → drained.2.2.rings.tx = taken f.payload.length tx) ∧
      (drained.2.2.rings.tx = tx ∨ drained.2.2.rings.tx = taken f.payload.length tx) := by
  obtain ⟨dev, scratch, rfl⟩ := hi
  by_cases hl : HEADER + f.payload.length ≤ L
  · have hw : ((scratch.stage 0 (createHeader ⟨pointer, block.tx⟩ true)).txWindow HEADER
        f.payload.length).length = f.payload.length := by
      rw [DmaBuffers.txWindow, List.length_take, List.length_drop, DmaBuffers.tx_length]
      omega
    have hcopy : ∀ buf : List UInt8, buf.length = f.payload.length →
        copyFromSlice buf 0 f.payload = f.payload := by
      intro buf hb
      rw [copyFromSlice_eq (by omega), Nat.zero_add, ← hb]
      simp
    have hdrain : ((do
        let got ← Prog.zoom Tick.tx (SpscRing.read ((scratch.stage 0
          (createHeader ⟨pointer, block.tx⟩ true)).txWindow HEADER f.payload.length).length)
        pure (copyFromSlice ((scratch.stage 0
          (createHeader ⟨pointer, block.tx⟩ true)).txWindow HEADER f.payload.length) 0 got) :
          Prog (Tick UdpSocketState w L D) (List UInt8)).run
        (bus.set .pending (u, ⟨.idle dev scratch, rx, tx⟩))) =
        (f.payload, (u, ⟨.pending, rx, taken f.payload.length tx⟩)) := by
      rw [hw]
      simp only [Prog.bind_eq, Prog.run_bind, Prog.run_zoom, Prog.pure_eq, Prog.run_ret]
      exact Prod.ext ((congrArg _ hp).trans (hcopy _ hw)) rfl
    dsimp only [startWriteTxBuffer]
    have hhand : (pure f.payload : Prog (Transceiver L D) (List UInt8)).run
        (Lens.refl.set .pending (.idle dev scratch)) = (f.payload, .pending) := rfl
    rw [exec_startWrite bus (s := (u, ⟨.idle dev scratch, rx, tx⟩)) rfl hl hdrain,
      exec_startWrite Lens.refl (s := .idle dev scratch) rfl hl hhand]
    rcases SpiDmaDevice.clock dev _ .interrupt with ⟨_ | miso, dev'⟩
    · exact ⟨rfl, nofun, .inr rfl⟩
    · exact ⟨rfl, fun _ => rfl, .inr rfl⟩
  · have hl' := Nat.lt_of_not_le hl
    dsimp only [startWriteTxBuffer]
    rw [exec_startWrite_overrun bus (s := (u, ⟨.idle dev scratch, rx, tx⟩)) rfl hl',
      exec_startWrite_overrun Lens.refl (s := .idle dev scratch) rfl hl']
    exact ⟨rfl, nofun, .inl rfl⟩

/-- Behind the drained header the whole frame goes and is released, or an
operation fails and the frame is not released. -/
theorem sendHead_tx (block : BlockAddress) (u : UdpSocketState) (rx : SpscRing w) {f : Frame}
    (hi : Held none cell)
    (hp : ((SpscRing.read f.payload.length).run tx).1 = f.payload) :
    let ops := exec (headOperations block f) cell
    let sent := (exec (sendHead block f.payload.length f.dst)
      ((u, ⟨cell, rx, tx⟩) : Tick UdpSocketState w L D)).2.2.rings.tx
    (ops.1 = .ok () →
      sent = { taken f.payload.length tx with framesOut := tx.framesOut + 1 }) ∧
    (ops.1 ≠ .ok () → sent = tx ∨ sent = taken f.payload.length tx) := by
  have htaken : taken f.payload.length tx =
      { tx with head := tx.head + BitVec.ofNat w f.payload.length } :=
    (taken_eq (congrArg _ hp)).1
  dsimp only
  rw [headOperations, sendHead, exec_onBus_bind]
  have hip : Keeps (Held none) (setIpv4DstAddr block f.dst.ip : Code Error (Transceiver L D) _) :=
    keeps_write _ _
  rcases h₁ : exec (setIpv4DstAddr block f.dst.ip) cell with ⟨e | _, cell₁⟩
  · rw [exec_bind_error h₁]
    exact ⟨nofun, fun _ => .inl rfl⟩
  have hi₁ : Held none cell₁ := (wp_iff.mp (hip _ hi)).1 _ _ h₁
  rw [exec_bind_ok h₁]
  dsimp only
  rw [exec_onBus_bind]
  have hport : Keeps (Held none) (setDstPort block f.dst.port : Code Error (Transceiver L D) _) :=
    keeps_write _ _
  rcases h₂ : exec (setDstPort block f.dst.port) cell₁ with ⟨e | _, cell₂⟩
  · rw [exec_bind_error h₂]
    exact ⟨nofun, fun _ => .inl rfl⟩
  have hi₂ : Held none cell₂ := (wp_iff.mp (hport _ hi₁)).1 _ _ h₂
  rw [exec_bind_ok h₂]
  dsimp only
  by_cases hempty : f.payload.length = 0
  · -- an empty datagram: nothing but the command is left
    rw [if_pos hempty, if_pos hempty, exec_onBus_bind]
    rcases h₃ : exec (sendSockCommand block .send) cell₂ with ⟨e | _, cell₃⟩
    · exact ⟨nofun, fun _ => .inl rfl⟩
    · refine ⟨fun _ => ?_, fun h => absurd rfl h⟩
      rw [htaken, hempty]
      dsimp only
      rw [exec_bind, exec_onTx]
      simp [releaseFrame]
  · rw [if_neg hempty, if_neg hempty, exec_onBus_bind]
    have hptr : Keeps (Held none) (getTxWritePointer block : Code Error (Transceiver L D) _) :=
      keeps_readU16 _
    rcases h₃ : exec (getTxWritePointer block) cell₂ with ⟨e | pointer, cell₃⟩
    · rw [exec_bind_error h₃]
      exact ⟨nofun, fun _ => .inl rfl⟩
    have hi₃ : Held none cell₃ := (wp_iff.mp (hptr _ hi₂)).1 _ _ h₃
    rw [exec_bind_ok h₃]
    dsimp only
    obtain ⟨hsame, hgone, hring⟩ :=
      exec_startWrite_drained block pointer u rx hi₃ hp
    rcases h₄ : exec (startWriteTxBuffer bus block pointer f.payload.length fun buf => do
      let got ← Prog.zoom Tick.tx (SpscRing.read buf.length)
      pure (copyFromSlice buf 0 got)) ((u, ⟨cell₃, rx, tx⟩) : Tick UdpSocketState w L D) with
      ⟨e | _, u', cell₄, rx', tx'⟩
    · rw [exec_bind_error h₄, ← hsame, h₄]
      rw [h₄] at hring
      exact ⟨nofun, fun _ => hring⟩
    · rw [h₄] at hsame hgone
      rw [exec_bind_ok h₄, ← hsame]
      refine ⟨fun _ => ?_, fun h => absurd rfl h⟩
      have htx : tx' = taken f.payload.length tx := hgone hsame.symm
      rw [exec_bind, exec_onTx, htx, htaken]
      simp [releaseFrame]

end Steps

/-! ## Alignment -/

section Aligned

variable {fs : List Frame} {r : SpscRing w}

/-- Behind a drained header, with the frame not released, the ring is neither as
it was nor without its head frame. -/
theorem not_aligned {f : Frame} (h : HoldsFrames (f :: fs) r) {r' : SpscRing w}
    (hr : r' = taken FRAME_HEADER r ∨ r' = taken f.payload.length (taken FRAME_HEADER r)) :
    r' ≠ r ∧ r' ≠ retireHead f r := by
  obtain ⟨hhead, hpayload, -⟩ := h
  obtain ⟨hh, hhl⟩ := taken_eq (n := FRAME_HEADER) (by rw [hhead, frameHeader_length])
  obtain ⟨hp, hpl⟩ := taken_eq (congrArg List.length hpayload)
  rw [retireHead, hp]
  rw [hp] at hr
  simp only [hh] at hr hpl ⊢
  rw [toNat_sub_advance hhl] at hpl
  have hlt := (r.tail - r.head).isLt
  have h8 : FRAME_HEADER = 8 := rfl
  have hone : (1 : Nat) < 2 ^ w := by omega
  have hout : r.framesOut ≠ r.framesOut + 1 := fun h => advance_ne (by decide) hone h.symm
  rcases hr with rfl | rfl
  · refine ⟨fun h => ?_, fun h => hout (congrArg SpscRing.framesOut h)⟩
    exact advance_ne (by omega) (by omega) (congrArg SpscRing.head h)
  · refine ⟨fun h => ?_, fun h => hout (congrArg SpscRing.framesOut h)⟩
    have hsum : r.head + BitVec.ofNat w (FRAME_HEADER + f.payload.length) = r.head := by
      rw [BitVec.ofNat_add, ← BitVec.add_assoc]
      exact congrArg SpscRing.head h
    exact advance_ne (by omega) (by omega) hsum

/-- The ring without its head frame is aligned again. -/
theorem aligned_retireHead {f : Frame} (h : Aligned (f :: fs) r) : Aligned fs (retireHead f r) := by
  obtain ⟨⟨hhead, hpayload, hrest⟩, hcount⟩ := h
  have hh := (taken_eq (n := FRAME_HEADER) (by rw [hhead, frameHeader_length])).1
  have hp := (taken_eq (congrArg List.length hpayload)).1
  refine ⟨hrest.framesOut _, ?_⟩
  have h1 : 1 ≤ (r.framesIn - r.framesOut).toNat := by rw [hcount]; simp
  have hin : (retireHead f r).framesIn = r.framesIn := by rw [retireHead, hp, hh]
  rw [hin]
  change (r.framesIn - (r.framesOut + BitVec.ofNat w 1)).toNat = fs.length
  rw [toNat_sub_advance h1, hcount]
  simp

/-- The ring after `transmit`, exactly: it is as it was or without its head
frame, and so holds exactly `frames()` frames again, if and only if the head
frame is not sent this tick or all of its SPI operations succeed. -/
theorem transmit_aligned_iff (u : UdpSocketState) (io : Io w L D) (h : Aligned fs io.rings.tx) :
    let tx := (exec (transmit block) ((u, io) : Tick UdpSocketState w L D)).2.2.rings.tx
    ((tx = io.rings.tx ∧ Aligned fs tx) ∨
      (∃ f rest, fs = f :: rest ∧ tx = retireHead f io.rings.tx ∧ Aligned rest tx)) ↔
    Undisturbed block fs io.trans := by
  obtain ⟨cell, rx, r⟩ := io
  dsimp only at h ⊢
  cases fs with
  | nil =>
    have hz : r.framesIn - r.framesOut = 0 := BitVec.eq_of_toNat_eq (by simpa using h.count)
    rw [transmit_idle hz]
    simpa [Undisturbed] using h
  | cons f rest =>
    have hn : r.framesIn - r.framesOut ≠ 0 := fun hz => by
      have hc := h.count
      rw [hz] at hc
      cases hc
    rw [transmit_head h.bytes hn, Undisturbed]
    rcases hfree : exec (getTxFreeSize block) cell with ⟨e | free, cell'⟩
    · exact iff_of_true (.inl ⟨rfl, h⟩) trivial
    dsimp only
    by_cases hroom : free.toNat < f.payload.length
    · rw [if_pos hroom]
      exact iff_of_true (.inl ⟨rfl, h⟩) (.inl hroom)
    rw [if_neg hroom]
    have hi : Held none cell' := by
      have hk : Keeps (Held none) (getTxFreeSize block : Code Error (Transceiver L D) _) :=
        keeps_readU16 _
      cases cell with
      | pending => cases hfree
      | inFlight txn => cases hfree
      | idle dev scratch => exact (wp_iff.mp (hk _ ⟨dev, scratch, rfl⟩)).1 _ _ hfree
    obtain ⟨hok, herr⟩ := sendHead_tx block u rx hi h.bytes.2.1
    by_cases hops : (exec (headOperations block f) cell').1 = .ok ()
    · -- everything succeeds: the whole frame is gone and released
      refine iff_of_true (.inr ⟨f, rest, rfl, ?_⟩) (.inr hops)
      have hout : (taken FRAME_HEADER r).framesOut = r.framesOut := by
        rw [(taken_eq (n := FRAME_HEADER) (by rw [h.bytes.1, frameHeader_length])).1]
      rw [hok hops, hout]
      exact ⟨rfl, aligned_retireHead h⟩
    · -- something failed: the header is gone, and the frame is still counted
      obtain ⟨hne, hnr⟩ := not_aligned h.bytes (herr hops)
      refine iff_of_false ?_ (not_or_intro hroom hops)
      rintro (⟨heq, -⟩ | ⟨f', rest', hcons, heq, -⟩)
      · exact hne heq
      · cases hcons
        exact hnr heq

/-! ## Concrete ticks -/

/-- One byte for port 9 of 10.0.0.1. -/
def datagram : Frame := ⟨[0x55], ⟨0x0A000001, 9⟩, by decide⟩

/-- A tx ring that holds just that frame. -/
def oneFrame : SpscRing 64 :=
  { buf := fun i => [0, 1, 10, 0, 0, 1, 0, 9, 0x55].getD i 0
    cap := 16, head := 0, tail := 9, framesIn := 1, framesOut := 0 }

theorem oneFrame_aligned : Aligned [datagram] oneFrame :=
  ⟨⟨by decide, by decide, show (taken 1 (taken FRAME_HEADER oneFrame)).tail = _ by decide⟩,
    by decide⟩

def firstBlock : BlockAddress := ⟨.socketRegister 0, .socketTxBuffer 0, .socketRxBuffer 0⟩

/-- The frame waits for a bus that answers from `script`. -/
def waiting (script : List (Option (List UInt8))) : Io 64 16 Scripted :=
  ⟨.idle ⟨script⟩ (zeroScratch 16), SpscRing.new, oneFrame⟩

/-- The ring after a tick. -/
def transmitted (script : List (Option (List UInt8))) : SpscRing 64 :=
  (exec (transmit firstBlock)
    ((UdpSocketState.bind 9, waiting script) : Tick UdpSocketState 64 16 Scripted)).2.2.rings.tx

/-- The chip has room and takes every access: the ring is aligned afterwards. -/
theorem transmit_aligned_sent :
    let tx := transmitted [some [0, 8]]
    (tx = oneFrame ∧ Aligned [datagram] tx) ∨
      ∃ f rest, [datagram] = f :: rest ∧ tx = retireHead f oneFrame ∧ Aligned rest tx :=
  (transmit_aligned_iff (.bind 9) (waiting [some [0, 8]]) oneFrame_aligned).mpr (by decide)

/-- The destination cannot be written: the header is gone, the frame is counted,
and one byte of payload is all that is left of it. -/
theorem transmit_misaligned :
    let tx := transmitted [some [0, 8], none]
    Aligned [datagram] oneFrame ∧
      ¬ ((tx = oneFrame ∧ Aligned [datagram] tx) ∨
        ∃ f rest, [datagram] = f :: rest ∧ tx = retireHead f oneFrame ∧ Aligned rest tx) ∧
      (tx.framesIn - tx.framesOut).toNat = 1 ∧ (tx.tail - tx.head).toNat = 1 := by
  refine ⟨oneFrame_aligned, ?_, by decide, by decide⟩
  rintro (⟨h, -⟩ | ⟨f, rest, hcons, h, -⟩)
  · exact absurd (congrArg SpscRing.head h) (by decide)
  · cases hcons
    exact absurd (congrArg SpscRing.framesOut h) (by decide)

end Aligned

end UdpSocketState

end Wiznet
