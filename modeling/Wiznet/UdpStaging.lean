import Wiznet.UdpFrames
import Wiznet.RingQueue

/-! # Staging datagrams

`send_to` puts a frame behind the frames in the tx ring, or leaves the ring
alone. The room check is on the whole length, while the length field has 16 bits;
and room is counted, while cells are found by counters that wrap: where those have
jumped, a cell that counts as free may still be read. -/

namespace Wiznet
open Resumption Cyclic

variable {w : Nat} {src : List UInt8} {dst : SocketAddr}

/-- What `send_to` writes into the ring. -/
def stagedBytes (src : List UInt8) (dst : SocketAddr) : List UInt8 :=
  frameHeader (UInt16.ofNat src.length) dst ++ src

theorem stagedBytes_length (src : List UInt8) (dst : SocketAddr) :
    (stagedBytes src dst).length = FRAME_HEADER + src.length := by
  rw [stagedBytes, List.length_append, frameHeader_length]

/-- A frame as it lies in a ring. -/
def Frame.bytes (f : Frame) : List UInt8 := stagedBytes f.payload f.dst

namespace SpscRing

/-- The contents are exactly these frames, and `frames()` counts them. -/
structure Framed (fs : List Frame) (r : SpscRing w) : Prop where
  room : (r.tail - r.head).toNat ≤ r.cap.toNat
  straight : r.cap.toNat ∣ 2 ^ w ∨ r.head.toNat ≤ r.tail.toNat
  bytes : contents r = fs.flatMap Frame.bytes
  count : (r.framesIn - r.framesOut).toNat = fs.length

/-- `bs` were put behind the contents as one more frame. -/
structure Appended (bs : List UInt8) (r r' : SpscRing w) : Prop where
  sound : Sound r'
  contents : contents r' = SpscRing.contents r ++ bs
  cap : r'.cap = r.cap
  head : r'.head = r.head
  framesIn : r'.framesIn = r.framesIn + 1
  framesOut : r'.framesOut = r.framesOut

theorem Framed.sound {fs : List Frame} {r : SpscRing w} (h : Framed fs r) (hcap : r.cap ≠ 0) :
    Sound r := ⟨hcap, h.room, h.straight⟩

/-- Every frame takes up its header at least. -/
theorem length_flatMap_bytes (fs : List Frame) :
    FRAME_HEADER * fs.length ≤ (fs.flatMap Frame.bytes).length := by
  induction fs with
  | nil => exact Nat.zero_le _
  | cons f fs ih =>
    rw [List.flatMap_cons, List.length_append, List.length_cons, Frame.bytes, stagedBytes_length,
      Nat.mul_succ]
    omega

/-! ## Frames and cells -/

/-- Cell `i` is among the next `n` at `head`. -/
def Spans (r : SpscRing w) (n i : Nat) : Prop := ∃ j < n, i = (r.head.toNat + j) % r.cap.toNat

theorem forall_spans {r : SpscRing w} {n : Nat} {p : Nat → Prop} :
    (∀ i, Spans r n i → p i) ↔ ∀ j < n, p ((r.head.toNat + j) % r.cap.toNat) := by
  constructor
  · intro h j hj
    exact h _ ⟨j, hj, rfl⟩
  · rintro h _ ⟨j, hj, rfl⟩
    exact h j hj

/-- The frames `fs` at `head`, read one by one, are read from cell `i`, too. -/
def Unread : List Frame → SpscRing w → Nat → Prop
  | [], _, _ => False
  | f :: fs, r, i => Spans r FRAME_HEADER i ∨ Spans (popped FRAME_HEADER r) f.payload.length i ∨
      Unread fs (popped f.payload.length (popped FRAME_HEADER r)) i

section Cells

variable {r r' : SpscRing w} {f : Frame} {fs gs : List Frame} {n m : Nat}

theorem room_popped (hroom : (r.tail - r.head).toNat ≤ r.cap.toNat)
    (hn : n ≤ (r.tail - r.head).toNat) :
    ((popped n r).tail - (popped n r).head).toNat ≤ (popped n r).cap.toNat := by
  simp only [popped]
  rw [toNat_sub_advance hn]
  omega

/-- The head frame, as cells. -/
theorem holdsFrames_cons (hroom : (r.tail - r.head).toNat ≤ r.cap.toNat) :
    HoldsFrames (f :: fs) r ↔ FRAME_HEADER + f.payload.length ≤ (r.tail - r.head).toNat ∧
      window r.buf r.cap.toNat r.head.toNat FRAME_HEADER =
        frameHeader (UInt16.ofNat f.payload.length) f.dst ∧
      window r.buf r.cap.toNat (popped FRAME_HEADER r).head.toNat f.payload.length = f.payload ∧
      HoldsFrames fs (popped f.payload.length (popped FRAME_HEADER r)) := by
  have hread (h : FRAME_HEADER + f.payload.length ≤ (r.tail - r.head).toNat) :
      (read FRAME_HEADER).run r =
          (window r.buf r.cap.toNat r.head.toNat FRAME_HEADER, popped FRAME_HEADER r) ∧
        (read f.payload.length).run (popped FRAME_HEADER r) =
          (window r.buf r.cap.toNat (popped FRAME_HEADER r).head.toNat f.payload.length,
            popped f.payload.length (popped FRAME_HEADER r)) := by
    have hhead : FRAME_HEADER ≤ (r.tail - r.head).toNat := by omega
    have hbehind : ((popped FRAME_HEADER r).tail - (popped FRAME_HEADER r).head).toNat =
        (r.tail - r.head).toNat - FRAME_HEADER := toNat_sub_advance hhead
    refine ⟨run_read_window hroom hhead, run_read_window (room_popped hroom hhead) ?_⟩
    rw [hbehind]
    omega
  constructor
  · rintro ⟨hhead, hpayload, hrest⟩
    obtain ⟨hh, hhl⟩ := taken_eq (n := FRAME_HEADER) (by rw [hhead, frameHeader_length])
    obtain ⟨-, hpl⟩ := taken_eq (congrArg List.length hpayload)
    rw [hh, toNat_sub_advance hhl] at hpl
    have hle : FRAME_HEADER + f.payload.length ≤ (r.tail - r.head).toNat := by omega
    obtain ⟨hread₁, hread₂⟩ := hread hle
    rw [taken, hread₁, hread₂] at hpayload
    rw [taken, taken, hread₁, hread₂] at hrest
    rw [hread₁] at hhead
    exact ⟨hle, hhead, hpayload, hrest⟩
  · rintro ⟨hle, hhead, hpayload, hrest⟩
    obtain ⟨hread₁, hread₂⟩ := hread hle
    rw [HoldsFrames, taken, taken, hread₁, hread₂]
    exact ⟨hhead, hpayload, hrest⟩

/-- Every frame takes up its header at least. -/
theorem HoldsFrames.length_le (h : HoldsFrames fs r)
    (hroom : (r.tail - r.head).toNat ≤ r.cap.toNat) :
    FRAME_HEADER * fs.length ≤ (r.tail - r.head).toNat := by
  induction fs generalizing r with
  | nil => exact Nat.zero_le _
  | cons f fs ih =>
    obtain ⟨hle, -, -, hrest⟩ := (holdsFrames_cons hroom).mp h
    have hlen : ((popped f.payload.length (popped FRAME_HEADER r)).tail -
        (popped f.payload.length (popped FRAME_HEADER r)).head).toNat =
          (r.tail - r.head).toNat - (FRAME_HEADER + f.payload.length) := by
      rw [popped_popped]
      exact toNat_sub_advance hle
    have hnext := ih hrest (by rw [hlen]; exact (Nat.sub_le ..).trans hroom)
    rw [hlen] at hnext
    rw [List.length_cons, Nat.mul_succ]
    omega

/-- Where bytes were put at `tail`, the frames that were there still are if and only
if the cells they are read from are as they were. -/
theorem holdsFrames_append (h : HoldsFrames fs r)
    (hroom : (r.tail - r.head).toNat ≤ r.cap.toNat) (hcap : r'.cap = r.cap)
    (hhead : r'.head = r.head) (hlen : (r'.tail - r'.head).toNat = (r.tail - r.head).toNat + m)
    (hroom' : (r'.tail - r'.head).toNat ≤ r'.cap.toNat) :
    HoldsFrames (fs ++ gs) r' ↔ (∀ i, Unread fs r i → r'.buf i = r.buf i) ∧
      HoldsFrames gs { r' with head := r.tail } := by
  induction fs generalizing r r' with
  | nil =>
    have hsame : ({ r' with head := r.tail } : SpscRing w) = r' := by
      rw [show r.tail = r.head from h, ← hhead]
    rw [List.nil_append, hsame]
    exact ⟨fun h => ⟨fun _ hu => hu.elim, h⟩, fun h => h.2⟩
  | cons f fs ih =>
    obtain ⟨hle, hheader, hpayload, hrest⟩ := (holdsFrames_cons hroom).mp h
    have hlen₁ : ((popped f.payload.length (popped FRAME_HEADER r)).tail -
        (popped f.payload.length (popped FRAME_HEADER r)).head).toNat =
          (r.tail - r.head).toNat - (FRAME_HEADER + f.payload.length) := by
      rw [popped_popped]
      exact toNat_sub_advance hle
    have hle' : FRAME_HEADER + f.payload.length ≤ (r'.tail - r'.head).toNat := by omega
    have hlen₂ : ((popped f.payload.length (popped FRAME_HEADER r')).tail -
        (popped f.payload.length (popped FRAME_HEADER r')).head).toNat =
          (r'.tail - r'.head).toNat - (FRAME_HEADER + f.payload.length) := by
      rw [popped_popped]
      exact toNat_sub_advance hle'
    have hnext := ih hrest (by rw [hlen₁]; exact (Nat.sub_le ..).trans hroom)
      (show (popped f.payload.length (popped FRAME_HEADER r')).cap = _ from hcap)
      (by simp only [popped, hhead]) (by rw [hlen₁, hlen₂]; omega)
      (by rw [hlen₂]; exact (Nat.sub_le ..).trans hroom')
    have hheader' : window r'.buf r'.cap.toNat r'.head.toNat FRAME_HEADER =
        frameHeader (UInt16.ofNat f.payload.length) f.dst ↔
          ∀ i, Spans r FRAME_HEADER i → r'.buf i = r.buf i := by
      rw [hcap, hhead, ← hheader, window_eq_window, forall_spans]
    have hpayload' : window r'.buf r'.cap.toNat (popped FRAME_HEADER r').head.toNat
        f.payload.length = f.payload ↔
          ∀ i, Spans (popped FRAME_HEADER r) f.payload.length i → r'.buf i = r.buf i := by
      rw [hcap, show (popped FRAME_HEADER r').head = (popped FRAME_HEADER r).head by
        simp only [popped, hhead]]
      conv_lhs => rw [← hpayload, window_length]
      rw [window_eq_window, forall_spans]
      rfl
    rw [List.cons_append, holdsFrames_cons hroom', hheader', hpayload', hnext]
    constructor
    · rintro ⟨-, hsame₁, hsame₂, hsame₃, hgs⟩
      exact ⟨fun i hi => hi.elim (hsame₁ i) fun hi => hi.elim (hsame₂ i) (hsame₃ i), hgs⟩
    · rintro ⟨hsame, hgs⟩
      exact ⟨hle', fun i hi => hsame i (.inl hi), fun i hi => hsame i (.inr (.inl hi)),
        fun i hi => hsame i (.inr (.inr hi)), hgs⟩

theorem Spans.popped {i : Nat} (hs : Sound r) (hle : m + n ≤ (r.tail - r.head).toNat)
    (h : Spans (popped m r) n i) : Spans r (m + n) i := by
  obtain ⟨j, hj, rfl⟩ := h
  refine ⟨m + j, by omega, ?_⟩
  have hpos : (r.head + BitVec.ofNat w m).toNat % r.cap.toNat = (r.head.toNat + m) % r.cap.toNat := by
    refine advance_mod (hs.straight.imp_right fun hstraight => ?_)
    have hlt := r.tail.isLt
    rw [toNat_sub_le hstraight] at hle
    omega
  simp only [SpscRing.popped]
  rw [Nat.add_mod, hpos, ← Nat.add_mod, Nat.add_assoc]

theorem Spans.mono {i : Nat} (h : Spans r n i) (hle : n ≤ m) : Spans r m i := by
  obtain ⟨j, hj, hi⟩ := h
  exact ⟨j, by omega, hi⟩

/-- Frames that lie straight are read from the cells of the contents. -/
theorem Unread.spans {i : Nat} (hu : Unread fs r i) (hs : Sound r) (h : HoldsFrames fs r) :
    Spans r (r.tail - r.head).toNat i := by
  induction fs generalizing r with
  | nil => exact hu.elim
  | cons f fs ih =>
    obtain ⟨hle, -, -, hrest⟩ := (holdsFrames_cons hs.room).mp h
    rcases hu with hu | hu | hu
    · exact hu.mono (by omega)
    · exact (hu.popped hs hle).mono hle
    · rw [popped_popped] at hu hrest
      have hlen : ((popped (FRAME_HEADER + f.payload.length) r).tail -
          (popped (FRAME_HEADER + f.payload.length) r).head).toNat =
            (r.tail - r.head).toNat - (FRAME_HEADER + f.payload.length) := toNat_sub_advance hle
      have hspan := ih hu (hs.popped hle) hrest
      rw [hlen] at hspan
      exact (hspan.popped hs (by omega)).mono (by omega)

/-- Whole frames as contents are whole frames read one by one. -/
theorem Framed.aligned (h : Framed fs r) : Aligned fs r where
  count := h.count
  bytes := by
    obtain ⟨hroom, hstraight, hbytes, -⟩ := h
    induction fs generalizing r with
    | nil =>
      have hlen := congrArg List.length hbytes
      rw [length_contents] at hlen
      exact (BitVec.sub_eq_iff_eq_add.mp (BitVec.eq_of_toNat_eq hlen)).trans (BitVec.zero_add _)
    | cons f fs ih =>
      rw [List.flatMap_cons, Frame.bytes, stagedBytes, List.append_assoc] at hbytes
      have hheader := frameHeader_length (UInt16.ofNat f.payload.length) f.dst
      have hlen := congrArg List.length hbytes
      rw [length_contents, List.length_append, List.length_append, hheader] at hlen
      have hle : FRAME_HEADER + f.payload.length ≤ (r.tail - r.head).toNat := by omega
      have hs : Sound r := ⟨cap_ne_zero (by rw [FRAME_HEADER] at hle; omega), hroom, hstraight⟩
      have hhead : FRAME_HEADER ≤ (r.tail - r.head).toNat := by omega
      have hrest := contents_popped hs hhead
      have hlen₁ : ((SpscRing.popped FRAME_HEADER r).tail -
          (SpscRing.popped FRAME_HEADER r).head).toNat = (r.tail - r.head).toNat - FRAME_HEADER :=
        toNat_sub_advance hhead
      rw [hbytes, List.drop_left' hheader] at hrest
      refine (holdsFrames_cons hroom).mpr ⟨hle, ?_, ?_, ?_⟩
      · rw [← window_take _ _ _ hhead]
        exact (congrArg (List.take _) hbytes).trans (List.take_left' hheader)
      · rw [← window_take (m := ((SpscRing.popped FRAME_HEADER r).tail -
          (SpscRing.popped FRAME_HEADER r).head).toNat) _ _ _ (by rw [hlen₁]; omega)]
        exact (congrArg (List.take _) hrest).trans List.take_left
      · have hs₁ := (hs.popped hhead).popped (n := f.payload.length) (by rw [hlen₁]; omega)
        refine ih hs₁.room hs₁.straight ?_
        rw [contents_popped (hs.popped hhead) (by rw [hlen₁]; omega), hrest, List.drop_left]

end Cells

/-! ## Contents -/

/-- One write, and committed. -/
theorem run_appended_once {r : SpscRing w} (hs : Sound r) {bs : List UInt8}
    (hroom : (r.tail - r.head).toNat + bs.length ≤ r.cap.toNat)
    (hmax : r.cap.toNat ∣ 2 ^ w ∨ r.tail.toNat + bs.length < 2 ^ w) :
    ∃ r₁ r', (write bs).run r = (bs.length, r₁) ∧ commitFrame.run r₁ = ((), r') ∧
      Appended bs r r' := by
  have hs₁ := hs.pushed hroom hmax
  refine ⟨pushed bs r, { pushed bs r with framesIn := r.framesIn + 1 }, run_write_fits hs bs hroom,
    rfl, ⟨hs₁.installed, hs₁.room, hs₁.straight⟩, ?_, rfl, rfl, rfl, rfl⟩
  rw [← contents_pushed hs hroom]
  rfl

/-- A header and a payload written one behind the other, and committed. -/
theorem run_appended {r : SpscRing w} (hs : Sound r) (header payload : List UInt8)
    (hroom : (r.tail - r.head).toNat + (header.length + payload.length) ≤ r.cap.toNat)
    (hmax : r.cap.toNat ∣ 2 ^ w ∨ r.tail.toNat + (header.length + payload.length) < 2 ^ w) :
    ∃ r₁ r₂ r', (write header).run r = (header.length, r₁) ∧
      (write payload).run r₁ = (payload.length, r₂) ∧ commitFrame.run r₂ = ((), r') ∧
      Appended (header ++ payload) r r' := by
  have hroom₁ : (r.tail - r.head).toNat + header.length ≤ r.cap.toNat := by omega
  have hs₁ : Sound (pushed header r) := hs.pushed hroom₁ (hmax.imp_right fun h => by omega)
  have hlen₁ := toNat_length_pushed hroom₁
  have htail₁ : r.cap.toNat ∣ 2 ^ w ∨ (pushed header r).tail.toNat + payload.length < 2 ^ w := by
    refine hmax.imp_right fun h => ?_
    simp only [pushed]
    rw [toNat_advance (by omega)]
    omega
  have hcontents₁ := contents_pushed hs hroom₁
  have hwrite₁ := run_write_fits hs _ hroom₁
  -- the payload behind it
  generalize hr₁ : pushed header r = r₁ at *
  have hcap₁ : r₁.cap = r.cap := by rw [← hr₁]; rfl
  have hroom₂ : (r₁.tail - r₁.head).toNat + payload.length ≤ r₁.cap.toNat := by
    rw [hlen₁, hcap₁]
    omega
  have hs₂ := hs₁.pushed hroom₂ (by rw [hcap₁]; exact htail₁)
  have hcontents₂ := contents_pushed hs₁ hroom₂
  refine ⟨r₁, pushed payload r₁, { pushed payload r₁ with framesIn := r.framesIn + 1 }, hwrite₁,
    run_write_fits hs₁ payload hroom₂, ?_, ?_⟩
  · subst hr₁
    rfl
  · subst hr₁
    refine ⟨⟨hs₂.installed, hs₂.room, hs₂.straight⟩, ?_, rfl, rfl, rfl, rfl⟩
    rw [← List.append_assoc, ← hcontents₁, ← hcontents₂]
    rfl

end SpscRing

namespace UdpSocket

open SpscRing

variable {r : SpscRing w}

/-- No room: nothing happens. -/
theorem run_sendTo_full (h : (r.cap - (r.tail - r.head)).toNat < FRAME_HEADER + src.length) :
    (sendTo src dst).run r = (0, r) := by
  simp only [sendTo, Prog.bind_eq, Prog.run_bind, run_free, h, if_true]
  rfl

/-- Room for all of it: all of it is behind the contents, with one more frame to
count. -/
theorem run_sendTo_staged (src : List UInt8) (dst : SocketAddr) (hs : Sound r)
    (hroom : FRAME_HEADER + src.length ≤ (r.cap - (r.tail - r.head)).toNat)
    (hmax : r.cap.toNat ∣ 2 ^ w ∨ r.tail.toNat + (FRAME_HEADER + src.length) < 2 ^ w) :
    ∃ r', (sendTo src dst).run r = (src.length, r') ∧ Appended (stagedBytes src dst) r r' := by
  have hfree : ¬ (r.cap - (r.tail - r.head)).toNat < FRAME_HEADER + src.length := by omega
  have hle := hs.room
  rw [toNat_sub_le hle] at hroom
  have hheader := frameHeader_length (UInt16.ofNat src.length) dst
  obtain ⟨r₁, r₂, r', hwrite₁, hwrite₂, hcommit, happended⟩ :=
    run_appended hs (frameHeader (UInt16.ofNat src.length) dst) src
      (by rw [hheader]; omega) (by rw [hheader]; exact hmax)
  refine ⟨r', ?_, happended⟩
  simp only [sendTo, Prog.bind_eq, Prog.run_bind, run_free, hfree, if_false, hwrite₁, hwrite₂,
    hcommit]
  rfl

/-- What became of a ring of `fs` when a datagram was to go behind them. -/
inductive Staging (fs : List Frame) (src : List UInt8) (dst : SocketAddr) (r r' : SpscRing w) :
    Prop
  /-- Bytes and frame count are what they were. -/
  | nothing (hbytes : contents r' = contents r)
      (hcount : r'.framesIn - r'.framesOut = r.framesIn - r.framesOut) (haligned : Aligned fs r')
  /-- One frame more, and it is exactly the datagram. -/
  | staged (f : Frame) (header : List UInt8) (hpayload : f.payload = src) (hdst : f.dst = dst)
      (hheader : ((SpscRing.read FRAME_HEADER).run { r' with head := r.tail }).1 = header)
      (hparse : parseFrameHeader header = (src.length, dst)) (haligned : Aligned (fs ++ [f]) r')

/-- What `send_to` puts into a cell that is still to be read is what stands there,
or, of the payload, what its own header put there. -/
structure Spares (fs : List Frame) (src : List UInt8) (dst : SocketAddr) (r : SpscRing w) :
    Prop where
  header : ∀ j (hj : j < (frameHeader (UInt16.ofNat src.length) dst).length),
    Unread fs r ((r.tail.toNat + j) % r.cap.toNat) →
      (frameHeader (UInt16.ofNat src.length) dst)[j] = r.buf ((r.tail.toNat + j) % r.cap.toNat)
  payload : ∀ j (hj : j < src.length),
    Unread fs r (((r.tail + BitVec.ofNat w FRAME_HEADER).toNat + j) % r.cap.toNat) →
      src[j] = r.buf (((r.tail + BitVec.ofNat w FRAME_HEADER).toNat + j) % r.cap.toNat)
  own : ∀ j (hj : j < src.length) k (hk : k < (frameHeader (UInt16.ofNat src.length) dst).length),
    ((r.tail + BitVec.ofNat w FRAME_HEADER).toNat + j) % r.cap.toNat =
      (r.tail.toNat + k) % r.cap.toNat → src[j] = (frameHeader (UInt16.ofNat src.length) dst)[k]

/-- The ring with a header and a payload put at `tail` and committed. -/
def extended (src : List UInt8) (dst : SocketAddr) (r : SpscRing w) : SpscRing w :=
  { pushed src (pushed (frameHeader (UInt16.ofNat src.length) dst) r) with
    framesIn := r.framesIn + 1 }

section Staging

variable {fs : List Frame}

theorem run_sendTo_extended (src : List UInt8) (dst : SocketAddr)
    (hroom : (r.tail - r.head).toNat + (FRAME_HEADER + src.length) ≤ r.cap.toNat) :
    (sendTo src dst).run r = (src.length, extended src dst r) := by
  have hcap : r.cap ≠ 0 := cap_ne_zero (by rw [FRAME_HEADER] at hroom; omega)
  have hheader := frameHeader_length (UInt16.ofNat src.length) dst
  have hfree : ¬ (r.cap - (r.tail - r.head)).toNat < FRAME_HEADER + src.length := by
    rw [toNat_sub_le (by omega)]
    omega
  have hwrite₁ := run_write_whole hcap (frameHeader (UInt16.ofNat src.length) dst)
    (by rw [hheader]; omega)
  have hlen₁ : ((pushed (frameHeader (UInt16.ofNat src.length) dst) r).tail -
      (pushed (frameHeader (UInt16.ofNat src.length) dst) r).head).toNat =
        (r.tail - r.head).toNat + FRAME_HEADER := by
    rw [toNat_length_pushed (by rw [hheader]; omega), hheader]
  have hwrite₂ := run_write_whole
    (r := pushed (frameHeader (UInt16.ofNat src.length) dst) r) hcap src
    (by rw [hlen₁]; exact (Nat.add_assoc ..).trans_le hroom)
  simp only [sendTo, Prog.bind_eq, Prog.run_bind, run_free, hfree, if_false, hwrite₁, hwrite₂]
  rfl

/-- The bytes of the extended ring. -/
theorem length_extended (src : List UInt8) (dst : SocketAddr)
    (hroom : (r.tail - r.head).toNat + (FRAME_HEADER + src.length) ≤ r.cap.toNat) :
    (extended src dst r).tail = r.tail + BitVec.ofNat w (FRAME_HEADER + src.length) ∧
      ((extended src dst r).tail - (extended src dst r).head).toNat =
        (r.tail - r.head).toNat + (FRAME_HEADER + src.length) := by
  have htail : (extended src dst r).tail = r.tail + BitVec.ofNat w (FRAME_HEADER + src.length) := by
    rw [BitVec.ofNat_add, ← BitVec.add_assoc]
    simp only [extended, pushed, frameHeader_length]
  refine ⟨htail, ?_⟩
  rw [htail]
  exact toNat_advance_sub (Nat.lt_of_le_of_lt hroom r.cap.isLt)

/-- Behind the frames `fs` lies the new one, and those are as they were, if and only
if no cell that is still to be read was hit. -/
theorem holdsFrames_extended (h : HoldsFrames fs r) (hfits : src.length < 2 ^ 16)
    (hroom : (r.tail - r.head).toNat + (FRAME_HEADER + src.length) ≤ r.cap.toNat) :
    HoldsFrames (fs ++ [⟨src, dst, hfits⟩]) (extended src dst r) ↔ Spares fs src dst r := by
  have hheader := frameHeader_length (UInt16.ofNat src.length) dst
  obtain ⟨htail, hlen⟩ := length_extended src dst hroom
  have hnew : (((extended src dst r).tail - r.tail).toNat) = FRAME_HEADER + src.length := by
    have hself : (r.tail - r.tail).toNat = 0 := congrArg BitVec.toNat (BitVec.sub_self _)
    rw [htail, toNat_advance_sub (by rw [hself]; have := r.cap.isLt; omega), hself, Nat.zero_add]
  rw [holdsFrames_append h (by omega) (show (extended src dst r).cap = r.cap from rfl) rfl hlen
    (by rw [hlen]; exact hroom), holdsFrames_cons
      (show ((extended src dst r).tail - r.tail).toNat ≤ r.cap.toNat by omega)]
  -- the cells of the header, then those of the payload
  let mid : Nat → UInt8 :=
    put r.buf r.cap.toNat r.tail.toNat (frameHeader (UInt16.ofNat src.length) dst)
  let base : Nat := (r.tail + BitVec.ofNat w FRAME_HEADER).toNat
  have hbuf : (extended src dst r).buf = put mid r.cap.toNat base src := by
    simp only [extended, pushed, hheader, mid, base]
  have hmid {j : Nat} (hj : j < (frameHeader (UInt16.ofNat src.length) dst).length) :
      mid ((r.tail.toNat + j) % r.cap.toNat) = (frameHeader (UInt16.ofNat src.length) dst)[j] :=
    put_self (by rw [hheader]; omega) hj
  have hsrc {j : Nat} (hj : j < src.length) :
      put mid r.cap.toNat base src ((base + j) % r.cap.toNat) = src[j] := put_self (by omega) hj
  have hwindow : window (put mid r.cap.toNat base src) r.cap.toNat r.tail.toNat FRAME_HEADER =
      frameHeader (UInt16.ofNat src.length) dst ↔ ∀ j < FRAME_HEADER,
        put mid r.cap.toNat base src ((r.tail.toNat + j) % r.cap.toNat) =
          mid ((r.tail.toNat + j) % r.cap.toNat) := by
    rw [← window_eq_window]
    have hput : window mid r.cap.toNat r.tail.toNat FRAME_HEADER =
        frameHeader (UInt16.ofNat src.length) dst := by
      conv_lhs => rw [← hheader]
      exact window_put (by rw [hheader]; omega)
    rw [hput]
  rw [hbuf]
  dsimp only
  constructor
  · rintro ⟨hkept, -, hhead, -⟩
    have hown := hwindow.mp hhead
    refine ⟨fun j hj hu => ?_, fun j hj hu => ?_, fun j hj k hk heq => ?_⟩
    · rw [← hmid hj, ← hown j (hheader ▸ hj)]
      exact hkept _ hu
    · rw [← hsrc hj]
      exact hkept _ hu
    · rw [← hsrc hj, ← hmid hk, ← hown k (hheader ▸ hk)]
      exact congrArg _ heq
  · intro hs
    refine ⟨fun i hu => ?_, by rw [hnew], hwindow.mpr fun j hj => ?_, window_put (by omega), ?_⟩
    · by_cases hi : ∃ j, ∃ hj : j < src.length, i = (base + j) % r.cap.toNat
      · obtain ⟨j, hj, rfl⟩ := hi
        exact (hsrc hj).trans (hs.payload j hj hu)
      rw [put_of_ne fun j hj heq => hi ⟨j, hj, heq⟩]
      by_cases hi : ∃ j, ∃ hj : j < (frameHeader (UInt16.ofNat src.length) dst).length,
          i = (r.tail.toNat + j) % r.cap.toNat
      · obtain ⟨j, hj, rfl⟩ := hi
        exact (hmid hj).trans (hs.header j hj hu)
      · exact put_of_ne fun j hj heq => hi ⟨j, hj, heq⟩
    · by_cases hi : ∃ k, ∃ hk : k < src.length,
          (r.tail.toNat + j) % r.cap.toNat = (base + k) % r.cap.toNat
      · obtain ⟨k, hk, heq⟩ := hi
        rw [heq, hsrc hk, ← heq, hmid (hheader ▸ hj)]
        exact hs.own k hk j (hheader ▸ hj) heq.symm
      · exact put_of_ne fun k hk heq => hi ⟨k, hk, heq⟩
    · simp only [HoldsFrames, popped]
      rw [htail, BitVec.ofNat_add, BitVec.add_assoc]

theorem aligned_extended (h : Aligned fs r) (hfits : src.length < 2 ^ 16)
    (hroom : (r.tail - r.head).toNat + (FRAME_HEADER + src.length) ≤ r.cap.toNat)
    (hs : Spares fs src dst r) :
    Aligned (fs ++ [⟨src, dst, hfits⟩]) (UdpSocket.extended src dst r) where
  bytes := (holdsFrames_extended h.bytes hfits hroom).mpr hs
  count := by
    have hle := h.bytes.length_le (by omega)
    have hlt := r.cap.isLt
    rw [FRAME_HEADER] at hle hroom
    have hone : (r.framesIn - r.framesOut).toNat + 1 < 2 ^ w := by
      rw [h.count]
      omega
    have hnext := toNat_advance_sub hone
    rw [List.length_append, List.length_singleton, ← h.count, ← hnext]
    rfl

/-- A payload that the length field cannot hold is no frame, but it is counted. -/
theorem not_staging_extended (hw : 0 < w) (h : ¬ (src.length < 2 ^ 16 ∧ Spares fs src dst r))
    (haligned : HoldsFrames fs r)
    (hroom : (r.tail - r.head).toNat + (FRAME_HEADER + src.length) ≤ r.cap.toNat) :
    ¬ Staging fs src dst r (extended src dst r) := by
  intro hst
  cases hst with
  | nothing _ hcount =>
    have hone : r.framesIn + 1 ≠ r.framesIn :=
      advance_ne (by decide) (Nat.one_lt_two_pow (by omega))
    have hback : r.framesIn + 1 - r.framesOut = r.framesIn - r.framesOut := hcount
    have hsame := congrArg (· + r.framesOut) hback
    simp only [BitVec.sub_add_cancel] at hsame
    exact hone hsame
  | staged f _ hpayload hdst _ _ hframes =>
    obtain ⟨payload, dst', hfits⟩ := f
    subst hpayload hdst
    exact h ⟨hfits, (holdsFrames_extended haligned hfits hroom).mp hframes.bytes⟩

/-- `send_to` stages exactly its datagram, or nothing, if and only if there is no
room for it, or its length fits the length field and what goes in hits no other
byte that is still to be read. -/
theorem sendTo_staging_iff (h : Aligned fs r)
    (hroom : (r.tail - r.head).toNat ≤ r.cap.toNat) (src : List UInt8) (dst : SocketAddr) :
    Staging fs src dst r ((sendTo src dst).run r).2 ↔
      (SpscRing.free.run r).1.toNat < FRAME_HEADER + src.length ∨
        src.length < 2 ^ 16 ∧ Spares fs src dst r := by
  rw [run_free]
  by_cases hfull : (r.cap - (r.tail - r.head)).toNat < FRAME_HEADER + src.length
  · rw [run_sendTo_full hfull]
    exact iff_of_true (.nothing rfl rfl h) (.inl hfull)
  have hfree := Nat.le_of_not_lt hfull
  rw [toNat_sub_le hroom] at hfree
  have hfit : (r.tail - r.head).toNat + (FRAME_HEADER + src.length) ≤ r.cap.toNat := by omega
  rw [run_sendTo_extended src dst hfit]
  by_cases hgood : src.length < 2 ^ 16 ∧ Spares fs src dst r
  · refine iff_of_true ?_ (.inr hgood)
    obtain ⟨hfits, hs⟩ := hgood
    have hlen : (UInt16.ofNat src.length).toNat = src.length := UInt16.toNat_ofNat_of_lt' hfits
    have hframes := aligned_extended h hfits hfit hs
    have hbehind := (holdsFrames_append h.bytes hroom
      (show (extended src dst r).cap = r.cap from rfl) rfl (length_extended src dst hfit).2 (by rw [(length_extended src dst hfit).2]; exact hfit)).mp
        hframes.bytes
    refine .staged ⟨src, dst, hfits⟩ _ rfl rfl hbehind.2.1 ?_ hframes
    rw [parse_frameHeader, hlen]
  · refine iff_of_false (not_staging_extended ?_ hgood h.bytes hfit) (not_or_intro hfull hgood)
    -- a ring of a width without bits has no room
    rcases Nat.eq_zero_or_pos w with rfl | hw
    · have hlt := r.cap.isLt
      rw [FRAME_HEADER] at hfit
      omega
    · exact hw

/-- A ring with one frame, and with room for another. -/
def roomyRing : SpscRing 64 := { UdpSocketState.oneFrame with cap := 32 }

theorem roomyRing_aligned : Aligned [UdpSocketState.datagram] roomyRing :=
  ⟨⟨by decide, by decide, show (popped 1 (popped FRAME_HEADER roomyRing)).tail = _ by decide⟩,
    by decide⟩

theorem sendTo_staging_one :
    Staging [UdpSocketState.datagram] [7] ⟨0x0A000001, 9⟩ roomyRing
        ((sendTo [7] ⟨0x0A000001, 9⟩).run roomyRing).2 ↔
      (SpscRing.free.run roomyRing).1.toNat < FRAME_HEADER + 1 ∨
        1 < 2 ^ 16 ∧ Spares [UdpSocketState.datagram] [7] ⟨0x0A000001, 9⟩ roomyRing :=
  sendTo_staging_iff roomyRing_aligned (by decide) [7] ⟨0x0A000001, 9⟩

/-- An empty ring of 128 KiB. -/
def wideRing : SpscRing 32 :=
  { buf := fun _ => 0, cap := 0x20000, head := 0, tail := 0, framesIn := 0, framesOut := 0 }

/-- 64 KiB of payload go in behind a header that says there are none. -/
theorem sendTo_wraps_length :
    Aligned [] wideRing ∧
      ¬ Staging [] (List.replicate 65536 0) ⟨0x0A000001, 9⟩ wideRing
        ((sendTo (List.replicate 65536 0) ⟨0x0A000001, 9⟩).run wideRing).2 := by
  have hlong : ¬ (List.replicate 65536 (0 : UInt8)).length < 2 ^ 16 := by
    rw [List.length_replicate]
    decide
  have hroom : (wideRing.tail - wideRing.head).toNat +
      (FRAME_HEADER + (List.replicate 65536 (0 : UInt8)).length) ≤ wideRing.cap.toNat := by
    rw [List.length_replicate]
    decide
  refine ⟨⟨rfl, rfl⟩, ?_⟩
  rw [run_sendTo_extended _ _ hroom]
  exact not_staging_extended (by decide) (fun h => hlong h.1) rfl hroom

/-- Where the counters do not jump, nothing that is still to be read is hit. -/
theorem Spares.of_straight (h : HoldsFrames fs r) (hs : Sound r)
    (hroom : (r.tail - r.head).toNat + (FRAME_HEADER + src.length) ≤ r.cap.toNat)
    (hmax : r.cap.toNat ∣ 2 ^ w ∨ r.tail.toNat + (FRAME_HEADER + src.length) < 2 ^ w) :
    Spares fs src dst r := by
  have hheader := frameHeader_length (UInt16.ofNat src.length) dst
  -- the cells, as they lie behind `head`
  have hbehind (j : Nat) : (r.tail.toNat + j) % r.cap.toNat =
      (r.head.toNat + ((r.tail - r.head).toNat + j)) % r.cap.toNat := by
    rw [Nat.add_mod, hs.tail, ← Nat.add_mod, Nat.add_assoc]
  have hnext (j : Nat) : ((r.tail + BitVec.ofNat w FRAME_HEADER).toNat + j) % r.cap.toNat =
      (r.head.toNat + ((r.tail - r.head).toNat + (FRAME_HEADER + j))) % r.cap.toNat := by
    have hpos : (r.tail + BitVec.ofNat w FRAME_HEADER).toNat % r.cap.toNat =
        (r.tail.toNat + FRAME_HEADER) % r.cap.toNat :=
      advance_mod (hmax.imp_right fun h => by omega)
    rw [Nat.add_mod, hpos, ← Nat.add_mod, Nat.add_assoc, hbehind]
  refine ⟨fun j hj hu => ?_, fun j hj hu => ?_, fun j hj k hk heq => ?_⟩
  · obtain ⟨k, hk, heq⟩ := hu.spans hs h
    rw [hbehind] at heq
    exact absurd heq.symm (index_ne (by omega) (by omega))
  · obtain ⟨k, hk, heq⟩ := hu.spans hs h
    rw [hnext] at heq
    exact absurd heq.symm (index_ne (by omega) (by omega))
  · rw [hnext, hbehind] at heq
    exact absurd heq.symm (index_ne (by omega) (by omega))

end Staging

end UdpSocket

end Wiznet
