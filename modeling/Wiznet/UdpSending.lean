import Wiznet.UdpThreads

/-! # Sending datagrams under interrupts

`send_to` a step at a time, while the servicing interrupt takes whole frames off
the front of the tx ring. It only looks at frames that are counted, and a frame is
counted when all of it is there. -/

namespace Wiznet
open Resumption Cyclic

variable {w : Nat}

/-- What a frame is asked for. -/
def Frame.message (f : Frame) : List UInt8 × SocketAddr := (f.payload, f.dst)

/-- `send_to` for what goes into a frame. -/
def UdpSocket.sendFrame (f : Frame) : Prog (SpscRing w) Nat := sendTo f.payload f.dst

namespace SpscRing

/-! ## Frames that leave -/

/-- The ring without the frames `gone`. -/
def retired (gone : List Frame) (r : SpscRing w) : SpscRing w :=
  { popped (gone.flatMap Frame.bytes).length r with
    framesOut := r.framesOut + BitVec.ofNat w gone.length }

/-- The counted frames `gs`, behind them `part`, and room for `more` bytes. -/
structure Holding (gs : List Frame) (part : List UInt8) (more : Nat) (r : SpscRing w) : Prop where
  even : Even r
  bytes : contents r = gs.flatMap Frame.bytes ++ part
  between : r.framesIn - r.framesOut = BitVec.ofNat w gs.length
  room : (r.tail - r.head).toNat + more ≤ r.cap.toNat

/-- The frames `gs` are counted. -/
def Queued (gs : List Frame) (r : SpscRing w) : Prop := ∃ part, Holding gs part 0 r

/-- Since the ring was `r`, frames have left its front. -/
def Retires (r : SpscRing w) (gs : List Frame) (r' : SpscRing w) (gs' : List Frame) : Prop :=
  ∃ gone : List Frame, gs = gone ++ gs' ∧
    (gone.flatMap Frame.bytes).length ≤ (r.tail - r.head).toNat ∧ r' = retired gone r

theorem retired_nil (r : SpscRing w) : retired [] r = r := by
  simp [retired, popped]

theorem retired_retired (gone gone' : List Frame) (r : SpscRing w) :
    retired gone' (retired gone r) = retired (gone ++ gone') r := by
  simp only [retired, popped, List.flatMap_append, List.length_append, BitVec.ofNat_add,
    BitVec.add_assoc]

theorem Retires.refl (r : SpscRing w) (gs : List Frame) : Retires r gs r gs :=
  ⟨[], rfl, Nat.zero_le _, (retired_nil r).symm⟩

theorem Retires.trans {r r' r'' : SpscRing w} {gs gs' gs'' : List Frame} (h : Retires r gs r' gs')
    (h' : Retires r' gs' r'' gs'') : Retires r gs r'' gs'' := by
  obtain ⟨gone, rfl, hlen, rfl⟩ := h
  obtain ⟨gone', rfl, hlen', rfl⟩ := h'
  refine ⟨gone ++ gone', (List.append_assoc ..).symm, ?_, retired_retired gone gone' r⟩
  simp only [retired, popped] at hlen'
  rw [toNat_sub_advance hlen] at hlen'
  rw [List.flatMap_append, List.length_append]
  omega

namespace Holding

variable {gs gs' : List Frame} {part bs : List UInt8} {more n : Nat} {r r' : SpscRing w}

theorem leaves (h : Holding gs part more r) (hr : Retires r gs r' gs') :
    Holding gs' part more r' := by
  obtain ⟨gone, rfl, hlen, rfl⟩ := hr
  have hused : ((retired gone r).tail - (retired gone r).head).toNat =
      (r.tail - r.head).toNat - (gone.flatMap Frame.bytes).length := toNat_sub_advance hlen
  refine ⟨⟨h.even.dvd, (h.even.popped hlen).room⟩, ?_, ?_, ?_⟩
  · change contents (popped (gone.flatMap Frame.bytes).length r) = _
    rw [contents_popped h.even.sound hlen, h.bytes, List.flatMap_append, List.append_assoc,
      List.drop_left]
  · have hbetween := h.between
    rw [List.length_append, BitVec.ofNat_add] at hbetween
    change r.framesIn - (r.framesOut + BitVec.ofNat w gone.length) = _
    rw [← BitVec.sub_sub, hbetween, BitVec.add_comm, BitVec.add_sub_cancel]
  · have hroom := h.room
    change _ + more ≤ r.cap.toNat
    omega

theorem framed (h : Holding gs [] more r) : Framed gs r :=
  framed_of_even h.even (h.bytes.trans (List.append_nil _)) h.between

theorem queued (h : Holding gs part more r) : Queued gs r :=
  ⟨part, h.even, h.bytes, h.between, by have := h.room; omega⟩

/-- Cells behind the contents do not matter. -/
theorem copied {cells : Nat → UInt8} (h : Holding gs part more r)
    (hcells : ∀ i, ¬ Vacant r i → cells i = r.buf i) :
    Holding gs part more { r with buf := cells } := by
  refine ⟨⟨h.even.dvd, h.even.room⟩, ?_, h.between, h.room⟩
  rw [contents_copied h.even hcells]
  exact h.bytes

/-- `tail` moves behind what was filled. -/
theorem published (h : Holding gs part (n + more) r)
    (hcells : window r.buf r.cap.toNat r.tail.toNat n = bs) :
    Holding gs (part ++ bs) more { r with tail := r.tail + BitVec.ofNat w n } := by
  have hroom := h.room
  have hlt := r.cap.isLt
  have hused : (r.tail + BitVec.ofNat w n - r.head).toNat = (r.tail - r.head).toNat + n :=
    toNat_advance_sub (by omega)
  obtain ⟨hgrown, heven⟩ := contents_published h.even hcells (by omega)
  refine ⟨heven, ?_, h.between, ?_⟩
  · rw [hgrown, h.bytes, List.append_assoc]
  · change (r.tail + BitVec.ofNat w n - r.head).toNat + more ≤ r.cap.toNat
    omega

/-- The frame is counted. -/
theorem committed {f : Frame} (h : Holding gs f.bytes more r) :
    Holding (gs ++ [f]) [] more { r with framesIn := r.framesIn + 1 } := by
  refine ⟨⟨h.even.dvd, h.even.room⟩, ?_, ?_, h.room⟩
  · change contents r = _
    rw [h.bytes, List.flatMap_append, List.flatMap_singleton, List.append_nil]
  · change r.framesIn + 1 - r.framesOut = _
    rw [List.length_append, BitVec.ofNat_add, ← h.between, BitVec.sub_add_comm]
    rfl

end Holding

/-- Frames that leave make room. -/
theorem Retires.room {gs gs' : List Frame} {r r' : SpscRing w} (h : Retires r gs r' gs') :
    r'.cap = r.cap ∧ (r'.tail - r'.head).toNat ≤ (r.tail - r.head).toNat := by
  obtain ⟨gone, -, hlen, rfl⟩ := h
  have hused : ((retired gone r).tail - (retired gone r).head).toNat =
      (r.tail - r.head).toNat - (gone.flatMap Frame.bytes).length := toNat_sub_advance hlen
  exact ⟨rfl, by omega⟩

theorem Queued.even {gs : List Frame} {r : SpscRing w} (h : Queued gs r) : Even r := by
  obtain ⟨part, h⟩ := h
  exact h.even

theorem Queued.leaves {gs gs' : List Frame} {r r' : SpscRing w} (h : Queued gs r)
    (hr : Retires r gs r' gs') : Queued gs' r' := by
  obtain ⟨part, h⟩ := h
  exact ⟨part, h.leaves hr⟩

theorem Framed.holding {gs : List Frame} {r : SpscRing w} (h : Framed gs r) (he : Even r) :
    Holding gs [] 0 r := ⟨he, h.bytes.trans (List.append_nil _).symm, h.between, h.room⟩

/-! ## The promise of the application -/

/-- A ring has no room for a frame with `n` bytes of payload. -/
def NoRoom (n : Nat) (r : SpscRing w) : Prop :=
  r.cap.toNat < (r.tail - r.head).toNat + (FRAME_HEADER + n)

/-- The interrupt enters what is left when it has taken frames; a `send_to` of what
a request asks for leaves the counted frames alone, and its last step counts one
more, or the frame did not fit when the call began. -/
def giving {R : Type} (asked : R → List UInt8 × SocketAddr) :
    Chronicle (SpscRing w) (List Frame) R Nat where
  rely := Retires
  mid r r' := r'.cap = r.cap ∧ ∀ gs, Queued gs r → Queued gs r'
  fin request start _ n gs r r' := Even r' ∧ r'.cap = r.cap ∧
    ((n = 0 ∧ NoRoom (asked request).1.length start ∧ Framed gs r') ∨
      n = (asked request).1.length ∧
        ∃ f : Frame, f.message = asked request ∧ Framed (gs ++ [f]) r')
  rely_refl := Retires.refl
  rely_trans := Retires.trans
  mid_refl _ := ⟨rfl, fun _ h => h⟩

section Giving

open UdpSocket

variable {R : Type} {asked : R → List UInt8 × SocketAddr} {request : R}
  {start before r : SpscRing w} {fs gs : List Frame} {f : Frame} {part : List UInt8} {more : Nat}

/-- The ring as a `write` knows it. -/
def uncounted (r : SpscRing w) : SpscRing w := { r with framesIn := 0, framesOut := 0 }

def counts (r : SpscRing w) : BitVec w × BitVec w := (r.framesIn, r.framesOut)

theorem within_copyIn (bs : List UInt8) (i : Nat) :
    (copyIn i bs : Prog (SpscRing w) Unit).Within uncounted counts := by
  induction bs generalizing i with
  | nil => trivial
  | cons b bs ih => exact .bind (.store (fun _ => rfl) fun _ => rfl) fun _ => ih (i + 1)

theorem within_write (src : List UInt8) :
    (write src : Prog (SpscRing w) Nat).Within uncounted counts := by
  refine .bind (.load fun _ => rfl) fun cap => ?_
  split
  · trivial
  refine .bind (.load fun _ => rfl) fun head => .bind (.load fun _ => rfl) fun tail => ?_
  dsimp only
  split
  · trivial
  refine .bind (within_copyIn _ _) fun _ => .bind (within_copyIn _ _) fun _ => ?_
  exact .bind (.store (fun _ => rfl) fun _ => rfl) fun _ => trivial

/-- What a step of a `write` is, to the whole ring. -/
theorem of_uncounted {r' x : SpscRing w} (hx : uncounted r' = uncounted x)
    (hcounts : counts r' = (x.framesIn, x.framesOut)) : r' = x := by
  obtain ⟨buf, cap, head, tail, framesIn, framesOut⟩ := r'
  obtain ⟨buf', cap', head', tail', framesIn', framesOut'⟩ := x
  simp only [uncounted, counts, SpscRing.mk.injEq, Prod.mk.injEq] at hx hcounts ⊢
  exact ⟨hx.1, hx.2.1, hx.2.2.1, hx.2.2.2.1, hcounts⟩

/-- A `write` that there is room for, into a frame that is not counted yet. -/
theorem giving_write {src : List UInt8} {k : Nat → Prog (SpscRing w) Nat}
    (hmid : (giving asked).mid before r) (h : Holding gs part (src.length + more) r)
    (hk : ∀ gs before r, (giving asked).mid before r → Holding gs (part ++ src) more r →
      (giving asked).Meets request start fs (k src.length) gs before r) :
    (giving asked).Meets request start fs ((write src).bind k) gs before r := by
  have hwrite := (producer_write (r := uncounted r) ⟨h.even.dvd, h.even.room⟩ src).beside
    (within_write src) rfl
  refine Chronicle.Meets.after hmid ?_
  refine Chronicle.Meets.call (fun gs r => Holding gs part (src.length + more) r) hwrite ?_ ?_ ?_ h
  · rintro s gs _ gs' ⟨gone, rfl, hlen, rfl⟩ h
    exact ⟨⟨_, hlen, rfl⟩, h.leaves ⟨gone, rfl, hlen, rfl⟩⟩
  · rintro gs s s' h ⟨⟨cells, hcells, hvacant⟩, hcounts⟩
    obtain rfl : s' = { s with buf := cells } := of_uncounted hcells hcounts
    refine ⟨⟨rfl, ?_⟩, h.copied hvacant⟩
    rintro fs ⟨part, hq⟩
    exact ⟨part, hq.copied hvacant⟩
  · rintro n gs s s' h' ⟨⟨hcells, hwindow, -, hmin⟩, hcounts⟩
    obtain rfl : s' = { s with tail := s.tail + BitVec.ofNat w n } := of_uncounted hcells hcounts
    have hlen := congrArg List.length hwindow
    rw [window_length, List.length_take] at hlen
    have hroom := h.room
    have hfree := toNat_sub_le h.even.room
    change min src.length (r.cap - (r.tail - r.head)).toNat ≤ n at hmin
    obtain rfl : n = src.length := by omega
    rw [List.take_length] at hwindow
    refine hk gs s _ ⟨rfl, ?_⟩ (h'.published hwindow)
    rintro fs ⟨part, hq⟩
    have hmore : Holding fs part (src.length + 0) s :=
      { hq with room := by have hroom := h'.room; omega }
    exact ⟨_, hmore.published hwindow⟩

/-- The last step counts the frame. -/
theorem giving_commit (hf : f.message = asked request)
    (hmid : (giving asked).mid before r) (h : Holding gs f.bytes more r) :
    (giving asked).Meets request start fs
      (commitFrame.bind fun _ => .ret (asked request).1.length) gs before r := by
  rw [commitFrame, Prog.bind_eq, Prog.bind_assoc]
  refine Chronicle.Meets.load hmid ?_
  intro r₁ gs₁ hr₁
  refine Chronicle.Meets.store ((giving asked).mid_refl _) ?_
  rintro r₂ gs₂ hr₂
  have hsame : r₁.framesIn = r₂.framesIn := by
    obtain ⟨gone, -, -, rfl⟩ := hr₂
    rfl
  have h₂ := ((h.leaves hr₁).leaves hr₂).committed
  rw [hsame]
  exact ⟨h₂.even, rfl, .inr ⟨rfl, f, hf, h₂.framed⟩⟩

/-- Every `send_to` into a ring of whole frames keeps the promise, if what it is
asked for can be the payload of a frame, or the ring is too small for anything else. -/
theorem giving_sendTo (he : Even r) (hf : Framed gs r)
    (hsmall : (asked request).1.length < 2 ^ 16 ∨ r.cap.toNat ≤ 2 ^ 16) :
    (giving asked).Meets request r gs (sendTo (asked request).1 (asked request).2) gs r r := by
  rw [sendTo, free, capacity, len]
  simp only [Prog.bind_eq, Prog.pure_eq, Prog.bind_assoc]
  refine Chronicle.Meets.load ((giving asked).mid_refl _) ?_
  intro r₁ gs₁ hr₁
  refine Chronicle.Meets.load ((giving asked).mid_refl _) ?_
  intro r₂ gs₂ hr₂
  refine Chronicle.Meets.load ((giving asked).mid_refl _) ?_
  intro r₃ gs₃ hr₃
  have h₃ := (((hf.holding he).leaves hr₁).leaves hr₂).leaves hr₃
  -- only `head` can have moved in between
  have hfree : r₁.cap - (r₂.tail - r₃.head) = r₃.cap - (r₃.tail - r₃.head) := by
    obtain ⟨gone, -, -, rfl⟩ := hr₂
    obtain ⟨gone', -, -, rfl⟩ := hr₃
    rfl
  have hroom := h₃.even.room
  rw [Prog.ret_bind, Prog.ret_bind, hfree, toNat_sub_le hroom]
  obtain ⟨hcap, hused⟩ := ((hr₁.trans hr₂).trans hr₃).room
  split
  next hfull =>
    rw [hcap] at hfull hroom
    exact ⟨h₃.even, rfl, .inl ⟨rfl, show _ < _ by omega, h₃.framed⟩⟩
  next hfits =>
  obtain ⟨f, hasked⟩ : ∃ f : Frame, f.message = asked request := by
    refine ⟨⟨(asked request).1, (asked request).2, ?_⟩, rfl⟩
    rw [hcap] at hfits
    rw [FRAME_HEADER] at hfits
    omega
  have hpayload : f.payload = (asked request).1 := congrArg Prod.fst hasked
  have hdst : f.dst = (asked request).2 := congrArg Prod.snd hasked
  have hheader := frameHeader_length (UInt16.ofNat (asked request).1.length) (asked request).2
  have hholding : Holding gs₃ [] ((frameHeader (UInt16.ofNat (asked request).1.length)
      (asked request).2).length + ((asked request).1.length + 0)) r₃ :=
    { h₃ with room := by rw [hheader]; omega }
  refine giving_write ((giving asked).mid_refl _) hholding ?_
  intro gs₄ before₄ r₄ hmid₄ h₄
  refine giving_write hmid₄ h₄ ?_
  intro gs₅ before₅ r₅ hmid₅ h₅
  rw [← hpayload, ← hdst] at h₅
  exact giving_commit hasked hmid₅ h₅

end Giving

end SpscRing

end Wiznet
