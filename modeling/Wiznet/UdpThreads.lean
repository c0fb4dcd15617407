import Wiznet.UdpDelivery
import Wiznet.RingThreads
import Wiznet.Lib.Chronicle

/-! # Taking datagrams under interrupts

`recv_from` a step at a time, while the servicing interrupt puts whole frames
behind the contents of the rx ring. The frame at the head is complete before the
call looks at it, so neither loop has to wait for it. -/

namespace Wiznet
open Resumption Cyclic

variable {w : Nat}

namespace SpscRing

/-! ## Frames that arrive -/

/-- The producer has put `more` behind the contents. -/
structure Grown (more : List Frame) (r r' : SpscRing w) : Prop where
  cap : r'.cap = r.cap
  head : r'.head = r.head
  framesOut : r'.framesOut = r.framesOut
  framesIn : r'.framesIn = r.framesIn + BitVec.ofNat w more.length
  bytes : contents r' = contents r ++ more.flatMap Frame.bytes
  even : Even r → Even r'

theorem Grown.refl (r : SpscRing w) : Grown [] r r where
  cap := rfl
  head := rfl
  framesOut := rfl
  framesIn := (BitVec.add_zero r.framesIn).symm
  bytes := (List.append_nil _).symm
  even := id

theorem Grown.trans {more more' : List Frame} {r s t : SpscRing w} (h : Grown more r s)
    (h' : Grown more' s t) : Grown (more ++ more') r t where
  cap := h'.cap.trans h.cap
  head := h'.head.trans h.head
  framesOut := h'.framesOut.trans h.framesOut
  framesIn := by
    rw [h'.framesIn, h.framesIn, BitVec.add_assoc, List.length_append, BitVec.ofNat_add]
  bytes := by rw [h'.bytes, h.bytes, List.flatMap_append, List.append_assoc]
  even he := h'.even (h.even he)

theorem Appended.grown {f : Frame} {r r' : SpscRing w} (h : Appended f.bytes r r') :
    Grown [f] r r' where
  cap := h.cap
  head := h.head
  framesOut := h.framesOut
  framesIn := h.framesIn
  bytes := by rw [h.contents, List.flatMap_singleton]
  even he := ⟨h.cap ▸ he.dvd, h.sound.room⟩

/-- Frames that are all of the contents are as many as their number. -/
theorem framed_of_even {fs : List Frame} {r : SpscRing w} (he : Even r)
    (hbytes : contents r = fs.flatMap Frame.bytes)
    (hcount : r.framesIn - r.framesOut = BitVec.ofNat w fs.length) : Framed fs r where
  room := he.room
  straight := .inl he.dvd
  bytes := hbytes
  count := by
    have hle := length_flatMap_bytes fs
    have hlt := (r.tail - r.head).isLt
    rw [← hbytes, length_contents, FRAME_HEADER] at hle
    rw [hcount, BitVec.toNat_ofNat]
    exact Nat.mod_eq_of_lt (by omega)

theorem Framed.between {fs : List Frame} {r : SpscRing w} (h : Framed fs r) :
    r.framesIn - r.framesOut = BitVec.ofNat w fs.length := by
  rw [← h.count, BitVec.ofNat_toNat, BitVec.setWidth_eq]

theorem Framed.grown {fs more : List Frame} {r r' : SpscRing w} (h : Framed fs r) (he : Even r)
    (hg : Grown more r r') : Framed (fs ++ more) r' := by
  refine framed_of_even (hg.even he) ?_ ?_
  · rw [hg.bytes, h.bytes, List.flatMap_append]
  · rw [hg.framesIn, hg.framesOut, sub_advance, h.between, List.length_append, BitVec.ofNat_add]

/-! ## A call in the middle of a frame -/

/-- Since a call began in `start` with the frames `fs`, others have come behind
them, and `gs` are all of them. -/
structure Since (start : SpscRing w) (fs gs : List Frame) (r : SpscRing w) : Prop where
  framesOut : r.framesOut = start.framesOut
  arrived : ∃ more : List Frame, gs = fs ++ more ∧
    r.framesIn = start.framesIn + BitVec.ofNat w more.length

/-- Of the frames `gs`, `f` is at the head, and `k` of its bytes have been taken. -/
structure Midway (start : SpscRing w) (fs : List Frame) (f : Frame) (k : Nat) (gs : List Frame)
    (r : SpscRing w) : Prop where
  even : Even r
  since : Since start fs gs r
  between : r.framesIn - r.framesOut = BitVec.ofNat w gs.length
  within : k ≤ f.bytes.length
  bytes : ∃ rest, gs = f :: rest ∧ contents r = f.bytes.drop k ++ rest.flatMap Frame.bytes

section Midway

variable {start r r' : SpscRing w} {fs gs more : List Frame} {f : Frame} {k n : Nat}

theorem Since.refl (r : SpscRing w) (fs : List Frame) : Since r fs fs r :=
  ⟨rfl, [], (List.append_nil _).symm, (BitVec.add_zero _).symm⟩

theorem Since.grown (h : Since start fs gs r) (hg : Grown more r r') :
    Since start fs (gs ++ more) r' := by
  obtain ⟨before, hgs, hin⟩ := h.arrived
  refine ⟨hg.framesOut.trans h.framesOut, before ++ more, by rw [hgs, List.append_assoc], ?_⟩
  rw [hg.framesIn, hin, BitVec.add_assoc, List.length_append, BitVec.ofNat_add]

theorem Framed.midway {rest : List Frame} (h : Framed (f :: rest) r) (he : Even r)
    (hs : Since start fs (f :: rest) r) : Midway start fs f 0 (f :: rest) r where
  even := he
  since := hs
  between := h.between
  within := Nat.zero_le _
  bytes := ⟨rest, rfl, by rw [h.bytes, List.flatMap_cons, List.drop_zero]⟩

theorem Midway.grown (h : Midway start fs f k gs r) (hg : Grown more r r') :
    Midway start fs f k (gs ++ more) r' where
  even := hg.even h.even
  since := h.since.grown hg
  between := by rw [hg.framesIn, hg.framesOut, sub_advance, h.between, List.length_append,
    BitVec.ofNat_add]
  within := h.within
  bytes := by
    obtain ⟨rest, hgs, hbytes⟩ := h.bytes
    refine ⟨rest ++ more, by rw [hgs, List.cons_append], ?_⟩
    rw [hg.bytes, hbytes, List.flatMap_append, List.append_assoc]

/-- What is left of the frame is there. -/
theorem Midway.length_le (h : Midway start fs f k gs r) :
    f.bytes.length ≤ k + (r.tail - r.head).toNat := by
  obtain ⟨rest, -, hbytes⟩ := h.bytes
  have hlen := congrArg List.length hbytes
  rw [length_contents, List.length_append, List.length_drop] at hlen
  omega

theorem Midway.take (h : Midway start fs f k gs r) (hn : k + n ≤ f.bytes.length) :
    (contents r).take n = (f.bytes.drop k).take n := by
  obtain ⟨rest, -, hbytes⟩ := h.bytes
  rw [hbytes, List.take_append_of_le_length (by rw [List.length_drop]; omega)]

theorem Midway.popped (h : Midway start fs f k gs r) (hn : k + n ≤ f.bytes.length) :
    Midway start fs f (k + n) gs (popped n r) := by
  have hle := h.length_le
  have hlen : n ≤ (r.tail - r.head).toNat := by omega
  obtain ⟨rest, hgs, hbytes⟩ := h.bytes
  refine ⟨h.even.popped hlen, ⟨h.since.framesOut, h.since.arrived⟩, h.between, hn, rest, hgs, ?_⟩
  rw [contents_popped h.even.sound hlen, hbytes,
    List.drop_append_of_le_length (by rw [List.length_drop]; omega), List.drop_drop]

/-- With the frame taken and retired, the rest are whole frames. -/
theorem Midway.retired (h : Midway start fs f f.bytes.length gs r) :
    ∃ rest, gs = f :: rest ∧ Framed rest { r with framesOut := r.framesOut + 1 } := by
  obtain ⟨rest, hgs, hbytes⟩ := h.bytes
  refine ⟨rest, hgs, framed_of_even ⟨h.even.dvd, h.even.room⟩ ?_ ?_⟩
  · rw [List.drop_length, List.nil_append] at hbytes
    exact hbytes
  · have hcount := h.between
    rw [hgs, List.length_cons, BitVec.ofNat_add] at hcount
    change r.framesIn - (r.framesOut + BitVec.ofNat w 1) = _
    rw [← BitVec.sub_sub, hcount, BitVec.add_sub_cancel]

end Midway

/-! ## The promise of the application -/

/-- What a `recv_from` for `dstLen` bytes, begun in `start` with the frames `fs`,
came to in `r`: it takes one frame whole, unless there was none. -/
inductive Took (fs : List Frame) (dstLen : Nat) (start r : SpscRing w) : UdpSocket.Received → Prop
  | nothing (more : List Frame) (hnone : fs = [])
      (hin : r.framesIn = start.framesIn + BitVec.ofNat w more.length)
      (hout : r.framesOut = start.framesOut) (hframed : Framed more r) :
      Took fs dstLen start r .nothing
  | datagram (f : Frame) (rest more : List Frame) (hfront : fs ++ more = f :: rest)
      (hin : r.framesIn = start.framesIn + BitVec.ofNat w more.length)
      (hout : r.framesOut = start.framesOut + 1) (hframed : Framed rest r) :
      Took fs dstLen start r (.datagram (f.payload.take dstLen) f.dst)

/-- What it leaves are whole frames, and it never waited for bytes. -/
theorem Took.framed {fs : List Frame} {dstLen : Nat} {start r : SpscRing w}
    {answer : UdpSocket.Received} (h : Took fs dstLen start r answer) :
    (∃ gs, Framed gs r) ∧ answer ≠ .spinning := by
  cases h with
  | nothing _ _ _ _ hframed => exact ⟨⟨_, hframed⟩, nofun⟩
  | datagram _ _ _ _ _ _ hframed => exact ⟨⟨_, hframed⟩, nofun⟩

/-- The interrupt only puts frames behind the contents; a `recv_from` takes bytes
from their front, and its last step retires the frame. -/
def receiver : Promise (SpscRing w) Nat UdpSocket.Received where
  rely r r' := ∃ more, Grown more r r'
  own _ _ := True
  mid r r' := ∃ n ≤ (r.tail - r.head).toNat, r' = popped n r
  fin dstLen start answer r r' :=
    (r' = r ∨ r' = { r with framesOut := r.framesOut + 1 }) ∧
      ∃ fs, Framed fs start ∧ Took fs dstLen start r' answer
  rely_refl r := ⟨[], .refl r⟩
  rely_trans := by
    rintro r s t ⟨more, h⟩ ⟨more', h'⟩
    exact ⟨more ++ more', h.trans h'⟩
  mid_refl := popped_refl
  own_rely _ _ := trivial
  own_mid _ := Iff.rfl
  own_ret _ _ := trivial

/-- What a call begun with the frames `fs` came to where `gs` are all that have
been there: it takes the first of them, unless there was none when it looked. -/
inductive Takes (fs gs : List Frame) (dstLen : Nat) (start r : SpscRing w) :
    UdpSocket.Received → Prop
  | nothing (hnone : fs = []) (hout : r.framesOut = start.framesOut) (hframed : Framed gs r) :
      Takes fs gs dstLen start r .nothing
  | datagram (f : Frame) (rest : List Frame) (hfront : gs = f :: rest)
      (hout : r.framesOut = start.framesOut + 1) (hframed : Framed rest r) :
      Takes fs gs dstLen start r (.datagram (f.payload.take dstLen) f.dst)

/-- The interrupt enters the frames it puts behind the contents; a `recv_from`
takes bytes from their front, and its last step retires the frame. -/
def taking : Chronicle (SpscRing w) (List Frame) Nat UdpSocket.Received where
  rely r gs r' gs' := ∃ more, Grown more r r' ∧ gs' = gs ++ more
  mid r r' := ∃ n ≤ (r.tail - r.head).toNat, r' = popped n r
  fin dstLen start fs answer gs r r' :=
    (r' = r ∨ r' = { r with framesOut := r.framesOut + 1 }) ∧ Framed fs start ∧
      (∃ more : List Frame, gs = fs ++ more ∧
        r'.framesIn = start.framesIn + BitVec.ofNat w more.length) ∧
      Takes fs gs dstLen start r' answer
  rely_refl r gs := ⟨[], .refl r, (List.append_nil gs).symm⟩
  rely_trans := by
    rintro r s t gs _ _ ⟨more, h, rfl⟩ ⟨more', h', rfl⟩
    exact ⟨more ++ more', h.trans h', List.append_assoc ..⟩
  mid_refl := popped_refl

section Taking

open UdpSocket

variable {start before r : SpscRing w} {fs gs : List Frame} {f : Frame} {k n dstLen : Nat}

/-- The copy of a `read`, where the contents only grow at the back. -/
theorem taking_copyOutOf {cont : List UInt8 → Prog (SpscRing w) Received} {j : Nat}
    (hn : j + n ≤ (r.tail - r.head).toNat)
    (hcont : ∀ r' more, Grown more r r' → taking.Meets dstLen start fs
      (cont (window r'.buf r.cap.toNat (r.head.toNat + j) n)) (gs ++ more) r' r') :
    taking.Meets dstLen start fs ((copyOutOf r.cap.toNat (r.head.toNat + j) n).bind cont) gs r r := by
  induction n generalizing r gs j cont with
  | zero =>
    have hstay := hcont r [] (.refl r)
    rwa [List.append_nil] at hstay
  | succ n ih =>
    rw [copyOutOf, Prog.bind_assoc]
    refine Chronicle.Meets.load (taking.mid_refl r) ?_
    rintro r' _ ⟨more, hg, rfl⟩
    have hp : contents r <+: contents r' := hg.bytes ▸ List.prefix_append ..
    have hlen := hp.length_le
    rw [length_contents, length_contents] at hlen
    rw [Prog.bind_assoc]
    simp only [Prog.ret_bind]
    -- the first byte is the same whatever comes behind it
    have hnext : ∀ r'' more', Grown more' r' r'' → taking.Meets dstLen start fs
        (cont (r'.buf ((r.head.toNat + j) % r.cap.toNat) ::
          window r''.buf r'.cap.toNat (r'.head.toNat + (j + 1)) n)) (gs ++ more ++ more') r'' r'' := by
      intro r'' more' hg'
      have hp' : contents r' <+: contents r'' := hg'.bytes ▸ List.prefix_append ..
      have hcell := stored_getElem hg'.head hg'.cap hp' (show j < (r'.tail - r'.head).toNat by omega)
      have hall := hcont r'' (more ++ more') (hg.trans hg')
      rw [hg.head, hg.cap] at hcell ⊢
      rwa [window_cons, hcell, ← List.append_assoc] at hall
    have hrest := @ih r' (gs ++ more) (fun bs =>
      cont (r'.buf ((r.head.toNat + j) % r.cap.toNat) :: bs)) (j + 1) (by omega) hnext
    rwa [hg.head, hg.cap] at hrest

/-- A `read` of bytes that belong to the frame. -/
theorem taking_read {cont : List UInt8 → Prog (SpscRing w) Received}
    (hmid : taking.mid before r) (h : Midway start fs f k gs r) (hn : k + n ≤ f.bytes.length)
    (hcont : ∀ gs before r, taking.mid before r → Midway start fs f (k + n) gs r →
      taking.Meets dstLen start fs (cont ((f.bytes.drop k).take n)) gs before r) :
    taking.Meets dstLen start fs ((SpscRing.read n).bind cont) gs before r := by
  have hread : SpscRing.read n = _ := ConsumerCall.run_eq (w := w) (.read n)
  rw [hread, Prog.bind_assoc]
  refine Chronicle.Meets.load hmid ?_
  rintro r₁ _ ⟨more₁, hg₁, rfl⟩
  have h₁ := h.grown hg₁
  rw [if_neg h₁.even.sound.installed, Prog.bind_assoc]
  refine Chronicle.Meets.load (taking.mid_refl _) ?_
  rintro r₂ _ ⟨more₂, hg₂, rfl⟩
  have h₂ := h₁.grown hg₂
  rw [Prog.bind_assoc]
  refine Chronicle.Meets.load (taking.mid_refl _) ?_
  rintro r₃ _ ⟨more₃, hg₃, rfl⟩
  have h₃ := h₂.grown hg₃
  generalize gs ++ more₁ ++ more₂ ++ more₃ = gs₃ at h₃
  have hle₂ := h₂.length_le
  have hle₃ := h₃.length_le
  have hmin : min n (r₂.tail - r₃.head).toNat = n := by
    rw [hg₃.head]
    omega
  simp only [ConsumerCall.takeFrom, ConsumerCall.requested, hmin]
  by_cases hz : n = 0
  · rw [if_pos hz]
    subst hz
    exact hcont _ r₃ r₃ (taking.mid_refl _) h₃
  · have hroom := h₃.even.room
    rw [if_neg hz, ← hg₂.cap, ← hg₃.cap, copyFrom_eq h₃.even.sound.installed (by omega),
      Prog.bind_assoc]
    refine taking_copyOutOf (j := 0) (by omega) ?_
    intro r₄ more₄ hg₄
    have h₄ := h₃.grown hg₄
    have hle₄ := h₄.length_le
    have htake := window_take r₄.buf r₄.cap.toNat r₄.head.toNat
      (show n ≤ (r₄.tail - r₄.head).toNat by omega)
    rw [Nat.add_zero, ← hg₄.head, ← hg₄.cap, ← htake]
    rw [show window r₄.buf r₄.cap.toNat r₄.head.toNat (r₄.tail - r₄.head).toNat = contents r₄
      from rfl, h₄.take hn, ConsumerCall.finish, Prog.bind_assoc]
    refine Chronicle.Meets.store (taking.mid_refl _) ?_
    rintro r₅ _ ⟨more₅, hg₅, rfl⟩
    have h₅ := h₄.grown hg₅
    have hle₅ := h₅.length_le
    refine hcont _ r₅ _ ⟨n, by omega, ?_⟩ ?_
    · rw [popped, hg₅.head]
    · have hpop := h₅.popped hn
      rwa [popped, hg₅.head] at hpop

/-- The copy loop needs one round. -/
theorem taking_copyLoop {cont : Option (List UInt8) → Prog (SpscRing w) Received}
    (hmid : taking.mid before r) (h : Midway start fs f k gs r) (hn : k + n ≤ f.bytes.length)
    (hcont : ∀ gs before r, taking.mid before r → Midway start fs f (k + n) gs r →
      taking.Meets dstLen start fs (cont (some ((f.bytes.drop k).take n))) gs before r) :
    taking.Meets dstLen start fs ((copyLoop n n []).bind cont) gs before r := by
  have hdone : ∀ (fuel : Nat) (copied : List UInt8), copied.length = n →
      (copyLoop n fuel copied : Prog (SpscRing w) _) = .ret (some copied) := by
    intro fuel copied hlen
    cases fuel <;> simp [copyLoop, hlen]
  cases n with
  | zero =>
    rw [hdone 0 [] rfl]
    exact hcont gs before r hmid h
  | succ n =>
    rw [copyLoop, if_pos (by simp), Prog.bind_eq, Prog.bind_assoc, List.length_nil, Nat.sub_zero]
    refine taking_read hmid h hn ?_
    intro gs before r hmid h
    rw [List.nil_append, hdone _ _ (by rw [List.length_take, List.length_drop]; omega)]
    exact hcont gs before r hmid h

/-- The discard loop takes 64 bytes in each round, and never waits. -/
theorem taking_discardLoop {cont : Bool → Prog (SpscRing w) Received} {fuel : Nat}
    (hfuel : n ≤ fuel) (hmid : taking.mid before r) (h : Midway start fs f k gs r)
    (hn : k + n ≤ f.bytes.length)
    (hcont : ∀ gs before r, taking.mid before r → Midway start fs f (k + n) gs r →
      taking.Meets dstLen start fs (cont true) gs before r) :
    taking.Meets dstLen start fs ((discardLoop fuel n).bind cont) gs before r := by
  induction fuel generalizing n k gs before r with
  | zero =>
    obtain rfl := Nat.le_zero.mp hfuel
    exact hcont gs before r hmid h
  | succ fuel ih =>
    by_cases hz : n = 0
    · subst hz
      exact hcont gs before r hmid h
    · rw [discardLoop, if_pos (Nat.pos_of_ne_zero hz), Prog.bind_eq, Prog.bind_assoc]
      refine taking_read hmid h (n := min n 64) (by omega) ?_
      intro gs before r hmid h
      have hlen : ((f.bytes.drop k).take (min n 64)).length = min n 64 := by
        rw [List.length_take, List.length_drop]
        omega
      rw [hlen]
      refine ih (by omega) hmid h (by omega) ?_
      have hsum : k + min n 64 + (n - min n 64) = k + n := by omega
      rw [hsum]
      exact hcont

/-- Behind the frame at the head the call retires it. -/
theorem taking_release (hstart : Framed fs start) (hmid : taking.mid before r)
    (h : Midway start fs f f.bytes.length gs r) :
    taking.Meets dstLen start fs
      (releaseFrame.bind fun _ => .ret (.datagram (f.payload.take dstLen) f.dst)) gs before r := by
  rw [releaseFrame, Prog.bind_eq, Prog.bind_assoc]
  refine Chronicle.Meets.load hmid ?_
  rintro r₁ _ ⟨more₁, hg₁, rfl⟩
  refine Chronicle.Meets.store (taking.mid_refl _) ?_
  rintro r₂ _ ⟨more₂, hg₂, rfl⟩
  have h₂ := (h.grown hg₁).grown hg₂
  obtain ⟨rest, hgs, hframed⟩ := h₂.retired
  have hsame : r₁.framesOut + 1 = r₂.framesOut + 1 := by rw [hg₂.framesOut]
  rw [hsame]
  refine ⟨.inr rfl, hstart, h₂.since.arrived, .datagram f rest hgs ?_ hframed⟩
  change r₂.framesOut + 1 = _
  rw [h₂.since.framesOut]

/-- Every `recv_from` of whole frames keeps the promise. -/
theorem taking_recvFrom (he : Even r) (hf : Framed fs r) (dstLen : Nat) :
    taking.Meets dstLen r fs (recvFrom dstLen) fs r r := by
  rw [recvFrom, frames]
  simp only [Prog.bind_eq, Prog.pure_eq, Prog.bind_assoc]
  refine Chronicle.Meets.load (taking.mid_refl _) ?_
  rintro r₁ _ ⟨more₁, hg₁, rfl⟩
  refine Chronicle.Meets.load (taking.mid_refl _) ?_
  rintro r₂ _ ⟨more₂, hg₂, rfl⟩
  have hbase := hf.grown he hg₁
  have hsince := ((Since.refl r fs).grown hg₁).grown hg₂
  have hcount : r₁.framesIn - r₂.framesOut = r₁.framesIn - r₁.framesOut := by rw [hg₂.framesOut]
  rw [Prog.ret_bind, hcount]
  cases hgs : fs ++ more₁ with
  | nil =>
    rw [hgs] at hbase hsince
    obtain ⟨rfl, -⟩ := List.append_eq_nil_iff.mp hgs
    have hzero : r₁.framesIn - r₁.framesOut = 0 := hbase.between
    rw [if_pos hzero]
    exact ⟨.inl rfl, hf, hsince.arrived, .nothing rfl hsince.framesOut
      (hbase.grown (hg₁.even he) hg₂)⟩
  | cons f rest =>
    rw [hgs] at hbase hsince
    have hframes : r₁.framesIn - r₁.framesOut ≠ 0 := by
      intro hz
      have hzero := hbase.count
      rw [hz] at hzero
      cases hzero
    have hheader := frameHeader_length (UInt16.ofNat f.payload.length) f.dst
    have hbytes : f.bytes = frameHeader (UInt16.ofNat f.payload.length) f.dst ++ f.payload := rfl
    have hlen := congrArg List.length hbytes
    rw [List.length_append, hheader] at hlen
    have hfits : (UInt16.ofNat f.payload.length).toNat = f.payload.length :=
      UInt16.toNat_ofNat_of_lt' f.fits
    rw [if_neg hframes]
    -- the header
    refine taking_read (n := FRAME_HEADER) (taking.mid_refl _)
      ((hbase.grown (hg₁.even he) hg₂).midway (hg₂.even (hg₁.even he)) hsince) (by omega) ?_
    intro gs₃ before₃ r₃ hmid₃ h₃
    rw [List.drop_zero, hbytes, List.take_left' hheader, fillHeader_eq hheader, parse_frameHeader,
      hfits]
    dsimp only
    -- what goes into the buffer, and what does not
    have htake : f.payload.take (min f.payload.length dstLen) = f.payload.take dstLen := by
      rw [Nat.min_comm, ← List.take_eq_take_min]
    generalize hn : min f.payload.length dstLen = n at htake
    refine taking_copyLoop hmid₃ h₃ (by omega) ?_
    intro gs₄ before₄ r₄ hmid₄ h₄
    rw [Nat.zero_add, hbytes, List.drop_left' hheader, htake]
    dsimp only
    refine taking_discardLoop (Nat.le_refl _) hmid₄ h₄ (by omega) ?_
    intro gs₅ before₅ r₅ hmid₅ h₅
    rw [if_pos rfl]
    refine taking_release hf hmid₅ ?_
    have hend : 0 + FRAME_HEADER + n + (f.payload.length - n) = f.bytes.length := by omega
    rwa [hend] at h₅

end Taking

/-- Every `recv_from` of whole frames keeps the promise that has no chronicle. -/
theorem receiver_recvFrom {r : SpscRing w} (he : Even r) {fs : List Frame} (hf : Framed fs r)
    (dstLen : Nat) : receiver.Meets dstLen r (UdpSocket.recvFrom dstLen) r r := by
  refine (taking_recvFrom he hf dstLen).forget (P := receiver) ?_ (fun _ _ => trivial) id ?_
  · rintro r r' gs ⟨more, hg⟩
    exact ⟨gs ++ more, more, hg, rfl⟩
  · rintro answer gs before r' ⟨hr, -, ⟨more, rfl, hin⟩, htakes⟩
    refine ⟨hr, fs, hf, ?_⟩
    cases htakes with
    | nothing hnone hout hframed =>
      subst hnone
      exact .nothing more rfl hin hout hframed
    | datagram f rest hfront hout hframed => exact .datagram f rest more hfront hin hout hframed

end SpscRing

end Wiznet
