import Wiznet.RingEnds
import Wiznet.RxDatagrams
import Wiznet.TxDatagrams
import Wiznet.UdpRuns

/-! # Datagrams from end to end

The application takes datagrams off a UDP handle and sends others a step at a
time, while the interrupts service the driver, peers send, frames fail, and the
other handles are used. No datagram is lost, repeated, cut in two or moved on
either way, except those that cannot lie in the rx ring at all, which are dropped. -/

namespace Wiznet
open Resumption Resumption.Code SpscRing LiveChip

variable {w L size : Nat} {P R : Type} {i : Fin 8}

/-! ## The end of the application -/

/-- The datagrams that `recv_from` calls answered with, with the sizes of the
buffers they were given. -/
def datagramsTaken (done : List (Finished (SpscRing w) Nat UdpSocket.Received)) :
    List (Nat × List UInt8 × SocketAddr) :=
  done.filterMap fun f =>
    match f.answer with
    | .datagram payload peer => some (f.request, payload, peer)
    | _ => none

/-- A call answers with a frame: the front of its payload, as far as the buffer goes. -/
def Frame.Answers (t : Nat × List UInt8 × SocketAddr) (f : Frame) : Prop :=
  t.2 = (f.payload.take t.1, f.dst)

/-- Of what has been taken off the chip since `base`, the deliverable datagrams are
the ones that were answered, followed by `gs`, which are still to be. -/
def Outstanding (base off : List (SocketAddr × List UInt8)) (gs : List Frame)
    (t : Thread (SpscRing w) Nat UdpSocket.Received) (cap : Nat) : Prop :=
  ∃ new fs, off = base ++ new ∧ deliverable cap new = fs ++ gs ∧
    List.Forall₂ Frame.Answers (datagramsTaken t.done) fs

section End

variable {base off : List (SocketAddr × List UInt8)} {gs : List Frame} {r r' : SpscRing w}
  {t : Thread (SpscRing w) Nat UdpSocket.Received} {cap : Nat}

theorem Outstanding.more (h : Outstanding base off gs t cap) (more : List (SocketAddr × List UInt8)) :
    Outstanding base (off ++ more) (gs ++ deliverable cap more) t cap := by
  obtain ⟨new, fs, rfl, hnew, htaken⟩ := h
  refine ⟨new ++ more, fs, List.append_assoc .., ?_, htaken⟩
  rw [deliverable_append, hnew, List.append_assoc]

/-- A call that ends. -/
theorem Outstanding.finished (h : Outstanding base off gs t cap)
    {f : Finished (SpscRing w) Nat UdpSocket.Received} {fs : List Frame}
    (htakes : Takes fs gs f.request f.start r f.answer) :
    ∃ gs', Framed gs' r ∧ Outstanding base off gs' ⟨none, t.done ++ [f]⟩ cap := by
  obtain ⟨request, start, answer⟩ := f
  obtain ⟨new, taken, hoff, hnew, htaken⟩ := h
  dsimp only at htakes
  cases htakes with
  | nothing hnone hout hframed =>
    refine ⟨gs, hframed, new, taken, hoff, hnew, ?_⟩
    have hsame : datagramsTaken (t.done ++ [⟨request, start, .nothing⟩]) = datagramsTaken t.done := by
      simp [datagramsTaken]
    rwa [hsame]
  | datagram g rest hfront hout hframed =>
    subst hfront
    refine ⟨rest, hframed, new, taken ++ [g], hoff, by rw [hnew, List.append_assoc]; rfl, ?_⟩
    have hmore : datagramsTaken (t.done ++
        [⟨request, start, .datagram (g.payload.take request) g.dst⟩]) =
        datagramsTaken t.done ++ [(request, g.payload.take request, g.dst)] := by
      simp [datagramsTaken]
    rw [hmore]
    exact List.rel_append htaken (.cons rfl .nil)

/-- A receive that was announced still fits where there is more room. -/
theorem LiveChip.UdpRxHeld.room {kind : BulkKind} {pointer : UInt16} {len : Nat}
    {txn : Transaction L (LiveChip size)} (h : UdpRxHeld i off r kind pointer len txn)
    (hroom : r.room ≤ r'.room) : UdpRxHeld i off r' kind pointer len txn := by
  cases kind with
  | receiveDatagram =>
    obtain ⟨rd, hsure, hptr, hfits⟩ := h
    exact ⟨rd, hsure, hptr, hfits.trans hroom⟩
  | receive => exact h.elim
  | transmit => exact h

/-- The application takes datagrams off a ring of a capacity in `K`; `base` had come
before. -/
def udpRxEnd (hs : FifoSize size) (hL : 67 ≤ L) (i : Fin 8) (K : Nat → Prop)
    (base : List (SocketAddr × List UInt8)) : RingEnd w L size i Nat UdpSocket.Received
      (List (SocketAddr × List UInt8) × List Frame) where
  ring := SocketRings.rxLens
  code := UdpSocket.recvFrom
  protocol := .udp
  sound := Even
  calls γ t r := Outstanding base γ.1 γ.2 t r.cap.toNat ∧ Even r ∧ taking.Kept t γ.2 r ∧
    (t.active = none → Framed γ.2 r) ∧ K r.cap.toNat
  rely r γ r' γ' := ∃ more, γ' = (γ.1 ++ more, γ.2 ++ deliverable r.cap.toNat more) ∧
    Grown (deliverable r.cap.toNat more) r r'
  rest _ γ _ := UdpRxRest i γ.1
  flight _ γ op r := UdpRxHeld i γ.1 r op.kind op.pointer op.len
  lane γ _ he := rxUdp hs hL i γ.1 he
  lane_protocol _ _ _ := rfl
  lane_rest γ _ _ _ _ _ := ⟨fun ⟨more, hg, h⟩ => ⟨_, ⟨more, rfl, hg⟩, h⟩,
    fun ⟨_, ⟨more, heq, hg⟩, h⟩ => ⟨more, hg, by rwa [heq] at h⟩⟩
  lane_flight γ _ _ _ _ _ _ := ⟨fun ⟨more, hg, h⟩ => ⟨_, ⟨more, rfl, hg⟩, h⟩,
    fun ⟨_, ⟨more, heq, hg⟩, h⟩ => ⟨more, hg, by rwa [heq] at h⟩⟩
  steady _ := ⟨fun _ _ _ h => h, fun _ _ _ _ h => h⟩
  rely_refl r γ := ⟨[], by simp [deliverable], .refl r⟩
  kept h := h.2.1
  relied := by
    rintro ⟨off, gs⟩ _ t r r' ⟨hout, he, hkept, hframed, hcap⟩ ⟨more, rfl, hg⟩
    refine ⟨?_, hg.even he, hkept.relied ⟨_, hg, rfl⟩, fun hidle => (hframed hidle).grown he hg, ?_⟩
    · rw [hg.cap]
      exact hout.more more
    · rwa [hg.cap]
  begun := by
    rintro ⟨off, gs⟩ t r ⟨hout, he, -, hframed, hcap⟩ hidle dstLen
    exact ⟨hout, he, .begin ⟨_, _, rfl⟩ (taking_recvFrom he (hframed hidle) dstLen), nofun, hcap⟩
  stepped := by
    rintro ⟨off, gs⟩ t r ⟨hout, he, hkept, hframed, hcap⟩
    rcases hkept.step with heq | ⟨⟨n, hn, hmid⟩, ⟨a, ha⟩, hkept'⟩ | ⟨f, fs, hfin, hend⟩
    · rw [heq]
      exact ⟨_, ⟨hout, he, hkept, hframed, hcap⟩, fun _ _ h => h, fun _ _ _ h => h⟩
    · rw [hmid] at hkept' ⊢
      rw [ha] at hkept' ⊢
      refine ⟨(off, gs), ⟨hout, he.popped hn, hkept', nofun, hcap⟩, fun _ _ h => h,
        fun _ op txn h => ?_⟩
      refine UdpRxHeld.room h ?_
      simp only [room, popped]
      rw [toNat_sub_advance hn]
      omega
    · obtain ⟨hstep, -, -, htakes⟩ := hfin
      obtain ⟨gs', hframed', hout'⟩ := hout.finished htakes
      rw [hend]
      refine ⟨(off, gs'), ⟨?_, ?_, .idle rfl, fun _ => hframed', ?_⟩, fun _ _ h => h,
        fun _ op txn h => ?_⟩
      · rcases hstep with hr | hr <;> rw [hr] <;> exact hout'
      · rcases hstep with hr | hr <;> rw [hr] <;> exact ⟨he.dvd, he.room⟩
      · rcases hstep with hr | hr <;> rw [hr] <;> exact hcap
      · rcases hstep with hr | hr <;> rw [hr] <;> exact h

end End

/-! ## The end that sends -/

/-- What a `send_to` makes of what it is asked for: it is staged as a frame, or there
was no room for it when the call began. -/
inductive Decided {R : Type} (asked : R → List UInt8 × SocketAddr) :
    Finished (SpscRing w) R Nat → Option Frame → Prop
  | staged {f : Finished (SpscRing w) R Nat} {g : Frame} (hg : g.message = asked f.request)
      (h : f.answer = g.payload.length) : Decided asked f (some g)
  | refused {f : Finished (SpscRing w) R Nat} (h : f.answer = 0)
      (hfull : NoRoom (asked f.request).1.length f.start) : Decided asked f none

/-- The frames that the calls staged. -/
def Posted {R : Type} (asked : R → List UInt8 × SocketAddr)
    (done : List (Finished (SpscRing w) R Nat)) (acc : List Frame) : Prop :=
  ∃ decided, List.Forall₂ (Decided asked) done decided ∧ acc = decided.reduceOption

section Sends

variable {base : List (UInt32 × UInt16 × List UInt8)} {acc left gs gs' : List Frame}
  {r r' : SpscRing w} {asked : R → List UInt8 × SocketAddr}
  {done : List (Finished (SpscRing w) R Nat)} {f : Finished (SpscRing w) R Nat}

theorem Posted.more (h : Posted asked done acc) {o : Option Frame} (hf : Decided asked f o) :
    Posted asked (done ++ [f]) (acc ++ o.toList) := by
  obtain ⟨decided, hdone, rfl⟩ := h
  refine ⟨decided ++ [o], List.rel_append hdone (.cons hf .nil), ?_⟩
  rw [List.reduceOption_append]
  cases o <;> rfl

/-- A call that ends. -/
theorem Posted.finished (h : Posted asked done acc)
    (hfin : (giving asked).fin f.request f.start gs' f.answer gs r r') : ∃ more,
    Posted asked (done ++ [f]) (acc ++ more) ∧ Even r' ∧ Framed (gs ++ more) r' := by
  obtain ⟨he, -, ⟨h0, hfull, hframed⟩ | ⟨hlen, g, hg, hframed⟩⟩ := hfin
  · exact ⟨[], h.more (.refused h0 hfull), he, by rwa [List.append_nil]⟩
  · have hpayload : g.payload = (asked f.request).1 := congrArg Prod.fst hg
    exact ⟨[g], h.more (.staged hg (by rw [hlen, hpayload])), he, hframed⟩

theorem SpscRing.Framed.queued (h : Framed gs r) (he : Even r) : Queued gs r := (h.holding he).queued

theorem LiveChip.Waiting.since {t₀ : SpscRing w} {gs₀ : List Frame} :
    Waiting acc t₀ gs₀ r left gs ↔ Retires t₀ gs₀ r gs ∧ Waiting acc r gs r left gs :=
  ⟨fun h => ⟨h.leaves, h.all, .refl r gs, h.queued⟩, fun h => ⟨h.2.all, h.1, h.2.queued⟩⟩

/-- Frames that were staged behind those that wait. -/
theorem LiveChip.Waiting.more (h : Waiting acc r gs r left gs) {more : List Frame}
    (hq : Queued (gs ++ more) r') :
    Waiting (acc ++ more) r' (gs ++ more) r' left (gs ++ more) where
  all := by rw [h.all, List.append_assoc]
  leaves := .refl r' _
  queued := hq

/-- The application sends datagrams through a ring of a capacity in `K`; `base` were
sent before. -/
def udpTxEnd (hs : FifoSize size) (hL : 67 ≤ L) (i : Fin 8)
    (asked : R → List UInt8 × SocketAddr) (K : Nat → Prop)
    (hfit : ∀ cap, K cap → HEADER + min size cap ≤ L)
    (hsmall : ∀ request cap, K cap → (asked request).1.length < 2 ^ 16 ∨ cap ≤ 2 ^ 16)
    (base : List (UInt32 × UInt16 × List UInt8)) :
    RingEnd w L size i R Nat (List Frame × List Frame) where
  ring := SocketRings.txLens
  code request := UdpSocket.sendTo (asked request).1 (asked request).2
  protocol := .udp
  sound r := K r.cap.toNat
  calls γ t r := Posted asked t.done γ.1 ∧ Queued γ.2 r ∧ (giving asked).Kept t γ.2 r ∧
    (t.active = none → Framed γ.2 r) ∧ K r.cap.toNat
  rely r γ r' γ' := γ'.1 = γ.1 ∧ Retires r γ.2 r' γ'.2
  rest st γ r c := ∃ left, Waiting γ.1 r γ.2 r left γ.2 ∧ UdpTxAt i base left st.udpStatus c
  flight _ γ op r txn := ∃ left, Waiting γ.1 r γ.2 r left γ.2 ∧
    UdpTxHeld i base left op.kind op.pointer op.len txn
  lane γ r₀ hcap := txUdp hs hL i base γ.1 r₀ γ.2 (hfit _ hcap)
  lane_protocol _ _ _ := rfl
  lane_rest γ _ _ _ _ _ := by
    constructor
    · rintro ⟨left, gs, hw, h⟩
      obtain ⟨hleaves, hw⟩ := Waiting.since.mp hw
      exact ⟨(γ.1, gs), ⟨rfl, hleaves⟩, left, hw, h⟩
    · rintro ⟨⟨_, gs⟩, ⟨rfl, hleaves⟩, left, hw, h⟩
      exact ⟨left, gs, Waiting.since.mpr ⟨hleaves, hw⟩, h⟩
  lane_flight γ _ _ _ _ _ _ := by
    constructor
    · rintro ⟨left, gs, hw, h⟩
      obtain ⟨hleaves, hw⟩ := Waiting.since.mp hw
      exact ⟨(γ.1, gs), ⟨rfl, hleaves⟩, left, hw, h⟩
    · rintro ⟨⟨_, gs⟩, ⟨rfl, hleaves⟩, left, hw, h⟩
      exact ⟨left, gs, Waiting.since.mpr ⟨hleaves, hw⟩, h⟩
  steady hst := by
    refine ⟨fun _ _ _ h => ?_, fun _ _ _ _ h => h⟩
    rwa [hst.udpStatus]
  rely_refl r γ := ⟨rfl, .refl r γ.2⟩
  kept h := h.2.2.2.2
  relied := by
    rintro ⟨acc, gs⟩ ⟨_, gs'⟩ t r r' ⟨hstaged, hq, hkept, hframed, hcap⟩ ⟨rfl, hleaves⟩
    refine ⟨hstaged, hq.leaves hleaves, hkept.relied hleaves, fun hidle => ?_, ?_⟩
    · exact (((hframed hidle).holding hq.even).leaves hleaves).framed
    · rwa [hleaves.room.1]
  begun := by
    rintro ⟨acc, gs⟩ t r ⟨hstaged, hq, -, hframed, hcap⟩ hidle request
    exact ⟨hstaged, hq, .begin ⟨_, _, rfl⟩
      (giving_sendTo hq.even (hframed hidle) (hsmall request _ hcap)), nofun, hcap⟩
  stepped := by
    rintro ⟨acc, gs⟩ t r ⟨hstaged, hq, hkept, hframed, hcap⟩
    rcases hkept.step with heq | ⟨⟨hsame, hmid⟩, ⟨a, ha⟩, hkept'⟩ | ⟨f, gs₀, hfin, hend⟩
    · rw [heq]
      exact ⟨_, ⟨hstaged, hq, hkept, hframed, hcap⟩, fun _ _ h => h, fun _ _ _ h => h⟩
    · have hq' := hmid gs hq
      rw [ha] at hkept' ⊢
      have hgoes {left : List Frame} (hw : Waiting acc r gs r left gs) :
          Waiting acc (t.step r).2 gs (t.step r).2 left gs := ⟨hw.all, .refl _ gs, hq'⟩
      exact ⟨(acc, gs), ⟨hstaged, hq', hkept', nofun, by rwa [hsame]⟩,
        fun _ _ ⟨left, hw, h⟩ => ⟨left, hgoes hw, h⟩, fun _ _ _ ⟨left, hw, h⟩ => ⟨left, hgoes hw, h⟩⟩
    · obtain ⟨more, hstaged', he, hframed'⟩ := hstaged.finished hfin
      have hq' := hframed'.queued he
      rw [hend]
      exact ⟨(acc ++ more, gs ++ more),
        ⟨hstaged', hq', .idle rfl, fun _ => hframed', by rwa [hfin.2.1]⟩,
        fun _ _ ⟨left, hw, h⟩ => ⟨left, hw.more hq', h⟩,
        fun _ _ _ ⟨left, hw, h⟩ => ⟨left, hw.more hq', h⟩⟩

end Sends

/-! ## Runs -/

namespace W6100

variable [OutputPin P]

/-- An open of a UDP socket in slot `i`, where the chip's socket is closed and its
RX buffer is empty. -/
structure OpensDatagram (i : Fin 8) (s : W6100 w L (LiveChip size) P) (c : Call)
    (c₀ : LiveChip size) : Prop extends OpensSocket i .udp s c c₀ where
  closed : (c₀.chip.sockets i).sr = 0x00
  rx : (c₀.chip.sockets i).rx.used = 0

/-- Runs from where a UDP socket was opened in slot `i`, the chip standing at
`c₀`, to where it is re-armed or dropped. -/
abbrev DatagramRun (i : Fin 8) (c₀ : LiveChip size) : W6100 w L (LiveChip size) P →
    Thread (SpscRing w) Nat UdpSocket.Received → Thread (SpscRing w) Frame Nat → Prop :=
  SocketRun i UdpSocket.recvFrom UdpSocket.sendFrame
    fun s' => ∃ s c, OpensDatagram i s c c₀ ∧ s' = s.apply c

variable {c₀ : LiveChip size} {s : W6100 w L (LiveChip size) P}
  {reader : Thread (SpscRing w) Nat UdpSocket.Received}
  {writer : Thread (SpscRing w) Frame Nat}

theorem DatagramRun.opened {c : Call} (h : OpensDatagram i s c c₀) :
    DatagramRun i c₀ (s.apply c) .idle .idle := SocketRun.opened ⟨_, _, h, rfl⟩

theorem settled_of_opensDatagram (s' : W6100 w L (LiveChip size) P)
    (h : ∃ s c, OpensDatagram i s c c₀ ∧ s' = s.apply c) : Settled s' := by
  obtain ⟨s, c, hopens, rfl⟩ := h
  exact hopens.settled

/-- The end of `recv_from` as an open leaves it. -/
theorem OpensDatagram.reads (hs : FifoSize size) (hL : 67 ≤ L) {c : Call}
    (hopens : OpensDatagram i s c c₀) (hsure : Sure (MovesRx i) c₀) {K : Nat → Prop}
    (hcap : K ((readRing i).get (s.apply c)).cap.toNat) :
    (udpRxEnd hs hL i K (c₀.datagrams i)).Holds (s.apply c) .idle := by
  refine hopens.toOpensSocket.holds (.inl rfl) (c₀.datagrams i, []) fun r hr heven hnil hcount => ?_
  have hframed : Framed [] r := by
    refine framed_of_even heven hnil ?_
    rw [hcount, BitVec.sub_self]
    rfl
  refine ⟨⟨⟨[], [], by simp, rfl, .nil⟩, heven, .idle rfl, fun _ => hframed, hr ▸ hcap⟩,
    fun _ _ _ _ => ?_⟩
  have hunread : c₀.unread i = [] := by
    refine List.eq_nil_of_length_eq_zero (unread_length.trans ?_)
    rw [hopens.rx]
    rfl
  refine ⟨_, hsure, .inl hopens.closed, rfl, ?_, [], ?_, hunread, nofun, List.nil_prefix⟩
  · rw [hopens.rx]
    exact Nat.zero_le _
  · exact (List.append_nil _).symm

/-- The calls of `recv_from` in a run. -/
theorem DatagramRun.reads (hs : FifoSize size) (hL : 67 ≤ L) (h : DatagramRun i c₀ s reader writer)
    (hsure : Sure (MovesRx i) c₀) :
    (udpRxEnd hs hL i (fun _ => True) (c₀.datagrams i)).Holds s reader := by
  refine SocketRun.reads h hL settled_of_opensDatagram _ rfl rfl ?_
  rintro _ ⟨s, c, hopens, rfl⟩
  exact hopens.reads hs hL hsure trivial

omit [OutputPin P] in
/-- Where the datagrams are that came in. -/
theorem datagrams_of_reads {hs : FifoSize size} {hL : 67 ≤ L} {K : Nat → Prop}
    {base : List (SocketAddr × List UInt8)} (h : (udpRxEnd hs hL i K base).Holds s reader) :
    ∃ c off waiting fs gs, s.device.value.transport.dev? = some c ∧
      c.datagrams i = base ++ off ++ waiting ∧ c.unread i = waiting.flatMap packet ∧
      deliverable ((readRing i).get s).cap.toNat off = fs ++ gs ∧
      List.Forall₂ Frame.Answers (datagramsTaken reader.done) fs ∧
      (reader.active = none → Framed gs ((readRing i).get s)) ∧
      K ((readRing i).get s).cap.toNat := by
  obtain ⟨c, ⟨_, gs⟩, hdev, ⟨⟨off, fs, rfl, hoff, htaken⟩, -, -, hframed, hcap⟩, hc⟩ := h.onChip
  obtain ⟨front, rd, hlane⟩ : ∃ front rd, UdpRxLane i (base ++ off) front rd c := by
    rcases hc with ⟨⟨rd, hsure⟩, -⟩ | ⟨op, txn, -, -, rfl, hheld⟩
    · exact ⟨_, rd, hsure.2⟩
    · exact UdpRxHeld.lane hheld
  obtain ⟨waiting, hdgrams, hunread, -⟩ := hlane.packets
  exact ⟨c, off, waiting, fs, gs, hdev, hdgrams, hunread, hoff, htaken, hframed, hcap⟩

/-- In every run on a chip that takes every move of `Sn_RX_RD`, whatever other
frames fail, the datagrams that came into the RX buffer of the socket are those
taken off it and those of which the packets are still there, in this order; those
taken off that can lie in the rx ring at all are the ones `recv_from` has answered
with, cut to its buffers, and those outstanding, which between two calls are the
frames in the ring. -/
theorem datagrams_received (hs : FifoSize size) (hL : 67 ≤ L)
    (h : DatagramRun i c₀ s reader writer) (hsure : Sure (MovesRx i) c₀) :
    ∃ c off waiting fs gs, s.device.value.transport.dev? = some c ∧
      c.datagrams i = c₀.datagrams i ++ off ++ waiting ∧ c.unread i = waiting.flatMap packet ∧
      deliverable ((readRing i).get s).cap.toNat off = fs ++ gs ∧
      List.Forall₂ Frame.Answers (datagramsTaken reader.done) fs ∧
      (reader.active = none → Framed gs ((readRing i).get s)) := by
  obtain ⟨c, off, waiting, fs, gs, hdev, hdgrams, hunread, hoff, htaken, hframed, -⟩ :=
    datagrams_of_reads (h.reads hs hL hsure)
  exact ⟨c, off, waiting, fs, gs, hdev, hdgrams, hunread, hoff, htaken, hframed⟩

/-- A machine that was bound has not opened its socket. -/
theorem claim_udpStatus {state : BackendState} {rx tx : List UInt8} {c : Call}
    (h : c.claim = some (state, rx, tx)) :
    ¬ (state.udpStatus = .opening ∨ state.udpStatus = .established) := by
  cases c <;> cases h <;> simp [BackendState.udpStatus, UdpSocketState.bind]

/-- The end of `send_to` as an open leaves it. -/
theorem OpensDatagram.writes (hs : FifoSize size) (hL : 67 ≤ L) {c : Call}
    (hopens : OpensDatagram i s c c₀) (hsure : Sure (SendsUdp i) c₀)
    (htx : (c₀.chip.sockets i).tx.used = 0) {asked : R → List UInt8 × SocketAddr}
    {K : Nat → Prop} {hfit : ∀ cap, K cap → HEADER + min size cap ≤ L}
    {hsmall : ∀ request cap, K cap → (asked request).1.length < 2 ^ 16 ∨ cap ≤ 2 ^ 16}
    (hcap : K ((writeRing i).get (s.apply c)).cap.toNat) :
    (udpTxEnd hs hL i asked K hfit hsmall (c₀.chip.sentDgrams i)).Holds (s.apply c) .idle := by
  refine hopens.toOpensSocket.holds (.inr rfl) ([], []) fun r hr heven hnil hcount => ?_
  have hframed : Framed [] r := by
    refine framed_of_even heven hnil ?_
    rw [hcount, BitVec.sub_self]
    rfl
  have hqueued := hframed.queued heven
  refine ⟨⟨⟨[], .nil, rfl⟩, hqueued, .idle rfl, fun _ => hframed, hr ▸ hcap⟩,
    fun state rx tx hclaim => ?_⟩
  have hstored : (c₀.chip.sockets i).tx.stored size = [] := by
    refine List.eq_nil_of_length_eq_zero ((ChipBuffer.stored_length ..).trans ?_)
    rw [htx]
    rfl
  refine ⟨[], ⟨rfl, .refl r [], hqueued⟩, ⟨_, hsure, ?_, hstored.symm, ?_, rfl, rfl⟩,
    fun h => absurd h (claim_udpStatus hclaim)⟩
  · exact (List.append_nil _).symm
  · rw [htx]
    exact Nat.zero_le _

/-- The calls of `send_to` in a run. -/
theorem DatagramRun.writes (hs : FifoSize size) (hL : 67 ≤ L) (hfit : HEADER + size ≤ L)
    (h : DatagramRun i c₀ s reader writer) (hsure : Sure (SendsUdp i) c₀)
    (htx : (c₀.chip.sockets i).tx.used = 0) :
    (udpTxEnd hs hL i Frame.message (fun _ => True) (fun cap _ => by omega)
      (fun f _ _ => .inl f.fits) (c₀.chip.sentDgrams i)).Holds s writer := by
  refine SocketRun.writes h hL settled_of_opensDatagram _ rfl rfl ?_
  rintro _ ⟨s, c, hopens, rfl⟩
  exact hopens.writes hs hL hsure htx trivial

omit [OutputPin P] in
/-- Where the datagrams are that were staged. -/
theorem datagrams_of_writes {hs : FifoSize size} {hL : 67 ≤ L}
    {asked : R → List UInt8 × SocketAddr} {writer : Thread (SpscRing w) R Nat} {K : Nat → Prop}
    {hfit : ∀ cap, K cap → HEADER + min size cap ≤ L}
    {hsmall : ∀ request cap, K cap → (asked request).1.length < 2 ^ 16 ∨ cap ≤ 2 ^ 16}
    {base : List (UInt32 × UInt16 × List UInt8)}
    (h : (udpTxEnd hs hL i asked K hfit hsmall base).Holds s writer) :
    ∃ c left flying gs, s.device.value.transport.dev? = some c ∧
      Posted asked writer.done (left ++ flying ++ gs) ∧
      c.chip.sentDgrams i = base ++ left.map Frame.wire ∧ flying.length ≤ 1 ∧
      ((∀ op, s.bulk.value = some op → op.idx = i → op.kind ≠ .transmit) → flying = []) ∧
      Queued gs ((writeRing i).get s) ∧
      (writer.active = none → Framed gs ((writeRing i).get s)) := by
  obtain ⟨c, ⟨acc, gs⟩, hdev, ⟨hstaged, hqueued, -, hframed, -⟩, hc⟩ := h.onChip
  rcases hc with ⟨⟨left, hw, hat⟩, -⟩ | ⟨op, txn, hbulk, hi, rfl, left, hw, hheld⟩
  · obtain ⟨ptr, hlane⟩ := hat.1
    refine ⟨c, left, [], gs, hdev, ?_, hlane.sent, Nat.zero_le _, fun _ => rfl, hqueued, hframed⟩
    rw [List.append_nil, ← hw.all]
    exact hstaged
  · obtain ⟨front, flying, rfl, hflying, hnot, hsent⟩ := hheld.split
    refine ⟨txn.dev, front, flying, gs, hdev, ?_, hsent, hflying,
      fun hno => hnot (hno op hbulk hi), hqueued, hframed⟩
    rw [← hw.all]
    exact hstaged

/-- In every run on a chip that takes the frames a datagram goes out by, whatever
other frames fail, the frames that `send_to` staged are the datagrams on the wire,
in this order and each to where it was addressed, the one that a transfer of the
slot has staged, if there is one, and those in the tx ring; `send_to` refuses a
frame only if there was no room for it when the call began. -/
theorem datagrams_sent (hs : FifoSize size) (hL : 67 ≤ L) (hfit : HEADER + size ≤ L)
    (h : DatagramRun i c₀ s reader writer) (hsure : Sure (SendsUdp i) c₀)
    (htx : (c₀.chip.sockets i).tx.used = 0) :
    ∃ c left flying gs, s.device.value.transport.dev? = some c ∧
      Posted Frame.message writer.done (left ++ flying ++ gs) ∧
      c.chip.sentDgrams i = c₀.chip.sentDgrams i ++ left.map Frame.wire ∧
      flying.length ≤ 1 ∧
      ((∀ op, s.bulk.value = some op → op.idx = i → op.kind ≠ .transmit) → flying = []) ∧
      Queued gs ((writeRing i).get s) ∧
      (writer.active = none → Framed gs ((writeRing i).get s)) :=
  datagrams_of_writes (h.writes hs hL hfit hsure htx)

/-! ## A conversation -/

/-- Two peers send a datagram each, one of them an empty one. -/
def hailed : W6100 8 67 (LiveChip 16) Unit :=
  peered fun n =>
    if n = 40 then [(0, .sendUdp ⟨1, 9⟩ [1, 2, 3])]
    else if n = 50 then [(0, .sendUdp ⟨2, 8⟩ [])]
    else []

theorem hailed_opens : ∃ c₀, OpensDatagram 0 hailed
    (.openUdp 7 (List.replicate 16 0) (List.replicate 16 0)) c₀ ∧
      (c₀.chip.sockets 0).tx.used = 0 ∧ ∀ n mosi, c₀.fails n mosi = false := by
  obtain ⟨c₀, hc₀⟩ : ∃ c₀, hailed.device.value.transport.dev? = some c₀ :=
    Option.isSome_iff_exists.mp (by decide +kernel)
  have hclosed : (c₀.chip.sockets 0).sr = 0 ∧ (c₀.chip.sockets 0).rx.used = 0 ∧
      (c₀.chip.sockets 0).tx.used = 0 := by
    have hmap : hailed.device.value.transport.dev?.map (fun c =>
        ((c.chip.sockets 0).sr, (c.chip.sockets 0).rx.used, (c.chip.sockets 0).tx.used)) =
          some (0, 0, 0) := by decide +kernel
    rw [hc₀] at hmap
    obtain ⟨hsr, hused⟩ := Prod.mk.inj (Option.some.inj hmap)
    exact ⟨hsr, Prod.mk.inj hused⟩
  refine ⟨c₀, ⟨⟨⟨_, .new _ _ _ _⟩, by decide +kernel, ⟨_, _, _, rfl, ⟨4, rfl⟩, ⟨4, rfl⟩, by decide,
    by decide⟩, hc₀⟩, hclosed.1, hclosed.2.1⟩, hclosed.2.2, fun n mosi => ?_⟩
  have hmap : hailed.device.value.transport.dev?.map (·.fails n mosi) = some false := rfl
  rw [hc₀] at hmap
  exact Option.some.inj hmap

/-- Two bytes of the first datagram are asked for, and the second one comes in. -/
theorem datagrams_received_hailed :
    ∃ (c₀ c : LiveChip 16) (s : W6100 8 67 (LiveChip 16) Unit), ∃ reader writer off waiting fs gs,
    DatagramRun 0 c₀ s reader writer ∧
      datagramsTaken reader.done = [(2, [1, 2], ⟨1, 9⟩)] ∧
      s.device.value.transport.dev? = some c ∧ c.datagrams 0 = c₀.datagrams 0 ++ off ++ waiting ∧
      c.unread 0 = waiting.flatMap packet ∧
      deliverable ((readRing 0).get s).cap.toNat off = fs ++ gs ∧
      List.Forall₂ Frame.Answers (datagramsTaken reader.done) fs := by
  obtain ⟨c₀, hopens, -, hsure⟩ := hailed_opens
  have hmoved := (DatagramRun.opened hopens).round (by decide +kernel) |>.round (by decide +kernel)
    |>.round (by decide +kernel)
  have hread := ((hmoved.beginRead rfl 2).stepReads 40).round (by decide +kernel)
  obtain ⟨s, reader, writer, hrun, htaken⟩ : ∃ (s : W6100 8 67 (LiveChip 16) Unit),
      ∃ reader writer, DatagramRun 0 c₀ s reader writer ∧
        datagramsTaken reader.done = [(2, [1, 2], ⟨1, 9⟩)] := ⟨_, _, _, hread, by decide +kernel⟩
  obtain ⟨c, off, waiting, fs, gs, hdev, hdgrams, hunread, hoff, hfs, -⟩ :=
    datagrams_received ⟨by decide, by decide⟩ (by decide) hrun fun n mosi _ => hsure n mosi
  exact ⟨c₀, c, s, reader, writer, off, waiting, fs, gs, hrun, htaken, hdev, hdgrams, hunread, hoff,
    hfs⟩

/-- One answer is on the wire, and the next one is in the ring. -/
theorem datagrams_sent_hailed :
    ∃ (c₀ c : LiveChip 16) (s : W6100 8 67 (LiveChip 16) Unit), ∃ reader writer left flying gs,
    DatagramRun 0 c₀ s reader writer ∧ s.device.value.transport.dev? = some c ∧
      c.chip.sentDgrams 0 = [(1, 9, [5, 6])] ∧ ((writeRing 0).get s).framesIn = 2 ∧
      Posted Frame.message writer.done (left ++ flying ++ gs) ∧
      c.chip.sentDgrams 0 = c₀.chip.sentDgrams 0 ++ left.map Frame.wire ∧ flying.length ≤ 1 ∧
      Queued gs ((writeRing 0).get s) := by
  obtain ⟨c₀, hopens, htx, hsure⟩ := hailed_opens
  have hmoved := (DatagramRun.opened hopens).round (by decide +kernel) |>.round (by decide +kernel)
    |>.round (by decide +kernel)
  have hsent := ((hmoved.beginWrite rfl ⟨[5, 6], ⟨1, 9⟩, by decide⟩).stepWrites 40).round
    (by decide +kernel) |>.round (by decide +kernel)
  have hnext := (hsent.beginWrite (Option.isNone_iff_eq_none.mp (by decide +kernel))
    ⟨[7], ⟨2, 8⟩, by decide⟩).stepWrites 40
  obtain ⟨s, reader, writer, hrun, hwire, hcount⟩ : ∃ (s : W6100 8 67 (LiveChip 16) Unit),
      ∃ reader writer, DatagramRun 0 c₀ s reader writer ∧
        s.device.value.transport.dev?.map (·.chip.sentDgrams 0) = some [(1, 9, [5, 6])] ∧
        ((writeRing 0).get s).framesIn = 2 :=
    ⟨_, _, _, hnext, by decide +kernel, by decide +kernel⟩
  obtain ⟨c, left, flying, gs, hdev, hposted, hdgrams, hflying, -, hqueued, -⟩ :=
    datagrams_sent ⟨by decide, by decide⟩ (by decide) (by decide) hrun
      (fun n mosi _ => hsure n mosi) htx
  rw [hdev] at hwire
  exact ⟨c₀, c, s, reader, writer, left, flying, gs, hrun, hdev, Option.some.inj hwire, hcount,
    hposted, hdgrams, hflying, hqueued⟩

end W6100

end Wiznet
