import Wiznet.DatagramRuns

/-! # Messages from end to end

The application asks `send_to` for whatever it likes. On rings of up to `2 ^ 16`
bytes, one of which behind a header fits the scratch, every datagram that goes out
is one that was accepted, and every datagram that can lie in the rx ring comes
in. -/

namespace Wiznet
open Resumption Resumption.Code SpscRing LiveChip

variable {w L size : Nat} {P : Type} {i : Fin 8}

/-- A datagram of `cap` bytes at most, with its header. -/
def fitsRing (cap : Nat) (d : SocketAddr × List UInt8) : Bool :=
  decide (FRAME_HEADER + d.2.length ≤ cap)

/-- What `recv_from` answered is the datagram, cut to the buffer it was given. -/
def Truncated (t : Nat × List UInt8 × SocketAddr) (d : SocketAddr × List UInt8) : Prop :=
  t.2 = (d.2.take t.1, d.1)

/-- A ring that is not too large delivers all that fits it. -/
theorem deliverable_eq_filter {cap : Nat} (hcap : cap ≤ 2 ^ 16)
    (ds : List (SocketAddr × List UInt8)) :
    (deliverable cap ds).map (fun f => (f.dst, f.payload)) = ds.filter (fitsRing cap) := by
  induction ds with
  | nil => rfl
  | cons d ds ih =>
    rw [deliverable, List.filterMap_cons]
    by_cases h : FRAME_HEADER + d.2.length ≤ cap
    · have hsized : d.2.length < 2 ^ 16 := by
        rw [FRAME_HEADER] at h
        omega
      have hfits : fitsRing cap d = true := decide_eq_true h
      simp only [frameOf, dif_pos (And.intro hsized h), List.map_cons,
        List.filter_cons_of_pos hfits]
      exact congrArg (d :: ·) ih
    · have hover : ¬ fitsRing cap d = true := by simpa [fitsRing] using h
      simp only [frameOf, dif_neg fun hd : _ ∧ _ => h hd.2, List.filter_cons_of_neg hover]
      exact ih

theorem truncated_of_answers {ts : List (Nat × List UInt8 × SocketAddr)} {fs : List Frame}
    (h : List.Forall₂ Frame.Answers ts fs) :
    List.Forall₂ Truncated ts (fs.map fun f => (f.dst, f.payload)) := by
  rw [List.forall₂_map_right_iff]
  exact h

namespace W6100

variable [OutputPin P]

/-- A ring of at most `2 ^ 16` bytes, all of which fit the scratch behind a header. -/
def RingFits (L cap : Nat) : Prop := cap ≤ 2 ^ 16 ∧ HEADER + cap ≤ L

/-- An open of a UDP socket in slot `i` on rings that fit, where the chip's socket is
closed and its buffers are empty. -/
structure OpensMessages (i : Fin 8) (s : W6100 w L (LiveChip size) P) (c : Call)
    (c₀ : LiveChip size) : Prop extends OpensDatagram i s c c₀ where
  tx : (c₀.chip.sockets i).tx.used = 0
  rxFits : RingFits L ((readRing i).get (s.apply c)).cap.toNat
  txFits : RingFits L ((writeRing i).get (s.apply c)).cap.toNat

/-- Runs from where a UDP socket was opened in slot `i`, the chip standing at `c₀`,
to where it is re-armed or dropped, with any payload for any peer. -/
abbrev MessageRun (i : Fin 8) (c₀ : LiveChip size) : W6100 w L (LiveChip size) P →
    Thread (SpscRing w) Nat UdpSocket.Received →
    Thread (SpscRing w) (List UInt8 × SocketAddr) Nat → Prop :=
  SocketRun i UdpSocket.recvFrom (fun m => UdpSocket.sendTo m.1 m.2)
    fun s' => ∃ s c, OpensMessages i s c c₀ ∧ s' = s.apply c

variable {c₀ : LiveChip size} {s : W6100 w L (LiveChip size) P}
  {reader : Thread (SpscRing w) Nat UdpSocket.Received}
  {writer : Thread (SpscRing w) (List UInt8 × SocketAddr) Nat}

theorem MessageRun.opened {c : Call} (h : OpensMessages i s c c₀) :
    MessageRun i c₀ (s.apply c) .idle .idle := SocketRun.opened ⟨_, _, h, rfl⟩

theorem settled_of_opensMessages (s' : W6100 w L (LiveChip size) P)
    (h : ∃ s c, OpensMessages i s c c₀ ∧ s' = s.apply c) : Settled s' := by
  obtain ⟨s, c, hopens, rfl⟩ := h
  exact hopens.settled

/-- `recv_from` answers with the datagrams that fit the rx ring, in order. -/
theorem MessageRun.received_prefix (hs : FifoSize size) (hL : 67 ≤ L)
    (h : MessageRun i c₀ s reader writer) (hsure : Sure (MovesRx i) c₀) :
    ∃ c received front, s.device.value.transport.dev? = some c ∧
      c.datagrams i = c₀.datagrams i ++ received ∧
      front <+: received.filter (fitsRing ((readRing i).get s).cap.toNat) ∧
      List.Forall₂ Truncated (datagramsTaken reader.done) front := by
  have hreads : (udpRxEnd hs hL i (RingFits L) (c₀.datagrams i)).Holds s reader := by
    refine SocketRun.reads h hL settled_of_opensMessages _ rfl rfl ?_
    rintro _ ⟨s, c, hopens, rfl⟩
    exact hopens.toOpensDatagram.reads hs hL hsure hopens.rxFits
  obtain ⟨c, off, waiting, fs, gs, hdev, hdgrams, -, hoff, htaken, -, hcap⟩ :=
    datagrams_of_reads hreads
  refine ⟨c, off ++ waiting, fs.map fun f => (f.dst, f.payload), hdev,
    by rw [hdgrams, List.append_assoc], ?_, truncated_of_answers htaken⟩
  have hfits := deliverable_eq_filter hcap.1 off
  rw [hoff, List.map_append] at hfits
  rw [List.filter_append, ← hfits, List.append_assoc]
  exact List.prefix_append _ _

/-- The datagrams on the wire are the first that `send_to` accepted. -/
theorem MessageRun.sent_prefix (hs : FifoSize size) (hL : 67 ≤ L)
    (h : MessageRun i c₀ s reader writer) (hsure : Sure (SendsUdp i) c₀) :
    ∃ c sent accepted, s.device.value.transport.dev? = some c ∧
      c.chip.sentDgrams i = c₀.chip.sentDgrams i ++ sent ∧ Posted id writer.done accepted ∧
      sent <+: accepted.map Frame.wire := by
  have hwrites : (udpTxEnd hs hL i id (RingFits L)
      (fun cap hcap => (Nat.add_le_add_left (Nat.min_le_right size cap) HEADER).trans hcap.2)
      (fun _ _ hcap => .inr hcap.1) (c₀.chip.sentDgrams i)).Holds s writer := by
    refine SocketRun.writes h hL settled_of_opensMessages _ rfl rfl ?_
    rintro _ ⟨s, c, hopens, rfl⟩
    exact hopens.toOpensDatagram.writes hs hL hsure hopens.tx hopens.txFits
  obtain ⟨c, left, flying, gs, hdev, hposted, hsent, -⟩ := datagrams_of_writes hwrites
  refine ⟨c, left.map Frame.wire, _, hdev, hsent, hposted, ?_⟩
  rw [List.append_assoc, List.map_append]
  exact List.prefix_append _ _

/-- At every point of a run on which no frame fails that moves a datagram of the
socket, `recv_from` has answered with a prefix of the datagrams that came in since the
open and fit the rx ring, each cut to the buffer it was given, and the chip has sent,
each as a datagram to where it was addressed, a prefix of what `send_to` accepted. -/
theorem datagrams_intact (hs : FifoSize size) (hL : 67 ≤ L) (h : MessageRun i c₀ s reader writer)
    (hrx : Sure (MovesRx i) c₀) (htx : Sure (SendsUdp i) c₀) :
    ∃ c received front sent accepted, s.device.value.transport.dev? = some c ∧
      c.datagrams i = c₀.datagrams i ++ received ∧
      front <+: received.filter (fitsRing ((readRing i).get s).cap.toNat) ∧
      List.Forall₂ Truncated (datagramsTaken reader.done) front ∧
      c.chip.sentDgrams i = c₀.chip.sentDgrams i ++ sent ∧ Posted id writer.done accepted ∧
      sent <+: accepted.map Frame.wire := by
  obtain ⟨c, received, front, hdev, hreceived, hfront, htaken⟩ := h.received_prefix hs hL hrx
  obtain ⟨c', sent, accepted, hdev', hsent, hposted, hprefix⟩ := h.sent_prefix hs hL htx
  obtain rfl : c = c' := Option.some.inj (hdev.symm.trans hdev')
  exact ⟨c, received, front, sent, accepted, hdev, hreceived, hfront, htaken, hsent, hposted,
    hprefix⟩

/-- A datagram is taken, of which two bytes are asked for, an answer goes out, and what
is too long for any frame is refused. -/
theorem datagrams_intact_hailed :
    ∃ (c₀ c : LiveChip 16) (s : W6100 8 67 (LiveChip 16) Unit), ∃ reader writer received front sent
      accepted, MessageRun 0 c₀ s reader writer ∧ s.device.value.transport.dev? = some c ∧
      datagramsTaken reader.done = [(2, [1, 2], ⟨1, 9⟩)] ∧
      c.chip.sentDgrams 0 = [(1, 9, [5, 6])] ∧ writer.done.map (·.answer) = [2, 0] ∧
      c.datagrams 0 = c₀.datagrams 0 ++ received ∧
      front <+: received.filter (fitsRing ((readRing 0).get s).cap.toNat) ∧
      List.Forall₂ Truncated (datagramsTaken reader.done) front ∧
      c.chip.sentDgrams 0 = c₀.chip.sentDgrams 0 ++ sent ∧ Posted id writer.done accepted ∧
      sent <+: accepted.map Frame.wire := by
  obtain ⟨c₀, hopens, htx, hsure⟩ := hailed_opens
  have hmessages : OpensMessages 0 hailed
      (.openUdp 7 (List.replicate 16 0) (List.replicate 16 0)) c₀ :=
    ⟨hopens, htx, ⟨by decide +kernel, by decide +kernel⟩, ⟨by decide +kernel, by decide +kernel⟩⟩
  have hmoved := (MessageRun.opened hmessages).round (by decide +kernel)
    |>.round (by decide +kernel) |>.round (by decide +kernel)
  have hread := (hmoved.beginRead rfl 2).stepReads 40
  have hsent := ((hread.beginWrite rfl ([5, 6], ⟨1, 9⟩)).stepWrites 40).round
    (by decide +kernel) |>.round (by decide +kernel)
  have hlong := (hsent.beginWrite (Option.isNone_iff_eq_none.mp (by decide +kernel))
    (List.replicate 20 0, ⟨1, 9⟩)).stepWrites 4
  obtain ⟨s, reader, writer, hrun, htaken, hwire, hanswers⟩ :
      ∃ (s : W6100 8 67 (LiveChip 16) Unit), ∃ reader writer, MessageRun 0 c₀ s reader writer ∧
        datagramsTaken reader.done = [(2, [1, 2], ⟨1, 9⟩)] ∧
        s.device.value.transport.dev?.map (·.chip.sentDgrams 0) = some [(1, 9, [5, 6])] ∧
        writer.done.map (·.answer) = [2, 0] :=
    ⟨_, _, _, hlong, by decide +kernel, by decide +kernel, by decide +kernel⟩
  obtain ⟨c, received, front, sent, accepted, hdev, hreceived, hfront, htruncated, hsent, hposted,
    hprefix⟩ := datagrams_intact ⟨by decide, by decide⟩ (by decide) hrun
      (fun n mosi _ => hsure n mosi) fun n mosi _ => hsure n mosi
  rw [hdev] at hwire
  exact ⟨c₀, c, s, reader, writer, received, front, sent, accepted, hrun, hdev, htaken,
    Option.some.inj hwire, hanswers, hreceived, hfront, htruncated, hsent, hposted, hprefix⟩

end W6100

end Wiznet
