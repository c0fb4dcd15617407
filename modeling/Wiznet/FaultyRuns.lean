import Wiznet.DatagramRuns
import Wiznet.TcpRuns
import Wiznet.Transcript

/-! # Runs in which frames fail

The driver takes bytes out of a tx ring before it clocks the frames that carry
them, and puts bytes into an rx ring before the frame that moves `Sn_RX_RD` behind
them. If one of these frames fails, bytes are left out on the wire or come in
twice. All other frames may fail. -/

namespace Wiznet
open Resumption Resumption.Code SpscRing LiveChip

variable {w L size : Nat} {P : Type} {i : Fin 8}

/-- What was published, in order. -/
theorem deliverable_sublist (cap : Nat) (ds : List (SocketAddr × List UInt8)) :
    ((deliverable cap ds).map fun f => (f.dst, f.payload)).Sublist ds := by
  induction ds with
  | nil => exact .slnil
  | cons d ds ih =>
    rw [deliverable, List.filterMap_cons]
    by_cases h : d.2.length < 2 ^ 16 ∧ FRAME_HEADER + d.2.length ≤ cap
    · simp only [frameOf, dif_pos h, List.map_cons]
      exact ih.cons_cons d
    · simp only [frameOf, dif_neg h]
      exact ih.cons d

namespace W6100

variable [OutputPin P] {c₀ : LiveChip size}

/-! ## What goes out -/

/-- On a connection on which every burst into the TX buffer of the socket and every
move of `Sn_TX_WR` gets through, whatever other frames fail, the chip has sent a
prefix of what the writes accepted. -/
theorem sent_without_hole (hs : FifoSize size) (hL : 67 ≤ L) {s : W6100 w L (LiveChip size) P}
    {reader : Thread (SpscRing w) ConsumerCall (List UInt8)}
    {writer : Thread (SpscRing w) (List UInt8) Nat} (h : StreamRun i c₀ s reader writer)
    (hsure : Sure (MovesTx i) c₀) :
    ∃ c sent, s.device.value.transport.dev? = some c ∧
      c.chip.sent i = c₀.chip.sent i ++ sent ∧ sent <+: bytesWritten writer.done :=
  h.sent_prefix hs hL hsure

/-- A peer connects and sends three bytes later on. -/
def connecting (n : Nat) : List (Fin 8 × PeerEvent) :=
  if n = 40 then [(0, .connect)] else if n = 50 then [(0, .send [1, 2, 3])] else []

theorem faltering_opens (fails : Nat → List UInt8 → Bool)
    (hopen : ((faltering fails connecting).opened
      (.openTcpListen 7 (List.replicate 8 0) (List.replicate 8 0))) = some (0, .tcp))
    (hempty : (faltering fails connecting).device.value.transport.dev?.map (fun c =>
      ((c.chip.sockets 0).rx.used, (c.chip.sockets 0).tx.used, c.chip.sent 0, c.received 0)) =
        some (0, 0, [], []))
    (hfails : (faltering fails connecting).device.value.transport.dev?.map (·.fails) =
      some fun n => fails (n + 30)) :
    ∃ c₀, OpensStream 0 (faltering fails connecting)
        (.openTcpListen 7 (List.replicate 8 0) (List.replicate 8 0)) c₀ ∧
      c₀.chip.sent 0 = [] ∧ c₀.received 0 = [] ∧ ∀ n mosi, c₀.fails n mosi = fails (n + 30) mosi := by
  obtain ⟨c₀, hc₀, heq⟩ := Option.map_eq_some_iff.mp hempty
  simp only [Prod.mk.injEq] at heq
  obtain ⟨hrx, htx, hsent, hreceived⟩ := heq
  rw [hc₀] at hfails
  exact ⟨c₀, ⟨⟨⟨_, .new _ _ _ _⟩, hopen, ⟨_, _, _, rfl, ⟨3, rfl⟩, ⟨3, rfl⟩, by decide, by decide⟩,
    hc₀⟩, hrx, htx⟩, hsent, hreceived, fun n => congrFun (congrFun (Option.some.inj hfails) n)⟩

/-- Frame 50 carries two bytes into the TX buffer and fails; a third byte goes out
after them. -/
theorem sent_with_hole : ∃ (c₀ c : LiveChip 16) (s : W6100 8 67 (LiveChip 16) Unit), ∃ reader writer,
    StreamRun 0 c₀ s reader writer ∧ (∀ n mosi, c₀.fails n mosi = true → n = 20) ∧
      s.device.value.transport.dev? = some c ∧ bytesWritten writer.done = [9, 8, 7] ∧
      c.chip.sent 0 = c₀.chip.sent 0 ++ [7] ∧ ¬ [7] <+: bytesWritten writer.done := by
  obtain ⟨c₀, hopens, hsent, -, hfails⟩ := faltering_opens (fun n _ => n == 50) (by decide +kernel)
    (by decide +kernel) rfl
  have hwritten := ((StreamRun.opened hopens).beginWrite rfl [9, 8]).stepWrites 6
  have hlost := hwritten.round (by decide +kernel) |>.round (by decide +kernel)
    |>.round (by decide +kernel) |>.round (by decide +kernel) |>.round (by decide +kernel)
  have hmore := (hlost.beginWrite (by decide +kernel) [7]).stepWrites 6
  have hmoved := hmore.round (by decide +kernel) |>.round (by decide +kernel)
  obtain ⟨s, reader, writer, hrun, hwire, hbytes⟩ : ∃ (s : W6100 8 67 (LiveChip 16) Unit),
      ∃ reader writer, StreamRun 0 c₀ s reader writer ∧
        s.device.value.transport.dev?.map (·.chip.sent 0) = some [7] ∧
        bytesWritten writer.done = [9, 8, 7] := ⟨_, _, _, hmoved, by decide +kernel, by decide +kernel⟩
  obtain ⟨c, hdev, hc⟩ := Option.map_eq_some_iff.mp hwire
  refine ⟨c₀, c, s, reader, writer, hrun, fun n mosi => ?_, hdev, hbytes, by rw [hc, hsent]; rfl, ?_⟩
  · rw [hfails]
    simp
  · rw [hbytes]
    decide

/-- Reads of the status of socket 0 fail for a while. -/
def statusFails (n : Nat) (mosi : List UInt8) : Bool :=
  decide (41 ≤ n ∧ n < 45) && mosi.take HEADER == createHeader ⟨SN_SR, .socketRegister 0⟩ false

theorem statusFails_write (n : Nat) (addr : Address) (data : List UInt8) :
    statusFails n (createHeader addr true ++ data) = false := by
  have hhead : (createHeader addr true ++ data).take HEADER = createHeader addr true :=
    List.take_left' (createHeader_length ..)
  rw [statusFails, hhead, Bool.and_eq_false_iff]
  right
  rw [beq_eq_false_iff_ne]
  intro heq
  cases (createHeader_inj heq).2

/-- Two bytes go out, although reads of the status have failed. -/
theorem sent_without_hole_faltering : ∃ (c₀ c : LiveChip 16) (s : W6100 8 67 (LiveChip 16) Unit),
    ∃ reader writer sent, StreamRun 0 c₀ s reader writer ∧
      (∃ n mosi, c₀.fails n mosi = true) ∧ s.device.value.transport.dev? = some c ∧
      c.chip.sent 0 = [9, 8] ∧ c.chip.sent 0 = c₀.chip.sent 0 ++ sent ∧
      sent <+: bytesWritten writer.done := by
  obtain ⟨c₀, hopens, -, -, hfails⟩ := faltering_opens statusFails (by decide +kernel)
    (by decide +kernel) rfl
  have hwritten := ((StreamRun.opened hopens).beginWrite rfl [9, 8]).stepWrites 6
  have hmoved := hwritten.round (by decide +kernel) |>.round (by decide +kernel)
    |>.round (by decide +kernel) |>.round (by decide +kernel) |>.round (by decide +kernel)
    |>.round (by decide +kernel)
  obtain ⟨s, reader, writer, hrun, hwire⟩ : ∃ (s : W6100 8 67 (LiveChip 16) Unit),
      ∃ reader writer, StreamRun 0 c₀ s reader writer ∧
        s.device.value.transport.dev?.map (·.chip.sent 0) = some [9, 8] :=
    ⟨_, _, _, hmoved, by decide +kernel⟩
  obtain ⟨c, sent, hdev, hsent, hprefix⟩ := sent_without_hole ⟨by decide, by decide⟩ (by decide)
    hrun fun n mosi hm => by
      obtain ⟨addr, data, -, rfl⟩ := hm
      rw [hfails, statusFails_write]
  rw [hdev] at hwire
  exact ⟨c₀, c, s, reader, writer, sent, hrun,
    ⟨11, createHeader ⟨SN_SR, .socketRegister 0⟩ false, by rw [hfails]; decide⟩, hdev,
    Option.some.inj hwire, hsent, hprefix⟩

/-! ## What comes in -/

/-- On a chip that takes every move of `Sn_RX_RD` of the socket, whatever other
frames fail, the reads return a prefix of what came in, and the datagrams that were
published are, in this order and none of them twice, datagrams that came in: those
`recv_from` has answered with, cut to its buffers, and those outstanding, which
between two calls are the frames in the ring. -/
theorem received_once (hs : FifoSize size) (hL : 67 ≤ L) (hsure : Sure (MovesRx i) c₀) :
    (∀ {s : W6100 w L (LiveChip size) P} {reader writer}, StreamRun i c₀ s reader writer →
      ∃ c received, s.device.value.transport.dev? = some c ∧
        c.received i = c₀.received i ++ received ∧ bytesRead reader.done <+: received) ∧
    ∀ {s : W6100 w L (LiveChip size) P} {reader writer}, DatagramRun i c₀ s reader writer →
      ∃ c received answered ringed, s.device.value.transport.dev? = some c ∧
        c.datagrams i = c₀.datagrams i ++ received ∧
        ((answered ++ ringed).map fun f => (f.dst, f.payload)).Sublist received ∧
        List.Forall₂ Frame.Answers (datagramsTaken reader.done) answered ∧
        (reader.active = none → Framed ringed ((readRing i).get s)) := by
  refine ⟨fun h => h.received_prefix hs hL hsure, fun h => ?_⟩
  obtain ⟨c, off, waiting, fs, gs, hdev, hdgrams, -, hoff, htaken, hframed, -⟩ :=
    datagrams_of_reads (h.reads hs hL hsure)
  refine ⟨c, off ++ waiting, fs, gs, hdev, by rw [hdgrams, List.append_assoc], ?_, htaken, hframed⟩
  rw [← hoff]
  exact (deliverable_sublist _ off).trans (List.sublist_append_left ..)

/-- A peer sends a datagram. -/
def hailing (n : Nat) : List (Fin 8 × PeerEvent) :=
  if n = 40 then [(0, .sendUdp ⟨1, 9⟩ [1, 2, 3])] else []

theorem hailing_opens (fails : Nat → List UInt8 → Bool)
    (hopen : (faltering fails hailing).opened
      (.openUdp 7 (List.replicate 32 0) (List.replicate 8 0)) = some (0, .udp))
    (hempty : (faltering fails hailing).device.value.transport.dev?.map (fun c =>
      ((c.chip.sockets 0).sr, (c.chip.sockets 0).rx.used, c.datagrams 0)) = some (0, 0, []))
    (hfails : (faltering fails hailing).device.value.transport.dev?.map (·.fails) =
      some fun n => fails (n + 30)) :
    ∃ c₀, OpensDatagram 0 (faltering fails hailing)
        (.openUdp 7 (List.replicate 32 0) (List.replicate 8 0)) c₀ ∧
      c₀.datagrams 0 = [] ∧ ∀ n mosi, c₀.fails n mosi = fails (n + 30) mosi := by
  obtain ⟨c₀, hc₀, heq⟩ := Option.map_eq_some_iff.mp hempty
  simp only [Prod.mk.injEq] at heq
  obtain ⟨hclosed, hrx, hnone⟩ := heq
  rw [hc₀] at hfails
  exact ⟨c₀, ⟨⟨⟨_, .new _ _ _ _⟩, hopen, ⟨_, _, _, rfl, ⟨5, rfl⟩, ⟨3, rfl⟩, by decide, by decide⟩,
    hc₀⟩, hclosed, hrx⟩, hnone, fun n => congrFun (congrFun (Option.some.inj hfails) n)⟩

/-- Three bytes come in, the frame that moves `Sn_RX_RD` behind them fails, and the
application reads them twice; and the same with a datagram. -/
theorem received_twice :
    (∃ (c₀ c : LiveChip 16) (s : W6100 8 67 (LiveChip 16) Unit), ∃ reader writer,
      StreamRun 0 c₀ s reader writer ∧ (∀ n mosi, c₀.fails n mosi = true → n = 24) ∧
        s.device.value.transport.dev? = some c ∧ c₀.received 0 = [] ∧ c.received 0 = [1, 2, 3] ∧
        bytesRead reader.done = [1, 2, 3, 1, 2, 3]) ∧
    ∃ (c₀ c : LiveChip 16) (s : W6100 8 67 (LiveChip 16) Unit), ∃ reader writer,
      DatagramRun 0 c₀ s reader writer ∧ (∀ n mosi, c₀.fails n mosi = true → n = 15) ∧
        s.device.value.transport.dev? = some c ∧ c₀.datagrams 0 = [] ∧
        c.datagrams 0 = [(⟨1, 9⟩, [1, 2, 3])] ∧
        datagramsTaken reader.done = [(4, [1, 2, 3], ⟨1, 9⟩), (4, [1, 2, 3], ⟨1, 9⟩)] := by
  constructor
  · obtain ⟨c₀, hopens, -, hreceived, hfails⟩ := faltering_opens (fun n _ => n == 54)
      (by decide +kernel) (by decide +kernel) rfl
    have hmoved := (StreamRun.opened hopens).round (by decide +kernel) |>.round (by decide +kernel)
      |>.round (by decide +kernel) |>.round (by decide +kernel) |>.round (by decide +kernel)
      |>.round (by decide +kernel)
    have hread := (hmoved.beginRead rfl (.read 8)).stepReads 10
    obtain ⟨s, reader, writer, hrun, hcame, hbytes⟩ : ∃ (s : W6100 8 67 (LiveChip 16) Unit),
        ∃ reader writer, StreamRun 0 c₀ s reader writer ∧
          s.device.value.transport.dev?.map (·.received 0) = some [1, 2, 3] ∧
          bytesRead reader.done = [1, 2, 3, 1, 2, 3] :=
      ⟨_, _, _, hread, by decide +kernel, by decide +kernel⟩
    obtain ⟨c, hdev, hc⟩ := Option.map_eq_some_iff.mp hcame
    refine ⟨c₀, c, s, reader, writer, hrun, fun n mosi => ?_, hdev, hreceived, hc, hbytes⟩
    rw [hfails]
    simp
  · obtain ⟨c₀, hopens, hnone, hfails⟩ := hailing_opens (fun n _ => n == 45) (by decide +kernel)
      (by decide +kernel) rfl
    have hmoved := (DatagramRun.opened hopens).round (by decide +kernel)
      |>.round (by decide +kernel) |>.round (by decide +kernel) |>.round (by decide +kernel)
    have hfirst := (hmoved.beginRead rfl 4).stepReads 40
    have hread := (hfirst.beginRead (Option.isNone_iff_eq_none.mp (by decide +kernel)) 4).stepReads 40
    obtain ⟨s, reader, writer, hrun, hcame, htaken⟩ : ∃ (s : W6100 8 67 (LiveChip 16) Unit),
        ∃ reader writer, DatagramRun 0 c₀ s reader writer ∧
          s.device.value.transport.dev?.map (·.datagrams 0) = some [(⟨1, 9⟩, [1, 2, 3])] ∧
          datagramsTaken reader.done = [(4, [1, 2, 3], ⟨1, 9⟩), (4, [1, 2, 3], ⟨1, 9⟩)] :=
      ⟨_, _, _, hread, by decide +kernel, by decide +kernel⟩
    obtain ⟨c, hdev, hc⟩ := Option.map_eq_some_iff.mp hcame
    refine ⟨c₀, c, s, reader, writer, hrun, fun n mosi => ?_, hdev, hnone, hc, htaken⟩
    rw [hfails]
    simp

/-- Two bytes are read, and one datagram is taken, although reads of the status have
failed. -/
theorem received_once_faltering :
    (∃ (c₀ c : LiveChip 16) (s : W6100 8 67 (LiveChip 16) Unit), ∃ reader writer received,
      StreamRun 0 c₀ s reader writer ∧ (∃ n mosi, c₀.fails n mosi = true) ∧
        s.device.value.transport.dev? = some c ∧ bytesRead reader.done = [1, 2] ∧
        c.received 0 = c₀.received 0 ++ received ∧ [1, 2] <+: received) ∧
    ∃ (c₀ c : LiveChip 16) (s : W6100 8 67 (LiveChip 16) Unit), ∃ reader writer received answered
      ringed, DatagramRun 0 c₀ s reader writer ∧ (∃ n mosi, c₀.fails n mosi = true) ∧
        s.device.value.transport.dev? = some c ∧
        datagramsTaken reader.done = [(2, [1, 2], ⟨1, 9⟩)] ∧
        c.datagrams 0 = c₀.datagrams 0 ++ received ∧
        ((answered ++ ringed).map fun f => (f.dst, f.payload)).Sublist received ∧
        List.Forall₂ Frame.Answers (datagramsTaken reader.done) answered := by
  have hsure {c₀ : LiveChip 16} (hfails : ∀ n mosi, c₀.fails n mosi = statusFails (n + 30) mosi) :
      Sure (MovesRx 0) c₀ ∧ ∃ n mosi, c₀.fails n mosi = true := by
    refine ⟨fun n mosi hm => ?_, 11, createHeader ⟨SN_SR, .socketRegister 0⟩ false, ?_⟩
    · obtain ⟨data, rfl⟩ := hm
      rw [hfails, statusFails_write]
    · rw [hfails]
      decide
  constructor
  · obtain ⟨c₀, hopens, -, -, hfails⟩ := faltering_opens statusFails (by decide +kernel)
      (by decide +kernel) rfl
    have hmoved := (StreamRun.opened hopens).round (by decide +kernel) |>.round (by decide +kernel)
      |>.round (by decide +kernel) |>.round (by decide +kernel) |>.round (by decide +kernel)
    have hread := (hmoved.beginRead rfl (.read 2)).stepReads 6
    obtain ⟨s, reader, writer, hrun, hbytes⟩ : ∃ (s : W6100 8 67 (LiveChip 16) Unit),
        ∃ reader writer, StreamRun 0 c₀ s reader writer ∧ bytesRead reader.done = [1, 2] :=
      ⟨_, _, _, hread, by decide +kernel⟩
    obtain ⟨c, received, hdev, hreceived, hprefix⟩ :=
      (received_once ⟨by decide, by decide⟩ (by decide) (hsure hfails).1).1 hrun
    rw [hbytes] at hprefix
    exact ⟨c₀, c, s, reader, writer, received, hrun, (hsure hfails).2, hdev, hbytes, hreceived,
      hprefix⟩
  · obtain ⟨c₀, hopens, -, hfails⟩ := hailing_opens statusFails (by decide +kernel)
      (by decide +kernel) rfl
    have hmoved := (DatagramRun.opened hopens).round (by decide +kernel)
      |>.round (by decide +kernel) |>.round (by decide +kernel) |>.round (by decide +kernel)
    have hread := (hmoved.beginRead rfl 2).stepReads 40
    obtain ⟨s, reader, writer, hrun, htaken⟩ : ∃ (s : W6100 8 67 (LiveChip 16) Unit),
        ∃ reader writer, DatagramRun 0 c₀ s reader writer ∧
          datagramsTaken reader.done = [(2, [1, 2], ⟨1, 9⟩)] := ⟨_, _, _, hread, by decide +kernel⟩
    obtain ⟨c, received, answered, ringed, hdev, hreceived, hsub, htaken', -⟩ :=
      (received_once ⟨by decide, by decide⟩ (by decide) (hsure hfails).1).2 hrun
    exact ⟨c₀, c, s, reader, writer, received, answered, ringed, hrun, (hsure hfails).2, hdev,
      htaken, hreceived, hsub, htaken'⟩

end W6100

end Wiznet
