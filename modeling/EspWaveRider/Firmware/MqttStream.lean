import EspWaveRider.Firmware.MqttTask
import EspWaveRider.Lib.Mqtt311

/-!
# Reassembly of the inbound stream

`take_mqtt_packet` and the loop around it (`rust/firmware/esp32s3/src/main.rs`):
packets are taken until there is none, then the next read is appended to the
inbound buffer.

* `isMessage_of_isPacket` — the length the firmware reads off a control packet of
  the protocol is its length;
* `reassemble` — the loop over the reads, and `play_reads_reassemble`: it is what
  the session loop of the task does;
* `reassemble_stream` — however a stream is cut into reads, its packets come out.
-/

namespace EspWaveRider.Firmware

open Framing Mqtt311 MqttTask

/-! ## The packets of the protocol -/

theorem land_7F (byte : UInt8) : (byte &&& 0x7F).toNat = byte.toNat % 128 := by
  have hmask : (0x7F : UInt8).toNat = 2 ^ 7 - 1 := rfl
  rw [UInt8.toNat_and, hmask, Nat.and_two_pow_sub_one_eq_mod]

theorem land_80_eq_zero_iff (byte : UInt8) : byte &&& 0x80 = 0 ↔ byte.toNat < 128 := by
  have hall : ∀ b : BitVec 8, b &&& 0x80#8 = 0#8 ↔ b.toNat < 128 := by decide
  rw [← UInt8.toBitVec_inj]
  exact hall byte.toBitVec

/-- Both readers go through the same bytes. -/
theorem remainingLength_eq {continued : List UInt8} {last : UInt8} {multiplier : ℕ}
    (hfits : multiplier * 128 ^ continued.length ≤ 128 * 128 * 128)
    (hcontinued : ∀ byte ∈ continued, 128 ≤ byte.toNat) (hlast : last.toNat < 128)
    (value index : ℕ) (body : List UInt8) :
    remainingLength multiplier value index (continued ++ last :: body) =
      .ok (some (index + continued.length + 1,
        value + multiplier * lengthValue (continued ++ [last]))) := by
  induction continued generalizing multiplier value index with
  | nil =>
    simp only [List.nil_append, remainingLength, (land_80_eq_zero_iff last).2 hlast, land_7F,
      Nat.mod_eq_of_lt hlast, if_true, lengthValue, List.length_nil]
    rw [Nat.mul_comm]
    rfl
  | cons byte continued ih =>
    have hbyte := hcontinued byte (List.mem_cons_self ..)
    have hmore : ¬ byte &&& 0x80 = 0 := by
      rw [land_80_eq_zero_iff]
      omega
    have hpos : 0 < 128 ^ continued.length := Nat.pow_pos (by decide)
    rw [List.length_cons, Nat.pow_succ'] at hfits
    have hfits' : multiplier * 128 * 128 ^ continued.length ≤ 128 * 128 * 128 := by
      rwa [Nat.mul_assoc]
    have hsmall : ¬ multiplier * 128 > 128 * 128 * 128 := by
      have hle := Nat.le_mul_of_pos_right (multiplier * 128) hpos
      omega
    rw [List.cons_append, remainingLength, if_neg hmore, if_neg hsmall,
      ih hfits' fun b hb => hcontinued b (List.mem_cons_of_mem _ hb)]
    have hvalue : value + (byte &&& 0x7F).toNat * multiplier +
        multiplier * 128 * lengthValue (continued ++ [last]) =
          value + multiplier * lengthValue (byte :: (continued ++ [last])) := by
      rw [land_7F, lengthValue]
      ring
    rw [hvalue, List.length_cons, List.cons_append]
    have hindex : index + 1 + continued.length + 1 = index + (continued.length + 1) + 1 := by omega
    rw [hindex]

theorem isMessage_of_isPacket {packet : List UInt8} (h : IsPacket packet)
    (hsize : packet.length ≤ 1024) : IsMessage packetLength packet := by
  obtain ⟨first, field, body, rfl, ⟨continued, last, rfl, hshort, hcontinued, hlast⟩, hlength⟩ := h
  have hfits : 1 * 128 ^ continued.length ≤ 128 * 128 * 128 := by
    rw [Nat.one_mul]
    exact Nat.pow_le_pow_right (by decide) hshort
  have hread := remainingLength_eq hfits hcontinued hlast 0 1 body
  refine packetLength_eq_some_iff.2
    ⟨1 + continued.length + 1, lengthValue (continued ++ [last]), ?_, ?_, ?_, le_rfl, hsize⟩
  · simp only [List.length_cons, List.length_append]
    omega
  · rw [List.tail_cons, List.append_assoc]
    simpa using hread
  · rw [hlength]
    simp only [List.length_cons, List.length_append, List.length_nil]
    omega

/-! ## The loop -/

/-- Packets off the inbound buffer until there is none; every one shortens the
buffer, so its length bounds the rounds. -/
def takePackets : ℕ → HVec UInt8 2048 → List (HVec UInt8 1024) × HVec UInt8 2048
  | 0, inbound => ([], inbound)
  | fuel + 1, inbound =>
    match takeMqttPacket inbound with
    | none => ([], inbound)
    | some (packet, inbound) =>
      let (packets, inbound) := takePackets fuel inbound
      (packet :: packets, inbound)

/-- Take packets until there is none, then append the next read; `none` when a
read does not fit. -/
def reassemble (inbound : HVec UInt8 2048) :
    List (List UInt8) → Option (List (HVec UInt8 1024) × HVec UInt8 2048)
  | [] => some (takePackets inbound.items.length inbound)
  | chunk :: chunks => do
    let (packets, inbound) := takePackets inbound.items.length inbound
    let inbound ← inbound.extend chunk
    let (more, inbound) ← reassemble inbound chunks
    return (packets ++ more, inbound)

/-- Taking packets drains the buffer. -/
theorem takePackets_eq (fuel : ℕ) (inbound : HVec UInt8 2048) :
    ((takePackets fuel inbound).1.map (·.items), (takePackets fuel inbound).2.items) =
      drainFuel packetLength fuel inbound.items := by
  induction fuel generalizing inbound with
  | zero => rfl
  | succ fuel ih =>
    rw [takePackets, drainFuel]
    cases hlen : packetLength inbound.items with
    | none =>
      rw [takeMqttPacket_eq_none hlen]
      rfl
    | some n =>
      obtain ⟨packet, htake, hpacket⟩ := takeMqttPacket_eq_some hlen
      have hrest := ih (inbound.dropFirst n)
      rw [Bounded.items_dropFirst] at hrest
      rw [htake]
      simp only
      rw [← hrest, List.map_cons, hpacket]

/-- While the reads are part of a stream of packets, each of them fits, and the loop
does what it does on a buffer without bounds. -/
theorem reassemble_eq_feed {ms chunks : List (List UInt8)} {inbound : HVec UInt8 2048}
    (hms : ∀ m ∈ ms, IsMessage packetLength m) (hreads : ∀ chunk ∈ chunks, IsRead chunk)
    (hstarts : inbound.items ++ chunks.flatten <+: ms.flatten) :
    ∃ packets left, reassemble inbound chunks = some (packets, left) ∧
      (packets.map (·.items), left.items) = feed packetLength inbound.items chunks := by
  induction chunks generalizing inbound ms with
  | nil => exact ⟨_, _, rfl, takePackets_eq _ _⟩
  | cons chunk chunks ih =>
    have htaken : ((takePackets inbound.items.length inbound).1.map (·.items),
        (takePackets inbound.items.length inbound).2.items) = drain packetLength inbound.items :=
      takePackets_eq _ _
    have hcut : (drain packetLength inbound.items).1.flatten ++
        (drain packetLength inbound.items).2 = inbound.items := drain_flatten _
    have hlen := lengthPrefixed_packetLength.len_drain inbound.items
    rw [List.flatten_cons] at hstarts
    -- the packets taken are the first of the stream, the rest begins the next one
    obtain ⟨later, rfl⟩ :=
      lengthPrefixed_packetLength.drain_prefix hms ((List.prefix_append _ _).trans hstarts)
    have hlater : ∀ m ∈ later, IsMessage packetLength m :=
      fun m hm => hms m (List.mem_append_right _ hm)
    rw [feed]
    generalize drain packetLength inbound.items = cut at *
    rw [reassemble]
    generalize takePackets inbound.items.length inbound = drained at *
    rw [← hcut, List.append_assoc, List.flatten_append, List.prefix_append_right_inj] at hstarts
    have hrest : drained.2.items = cut.2 := congrArg Prod.snd htaken
    rw [← hrest, ← List.append_assoc] at hstarts
    obtain ⟨inbound', hextend, hitems⟩ := exists_extend hlater
      (((List.prefix_append _ _).trans (List.prefix_append _ _)).trans hstarts)
      (by rw [hrest]; exact hlen)
      (hreads chunk (List.mem_cons_self ..))
    rw [← hitems] at hstarts
    obtain ⟨packets, left, hrun, hfeed⟩ :=
      ih hlater (fun c hc => hreads c (List.mem_cons_of_mem _ hc)) hstarts
    refine ⟨drained.1 ++ packets, left, ?_, ?_⟩
    · show (drained.2.extend chunk).bind _ = _
      rw [hextend, Option.bind_some, hrun]
      rfl
    · rw [hitems, hrest] at hfeed
      simp only
      rw [← hfeed, List.map_append]
      exact congrArg (fun l => (l ++ packets.map (·.items), left.items)) (congrArg Prod.fst htaken)

/-- A stream of packets and the beginning of one more, read in pieces. -/
theorem reassemble_of_stream {packets chunks : List (List UInt8)} {leftover next : List UInt8}
    {inbound : HVec UInt8 2048} (hpackets : ∀ m ∈ packets, IsMessage packetLength m)
    (hnext : IsMessage packetLength next) (hleftover : leftover <+: next) (hstrict : leftover ≠ next)
    (hreads : ∀ chunk ∈ chunks, IsRead chunk)
    (hstream : inbound.items ++ chunks.flatten = packets.flatten ++ leftover) :
    ∃ taken left, reassemble inbound chunks = some (taken, left) ∧
      taken.map (·.items) = packets ∧ left.items = leftover := by
  have hms : ∀ m ∈ packets ++ [next], IsMessage packetLength m := by
    simpa [or_imp, forall_and] using And.intro hpackets hnext
  have hstarts : inbound.items ++ chunks.flatten <+: (packets ++ [next]).flatten := by
    rw [hstream, List.flatten_append, List.flatten_singleton]
    exact (List.prefix_append_right_inj _).2 hleftover
  obtain ⟨taken, left, hrun, hfeed⟩ := reassemble_eq_feed hms hreads hstarts
  have hnone := lengthPrefixed_packetLength.len_eq_none_of_prefix hnext hleftover hstrict
  rw [lengthPrefixed_packetLength.feed_eq_drain, hstream,
    lengthPrefixed_packetLength.drain_messages hpackets hnone, Prod.mk.injEq] at hfeed
  exact ⟨taken, left, hrun, hfeed.1, hfeed.2⟩

/-! ## The session -/

theorem handlePackets_eq_takePackets (fuel : ℕ) (s : MqttTask) :
    s.handlePackets fuel =
      { s with
        inbound := (takePackets fuel s.inbound).2
        taken := s.taken ++ (takePackets fuel s.inbound).1.map (·.items)
        events := s.events ++
          (takePackets fuel s.inbound).1.flatMap fun packet => (packetEvent packet.items).toList } := by
  induction fuel generalizing s with
  | zero => simp [handlePackets, takePackets]
  | succ fuel ih =>
    rw [handlePackets, takePackets]
    cases takeMqttPacket s.inbound with
    | none => simp
    | some r =>
      dsimp only
      rw [ih]
      simp only [List.map_cons, List.flatMap_cons, List.append_assoc, List.singleton_append]

/-- The session loop reassembles what it reads. -/
theorem play_reads_reassemble {s : MqttTask} {chunks : List (List UInt8)}
    {taken : List (HVec UInt8 1024)} {left : HVec UInt8 2048} (hphase : s.phase = .session)
    (hreads : ∀ chunk ∈ chunks, IsRead chunk)
    (hrun : reassemble s.inbound chunks = some (taken, left)) :
    let t := s.awaitSession.play (chunks.map .read)
    t.phase = .session ∧ t.taken = s.taken ++ taken.map (·.items) ∧ t.inbound = left := by
  induction chunks generalizing s taken with
  | nil =>
    have hawait := handlePackets_eq_takePackets s.inbound.items.length s
    rw [reassemble, Option.some.injEq] at hrun
    rw [hrun] at hawait
    show s.awaitSession.phase = _ ∧ s.awaitSession.taken = _ ∧ s.awaitSession.inbound = _
    rw [awaitSession, hawait]
    exact ⟨hphase, rfl, rfl⟩
  | cons chunk chunks ih =>
    have hawait := handlePackets_eq_takePackets s.inbound.items.length s
    rw [reassemble] at hrun
    generalize takePackets s.inbound.items.length s.inbound = drained at *
    obtain ⟨inbound, hextend, hrun⟩ := Option.bind_eq_some_iff.1 hrun
    obtain ⟨⟨more, left'⟩, hmore, hrun⟩ := Option.bind_eq_some_iff.1 hrun
    cases hrun
    have hread := hreads chunk (List.mem_cons_self ..)
    rw [awaitSession, hawait]
    set u : MqttTask := { s with
      inbound := drained.2
      taken := s.taken ++ drained.1.map (·.items)
      events := s.events ++ drained.1.flatMap fun packet => (packetEvent packet.items).toList }
    have hstep : u.step (.read chunk) = some
        { u with received := u.received ++ chunk, inbound := inbound }.awaitSession := by
      simp [step, u, hphase, hread, receive, hextend]
    rw [play_read hstep]
    have hrest := ih (s := { u with received := u.received ++ chunk, inbound := inbound }) hphase
      (fun c hc => hreads c (List.mem_cons_of_mem _ hc)) hmore
    rw [List.map_append, ← List.append_assoc]
    exact hrest

/-- However a stream of packets of at most 1024 bytes, and the beginning of one more,
is cut into reads: every read fits, the packets come out in order and the beginning
stays in the buffer; in the session of the task as in the loop by itself. -/
theorem reassemble_stream {packets chunks : List (List UInt8)} {leftover next : List UInt8}
    (hpackets : ∀ packet ∈ packets, IsPacket packet ∧ packet.length ≤ 1024)
    (hnext : IsPacket next ∧ next.length ≤ 1024) (hleftover : leftover <+: next)
    (hstrict : leftover ≠ next) (hreads : ∀ chunk ∈ chunks, chunk ≠ [] ∧ chunk.length ≤ 512)
    (hstream : chunks.flatten = packets.flatten ++ leftover) :
    (∃ taken left, reassemble Bounded.empty chunks = some (taken, left) ∧
      taken.map (·.items) = packets ∧ left.items = leftover) ∧
    ∀ s : MqttTask, s.phase = .session → s.inbound = Bounded.empty →
      let t := s.play (chunks.map .read)
      t.phase = .session ∧ t.taken = s.taken ++ packets ∧ t.inbound.items = leftover := by
  have hrun : ∃ taken left, reassemble Bounded.empty chunks = some (taken, left) ∧
      taken.map (·.items) = packets ∧ left.items = leftover := reassemble_of_stream
    (fun m hm => isMessage_of_isPacket (hpackets m hm).1 (hpackets m hm).2)
    (isMessage_of_isPacket hnext.1 hnext.2) hleftover hstrict hreads hstream
  refine ⟨hrun, fun s hphase hempty => ?_⟩
  obtain ⟨taken, left, hrun, htaken, hleft⟩ := hrun
  rw [← hempty] at hrun
  have hawait : s.awaitSession = s := by
    rw [awaitSession, hempty]
    rfl
  obtain ⟨hsession, htaken', hinbound⟩ := play_reads_reassemble hphase hreads hrun
  rw [hawait] at hsession htaken' hinbound
  rw [htaken] at htaken'
  exact ⟨hsession, htaken', by rw [hinbound, hleft]⟩

/-- A PINGRESP and a SUBACK, cut inside the header of the second. -/
theorem reassemble_stream_split :
    ∃ taken left, reassemble Bounded.empty [[0xD0], [0x00, 0x90], [0x03, 0x00, 0x01, 0x00, 0x30, 0x80]] =
      some (taken, left) ∧ taken.map (·.items) = [[0xD0, 0x00], suback 0] ∧
      left.items = [0x30, 0x80] := by
  have hpong : IsPacket [0xD0, 0x00] :=
    ⟨0xD0, [0x00], [], rfl, ⟨[], 0x00, rfl, by simp, nofun, by simp⟩, rfl⟩
  have hsuback : IsPacket (suback 0) :=
    ⟨0x90, [0x03], _, rfl, ⟨[], 0x03, rfl, by simp, nofun, by simp⟩, rfl⟩
  have hnext : IsPacket [0x30, 0x80, 0x00] :=
    ⟨0x30, [0x80, 0x00], [], rfl, ⟨[0x80], 0x00, rfl, by simp, by simp, by simp⟩, rfl⟩
  have hpackets : ∀ packet ∈ [[0xD0, 0x00], suback 0], IsPacket packet ∧ packet.length ≤ 1024 := by
    simp only [List.forall_mem_cons]
    exact ⟨⟨hpong, by decide⟩, ⟨hsuback, by decide⟩, nofun⟩
  exact (reassemble_stream hpackets ⟨hnext, by decide⟩ ⟨[0x00], rfl⟩ (by decide) (by decide) rfl).1

end EspWaveRider.Firmware
