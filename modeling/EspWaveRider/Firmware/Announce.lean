import EspWaveRider.Firmware.Peers

/-!
# What a peer is told and what it reads

The texts of `Payload` read back by the functions of `Peers`.

* `parseUnsigned_u32Text`, `parseSigned_i32Text` — numbers are read back;
* `asRead_eq_self_iff` — a text is read back exactly when none of its characters
  is escaped;
* `announce_roundTrip_iff` — an announcement or a summary arrives as it was
  meant exactly when this holds of the texts in it.
-/

namespace EspWaveRider.Firmware

open Text Mqtt KeyedStore Json

/-! ## Numbers -/

theorem digitsValue_concat (acc : ℕ) (s : Str) (c : Char) :
    digitsValue acc (s ++ [c]) = digitsValue acc s * 10 + (c.toNat - 48) := by
  induction s generalizing acc with
  | nil => rfl
  | cons d s ih => exact ih _

theorem toNat_digitChar {digit : ℕ} (h : digit < 10) : (digitChar digit).toNat - 48 = digit := by
  rw [digitChar, toNat_ofNat (by omega), Nat.add_sub_cancel_left]

theorem digitsValue_digitsLoop {fuel value : ℕ} (h : value < 10 ^ fuel) :
    digitsValue 0 ((digitsLoop fuel value).reverse.map digitChar) = value := by
  induction fuel generalizing value with
  | zero =>
    obtain rfl : value = 0 := by simpa using h
    rfl
  | succ fuel ih =>
    have hdigit : value % 10 < 10 := Nat.mod_lt _ (by decide)
    have hrest : value / 10 < 10 ^ fuel := by
      rw [Nat.div_lt_iff_lt_mul (by decide), ← Nat.pow_succ]
      exact h
    rw [digitsLoop, List.reverse_cons, List.map_append, List.map_singleton, digitsValue_concat,
      toNat_digitChar hdigit]
    split
    · show 0 * 10 + value % 10 = value
      omega
    · rw [ih hrest]
      omega

theorem parseDigits_u32Text {value : ℕ} (h : value ≤ u32Max) :
    parseDigits (u32Text value) = some value := by
  have hne : u32Text value ≠ [] := by
    rw [u32Text, Ne, List.map_eq_nil_iff, List.reverse_eq_nil_iff]
    exact List.cons_ne_nil _ _
  have hall : (u32Text value).all isAsciiDigit := List.all_eq_true.2 (forall_u32Text value)
  have hvalue : value < 10 ^ 10 := Nat.lt_of_le_of_lt h (by decide)
  rw [parseDigits, if_pos ⟨hne, hall⟩, u32Text, digitsValue_digitsLoop hvalue]

/-- The text of a number does not begin with a sign. -/
theorem exists_u32Text_eq_cons (value : ℕ) :
    ∃ c s, u32Text value = c :: s ∧ c ≠ '+' ∧ c ≠ '-' := by
  cases htext : u32Text value with
  | nil =>
    rw [u32Text, List.map_eq_nil_iff, List.reverse_eq_nil_iff] at htext
    exact absurd htext (List.cons_ne_nil _ _)
  | cons c s =>
    have hdigit : isAsciiDigit c := forall_u32Text value c (by rw [htext]; exact List.mem_cons_self ..)
    refine ⟨c, s, rfl, ?_, ?_⟩ <;>
    · rintro rfl
      exact absurd hdigit (by decide)

theorem parseUnsigned_u32Text {max value : ℕ} (h : value ≤ max) (hmax : value ≤ u32Max) :
    parseUnsigned max (u32Text value) = some value := by
  obtain ⟨c, s, htext, hplus, _⟩ := exists_u32Text_eq_cons value
  have hparse := parseDigits_u32Text hmax
  rw [htext] at hparse ⊢
  simp [parseUnsigned, hplus, hparse, h]

theorem signedDigits_i32Text {value : ℤ} (h : value.natAbs ≤ u32Max) :
    signedDigits (i32Text value) = some value := by
  rw [i32Text]
  split
  · rename_i hneg
    show (parseDigits (u32Text value.natAbs)).map (fun n => -Int.ofNat n) = some value
    rw [parseDigits_u32Text h, Option.map_some]
    congr 1
    show -(value.natAbs : ℤ) = value
    omega
  · have hvalue : value.toNat ≤ u32Max := by
      rw [u32Max] at h ⊢
      omega
    obtain ⟨c, s, htext, hplus, hminus⟩ := exists_u32Text_eq_cons value.toNat
    have hparse := parseDigits_u32Text hvalue
    rw [htext] at hparse ⊢
    have hdigits : signedDigits (c :: s) = (parseDigits (c :: s)).map Int.ofNat := by
      simp [signedDigits, hplus, hminus]
    rw [hdigits, hparse, Option.map_some]
    congr 1
    show (value.toNat : ℤ) = value
    omega

/-- A value of the type `i32`. -/
def IsI32 (value : ℤ) : Prop := -2147483648 ≤ value ∧ value ≤ 2147483647

theorem parseSigned_i32Text {value : ℤ} (h : IsI32 value) :
    parseSigned (-2147483648) 2147483647 (i32Text value) = some value := by
  have hrange := h
  rw [IsI32] at hrange
  have hdigits : signedDigits (i32Text value) = some value := by
    apply signedDigits_i32Text
    rw [u32Max]
    omega
  rw [parseSigned, hdigits]
  simpa [Option.filter] using hrange

/-! ## Texts -/

/-- What comes back of a text: its written form up to the first quote. -/
def asRead (value : Str) : Str := (escapeJson value).takeWhile (· ≠ '"')

/-- None of the characters is written with a backslash. -/
def Legible (value : Str) : Prop := ∀ c ∈ value, c ∉ ['\\', '"', '\n', '\r', '\t']

instance (value : Str) : Decidable (Legible value) := List.decidableBAll _ value

theorem escapeJsonChar_of_legible {c : Char} (h : c ∉ ['\\', '"', '\n', '\r', '\t']) :
    escapeJsonChar c = [c] := by
  unfold escapeJsonChar
  split
  all_goals first | rfl | exact (h (by decide)).elim

theorem asRead_cons_of_legible {c : Char} (h : c ∉ ['\\', '"', '\n', '\r', '\t']) (value : Str) :
    asRead (c :: value) = c :: asRead value := by
  have hquote : c ≠ '"' := fun hc => h (by rw [hc]; decide)
  rw [asRead, escapeJson, List.flatMap_cons, escapeJsonChar_of_legible h, List.singleton_append,
    List.takeWhile_cons_of_pos (by simpa using hquote)]
  rfl

theorem asRead_backslash (value : Str) :
    asRead ('\\' :: value) = '\\' :: '\\' :: asRead value := rfl

/-- Backslashes multiply. -/
theorem ne_backslashes_append_asRead (value : Str) (n : ℕ) :
    value ≠ List.replicate (n + 1) '\\' ++ asRead value := by
  induction value generalizing n with
  | nil => simp
  | cons c value ih =>
    intro h
    rw [List.replicate_succ, List.cons_append] at h
    obtain ⟨rfl, htail⟩ := List.cons.inj h
    apply ih (n + 1)
    rw [asRead_backslash] at htail
    rw [List.replicate_succ', List.replicate_succ', List.append_assoc, List.append_assoc]
    exact htail

theorem asRead_eq_self_iff (value : Str) : asRead value = value ↔ Legible value := by
  induction value with
  | nil => exact iff_of_true rfl (by simp [Legible])
  | cons c value ih =>
    have hlegible : Legible (c :: value) ↔
        c ∉ ['\\', '"', '\n', '\r', '\t'] ∧ Legible value := List.forall_mem_cons
    rw [hlegible]
    by_cases hc : c ∈ ['\\', '"', '\n', '\r', '\t']
    · refine iff_of_false (fun h => ?_) (fun h => h.1 hc)
      simp only [List.mem_cons, List.not_mem_nil, or_false] at hc
      rcases hc with rfl | rfl | rfl | rfl | rfl
      · rw [asRead_backslash] at h
        exact ne_backslashes_append_asRead value 0 (List.cons.inj h).2.symm
      · exact absurd (List.cons.inj h).1 (by decide)
      · exact absurd (List.cons.inj h).1 (by decide)
      · exact absurd (List.cons.inj h).1 (by decide)
      · exact absurd (List.cons.inj h).1 (by decide)
    · rw [asRead_cons_of_legible hc, List.cons_inj_right, ih]
      exact ⟨fun h => ⟨hc, h⟩, fun h => h.2⟩

theorem legible_deviceHostname (s : FirmwareState) : Legible s.deviceHostname := by
  intro c hc
  have hchar := forall_sanitizeHostname _ c hc
  simp only [List.mem_cons, List.not_mem_nil, or_false]
  rintro (rfl | rfl | rfl | rfl | rfl) <;> exact absurd hchar (by decide)

/-! ## Fields of a flat object -/

theorem find?_singleton_append (c : Char) (s rest : Str) :
    (find? [c] (s ++ c :: rest)).map (s ++ c :: rest).take = some (s.takeWhile (· ≠ c)) := by
  induction s with
  | nil => simp [find?]
  | cons d s ih =>
    by_cases hd : d = c
    · simp [find?, hd]
    · rw [List.cons_append, find?, if_neg (by simpa using Ne.symm hd),
        List.takeWhile_cons_of_pos (by simpa using hd), Option.map_map]
      have hmap := congrArg (Option.map (d :: ·)) ih
      rw [Option.map_map, Option.map_some] at hmap
      exact hmap

/-- A text is read up to its first quote, whether this ends it or not. -/
theorem jsonFieldString_of_lookup {ms : List (JsonKey × Json)} (hflat : Flat ms) (key : JsonKey)
    {body : JsonBody} (h : lookup key ms = some (.text body)) :
    jsonFieldString (object ms).render key.1 = some (body.1.takeWhile (· ≠ '"')) := by
  obtain ⟨post, hfound⟩ := after?_lookup hflat h
  have hrest : after? (fieldPattern key.1 ['"']) (object ms).render =
      some (body.1 ++ '"' :: (membersTail post ++ ['}'])) :=
    hfound ['"'] _ (render_text_append body _)
  have hcut := find?_singleton_append '"' body.1 (membersTail post ++ ['}'])
  obtain ⟨end_, hend, htake⟩ := Option.map_eq_some_iff.1 hcut
  rw [jsonFieldString, hrest, Option.bind_eq_bind, Option.bind_some, hend, ← htake]
  rfl

/-- A number is read up to the comma or brace behind it. -/
theorem jsonFieldNumber_of_lookup {ms : List (JsonKey × Json)} (hflat : Flat ms) (key : JsonKey)
    {number : Str} {hnumber : ∀ c ∈ number, isNumberChar c}
    (h : lookup key ms = some (.word (numberWord number hnumber))) :
    jsonFieldNumber (object ms).render key.1 = some number := by
  obtain ⟨post, hfound⟩ := after?_lookup hflat h
  have hrest : after? (fieldPattern key.1 []) (object ms).render =
      some (number ++ (membersTail post ++ ['}'])) := by
    refine hfound [] _ ?_
    rw [render_word]
    rfl
  have hword : ∀ c ∈ number, decide (c ≠ ',' ∧ c ≠ '}') := by
    intro c hc
    have hc := hnumber c hc
    rw [decide_eq_true_eq]
    constructor <;>
    · rintro rfl
      exact absurd hc (by decide)
  have hstop : (membersTail post ++ ['}']).takeWhile (fun c => c ≠ ',' ∧ c ≠ '}') = [] := by
    cases post with
    | nil => rfl
    | cons m post => rfl
  rw [jsonFieldNumber, hrest, Option.bind_eq_bind, Option.bind_some,
    List.takeWhile_append_of_pos hword, hstop, List.append_nil,
    trim_eq_self fun c hc => isWhitespace_of_isNumberChar (hnumber c hc)]

theorem stringField_of_lookup {ms : List (JsonKey × Json)} (hflat : Flat ms) (key : JsonKey)
    {value : Str} (h : lookup key ms = some (.text (jsonBody value))) :
    stringField (object ms).render key.1 = asRead value := by
  rw [stringField, jsonFieldString_of_lookup hflat key h]
  rfl

theorem jsonFieldI32_of_lookup {ms : List (JsonKey × Json)} (hflat : Flat ms) (key : JsonKey)
    {value : ℤ} (hvalue : IsI32 value) (h : lookup key ms = some (i32Member key value).2) :
    jsonFieldI32 (object ms).render key.1 = some value := by
  rw [jsonFieldI32, jsonFieldNumber_of_lookup hflat key h]
  exact parseSigned_i32Text hvalue

theorem jsonFieldU32_of_lookup {ms : List (JsonKey × Json)} (hflat : Flat ms) (key : JsonKey)
    {value : ℕ} (hvalue : value ≤ u32Max) (h : lookup key ms = some (u32Member key value).2) :
    jsonFieldU32 (object ms).render key.1 = some value := by
  rw [jsonFieldU32, jsonFieldNumber_of_lookup hflat key h]
  exact parseUnsigned_u32Text hvalue hvalue

/-- An unsigned number is read as a signed one, when it is not too large. -/
theorem jsonFieldI32_of_lookup_u32 {ms : List (JsonKey × Json)} (hflat : Flat ms) (key : JsonKey)
    {value : ℕ} (hvalue : IsI32 value) (h : lookup key ms = some (u32Member key value).2) :
    jsonFieldI32 (object ms).render key.1 = some value := by
  refine jsonFieldI32_of_lookup hflat key hvalue ?_
  rw [h]
  rfl

/-! ## Announcements -/

theorem flat_discoveryMembers (s : FirmwareState) (uptimeMs freeHeapBytes : ℕ) :
    Flat (discoveryMembers s uptimeMs freeHeapBytes) := flat_of_all rfl

/-- The peer a node announces, as its texts are read. -/
def peerAsRead (s : FirmwareState) (uptimeMs freeHeapBytes seenMs : ℕ) : UdpDiscoveryPeerState :=
  { nodeId := asRead s.nodeId
    friendlyName := asRead s.friendlyName
    roomId := asRead s.roomId
    sensorRole := asRead s.sensorRole
    firmwareVersion := rustFirmwareVersion
    buildTarget := rustBuildTarget
    hostname := s.deviceHostname
    ipAddress := asRead s.ipAddress
    wifiRssiDbm := s.wifiRssiDbm
    wifiChannel := s.wifiChannel
    uptimeS := uptimeMs / 1000
    freeHeapBytes
    lastSeenMs := seenMs }

section Announcement

variable {A : FirmwareState} {uptimeMs freeHeapBytes : ℕ}

theorem announcedPeer_eq (hrssi : IsI32 A.wifiRssiDbm) (huptime : uptimeMs ≤ u32Max)
    (hheap : freeHeapBytes ≤ u32Max) (seenMs : ℕ) :
    announcedPeer (object (discoveryMembers A uptimeMs freeHeapBytes)).render (asRead A.nodeId)
      seenMs = peerAsRead A uptimeMs freeHeapBytes seenMs := by
  set payload := (object (discoveryMembers A uptimeMs freeHeapBytes)).render
  have hflat := flat_discoveryMembers A uptimeMs freeHeapBytes
  have hname : stringField payload "friendly_name" = asRead A.friendlyName :=
    stringField_of_lookup hflat ⟨"friendly_name", by decide⟩ rfl
  have hroom : stringField payload "room_id" = asRead A.roomId :=
    stringField_of_lookup hflat ⟨"room_id", by decide⟩ rfl
  have hrole : stringField payload "sensor_role" = asRead A.sensorRole :=
    stringField_of_lookup hflat ⟨"sensor_role", by decide⟩ rfl
  have hversion : stringField payload "firmware_version" = rustFirmwareVersion :=
    stringField_of_lookup hflat ⟨"firmware_version", by decide⟩ rfl
  have htarget : stringField payload "build_target" = rustBuildTarget :=
    stringField_of_lookup hflat ⟨"build_target", by decide⟩ rfl
  have hhost : stringField payload "hostname" = A.deviceHostname :=
    (stringField_of_lookup hflat ⟨"hostname", by decide⟩ rfl).trans
      ((asRead_eq_self_iff _).2 (legible_deviceHostname A))
  have haddress : stringField payload "ip_address" = asRead A.ipAddress :=
    stringField_of_lookup hflat ⟨"ip_address", by decide⟩ rfl
  have hdbm : jsonFieldI32 payload "wifi_rssi_dbm" = some A.wifiRssiDbm :=
    jsonFieldI32_of_lookup hflat ⟨"wifi_rssi_dbm", by decide⟩ hrssi rfl
  have hchannel : jsonFieldI32 payload "wifi_channel" = some (A.wifiChannel.toNat : ℤ) := by
    have hbyte := A.wifiChannel.toNat_lt
    refine jsonFieldI32_of_lookup_u32 hflat ⟨"wifi_channel", by decide⟩ ?_ rfl
    rw [IsI32]
    omega
  have huptimeS : jsonFieldU32 payload "uptime_s" = some (uptimeMs / 1000) :=
    jsonFieldU32_of_lookup hflat ⟨"uptime_s", by decide⟩
      ((Nat.div_le_self _ _).trans huptime) rfl
  have hfree : jsonFieldU32 payload "free_heap_bytes" = some freeHeapBytes :=
    jsonFieldU32_of_lookup hflat ⟨"free_heap_bytes", by decide⟩ hheap rfl
  simp only [announcedPeer, peerAsRead, hname, hroom, hrole, hversion, htarget, hhost, haddress,
    hdbm, hchannel, huptimeS, hfree, Option.getD_some, Int.toNat_natCast, UInt8.ofNat_toNat]

/-- The announcement reaches the nodes whose identifier is not the one they read. -/
theorem discoverySender_announcement (B : FirmwareState) :
    B.discoverySender (object (discoveryMembers A uptimeMs freeHeapBytes)).render =
      if asRead A.nodeId ≠ [] ∧ asRead A.nodeId ≠ B.nodeId then some (asRead A.nodeId) else none := by
  have hflat := flat_discoveryMembers A uptimeMs freeHeapBytes
  have hkind : jsonFieldString (object (discoveryMembers A uptimeMs freeHeapBytes)).render "kind" =
      some ("lb_udp_discovery" : Str) :=
    jsonFieldString_of_lookup hflat ⟨"kind", by decide⟩ rfl
  have hnode : jsonFieldString (object (discoveryMembers A uptimeMs freeHeapBytes)).render
      "node_id" = some (asRead A.nodeId) :=
    jsonFieldString_of_lookup hflat ⟨"node_id", by decide⟩ rfl
  rw [FirmwareState.discoverySender, if_neg (not_not.2 hkind), FirmwareState.otherNode, hnode]
  simp [Option.filter]

/-- A peer's entry shows what the node has announced. -/
structure AnnouncedBy (A : FirmwareState) (uptimeMs freeHeapBytes : ℕ)
    (peer : UdpDiscoveryPeerState) : Prop where
  nodeId : peer.nodeId = A.nodeId
  friendlyName : peer.friendlyName = A.friendlyName
  roomId : peer.roomId = A.roomId
  sensorRole : peer.sensorRole = A.sensorRole
  firmwareVersion : peer.firmwareVersion = rustFirmwareVersion
  buildTarget : peer.buildTarget = rustBuildTarget
  hostname : peer.hostname = A.deviceHostname
  ipAddress : peer.ipAddress = A.ipAddress
  wifiRssiDbm : peer.wifiRssiDbm = A.wifiRssiDbm
  wifiChannel : peer.wifiChannel = A.wifiChannel
  uptimeS : peer.uptimeS = uptimeMs / 1000
  freeHeapBytes : peer.freeHeapBytes = freeHeapBytes

/-- The texts of an announcement are read as they were written. -/
structure AnnouncementLegible (A : FirmwareState) : Prop where
  nodeId : Legible A.nodeId
  friendlyName : Legible A.friendlyName
  roomId : Legible A.roomId
  sensorRole : Legible A.sensorRole
  ipAddress : Legible A.ipAddress

theorem announcedBy_peerAsRead_iff (seenMs : ℕ) :
    AnnouncedBy A uptimeMs freeHeapBytes (peerAsRead A uptimeMs freeHeapBytes seenMs) ↔
      AnnouncementLegible A := by
  constructor
  · intro h
    exact ⟨(asRead_eq_self_iff _).1 h.nodeId, (asRead_eq_self_iff _).1 h.friendlyName,
      (asRead_eq_self_iff _).1 h.roomId, (asRead_eq_self_iff _).1 h.sensorRole,
      (asRead_eq_self_iff _).1 h.ipAddress⟩
  · intro h
    exact ⟨(asRead_eq_self_iff _).2 h.nodeId, (asRead_eq_self_iff _).2 h.friendlyName,
      (asRead_eq_self_iff _).2 h.roomId, (asRead_eq_self_iff _).2 h.sensorRole, rfl, rfl, rfl,
      (asRead_eq_self_iff _).2 h.ipAddress, rfl, rfl, rfl, rfl⟩

theorem AnnouncedBy.announce {peer existing : UdpDiscoveryPeerState}
    (h : AnnouncedBy A uptimeMs freeHeapBytes peer) (hid : existing.nodeId = peer.nodeId) :
    AnnouncedBy A uptimeMs freeHeapBytes (existing.announce peer) :=
  ⟨hid.trans h.nodeId, h.friendlyName, h.roomId, h.sensorRole, h.firmwareVersion, h.buildTarget,
    h.hostname, h.ipAddress, h.wifiRssiDbm, h.wifiChannel, h.uptimeS, h.freeHeapBytes⟩

/-- What every other node makes of an announcement. -/
def AnnouncementArrives (A : FirmwareState) (uptimeMs freeHeapBytes : ℕ) (payload : Str) : Prop :=
  ∀ B : FirmwareState, B.nodeId ≠ A.nodeId → ∀ seenMs,
    ∃ peer ∈ (B.syncUdpDiscoveryPeer payload seenMs).udpDiscoveryPeers,
      AnnouncedBy A uptimeMs freeHeapBytes peer

theorem announcementArrives_iff (hrssi : IsI32 A.wifiRssiDbm) (huptime : uptimeMs ≤ u32Max)
    (hheap : freeHeapBytes ≤ u32Max) :
    AnnouncementArrives A uptimeMs freeHeapBytes
        (object (discoveryMembers A uptimeMs freeHeapBytes)).render ↔
      A.nodeId ≠ [] ∧ AnnouncementLegible A := by
  have hpeer := announcedPeer_eq hrssi huptime hheap
  constructor
  · intro h
    -- a node that knows no peers shows what it has read
    obtain ⟨peer, hmem, hannounced⟩ := h { nodeId := 'x' :: A.nodeId } (List.cons_ne_self _ _) 0
    rw [FirmwareState.syncUdpDiscoveryPeer, discoverySender_announcement] at hmem
    split_ifs at hmem with hsender
    · dsimp only at hmem
      rw [hpeer] at hmem
      have hmem := (List.mem_filter.1 hmem).1
      obtain rfl : peer = peerAsRead A uptimeMs freeHeapBytes 0 := List.mem_singleton.1 hmem
      have hlegible := (announcedBy_peerAsRead_iff 0).1 hannounced
      rw [(asRead_eq_self_iff _).2 hlegible.nodeId] at hsender
      exact ⟨hsender.1, hlegible⟩
    · exact absurd hmem List.not_mem_nil
  · rintro ⟨hne, hlegible⟩ B hB seenMs
    have hread := (asRead_eq_self_iff _).2 hlegible.nodeId
    have hannounced : AnnouncedBy A uptimeMs freeHeapBytes
        (peerAsRead A uptimeMs freeHeapBytes seenMs) :=
      (announcedBy_peerAsRead_iff seenMs).2 hlegible
    have hsender : asRead A.nodeId ≠ [] ∧ asRead A.nodeId ≠ B.nodeId := by
      rw [hread]
      exact ⟨hne, hB.symm⟩
    rw [FirmwareState.syncUdpDiscoveryPeer, discoverySender_announcement, if_pos hsender]
    dsimp only
    rw [hpeer]
    set fresh := peerAsRead A uptimeMs freeHeapBytes seenMs
    rcases exists_mem_upsertPeer (asRead A.nodeId) (·.announce fresh) fresh B.udpDiscoveryPeers with
      ⟨existing, _, hid, hmem⟩ | hmem
    · refine ⟨existing.announce fresh, List.mem_filter.2 ⟨hmem, ?_⟩, hannounced.announce hid⟩
      exact decide_eq_true (UdpDiscoveryPeerState.fresh_of_lastSeenMs rfl)
    · refine ⟨fresh, List.mem_filter.2 ⟨hmem, ?_⟩, hannounced⟩
      exact decide_eq_true (UdpDiscoveryPeerState.fresh_of_lastSeenMs rfl)

end Announcement

/-! ## Room summaries -/

theorem flat_summaryMembers (s : FirmwareState) (uptimeMs : ℕ) :
    Flat (summaryMembers s uptimeMs) := flat_of_all rfl

/-- A summary begins with its kind and the node. -/
theorem render_summaryMembers (s : FirmwareState) (uptimeMs : ℕ) :
    ∃ rest, (object (summaryMembers s uptimeMs)).render =
      ("\x7b\"kind\":\"lb_room_summary\",\"node_id\":\"" : Str) ++
        (escapeJson s.nodeId ++ '"' :: rest) := by
  simp only [summaryMembers, textMember, jsonBody, render, membersTail, keyText, List.append_assoc,
    List.cons_append, List.nil_append]
  exact ⟨_, rfl⟩

theorem looksLikeRoomSummaryPayload_summary (s : FirmwareState) (uptimeMs : ℕ) :
    looksLikeRoomSummaryPayload (object (summaryMembers s uptimeMs)).render := by
  obtain ⟨rest, hrender⟩ := render_summaryMembers s uptimeMs
  have hkind : jsonStringField (object (summaryMembers s uptimeMs)).render "kind" =
      some ("lb_room_summary" : Str) := by
    rw [hrender]
    exact jsonStringField_of_after? (by decide) rfl
  have hnode : jsonStringField (object (summaryMembers s uptimeMs)).render "node_id" =
      some (escapeJson s.nodeId) := by
    rw [hrender]
    exact jsonStringField_of_after? (closedFrom_escapeJson s.nodeId) rfl
  rw [looksLikeRoomSummaryPayload, hkind, hnode]
  exact decide_eq_true ⟨rfl, rfl⟩

section Summary

variable {A : FirmwareState} {uptimeMs : ℕ}

theorem summarySender_summary (B : FirmwareState) :
    B.summarySender (object (summaryMembers A uptimeMs)).render =
      if asRead A.nodeId ≠ [] ∧ asRead A.nodeId ≠ B.nodeId then some (asRead A.nodeId) else none := by
  have hnode : jsonFieldString (object (summaryMembers A uptimeMs)).render "node_id" =
      some (asRead A.nodeId) :=
    jsonFieldString_of_lookup (flat_summaryMembers A uptimeMs) ⟨"node_id", by decide⟩ rfl
  have hlooks := looksLikeRoomSummaryPayload_summary A uptimeMs
  rw [FirmwareState.summarySender, hlooks, FirmwareState.otherNode, hnode]
  simp [Option.filter]

/-- A peer's entry shows what the node has told of its room. -/
structure SummarizedBy (A : FirmwareState) (peer : UdpDiscoveryPeerState) : Prop where
  nodeId : peer.nodeId = A.nodeId
  roomId : peer.roomId = A.roomId
  sensorRole : peer.sensorRole = A.sensorRole
  firmwareVersion : peer.firmwareVersion = rustFirmwareVersion
  buildTarget : peer.buildTarget = rustBuildTarget
  poseXCm : peer.poseXCm = A.poseXCm
  poseYCm : peer.poseYCm = A.poseYCm
  headingDeg : peer.headingDeg = A.headingDeg
  roomWidthCm : peer.roomWidthCm = A.roomWidthCm
  roomHeightCm : peer.roomHeightCm = A.roomHeightCm

/-- The texts of a summary are read as they were written. -/
structure SummaryLegible (A : FirmwareState) : Prop where
  nodeId : Legible A.nodeId
  roomId : Legible A.roomId
  sensorRole : Legible A.sensorRole

/-- The pose is one of `i32` values. -/
structure PoseI32 (A : FirmwareState) : Prop where
  poseXCm : IsI32 A.poseXCm
  poseYCm : IsI32 A.poseYCm
  headingDeg : IsI32 A.headingDeg

theorem summarizedBy_summarize_iff (hpose : PoseI32 A) (peer : UdpDiscoveryPeerState) (seenMs : ℕ) :
    SummarizedBy A (peer.summarize (object (summaryMembers A uptimeMs)).render seenMs) ↔
      peer.nodeId = A.nodeId ∧ Legible A.roomId ∧ Legible A.sensorRole := by
  set payload := (object (summaryMembers A uptimeMs)).render
  have hflat := flat_summaryMembers A uptimeMs
  have hroom : stringField payload "room_id" = asRead A.roomId :=
    stringField_of_lookup hflat ⟨"room_id", by decide⟩ rfl
  have hrole : stringField payload "sensor_role" = asRead A.sensorRole :=
    stringField_of_lookup hflat ⟨"sensor_role", by decide⟩ rfl
  have hversion : stringField payload "firmware_version" = rustFirmwareVersion :=
    stringField_of_lookup hflat ⟨"firmware_version", by decide⟩ rfl
  have htarget : stringField payload "build_target" = rustBuildTarget :=
    stringField_of_lookup hflat ⟨"build_target", by decide⟩ rfl
  have hx : jsonFieldI32 payload "pose_x_cm" = some A.poseXCm :=
    jsonFieldI32_of_lookup hflat ⟨"pose_x_cm", by decide⟩ hpose.poseXCm rfl
  have hy : jsonFieldI32 payload "pose_y_cm" = some A.poseYCm :=
    jsonFieldI32_of_lookup hflat ⟨"pose_y_cm", by decide⟩ hpose.poseYCm rfl
  have hheading : jsonFieldI32 payload "heading_deg" = some A.headingDeg :=
    jsonFieldI32_of_lookup hflat ⟨"heading_deg", by decide⟩ hpose.headingDeg rfl
  have hu16 (v : UInt16) : v.toNat ≤ u32Max := (Nat.le_of_lt v.toNat_lt).trans (by decide)
  have hwidth : jsonFieldU32 payload "room_width_cm" = some A.roomWidthCm.toNat :=
    jsonFieldU32_of_lookup hflat ⟨"room_width_cm", by decide⟩ (hu16 _) rfl
  have hheight : jsonFieldU32 payload "room_height_cm" = some A.roomHeightCm.toNat :=
    jsonFieldU32_of_lookup hflat ⟨"room_height_cm", by decide⟩ (hu16 _) rfl
  constructor
  · intro h
    exact ⟨h.nodeId, (asRead_eq_self_iff _).1 (hroom.symm.trans h.roomId),
      (asRead_eq_self_iff _).1 (hrole.symm.trans h.sensorRole)⟩
  · rintro ⟨hid, hlegible, hlegible'⟩
    refine ⟨hid, hroom.trans ((asRead_eq_self_iff _).2 hlegible),
      hrole.trans ((asRead_eq_self_iff _).2 hlegible'), hversion, htarget, ?_, ?_, ?_, ?_, ?_⟩
    · simp only [UdpDiscoveryPeerState.summarize, hx, Option.getD_some]
    · simp only [UdpDiscoveryPeerState.summarize, hy, Option.getD_some]
    · simp only [UdpDiscoveryPeerState.summarize, hheading, Option.getD_some]
    · simp only [UdpDiscoveryPeerState.summarize, hwidth, Option.getD_some, UInt16.ofNat_toNat]
    · simp only [UdpDiscoveryPeerState.summarize, hheight, Option.getD_some, UInt16.ofNat_toNat]

/-- What every other node makes of a summary. -/
def SummaryArrives (A : FirmwareState) (payload : Str) : Prop :=
  ∀ B : FirmwareState, B.nodeId ≠ A.nodeId → ∀ seenMs,
    ∃ peer ∈ (B.syncRoomSummaryPeer payload seenMs).udpDiscoveryPeers, SummarizedBy A peer

theorem summaryArrives_iff (hpose : PoseI32 A) :
    SummaryArrives A (object (summaryMembers A uptimeMs)).render ↔
      A.nodeId ≠ [] ∧ SummaryLegible A := by
  constructor
  · intro h
    obtain ⟨peer, hmem, hsummarized⟩ :=
      h { nodeId := 'x' :: A.nodeId } (List.cons_ne_self _ _) 0
    rw [FirmwareState.syncRoomSummaryPeer, summarySender_summary] at hmem
    split_ifs at hmem with hsender
    · obtain rfl := List.mem_singleton.1 hmem
      obtain ⟨hid, hroom, hrole⟩ := (summarizedBy_summarize_iff hpose _ 0).1 hsummarized
      have hlegible : Legible A.nodeId := (asRead_eq_self_iff _).1 hid
      rw [(asRead_eq_self_iff _).2 hlegible] at hsender
      exact ⟨hsender.1, hlegible, hroom, hrole⟩
    · exact absurd hmem List.not_mem_nil
  · rintro ⟨hne, hlegible⟩ B hB seenMs
    have hread := (asRead_eq_self_iff _).2 hlegible.nodeId
    have hsender : asRead A.nodeId ≠ [] ∧ asRead A.nodeId ≠ B.nodeId := by
      rw [hread]
      exact ⟨hne, hB.symm⟩
    rw [FirmwareState.syncRoomSummaryPeer, summarySender_summary, if_pos hsender]
    dsimp only
    set payload := (object (summaryMembers A uptimeMs)).render
    set blank : UdpDiscoveryPeerState := { nodeId := asRead A.nodeId, lastSeenMs := seenMs }
    rcases exists_mem_upsertPeer (asRead A.nodeId) (·.summarize payload seenMs)
      (blank.summarize payload seenMs) B.udpDiscoveryPeers with ⟨existing, _, hid, hmem⟩ | hmem
    · exact ⟨_, hmem, (summarizedBy_summarize_iff hpose existing seenMs).2
        ⟨hid.trans hread, hlegible.roomId, hlegible.sensorRole⟩⟩
    · exact ⟨_, hmem, (summarizedBy_summarize_iff hpose blank seenMs).2
        ⟨hread, hlegible.roomId, hlegible.sensorRole⟩⟩

end Summary

/-! ## Both -/

/-- The announcement of a node arrives at every other node as it was meant exactly if
the node has an identifier and its texts need no escapes; its room summary likewise. -/
theorem announce_roundTrip_iff {A : FirmwareState} {uptimeMs freeHeapBytes : ℕ}
    (hrssi : IsI32 A.wifiRssiDbm) (hpose : PoseI32 A) (huptime : uptimeMs ≤ u32Max)
    (hheap : freeHeapBytes ≤ u32Max) :
    (∀ payload, buildUdpDiscoveryPayload A uptimeMs freeHeapBytes = some payload →
      (AnnouncementArrives A uptimeMs freeHeapBytes payload.items ↔
        A.nodeId ≠ [] ∧ AnnouncementLegible A)) ∧
    ∀ payload, buildRoomSummaryPayload A uptimeMs = some payload →
      (SummaryArrives A payload.items ↔ A.nodeId ≠ [] ∧ SummaryLegible A) := by
  constructor
  · intro payload hbuilt
    rw [items_of_buildUdpDiscoveryPayload hbuilt]
    exact announcementArrives_iff hrssi huptime hheap
  · intro payload hbuilt
    rw [items_of_buildRoomSummaryPayload hbuilt]
    exact summaryArrives_iff hpose

/-- A node with a plain name. -/
def denNode : FirmwareState :=
  { nodeId := "den", friendlyName := "Den", roomId := "attic", wifiConnected := true
    wifiRssiDbm := -61, wifiChannel := 6, ipAddress := "10.0.0.7" }

theorem denNode_arrives : ∃ payload, buildUdpDiscoveryPayload denNode 5000 200000 = some payload ∧
    AnnouncementArrives denNode 5000 200000 payload.items := by
  have hbuilt : (buildUdpDiscoveryPayload denNode 5000 200000).isSome :=
    (isSome_buildUdpDiscoveryPayload_iff denNode 5000 200000).2 (by decide +kernel)
  obtain ⟨payload, hpayload⟩ := Option.isSome_iff_exists.1 hbuilt
  have hround := announce_roundTrip_iff (A := denNode) ⟨by decide, by decide⟩
    ⟨⟨by decide, by decide⟩, ⟨by decide, by decide⟩, ⟨by decide, by decide⟩⟩
    (show 5000 ≤ u32Max by decide) (show 200000 ≤ u32Max by decide)
  refine ⟨payload, hpayload, (hround.1 payload hpayload).2 ⟨by decide, ?_⟩⟩
  exact ⟨by decide +kernel, by decide +kernel, by decide +kernel, by decide +kernel,
    by decide +kernel⟩

/-- The same node with a name in quotes. -/
def quotedNode : FirmwareState := { denNode with friendlyName := "The \"Den\"" }

theorem quotedNode_garbled :
    ¬ ∀ (A : FirmwareState) (payload : HString 384),
      buildUdpDiscoveryPayload A 5000 200000 = some payload →
        AnnouncementArrives A 5000 200000 payload.items := by
  intro hall
  have hbuilt : (buildUdpDiscoveryPayload quotedNode 5000 200000).isSome :=
    (isSome_buildUdpDiscoveryPayload_iff quotedNode 5000 200000).2 (by decide +kernel)
  obtain ⟨payload, hpayload⟩ := Option.isSome_iff_exists.1 hbuilt
  have harrives := hall quotedNode payload hpayload
  rw [items_of_buildUdpDiscoveryPayload hpayload,
    announcementArrives_iff ⟨by decide, by decide⟩ (by decide) (by decide)] at harrives
  exact absurd harrives.2.friendlyName (by decide +kernel)

end EspWaveRider.Firmware
