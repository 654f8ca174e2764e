import EspWaveRider.CommandFields
import EspWaveRider.Cpp.PeerAdmission
import EspWaveRider.Firmware.Peers
import EspWaveRider.Lib.NumberFields

/-!
# The numbers of a peer

Announcements and room summaries carry integers, which `sync_udp_discovery_peer` and
`sync_room_summary_peer` of `rust/firmware/esp32s3/src/main.rs` and `handleRoomSummaryMessage` of
`src/main.cpp` store in types of 8, 16 and 32 bits.

* `announcementNumbers`, `summaryNumbers`, `roomSummaryNumbers` — the fields;
* `jsonFieldNumber_of_carries`, `jsonFieldInt_of_carries` — how each program reads one;
* `peerNumbers_stored` — what is stored of those that are not cut.
-/

namespace EspWaveRider.PeerNumbers

open Text NumberFields Firmware

/-! ## Reading -/

theorem isCSpace_of_isSpace {s : Str} (h : JsonGrammar.IsSpace s) {c : Char} (hc : c ∈ s) :
    Cpp.isCSpace c = true := by
  rcases h c hc with rfl | rfl | rfl | rfl <;> rfl

theorem jsonFieldNumber_of_carries {payload name : Str} {n : ℤ} (h : Carries payload name n) :
    ∃ text, DecimalText text n ∧ jsonFieldNumber payload name = some text := by
  obtain ⟨before, text, after, rest, htext, hbefore, hafter, hrest, hfound⟩ := h
  refine ⟨text, htext, ?_⟩
  have hend : rest.takeWhile (fun c => decide (c ≠ ',' ∧ c ≠ '}')) = [] := by
    cases rest with
    | nil => rfl
    | cons c rest => rcases hrest c rfl with rfl | rfl <;> rfl
  have hpattern : fieldPattern name [] = '"' :: (name ++ ['"', ':']) := rfl
  rw [jsonFieldNumber, hpattern, hfound, Option.bind_eq_bind, Option.bind_some,
    takeWhile_between (fun c hcomma hbrace => by simp [hcomma, hbrace]) htext hbefore hafter, hend,
    List.append_nil, trim_between htext hbefore hafter]

theorem jsonFieldI32_of_carries {payload name : Str} {n : ℤ} (h : Carries payload name n) :
    jsonFieldI32 payload name =
      if -2147483648 ≤ n ∧ n ≤ 2147483647 then some n else none := by
  obtain ⟨text, htext, hfound⟩ := jsonFieldNumber_of_carries h
  rw [jsonFieldI32, hfound, Option.bind_some, parseSigned_of_decimalText htext]

theorem jsonFieldU32_of_carries {payload name : Str} {n : ℤ} (h : Carries payload name n) :
    jsonFieldU32 payload name =
      if 0 ≤ n ∧ n ≤ 4294967295 then some n.toNat else none := by
  obtain ⟨text, htext, hfound⟩ := jsonFieldNumber_of_carries h
  rw [jsonFieldU32, hfound, Option.bind_some, parseUnsigned_of_decimalText htext]
  rfl

/-- `atol` stops at the first character that is no digit. -/
theorem magnitude_append {digits more : Str} {m : ℕ} (h : parseDigits digits = some m)
    (hmore : ∀ c ∈ more.head?, isAsciiDigit c = false) :
    Cpp.magnitude (digits ++ more) = m := by
  have hstop : more.takeWhile isAsciiDigit = [] := by
    cases more with
    | nil => rfl
    | cons c more => exact List.takeWhile_cons_of_neg (by simp [hmore c rfl])
  have hdigits : (digits ++ more).takeWhile isAsciiDigit = digits.takeWhile isAsciiDigit := by
    rw [List.takeWhile_append_of_pos (forall_of_parseDigits h), hstop, List.append_nil,
      List.takeWhile_eq_self_iff.2 (forall_of_parseDigits h)]
  rw [Cpp.magnitude, hdigits, ← Cpp.magnitude_of_parseDigits h, Cpp.magnitude]

theorem toInt_of_decimalText {before text more : Str} {n : ℤ} (htext : DecimalText text n)
    (hbefore : JsonGrammar.IsSpace before) (hmore : ∀ c ∈ more.head?, isAsciiDigit c = false) :
    Cpp.toInt (before ++ (text ++ more)) = max (-2147483648) (min n 2147483647) := by
  have hskip : Cpp.toInt (before ++ (text ++ more)) = Cpp.toInt (text ++ more) := by
    rw [Cpp.toInt, Cpp.toInt,
      List.dropWhile_append_of_pos fun c hc => isCSpace_of_isSpace hbefore hc]
  rw [hskip]
  cases htext with
  | nonneg hdigits =>
    cases text with
    | nil => cases hdigits
    | cons c digits =>
      have hc := forall_of_parseDigits hdigits c (List.mem_cons_self ..)
      rw [← magnitude_append hdigits hmore]
      exact Cpp.toInt_of_isAsciiDigit hc (digits ++ more)
  | neg hdigits _ =>
    rw [← magnitude_append hdigits hmore]
    exact Cpp.toInt_minus _

theorem jsonFieldString_of_unquoted {json name value : Str}
    (hfound : after? ('"' :: (name ++ ['"', ':'])) json = some value)
    (hquote : value.head? ≠ some '"') :
    Cpp.jsonFieldString json name =
      if ',' ∈ value then value.takeWhile (· ≠ ',') else value.takeWhile (· ≠ '}') := by
  rw [Cpp.jsonFieldString, hfound]
  cases value with
  | nil => rfl
  | cons c value =>
    have hc : c ≠ '"' := fun heq => hquote (congrArg some heq)
    split
    · cases ‹some (c :: value) = none›
    · exact absurd (List.cons.inj (Option.some.inj ‹_›)).1 hc
    · rename_i heq
      rw [← Option.some.inj heq]

/-- The text of a field up to its end, or up to a brace when a comma stands behind that. -/
theorem exists_jsonFieldString_of_carries {payload name : Str} {n : ℤ}
    (h : Carries payload name n) :
    ∃ before text more, DecimalText text n ∧ JsonGrammar.IsSpace before ∧
      (∀ c ∈ more.head?, isAsciiDigit c = false) ∧
      Cpp.jsonFieldString payload name = before ++ (text ++ more) := by
  obtain ⟨before, text, after, rest, htext, hbefore, hafter, hrest, hfound⟩ := h
  have hmore (q : Char → Bool) : ∀ c ∈ (after ++ rest.takeWhile q).head?, isAsciiDigit c = false := by
    intro c hc
    cases after with
    | nil =>
      cases rest with
      | nil => cases hc
      | cons d rest =>
        rw [List.nil_append, List.takeWhile_cons] at hc
        split at hc
        · cases hc
          rcases hrest c rfl with rfl | rfl <;> rfl
        · cases hc
    | cons d after =>
      cases hc
      rcases hafter c (List.mem_cons_self ..) with rfl | rfl | rfl | rfl <;> rfl
  have hquote : (before ++ (text ++ (after ++ rest))).head? ≠ some '"' := by
    cases before with
    | nil =>
      obtain ⟨c, text, rfl⟩ := List.exists_cons_of_ne_nil (decimalText_ne_nil htext)
      have hc := isNumberChar_of_decimalText htext (List.mem_cons_self ..)
      exact fun hquote => ne_of_isNumberChar hc rfl (Option.some.inj hquote)
    | cons c before =>
      intro hquote
      cases hquote
      rcases hbefore '"' (List.mem_cons_self ..) with h | h | h | h <;> cases h
  rw [jsonFieldString_of_unquoted hfound hquote]
  split
  · rw [takeWhile_between (fun c hcomma _ => by simpa using hcomma) htext hbefore hafter]
    exact ⟨before, text, _, htext, hbefore, hmore _, rfl⟩
  · rw [takeWhile_between (fun c _ hbrace => by simpa using hbrace) htext hbefore hafter]
    exact ⟨before, text, _, htext, hbefore, hmore _, rfl⟩

theorem jsonFieldInt_of_carries {payload name : Str} {n : ℤ} (h : Carries payload name n)
    (fallbackValue : ℤ) :
    Cpp.jsonFieldInt payload name fallbackValue = max (-2147483648) (min n 2147483647) := by
  obtain ⟨before, text, more, htext, hbefore, hmore, hstring⟩ := exists_jsonFieldString_of_carries h
  obtain ⟨c, hc⟩ := List.exists_mem_of_ne_nil text (decimalText_ne_nil htext)
  have hmem : c ∈ before ++ (text ++ more) :=
    List.mem_append_right _ (List.mem_append_left _ hc)
  have hnumber := isNumberChar_of_decimalText htext hc
  rw [Cpp.jsonFieldInt, hstring, if_neg, toInt_of_decimalText htext hbefore hmore]
  rintro (hnil | hnull)
  · rw [hnil] at hmem
    cases hmem
  · rw [hnull] at hmem
    have hletter : (("null" : Str).all fun d => !isNumberChar d) = true := by decide
    have hnot := List.all_eq_true.1 hletter c hmem
    rw [hnumber] at hnot
    cases hnot

/-! ## Storing -/

section Storing

variable {payload name : Str} {n : ℤ} (h : Carries payload name n)

include h

theorem storedWithin_i32 (fallback : ℤ) : StoredWithin (-2147483648) 2147483647 fallback n
    ((jsonFieldI32 payload name).getD fallback) := by
  rw [jsonFieldI32_of_carries h]
  split_ifs <;> constructor <;> simp <;> omega

theorem storedWithin_u32 (fallback : ℕ) : StoredWithin 0 4294967295 fallback n
    ((jsonFieldU32 payload name).getD fallback) := by
  rw [jsonFieldU32_of_carries h]
  split_ifs <;> constructor <;> simp <;> omega

/-- `max(0) as u8` -/
theorem storedWithin_i32_as_u8 (hcut : ¬(255 < n ∧ n ≤ 2147483647)) : StoredWithin 0 255 0 n
    (UInt8.ofNat ((jsonFieldI32 payload name).getD 0).toNat).toNat := by
  rw [jsonFieldI32_of_carries h]
  split_ifs <;> constructor <;> simp <;> omega

/-- `as u16` -/
theorem storedWithin_u32_as_u16 {fallback : ℕ} (hfallback : fallback < 65536)
    (hcut : ¬(65535 < n ∧ n ≤ 4294967295)) : StoredWithin 0 65535 fallback n
    (UInt16.ofNat ((jsonFieldU32 payload name).getD fallback)).toNat := by
  rw [jsonFieldU32_of_carries h]
  split_ifs <;> constructor <;> simp <;> omega

theorem storedWithin_int (fallback : ℤ) : StoredWithin (-2147483648) 2147483647 fallback n
    (Cpp.jsonFieldInt payload name fallback) := by
  rw [jsonFieldInt_of_carries h]
  constructor <;> omega

theorem storedWithin_uint8 (hcut : ¬255 < n) : StoredWithin 0 255 0 n
    (UInt8.ofNat (Cpp.jsonFieldInt payload name 0).toNat).toNat := by
  rw [jsonFieldInt_of_carries h]
  constructor <;> simp <;> omega

theorem storedWithin_int16 (fallback : ℤ) (hcut : ¬(n < -32768 ∨ 32767 < n)) :
    StoredWithin (-32768) 32767 fallback n
      (Int16.ofInt (Cpp.jsonFieldInt payload name fallback)).toInt := by
  have hlong : max (-2147483648) (min n 2147483647) = n := by omega
  rw [jsonFieldInt_of_carries h, hlong, Int16.toInt_ofInt_of_le (by omega) (by omega)]
  constructor <;> omega

/-- A room is at least a metre wide. -/
theorem storedWithin_uint16 (fallback : ℤ) (hcut : ¬65535 < n) : StoredWithin 100 65535 fallback n
    (UInt16.ofNat (max 100 (Cpp.jsonFieldInt payload name fallback)).toNat).toNat := by
  rw [jsonFieldInt_of_carries h]
  constructor <;> simp <;> omega

end Storing

/-! ## The fields -/

def announcementNumbers : List (NumberField UdpDiscoveryPeerState) :=
  [{ name := "wifi_rssi_dbm", low := -2147483648, high := 2147483647, fallback := 0
     stored := fun peer => peer.wifiRssiDbm },
   { name := "wifi_channel", low := 0, high := 255, fallback := 0
     Cut := fun n => 255 < n ∧ n ≤ 2147483647
     stored := fun peer => peer.wifiChannel.toNat },
   { name := "uptime_s", low := 0, high := 4294967295, fallback := 0
     stored := fun peer => peer.uptimeS },
   { name := "free_heap_bytes", low := 0, high := 4294967295, fallback := 0
     stored := fun peer => peer.freeHeapBytes }]

def summaryNumbers : List (NumberField UdpDiscoveryPeerState) :=
  [{ name := "pose_x_cm", low := -2147483648, high := 2147483647, fallback := 0
     stored := fun peer => peer.poseXCm },
   { name := "pose_y_cm", low := -2147483648, high := 2147483647, fallback := 0
     stored := fun peer => peer.poseYCm },
   { name := "heading_deg", low := -2147483648, high := 2147483647, fallback := -90
     stored := fun peer => peer.headingDeg },
   { name := "room_width_cm", low := 0, high := 65535, fallback := 600
     Cut := fun n => 65535 < n ∧ n ≤ 4294967295
     stored := fun peer => peer.roomWidthCm.toNat },
   { name := "room_height_cm", low := 0, high := 65535, fallback := 400
     Cut := fun n => 65535 < n ∧ n ≤ 4294967295
     stored := fun peer => peer.roomHeightCm.toNat }]

def roomSummaryNumbers : List (NumberField Cpp.RoomPeerSummary) :=
  [{ name := "people_estimate", low := 0, high := 255, fallback := 0, Cut := fun n => 255 < n
     stored := fun peer => peer.peopleEstimate.toNat },
   { name := "active_gate_count", low := 0, high := 255, fallback := 0, Cut := fun n => 255 < n
     stored := fun peer => peer.activeGateCount.toNat },
   { name := "dominant_gate_distance_cm", low := -2147483648, high := 2147483647, fallback := -1
     stored := fun peer => peer.dominantGateDistanceCm },
   { name := "activity_score", low := 0, high := 255, fallback := 0, Cut := fun n => 255 < n
     stored := fun peer => peer.activityScore.toNat },
   { name := "pose_x_cm", low := -32768, high := 32767, fallback := 0
     Cut := fun n => n < -32768 ∨ 32767 < n
     stored := fun peer => peer.poseXCm.toInt },
   { name := "pose_y_cm", low := -32768, high := 32767, fallback := 0
     Cut := fun n => n < -32768 ∨ 32767 < n
     stored := fun peer => peer.poseYCm.toInt },
   { name := "heading_deg", low := -32768, high := 32767, fallback := -90
     Cut := fun n => n < -32768 ∨ 32767 < n
     stored := fun peer => peer.headingDeg.toInt },
   { name := "room_width_cm", low := 100, high := 65535, fallback := 600
     Cut := fun n => 65535 < n
     stored := fun peer => peer.roomWidthCm.toNat },
   { name := "room_height_cm", low := 100, high := 65535, fallback := 400
     Cut := fun n => 65535 < n
     stored := fun peer => peer.roomHeightCm.toNat }]

theorem storesAll_announcedPeer (payload nodeId : Str) (uptimeMs : ℕ) :
    StoresAll announcementNumbers payload (announcedPeer payload nodeId uptimeMs) := by
  simp only [StoresAll, announcementNumbers, List.forall_mem_cons, List.not_mem_nil, false_implies,
    implies_true, and_true]
  refine ⟨?_, ?_, ?_, ?_⟩
  · exact fun n h _ => storedWithin_i32 h 0
  · exact fun n h hcut => storedWithin_i32_as_u8 h hcut
  · exact fun n h _ => storedWithin_u32 h 0
  · exact fun n h _ => storedWithin_u32 h 0

theorem storesAll_summarize (peer : UdpDiscoveryPeerState) (payload : Str) (uptimeMs : ℕ) :
    StoresAll summaryNumbers payload (peer.summarize payload uptimeMs) := by
  simp only [StoresAll, summaryNumbers, List.forall_mem_cons, List.not_mem_nil, false_implies,
    implies_true, and_true]
  refine ⟨?_, ?_, ?_, ?_, ?_⟩
  · exact fun n h _ => storedWithin_i32 h 0
  · exact fun n h _ => storedWithin_i32 h 0
  · exact fun n h _ => storedWithin_i32 h (-90)
  · exact fun n h hcut => storedWithin_u32_as_u16 h (by decide) hcut
  · exact fun n h hcut => storedWithin_u32_as_u16 h (by decide) hcut

theorem storesAll_of_reports {peer : Cpp.RoomPeerSummary} {peerNodeId payload : Str} {now : UInt32}
    (hreports : peer.Reports peerNodeId payload now) :
    StoresAll roomSummaryNumbers payload peer := by
  simp only [StoresAll, roomSummaryNumbers, List.forall_mem_cons, List.not_mem_nil, false_implies,
    implies_true, and_true, hreports.peopleEstimate, hreports.activeGateCount,
    hreports.dominantGateDistanceCm, hreports.activityScore, hreports.poseXCm, hreports.poseYCm,
    hreports.headingDeg, hreports.roomWidthCm, hreports.roomHeightCm]
  refine ⟨?_, ?_, ?_, ?_, ?_, ?_, ?_, ?_, ?_⟩
  · exact fun n h hcut => storedWithin_uint8 h hcut
  · exact fun n h hcut => storedWithin_uint8 h hcut
  · exact fun n h _ => storedWithin_int h (-1)
  · exact fun n h hcut => storedWithin_uint8 h hcut
  · exact fun n h hcut => storedWithin_int16 h 0 hcut
  · exact fun n h hcut => storedWithin_int16 h 0 hcut
  · exact fun n h hcut => storedWithin_int16 h (-90) hcut
  · exact fun n h hcut => storedWithin_uint16 h 600 hcut
  · exact fun n h hcut => storedWithin_uint16 h 400 hcut

/-! ## The handlers -/

/-- The entry of a node in the table of peers. -/
def peerOf? (s : FirmwareState) (nodeId : Str) : Option UdpDiscoveryPeerState :=
  s.udpDiscoveryPeers.find? fun peer => peer.nodeId = nodeId

theorem storesAll_announce (existing peer : UdpDiscoveryPeerState) {payload : Str}
    (h : StoresAll announcementNumbers payload peer) :
    StoresAll announcementNumbers payload (existing.announce peer) := by
  have hsame : ∀ field ∈ announcementNumbers,
      field.stored (existing.announce peer) = field.stored peer := by
    simp only [announcementNumbers, List.forall_mem_cons, List.not_mem_nil, false_implies,
      implies_true, and_true]
    exact ⟨rfl, rfl, rfl, rfl⟩
  intro field hfield n hcarries hcut
  rw [hsame field hfield]
  exact h field hfield n hcarries hcut

theorem find?_upsertPeer {nodeId : Str} {f : UdpDiscoveryPeerState → UdpDiscoveryPeerState}
    {fresh : UdpDiscoveryPeerState} (hf : ∀ peer, (f peer).nodeId = peer.nodeId)
    (hfresh : fresh.nodeId = nodeId) (peers : List UdpDiscoveryPeerState) :
    (∃ existing ∈ peers, existing.nodeId = nodeId ∧
      (upsertPeer nodeId f fresh peers).find? (fun peer => peer.nodeId = nodeId) =
        some (f existing)) ∨
    (upsertPeer nodeId f fresh peers).find? (fun peer => peer.nodeId = nodeId) = some fresh :=
  KeyedStore.find?_upsert (fun peer hpeer => (hf peer).trans hpeer) hfresh peers

theorem exists_peerOf?_syncUdpDiscoveryPeer {s : FirmwareState} {payload nodeId : Str}
    (h : s.discoverySender payload = some nodeId) (uptimeMs : ℕ) :
    ∃ peer, peerOf? (s.syncUdpDiscoveryPeer payload uptimeMs) nodeId = some peer ∧
      StoresAll announcementNumbers payload peer := by
  have hannounced := storesAll_announcedPeer payload nodeId uptimeMs
  have hfresh {peer : UdpDiscoveryPeerState} (hseen : peer.lastSeenMs = uptimeMs) :
      (decide (peer.Fresh uptimeMs)) = true :=
    decide_eq_true (UdpDiscoveryPeerState.fresh_of_lastSeenMs hseen)
  rw [FirmwareState.syncUdpDiscoveryPeer, h]
  have hnode : (announcedPeer payload nodeId uptimeMs).nodeId = nodeId := rfl
  rcases find?_upsertPeer (f := (·.announce (announcedPeer payload nodeId uptimeMs)))
      (fun _ => rfl) hnode s.udpDiscoveryPeers with ⟨existing, -, -, hfound⟩ | hfound
  · exact ⟨_, KeyedStore.find?_filter_of_find? hfound (hfresh rfl),
      storesAll_announce existing _ hannounced⟩
  · exact ⟨_, KeyedStore.find?_filter_of_find? hfound (hfresh rfl), hannounced⟩

theorem exists_peerOf?_syncRoomSummaryPeer {s : FirmwareState} {payload nodeId : Str}
    (h : s.summarySender payload = some nodeId) (uptimeMs : ℕ) :
    ∃ peer, peerOf? (s.syncRoomSummaryPeer payload uptimeMs) nodeId = some peer ∧
      StoresAll summaryNumbers payload peer := by
  let blank : UdpDiscoveryPeerState := { nodeId, lastSeenMs := uptimeMs }
  have hnode : (blank.summarize payload uptimeMs).nodeId = nodeId := rfl
  rw [FirmwareState.syncRoomSummaryPeer, h]
  rcases find?_upsertPeer (f := (·.summarize payload uptimeMs)) (fun _ => rfl) hnode
      s.udpDiscoveryPeers with ⟨existing, -, -, hfound⟩ | hfound
  · exact ⟨_, hfound, storesAll_summarize existing payload uptimeMs⟩
  · exact ⟨_, hfound, storesAll_summarize blank payload uptimeMs⟩

theorem storesAll_handleRoomSummaryMessage {s : Cpp.NodeState} {topic peerNodeId : Str}
    (h : s.summaryNode topic = some peerNodeId) {slot : Fin Cpp.maxRoomPeers}
    (hslot : Cpp.peerSlot s.roomPeers peerNodeId = some slot) (payload : Str) (distance : ℤ)
    (now : UInt32) :
    StoresAll roomSummaryNumbers payload
      ((s.handleRoomSummaryMessage topic payload distance now).roomPeers slot) := by
  obtain ⟨htopic, hother⟩ := Option.filter_eq_some_iff.1 h
  have hother : peerNodeId ≠ s.runtimeConfig.nodeId := by simpa using hother
  rw [Cpp.NodeState.handleRoomSummaryMessage, htopic]
  dsimp only
  rw [if_neg hother, hslot]
  dsimp only
  rw [Function.update_self]
  exact storesAll_of_reports (Cpp.RoomPeerSummary.reports_summarize _ _ _ _ _ _)

/-- An integer within the range of its field is stored as it is, and another one gives way to a
default or the nearest bound, except for those that are cut to a narrower type. -/
theorem peerNumbers_stored :
    (∀ (s : FirmwareState) (payload nodeId : Str) (uptimeMs : ℕ),
      s.discoverySender payload = some nodeId →
      ∃ peer, peerOf? (s.syncUdpDiscoveryPeer payload uptimeMs) nodeId = some peer ∧
        StoresAll announcementNumbers payload peer) ∧
    (∀ (s : FirmwareState) (payload nodeId : Str) (uptimeMs : ℕ),
      s.summarySender payload = some nodeId →
      ∃ peer, peerOf? (s.syncRoomSummaryPeer payload uptimeMs) nodeId = some peer ∧
        StoresAll summaryNumbers payload peer) ∧
    ∀ (s : Cpp.NodeState) (topic payload peerNodeId : Str) (distance : ℤ) (now : UInt32),
      s.summaryNode topic = some peerNodeId →
      ∀ slot, Cpp.peerSlot s.roomPeers peerNodeId = some slot →
        StoresAll roomSummaryNumbers payload
          ((s.handleRoomSummaryMessage topic payload distance now).roomPeers slot) := by
  refine ⟨?_, ?_, ?_⟩
  · intro s payload nodeId uptimeMs h
    exact exists_peerOf?_syncUdpDiscoveryPeer h uptimeMs
  · intro s payload nodeId uptimeMs h
    exact exists_peerOf?_syncRoomSummaryPeer h uptimeMs
  · intro s topic payload peerNodeId distance now h slot hslot
    exact storesAll_handleRoomSummaryMessage h hslot payload distance now

def crowdedTopic : Str := "lb_mmwave/rooms/room-default/nodes/hall/summary"

def crowdedSummary : Str := "\x7b\"people_estimate\":300,\"room_width_cm\":50\x7d"

/-- What becomes of 300 people in a room of half a metre. -/
def crowdedHall : Cpp.RoomPeerSummary :=
  (({} : Cpp.NodeState).handleRoomSummaryMessage crowdedTopic crowdedSummary (-1) 0).roomPeers
    ⟨0, by decide⟩

theorem crowdedHall_not_stored :
    (Carries crowdedSummary "room_width_cm" 50 ∧
      ¬StoredWithin 0 65535 600 50 crowdedHall.roomWidthCm.toNat) ∧
    (Carries crowdedSummary "people_estimate" 300 ∧
      ¬StoredWithin 0 255 0 300 crowdedHall.peopleEstimate.toNat) := by
  have hwidth : DecimalText "50" 50 := .nonneg (by decide)
  have hpeople : DecimalText "300" 300 := .nonneg (by decide)
  refine ⟨⟨⟨[], _, [], ['}'], hwidth, ?_, ?_, ?_, by decide⟩, by decide +kernel⟩,
    ⟨[], _, [], ',' :: ("\"room_width_cm\":50\x7d" : Str), hpeople, ?_, ?_, ?_, by decide⟩,
    by decide +kernel⟩
  all_goals simp [JsonGrammar.IsSpace]

end EspWaveRider.PeerNumbers
