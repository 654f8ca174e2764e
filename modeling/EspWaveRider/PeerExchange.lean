import EspWaveRider.Cpp.PeerPayload
import EspWaveRider.Firmware.Announce
import EspWaveRider.Firmware.FirmwareSync

/-!
# Messages between the two firmwares

A node with the Rust firmware hears announcements and room summaries of nodes with
either firmware, in any order.

* `PeerMessage` — what honest nodes send;
* `retold_hear` — what a message does to the table of peers;
* `buildTarget_kept` — the table shows the build target a node announced last as
  long as every message that is read as this node's carries it.
-/

namespace EspWaveRider

open Text Mqtt KeyedStore Json Firmware

/-! ## What honest nodes send -/

inductive PeerMessage where
  | rustAnnouncement (A : FirmwareState) (uptimeMs freeHeapBytes : ℕ)
  | rustSummary (A : FirmwareState) (uptimeMs : ℕ)
  | cppAnnouncement (n : Cpp.CppNode)
  | cppSummary (n : Cpp.CppNode)

/-- What the Rust firmware reads of a text the C++ firmware has written. -/
def cppAsRead (value : Str) : Str := (Cpp.jsonEscape value).takeWhile (· ≠ '"')

namespace PeerMessage

/-- The text, if it can be built. -/
def text : PeerMessage → Option Str
  | rustAnnouncement A uptimeMs freeHeapBytes =>
    (buildUdpDiscoveryPayload A uptimeMs freeHeapBytes).map (·.items)
  | rustSummary A uptimeMs => (buildRoomSummaryPayload A uptimeMs).map (·.items)
  | cppAnnouncement n => some (Cpp.announcementText n)
  | cppSummary n => some (Cpp.summaryText n)

/-- Announcements come over UDP, summaries over MQTT. -/
def isAnnouncement : PeerMessage → Bool
  | rustAnnouncement _ _ _ | cppAnnouncement _ => true
  | rustSummary _ _ | cppSummary _ => false

def isRust : PeerMessage → Bool
  | rustAnnouncement _ _ _ | rustSummary _ _ => true
  | cppAnnouncement _ | cppSummary _ => false

def sender : PeerMessage → Str
  | rustAnnouncement A _ _ | rustSummary A _ => A.nodeId
  | cppAnnouncement n | cppSummary n => n.config.nodeId

/-- The build target of the sender, in an announcement. -/
def announcedTarget : PeerMessage → Option Str
  | rustAnnouncement _ _ _ => some rustBuildTarget
  | cppAnnouncement n => some n.firmwareBuildTarget
  | rustSummary _ _ | cppSummary _ => none

/-- The sender as it is read. -/
def readSender : PeerMessage → Str
  | rustAnnouncement A _ _ | rustSummary A _ => asRead A.nodeId
  | cppAnnouncement n | cppSummary n => cppAsRead n.config.nodeId

/-- The build target as it is read; the summary of the C++ firmware has none. -/
def readTarget : PeerMessage → Str
  | rustAnnouncement _ _ _ | rustSummary _ _ => rustBuildTarget
  | cppAnnouncement n => cppAsRead n.firmwareBuildTarget
  | cppSummary _ => []

/-- Rust nodes name the target they were built for, in either message. -/
theorem targets_of_isRust {m : PeerMessage} (h : m.isRust) :
    m.readTarget = rustBuildTarget ∧ ∀ target ∈ m.announcedTarget, target = rustBuildTarget := by
  cases m with
  | rustAnnouncement A uptimeMs freeHeapBytes =>
    refine ⟨rfl, ?_⟩
    rintro target htarget
    exact (Option.mem_some_iff.1 htarget).symm
  | rustSummary A uptimeMs => exact ⟨rfl, fun target htarget => by cases htarget⟩
  | cppAnnouncement n => cases h
  | cppSummary n => cases h

end PeerMessage

/-! ## Reading them -/

/-- What the handlers make of the text of a message. -/
structure ReadsAs (m : PeerMessage) (payload : Str) : Prop where
  node : jsonFieldString payload "node_id" = some m.readSender
  target : stringField payload "build_target" = m.readTarget
  announcement : m.isAnnouncement →
    jsonFieldString payload "kind" = some ("lb_udp_discovery" : Str) ∧
      looksLikeRoomSummaryPayload payload = false
  summary : m.isAnnouncement = false → looksLikeRoomSummaryPayload payload

theorem looksLikeRoomSummaryPayload_of_kind {payload kind : Str}
    (h : jsonStringField payload "kind" = some kind) (hkind : kind ≠ ("lb_room_summary" : Str)) :
    looksLikeRoomSummaryPayload payload = false := by
  rw [looksLikeRoomSummaryPayload_eq_false_iff]
  exact Or.inl ⟨kind, hkind, jsonStringField_eq_some_iff.1 h⟩

/-- An announcement begins with its kind. -/
theorem looksLike_of_announcement {payload rest : Str}
    (h : payload = ("\x7b\"kind\":\"lb_udp_discovery\"" : Str) ++ rest) :
    looksLikeRoomSummaryPayload payload = false := by
  have hkind : jsonStringField payload "kind" = some ("lb_udp_discovery" : Str) := by
    rw [h]
    exact jsonStringField_of_after? (by decide) rfl
  exact looksLikeRoomSummaryPayload_of_kind hkind (by decide)

theorem stringField_of_lookup_text {ms : List (JsonKey × Json)} (hflat : Flat ms) (key : JsonKey)
    {body : JsonBody} (h : lookup key ms = some (.text body)) :
    stringField (object ms).render key.1 = body.1.takeWhile (· ≠ '"') := by
  rw [stringField, jsonFieldString_of_lookup hflat key h]
  rfl

theorem readsAs_rustAnnouncement (A : FirmwareState) (uptimeMs freeHeapBytes : ℕ) :
    ReadsAs (.rustAnnouncement A uptimeMs freeHeapBytes)
      (object (discoveryMembers A uptimeMs freeHeapBytes)).render where
  node := jsonFieldString_of_lookup (flat_discoveryMembers _ _ _) ⟨"node_id", by decide⟩ rfl
  target := stringField_of_lookup (flat_discoveryMembers _ _ _) ⟨"build_target", by decide⟩ rfl
  announcement _ := by
    refine ⟨jsonFieldString_of_lookup (flat_discoveryMembers _ _ _) ⟨"kind", by decide⟩ rfl, ?_⟩
    have hrender : ∃ rest, (object (discoveryMembers A uptimeMs freeHeapBytes)).render =
        ("\x7b\"kind\":\"lb_udp_discovery\"" : Str) ++ rest := by
      rw [discoveryMembers, ← List.append_nil (render _), Firmware.textMember, render_object_append]
      exact ⟨_, rfl⟩
    obtain ⟨rest, hrender⟩ := hrender
    exact looksLike_of_announcement hrender
  summary h := by cases h

theorem readsAs_rustSummary (A : FirmwareState) (uptimeMs : ℕ) :
    ReadsAs (.rustSummary A uptimeMs) (object (Firmware.summaryMembers A uptimeMs)).render where
  node := jsonFieldString_of_lookup (flat_summaryMembers _ _) ⟨"node_id", by decide⟩ rfl
  target := stringField_of_lookup (flat_summaryMembers _ _) ⟨"build_target", by decide⟩ rfl
  announcement h := by cases h
  summary _ := looksLikeRoomSummaryPayload_summary A uptimeMs

theorem readsAs_cppAnnouncement (n : Cpp.CppNode) :
    ReadsAs (.cppAnnouncement n) (Cpp.announcementText n) := by
  have hflat : Flat (Cpp.announcementMembers n) := flat_of_all rfl
  rw [Cpp.announcementText_eq]
  refine ⟨?_, ?_, fun _ => ⟨?_, ?_⟩, nofun⟩
  · exact jsonFieldString_of_lookup hflat Key.nodeId rfl
  · exact stringField_of_lookup_text hflat Key.buildTarget rfl
  · exact jsonFieldString_of_lookup hflat Key.kind rfl
  · have hrender : ∃ rest, (object (Cpp.announcementMembers n)).render =
        ("\x7b\"kind\":\"lb_udp_discovery\"" : Str) ++ rest := by
      rw [Cpp.announcementMembers, ← List.append_nil (render _), Cpp.textMember,
        render_object_append]
      exact ⟨_, rfl⟩
    obtain ⟨rest, hrender⟩ := hrender
    exact looksLike_of_announcement hrender

/-- The summary names no kind, so that its node makes it one. -/
theorem readsAs_cppSummary (n : Cpp.CppNode) : ReadsAs (.cppSummary n) (Cpp.summaryText n) := by
  have hflat : Flat (Cpp.summaryMembers n) := flat_of_all rfl
  rw [Cpp.summaryText_eq]
  refine ⟨?_, ?_, nofun, fun _ => ?_⟩
  · exact jsonFieldString_of_lookup hflat Key.nodeId rfl
  · have hnone := after?_of_lookup_none hflat Key.buildTarget rfl ['"']
    have hfield : jsonFieldString (object (Cpp.summaryMembers n)).render "build_target" = none := by
      rw [jsonFieldString]
      show Option.bind (after? (memberPattern Key.buildTarget ['"']) _) _ = none
      rw [hnone, Option.bind_none]
    rw [stringField, hfield]
    rfl
  · have hkind : jsonStringField (object (Cpp.summaryMembers n)).render "kind" = none := by
      rw [Option.eq_none_iff_forall_ne_some]
      intro kind h
      obtain ⟨_, space, space', rest, hspace, _, hbehind⟩ := jsonStringField_eq_some_iff.1 h
      have hfound := (after?_eq_some_iff (List.cons_ne_nil _ _)).2 hbehind
      have hall : (Cpp.summaryMembers n).all fun m => decide (m.1 ≠ Key.kind) && m.2.isLeaf := rfl
      obtain ⟨c, s, hcons, hc⟩ := after?_quoted_object hall hfound
      -- neither white space nor a colon can follow a value
      have hcolon : c ≠ ':' ∧ isWhitespace c = false := by
        simp only [List.mem_cons, List.not_mem_nil, or_false] at hc
        rcases hc with rfl | rfl | rfl <;> decide
      cases space with
      | nil => exact hcolon.1 (List.cons.inj hcons).1.symm
      | cons d space =>
        have hd : isWhitespace d := (List.all_eq_true.1 hspace) d (List.mem_cons_self ..)
        rw [(List.cons.inj hcons).1, hcolon.2] at hd
        cases hd
    have hnode : jsonStringField (object (Cpp.summaryMembers n)).render "node_id" =
        some (Cpp.jsonEscape n.config.nodeId) := by
      have hrender : ∃ rest, (object (Cpp.summaryMembers n)).render =
          ("\x7b\"node_id\":\"" : Str) ++ (Cpp.jsonEscape n.config.nodeId ++ '"' :: rest) := by
        rw [Cpp.summaryMembers, ← List.append_nil (render _), Cpp.textMember, render_object_append,
          render_text_append]
        exact ⟨_, rfl⟩
      obtain ⟨rest, hrender⟩ := hrender
      rw [hrender]
      exact jsonStringField_of_after? (Cpp.closedFrom_jsonEscape _) rfl
    rw [looksLikeRoomSummaryPayload, hkind, hnode]
    rfl

theorem readsAs_text {m : PeerMessage} {payload : Str} (h : m.text = some payload) :
    ReadsAs m payload := by
  cases m with
  | rustAnnouncement A uptimeMs freeHeapBytes =>
    obtain ⟨built, hbuilt, rfl⟩ := Option.map_eq_some_iff.1 h
    rw [items_of_buildUdpDiscoveryPayload hbuilt]
    exact readsAs_rustAnnouncement A uptimeMs freeHeapBytes
  | rustSummary A uptimeMs =>
    obtain ⟨built, hbuilt, rfl⟩ := Option.map_eq_some_iff.1 h
    rw [items_of_buildRoomSummaryPayload hbuilt]
    exact readsAs_rustSummary A uptimeMs
  | cppAnnouncement n =>
    rw [← Option.some.inj h]
    exact readsAs_cppAnnouncement n
  | cppSummary n =>
    rw [← Option.some.inj h]
    exact readsAs_cppSummary n

/-! ## Hearing them -/

/-- A node, with what it was told of build targets: for the sender of an announcement
the entry it went to and the target it named, as long as this entry stays fresh. -/
structure Listener where
  state : FirmwareState
  tracked : Str → Option (Str × Str)

namespace Listener

/-- A fresh entry of this identifier is in the table. -/
def Knows (l : Listener) (uptimeMs : ℕ) (nodeId : Str) : Prop :=
  ∃ peer ∈ l.state.udpDiscoveryPeers, peer.nodeId = nodeId ∧ peer.Fresh uptimeMs

instance (l : Listener) (uptimeMs : ℕ) (nodeId : Str) : Decidable (l.Knows uptimeMs nodeId) :=
  inferInstanceAs (Decidable (∃ peer ∈ _, _))

/-- What was told about entries that are gone or too old is forgotten. -/
def forget (l : Listener) (uptimeMs : ℕ) : Listener :=
  { l with tracked := fun node => (l.tracked node).filter fun told => l.Knows uptimeMs told.1 }

/-- The message fits the buffers and names another node. -/
def Accepts (l : Listener) (m : PeerMessage) (payload : Str) : Prop :=
  utf8Len payload ≤ 512 ∧ m.readSender ≠ [] ∧ m.readSender ≠ l.state.nodeId

instance (l : Listener) (m : PeerMessage) (payload : Str) : Decidable (l.Accepts m payload) :=
  inferInstanceAs (Decidable (_ ∧ _))

/-- What is tracked once a message is accepted. -/
def track (l : Listener) (m : PeerMessage) : Str → Option (Str × Str) :=
  match m.announcedTarget with
  | some target => Function.update l.tracked m.sender (some (m.readSender, target))
  | none => l.tracked

/-- A datagram goes to both handlers, a summary over MQTT to the one for summaries. -/
def receive (s : FirmwareState) (m : PeerMessage) (payload : Str) (uptimeMs : ℕ) : FirmwareState :=
  if utf8Len payload ≤ 512 then
    if m.isAnnouncement then s.receiveDatagram payload uptimeMs
    else s.syncRoomSummaryPeer payload uptimeMs
  else s

def hear (l : Listener) (m : PeerMessage) (uptimeMs : ℕ) : Listener :=
  match m.text with
  | none => l
  | some payload =>
    let l := l.forget uptimeMs
    forget { state := receive l.state m payload uptimeMs
             tracked := if l.Accepts m payload then l.track m else l.tracked } uptimeMs

end Listener

inductive ListenerEvent where
  | message (m : PeerMessage) (uptimeMs : ℕ)
  /-- Everything else, in which the node can only lose entries. -/
  | work (next : FirmwareState) (uptimeMs : ℕ)

def Listener.step (l : Listener) : ListenerEvent → Option Listener
  | .message m uptimeMs => some (l.hear m uptimeMs)
  | .work next uptimeMs =>
    if next.udpDiscoveryPeers.Sublist l.state.udpDiscoveryPeers then
      some (Listener.forget { l with state := next } uptimeMs)
    else none

/-- From an empty table. -/
def listenerMachine : Machine Listener ListenerEvent where
  start l := l.state.udpDiscoveryPeers = [] ∧ l.tracked = fun _ => none
  step := Listener.step

/-! ## What they do to the table -/

/-- A message read as `nodeId`'s with this target has gone into the table. -/
structure Retold (nodeId target : Str) (uptimeMs : ℕ) (peers peers' : List UdpDiscoveryPeerState) :
    Prop where
  entries : ∀ peer ∈ peers', (peer ∈ peers ∧ peer.nodeId ≠ nodeId) ∨
    (peer.nodeId = nodeId ∧ peer.buildTarget = target)
  shown : ∃ peer ∈ peers', peer.nodeId = nodeId ∧ peer.Fresh uptimeMs
  nodup : (peers'.map (·.nodeId)).Nodup

/-- Both handlers change or insert an entry in this way. -/
theorem retold_upsertPeer {nodeId target : Str} {uptimeMs : ℕ}
    {f : UdpDiscoveryPeerState → UdpDiscoveryPeerState} {fresh : UdpDiscoveryPeerState}
    (hf : ∀ peer, (f peer).nodeId = peer.nodeId ∧ (f peer).buildTarget = target ∧
      (f peer).lastSeenMs = uptimeMs)
    (hfresh : fresh.nodeId = nodeId ∧ fresh.buildTarget = target ∧ fresh.lastSeenMs = uptimeMs)
    {peers : List UdpDiscoveryPeerState} (hpeers : (peers.map (·.nodeId)).Nodup) :
    Retold nodeId target uptimeMs peers (upsertPeer nodeId f fresh peers) where
  entries := by
    intro peer hpeer
    rcases mem_upsert hpeers hpeer with h | ⟨existing, _, hid, rfl⟩ | rfl
    · exact Or.inl h
    · exact Or.inr ⟨(hf existing).1.trans hid, (hf existing).2.1⟩
    · exact Or.inr ⟨hfresh.1, hfresh.2.1⟩
  shown := by
    rcases exists_mem_upsertPeer nodeId f fresh peers with ⟨existing, _, hid, hmem⟩ | hmem
    · exact ⟨_, hmem, (hf existing).1.trans hid,
        UdpDiscoveryPeerState.fresh_of_lastSeenMs (hf existing).2.2⟩
    · exact ⟨_, hmem, hfresh.1, UdpDiscoveryPeerState.fresh_of_lastSeenMs hfresh.2.2⟩
  nodup := (upserted_upsertPeer (fun peer => (hf peer).1) hfresh.1 peers).nodup hpeers

theorem Retold.filter {nodeId target : Str} {uptimeMs : ℕ} {peers peers' : List UdpDiscoveryPeerState}
    (h : Retold nodeId target uptimeMs peers peers') :
    Retold nodeId target uptimeMs peers (peers'.filter (·.Fresh uptimeMs)) where
  entries peer hpeer := h.entries peer (List.mem_filter.1 hpeer).1
  shown := by
    obtain ⟨peer, hmem, hid, hseen⟩ := h.shown
    exact ⟨peer, List.mem_filter.2 ⟨hmem, decide_eq_true hseen⟩, hid, hseen⟩
  nodup := h.nodup.sublist (List.filter_sublist.map _)

theorem otherNode_of_readsAs {m : PeerMessage} {payload : Str} (h : ReadsAs m payload)
    (s : FirmwareState) : s.otherNode payload =
      if m.readSender ≠ [] ∧ m.readSender ≠ s.nodeId then some m.readSender else none := by
  rw [FirmwareState.otherNode, h.node]
  simp [Option.filter]

/-- A message of another node goes into the table. -/
theorem retold_receive {m : PeerMessage} {payload : Str} (h : ReadsAs m payload)
    {s : FirmwareState} (hfits : utf8Len payload ≤ 512)
    (hother : m.readSender ≠ [] ∧ m.readSender ≠ s.nodeId)
    (hpeers : (s.udpDiscoveryPeers.map (·.nodeId)).Nodup) (uptimeMs : ℕ) :
    Retold m.readSender m.readTarget uptimeMs s.udpDiscoveryPeers
      (Listener.receive s m payload uptimeMs).udpDiscoveryPeers := by
  have hsender := otherNode_of_readsAs h s
  rw [if_pos hother] at hsender
  rw [Listener.receive, if_pos hfits]
  cases hkind : m.isAnnouncement with
  | true =>
    obtain ⟨hfield, hlooks⟩ := h.announcement hkind
    have hdiscovery : s.discoverySender payload = some m.readSender :=
      FirmwareState.discoverySender_eq_some_iff.2 ⟨hfield, hsender⟩
    have hsummary (s : FirmwareState) : s.summarySender payload = none := by
      rw [FirmwareState.summarySender, hlooks]
      rfl
    rw [if_pos rfl, FirmwareState.receiveDatagram,
      FirmwareState.syncRoomSummaryPeer_of_none (hsummary _), FirmwareState.syncUdpDiscoveryPeer,
      hdiscovery]
    apply Retold.filter
    apply retold_upsertPeer _ _ hpeers
    · intro peer
      exact ⟨rfl, h.target, rfl⟩
    · exact ⟨rfl, h.target, rfl⟩
  | false =>
    have hsummary : s.summarySender payload = some m.readSender := by
      rw [FirmwareState.summarySender, h.summary hkind]
      exact hsender
    rw [if_neg (by simp), FirmwareState.syncRoomSummaryPeer, hsummary]
    apply retold_upsertPeer _ _ hpeers
    · intro peer
      exact ⟨rfl, h.target, rfl⟩
    · exact ⟨rfl, h.target, rfl⟩

theorem receive_of_not_accepts {l : Listener} {m : PeerMessage} {payload : Str}
    (h : ReadsAs m payload) (hnot : ¬ l.Accepts m payload) (uptimeMs : ℕ) :
    Listener.receive l.state m payload uptimeMs = l.state := by
  rw [Listener.receive]
  split
  · rename_i hfits
    have hsender : l.state.otherNode payload = none := by
      rw [otherNode_of_readsAs h, if_neg fun hother => hnot ⟨hfits, hother⟩]
    have hdiscovery : l.state.discoverySender payload = none := by
      rw [FirmwareState.discoverySender]
      split
      · rfl
      · exact hsender
    have hsummary : l.state.summarySender payload = none := by
      rw [FirmwareState.summarySender]
      split
      · rfl
      · exact hsender
    split
    · rw [FirmwareState.receiveDatagram, FirmwareState.syncUdpDiscoveryPeer_of_none hdiscovery]
      exact FirmwareState.syncRoomSummaryPeer_of_none hsummary uptimeMs
    · exact FirmwareState.syncRoomSummaryPeer_of_none hsummary uptimeMs
  · rfl

/-! ## Build targets stay -/

namespace Listener

/-- The entry of a node that announced a build target shows the one it announced last. -/
def TargetsKept (l : Listener) : Prop :=
  ∀ node nodeId target, l.tracked node = some (nodeId, target) → target ≠ [] →
    ∀ peer ∈ l.state.udpDiscoveryPeers, peer.nodeId = nodeId → peer.buildTarget = target

/-- A message that will be read as one of a tracked entry's carries the target told last. -/
def KeepsTargets (l : Listener) : ListenerEvent → Prop
  | .message m uptimeMs => ∀ payload, m.text = some payload →
      (l.forget uptimeMs).Accepts m payload →
      ∀ node nodeId target, (l.forget uptimeMs).track m node = some (nodeId, target) →
        target ≠ [] → nodeId = m.readSender → m.readTarget = target
  | .work _ _ => True

/-- What every run keeps, whatever is sent. -/
def Wellformed (l : Listener) : Prop := (l.state.udpDiscoveryPeers.map (·.nodeId)).Nodup

theorem tracked_forget {l : Listener} {uptimeMs : ℕ} {node nodeId target : Str}
    (h : (l.forget uptimeMs).tracked node = some (nodeId, target)) :
    l.tracked node = some (nodeId, target) :=
  (Option.filter_eq_some_iff.1 h).1

theorem tracked_forget_of_knows {l : Listener} (uptimeMs : ℕ) {node nodeId target : Str}
    (h : l.tracked node = some (nodeId, target)) (hknows : l.Knows uptimeMs nodeId) :
    (l.forget uptimeMs).tracked node = some (nodeId, target) :=
  Option.filter_eq_some_iff.2 ⟨h, decide_eq_true hknows⟩

theorem TargetsKept.forget {l : Listener} (h : l.TargetsKept) (uptimeMs : ℕ) :
    (l.forget uptimeMs).TargetsKept := by
  intro node nodeId target htracked
  exact h node nodeId target (tracked_forget htracked)

/-- A tracked entry other than the sender's was tracked before. -/
theorem tracked_of_track {l : Listener} {m : PeerMessage} {node nodeId target : Str}
    (h : l.track m node = some (nodeId, target)) (hother : nodeId ≠ m.readSender) :
    l.tracked node = some (nodeId, target) := by
  rw [track] at h
  cases htold : m.announcedTarget with
  | none => rwa [htold] at h
  | some told =>
    rw [htold] at h
    change Function.update l.tracked m.sender (some (m.readSender, told)) node = _ at h
    by_cases hnode : node = m.sender
    · rw [hnode, Function.update_self] at h
      cases h
      exact absurd rfl hother
    · rwa [Function.update_of_ne hnode] at h

theorem wellformed_receive {l : Listener} (hl : l.Wellformed) {m : PeerMessage} {payload : Str}
    (h : ReadsAs m payload) (uptimeMs : ℕ) :
    ((receive l.state m payload uptimeMs).udpDiscoveryPeers.map (·.nodeId)).Nodup := by
  by_cases haccepts : l.Accepts m payload
  · exact (retold_receive h haccepts.1 haccepts.2 hl uptimeMs).nodup
  · rwa [receive_of_not_accepts h haccepts]

theorem wellformed_step {l l' : Listener} {e : ListenerEvent} (hl : l.Wellformed)
    (h : l.step e = some l') : l'.Wellformed := by
  cases e with
  | message m uptimeMs =>
    rw [← Option.some.inj h, hear]
    cases htext : m.text with
    | none => exact hl
    | some payload => exact wellformed_receive (l := l.forget uptimeMs) hl (readsAs_text htext) uptimeMs
  | work next uptimeMs =>
    rw [step] at h
    split at h
    · rename_i hsub
      rw [← Option.some.inj h]
      exact hl.sublist (hsub.map _)
    · cases h

/-- An accepted message keeps the targets exactly if it carries the one told last. -/
theorem targetsKept_of_accepts {l : Listener} (hl : l.Wellformed) (hkept : l.TargetsKept)
    {m : PeerMessage} {payload : Str} (h : ReadsAs m payload) (haccepts : l.Accepts m payload)
    (uptimeMs : ℕ) :
    (forget { state := receive l.state m payload uptimeMs, tracked := l.track m } uptimeMs).TargetsKept ↔
      ∀ node nodeId target, l.track m node = some (nodeId, target) → target ≠ [] →
        nodeId = m.readSender → m.readTarget = target := by
  have hretold := retold_receive h haccepts.1 haccepts.2 hl uptimeMs
  constructor
  · rintro hafter node nodeId target htrack htarget rfl
    -- the sender's entry is there and fresh, so that what was told of it is not forgotten
    obtain ⟨peer, hpeer, hid, hfresh⟩ := hretold.shown
    have htracked := tracked_forget_of_knows uptimeMs
      (l := { state := receive l.state m payload uptimeMs, tracked := l.track m })
      htrack ⟨peer, hpeer, hid, hfresh⟩
    have hshows := hafter node _ target htracked htarget peer hpeer hid
    rcases hretold.entries peer hpeer with ⟨_, hne⟩ | ⟨_, hreads⟩
    · exact absurd hid hne
    · rw [← hreads, hshows]
  · intro hcarries node nodeId target htracked htarget peer hpeer hid
    have htrack := tracked_forget htracked
    rcases hretold.entries peer hpeer with ⟨hbefore, hne⟩ | ⟨hsender, hreads⟩
    · have hother : nodeId ≠ m.readSender := by rwa [← hid]
      exact hkept node nodeId target (tracked_of_track htrack hother) htarget peer hbefore hid
    · rw [hreads]
      exact hcarries node nodeId target htrack htarget (hid.symm.trans hsender)

theorem targetsKept_step {l l' : Listener} {e : ListenerEvent} (hl : l.Wellformed)
    (hkept : l.TargetsKept) (h : l.step e = some l') : l'.TargetsKept ↔ l.KeepsTargets e := by
  cases e with
  | message m uptimeMs =>
    rw [← Option.some.inj h, hear]
    cases htext : m.text with
    | none =>
      refine iff_of_true hkept ?_
      intro payload hpayload
      rw [htext] at hpayload
      cases hpayload
    | some payload =>
      have hreads := readsAs_text htext
      have hforgot := hkept.forget uptimeMs
      by_cases haccepts : (l.forget uptimeMs).Accepts m payload
      · dsimp only
        rw [if_pos haccepts, targetsKept_of_accepts (l := l.forget uptimeMs) hl hforgot hreads haccepts]
        constructor
        · intro hcarries payload' hpayload _
          exact hcarries
        · intro hcarries
          exact hcarries payload htext haccepts
      · dsimp only
        rw [if_neg haccepts, receive_of_not_accepts hreads haccepts]
        refine iff_of_true (hforgot.forget uptimeMs) ?_
        intro payload' hpayload haccepts'
        rw [htext] at hpayload
        cases hpayload
        exact absurd haccepts' haccepts
  | work next uptimeMs =>
    rw [step] at h
    split at h
    · rename_i hsub
      rw [← Option.some.inj h]
      refine iff_of_true ?_ trivial
      intro node nodeId target htracked htarget peer hpeer
      have hbefore : l.tracked node = some (nodeId, target) :=
        tracked_forget (l := { l with state := next }) htracked
      exact hkept node nodeId target hbefore htarget peer (hsub.subset hpeer)
    · cases h

theorem wellformed_of_reach {ok : Listener → ListenerEvent → Prop} {l : Listener}
    (h : listenerMachine.Reach ok l) : l.Wellformed := by
  refine Machine.Reach.invariant ?_ ?_ h
  · rintro l ⟨hpeers, _⟩
    rw [Wellformed, hpeers]
    exact List.nodup_nil
  · intro l e l' hl _ hstep
    exact wellformed_step hl hstep

theorem targetsKept_of_reach {l : Listener} (h : listenerMachine.Reach KeepsTargets l) :
    l.TargetsKept := by
  induction h with
  | start hstart =>
    intro node nodeId target htracked
    rw [hstart.2] at htracked
    cases htracked
  | step hreach hok hstep ih =>
    exact (targetsKept_step (wellformed_of_reach hreach) ih hstep).2 hok

/-! ## Among nodes of one firmware -/

/-- Only nodes with the Rust firmware send. -/
def FromRust (_ : Listener) : ListenerEvent → Prop
  | .message m _ => m.isRust
  | .work _ _ => True

instance (l : Listener) (e : ListenerEvent) : Decidable (FromRust l e) :=
  match e with
  | .message m _ => inferInstanceAs (Decidable (m.isRust = true))
  | .work _ _ => inferInstanceAs (Decidable True)

/-- Only the target of the Rust firmware has been told. -/
def RustTargets (l : Listener) : Prop :=
  ∀ node nodeId target, l.tracked node = some (nodeId, target) → target = rustBuildTarget

theorem RustTargets.forget {l : Listener} (h : l.RustTargets) (uptimeMs : ℕ) :
    (l.forget uptimeMs).RustTargets := by
  intro node nodeId target htracked
  exact h node nodeId target (tracked_forget htracked)

theorem rustTargets_track {l : Listener} (h : l.RustTargets) {m : PeerMessage}
    (hm : ∀ target ∈ m.announcedTarget, target = rustBuildTarget) {node nodeId target : Str}
    (htrack : l.track m node = some (nodeId, target)) : target = rustBuildTarget := by
  rw [track] at htrack
  cases htold : m.announcedTarget with
  | none =>
    rw [htold] at htrack
    exact h node nodeId target htrack
  | some told =>
    rw [htold] at htrack
    change Function.update l.tracked m.sender (some (m.readSender, told)) node = _ at htrack
    by_cases hnode : node = m.sender
    · rw [hnode, Function.update_self] at htrack
      cases htrack
      exact hm target htold
    · rw [Function.update_of_ne hnode] at htrack
      exact h node nodeId target htrack

theorem rustTargets_step {l l' : Listener} {e : ListenerEvent} (hl : l.RustTargets)
    (hrust : FromRust l e) (h : l.step e = some l') : l'.RustTargets := by
  cases e with
  | message m uptimeMs =>
    rw [← Option.some.inj h, hear]
    have hforgot := hl.forget uptimeMs
    cases m.text with
    | none => exact hl
    | some payload =>
      intro node nodeId target htracked
      have htracked := tracked_forget htracked
      dsimp only at htracked
      split at htracked
      · exact rustTargets_track hforgot (PeerMessage.targets_of_isRust hrust).2 htracked
      · exact hforgot node nodeId target htracked
  | work next uptimeMs =>
    rw [step] at h
    split at h
    · rw [← Option.some.inj h]
      intro node nodeId target htracked
      exact hl node nodeId target (tracked_forget (l := { l with state := next }) htracked)
    · cases h

/-- Among Rust nodes, all messages carry the target. -/
theorem reach_of_fromRust {l : Listener} (h : listenerMachine.Reach FromRust l) :
    l.RustTargets ∧ listenerMachine.Reach KeepsTargets l := by
  induction h with
  | start hstart =>
    refine ⟨?_, Machine.Reach.start hstart⟩
    intro node nodeId target htracked
    rw [hstart.2] at htracked
    cases htracked
  | @step l l' e _ hrust hstep ih =>
    refine ⟨rustTargets_step ih.1 hrust hstep, Machine.Reach.step ih.2 ?_ hstep⟩
    cases e with
    | message m uptimeMs =>
      obtain ⟨hreads, hannounced⟩ := PeerMessage.targets_of_isRust hrust
      rintro payload _ _ node nodeId target htrack _ _
      rw [hreads, rustTargets_track (ih.1.forget uptimeMs) hannounced htrack]
    | work next uptimeMs => trivial

end Listener

open Listener

/-- As long as every message that is read as a tracked node's carries the build target
told last, the table shows this target and it decides which nodes are candidates for
a release; the first message that does not carry it changes the table. -/
theorem buildTarget_kept (l : Listener) :
    (listenerMachine.Reach KeepsTargets l → l.TargetsKept ∧
      ∀ node nodeId target, l.tracked node = some (nodeId, target) → target ≠ [] →
        ∀ peer ∈ l.state.udpDiscoveryPeers, peer.nodeId = nodeId → ∀ uptimeMs,
          (FirmwareState.ReleaseCandidate uptimeMs peer ↔ peer.Fresh uptimeMs ∧
            target = rustBuildTarget ∧ Release.semanticVersionCore peer.firmwareVersion ≠ [])) ∧
    ∀ (l' : Listener) (e : ListenerEvent), listenerMachine.Reach KeepsTargets l →
      listenerMachine.step l e = some l' → (l'.TargetsKept ↔ l.KeepsTargets e) := by
  constructor
  · intro hreach
    have hkept := targetsKept_of_reach hreach
    refine ⟨hkept, ?_⟩
    intro node nodeId target htracked htarget peer hpeer hid uptimeMs
    rw [FirmwareState.ReleaseCandidate, hkept node nodeId target htracked htarget peer hpeer hid]
    exact Iff.rfl
  · intro l' e hreach hstep
    exact targetsKept_step (wellformed_of_reach hreach) (targetsKept_of_reach hreach) hstep

def denId : Str := "den"

/-- A node with an empty table. -/
def hallListener : Listener := { state := { nodeId := "hall" }, tracked := fun _ => none }

theorem hallListener_start : listenerMachine.start hallListener := ⟨rfl, rfl⟩

/-- A Rust node is announced and then sends its summary. -/
theorem buildTarget_kept_among_rust :
    ∃ l : Listener, l.tracked denId = some (denId, rustBuildTarget) ∧ l.TargetsKept := by
  have hrun : ∃ l, listenerMachine.run FromRust hallListener
      [.message (.rustAnnouncement denNode 5000 200000) 1000, .message (.rustSummary denNode 6000) 2000]
        = some l ∧ l.tracked denId = some (denId, rustBuildTarget) := by
    refine ⟨_, rfl, ?_⟩
    decide +kernel
  obtain ⟨l, hrun, htracked⟩ := hrun
  have hreach := Machine.reach_of_run (Machine.Reach.start hallListener_start) _ hrun
  exact ⟨l, htracked, ((buildTarget_kept l).1 (reach_of_fromRust hreach).2).1⟩

/-- A node with the C++ firmware on the same board. -/
def cppDen : Cpp.CppNode where
  config := { nodeId := "den", friendlyName := "Den", roomId := "attic" }
  firmwareVersion := "v1.4.0"
  firmwareBuildTarget := rustBuildTarget
  localIp := "10.0.0.7"
  rssi := -61
  channel := 6
  millis := 5000
  freeHeap := 200000
  lastPresence := false
  detectionCandidate := false
  estimatedPeople := 0
  activeGateCount := 0
  dominantGateDistanceCm := -1
  activityScore := 0

/-- It is announced and then sends its summary. -/
theorem buildTarget_lost : ¬ ∀ l : Listener, listenerMachine.Reach Machine.Always l → l.TargetsKept := by
  intro hall
  have hrun : ∃ l, listenerMachine.run Machine.Always hallListener
      [.message (.cppAnnouncement cppDen) 1000, .message (.cppSummary cppDen) 2000] = some l ∧
        l.tracked denId = some (denId, rustBuildTarget) ∧
        ∃ peer ∈ l.state.udpDiscoveryPeers, peer.nodeId = denId ∧ peer.buildTarget = [] := by
    refine ⟨_, rfl, ?_, ?_⟩
    · decide +kernel
    · decide +kernel
  obtain ⟨l, hrun, htracked, peer, hpeer, hid, hlost⟩ := hrun
  have hreach := Machine.reach_of_run (Machine.Reach.start hallListener_start) _ hrun
  have hkept := hall l hreach denId denId rustBuildTarget htracked (by decide) peer hpeer hid
  rw [hlost] at hkept
  exact absurd hkept (by decide)

end EspWaveRider
