import EspWaveRider.Cpp.RadarUart
import EspWaveRider.Cpp.Text
import EspWaveRider.Lib.Machine
import EspWaveRider.Lib.SlotTable

/-!
# Identity tags

The BLE tags of `src/ble_support.cpp`: how a tag is configured, loaded and cleared, what an
advertisement changes, and when a tag counts as present.

* `updateBleSighting`, `handleBleTagConfig`, `handleBleTagClear`, `loadBleTags` — the functions;
* `BleRun` — all of it over time, with the advertisements since each slot was configured;
* `presentOnlyIfHeard_iff` — when a tag that is present has been heard.
-/

namespace EspWaveRider.Cpp

def maxBleSightings : ℕ := 16
def maxBleTags : ℕ := 8
def bleTagFreshnessMs : UInt32 := 45000
def bleTagDefaultMinRssi : ℤ := -88

structure BleBeaconSighting where
  occupied : Bool := false
  address : Str := []
  name : Str := []
  serviceUuid : Str := []
  rssi : ℤ := -127
  lastSeenMs : UInt32 := 0

structure BleIdentityTag where
  occupied : Bool := false
  label : Str := []
  address : Str := []
  minRssi : ℤ := bleTagDefaultMinRssi
  lastRssi : ℤ := -127
  lastSeenMs : UInt32 := 0

/-- What is read of an advertisement. -/
structure NimBLEAdvertisedDevice where
  address : Str
  name : Option Str := none
  serviceUuid : Option Str := none
  rssi : ℤ

structure BleState where
  bleSightings : Fin maxBleSightings → BleBeaconSighting := fun _ => {}
  bleIdentityTags : Fin maxBleTags → BleIdentityTag := fun _ => {}

def normalizeBleIdentityValue (value : Str) : Str :=
  value.filterMap fun c =>
    if 'A' ≤ c ∧ c ≤ 'F' then some (Char.ofNat (c.toNat - 'A'.toNat + 'a'.toNat))
    else if ('a' ≤ c ∧ c ≤ 'f') ∨ ('0' ≤ c ∧ c ≤ '9') then some c
    else none

def clearBleIdentityTag : BleIdentityTag :=
  { occupied := false, label := [], address := [], minRssi := bleTagDefaultMinRssi
    lastRssi := -127, lastSeenMs := 0 }

def bleIdentityTagPresent (tag : BleIdentityTag) (now : UInt32) : Bool :=
  tag.occupied && now - tag.lastSeenMs ≤ bleTagFreshnessMs

/-! ## Configuration -/

/-- The keys of one tag in the settings. -/
structure StoredBleTag where
  label : Option Str := none
  address : Option Str := none
  minRssi : Option ℤ := none

def loadBleTag (stored : StoredBleTag) : BleIdentityTag :=
  let label := stored.label.getD []
  let address := normalizeBleIdentityValue (stored.address.getD [])
  { label, address, minRssi := stored.minRssi.getD bleTagDefaultMinRssi
    lastRssi := -127, lastSeenMs := 0
    occupied := label ≠ [] ∧ address ≠ [] }

/-- The tag of a `ble_tag_config` with these fields. -/
def configuredBleTag (label address minRssi : Str) : BleIdentityTag :=
  let address := normalizeBleIdentityValue address
  let parsedMinRssi := if minRssi ≠ [] then toInt minRssi else bleTagDefaultMinRssi
  let tag : BleIdentityTag :=
    { label, address, minRssi := max (-120) (min parsedMinRssi (-20)), lastRssi := -127
      lastSeenMs := 0, occupied := label ≠ [] ∧ address ≠ [] }
  if !tag.occupied then clearBleIdentityTag else tag

/-- Other values are an error, and nothing is done. -/
def tagSlot (slotValue : ℤ) : Option (Fin maxBleTags) :=
  Fin.find? fun slot => (slot.val : ℤ) = slotValue

def configSlot (payload : Str) : Option (Fin maxBleTags) :=
  tagSlot (toInt ((splitConfigFields payload 4).getD 0 []))

def clearSlot (payload : Str) : Option (Fin maxBleTags) := tagSlot (toInt payload)

namespace BleState

def handleBleTagConfig (s : BleState) (payload : Str) : BleState :=
  let field (i : ℕ) : Str := (splitConfigFields payload 4).getD i []
  match configSlot payload with
  | none => s
  | some slot => { s with
      bleIdentityTags := Function.update s.bleIdentityTags slot
        (configuredBleTag (field 1) (field 2) (field 3)) }

def handleBleTagClear (s : BleState) (payload : Str) : BleState :=
  match clearSlot payload with
  | none => s
  | some slot =>
    { s with bleIdentityTags := Function.update s.bleIdentityTags slot clearBleIdentityTag }

/-! ## Advertisements -/

/-- The sighting that is replaced when all are in use: the first one of those seen longest ago. -/
def oldestSighting (bleSightings : Fin maxBleSightings → BleBeaconSighting) : Fin maxBleSightings :=
  (List.finRange maxBleSightings).tail.foldl
    (fun slot i => if (bleSightings i).lastSeenMs < (bleSightings slot).lastSeenMs then i else slot)
    ⟨0, by decide⟩

def sightingSlot (s : BleState) (address : Str) : Fin maxBleSightings :=
  (SlotTable.slot BleBeaconSighting.occupied BleBeaconSighting.address s.bleSightings address).getD
    (oldestSighting s.bleSightings)

end BleState

/-- What a sighting changes in a tag. -/
def BleIdentityTag.notice (tag : BleIdentityTag) (normalizedAddress : Str)
    (sighting : BleBeaconSighting) : BleIdentityTag :=
  if !tag.occupied || tag.address ≠ normalizedAddress then tag
  else if sighting.rssi < tag.minRssi then tag
  else { tag with lastRssi := sighting.rssi, lastSeenMs := sighting.lastSeenMs }

def BleState.updateBleSighting (s : BleState) (advertisedDevice : NimBLEAdvertisedDevice)
    (now : UInt32) : BleState :=
  let address := advertisedDevice.address
  if address = [] then s
  else
    let slot := s.sightingSlot address
    let bleSightings := Function.update s.bleSightings slot {
      occupied := true
      address
      name := advertisedDevice.name.getD []
      serviceUuid := advertisedDevice.serviceUuid.getD []
      rssi := advertisedDevice.rssi
      lastSeenMs := now }
    let normalizedAddress := normalizeBleIdentityValue address
    { bleSightings
      bleIdentityTags := fun tagIndex =>
        (s.bleIdentityTags tagIndex).notice normalizedAddress (bleSightings slot) }

/-! ## Runs -/

inductive BleEvent where
  /-- The tags are loaded, whatever the settings hold. -/
  | boot (stored : Fin maxBleTags → StoredBleTag)
  | tagConfig (payload : Str)
  | tagClear (payload : Str)
  | advertisement (advertisedDevice : NimBLEAdvertisedDevice)
  | elapse (ms : ℕ)

/-- The state, with the time since boot and, for every slot, when which advertisements were
recorded since it was configured or loaded, with the newest first. -/
structure BleRun where
  state : BleState
  clock : ℕ
  recorded : Fin maxBleTags → List (ℕ × NimBLEAdvertisedDevice)

namespace BleRun

def loadBleTags (stored : Fin maxBleTags → StoredBleTag) : BleRun where
  state := { bleIdentityTags := fun tagIndex => loadBleTag (stored tagIndex) }
  clock := 0
  recorded _ := []

/-- The record of a slot starts over. -/
def forget (s : BleRun) : Option (Fin maxBleTags) → Fin maxBleTags → List (ℕ × NimBLEAdvertisedDevice)
  | none => s.recorded
  | some slot => Function.update s.recorded slot []

def next (s : BleRun) : BleEvent → BleRun
  | .boot stored => loadBleTags stored
  | .tagConfig payload =>
    { s with state := s.state.handleBleTagConfig payload, recorded := s.forget (configSlot payload) }
  | .tagClear payload =>
    { s with state := s.state.handleBleTagClear payload, recorded := s.forget (clearSlot payload) }
  | .advertisement advertisedDevice =>
    { s with
      state := s.state.updateBleSighting advertisedDevice (millis s.clock)
      recorded := if advertisedDevice.address = [] then s.recorded
        else fun slot => (s.clock, advertisedDevice) :: s.recorded slot }
  | .elapse ms => { s with clock := s.clock + ms }

end BleRun

/-- Runs in which the clock does not wrap. -/
def bleMachine : Machine BleRun BleEvent where
  start s := ∃ stored, s = BleRun.loadBleTags stored
  step s e := if (s.next e).clock < 2 ^ 32 then some (s.next e) else none

/-! ## What the tags know -/

/-- An advertisement of this tag that is strong enough. -/
def BleIdentityTag.qualifies (tag : BleIdentityTag) (ad : ℕ × NimBLEAdvertisedDevice) : Bool :=
  normalizeBleIdentityValue ad.2.address = tag.address ∧ tag.minRssi ≤ ad.2.rssi

theorem lastSeenMs_configuredBleTag (label address minRssi : Str) :
    (configuredBleTag label address minRssi).lastSeenMs = 0 := by
  unfold configuredBleTag
  dsimp only
  split_ifs
  · rfl
  · rfl
  · rfl

/-- An advertisement that qualifies is noted; what qualifies stays as it is. -/
theorem BleIdentityTag.notice_spec (tag : BleIdentityTag) (advertisedDevice : NimBLEAdvertisedDevice)
    {sighting : BleBeaconSighting} (hrssi : sighting.rssi = advertisedDevice.rssi) (time : ℕ) :
    let tag' := tag.notice (normalizeBleIdentityValue advertisedDevice.address) sighting
    tag'.occupied = tag.occupied ∧ tag'.qualifies = tag.qualifies ∧
      (tag.occupied = true → tag'.lastSeenMs =
        if tag.qualifies (time, advertisedDevice) then sighting.lastSeenMs else tag.lastSeenMs) := by
  dsimp only
  rw [BleIdentityTag.notice]
  split
  case isTrue hother =>
    refine ⟨rfl, rfl, fun hoccupied => (if_neg fun hqualifies => ?_).symm⟩
    rw [hoccupied] at hother
    have haddress := (of_decide_eq_true hqualifies).1
    simp [haddress] at hother
  case isFalse hsame =>
    split
    case isTrue hweak =>
      refine ⟨rfl, rfl, fun _ => (if_neg fun hqualifies => ?_).symm⟩
      rw [hrssi] at hweak
      exact absurd (of_decide_eq_true hqualifies).2 (not_le.2 hweak)
    case isFalse hstrong =>
      refine ⟨rfl, rfl, fun _ => (if_pos ?_).symm⟩
      simp only [Bool.or_eq_true, not_or, decide_eq_true_eq, not_not] at hsame
      rw [hrssi, not_lt] at hstrong
      exact decide_eq_true ⟨hsame.2.symm, hstrong⟩

namespace BleRun

def tag (s : BleRun) (slot : Fin maxBleTags) : BleIdentityTag := s.state.bleIdentityTags slot

/-- When the tag of a slot was heard last since it was configured. -/
def lastHeard (s : BleRun) (slot : Fin maxBleTags) : ℕ :=
  ((s.recorded slot).find? (s.tag slot).qualifies).elim 0 (·.1)

/-- A tag that has not been heard looks as if it had been heard when the clock started. -/
structure Timed (s : BleRun) : Prop where
  recorded_le : ∀ slot, ∀ ad ∈ s.recorded slot, ad.1 ≤ s.clock
  lastSeenMs_eq : ∀ slot, (s.tag slot).occupied = true →
    (s.tag slot).lastSeenMs = millis (s.lastHeard slot)

theorem timed_loadBleTags (stored : Fin maxBleTags → StoredBleTag) : (loadBleTags stored).Timed :=
  ⟨fun _ _ hmem => absurd hmem List.not_mem_nil, fun _ _ => rfl⟩

/-- A slot gets another tag, and its record starts over. -/
def replace (s : BleRun) (slot : Fin maxBleTags) (tag : BleIdentityTag) : BleRun :=
  { s with
    state := { s.state with bleIdentityTags := Function.update s.state.bleIdentityTags slot tag }
    recorded := Function.update s.recorded slot [] }

@[simp] theorem forget_none (s : BleRun) : s.forget none = s.recorded := rfl

@[simp] theorem forget_some (s : BleRun) (slot : Fin maxBleTags) :
    s.forget (some slot) = Function.update s.recorded slot [] := rfl

theorem next_tagConfig (s : BleRun) (payload : Str) : s.next (.tagConfig payload) = s ∨
    ∃ slot label address minRssi,
      s.next (.tagConfig payload) = s.replace slot (configuredBleTag label address minRssi) := by
  cases hslot : configSlot payload with
  | none =>
    left
    unfold next BleState.handleBleTagConfig
    simp only [hslot, forget_none]
  | some slot =>
    right
    refine ⟨slot, (splitConfigFields payload 4).getD 1 [], (splitConfigFields payload 4).getD 2 [],
      (splitConfigFields payload 4).getD 3 [], ?_⟩
    unfold next BleState.handleBleTagConfig
    simp only [hslot, forget_some, replace]

theorem next_tagClear (s : BleRun) (payload : Str) : s.next (.tagClear payload) = s ∨
    ∃ slot, s.next (.tagClear payload) = s.replace slot clearBleIdentityTag := by
  cases hslot : clearSlot payload with
  | none =>
    left
    unfold next BleState.handleBleTagClear
    simp only [hslot, forget_none]
  | some slot =>
    right
    refine ⟨slot, ?_⟩
    unfold next BleState.handleBleTagClear
    simp only [hslot, forget_some, replace]

theorem Timed.replace {s : BleRun} (h : s.Timed) (slot : Fin maxBleTags) {tag : BleIdentityTag}
    (htag : tag.lastSeenMs = 0) : (s.replace slot tag).Timed := by
  constructor
  · intro slot' ad hmem
    change ad ∈ Function.update s.recorded slot [] slot' at hmem
    by_cases hslot : slot' = slot
    · rw [hslot, Function.update_self] at hmem
      exact absurd hmem List.not_mem_nil
    · rw [Function.update_of_ne hslot] at hmem
      exact h.recorded_le slot' ad hmem
  · intro slot' hoccupied
    by_cases hslot : slot' = slot
    · subst hslot
      simp [BleRun.replace, BleRun.tag, lastHeard, htag, millis]
    · have htime := h.lastSeenMs_eq slot'
      simp only [BleRun.replace, BleRun.tag, lastHeard, Function.update_of_ne hslot] at htime hoccupied ⊢
      exact htime hoccupied

theorem Timed.tagConfig {s : BleRun} (h : s.Timed) (payload : Str) :
    (s.next (.tagConfig payload)).Timed := by
  rcases s.next_tagConfig payload with heq | ⟨slot, label, address, minRssi, heq⟩
  · rwa [heq]
  · rw [heq]
    exact h.replace slot (lastSeenMs_configuredBleTag label address minRssi)

theorem Timed.tagClear {s : BleRun} (h : s.Timed) (payload : Str) :
    (s.next (.tagClear payload)).Timed := by
  rcases s.next_tagClear payload with heq | ⟨slot, heq⟩
  · rwa [heq]
  · rw [heq]
    exact h.replace slot rfl

/-- An advertisement that is recorded is shown to every tag. -/
theorem tag_advertisement (s : BleRun) {advertisedDevice : NimBLEAdvertisedDevice}
    (h : advertisedDevice.address ≠ []) (slot : Fin maxBleTags) :
    ∃ sighting : BleBeaconSighting, sighting.rssi = advertisedDevice.rssi ∧
      sighting.lastSeenMs = millis s.clock ∧
      (s.next (.advertisement advertisedDevice)).tag slot =
        (s.tag slot).notice (normalizeBleIdentityValue advertisedDevice.address) sighting := by
  simp only [next, tag, BleState.updateBleSighting, if_neg h, Function.update_self]
  exact ⟨_, rfl, rfl, rfl⟩

theorem Timed.advertisement {s : BleRun} (h : s.Timed) (advertisedDevice : NimBLEAdvertisedDevice) :
    (s.next (.advertisement advertisedDevice)).Timed := by
  by_cases hempty : advertisedDevice.address = []
  · have heq : s.next (.advertisement advertisedDevice) = s := by
      simp only [next, BleState.updateBleSighting, if_pos hempty]
    rwa [heq]
  have hrecorded (slot : Fin maxBleTags) : (s.next (.advertisement advertisedDevice)).recorded slot =
      (s.clock, advertisedDevice) :: s.recorded slot := by
    simp only [next, if_neg hempty]
  constructor
  · intro slot ad hmem
    rw [hrecorded] at hmem
    rcases List.mem_cons.1 hmem with rfl | hmem
    · exact le_rfl
    · exact h.recorded_le slot ad hmem
  · intro slot hoccupied
    obtain ⟨sighting, hrssi, hseen, htag⟩ := s.tag_advertisement hempty slot
    obtain ⟨hsame, hqualifies, hlast⟩ := (s.tag slot).notice_spec advertisedDevice hrssi s.clock
    rw [htag, hsame] at hoccupied
    rw [lastHeard, hrecorded, htag, hqualifies, hlast hoccupied, hseen, List.find?_cons]
    cases (s.tag slot).qualifies (s.clock, advertisedDevice) with
    | true => rfl
    | false => exact h.lastSeenMs_eq slot hoccupied

theorem Timed.next {s : BleRun} (h : s.Timed) (e : BleEvent) : (s.next e).Timed := by
  cases e with
  | boot stored => exact timed_loadBleTags stored
  | tagConfig payload => exact h.tagConfig payload
  | tagClear payload => exact h.tagClear payload
  | advertisement advertisedDevice => exact h.advertisement advertisedDevice
  | elapse ms => exact ⟨fun slot ad hmem => (h.recorded_le slot ad hmem).trans (Nat.le_add_right _ ms),
      h.lastSeenMs_eq⟩

theorem timed_of_reach {s : BleRun} (h : bleMachine.Reach Machine.Always s) :
    s.Timed ∧ s.clock < 2 ^ 32 := by
  refine h.invariant (I := fun s => s.Timed ∧ s.clock < 2 ^ 32) ?_ ?_
  · rintro s ⟨stored, rfl⟩
    exact ⟨timed_loadBleTags stored, Nat.two_pow_pos 32⟩
  · intro s e s' hs _ hstep
    obtain ⟨hclock, hnext⟩ := Option.ite_none_right_eq_some.1 hstep
    obtain rfl := Option.some.inj hnext
    exact ⟨hs.1.next e, hclock⟩

def present (s : BleRun) (slot : Fin maxBleTags) : Bool :=
  bleIdentityTagPresent (s.tag slot) (millis s.clock)

theorem Timed.present_iff {s : BleRun} (h : s.Timed) (hclock : s.clock < 2 ^ 32)
    (slot : Fin maxBleTags) : s.present slot = true ↔
      (s.tag slot).occupied = true ∧ s.clock - s.lastHeard slot ≤ 45000 := by
  rw [present, bleIdentityTagPresent, Bool.and_eq_true, decide_eq_true_iff]
  refine and_congr_right fun hoccupied => ?_
  have hle : s.lastHeard slot ≤ s.clock := by
    rw [lastHeard]
    cases hfind : (s.recorded slot).find? (s.tag slot).qualifies with
    | none => exact Nat.zero_le _
    | some ad => exact h.recorded_le slot ad (List.mem_of_find?_eq_some hfind)
  rw [h.lastSeenMs_eq slot hoccupied, UInt32.le_iff_toNat_le, toNat_millis_sub hle,
    Nat.mod_eq_of_lt (by omega)]
  rfl

/-- A tag is only present when it was heard, since it was configured and not long ago. -/
def PresentOnlyIfHeard (s : BleRun) (slot : Fin maxBleTags) : Prop :=
  s.present slot = true →
    ∃ ad ∈ s.recorded slot, (s.tag slot).qualifies ad = true ∧ s.clock - ad.1 ≤ 45000

end BleRun

/-- The tags that are present without having been heard are those that wait for their first
advertisement while the device has been running for at most as long as one stays fresh. -/
theorem presentOnlyIfHeard_iff {s : BleRun} (h : bleMachine.Reach Machine.Always s)
    (slot : Fin maxBleTags) : s.PresentOnlyIfHeard slot ↔
      (s.tag slot).occupied = false ∨ 45000 < s.clock ∨
        ∃ ad ∈ s.recorded slot, (s.tag slot).qualifies ad = true := by
  obtain ⟨htimed, hclock⟩ := BleRun.timed_of_reach h
  rw [BleRun.PresentOnlyIfHeard, htimed.present_iff hclock]
  cases hfind : (s.recorded slot).find? (s.tag slot).qualifies with
  | none =>
    have hnone : ¬ ∃ ad ∈ s.recorded slot, (s.tag slot).qualifies ad = true := by
      rintro ⟨ad, hmem, hqualifies⟩
      exact List.find?_eq_none.1 hfind ad hmem hqualifies
    have hlast : s.lastHeard slot = 0 := by rw [BleRun.lastHeard, hfind, Option.elim_none]
    rw [hlast, Nat.sub_zero]
    constructor
    · intro hheard
      by_contra hnot
      push Not at hnot
      obtain ⟨ad, hmem, hqualifies, -⟩ := hheard ⟨by simpa using hnot.1, hnot.2.1⟩
      exact hnone ⟨ad, hmem, hqualifies⟩
    · rintro (hfree | hlate | hheard) ⟨hoccupied, hearly⟩
      · rw [hfree] at hoccupied
        cases hoccupied
      · omega
      · exact absurd hheard hnone
  | some ad =>
    have hmem := List.mem_of_find?_eq_some hfind
    have hqualifies := List.find?_some hfind
    have hlast : s.lastHeard slot = ad.1 := by rw [BleRun.lastHeard, hfind, Option.elim_some]
    rw [hlast]
    exact iff_of_true (fun hpresent => ⟨ad, hmem, hqualifies, hpresent.2⟩)
      (.inr (.inr ⟨ad, hmem, hqualifies⟩))

/-- A device without any stored tag. -/
def freshBleRun : BleRun := BleRun.loadBleTags fun _ => {}

theorem reach_freshBleRun : bleMachine.Reach Machine.Always freshBleRun := .start ⟨_, rfl⟩

def keysSlot : Fin maxBleTags := ⟨0, by decide⟩

theorem presentOnlyIfHeard_keys : ∃ s, bleMachine.Reach Machine.Always s ∧
    s.present keysSlot = true ∧ (s.PresentOnlyIfHeard keysSlot ↔
      (s.tag keysSlot).occupied = false ∨ 45000 < s.clock ∨
        ∃ ad ∈ s.recorded keysSlot, (s.tag keysSlot).qualifies ad = true) := by
  obtain ⟨s, hreach, hpresent⟩ : ∃ s, bleMachine.Reach Machine.Always s ∧
      s.present keysSlot = true :=
    Machine.exists_reach_of_run reach_freshBleRun
      [.tagConfig "0|keys|AA:BB:CC|-80".toList, .elapse 50000,
        .advertisement { address := "aa:bb:cc".toList, rssi := -60 }] (by decide)
  exact ⟨s, hreach, hpresent, presentOnlyIfHeard_iff hreach keysSlot⟩

/-- A tag is present as soon as it is configured, without any advertisement. -/
theorem present_unheard : ¬ ∀ s, bleMachine.Reach Machine.Always s →
    ∀ slot, s.PresentOnlyIfHeard slot := by
  intro hall
  obtain ⟨s, hreach, hpresent, hnone⟩ : ∃ s, bleMachine.Reach Machine.Always s ∧
      s.present keysSlot = true ∧ (s.recorded keysSlot).isEmpty = true :=
    Machine.exists_reach_of_run reach_freshBleRun
      [.elapse 1000, .tagConfig "0|keys|AA:BB:CC|-80".toList] (by decide)
  obtain ⟨ad, hmem, -⟩ := hall s hreach keysSlot hpresent
  rw [List.isEmpty_iff.1 hnone] at hmem
  exact absurd hmem List.not_mem_nil

end EspWaveRider.Cpp
