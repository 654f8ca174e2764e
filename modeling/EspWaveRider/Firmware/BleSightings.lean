import EspWaveRider.Firmware.Configuration
import EspWaveRider.Lib.SlotTable

/-!
# The store of BLE sightings

`record_ble_advertisement` of `rust/crates/espwaverider-core/src/ble.rs`.  An advertisement is
kept in the slot of its address, or else in the first free one, or else in place of the sighting
that is the oldest; tags with its address note that it was heard.

* `scanSightings_finRange` — the loop over the sightings finds the slot of a `SlotTable`;
* `recordBleAdvertisement_spec` — what one call does;
* `bleSightings_recorded` — every call of any sequence, from an empty store on.
-/

namespace EspWaveRider.Firmware

open Text SlotTable

structure BleBeaconSightingState where
  occupied : Bool := false
  address : Str := []
  name : Str := []
  serviceUuid : Str := []
  rssi : ℤ := 0
  lastSeenMs : ℕ := 0
  deriving DecidableEq

/-- What a call is told. -/
structure BleAdvertisement where
  address : Str
  name : Str
  serviceUuid : Str
  rssi : ℤ
  nowMs : ℕ

def BleAdvertisement.sighting (ad : BleAdvertisement) : BleBeaconSightingState :=
  { occupied := true, address := ad.address, name := ad.name, serviceUuid := ad.serviceUuid
    rssi := ad.rssi, lastSeenMs := ad.nowMs }

/-- What a call changes in a tag. -/
def BleIdentityTagState.notice (tag : BleIdentityTagState) (normalizedAddress : Str)
    (rssi : ℤ) (nowMs : ℕ) : BleIdentityTagState :=
  if !tag.occupied ∨ tag.address ≠ normalizedAddress ∨ rssi < tag.minRssi then tag
  else { tag with lastRssi := rssi, lastSeenMs := nowMs }

structure BleStore (n : ℕ) where
  sightings : Fin n → BleBeaconSightingState
  tags : List BleIdentityTagState

section Slots

variable {n : ℕ} (sightings : Fin n → BleBeaconSightingState)

/-- The loop over the sightings: it stops at the address and remembers the first free slot. -/
def scanSightings (address : Str) : List (Fin n) → Option (Fin n) → Option (Fin n)
  | [], slot => slot
  | index :: rest, slot =>
    if (sightings index).occupied ∧ (sightings index).address = address then some index
    else scanSightings address rest
      (if !(sightings index).occupied ∧ slot.isNone then some index else slot)

/-- `min_by_key`, which takes the first of the oldest. -/
def oldestSighting : Option (Fin n) :=
  (List.finRange n).argmin fun index => (sightings index).lastSeenMs

/-- The slot of an address; there is none only if there are no slots. -/
def sightingSlot (address : Str) : Option (Fin n) :=
  (scanSightings sightings address (List.finRange n) none).or (oldestSighting sightings)

end Slots

def recordBleAdvertisement {n : ℕ} (store : BleStore n) (ad : BleAdvertisement) : BleStore n :=
  if ad.address = [] then store
  else match sightingSlot store.sightings ad.address with
    | none => store
    | some slot =>
      { sightings := Function.update store.sightings slot ad.sighting
        tags := store.tags.map
          (·.notice (normalizeBleIdentityValue ad.address) ad.rssi ad.nowMs) }

/-! ## The slot -/

section Slots

variable {n : ℕ} {sightings : Fin n → BleBeaconSightingState}

/-- The sightings in use, by their addresses. -/
abbrev HasSighting (sightings : Fin n → BleBeaconSightingState) (address : Str) : Prop :=
  HasKey BleBeaconSightingState.occupied BleBeaconSightingState.address sightings address

theorem scanSightings_eq (address : Str) (indices : List (Fin n)) (slot : Option (Fin n)) :
    scanSightings sightings address indices slot =
      (indices.find? fun i => (sightings i).occupied && (sightings i).address = address).or
        (slot.or (indices.find? fun i => !(sightings i).occupied)) := by
  induction indices generalizing slot with
  | nil => cases slot <;> rfl
  | cons index rest ih =>
    rw [scanSightings]
    by_cases hown : (sightings index).occupied ∧ (sightings index).address = address
    · rw [if_pos hown, List.find?_cons_of_pos (by simpa using hown)]
      rfl
    · rw [if_neg hown, List.find?_cons_of_neg (by simpa using hown), ih]
      congr 1
      cases hfree : (sightings index).occupied with
      | true => simp [hfree]
      | false => cases slot <;> simp [hfree]

/-- The loop finds the slot of the table. -/
theorem scanSightings_finRange (address : Str) :
    scanSightings sightings address (List.finRange n) none =
      slot BleBeaconSightingState.occupied BleBeaconSightingState.address sightings address := by
  rw [scanSightings_eq, slot, Fin.find?_eq_find?_finRange, Fin.find?_eq_find?_finRange]
  rfl

/-- The slot that a new sighting takes. -/
inductive Takes (sightings : Fin n → BleBeaconSightingState) (address : Str) (i : Fin n) : Prop
  | own (hoccupied : (sightings i).occupied = true) (haddress : (sightings i).address = address)
  | free (hnew : ¬ HasSighting sightings address) (hfree : (sightings i).occupied = false)
  | oldest (hnew : ¬ HasSighting sightings address) (hfull : ∀ j, (sightings j).occupied = true)
      (hage : ∀ j, (sightings i).lastSeenMs ≤ (sightings j).lastSeenMs)

theorem exists_oldestSighting (hn : 0 < n) : ∃ i, oldestSighting sightings = some i ∧
    ∀ j, (sightings i).lastSeenMs ≤ (sightings j).lastSeenMs := by
  have hne : oldestSighting sightings ≠ none := by
    rw [oldestSighting, Ne, List.argmin_eq_none, List.finRange_eq_nil_iff]
    omega
  obtain ⟨i, hi⟩ := Option.ne_none_iff_exists'.1 hne
  refine ⟨i, hi, fun j => ?_⟩
  have hmem : i ∈ (List.finRange n).argmin fun index => (sightings index).lastSeenMs := hi
  have hle := List.le_of_mem_argmin (List.mem_finRange j) hmem
  exact hle

theorem exists_sightingSlot (hn : 0 < n) (address : Str) :
    ∃ i, sightingSlot sightings address = some i ∧ Takes sightings address i := by
  rw [sightingSlot, scanSightings_finRange]
  rcases slot_cases BleBeaconSightingState.occupied BleBeaconSightingState.address sightings address
    with ⟨i, hslot, hoccupied, haddress⟩ | ⟨hnew, i, hslot, hfree⟩ | ⟨hnew, hslot, hfull⟩
  · exact ⟨i, by rw [hslot]; rfl, .own hoccupied haddress⟩
  · exact ⟨i, by rw [hslot]; rfl, .free hnew hfree⟩
  · obtain ⟨i, hi, hage⟩ := @exists_oldestSighting n sightings hn
    exact ⟨i, by rw [hslot, hi]; rfl, .oldest hnew hfull hage⟩

end Slots

/-! ## One call -/

/-- An advertisement of this tag that is strong enough. -/
def BleIdentityTagState.Hears (tag : BleIdentityTagState) (ad : BleAdvertisement) : Prop :=
  tag.occupied = true ∧ tag.address = normalizeBleIdentityValue ad.address ∧ tag.minRssi ≤ ad.rssi

/-- A tag before and after a call. -/
structure TagNoted (ad : BleAdvertisement) (tag tag' : BleIdentityTagState) : Prop where
  heard : tag.Hears ad → tag' = { tag with lastRssi := ad.rssi, lastSeenMs := ad.nowMs }
  unheard : ¬ tag.Hears ad → tag' = tag

theorem tagNoted_notice (ad : BleAdvertisement) (tag : BleIdentityTagState) :
    TagNoted ad tag
      (tag.notice (normalizeBleIdentityValue ad.address) ad.rssi ad.nowMs) := by
  have hskipped : (!tag.occupied ∨ tag.address ≠ normalizeBleIdentityValue ad.address ∨
      ad.rssi < tag.minRssi) ↔ ¬ tag.Hears ad := by
    rw [BleIdentityTagState.Hears, not_and_or, not_and_or, not_le]
    simp
  unfold BleIdentityTagState.notice
  refine ⟨fun hheard => ?_, fun hnot => ?_⟩
  · rw [if_neg fun h => hskipped.1 h hheard]
  · rw [if_pos (hskipped.2 hnot)]

section Calls

variable {n : ℕ}

/-- A store before and after a call with an address. -/
structure Recorded (ad : BleAdvertisement) (store store' : BleStore n) : Prop where
  /-- Exactly one sighting in use has the address. -/
  unique : ∃! i, (store'.sightings i).occupied = true ∧ (store'.sightings i).address = ad.address
  /-- It holds what the call was told. -/
  holds : ∀ i, (store'.sightings i).occupied = true → (store'.sightings i).address = ad.address →
    store'.sightings i = ad.sighting
  /-- The others are as they were, up to one of the oldest that made room. -/
  others : ∃ i, Takes store.sightings ad.address i ∧ store'.sightings i = ad.sighting ∧
    ∀ j, j ≠ i → store'.sightings j = store.sightings j
  tags : List.Forall₂ (TagNoted ad) store.tags store'.tags

/-- No address has two sightings. -/
abbrev BleStore.Distinct (store : BleStore n) : Prop :=
  SlotTable.Distinct BleBeaconSightingState.occupied BleBeaconSightingState.address store.sightings

theorem recordBleAdvertisement_of_noAddress (store : BleStore n) {ad : BleAdvertisement}
    (h : ad.address = []) : recordBleAdvertisement store ad = store := if_pos h

/-- One call takes one slot; the tags follow. -/
theorem recordBleAdvertisement_spec (hn : 0 < n) (store : BleStore n) {ad : BleAdvertisement}
    (h : ad.address ≠ []) : ∃ i, Takes store.sightings ad.address i ∧
      recordBleAdvertisement store ad =
        { sightings := Function.update store.sightings i ad.sighting
          tags := store.tags.map
            (·.notice (normalizeBleIdentityValue ad.address) ad.rssi ad.nowMs) } := by
  obtain ⟨i, hslot, htakes⟩ := @exists_sightingSlot n store.sightings hn ad.address
  refine ⟨i, htakes, ?_⟩
  rw [recordBleAdvertisement, if_neg h, hslot]

/-- The other sightings have other addresses. -/
theorem Takes.address_ne {store : BleStore n} {address : Str} {i : Fin n}
    (h : Takes store.sightings address i) (hdistinct : store.Distinct) {j : Fin n} (hj : j ≠ i)
    (hoccupied : (store.sightings j).occupied = true) : (store.sightings j).address ≠ address := by
  intro haddress
  cases h with
  | own hi hiaddress => exact hj (hdistinct j i hoccupied hi (haddress.trans hiaddress.symm))
  | free hnew _ => exact hnew ⟨j, hoccupied, haddress⟩
  | oldest hnew _ _ => exact hnew ⟨j, hoccupied, haddress⟩

theorem distinct_recordBleAdvertisement {store : BleStore n} (h : store.Distinct)
    (ad : BleAdvertisement) : (recordBleAdvertisement store ad).Distinct := by
  by_cases haddress : ad.address = []
  · rw [recordBleAdvertisement_of_noAddress store haddress]
    exact h
  · rcases Nat.eq_zero_or_pos n with rfl | hn
    · exact fun i => i.elim0
    · obtain ⟨i, htakes, hstore⟩ := recordBleAdvertisement_spec hn store haddress
      rw [hstore]
      exact h.update fun j hj hoccupied => htakes.address_ne h hj hoccupied

theorem recorded_recordBleAdvertisement (hn : 0 < n) {store : BleStore n} (h : store.Distinct)
    {ad : BleAdvertisement} (haddress : ad.address ≠ []) :
    Recorded ad store (recordBleAdvertisement store ad) := by
  obtain ⟨i, htakes, hstore⟩ := recordBleAdvertisement_spec hn store haddress
  rw [hstore]
  have hself : Function.update store.sightings i ad.sighting i = ad.sighting :=
    Function.update_self ..
  have hother (j : Fin n) (hj : j ≠ i) :
      Function.update store.sightings i ad.sighting j = store.sightings j :=
    Function.update_of_ne hj ..
  have honly : ∀ j, (Function.update store.sightings i ad.sighting j).occupied = true →
      (Function.update store.sightings i ad.sighting j).address = ad.address → j = i := by
    intro j hoccupied hj
    by_contra hne
    rw [hother j hne] at hoccupied hj
    exact htakes.address_ne h hne hoccupied hj
  refine ⟨⟨i, ?_, fun j hj => honly j hj.1 hj.2⟩, ?_, ⟨i, htakes, hself, hother⟩, ?_⟩
  · dsimp only
    rw [hself]
    exact ⟨rfl, rfl⟩
  · intro j hoccupied hj
    rw [honly j hoccupied hj]
    exact hself
  · rw [List.forall₂_map_right_iff, List.forall₂_same]
    exact fun tag _ => tagNoted_notice ad tag

/-! ## Any sequence of calls -/

theorem distinct_foldl {store : BleStore n} (h : store.Distinct) (calls : List BleAdvertisement) :
    (calls.foldl recordBleAdvertisement store).Distinct := by
  induction calls generalizing store with
  | nil => exact h
  | cons ad calls ih => exact ih (distinct_recordBleAdvertisement h ad)

/-- After any calls on a store without sightings, no address has two sightings, and the next
call is recorded; one without an address changes nothing. -/
theorem bleSightings_recorded (hn : 0 < n) (store : BleStore n)
    (hempty : ∀ i, (store.sightings i).occupied = false) (calls : List BleAdvertisement)
    (ad : BleAdvertisement) :
    let before := calls.foldl recordBleAdvertisement store
    let after := recordBleAdvertisement before ad
    before.Distinct ∧ after.Distinct ∧ (ad.address ≠ [] → Recorded ad before after) ∧
      (ad.address = [] → after = before) := by
  dsimp only
  have hstart : store.Distinct := by
    intro i _ hi
    rw [hempty i] at hi
    cases hi
  have hbefore := distinct_foldl hstart calls
  exact ⟨hbefore, distinct_recordBleAdvertisement hbefore ad,
    recorded_recordBleAdvertisement hn hbefore, recordBleAdvertisement_of_noAddress _⟩

end Calls

/-- A beacon that is heard twice by a store with one slot. -/
def doorBeacon : BleAdvertisement := ⟨"AA:BB", "door", "180d", -60, 5⟩

theorem bleSightings_recorded_door :
    let before := [doorBeacon].foldl recordBleAdvertisement (⟨fun _ : Fin 1 => {}, [{}]⟩)
    let after := recordBleAdvertisement before doorBeacon
    before.Distinct ∧ after.Distinct ∧ (doorBeacon.address ≠ [] → Recorded doorBeacon before after) ∧
      (doorBeacon.address = [] → after = before) :=
  bleSightings_recorded (by decide) ⟨fun _ => {}, [{}]⟩ (fun _ => rfl) [doorBeacon] doorBeacon

end EspWaveRider.Firmware
