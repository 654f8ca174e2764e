import EspWaveRider.Lib.Bounded

/-!
# Advertisements and scan responses

`BleScanHandler` of `rust/firmware/esp32s3/src/main.rs`.  The handler keeps the data of the last
advertisement for a scan response of the same device, and offers its messages to a channel that
the main loop empties.

* `emissions` — the message, if any, of each report;
* `lastAdv_after` — what the handler keeps after any reports;
* `bleReports_paired` — the reports a message is made of, in any order of reports.
-/

namespace EspWaveRider.Firmware

def maxBleAdvDataLen : ℕ := 31

def bleScanEventChannelCapacity : ℕ := 16

structure TroubleAddress where
  kind : UInt8
  addr : Vector UInt8 6
  deriving DecidableEq

/-- The arguments of `handle_report`. -/
structure AdReport where
  address : TroubleAddress
  rssi : Int8
  scanResponse : Bool
  data : List UInt8

structure BleScanEventMessage where
  address : Vector UInt8 6
  rssi : Int8
  advData : HVec UInt8 maxBleAdvDataLen
  scanData : HVec UInt8 maxBleAdvDataLen
  deriving DecidableEq

structure BleScanHandler where
  lastAdv : Option (TroubleAddress × HVec UInt8 maxBleAdvDataLen) := none

namespace AdReport

def copied (r : AdReport) : HVec UInt8 maxBleAdvDataLen :=
  let maxLen := min r.data.length maxBleAdvDataLen
  Bounded.empty.extendOrKeep (r.data.take maxLen)

/-- The message of a report. -/
def message (r : AdReport) (advData scanData : HVec UInt8 maxBleAdvDataLen) : BleScanEventMessage :=
  { address := r.address.addr, rssi := r.rssi, advData, scanData }

end AdReport

namespace BleScanHandler

/-- The handler after a report, and the message it offers to the channel. -/
def handleReport (h : BleScanHandler) (r : AdReport) :
    BleScanHandler × Option BleScanEventMessage :=
  if r.scanResponse then
    match h.lastAdv with
    | some (cachedAddress, cachedAdvData) =>
      if cachedAddress = r.address then
        ({ lastAdv := none }, some (r.message cachedAdvData r.copied))
      else ({ lastAdv := none }, none)
    | none => ({ lastAdv := none }, none)
  else ({ lastAdv := some (r.address, r.copied) }, some (r.message r.copied Bounded.empty))

/-- The handler after some reports. -/
def after (h : BleScanHandler) (reports : List AdReport) : BleScanHandler :=
  reports.foldl (fun h r => (h.handleReport r).1) h

/-- What each of some reports offers to the channel. -/
def emissions : BleScanHandler → List AdReport → List (Option BleScanEventMessage)
  | _, [] => []
  | h, r :: rest => (h.handleReport r).2 :: emissions (h.handleReport r).1 rest

end BleScanHandler

/-! ## The channel -/

structure BleScanSystem where
  handler : BleScanHandler := {}
  channel : List BleScanEventMessage := []
  /-- What `process_ble_scan_events` has seen. -/
  received : List BleScanEventMessage := []

inductive BleScanInput where
  | report (r : AdReport)
  /-- One `try_receive` of the main loop. -/
  | receive

namespace BleScanSystem

/-- `try_send`: a full channel drops the message. -/
def trySend (s : BleScanSystem) (e : BleScanEventMessage) : BleScanSystem :=
  if s.channel.length < bleScanEventChannelCapacity then { s with channel := s.channel ++ [e] }
  else s

def step (s : BleScanSystem) : BleScanInput → BleScanSystem
  | .report r =>
    let s' := { s with handler := (s.handler.handleReport r).1 }
    match (s.handler.handleReport r).2 with
    | some e => s'.trySend e
    | none => s'
  | .receive =>
    match s.channel with
    | [] => s
    | e :: rest => { s with channel := rest, received := s.received ++ [e] }

def run (s : BleScanSystem) (inputs : List BleScanInput) : BleScanSystem := inputs.foldl step s

end BleScanSystem

/-- The reports among some inputs. -/
def BleScanInput.reports (inputs : List BleScanInput) : List AdReport :=
  inputs.filterMap fun
    | .report r => some r
    | .receive => none

/-! ## What the handler keeps -/

theorem AdReport.items_copied (r : AdReport) : r.copied.items = r.data.take maxBleAdvDataLen := by
  have htake : r.data.take (min r.data.length maxBleAdvDataLen) = r.data.take maxBleAdvDataLen := by
    rw [List.take_eq_take_iff]
    omega
  have hfits : weight (fun _ : UInt8 => 1) (r.data.take maxBleAdvDataLen) ≤ maxBleAdvDataLen := by
    rw [weight_one, List.length_take]
    exact min_le_left _ _
  rw [copied, htake, Bounded.items_extendOrKeep, if_pos]
  · rfl
  · exact (Nat.zero_add _).trans_le hfits

/-- What the handler keeps of a report. -/
def AdReport.kept (r : AdReport) : Option (TroubleAddress × HVec UInt8 maxBleAdvDataLen) :=
  if r.scanResponse then none else some (r.address, r.copied)

namespace BleScanHandler

theorem lastAdv_handleReport (h : BleScanHandler) (r : AdReport) :
    (h.handleReport r).1.lastAdv = r.kept := by
  rw [handleReport, AdReport.kept]
  split_ifs with hscan
  · cases h.lastAdv with
    | none => rfl
    | some cached =>
      dsimp only
      split_ifs <;> rfl
  · rfl

/-- Only the last report counts. -/
theorem lastAdv_after (reports : List AdReport) :
    (after {} reports).lastAdv = reports.getLast?.bind AdReport.kept := by
  induction reports using List.reverseRecOn with
  | nil => rfl
  | append_singleton before r _ =>
    rw [after, List.foldl_append, List.getLast?_concat]
    exact lastAdv_handleReport _ r

theorem getElem?_emissions (h : BleScanHandler) (reports : List AdReport) (i : ℕ) :
    (h.emissions reports)[i]? =
      reports[i]?.map fun r => ((h.after (reports.take i)).handleReport r).2 := by
  induction reports generalizing h i with
  | nil => rfl
  | cons r rest ih =>
    rw [emissions]
    cases i with
    | zero => rfl
    | succ i =>
      rw [List.getElem?_cons_succ, List.getElem?_cons_succ, ih]
      rfl

/-- A scan response has a message only right behind an advertisement of its device. -/
theorem lastAdv_of_handleReport {h : BleScanHandler} {r : AdReport} {e : BleScanEventMessage}
    (hscan : r.scanResponse = true) (he : (h.handleReport r).2 = some e) :
    ∃ advData, h.lastAdv = some (r.address, advData) ∧ e = r.message advData r.copied := by
  rw [handleReport, if_pos hscan] at he
  cases hlast : h.lastAdv with
  | none =>
    rw [hlast] at he
    cases he
  | some cached =>
    obtain ⟨address, advData⟩ := cached
    rw [hlast] at he
    dsimp only at he
    split_ifs at he with haddress
    · cases he
      exact ⟨advData, by rw [haddress], rfl⟩

theorem handleReport_of_advertisement (h : BleScanHandler) {r : AdReport}
    (hadv : r.scanResponse = false) :
    (h.handleReport r).2 = some (r.message r.copied Bounded.empty) := by
  rw [handleReport, if_neg (by simp [hadv])]

end BleScanHandler

theorem AdReport.kept_eq_some {adv : AdReport} {address : TroubleAddress}
    {advData : HVec UInt8 maxBleAdvDataLen} (h : adv.kept = some (address, advData)) :
    adv.scanResponse = false ∧ adv.address = address ∧ adv.copied = advData := by
  rw [kept] at h
  split_ifs at h with hscan
  · cases h
    exact ⟨by simpa using hscan, rfl, rfl⟩

/-! ## Which reports make a message -/

open BleScanHandler

/-- The message of a scan response and the advertisement it belongs to. -/
structure MadeOf (e : BleScanEventMessage) (adv r : AdReport) : Prop where
  device : adv.address = r.address
  address : e.address = r.address.addr
  rssi : e.rssi = r.rssi
  advData : e.advData.items = adv.data.take maxBleAdvDataLen
  scanData : e.scanData.items = r.data.take maxBleAdvDataLen

section Reports

variable (reports : List AdReport)

/-- The `j`-th report is the last advertisement in front of the `i`-th. -/
structure LatestAdv (j i : ℕ) (adv : AdReport) : Prop where
  before : j < i
  report : reports[j]? = some adv
  advertisement : adv.scanResponse = false
  latest : ∀ k r, j < k → k < i → reports[k]? = some r → r.scanResponse = true

/-- The `i`-th report has this message. -/
def Emits (i : ℕ) (r : AdReport) (e : BleScanEventMessage) : Prop :=
  reports[i]? = some r ∧ (emissions {} reports)[i]? = some (some e)

/-- The `i`-th report is a scan response that has a message and follows the `j`-th. -/
def Combines (j i : ℕ) : Prop :=
  ∃ adv r e, LatestAdv reports j i adv ∧ Emits reports i r e ∧ r.scanResponse = true

/-- What the messages of some reports are made of. -/
structure Paired : Prop where
  /-- Every report has at most one message, an advertisement has exactly its own. -/
  length_eq : (emissions {} reports).length = reports.length
  own : ∀ (i : ℕ) (r : AdReport), reports[i]? = some r → r.scanResponse = false →
    (emissions {} reports)[i]? = some (some (r.message r.copied Bounded.empty))
  /-- Scan data comes from the report itself, and the rest from the advertisement before it. -/
  combined : ∀ i (r : AdReport) e, Emits reports i r e → r.scanResponse = true ∨ e.scanData.items ≠ [] →
    ∃ j adv, LatestAdv reports j i adv ∧ MadeOf e adv r
  once : ∀ j i i', Combines reports j i → Combines reports j i' → i = i'

variable {reports}

theorem Emits.handleReport {i : ℕ} {r : AdReport} {e : BleScanEventMessage}
    (h : Emits reports i r e) : ((after {} (reports.take i)).handleReport r).2 = some e := by
  have hmessage := h.2
  rw [getElem?_emissions, h.1, Option.map_some, Option.some_inj] at hmessage
  exact hmessage

/-- The advertisement of a message is the report right in front of it. -/
theorem Emits.exists_advertisement {i : ℕ} {r : AdReport} {e : BleScanEventMessage}
    (h : Emits reports i r e) (hscan : r.scanResponse = true) :
    ∃ j adv, i = j + 1 ∧ reports[j]? = some adv ∧ adv.scanResponse = false ∧
      adv.address = r.address ∧ e = r.message adv.copied r.copied := by
  obtain ⟨advData, hlast, rfl⟩ := lastAdv_of_handleReport hscan h.handleReport
  rw [lastAdv_after] at hlast
  obtain ⟨adv, hadv, hkept⟩ := Option.bind_eq_some_iff.1 hlast
  obtain ⟨hadvertisement, haddress, rfl⟩ := AdReport.kept_eq_some hkept
  have hi : i < reports.length := List.getElem?_eq_some_iff.1 h.1 |>.1
  cases i with
  | zero => simp at hadv
  | succ j =>
    rw [List.getLast?_take, if_neg (Nat.succ_ne_zero j), Nat.add_sub_cancel,
      List.getElem?_eq_getElem (by omega), Option.some_or] at hadv
    refine ⟨j, adv, rfl, ?_, hadvertisement, haddress, rfl⟩
    rw [List.getElem?_eq_getElem (by omega)]
    exact hadv

theorem Emits.exists_latestAdv {i : ℕ} {r : AdReport} {e : BleScanEventMessage}
    (h : Emits reports i r e) (hscan : r.scanResponse = true) :
    ∃ j adv, LatestAdv reports j i adv ∧ MadeOf e adv r := by
  obtain ⟨j, adv, rfl, hadv, hadvertisement, haddress, rfl⟩ := h.exists_advertisement hscan
  refine ⟨j, adv, ⟨by omega, hadv, hadvertisement, ?_⟩,
    ⟨haddress, rfl, rfl, adv.items_copied, r.items_copied⟩⟩
  intro k r hj hk
  omega

/-- An advertisement is combined with the report right behind it, or with none. -/
theorem Combines.eq_succ {j i : ℕ} (h : Combines reports j i) : i = j + 1 := by
  obtain ⟨adv, r, e, hlatest, hemits, hscan⟩ := h
  obtain ⟨j', adv', rfl, hadv', hadvertisement', _⟩ := hemits.exists_advertisement hscan
  have hle : j ≤ j' := Nat.le_of_lt_succ hlatest.before
  rcases hle.eq_or_lt with rfl | hlt
  · rfl
  · have hscan' := hlatest.latest j' adv' hlt (by omega) hadv'
    rw [hadvertisement'] at hscan'
    cases hscan'

theorem own_of_advertisement {i : ℕ} {r : AdReport} (h : reports[i]? = some r)
    (hadv : r.scanResponse = false) :
    (emissions {} reports)[i]? = some (some (r.message r.copied Bounded.empty)) := by
  rw [getElem?_emissions, h, Option.map_some, handleReport_of_advertisement _ hadv]

theorem length_emissions (h : BleScanHandler) (reports : List AdReport) :
    (h.emissions reports).length = reports.length := by
  induction reports generalizing h with
  | nil => rfl
  | cons r rest ih => rw [emissions, List.length_cons, ih, List.length_cons]

theorem paired (reports : List AdReport) : Paired reports where
  length_eq := length_emissions {} reports
  own := fun _ _ h hadv => own_of_advertisement h hadv
  combined := by
    rintro i r e hemits (hscan | hdata)
    · exact hemits.exists_latestAdv hscan
    · cases hscan : r.scanResponse with
      | true => exact hemits.exists_latestAdv hscan
      | false =>
        have hown := handleReport_of_advertisement (after {} (reports.take i)) hscan
        cases hown.symm.trans hemits.handleReport
        exact absurd rfl hdata
  once := fun _ _ _ h h' => h.eq_succ.trans h'.eq_succ.symm

end Reports

/-! ## What the main loop sees -/

namespace BleScanSystem

theorem step_report (s : BleScanSystem) (r : AdReport) :
    (s.step (.report r)).handler = (s.handler.handleReport r).1 ∧
      (s.step (.report r)).received = s.received := by
  rw [step]
  cases (s.handler.handleReport r).2 with
  | none => exact ⟨rfl, rfl⟩
  | some e =>
    dsimp only [trySend]
    split_ifs <;> exact ⟨rfl, rfl⟩

theorem channel_step_report (s : BleScanSystem) (r : AdReport) :
    (s.step (.report r)).channel =
      if s.channel.length < bleScanEventChannelCapacity then
        s.channel ++ (s.handler.handleReport r).2.toList
      else s.channel := by
  rw [step]
  cases (s.handler.handleReport r).2 with
  | none => simp
  | some e =>
    dsimp only [trySend]
    split_ifs <;> rfl

theorem step_receive (s : BleScanSystem) :
    (s.step .receive).handler = s.handler ∧
      (s.step .receive).received ++ (s.step .receive).channel = s.received ++ s.channel := by
  rw [step]
  cases hchannel : s.channel with
  | nil => exact ⟨rfl, by rw [hchannel]⟩
  | cons e rest => exact ⟨rfl, List.append_assoc ..⟩

theorem handler_run (s : BleScanSystem) (inputs : List BleScanInput) :
    (s.run inputs).handler = s.handler.after (BleScanInput.reports inputs) := by
  induction inputs generalizing s with
  | nil => rfl
  | cons input inputs ih =>
    rw [run, List.foldl_cons, ← run, ih]
    cases input with
    | report r =>
      rw [(s.step_report r).1]
      rfl
    | receive =>
      rw [s.step_receive.1]
      rfl

/-- The main loop receives messages of the handler in their order. -/
theorem exists_messages_run (s : BleScanSystem) (inputs : List BleScanInput) :
    ∃ messages, (s.run inputs).received ++ (s.run inputs).channel =
        s.received ++ s.channel ++ messages ∧
      messages.Sublist (s.handler.emissions (BleScanInput.reports inputs)).reduceOption := by
  induction inputs generalizing s with
  | nil => exact ⟨[], (List.append_nil _).symm, List.Sublist.refl _⟩
  | cons input inputs ih =>
    rw [run, List.foldl_cons, ← run]
    obtain ⟨messages, hreceived, hsublist⟩ := ih (s.step input)
    rw [hreceived]
    cases input with
    | receive =>
      rw [s.step_receive.1] at hsublist
      exact ⟨messages, by rw [s.step_receive.2], hsublist⟩
    | report r =>
      rw [(s.step_report r).1] at hsublist
      have hemissions : (s.handler.emissions (BleScanInput.reports (.report r :: inputs))).reduceOption =
          (s.handler.handleReport r).2.toList ++
            ((s.handler.handleReport r).1.emissions (BleScanInput.reports inputs)).reduceOption := by
        have hreports : BleScanInput.reports (.report r :: inputs) =
            r :: BleScanInput.reports inputs := rfl
        rw [hreports, emissions]
        cases (s.handler.handleReport r).2 <;> rfl
      rw [(s.step_report r).2, channel_step_report, hemissions]
      split_ifs with hroom
      · refine ⟨(s.handler.handleReport r).2.toList ++ messages, by simp, ?_⟩
        exact (List.Sublist.refl _).append hsublist
      · exact ⟨messages, rfl, hsublist.trans (List.sublist_append_right _ _)⟩

end BleScanSystem

/-- Whatever reports come in whatever order, messages are made of the reports of one device; the
main loop sees them in their order, and a message is lost only when the channel is full. -/
theorem bleReports_paired (inputs : List BleScanInput) :
    let reports := BleScanInput.reports inputs
    let s := BleScanSystem.run {} inputs
    Paired reports ∧
      (s.received ++ s.channel).Sublist (emissions {} reports).reduceOption ∧
      ∀ r, s.channel.length < bleScanEventChannelCapacity →
        (s.step (.report r)).channel =
          s.channel ++ ((after {} reports).handleReport r).2.toList := by
  dsimp only
  refine ⟨paired _, ?_, fun r hroom => ?_⟩
  · obtain ⟨messages, hreceived, hsublist⟩ := BleScanSystem.exists_messages_run {} inputs
    rw [hreceived]
    exact hsublist
  · rw [BleScanSystem.channel_step_report, if_pos hroom, BleScanSystem.handler_run]

end EspWaveRider.Firmware
