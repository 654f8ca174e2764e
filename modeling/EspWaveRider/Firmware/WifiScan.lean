import EspWaveRider.Firmware.Announce
import EspWaveRider.Firmware.WifiRuntime
import EspWaveRider.Lib.JsonGrammar

/-!
# The results of a scan

`wifi_scan_results_json` of `rust/firmware/esp32s3/src/main.rs` lists the networks in reach, with the
names that their owners chose.

* `wifiScanResultsJson_eq` — the text, as a JSON object;
* `chars_escapeJson` — a name without control characters is a string literal;
* `describesNetworks_iff` — when the text is JSON and lists the networks.
-/

namespace EspWaveRider.Firmware

open Text JsonGrammar

inductive AuthenticationMethod where
  | none
  | wep
  | wpa
  | wpa2Personal
  | wpaWpa2Personal
  | wpa2Enterprise
  | wpa3Personal
  | wpa2Wpa3Personal
  | wapiPersonal
  | owe
  | wpa3EntSuiteB192Bit
  | wpa3ExtPsk
  | wpa3ExtPskMixed
  | dpp
  | wpa3Enterprise
  | wpa2Wpa3Enterprise
  | wpaEnterprise
  deriving DecidableEq

/-- An access point as a scan finds it. -/
structure ScannedAccessPoint extends AccessPointInfo where
  ssid : Str
  authMethod : Option AuthenticationMethod

/-- A slice on a target of 32 bits. -/
structure ScanResults where
  networks : List ScannedAccessPoint
  length_le : networks.length ≤ u32Max

/-! ## The text -/

def appendU32 (output : Str) (value : ℕ) : Str :=
  (digitsLoop 10 value).reverse.foldl (fun output digit => output ++ [digitChar digit]) output

def appendI32 (output : Str) (value : ℤ) : Str :=
  if value < 0 then appendU32 (output ++ ['-']) value.natAbs else appendU32 output value.toNat

def pushJsonStringString (payload value : Str) : Str :=
  value.foldl (fun payload ch => payload ++ escapeJsonChar ch) (payload ++ ['"']) ++ ['"']

def pushJsonStringFieldString (payload key value : Str) : Str :=
  pushJsonStringString (payload ++ ['"'] ++ key ++ ['"', ':']) value

def wifiAuthModeLabel : Option AuthenticationMethod → Str
  | some .none => "OPEN"
  | some .wep => "WEP"
  | some .wpa => "WPA_PSK"
  | some .wpa2Personal => "WPA2_PSK"
  | some .wpaWpa2Personal => "WPA_WPA2_PSK"
  | some .wpa2Enterprise => "WPA2_ENTERPRISE"
  | some .wpa3Personal => "WPA3_PSK"
  | some .wpa2Wpa3Personal => "WPA2_WPA3_PSK"
  | some .wapiPersonal => "WAPI_PSK"
  | _ => "UNKNOWN"

/-- The body of the loop. -/
def pushNetwork (body : Str) (entry : ScannedAccessPoint × ℕ) : Str :=
  let (network, index) := entry
  let body := if index > 0 then body ++ [','] else body
  let body := body ++ ['{']
  let body := pushJsonStringFieldString body "ssid" network.ssid
  let body := body ++ ",\"bssid\":"
  let body := pushJsonStringString body (macAddressString network.bssid)
  let body := body ++ ",\"auth_mode\":"
  let body := pushJsonStringString body (wifiAuthModeLabel network.authMethod)
  let body := body ++ ",\"rssi\":"
  let body := appendI32 body network.signalStrength.toInt
  let body := body ++ ",\"channel\":"
  let body := appendU32 body network.channel.toNat
  let body := body ++ ",\"open\":"
  let body := body ++ (if network.authMethod = some .none then "true" else "false" : Str)
  body ++ ['}']

def wifiScanResultsJson (results : ScanResults) : Str :=
  let body : Str := "\x7b\"event\":\"wifi_scan_results\",\"count\":"
  let body := appendU32 body (min results.networks.length u32Max)
  let body := body ++ ",\"networks\":["
  let body := results.networks.zipIdx.foldl pushNetwork body
  body ++ "]\x7d"

/-! ## As members and items -/

theorem foldl_append_map {α β : Type} (f : α → β) (l : List α) (output : List β) :
    l.foldl (fun output a => output ++ [f a]) output = output ++ l.map f := by
  induction l generalizing output with
  | nil => simp
  | cons a l ih => rw [List.foldl_cons, ih, List.map_cons, List.append_assoc, List.singleton_append]

theorem appendU32_eq (output : Str) (value : ℕ) : appendU32 output value = output ++ u32Text value :=
  foldl_append_map digitChar _ output

theorem appendI32_eq (output : Str) (value : ℤ) : appendI32 output value = output ++ i32Text value := by
  rw [appendI32, i32Text]
  split
  · rw [appendU32_eq, List.append_assoc, List.singleton_append]
  · rw [appendU32_eq]

/-- A string literal. -/
def literal (value : Str) : Str := '"' :: (escapeJson value ++ ['"'])

theorem pushJsonStringString_eq (payload value : Str) :
    pushJsonStringString payload value = payload ++ literal value := by
  have hfold (payload : Str) : value.foldl (fun payload ch => payload ++ escapeJsonChar ch) payload =
      payload ++ escapeJson value := by
    induction value generalizing payload with
    | nil => simp [escapeJson]
    | cons c value ih =>
      rw [List.foldl_cons, ih, escapeJson, escapeJson, List.flatMap_cons, List.append_assoc]
  rw [pushJsonStringString, hfold, literal]
  simp

/-- `"key":value`. -/
def memberText (key value : Str) : Str := '"' :: (key ++ '"' :: ':' :: value)

def networkMembers (network : ScannedAccessPoint) : List Str :=
  [memberText "ssid" (literal network.ssid),
   memberText "bssid" (literal (macAddressString network.bssid)),
   memberText "auth_mode" (literal (wifiAuthModeLabel network.authMethod)),
   memberText "rssi" (i32Text network.signalStrength.toInt),
   memberText "channel" (u32Text network.channel.toNat),
   memberText "open" (if network.authMethod = some .none then "true" else "false" : Str)]

def networkText (network : ScannedAccessPoint) : Str :=
  '{' :: ([','].intercalate (networkMembers network) ++ ['}'])

theorem pushNetwork_eq (body : Str) (network : ScannedAccessPoint) (index : ℕ) :
    pushNetwork body (network, index) =
      body ++ ((if index > 0 then [','] else []) ++ networkText network) := by
  have hopen : body ++ (if index > 0 then [','] else []) = if index > 0 then body ++ [','] else body := by
    split
    · rfl
    · exact List.append_nil body
  have hjoin : networkText network = '{' :: (memberText "ssid" (literal network.ssid) ++ ',' ::
      (memberText "bssid" (literal (macAddressString network.bssid)) ++ ',' ::
      (memberText "auth_mode" (literal (wifiAuthModeLabel network.authMethod)) ++ ',' ::
      (memberText "rssi" (i32Text network.signalStrength.toInt) ++ ',' ::
      (memberText "channel" (u32Text network.channel.toNat) ++ ',' ::
      (memberText "open" (if network.authMethod = some .none then "true" else "false" : Str) ++ ['}'])))))) := by
    simp [networkText, networkMembers, List.intercalate]
  rw [← List.append_assoc, hopen, hjoin, pushNetwork]
  simp only [pushJsonStringFieldString, pushJsonStringString_eq, appendI32_eq, appendU32_eq,
    List.append_assoc, memberText, List.cons_append]
  rfl

/-- The networks behind the first one. -/
theorem foldl_pushNetwork (networks : List ScannedAccessPoint) (body : Str) (index : ℕ) :
    (networks.zipIdx (index + 1)).foldl pushNetwork body =
      body ++ networks.flatMap fun network => ',' :: networkText network := by
  induction networks generalizing body index with
  | nil => simp
  | cons network networks ih =>
    rw [List.zipIdx_cons, List.foldl_cons, pushNetwork_eq, if_pos (Nat.succ_pos _), ih,
      List.flatMap_cons, List.append_assoc]
    rfl

theorem foldl_pushNetwork_zero (networks : List ScannedAccessPoint) (body : Str) :
    networks.zipIdx.foldl pushNetwork body = body ++ [','].intercalate (networks.map networkText) := by
  cases networks with
  | nil => simp [List.intercalate]
  | cons network networks =>
    have hjoin (texts : List Str) (text : Str) : [','].intercalate (text :: texts) =
        text ++ texts.flatMap fun text => ',' :: text := by
      induction texts generalizing text with
      | nil => simp
      | cons next texts ih =>
        rw [List.intercalate_cons_cons, ih, List.flatMap_cons, List.append_assoc]
        rfl
    rw [List.zipIdx_cons, List.foldl_cons, pushNetwork_eq, if_neg (Nat.lt_irrefl 0),
      foldl_pushNetwork, List.map_cons, hjoin, List.flatMap_map, List.append_assoc]
    rfl

def scanMembers (results : ScanResults) : List Str :=
  [memberText "event" (literal "wifi_scan_results"),
   memberText "count" (u32Text results.networks.length),
   memberText "networks" ('[' :: ([','].intercalate (results.networks.map networkText) ++ [']']))]

theorem wifiScanResultsJson_eq (results : ScanResults) :
    wifiScanResultsJson results = '{' :: ([','].intercalate (scanMembers results) ++ ['}']) := by
  have hjoin : '{' :: ([','].intercalate (scanMembers results) ++ ['}']) =
      '{' :: (memberText "event" (literal "wifi_scan_results") ++ ',' ::
        (memberText "count" (u32Text results.networks.length) ++ ',' ::
        (memberText "networks" ('[' :: ([','].intercalate (results.networks.map networkText) ++ [']'])) ++
          ['}']))) := by
    simp [scanMembers, List.intercalate]
  rw [hjoin, wifiScanResultsJson, appendU32_eq, Nat.min_eq_left results.length_le,
    foldl_pushNetwork_zero]
  simp only [memberText, List.append_assoc, List.cons_append]
  rfl

/-! ## What the parts denote -/

theorem chars_escapeJsonChar {c : Char} (hc : Allowed c) {t : Str} {s : List ℕ} (h : Chars t s) :
    Chars (escapeJsonChar c ++ t) (utf16Char c ++ s) := by
  unfold escapeJsonChar
  split
  case h_1 | h_2 | h_3 | h_4 | h_5 => exact Chars.escape (by decide) h
  case h_6 hbackslash hquote hfeed hreturn htab =>
    refine Chars.plain ⟨?_, hquote, hbackslash⟩ h
    rcases hc with hc | rfl | rfl | rfl
    · exact hc
    · exact absurd rfl htab
    · exact absurd rfl hfeed
    · exact absurd rfl hreturn

theorem chars_escapeJson {value : Str} (h : ∀ c ∈ value, Allowed c) :
    Chars (escapeJson value) (utf16 value) := by
  induction value with
  | nil => exact Chars.nil
  | cons c value ih =>
    exact chars_escapeJsonChar (h c (List.mem_cons_self ..))
      (ih fun d hd => h d (List.mem_cons_of_mem _ hd))

theorem denotes_literal {value : Str} (h : ∀ c ∈ value, Allowed c) :
    Denotes (literal value) (.value (.string (utf16 value))) :=
  Denotes.string (chars_escapeJson h)

/-- A number has no zeros in front. -/
theorem getLast?_digitsLoop {fuel value : ℕ} (h : value < 10 ^ fuel)
    (hlast : (digitsLoop fuel value).getLast? = some 0) : value = 0 := by
  induction fuel generalizing value with
  | zero => cases hlast
  | succ fuel ih =>
    have hrest : value / 10 < 10 ^ fuel := by
      rw [Nat.div_lt_iff_lt_mul (by decide), ← Nat.pow_succ]
      exact h
    rw [digitsLoop] at hlast
    split at hlast
    · rename_i hzero
      have hdigit : value % 10 = 0 := by simpa using hlast
      omega
    · rename_i hmore
      cases hloop : digitsLoop fuel (value / 10) with
      | nil =>
        cases fuel with
        | zero =>
          rw [Nat.pow_zero] at hrest
          omega
        | succ fuel => exact absurd hloop (List.cons_ne_nil _ _)
      | cons digit digits =>
        rw [hloop, List.getLast?_cons_cons, ← hloop] at hlast
        have hzero := ih hrest hlast
        omega

theorem isDigits_u32Text (value : ℕ) : Number.IsDigits (u32Text value) := by
  refine ⟨?_, forall_u32Text value⟩
  rw [u32Text, Ne, List.map_eq_nil_iff, List.reverse_eq_nil_iff]
  exact List.cons_ne_nil _ _

theorem leading_u32Text {value : ℕ} (h : value ≤ u32Max) (hzero : (u32Text value).head? = some '0') :
    u32Text value = ['0'] := by
  rw [u32Text, List.head?_map, List.head?_reverse] at hzero
  obtain ⟨digit, hdigit, hchar⟩ := Option.map_eq_some_iff.1 hzero
  have hmem : digit ∈ digitsLoop 10 value := List.mem_of_getLast? hdigit
  have hvalue : digit = 0 := by
    have hten := digit_lt_of_mem_digitsLoop hmem
    have hnat := congrArg Char.toNat hchar
    rw [digitChar, toNat_ofNat (by omega)] at hnat
    have hcode : '0'.toNat = 48 := rfl
    omega
  rw [hvalue] at hdigit
  rw [getLast?_digitsLoop (Nat.lt_of_le_of_lt h (by decide)) hdigit]
  rfl

/-- The text of an integer. -/
theorem denotes_integer (negative : Bool) {value : ℕ} (h : value ≤ u32Max) :
    Denotes ((if negative then ['-'] else []) ++ u32Text value)
      (.value (.number ((if negative then -1 else 1) * value))) := by
  have hwell : Number.WellFormed ⟨negative, u32Text value, none, none⟩ := by
    refine ⟨isDigits_u32Text value, leading_u32Text h, ?_, ?_⟩
    · exact fun digits hdigits => absurd hdigits (by simp)
    · exact fun e he => absurd he (by simp)
  have hdenotes := Denotes.number hwell
  have hparse : digitsValue 0 (u32Text value) = value :=
    digitsValue_digitsLoop (Nat.lt_of_le_of_lt h (by decide))
  simpa [Number.text, Number.value, hparse] using hdenotes

theorem denotes_u32Text {value : ℕ} (h : value ≤ u32Max) :
    Denotes (u32Text value) (.value (.number value)) := by
  have hdenotes := denotes_integer false h
  simpa using hdenotes

theorem denotes_i32Text {value : ℤ} (h : value.natAbs ≤ u32Max) :
    Denotes (i32Text value) (.value (.number value)) := by
  rw [i32Text]
  split
  · rename_i hneg
    have hdenotes := denotes_integer true h
    have hvalue : (value : ℚ) = -(value.natAbs : ℚ) := by
      have habs : value = -(value.natAbs : ℤ) := by omega
      exact_mod_cast habs
    rw [hvalue]
    simpa using hdenotes
  · rename_i hneg
    have hdenotes : Denotes (u32Text value.toNat) (.value (.number (value.toNat : ℕ))) :=
      denotes_u32Text (by omega)
    have hvalue : (value : ℚ) = (value.toNat : ℚ) := by
      have habs : value = (value.toNat : ℤ) := by omega
      exact_mod_cast habs
    rw [hvalue]
    exact hdenotes

/-! ## The value -/

/-- The names of members have nothing to escape. -/
theorem denotes_memberText {key text : Str} {v : JsonValue} (h : Denotes text (.value v))
    (hkey : key.all fun c => 0x20 ≤ c.toNat && c ≠ '"' && c ≠ '\\') :
    Denotes (memberText key text) (.members [(utf16 key, v)]) := by
  refine Denotes.compact (chars_of_plain fun c hc => ?_) h
  simpa [and_assoc] using List.all_eq_true.1 hkey c hc

theorem allowed_of_all {s : Str} (h : s.all (fun c => Allowed c) = true) : ∀ c ∈ s, Allowed c :=
  fun c hc => by simpa using List.all_eq_true.1 h c hc

theorem allowed_wifiAuthModeLabel (authMethod : Option AuthenticationMethod) :
    ∀ c ∈ wifiAuthModeLabel authMethod, Allowed c := by
  unfold wifiAuthModeLabel
  split <;> exact allowed_of_all (by decide)

theorem allowed_macAddressString (mac : Vector UInt8 6) : ∀ c ∈ macAddressString mac, Allowed c := by
  have hdigit : ∀ n, Allowed (("0123456789ABCDEF" : Str).getD n '0') := by
    intro n
    rw [List.getD_eq_getElem?_getD]
    cases hget : ("0123456789ABCDEF" : Str)[n]? with
    | none => exact Or.inl (by decide)
    | some c =>
      have hword : ∀ c ∈ ("0123456789ABCDEF" : Str), Allowed c := allowed_of_all (by decide)
      exact hword c (List.mem_of_getElem? hget)
  refine allowed_intercalate (fun part hpart => ?_) (by decide)
  obtain ⟨b, -, rfl⟩ := List.mem_map.1 hpart
  intro c hc
  rcases List.mem_pair.1 hc with rfl | rfl
  · exact hdigit _
  · exact hdigit _

def networkValue (network : ScannedAccessPoint) : JsonValue :=
  .object
    [(utf16 "ssid", .string (utf16 network.ssid)),
     (utf16 "bssid", .string (utf16 (macAddressString network.bssid))),
     (utf16 "auth_mode", .string (utf16 (wifiAuthModeLabel network.authMethod))),
     (utf16 "rssi", .number network.signalStrength.toInt),
     (utf16 "channel", .number network.channel.toNat),
     (utf16 "open", .bool (network.authMethod = some .none))]

def scanValue (results : ScanResults) : JsonValue :=
  .object
    [(utf16 "event", .string (utf16 "wifi_scan_results")),
     (utf16 "count", .number results.networks.length),
     (utf16 "networks", .array (results.networks.map networkValue))]

theorem denotes_networkText {network : ScannedAccessPoint} (h : ∀ c ∈ network.ssid, Allowed c) :
    Denotes (networkText network) (.value (networkValue network)) := by
  have hstrength : network.signalStrength.toInt.natAbs ≤ u32Max := by
    have hlt := network.signalStrength.toInt_lt
    have hge := network.signalStrength.le_toInt
    rw [u32Max]
    omega
  have hchannel : network.channel.toNat ≤ u32Max := by
    have hlt := network.channel.toNat_lt
    rw [u32Max]
    omega
  have hopen : Denotes (if network.authMethod = some .none then "true" else "false" : Str)
      (.value (.bool (network.authMethod = some .none))) := by
    by_cases hnone : network.authMethod = some .none
    · rw [if_pos hnone, decide_eq_true hnone]
      exact Denotes.true
    · rw [if_neg hnone, decide_eq_false hnone]
      exact Denotes.false
  refine denotes_object (.cons ?_ (.cons ?_ (.cons ?_ (.cons ?_ (.cons ?_ (.cons ?_ .nil))))))
  · exact denotes_memberText (denotes_literal h) (by decide)
  · exact denotes_memberText (denotes_literal (allowed_macAddressString _)) (by decide)
  · exact denotes_memberText (denotes_literal (allowed_wifiAuthModeLabel _)) (by decide)
  · exact denotes_memberText (denotes_i32Text hstrength) (by decide)
  · exact denotes_memberText (denotes_u32Text hchannel) (by decide)
  · exact denotes_memberText hopen (by decide)

theorem denotes_wifiScanResultsJson {results : ScanResults}
    (h : ∀ network ∈ results.networks, ∀ c ∈ network.ssid, Allowed c) :
    Denotes (wifiScanResultsJson results) (.value (scanValue results)) := by
  have hnetworks : List.Forall₂ (fun t v => Denotes t (.value v)) (results.networks.map networkText)
      (results.networks.map networkValue) := by
    rw [List.forall₂_map_left_iff, List.forall₂_map_right_iff, List.forall₂_same]
    exact fun network hmem => denotes_networkText (h network hmem)
  rw [wifiScanResultsJson_eq]
  refine denotes_object (.cons ?_ (.cons ?_ (.cons ?_ .nil)))
  · exact denotes_memberText (denotes_literal (allowed_of_all (by decide))) (by decide)
  · exact denotes_memberText (denotes_u32Text results.length_le) (by decide)
  · exact denotes_memberText (denotes_array hnetworks) (by decide)

/-! ## When it is JSON -/

/-- A control character of a name stands in the text as it is. -/
theorem mem_wifiScanResultsJson {results : ScanResults} {network : ScannedAccessPoint}
    (hnetwork : network ∈ results.networks) {c : Char} (hc : c ∈ network.ssid) (hcontrol : ¬ Allowed c) :
    c ∈ wifiScanResultsJson results := by
  have hplain : escapeJsonChar c = [c] := by
    unfold escapeJsonChar
    split
    all_goals first | rfl | exact absurd (by decide) hcontrol
  have hliteral : c ∈ literal network.ssid := by
    have hbody : c ∈ escapeJson network.ssid := by
      refine List.mem_flatMap.2 ⟨c, hc, ?_⟩
      rw [hplain]
      exact List.mem_singleton_self c
    simp [literal, hbody]
  have hmember : c ∈ networkText network := by
    have hssid : c ∈ memberText "ssid" (literal network.ssid) := by simp [memberText, hliteral]
    have hjoined : c ∈ [','].intercalate (networkMembers network) :=
      mem_intercalate (List.mem_cons_self ..) hssid _
    simp [networkText, hjoined]
  have hitem := mem_intercalate (List.mem_map_of_mem hnetwork) hmember [',']
  have hall : c ∈ memberText "networks"
      ('[' :: ([','].intercalate (results.networks.map networkText) ++ [']'])) := by
    simp [memberText, hitem]
  have hjoined : c ∈ [','].intercalate (scanMembers results) :=
    mem_intercalate (List.mem_cons_of_mem _ (List.mem_cons_of_mem _ (List.mem_cons_self ..))) hall _
  rw [wifiScanResultsJson_eq]
  simp [hjoined]

/-- The units of a string that is read as this text and as no other. -/
def Decodes (units : List ℕ) (text : Str) : Prop := ∀ s, utf16 s = units ↔ s = text

theorem decodes_utf16 (text : Str) : Decodes (utf16 text) text := fun _ => utf16_injective.eq_iff

/-- The networks in their order, with their names, and how many there are. -/
structure DescribesNetworks (results : ScanResults) (v : JsonValue) : Prop where
  count : v.member? (utf16 "count") = some (.number results.networks.length)
  networks : ∃ items, v.member? (utf16 "networks") = some (.array items) ∧
    List.Forall₂ (fun item network => ∃ units, item.member? (utf16 "ssid") = some (.string units) ∧
      Decodes units network.ssid) items results.networks

theorem describesNetworks_scanValue (results : ScanResults) :
    DescribesNetworks results (scanValue results) where
  count := rfl
  networks := by
    refine ⟨results.networks.map networkValue, rfl, ?_⟩
    rw [List.forall₂_map_left_iff, List.forall₂_same]
    exact fun network _ => ⟨_, rfl, decodes_utf16 network.ssid⟩

/-- The text is a JSON document that lists the networks exactly when no name has a control
character that JSON writes as a number. -/
theorem describesNetworks_iff (results : ScanResults) :
    (∃ v, Document (wifiScanResultsJson results) v ∧ DescribesNetworks results v) ↔
      ∀ network ∈ results.networks, ∀ c ∈ network.ssid, c.toNat < 0x20 → c ∈ ['\n', '\r', '\t'] := by
  constructor
  · rintro ⟨v, hdocument, -⟩ network hnetwork c hc hlow
    by_contra hmem
    have hcontrol : ¬ Allowed c := by
      rintro (hprint | rfl | rfl | rfl)
      · omega
      all_goals exact hmem (by decide)
    exact hcontrol (allowed_of_denotes hdocument c (mem_wifiScanResultsJson hnetwork hc hcontrol))
  · intro h
    have hallowed : ∀ network ∈ results.networks, ∀ c ∈ network.ssid, Allowed c := by
      intro network hnetwork c hc
      rcases Nat.lt_or_ge c.toNat 0x20 with hlow | hprint
      · have hmem := h network hnetwork c hc hlow
        simp only [List.mem_cons, List.not_mem_nil, or_false] at hmem
        rcases hmem with rfl | rfl | rfl <;> decide
      · exact Or.inl hprint
    exact ⟨scanValue results, (denotes_wifiScanResultsJson hallowed).alone,
      describesNetworks_scanValue results⟩

/-- A neighbour whose name is a bell. -/
def bellResults : ScanResults where
  networks := [{ bssid := ⟨#[0, 17, 170, 187, 204, 255], rfl⟩, channel := 6, signalStrength := -70
                 ssid := "\x07", authMethod := some .wpa2Personal }]
  length_le := by decide

theorem bellResults_invalid : ¬ ∃ v, Document (wifiScanResultsJson bellResults) v := by
  rintro ⟨v, hdocument⟩
  have hmem : '\x07' ∈ wifiScanResultsJson bellResults := by decide +kernel
  exact absurd (allowed_of_denotes hdocument _ hmem) (by decide)

end EspWaveRider.Firmware
