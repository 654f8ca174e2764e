import EspWaveRider.Lib.Percent
import EspWaveRider.Core.CommandCodec

/-!
# The dashboard's configuration commands

The embedded dashboard (`src/visualizer/index.html`) writes the fields of a
configuration command with `encodeURIComponent`, joined by `|`.  The payload
parsers of `command.rs` split at `|` and do not decode.

* `dashboardPayload` — what the dashboard sends;
* `FieldSpec` — how a payload parser depends on its fields, proved for the five
  commands the dashboard builds;
* `parse_dashboardPayload_iff` — a payload is read back as its fields exactly
  when encoding left them alone.
-/

namespace EspWaveRider.Dashboard

open Text Command

/-! ## The encoder -/

/-- The characters `encodeURIComponent` leaves alone. -/
def isUnreserved (c : Char) : Bool :=
  isAsciiUppercase c || isAsciiLowercase c || isAsciiDigit c || ("-_.!~*'()" : Str).contains c

def encodeURIComponent (s : Str) : Str := Percent.encode isUnreserved s

/-- `fields.map(encodeURIComponent).join("|")`. -/
def dashboardPayload {n : ℕ} (fields : Vector Str n) : Str :=
  ['|'].intercalate (fields.toList.map encodeURIComponent)

example : dashboardPayload #v["My WiFi", "", "50%|+"] = ("My%20WiFi||50%25%7C%2B" : Str) := by
  decide

theorem bar_not_mem_encodeURIComponent (s : Str) : '|' ∉ encodeURIComponent s :=
  Percent.not_mem_encode (by decide) (by decide) (by decide) s

/-- The encoded fields are what the parsers see. -/
theorem splitFields_dashboardPayload {n : ℕ} (hn : 0 < n) (fields : Vector Str n) :
    splitFields n (dashboardPayload fields) = .ok (fields.map encodeURIComponent) := by
  have hjoin : dashboardPayload fields = joinFields (fields.map encodeURIComponent) := by
    rw [dashboardPayload, joinFields, Vector.toList_map]
  rw [hjoin]
  refine splitFields_joinFields hn fun field hfield => ?_
  obtain ⟨s, _, rfl⟩ := Vector.mem_map.1 hfield
  exact bar_not_mem_encodeURIComponent s

/-! ## How parsers depend on their fields -/

/-- How a field is read: as it is, as a decimal number, or as a switch. -/
inductive FieldKind where
  | text
  | number
  | flag
  deriving DecidableEq

/-- Fields that encoding leaves alone, as far as their kind tells. -/
def FieldKind.Plain : FieldKind → Str → Prop
  | .text, field => ∀ c ∈ field, isUnreserved c
  | .number, field => '+' ∉ field
  | .flag, _ => True

/-- `ofFields` reads its fields as `kinds` says: numbers from digits and signs
only, texts as they are, switches by their token. -/
structure FieldSpec {n : ℕ} {P : Type} (kinds : Fin n → FieldKind)
    (ofFields : Vector Str n → ParseResult P) : Prop where
  numbers : ∀ {fields v}, ofFields fields = .ok v → ∀ i, kinds i = .number →
    ∀ c ∈ fields[i], isNumberChar c
  texts : ∀ {fields fields' v}, ofFields fields = .ok v → ofFields fields' = .ok v →
    ∀ i, kinds i = .text → fields[i] = fields'[i]
  congr : ∀ {fields fields' : Vector Str n},
    (∀ i : Fin n, kinds i ≠ .flag → fields[i] = fields'[i]) →
    (∀ i : Fin n, kinds i = .flag →
      parseOptionalBoolToken fields[i] = parseOptionalBoolToken fields'[i]) →
    ofFields fields = ofFields fields'

/-- A switch is read the same from its encoding. -/
theorem parseOptionalBoolToken_encodeURIComponent (token : Str) :
    parseOptionalBoolToken (encodeURIComponent token) = parseOptionalBoolToken token := by
  by_cases hkeep : ∀ c ∈ token, isUnreserved c
  · rw [encodeURIComponent, Percent.encode_of_forall_keep hkeep]
  · push Not at hkeep
    obtain ⟨c, hc, hres⟩ := hkeep
    have hpercent : '%' ∈ encodeURIComponent token := Percent.percent_mem_encode hc hres
    -- neither the token nor its encoding is one of the texts the parsers know
    have hplain (t : Str) (ht : t.all isUnreserved) : token ≠ t := by
      rintro rfl
      exact hres (List.all_eq_true.1 ht c hc)
    have hencoded (t : Str) (ht : '%' ∉ t) : encodeURIComponent token ≠ t := by
      rintro rfl
      exact ht hpercent
    have htoken : parseBoolToken token = false := by
      refine decide_eq_false ?_
      rintro (h | h | h) <;> exact hplain _ (by decide) h
    have htoken' : parseBoolToken (encodeURIComponent token) = false := by
      refine decide_eq_false ?_
      rintro (h | h | h) <;> exact hencoded _ (by decide) h
    rw [parseOptionalBoolToken, parseOptionalBoolToken, if_neg (hencoded [] (by decide)),
      if_neg (hplain [] rfl), htoken, htoken']

theorem isUnreserved_of_isNumberChar {c : Char} (h : isNumberChar c) (hplus : c ≠ '+') :
    isUnreserved c := by
  simp only [isNumberChar, Bool.or_eq_true, beq_iff_eq] at h
  rcases h with (h | h) | rfl
  · simp [isUnreserved, h]
  · exact absurd h hplus
  · decide

theorem getElem_map_encodeURIComponent {n : ℕ} (fields : Vector Str n) (i : Fin n) :
    (fields.map encodeURIComponent)[i] = encodeURIComponent fields[i] :=
  Vector.getElem_map ..

/-- Encoding leaves plain fields alone, and switches as good as alone; every
other field is read differently or not at all. -/
theorem FieldSpec.ofFields_encode_iff {n : ℕ} {P : Type} {kinds : Fin n → FieldKind}
    {ofFields : Vector Str n → ParseResult P} (spec : FieldSpec kinds ofFields)
    {fields : Vector Str n} {v : P} (h : ofFields fields = .ok v) :
    ofFields (fields.map encodeURIComponent) = .ok v ↔ ∀ i, (kinds i).Plain fields[i] := by
  constructor
  · intro hencoded i
    cases hkind : kinds i with
    | text =>
      have hsame := spec.texts hencoded h i hkind
      rw [getElem_map_encodeURIComponent] at hsame
      exact Percent.encode_eq_self_iff.1 hsame
    | number =>
      intro hplus
      have hchars := spec.numbers hencoded i hkind
      rw [getElem_map_encodeURIComponent] at hchars
      have hpercent : '%' ∈ encodeURIComponent fields[i] :=
        Percent.percent_mem_encode hplus (by decide)
      exact absurd (hchars _ hpercent) (by decide)
    | flag => trivial
  · intro hplain
    rw [← h]
    refine spec.congr ?_ ?_
    · intro i hkind
      have hi := hplain i
      rw [getElem_map_encodeURIComponent]
      cases hk : kinds i with
      | text =>
        rw [hk] at hi
        exact Percent.encode_of_forall_keep hi
      | number =>
        rw [hk] at hi
        refine Percent.encode_of_forall_keep fun c hc => ?_
        exact isUnreserved_of_isNumberChar (spec.numbers h i hk c hc) fun hplus => hi (hplus ▸ hc)
      | flag => exact absurd hk hkind
    · intro i _
      rw [getElem_map_encodeURIComponent, parseOptionalBoolToken_encodeURIComponent]

/-! ## The five commands -/

def homeAssistantConfigKinds : Fin 8 → FieldKind :=
  ![.text, .text, .text, .number, .text, .text, .text, .text]

def roomConfigKinds : Fin 7 → FieldKind :=
  ![.text, .text, .number, .number, .number, .number, .number]

def roomPosePublishKinds : Fin 8 → FieldKind :=
  ![.text, .text, .text, .number, .number, .number, .number, .number]

def mqttEndpointKinds : Fin 5 → FieldKind := ![.text, .number, .flag, .text, .text]

def tuningConfigKinds : Fin 8 → FieldKind :=
  ![.number, .number, .number, .number, .number, .number, .flag, .number]

/-- Fields that agree where they are not switches agree, if none is a switch. -/
theorem eq_of_no_flag {n : ℕ} {kinds : Fin n → FieldKind} (hkinds : ∀ i, kinds i ≠ .flag)
    {fields fields' : Vector Str n}
    (h : ∀ i : Fin n, kinds i ≠ .flag → fields[i] = fields'[i]) : fields = fields' := by
  ext i hi : 1
  exact h ⟨i, hi⟩ (hkinds ⟨i, hi⟩)

theorem parseBoolToken_eq_of_optional {token token' : Str}
    (h : parseOptionalBoolToken token = parseOptionalBoolToken token') :
    parseBoolToken token = parseBoolToken token' := by
  unfold parseOptionalBoolToken at h
  split at h <;> split at h <;> simp_all

theorem fieldSpec_homeAssistantConfig :
    FieldSpec homeAssistantConfigKinds homeAssistantConfigOfFields where
  numbers := by
    intro fields v h i hkind
    obtain ⟨port, hport, _⟩ := bind_eq_ok.1 h
    fin_cases i <;> first
      | exact absurd hkind (by decide)
      | exact forall_of_parsePortOrDefault hport
  texts := by
    intro fields fields' v h h' i hkind
    obtain ⟨port, _, hv⟩ := bind_eq_ok.1 h
    obtain ⟨port', _, hv'⟩ := bind_eq_ok.1 h'
    have hsame := (Except.ok.inj hv).trans (Except.ok.inj hv').symm
    obtain ⟨h0, h1, h2, _, h4, h5, h6, h7⟩ := HomeAssistantConfigPayload.mk.injEq .. ▸ hsame
    fin_cases i <;> first
      | exact absurd hkind (by decide)
      | assumption
  congr := by
    intro fields fields' hsame _
    rw [eq_of_no_flag (by decide) hsame]

theorem fieldSpec_roomConfig : FieldSpec roomConfigKinds roomConfigOfFields where
  numbers := by
    intro fields v h i hkind
    simp only [roomConfigOfFields, bind_eq_ok] at h
    obtain ⟨_, hx, _, hy, _, hheading, _, hwidth, _, hheight, _⟩ := h
    fin_cases i <;> first
      | exact absurd hkind (by decide)
      | exact forall_of_parseI16 ‹_›
      | exact forall_of_parseU16 ‹_›
  texts := by
    intro fields fields' v h h' i hkind
    simp only [roomConfigOfFields, bind_eq_ok] at h h'
    obtain ⟨_, _, _, _, _, _, _, _, _, _, hv⟩ := h
    obtain ⟨_, _, _, _, _, _, _, _, _, _, hv'⟩ := h'
    have hsame := (Except.ok.inj hv).trans (Except.ok.inj hv').symm
    obtain ⟨h0, h1, _⟩ := RoomConfigPayload.mk.injEq .. ▸ hsame
    fin_cases i <;> first
      | exact absurd hkind (by decide)
      | assumption
  congr := by
    intro fields fields' hsame _
    rw [eq_of_no_flag (by decide) hsame]

theorem fieldSpec_roomPosePublish : FieldSpec roomPosePublishKinds roomPosePublishOfFields where
  numbers := by
    intro fields v h i hkind
    simp only [roomPosePublishOfFields, bind_eq_ok] at h
    obtain ⟨_, hx, _, hy, _, hheading, _, hwidth, _, hheight, _⟩ := h
    fin_cases i <;> first
      | exact absurd hkind (by decide)
      | exact forall_of_parseI16 ‹_›
      | exact forall_of_parseU16 ‹_›
  texts := by
    intro fields fields' v h h' i hkind
    simp only [roomPosePublishOfFields, bind_eq_ok] at h h'
    obtain ⟨_, _, _, _, _, _, _, _, _, _, hv⟩ := h
    obtain ⟨_, _, _, _, _, _, _, _, _, _, hv'⟩ := h'
    have hsame := (Except.ok.inj hv).trans (Except.ok.inj hv').symm
    obtain ⟨h0, h1, h2, _⟩ := RoomPosePublishPayload.mk.injEq .. ▸ hsame
    fin_cases i <;> first
      | exact absurd hkind (by decide)
      | assumption
  congr := by
    intro fields fields' hsame _
    rw [eq_of_no_flag (by decide) hsame]

theorem fieldSpec_mqttEndpoint :
    FieldSpec mqttEndpointKinds homeAssistantMqttEndpointOfFields where
  numbers := by
    intro fields v h i hkind
    obtain ⟨port, hport, _⟩ := bind_eq_ok.1 h
    fin_cases i <;> first
      | exact absurd hkind (by decide)
      | exact forall_of_parseOptionalPort hport
  texts := by
    intro fields fields' v h h' i hkind
    obtain ⟨port, _, hv⟩ := bind_eq_ok.1 h
    obtain ⟨port', _, hv'⟩ := bind_eq_ok.1 h'
    have hsame := (Except.ok.inj hv).trans (Except.ok.inj hv').symm
    obtain ⟨h0, _, _, h3, h4⟩ := HomeAssistantMqttEndpointPayload.mk.injEq .. ▸ hsame
    fin_cases i <;> first
      | exact absurd hkind (by decide)
      | assumption
  congr := by
    intro fields fields' hsame hflag
    have h0 : fields[0] = fields'[0] := hsame 0 (by decide)
    have h1 : fields[1] = fields'[1] := hsame 1 (by decide)
    have h3 : fields[3] = fields'[3] := hsame 3 (by decide)
    have h4 : fields[4] = fields'[4] := hsame 4 (by decide)
    have h2 : parseOptionalBoolToken fields[2] = parseOptionalBoolToken fields'[2] := hflag 2 rfl
    simp only [homeAssistantMqttEndpointOfFields, h0, h1, h2, h3, h4]

theorem fieldSpec_tuningConfig : FieldSpec tuningConfigKinds tuningConfigOfFields where
  numbers := by
    intro fields v h i hkind
    simp only [tuningConfigOfFields, bind_eq_ok] at h
    obtain ⟨_, h0, _, h1, _, h2, _, h3, _, h4, _, h5, _, h7, _⟩ := h
    fin_cases i <;> first
      | exact absurd hkind (by decide)
      | exact forall_of_parseI32OrDefault ‹_›
  texts := by
    intro fields fields' v _ _ i hkind
    fin_cases i <;> exact absurd hkind (by decide)
  congr := by
    intro fields fields' hsame hflag
    have h0 : fields[0] = fields'[0] := hsame 0 (by decide)
    have h1 : fields[1] = fields'[1] := hsame 1 (by decide)
    have h2 : fields[2] = fields'[2] := hsame 2 (by decide)
    have h3 : fields[3] = fields'[3] := hsame 3 (by decide)
    have h4 : fields[4] = fields'[4] := hsame 4 (by decide)
    have h5 : fields[5] = fields'[5] := hsame 5 (by decide)
    have h7 : fields[7] = fields'[7] := hsame 7 (by decide)
    have h6 : parseBoolToken fields[6] = parseBoolToken fields'[6] :=
      parseBoolToken_eq_of_optional (hflag 6 rfl)
    simp only [tuningConfigOfFields, h0, h1, h2, h3, h4, h5, h6, h7]

/-! ## The commands the dashboard sends -/

inductive ConfigCommand where
  | haConfig
  | haRoomConfig
  | haRoomPosePublish
  | haMqttEndpoint
  | tuningConfig
  deriving DecidableEq

namespace ConfigCommand

/-- The number of fields the dashboard writes. -/
def arity : ConfigCommand → ℕ
  | haConfig => 8
  | haRoomConfig => 7
  | haRoomPosePublish => 8
  | haMqttEndpoint => 5
  | tuningConfig => 8

def Payload : ConfigCommand → Type
  | haConfig => HomeAssistantConfigPayload
  | haRoomConfig => RoomConfigPayload
  | haRoomPosePublish => RoomPosePublishPayload
  | haMqttEndpoint => HomeAssistantMqttEndpointPayload
  | tuningConfig => TuningConfigPayload

def kinds : (c : ConfigCommand) → Fin c.arity → FieldKind
  | haConfig => homeAssistantConfigKinds
  | haRoomConfig => roomConfigKinds
  | haRoomPosePublish => roomPosePublishKinds
  | haMqttEndpoint => mqttEndpointKinds
  | tuningConfig => tuningConfigKinds

/-- What the fields say: the texts themselves and the numbers they denote. -/
def ofFields : (c : ConfigCommand) → Vector Str c.arity → ParseResult c.Payload
  | haConfig => homeAssistantConfigOfFields
  | haRoomConfig => roomConfigOfFields
  | haRoomPosePublish => roomPosePublishOfFields
  | haMqttEndpoint => homeAssistantMqttEndpointOfFields
  | tuningConfig => tuningConfigOfFields

/-- The firmware's parser of the payload. -/
def parse : (c : ConfigCommand) → Str → ParseResult c.Payload
  | haConfig => parseHomeAssistantConfigPayload
  | haRoomConfig => parseRoomConfigPayload
  | haRoomPosePublish => parseRoomPosePublishPayload
  | haMqttEndpoint => parseHomeAssistantMqttEndpointPayload
  | tuningConfig => parseTuningConfigPayload

theorem fieldSpec : (c : ConfigCommand) → FieldSpec c.kinds c.ofFields
  | haConfig => fieldSpec_homeAssistantConfig
  | haRoomConfig => fieldSpec_roomConfig
  | haRoomPosePublish => fieldSpec_roomPosePublish
  | haMqttEndpoint => fieldSpec_mqttEndpoint
  | tuningConfig => fieldSpec_tuningConfig

/-- Every parser splits the payload and reads the fields. -/
theorem parse_dashboardPayload (c : ConfigCommand) (fields : Vector Str c.arity) :
    c.parse (dashboardPayload fields) = c.ofFields (fields.map encodeURIComponent) := by
  have hpos : 0 < c.arity := by cases c <;> decide
  have hsplit := splitFields_dashboardPayload hpos fields
  cases c <;> exact congrArg (· >>= _) hsplit

end ConfigCommand

/-- A configuration command of the dashboard is read back as the fields typed in
exactly when its texts consist of characters `encodeURIComponent` leaves alone
and its numbers are written without `+`. -/
theorem parse_dashboardPayload_iff (c : ConfigCommand) (fields : Vector Str c.arity)
    (v : c.Payload) (h : c.ofFields fields = .ok v) :
    c.parse (dashboardPayload fields) = .ok v ↔ ∀ i, (c.kinds i).Plain fields[i] := by
  rw [c.parse_dashboardPayload]
  exact c.fieldSpec.ofFields_encode_iff h

theorem parse_dashboardPayload_iff_den :
    ConfigCommand.haMqttEndpoint.parse (dashboardPayload #v["broker", "", "true", "", ""]) =
        .ok ⟨"broker", none, some true, [], []⟩ ↔
      ∀ i, (ConfigCommand.haMqttEndpoint.kinds i).Plain
        (#v["broker", "", "true", "", ""] : Vector Str 5)[i] :=
  parse_dashboardPayload_iff .haMqttEndpoint #v["broker", "", "true", "", ""]
    ⟨"broker", none, some true, [], []⟩ rfl

/-- The web-socket path `/mqtt`, which the dashboard writes into every endpoint
command, arrives percent-encoded. -/
theorem dashboardPayload_not_decoded :
    ¬ ∀ (c : ConfigCommand) (fields : Vector Str c.arity) (v : c.Payload),
      c.ofFields fields = .ok v → c.parse (dashboardPayload fields) = .ok v := by
  intro hall
  have hread : parseHomeAssistantMqttEndpointPayload
      (dashboardPayload (#v["broker", "1883", "true", "/mqtt", ""] : Vector Str 5)) =
        .ok ⟨"broker", some 1883, some true, "/mqtt", []⟩ :=
    hall .haMqttEndpoint #v["broker", "1883", "true", "/mqtt", ""]
      ⟨"broker", some 1883, some true, "/mqtt", []⟩ rfl
  exact absurd hread (by decide)

end EspWaveRider.Dashboard
