import EspWaveRider.Cpp.PeerPayload
import EspWaveRider.Lib.JsonFields

/-!
# Strings written and read by the C++ firmware

`jsonEscape` writes a string and `jsonFieldString` reads it out of an object.

* `literalValue_jsonEscape` — what comes back of each character;
* `jsonFieldString_stringMembers` — whatever else is in the object, the field is found;
* `jsonFieldString_announcementText` — what peers read of an announcement.
-/

namespace EspWaveRider.Cpp

open Text Json

/-! ## Characters -/

/-- What comes back of a character: `\b` and `\f` are read as their letters, and all other
control characters but three have been replaced. -/
def reread (c : Char) : Char :=
  if c = '\x08' then 'b'
  else if c = '\x0c' then 'f'
  else if c.toNat < 0x20 ∧ c ∉ ['\n', '\r', '\t'] then '?'
  else c

theorem literalValue_cons {c : Char} (hquote : c ≠ '"') (hbackslash : c ≠ '\\') (rest : Str) :
    literalValue (c :: rest) = c :: literalValue rest := by
  rw [literalValue, if_neg hquote]
  intro escaped tail h
  exact absurd h hbackslash

theorem literalValue_jsonEscapeChar (c : Char) (rest : Str) :
    literalValue (jsonEscapeChar c ++ rest) = reread c :: literalValue rest := by
  unfold jsonEscapeChar
  split_ifs with hquote hbackslash hb hf hn hr ht hcontrol
  · rw [hquote]
    rfl
  · rw [hbackslash]
    rfl
  · rw [hb]
    rfl
  · rw [hf]
    rfl
  · rw [hn]
    rfl
  · rw [hr]
    rfl
  · rw [ht]
    rfl
  · have hmark : reread c = '?' := by
      rw [reread, if_neg hb, if_neg hf, if_pos]
      exact ⟨hcontrol, by simp [hn, hr, ht]⟩
    rw [hmark]
    exact literalValue_cons (by decide) (by decide) rest
  · have hkept : reread c = c := by
      rw [reread, if_neg hb, if_neg hf, if_neg]
      exact fun h => hcontrol h.1
    rw [hkept]
    exact literalValue_cons hquote hbackslash rest

/-- A string literal is read up to its closing quote. -/
theorem literalValue_jsonEscape (value rest : Str) :
    literalValue (jsonEscape value ++ '"' :: rest) = value.map reread := by
  induction value with
  | nil => rfl
  | cons c value ih =>
    have hcons : jsonEscape (c :: value) = jsonEscapeChar c ++ jsonEscape value := rfl
    rw [hcons, List.append_assoc, literalValue_jsonEscapeChar, ih, List.map_cons]

/-! ## Fields -/

/-- A field with its value in quotes. -/
def escapedMember (field : Str × Str) : StringMember :=
  (field.1, ⟨jsonEscape field.2, closedFrom_jsonEscape field.2⟩)

/-- An object of fields that are all written with `jsonEscape`. -/
def stringsObject (fields : List (Str × Str)) : Str := stringMembers (fields.map escapedMember)

example : stringsObject [("a", "x\n"), ("b", "")] = ("\x7b\"a\":\"x\\n\",\"b\":\"\"\x7d" : Str) := by
  decide

theorem jsonFieldString_of_after? {json name body rest : Str}
    (h : after? (namePattern name) json = some ('"' :: (jsonEscape body ++ '"' :: rest))) :
    jsonFieldString json name = body.map reread := by
  rw [namePattern] at h
  rw [jsonFieldString, h]
  exact literalValue_jsonEscape body rest

theorem jsonFieldString_stringMembers {name : Str} (hname : Findable name)
    {pre post : List (Str × Str)} (hpre : ∀ f ∈ pre, isPlain f.1 ∧ f.1 ≠ name) (s : Str) :
    jsonFieldString (stringsObject (pre ++ (name, s) :: post)) name = s.map reread := by
  have hmembers : ∀ m ∈ pre.map escapedMember, isPlain m.1 ∧ m.1 ≠ name := by
    intro m hm
    obtain ⟨f, hf, rfl⟩ := List.mem_map.1 hm
    exact hpre f hf
  have hfound := after?_stringMembers hname hmembers (escapedMember (name, s)).2
    (post.map escapedMember)
  rw [stringsObject, List.map_append, List.map_cons]
  exact jsonFieldString_of_after? hfound

/-! ## Announcements -/

/-- The texts of an announcement. -/
def announcedTexts (n : CppNode) : List (JsonKey × Str) :=
  [(Key.kind, "lb_udp_discovery"),
   (Key.nodeId, n.config.nodeId),
   (Key.friendlyName, n.config.friendlyName),
   (Key.roomId, n.config.roomId),
   (Key.sensorRole, n.config.sensorRole),
   (Key.firmwareVersion, n.firmwareVersion),
   (Key.buildTarget, n.firmwareBuildTarget),
   (Key.hostname, n.config.deviceHostname),
   (Key.ipAddress, n.localIp)]

theorem lookup_announcedTexts {n : CppNode} {key : JsonKey} {value : Str}
    (h : (key, value) ∈ announcedTexts n) :
    lookup key (announcementMembers n) = some (textMember key value).2 := by
  simp only [announcedTexts, List.mem_cons, List.not_mem_nil, or_false, Prod.mk.injEq] at h
  rcases h with ⟨rfl, rfl⟩ | ⟨rfl, rfl⟩ | ⟨rfl, rfl⟩ | ⟨rfl, rfl⟩ | ⟨rfl, rfl⟩ | ⟨rfl, rfl⟩ |
    ⟨rfl, rfl⟩ | ⟨rfl, rfl⟩ | ⟨rfl, rfl⟩ <;> rfl

/-- Numbers stand behind the texts of an announcement. -/
theorem jsonFieldString_announcementText {n : CppNode} {key : JsonKey} {value : Str}
    (h : (key, value) ∈ announcedTexts n) :
    jsonFieldString (announcementText n) key.1 = value.map reread := by
  have hflat : Flat (announcementMembers n) := flat_of_all rfl
  obtain ⟨post, hfound⟩ := after?_lookup hflat (lookup_announcedTexts h)
  have hrender : (textMember key value).2.render ++ (membersTail post ++ ['}']) =
      [] ++ '"' :: (jsonEscape value ++ '"' :: (membersTail post ++ ['}'])) :=
    render_text_append _ _
  rw [announcementText_eq]
  exact jsonFieldString_of_after? (hfound [] _ hrender)

/-! ## What is read is what was written -/

/-- The value as it is read when it has neither `\b` nor `\f`. -/
def printable (c : Char) : Char := if c.toNat < 0x20 ∧ c ∉ ['\n', '\r', '\t'] then '?' else c

theorem map_reread {s : Str} (h : ∀ c ∈ s, c ≠ '\x08' ∧ c ≠ '\x0c') :
    s.map reread = s.map printable := by
  refine List.map_congr_left fun c hc => ?_
  obtain ⟨hb, hf⟩ := h c hc
  rw [reread, if_neg hb, if_neg hf, printable]

theorem map_printable_eq_self_iff (s : Str) :
    s.map printable = s ↔ ∀ c ∈ s, c.toNat < 0x20 → c ∈ ['\n', '\r', '\t'] := by
  have hchar (c : Char) : printable c = c ↔ (c.toNat < 0x20 → c ∈ ['\n', '\r', '\t']) := by
    rw [printable]
    split
    · rename_i hcontrol
      refine iff_of_false ?_ fun h => hcontrol.2 (h hcontrol.1)
      intro hmark
      rw [← hmark] at hcontrol
      exact absurd hcontrol.1 (by decide)
    · rename_i hplain
      refine iff_of_true rfl fun hc => ?_
      by_contra hmem
      exact hplain ⟨hc, hmem⟩
  calc s.map printable = s ↔ s.map printable = s.map id := by rw [List.map_id]
    _ ↔ ∀ c ∈ s, printable c = c := List.map_inj_left
    _ ↔ ∀ c ∈ s, c.toNat < 0x20 → c ∈ ['\n', '\r', '\t'] := forall₂_congr fun c _ => hchar c

/-- A string without `\b` and `\f` is read back, with a question mark for each control
character that JSON writes as a number; so are the texts of an announcement. -/
theorem strings_read_back :
    (∀ (name s : Str) (pre post : List (Str × Str)), Findable name →
      (∀ f ∈ pre ++ post, isPlain f.1 ∧ f.1 ≠ name) → (∀ c ∈ s, c ≠ '\x08' ∧ c ≠ '\x0c') →
      jsonFieldString (stringsObject (pre ++ (name, s) :: post)) name = s.map printable) ∧
    (∀ (n : CppNode) (key : JsonKey) (value : Str), (key, value) ∈ announcedTexts n →
      (∀ c ∈ value, c ≠ '\x08' ∧ c ≠ '\x0c') →
      jsonFieldString (announcementText n) key.1 = value.map printable) ∧
    ∀ s : Str, s.map printable = s ↔ ∀ c ∈ s, c.toNat < 0x20 → c ∈ ['\n', '\r', '\t'] := by
  refine ⟨?_, ?_, map_printable_eq_self_iff⟩
  · intro name s pre post hname hothers hs
    rw [jsonFieldString_stringMembers hname fun f hf => hothers f (List.mem_append_left _ hf)]
    exact map_reread hs
  · intro n key value hmem hs
    rw [jsonFieldString_announcementText hmem]
    exact map_reread hs

/-- A control character, names that are punctuation, and names with quotes or backslashes. -/
theorem strings_not_read_back :
    jsonFieldString (stringsObject [("name", "\x01")]) "name" ≠ ("\x01" : Str) ∧
    jsonFieldString (stringsObject [("a", ":b"), (":", "x")]) ":" ≠ ("x" : Str) ∧
    jsonFieldString (stringsObject [("a", ""), (":b", ""), (",", "x")]) "," ≠ ("x" : Str) ∧
    jsonFieldString (stringsObject [("a\":\"b\",\"name", "c"), ("name", "x")]) "name" ≠ ("x" : Str) ∧
    jsonFieldString (stringsObject [("a", "b"), ("c", "d"), ("b\",\"c", "x")]) "b\",\"c" ≠ ("x" : Str) ∧
    jsonFieldString (stringsObject [("a", "\":"), ("\\", "x")]) "\\" ≠ ("x" : Str) := by
  decide

end EspWaveRider.Cpp
