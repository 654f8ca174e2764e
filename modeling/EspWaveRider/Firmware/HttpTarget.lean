import EspWaveRider.Firmware.HttpRoute
import EspWaveRider.Lib.Fields

/-!
# Targets with a query

`parse_http_route` compares the second word of the request line with the paths it knows.

* `parseHttpRoute_requestText` — the route depends on the method, the target and the body;
* `route_query` — a target with a query is none of the known paths;
* `parseHttpRoute_query_iff` — which routes stay when a query is added.
-/

namespace EspWaveRider.Firmware

open Text LineBuffer

/-! ## The request line -/

/-- No white space. -/
def Solid (s : Str) : Prop := ∀ c ∈ s, isWhitespace c = false

instance (s : Str) : Decidable (Solid s) := List.decidableBAll _ s

/-- A word is not empty. -/
def IsWord (s : Str) : Prop := s ≠ [] ∧ Solid s

instance (s : Str) : Decidable (IsWord s) := inferInstanceAs (Decidable (_ ∧ _))

/-- Method and target, and what follows them: the version, headers, a blank line and a body. -/
def requestText (method target rest : Str) : Str := method ++ ' ' :: (target ++ ' ' :: rest)

theorem splitWhitespace_append {word : Str} (h : IsWord word) (rest : Str) :
    splitWhitespace (word ++ ' ' :: rest) = word :: splitWhitespace rest := by
  rw [splitWhitespace, List.splitOnP_append_cons_of_forall_mem h.2 ' ' (by decide),
    List.filter_cons_of_pos (by simpa using h.1)]
  rfl

/-- The first line has the beginning of the text in it. -/
theorem head?_lines_append {front : Str} (hfeed : '\n' ∉ front) (rest : Str) :
    ∃ line, ((lines (front ++ ' ' :: rest)).head?) = some (front ++ ' ' :: line) := by
  have hspace : '\n' ∉ front ++ [' '] := by simpa using hfeed
  rcases splitOn_cases '\n' rest with ⟨hno, -⟩ | ⟨first, more, hno, rfl, -⟩
  · have hline : '\n' ∉ front ++ ' ' :: rest := by simp [hfeed, hno]
    have hopen : openLine (front ++ ' ' :: rest) = front ++ ' ' :: rest := by
      rw [openLine, List.splitOn_eq_singleton hline]
      rfl
    refine ⟨rest, ?_⟩
    rw [lines, endedLines_of_notMem hline, hopen, if_neg (by simp)]
    rfl
  · have hline : '\n' ∉ front ++ ' ' :: first := by simp [hfeed, hno]
    have happend : front ++ ' ' :: (first ++ '\n' :: more) =
        (front ++ ' ' :: first) ++ '\n' :: more := by simp
    have hdrop : ∃ line, dropReturn (front ++ ' ' :: first) = front ++ ' ' :: line := by
      rw [dropReturn]
      split
      · rename_i hreturn
        cases first with
        | nil => simp at hreturn
        | cons c first =>
          refine ⟨(c :: first).dropLast, ?_⟩
          rw [List.dropLast_append_cons, List.dropLast_cons_of_ne_nil (List.cons_ne_nil _ _)]
      · exact ⟨first, rfl⟩
    obtain ⟨line, hdrop⟩ := hdrop
    refine ⟨line, ?_⟩
    rw [happend, lines, endedLines_append_cons hline, List.map_cons, List.cons_append,
      List.head?_cons, hdrop]

/-- A blank line is looked for behind the target. -/
theorem splitOnce_append_of_notMem {front : Str} (h : '\r' ∉ front) (rest : Str) :
    splitOnce "\r\n\r\n" (front ++ rest) =
      (splitOnce "\r\n\r\n" rest).map fun parts => (front ++ parts.1, parts.2) := by
  have hfind : find? ("\r\n\r\n" : Str) (front ++ rest) =
      (find? ("\r\n\r\n" : Str) rest).map (· + front.length) := find?_append_of_notMem h rest
  rw [splitOnce, splitOnce, hfind, Option.map_map, Option.map_map]
  congr 1
  funext at_
  show ((front ++ rest).take (at_ + front.length), (front ++ rest).drop (at_ + front.length + 4)) =
    (front ++ rest.take at_, rest.drop (at_ + 4))
  have hlength : at_ + front.length + 4 = front.length + (at_ + 4) := by omega
  rw [hlength, Nat.add_comm at_, List.take_length_add_append, List.drop_length_add_append]

/-- What method and target decide. -/
def route (method target body : Str) (contentLength : ℕ) : Except Str HttpRoute :=
  if method = "GET" ∧ (target = "/" ∨ target = "/index.html") then .ok .rootPage
  else if method = "GET" ∧ (target = "/api/snapshot" ∨ target = "/api/status") then .ok .snapshot
  else if method = "POST" ∧ target = "/api/command" then parseCommandBody body contentLength
  else if method = "GET" then .ok .rootPage
  else .error (httpError "404 Not Found" "http_not_found")

theorem notMem_of_isWord {s : Str} (h : IsWord s) {c : Char} (hc : isWhitespace c = true) : c ∉ s := by
  intro hmem
  rw [h.2 c hmem] at hc
  cases hc

theorem parseHttpRoute_requestText {method target : Str} (hmethod : IsWord method)
    (htarget : IsWord target) (rest : Str) (contentLength : ℕ) :
    parseHttpRoute (requestText method target rest) contentLength =
      match splitOnce "\r\n\r\n" rest with
      | none => .error (httpError "400 Bad Request" "http_malformed_request")
      | some (_, body) => route method target body contentLength := by
  have hshape (rest : Str) : requestText method target rest = (method ++ ' ' :: target) ++ ' ' :: rest := by
    simp [requestText]
  have hreturn : '\r' ∉ (method ++ ' ' :: target) ++ [' '] := by
    simp [notMem_of_isWord hmethod (c := '\r') rfl, notMem_of_isWord htarget (c := '\r') rfl]
  have hfeed : '\n' ∉ method ++ ' ' :: target := by
    simp [notMem_of_isWord hmethod (c := '\n') rfl, notMem_of_isWord htarget (c := '\n') rfl]
  have hsplit := splitOnce_append_of_notMem hreturn rest
  rw [List.append_assoc, List.singleton_append, ← hshape] at hsplit
  rw [parseHttpRoute, hsplit]
  cases splitOnce "\r\n\r\n" rest with
  | none => rfl
  | some parts =>
    obtain ⟨line, hline⟩ := head?_lines_append hfeed parts.1
    have hwords : splitWhitespace (method ++ ' ' :: target ++ ' ' :: line) =
        method :: target :: splitWhitespace line := by
      rw [List.append_assoc, List.cons_append, splitWhitespace_append hmethod,
        splitWhitespace_append htarget]
    rw [Option.map_some, List.append_assoc, List.singleton_append]
    dsimp only
    rw [hline]
    dsimp only
    rw [hwords]
    rfl

/-! ## Queries -/

/-- The known paths have no question mark. -/
theorem ne_of_query {path known : Str} (h : '?' ∉ known) (query : Str) : path ++ '?' :: query ≠ known := by
  rintro rfl
  exact h (by simp)

theorem route_query (method path query body : Str) (contentLength : ℕ) :
    route method (path ++ '?' :: query) body contentLength =
      if method = "GET" then .ok .rootPage else .error (httpError "404 Not Found" "http_not_found") := by
  have hroot : ¬ (path ++ '?' :: query = "/" ∨ path ++ '?' :: query = "/index.html") :=
    not_or_intro (ne_of_query (by decide) query) (ne_of_query (by decide) query)
  have hsnapshot : ¬ (path ++ '?' :: query = "/api/snapshot" ∨ path ++ '?' :: query = "/api/status") :=
    not_or_intro (ne_of_query (by decide) query) (ne_of_query (by decide) query)
  have hcommand : path ++ '?' :: query ≠ "/api/command" := ne_of_query (by decide) query
  rw [route, if_neg fun h => hroot h.2, if_neg fun h => hsnapshot h.2, if_neg fun h => hcommand h.2]

theorem parseCommandBody_ne_notFound (body : Str) (contentLength : ℕ) :
    parseCommandBody body contentLength ≠ .error (httpError "404 Not Found" "http_not_found") := by
  have hcommand : httpError "404 Not Found" "http_not_found" ∉ HttpMessage.commandErrors := by decide
  intro h
  rcases HttpMessage.parseCommandBody_cases body contentLength with ⟨command, hok⟩ | ⟨error, hmem, herror⟩
  · cases h.symm.trans hok
  · rw [← Except.error.inj (h.symm.trans herror)] at hmem
    exact hcommand hmem

/-- The routes that a query takes away: the snapshot and the commands. -/
theorem route_query_eq_iff (method path query body : Str) (contentLength : ℕ) :
    route method (path ++ '?' :: query) body contentLength = route method path body contentLength ↔
      ¬ (method = "GET" ∧ (path = "/api/snapshot" ∨ path = "/api/status")) ∧
        ¬ (method = "POST" ∧ path = "/api/command") := by
  have hne : ("GET" : Str) ≠ "POST" := by decide
  have hroot (h : path = "/" ∨ path = "/index.html") :
      ¬ (path = "/api/snapshot" ∨ path = "/api/status") := by
    rcases h with rfl | rfl <;> decide
  rw [route_query, route]
  by_cases hget : method = "GET"
  · rw [if_pos hget]
    have hpost : ¬ (method = "POST" ∧ path = "/api/command") := fun h => hne (hget.symm.trans h.1)
    by_cases hknown : path = "/" ∨ path = "/index.html"
    · rw [if_pos ⟨hget, hknown⟩]
      exact iff_of_true rfl ⟨fun h => hroot hknown h.2, hpost⟩
    · rw [if_neg fun h => hknown h.2]
      by_cases hsnapshot : path = "/api/snapshot" ∨ path = "/api/status"
      · rw [if_pos ⟨hget, hsnapshot⟩]
        refine iff_of_false ?_ fun h => h.1 ⟨hget, hsnapshot⟩
        intro h
        cases Except.ok.inj h
      · rw [if_neg fun h => hsnapshot h.2, if_neg hpost]
        exact iff_of_true rfl ⟨fun h => hsnapshot h.2, hpost⟩
  · rw [if_neg hget, if_neg fun h => hget h.1, if_neg fun h => hget h.1]
    by_cases hcommand : method = "POST" ∧ path = "/api/command"
    · rw [if_pos hcommand]
      refine iff_of_false ?_ fun h => h.2 hcommand
      exact fun h => parseCommandBody_ne_notFound body contentLength h.symm
    · rw [if_neg hcommand]
      exact iff_of_true rfl ⟨fun h => hget h.1, hcommand⟩

/-- A query changes nothing exactly for the paths that are not looked up with one, or when the
request is malformed anyway. -/
theorem parseHttpRoute_query_iff {method path query : Str} (hmethod : IsWord method)
    (hpath : IsWord path) (hquery : Solid query) (rest : Str)
    (contentLength : ℕ) :
    parseHttpRoute (requestText method (path ++ '?' :: query) rest) contentLength =
        parseHttpRoute (requestText method path rest) contentLength ↔
      contains rest "\r\n\r\n" = false ∨
        ¬ (method = "GET" ∧ (path = "/api/snapshot" ∨ path = "/api/status")) ∧
          ¬ (method = "POST" ∧ path = "/api/command") := by
  have htarget : IsWord (path ++ '?' :: query) := by
    refine ⟨by simp, fun c hc => ?_⟩
    rcases List.mem_append.1 hc with hc | hc
    · exact hpath.2 c hc
    · rcases List.mem_cons.1 hc with rfl | hc
      · rfl
      · exact hquery c hc
  rw [parseHttpRoute_requestText hmethod htarget, parseHttpRoute_requestText hmethod hpath, contains,
    splitOnce]
  cases find? ("\r\n\r\n" : Str) rest with
  | none => exact iff_of_true rfl (Or.inl rfl)
  | some at_ =>
    simp only [Option.map_some, Option.isSome_some, Bool.true_eq_false, false_or]
    exact route_query_eq_iff method path query _ contentLength

/-- The page of the dashboard keeps its route. -/
theorem parseHttpRoute_query_root :
    parseHttpRoute (requestText "GET" ("/" ++ '?' :: "tab=map".toList) "HTTP/1.1\r\n\r\n") 0 =
      parseHttpRoute (requestText "GET" "/" "HTTP/1.1\r\n\r\n") 0 :=
  (parseHttpRoute_query_iff (by decide) (by decide) (by decide) _ 0).2 (by decide)

/-- What the dashboard asks for with every frame is answered with the page itself. -/
theorem snapshot_query_lost :
    parseHttpRoute (requestText "GET" "/api/snapshot" "HTTP/1.1\r\nHost: lb-mmwave.local\r\n\r\n") 0 =
        .ok .snapshot ∧
      parseHttpRoute (requestText "GET"
        ("/api/snapshot" ++ '?' :: "energy_since=12&text_since=3&generic_since=0".toList)
        "HTTP/1.1\r\nHost: lb-mmwave.local\r\n\r\n") 0 = .ok .rootPage := by
  decide +kernel

end EspWaveRider.Firmware
