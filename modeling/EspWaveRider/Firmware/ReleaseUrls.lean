import EspWaveRider.Core.DownloadUrl
import EspWaveRider.Firmware.FirmwareSync

/-!
# Where a release is downloaded from

`firmware_release_asset_urls` of `rust/crates/espwaverider-core/src/release.rs` and
`firmware_release_download_url_candidates` of `rust/firmware/esp32s3/src/main.rs`, for any names.

* `firmwareReleaseAssetUrl_eq_nil_iff`, `exists_path_firmwareReleaseAssetUrl` — one address;
* `releaseUrls_fetchable` — all of them are addresses that the firmware reads, without repetition.
-/

namespace EspWaveRider.Firmware

open Text Release

/-- There is a version, and nothing that an address needs is missing. -/
def Named (owner repo version buildTarget : Str) : Prop :=
  semanticVersionCore version ≠ [] ∧ trim owner ≠ [] ∧ trim repo ≠ [] ∧ trim buildTarget ≠ []

/-- What follows the host in the address of a release. -/
def releasePath (owner repo version buildTarget : Str) : Str :=
  '/' :: (trim owner ++ '/' :: trim repo ++ ("/releases/download/v" : Str) ++
    semanticVersionCore version ++ '/' :: ("EspWaveRider-" : Str) ++ semanticVersionCore version ++
      '-' :: trim buildTarget ++ (".bin" : Str))

section Address

variable {owner repo version buildTarget : Str}

/-- The version of an address is a core already. -/
theorem firmwareReleaseAssetName_core (h : Named owner repo version buildTarget) :
    firmwareReleaseAssetName (semanticVersionCore version) buildTarget ".bin" =
      ("EspWaveRider-" : Str) ++ semanticVersionCore version ++ '-' :: trim buildTarget ++
        (".bin" : Str) := by
  rw [firmwareReleaseAssetName, semanticVersionCore_idem]
  exact if_neg (not_or.2 ⟨h.1, h.2.2.2⟩)

theorem firmwareReleaseAssetUrl_of_named (h : Named owner repo version buildTarget) :
    firmwareReleaseAssetUrl owner repo version buildTarget =
      ("https://github.com" : Str) ++ releasePath owner repo version buildTarget := by
  have hgiven : ¬ (semanticVersionCore version = [] ∨ trim owner = [] ∨ trim repo = []) := by
    simp [h.1, h.2.1, h.2.2.1]
  have hname : ("EspWaveRider-" : Str) ++ semanticVersionCore version ++ '-' :: trim buildTarget ++
      (".bin" : Str) ≠ [] := by simp
  rw [firmwareReleaseAssetUrl]
  dsimp only
  rw [if_neg hgiven, firmwareReleaseAssetName_core h, if_neg hname, releasePath]
  simp

theorem firmwareReleaseAssetUrl_of_not_named (h : ¬ Named owner repo version buildTarget) :
    firmwareReleaseAssetUrl owner repo version buildTarget = [] := by
  rw [firmwareReleaseAssetUrl]
  dsimp only
  split_ifs with hmissing hname
  · rfl
  · rfl
  · exfalso
    rw [not_or, not_or] at hmissing
    rw [firmwareReleaseAssetName, semanticVersionCore_idem] at hname
    by_cases htarget : trim buildTarget = []
    · exact hname (if_pos (Or.inr htarget))
    · exact h ⟨hmissing.1, hmissing.2.1, hmissing.2.2, htarget⟩

theorem firmwareReleaseAssetUrl_eq_nil_iff :
    firmwareReleaseAssetUrl owner repo version buildTarget = [] ↔
      ¬ Named owner repo version buildTarget := by
  refine ⟨fun h hnamed => ?_, firmwareReleaseAssetUrl_of_not_named⟩
  rw [firmwareReleaseAssetUrl_of_named hnamed] at h
  exact absurd (List.append_eq_nil_iff.1 h).1 (by decide)

/-- The names may hold anything; the address is read all the same. -/
theorem parseDownloadUrl_firmwareReleaseAssetUrl (h : Named owner repo version buildTarget) :
    parseDownloadUrl (firmwareReleaseAssetUrl owner repo version buildTarget) =
      some ⟨.https, "github.com", 443, releasePath owner repo version buildTarget⟩ := by
  have hend : (".bin" : Str).getLast? = some 'n' := rfl
  have hlast : ∀ c ∈ (releasePath owner repo version buildTarget).getLast?, isWhitespace c = false := by
    intro c hc
    rw [releasePath, ← List.cons_append, List.getLast?_append, hend, Option.some_or] at hc
    cases hc
    decide
  have hhost : ("https://github.com" : Str) = ("https" : Str) ++ ("://" ++ ("github.com" : Str)) := by
    decide
  have hparse := @parseDownloadUrl_write .https "https" "github.com" _ none (by decide) (by decide)
    (by decide) (by decide) hlast
  rw [portSuffix, List.append_nil] at hparse
  rw [firmwareReleaseAssetUrl_of_named h, hhost, List.append_assoc, List.append_assoc]
  exact hparse

/-- An address that is not empty is one that is read. -/
theorem exists_path_firmwareReleaseAssetUrl
    (h : firmwareReleaseAssetUrl owner repo version buildTarget ≠ []) :
    ∃ path, firmwareReleaseAssetUrl owner repo version buildTarget =
        ("https://github.com" : Str) ++ path ∧
      parseDownloadUrl (firmwareReleaseAssetUrl owner repo version buildTarget) =
        some ⟨.https, "github.com", 443, path⟩ := by
  have hnamed : Named owner repo version buildTarget := not_not.1 (mt firmwareReleaseAssetUrl_eq_nil_iff.2 h)
  exact ⟨_, firmwareReleaseAssetUrl_of_named hnamed, parseDownloadUrl_firmwareReleaseAssetUrl hnamed⟩

end Address

/-! ## All addresses of a release -/

/-- No address, the address of the target, or that and the address of its other name. -/
theorem firmwareReleaseAssetUrls_cases (owner repo version buildTarget : Str) :
    let canonicalUrl := firmwareReleaseAssetUrl owner repo version buildTarget
    (canonicalUrl = [] ∧ firmwareReleaseAssetUrls owner repo version buildTarget = []) ∨
    (canonicalUrl ≠ [] ∧ firmwareReleaseAssetUrls owner repo version buildTarget = [canonicalUrl]) ∨
    ∃ aliasTarget, canonicalUrl ≠ [] ∧
      firmwareReleaseAssetUrl owner repo version aliasTarget ≠ [] ∧
      canonicalUrl ≠ firmwareReleaseAssetUrl owner repo version aliasTarget ∧
      firmwareReleaseAssetUrls owner repo version buildTarget =
        [canonicalUrl, firmwareReleaseAssetUrl owner repo version aliasTarget] := by
  dsimp only
  rw [firmwareReleaseAssetUrls]
  dsimp only
  split_ifs with hempty
  · exact Or.inl ⟨hempty, rfl⟩
  · cases legacyReleaseTargetAlias buildTarget with
    | none => exact Or.inr (Or.inl ⟨hempty, rfl⟩)
    | some aliasTarget =>
      dsimp only
      split_ifs with halias
      · rw [List.mem_singleton] at halias
        exact Or.inr (Or.inr ⟨aliasTarget, hempty, halias.1, Ne.symm halias.2, rfl⟩)
      · exact Or.inr (Or.inl ⟨hempty, rfl⟩)

theorem nodup_firmwareReleaseAssetUrls (owner repo version buildTarget : Str) :
    (firmwareReleaseAssetUrls owner repo version buildTarget).Nodup := by
  rcases firmwareReleaseAssetUrls_cases owner repo version buildTarget with
    ⟨-, h⟩ | ⟨-, h⟩ | ⟨aliasTarget, -, -, hne, h⟩
  · rw [h]
    exact List.nodup_nil
  · rw [h]
    exact List.nodup_singleton _
  · rw [h, List.nodup_cons]
    exact ⟨mt List.mem_singleton.1 hne, List.nodup_singleton _⟩

/-- The stored address comes first, unless it is one of the others. -/
theorem firmwareReleaseDownloadUrlCandidates_spec (targetVersion primaryUrl : Str) :
    (firmwareReleaseDownloadUrlCandidates targetVersion primaryUrl).Nodup ∧
      (primaryUrl ≠ [] → primaryUrl ∈ firmwareReleaseDownloadUrlCandidates targetVersion primaryUrl) := by
  have hnodup := nodup_firmwareReleaseAssetUrls firmwareReleaseRepoOwner firmwareReleaseRepoName
    targetVersion rustBuildTarget
  rw [firmwareReleaseDownloadUrlCandidates]
  split_ifs with hnew
  · exact ⟨List.nodup_cons.2 ⟨hnew.2, hnodup⟩, fun _ => List.mem_cons_self ..⟩
  · exact ⟨hnodup, fun hne => not_not.1 fun hmem => hnew ⟨hne, hmem⟩⟩

/-- What the addresses of a release have in common. -/
theorem of_mem_firmwareReleaseAssetUrls {owner repo version buildTarget url : Str}
    (h : url ∈ firmwareReleaseAssetUrls owner repo version buildTarget) :
    ∃ path, url = ("https://github.com" : Str) ++ path ∧
      parseDownloadUrl url = some ⟨.https, "github.com", 443, path⟩ := by
  rcases firmwareReleaseAssetUrls_cases owner repo version buildTarget with
    ⟨-, heq⟩ | ⟨hne, heq⟩ | ⟨aliasTarget, hne, halias, -, heq⟩
  · rw [heq] at h
    cases h
  · rw [heq, List.mem_singleton] at h
    rw [h]
    exact exists_path_firmwareReleaseAssetUrl hne
  · rw [heq, List.mem_cons, List.mem_singleton] at h
    rcases h with rfl | rfl
    · exact exists_path_firmwareReleaseAssetUrl hne
    · exact exists_path_firmwareReleaseAssetUrl halias

/-- The addresses begin with the canonical one, which is missing only if there is none. -/
theorem head?_firmwareReleaseAssetUrls (owner repo version buildTarget : Str) :
    (firmwareReleaseAssetUrls owner repo version buildTarget = [] ↔
      ¬ Named owner repo version buildTarget) ∧
    (firmwareReleaseAssetUrls owner repo version buildTarget).length ≤ 2 ∧
    (firmwareReleaseAssetUrls owner repo version buildTarget ≠ [] →
      (firmwareReleaseAssetUrls owner repo version buildTarget).head? =
        some (firmwareReleaseAssetUrl owner repo version buildTarget)) := by
  rw [← firmwareReleaseAssetUrl_eq_nil_iff]
  rcases firmwareReleaseAssetUrls_cases owner repo version buildTarget with
    ⟨hempty, h⟩ | ⟨hne, h⟩ | ⟨aliasTarget, hne, -, -, h⟩
  · rw [h]
    exact ⟨iff_of_true rfl hempty, Nat.zero_le _, fun hne => absurd rfl hne⟩
  · rw [h]
    exact ⟨iff_of_false (List.cons_ne_nil _ _) hne, Nat.le_succ 1, fun _ => rfl⟩
  · rw [h]
    exact ⟨iff_of_false (List.cons_ne_nil _ _) hne, le_rfl, fun _ => rfl⟩

/-- Every address of a release is read as an address of its host; there is none exactly if
something is missing; no address is tried twice, and the stored one is always tried. -/
theorem releaseUrls_fetchable (owner repo version buildTarget targetVersion primaryUrl : Str) :
    let urls := firmwareReleaseAssetUrls owner repo version buildTarget
    let candidates := firmwareReleaseDownloadUrlCandidates targetVersion primaryUrl
    (∀ url ∈ urls, ∃ path, url = ("https://github.com" : Str) ++ path ∧
      parseDownloadUrl url = some ⟨.https, "github.com", 443, path⟩) ∧
    (urls = [] ↔ semanticVersionCore version = [] ∨ trim owner = [] ∨ trim repo = [] ∨
      trim buildTarget = []) ∧
    urls.length ≤ 2 ∧ urls.Nodup ∧
    (urls ≠ [] → urls.head? = some (firmwareReleaseAssetUrl owner repo version buildTarget)) ∧
    candidates.Nodup ∧ (primaryUrl ≠ [] → primaryUrl ∈ candidates) := by
  have hmissing : ¬ Named owner repo version buildTarget ↔ semanticVersionCore version = [] ∨
      trim owner = [] ∨ trim repo = [] ∨ trim buildTarget = [] := by
    rw [Named]
    tauto
  obtain ⟨hnil, hlength, hhead⟩ := head?_firmwareReleaseAssetUrls owner repo version buildTarget
  exact ⟨fun _ => of_mem_firmwareReleaseAssetUrls, hnil.trans hmissing, hlength,
    nodup_firmwareReleaseAssetUrls owner repo version buildTarget, hhead,
    firmwareReleaseDownloadUrlCandidates_spec targetVersion primaryUrl⟩

end EspWaveRider.Firmware
