import Mathlib.Tactic.Common
import DocSite.Proofs.Steps
import DocSite.Site.Validation.Identity

/-!
# Sites have hosts

A URL keeps the scheme it was written with, and a URL of the web has a
host. So an address with a scheme that sites are served by has a host
too, and asking for one is asking for nothing more
(`host_isSome_of_parse`).

What a URL of the web is read from is said once (`web_eq_ok_iff`): an
authority with a host and a port that fits, and the path behind it.
-/

namespace DocSite.Url

/-- What an authority of the web ends before. -/
def endsAuthority (c : Char) : Bool := isAnySlash c || endsPath c

/-- What is behind the slashes that a URL of the web may begin with. -/
def behindSlashes (rest : List Char) : List Char := rest.dropWhile isAnySlash

/-- What is behind the authority of a URL of the web. -/
def behindAuthority (rest : List Char) : List Char :=
  (behindSlashes rest).dropWhile (!endsAuthority ·)

/-- **What a URL of the web is read from**: an authority with a host and a
port that fits, and what is behind it for the path. -/
theorem web_eq_ok_iff (scheme rest : List Char) (url : Url) :
    web scheme rest = .ok url ↔ ∃ parts host,
      authority (!(behindAuthority rest).isEmpty)
          ((behindSlashes rest).takeWhile (!endsAuthority ·)) = .ok parts
        ∧ parts.host ≠ [] ∧ webHost parts.host = .ok host ∧ portFits (parts.port.drop 1) = true
        ∧ url = ⟨scheme, some host, pathOf isAnySlash (untilEnd (behindAuthority rest))⟩ := by
  have hweb : web scheme rest = (authority (!(behindAuthority rest).isEmpty)
      ((behindSlashes rest).takeWhile (!endsAuthority ·)) >>= fun parts =>
        if parts.host.isEmpty then .error .emptyHost
        else webHost parts.host >>= fun host =>
          if portFits (parts.port.drop 1) then
            .ok ⟨scheme, some host, pathOf isAnySlash (untilEnd (behindAuthority rest))⟩
          else .error .port) := rfl
  rw [hweb]
  constructor
  · intro h
    obtain ⟨parts, hparts, h⟩ := exists_of_bind h
    split at h
    · exact absurd h (by simp)
    · next hhost =>
      obtain ⟨host, hwebHost, h⟩ := exists_of_bind h
      split at h
      · next hport =>
        injection h with h
        exact ⟨parts, host, hparts, by simpa using hhost, hwebHost, hport, h.symm⟩
      · exact absurd h (by simp)
  · rintro ⟨parts, host, hparts, hhost, hwebHost, hport, rfl⟩
    rw [hparts]
    show (if parts.host.isEmpty then _ else _) = _
    rw [if_neg (by simpa using hhost), hwebHost]
    show (if portFits (parts.port.drop 1) then _ else _) = _
    rw [if_pos hport]

/-- A URL of the web has its scheme and a host, which is not the empty
name. -/
theorem of_web {scheme rest : List Char} {url : Url} (h : web scheme rest = .ok url) :
    url.scheme = scheme ∧ ∃ host, url.host = some host ∧ host ≠ .domain [] := by
  obtain ⟨parts, host, -, -, hhost, -, rfl⟩ := (web_eq_ok_iff scheme rest url).mp h
  exact ⟨rfl, host, rfl, fun hempty => webHost_ne_empty parts.host (hempty ▸ hhost)⟩

theorem of_file {scheme rest : List Char} {url : Url} (h : file scheme rest = .ok url) :
    url.scheme = scheme := by
  unfold file at h
  split at h
  · injection h with h
    rw [← h]
    rfl
  · injection h with h
    rw [← h]
    split <;> rfl
  · split at h
    · dsimp only at h
      split at h
      · injection h with h
        rw [← h]
        rfl
      · obtain ⟨host, -, h⟩ := exists_of_bind h
        cases host with
        | none =>
          injection h with h
          rw [← h]
          rfl
        | some host =>
          injection h with h
          rw [← h]
          rfl
    · split at h
      · injection h with h
        rw [← h]
        rfl
      · injection h with h
        rw [← h]
        rfl

theorem of_other {scheme rest : List Char} {url : Url} (h : other scheme rest = .ok url) :
    url.scheme = scheme := by
  unfold other at h
  split at h
  · unfold withAuthority at h
    obtain ⟨parts, -, h⟩ := exists_of_bind h
    obtain ⟨host, -, h⟩ := exists_of_bind h
    dsimp only at h
    by_cases hempty : host = .domain [] ∧ (parts.port ≠ [] ∨ parts.credentials = true)
    · rw [if_pos hempty] at h
      exact absurd h (by simp)
    · rw [if_neg hempty] at h
      by_cases hport : portFits ((parts.port.drop 1).takeWhile (· != '\\')) = true
      · rw [if_pos hport] at h
        injection h with h
        rw [← h]
      · rw [if_neg hport] at h
        exact absurd h (by simp)
  · injection h with h
    rw [← h]
  · injection h with h
    rw [← h]

theorem ofScheme_of_siteSchemes {scheme : List Char}
    (h : Validation.siteSchemes.contains scheme = true) : Kind.ofScheme scheme = .web := by
  have hmem : scheme ∈ Validation.siteSchemes := List.contains_iff_mem.mp h
  rcases List.mem_cons.mp hmem with rfl | hmem
  · decide
  · rw [List.mem_singleton.mp hmem]
    decide

/-- **A URL with the scheme of a site is read as one of the web.** -/
theorem exists_web_of_parse {text : List Char} {url : Url} (h : parse text = .ok url)
    (hs : Validation.siteSchemes.contains url.scheme = true) :
    ∃ rest, scheme? (significant text) = some (url.scheme, rest)
      ∧ web url.scheme rest = .ok url := by
  unfold parse at h
  split at h
  · exact absurd h (by simp)
  · next scheme rest hscheme =>
    split at h
    · obtain rfl := (of_web h).1
      exact ⟨rest, hscheme, h⟩
    -- no site is served from files, or by a scheme of another kind
    · next hkind =>
      rw [of_file h] at hs
      exact absurd (hkind.symm.trans (ofScheme_of_siteSchemes hs)) (by decide)
    · next hkind =>
      rw [of_other h] at hs
      exact absurd (hkind.symm.trans (ofScheme_of_siteSchemes hs)) (by decide)

/-- **A URL with the scheme of a site has a host**, which is not the empty
name. -/
theorem host_of_parse {text : List Char} {url : Url} (h : parse text = .ok url)
    (hs : Validation.siteSchemes.contains url.scheme = true) :
    ∃ host, url.host = some host ∧ host ≠ .domain [] := by
  obtain ⟨rest, -, hweb⟩ := exists_web_of_parse h hs
  exact (of_web hweb).2

/-- A URL with the scheme of a site has a host. -/
theorem host_isSome_of_parse {text : List Char} {url : Url} (h : parse text = .ok url)
    (hs : Validation.siteSchemes.contains url.scheme = true) : url.host.isSome = true := by
  obtain ⟨host, hhost, -⟩ := host_of_parse h hs
  rw [hhost]
  rfl

end DocSite.Url
