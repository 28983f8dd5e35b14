import Mathlib.Tactic.Common
import DocSite.Proofs.Url.Extension
import DocSite.Proofs.Url.Path
import DocSite.Proofs.Validation.Acceptance
import DocSite.Site.Base

/-!
# The base of a site

The base of a site is what its configuration says, or else what its
address implies, and the two are checked on different ways: one by its
characters, the other as a URL. What an address implies has a form of its
own (`IsCanonicalBase`), which is narrower than what may be said, and
which an address of that very base implies again.

It is the path of the address that implies the base, without the slashes
around it. So neither a slash behind an address nor anything behind a
question mark or a number sign makes a difference (`base_canonical`), if
the address goes on to where the text is added: a blank at its end would
count in the middle, and behind a question mark a slash is no longer part
of the path.
-/

namespace DocSite

open Url

/-- **The form of a base that an address implies.** -/
structure IsCanonicalBase (base : String) : Prop where
  /-- It is in ASCII. -/
  ascii : ∀ c ∈ base.toList, c.toNat < 0x80
  /-- It has no blanks. -/
  blank : Text.hasBlank base = false
  /-- It is one path, and no slash in it is written the other way. -/
  path : ∀ c ∈ base.toList, c ≠ '?' ∧ c ≠ '#' ∧ c ≠ '\\'
  /-- It begins with one slash. -/
  head : ∃ c rest, base.toList = '/' :: c :: rest ∧ c ≠ '/'
  /-- It does not end with a slash. -/
  last : base.toList.getLast? ≠ some '/'
  /-- None of its segments stays, or leaves the one before it. -/
  segments : ∀ segment ∈ Text.split (· == '/') base.toList,
    segment ≠ ['.'] ∧ segment ≠ ['.', '.']

/-! ## Bases and paths -/

/-- The base that the path of an address implies. -/
def baseOfPath? (path : List Char) : Option String :=
  if (Text.trimSlashes path).isEmpty then none
  else some (String.ofList ('/' :: Text.trimSlashes path))

/-- An address implies what its path does. -/
theorem baseOfAddress?_of_parse {address : String} {url : Url}
    (h : parse address.toList = .ok url) : baseOfAddress? address = baseOfPath? url.path := by
  unfold baseOfAddress?
  rw [h]
  rfl

theorem isWebPath_of_baseOfPath? {path : List Char} (hpath : IsWebPath path) {base : String}
    (h : baseOfPath? path = some base) :
    IsWebPath base.toList ∧ Text.trimSlashes path ≠ []
      ∧ base.toList = '/' :: Text.trimSlashes path := by
  unfold baseOfPath? at h
  split at h
  · exact absurd h (by simp)
  · next hne =>
    injection h with h
    have htext : base.toList = '/' :: Text.trimSlashes path := by
      rw [← h, String.toList_ofList]
    refine ⟨?_, by simpa using hne, htext⟩
    rw [htext]
    exact hpath.trimSlashes

/-- **A base that a path implies is canonical.** -/
theorem isCanonicalBase_of_baseOfPath? {path : List Char} (hpath : IsWebPath path) {base : String}
    (h : baseOfPath? path = some base) : IsCanonicalBase base := by
  obtain ⟨hweb, hne, htext⟩ := isWebPath_of_baseOfPath? hpath h
  have hchars := hweb.chars
  refine ⟨fun c hc => ?_, ?_, fun c hc => ?_, ?_, ?_, fun segment hsegment => ?_⟩
  · rcases hchars c hc with rfl | hc
    · decide
    · exact hc.ascii
  · refine List.any_eq_false.mpr fun c hc => Bool.eq_false_iff.mp ?_
    rcases hchars c hc with rfl | hc
    · decide
    · exact hc.isBlank
  · rcases hchars c hc with rfl | hc
    · decide
    · exact ⟨hc.ne (by decide), hc.ne (by decide), hc.ne (by decide)⟩
  · obtain ⟨c, rest, htrim⟩ := List.exists_cons_of_ne_nil hne
    refine ⟨c, rest, by rw [htext, htrim], ?_⟩
    rintro rfl
    exact Text.head?_trimSlashes path (by rw [htrim]; rfl)
  · obtain ⟨c, rest, htrim⟩ := List.exists_cons_of_ne_nil hne
    rw [htext, htrim, List.getLast?_cons_cons, ← htrim]
    exact Text.getLast?_trimSlashes path
  · exact (hweb.isSettled_of_mem_split hsegment).ne_dots

/-- **The base of a path implies itself.** -/
theorem baseOfPath?_toList {path : List Char} (hpath : IsWebPath path) {base : String}
    (h : baseOfPath? path = some base) : baseOfPath? base.toList = some base := by
  obtain ⟨-, hne, htext⟩ := isWebPath_of_baseOfPath? hpath h
  have htrim : Text.trimSlashes base.toList = Text.trimSlashes path := by
    rw [htext]
    exact Text.trimSlashes_cons (Text.head?_trimSlashes path) (Text.getLast?_trimSlashes path)
  unfold baseOfPath?
  rw [htrim, if_neg (by simpa using hne), ← htext, String.ofList_toList]

/-- A slash behind a text implies nothing else. -/
theorem baseOfPath?_concat_slash (text : List Char) :
    baseOfPath? (pathOf isAnySlash (text ++ ['/'])) = baseOfPath? (pathOf isAnySlash text) := by
  unfold baseOfPath?
  rw [trimSlashes_pathOf_concat_slash]

/-! ## A base behind a host -/

theorem Url.percentDecode_of_notMem {text : List Char} (h : '%' ∉ text) :
    percentDecode text = text.flatMap String.utf8EncodeChar := by
  induction text with
  | nil =>
    rw [percentDecode]
    rfl
  | cons c rest ih =>
    have hc : c ≠ '%' := fun hc => h (hc ▸ List.mem_cons_self)
    rw [percentDecode, ih fun hmem => h (List.mem_cons_of_mem _ hmem), List.flatMap_cons]
    rintro _ _ _ rfl
    exact absurd rfl hc

theorem Url.decodeUtf8?_flatMap (text : List Char) :
    decodeUtf8? (text.flatMap String.utf8EncodeChar) = some text := by
  have hbytes : (⟨(text.flatMap String.utf8EncodeChar).toArray⟩ : ByteArray)
      = (String.ofList text).toByteArray := by
    rw [ByteArray.ext_iff]
    exact List.data_toByteArray.symm
  unfold decodeUtf8? String.fromUTF8?
  rw [hbytes, dif_pos (String.ofList text).isValidUTF8]
  show some (String.ofList text).toList = _
  rw [String.toList_ofList]

/-- The host of an address whose path is of interest. -/
def sampleHost : List Char := "example.com".toList

theorem webHost_sampleHost : webHost sampleHost = .ok (.domain sampleHost) := by
  unfold webHost
  rw [if_neg (by decide), percentDecode_of_notMem (by decide), decodeUtf8?_flatMap]
  rfl

theorem web_sampleHost : web "https".toList ('/' :: '/' :: sampleHost)
    = .ok ⟨"https".toList, some (.domain sampleHost), ['/']⟩ :=
  (web_eq_ok_iff _ _ _).mpr
    ⟨⟨false, sampleHost, []⟩, .domain sampleHost, by rfl, by decide, webHost_sampleHost, by decide,
      by rfl⟩

/-- **A path behind a host** is the path of the address. -/
theorem parse_sampleHost {path : List Char} (hpath : IsWebPath path) :
    parse ("https://example.com".toList ++ path)
      = .ok ⟨"https".toList, some (.domain sampleHost), path⟩ := by
  have hsignificant : significant ("https://example.com".toList ++ path)
      = "https://example.com".toList ++ path := by
    have hhost : "https://example.com".toList.any isOuterBlank = false := by decide
    refine significant_of_all fun c hc => ?_
    rcases List.mem_append.mp hc with hc | hc
    · exact Bool.eq_false_iff.mpr (List.any_eq_false.mp hhost c hc)
    · rcases hpath.chars c hc with rfl | hc
      · decide
      · exact decide_eq_false (Nat.not_le.mpr hc.space_lt)
  have hscheme : scheme? "https://example.com".toList
      = some ("https".toList, '/' :: '/' :: sampleHost) := by decide
  have huntil : untilEnd path = path := by
    refine untilEnd_of_all fun c hc => ?_
    rcases hpath.chars c hc with rfl | hc
    · decide
    · exact (endsPath_eq_false_iff c).mpr ⟨hc.ne (by decide), hc.ne (by decide)⟩
  have hself := hpath.pathOf_eq
  have hlonger := scheme?_append hscheme path
  rw [← hsignificant] at hlonger
  rw [parse_of_scheme? hlonger (by decide)]
  obtain ⟨segments, -, -, rfl⟩ := hpath
  rw [web_append web_sampleHost (show endsAuthority '/' = true by decide)]
  -- nothing but the path is behind the authority
  show Except.ok (Url.mk _ _ (pathOf isAnySlash (untilEnd ('/' :: Text.join '/' segments)))) = _
  rw [huntil, hself]

/-! ## A text behind an address -/

/-- The path of an address of a site is that of a URL of the web. -/
theorem exists_parse_of_isSiteUrl {address : String} (h : IsSiteUrl address) :
    ∃ url, parse address.toList = .ok url ∧ Validation.siteSchemes.contains url.scheme = true
      ∧ IsWebPath url.path := by
  obtain ⟨url, hparse, hscheme⟩ := h
  have hs := (Validation.siteSchemes_contains_iff url.scheme).mpr hscheme
  obtain ⟨rest, -, hweb⟩ := exists_web_of_parse hparse hs
  obtain ⟨parts, host, -, -, -, -, hurl⟩ := (web_eq_ok_iff _ _ _).mp hweb
  refine ⟨url, hparse, hs, ?_⟩
  rw [hurl]
  exact isWebPath_pathOf _

/-- The base that the address of a site implies is that of a path. -/
theorem exists_path_of_baseOfAddress? {address base : String} (h : IsSiteUrl address)
    (hbase : baseOfAddress? address = some base) :
    ∃ path, IsWebPath path ∧ baseOfPath? path = some base := by
  obtain ⟨url, hparse, -, hpath⟩ := exists_parse_of_isSiteUrl h
  rw [baseOfAddress?_of_parse hparse] at hbase
  exact ⟨url.path, hpath, hbase⟩

/-- **A text behind an address** that begins with what ends a path, or is
one slash, leaves the base as it is. -/
theorem baseOfAddress?_append {address : String} (h : IsSiteUrl address)
    (hpath : ∀ c ∈ address.toList, c ≠ '?' ∧ c ≠ '#')
    (hlast : ∀ c, address.toList.getLast? = some c → 0x20 < c.toNat) :
    baseOfAddress? (address ++ "/") = baseOfAddress? address
      ∧ (∀ text, baseOfAddress? (address ++ "?" ++ text) = baseOfAddress? address)
      ∧ ∀ text, baseOfAddress? (address ++ "#" ++ text) = baseOfAddress? address := by
  obtain ⟨url, hparse, hs, -⟩ := exists_parse_of_isSiteUrl h
  obtain ⟨behind, hbehind, hurl, happend⟩ := parse_append hparse hs fun c hc =>
    decide_eq_false (Nat.not_le.mpr (hlast c hc))
  have hends : ∀ c ∈ behind, endsPath c = false := fun c hc =>
    (endsPath_eq_false_iff c).mpr (hpath c (hbehind c hc))
  have huntil := untilEnd_of_all hends
  -- a slash goes to the end of the path, and what ends a path does not count
  have hslash : baseOfAddress? (address ++ "/") = baseOfAddress? address := by
    have htext : (address ++ "/").toList = address.toList ++ ['/'] := String.toList_append
    have hlonger : untilEnd (behind ++ ['/']) = behind ++ ['/'] := by
      refine untilEnd_of_all fun c hc => ?_
      rcases List.mem_append.mp hc with hc | hc
      · exact hends c hc
      · rw [List.mem_singleton.mp hc]
        decide
    have hparse' := happend '/' (by simp) []
    rw [← htext] at hparse'
    rw [baseOfAddress?_of_parse hparse', baseOfAddress?_of_parse hparse, hurl, huntil,
      ← baseOfPath?_concat_slash behind, ← hlonger]
    rfl
  have hmark : ∀ mark : Char, mark ∈ ['/', '?', '#'] → endsPath mark = true → ∀ text : String,
      baseOfAddress? (address ++ String.singleton mark ++ text) = baseOfAddress? address := by
    intro mark hmem hmark text
    have htext : (address ++ String.singleton mark ++ text).toList
        = address.toList ++ mark :: text.toList := by
      rw [String.toList_append, String.toList_append, String.toList_singleton, List.append_assoc]
      rfl
    have hparse' := happend mark hmem text.toList
    rw [← htext] at hparse'
    rw [baseOfAddress?_of_parse hparse', baseOfAddress?_of_parse hparse, hurl,
      untilEnd_append hmark]
  exact ⟨hslash, hmark '?' (by simp) (by decide), hmark '#' (by simp) (by decide)⟩

/-- **The base of a site is canonical.** Whatever base an accepted
configuration has, it begins with a slash and has no blanks. A base that
an address implies is narrower: it is in ASCII, it begins with one slash
and does not end with one, no blank, question mark, number sign or
backslash is in it, and no segment of it stays or leads up; and the
address of a host with that base behind it implies the same base. A slash
behind an address, or a question mark or a number sign with any text, does
not change what it implies, if the address has neither of them and does
not end in a blank. -/
theorem base_canonical :
    (∀ config : SiteConfig, config.report.passes = true → ∀ base, config.servedBase? = some base →
        base.toList.head? = some '/' ∧ Text.hasBlank base = false)
      ∧ (∀ address base, IsSiteUrl address → baseOfAddress? address = some base →
        IsCanonicalBase base ∧ IsSiteUrl ("https://example.com" ++ base)
          ∧ baseOfAddress? ("https://example.com" ++ base) = some base)
      ∧ ∀ address, IsSiteUrl address → (∀ c ∈ address.toList, c ≠ '?' ∧ c ≠ '#') →
        (∀ c, address.toList.getLast? = some c → 0x20 < c.toNat) →
        baseOfAddress? (address ++ "/") = baseOfAddress? address
          ∧ (∀ text, baseOfAddress? (address ++ "?" ++ text) = baseOfAddress? address)
          ∧ ∀ text, baseOfAddress? (address ++ "#" ++ text) = baseOfAddress? address := by
  refine ⟨fun config haccepted base hbase => ?_, fun address base haddress hbase => ?_,
    fun address haddress hpath hlast => baseOfAddress?_append haddress hpath hlast⟩
  · have hsound := (SiteConfig.passes_iff config).mp haccepted
    unfold SiteConfig.servedBase? at hbase
    split at hbase
    · next said hsaid =>
      injection hbase with hbase
      exact hbase ▸ hsound.base said hsaid
    · obtain ⟨address, haddress, himplied⟩ := Option.bind_eq_some_iff.mp hbase
      obtain ⟨path, hpath, hbase⟩ :=
        exists_path_of_baseOfAddress? (hsound.site address haddress) himplied
      have hform := isCanonicalBase_of_baseOfPath? hpath hbase
      obtain ⟨c, rest, htext, -⟩ := hform.head
      exact ⟨by rw [htext]; rfl, hform.blank⟩
  · obtain ⟨path, hpath, hbase⟩ := exists_path_of_baseOfAddress? haddress hbase
    refine ⟨isCanonicalBase_of_baseOfPath? hpath hbase, ?_⟩
    -- the base is the path of the address that it is put into
    have hagain := parse_sampleHost (isWebPath_of_baseOfPath? hpath hbase).1
    rw [← String.toList_append] at hagain
    refine ⟨⟨_, hagain, Or.inr rfl⟩, ?_⟩
    rw [baseOfAddress?_of_parse hagain]
    exact baseOfPath?_toList hpath hbase

theorem base_canonical_docs :
    baseOfAddress? "https://example.com/docs/api" = some "/docs/api"
      ∧ IsCanonicalBase "/docs/api"
      ∧ baseOfAddress? ("https://example.com/docs/api" ++ "?" ++ "from=/a/")
        = some "/docs/api" := by
  have hpath : IsWebPath "/docs/api".toList := by
    refine ⟨["docs".toList, "api".toList], by decide, fun s hs => ?_, by decide⟩
    rcases List.mem_cons.mp hs with rfl | hs
    · exact ⟨isPathChar_of_all (by decide), by decide, by decide⟩
    · rw [List.mem_singleton.mp hs]
      exact ⟨isPathChar_of_all (by decide), by decide, by decide⟩
  have hparse : parse "https://example.com/docs/api".toList
      = .ok ⟨"https".toList, some (.domain sampleHost), "/docs/api".toList⟩ :=
    parse_sampleHost hpath
  have hbase : baseOfAddress? "https://example.com/docs/api" = some "/docs/api" := by
    rw [baseOfAddress?_of_parse hparse]
    rfl
  have haddress : IsSiteUrl "https://example.com/docs/api" := ⟨_, hparse, Or.inr rfl⟩
  have hmarks : "https://example.com/docs/api".toList.any endsPath = false := by decide
  have hlast : "https://example.com/docs/api".toList.getLast? = some 'i' := by decide
  obtain ⟨-, hform, hbehind⟩ := base_canonical
  refine ⟨hbase, (hform _ _ haddress hbase).1, ?_⟩
  obtain ⟨-, hquery, -⟩ := hbehind _ haddress
    (fun c hc => (endsPath_eq_false_iff c).mp
      (Bool.eq_false_iff.mpr (List.any_eq_false.mp hmarks c hc)))
    (fun c hc => by
      rw [hlast] at hc
      injection hc with hc
      rw [← hc]
      decide)
  rw [hquery, hbase]

end DocSite
