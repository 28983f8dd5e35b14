import Mathlib.Data.List.Basic
import Mathlib.Tactic.Common
import DocSite.Proofs.Sidebar.Nodes
import DocSite.Proofs.Site.Wording
import DocSite.Proofs.Validation.Acceptance

/-!
# No host is ever missing alone

Two checks ask whether a URL has a host, that of social links and that of
the address of a site. Both ask in vain. A URL with the scheme of a site
has a host, whatever its text looks like, for its text would be refused
otherwise (`Url.host_of_parse`). Social links are asked for one only if
they have such a scheme, so the complaint is never made there: a link has
one error about its URL if its text is none, and no other. Sites are asked
for one whatever their scheme is, but only another scheme can be without,
and that is an error by itself (`host_never_missing_alone`).

What is found at each social link is said link by link (`socialErrors_eq`).
-/

namespace DocSite

/-- **Only two defects are worded as a missing host.** -/
theorem Defect.message_eq_host_iff (defect : Defect) :
    defect.message = "URL must have a valid host" ↔ defect = .siteHost ∨ defect = .hrefHost := by
  constructor
  · intro h
    have hletter : defect.letter = 'U' := by
      have hhead := defect.head?_message
      rw [h] at hhead
      exact (Option.some.inj hhead).symm
    cases defect with
    | siteHost => exact Or.inl rfl
    | hrefHost => exact Or.inr rfl
    | blankLinkLabel icon => cases icon <;> exact absurd hletter (by decide)
    | _ => exact absurd hletter (by simp [letter])
  · rintro (rfl | rfl) <;> rfl

namespace Validation

/-! ## Social links, link by link -/

/-- The error about the label of a link. -/
def labelError? (position : Nat) (link : SocialLink) : Option Report.Error :=
  if Text.blank link.label then
    some (Report.ofDefect ⟨(socialPlace position).key "label", .blankLinkLabel link.icon⟩)
  else none

/-- The error about the URL of a link: its text is none. -/
def hrefError? (position : Nat) (link : SocialLink) : Option Report.Error :=
  match Url.parse link.href.toList with
  | .ok _ => none
  | .error e => some (Report.ofDefect ⟨(socialPlace position).key "href", .hrefUrl link.href e⟩)

/-- **The errors about one link**: at most one about its label, and then at
most one about its URL. -/
def linkErrors (position : Nat) (link : SocialLink) : List Report.Error :=
  (labelError? position link).toList ++ (hrefError? position link).toList

variable (position : Nat) (link : SocialLink)

/-- A URL of a link that is one has no defect, for it has a host if it needs
one. -/
theorem hrefDefects_of_parse {place : Place} {href : String} {url : Url}
    (h : Url.parse href.toList = .ok url) : hrefDefects place href = [] :=
  (hrefDefects_eq_nil_iff place href).mpr ⟨url, h⟩

theorem map_linkDefects :
    (linkDefects (socialPlace position) link).map Report.ofDefect = linkErrors position link := by
  have hlabel : (if Text.blank link.label then
        [(⟨(socialPlace position).key "label", .blankLinkLabel link.icon⟩ : Located Defect)]
      else []).map Report.ofDefect = (labelError? position link).toList := by
    unfold labelError?
    split <;> rfl
  have hhref : (hrefDefects ((socialPlace position).key "href") link.href).map Report.ofDefect
      = (hrefError? position link).toList := by
    cases hparse : Url.parse link.href.toList with
    | ok url =>
      rw [hrefDefects_of_parse hparse]
      unfold hrefError?
      rw [hparse]
      rfl
    | error e =>
      unfold hrefDefects hrefError?
      rw [hparse]
      rfl
  unfold linkDefects linkErrors
  rw [List.map_append, hlabel, hhref]

/-- **The errors about social links are those about each of them**, in their
order. -/
theorem socialErrors_eq (links : List SocialLink) :
    (socialDefects links).map Report.ofDefect = (links.mapIdx linkErrors).flatten := by
  have hfrom : ∀ start, (socialDefectsFrom start links).map Report.ofDefect
      = (links.mapIdx fun i => linkErrors (start + i)).flatten := by
    induction links with
    | nil => exact fun _ => rfl
    | cons link links ih =>
      intro start
      have hshift : (fun i => linkErrors (start + (i + 1)))
          = fun i => linkErrors (start + 1 + i) := by
        funext i
        rw [Nat.add_assoc, Nat.add_comm 1 i]
      rw [socialDefectsFrom, List.map_append, map_linkDefects, ih (start + 1), List.mapIdx_cons,
        List.flatten_cons, hshift]
      rfl
  have hzero := hfrom 0
  simp only [Nat.zero_add] at hzero
  exact hzero

/-- There is an error about the URL of a link exactly if its text is
none. -/
theorem isSome_hrefError?_iff : (hrefError? position link).isSome ↔ ¬IsUrl link.href := by
  unfold hrefError? IsUrl
  cases hparse : Url.parse link.href.toList with
  | ok url => simp
  | error e => simp

theorem text_socialPlace_key (name : String) :
    ((socialPlace position).key name).text = "social[" ++ toString position ++ "]." ++ name := by
  have hne : (socialPlace position).text ≠ "" :=
    Place.text_index_ne_empty ⟨"social", []⟩ position
  rw [Place.text_key hne]
  show "social" ++ "[" ++ toString position ++ "]" ++ "." ++ name = _
  simp only [String.append_assoc]
  rfl

theorem text_of_hrefError? {e : Report.Error} (h : e ∈ hrefError? position link) :
    e.place.text = "social[" ++ toString position ++ "].href" := by
  unfold hrefError? at h
  split at h
  · exact absurd h (by simp)
  · obtain rfl := Option.some.inj h
    show ((socialPlace position).key "href").text = _
    rw [text_socialPlace_key, String.append_assoc]
    rfl

theorem message_of_mem_linkErrors {e : Report.Error} (h : e ∈ linkErrors position link) :
    e.message ≠ "URL must have a valid host" := by
  intro hmessage
  rcases List.mem_append.mp h with h | h
  · rw [Option.mem_toList] at h
    unfold labelError? at h
    split at h
    · obtain rfl := Option.some.inj h
      exact absurd ((Defect.message_eq_host_iff (.blankLinkLabel link.icon)).mp hmessage) (by simp)
    · exact absurd h (by simp)
  · rw [Option.mem_toList] at h
    unfold hrefError? at h
    split at h
    · exact absurd h (by simp)
    · next e _ =>
      obtain rfl := Option.some.inj h
      exact absurd ((Defect.message_eq_host_iff (.hrefUrl link.href e)).mp hmessage) (by simp)

/-! ## The address of a site -/

variable {title address base : String} {site : Option String} {found : Located Defect}

/-- **What is wrong with an address**: its text is no URL, or its scheme is
not that of a site, and only then it may have no host. -/
theorem addressDefects_eq (address : String) :
    addressDefects address = match Url.parse address.toList with
      | .error e => [⟨⟨"site", []⟩, .siteUrl e⟩]
      | .ok url =>
        if siteSchemes.contains url.scheme then []
        else ⟨⟨"site", []⟩, .siteScheme (String.ofList url.scheme)⟩
          :: (if url.host.isSome then [] else [⟨⟨"site", []⟩, .siteHost⟩]) := by
  unfold addressDefects
  cases hparse : Url.parse address.toList with
  | error e => rfl
  | ok url =>
    dsimp only
    by_cases hscheme : siteSchemes.contains url.scheme = true
    · rw [if_pos hscheme, if_pos hscheme, if_pos (Url.host_isSome_of_parse hparse hscheme)]
      rfl
    · rw [if_neg hscheme, if_neg hscheme]
      rfl

/-- **The defects of an address** are at its field, and a missing host comes
with a scheme that is not that of a site. -/
theorem of_mem_addressDefects (h : found ∈ addressDefects address) :
    found.place = ⟨"site", []⟩
      ∧ ((∃ e, found.what = .siteUrl e)
        ∨ ∃ scheme, ⟨⟨"site", []⟩, .siteScheme scheme⟩ ∈ addressDefects address
          ∧ (found.what = .siteScheme scheme ∨ found.what = .siteHost)) := by
  rw [addressDefects_eq] at h ⊢
  split at h
  · next e _ =>
    rw [List.mem_singleton.mp h]
    exact ⟨rfl, Or.inl ⟨e, rfl⟩⟩
  · split at h
    · exact absurd h List.not_mem_nil
    · next hscheme =>
      rw [if_neg hscheme]
      rcases List.mem_cons.mp h with rfl | h
      · exact ⟨rfl, Or.inr ⟨_, List.mem_cons_self, Or.inl rfl⟩⟩
      · split at h
        · exact absurd h List.not_mem_nil
        · rw [List.mem_singleton.mp h]
          exact ⟨rfl, Or.inr ⟨_, List.mem_cons_self, Or.inr rfl⟩⟩

theorem eq_of_mem_titleDefects (h : found ∈ titleDefects title) :
    found = ⟨⟨"title", []⟩, .blankTitle⟩ := by
  unfold titleDefects at h
  split at h
  · exact List.mem_singleton.mp h
  · exact absurd h List.not_mem_nil

theorem of_mem_baseDefects (h : found ∈ baseDefects base) :
    found.place = ⟨"base", []⟩ ∧ (found.what = .baseStart base ∨ found.what = .baseBlank base) := by
  unfold baseDefects at h
  rcases List.mem_append.mp h with h | h
  · split at h
    · exact absurd h List.not_mem_nil
    · rw [List.mem_singleton.mp h]
      exact ⟨rfl, Or.inl rfl⟩
  · split at h
    · rw [List.mem_singleton.mp h]
      exact ⟨rfl, Or.inr rfl⟩
    · exact absurd h List.not_mem_nil

/-- What is wrong with the identity of a site is wrong with its title, its
address or its base. -/
theorem mem_identityDefects_iff {base : Option String} :
    found ∈ identityDefects title site base
      ↔ found ∈ titleDefects title ∨ (∃ address, site = some address ∧ found ∈ addressDefects address)
        ∨ ∃ text, base = some text ∧ found ∈ baseDefects text := by
  unfold identityDefects
  rw [List.mem_append, List.mem_append, or_assoc]
  refine or_congr Iff.rfl (or_congr ?_ ?_)
  · cases site <;> simp
  · cases base <;> simp

/-- **What is said at the field of the address** is said about the
address. -/
theorem at_site_iff {base : Option String} :
    (found ∈ identityDefects title site base ∧ found.place.text = "site")
      ↔ ∃ address, site = some address ∧ found ∈ addressDefects address := by
  rw [mem_identityDefects_iff]
  constructor
  · rintro ⟨h | h | ⟨text, -, h⟩, hplace⟩
    · rw [eq_of_mem_titleDefects h] at hplace
      exact absurd hplace (by decide)
    · exact h
    · rw [(of_mem_baseDefects h).1] at hplace
      exact absurd hplace (by decide)
  · rintro ⟨address, hsite, h⟩
    refine ⟨Or.inr (Or.inl ⟨address, hsite, h⟩), ?_⟩
    rw [(of_mem_addressDefects h).1]
    rfl

/-- **A missing host is said of an address**, and of nothing else, and beside
it that its scheme is not that of a site. -/
theorem of_message_eq_host {base : Option String} (h : found ∈ identityDefects title site base)
    (hmessage : found.what.message = "URL must have a valid host") :
    ∃ address, site = some address ∧ found ∈ addressDefects address
      ∧ ∃ scheme, ⟨⟨"site", []⟩, .siteScheme scheme⟩ ∈ addressDefects address := by
  have hwhat := (Defect.message_eq_host_iff _).mp hmessage
  rcases mem_identityDefects_iff.mp h with h | ⟨address, hsite, h⟩ | ⟨text, -, h⟩
  · rw [eq_of_mem_titleDefects h] at hwhat
    exact absurd hwhat (by simp)
  · refine ⟨address, hsite, h, ?_⟩
    rcases (of_mem_addressDefects h).2 with ⟨e, hurl⟩ | ⟨scheme, hscheme, -⟩
    · rw [hurl] at hwhat
      exact absurd hwhat (by simp)
    · exact ⟨scheme, hscheme⟩
  · rcases (of_mem_baseDefects h).2 with hbase | hbase
    · rw [hbase] at hwhat
      exact absurd hwhat (by simp)
    · rw [hbase] at hwhat
      exact absurd hwhat (by simp)

/-! ## The reports -/

/-- The report on social links. -/
def socialReport (links : List SocialLink) : Report :=
  .ofFindings (socialDefects links) (socialCautions links)

/-- The report on the identity of a site. -/
def identityReport (title : String) (site base : Option String) : Report :=
  .ofFindings (identityDefects title site base) []

/-- **No host is ever missing alone.** What is read as a URL with the scheme
of a site has a host, and not the empty name. So no social link is ever said
to have none: the errors about a link are one about its label, if that is
blank, and one about its URL, exactly if its text is none. And a site is said
to have none only beside being said to have another scheme, so that
something is said of its address exactly if that is no URL of a site. -/
theorem host_never_missing_alone :
    (∀ text url, Url.parse text = .ok url →
        (url.scheme = "http".toList ∨ url.scheme = "https".toList) →
        ∃ host, url.host = some host ∧ host ≠ .domain [])
      ∧ (∀ links, (socialReport links).errors = (links.mapIdx linkErrors).flatten
        ∧ ∀ e ∈ (socialReport links).errors, e.message ≠ "URL must have a valid host")
      ∧ (∀ position link, ((hrefError? position link).isSome ↔ ¬IsUrl link.href)
        ∧ ∀ e ∈ hrefError? position link,
          e.place.text = "social[" ++ toString position ++ "].href")
      ∧ ∀ title site base,
        (∀ e ∈ (identityReport title site base).errors, e.message = "URL must have a valid host" →
          e.place.text = "site" ∧ ∃ other ∈ (identityReport title site base).errors, ∃ scheme,
            other.place.text = "site"
              ∧ other.message = "scheme '" ++ scheme ++ "' not supported, must be http or https")
        ∧ ((∃ e ∈ (identityReport title site base).errors, e.place.text = "site")
          ↔ ∃ address, site = some address ∧ ¬IsSiteUrl address) := by
  refine ⟨fun text url hparse hscheme => ?_, fun links => ⟨socialErrors_eq links, ?_⟩,
    fun position link => ⟨isSome_hrefError?_iff position link, fun e => text_of_hrefError? position link⟩,
    fun title site base => ⟨?_, ?_⟩⟩
  · exact Url.host_of_parse hparse ((siteSchemes_contains_iff _).mpr hscheme)
  · intro e he
    rw [show (socialReport links).errors = _ from socialErrors_eq links] at he
    obtain ⟨errors, herrors, he⟩ := List.mem_flatten.mp he
    obtain ⟨i, hi, rfl⟩ := List.mem_mapIdx.mp herrors
    exact message_of_mem_linkErrors i links[i] he
  · intro e he hmessage
    obtain ⟨found, hfound, rfl⟩ := List.mem_map.mp he
    obtain ⟨address, hsite, haddress, scheme, hscheme⟩ := of_message_eq_host hfound hmessage
    have hother : (⟨⟨"site", []⟩, .siteScheme scheme⟩ : Located Defect)
        ∈ identityDefects title site base := (at_site_iff.mpr ⟨address, hsite, hscheme⟩).1
    exact ⟨congrArg Place.text (of_mem_addressDefects haddress).1, _,
      List.mem_map.mpr ⟨_, hother, rfl⟩, scheme, rfl, rfl⟩
  · constructor
    · rintro ⟨e, he, hplace⟩
      obtain ⟨found, hfound, rfl⟩ := List.mem_map.mp he
      obtain ⟨address, hsite, haddress⟩ := at_site_iff.mp ⟨hfound, hplace⟩
      refine ⟨address, hsite, fun hurl => ?_⟩
      rw [(addressDefects_eq_nil_iff address).mpr hurl] at haddress
      exact absurd haddress List.not_mem_nil
    · rintro ⟨address, hsite, hnot⟩
      have hne : addressDefects address ≠ [] :=
        fun hnil => hnot ((addressDefects_eq_nil_iff address).mp hnil)
      obtain ⟨found, hfound⟩ := List.exists_mem_of_ne_nil _ hne
      obtain ⟨hmem, hplace⟩ := at_site_iff.mpr ⟨address, hsite, hfound⟩
      exact ⟨_, List.mem_map.mpr ⟨found, hmem, rfl⟩, hplace⟩

end Validation

end DocSite
