import Mathlib.Data.Finset.Card
import Mathlib.Data.List.Basic
import Mathlib.Tactic.Common
import DocSite.Proofs.Validation.Hosts

/-!
# What is reported about social links

Errors about a link depend on the link alone, so they move with it when
the links are put in another order, and a link that stands twice has them
twice. The warning that a link leads where one before it leads depends on
the links before it, and which of them get one depends on their order. How
many do does not: one of the links to each address gets none, and all
others one (`length_socialCautions`).

The walk over the links carries the addresses it has met. That this is
what the links before one lead to is the invariant of both laws about
warnings.
-/

namespace DocSite.Validation

/-! ## Warnings -/

/-- **The warning about a link**, with the links before it. -/
def hrefWarning? (before : List SocialLink) (position : Nat) (link : SocialLink) :
    Option Report.Warning :=
  if before.any (·.href == link.href) then
    some (Report.ofCaution ⟨(socialPlace position).key "href", .repeatedHref link.href⟩)
  else none

theorem isSome_hrefWarning?_iff (before : List SocialLink) (position : Nat) (link : SocialLink) :
    (hrefWarning? before position link).isSome ↔ ∃ earlier ∈ before, earlier.href = link.href := by
  unfold hrefWarning?
  rw [Option.isSome_ite, List.any_eq_true]
  exact exists_congr fun earlier => and_congr_right fun _ => beq_iff_eq

/-- The warnings about links that start behind others. -/
theorem map_socialCautionsFrom (links : List SocialLink) : ∀ (before : List SocialLink)
    (seen : List String), (∀ href, href ∈ seen ↔ href ∈ before.map SocialLink.href) →
    (socialCautionsFrom seen before.length links).map Report.ofCaution
      = (links.mapIdx fun i link =>
        (hrefWarning? (before ++ links.take i) (before.length + i) link).toList).flatten := by
  induction links with
  | nil => exact fun _ _ _ => rfl
  | cons link links ih =>
    intro before seen hseen
    have hrest := ih (before ++ [link]) (link.href :: seen) (by
      intro href
      rw [List.mem_cons, hseen href, List.map_append, List.mem_append, List.map_singleton,
        List.mem_singleton]
      exact or_comm)
    rw [List.length_append, List.length_singleton] at hrest
    -- the addresses met are those of the links before
    have hlink : (if seen.contains link.href then
          [(⟨(socialPlace before.length).key "href", .repeatedHref link.href⟩ : Located Caution)]
        else []).map Report.ofCaution = (hrefWarning? before before.length link).toList := by
      have hany : seen.contains link.href = before.any (·.href == link.href) := by
        rw [Bool.eq_iff_iff, List.contains_iff_mem, hseen, List.mem_map, List.any_eq_true]
        exact exists_congr fun earlier => and_congr_right fun _ => beq_iff_eq.symm
      unfold hrefWarning?
      rw [hany]
      split <;> rfl
    have hshift : (fun i link' => (hrefWarning? (before ++ (link :: links).take (i + 1))
          (before.length + (i + 1)) link').toList)
        = fun i link' => (hrefWarning? (before ++ [link] ++ links.take i)
          (before.length + 1 + i) link').toList := by
      funext i link'
      rw [List.take_succ_cons, List.append_assoc, List.singleton_append, Nat.add_assoc,
        Nat.add_comm 1 i]
    rw [socialCautionsFrom, List.map_append, hlink, hrest, List.mapIdx_cons, List.flatten_cons,
      hshift, List.take_zero, List.append_nil]
    rfl

/-- **The warnings about social links**, link by link. -/
theorem socialWarnings_eq (links : List SocialLink) :
    (socialCautions links).map Report.ofCaution
      = (links.mapIdx fun i link => (hrefWarning? (links.take i) i link).toList).flatten := by
  have hfrom := map_socialCautionsFrom links [] [] fun _ => Iff.rfl
  simp only [List.nil_append, List.length_nil, Nat.zero_add] at hfrom
  exact hfrom

/-- Links and the addresses met before them: each address gets off once. -/
theorem length_socialCautionsFrom (links : List SocialLink) : ∀ (seen : List String)
    (position : Nat), (socialCautionsFrom seen position links).length
      + (seen ++ links.map SocialLink.href).toFinset.card = links.length + seen.toFinset.card := by
  induction links with
  | nil =>
    intro seen position
    rw [List.map_nil, List.append_nil]
    rfl
  | cons link links ih =>
    intro seen position
    have hrest := ih (link.href :: seen) (position + 1)
    have hall : (seen ++ (link :: links).map SocialLink.href).toFinset
        = (link.href :: seen ++ links.map SocialLink.href).toFinset := by
      ext href
      simp only [List.mem_toFinset, List.map_cons, List.mem_append, List.mem_cons]
      tauto
    rw [socialCautionsFrom, List.length_append, hall, List.length_cons]
    by_cases hmem : link.href ∈ seen
    · rw [if_pos (List.contains_iff_mem.mpr hmem), List.length_singleton]
      rw [List.toFinset_cons, Finset.insert_eq_of_mem (List.mem_toFinset.mpr hmem)] at hrest
      omega
    · rw [if_neg (mt List.contains_iff_mem.mp hmem), List.length_nil]
      rw [List.toFinset_cons,
        Finset.card_insert_of_notMem (mt List.mem_toFinset.mp hmem)] at hrest
      omega

/-- **There are as many warnings as links more than addresses.** -/
theorem length_socialCautions (links : List SocialLink) :
    (socialCautions links).length + (links.map SocialLink.href).toFinset.card = links.length :=
  length_socialCautionsFrom links [] 0

/-! ## Errors -/

/-- **A URL a link may lead to**: one that has a host if it is one of the
web. -/
def IsLinkUrl (text : String) : Prop :=
  ∃ url, Url.parse text.toList = .ok url
    ∧ (url.scheme = "http".toList ∨ url.scheme = "https".toList → url.host.isSome = true)

/-- That a URL of the web has a host goes without saying. -/
theorem isLinkUrl_iff (text : String) : IsLinkUrl text ↔ IsUrl text := by
  refine exists_congr fun url => and_iff_left_of_imp fun hparse hscheme => ?_
  exact Url.host_isSome_of_parse hparse ((siteSchemes_contains_iff url.scheme).mpr hscheme)

theorem isSome_labelError?_iff (position : Nat) (link : SocialLink) :
    (labelError? position link).isSome ↔ Text.blank link.label = true := by
  unfold labelError?
  rw [Option.isSome_ite]

theorem text_of_labelError? {position : Nat} {link : SocialLink} {e : Report.Error}
    (h : e ∈ labelError? position link) :
    e.place.text = "social[" ++ toString position ++ "].label" := by
  obtain ⟨-, h⟩ := Option.ite_none_right_eq_some.mp h
  obtain rfl := Option.some.inj h
  show ((socialPlace position).key "label").text = _
  rw [text_socialPlace_key, String.append_assoc]
  rfl

theorem text_of_hrefWarning? {before : List SocialLink} {position : Nat} {link : SocialLink}
    {w : Report.Warning} (h : w ∈ hrefWarning? before position link) :
    w.place.text = "social[" ++ toString position ++ "].href" := by
  obtain ⟨-, h⟩ := Option.ite_none_right_eq_some.mp h
  obtain rfl := Option.some.inj h
  show ((socialPlace position).key "href").text = _
  rw [text_socialPlace_key, String.append_assoc]
  rfl

/-- **What an error says about a link**, wherever the link stands: the field
of the link, the wording and the hint. -/
def unplaced (e : Report.Error) : List Place.Step × String × Option String :=
  (e.place.steps.drop 1, e.message, e.hint)

/-- What is said about a link does not depend on where it stands. -/
theorem map_unplaced_linkErrors (i j : Nat) (link : SocialLink) :
    (linkErrors i link).map unplaced = (linkErrors j link).map unplaced := by
  have hlabel : (labelError? i link).toList.map unplaced
      = (labelError? j link).toList.map unplaced := by
    unfold labelError?
    split <;> rfl
  have hhref : (hrefError? i link).toList.map unplaced
      = (hrefError? j link).toList.map unplaced := by
    unfold hrefError?
    split <;> rfl
  unfold linkErrors
  rw [List.map_append, List.map_append, hlabel, hhref]

/-- What is said about links is said about each of them. -/
theorem map_unplaced_errors (links : List SocialLink) :
    (socialReport links).errors.map unplaced
      = links.flatMap fun link => (linkErrors 0 link).map unplaced := by
  have hmap : (links.mapIdx linkErrors).map (List.map unplaced)
      = links.map fun link => (linkErrors 0 link).map unplaced := by
    refine List.ext_getElem (by simp) fun i _ _ => ?_
    simp only [List.getElem_map, List.getElem_mapIdx]
    exact map_unplaced_linkErrors i 0 _
  rw [show (socialReport links).errors = _ from socialErrors_eq links, List.map_flatten, hmap]
  exact List.flatMap_def.symm

/-- **What is reported about social links.** Each link that leads where one
before it leads has a warning at its address, and no other has one, so
there are as many warnings as links more than addresses. The errors are,
link by link, one at the label if that is blank and then one at the
address if that is no URL a link may lead to; what they say depends on the
link alone. In another order of the links as much is warned of, and the
same is said about the same links. -/
theorem social_report (links : List SocialLink) :
    (socialReport links).warnings
        = (links.mapIdx fun i link => (hrefWarning? (links.take i) i link).toList).flatten
      ∧ (∀ before position link,
        ((hrefWarning? before position link).isSome
          ↔ ∃ earlier ∈ before, earlier.href = link.href)
        ∧ ∀ w ∈ hrefWarning? before position link,
          w.place.text = "social[" ++ toString position ++ "].href")
      ∧ (socialReport links).warnings.length + (links.map SocialLink.href).toFinset.card
        = links.length
      ∧ (socialReport links).errors = (links.mapIdx fun i link =>
        (labelError? i link).toList ++ (hrefError? i link).toList).flatten
      ∧ (∀ position link,
        ((labelError? position link).isSome ↔ Text.blank link.label = true)
        ∧ (∀ e ∈ labelError? position link,
          e.place.text = "social[" ++ toString position ++ "].label")
        ∧ ((hrefError? position link).isSome ↔ ¬IsLinkUrl link.href)
        ∧ ∀ e ∈ hrefError? position link,
          e.place.text = "social[" ++ toString position ++ "].href")
      ∧ (∀ i j link, (linkErrors i link).map unplaced = (linkErrors j link).map unplaced)
      ∧ ∀ others : List SocialLink, others.Perm links →
        (socialReport others).warnings.length = (socialReport links).warnings.length
        ∧ ((socialReport others).errors.map unplaced).Perm
          ((socialReport links).errors.map unplaced) := by
  have hcount : ∀ others : List SocialLink, (socialReport others).warnings.length
      + (others.map SocialLink.href).toFinset.card = others.length := by
    intro others
    show ((socialCautions others).map Report.ofCaution).length + _ = _
    rw [List.length_map, length_socialCautions]
  refine ⟨socialWarnings_eq links, fun before position link =>
      ⟨isSome_hrefWarning?_iff before position link, fun w => text_of_hrefWarning?⟩,
    hcount links, socialErrors_eq links, fun position link =>
      ⟨isSome_labelError?_iff position link, fun e => text_of_labelError?, ?_,
        fun e => text_of_hrefError? position link⟩,
    map_unplaced_linkErrors, fun others hperm => ⟨?_, ?_⟩⟩
  · rw [isLinkUrl_iff]
    exact isSome_hrefError?_iff position link
  · have hlinks := hcount links
    have hothers := hcount others
    rw [hperm.length_eq, List.toFinset_eq_of_perm _ _ (hperm.map _)] at hothers
    omega
  · rw [map_unplaced_errors, map_unplaced_errors]
    exact hperm.flatMap_right _

/-- Three links, the last two to the same address, which is no URL. -/
def doubledLinks : List SocialLink :=
  [⟨.github, "GitHub", "https://a.b"⟩, ⟨.rss, " ", "feed"⟩, ⟨.email, "Feed", "feed"⟩]

theorem social_report_doubledLinks :
    doubledLinks.reverse.Perm doubledLinks
      ∧ (socialReport doubledLinks).warnings.map (fun w => (w.place.text, w.message))
        = [("social[2].href", "duplicate link `feed`")]
      ∧ (socialReport doubledLinks.reverse).warnings.length = 1
      ∧ ((socialReport doubledLinks.reverse).errors.map unplaced).Perm
        ((socialReport doubledLinks).errors.map unplaced) := by
  have hperm : doubledLinks.reverse.Perm doubledLinks := List.reverse_perm _
  obtain ⟨hwarnings, -, hcount, -, -, -, horder⟩ := social_report doubledLinks
  obtain ⟨hlength, herrors⟩ := horder _ hperm
  refine ⟨hperm, ?_, ?_, herrors⟩
  · rw [hwarnings]
    decide +kernel
  · have hcard : (doubledLinks.map SocialLink.href).toFinset.card = 2 := by decide +kernel
    have hthree : doubledLinks.length = 3 := rfl
    omega

end DocSite.Validation
