import DocSite.Site.Config
import DocSite.Site.Defect
import DocSite.Site.Validation.Identity

/-!
# Social links

Each link needs a label and a URL. What is wrong with one link does not
depend on the others; only the caution about a URL that was there before
does.
-/

namespace DocSite.Validation

/-- The place of a social link. -/
def socialPlace (position : Nat) : Place :=
  (Place.mk "social" []).index position

/-- The defects of the URL of a link. -/
def hrefDefects (place : Place) (href : String) : List (Located Defect) :=
  match Url.parse href.toList with
  | .error e => [⟨place, .hrefUrl href e⟩]
  | .ok url =>
    if siteSchemes.contains url.scheme && url.host.isNone then [⟨place, .hrefHost⟩] else []

/-- **The defects of one link.** -/
def linkDefects (place : Place) (link : SocialLink) : List (Located Defect) :=
  (if Text.blank link.label then [⟨place.key "label", .blankLinkLabel link.icon⟩] else [])
    ++ hrefDefects (place.key "href") link.href

/-- The defects of links that start at a position. -/
def socialDefectsFrom : (position : Nat) → List SocialLink → List (Located Defect)
  | _, [] => []
  | position, link :: links =>
    linkDefects (socialPlace position) link ++ socialDefectsFrom (position + 1) links

/-- **The defects of social links.** -/
def socialDefects (links : List SocialLink) : List (Located Defect) :=
  socialDefectsFrom 0 links

/-- The cautions about links that start at a position, `seen` being the
URLs before it. -/
def socialCautionsFrom : (seen : List String) → (position : Nat) → List SocialLink →
    List (Located Caution)
  | _, _, [] => []
  | seen, position, link :: links =>
    (if seen.contains link.href then
      [⟨(socialPlace position).key "href", .repeatedHref link.href⟩] else [])
    ++ socialCautionsFrom (link.href :: seen) (position + 1) links

/-- **The cautions about social links.** -/
def socialCautions (links : List SocialLink) : List (Located Caution) :=
  socialCautionsFrom [] 0 links

end DocSite.Validation
