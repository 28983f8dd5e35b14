import Mathlib.Tactic.Common
import DocSite.Site.Defect

/-!
# The wording of defects

What is said about a defect has parts of the configuration in it, so two
defects of different kinds could be worded alike. For most kinds the first
letter shows that they are not: `Defect.letter` is the letter that a
wording begins with, whatever the configuration brings into it
(`Defect.head?_message`).
-/

namespace DocSite

theorem head?_toList_append {first : String} {c : Char} (h : first.toList.head? = some c)
    (rest : String) : (first ++ rest).toList.head? = some c := by
  rw [String.toList_append, List.head?_append, h]
  rfl

namespace Defect

/-- **The letter that the wording of a defect begins with.** -/
def letter : Defect → Char
  | blankTitle | siteScheme _ => 's'
  | siteHost | hrefHost => 'U'
  | baseStart _ | baseBlank _ => 'b'
  | blankLinkLabel icon => icon.name.toList.headD ' '
  | siteUrl _ | hrefUrl _ _ | slug _ _ | link _ _ | directory _ => 'i'
  | sharedKey _ | missingDirectory _ => 'd'
  | blankLabel => 'l'
  | unknownPackage _ _ => 'u'
  | emptyGroup _ => 'g'
  | missingPage _ _ => 'n'

/-- The wording of a defect begins with its letter. -/
theorem head?_message (defect : Defect) :
    defect.message.toList.head? = some defect.letter := by
  cases defect with
  | blankTitle | siteHost | hrefHost | blankLabel => rfl
  | blankLinkLabel icon =>
    refine head?_toList_append ?_ _
    cases icon <;> rfl
  | siteUrl _ | directory _ => exact head?_toList_append rfl _
  | hrefUrl _ _ | slug _ _ | link _ _ =>
    exact head?_toList_append (head?_toList_append (head?_toList_append rfl _) _) _
  | _ => exact head?_toList_append (head?_toList_append rfl _) _

end Defect

end DocSite
