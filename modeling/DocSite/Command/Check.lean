import DocSite.Command.Session
import DocSite.Site.Base
import DocSite.Site.Content
import DocSite.Site.Stats

/-!
# Checking a site

A configuration that has been loaded is in order by itself. Checking a
site looks at the content too, if one says where it is, and then says
what the configuration describes.
-/

namespace DocSite.Command

open Files

variable {m : Type → Type} [Monad m] [Disk m]

/-- The first of some paths that lead to something of a kind. -/
def firstOfKind (kind : Kind) : List String → m (Option String)
  | [] => pure none
  | path :: paths => do
    if (← Disk.kind? path) = some kind then pure (some path) else firstOfKind kind paths

/-- **The file that holds the page of a slug**, if there is one. -/
def pageFile (root slug : String) : m (Option String) :=
  firstOfKind .file (Content.pageCandidates root slug)

/-- The requirements that a disk does not meet. -/
def unmet : List Requirement → m (List Requirement)
  | [] => pure []
  | requirement :: rest => do
    let found ← firstOfKind requirement.kind requirement.candidates
    let others ← unmet rest
    pure (if found.isSome then others else requirement :: others)

/-- **Checks the references of a sidebar** against the content below a
directory. -/
def resolve (config : SiteConfig) (root : String) : Session m Unit := do
  if (← Session.ask (Disk.kind? root)) = some .directory then
    let missing ← Session.ask (unmet (Content.requirements root config.sidebar))
    let report := Report.ofFindings (missing.map fun r => ⟨r.place, r.defect⟩) []
    if report.passes then pure () else Session.fail (.rejected report)
  else Session.fail (.noContent root)

/-- What a configuration describes, in one line. -/
def summary (config : SiteConfig) : String :=
  let stats := Stats.ofEntries config.sidebar
  "`" ++ config.title ++ "` ok: " ++ toString config.social.length ++ " social link(s), "
    ++ toString stats.pages ++ " page(s) (" ++ toString stats.packages ++ " package(s)), "
    ++ toString stats.links ++ " link(s), " ++ toString stats.groups ++ " group(s)"

/-- **Checks a site.** -/
def checkSite (config : SiteConfig) (content : Option String) : Session m Unit := do
  match content with
  | some root =>
    resolve config root
    Session.say (.log "check" ("all sidebar slugs resolve under " ++ root))
  | none => pure ()
  Session.say (.log "check" (summary config))
  match config.servedBase? with
  | some base => Session.say (.log "check" ("served under " ++ base))
  | none => pure ()

end DocSite.Command
