import DocSite.Command.Session
import DocSite.Site.Decode.Config
import DocSite.Site.Validation.Config

/-!
# Loading a configuration

The configuration file is looked for in the directory one works in and in
those above it; the nearest counts. What is found is read, its unknown
keys are reported, and it is checked.
-/

namespace DocSite.Command

open Files

variable {m : Type → Type} [Monad m] [Disk m]

/-- The first of some paths that lead anywhere. -/
def firstPresent : List String → m (Option String)
  | [] => pure none
  | path :: paths => do
    if (← Disk.kind? path).isSome then pure (some path) else firstPresent paths

/-- The paths under which a file of a name may be found from a
directory. -/
def configCandidates (here : List String) (name : String) : List String :=
  (ancestors here).map fun directory => join (absolute directory) name

/-- The path of the configuration file from a directory, if there is one. An
absolute name is a path already. -/
def findConfigFrom (here : List String) (name : String) : m (Option String) :=
  if isAbsolute name then firstPresent [name] else firstPresent (configCandidates here name)

/-- **The path of the configuration file**, if there is one. Where the
directory one works in is gone, not even an absolute name leads to one. -/
def findConfig (name : String) : m (Option String) := do
  match ← Disk.here with
  | some here => findConfigFrom here name
  | none => pure none

/-- The messages about keys that a configuration does not have. -/
def ignoredMessages (path : String) (ignored : List String) : List Message :=
  if ignored.isEmpty then []
  else .log "warning" ("unknown fields in " ++ displayName path ++ ", ignoring:")
    :: ignored.map fun key => .plain ("- " ++ key ++ "\n")

/-- Says several things. -/
def sayAll : List Message → Session m Unit
  | [] => pure ()
  | message :: messages => do
    Session.say message
    sayAll messages

/-- **Reads a configuration file** without checking the configuration. -/
def readConfig (path : String) : Session m SiteConfig := do
  match ← Session.ask (Disk.read path) with
  | .error fault => Session.fail (.unreadable path fault)
  | .ok text =>
    match SiteConfig.ofToml text with
    | .error why => Session.fail (.unfit text why)
    | .ok (config, ignored) =>
      sayAll (ignoredMessages path ignored)
      pure config

/-- **Checks a configuration**: says its warnings, and fails if it has
errors. -/
def checkConfig (config : SiteConfig) : Session m Unit := do
  Session.say (.plain config.report.warningText)
  if config.report.passes then pure () else Session.fail (.rejected config.report)

/-- **Loads the configuration file of a name.** -/
def load (name : String) : Session m SiteConfig := do
  match ← Session.ask (findConfig name) with
  | none => Session.fail (.noConfig name)
  | some path =>
    Session.say (.detail "config" ("loading " ++ path))
    let config ← readConfig path
    checkConfig config
    pure config

end DocSite.Command
