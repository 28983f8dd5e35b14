import DocSite.Command.Session
import DocSite.Export.Format
import DocSite.Site.Starter

/-!
# Writing exports and first configurations

Both commands put a text together before they touch the disk, and write
at most one file.
-/

namespace DocSite.Command

variable {m : Type → Type} [Monad m] [Disk m]

/-- A text with a line end behind it. -/
def withLineEnd (text : String) : String :=
  if text.toList.getLast? = some '\n' then text else text ++ "\n"

/-- **Exports a configuration** to a file, or writes it out. -/
def emit (config : SiteConfig) (format : Export) (output : Option String) : Session m Unit := do
  let text := withLineEnd (Export.render config format)
  match output with
  | none => Session.print text
  | some path =>
    match ← Session.ask (Disk.write path text) with
    | .error fault => Session.fail (.unwritable path fault)
    | .ok () => Session.say (.log "emit" ("wrote " ++ path))

/-- **Writes a first configuration file**, or writes it out. A file that
is there is replaced only if one insists. -/
def init (path : String) (dry force : Bool) : Session m Unit := do
  if dry then Session.print starterText
  else if !force && (← Session.ask (Disk.kind? path)).isSome then
    Session.fail (.present path)
  else
    match ← Session.ask (Disk.write path starterText) with
    | .error fault => Session.fail (.unwritableConfig path fault)
    | .ok () => Session.say (.log "init" ("created " ++ path))

end DocSite.Command
