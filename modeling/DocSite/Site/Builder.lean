import DocSite.Site.Validation.Config

/-!
# Building a configuration in steps

A configuration can be put together by a program instead of being read
from a file: from a title, by calls that each set one field or append to
one. `Call` lists the calls, and a configuration built by a sequence of
them is checked as one from a file is.
-/

namespace DocSite

/-- **A call that adds to a configuration.** -/
inductive Builder.Call where
  /-- Sets the description. -/
  | description (text : String)
  /-- Sets the address. -/
  | site (address : String)
  /-- Sets the base. -/
  | base (path : String)
  /-- Adds a known package. -/
  | package (name : String)
  /-- Adds a social link. -/
  | social (link : SocialLink)
  /-- Adds an entry to the sidebar. -/
  | entry (entry : Entry)
  /-- Adds entries to the sidebar. -/
  | entries (entries : List Entry)
deriving DecidableEq

namespace Builder

/-- The configuration after a call. -/
def Call.apply (config : SiteConfig) : Call → SiteConfig
  | .description text => { config with description := some text }
  | .site address => { config with site := some address }
  | .base path => { config with base := some path }
  | .package name => { config with packages := config.packages ++ [name] }
  | .social link => { config with social := config.social ++ [link] }
  | .entry e => { config with sidebar := config.sidebar ++ [e] }
  | .entries es => { config with sidebar := config.sidebar ++ es }

/-- **The configuration that calls put together**, not checked yet. -/
def assemble (title : String) (calls : List Call) : SiteConfig :=
  calls.foldl Call.apply { title }

/-- **Builds a configuration**: the configuration, or the report on what
is wrong with it. -/
def build (title : String) (calls : List Call) : Except Report SiteConfig :=
  let config := assemble title calls
  if config.report.passes then .ok config else .error config.report

end Builder

end DocSite
