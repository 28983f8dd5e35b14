import DocSite.Site.Report
import DocSite.Site.Validation.Sidebar
import DocSite.Site.Validation.Social

/-!
# The check of a configuration

All defects of a configuration are reported at once: first those of its
identity, then those of the social links, then those of the sidebar. The
configuration is accepted if there are none.
-/

namespace DocSite.SiteConfig

open Validation

/-- **The defects of a configuration.** -/
def defects (config : SiteConfig) : List (Located Defect) :=
  identityDefects config.title config.site config.base
    ++ socialDefects config.social
    ++ sidebarDefects config.packages config.sidebar

/-- **The cautions about a configuration.** -/
def cautions (config : SiteConfig) : List (Located Caution) :=
  socialCautions config.social ++ sidebarCautions config.sidebar

/-- **The report on a configuration.** -/
def report (config : SiteConfig) : Report :=
  .ofFindings config.defects config.cautions

/-- **Whether a configuration is accepted.** -/
def accepted (config : SiteConfig) : Bool :=
  config.defects.isEmpty

end DocSite.SiteConfig
