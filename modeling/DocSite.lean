import DocSite.Main
import DocSite.Proofs.Command.Effects
import DocSite.Proofs.Content.Containment
import DocSite.Proofs.Export.Module
import DocSite.Proofs.Sidebar.Findings
import DocSite.Proofs.Validation.Acceptance
import DocSite.Proofs.Builder.Assembly
import DocSite.Proofs.Command.Colour
import DocSite.Proofs.Command.Search
import DocSite.Proofs.Decode.Formats
import DocSite.Proofs.Decode.Layout
import DocSite.Proofs.Decode.Stored
import DocSite.Proofs.Files.Reread
import DocSite.Proofs.Command.Reload
import DocSite.Proofs.Validation.Hosts
import DocSite.Proofs.Sidebar.Counts
import DocSite.Proofs.Content.Missing
import DocSite.Proofs.Url.Path
import DocSite.Proofs.Url.Extension
import DocSite.Proofs.Site.Base
import DocSite.Proofs.Sidebar.Packages
import DocSite.Proofs.Validation.SocialLinks
import DocSite.Proofs.Command.Verbose
import DocSite.Proofs.Command.Anywhere
import DocSite.Proofs.Content.Origins
