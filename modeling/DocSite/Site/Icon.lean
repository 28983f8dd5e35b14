/-!
# Icons of social links

The platforms the documentation theme has icons for, and the names it
knows them by.
-/

namespace DocSite

/-- **A platform with an icon.** -/
inductive Icon where
  /-- GitHub. -/
  | github
  /-- GitLab. -/
  | gitlab
  /-- Codeberg. -/
  | codeberg
  /-- Bitbucket. -/
  | bitbucket
  /-- Discord. -/
  | discord
  /-- Mastodon. -/
  | mastodon
  /-- X. -/
  | x
  /-- Bluesky. -/
  | bluesky
  /-- LinkedIn. -/
  | linkedin
  /-- YouTube. -/
  | youtube
  /-- Telegram. -/
  | telegram
  /-- Slack. -/
  | slack
  /-- Matrix. -/
  | matrix
  /-- Mail. -/
  | email
  /-- News feeds. -/
  | rss
deriving DecidableEq

namespace Icon

/-- All icons, in the order in which they are listed to a reader. -/
def all : List Icon :=
  [github, gitlab, codeberg, bitbucket, discord, mastodon, x, bluesky, linkedin, youtube, telegram,
   slack, matrix, email, rss]

/-- **The name of an icon.** -/
def name : Icon → String
  | github => "github"
  | gitlab => "gitlab"
  | codeberg => "codeberg"
  | bitbucket => "bitbucket"
  | discord => "discord"
  | mastodon => "mastodon"
  | x => "x.com"
  | bluesky => "blueSky"
  | linkedin => "linkedin"
  | youtube => "youtube"
  | telegram => "telegram"
  | slack => "slack"
  | matrix => "matrix"
  | email => "email"
  | rss => "rss"

/-- The icon with a name. -/
def ofName? (name : String) : Option Icon :=
  all.find? fun icon => icon.name == name

theorem ofName?_name (icon : Icon) : ofName? icon.name = some icon := by
  cases icon <;> decide

end Icon

end DocSite
