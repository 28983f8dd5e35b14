import DocSite.Text.Segments
import DocSite.Url.Percent

/-!
# The path of a URL

A path is a list of segments. `.` stands for the segment it is in and
`..` for leaving the one before it; both go away when the path is read
(`reduce`), also where their dots are written with percent signs. A
drive letter is never left. What remains is written with a slash in
front of every segment, so a path that ended in `.` or `..` ends in a
slash.
-/

namespace DocSite.Url

/-- **A segment of a path.** -/
abbrev Segment := List Char

/-- The text of a segment in lower case, its encoded dots decoded. -/
def plainDots : List Char → List Char
  | '%' :: '2' :: 'e' :: rest => '.' :: plainDots rest
  | '%' :: '2' :: 'E' :: rest => '.' :: plainDots rest
  | c :: rest => c :: plainDots rest
  | [] => []

/-- The segment that stands for staying. -/
def isHere (segment : Segment) : Bool :=
  plainDots segment == ['.']

/-- The segment that stands for leaving the one before it. -/
def isAbove (segment : Segment) : Bool :=
  plainDots segment == ['.', '.']

/-- An ASCII letter. -/
def isLetter (c : Char) : Bool :=
  ('a' ≤ c && c ≤ 'z') || ('A' ≤ c && c ≤ 'Z')

/-- A drive letter: a letter and a colon, or a bar in its place. -/
def isDrive : Segment → Bool
  | [letter, mark] => isLetter letter && (mark == ':' || mark == '|')
  | _ => false

/-- Leaves the last segment, unless it is a drive letter; `kept` is
reversed. -/
def leave : (kept : List Segment) → List Segment
  | [] => []
  | last :: before => if isDrive last then last :: before else before

/-- **One segment more**; `kept` is reversed. -/
def step (kept : List Segment) (segment : Segment) : List Segment :=
  if isAbove segment then leave kept
  else if isHere segment then kept
  else segment :: kept

/-- The last segment: one that goes away leaves an empty one. -/
def finish (kept : List Segment) (segment : Segment) : List Segment :=
  if isAbove segment then [] :: leave kept
  else if isHere segment then [] :: kept
  else segment :: kept

/-- **The segments that remain**; `kept` is reversed and holds those read
already. -/
def reduce : (kept : List Segment) → List Segment → List Segment
  | kept, [] => kept.reverse
  | kept, [last] => (finish kept last).reverse
  | kept, segment :: next :: rest => reduce (step kept segment) (next :: rest)

/-- A slash in front of every segment. -/
def written (segments : List Segment) : List Char :=
  segments.flatMap ('/' :: ·)

/-- The segments of a text without its leading slash. -/
def segmentsOf (isSeparator : Char → Bool) (text : List Char) : List Segment :=
  (Text.split isSeparator text).map (percentEncode isPathReserved)

/-- The text without the one separator it may begin with. -/
def dropSeparator (isSeparator : Char → Bool) : List Char → List Char
  | c :: rest => if isSeparator c then rest else c :: rest
  | [] => []

/-- **The path that a text describes.** -/
def pathOf (isSeparator : Char → Bool) (text : List Char) : List Char :=
  written (reduce [] (segmentsOf isSeparator (dropSeparator isSeparator text)))

/-! ## Paths of files -/

/-- The drive letter with a colon. -/
def driveOf : Segment → Segment
  | letter :: _ => [letter, ':']
  | [] => []

/-- Whether a list of segments begins with a drive letter. -/
def startsWithDrive : List Segment → Bool
  | first :: _ => isDrive first
  | [] => false

/-- Writes a leading drive letter with a colon. -/
def markDrive : List Segment → List Segment
  | first :: rest => (if isDrive first then driveOf first else first) :: rest
  | [] => []

/-- **The path of a file.** Slashes at the start count as one. -/
def filePath (segments : List Segment) : List Char :=
  '/' :: (written (reduce [] segments)).dropWhile (· == '/')

end DocSite.Url
