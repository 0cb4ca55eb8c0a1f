import FeedIndex.Text.Cut
import FeedIndex.Url.Percent

/-!
# Paths

A path is walked segment by segment. One dot stays where it is and two dots go back a step, but never over
a segment that begins like the name of a drive. In the scheme of local files a drive at the beginning of a
path replaces the host, and slashes at the beginning count once. Tabs and line ends are skipped wherever
they stand; only between a drive and more text they make a segment of their own of each.
-/

namespace FeedIndex.Url

/-- A tab or a line end. -/
def isSkipped (c : Char) : Bool := c == '\t' || c == '\n' || c == '\r'

/-- **unskipped** — the text without tabs and line ends. -/
def unskipped (cs : List Char) : List Char := cs.filter fun c => !isSkipped c

/-- A step with one dot, encoded or not. -/
def isDot (segment : List Char) : Bool :=
  [".", "%2e"].contains (String.ofList (segment.map Char.toLower))

/-- A step with two dots, encoded or not. -/
def isDoubleDot (segment : List Char) : Bool :=
  ["..", "%2e%2e", "%2e.", ".%2e"].contains (String.ofList (segment.map Char.toLower))

/-- A letter and a colon or a bar: the name of a drive. -/
def isDrive : List Char → Bool
  | [c, d] => c.isAlpha && (d == ':' || d == '|')
  | _ => false

/-- The segment begins with the name of a drive, and ends there or goes on with a backslash. -/
def beginsWithDrive (segment : List Char) : Bool :=
  isDrive (segment.take 2) && ((segment.drop 2).head?.map (· == '\\')).getD true

/-- **cutDrive?** — the letter of the drive that a segment begins with and the text after it, if a tab or a
line end stands between the two. -/
def cutDrive? (segment : List Char) : Option (Char × List Char) :=
  match segment.dropWhile isSkipped with
  | [] => none
  | letter :: rest =>
    match rest.dropWhile isSkipped with
    | ':' :: gap :: rest =>
      if letter.isAlpha && isSkipped gap && !(unskipped rest).isEmpty then some (letter, unskipped rest)
      else none
    | _ => none

/-- **Walk** — the segments walked so far, the last one first, and whether the walk began on a drive. -/
structure Walk where
  done : List (List Char) := []
  onDrive : Bool := false
deriving DecidableEq, Repr

namespace Walk

/-- One segment back. -/
def back (w : Walk) : Walk :=
  match w.done with
  | [] => w
  | last :: before => if beginsWithDrive last then w else { w with done := before }

/-- The walk with an empty segment more, if it ends there: the path then ends in a slash. -/
def close (w : Walk) (isLast : Bool) : Walk := if isLast then { w with done := [] :: w.done } else w

/-- One segment on. -/
def further (w : Walk) (segment : List Char) : Walk :=
  { w with done := encodeWith pathSet (unskipped segment) :: w.done }

/-- One segment on among local files, where the first one may be a drive, or a drive cut from more text. -/
def enterFile (w : Walk) (segment : List Char) : Walk :=
  if !w.done.isEmpty then w.further segment
  else
    match cutDrive? segment, unskipped segment with
    | some (letter, rest), _ => { w with done := [encodeWith pathSet rest, [letter, ':']] }
    | none, [letter, mark] => if isDrive [letter, mark] then ⟨[[letter, ':']], true⟩ else w.further segment
    | none, _ => w.further segment

/-- The walk over one segment. -/
def step (file : Bool) (w : Walk) (segment : List Char) (isLast : Bool) : Walk :=
  if isDoubleDot (unskipped segment) then w.back.close isLast
  else if isDot (unskipped segment) then w.close isLast
  else if file then w.enterFile segment
  else w.further segment

/-- The walk over several segments. -/
def steps (file : Bool) : Walk → List (List Char) → Walk
  | w, [] => w
  | w, segment :: rest => steps file (w.step file segment rest.isEmpty) rest

/-- The path of some segments. -/
def pathOf (segments : List (List Char)) : List Char := segments.flatMap fun segment => '/' :: segment

/-- **path** — the path that was walked. -/
def path (file : Bool) (w : Walk) : List Char :=
  let segments := w.done.reverse
  if file then
    match segments.dropWhile List.isEmpty with
    | [] => ['/']
    | rest => pathOf rest
  else pathOf segments

end Walk

/-- The text after its first character, if that is one of the wanted ones. -/
def dropFirst? (wanted : Char → Bool) (cs : List Char) : Option (List Char) :=
  match cs.dropWhile isSkipped with
  | c :: rest => if wanted c then some rest else none
  | [] => none

/-- The text with a slash for each backslash. -/
def withSlashes (cs : List Char) : List Char := cs.map fun c => if c = '\\' then '/' else c

/-- **walked** — the walk over a text, which may begin with a slash. -/
def walked (special file : Bool) (cs : List Char) : Walk :=
  let cs := if special then withSlashes cs else cs
  Walk.steps file {} (Text.split '/' ((dropFirst? (· == '/') cs).getD cs))

example : (walked true false "/a/b/../c".toList).path false = "/a/c".toList := by decide +kernel
example : (walked true false "/c:/../d".toList).path false = "/c:/d".toList := by decide +kernel
example : (walked true true "/c:d".toList).path true = "/c:d".toList := by decide +kernel
example : (walked true true "/c:\td".toList).path true = "/c:/d".toList := by decide +kernel

end FeedIndex.Url
