import FeedIndex.Text.Blank
import FeedIndex.Text.Cut
import FeedIndex.Text.Lowercase
import FeedIndex.Text.Punctuation

/-!
# Hashtags in free text

A hashtag opens with `#` or the full-width `＃`, at the start of the text or after white space. It runs to
the next white space or hash and does not end in punctuation. The search goes from left to right and
resumes after each tag it takes. Tags are compared after folding their case; a Turkish text has a folding
of its own, because its dotless and dotted letters are different letters.
-/

namespace FeedIndex.Hashtag

/-! ## Scanning -/

/-- A character that opens a hashtag. -/
def isHash (c : Char) : Bool := c == '#' || c == '＃'

/-- A character that can stand inside a hashtag. -/
def isInner (c : Char) : Bool := !Text.isBlank c && !isHash c

/-- A hashtag has at most this many characters. -/
def maxLength : Nat := 64

/-- **isTag** — what counts as a tag: neither empty nor too long, and not a number. -/
def isTag (tag : List Char) : Bool :=
  !tag.isEmpty && tag.length ≤ maxLength && !tag.all Char.isDigit

/-- The tag at the head of what follows a hash: as long as possible, without punctuation at its end. -/
def body (cs : List Char) : List Char := Text.dropTrailing Text.isPunctuation (cs.takeWhile isInner)

/-- What follows the opening of a tag at the head of a text. The opening is a hash, after a white-space
character or at the very start. -/
def opened? (atStart : Bool) : List Char → Option (List Char)
  | [] => none
  | c :: cs =>
    if atStart && isHash c then some cs
    else if Text.isBlank c then
      match cs with
      | [] => none
      | d :: ds => if isHash d then some ds else none
    else none

/-- **matchHere?** — a tag at the head of the text, and the text after it. -/
def matchHere? (atStart : Bool) (cs : List Char) : Option (List Char × List Char) :=
  match opened? atStart cs with
  | none => none
  | some rest => if body rest = [] then none else some (body rest, rest.drop (body rest).length)

theorem opened?_length {atStart : Bool} {cs rest : List Char} (h : opened? atStart cs = some rest) :
    rest.length < cs.length := by
  match cs with
  | [] => simp [opened?] at h
  | c :: cs =>
    simp only [opened?] at h
    split at h
    · simp at h; simp [h]
    · split at h
      · match cs with
        | [] => simp at h
        | d :: ds =>
          simp only [Option.ite_none_right_eq_some, Option.some.injEq] at h
          rw [← h.2]
          simp only [List.length_cons]
          omega
      · simp at h

theorem matchHere?_length {atStart : Bool} {cs tag rest : List Char}
    (h : matchHere? atStart cs = some (tag, rest)) : rest.length < cs.length := by
  simp only [matchHere?] at h
  split at h
  · simp at h
  · rename_i after hopen
    split at h
    · simp at h
    · simp only [Option.some.injEq, Prod.mk.injEq] at h
      have := opened?_length hopen
      simp [← h.2]; omega

/-- **scan** — the tags of a text from left to right. Each match ends before the search goes on, so a
character belongs to one tag at most. -/
def scan (atStart : Bool) (cs : List Char) : List (List Char) :=
  match _h : matchHere? atStart cs with
  | some (tag, rest) => tag :: scan false rest
  | none =>
    match cs with
    | [] => []
    | _ :: cs => scan false cs
termination_by cs.length
decreasing_by
  · exact matchHere?_length ‹_›
  · simp

/-- **find** — the hashtags of a text in order of appearance, as they are written. -/
def find (text : String) : List (List Char) := (scan true text.toList).filter isTag

/-! ## Folding -/

/-- A character folded as most languages do: lower case, and a plain `i` for the dotted capital. -/
def foldChar (c : Char) : Char := if c = 'İ' then 'i' else Text.lower c

/-- A character folded as Turkish and Azerbaijani do: the dotless capital keeps its missing dot. -/
def foldTurkishChar (c : Char) : Char := if c = 'I' then 'ı' else foldChar c

/-- **fold** — the text in lower case. -/
def fold (cs : List Char) : List Char := cs.map foldChar

/-- **foldTurkish** — the text in Turkish lower case. -/
def foldTurkish (cs : List Char) : List Char := cs.map foldTurkishChar

/-- The first piece of a language tag, before a hyphen or an underscore. -/
def primarySubtag (language : String) : List Char :=
  language.toList.takeWhile fun c => c != '-' && c != '_'

/-- **isTurkish** — one of the declared languages is Turkish, in any ASCII case. -/
def isTurkish (languages : List String) : Bool :=
  languages.any fun language => (primarySubtag language).map Char.toLower == ['t', 'r']

end FeedIndex.Hashtag
