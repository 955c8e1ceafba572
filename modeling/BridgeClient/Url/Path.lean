import BridgeClient.Url.Percent
import BridgeClient.Text.Ascii

set_option autoImplicit false

/-!
Paths of URLs as lists of segments. A segment `.` is left out and `..` takes the one before it away;
at the end of the path both leave an empty segment, so that the path ends with a slash.
-/
namespace BridgeClient.UrlPath

/-- Which rules apply to a path. -/
inductive Style where
  /-- A backslash separates segments too. -/
  | web
  | file
  | other
deriving DecidableEq

def isSeparator (style : Style) (c : Char) : Bool := c = '/' || (c = '\\' && style ≠ .other)

/-- The segments of a path. -/
def segments (style : Style) : List Char → List (List Char)
  | [] => [[]]
  | c :: rest =>
      if isSeparator style c then [] :: segments style rest
      else
        match segments style rest with
        | [] => [[c]]
        | first :: others => (c :: first) :: others

def isSingleDot (segment : List Char) : Bool :=
  let name := String.ofList (segment.map Ascii.lower)
  name = "." || name = "%2e"

def isDoubleDot (segment : List Char) : Bool :=
  let name := String.ofList (segment.map Ascii.lower)
  name = ".." || name = ".%2e" || name = "%2e." || name = "%2e%2e"

/-- Tabs and line ends, which stand in the text of a URL without belonging to it. -/
def isBreak (c : Char) : Bool := c = '\t' || c = '\n' || c = '\r'

def withoutBreaks (cs : List Char) : List Char := cs.filter fun c => !isBreak c

/-- A letter and a colon or bar, as disks are named. -/
def isDisk : List Char → Bool
  | [letter, mark] => letter.isAlpha && (mark = ':' || mark = '|')
  | _ => false

/-- Whether a segment reads as a disk, or as a disk and more after a backslash. -/
def beginsWithDisk : List Char → Bool
  | letter :: mark :: '\\' :: _ => isDisk [letter, mark]
  | segment => isDisk segment

/-- The name of a disk and what stands behind it in the same segment, if a break keeps them apart. -/
def cutAtBreak? (segment : List Char) : Option (List Char × List Char) :=
  match segment.dropWhile isBreak with
  | letter :: rest =>
      match rest.dropWhile isBreak with
      | ':' :: next :: rest =>
          let others := withoutBreaks rest
          if letter.isAlpha && isBreak next && !others.isEmpty then some ([letter, ':'], others)
          else none
      | _ => none
  | [] => none

/-- Segments that are settled, the last in front, and whether one of them named the disk of the
path. -/
structure Settled where
  back : List (List Char)
  namesDisk : Bool
deriving DecidableEq

namespace Settled

/-- Takes the last segment away, unless it begins with a disk. -/
def shorten (settled : Settled) : Settled :=
  match settled.back with
  | segment :: before => if beginsWithDisk segment then settled else { settled with back := before }
  | [] => settled

/-- Settles one more segment. In front of a file's path a disk gets its colon, and one that a break
keeps apart from what follows stands alone. -/
def push (style : Style) (settled : Settled) (segment : List Char) : Settled :=
  let kept := withoutBreaks segment
  let encoded := Percent.encode Percent.pathSet kept
  if style = .file && settled.back = [] then
    match cutAtBreak? segment with
    | some (disk, others) =>
        { settled with back := [Percent.encode Percent.pathSet others, disk] }
    | none =>
        if isDisk kept then ⟨[kept.take 1 ++ [':']], true⟩ else { settled with back := [encoded] }
  else { settled with back := encoded :: settled.back }

end Settled

/-- Settles one segment after the other. -/
def settle (style : Style) : Settled → List (List Char) → Settled
  | settled, [] => settled
  | settled, segment :: rest =>
      let close (settled : Settled) : Settled :=
        if rest.isEmpty then { settled with back := [] :: settled.back } else settled
      let kept := withoutBreaks segment
      if isDoubleDot kept then settle style (close settled.shorten) rest
      else if isSingleDot kept then settle style (close settled) rest
      else settle style (settled.push style segment) rest

/-- The segments with a slash in front of each. -/
def render (path : List (List Char)) : List Char := path.flatMap fun segment => '/' :: segment

/-- The path that follows a slash, and whether it names a disk. A file path has no empty segments in
front. -/
def normalize (style : Style) (cs : List Char) : List Char × Bool :=
  let settled := settle style ⟨[], false⟩ (segments style cs)
  let path := settled.back.reverse
  match style with
  | .file =>
      match path.dropWhile (·.isEmpty) with
      | [] => (['/'], settled.namesDisk)
      | kept => (render kept, settled.namesDisk)
  | _ => (render path, false)

end BridgeClient.UrlPath
