import BridgeClient.Url.Form
import BridgeClient.Url.Host
import BridgeClient.Url.Path

set_option autoImplicit false

/-!
URLs without a base, in the form that browsers read and write them.
-/
namespace BridgeClient

/-- A URL by its parts, each as it is written. -/
structure Url where
  scheme : List Char
  /-- User, host and port. -/
  authority : Option (List Char)
  path : List Char
  query : Option (List Char)
  fragment : Option (List Char)
deriving DecidableEq

namespace Url

/-- The schemes of the web, with the port that each implies. -/
def webPorts : List (String × Nat) :=
  [("http", 80), ("https", 443), ("ws", 80), ("wss", 443), ("ftp", 21)]

def defaultPort? (scheme : List Char) : Option Nat := webPorts.lookup (String.ofList scheme)

def styleOf (scheme : List Char) : UrlPath.Style :=
  if scheme = "file".toList then .file
  else if (defaultPort? scheme).isSome then .web
  else .other

/-- The text without control characters and blanks at its ends. -/
def trim (text : String) : List Char :=
  let drops := fun (c : Char) => c.toNat ≤ 0x20
  ((text.toList.dropWhile drops).reverse.dropWhile drops).reverse

/-- What stands behind so many characters, breaks not counted. -/
def dropKept : Nat → List Char → List Char
  | 0, cs => cs
  | _, [] => []
  | count + 1, c :: rest =>
      if UrlPath.isBreak c then dropKept (count + 1) rest else dropKept count rest

def continuesScheme (c : Char) : Bool := c.isAlphanum || c = '+' || c = '-' || c = '.'

/-- The scheme in lower case, and what follows its colon. -/
def scheme? (cs : List Char) : Option (List Char × List Char) :=
  match cs with
  | first :: _ =>
      if first.isAlpha then
        match cs.dropWhile continuesScheme with
        | ':' :: rest => some ((cs.takeWhile continuesScheme).map Ascii.lower, rest)
        | _ => none
      else none
  | [] => none

/-- Whether a character ends the authority. -/
def endsAuthority (style : UrlPath.Style) (c : Char) : Bool :=
  UrlPath.isSeparator style c || c = '?' || c = '#'

/-- Cuts at the last `@`. -/
def cutLastAt (cs : List Char) : Option (List Char × List Char) :=
  let host := (cs.reverse.takeWhile (· ≠ '@')).reverse
  if host.length < cs.length then some (cs.take (cs.length - host.length - 1), host) else none

/-- User and password as they are written, with `@`. An empty password is left out. -/
def userinfo (cs : List Char) : List Char :=
  let user := Percent.encode Percent.userinfoSet (cs.takeWhile (· ≠ ':'))
  let password := Percent.encode Percent.userinfoSet ((cs.dropWhile (· ≠ ':')).drop 1)
  let credentials := if password = [] then user else user ++ ':' :: password
  if credentials = [] then [] else credentials ++ ['@']

/-- The characters of the host: those up to a colon outside brackets or to the authority's end. -/
def hostChars (style : UrlPath.Style) : Bool → List Char → List Char
  | _, [] => []
  | inside, c :: rest =>
      if (c = ':' && !inside) || endsAuthority style c then []
      else c :: hostChars style (if c = '[' then true else if c = ']' then false else inside) rest

/-- The port, if it is written, and what follows it. -/
def port (cs : List Char) : Except UrlFault (Option Nat × List Char) :=
  let digits := cs.takeWhile Char.isDigit
  let number := Radix.ofDigits 10 (digits.map Ipv4.digitValue).reverse
  let rest := cs.dropWhile Char.isDigit
  let stops :=
    match rest with
    | [] => true
    | c :: _ => c = '/' || c = '\\' || c = '?' || c = '#'
  if !stops || 65535 < number then .error .invalidPort
  else .ok (if digits = [] then none else some number, rest)

/-- Host and port as they are written behind some credentials, and what follows them. -/
def hostAndPort (scheme credentials cs : List Char) : Except UrlFault (List Char × List Char) := do
  let style := styleOf scheme
  let chars := hostChars style false cs
  let rest := cs.drop chars.length
  if style = .web && chars = [] then .error .emptyHost
  let host ← if style = .other then Host.parseOther chars else Host.parse chars
  match rest with
  | ':' :: rest =>
      if host = [] then .error .emptyHost
      let (port?, rest) ← port rest
      match port? with
      | some number =>
          if defaultPort? scheme = some number then return (credentials ++ host, rest)
          else return (credentials ++ host ++ ':' :: Radix.decimal number, rest)
      | none => return (credentials ++ host, rest)
  | _ =>
      if host = [] && credentials ≠ [] then .error .emptyHost
      else return (credentials ++ host, rest)

/-- The authority as it is written, and what follows it. -/
def readAuthority (scheme cs : List Char) : Except UrlFault (List Char × List Char) :=
  let own := cs.takeWhile fun c => !endsAuthority (styleOf scheme) c
  let outside := cs.dropWhile fun c => !endsAuthority (styleOf scheme) c
  match cutLastAt own with
  | none => hostAndPort scheme [] cs
  | some ([], host) =>
      if host = [] && outside ≠ [] then .error .emptyHost
      else hostAndPort scheme [] (host ++ outside)
  | some (user, host) => hostAndPort scheme (userinfo user) (host ++ outside)

/-- The part before `?` or `#`, the query and the fragment. -/
def cutTail (cs : List Char) : List Char × Option (List Char) × Option (List Char) :=
  let path := cs.takeWhile fun c => c ≠ '?' && c ≠ '#'
  match cs.dropWhile fun c => c ≠ '?' && c ≠ '#' with
  | '?' :: rest =>
      match rest.dropWhile (· ≠ '#') with
      | _ :: fragment => (path, some (rest.takeWhile (· ≠ '#')), some fragment)
      | [] => (path, some rest, none)
  | _ :: fragment => (path, none, some fragment)
  | [] => (path, none, none)

/-- A URL from its scheme, its authority and what follows, where the path is written by `path`. -/
def assemble (scheme : List Char) (authority : Option (List Char))
    (path : List Char → List Char) (cs : List Char) : Url :=
  let (front, query, fragment) := cutTail cs
  let querySet :=
    if styleOf scheme = .other then Percent.querySet else Percent.webQuerySet
  let written (set : Percent.EncodeSet) (part : List Char) : List Char :=
    Percent.encode set (UrlPath.withoutBreaks part)
  ⟨scheme, authority, path front, query.map (written querySet),
    fragment.map (written Percent.fragmentSet)⟩

/-- The path after an authority. Only the schemes of the web need one. -/
def pathAfterAuthority (style : UrlPath.Style) (cs : List Char) : List Char :=
  match cs with
  | [] => if style = .other then [] else ['/']
  | c :: rest => (UrlPath.normalize style (if UrlPath.isSeparator style c then rest else cs)).1

/-- The path after a scheme without an authority. One that would read as an authority is kept apart
by a dot. -/
def pathAlone (cs : List Char) : List Char :=
  match cs with
  | '/' :: rest =>
      match (UrlPath.normalize .other rest).1 with
      | '/' :: '/' :: path => '/' :: '.' :: '/' :: '/' :: path
      | path => path
  | _ => Percent.encode Percent.controls cs

/-- What follows a first slash or backslash, or all if there is none. -/
def dropSlash (cs : List Char) : List Char :=
  match cs.dropWhile UrlPath.isBreak with
  | c :: rest => if UrlPath.isSeparator .file c then rest else c :: rest
  | [] => []

/-- A file's URL after its scheme; `raw` is the same text with its breaks. A path that begins with a
disk has no host. After an empty host or the local one, which is left out, the path keeps the slash
that it begins with, so that a disk is not found behind that. -/
def parseFile (scheme cs raw : List Char) : Except UrlFault Url :=
  let file (authority path : List Char) : Url :=
    assemble scheme (some authority) (fun front => (UrlPath.normalize .file front).1) path
  match cs with
  | a :: b :: rest =>
      if UrlPath.isSeparator .file a && UrlPath.isSeparator .file b then
        let chars := rest.takeWhile fun c => !endsAuthority .file c
        if chars = [] || UrlPath.isDisk chars then .ok (file [] (dropKept 2 raw))
        else
          let path := dropKept (chars.length + 2) raw
          (Host.parse chars).map fun host =>
            if host = "localhost".toList then file [] path
            else
              let front := (cutTail (dropSlash path)).1
              file (if (UrlPath.normalize .file front).2 then [] else host) (dropSlash path)
      else .ok (file [] (dropSlash raw))
  | _ => .ok (file [] (dropSlash raw))

def parse (text : String) : Except UrlFault Url :=
  let raw := trim text
  let cs := UrlPath.withoutBreaks raw
  match scheme? cs with
  | none => .error .noBase
  | some (scheme, rest) =>
      let style := styleOf scheme
      match style, rest with
      | .file, _ => parseFile scheme rest (dropKept (cs.length - rest.length) raw)
      | .web, _ =>
          (readAuthority scheme (rest.dropWhile (UrlPath.isSeparator .web))).map fun (host, rest) =>
            assemble scheme (some host) (pathAfterAuthority style) rest
      | .other, '/' :: '/' :: rest =>
          (readAuthority scheme rest).map fun (host, rest) =>
            assemble scheme (some host) (pathAfterAuthority style) rest
      | .other, _ => .ok (assemble scheme none pathAlone rest)

/-- The URL with pairs added to its query. -/
def withPairs (url : Url) (pairs : List (String × String)) : Url :=
  { url with query := some (Form.append (url.query.getD []) pairs) }

def render (url : Url) : String :=
  let after (mark : List Char) (part : Option (List Char)) : List Char :=
    match part with
    | some cs => mark ++ cs
    | none => []
  String.ofList (url.scheme ++ ':' :: after ['/', '/'] url.authority ++ url.path
    ++ after ['?'] url.query ++ after ['#'] url.fragment)

end Url
end BridgeClient
