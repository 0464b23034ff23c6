import CapturedTraffic.Url.Host.Address
import CapturedTraffic.Url.Host.Name
import CapturedTraffic.Url.Path

/-!
# URLs

Reading absolute URLs into one written form. Web schemes and files have an authority with a host
name or an address, and a path of segments; other schemes may have an opaque host, or a path that
is kept as it is.
-/
namespace CapturedTraffic

/-- A URL in its written form. -/
structure Url where
  text : String
  deriving DecidableEq, Repr

namespace Url

open Text

/-- The parts of a URL, each as it is written. -/
structure Parts where
  scheme : List Char
  authority : Option (List Char)
  path : List Char
  query : Option (List Char)
  fragment : Option (List Char)

/-- A path that starts with two slashes needs a mark where no authority stands before it. -/
def Parts.text (p : Parts) : List Char :=
  let front := match p.authority with
    | some authority => '/' :: '/' :: authority
    | none => if ['/', '/'].isPrefixOf p.path then ['/', '.'] else []
  let query := (p.query.map ('?' :: ·)).getD []
  let fragment := (p.fragment.map ('#' :: ·)).getD []
  p.scheme ++ ':' :: front ++ p.path ++ query ++ fragment

def isSchemeChar (c : Char) : Bool := c.isAlphanum || c == '+' || c == '-' || c == '.'

/-- The scheme in lower case, and what follows its colon. -/
def scheme? (s : List Char) : Option (List Char × List Char) :=
  if (s.head?).any Char.isAlpha then
    match s.dropWhile isSchemeChar with
    | ':' :: rest => some ((s.takeWhile isSchemeChar).map Char.toLower, rest)
    | _ => none
  else none

def endsPath (c : Char) : Bool := c == '?' || c == '#'

def endsAuthority (k : Kind) (c : Char) : Bool := k.isSlash c || endsPath c

/-- The encoded user name and password, of which an empty one is left out with its sign. -/
def userinfoText (s : List Char) : List Char :=
  let name := Percent.encode Percent.inUserinfo (s.takeWhile (· != ':'))
  let password := Percent.encode Percent.inUserinfo ((s.dropWhile (· != ':')).drop 1)
  if password.isEmpty then if name.isEmpty then [] else name ++ ['@']
  else name ++ ':' :: password ++ ['@']

/-- Splits off what stands before the last at sign of the authority. -/
def userinfo? (k : Kind) (s : List Char) : Option (List Char × List Char) :=
  let authority := s.takeWhile fun c => !endsAuthority k c
  let after := (authority.reverse.takeWhile (· != '@')).reverse
  if after.length = authority.length then some ([], s)
  else
    let before := authority.take (authority.length - after.length - 1)
    let rest := s.drop (authority.length - after.length)
    if before.isEmpty && (rest.head?).any (endsAuthority k) then none
    else some (userinfoText before, rest)

/-- Splits a host from what follows it; a colon inside brackets belongs to the host. -/
def splitHost (k : Kind) (bracketed : Bool) : List Char → List Char × List Char
  | [] => ([], [])
  | c :: rest =>
    if endsAuthority k c || (c == ':' && !bracketed) then ([], c :: rest)
    else
      let (host, after) := splitHost k ((bracketed || c == '[') && c != ']') rest
      (c :: host, after)

/-- The written form of an address in brackets. -/
def bracketed? (s : List Char) : Option (List Char) :=
  match s with
  | '[' :: inner =>
    if inner.getLast? = some ']' then
      (Host.Address.version6? inner.dropLast).map fun found =>
        '[' :: Host.Address.version6Text found ++ [']']
    else none
  | _ => none

/-- The written form of a host that must be a name or an address. -/
def domain? (s : List Char) : Option (List Char) :=
  if s.head? = some '[' then bracketed? s
  else (Utf8.decode? (Percent.decode s)).bind fun decoded =>
    (Host.Name.toAscii? decoded.toList).bind fun name =>
      if name.isEmpty then none
      else if Host.Address.endsInNumber name then
        (Host.Address.version4? name).map Host.Address.version4Text
      else some name

def isForbiddenInHost (c : Char) : Bool :=
  ['\x00', '\t', '\n', '\r', ' ', '#', '/', ':', '<', '>', '?', '@', '[', '\\', ']', '^',
    '|'].contains c

/-- The written form of a host whose meaning is left to the scheme. -/
def opaqueHost? (s : List Char) : Option (List Char) :=
  if s.head? = some '[' then bracketed? s
  else if s.any isForbiddenInHost then none
  else some (Percent.encode Percent.isControl s)

/-- The written form of a port, which is left out where it is the default of the scheme. -/
def port? (default : Option Nat) (s : List Char) : Option (List Char × List Char) :=
  match s with
  | ':' :: rest =>
    let digits := rest.takeWhile Decimal.isDigit
    let after := rest.dropWhile Decimal.isDigit
    let n := Decimal.value 0 digits
    if 65535 < n ∨ !(after.head?).all (fun c => c == '/' || c == '\\' || endsPath c) then none
    else if digits.isEmpty ∨ default = some n then some ([], after)
    else some (':' :: Decimal.digits n, after)
  | _ => some ([], s)

/-- Reads an authority after its two slashes. -/
def authority? (k : Kind) (scheme s : List Char) : Option (List Char × List Char) :=
  (userinfo? k s).bind fun (user, rest) =>
    let (host, rest) := splitHost k false rest
    if host.isEmpty && (k.isSpecial || !user.isEmpty || rest.head? == some ':') then none
    else (if k.isSpecial then domain? host else opaqueHost? host).bind fun host =>
      (port? (Kind.defaultPort? scheme) rest).map fun (port, rest) => (user ++ host ++ port, rest)

/-- Reads the query and the fragment that end a URL. -/
def Parts.withTail (p : Parts) (k : Kind) (s : List Char) : Parts :=
  let encoded := if k.isSpecial then Percent.inSpecialQuery else Percent.inQuery
  let fragment := match s.dropWhile (· != '#') with
    | _ :: rest => some (Percent.encode Percent.inFragment rest)
    | [] => none
  let query := match s with
    | '?' :: rest => some (Percent.encode encoded (rest.takeWhile (· != '#')))
    | _ => none
  { p with query := query, fragment := fragment }

def pathChars (s : List Char) : List Char := s.takeWhile fun c => !endsPath c

def tailChars (s : List Char) : List Char := s.dropWhile fun c => !endsPath c

/-- Drops the slash that starts a path. -/
def unrooted (k : Kind) (s : List Char) : List Char :=
  match s with
  | c :: rest => if k.isSlash c then rest else s
  | [] => []

/-- Reads what follows an authority. -/
def afterAuthority (k : Kind) (scheme authority s : List Char) : Parts :=
  let path := pathChars s
  let text := if path.isEmpty && k == .plain then [] else (Path.read k (unrooted k path)).1
  Parts.withTail ⟨scheme, some authority, text, none, none⟩ k (tailChars s)

/--
The host of a file and what follows it: no host for this machine, and none for what is a drive
letter.
-/
def fileHost? (s : List Char) : Option (List Char × List Char) :=
  let host := s.takeWhile fun c => !endsAuthority .file c
  let rest := s.dropWhile fun c => !endsAuthority .file c
  if host.isEmpty then some ([], rest)
  else if host.length = 2 ∧ Path.looksLikeDrive host then some ([], s)
  else (domain? host).map fun host =>
    (if host = "localhost".toList then [] else host, rest)

/-- The parts of a file, given its path without the slash at the start, and what follows. -/
def file (host given : List Char) : Parts :=
  let (path, hasDrive) := Path.read .file (pathChars given)
  Parts.withTail ⟨"file".toList, some (if hasDrive then [] else host), path, none, none⟩ .file
    (condense (tailChars given))

/-- Drops the slash that starts a path, and tabs and newlines before it. -/
def unrootedFile (given : List Char) : List Char :=
  unrooted .file (given.dropWhile isSkipped)

/--
Reads what follows the colon of a file. Without a host, the slash after two others starts an empty
segment.
-/
def file? (given : List Char) : Option Parts :=
  let s := condense given
  match s with
  | a :: b :: rest =>
    if Kind.isSlash .file a && Kind.isSlash .file b then
      (fileHost? rest).map fun (host, rest) =>
        let given := dropCondensed (s.length - rest.length) given
        file host (if host.isEmpty then given else unrootedFile given)
    else some (file [] (unrootedFile given))
  | _ => some (file [] (unrootedFile given))

/-- Reads what follows the colon of a scheme without rules of its own. -/
def plain? (scheme s : List Char) : Option Parts :=
  match s with
  | '/' :: '/' :: rest =>
    (authority? .plain scheme rest).map fun (authority, rest) =>
      afterAuthority .plain scheme authority rest
  | '/' :: rest =>
    let path := (Path.read .plain (pathChars rest)).1
    some (Parts.withTail ⟨scheme, none, path, none, none⟩ .plain (tailChars rest))
  | _ =>
    let path := Percent.encode Percent.isControl (pathChars s)
    some (Parts.withTail ⟨scheme, none, path, none, none⟩ .plain (tailChars s))

/-- The parts of a URL, given with its tabs and newlines. -/
def parts? (given : List Char) : Option Parts :=
  (scheme? (condense given)).bind fun (scheme, rest) =>
    match Kind.ofScheme scheme with
    | .file => file? (dropCondensed (scheme.length + 1) given)
    | .web =>
      (authority? .web scheme (rest.dropWhile (Kind.isSlash .web))).map fun (authority, rest) =>
        afterAuthority .web scheme authority rest
    | .plain => plain? scheme rest

def isEdge (c : Char) : Bool := c ≤ ' '

/-- The input without blanks and control characters at its ends. -/
def trim (s : List Char) : List Char :=
  ((s.dropWhile isEdge).reverse.dropWhile isEdge).reverse

def parse? (s : String) : Option Url :=
  (parts? (trim s.toList)).map fun p => ⟨String.ofList p.text⟩

end Url

end CapturedTraffic
