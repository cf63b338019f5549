import HeaderAudit.Text.Blank
import HeaderAudit.Text.LetterCase
import HeaderAudit.Url.IPv6

/-!
# URLs

The host and the path of a URL. A text with white space in it is no URL; neither is one whose port is
no number up to 65535, whose brackets hold no address, or whose authority has a character that stands
for a separator.
-/

namespace HeaderAudit

structure Url where
  authority : Text
  path : Text
  deriving DecidableEq, Repr

namespace Url

def isControlOrSpace (c : Char) : Bool := c.toNat ≤ 0x20

def isAsciiLetter (c : Char) : Bool := c.isAlpha

def isSchemeChar (c : Char) : Bool := c.isAlphanum || c = '+' || c = '-' || c = '.'

/-- The text behind the scheme, or the whole text if it begins with none. -/
def dropScheme (t : Text) : Text :=
  match Text.cut ':' t with
  | (c :: scheme, some rest) =>
    if isAsciiLetter c && scheme.all isSchemeChar then rest else t
  | _ => t

def endsAuthority (c : Char) : Bool := c = '/' || c = '?' || c = '#'

/-- The authority, behind a double slash, and what follows it. -/
def splitAuthority (t : Text) : Text × Text :=
  match t with
  | '/' :: '/' :: rest =>
    (rest.takeWhile (!endsAuthority ·), rest.dropWhile (!endsAuthority ·))
  | t => ([], t)

def dropQuery (t : Text) : Text := (Text.cut '?' (Text.cut '#' t).1).1

/-- Compatibility forms of these characters contain a separator of URLs. -/
def standsForSeparator (c : Char) : Bool :=
  [0x2047, 0x2048, 0x2049, 0x2100, 0x2101, 0x2105, 0x2106, 0x2A74, 0xFE13, 0xFE16, 0xFE55, 0xFE56,
    0xFE5F, 0xFE6B, 0xFF03, 0xFF0F, 0xFF1A, 0xFF1F, 0xFF20].contains c.toNat

/-- The host and the port as written, behind the last at sign. -/
def hostAndPort (authority : Text) : Text × Text :=
  let place := Text.afterLast '@' authority
  match Text.cut '[' place with
  | (_, some bracketed) =>
    let (host, rest) := Text.cut ']' bracketed
    (host, ((Text.cut ':' (rest.getD [])).2).getD [])
  | (_, none) =>
    let (host, port) := Text.cut ':' place
    (host, port.getD [])

/-- An address of a later version: `v`, hexadecimal digits, a point and something behind it. -/
def isFutureAddress (t : Text) : Bool :=
  match t with
  | 'v' :: rest =>
    let (version, address) := Text.cut '.' rest
    !version.isEmpty && version.all Text.isHexDigit && address.any (!·.isEmpty)
  | _ => false

/-- What stands in brackets is an address, and nothing but a port stands beside them. Older readers of
URLs let any text stand beside the brackets. -/
def bracketsAreSound (authority : Text) : Bool :=
  let place := Text.afterLast '@' authority
  let beside := match Text.cut '[' place with
    | (before, some bracketed) =>
      let after := ((Text.cut ']' bracketed).2).getD []
      before.isEmpty && (after.isEmpty || after.head? = some ':')
    | (_, none) => true
  let host := (hostAndPort authority).1
  beside && (if host.head? = some 'v' then isFutureAddress host else isIPv6 host)

def bracketsAllowed (authority : Text) : Bool :=
  match authority.contains '[', authority.contains ']' with
  | false, false => true
  | true, true => bracketsAreSound authority
  | _, _ => false

/-- The port is empty or a number up to 65535 in at most 4300 digits. -/
def portAllowed (port : Text) : Bool :=
  port.isEmpty ||
    (port.all (fun c => '0' ≤ c && c ≤ '9') && port.length ≤ 4300
      && (Text.readDigits? 10 port).any (· ≤ 65535))

def ofText? (t : Text) : Option Url :=
  if t.any Text.isBlank then none
  else
    let (authority, rest) := splitAuthority (dropScheme (t.dropWhile isControlOrSpace))
    if bracketsAllowed authority && !authority.any standsForSeparator
        && portAllowed (hostAndPort authority).2 then
      some ⟨authority, dropQuery rest⟩
    else none

/-- The host in small letters; the zone of an address keeps its letters. -/
def host? (url : Url) : Option Text :=
  match (hostAndPort url.authority).1 with
  | [] => none
  | host =>
    let (name, zone) := Text.cut '%' host
    some (Text.lower name ++ (zone.map ('%' :: ·)).getD [])

def pathOrRoot (url : Url) : Text := if url.path.isEmpty then ['/'] else url.path

def hostOf? (t : Text) : Option Text := (ofText? t).bind host?

def pathOf? (t : Text) : Option Text := (ofText? t).map pathOrRoot

end Url

end HeaderAudit
