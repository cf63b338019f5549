import HeaderAudit.Text.Basic

/-!
# IPv6 addresses

Eight groups of up to four hexadecimal digits between colons. One run of groups may be left out behind
a double colon, the last two groups may be written as an IPv4 address, and a zone may follow a percent
sign.
-/

namespace HeaderAudit.Url

/-- A number from 0 to 255 in decimal, without a zero in front. -/
def isOctet (t : Text) : Bool :=
  !t.isEmpty && t.length ≤ 3 && t.all (fun c => '0' ≤ c && c ≤ '9')
    && !(t.length > 1 && t.head? = some '0')
    && (Text.readDigits? 10 t).any (· ≤ 255)

def isIPv4 (t : Text) : Bool :=
  let octets := Text.fields '.' t
  octets.length == 4 && octets.all isOctet

def isGroup (t : Text) : Bool :=
  !t.isEmpty && t.length ≤ 4 && t.all Text.isHexDigit

/-- The groups of an address; an IPv4 address at the end stands for two of them. -/
def groups? (t : Text) : Option (List Text) :=
  let parts := Text.fields ':' t
  match parts.getLast? with
  | some last =>
    if last.contains '.' then
      if isIPv4 last then some (parts.dropLast ++ [['0'], ['0']]) else none
    else some parts
  | none => none

/-- The groups make up an address. A double colon shows as an empty group within; at either end of the
address the double colon leaves one more empty group. -/
def areGroups (parts : List Text) : Bool :=
  let inner := (parts.drop 1).dropLast
  let gaps := inner.countP (·.isEmpty)
  let openFirst := parts.head?.any (·.isEmpty)
  let openLast := parts.getLast?.any (·.isEmpty)
  let gapAt := inner.findIdx (·.isEmpty)
  let given := parts.countP (!·.isEmpty)
  let wellPlaced :=
    if gaps = 0 then parts.length == 8 && !openFirst && !openLast
    else
      gaps = 1 && given < 8
        && (!openFirst || gapAt == 0) && (!openLast || gapAt + 1 == inner.length)
  wellPlaced && (parts.filter (!·.isEmpty)).all isGroup

/-- An address without its zone, with at least three parts and at most nine. -/
def isIPv6Body (t : Text) : Bool :=
  (Text.fields ':' t).length ≥ 3 &&
    match groups? t with
    | some parts => parts.length ≤ 9 && areGroups parts
    | none => false

def isIPv6 (t : Text) : Bool :=
  match Text.cut '%' t with
  | (body, none) => isIPv6Body body
  | (body, some zone) => !zone.isEmpty && !zone.contains '%' && isIPv6Body body

end HeaderAudit.Url
