import ComponentStyles.Text.Utf8
import ComponentStyles.Url.Domain

/-!
Which texts are hosts of a URL.

A host is a domain, an IPv4 address or an IPv6 address in brackets. In URLs with a special
scheme a domain is percent-decoded and mapped to its ASCII form first, and one whose last label
looks like a number has to be an IPv4 address.
-/

namespace ComponentStyles.Url

/-- The value of a digit in bases up to 36; letters count in either case. -/
def digitValue? (c : Char) : Option Nat :=
  if '0' ≤ c && c ≤ '9' then some (c.toNat - 48)
  else if 'a' ≤ c && c ≤ 'z' then some (c.toNat - 87)
  else if 'A' ≤ c && c ≤ 'Z' then some (c.toNat - 55)
  else none

/-- Whether every character is a digit of the given base. -/
def allDigits (base : Nat) (text : Text) : Bool :=
  text.all fun c => (digitValue? c).any (· < base)

/-- The value of a numeral in the given base. -/
def numeralValue (base : Nat) (text : Text) : Nat :=
  text.foldl (fun value c => value * base + (digitValue? c).getD 0) 0

/-- Whether a text is a number of a dotted quad: without a leading zero and below 256. -/
def isOctet (text : Text) : Bool :=
  !text.isEmpty && allDigits 10 text && (text.head? != some '0' || text.length == 1) &&
    numeralValue 10 text < 256

/-- Whether a text is four numbers with dots between them. -/
def isDottedQuad (text : Text) : Bool :=
  let parts := Text.splitOn '.' text
  parts.length == 4 && parts.all isOctet

/-- Whether a text is a group of an IPv6 address. -/
def isGroup (text : Text) : Bool :=
  1 ≤ text.length && text.length ≤ 4 && allDigits 16 text

/-- The number of groups that a row of them with colons in between stands for. A dotted quad at
the end, where it is allowed, stands for two. -/
def groupCount? (quadAllowed : Bool) (text : Text) : Option Nat :=
  if text.isEmpty then some 0
  else
    let parts := Text.splitOn ':' text
    if parts.all isGroup then some parts.length
    else if quadAllowed && parts.dropLast.all isGroup && parts.getLast?.any isDottedQuad then
      some (parts.length + 1)
    else none

/-- Whether a text is an IPv6 address: eight groups, or fewer with a double colon that stands
for the missing ones. -/
def isIpv6 (text : Text) : Bool :=
  match Text.splitBefore? "::".toList text with
  | none => !text.isEmpty && groupCount? true text == some 8
  | some (left, right) =>
      match groupCount? false left, groupCount? true (right.drop 2) with
      | some a, some b => a + b < 8
      | _, _ => false

/-- The value of a number in an IPv4 address: decimal, octal behind `0` or hexadecimal behind
`0x`. -/
def ipv4Number? (text : Text) : Option Nat :=
  let inBase (base : Nat) (digits : Text) : Option Nat :=
    if allDigits base digits then some (numeralValue base digits) else none
  match text with
  | [] => none
  | '0' :: 'x' :: digits => inBase 16 digits
  | '0' :: 'X' :: digits => inBase 16 digits
  | '0' :: digit :: digits => inBase 8 (digit :: digits)
  | digits => inBase 10 digits

/-- Whether a domain claims to be an IPv4 address: its last label, a trailing dot aside, is a
number. -/
def endsInNumber (domain : Text) : Bool :=
  let last? : Option Text :=
    match (Text.splitOn '.' domain).reverse with
    | [] => none
    | [] :: [] => none
    | [] :: last :: _ => some last
    | last :: _ => some last
  last?.any fun last =>
    (!last.isEmpty && allDigits 10 last) || (ipv4Number? last).isSome

/-- Whether a text is an IPv4 address of up to four numbers, the last of which fills the bytes
that are left. -/
def isIpv4 (domain : Text) : Bool :=
  let parts := Text.splitOn '.' domain
  let parts := if parts.getLast? = some [] then parts.dropLast else parts
  parts.length ≤ 4 &&
    match (parts.map ipv4Number?).reverse with
    | some last :: front =>
        last < Nat.pow 256 (4 - front.length) && front.all fun n => n.any (· < 256)
    | _ => false

/-- Replaces each percent sign with two hexadecimal digits behind it by the byte they name. -/
def percentDecode : List Nat → List Nat
  | 37 :: a :: b :: rest =>
      match digitValue? (Char.ofNat a), digitValue? (Char.ofNat b) with
      | some high, some low =>
          if high < 16 && low < 16 then (16 * high + low) :: percentDecode rest
          else 37 :: percentDecode (a :: b :: rest)
      | _, _ => 37 :: percentDecode (a :: b :: rest)
  | byte :: rest => byte :: percentDecode rest
  | [] => []

/-- Whether a text is a domain or an IPv4 address, which is a domain that claims to be one. -/
def isDomain (host : Text) : Bool :=
  match Text.ofBytes? (percentDecode (Text.bytes host)) with
  | none => false
  | some text =>
      (Domain.ofText? text).any fun domain =>
        !domain.isEmpty && (!endsInNumber domain || isIpv4 domain)

/-- Whether a text in brackets is an IPv6 address. -/
def isBracketed (host : Text) : Bool :=
  1 < host.length && host.getLast? = some ']' && isIpv6 (host.drop 1).dropLast

/-- Whether a text is the host of a URL with a special scheme. -/
def isSpecialHost (host : Text) : Bool :=
  if host.head? = some '[' then isBracketed host else isDomain host

/-- Whether a text is the host of a URL with another scheme, where it is not interpreted. -/
def isOpaqueHost (host : Text) : Bool :=
  if host.head? = some '[' then isBracketed host
  else !host.any fun c =>
    ['\x00', '\t', '\n', '\r', ' ', '#', '/', ':', '<', '>', '?', '@', '[', '\\', ']', '^',
      '|'].contains c

end ComponentStyles.Url
