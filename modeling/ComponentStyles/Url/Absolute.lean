import ComponentStyles.Url.Host

/-!
Which texts are absolute URLs.

`scheme?` gives the scheme of a text that the URL standard accepts without a base URL. Only the
scheme and the authority can make a text unacceptable: every path, query and fragment will do.
-/

namespace ComponentStyles.Url

/-- The text without control characters and blanks around it and without tabs and line ends
anywhere. -/
def clean (text : Text) : Text :=
  let outer (c : Char) : Bool := c.toNat ≤ 0x20
  ((text.dropWhile outer).reverse.dropWhile outer).reverse.filter
    fun c => !(c = '\t' || c = '\n' || c = '\r')

/-- Splits a text behind its scheme and the colon. The scheme is given in lower case. -/
def splitScheme? (text : Text) : Option (Text × Text) :=
  match text with
  | [] => none
  | first :: _ =>
      let inScheme (c : Char) : Bool := c.isAlphanum || c = '+' || c = '-' || c = '.'
      match text.dropWhile inScheme with
      | ':' :: rest =>
          if first.isAlpha then some (Text.lower (text.takeWhile inScheme), rest) else none
      | _ => none

/-- The schemes whose URLs always have an authority. -/
def specialSchemes : List Text :=
  ["http".toList, "https".toList, "ws".toList, "wss".toList, "ftp".toList]

/-- Whether a character ends the authority of a URL. -/
def endsAuthority (special : Bool) (c : Char) : Bool :=
  c = '/' || c = '?' || c = '#' || (special && c = '\\')

/-- Splits an authority behind the last `@` into the user and the host with its number. -/
def splitUser (authority : Text) : Option Text × Text :=
  if authority.contains '@' then
    let host := (authority.reverse.takeWhile (· != '@')).reverse
    (some (authority.take (authority.length - host.length - 1)), host)
  else
    (none, authority)

/-- Splits a host with its number in front of the first colon outside brackets. -/
def splitNumber (inBrackets : Bool) : Text → Text × Text
  | [] => ([], [])
  | c :: rest =>
      if c = ':' && !inBrackets then ([], c :: rest)
      else
        let (host, number) := splitNumber (c = '[' || (inBrackets && c != ']')) rest
        (c :: host, number)

/-- Whether the digits of the number of a host, up to a backslash, stay below 65536. -/
def isHostNumber (digits : Text) : Bool :=
  let digits := digits.takeWhile (· != '\\')
  allDigits 10 digits && numeralValue 10 digits < 65536

/-- Whether a text may stand behind the slashes of a URL. -/
def isAfterSlashes (special : Bool) (text : Text) : Bool :=
  let authority := text.takeWhile fun c => !endsAuthority special c
  let followed := authority.length < text.length
  let (user, hostAndNumber) := splitUser authority
  let (host, number) := splitNumber false hostAndNumber
  let hasUser := user.any fun u => !u.isEmpty && u != [':']
  if user = some [] && hostAndNumber.isEmpty && followed then false
  else if host.isEmpty then !special && number.isEmpty && !hasUser
  else (if special then isSpecialHost host else isOpaqueHost host) && isHostNumber (number.drop 1)

/-- Whether a text may stand behind `file:`. -/
def isAfterFile (text : Text) : Bool :=
  let slash (c : Char) : Bool := c = '/' || c = '\\'
  match text with
  | a :: b :: rest =>
      if slash a && slash b then
        let host := rest.takeWhile fun c => !endsAuthority true c
        let isDrive :=
          match host with
          | [letter, mark] => letter.isAlpha && (mark = ':' || mark = '|')
          | _ => false
        host.isEmpty || isDrive || isSpecialHost host
      else true
  | _ => true

/-- The scheme of an absolute URL. -/
def scheme? (text : Text) : Option Text :=
  match splitScheme? (clean text) with
  | none => none
  | some (scheme, rest) =>
      let accepted :=
        if scheme = "file".toList then isAfterFile rest
        else if specialSchemes.contains scheme then
          isAfterSlashes true (rest.dropWhile fun c => c = '/' || c = '\\')
        else
          match Text.after? "//".toList rest with
          | some behind => isAfterSlashes false behind
          | none => true
      if accepted then some scheme else none

end ComponentStyles.Url
