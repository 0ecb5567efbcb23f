import Mathlib

/-!
# The policy for links in terminal output

Hyperlink targets arrive from programs running in the terminal. Only bounded absolute
HTTP or HTTPS addresses with an unambiguous host and port are kept. The policy works on
the characters of the text; byte lengths count UTF-8, and the byte tests of the source
only ever accept ASCII, where a byte and a character coincide. IPv6 literals are read by
the standard library's address parser, followed here group by group.
-/

namespace HydraTerm.Protocol

/-- Largest UTF-8 length of a retained link. -/
def maxTerminalUrlBytes : Nat := 2048

/-- UTF-8 length of a text. -/
def utf8Length (text : List Char) : Nat := (text.map Char.utf8Size).sum

variable (char : Char)

/-- Unicode control characters. -/
def isControl : Bool :=
  char.toNat < 0x20 || (0x7f ≤ char.toNat && char.toNat ≤ 0x9f)

/-- Unicode white space. -/
def isUnicodeWhitespace : Bool :=
  (0x09 ≤ char.toNat && char.toNat ≤ 0x0d) || char.toNat == 0x20 || char.toNat == 0x85
    || char.toNat == 0xa0 || char.toNat == 0x1680
    || (0x2000 ≤ char.toNat && char.toNat ≤ 0x200a) || char.toNat == 0x2028
    || char.toNat == 0x2029 || char.toNat == 0x202f || char.toNat == 0x205f
    || char.toNat == 0x3000

def isAsciiDigit : Bool := '0' ≤ char && char ≤ '9'

def isAsciiAlphanumeric : Bool :=
  isAsciiDigit char || ('a' ≤ char && char ≤ 'z') || ('A' ≤ char && char ≤ 'Z')

def isAsciiHexdigit : Bool :=
  isAsciiDigit char || ('a' ≤ char && char ≤ 'f') || ('A' ≤ char && char ≤ 'F')

/-- Value of a run of decimal digits. -/
def decimalValue (digits : List Char) : Nat :=
  digits.foldl (fun value digit => 10 * value + (digit.toNat - '0'.toNat)) 0

/-- A nonempty run of digits whose value fits `u16`. -/
def validPort (port : List Char) : Bool :=
  !port.isEmpty && port.all isAsciiDigit && decide (decimalValue port ≤ 65535)

/-- Nothing, or a colon and a port. -/
def validPortSuffix : List Char → Bool
  | [] => true
  | ':' :: port => validPort port
  | _ => false

/-- One label of a host name. -/
def validLabel (label : List Char) : Bool :=
  !label.isEmpty && decide (utf8Length label ≤ 63)
    && (label.head?.map isAsciiAlphanumeric).getD false
    && (label.getLast?.map isAsciiAlphanumeric).getD false
    && label.all (fun char => isAsciiAlphanumeric char || char == '-')

/-- A host name of bounded labels, with at most one trailing dot. -/
def validAsciiHost (host : List Char) : Bool :=
  let host := if host.getLast? = some '.' then host.dropLast else host
  !host.isEmpty && decide (utf8Length host ≤ 253) && (host.splitOn '.').all validLabel

/-- One group of at most four hexadecimal digits. -/
def readGroup (input : List Char) : Option (List Char) :=
  let digits := input.takeWhile isAsciiHexdigit
  if digits.isEmpty || decide (digits.length > 4) then none else some (input.drop digits.length)

/-- One decimal octet without leading zeros. -/
def readOctet (input : List Char) : Option (List Char) :=
  let digits := input.takeWhile isAsciiDigit
  if digits.isEmpty || decide (digits.length > 3)
      || (digits.head? == some '0' && decide (digits.length > 1))
      || decide (decimalValue digits > 255) then none
  else some (input.drop digits.length)

/-- Read an item after its separator; the first item has none. -/
def readSeparated (separator : Char) (index : Nat) (read : List Char → Option (List Char))
    (input : List Char) : Option (List Char) :=
  if index = 0 then read input
  else
    match input with
    | [] => none
    | char :: rest => if char = separator then read rest else none

/-- A dotted IPv4 address. -/
def readIpv4 (input : List Char) : Option (List Char) :=
  [0, 1, 2, 3].foldlM (fun rest index => readSeparated '.' index readOctet rest) input

/-- Up to `limit` groups, the last two of which may be an IPv4 address. Returns how many
groups were read, whether they ended in an IPv4 address, and the remaining input. -/
def readGroups (limit : Nat) : Nat → Nat → List Char → Nat × Bool × List Char
  | 0, index, input => (index, false, input)
  | remaining + 1, index, input =>
    match (if index < limit - 1 then readSeparated ':' index readIpv4 input else none) with
    | some rest => (index + 2, true, rest)
    | none =>
      match readSeparated ':' index readGroup input with
      | some rest => readGroups limit remaining (index + 1) rest
      | none => (index, false, input)

/-- The text is one IPv6 address. -/
def isIpv6 (input : List Char) : Bool :=
  match readGroups 8 8 0 input with
  | (headSize, headIpv4, rest) =>
    if headSize = 8 then rest.isEmpty
    else if headIpv4 then false
    else
      match rest with
      | ':' :: ':' :: tail =>
        let limit := 8 - (headSize + 1)
        (readGroups limit limit 0 tail).2.2.isEmpty
      | _ => false

/-- The text before and after the first occurrence of `://`. -/
def splitScheme : List Char → Option (List Char × List Char)
  | [] => none
  | char :: rest =>
    match char, rest with
    | ':', '/' :: '/' :: remainder => some ([], remainder)
    | _, _ => (splitScheme rest).map (fun parts => (char :: parts.1, parts.2))

/-- Host and port of an authority. A bracketed host is an IPv6 address; any other has at
most one colon. -/
def validAuthority (authority : List Char) : Bool :=
  match authority with
  | '[' :: bracketed =>
    bracketed.contains ']' && isIpv6 (bracketed.takeWhile (· != ']'))
      && validPortSuffix ((bracketed.dropWhile (· != ']')).drop 1)
  | _ =>
    if authority.count ':' > 1 then false
    else
      validAsciiHost (authority.takeWhile (· != ':'))
        && (!authority.contains ':' || validPort ((authority.dropWhile (· != ':')).drop 1))

/-- Every percent sign starts one complete byte escape. -/
def validEscapes : List Char → Bool
  | [] => true
  | '%' :: first :: second :: rest =>
    isAsciiHexdigit first && isAsciiHexdigit second && validEscapes rest
  | '%' :: _ => false
  | _ :: rest => validEscapes rest

/-- The link may be kept and later handed to the native opener. -/
def isSafeTerminalHttpUrl (value : String) : Bool :=
  let chars := value.toList
  if chars.isEmpty || decide (utf8Length chars > maxTerminalUrlBytes) then false
  else if chars.any (fun char =>
      isControl char || isUnicodeWhitespace char || char == '\\' || char == '"') then false
  else
    match splitScheme chars with
    | none => false
    | some (scheme, remainder) =>
      let lowered := scheme.map Char.toLower
      if lowered != "http".toList && lowered != "https".toList then false
      else
        let authority := remainder.takeWhile (fun char => char != '/' && char != '?' && char != '#')
        if authority.isEmpty || authority.contains '@' then false
        else validAuthority authority && validEscapes chars

/-- A safe link is within the cap on links. -/
theorem safeUrl_bytes {uri : String} (safe : isSafeTerminalHttpUrl uri = true) :
    utf8Length uri.toList ≤ maxTerminalUrlBytes := by
  by_contra long
  have refused : (uri.toList.isEmpty
      || decide (utf8Length uri.toList > maxTerminalUrlBytes)) = true := by
    rw [decide_eq_true (Nat.lt_of_not_le long), Bool.or_true]
  simp [isSafeTerminalHttpUrl, refused] at safe

example : isSafeTerminalHttpUrl "https://[2001:db8::1]:8443/a" = true := by decide +kernel

example : isSafeTerminalHttpUrl "https://example.com:70000/" = false := by decide +kernel

end HydraTerm.Protocol
