/-
  StakeRelay.Chain.Url — which texts are absolute URLs.

  A URL starts with a scheme. The schemes http, https, ws, wss and ftp have to name a
  host behind any number of slashes; file may name one behind two slashes; any other
  scheme may name one behind exactly two slashes and otherwise goes on freely.

  A host is a domain, an IPv4 address (when its last label is a number) or an IPv6
  address in brackets, with a port of at most 16 bits behind a colon. A domain may be
  written with characters beyond ASCII, and with percent signs. What follows the
  host cannot spoil the URL. Blanks and controls around the text do not count, nor do
  tabs and line ends within it.
-/

import StakeRelay.Hostname.Domain
import StakeRelay.Text.Utf8

namespace StakeRelay.Url

open Ascii
open Text (splitAt)

/-! ## §1. Characters -/

/-- A control character or a space. -/
def isEdge (c : Char) : Bool := c.toNat ≤ 0x20

/-- The characters that count. -/
def meaningful (s : String) : List Char :=
  let cs := ((s.toList.dropWhile isEdge).reverse.dropWhile isEdge).reverse
  cs.filter fun c => c ≠ '\t' && c ≠ '\n' && c ≠ '\r'

/-! ## §2. Addresses of machines -/

/-- The value of digits of a base. -/
def numberIn (base : Nat) (cs : List Char) : Option Nat :=
  cs.foldlM (fun n c => do
    let v ← hexValue? c
    if v < base then some (n * base + v) else none) 0

/-- The value of a part of an IPv4 address: hexadecimal behind `0x`, octal behind `0`. -/
def ipv4Number : List Char → Option Nat
  | [] => none
  | ['0'] => some 0
  | '0' :: 'x' :: rest => numberIn 16 rest
  | '0' :: 'X' :: rest => numberIn 16 rest
  | '0' :: rest => numberIn 8 rest
  | cs => numberIn 10 cs

/-- The labels of a domain, without an empty one at its end. -/
def labels (domain : List Char) : List (List Char) :=
  let parts := splitAt '.' domain
  if parts.getLast? = some [] then parts.dropLast else parts

/-- Whether a domain is meant as an IPv4 address. -/
def endsInNumber (domain : List Char) : Bool :=
  match (labels domain).getLast? with
  | none => false
  | some last => (last ≠ [] && last.all isDigit) || (ipv4Number last).isSome

/-- Whether a domain is an IPv4 address. -/
def isIpv4 (domain : List Char) : Bool :=
  let parts := labels domain
  match parts.mapM ipv4Number with
  | none => false
  | some numbers =>
    match numbers.reverse with
    | [] => false
    | last :: others =>
      parts.length ≤ 4 && others.all (· ≤ 255) && last < Nat.pow 256 (4 - others.length)

/-- Whether the text is a group of an IPv6 address. -/
def isGroup (cs : List Char) : Bool :=
  cs ≠ [] && cs.length ≤ 4 && cs.all fun c => (hexValue? c).isSome

/-- Whether the text is a part of a dotted IPv4 address, in decimal without leading zeros. -/
def isOctet (cs : List Char) : Bool :=
  match cs with
  | [] => false
  | ['0'] => true
  | '0' :: _ => false
  | cs => cs.length ≤ 3 && cs.all isDigit && ((numberIn 10 cs).getD 256) ≤ 255

/-- How many groups the texts between colons stand for; the last may be a dotted IPv4
    address, which stands for two. -/
def groupCount : List (List Char) → Option Nat
  | [] => some 0
  | [last] =>
    if isGroup last then some 1
    else
      let octets := splitAt '.' last
      if octets.length = 4 ∧ octets.all isOctet then some 2 else none
  | cs :: rest => if isGroup cs then (groupCount rest).map (· + 1) else none

/-- The parts before and behind the first two colons in a row. -/
def splitAtGap : List Char → Option (List Char × List Char)
  | ':' :: ':' :: rest => some ([], rest)
  | c :: rest => (splitAtGap rest).map fun (before, behind) => (c :: before, behind)
  | [] => none

/-- How many groups a stretch of an IPv6 address stands for. -/
def stretchCount (cs : List Char) : Option Nat :=
  if cs = [] then some 0 else groupCount (splitAt ':' cs)

/-- How many groups the stretch before a gap stands for. -/
def leadingCount (cs : List Char) : Option Nat :=
  if cs = [] then some 0
  else
    let parts := splitAt ':' cs
    if parts.all isGroup then some parts.length else none

/-- Whether the text is an IPv6 address. -/
def isIpv6 (cs : List Char) : Bool :=
  match splitAtGap cs with
  | none => groupCount (splitAt ':' cs) = some 8
  | some (before, behind) =>
    match leadingCount before, stretchCount behind with
    | some m, some n => m + n ≤ 7
    | _, _ => false

/-! ## §3. Hosts -/

/-- The bytes with every percent sign and two digits replaced by the byte they spell. -/
def percentDecode : Bytes → Bytes
  | [] => []
  | 0x25 :: hi :: lo :: rest =>
    match Hex.value? hi, Hex.value? lo with
    | some h, some l => UInt8.ofNat (16 * h + l) :: percentDecode rest
    | _, _ => 0x25 :: percentDecode (hi :: lo :: rest)
  | b :: rest => b :: percentDecode rest

/-- Whether the text between brackets, brackets included, is an IPv6 address. -/
def isBracketed (cs : List Char) : Bool :=
  match cs with
  | '[' :: rest => rest.getLast? = some ']' && isIpv6 rest.dropLast
  | _ => false

/-- Whether a host is one for a scheme with rules for hosts. -/
def isHost (cs : List Char) : Bool :=
  if cs.head? = some '[' then isBracketed cs
  else
    match Hostname.domain? (Utf8.decodeLossyChars (percentDecode (Utf8.encodeChars cs))) with
    | none => false
    | some domain => domain ≠ [] && (!endsInNumber domain || isIpv4 domain)

/-- Whether a host is one for a scheme without rules for hosts. -/
def isOpaqueHost (cs : List Char) : Bool :=
  if cs.head? = some '[' then isBracketed cs else !cs.any Hostname.isForbidden

/-- Whether the text is a port with what may follow it. -/
def isPort (value : Nat) : List Char → Bool
  | [] => true
  | c :: rest =>
    if isDigit c then
      let value := value * 10 + (c.toNat - 48)
      value ≤ 0xFFFF && isPort value rest
    else c = '/' || c = '\\' || c = '?' || c = '#'

/-! ## §4. What follows the scheme -/

/-- Whether a character ends the part with the host. -/
def endsAuthority (special : Bool) (c : Char) : Bool :=
  c = '/' || c = '?' || c = '#' || (special && c = '\\')

/-- The characters behind the last `@`, if there is one. -/
def behindLastAt (cs : List Char) : Option (List Char) :=
  if cs.any (· = '@') then some (cs.reverse.takeWhile (· ≠ '@')).reverse else none

/-- The host and what follows it. Colons inside brackets belong to the host. -/
def takeHost (inBrackets : Bool) : List Char → List Char × List Char
  | [] => ([], [])
  | c :: rest =>
    if c = ':' && !inBrackets then ([], c :: rest)
    else
      let (host, behind) := takeHost (c = '[' || (inBrackets && c ≠ ']')) rest
      (c :: host, behind)

/-- Whether the text behind the slashes names a host, or none where none is needed. A user
    needs a host; a lone colon before the `@` is no user. -/
def isAuthority (special : Bool) (cs : List Char) : Bool :=
  let authority := cs.takeWhile fun c => !endsAuthority special c
  let behind := cs.dropWhile fun c => !endsAuthority special c
  let place := (behindLastAt authority).getD authority
  let user := (authority.take (authority.length - place.length)).dropLast
  let onlyAt := authority = ['@'] && behind ≠ []
  let (host, port) := takeHost false place
  let portFine := match port with
    | ':' :: digits => isPort 0 digits
    | _ => true
  if onlyAt then false
  else if host = [] then !special && port = [] && (user = [] || user = [':'])
  else (if special then isHost host else isOpaqueHost host) && portFine

/-- Whether the text behind `file:` names a host, or none. -/
def isFilePart : List Char → Bool
  | a :: b :: rest =>
    if (a = '/' || a = '\\') && (b = '/' || b = '\\') then
      let host := rest.takeWhile fun c => !endsAuthority true c
      let drive := match host with
        | [letter, mark] => isLetter letter && (mark = ':' || mark = '|')
        | _ => false
      host = [] || drive || isHost host
    else true
  | _ => true

/-- The scheme in lower case, and what follows its colon. -/
def scheme? : List Char → Option (List Char × List Char)
  | [] => none
  | c :: rest =>
    let isMember (c : Char) : Bool := isLetter c || isDigit c || c = '+' || c = '-' || c = '.'
    if isLetter c then
      match rest.dropWhile isMember with
      | ':' :: behind => some ((c :: rest.takeWhile isMember).map lower, behind)
      | _ => none
    else none

/-- Whether a text is an absolute URL. -/
def isAbsolute (s : String) : Bool :=
  match scheme? (meaningful s) with
  | none => false
  | some (scheme, behind) =>
    let scheme := String.ofList scheme
    if scheme = "file" then isFilePart behind
    else if scheme ∈ ["http", "https", "ws", "wss", "ftp"] then
      isAuthority true (behind.dropWhile fun c => c = '/' || c = '\\')
    else
      match behind with
      | '/' :: '/' :: rest => isAuthority false rest
      | _ => true

end StakeRelay.Url
