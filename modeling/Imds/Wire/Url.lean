import Imds.Wire.Host

/-!
# Which URLs Name a Service

A request can only go to a URL with the scheme `http` or `https` and a host. The
rules are those by which browsers read URLs, which forgive a good deal: blanks
and control characters around the text, line breaks and tabs within it, either
kind of slash, and any number of slashes before the host. What they do not
forgive is a missing or malformed host, or a service number behind it that is no
number of sixteen bits. What follows is never at fault.

A URL is sent in one form, whatever it was typed in: the host as hosts are sent, the
number of the service only where it is not that of the scheme, the path without the
steps that lead nowhere or back, and everything escaped that needs it. The name of a
user and a password travel in a header instead, provided they are texts. There is a
limit to the length of that form.

## Main definitions

* `Url`: What a URL says.
* `Url.cleaned`: The text of a URL without what is forgiven.
* `Url.ofText?`: What a text says as a URL.
* `Url.sent`: A URL as it is sent.
* `Url.names`: Whether a URL names a service.
-/

namespace Imds

namespace Wire

/-- What a URL says. -/
structure Url where
  /-- The scheme. -/
  scheme : List Char
  /-- What is sent of a user in front of the host. -/
  user : List Char
  /-- The host. -/
  host : Host
  /-- The number of the service, where it is not that of the scheme. -/
  service : Option Nat
  /-- The steps of the path. -/
  path : List (List Char)
  /-- What is asked of the path. -/
  query : Option (List Char)
  /-- The part of the answer that is meant. -/
  fragment : Option (List Char)
  deriving DecidableEq

namespace Url

/-! ## Scheme and host -/

/-- Whether a character is dropped at the ends of a URL. -/
def isEdge (c : Char) : Bool := c.val ≤ 0x20

/-- Whether a character is dropped anywhere in a URL. -/
def isBreak (c : Char) : Bool := c == '\t' || c == '\n' || c == '\r'

/-- The text of a URL without what is forgiven. -/
def cleaned (cs : List Char) : List Char :=
  (((cs.dropWhile isEdge).reverse.dropWhile isEdge).reverse).filter (fun c => !isBreak c)

/-- Whether a character may stand in a scheme after its first letter. -/
def isSchemeChar (c : Char) : Bool := c.isAlphanum || c == '+' || c == '-' || c == '.'

/-- The scheme, in small letters, and the text after its colon. -/
def splitScheme (cs : List Char) : Option (List Char × List Char) :=
  match cs with
  | [] => none
  | c :: _ =>
    if c.isAlpha then
      match cs.dropWhile isSchemeChar with
      | ':' :: rest => some ((cs.takeWhile isSchemeChar).map Char.toLower, rest)
      | _ => none
    else none

/-- The number of the service that a scheme is for, if requests can be sent by it. -/
def usualService (scheme : List Char) : Option Nat :=
  if scheme = "http".toList then some 80 else if scheme = "https".toList then some 443 else none

/-- Whether a character is a slash of either kind. -/
def isAnySlash (c : Char) : Bool := c == '/' || c == '\\'

/-- Whether a character ends the part with the host. -/
def endsAuthority (c : Char) : Bool := isAnySlash c || c == '?' || c == '#'

/-- The part of a URL that holds the host, which stands between the slashes and the
    path, and the text after it. -/
def splitAuthority (rest : List Char) : List Char × List Char :=
  (rest.dropWhile isAnySlash).span (fun c => !endsAuthority c)

/-- The text before the last of the marks that end the name of a user, and the text
    after it. -/
def splitUser (cs : List Char) : List Char × List Char :=
  let host := (cs.reverse.takeWhile (fun c => c != '@')).reverse
  (cs.take (cs.length - host.length - 1), host)

/-- The host and what follows it. A colon in brackets belongs to the host. -/
def splitHost : Bool → List Char → List Char × List Char
  | _, [] => ([], [])
  | inside, c :: cs =>
    if c = ':' ∧ inside = false then ([], c :: cs)
    else
      let inside := if c = '[' then true else if c = ']' then false else inside
      let (host, rest) := splitHost inside cs
      (c :: host, rest)

/-- The number of a service, which may be missing behind the colon, or with it. The
    number has decimal digits and sixteen bits. -/
def service? (usual : Nat) : List Char → Option Nat
  | [] => some usual
  | ':' :: ds =>
    if ds.isEmpty then some usual else (Text.number? 10 ds).filter (· < 65536)
  | _ => none

/-! ## What is escaped -/

/-- What is escaped in a fragment, besides controls and what is not in ASCII. -/
def fragmentMarks : List Char := " \"<>\x60".toList

/-- What is escaped in a query. -/
def queryMarks : List Char := " \"#<>'".toList

/-- What is escaped in a path. -/
def pathMarks : List Char := "#?\x7b\x7d".toList ++ fragmentMarks

/-- What is escaped in the name of a user. -/
def userMarks : List Char := "/:;=@[\\]^|".toList ++ pathMarks

/-- What is sent of a user in front of the host. A name that is a text travels in a
    header, with the password or without it, and so does a password alone. -/
def keptUser (user : List Char) : List Char :=
  let name := user.takeWhile (· != ':')
  let password := user.drop (name.length + 1)
  let travels := (Escape.text? name).isSome &&
    (!name.isEmpty || (!password.isEmpty && (Escape.text? password).isSome))
  if travels || (name.isEmpty && password.isEmpty) then []
  else Escape.encoded userMarks name ++
    (if password.isEmpty then [] else ':' :: Escape.encoded userMarks password) ++ ['@']

/-! ## Path -/

/-- A step with the escapes of dots resolved. -/
def plainDots : List Char → List Char
  | '%' :: '2' :: e :: cs =>
    if e = 'e' ∨ e = 'E' then '.' :: plainDots cs else '%' :: '2' :: plainDots (e :: cs)
  | c :: cs => c :: plainDots cs
  | [] => []
termination_by cs => cs.length

/-- The steps of a path, newest first, when some steps follow others. A dot leads
    nowhere and two dots lead back; at the end they lead to the step itself. -/
def walk : List (List Char) → List (List Char) → List (List Char)
  | walked, [] => walked
  | walked, step :: steps =>
    let isLast := steps.isEmpty
    if plainDots step = "..".toList then
      walk (if isLast then [] :: walked.tail else walked.tail) steps
    else if plainDots step = ".".toList then walk (if isLast then [] :: walked else walked) steps
    else walk (Escape.encoded pathMarks step :: walked) steps

/-- The steps of a path. -/
def stepsOf (cs : List Char) : List (List Char) :=
  let cs := cs.map (fun c => if isAnySlash c then '/' else c)
  (walk [] (Text.pieces '/' (if cs.head? = some '/' then cs.tail else cs))).reverse

/-! ## URLs -/

/-- The text behind a mark, if there is one. -/
def behind : List Char → Option (List Char)
  | [] => none
  | _ :: cs => some cs

/-- What a text says as a URL. -/
def ofText? (url : String) : Option Url := do
  let (scheme, rest) ← splitScheme (cleaned url.toList)
  let usual ← usualService scheme
  let (authority, rest) := splitAuthority rest
  let (user, place) := splitUser authority
  let (host, number) := splitHost false place
  let host ← Host.ofChars? host
  let service ← service? usual number
  let (main, fragment) := rest.span (· != '#')
  let (path, query) := main.span (· != '?')
  some ⟨scheme, keptUser user, host, if service = usual then none else some service,
    stepsOf path, (behind query).map (Escape.encoded queryMarks),
    (behind fragment).map (Escape.encoded fragmentMarks)⟩

/-- A URL as it is sent. -/
def sent (u : Url) : List Char :=
  u.scheme ++ "://".toList ++ u.user ++ u.host.sent ++
    (match u.service with
      | some number => ':' :: Text.decimalDigits number
      | none => []) ++
    '/' :: Text.joined '/' u.path ++
    (match u.query with
      | some query => '?' :: query
      | none => []) ++
    (match u.fragment with
      | some fragment => '#' :: fragment
      | none => [])

/-- How long a URL may be as it is sent. -/
def longest : Nat := 65534

/-- Whether a URL names a service that can be asked. -/
def names (url : String) : Bool :=
  match ofText? url with
  | some u => u.sent.length ≤ longest
  | none => false

end Url

end Wire

end Imds
