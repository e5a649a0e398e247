import Imds.Text.Folded

/-!
# Requests

A request is a method, a URL and headers in the order in which they were added.
A client makes two kinds of requests. One asks for a session token and states
how long it shall live; the other reads a path, and carries the token when there
is one.

Header names are compared without regard to ASCII case when a request is asked
for a header, and the first of several counts. They are sent as written.

## Main definitions

* `Method`: What a request asks to be done.
* `Request`: One outbound request.
* `Request.header?`: The value of the first header of a name.
* `Request.forToken`: Asks for a session token.
* `Request.forPath`: Reads a path, with the token of the session if any.

## Theorems

* `header?_withHeader`: Where a header lookup finds an added header.
* `method_forPath`, `url_forPath`: What is read, whatever token there is.
* `token_forPath`: The read carries exactly the token it was given.
* `token_forToken`: The request for a token carries none.
-/

namespace Imds

/-- What a request asks to be done, by its name on the wire. Names differ by
    case. -/
structure Method where
  /-- The name. -/
  name : String
  deriving DecidableEq

namespace Method

/-- Reading. -/
def get : Method := ⟨"GET"⟩

/-- Asking for something to be made, such as a token. -/
def put : Method := ⟨"PUT"⟩

theorem get_ne_put : get ≠ put := by decide

end Method

/-- One outbound request. -/
structure Request where
  /-- What is to be done. -/
  method : Method
  /-- Where. -/
  url : String
  /-- Names and values, in the order in which they were added. -/
  headers : List (String × String)
  deriving DecidableEq

namespace Request

/-- A request without headers. -/
def plain (method : Method) (url : String) : Request := ⟨method, url, []⟩

/-- Adds a header after those that are there. -/
def withHeader (r : Request) (name value : String) : Request :=
  { r with headers := r.headers ++ [(name, value)] }

/-- The value of the first header of a name. -/
def header? (r : Request) (name : String) : Option String :=
  (r.headers.find? (fun h => Text.sameFolded h.1 name)).map Prod.snd

/-- Where session tokens are issued. -/
def tokenPath : String := "/latest/api/token"

/-- The header that states how many seconds a token shall live. -/
def lifetimeHeader : String := "x-aws-ec2-metadata-token-ttl-seconds"

/-- The header that carries a token. -/
def tokenHeader : String := "x-aws-ec2-metadata-token"

/-- What the library calls itself. -/
def userAgent : String := "instance-metadata/0.1.0"

/-- Asks for a session token that lives for a number of seconds. -/
def forToken (base : String) (lifetime : Nat) : Request :=
  (plain .put (base ++ tokenPath)).withHeader lifetimeHeader (toString lifetime)

/-- The read of a path, before a token is added. -/
def bare (base path : String) : Request :=
  (((plain .get (base ++ path)).withHeader "User-Agent" userAgent).withHeader
    "Accept" "*/*").withHeader "Connection" "keep-alive"

/-- Reads a path, with the token of the session if there is one. -/
def forPath (base path : String) (token : Option String) : Request :=
  match token with
  | some t => (bare base path).withHeader tokenHeader t
  | none => bare base path

theorem header?_withHeader (r : Request) (name value wanted : String) :
    (r.withHeader name value).header? wanted =
      (r.header? wanted).or (if Text.sameFolded name wanted then some value else none) := by
  simp only [header?, withHeader, List.find?_append]
  cases List.find? (fun h => Text.sameFolded h.1 wanted) r.headers with
  | some h => simp
  | none => by_cases hn : Text.sameFolded name wanted = true <;> simp [List.find?, hn]

theorem header?_plain (method : Method) (url name : String) :
    (plain method url).header? name = none := rfl

theorem header?_bare (base path : String) : (bare base path).header? tokenHeader = none := by
  have hagent : Text.sameFolded "User-Agent" tokenHeader = false := by decide +kernel
  have haccept : Text.sameFolded "Accept" tokenHeader = false := by decide +kernel
  have hconnection : Text.sameFolded "Connection" tokenHeader = false := by decide +kernel
  simp [bare, header?_withHeader, header?_plain, hagent, haccept, hconnection]

theorem method_forPath (base path : String) (token : Option String) :
    (forPath base path token).method = .get := by
  cases token <;> rfl

theorem url_forPath (base path : String) (token : Option String) :
    (forPath base path token).url = base ++ path := by
  cases token <;> rfl

theorem token_forPath (base path : String) (token : Option String) :
    (forPath base path token).header? tokenHeader = token := by
  cases token with
  | none => exact header?_bare base path
  | some t =>
    rw [forPath, header?_withHeader, header?_bare, Text.sameFolded_refl]
    rfl

theorem token_forToken (base : String) (lifetime : Nat) :
    (forToken base lifetime).header? tokenHeader = none := by
  have h : Text.sameFolded lifetimeHeader tokenHeader = false := by decide +kernel
  rw [forToken, header?_withHeader, header?_plain, h]
  rfl

end Request

end Imds
