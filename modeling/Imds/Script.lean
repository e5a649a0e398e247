import Imds.Site
import Imds.Table

/-!
# Scripted Services

A script is a service that was written down beforehand. It has a list of entries
for session tokens and a list for every route; each request takes the next entry
of its list, and the last entry of a list is given again and again. A request
without a list gets the entry for everything else.

A script has no counter of its own. How far a list has been used is read off
the history of requests, which makes a script a function of that history like
any other service.

## Main definitions

* `entryAt`: The entry at a position of a list whose last entry repeats.
* `routeOf`: The route that a URL asks for.
* `Script`: Entries for tokens, for routes, and for everything else.
* `Script.answer`: The entry for the newest request of a history.

## Theorems

* `entryAt_of_length_le`: The last entry repeats.
-/

namespace Imds

/-- The entry at a position of a list whose last entry repeats. -/
def entryAt {α : Type} : List α → Nat → Option α
  | [], _ => none
  | [a], _ => some a
  | a :: _, 0 => some a
  | _ :: b :: rest, n + 1 => entryAt (b :: rest) n

theorem entryAt_of_lt {α : Type} (as : List α) (n : Nat) (h : n < as.length) :
    entryAt as n = as[n]? := by
  fun_induction entryAt as n with
  | case1 => simp at h
  | case2 a n =>
    have hn : n = 0 := by simpa using h
    subst hn
    rfl
  | case3 => rfl
  | case4 _ b rest n ih => exact ih (by simpa using h)

theorem entryAt_of_length_le {α : Type} (as : List α) (n : Nat) (h : as.length ≤ n + 1) :
    entryAt as n = as.getLast? := by
  fun_induction entryAt as n with
  | case1 => rfl
  | case2 => rfl
  | case3 a as hne =>
    cases as with
    | nil => rfl
    | cons b bs => simp at h
  | case4 a b rest n ih => simpa using ih (by simpa using h)

/-- The text from the first slash on, if there is one. -/
def fromSlash : List Char → Option (List Char)
  | [] => none
  | '/' :: cs => some ('/' :: cs)
  | _ :: cs => fromSlash cs

/-- The text after the first `://`, if there is one. -/
def afterScheme : List Char → Option (List Char)
  | [] => none
  | ':' :: '/' :: '/' :: cs => some cs
  | _ :: cs => afterScheme cs

/-- The route that a URL asks for: its path, or all of it when it has none. -/
def routeOf (url : String) : String :=
  match (afterScheme url.toList).bind fromSlash with
  | some path => String.ofList path
  | none => url

/-- Entries for tokens, for routes, and for everything else. -/
structure Script (α : Type) where
  /-- The entries for session tokens. -/
  tokens : List α
  /-- The entries of each route. -/
  routes : Table String (List α)
  /-- The entry when there is no list, or an empty one. -/
  otherwise : α

namespace Script

variable {α : Type}

/-- Whether two requests draw from one list. -/
def sameList (r r' : Request) : Bool :=
  if r.method = .put then r'.method = .put
  else r'.method ≠ .put && routeOf r.url == routeOf r'.url

/-- The list that a request draws from. -/
def listFor (script : Script α) (r : Request) : List α :=
  if r.method = .put then script.tokens else (script.routes.get? (routeOf r.url)).getD []

/-- The entry for a request that others came before. -/
def entryFor (script : Script α) (before : List Request) (r : Request) : α :=
  (entryAt (script.listFor r) (before.countP (sameList r))).getD script.otherwise

/-- The entry for the newest request of a history. -/
def answer (script : Script α) : List Sent → α
  | [] => script.otherwise
  | newest :: earlier => script.entryFor (earlier.map Sent.request) newest.request

end Script

end Imds
