import Imds.Address
import Imds.Backoff
import Imds.Gate
import Imds.Text.Lines

/-!
# Clients and Their Fetches

A client has settings and a channel to the service. Clients made from the same
settings share the cache and the switch; clones share the channel as well.

A fetch is a bounded sequence of attempts. Each attempt asks for a session token
of its own and then reads the path. A token is a courtesy of the service: when
it cannot be had, the read goes out without one, unless the service refused it
with status 400, which means that the request itself was wrong. The read decides
what happens next. A body settles the fetch, and so does status 404, which says
that there is no such value; everything else is tried again while the budget
lasts. A closed channel ends the fetch in either place.

Single values are kept in the cache. A forced fetch passes the cache by and
overwrites what it holds, but a value that is absent never removes one. Listings
and documents do not touch the cache.

The switch is looked at first, before the cache and before the base address is
found. A fetch of a single value that misses looks at it a second time, since
the read that follows is an operation of its own.

## Main definitions

* `Settings`: Everything a client needs besides its channel.
* `Client`: Settings and a channel.
* `Client.acquireToken`: Asks for a session token.
* `Client.attempt`: One attempt to read a path.
* `Client.fetchBody`: The body of a path, with retries.
* `Client.fetchItems`: The body as a whole or as lines.
* `Client.fetchValueWith`, `Client.fetchValue`: A single value, cached.
* `Client.fetchLines`, `Client.fetchDocument`: Uncached readings of a path.

## Theorems

* `ofTokenOutcome_eq_none_iff`: Which faults leave an attempt without a token.
-/

namespace Imds

/-- Everything a client needs besides its channel. -/
structure Settings where
  /-- Where the service is. -/
  address : Address
  /-- The switch that turns metadata off. -/
  gate : Gate
  /-- How often to try, and how long to pause. -/
  backoff : Backoff
  /-- For how many seconds a session token is asked. -/
  lifetime : Nat
  /-- The cache, by number. -/
  cache : Nat

namespace Settings

/-- For how many seconds a token is asked when nothing else is said. -/
def standardLifetime : Nat := 21600

/-- The settings when nothing else is said: the environment decides, and the
    cache is the one of the process, which has the number zero. -/
def standard : Settings where
  address := .environment
  gate := .environment
  backoff := .standard
  lifetime := standardLifetime
  cache := 0

end Settings

/-- Settings and a channel. -/
structure Client where
  /-- The settings. -/
  settings : Settings
  /-- The channel, by number. -/
  channel : Nat

namespace Client

/-- What the answer to a request for a token means: a token, no token, or the
    end of the operation. -/
def ofTokenOutcome : Except Fault String → Except Failure (Option String)
  | .ok token => .ok (some token)
  | .error fault =>
    if fault = .status 400 then .error (.tokenRejected fault)
    else if fault.isFatal then .error (.exchange fault)
    else .ok none

/-- What the answer to a read means. -/
def ofReadOutcome : Except Fault String → Verdict (Option String)
  | .ok body => .settled (some body)
  | .error fault =>
    if fault.isNotFound then .settled none
    else if fault.isFatal then .fatal (.exchange fault)
    else .again fault

/-- Asks for a session token through a channel. -/
def acquireToken (channel : Nat) (base : String) (lifetime : Nat) : Act (Option String) := do
  let outcome ← Plan.send channel (.forToken base lifetime)
  Act.ofExcept (ofTokenOutcome outcome)

/-- One attempt to read a path: a token of its own, then the read. -/
def attempt (c : Client) (base path : String) : Plan (Verdict (Option String)) := do
  match ← (acquireToken c.channel base c.settings.lifetime).outcome with
  | .error failure => pure (.fatal failure)
  | .ok token =>
    let outcome ← Plan.send c.channel (.forPath base path token)
    pure (ofReadOutcome outcome)

/-- The body of a path, or nothing when the service has no such value. The base
    address is found once and serves every attempt. -/
def fetchBody (c : Client) (path : String) (attempts : Nat) : Act (Option String) := do
  c.settings.gate.pass
  let base ← c.settings.address.resolve
  let backoff := { c.settings.backoff with attempts := attempts }
  ExceptT.mk (backoff.retry Plan.pause (c.attempt base path))

/-- A body as items: as one, or line by line. -/
def items (whole : Bool) (body : String) : List String :=
  if whole then [body] else Text.splitLines body

/-- The body of a path as items. -/
def fetchItems (c : Client) (path : String) (attempts : Nat) (whole : Bool) :
    Act (Option (List String)) := do
  let body ← c.fetchBody path attempts
  pure (body.map (items whole))

/-- The number of attempts when an operation does not say. -/
def attempts (c : Client) : Nat := c.settings.backoff.attempts

/-- A single value. The cache answers unless the fetch is forced; a value that
    was fetched is kept. -/
def fetchValueWith (c : Client) (path : String) (force : Bool) (attempts : Nat) :
    Act (Option String) := do
  c.settings.gate.pass
  let known ← if force then pure none else Plan.lookup c.settings.cache path
  match known with
  | some value => pure (some value)
  | none =>
    let items ← c.fetchItems path attempts true
    match items.bind List.head? with
    | some value =>
      Plan.store c.settings.cache path value
      pure (some value)
    | none => pure none

/-- A single value, with the usual number of attempts. -/
def fetchValue (c : Client) (path : String) : Act (Option String) :=
  c.fetchValueWith path false c.attempts

/-- The lines of a path, with a number of attempts. -/
def fetchLinesWith (c : Client) (path : String) (attempts : Nat) : Act (Option (List String)) :=
  c.fetchItems path attempts false

/-- The lines of a path. -/
def fetchLines (c : Client) (path : String) : Act (Option (List String)) :=
  c.fetchLinesWith path c.attempts

/-- A whole document, uncached. -/
def fetchDocument (c : Client) (path : String) : Act (Option String) := do
  let items ← c.fetchItems path c.attempts true
  pure (items.bind List.head?)

/-- Closes the channel of a client and of its clones. -/
def close (c : Client) : Plan Unit := Plan.shut c.channel

/-- Forgets every cached value. -/
def clearCache (c : Client) : Plan Unit := Plan.clear c.settings.cache

theorem ofTokenOutcome_eq_none_iff {outcome : Except Fault String} :
    ofTokenOutcome outcome = .ok none ↔
      ∃ fault, outcome = .error fault ∧ fault ≠ .status 400 ∧ fault.isFatal = false := by
  cases outcome with
  | ok token => simp [ofTokenOutcome]
  | error fault =>
    simp only [ofTokenOutcome, Except.error.injEq, exists_eq_left']
    by_cases h : fault = .status 400
    · simp [h]
    · cases hf : fault.isFatal <;> simp [h]

end Client

end Imds
