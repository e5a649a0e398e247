import Imds.Site

/-!
# Several Parties at One Site

Clients are used by several parties at once. Each party carries out a plan of its
own, one query at a time, and between two of its queries any number of queries of
others may come. What a party does between its queries nobody can see, so that
the answer to a request is under way, for all that matters, from the query that
sent it to the party's next query.

There is one lock. The listing of an interface is fetched by one party at a time,
and a party that enters while another one has that right waits. A party can
vanish at any time, as a task does that nobody waits for any longer, or a thread
that breaks down; its plan stays where it is, and the right it had to a listing
goes back, since whoever comes next takes the lock as it was left.

The surroundings can change as well: the flag and the variables of the
environment belong to nobody at the site.

## Main definitions

* `Query.isBlocked`: Whether a query has to wait.
* `Party`: A plan under way, and the right its owner has.
* `Party.act`: A party's next query.
* `Crowd`: A site and the parties at it.
* `Turn`, `Crowd.take`, `Crowd.after`: One thing that happens, and a history.

## Theorems

* `run_act`: A query of a party that is alone does not change what its plan comes
  to.
* `after_append`: Histories come one after the other.
-/

namespace Imds

namespace Query

/-- Whether a query has to wait: somebody else is fetching the listing. -/
def isBlocked (s : Site) : Query → Bool
  | enter record => (s.records record).keys.isNone && (s.records record).busy
  | _ => false

/-- The right to fetch a listing, after a query and its answer. -/
def rightAfter (right : Option Nat) : (q : Query) → q.Answer → Option Nat
  | enter record, keys => if (keys : Option (List String)).isSome then right else some record
  | leave _ _, _ => none
  | _, _ => right

end Query

/-- A plan under way. -/
structure Party (α : Type) where
  /-- What is left to do. -/
  plan : Plan α
  /-- The record whose listing the party has the right to fetch. -/
  right : Option Nat

namespace Party

variable {α : Type}

/-- A party that has just arrived. -/
def ofPlan (plan : Plan α) : Party α := ⟨plan, none⟩

/-- Whether a party has come to its value. -/
def value? (p : Party α) : Option α :=
  match p.plan with
  | .done value => some value
  | .ask _ _ => none

/-- The next query of a party. A party that is done, or has to wait, does
    nothing. -/
def act (p : Party α) (s : Site) : Party α × Site :=
  match p.plan with
  | .done _ => (p, s)
  | .ask query next =>
    if query.isBlocked s then (p, s)
    else (⟨next (query.answer s).1, query.rightAfter p.right (query.answer s).1⟩,
      (query.answer s).2)

/-- What a party leaves behind that vanishes. -/
def leaveBehind (p : Party α) (s : Site) : Site :=
  match p.right with
  | some record => s.setRecord record { s.records record with busy := false }
  | none => s

theorem run_act (p : Party α) (s : Site) : (p.act s).1.plan.run (p.act s).2 = p.plan.run s := by
  obtain ⟨plan, right⟩ := p
  cases plan with
  | done value => rfl
  | ask query next =>
    simp only [act]
    split
    · rfl
    · exact (Plan.run_ask query next s).symm

end Party

/-- A site and the parties at it, by number. -/
structure Crowd (α : Type) where
  /-- The site. -/
  site : Site
  /-- The parties. A party that has vanished, or has not come yet, is not
      there. -/
  parties : Nat → Option (Party α)

/-- One thing that happens. -/
inductive Turn (α : Type) where
  /-- A party comes with a plan. -/
  | arrive (party : Nat) (plan : Plan α)
  /-- A party puts its next query. -/
  | act (party : Nat)
  /-- A party vanishes. -/
  | vanish (party : Nat)
  /-- Somebody throws the flag. -/
  | setFlag (flag : Bool)
  /-- Somebody sets a variable of the environment, or removes it. -/
  | setVariable (name : String) (value : Option Variable)

namespace Crowd

variable {α : Type}

/-- A site where nobody is. -/
def ofSite (site : Site) : Crowd α := ⟨site, fun _ => none⟩

/-- What happens in a turn. A party that is there already does not come again,
    and one that is not there does nothing. -/
def take (c : Crowd α) : Turn α → Crowd α
  | .arrive party plan =>
    match c.parties party with
    | some _ => c
    | none => { c with parties := updateAt c.parties party (some (.ofPlan plan)) }
  | .act party =>
    match c.parties party with
    | some p => ⟨(p.act c.site).2, updateAt c.parties party (some (p.act c.site).1)⟩
    | none => c
  | .vanish party =>
    match c.parties party with
    | some p => ⟨p.leaveBehind c.site, updateAt c.parties party none⟩
    | none => c
  | .setFlag flag => { c with site := c.site.setFlag flag }
  | .setVariable name value => { c with site := c.site.setVariable name value }

/-- What happens in a history. -/
def after (c : Crowd α) (turns : List (Turn α)) : Crowd α := turns.foldl take c

theorem after_append (c : Crowd α) (first second : List (Turn α)) :
    c.after (first ++ second) = (c.after first).after second :=
  List.foldl_append

end Crowd

end Imds
