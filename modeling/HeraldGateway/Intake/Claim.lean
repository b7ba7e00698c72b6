import HeraldGateway.Async.Protocol

/-!
# The idempotency protocol, abstractly

What accepting a request under an idempotency key is for, without the stores that implement it. A
request takes its key with a short-lived *hold*, or finds it held; it stores a *slot* that keeps the
key for good, or is rejected because some slot has it; then it puts its notification on the queue, or
gives up. A give-up may leave an add behind that still completes.

Requests, identifiers, keys and owners are arbitrary types. The rules of a run (who may arrive, whether
abandoned adds complete, whether a request that finds its key taken finds it taken by an enqueued
notification) are a parameter, so one model serves statements under different assumptions.
-/

namespace Intake

open Async

variable {Id Key Owner ρ : Type}

/-- A stored notification. -/
structure Slot (Id Key Owner : Type) where
  /-- The notification. -/
  id : Id
  /-- The key it was stored under, if any. -/
  key : Option Key
  /-- Whose it is. -/
  owner : Owner

/-- What requests share. -/
structure Ledger (Id Key Owner : Type) where
  /-- Which notification holds a key at present. -/
  held : Key → Option Id
  /-- The stored notifications. -/
  slots : List (Slot Id Key Owner)
  /-- The notifications put on the queue, one entry for each add that completed. -/
  queued : List Id
  /-- The notifications of adds given up on that may still complete. -/
  pending : List Id

section ledger

variable [DecidableEq Key]

/-- Give the key `k` to `id`, or to nobody. -/
def Ledger.setHeld (l : Ledger Id Key Owner) (k : Key) (id : Option Id) : Ledger Id Key Owner :=
  { l with held := fun k' => if k' = k then id else l.held k' }

/-- Store a notification. -/
def Ledger.store (l : Ledger Id Key Owner) (s : Slot Id Key Owner) : Ledger Id Key Owner :=
  { l with slots := l.slots ++ [s] }

/-- Put a notification on the queue. -/
def Ledger.enqueue (l : Ledger Id Key Owner) (id : Id) : Ledger Id Key Owner :=
  { l with queued := l.queued ++ [id] }

/-- Leave an add behind. -/
def Ledger.abandon (l : Ledger Id Key Owner) (id : Id) : Ledger Id Key Owner :=
  { l with pending := l.pending ++ [id] }

end ledger

/-- No slot has the key `k`. -/
def Ledger.Vacant (l : Ledger Id Key Owner) (k : Key) : Prop :=
  ∀ s ∈ l.slots, s.key ≠ some k

/-- A notification of the key `k` is on the queue. -/
def Ledger.Enqueued (l : Ledger Id Key Owner) (k : Key) : Prop :=
  ∃ s ∈ l.slots, s.key = some k ∧ s.id ∈ l.queued

/-- How far a request has come. -/
inductive Phase (Id : Type) where
  /-- It has claimed nothing. -/
  | arrived
  /-- It holds its key. -/
  | claimed
  /-- It found its key held. -/
  | refused
  /-- It answered that its key is taken by `id`. -/
  | answered (id : Id)
  /-- Its notification is stored. -/
  | stored
  /-- Its notification is on the queue. -/
  | enqueued
  /-- It gave up on the queue. -/
  | failing
  /-- A stored notification has its key. -/
  | rejected
  /-- A call it made before storing failed. -/
  | lost

/-- A phase before the notification is stored. -/
inductive Phase.Early : Phase Id → Prop where
  /-- Nothing was claimed. -/
  | arrived : Early .arrived
  /-- The key was claimed. -/
  | claimed : Early .claimed

/-- What a request says of itself, and what numbers its notifications. -/
structure Reading (Id Key Owner ρ : Type) where
  /-- The notification of the request of a given number. -/
  ident : Nat → Id
  /-- Different requests have different notifications. -/
  ident_inj : ∀ {i j}, ident i = ident j → i = j
  /-- The key of a request, if it has one. -/
  key : ρ → Option Key
  /-- Whose request it is. -/
  owner : ρ → Owner
  /-- Whether a request takes its key before it stores. -/
  guards : ρ → Prop

/-- The rules of a run. -/
structure Rules (Id Key Owner ρ : Type) extends Reading Id Key Owner ρ where
  /-- Which requests may arrive. -/
  arrives : Config ρ (Phase Id) (Ledger Id Key Owner) → ρ → Prop
  /-- Which owners may use a key. -/
  owns : Key → Owner → Prop
  /-- Only they do. -/
  owns_of_arrives : ∀ {c r k}, arrives c r → key r = some k → owns k (owner r)
  /-- Abandoned adds may complete. -/
  late : Prop
  /-- A request that finds its key taken finds it taken by an enqueued notification. -/
  settled : Prop

section moves

variable [DecidableEq Key]

/-- The moves of the `i`-th request. -/
inductive Moves (R : Rules Id Key Owner ρ) (i : Nat) (r : ρ) :
    Phase Id → Ledger Id Key Owner → Phase Id → Ledger Id Key Owner → Prop where
  /-- Do something of no concern here. -/
  | stay (x : Phase Id) (l : Ledger Id Key Owner) : Moves R i r x l x l
  /-- Take the key. -/
  | claim {k : Key} {l : Ledger Id Key Owner} (hg : R.guards r) (hk : R.key r = some k)
      (hl : l.held k = none) : Moves R i r .arrived l .claimed (l.setHeld k (some (R.ident i)))
  /-- Take the key and not hear of it. -/
  | claimUnheard {k : Key} {l : Ledger Id Key Owner} (hg : R.guards r) (hk : R.key r = some k)
      (hl : l.held k = none) : Moves R i r .arrived l .lost (l.setHeld k (some (R.ident i)))
  /-- Find the key held. -/
  | refuse {k : Key} {j : Id} {l : Ledger Id Key Owner} (hg : R.guards r) (hk : R.key r = some k)
      (hl : l.held k = some j) : Moves R i r .arrived l .refused l
  /-- Read who holds the key. -/
  | readHolder {k : Key} {j : Id} {l : Ledger Id Key Owner} (hk : R.key r = some k)
      (hl : l.held k = some j) (hs : R.settled → j ∈ l.queued) :
      Moves R i r .refused l (.answered j) l
  /-- Read that nobody does any more. -/
  | readNobody {l : Ledger Id Key Owner} (hs : ¬ R.settled) :
      Moves R i r .refused l (.answered (R.ident i)) l
  /-- Find a stored notification of the key. -/
  | find {k : Key} {s : Slot Id Key Owner} {l : Ledger Id Key Owner} (hk : R.key r = some k)
      (hm : s ∈ l.slots) (hl : s.key = some k) (hs : R.settled → s.id ∈ l.queued) :
      Moves R i r .arrived l (.answered s.id) l
  /-- Store the notification. -/
  | store {x : Phase Id} {l : Ledger Id Key Owner} (hx : x.Early)
      (hv : ∀ k, R.key r = some k → l.Vacant k) :
      Moves R i r x l .stored (l.store ⟨R.ident i, R.key r, R.owner r⟩)
  /-- Store it and not hear of it. -/
  | storeUnheard {x : Phase Id} {l : Ledger Id Key Owner} (hx : x.Early)
      (hv : ∀ k, R.key r = some k → l.Vacant k) :
      Moves R i r x l .lost (l.store ⟨R.ident i, R.key r, R.owner r⟩)
  /-- Be told that a stored notification has the identifier or the key. -/
  | reject {x : Phase Id} {l : Ledger Id Key Owner} {s : Slot Id Key Owner} (hx : x.Early)
      (hm : s ∈ l.slots) (hs : s.id = R.ident i ∨ s.key = R.key r ∧ s.key ≠ none) :
      Moves R i r x l .rejected l
  /-- Put the notification on the queue. -/
  | enqueue {l : Ledger Id Key Owner} : Moves R i r .stored l .enqueued (l.enqueue (R.ident i))
  /-- Give up on an add that may still complete. -/
  | abandon {l : Ledger Id Key Owner} : Moves R i r .stored l .failing (l.abandon (R.ident i))
  /-- Be told that the add failed. -/
  | enqueueFails {l : Ledger Id Key Owner} : Moves R i r .stored l .failing l
  /-- Let go of the key after giving up. -/
  | release {k : Key} {l : Ledger Id Key Owner} (hk : R.key r = some k) :
      Moves R i r .failing l .failing (l.setHeld k none)
  /-- Stop because a call failed. -/
  | fail {x : Phase Id} {l : Ledger Id Key Owner} (hx : x.Early ∨ x = .refused) :
      Moves R i r x l .lost l

/-- What happens to the ledger besides. -/
inductive Outside (R : Rules Id Key Owner ρ) : Ledger Id Key Owner → Ledger Id Key Owner → Prop where
  /-- Holds run out. -/
  | expire {l : Ledger Id Key Owner} (held : Key → Option Id)
      (h : ∀ k, held k = l.held k ∨ held k = none) : Outside R l { l with held := held }
  /-- An abandoned add completes. -/
  | complete {l : Ledger Id Key Owner} {before after : List Id} {id : Id} (hlate : R.late)
      (h : l.pending = before ++ id :: after) :
      Outside R l { l with queued := l.queued ++ [id], pending := before ++ after }
  /-- An abandoned add comes to nothing. -/
  | drop {l : Ledger Id Key Owner} {before after : List Id} {id : Id}
      (h : l.pending = before ++ id :: after) : Outside R l { l with pending := before ++ after }

/-- The idempotency protocol. -/
def protocol (R : Rules Id Key Owner ρ) : Protocol ρ (Phase Id) (Ledger Id Key Owner) where
  start := .arrived
  arrives := R.arrives
  moves := Moves R
  outside := Outside R
  stays _ _ x l := .stay x l

end moves

end Intake
