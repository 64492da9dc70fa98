import FrameServer.Event.Basic

namespace FrameServer

/-- A buffer that keeps the newest items when it is full. -/
structure Ring (α : Type) where
  capacity : Nat
  items : List α := []
  deriving Repr, BEq

namespace Ring

variable {α : Type}

/-- The room of a buffer that is to hold `n` items: a power of two, and at least one. -/
def roomFor (n : Nat) : Nat := if n ≤ 1 then 1 else Nat.pow 2 ((n - 1).log2 + 1)

def ofCapacity (n : Nat) : Ring α := ⟨roomFor n, []⟩

/-- Adds an item and drops the oldest ones beyond the capacity. -/
def push (r : Ring α) (a : α) : Ring α :=
  let items := r.items ++ [a]
  { r with items := items.drop (items.length - r.capacity) }

def pushAll (r : Ring α) (as : List α) : Ring α := as.foldl push r

def pop? (r : Ring α) : Option α × Ring α :=
  match r.items with
  | [] => (none, r)
  | a :: rest => (some a, { r with items := rest })

end Ring
end FrameServer

namespace FrameServer.Event

/-- The unread events of one kind. A subscriber that falls behind loses the oldest of them. -/
structure Subscription where
  kind : Kind
  unread : Ring Event

structure Bus where
  /-- How many unread events a subscriber is to have room for. -/
  capacity : Nat := 256
  subscriptions : List (String × Subscription) := []
  /-- Whether the bus is gone; what subscribers have not read they still can. -/
  gone : Bool := false

inductive Received
  | event (e : Event)
  | pending
  | closed
  deriving Repr, BEq

namespace Bus

def subscribe (b : Bus) (name : String) (kind : Kind) : Bus :=
  { b with subscriptions :=
      b.subscriptions.filter (·.1 ≠ name) ++ [(name, ⟨kind, .ofCapacity b.capacity⟩)] }

def isSubscribed (b : Bus) (name : String) : Bool := (b.subscriptions.lookup name).isSome

def unsubscribe (b : Bus) (name : String) : Bus :=
  { b with subscriptions := b.subscriptions.filter (·.1 ≠ name) }

def count (b : Bus) (kind : Kind) : Nat := (b.subscriptions.filter (·.2.kind = kind)).length

def Subscription.deliver (e : Event) (s : Subscription) : Subscription :=
  if s.kind = e.kind then { s with unread := s.unread.push e } else s

/-- Publishes an event; the number of subscribers it reaches. -/
def emit (b : Bus) (e : Event) : Nat × Bus :=
  (b.count e.kind,
    { b with subscriptions := b.subscriptions.map fun (name, s) => (name, Subscription.deliver e s) })

def setUnread (b : Bus) (name : String) (unread : Ring Event) : Bus :=
  { b with subscriptions := b.subscriptions.map fun (n, s) =>
      if n = name then (n, { s with unread }) else (n, s) }

def receive (b : Bus) (name : String) : Received × Bus :=
  match b.subscriptions.lookup name with
  | none => (.closed, b)
  | some s =>
    match s.unread.pop? with
    | (some e, unread) => (.event e, b.setUnread name unread)
    | (none, _) => (if b.gone then .closed else .pending, b)

def drain (b : Bus) (name : String) : List Event × Bus :=
  match b.subscriptions.lookup name with
  | none => ([], b)
  | some s => (s.unread.items, b.setUnread name { s.unread with items := [] })

end Bus
end FrameServer.Event
