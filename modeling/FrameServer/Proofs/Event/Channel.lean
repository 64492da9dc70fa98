import FrameServer.Event.Bus
import FrameServer.Proofs.Event.Ring
import FrameServer.Proofs.Lists

namespace FrameServer.Event

namespace Bus

inductive Op
  | emit (e : Event)
  | subscribe (name : String) (kind : Kind)
  | unsubscribe (name : String)
  /-- `name` asks for its next event, and may wait for it. -/
  | receive (name : String)
  /-- The bus goes. -/
  | leave

inductive Reply
  | reached (n : Nat)
  | received (r : Received)
  | done

def apply (b : Bus) : Op → Reply × Bus
  | .emit e => (.reached (b.emit e).1, (b.emit e).2)
  | .subscribe name kind => (.done, b.subscribe name kind)
  | .unsubscribe name => (.done, b.unsubscribe name)
  | .receive name => (.received (b.receive name).1, (b.receive name).2)
  | .leave => (.done, { b with gone := true })

def after (b : Bus) (ops : List Op) : Bus := ops.foldl (fun b op => (b.apply op).2) b

def replies (b : Bus) : List Op → List Reply
  | [] => []
  | op :: ops => (b.apply op).1 :: (b.apply op).2.replies ops

end Bus

/-- A subscriber of a channel, and how many of its events it is past. -/
structure Cursor where
  kind : Kind
  next : Nat

inductive Taken
  | value (e : Event)
  /-- So many events are not kept any more. -/
  | lagged (n : Nat)
  | empty

/-- What a channel that keeps the last `room` events has for one who is past `next` of them. -/
def take (room : Nat) (log : List Event) (next : Nat) : Taken :=
  if next + room < log.length then .lagged (log.length - room - next)
  else match log[next]? with
    | some e => .value e
    | none => .empty

/-- A subscriber that lags asks again. -/
def read (room : Nat) (log : List Event) (next : Nat) : Option Event × Nat :=
  match taken : take room log next with
  | .value e => (some e, next + 1)
  | .lagged n => read room log (next + n)
  | .empty => (none, next)
termination_by log.length - next
decreasing_by
  unfold take at taken
  split at taken
  next behind =>
    obtain rfl := Taken.lagged.inj taken
    omega
  next => split at taken <;> cases taken

/-- One channel for each kind of event, which its subscribers share. It keeps the last events, and each subscriber goes
through them at its own speed. -/
structure Channels where
  room : Nat
  /-- All events that were published; of each kind the last `room` are kept. -/
  sent : List Event := []
  cursors : List (String × Cursor) := []
  gone : Bool := false

namespace Channels

def ofCapacity (capacity : Nat) : Channels := { room := Ring.roomFor capacity }

def log (c : Channels) (kind : Kind) : List Event := c.sent.filter (·.kind = kind)

def move (c : Channels) (name : String) (next : Nat) : Channels :=
  { c with cursors := c.cursors.map fun p => (p.1, if p.1 = name then { p.2 with next } else p.2) }

def receive (c : Channels) (name : String) : Received × Channels :=
  match c.cursors.lookup name with
  | none => (.closed, c)
  | some k =>
    let (found, next) := read c.room (c.log k.kind) k.next
    (match found with
      | some e => .event e
      | none => if c.gone then .closed else .pending,
    c.move name next)

def apply (c : Channels) : Bus.Op → Bus.Reply × Channels
  | .emit e => (.reached (c.cursors.filter (·.2.kind = e.kind)).length, { c with sent := c.sent ++ [e] })
  | .subscribe name kind =>
    (.done, { c with cursors := c.cursors.filter (·.1 ≠ name) ++ [(name, ⟨kind, (c.log kind).length⟩)] })
  | .unsubscribe name => (.done, { c with cursors := c.cursors.filter (·.1 ≠ name) })
  | .receive name => (.received (c.receive name).1, (c.receive name).2)
  | .leave => (.done, { c with gone := true })

def after (c : Channels) (ops : List Bus.Op) : Channels := ops.foldl (fun c op => (c.apply op).2) c

def replies (c : Channels) : List Bus.Op → List Bus.Reply
  | [] => []
  | op :: ops => (c.apply op).1 :: (c.apply op).2.replies ops

/-- The buffer that would hold what a subscriber has not read. -/
def subscription (c : Channels) (k : Cursor) : Subscription :=
  ⟨k.kind, ⟨c.room, (c.log k.kind).drop (max k.next ((c.log k.kind).length - c.room))⟩⟩

def bus (c : Channels) (capacity : Nat) : Bus :=
  { capacity, gone := c.gone, subscriptions := c.cursors.map fun p => (p.1, c.subscription p.2) }

/-- Each subscriber is there once, and past no events that were not published. -/
structure Sound (c : Channels) : Prop where
  large : 0 < c.room
  once : (c.cursors.map Prod.fst).Nodup
  bounded : ∀ p ∈ c.cursors, p.2.next ≤ (c.log p.2.kind).length

end Channels

variable {room next : Nat} {log : List Event} {c : Channels} {capacity : Nat} {name : String} {kind : Kind}

theorem read_near (close : log.length ≤ next + room) : read room log next =
    match log[next]? with
    | some e => (some e, next + 1)
    | none => (none, next) := by
  have here : take room log next = match log[next]? with
      | some e => .value e
      | none => .empty := by
    rw [take, if_neg (Nat.not_lt.mpr close)]
  rw [read]
  cases found : log[next]? with
  | some e =>
    rw [found] at here
    split
    next e' taken =>
      obtain rfl := Taken.value.inj (taken.symm.trans here)
      rfl
    next taken => cases taken.symm.trans here
    next taken => cases taken.symm.trans here
  | none =>
    rw [found] at here
    split
    next taken => cases taken.symm.trans here
    next taken => cases taken.symm.trans here
    next => rfl

/-- What is read is the next event, or else the oldest one that is kept. -/
theorem read_eq (large : 0 < room) : read room log next =
    match log[max next (log.length - room)]? with
    | some e => (some e, max next (log.length - room) + 1)
    | none => (none, next) := by
  by_cases behind : next + room < log.length
  · have lag : take room log next = .lagged (log.length - room - next) := by rw [take, if_pos behind]
    have oldest : next + (log.length - room - next) = log.length - room := by omega
    have start : max next (log.length - room) = log.length - room := by omega
    obtain ⟨e, there⟩ : ∃ e, log[log.length - room]? = some e := ⟨_, List.getElem?_eq_getElem (by omega)⟩
    have again : read room log (log.length - room) = _ := read_near (by omega)
    rw [there] at again
    rw [start, there, read]
    split
    next taken => cases taken.symm.trans lag
    next n taken =>
      obtain rfl := Taken.lagged.inj (taken.symm.trans lag)
      rw [oldest]
      exact again
    next taken => cases taken.symm.trans lag
  · have start : max next (log.length - room) = next := by omega
    rw [start]
    exact read_near (Nat.not_lt.mp behind)

theorem read_le (large : 0 < room) (bound : next ≤ log.length) : (read room log next).2 ≤ log.length := by
  rw [read_eq large]
  split
  next e there => exact (List.getElem?_eq_some_iff.mp there).1
  next => exact bound

namespace Channels

theorem log_emit (e : Event) : { c with sent := c.sent ++ [e] }.log kind =
    if e.kind = kind then c.log kind ++ [e] else c.log kind := by
  unfold log
  rw [List.filter_append]
  split
  next same => rw [List.filter_cons_of_pos (by simpa using same), List.filter_nil]
  next other => rw [List.filter_cons_of_neg (by simpa using other), List.filter_nil, List.append_nil]

theorem sound_ofCapacity (capacity : Nat) : (ofCapacity capacity).Sound := by
  have enough := (Ring.roomFor_isLeast capacity).1.2
  exact ⟨Nat.lt_of_lt_of_le (Nat.le_max_right capacity 1) enough, List.nodup_nil, fun p hp => by cases hp⟩

theorem move_fst (c : Channels) (name : String) (next : Nat) :
    (c.move name next).cursors.map Prod.fst = c.cursors.map Prod.fst := by
  rw [move, List.map_map]
  rfl

/-- Nobody but the one that was found has its name. -/
theorem Sound.eq_of_lookup (h : c.Sound) {k : Cursor} (found : c.cursors.lookup name = some k) {p : String × Cursor}
    (hp : p ∈ c.cursors) (same : p.1 = name) : p.2 = k := by
  have mine := lookup_of_mem h.once hp
  rw [same] at mine
  exact Option.some.inj (mine.symm.trans found)

theorem sound_apply (h : c.Sound) (op : Bus.Op) : (c.apply op).2.Sound := by
  cases op with
  | emit e =>
    refine ⟨h.large, h.once, fun p hp => Nat.le_trans (h.bounded p hp) ?_⟩
    rw [apply, log_emit]
    split
    · simp
    · exact Nat.le_refl _
  | subscribe name kind =>
    refine ⟨h.large, ?_, ?_⟩
    · have absent : name ∉ (c.cursors.filter (·.1 ≠ name)).map Prod.fst := by simp
      have others := h.once.sublist ((List.filter_sublist (p := (·.1 ≠ name))).map Prod.fst)
      rw [apply, List.map_append, List.map_singleton, ← List.concat_eq_append]
      exact others.concat absent
    · intro p hp
      rcases List.mem_append.mp hp with old | new
      · exact h.bounded p (List.mem_filter.mp old).1
      · obtain rfl := List.mem_singleton.mp new
        exact Nat.le_refl _
  | unsubscribe name =>
    refine ⟨h.large, h.once.sublist (List.filter_sublist.map Prod.fst), fun p hp => ?_⟩
    exact h.bounded p (List.mem_filter.mp hp).1
  | receive name =>
    simp only [apply, receive]
    split
    · exact h
    next k found =>
      refine ⟨h.large, (move_fst c name _).symm ▸ h.once, fun p hp => ?_⟩
      obtain ⟨q, hq, rfl⟩ := List.mem_map.mp hp
      dsimp only
      split
      next same =>
        obtain rfl := h.eq_of_lookup found hq same
        exact read_le h.large (h.bounded q hq)
      next => exact h.bounded q hq
  | leave => exact ⟨h.large, h.once, h.bounded⟩

theorem count_bus (c : Channels) (capacity : Nat) (kind : Kind) :
    (c.bus capacity).count kind = (c.cursors.filter (·.2.kind = kind)).length := by
  simp only [Bus.count, bus, List.filter_map, List.length_map]
  rfl

theorem lookup_bus (c : Channels) (capacity : Nat) (name : String) :
    (c.bus capacity).subscriptions.lookup name = (c.cursors.lookup name).map c.subscription :=
  lookup_map (fun _ => c.subscription) c.cursors name

theorem deliver_subscription {k : Cursor} (e : Event) (bound : k.next ≤ (c.log k.kind).length) :
    Bus.Subscription.deliver e (c.subscription k) = { c with sent := c.sent ++ [e] }.subscription k := by
  unfold Bus.Subscription.deliver
  split
  next mine =>
    have mine : e.kind = k.kind := Eq.symm mine
    have held : ((c.subscription k).unread.push e).items = _ := Ring.push_items rfl (by omega)
    have start : max (max k.next ((c.log k.kind).length - c.room)) ((c.log k.kind).length + 1 - c.room) =
        max k.next ((c.log k.kind).length + 1 - c.room) := by omega
    have pushed : (c.subscription k).unread.push e = ⟨c.room, ((c.subscription k).unread.push e).items⟩ := rfl
    rw [show (c.subscription k).unread.capacity = c.room from rfl, start] at held
    rw [pushed, held]
    simp only [subscription, log_emit, if_pos mine, List.length_append, List.length_singleton]
  next other =>
    have other : e.kind ≠ k.kind := Ne.symm other
    simp only [subscription, log_emit, if_neg other]

/-- What is taken from the buffer is what is read from the channel. -/
theorem pop_subscription (large : 0 < c.room) (k : Cursor) :
    (c.subscription k).unread.pop? = ((read c.room (c.log k.kind) k.next).1,
      (c.subscription { k with next := (read c.room (c.log k.kind) k.next).2 }).unread) := by
  rw [read_eq large]
  unfold Ring.pop?
  simp only [subscription]
  cases there : (c.log k.kind)[max k.next ((c.log k.kind).length - c.room)]? with
  | some e =>
    obtain ⟨bound, rfl⟩ := List.getElem?_eq_some_iff.mp there
    have start : max (max k.next ((c.log k.kind).length - c.room) + 1) ((c.log k.kind).length - c.room) =
        max k.next ((c.log k.kind).length - c.room) + 1 := by omega
    simp only [List.drop_eq_getElem_cons bound, start]
  | none =>
    have none := List.drop_eq_nil_of_le (List.getElem?_eq_none_iff.mp there)
    simp only [none]

theorem bus_move (h : c.Sound) {k : Cursor} (found : c.cursors.lookup name = some k) (next : Nat) :
    (c.move name next).bus capacity =
      (c.bus capacity).setUnread name (c.subscription { k with next }).unread := by
  have each : ∀ p ∈ c.cursors, (p.1, c.subscription (if p.1 = name then { p.2 with next } else p.2)) =
      if p.1 = name then (p.1, { c.subscription p.2 with unread := (c.subscription { k with next }).unread })
      else (p.1, c.subscription p.2) := by
    intro p hp
    split
    next same =>
      obtain rfl := h.eq_of_lookup found hp same
      rfl
    next => rfl
  have same : ((c.move name next).bus capacity).subscriptions =
      ((c.bus capacity).setUnread name (c.subscription { k with next }).unread).subscriptions := by
    simp only [bus, move, Bus.setUnread, List.map_map]
    exact List.map_congr_left each
  exact congrArg (Bus.mk capacity · c.gone) same

theorem move_same (h : c.Sound) {k : Cursor} (found : c.cursors.lookup name = some k) : c.move name k.next = c := by
  have each : ∀ p ∈ c.cursors, (p.1, if p.1 = name then { p.2 with next := k.next } else p.2) = p := by
    intro p hp
    split
    next same =>
      obtain rfl := h.eq_of_lookup found hp same
      rfl
    next => rfl
  rw [move, List.map_congr_left each, List.map_id']

theorem bus_receive (h : c.Sound) (name : String) :
    (c.bus capacity).receive name = ((c.receive name).1, (c.receive name).2.bus capacity) := by
  unfold Bus.receive receive
  rw [lookup_bus]
  cases found : c.cursors.lookup name with
  | none => rfl
  | some k =>
    simp only [Option.map_some, pop_subscription h.large k]
    have moved : (c.move name (read c.room (c.log k.kind) k.next).2).bus capacity = _ := bus_move h found _
    have stays : read c.room (c.log k.kind) k.next = _ := read_eq h.large
    cases there : (read c.room (c.log k.kind) k.next).1 with
    | some e => rw [moved]
    | none =>
      have same : (read c.room (c.log k.kind) k.next).2 = k.next := by
        rw [stays] at there ⊢
        split at there
        · cases there
        · rfl
      rw [same, move_same h found]
      rfl

/-- The bus does what the channels do. -/
theorem bus_apply (enough : c.room = Ring.roomFor capacity) (h : c.Sound) (op : Bus.Op) :
    (c.bus capacity).apply op = ((c.apply op).1, (c.apply op).2.bus capacity) := by
  cases op with
  | emit e =>
    have delivered : ((c.bus capacity).emit e).2.subscriptions =
        ({ c with sent := c.sent ++ [e] }.bus capacity).subscriptions := by
      simp only [Bus.emit, bus, List.map_map]
      apply List.map_congr_left
      intro p hp
      exact congrArg (Prod.mk p.1) (deliver_subscription e (h.bounded p hp))
    have reached : (c.bus capacity).apply (.emit e) = (.reached ((c.bus capacity).count e.kind),
        Bus.mk capacity ((c.bus capacity).emit e).2.subscriptions c.gone) := rfl
    rw [reached, delivered, count_bus]
    rfl
  | subscribe name kind =>
    have fresh : c.subscription ⟨kind, (c.log kind).length⟩ = ⟨kind, .ofCapacity capacity⟩ := by
      have none : (c.log kind).drop (max (c.log kind).length ((c.log kind).length - c.room)) = [] :=
        List.drop_eq_nil_of_le (Nat.le_max_left _ _)
      simp only [subscription, none, Ring.ofCapacity, ← enough]
    have added : ((c.bus capacity).subscribe name kind).subscriptions =
        ((c.apply (.subscribe name kind)).2.bus capacity).subscriptions := by
      simp only [Bus.subscribe, apply, bus, List.filter_map, List.map_append, List.map_singleton, ← fresh]
      rfl
    exact congrArg (fun subscriptions => (Bus.Reply.done, Bus.mk capacity subscriptions c.gone)) added
  | unsubscribe name =>
    simp only [Bus.apply, Bus.unsubscribe, apply, bus, List.filter_map]
    rfl
  | receive name => simp only [Bus.apply, apply, bus_receive h name]
  | leave => rfl

theorem room_apply (c : Channels) (op : Bus.Op) : (c.apply op).2.room = c.room := by
  cases op with
  | receive name =>
    simp only [apply, receive]
    split <;> rfl
  | _ => rfl

theorem run_bus (enough : c.room = Ring.roomFor capacity) (h : c.Sound) (ops : List Bus.Op) :
    (c.bus capacity).replies ops = c.replies ops ∧ (c.bus capacity).after ops = (c.after ops).bus capacity := by
  induction ops generalizing c with
  | nil => exact ⟨rfl, rfl⟩
  | cons op ops ih =>
    have same := bus_apply enough h op
    obtain ⟨replies, after⟩ := ih ((room_apply c op).trans enough) (sound_apply h op)
    constructor
    · rw [Bus.replies, same, replies]
      rfl
    · rw [Bus.after, List.foldl_cons, same]
      exact after

end Channels

end FrameServer.Event
