import Mathlib.Data.List.Induction
import Mathlib.Data.Set.Card
import FrameServer.Proofs.Event.Channel

namespace FrameServer.Event

open Bus (Op Reply)

namespace Bus

/-- Whether an operation makes a difference to `name`. -/
def Op.concerns (name : String) : Op → Bool
  | .emit _ | .leave => true
  | .subscribe n _ | .unsubscribe n | .receive n => n = name

/-- Whether an operation begins or ends a subscription of `name`. -/
def Op.renews (name : String) : Op → Bool
  | .subscribe n _ | .unsubscribe n => n = name
  | _ => false

def Op.event? (kind : Kind) : Op → Option Event
  | .emit e => if e.kind = kind then some e else none
  | _ => none

def emitted (kind : Kind) (ops : List Op) : List Event := ops.filterMap (Op.event? kind)

def Op.wanted (name : String) (now : Option Kind) : Op → Option Kind
  | .subscribe n kind => if n = name then some kind else now
  | .unsubscribe n => if n = name then none else now
  | _ => now

/-- The kind of the subscription that `name` has after some operations. -/
def wanted (name : String) (ops : List Op) : Option Kind := ops.foldl (Op.wanted name) none

def Op.answer? (name : String) : Op → Reply → Option Received
  | .receive n, .received r => if n = name then some r else none
  | _, _ => none

/-- What `name` is told when it asks. -/
def answers (name : String) : List Op → List Reply → List Received
  | op :: ops, r :: rs => (op.answer? name r).toList ++ answers name ops rs
  | _, _ => []

/-- What a subscriber has heard of the events of its kind, at which places among them, and how many it is past. -/
structure Reading (room : Nat) (name : String) (kind : Kind) (during : List Op) (heard : List Event)
    (places : List Nat) (past : Nat) : Prop where
  ascending : places.Pairwise (· < ·)
  found : heard.map some = places.map fun p => (emitted kind during)[p]?
  sublist : heard.Sublist ((emitted kind during).take past)
  behind : ∀ p ∈ places, p < past
  last : past = 0 ∨ past - 1 ∈ places
  le : past ≤ (emitted kind during).length
  /-- Each of the others was no longer kept when the subscriber asked. -/
  missed : ∀ q < past, q ∉ places → ∃ earlier later, during = earlier ++ .receive name :: later ∧
    q + room < (emitted kind earlier).length

section Reading

variable {room : Nat} {name : String} {kind : Kind} {during : List Op} {heard : List Event} {places : List Nat}
  {past : Nat}

theorem emitted_concat (kind : Kind) (ops : List Op) (op : Op) :
    emitted kind (ops ++ [op]) = emitted kind ops ++ (op.event? kind).toList := by
  rw [emitted, emitted, List.filterMap_append]
  cases found : op.event? kind <;> simp [found]

theorem Reading.start : Reading room name kind [] [] [] 0 :=
  ⟨List.Pairwise.nil, rfl, List.Sublist.refl _, by simp, .inl rfl, Nat.le_refl _, by simp⟩

/-- More events make no difference to those that were heard. -/
theorem Reading.wait (h : Reading room name kind during heard places past) (op : Op) :
    Reading room name kind (during ++ [op]) heard places past := by
  have inside : ∀ p ∈ places, p < (emitted kind during).length := fun p hp => Nat.lt_of_lt_of_le (h.behind p hp) h.le
  refine ⟨h.ascending, ?_, ?_, h.behind, h.last, ?_, ?_⟩
  · rw [h.found, emitted_concat]
    refine List.map_congr_left fun p hp => ?_
    rw [List.getElem?_append_left (inside p hp)]
  · rw [emitted_concat, List.take_append_of_le_length h.le]
    exact h.sublist
  · rw [emitted_concat, List.length_append]
    exact Nat.le_trans h.le (Nat.le_add_right _ _)
  · intro q hq other
    obtain ⟨earlier, later, rfl, lost⟩ := h.missed q hq other
    exact ⟨earlier, later ++ [op], by simp, lost⟩

/-- The next event is heard, or else the oldest one that is kept. -/
theorem Reading.hear (h : Reading room name kind during heard places past) {e : Event} {p : Nat}
    (start : p = max past ((emitted kind during).length - room)) (there : (emitted kind during)[p]? = some e) :
    Reading room name kind (during ++ [.receive name]) (heard ++ [e]) (places ++ [p]) (p + 1) := by
  have same : emitted kind (during ++ [.receive name]) = emitted kind during := by
    rw [emitted_concat]
    exact List.append_nil _
  obtain ⟨bound, -⟩ := List.getElem?_eq_some_iff.mp there
  have ahead : past ≤ p := by omega
  refine ⟨?_, ?_, ?_, ?_, .inr (by simp), by rw [same]; exact bound, ?_⟩
  · rw [List.pairwise_append]
    refine ⟨h.ascending, List.pairwise_singleton _ _, fun q hq r hr => ?_⟩
    obtain rfl := List.mem_singleton.mp hr
    exact Nat.lt_of_lt_of_le (h.behind q hq) ahead
  · rw [same, List.map_append, List.map_append, h.found, List.map_singleton, List.map_singleton, there]
  · have longer : (emitted kind during).take past <+: (emitted kind during).take p := List.take_prefix_take_left ahead
    rw [same, List.take_add_one, there]
    exact (h.sublist.trans longer.sublist).append (List.Sublist.refl [e])
  · intro q hq
    rcases List.mem_append.mp hq with hq | hq
    · have before := h.behind q hq
      omega
    · obtain rfl := List.mem_singleton.mp hq
      exact Nat.lt_succ_self _
  · intro q hq other
    have apart : q ≠ p := by
      rintro rfl
      exact other (List.mem_append_right _ (List.mem_singleton_self q))
    by_cases old : q < past
    · obtain ⟨earlier, later, rfl, lost⟩ := h.missed q old fun hq => other (List.mem_append_left _ hq)
      exact ⟨earlier, later ++ [.receive name], by simp, lost⟩
    · exact ⟨during, [], rfl, by omega⟩

end Reading

end Bus

def Received.event? : Received → Option Event
  | event e => some e
  | _ => none

open Bus (emitted wanted answers Reading)

namespace Channels

/-- What an operation does to the cursor of one subscriber. -/
def attend (c : Channels) (name : String) : Op → Option Cursor → Option Cursor
  | .subscribe n kind, k => if n = name then some ⟨kind, (c.log kind).length⟩ else k
  | .unsubscribe n, k => if n = name then none else k
  | .receive n, k => if n = name then k.map fun k => { k with next := (read c.room (c.log k.kind) k.next).2 } else k
  | _, k => k

variable {c c' : Channels} {name : String} {kind : Kind} {op : Op} {ops : List Op}

theorem lookup_apply (c : Channels) (name : String) (op : Op) :
    (c.apply op).2.cursors.lookup name = c.attend name op (c.cursors.lookup name) := by
  cases op with
  | emit | leave => rfl
  | subscribe n kind =>
    simp only [apply, attend, List.lookup_append, lookup_filter]
    split
    next same => simp [same]
    next other => simp [List.lookup_cons, beq_eq_false_iff_ne.mpr (Ne.symm other)]
  | unsubscribe n => simp only [apply, attend, lookup_filter]
  | receive n =>
    have moved (next : Nat) : (c.move n next).cursors.lookup name =
        (c.cursors.lookup name).map fun k => if name = n then ⟨k.kind, next⟩ else k :=
      lookup_map (fun name (k : Cursor) => if name = n then (⟨k.kind, next⟩ : Cursor) else k) c.cursors name
    simp only [apply, attend, receive]
    by_cases same : n = name
    · subst same
      cases found : c.cursors.lookup n with
      | none => simp [found]
      | some k => simp [moved, found]
    · rw [if_neg same]
      cases c.cursors.lookup n with
      | none => rfl
      | some k => simp [moved, Ne.symm same]

theorem log_apply (c : Channels) (kind : Kind) (op : Op) :
    (c.apply op).2.log kind = c.log kind ++ (op.event? kind).toList := by
  cases op with
  | emit e =>
    rw [apply, log_emit, Op.event?]
    split <;> simp
  | receive n =>
    simp only [apply, receive, Op.event?, Option.toList_none, List.append_nil]
    split <;> rfl
  | _ => simp [apply, log, Op.event?]

theorem sound_after (h : c.Sound) (ops : List Op) : (c.after ops).Sound := by
  induction ops generalizing c with
  | nil => exact h
  | cons op ops ih => exact ih (sound_apply h op)

theorem after_concat (c : Channels) (ops : List Op) (op : Op) : c.after (ops ++ [op]) = ((c.after ops).apply op).2 := by
  rw [after, List.foldl_append]
  rfl

theorem answers_concat (c : Channels) (name : String) (ops : List Op) (op : Op) :
    answers name (ops ++ [op]) (c.replies (ops ++ [op])) =
      answers name ops (c.replies ops) ++ (op.answer? name ((c.after ops).apply op).1).toList := by
  induction ops generalizing c with
  | nil => simp [answers, replies, after]
  | cons first ops ih =>
    simp only [List.cons_append, replies, answers, ih, List.append_assoc]
    rfl

theorem room_after (c : Channels) (ops : List Op) : (c.after ops).room = c.room := by
  induction ops generalizing c with
  | nil => rfl
  | cons op ops ih => exact (ih _).trans (room_apply c op)

theorem log_after (c : Channels) (kind : Kind) (ops : List Op) :
    (c.after ops).log kind = c.log kind ++ emitted kind ops := by
  induction ops using List.reverseRecOn with
  | nil => simp [after, emitted]
  | append_singleton ops op ih =>
    rw [after_concat, log_apply, ih, Bus.emitted_concat, List.append_assoc]

/-- Who subscribes is past all that was published. -/
theorem lookup_subscribe (c : Channels) (before : List Op) (name : String) (kind : Kind) :
    (c.after (before ++ [.subscribe name kind])).cursors.lookup name =
      some ⟨kind, ((c.after (before ++ [.subscribe name kind])).log kind).length⟩ := by
  rw [after_concat, lookup_apply, log_apply]
  simp [attend, Op.event?]

theorem kind_after (c : Channels) (name : String) (ops : List Op) :
    ((c.after ops).cursors.lookup name).map (·.kind) =
      ops.foldl (Op.wanted name) ((c.cursors.lookup name).map (·.kind)) := by
  induction ops generalizing c with
  | nil => rfl
  | cons op ops ih =>
    have first : ((c.apply op).2.cursors.lookup name).map (·.kind) =
        Op.wanted name ((c.cursors.lookup name).map (·.kind)) op := by
      rw [lookup_apply]
      cases op with
      | emit | leave => rfl
      | subscribe | unsubscribe =>
        simp only [attend, Op.wanted]
        split <;> rfl
      | receive n =>
        simp only [attend, Op.wanted]
        split
        · rw [Option.map_map]
          rfl
        · rfl
    rw [List.foldl_cons, ← first]
    exact ih _

/-- As nobody has two subscriptions, those of a kind are as many as have one. -/
theorem count_eq_ncard (once : (c.cursors.map Prod.fst).Nodup) (kind : Kind) :
    (c.cursors.filter (·.2.kind = kind)).length =
      Set.ncard {name | (c.cursors.lookup name).map (·.kind) = some kind} := by
  have those : {name | (c.cursors.lookup name).map (·.kind) = some kind} =
      (((c.cursors.filter (·.2.kind = kind)).map Prod.fst).toFinset : Set String) := by
    ext name
    simp only [Set.mem_ofPred_eq, Option.map_eq_some_iff, List.coe_toFinset, List.mem_map, List.mem_filter,
      decide_eq_true_eq]
    constructor
    · rintro ⟨k, found, rfl⟩
      exact ⟨(name, k), ⟨mem_of_lookup found, rfl⟩, rfl⟩
    · rintro ⟨⟨n, k⟩, ⟨there, rfl⟩, rfl⟩
      exact ⟨k, lookup_of_mem once there, rfl⟩
  rw [those, Set.ncard_coe_finset, List.toFinset_card_of_nodup, List.length_map]
  exact once.sublist (List.filter_sublist.map Prod.fst)

/-- What `name` can know of the channels. -/
structure Agree (name : String) (c c' : Channels) : Prop where
  room : c.room = c'.room
  sent : c.sent = c'.sent
  gone : c.gone = c'.gone
  cursor : c.cursors.lookup name = c'.cursors.lookup name

theorem receive_same (c : Channels) (n : String) :
    (c.receive n).2.room = c.room ∧ (c.receive n).2.sent = c.sent ∧ (c.receive n).2.gone = c.gone := by
  unfold receive
  split <;> exact ⟨rfl, rfl, rfl⟩

theorem Agree.log (h : Agree name c c') (kind : Kind) : c.log kind = c'.log kind := by
  rw [Channels.log, Channels.log, h.sent]

theorem Agree.apply (h : Agree name c c') (op : Op) : Agree name (c.apply op).2 (c'.apply op).2 := by
  have cursor : (c.apply op).2.cursors.lookup name = (c'.apply op).2.cursors.lookup name := by
    rw [lookup_apply, lookup_apply, h.cursor]
    cases op <;> simp only [attend, h.log, h.room]
  cases op with
  | emit e => exact ⟨h.room, by simp only [Channels.apply, h.sent], h.gone, cursor⟩
  | subscribe | unsubscribe => exact ⟨h.room, h.sent, h.gone, cursor⟩
  | leave => exact ⟨h.room, h.sent, rfl, cursor⟩
  | receive n =>
    obtain ⟨room, sent, gone⟩ := receive_same c n
    obtain ⟨room', sent', gone'⟩ := receive_same c' n
    exact ⟨room.trans (h.room.trans room'.symm), sent.trans (h.sent.trans sent'.symm),
      gone.trans (h.gone.trans gone'.symm), cursor⟩

/-- What does not concern `name` changes nothing for it. -/
theorem Agree.other (h : Agree name c c') (other : op.concerns name = false) : Agree name (c.apply op).2 c' := by
  have cursor : (c.apply op).2.cursors.lookup name = c'.cursors.lookup name := by
    rw [lookup_apply, ← h.cursor]
    cases op with
    | emit | leave => cases other
    | subscribe n | unsubscribe n | receive n => simp only [attend, if_neg (of_decide_eq_false other)]
  cases op with
  | emit | leave => cases other
  | subscribe | unsubscribe => exact ⟨h.room, h.sent, h.gone, cursor⟩
  | receive n =>
    obtain ⟨room, sent, gone⟩ := receive_same c n
    exact ⟨room.trans h.room, sent.trans h.sent, gone.trans h.gone, cursor⟩

theorem Agree.answer (h : Agree name c c') (op : Op) :
    op.answer? name (c.apply op).1 = op.answer? name (c'.apply op).1 := by
  cases op with
  | receive n =>
    simp only [Channels.apply, Op.answer?]
    split
    next same =>
      subst same
      unfold Channels.receive
      rw [h.cursor]
      split
      · rfl
      · simp only [h.log, h.room, h.gone]
    next => rfl
  | _ => rfl

theorem answers_agree (h : Agree name c c') (ops : List Op) :
    answers name ops (c.replies ops) =
      answers name (ops.filter (·.concerns name)) (c'.replies (ops.filter (·.concerns name))) := by
  induction ops generalizing c c' with
  | nil => rfl
  | cons op ops ih =>
    cases mine : op.concerns name with
    | true =>
      rw [List.filter_cons_of_pos mine]
      simp only [replies, answers, h.answer op, ih (h.apply op)]
    | false =>
      have silent : op.answer? name (c.apply op).1 = none := by
        cases op with
        | receive n => simp only [Channels.apply, Op.answer?, if_neg (of_decide_eq_false mine)]
        | _ => rfl
      rw [List.filter_cons_of_neg (by simp [mine])]
      simp only [replies, answers, silent, Option.toList_none, List.nil_append, ih (h.other mine)]

/-- What is read behind the events that a subscriber came too late for. -/
theorem read_behind {room : Nat} (large : 0 < room) (base log : List Event) (past : Nat) :
    read room (base ++ log) (base.length + past) =
      match log[max past (log.length - room)]? with
      | some e => (some e, base.length + (max past (log.length - room) + 1))
      | none => (none, base.length + past) := by
  have place : max (base.length + past) ((base ++ log).length - room) = base.length + max past (log.length - room) := by
    rw [List.length_append]
    omega
  rw [read_eq large, place, List.getElem?_append_right (Nat.le_add_right _ _), Nat.add_sub_cancel_left]
  rfl

theorem receive_eq {past : Nat} (h : c.Sound) (base log : List Event) (all : c.log kind = base ++ log)
    (cursor : c.cursors.lookup name = some ⟨kind, base.length + past⟩) :
    (c.receive name).1 = match log[max past (log.length - c.room)]? with
      | some e => .event e
      | none => if c.gone then .closed else .pending := by
  simp only [receive, cursor, all, read_behind h.large]
  cases log[max past (log.length - c.room)]? <;> rfl

theorem reading (h : c.Sound) (fresh : c.cursors.lookup name = some ⟨kind, (c.log kind).length⟩) (during : List Op)
    (keeps : ∀ op ∈ during, op.renews name = false) : ∃ places past,
      Reading c.room name kind during ((answers name during (c.replies during)).filterMap Received.event?) places past ∧
      (c.after during).cursors.lookup name = some ⟨kind, (c.log kind).length + past⟩ := by
  induction during using List.reverseRecOn with
  | nil => exact ⟨[], 0, .start, fresh⟩
  | append_singleton during op ih =>
    obtain ⟨places, past, reading, cursor⟩ := ih fun op hop => keeps op (List.mem_append_left _ hop)
    have sound := sound_after h during
    have log := log_after c kind during
    have room := room_after c during
    have keep := keeps op (by simp)
    rw [answers_concat, List.filterMap_append, after_concat, lookup_apply, cursor]
    cases op with
    | receive n =>
      by_cases mine : n = name
      · subst mine
        have answer := receive_eq sound _ _ log cursor
        have next := read_behind sound.large (c.log kind) (emitted kind during) past
        rw [room] at answer next
        simp only [Op.answer?, apply, answer, attend, if_true, Option.map_some, log, room, next]
        cases there : (emitted kind during)[max past ((emitted kind during).length - c.room)]? with
        | some e => exact ⟨_, _, reading.hear rfl there, rfl⟩
        | none =>
          have silent : (if (c.after during).gone then Received.closed else .pending).event? = none := by split <;> rfl
          have nothing := List.filterMap_cons_none silent (l := [])
          simp only [Option.toList_some, nothing, List.filterMap_nil, List.append_nil]
          exact ⟨places, past, reading.wait _, rfl⟩
      · simp only [Op.answer?, apply, attend, if_neg mine, Option.toList_none, List.filterMap_nil, List.append_nil]
        exact ⟨places, past, reading.wait _, rfl⟩
    | subscribe n | unsubscribe n =>
      have other : n ≠ name := of_decide_eq_false keep
      simp only [Op.answer?, attend, if_neg other, Option.toList_none, List.filterMap_nil, List.append_nil]
      exact ⟨places, past, reading.wait _, rfl⟩
    | emit | leave =>
      simp only [Op.answer?, attend, Option.toList_none, List.filterMap_nil, List.append_nil]
      exact ⟨places, past, reading.wait _, rfl⟩

end Channels

/-- What a subscriber has heard, and is told next. -/
structure Bus.Hears (room : Nat) (name : String) (kind : Kind) (during : List Op) (b : Bus) (places : List Nat)
    (past : Nat) : Prop where
  reading : Reading room name kind during ((answers name during (b.replies during)).filterMap Received.event?) places past
  /-- The next event follows, or the oldest one that is kept if this one is not. -/
  next : ((b.after during).receive name).1 =
    match (emitted kind during)[max past ((emitted kind during).length - room)]? with
    | some e => .event e
    | none => if (b.after during).gone then .closed else .pending
  unread : ((b.after during).receive name).1.event? = none ↔ past = (emitted kind during).length

/-- What a bus of some capacity does for its subscribers, whatever is done with it. -/
structure Bus.Broadcasts (capacity : Nat) : Prop where
  room : IsLeast {m | m.isPowerOfTwo ∧ max capacity 1 ≤ m} (Ring.roomFor capacity)
  /-- The bus cannot be told from channels that keep so many events of each kind. -/
  shared : ∀ ops, ({ capacity } : Bus).replies ops = (Channels.ofCapacity capacity).replies ops
  /-- A subscriber hears events of its kind that were published since it subscribed, each once and in order. -/
  subscriber : ∀ before name kind during, (∀ op ∈ during, op.renews name = false) → ∃ places past,
    Hears (Ring.roomFor capacity) name kind during (({ capacity } : Bus).after (before ++ [.subscribe name kind])) places past
  /-- Whoever publishes is told how many subscribe to the kind. -/
  emit : ∀ ops e, ((({ capacity } : Bus).after ops).emit e).1 = Set.ncard {name | wanted name ops = some e.kind}
  /-- Whatever others do, a subscriber is told the same. -/
  apart : ∀ ops name, answers name ops (({ capacity } : Bus).replies ops) =
    answers name (ops.filter (·.concerns name)) (({ capacity } : Bus).replies (ops.filter (·.concerns name)))

theorem Channels.hears {c : Channels} {capacity : Nat} {name : String} {kind : Kind} (h : c.Sound)
    (enough : c.room = Ring.roomFor capacity) (fresh : c.cursors.lookup name = some ⟨kind, (c.log kind).length⟩)
    (during : List Op) (keeps : ∀ op ∈ during, op.renews name = false) :
    ∃ places past, Bus.Hears c.room name kind during (c.bus capacity) places past := by
  obtain ⟨places, past, reading, cursor⟩ := c.reading h fresh during keeps
  obtain ⟨replies, after⟩ := run_bus enough h during
  have next := receive_eq (sound_after h during) _ _ (log_after c kind during) cursor
  rw [room_after] at next
  refine ⟨places, past, ?_, ?_, ?_⟩
  · rw [replies]
    exact reading
  · rw [after, bus_receive (sound_after h during)]
    exact next
  · rw [after, bus_receive (sound_after h during), next]
    have le := reading.le
    have large := h.large
    cases there : (emitted kind during)[max past ((emitted kind during).length - c.room)]? with
    | some e =>
      obtain ⟨bound, -⟩ := List.getElem?_eq_some_iff.mp there
      simp only [Received.event?, reduceCtorEq, false_iff]
      omega
    | none =>
      have bound := List.getElem?_eq_none_iff.mp there
      have all : past = (emitted kind during).length := by omega
      simp only [all, iff_true]
      split <;> rfl

/-- Each subscriber receives the events of its kind in the order in which they were published, but for those that it is
too late for, whatever the others do. -/
theorem Bus.broadcasts (capacity : Nat) : Broadcasts capacity := by
  have sound := Channels.sound_ofCapacity capacity
  have run : ∀ ops, ({ capacity } : Bus).replies ops = (Channels.ofCapacity capacity).replies ops ∧
      ({ capacity } : Bus).after ops = ((Channels.ofCapacity capacity).after ops).bus capacity :=
    Channels.run_bus rfl sound
  constructor
  · exact Ring.roomFor_isLeast capacity
  · intro ops
    exact (run ops).1
  · intro before name kind during keeps
    have standing := Channels.sound_after sound (before ++ [.subscribe name kind])
    have room : ((Channels.ofCapacity capacity).after (before ++ [.subscribe name kind])).room = Ring.roomFor capacity :=
      Channels.room_after _ _
    have hears := Channels.hears standing room (Channels.lookup_subscribe _ before name kind) during keeps
    rw [room] at hears
    rw [(run _).2]
    exact hears
  · intro ops e
    have standing := Channels.sound_after sound ops
    have kinds (name : String) : (((Channels.ofCapacity capacity).after ops).cursors.lookup name).map (·.kind) =
        wanted name ops := Channels.kind_after _ name ops
    rw [(run ops).2]
    unfold emit
    simp only [Channels.count_bus, Channels.count_eq_ncard standing.once, kinds]
  · intro ops name
    rw [(run ops).1, (run _).1]
    exact Channels.answers_agree ⟨rfl, rfl, rfl, rfl⟩ ops

/-- Of five events a channel that keeps two has the last two for a subscriber that did not ask before. -/
example :
    let event (n : Nat) : Event := ⟨.sessionOpen, .server, [("place", .int n)]⟩
    let ops : List Op := .subscribe "s" .sessionOpen :: (List.range 5).map (.emit <| event ·) ++
      [.receive "s", .receive "s", .receive "s"]
    answers "s" ops (({ capacity := 2 } : Bus).replies ops) = [.event (event 3), .event (event 4), .pending] := rfl

end FrameServer.Event
