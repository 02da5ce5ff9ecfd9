/-
# What a fan-out delivers

Sends, subscriptions and receivers may get in each other's way in any order (`Traffic.run`), and
still nothing is lost, doubled or put out of order.  What is true after every event is kept in
`Traffic.Sound`:

* the list of subscribers names every receiver that is there (`Listed`);
* a queue holds what was put into it and not received yet, oldest first (`Account`);
* a send has been once to each subscription of its snapshot up to where it stands, and nowhere else
  (`Flight.Tracked`);
* a send that is on its way is the last one of its task, so the sends of a task put their values
  into each queue one after the other.

One event keeps all this (`Traffic.Sound.of_moves`), so a whole run does, and what is promised to
tasks and receivers follows (`Traffic.run_delivers`).
-/

import ApiGraph.Proofs.Delivery.Traffic
import ApiGraph.Proofs.Correspondence
import Mathlib.Data.List.Nodup

namespace ApiGraph
namespace FanOut

variable {α : Type}

/-! ## Reading the log -/

namespace Entry

/-- The subscription that an entry is about. -/
def subscription : Entry α → Nat
  | put _ q _ => q
  | refused _ q => q
  | received q _ => q
  | dropped q => q

/-- The send that an entry is about. -/
def send? : Entry α → Option Nat
  | put n _ _ => some n
  | refused n _ => some n
  | received _ _ => none
  | dropped _ => none

/-- The entry says what became of a send at a subscription. -/
def Concerns (e : Entry α) (n q : Nat) : Prop :=
  e.send? = some n ∧ e.subscription = q

/-- The send and the value that were put into the queue of a subscription. -/
def putInto? (q : Nat) : Entry α → Option (Nat × α)
  | put n p value => if p = q then some (n, value) else none
  | _ => none

/-- The value that a receiver took. -/
def receivedBy? (q : Nat) : Entry α → Option α
  | received p value => if p = q then some value else none
  | _ => none

/-- The subscription whose queue got the value of a send. -/
def recipientOf? (n : Nat) : Entry α → Option Nat
  | put m q _ => if m = n then some q else none
  | _ => none

end Entry

/-- What was put into the queue of a subscription, with the numbers of the sends. -/
def puts (log : List (Entry α)) (q : Nat) : List (Nat × α) :=
  log.filterMap (Entry.putInto? q)

/-- What a receiver took. -/
def arrivals (log : List (Entry α)) (q : Nat) : List α :=
  log.filterMap (Entry.receivedBy? q)

/-- The subscriptions whose queues got the value of a send. -/
def recipients (log : List (Entry α)) (n : Nat) : List Nat :=
  log.filterMap (Entry.recipientOf? n)

/-- The log says once what became of a send at a subscription: its value was put there, unless the
receiver had been dropped before. -/
def Served (log : List (Entry α)) (n q : Nat) (value : α) : Prop :=
  ∃ before e after, log = before ++ e :: after ∧ (∀ x ∈ before ++ after, ¬ x.Concerns n q) ∧
    (e = .put n q value ∧ .dropped q ∉ before ∨ e = .refused n q ∧ .dropped q ∈ before)

variable {log : List (Entry α)} {e : Entry α} {n q : Nat} {value : α}

/-- An entry adds to the queue what it put there. -/
theorem puts_append (log : List (Entry α)) (e : Entry α) (q : Nat) :
    puts (log ++ [e]) q = puts log q ++ (e.putInto? q).toList :=
  filterMap_concat _ log e

/-- An entry adds to the arrivals what it took. -/
theorem arrivals_append (log : List (Entry α)) (e : Entry α) (q : Nat) :
    arrivals (log ++ [e]) q = arrivals log q ++ (e.receivedBy? q).toList :=
  filterMap_concat _ log e

/-- An entry adds to the recipients of a send the subscription that got its value. -/
theorem recipients_append (log : List (Entry α)) (e : Entry α) (n : Nat) :
    recipients (log ++ [e]) n = recipients log n ++ (e.recipientOf? n).toList :=
  filterMap_concat _ log e

/-- An entry about one subscription puts nothing into the queue of another. -/
theorem Entry.putInto?_of_subscription_ne (h : e.subscription ≠ q) : e.putInto? q = none := by
  cases e <;> simp_all [Entry.putInto?, Entry.subscription]

/-- An entry about one subscription takes nothing from the queue of another. -/
theorem Entry.receivedBy?_of_subscription_ne (h : e.subscription ≠ q) :
    e.receivedBy? q = none := by
  cases e <;> simp_all [Entry.receivedBy?, Entry.subscription]

/-- An entry about one send gives no value of another to anyone. -/
theorem Entry.recipientOf?_of_send?_ne (h : e.send? ≠ some n) : e.recipientOf? n = none := by
  cases e <;> simp_all [Entry.recipientOf?, Entry.send?]

/-- What was put into a queue is about the send and the queue. -/
theorem Entry.concerns_of_putInto? {p : Nat × α} (h : e.putInto? q = some p) :
    e.Concerns p.1 q := by
  cases e with
  | put n p value =>
    simp only [putInto?, Option.ite_none_right_eq_some, Option.some.injEq] at h
    obtain ⟨rfl, rfl⟩ := h
    exact ⟨rfl, rfl⟩
  | _ => cases h

/-- A send that was served at a subscription stays so with entries about others. -/
theorem Served.append (h : Served log n q value) (other : ¬ e.Concerns n q) :
    Served (log ++ [e]) n q value := by
  obtain ⟨before, x, after, rfl, once, outcome⟩ := h
  refine ⟨before, x, after ++ [e], by simp, fun y hy => ?_, outcome⟩
  rw [← List.append_assoc, List.mem_append, List.mem_singleton] at hy
  exact hy.elim (once y) fun same => same ▸ other

/-- What becomes of a send at a subscription where it has not been yet. -/
theorem served_append (untouched : ∀ x ∈ log, ¬ x.Concerns n q)
    (outcome : e = .put n q value ∧ .dropped q ∉ log ∨ e = .refused n q ∧ .dropped q ∈ log) :
    Served (log ++ [e]) n q value :=
  ⟨log, e, [], rfl, by simpa using untouched, outcome⟩

/-! ## The list of subscribers -/

/-- The list of subscribers names every receiver that is there, and none twice. -/
structure Listed (f : FanOut α) : Prop where
  nodup : f.subscribers.Nodup
  lt_size : ∀ q ∈ f.subscribers, q < f.queues.size
  mem : ∀ q, f.isOpen q = true → q ∈ f.subscribers

/-- A subscription is open if its queue is not closed. -/
theorem isOpen_of_lookup {f : FanOut α} {queue : Queue α} (lookup : f.queues[q]? = some queue) :
    f.isOpen q = !queue.closed := by
  rw [isOpen, lookup, Option.any_some]

namespace Listed

variable {f f' : FanOut α}

/-- A list stays good where no receiver comes to be there. -/
theorem of_isOpen_imp (h : f.Listed) (subscribers : f'.subscribers = f.subscribers)
    (size : f'.queues.size = f.queues.size)
    (isOpen : ∀ q, f'.isOpen q = true → f.isOpen q = true) : f'.Listed where
  nodup := subscribers ▸ h.nodup
  lt_size q hq := size ▸ h.lt_size q (subscribers ▸ hq)
  mem q hq := subscribers ▸ h.mem q (isOpen q hq)

/-- Another queue in the place of one that is as open as that. -/
theorem set (h : f.Listed) {queue queue' : Queue α} (lookup : f.queues[q]? = some queue)
    (closed : queue.closed = true → queue'.closed = true) :
    ({ f with queues := f.queues.setIfInBounds q queue' } : FanOut α).Listed := by
  refine h.of_isOpen_imp rfl Array.size_setIfInBounds fun p hp => ?_
  have inside := (Array.getElem?_eq_some_iff.1 lookup).1
  by_cases same : q = p
  case neg => simpa [FanOut.isOpen, Array.getElem?_setIfInBounds, same] using hp
  subst same
  have after : (f.queues.setIfInBounds q queue')[q]? = some queue' :=
    Array.getElem?_setIfInBounds_self_of_lt inside
  rw [isOpen_of_lookup after] at hp
  rw [isOpen_of_lookup lookup]
  cases hc : queue.closed with
  | true => rw [closed hc] at hp; exact hp
  | false => rfl

/-- A new receiver is listed at the end. -/
theorem push (h : f.Listed) (queue : Queue α) :
    ({ f with
      queues := f.queues.push queue
      subscribers := f.subscribers ++ [f.queues.size] } : FanOut α).Listed where
  nodup := by
    refine List.nodup_append.2 ⟨h.nodup, List.nodup_singleton _, fun a ha b hb => ?_⟩
    rw [List.mem_singleton.1 hb]
    exact Nat.ne_of_lt (h.lt_size a ha)
  lt_size q hq := by
    rw [Array.size_push]
    rcases List.mem_append.1 hq with hq | hq
    · exact Nat.lt_succ_of_lt (h.lt_size q hq)
    · exact List.mem_singleton.1 hq ▸ Nat.lt_succ_self _
  mem q hq := by
    by_cases last : q = f.queues.size
    · exact List.mem_append_right _ (List.mem_singleton.2 last)
    · refine List.mem_append_left _ (h.mem q ?_)
      simpa [FanOut.isOpen, Array.getElem?_push, last] using hq

/-- Striking off the receivers that are gone. -/
theorem prune (h : f.Listed) : f.prune.Listed where
  nodup := h.nodup.filter _
  lt_size q hq := h.lt_size q (List.mem_of_mem_filter hq)
  mem q hq := List.mem_filter.2 ⟨h.mem q hq, hq⟩

end Listed

/-! ## The account of a queue -/

/-- What the log says of the queue of a subscription: as long as the receiver is there, what was
put is what was received and what waits, in this order; when it is gone, nothing waits. -/
structure Account (log : List (Entry α)) (q : Nat) (queue : Queue α) : Prop where
  closed_iff : queue.closed = true ↔ .dropped q ∈ log
  inOrder : queue.closed = false →
    (puts log q).map Prod.snd = arrivals log q ++ queue.items
  nothing : queue.closed = true → queue.items = []
  arrived : (arrivals log q).IsPrefix ((puts log q).map Prod.snd)

namespace Account

variable {queue : Queue α}

/-- A queue that is new, and that no entry is about. -/
theorem new (fresh : queue.items = []) (isOpen : queue.closed = false)
    (unknown : ∀ e ∈ log, e.subscription ≠ q) : Account log q queue := by
  have noPuts : puts log q = [] :=
    List.filterMap_eq_nil_iff.2 fun e he => Entry.putInto?_of_subscription_ne (unknown e he)
  have noArrivals : arrivals log q = [] :=
    List.filterMap_eq_nil_iff.2 fun e he => Entry.receivedBy?_of_subscription_ne (unknown e he)
  refine ⟨⟨fun h => ?_, fun h => absurd rfl (unknown _ h)⟩, fun _ => ?_, fun _ => fresh, ?_⟩
  · rw [isOpen] at h; cases h
  · rw [noPuts, noArrivals, fresh]; rfl
  · rw [noArrivals]; exact List.nil_prefix

/-- An entry by which nothing goes through the queue. -/
theorem append (h : Account log q queue) (noPut : e.putInto? q = none)
    (noArrival : e.receivedBy? q = none) (noDrop : e ≠ .dropped q) :
    Account (log ++ [e]) q queue := by
  have puts_eq : puts (log ++ [e]) q = puts log q := by simp [puts_append, noPut]
  have arrivals_eq : arrivals (log ++ [e]) q = arrivals log q := by
    simp [arrivals_append, noArrival]
  refine ⟨?_, puts_eq ▸ arrivals_eq ▸ h.inOrder, h.nothing, puts_eq ▸ arrivals_eq ▸ h.arrived⟩
  rw [h.closed_iff, List.mem_append, List.mem_singleton]
  exact ⟨Or.inl, fun hm => hm.resolve_right fun same => noDrop same.symm⟩

/-- An entry about another subscription does not change the account. -/
theorem append_of_subscription_ne (h : Account log q queue) (other : e.subscription ≠ q) :
    Account (log ++ [e]) q queue :=
  h.append (Entry.putInto?_of_subscription_ne other) (Entry.receivedBy?_of_subscription_ne other)
    fun same => other (by rw [same]; rfl)

/-- A value is put. -/
theorem put (h : Account log q queue) (isOpen : queue.closed = false) (n : Nat) (value : α) :
    Account (log ++ [.put n q value]) q { queue with items := queue.items ++ [value] } := by
  have puts_eq : (puts (log ++ [.put n q value]) q).map Prod.snd =
      arrivals log q ++ (queue.items ++ [value]) := by
    rw [puts_append, Entry.putInto?, if_pos rfl, Option.toList_some, List.map_append,
      h.inOrder isOpen, List.append_assoc]
    rfl
  have arrivals_eq : arrivals (log ++ [.put n q value]) q = arrivals log q := by
    simp [arrivals_append, Entry.receivedBy?]
  refine ⟨?_, fun _ => by rw [puts_eq, arrivals_eq], fun closed => ?_, ?_⟩
  · rw [h.closed_iff]; simp
  · rw [show queue.closed = true from closed] at isOpen; cases isOpen
  · rw [puts_eq, arrivals_eq]; exact List.prefix_append _ _

/-- The oldest value is received. -/
theorem received (h : Account log q queue) {x : α} {rest : List α}
    (items : queue.items = x :: rest) :
    Account (log ++ [.received q x]) q { queue with items := rest } := by
  -- Something waits, so the receiver has not been dropped.
  have isOpen : queue.closed = false := by
    cases closed : queue.closed with
    | false => rfl
    | true => rw [h.nothing closed] at items; cases items
  have puts_eq : (puts (log ++ [.received q x]) q).map Prod.snd =
      arrivals log q ++ x :: rest := by
    simp [puts_append, Entry.putInto?, h.inOrder isOpen, items]
  have arrivals_eq : arrivals (log ++ [.received q x]) q = arrivals log q ++ [x] := by
    rw [arrivals_append, Entry.receivedBy?, if_pos rfl, Option.toList_some]
  refine ⟨?_, fun _ => by rw [puts_eq, arrivals_eq, List.append_assoc]; rfl, fun closed => ?_, ?_⟩
  · rw [h.closed_iff]; simp
  · rw [show queue.closed = true from closed] at isOpen; cases isOpen
  · rw [puts_eq, arrivals_eq]; exact ⟨rest, List.append_assoc ..⟩

/-- The receiver is dropped. -/
theorem dropped (h : Account log q queue) :
    Account (log ++ [.dropped q]) q queue.abandon := by
  have puts_eq : puts (log ++ [.dropped q]) q = puts log q := by
    simp [puts_append, Entry.putInto?]
  have arrivals_eq : arrivals (log ++ [.dropped q]) q = arrivals log q := by
    simp [arrivals_append, Entry.receivedBy?]
  exact ⟨⟨fun _ => by simp, fun _ => rfl⟩, fun isOpen => (by cases isOpen), fun _ => rfl,
    puts_eq ▸ arrivals_eq ▸ h.arrived⟩

end Account

/-! ## Where a send has been -/

/-- What the log says of a send that has been to some subscriptions: it was served once at each of
them, and nowhere else; its count is the number of queues that have the value. -/
structure Flight.Tracked (log : List (Entry α)) (n : Nat) (f : Flight α) (done : List Nat) :
    Prop where
  snapshot : f.snapshot = done ++ f.sending.pending
  nodup : f.snapshot.Nodup
  served : ∀ q ∈ done, Served log n q f.sending.value
  untouched : ∀ q, q ∉ done → ∀ e ∈ log, ¬ e.Concerns n q
  recipients : (recipients log n).Sublist done
  delivered : f.sending.delivered = (FanOut.recipients log n).length
  completed : ∀ k, f.fate = .completed k → f.sending.pending = [] ∧ k = f.sending.delivered

namespace Flight.Tracked

variable {f : Flight α} {done rest : List Nat}

/-- A send that begins. -/
theorem new (task : Nat) {subscribers : List Nat} (nodup : subscribers.Nodup)
    (unknown : ∀ e ∈ log, e.send? ≠ some n) :
    Tracked log n { task, snapshot := subscribers, sending := { value, pending := subscribers } }
      [] := by
  have noRecipients : FanOut.recipients log n = [] :=
    List.filterMap_eq_nil_iff.2 fun e he => Entry.recipientOf?_of_send?_ne (unknown e he)
  exact ⟨rfl, nodup, fun q hq => (nomatch hq), fun q _ e he h => unknown e he h.1,
    by rw [noRecipients], by rw [noRecipients]; rfl, fun k hk => (nomatch hk)⟩

/-- An entry that is not about the send. -/
theorem append (h : Tracked log n f done) (other : e.send? ≠ some n) :
    Tracked (log ++ [e]) n f done := by
  have same : FanOut.recipients (log ++ [e]) n = FanOut.recipients log n := by
    simp [recipients_append, Entry.recipientOf?_of_send?_ne other]
  refine ⟨h.snapshot, h.nodup, fun q hq => (h.served q hq).append fun c => other c.1,
    fun q hq x hx => ?_, same ▸ h.recipients, same ▸ h.delivered, h.completed⟩
  rcases List.mem_append.1 hx with hx | hx
  · exact h.untouched q hq x hx
  · exact List.mem_singleton.1 hx ▸ fun c => other c.1

section Serve

variable (h : Tracked log n f done) (pending : f.sending.pending = q :: rest)
include h pending

/-- A send does not come to a subscription twice. -/
theorem notMem_done : q ∉ done := by
  have nodup := h.nodup
  rw [h.snapshot, pending] at nodup
  exact fun hq => List.disjoint_of_nodup_append nodup hq (List.mem_cons_self ..)

/-- At the subscription where the send is, the log gets its one entry. -/
theorem serve (outcome : e = .put n q f.sending.value ∧ .dropped q ∉ log ∨
      e = .refused n q ∧ .dropped q ∈ log) :
    (∀ p ∈ done ++ [q], Served (log ++ [e]) n p f.sending.value) ∧
      ∀ p, p ∉ done ++ [q] → ∀ x ∈ log ++ [e], ¬ x.Concerns n p := by
  have here : e.Concerns n q := by
    rcases outcome with ⟨rfl, -⟩ | ⟨rfl, -⟩ <;> exact ⟨rfl, rfl⟩
  have notDone := h.notMem_done pending
  refine ⟨fun p hp => ?_, fun p hp x hx => ?_⟩
  · rcases List.mem_append.1 hp with hp | hp
    · refine (h.served p hp).append fun c => notDone ?_
      rwa [← here.2, c.2]
    · cases List.mem_singleton.1 hp
      exact served_append (h.untouched q notDone) outcome
  · rw [List.mem_append, not_or, List.mem_singleton] at hp
    rcases List.mem_append.1 hx with hx | hx
    · exact h.untouched p hp.1 x hx
    · cases List.mem_singleton.1 hx
      exact fun c => hp.2 (c.2.symm.trans here.2)

/-- A send puts its value into the queue of a receiver that is there, and goes on. -/
theorem put (going : f.fate = .going) (present : .dropped q ∉ log) :
    Tracked (log ++ [.put n q f.sending.value]) n
      { f with sending := { f.sending with
          pending := rest, delivered := f.sending.delivered + 1 } } (done ++ [q]) := by
  obtain ⟨served, untouched⟩ := h.serve pending (.inl ⟨rfl, present⟩)
  have grown : FanOut.recipients (log ++ [.put n q f.sending.value]) n =
      FanOut.recipients log n ++ [q] := by
    rw [recipients_append, Entry.recipientOf?, if_pos rfl, Option.toList_some]
  refine ⟨?_, h.nodup, served, untouched, ?_, ?_, fun k hk => ?_⟩
  · rw [← List.append_cons, ← pending]; exact h.snapshot
  · rw [grown]; exact h.recipients.append (List.Sublist.refl _)
  · rw [grown, List.length_append, ← h.delivered]; rfl
  · rw [show f.fate = .completed k from hk] at going; cases going

/-- A send is refused where the receiver was dropped, and goes on. -/
theorem refused (going : f.fate = .going) (gone : .dropped q ∈ log) :
    Tracked (log ++ [.refused n q]) n
      { f with sending := { f.sending with pending := rest, refused := true } }
      (done ++ [q]) := by
  obtain ⟨served, untouched⟩ := h.serve pending (.inr ⟨rfl, gone⟩)
  have same : FanOut.recipients (log ++ [.refused n q]) n = FanOut.recipients log n := by
    simp [recipients_append, Entry.recipientOf?]
  refine ⟨?_, h.nodup, served, untouched, ?_, same ▸ h.delivered, fun k hk => ?_⟩
  · rw [← List.append_cons, ← pending]; exact h.snapshot
  · rw [same]; exact h.recipients.trans (List.sublist_append_left ..)
  · rw [show f.fate = .completed k from hk] at going; cases going

end Serve

/-- A send is complete where no subscription is left. -/
theorem finished (h : Tracked log n f done) (pending : f.sending.pending = []) :
    Tracked log n { f with fate := .completed f.sending.delivered } done where
  __ := h
  completed k hk := by cases hk; exact ⟨pending, rfl⟩

/-- A send that is given up has been where it has been. -/
theorem givenUp (h : Tracked log n f done) : Tracked log n { f with fate := .givenUp } done where
  __ := h
  completed k hk := by cases hk

end Flight.Tracked

/-! ## What is true after every event -/

/-- The tasks of the sends. -/
def Traffic.tasks (t : Traffic α) : List Nat :=
  t.flights.map Flight.task

namespace Traffic

/-- What is true after every event. -/
structure Sound (t : Traffic α) : Prop where
  listed : t.fan.Listed
  accounts : ∀ (q : Nat) (queue : Queue α), t.fan.queues[q]? = some queue → Account t.log q queue
  subscribed : ∀ e ∈ t.log, e.subscription < t.fan.queues.size
  tracked : ∀ (n : Nat) (f : Flight α), t.flights[n]? = some f → ∃ done, f.Tracked t.log n done
  known : ∀ (n : Nat) (f : Flight α), t.flights[n]? = some f →
    ∀ q ∈ f.snapshot, q < t.fan.queues.size
  begun : ∀ e ∈ t.log, ∀ n, e.send? = some n → n < t.flights.length
  /-- A send that is on its way is the last one of its task. -/
  latest : ∀ (n m : Nat) (f g : Flight α), t.flights[n]? = some f → f.fate = .going →
    t.flights[m]? = some g → g.task = f.task → m ≤ n
  ordered : ∀ q, (puts t.log q).Pairwise fun a b => t.tasks[a.1]? = t.tasks[b.1]? → a.1 < b.1

/-- Before any event nothing was sent, and all is in order. -/
theorem sound_ofCapacity (capacity : Nat) : (ofCapacity capacity : Traffic α).Sound where
  listed := ⟨List.nodup_nil, fun _ h => (nomatch h), fun _ h => by simp [isOpen, ofCapacity] at h⟩
  accounts q queue lookup := by simp [ofCapacity] at lookup
  subscribed e he := nomatch he
  tracked n f flight := by simp [ofCapacity] at flight
  known n f flight := by simp [ofCapacity] at flight
  begun e he := nomatch he
  latest n m f g flight := by simp [ofCapacity] at flight
  ordered q := List.Pairwise.nil

variable {t t' : Traffic α}

namespace Sound

/-- One event keeps the list of subscribers right: a subscription joins it at its end, and only
those whose receivers are dropped leave it. -/
theorem listed_of_moves (s : t.Sound) (h : t.Moves t') : t'.fan.Listed := by
  cases h with
  | idle | started | refused | givenUp => exact s.listed
  | counted handles => exact ⟨s.listed.nodup, s.listed.lt_size, s.listed.mem⟩
  | subscribed queue => exact s.listed.push queue
  | put n f q rest queue _ _ _ lookup => exact s.listed.set lookup id
  | finished =>
    dsimp only
    split
    · exact s.listed.prune
    · exact s.listed
  | received q queue x rest lookup => exact s.listed.set lookup id
  | dropped q queue lookup => exact s.listed.set lookup fun _ => rfl

/-- An entry that changes one queue. -/
theorem accounts_set (s : t.Sound) {e : Entry α} {q : Nat} {queue : Queue α}
    (here : e.subscription = q) (h : Account (t.log ++ [e]) q queue) (p : Nat)
    (queue' : Queue α) (lookup : (t.fan.queues.setIfInBounds q queue)[p]? = some queue') :
    Account (t.log ++ [e]) p queue' := by
  rw [Array.getElem?_setIfInBounds] at lookup
  split at lookup
  case isTrue same =>
    subst same
    simp only [Option.ite_none_right_eq_some, Option.some.injEq] at lookup
    exact lookup.2 ▸ h
  case isFalse other =>
    exact (s.accounts p queue' lookup).append_of_subscription_ne fun same =>
      other (here.symm.trans same)

/-- One event keeps the account of every queue. -/
theorem accounts_of_moves (s : t.Sound) (h : t.Moves t') (p : Nat) (queue' : Queue α)
    (lookup' : t'.fan.queues[p]? = some queue') : Account t'.log p queue' := by
  cases h with
  | idle | counted | started | givenUp => exact s.accounts p queue' lookup'
  | subscribed queue fresh isOpen =>
    rw [Array.getElem?_push] at lookup'
    split at lookup'
    case isTrue last =>
      cases lookup'
      exact .new fresh isOpen fun e he => last ▸ Nat.ne_of_lt (s.subscribed e he)
    case isFalse => exact s.accounts p queue' lookup'
  | put n f q rest queue _ _ _ lookup isOpen =>
    exact s.accounts_set rfl ((s.accounts q queue lookup).put isOpen n _) p queue' lookup'
  | refused => exact (s.accounts p queue' lookup').append rfl rfl nofun
  | finished =>
    refine s.accounts p queue' ?_
    revert lookup'
    dsimp only
    split <;> exact id
  | received q queue x rest lookup items =>
    exact s.accounts_set rfl ((s.accounts q queue lookup).received items) p queue' lookup'
  | dropped q queue lookup =>
    exact s.accounts_set rfl (s.accounts q queue lookup).dropped p queue' lookup'

/-- A subscription where a send still has to go has a queue. -/
theorem lt_size_of_pending (s : t.Sound) {n q : Nat} {f : Flight α} {rest : List Nat}
    (flight : t.flights[n]? = some f) (pending : f.sending.pending = q :: rest) :
    q < t.fan.queues.size := by
  obtain ⟨done, h⟩ := s.tracked n f flight
  refine s.known n f flight q ?_
  rw [h.snapshot, pending]
  exact List.mem_append_right _ (List.mem_cons_self ..)

/-- Subscriptions stay. -/
theorem size_le_of_moves (h : t.Moves t') : t.fan.queues.size ≤ t'.fan.queues.size := by
  cases h with
  | subscribed => exact Array.size_push _ ▸ Nat.le_succ _
  | put | received | dropped => exact Nat.le_of_eq Array.size_setIfInBounds.symm
  | finished => dsimp only; split <;> exact Nat.le_refl _
  | _ => exact Nat.le_refl _

/-- One event writes only of subscriptions that there are. -/
theorem subscribed_of_moves (s : t.Sound) (h : t.Moves t') :
    ∀ e ∈ t'.log, e.subscription < t'.fan.queues.size := by
  have old : ∀ e ∈ t.log, e.subscription < t'.fan.queues.size := fun e he =>
    Nat.lt_of_lt_of_le (s.subscribed e he) (size_le_of_moves h)
  have concat : ∀ {x : Entry α}, x.subscription < t.fan.queues.size →
      ∀ e ∈ t.log ++ [x], e.subscription < t'.fan.queues.size := fun hx e he =>
    (List.mem_append.1 he).elim (old e) fun last =>
      List.mem_singleton.1 last ▸ Nat.lt_of_lt_of_le hx (size_le_of_moves h)
  cases h with
  | idle | counted | subscribed | started | finished | givenUp => exact old
  | refused n f q rest flight _ pending => exact concat (s.lt_size_of_pending flight pending)
  | put _ _ _ _ _ _ _ _ lookup => exact concat (Array.getElem?_eq_some_iff.1 lookup).1
  | received _ _ _ _ lookup => exact concat (Array.getElem?_eq_some_iff.1 lookup).1
  | dropped _ _ lookup => exact concat (Array.getElem?_eq_some_iff.1 lookup).1

/-- Where a receiver refuses values, it was dropped. -/
theorem dropped_mem_of_isOpen_eq_false (s : t.Sound) {q : Nat} (inside : q < t.fan.queues.size)
    (isClosed : t.fan.isOpen q = false) : .dropped q ∈ t.log := by
  have lookup := Array.getElem?_eq_getElem inside
  rw [isOpen_of_lookup lookup, Bool.not_eq_false'] at isClosed
  exact (s.accounts q _ lookup).closed_iff.1 isClosed

/-- A queue that is open has a receiver that was not dropped. -/
theorem dropped_notMem_of_isOpen (s : t.Sound) {q : Nat} {queue : Queue α}
    (lookup : t.fan.queues[q]? = some queue) (isOpen : queue.closed = false) :
    .dropped q ∉ t.log := fun gone => by
  rw [(s.accounts q queue lookup).closed_iff.2 gone] at isOpen
  cases isOpen

/-- One event keeps track of every send. -/
theorem tracked_of_moves (s : t.Sound) (h : t.Moves t') (m : Nat) (g : Flight α)
    (flight' : t'.flights[m]? = some g) : ∃ done, g.Tracked t'.log m done := by
  -- The entry of another send.
  have others {e : Entry α} {n : Nat} (send : e.send? = some n) (ne : m ≠ n)
      (flight' : t.flights[m]? = some g) : ∃ done, g.Tracked (t.log ++ [e]) m done := by
    obtain ⟨done, h⟩ := s.tracked m g flight'
    exact ⟨done, h.append fun same => ne (Option.some.inj (same.symm.trans send))⟩
  cases h with
  | idle | counted | subscribed => exact s.tracked m g flight'
  | started task value free =>
    rcases getElem?_concat_eq_some.1 flight' with flight' | ⟨rfl, rfl⟩
    · exact s.tracked m g flight'
    · exact ⟨[], .new task s.listed.nodup fun e he same => Nat.lt_irrefl _ (s.begun e he _ same)⟩
  | put n f q rest queue flight going pending lookup isOpen =>
    rcases (getElem?_set_eq_some flight).1 flight' with ⟨rfl, rfl⟩ | ⟨other, flight'⟩
    · obtain ⟨done, h⟩ := s.tracked m f flight
      exact ⟨done ++ [q], h.put pending going (s.dropped_notMem_of_isOpen lookup isOpen)⟩
    · exact others rfl other flight'
  | refused n f q rest flight going pending isClosed =>
    rcases (getElem?_set_eq_some flight).1 flight' with ⟨rfl, rfl⟩ | ⟨other, flight'⟩
    · obtain ⟨done, h⟩ := s.tracked m f flight
      exact ⟨done ++ [q], h.refused pending going (s.dropped_mem_of_isOpen_eq_false
        (s.lt_size_of_pending flight pending) isClosed)⟩
    · exact others rfl other flight'
  | finished n f flight going pending =>
    rcases (getElem?_set_eq_some flight).1 flight' with ⟨rfl, rfl⟩ | ⟨other, flight'⟩
    · exact (s.tracked m f flight).imp fun _ h => h.finished pending
    · exact s.tracked m g flight'
  | givenUp n f flight going =>
    rcases (getElem?_set_eq_some flight).1 flight' with ⟨rfl, rfl⟩ | ⟨other, flight'⟩
    · exact (s.tracked m f flight).imp fun _ h => h.givenUp
    · exact s.tracked m g flight'
  | received | dropped => exact (s.tracked m g flight').imp fun _ h => h.append nofun

/-- A send keeps its task and its snapshot, and it does not set out again.  A new one has the
number after all others, and the subscribers for its snapshot; its task waits for no other send. -/
theorem flight_of_moves (h : t.Moves t') {m : Nat} {g : Flight α}
    (flight' : t'.flights[m]? = some g) :
    (∃ f, t.flights[m]? = some f ∧ g.snapshot = f.snapshot ∧ g.task = f.task ∧
      (g.fate = .going → f.fate = .going)) ∨
    (m = t.flights.length ∧ g.snapshot = t.fan.subscribers ∧
      ∀ f ∈ t.flights, f.task = g.task → f.fate ≠ .going) := by
  cases h with
  | idle | counted | subscribed | received | dropped => exact .inl ⟨g, flight', rfl, rfl, id⟩
  | started task value free =>
    rcases getElem?_concat_eq_some.1 flight' with flight' | ⟨rfl, rfl⟩
    · exact .inl ⟨g, flight', rfl, rfl, id⟩
    · exact .inr ⟨rfl, rfl, free⟩
  | put n f _ _ _ flight | refused n f _ _ flight =>
    rcases (getElem?_set_eq_some flight).1 flight' with ⟨rfl, rfl⟩ | ⟨-, flight'⟩
    · exact .inl ⟨f, flight, rfl, rfl, id⟩
    · exact .inl ⟨g, flight', rfl, rfl, id⟩
  | finished n f flight | givenUp n f flight =>
    rcases (getElem?_set_eq_some flight).1 flight' with ⟨rfl, rfl⟩ | ⟨-, flight'⟩
    · exact .inl ⟨f, flight, rfl, rfl, nofun⟩
    · exact .inl ⟨g, flight', rfl, rfl, id⟩

/-- Snapshots hold only subscriptions that there are, after an event as before it. -/
theorem known_of_moves (s : t.Sound) (h : t.Moves t') (m : Nat) (g : Flight α)
    (flight' : t'.flights[m]? = some g) : ∀ q ∈ g.snapshot, q < t'.fan.queues.size := fun q hq => by
  refine Nat.lt_of_lt_of_le ?_ (size_le_of_moves h)
  rcases flight_of_moves h flight' with ⟨f, flight, snapshot, -, -⟩ | ⟨-, snapshot, -⟩
  · exact s.known m f flight q (snapshot ▸ hq)
  · exact s.listed.lt_size q (snapshot ▸ hq)

/-- A task begins its next send only after the one before has come to an end. -/
theorem latest_of_moves (s : t.Sound) (h : t.Moves t') (n m : Nat) (f' g' : Flight α)
    (flight : t'.flights[n]? = some f') (going : f'.fate = .going)
    (other : t'.flights[m]? = some g') (same : g'.task = f'.task) : m ≤ n := by
  -- Two old sends, an old and a new one (of another task then), a new and an old one, or the same.
  rcases flight_of_moves h flight with ⟨f, flight, -, task, still⟩ | ⟨rfl, -, -⟩ <;>
    rcases flight_of_moves h other with ⟨g, other, -, task', -⟩ | ⟨rfl, -, free⟩
  · exact s.latest n m f g flight (still going) other (by rw [← task', same, task])
  · exact absurd (still going)
      (free f (List.mem_of_getElem? flight) (by rw [same, task]))
  · exact Nat.le_of_lt (List.getElem?_eq_some_iff.1 other).1
  · exact Nat.le_refl _

/-- Sends stay. -/
theorem tasks_of_moves (h : t.Moves t') : ∃ more, t'.tasks = t.tasks ++ more := by
  cases h with
  | idle | counted | subscribed | received | dropped => exact ⟨[], (List.append_nil _).symm⟩
  | started => exact ⟨_, List.map_append⟩
  | put _ _ _ _ _ flight | refused _ _ _ _ flight | finished _ _ flight | givenUp _ _ flight =>
    exact ⟨[], by rw [List.append_nil]; exact map_set_of_eq flight rfl⟩

/-- One event writes only of sends that were begun. -/
theorem begun_of_moves (s : t.Sound) (h : t.Moves t') :
    ∀ e ∈ t'.log, ∀ n, e.send? = some n → n < t'.flights.length := by
  have longer : t.flights.length ≤ t'.flights.length := by
    obtain ⟨more, tasks⟩ := tasks_of_moves h
    have length := congrArg List.length tasks
    simp only [Traffic.tasks, List.length_map, List.length_append] at length
    omega
  have old : ∀ e ∈ t.log, ∀ n, e.send? = some n → n < t'.flights.length := fun e he n send =>
    Nat.lt_of_lt_of_le (s.begun e he n send) longer
  have concat {x : Entry α} (hx : ∀ n, x.send? = some n → n < t.flights.length) :
      ∀ e ∈ t.log ++ [x], ∀ n, e.send? = some n → n < t'.flights.length := fun e he n send =>
    (List.mem_append.1 he).elim (fun he => old e he n send) fun last =>
      Nat.lt_of_lt_of_le (hx n (List.mem_singleton.1 last ▸ send)) longer
  cases h with
  | idle | counted | subscribed | started | finished | givenUp => exact old
  | put n _ _ _ _ flight | refused n _ _ _ flight =>
    exact concat fun m send => Option.some.inj send ▸ (List.getElem?_eq_some_iff.1 flight).1
  | received | dropped => exact concat nofun

/-- What was put into a queue comes from a send that was begun. -/
theorem lt_length_of_mem_puts (s : t.Sound) {q : Nat} {a : Nat × α} (ha : a ∈ puts t.log q) :
    a.1 < t.tasks.length := by
  obtain ⟨e, he, put⟩ := List.mem_filterMap.1 ha
  rw [Traffic.tasks, List.length_map]
  exact s.begun e he a.1 (Entry.concerns_of_putInto? put).1

/-- What is put now comes from the last send of its task, which has not been here before. -/
theorem ordered_put (s : t.Sound) {n q : Nat} {f : Flight α} {rest : List Nat}
    (flight : t.flights[n]? = some f) (going : f.fate = .going)
    (pending : f.sending.pending = q :: rest) {a : Nat × α} (ha : a ∈ puts t.log q)
    (same : t.tasks[a.1]? = t.tasks[n]?) : a.1 < n := by
  obtain ⟨e, he, put⟩ := List.mem_filterMap.1 ha
  have concerns := Entry.concerns_of_putInto? put
  obtain ⟨done, tracked⟩ := s.tracked n f flight
  refine Nat.lt_of_le_of_ne ?_ fun here =>
    tracked.untouched q (tracked.notMem_done pending) e he (here ▸ concerns)
  have inside := s.begun e he a.1 concerns.1
  simp only [Traffic.tasks, List.getElem?_map, List.getElem?_eq_getElem inside, flight,
    Option.map_some, Option.some.injEq] at same
  exact s.latest n a.1 f _ flight going (List.getElem?_eq_getElem inside) same

/-- One event keeps each queue in the order of every task's sends: what a send puts comes behind
all that its task's earlier ones put. -/
theorem ordered_of_moves (s : t.Sound) (h : t.Moves t') (p : Nat) :
    (puts t'.log p).Pairwise fun a b => t'.tasks[a.1]? = t'.tasks[b.1]? → a.1 < b.1 := by
  obtain ⟨more, tasks⟩ := tasks_of_moves h
  have still {n : Nat} (inside : n < t.tasks.length) : t'.tasks[n]? = t.tasks[n]? :=
    tasks ▸ List.getElem?_append_left inside
  have task {a : Nat × α} (ha : a ∈ puts t.log p) : t'.tasks[a.1]? = t.tasks[a.1]? :=
    still (s.lt_length_of_mem_puts ha)
  have old : (puts t.log p).Pairwise fun a b => t'.tasks[a.1]? = t'.tasks[b.1]? → a.1 < b.1 :=
    (s.ordered p).imp_of_mem fun ha hb ordered same => ordered (by rwa [task ha, task hb] at same)
  have concat {x : Entry α} (noPut : x.putInto? p = none) :
      (puts (t.log ++ [x]) p).Pairwise fun a b => t'.tasks[a.1]? = t'.tasks[b.1]? → a.1 < b.1 := by
    rwa [puts_append, noPut, Option.toList_none, List.append_nil]
  cases h with
  | idle | counted | subscribed | started | finished | givenUp => exact old
  | refused | received | dropped => exact concat rfl
  | put n f q rest queue flight going pending =>
    by_cases here : q = p
    case neg => exact concat (if_neg here)
    subst here
    rw [puts_append, Entry.putInto?, if_pos rfl, Option.toList_some, List.pairwise_append]
    refine ⟨old, List.pairwise_singleton _ _, fun a ha b hb same => ?_⟩
    cases List.mem_singleton.1 hb
    have inside : n < t.tasks.length := by
      rw [Traffic.tasks, List.length_map]
      exact (List.getElem?_eq_some_iff.1 flight).1
    rw [task ha, still inside] at same
    exact s.ordered_put flight going pending ha same

/-- **One event keeps everything.** -/
theorem of_moves (s : t.Sound) (h : t.Moves t') : t'.Sound where
  listed := s.listed_of_moves h
  accounts := s.accounts_of_moves h
  subscribed := s.subscribed_of_moves h
  tracked := s.tracked_of_moves h
  known := s.known_of_moves h
  begun := s.begun_of_moves h
  latest := s.latest_of_moves h
  ordered := s.ordered_of_moves h

end Sound

/-- **Everything holds after every run.** -/
theorem sound_run (capacity : Nat) (events : List (Event α)) :
    ((ofCapacity capacity : Traffic α).run events).Sound :=
  run_induction (fun _ _ h s => s.of_moves h) events _ (sound_ofCapacity capacity)

/-! ## What is promised -/

/-- What tasks and receivers may count on. -/
structure Delivers (t : Traffic α) : Prop where
  /-- The list names every subscription whose receiver has not been dropped, and none twice. -/
  listed : t.fan.subscribers.Nodup ∧
    ∀ q < t.fan.queues.size, .dropped q ∉ t.log → q ∈ t.fan.subscribers
  /-- A send that is over put its value once into the queue of each subscription of its snapshot
  whose receiver had not been dropped by then. -/
  served : ∀ (n k : Nat) (f : Flight α), t.flights[n]? = some f → f.fate = .completed k →
    ∀ q ∈ f.snapshot, Served t.log n q f.sending.value
  /-- What is put into a queue is the value of a send with the subscription in its snapshot. -/
  authentic : ∀ (q : Nat), ∀ p ∈ puts t.log q, ∃ f, t.flights[p.1]? = some f ∧
    q ∈ f.snapshot ∧ p.2 = f.sending.value
  /-- The count that a send gives is the number of queues that it put its value into. -/
  counted : ∀ (n k : Nat) (f : Flight α), t.flights[n]? = some f → f.fate = .completed k →
    (recipients t.log n).Nodup ∧ (recipients t.log n).length = k
  /-- The values of one task go into each queue in the order of its sends. -/
  inOrder : ∀ task q, ((puts t.log q).filter fun p => t.tasks[p.1]? = some task).Pairwise
    fun a b => a.1 < b.1
  /-- A receiver got what was put into its queue first; the rest waits as long as the receiver is
  there. -/
  received : ∀ (q : Nat) (queue : Queue α), t.fan.queues[q]? = some queue →
    (arrivals t.log q).IsPrefix ((puts t.log q).map Prod.snd) ∧
      (.dropped q ∉ t.log → (puts t.log q).map Prod.snd = arrivals t.log q ++ queue.items)

/-- What became of a send at a subscription is said by the one entry. -/
theorem eq_of_concerns {log : List (Entry α)} {e : Entry α} {n q : Nat} {value : α}
    (h : Served log n q value) (he : e ∈ log) (concerns : e.Concerns n q) :
    e = .put n q value ∨ e = .refused n q := by
  obtain ⟨before, x, after, rfl, once, outcome⟩ := h
  have here : e = x := by
    simp only [List.mem_append, List.mem_cons] at he once
    rcases he with he | rfl | he
    · exact absurd concerns (once e (.inl he))
    · rfl
    · exact absurd concerns (once e (.inr he))
  exact here ▸ outcome.imp And.left And.left

/-- What was put into a queue is the value of a send whose snapshot has the subscription. -/
theorem Sound.authentic (s : t.Sound) {q : Nat} {p : Nat × α} (hp : p ∈ puts t.log q) :
    ∃ f, t.flights[p.1]? = some f ∧ q ∈ f.snapshot ∧ p.2 = f.sending.value := by
  obtain ⟨e, he, put⟩ := List.mem_filterMap.1 hp
  have concerns := Entry.concerns_of_putInto? put
  have flight := List.getElem?_eq_getElem (s.begun e he p.1 concerns.1)
  obtain ⟨done, tracked⟩ := s.tracked p.1 _ flight
  -- Nothing is said of a send where it has not been.
  have visited : q ∈ done := by
    by_contra other
    exact tracked.untouched q other e he concerns
  refine ⟨_, flight, tracked.snapshot ▸ List.mem_append_left _ visited, ?_⟩
  rcases eq_of_concerns (tracked.served q visited) he concerns with same | same
  · rw [same, Entry.putInto?, if_pos rfl, Option.some.injEq] at put
    exact (congrArg Prod.snd put).symm
  · rw [same] at put
    cases put

/-- **Nothing is lost, doubled or put out of order.**  Whatever the capacity of the queues, and in
whatever order subscriptions are made, sends set out and go on and are given up, and receivers take
values and are dropped. -/
theorem run_delivers (capacity : Nat) (events : List (Event α)) :
    ((ofCapacity capacity : Traffic α).run events).Delivers := by
  have s := sound_run capacity events
  generalize (ofCapacity capacity : Traffic α).run events = t at s
  -- A send that is over has been to its whole snapshot.
  have whole {n k : Nat} {f : Flight α} (flight : t.flights[n]? = some f)
      (completed : f.fate = .completed k) :
      f.Tracked t.log n f.snapshot ∧ k = f.sending.delivered := by
    obtain ⟨done, tracked⟩ := s.tracked n f flight
    obtain ⟨pending, count⟩ := tracked.completed k completed
    have all : f.snapshot = done := by rw [tracked.snapshot, pending, List.append_nil]
    exact ⟨all ▸ tracked, count⟩
  refine ⟨⟨s.listed.nodup, fun q inside present => s.listed.mem q ?_⟩,
    fun n k f flight completed => (whole flight completed).1.served,
    fun q p hp => s.authentic hp, fun n k f flight completed => ?_, fun task q => ?_,
    fun q queue lookup => ⟨(s.accounts q queue lookup).arrived, fun present => ?_⟩⟩
  · by_contra gone
    exact present (s.dropped_mem_of_isOpen_eq_false inside (Bool.not_eq_true _ ▸ gone))
  · obtain ⟨tracked, count⟩ := whole flight completed
    exact ⟨tracked.nodup.sublist tracked.recipients, (count.trans tracked.delivered).symm⟩
  · rw [List.pairwise_filter]
    refine (s.ordered q).imp fun ordered ha hb => ordered ?_
    rw [of_decide_eq_true ha, of_decide_eq_true hb]
  · refine (s.accounts q queue lookup).inOrder ?_
    rw [← Bool.not_eq_true, (s.accounts q queue lookup).closed_iff]
    exact present

/-- Two tasks send while a receiver is slow, one is dropped and one comes later. -/
def crossing : List (Event Nat) :=
  [.subscribe, .subscribe, .start 7 10, .advance 0, .start 8 20, .advance 1, .subscribe,
    .receive 0, .advance 1, .drop 1, .advance 0, .advance 0, .advance 1, .advance 1,
    .start 7 30, .receive 0, .advance 2, .advance 2, .advance 2]

theorem run_delivers_crossing :
    let t := (ofCapacity 1 : Traffic Nat).run crossing
    t.Delivers ∧ t.fan.subscribers = [0, 2] ∧
      t.flights.map (fun f => (f.snapshot, f.fate)) =
        [([0, 1], .completed 1), ([0, 1], .completed 1), ([0, 2], .completed 2)] ∧
      puts t.log 0 = [(0, 10), (1, 20), (2, 30)] ∧ arrivals t.log 0 = [10, 20] :=
  ⟨run_delivers 1 crossing, by decide, by decide, by decide, by decide⟩

end Traffic
end FanOut
end ApiGraph
