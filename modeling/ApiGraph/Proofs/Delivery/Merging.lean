/-
# What a fan-in merges

A forwarder holds one value between taking it from its source and putting it into the output, and
one sender of the output until it ends.  As long as the receiver of the output is there, the log of
an inflow therefore tells where everything is (`Inflow.Live`):

* the output holds what was put into it and not received yet, oldest first;
* what was sent to a source is what its forwarder has put, then what it has in hand, then what
  waits in the source (`Traced`);
* a forwarder has ended only where its source has ended and is drained.

One event keeps all this (`Inflow.Live.of_moves`), so a whole run does (`Inflow.run_merges`), and
where the output says that it is closed, everything that was sent has been received.
-/

import ApiGraph.Proofs.Delivery.Inflow

namespace ApiGraph
namespace FanIn

variable {α : Type}

/-! ## Reading the log -/

namespace Entry

/-- The source that an entry is about. -/
def source? : Entry α → Option Nat
  | sent i _ => some i
  | put origin _ => origin
  | received _ => none

/-- The value that a source took. -/
def sentTo? (i : Nat) : Entry α → Option α
  | sent j value => if j = i then some value else none
  | _ => none

/-- What was put into the output, and where it came from. -/
def put? : Entry α → Option (Option Nat × α)
  | put origin value => some (origin, value)
  | _ => none

/-- The value that the receiver took. -/
def received? : Entry α → Option α
  | received value => some value
  | _ => none

/-- An entry about one source sends nothing to another. -/
theorem sentTo?_eq_none {e : Entry α} {i : Nat} (other : e.source? ≠ some i) :
    e.sentTo? i = none := by
  cases e with
  | sent j value => exact if_neg fun same => other (congrArg some same)
  | put | received => rfl

end Entry

/-- What was sent to a source. -/
def sent (log : List (Entry α)) (i : Nat) : List α :=
  log.filterMap (Entry.sentTo? i)

/-- What was put into the output, with the sources that it came from. -/
def puts (log : List (Entry α)) : List (Option Nat × α) :=
  log.filterMap Entry.put?

/-- What was put into the output by the forwarder of a source, or directly. -/
def putBy (log : List (Entry α)) (origin : Option Nat) : List α :=
  ((puts log).filter (·.1 == origin)).map Prod.snd

/-- What the receiver took. -/
def arrivals (log : List (Entry α)) : List α :=
  log.filterMap Entry.received?

variable {log : List (Entry α)} {e : Entry α} {i : Nat} {w : Forwarder α} {value : α}

/-- An entry adds to what was sent to a source. -/
theorem sent_append (log : List (Entry α)) (e : Entry α) (i : Nat) :
    sent (log ++ [e]) i = sent log i ++ (e.sentTo? i).toList :=
  filterMap_concat _ log e

/-- An entry adds to what was put into the output. -/
theorem puts_append (log : List (Entry α)) (e : Entry α) :
    puts (log ++ [e]) = puts log ++ e.put?.toList :=
  filterMap_concat _ log e

/-- An entry adds to what was received. -/
theorem arrivals_append (log : List (Entry α)) (e : Entry α) :
    arrivals (log ++ [e]) = arrivals log ++ e.received?.toList :=
  filterMap_concat _ log e

/-- An entry that puts nothing adds to nobody's puts. -/
theorem putBy_append_of_put?_none (noPut : e.put? = none) (origin : Option Nat) :
    putBy (log ++ [e]) origin = putBy log origin := by
  rw [putBy, puts_append, noPut, Option.toList_none, List.append_nil, putBy]

/-- What is put counts for its origin only. -/
theorem putBy_append_put (origin origin' : Option Nat) :
    putBy (log ++ [.put origin value]) origin' =
      putBy log origin' ++ if origin = origin' then [value] else [] := by
  rw [putBy, puts_append, Entry.put?, Option.toList_some, List.filter_append, List.map_append,
    putBy]
  by_cases same : origin = origin' <;> simp [same]

/-- An entry about something else changes nothing of what is said of a source. -/
theorem sent_append_of_source?_ne (other : e.source? ≠ some i) :
    sent (log ++ [e]) i = sent log i := by
  rw [sent_append, Entry.sentTo?_eq_none other, Option.toList_none, List.append_nil]

/-- An entry about one source adds nothing to what the others' forwarders put. -/
theorem putBy_append_of_source?_ne (other : e.source? ≠ some i) :
    putBy (log ++ [e]) (some i) = putBy log (some i) := by
  cases e with
  | put origin value =>
    have elsewhere : origin ≠ some i := other
    rw [putBy_append_put, if_neg elsewhere, List.append_nil]
  | sent | received => exact putBy_append_of_put?_none rfl _

/-! ## The account of a source -/

/-- What the log says of a source and its forwarder: what was sent is what was put, what is in hand
and what waits, in this order; and the forwarder has not ended before everything was put. -/
structure Traced (log : List (Entry α)) (i : Nat) (w : Forwarder α) : Prop where
  inOrder : sent log i = putBy log (some i) ++ (w.hand.toList ++ w.source.items)
  drained : w.finished = true → w.ended = true ∧ w.hand = none ∧ w.source.items = []

namespace Traced

/-- A source that is new, and that no entry is about. -/
theorem new {source : Queue α} (fresh : source.items = [])
    (unknown : ∀ e ∈ log, e.source? ≠ some i) : Traced log i { source } := by
  have noneSent : sent log i = [] :=
    List.filterMap_eq_nil_iff.2 fun e he => Entry.sentTo?_eq_none (unknown e he)
  have nonePut : putBy log (some i) = [] := by
    rw [putBy, List.map_eq_nil_iff, List.filter_eq_nil_iff]
    intro p hp same
    obtain ⟨e, he, put⟩ := List.mem_filterMap.1 hp
    cases e with
    | put origin value =>
      cases put
      exact unknown _ he (eq_of_beq same)
    | sent | received => cases put
  exact ⟨by rw [noneSent, nonePut, fresh]; rfl, nofun⟩

/-- An entry that is not about the source. -/
theorem append (h : Traced log i w) (other : e.source? ≠ some i) : Traced (log ++ [e]) i w :=
  ⟨by rw [sent_append_of_source?_ne other, putBy_append_of_source?_ne other, h.inOrder], h.drained⟩

/-- The source takes a value. -/
theorem sent (h : Traced log i w) (lives : w.ended = false) (value : α) :
    Traced (log ++ [.sent i value]) i
      { w with source := { w.source with items := w.source.items ++ [value] } } := by
  refine ⟨?_, fun finished => ?_⟩
  · rw [sent_append, Entry.sentTo?, if_pos rfl, Option.toList_some,
      putBy_append_of_put?_none rfl, h.inOrder]
    simp only [List.append_assoc]
  · rw [(h.drained finished).1] at lives
    cases lives

/-- The last sender of the source is dropped. -/
theorem ended (h : Traced log i w) : Traced log i { w with ended := true } :=
  ⟨h.inOrder, fun finished => ⟨rfl, (h.drained finished).2⟩⟩

/-- The forwarder takes a value into its hand. -/
theorem taken (h : Traced log i w) (goesOn : w.finished = false) (free : w.hand = none)
    {rest : List α} (items : w.source.items = value :: rest) :
    Traced log i { w with hand := some value, source := { w.source with items := rest } } := by
  refine ⟨?_, fun finished => ?_⟩
  · rw [h.inOrder, free, items]
    rfl
  · rw [show w.finished = true from finished] at goesOn
    cases goesOn

/-- The forwarder puts what it has in hand. -/
theorem put (h : Traced log i w) (goesOn : w.finished = false) (hand : w.hand = some value) :
    Traced (log ++ [.put (some i) value]) i { w with hand := none } := by
  refine ⟨?_, fun finished => ?_⟩
  · rw [sent_append, putBy_append_put, if_pos rfl, h.inOrder, hand]
    simp [Entry.sentTo?]
  · rw [show w.finished = true from finished] at goesOn
    cases goesOn

/-- The forwarder of a source that has ended and is drained ends. -/
theorem finish (h : Traced log i w) (ended : w.ended = true) (free : w.hand = none)
    (items : w.source.items = []) :
    Traced log i { w with hand := none, finished := true, source := w.source.abandon } :=
  ⟨by rw [h.inOrder, free, items]; rfl, fun _ => ⟨ended, rfl, rfl⟩⟩

end Traced

/-! ## What is true as long as the receiver is there -/

namespace Inflow

/-- What is true as long as the receiver of the output is there. -/
structure Live (t : Inflow α) : Prop where
  isOpen : t.fan.output.closed = false
  output : (puts t.log).map Prod.snd = arrivals t.log ++ t.fan.output.items
  known : ∀ e ∈ t.log, ∀ i, e.source? = some i → i < t.fan.forwarders.length
  traced : ∀ (i : Nat) (w : Forwarder α), t.fan.forwarders[i]? = some w → Traced t.log i w

/-- Before any event nothing was sent, and all is in order. -/
theorem live_ofCapacity (capacity : Nat) : (ofCapacity capacity : Inflow α).Live where
  isOpen := rfl
  output := rfl
  known e he := nomatch he
  traced i w lookup := by simp [ofCapacity] at lookup

variable {t t' : Inflow α}

/-- A receiver that is gone does not come back. -/
theorem receiver_of_moves (h : t.Moves t') (present : t'.receiver = true) :
    t.receiver = true := by
  cases h with
  | dropped => cases present
  | _ => exact present

namespace Live

/-- The output stays open while its receiver is there. -/
theorem isOpen_of_moves (s : t.Live) (h : t.Moves t') (present : t'.receiver = true) :
    t'.fan.output.closed = false := by
  cases h with
  | dropped => cases present
  | _ => exact s.isOpen

/-- What is put stands behind what waits, and what waits longest is received. -/
theorem output_of_moves (s : t.Live) (h : t.Moves t') (present : t'.receiver = true) :
    (puts t'.log).map Prod.snd = arrivals t'.log ++ t'.fan.output.items := by
  -- A value that is put.
  have put (origin : Option Nat) (value : α) :
      (puts (t.log ++ [.put origin value])).map Prod.snd =
        arrivals (t.log ++ [.put origin value]) ++ (t.fan.output.items ++ [value]) := by
    rw [puts_append, arrivals_append, List.map_append, s.output]
    simp [Entry.put?, Entry.received?]
  cases h with
  | idle | counted | added | ended | taken | finished => exact s.output
  | sent i w value =>
    rw [puts_append, arrivals_append, List.map_append, s.output]
    simp [Entry.put?, Entry.received?, setForwarder]
  | put i w value => exact put (some i) value
  | direct value => exact put none value
  | received x rest items =>
    rw [puts_append, arrivals_append, List.map_append, s.output, items]
    simp [Entry.put?, Entry.received?]
  | dropped => cases present

/-- Sources stay. -/
theorem length_le_of_moves (h : t.Moves t') :
    t.fan.forwarders.length ≤ t'.fan.forwarders.length := by
  cases h with
  | added => simp
  | sent | ended | taken | finished | put => exact Nat.le_of_eq List.length_set.symm
  | _ => exact Nat.le_refl _

/-- One event writes only of sources that there are. -/
theorem known_of_moves (s : t.Live) (h : t.Moves t') :
    ∀ e ∈ t'.log, ∀ i, e.source? = some i → i < t'.fan.forwarders.length := by
  have old : ∀ e ∈ t.log, ∀ i, e.source? = some i → i < t'.fan.forwarders.length :=
    fun e he i source => Nat.lt_of_lt_of_le (s.known e he i source) (length_le_of_moves h)
  have concat {x : Entry α} (hx : ∀ i, x.source? = some i → i < t.fan.forwarders.length) :
      ∀ e ∈ t.log ++ [x], ∀ i, e.source? = some i → i < t'.fan.forwarders.length :=
    fun e he i source => (List.mem_append.1 he).elim (fun he => old e he i source) fun last =>
      Nat.lt_of_lt_of_le (hx i (List.mem_singleton.1 last ▸ source)) (length_le_of_moves h)
  cases h with
  | idle | counted | added | ended | taken | finished | dropped => exact old
  | sent i w value lookup | put i w value _ lookup =>
    exact concat fun j source => Option.some.inj source ▸ (List.getElem?_eq_some_iff.1 lookup).1
  | direct | received => exact concat nofun

/-- **One event keeps the trace of every source.** -/
theorem traced_of_moves (s : t.Live) (h : t.Moves t') (present : t'.receiver = true) (j : Nat)
    (w' : Forwarder α) (lookup' : t'.fan.forwarders[j]? = some w') : Traced t'.log j w' := by
  -- An entry about one source, when that source has its account already.
  have entry {e : Entry α} {i : Nat} {w₁ w₂ : Forwarder α} (source : e.source? = some i)
      (lookup : t.fan.forwarders[i]? = some w₁) (here : Traced (t.log ++ [e]) i w₂)
      (lookup' : (t.fan.forwarders.set i w₂)[j]? = some w') : Traced (t.log ++ [e]) j w' := by
    rcases (getElem?_set_eq_some lookup).1 lookup' with ⟨rfl, rfl⟩ | ⟨other, lookup'⟩
    · exact here
    · exact (s.traced j w' lookup').append fun same =>
        other (Option.some.inj (same.symm.trans source))
  -- A step of one forwarder that the log says nothing of.
  have quiet {i : Nat} {w₁ w₂ : Forwarder α} (lookup : t.fan.forwarders[i]? = some w₁)
      (here : Traced t.log i w₂) (lookup' : (t.fan.forwarders.set i w₂)[j]? = some w') :
      Traced t.log j w' := by
    rcases (getElem?_set_eq_some lookup).1 lookup' with ⟨rfl, rfl⟩ | ⟨-, lookup'⟩
    · exact here
    · exact s.traced j w' lookup'
  cases h with
  | idle | counted => exact s.traced j w' lookup'
  | added source fresh =>
    rcases getElem?_concat_eq_some.1 lookup' with lookup' | ⟨rfl, rfl⟩
    · exact s.traced j w' lookup'
    · exact .new fresh fun e he same => Nat.lt_irrefl _ (s.known e he _ same)
  | sent i w value lookup lives =>
    exact entry rfl lookup ((s.traced i w lookup).sent lives value) lookup'
  | ended i w lookup => exact quiet lookup (s.traced i w lookup).ended lookup'
  | taken i w value rest lookup goesOn free items =>
    exact quiet lookup ((s.traced i w lookup).taken goesOn free items) lookup'
  | finished i w lookup reason =>
    rcases reason with closed | ⟨ended, free, items⟩
    · rw [s.isOpen] at closed
      cases closed
    · exact quiet lookup ((s.traced i w lookup).finish ended free items) lookup'
  | put i w value waiting lookup goesOn hand =>
    exact entry rfl lookup ((s.traced i w lookup).put goesOn hand) lookup'
  | direct | received => exact (s.traced j w' lookup').append nofun
  | dropped => cases present

/-- **One event keeps everything**, unless the receiver is dropped by it. -/
theorem of_moves (s : t.Live) (h : t.Moves t') (present : t'.receiver = true) : t'.Live where
  isOpen := s.isOpen_of_moves h present
  output := s.output_of_moves h present
  known := s.known_of_moves h
  traced := s.traced_of_moves h present

end Live

/-- **Everything holds after every run** that has not dropped the receiver. -/
theorem live_run (capacity : Nat) (events : List (Event α))
    (present : ((ofCapacity capacity : Inflow α).run events).receiver = true) :
    ((ofCapacity capacity : Inflow α).run events).Live :=
  run_induction (P := fun t => t.receiver = true → t.Live)
    (fun _ _ h s present => (s (receiver_of_moves h present)).of_moves h present) events _
    (fun _ => live_ofCapacity capacity) present

/-! ## What is promised -/

/-- Nobody is left who could send: neither the handle nor a direct sender, and every source has
ended and is drained. -/
structure Drained (f : FanIn α) : Prop where
  handle : f.handle = false
  senders : f.senders = 0
  sources : ∀ w ∈ f.forwarders, w.ended = true ∧ w.hand = none ∧ w.source.items = []

/-- What the senders of sources and the receiver of the output may count on. -/
structure Merges (t : Inflow α) : Prop where
  /-- What was received and what waits in the output is what was put there, in this order. -/
  output : (puts t.log).map Prod.snd = arrivals t.log ++ t.fan.output.items
  /-- What of it came from a source is, with what is still on its way behind it, what was sent to
  the source. -/
  sources : ∀ (i : Nat) (w : Forwarder α), t.fan.forwarders[i]? = some w →
    putBy t.log (some i) ++ (w.hand.toList ++ w.source.items) = sent t.log i
  /-- All of it came from a source or was sent directly. -/
  authentic : ∀ p ∈ puts t.log, ∀ i, p.1 = some i → i < t.fan.forwarders.length
  /-- Where the output says that it is closed, nobody is left who could send, and everything that
  was sent to a source or put into the output has been received. -/
  closed : t.fan.receive.1 = .closed → Drained t.fan ∧
    (∀ i < t.fan.forwarders.length, putBy t.log (some i) = sent t.log i) ∧
      arrivals t.log = (puts t.log).map Prod.snd
  /-- It says so once all forwarders have ended and everything was received. -/
  closes : Drained t.fan → (∀ w ∈ t.fan.forwarders, w.finished = true) →
    arrivals t.log = (puts t.log).map Prod.snd → t.fan.receive.1 = .closed

/-- The output has no sender left if the handle is gone, nobody else sends, and all forwarders
have ended. -/
theorem hasSender_eq_false_iff {f : FanIn α} : f.hasSender = false ↔
    f.handle = false ∧ f.senders = 0 ∧ ∀ w ∈ f.forwarders, w.finished = true := by
  simp [hasSender, and_assoc]

/-- An output whose receiver is there is closed when it is empty and nobody could send. -/
theorem receive_eq_closed_iff {f : FanIn α} (isOpen : f.output.closed = false) :
    f.receive.1 = .closed ↔ f.output.items = [] ∧ f.hasSender = false := by
  simp only [receive, Queue.receive, Queue.take?]
  cases f.output.items with
  | nil => cases f.hasSender <;> simp [isOpen]
  | cons x rest => simp

/-- **Everything is merged, and nothing is lost, doubled or put out of order.**  Whatever the
capacity of the output, and in whatever order sources are added and filled and ended, forwarders go
on, senders come and go and values are received: as long as the receiver of the output is there, it
has got or will find what was sent to each source in the order in which it was sent, and it is not
told that the output is closed before it has got everything. -/
theorem run_merges (capacity : Nat) (events : List (Event α)) :
    let t := (ofCapacity capacity : Inflow α).run events
    t.receiver = true → t.Merges := by
  intro t present
  have s : t.Live := live_run capacity events present
  have closed_iff := receive_eq_closed_iff s.isOpen
  rw [hasSender_eq_false_iff] at closed_iff
  refine ⟨s.output, fun i w lookup => (s.traced i w lookup).inOrder.symm, fun p hp i origin => ?_,
    fun closed => ?_, fun drained finished all => closed_iff.2 ⟨?_, drained.handle, drained.senders,
      finished⟩⟩
  · obtain ⟨e, he, put⟩ := List.mem_filterMap.1 hp
    cases e with
    | put o value => cases put; exact s.known _ he i origin
    | sent | received => cases put
  · obtain ⟨empty, handle, senders, finished⟩ := closed_iff.1 closed
    have drained : ∀ (i : Nat) (w : Forwarder α), t.fan.forwarders[i]? = some w →
        w.ended = true ∧ w.hand = none ∧ w.source.items = [] := fun i w lookup =>
      (s.traced i w lookup).drained (finished w (List.mem_of_getElem? lookup))
    refine ⟨⟨handle, senders, fun w hw => ?_⟩, fun i inside => ?_, ?_⟩
    · obtain ⟨i, lookup⟩ := List.mem_iff_getElem?.1 hw
      exact drained i w lookup
    · have lookup := List.getElem?_eq_getElem inside
      obtain ⟨-, free, items⟩ := drained i _ lookup
      rw [(s.traced i _ lookup).inOrder, free, items]
      simp
    · rw [s.output, empty, List.append_nil]
  · exact List.append_right_eq_self.1 (s.output.symm.trans all.symm)

/-- Two sources and a direct sender share an output with room for one value. -/
def crossing : List (Event Nat) :=
  [.addSource 2, .addSource 1, .clone, .send 0 10, .send 1 20, .forward 1, .forward 0, .forward 0,
    .forward 1, .send 0 11, .forward 0, .forward 0, .direct 90, .overtake [0, 1], .receive,
    .forward 0, .receive, .direct 90, .release, .endSource 0, .receive, .forward 1, .endSource 1,
    .forward 0, .dropSender, .forward 1, .receive]

/-- Two sources whose values cross on their way through an output with room for one. -/
theorem run_merges_crossing :
    let t := (ofCapacity 1 : Inflow Nat).run crossing
    t.receiver = true ∧ t.Merges ∧
      puts t.log = [(some 0, 10), (some 0, 11), (none, 90), (some 1, 20)] ∧
      t.fan.receive.1 = .closed ∧ arrivals t.log = [10, 11, 90, 20] :=
  ⟨by decide, run_merges 1 crossing (by decide), by decide, by decide, by decide⟩

end Inflow
end FanIn
end ApiGraph
