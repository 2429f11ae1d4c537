import KiroProxy.Foundation.Runs
import KiroProxy.GoStrings
import Mathlib.Data.List.Nodup
import Mathlib.Logic.Function.Basic

/-!
# Admin events

`proxy/broadcaster.go` with the streams of `proxy/events_api.go`: publishers that hold the lock
for reading offer an event to every subscriber, and a subscriber whose buffer is full misses it.
A stream registers its channel, reads from it and takes it out again, under the lock for writing.
-/

namespace KiroProxy.Broadcaster

open Foundation.Runs GoStrings

set_option autoImplicit false

def channelCapacity : Nat := 16

section States

structure Event where
  type : GoString
  payload : GoString
  deriving DecidableEq

/-- A channel with what its stream has read of it. -/
structure Channel where
  queue : List Event
  closed : Bool
  received : List Event

def madeChannel : Channel := ⟨[], false, []⟩

/-- A call of `Publish`: the subscribers that its loop has visited, and those there were when it
took the lock. -/
structure Publication where
  event : Event
  visited : List Nat
  done : Bool
  present : List Nat

def noPublication : Publication := ⟨⟨[], []⟩, [], true, []⟩

/-- An event that the loop of a publication has come with, to a buffer of that length. -/
structure Offer where
  publication : Nat
  subscriber : Nat
  event : Event
  queued : Nat

def Offer.accepted (offer : Offer) : Bool := offer.queued < channelCapacity

/-- `drawn` are the identifiers of `Subscribe` calls that wait for the lock; publications are
numbered as they begin. -/
structure State where
  nextID : Nat
  drawn : List Nat
  subscribers : List Nat
  channels : Nat → Channel
  begun : Nat
  publications : Nat → Publication
  offers : List Offer
  panicked : Bool

def started : State := ⟨0, [], [], fun _ => madeChannel, 0, fun _ => noPublication, [], false⟩

variable (state : State)

/-- No publication holds the lock. -/
def Free : Prop := ∀ number < state.begun, (state.publications number).done = true

instance : Decidable (Free state) := inferInstanceAs (Decidable (∀ number < state.begun, _))

/-- The subscribers that a publication has come to. -/
def offeredTo (number : Nat) : List Nat :=
  (state.offers.filter fun offer => offer.publication == number).map Offer.subscriber

/-- The events that went into the channel of a subscriber. -/
def acceptedBy (id : Nat) : List Event :=
  (state.offers.filter fun offer => offer.subscriber == id && offer.accepted).map Offer.event

end States

section Steps

/-- `draw` and `register` are the two halves of `Subscribe`; `publish`, `offer` and `finish` are
a publication, which goes over the map in any order. -/
inductive Action where
  | draw
  | register (id : Nat)
  | publish (event : Event)
  | offer (number id : Nat)
  | finish (number : Nat)
  | receive (id : Nat)
  | unsubscribe (id : Nat)

/-- The steps that are not blocked. The lock for writing waits for the publications. -/
def Enabled (state : State) : Action → Prop
  | .draw => True
  | .register id => id ∈ state.drawn ∧ Free state
  | .publish _ => True
  | .offer number id => (state.publications number).done = false ∧ id ∈ state.subscribers ∧
      id ∉ (state.publications number).visited
  | .finish number => (state.publications number).done = false ∧
      ∀ id ∈ state.subscribers, id ∈ (state.publications number).visited
  | .receive id => id ∈ state.subscribers ∧ (state.channels id).queue ≠ []
  | .unsubscribe id => id ∈ state.subscribers ∧ Free state

instance (state : State) (action : Action) : Decidable (Enabled state action) := by
  cases action <;> unfold Enabled <;> infer_instance

/-- A send that does not wait. On a closed channel it panics, which `panicked` records. -/
def Channel.send (channel : Channel) (event : Event) : Channel :=
  if !channel.closed ∧ channel.queue.length < channelCapacity then
    { channel with queue := channel.queue ++ [event] }
  else channel

def Channel.receive (channel : Channel) : Channel :=
  { channel with
    queue := channel.queue.tail
    received := channel.received ++ channel.queue.take 1 }

def setChannel (state : State) (id : Nat) (channel : Channel) : Nat → Channel :=
  Function.update state.channels id channel

def setPublication (state : State) (number : Nat) (publication : Publication) :
    Nat → Publication :=
  Function.update state.publications number publication

def next (state : State) : Action → State
  | .draw =>
      let id := state.nextID + 1
      { state with
        nextID := id
        drawn := state.drawn ++ [id]
        channels := setChannel state id madeChannel }
  | .register id =>
      { state with drawn := state.drawn.erase id, subscribers := state.subscribers ++ [id] }
  | .publish event =>
      { state with
        begun := state.begun + 1
        publications := setPublication state state.begun ⟨event, [], false, state.subscribers⟩ }
  | .offer number id =>
      let publication := state.publications number
      let channel := state.channels id
      { state with
        channels := setChannel state id (channel.send publication.event)
        publications := setPublication state number
          { publication with visited := publication.visited ++ [id] }
        offers := state.offers ++ [⟨number, id, publication.event, channel.queue.length⟩]
        panicked := state.panicked || channel.closed }
  | .finish number =>
      { state with
        publications := setPublication state number
          { state.publications number with done := true } }
  | .receive id =>
      { state with channels := setChannel state id (state.channels id).receive }
  | .unsubscribe id =>
      { state with
        subscribers := state.subscribers.erase id
        channels := setChannel state id { state.channels id with closed := true }
        panicked := state.panicked || (state.channels id).closed }

def step (state : State) (action : Action) : State :=
  if Enabled state action then next state action else state

end Steps

section Tables

/-- Who is in `drawn` or registered has a channel of its own, and it is open. -/
structure Registered (state : State) : Prop where
  distinct : (state.drawn ++ state.subscribers).Nodup
  issued : ∀ id ∈ state.drawn ++ state.subscribers, id ≤ state.nextID
  opened : ∀ id ∈ state.drawn ++ state.subscribers, (state.channels id).closed = false
  offered : ∀ offer ∈ state.offers, offer.subscriber ≤ state.nextID
  calm : state.panicked = false

variable {state : State}

theorem send_closed (channel : Channel) (event : Event) :
    (channel.send event).closed = channel.closed := by
  unfold Channel.send
  split <;> rfl

theorem set_channel_closed (id other : Nat) (channel : Channel)
    (same : channel.closed = (state.channels id).closed) :
    (setChannel state id channel other).closed = (state.channels other).closed := by
  by_cases own : other = id
  · rw [own, ← same]
    simp [setChannel]
  · simp [setChannel, Function.update_of_ne own]

theorem registered_start : Registered started := by
  constructor <;> simp [started]

theorem registered_draw (registered : Registered state) :
    Registered (next state .draw) := by
  have fresh : state.nextID + 1 ∉ state.drawn ++ state.subscribers := by
    intro member
    have known := registered.issued _ member
    omega
  have moved : (state.drawn ++ [state.nextID + 1] ++ state.subscribers).Perm
      ((state.nextID + 1) :: (state.drawn ++ state.subscribers)) := by
    rw [List.append_assoc, List.singleton_append]
    exact List.perm_middle
  constructor
  · exact moved.nodup_iff.mpr (List.nodup_cons.mpr ⟨fresh, registered.distinct⟩)
  · intro id member
    obtain rfl | known := List.mem_cons.mp (moved.mem_iff.mp member)
    · exact le_refl _
    · exact (registered.issued id known).trans (Nat.le_succ _)
  · intro id member
    obtain rfl | known := List.mem_cons.mp (moved.mem_iff.mp member)
    · simp [next, setChannel, madeChannel]
    · have other : id ≠ state.nextID + 1 := fun same => fresh (same ▸ known)
      simpa [next, setChannel, Function.update_of_ne other] using registered.opened id known
  · intro offer member
    exact (registered.offered offer member).trans (Nat.le_succ _)
  · exact registered.calm

theorem registered_register (registered : Registered state) (id : Nat)
    (drawn : id ∈ state.drawn) : Registered (next state (.register id)) := by
  have moved : (state.drawn.erase id ++ (state.subscribers ++ [id])).Perm
      (state.drawn ++ state.subscribers) := by
    have back := (List.perm_cons_erase drawn).append_right state.subscribers
    refine List.Perm.trans ?_ back.symm
    rw [← List.append_assoc]
    exact List.perm_append_singleton id _
  constructor
  · exact moved.nodup_iff.mpr registered.distinct
  · exact fun id member => registered.issued id (moved.mem_iff.mp member)
  · exact fun id member => registered.opened id (moved.mem_iff.mp member)
  · exact registered.offered
  · exact registered.calm

theorem registered_offer (registered : Registered state) (number id : Nat)
    (subscribed : id ∈ state.subscribers) : Registered (next state (.offer number id)) := by
  have known : id ∈ state.drawn ++ state.subscribers := List.mem_append_right _ subscribed
  constructor
  · exact registered.distinct
  · exact registered.issued
  · intro other member
    exact (set_channel_closed id other _ (send_closed _ _)).trans (registered.opened other member)
  · intro offer member
    obtain old | new := List.mem_append.mp member
    · exact registered.offered offer old
    · rw [List.mem_singleton.mp new]
      exact registered.issued id known
  · show (state.panicked || (state.channels id).closed) = false
    rw [registered.calm, registered.opened id known]
    rfl

theorem registered_receive (registered : Registered state) (id : Nat) :
    Registered (next state (.receive id)) := by
  constructor
  · exact registered.distinct
  · exact registered.issued
  · intro other member
    exact (set_channel_closed id other (state.channels id).receive rfl).trans
      (registered.opened other member)
  · exact registered.offered
  · exact registered.calm

theorem registered_unsubscribe (registered : Registered state) (id : Nat)
    (subscribed : id ∈ state.subscribers) : Registered (next state (.unsubscribe id)) := by
  have known : id ∈ state.drawn ++ state.subscribers := List.mem_append_right _ subscribed
  have fewer : (state.drawn ++ state.subscribers.erase id).Sublist
      (state.drawn ++ state.subscribers) :=
    (List.Sublist.refl _).append List.erase_sublist
  have apart := List.nodup_append.mp registered.distinct
  constructor
  · exact registered.distinct.sublist fewer
  · exact fun other member => registered.issued other (fewer.mem member)
  · intro other member
    have remains : other ≠ id := by
      rintro rfl
      obtain drawn | left := List.mem_append.mp member
      · exact apart.2.2 other drawn other subscribed rfl
      · exact apart.2.1.not_mem_erase left
    simpa [next, setChannel, Function.update_of_ne remains] using
      registered.opened other (fewer.mem member)
  · exact registered.offered
  · show (state.panicked || (state.channels id).closed) = false
    rw [registered.calm, registered.opened id known]
    rfl

theorem registered_step (registered : Registered state) (action : Action) :
    Registered (step state action) := by
  rw [step]
  split_ifs with enabled
  · cases action with
    | draw => exact registered_draw registered
    | register id => exact registered_register registered id enabled.1
    | publish event => exact ⟨registered.1, registered.2, registered.3, registered.4, registered.5⟩
    | offer number id => exact registered_offer registered number id enabled.2.1
    | finish number => exact ⟨registered.1, registered.2, registered.3, registered.4, registered.5⟩
    | receive id => exact registered_receive registered id
    | unsubscribe id => exact registered_unsubscribe registered id enabled.1
  · exact registered

end Tables

section Channels

/-- The channels hold what they accepted and their streams have not read. -/
structure Delivered (state : State) : Prop where
  bounded : ∀ id, (state.channels id).queue.length ≤ channelCapacity
  kept : ∀ id, (state.channels id).received ++ (state.channels id).queue = acceptedBy state id
  lengths : ∀ offer ∈ state.offers, offer.queued ≤ channelCapacity

variable {state : State}

theorem delivered_start : Delivered started where
  bounded := by simp [started, madeChannel]
  kept := by simp [started, madeChannel, acceptedBy]
  lengths := by simp [started]

theorem accepted_offer (number id other : Nat) :
    acceptedBy (next state (.offer number id)) other =
      acceptedBy state other ++
        if other = id ∧ (state.channels id).queue.length < channelCapacity then
          [(state.publications number).event]
        else [] := by
  simp only [acceptedBy, next, List.filter_append, List.map_append]
  congr 1
  by_cases same : other = id
  · by_cases room : (state.channels id).queue.length < channelCapacity
    · simp [same, room, Offer.accepted]
    · simp [same, room, Offer.accepted]
  · have apart : ¬id = other := fun back => same back.symm
    simp [same, apart]

theorem delivered_draw (registered : Registered state) (delivered : Delivered state) :
    Delivered (next state .draw) := by
  have silent : acceptedBy state (state.nextID + 1) = [] := by
    rw [acceptedBy, List.map_eq_nil_iff, List.filter_eq_nil_iff]
    intro offer member
    have known := registered.offered offer member
    have other : offer.subscriber ≠ state.nextID + 1 := by omega
    simp [other]
  constructor
  · intro id
    by_cases fresh : id = state.nextID + 1
    · simp [next, setChannel, fresh, madeChannel]
    · simpa [next, setChannel, Function.update_of_ne fresh] using delivered.bounded id
  · intro id
    have same : acceptedBy (next state .draw) id = acceptedBy state id := rfl
    rw [same]
    by_cases fresh : id = state.nextID + 1
    · rw [fresh, silent]
      simp [next, setChannel, madeChannel]
    · simpa [next, setChannel, Function.update_of_ne fresh] using delivered.kept id
  · exact delivered.lengths

theorem delivered_offer (delivered : Delivered state) (number id : Nat)
    (opened : (state.channels id).closed = false) :
    Delivered (next state (.offer number id)) := by
  have own : (next state (.offer number id)).channels id =
      (state.channels id).send (state.publications number).event := by
    simp [next, setChannel]
  constructor
  · intro other
    by_cases same : other = id
    · rw [same, own, Channel.send, opened]
      split_ifs with room
      · rw [List.length_append]
        exact room.2
      · exact delivered.bounded id
    · simpa [next, setChannel, Function.update_of_ne same] using delivered.bounded other
  · intro other
    rw [accepted_offer]
    by_cases same : other = id
    · rw [same, own, Channel.send, opened, ← delivered.kept id]
      by_cases room : (state.channels id).queue.length < channelCapacity
      · simp [room]
      · simp [room]
    · simpa [next, setChannel, Function.update_of_ne same, same] using delivered.kept other
  · intro offer member
    obtain old | new := List.mem_append.mp member
    · exact delivered.lengths offer old
    · rw [List.mem_singleton.mp new]
      exact delivered.bounded id

theorem delivered_receive (delivered : Delivered state) (id : Nat) :
    Delivered (next state (.receive id)) := by
  have own : (next state (.receive id)).channels id = (state.channels id).receive := by
    simp [next, setChannel]
  constructor
  · intro other
    by_cases same : other = id
    · rw [same, own]
      have bounded := delivered.bounded id
      simp only [Channel.receive, List.length_tail]
      omega
    · simpa [next, setChannel, Function.update_of_ne same] using delivered.bounded other
  · intro other
    have unread : acceptedBy (next state (.receive id)) other = acceptedBy state other := rfl
    rw [unread]
    by_cases same : other = id
    · rw [same, own, ← delivered.kept id]
      simp only [Channel.receive, List.append_assoc]
      rw [← List.drop_one, List.take_append_drop]
    · simpa [next, setChannel, Function.update_of_ne same] using delivered.kept other
  · exact delivered.lengths

theorem delivered_unsubscribe (delivered : Delivered state) (id : Nat) :
    Delivered (next state (.unsubscribe id)) := by
  have channel (other : Nat) :
      ((next state (.unsubscribe id)).channels other).queue = (state.channels other).queue ∧
      ((next state (.unsubscribe id)).channels other).received =
        (state.channels other).received := by
    by_cases same : other = id
    · rw [same]
      simp [next, setChannel]
    · simp [next, setChannel, Function.update_of_ne same]
  constructor
  · intro other
    rw [(channel other).1]
    exact delivered.bounded other
  · intro other
    rw [(channel other).1, (channel other).2]
    exact delivered.kept other
  · exact delivered.lengths

theorem delivered_step (registered : Registered state) (delivered : Delivered state)
    (action : Action) : Delivered (step state action) := by
  rw [step]
  split_ifs with enabled
  · cases action with
    | draw => exact delivered_draw registered delivered
    | register id => exact ⟨delivered.bounded, delivered.kept, delivered.lengths⟩
    | publish event => exact ⟨delivered.bounded, delivered.kept, delivered.lengths⟩
    | offer number id =>
        exact delivered_offer delivered number id
          (registered.opened id (List.mem_append_right _ enabled.2.1))
    | finish number => exact ⟨delivered.bounded, delivered.kept, delivered.lengths⟩
    | receive id => exact delivered_receive delivered id
    | unsubscribe id => exact delivered_unsubscribe delivered id
  · exact delivered

end Channels

section Publications

/-- A publication that runs finds the map as it was, and comes to each entry once. -/
structure Booked (state : State) : Prop where
  visits : ∀ number, offeredTo state number = (state.publications number).visited
  once : ∀ number, (state.publications number).visited.Nodup
  within : ∀ number, ∀ id ∈ (state.publications number).visited,
    id ∈ (state.publications number).present
  distinct : ∀ number, (state.publications number).present.Nodup
  running : ∀ number, (state.publications number).done = false →
    number < state.begun ∧ (state.publications number).present = state.subscribers
  finished : ∀ number, (state.publications number).done = true →
    ∀ id ∈ (state.publications number).present, id ∈ (state.publications number).visited
  told : ∀ offer ∈ state.offers, offer.publication < state.begun ∧
    offer.event = (state.publications offer.publication).event

variable {state : State}

theorem booked_start : Booked started := by
  constructor <;> simp [started, noPublication, offeredTo]

/-- Who takes the lock for writing finds no publication that runs. -/
theorem booked_free (booked : Booked state) (free : Free state) (number : Nat) :
    (state.publications number).done = true := by
  by_contra running
  have begun := booked.running number (by simpa using running)
  exact running (free number begun.1)

theorem booked_tables (booked : Booked state) (free : Free state) (drawn subscribers : List Nat)
    (channels : Nat → Channel) (panicked : Bool) :
    Booked { state with drawn, subscribers, channels, panicked } where
  visits := booked.visits
  once := booked.once
  within := booked.within
  distinct := booked.distinct
  running number running := by
    have done := booked_free booked free number
    have contrary : true = false := done.symm.trans running
    cases contrary
  finished := booked.finished
  told := booked.told

theorem booked_publish (booked : Booked state) (registered : Registered state) (event : Event) :
    Booked (next state (.publish event)) := by
  have fresh : ∀ offer ∈ state.offers, offer.publication ≠ state.begun := by
    intro offer member
    exact (booked.told offer member).1.ne
  have unoffered : offeredTo state state.begun = [] := by
    rw [offeredTo, List.map_eq_nil_iff, List.filter_eq_nil_iff]
    intro offer member
    simpa using fresh offer member
  have own : (next state (.publish event)).publications state.begun =
      ⟨event, [], false, state.subscribers⟩ := by simp [next, setPublication]
  have others (number : Nat) (other : number ≠ state.begun) :
      (next state (.publish event)).publications number = state.publications number := by
    simp [next, setPublication, Function.update_of_ne other]
  have offers (number : Nat) :
      offeredTo (next state (.publish event)) number = offeredTo state number := rfl
  constructor
  · intro number
    rw [offers]
    by_cases same : number = state.begun
    · rw [same, own, unoffered]
    · rw [others number same]
      exact booked.visits number
  · intro number
    by_cases same : number = state.begun
    · rw [same, own]
      exact List.nodup_nil
    · rw [others number same]
      exact booked.once number
  · intro number
    by_cases same : number = state.begun
    · rw [same, own]
      exact fun id member => absurd member List.not_mem_nil
    · rw [others number same]
      exact booked.within number
  · intro number
    by_cases same : number = state.begun
    · rw [same, own]
      exact (List.nodup_append.mp registered.distinct).2.1
    · rw [others number same]
      exact booked.distinct number
  · intro number
    by_cases same : number = state.begun
    · rw [same, own]
      exact fun _ => ⟨Nat.lt_succ_self _, rfl⟩
    · rw [others number same]
      intro running
      obtain ⟨begun, present⟩ := booked.running number running
      exact ⟨begun.trans (Nat.lt_succ_self _), present⟩
  · intro number
    by_cases same : number = state.begun
    · rw [same, own]
      exact fun contrary => absurd contrary Bool.false_ne_true
    · rw [others number same]
      exact booked.finished number
  · intro offer member
    obtain ⟨begun, event⟩ := booked.told offer member
    rw [others offer.publication begun.ne]
    exact ⟨begun.trans (Nat.lt_succ_self _), event⟩

theorem booked_offer (booked : Booked state) (number id : Nat)
    (running : (state.publications number).done = false) (subscribed : id ∈ state.subscribers)
    (unvisited : id ∉ (state.publications number).visited) :
    Booked (next state (.offer number id)) := by
  obtain ⟨begun, present⟩ := booked.running number running
  have own : (next state (.offer number id)).publications number =
      { state.publications number with
        visited := (state.publications number).visited ++ [id] } := by simp [next, setPublication]
  have others (other : Nat) (apart : other ≠ number) :
      (next state (.offer number id)).publications other = state.publications other := by
    simp [next, setPublication, Function.update_of_ne apart]
  constructor
  · intro other
    have added : offeredTo (next state (.offer number id)) other =
        offeredTo state other ++ if other = number then [id] else [] := by
      simp only [offeredTo, next, List.filter_append, List.map_append]
      congr 1
      by_cases same : other = number
      · simp [same]
      · have apart : ¬number = other := fun back => same back.symm
        simp [same, apart]
    rw [added]
    by_cases same : other = number
    · rw [same, own, booked.visits number]
      simp
    · rw [others other same, booked.visits other]
      simp [same]
  · intro other
    by_cases same : other = number
    · rw [same, own]
      exact (List.perm_append_singleton id _).nodup_iff.mpr
        (List.nodup_cons.mpr ⟨unvisited, booked.once number⟩)
    · rw [others other same]
      exact booked.once other
  · intro other
    by_cases same : other = number
    · rw [same, own]
      intro visited member
      obtain old | new := List.mem_append.mp member
      · exact booked.within number visited old
      · rw [List.mem_singleton.mp new]
        show id ∈ (state.publications number).present
        rw [present]
        exact subscribed
    · rw [others other same]
      exact booked.within other
  · intro other
    by_cases same : other = number
    · rw [same, own]
      exact booked.distinct number
    · rw [others other same]
      exact booked.distinct other
  · intro other
    by_cases same : other = number
    · rw [same, own]
      exact booked.running number
    · rw [others other same]
      exact booked.running other
  · intro other
    by_cases same : other = number
    · rw [same, own]
      intro done
      have contrary : false = true := running.symm.trans done
      cases contrary
    · rw [others other same]
      exact booked.finished other
  · intro offer member
    have events (other : Nat) : ((next state (.offer number id)).publications other).event =
        (state.publications other).event := by
      by_cases same : other = number
      · rw [same, own]
      · rw [others other same]
    rw [events]
    obtain old | new := List.mem_append.mp member
    · exact booked.told offer old
    · rw [List.mem_singleton.mp new]
      exact ⟨begun, rfl⟩

theorem booked_finish (booked : Booked state) (number : Nat)
    (running : (state.publications number).done = false)
    (all : ∀ id ∈ state.subscribers, id ∈ (state.publications number).visited) :
    Booked (next state (.finish number)) := by
  have own : (next state (.finish number)).publications number =
      { state.publications number with done := true } := by simp [next, setPublication]
  have others (other : Nat) (apart : other ≠ number) :
      (next state (.finish number)).publications other = state.publications other := by
    simp [next, setPublication, Function.update_of_ne apart]
  have parts (other : Nat) :
      ((next state (.finish number)).publications other).visited =
          (state.publications other).visited ∧
        ((next state (.finish number)).publications other).present =
          (state.publications other).present ∧
        ((next state (.finish number)).publications other).event =
          (state.publications other).event := by
    by_cases same : other = number
    · rw [same, own]
      exact ⟨rfl, rfl, rfl⟩
    · rw [others other same]
      exact ⟨rfl, rfl, rfl⟩
  constructor
  · intro other
    rw [(parts other).1]
    exact booked.visits other
  · intro other
    rw [(parts other).1]
    exact booked.once other
  · intro other
    rw [(parts other).1, (parts other).2.1]
    exact booked.within other
  · intro other
    rw [(parts other).2.1]
    exact booked.distinct other
  · intro other
    by_cases same : other = number
    · rw [same, own]
      exact fun contrary => absurd contrary.symm Bool.false_ne_true
    · rw [others other same]
      exact booked.running other
  · intro other
    by_cases same : other = number
    · rw [same, own]
      intro _ id member
      exact all id ((booked.running number running).2 ▸ member)
    · rw [others other same]
      exact booked.finished other
  · intro offer member
    rw [(parts offer.publication).2.2]
    exact booked.told offer member

theorem booked_step (registered : Registered state) (booked : Booked state) (action : Action) :
    Booked (step state action) := by
  rw [step]
  split_ifs with enabled
  · cases action with
    | draw => exact ⟨booked.1, booked.2, booked.3, booked.4, booked.5, booked.6, booked.7⟩
    | register id => exact booked_tables booked enabled.2 _ _ _ _
    | publish event => exact booked_publish booked registered event
    | offer number id => exact booked_offer booked number id enabled.1 enabled.2.1 enabled.2.2
    | finish number => exact booked_finish booked number enabled.1 enabled.2
    | receive id => exact ⟨booked.1, booked.2, booked.3, booked.4, booked.5, booked.6, booked.7⟩
    | unsubscribe id => exact booked_tables booked enabled.2 _ _ _ _
  · exact booked

end Publications

section Runs

def ran (actions : List Action) : State := run step started actions

theorem ran_invariants (actions : List Action) :
    Registered (ran actions) ∧ Delivered (ran actions) ∧ Booked (ran actions) := by
  apply invariant_of_steps step
    (fun state => Registered state ∧ Delivered state ∧ Booked state)
  · rintro state action ⟨registered, delivered, booked⟩
    exact ⟨registered_step registered action, delivered_step registered delivered action,
      booked_step registered booked action⟩
  · exact ⟨registered_start, delivered_start, booked_start⟩

/-- What holds of the events in any interleaving. -/
structure Broadcast (state : State) : Prop where
  /-- No event is sent on a closed channel, and none is closed again. -/
  calm : state.panicked = false
  /-- A stream has read, in their order, the events its channel accepted but the last few. -/
  kept : ∀ id, (state.channels id).queue.length ≤ channelCapacity ∧
    (state.channels id).received ++ (state.channels id).queue = acceptedBy state id
  missed : ∀ offer ∈ state.offers, offer.accepted = false → offer.queued = channelCapacity
  /-- A publication that is done has come once to each subscriber there was when it began. -/
  offered : ∀ number, (state.publications number).done = true →
    (offeredTo state number).Perm (state.publications number).present
  /-- One that runs has come to none twice, and nobody comes or goes meanwhile. -/
  running : ∀ number, (state.publications number).done = false →
    (offeredTo state number).Nodup ∧ (state.publications number).present = state.subscribers
  told : ∀ offer ∈ state.offers, offer.event = (state.publications offer.publication).event

/-- Every interleaving of streams and publishers keeps the events in order, and loses one only
at a full buffer. -/
theorem broadcasts_sound (actions : List Action) : Broadcast (ran actions) := by
  obtain ⟨registered, delivered, booked⟩ := ran_invariants actions
  constructor
  · exact registered.calm
  · exact fun id => ⟨delivered.bounded id, delivered.kept id⟩
  · intro offer member missed
    have short := delivered.lengths offer member
    simp only [Offer.accepted, decide_eq_false_iff_not, not_lt] at missed
    exact le_antisymm short missed
  · intro number done
    rw [booked.visits number]
    exact (List.perm_ext_iff_of_nodup (booked.once number) (booked.distinct number)).mpr
      fun id => ⟨booked.within number id, booked.finished number done id⟩
  · intro number running
    rw [booked.visits number]
    exact ⟨booked.once number, (booked.running number running).2⟩
  · exact fun offer member => (booked.told offer member).2

end Runs

end KiroProxy.Broadcaster
