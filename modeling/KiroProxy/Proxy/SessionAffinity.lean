import KiroProxy.Foundation.CappedTables
import KiroProxy.Pool.Selection

/-!
# Session affinity

The bindings of conversations to accounts in `proxy/session_affinity.go`. A call reads the clock
before it waits for the lock. Beside the bindings a run keeps those that were made last, which are
never dropped, and counts the binds and the evictions.
-/

namespace KiroProxy.SessionAffinity

open Accounts
open ApiKeys (CreditAmount)
open Foundation.CappedTables Foundation.Runs Foundation.Tables Pool

set_option autoImplicit false

/-- In nanoseconds. -/
def sessionAffinityTTL : Nat := 3600 * 10 ^ 9

def maxSessionAffinityEntries : Nat := 10000

def evictionMark : Nat := maxSessionAffinityEntries * 9 / 10

/-- The account id of each conversation. -/
abbrev Bindings := Table GoString (Stamped GoString)

section Calls

def lookup (bindings : Bindings) (key : GoString) (now : Nat) : GoString × Bindings :=
  if key = [] then ([], bindings)
  else
    match bindings.get key with
    | none => ([], bindings)
    | some entry =>
        if entry.expiresAt < now then ([], bindings.erase key) else (entry.value, bindings)

/-- `Bind`, with the order in which an eviction visits the bindings. -/
def bind (range : MapRange (GoString × Stamped GoString)) (bindings : Bindings)
    (key accountID : GoString) (now : Nat) : Bindings :=
  if key = [] ∨ accountID = [] then bindings
  else
    record range maxSessionAffinityEntries evictionMark bindings key
      ⟨accountID, now + sessionAffinityTTL⟩ now

variable {Credit : Type} [CreditAmount Credit]

/-- The account for one attempt, with the bindings and the pool after it. -/
def pickAccount (enabled : Bool) (bindings : Bindings) (pool : AccountPool Credit)
    (conversationID : GoString) (request : Request) (now : Nat) :
    Option (Account Credit) × Bindings × AccountPool Credit :=
  let preferred := if enabled then lookup bindings conversationID now else ([], bindings)
  let picked := getPreferredForModelExcluding pool preferred.1 request
  (picked.1, preferred.2, picked.2)

end Calls

section Runs

structure State where
  now : Nat
  bindings : Bindings
  made : Bindings
  binds : Nat
  evictions : Nat

def State.start : State := ⟨0, .empty, .empty, 0, 0⟩

/-- A call waited for the lock after it had read the clock. -/
inductive Event where
  | advance (duration : Nat)
  | lookup (key : GoString) (waited : Nat)
  | bind (range : MapRange (GoString × Stamped GoString)) (key accountID : GoString)
      (waited : Nat)

def step (state : State) : Event → State
  | .advance duration => { state with now := state.now + duration }
  | .lookup key waited =>
      { state with bindings := (lookup state.bindings key (state.now - waited)).2 }
  | .bind range key accountID waited =>
      { state with
        bindings := bind range state.bindings key accountID (state.now - waited)
        made :=
          if key = [] ∨ accountID = [] then state.made
          else state.made.put key ⟨accountID, state.now - waited + sessionAffinityTTL⟩
        binds := state.binds + 1
        evictions :=
          if key ≠ [] ∧ accountID ≠ [] ∧ Full maxSessionAffinityEntries state.bindings key then
            state.evictions + 1
          else state.evictions }

/-- What holds between calls. Bindings above the mark, and a thousand for each eviction, are paid
for by binds. -/
structure Remembers (state : State) : Prop where
  part : ∀ key entry, state.bindings.get key = some entry → state.made.get key = some entry
  size : state.bindings.size ≤ maxSessionAffinityEntries
  paid : state.bindings.size - evictionMark + 1000 * state.evictions ≤ state.binds
  named : ∀ key entry, state.made.get key = some entry → key ≠ [] ∧ entry.value ≠ []

theorem remembers_start : Remembers State.start where
  part := by simp [State.start]
  size := Nat.zero_le _
  paid := by simp [State.start, Table.size, Table.empty]
  named := by simp [State.start]

theorem lookup_keeps (bindings : Bindings) (key : GoString) (now : Nat) :
    (lookup bindings key now).2.size ≤ bindings.size ∧
      ∀ other entry, (lookup bindings key now).2.get other = some entry →
        bindings.get other = some entry := by
  unfold lookup
  split_ifs with unnamed
  · exact ⟨Nat.le_refl _, fun _ _ stored => stored⟩
  · split
    · exact ⟨Nat.le_refl _, fun _ _ stored => stored⟩
    · split_ifs
      · refine ⟨erase_size bindings key, ?_⟩
        intro other entry stored
        rw [get_erase] at stored
        split_ifs at stored
        exact stored
      · exact ⟨Nat.le_refl _, fun _ _ stored => stored⟩

/-- A lookup drops an expired binding only. -/
theorem lookup_spares (bindings : Bindings) (key : GoString) (now : Nat) (other : GoString)
    (entry : Stamped GoString) (stored : bindings.get other = some entry)
    (live : now ≤ entry.expiresAt) : (lookup bindings key now).2.get other = some entry := by
  unfold lookup
  split_ifs with unnamed
  · exact stored
  · split
    · exact stored
    · rename_i found there
      split_ifs with expired
      · rw [get_erase, if_neg]
        · exact stored
        · intro same
          rw [same, there, Option.some_inj] at stored
          rw [stored] at expired
          omega
      · exact stored

theorem remembers_bind (state : State) (remembers : Remembers state)
    (range : MapRange (GoString × Stamped GoString)) (key accountID : GoString) (waited : Nat)
    (named : key ≠ []) (account : accountID ≠ []) :
    Remembers (step state (.bind range key accountID waited)) := by
  have kept : ¬ (key = [] ∨ accountID = []) := fun blank => blank.elim named account
  have sizes := record_size range maxSessionAffinityEntries evictionMark state.bindings key
    ⟨accountID, state.now - waited + sessionAffinityTTL⟩ (state.now - waited)
  have most : maxSessionAffinityEntries = 10000 := rfl
  have mark : evictionMark = 9000 := rfl
  have bounded := remembers.size
  have paid := remembers.paid
  constructor
  case part =>
    intro other entry stored
    dsimp only [step, bind] at stored ⊢
    rw [if_neg kept] at stored ⊢
    have origin := get_record _ _ _ _ _ _ _ other entry stored
    rw [get_put]
    split_ifs at origin ⊢ with same
    · rw [origin]
    · exact remembers.part other entry origin
  case size =>
    dsimp only [step, bind]
    rw [if_neg kept]
    obtain ⟨-, small⟩ | ⟨-, small⟩ := sizes <;> omega
  case paid =>
    dsimp only [step, bind]
    rw [if_neg kept]
    obtain ⟨full, small⟩ | ⟨room, small⟩ := sizes
    · have many := full.2
      rw [if_pos ⟨named, account, full⟩]
      omega
    · rw [if_neg fun full => room full.2.2]
      omega
  case named =>
    intro other entry stored
    dsimp only [step] at stored
    rw [if_neg kept, get_put] at stored
    split_ifs at stored with same
    · rw [← Option.some_inj.mp stored, same]
      exact ⟨named, account⟩
    · exact remembers.named other entry stored

theorem remembers_step (state : State) (event : Event) (remembers : Remembers state) :
    Remembers (step state event) := by
  cases event with
  | advance duration =>
      exact ⟨remembers.part, remembers.size, remembers.paid, remembers.named⟩
  | lookup key waited =>
      obtain ⟨smaller, old⟩ := lookup_keeps state.bindings key (state.now - waited)
      have paid := remembers.paid
      refine ⟨?_, Nat.le_trans smaller remembers.size, ?_, remembers.named⟩
      · intro other entry stored
        exact remembers.part other entry (old other entry stored)
      · change (lookup state.bindings key (state.now - waited)).2.size - evictionMark +
          1000 * state.evictions ≤ state.binds
        omega
  | bind range key accountID waited =>
      by_cases blank : key = [] ∨ accountID = []
      · have idle : ¬ (key ≠ [] ∧ accountID ≠ [] ∧
            Full maxSessionAffinityEntries state.bindings key) := by
          rintro ⟨named, account, -⟩
          exact blank.elim named account
        have paid := remembers.paid
        dsimp only [step, bind]
        rw [if_pos blank, if_pos blank, if_neg idle]
        exact ⟨remembers.part, remembers.size, Nat.le_succ_of_le paid, remembers.named⟩
      · rw [not_or] at blank
        exact remembers_bind state remembers range key accountID waited blank.1 blank.2

/-- In every run there are at most ten thousand bindings and at most one eviction in a thousand
binds; and what a lookup returns is the account that was bound last, within the hour. -/
theorem bindings_sound (events : List Event) :
    (run step State.start events).bindings.size ≤ 10000 ∧
      1000 * (run step State.start events).evictions ≤ (run step State.start events).binds ∧
      ∀ key now, (lookup (run step State.start events).bindings key now).1 ≠ [] →
        ∃ entry, (run step State.start events).made.get key = some entry ∧
          (lookup (run step State.start events).bindings key now).1 = entry.value ∧
            now ≤ entry.expiresAt := by
  have remembers : Remembers (run step State.start events) :=
    invariant_of_steps step Remembers remembers_step State.start remembers_start events
  refine ⟨remembers.size, Nat.le_trans (Nat.le_add_left _ _) remembers.paid, ?_⟩
  intro key now answered
  unfold lookup at answered ⊢
  split_ifs at answered ⊢ with unnamed
  · exact absurd rfl answered
  · cases stored : (run step State.start events).bindings.get key with
    | none =>
        rw [stored] at answered
        exact absurd rfl answered
    | some entry =>
        rw [stored] at answered
        dsimp only at answered ⊢
        split_ifs at answered ⊢ with expired
        · exact absurd rfl answered
        · exact ⟨entry, remembers.part key entry stored, rfl, Nat.le_of_not_lt expired⟩

end Runs

section Staying

/-- At a bind at most nine thousand conversations were bound within the hour. -/
def Fits (state : State) : Event → Prop
  | .bind _ _ _ waited => (unexpired state.made (state.now - waited)).size ≤ evictionMark
  | _ => True

/-- Every binding that was made within the hour is there. -/
structure Holds (state : State) : Prop where
  remembers : Remembers state
  held : ∀ key entry, state.made.get key = some entry → state.now ≤ entry.expiresAt →
    state.bindings.get key = some entry

theorem unexpired_part (state : State) (remembers : Remembers state) (now : Nat) :
    (unexpired state.bindings now).size ≤ (unexpired state.made now).size := by
  apply part_size
  intro key entry stored
  rw [get_unexpired] at stored ⊢
  exact ⟨remembers.part key entry stored.1, stored.2⟩

theorem holds_step (state : State) (event : Event) (holds : Holds state)
    (fits : Fits state event) : Holds (step state event) := by
  refine ⟨remembers_step state event holds.remembers, ?_⟩
  cases event with
  | advance duration =>
      intro key entry stored live
      exact holds.held key entry stored (Nat.le_trans (Nat.le_add_right _ _) live)
  | lookup key waited =>
      intro other entry stored live
      exact lookup_spares state.bindings key _ other entry (holds.held other entry stored live)
        (Nat.le_trans (Nat.sub_le _ _) live)
  | bind range key accountID waited =>
      intro other entry stored live
      have few := Nat.le_trans (unexpired_part state holds.remembers (state.now - waited)) fits
      dsimp only [step, bind] at stored live ⊢
      split_ifs at stored ⊢ with blank
      · exact holds.held other entry stored live
      · rw [get_put] at stored
        split_ifs at stored with same
        · rw [same, record, get_put, if_pos rfl, stored]
        · exact record_spares range _ _ _ _ _ _ few other same entry
            (holds.held other entry stored live) (Nat.le_trans (Nat.sub_le _ _) live)

variable {Credit : Type} [CreditAmount Credit]

/-- A follow-up turn within the hour goes to the account that served the conversation last, if
that account can serve, as long as nine thousand conversations at most are live at any bind. -/
theorem conversation_stays (events : List Event) (fits : StepsMeet step Fits State.start events)
    (pool : AccountPool Credit) (copies : CopiesOnly pool) (request : Request)
    (conversationID : GoString) (entry : Stamped GoString)
    (made : (run step State.start events).made.get conversationID = some entry)
    (live : (run step State.start events).now ≤ entry.expiresAt) (account : Account Credit)
    (member : account ∈ pool.accounts) (bound : account.id = entry.value)
    (able : canServe pool account request = true) (waited : Nat) :
    pickAccount true (run step State.start events).bindings pool conversationID request
        ((run step State.start events).now - waited) =
      (some account, (run step State.start events).bindings, pool) := by
  have holds : Holds (run step State.start events) :=
    run_of_always step Holds State.start events
      (always_of_guarded_steps step Fits Holds holds_step State.start
        ⟨remembers_start, fun _ _ stored _ => absurd stored (by simp [State.start])⟩ events fits)
  obtain ⟨named, someone⟩ := holds.remembers.named conversationID entry made
  have found : lookup (run step State.start events).bindings conversationID
      ((run step State.start events).now - waited) =
        (entry.value, (run step State.start events).bindings) := by
    have running : ¬ entry.expiresAt < (run step State.start events).now - waited := by omega
    rw [lookup, if_neg named, holds.held conversationID entry made live]
    dsimp only
    rw [if_neg running]
  rw [pickAccount, if_pos rfl, found]
  dsimp only
  rw [← bound, preferred_selected copies account member (bound ▸ someone) able]

theorem bound_conversation_stays :
    pickAccount true
        (run step State.start [.bind (.asStored _) (lit "conversation") (lit "b") 0]).bindings
        (Pool.reload newPool heavyAndTwo false) (lit "conversation") plainRequest 0 =
      (some (weightedAccount (lit "b") 1),
        (run step State.start [.bind (.asStored _) (lit "conversation") (lit "b") 0]).bindings,
        Pool.reload newPool heavyAndTwo false) := by
  have fits : StepsMeet step Fits State.start
      [.bind (.asStored _) (lit "conversation") (lit "b") 0] := by
    rw [steps_meet_cons]
    exact ⟨Nat.zero_le _, steps_meet_nil _ _ _⟩
  exact conversation_stays _ fits (Pool.reload newPool heavyAndTwo false)
    (reload_copies newPool heavyAndTwo false (by decide)) plainRequest (lit "conversation")
    ⟨lit "b", sessionAffinityTTL⟩ rfl (Nat.zero_le _) (weightedAccount (lit "b") 1)
    (List.Mem.tail _ (List.Mem.tail _ (List.Mem.head _))) rfl (by decide) 0

end Staying

end KiroProxy.SessionAffinity
