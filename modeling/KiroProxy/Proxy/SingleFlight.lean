import KiroProxy.Proxy.TokenRefresh

/-!
# Refreshes of one token

Calls for one account with the same stale tokens, among any other calls. At most one of their
upstream refreshes succeeds; who gets the lock after it finds other tokens in the store and
takes them.
-/

namespace KiroProxy.TokenRefresh

open Accounts
open Foundation.NamedLocks (InUse Phase Sound)
open Foundation.Runs GoStrings

set_option autoImplicit false

/-- How far the refresh of one token has come: nobody has refreshed it, a caller has and is
to store the renewal, or the renewal is stored. -/
inductive Flight where
  | fresh
  | spent (place : Nat) (renewal : Renewal)
  | renewed (place : Nat) (renewal : Renewal)

section Definitions

variable {Credit : Type}

def renewedTokens (old : GoString × GoString) (renewal : Renewal) : GoString × GoString :=
  (renewal.access, if renewal.refresh ≠ [] then renewal.refresh else old.2)

def Flight.tokens (old : GoString × GoString) : Flight → GoString × GoString
  | .fresh | .spent _ _ => old
  | .renewed _ renewal => renewedTokens old renewal

def Flight.winner : Flight → Option (Nat × Renewal)
  | .fresh => none
  | .spent place renewal | .renewed place renewal => some (place, renewal)

/-- A writer of the store leaves the tokens of the account; its old tokens are stale to
whoever looks, renewed ones are valid, and a refresh answers other tokens than the old. -/
def Assumed (letters : Letters) (id : GoString) (old : GoString × GoString)
    (state : State Credit) : Event Credit → Prop
  | .write accounts =>
      ∃ row written, storedRow state.accounts id = some row ∧
        storedRow accounts id = some written ∧ tokens written = tokens row ∧
        isAPIKeyAccount letters written = false
  | .act place (.look now) =>
      ∀ caller row, state.callers[place]? = some caller → caller.account.id = id →
        storedRow state.accounts id = some row →
        (tokens row = old → caller.force = true ∨ isValid row now = false) ∧
        (tokens row ≠ old → isValid row now = true)
  | .act place (.answer (.ok renewal)) =>
      ∀ caller, state.callers[place]? = some caller → caller.account.id = id →
        renewedTokens old renewal ≠ old
  | .act _ _ => True

/-- Why a call returned: with the renewed tokens, or for its context, for its own upstream
request, or after its own refresh. -/
def Outcome (old : GoString × GoString) (flight : Flight) (caller : Caller Credit) :
    Option GoString → Prop
  | none =>
      ∃ place renewal, flight = .renewed place renewal ∧
        tokens caller.account = renewedTokens old renewal
  | some err =>
      caller.canceled = some err ∨ caller.upstream = some (.error err) ∨
        ∃ renewal, caller.upstream = some (.ok renewal)

/-- What the flight says of a caller at its stage. -/
def Fits (old : GoString × GoString) (flight : Flight) (place : Nat) (caller : Caller Credit) :
    Stage → Prop
  | .calling | .waiting _ | .locked _ => tokens caller.account = old ∧ caller.upstream = none
  | .refreshing _ => flight = .fresh ∧ caller.upstream = none
  | .storing _ renewal =>
      flight = .spent place renewal ∧ caller.upstream = some (.ok renewal)
  | .storingArn _ _ | .rereading _ =>
      ∃ renewal, flight = .renewed place renewal ∧ caller.upstream = some (.ok renewal)
  | .unlocking _ result | .releasing _ result | .returned result =>
      Outcome old flight caller result ∧
        ∀ renewal, caller.upstream = some (.ok renewal) → flight = .renewed place renewal

structure Tracks (letters : Letters) (id : GoString) (old : GoString × GoString)
    (flight : Flight) (state : State Credit) : Prop where
  row : ∃ row, storedRow state.accounts id = some row ∧
    isAPIKeyAccount letters row = false ∧ tokens row = flight.tokens old
  differs : ∀ place renewal, flight.winner = some (place, renewal) →
    renewedTokens old renewal ≠ old
  won : ∀ place renewal, flight.winner = some (place, renewal) →
    ∃ caller, state.callers[place]? = some caller ∧ caller.account.id = id ∧
      caller.upstream = some (.ok renewal)
  storing : ∀ place renewal, flight = .spent place renewal →
    ∃ caller address, state.callers[place]? = some caller ∧ caller.account.id = id ∧
      caller.stage = .storing address renewal
  fits : ∀ place caller, state.callers[place]? = some caller → caller.account.id = id →
    Fits old flight place caller caller.stage

end Definitions

section Callers

variable {Credit : Type}

/-- Two callers that hold the lock of one account are one. -/
theorem alone (state : State Credit) (sound : Sound (lockState state)) (id : GoString)
    (first second : Nat) (left right : Caller Credit) (one other : Nat)
    (hereLeft : state.callers[first]? = some left)
    (hereRight : state.callers[second]? = some right)
    (holdsLeft : left.phase = .holding id one) (holdsRight : right.phase = .holding id other) :
    first = second := by
  apply sound.exclusive first second id one other
  · change (state.callers.map Caller.phase)[first]? = _
    rw [List.getElem?_map, hereLeft, Option.map_some, holdsLeft]
  · change (state.callers.map Caller.phase)[second]? = _
    rw [List.getElem?_map, hereRight, Option.map_some, holdsRight]

theorem set_cases (callers : List (Caller Credit)) (place other : Nat)
    (new caller : Caller Credit) (found : (callers.set place new)[other]? = some caller) :
    (other = place ∧ caller = new) ∨ (other ≠ place ∧ callers[other]? = some caller) := by
  rw [List.getElem?_set] at found
  split_ifs at found with same bound
  · exact Or.inl ⟨same.symm, (Option.some.inj found).symm⟩
  · exact Or.inr ⟨Ne.symm same, found⟩

theorem set_found (callers : List (Caller Credit)) (place other : Nat)
    (old new caller : Caller Credit) (here : callers[place]? = some old)
    (found : callers[other]? = some caller) :
    (callers.set place new)[other]? = some (if place = other then new else caller) := by
  rw [List.getElem?_set]
  have inside : place < callers.length := (List.getElem?_eq_some_iff.mp here).1
  split_ifs
  · rfl
  · exact found

/-- An action of one caller that leaves the flight as it is. -/
theorem tracks_set (letters : Letters) (id : GoString) (old : GoString × GoString)
    (flight : Flight) (state : State Credit) (tracks : Tracks letters id old flight state)
    (locks : KiroProxy.Foundation.NamedLocks.Registry GoString)
    (accounts : List (Account Credit)) (place : Nat) (caller new : Caller Credit)
    (here : state.callers[place]? = some caller) (same : new.account.id = caller.account.id)
    (row : ∃ row, storedRow accounts id = some row ∧ isAPIKeyAccount letters row = false ∧
      tokens row = flight.tokens old)
    (upstream : caller.account.id = id → flight ≠ .fresh → new.upstream = caller.upstream)
    (storing : caller.account.id = id → new.stage = caller.stage ∨
      ∀ address renewal, caller.stage ≠ .storing address renewal)
    (fits : caller.account.id = id → Fits old flight place new new.stage) :
    Tracks letters id old flight ⟨locks, accounts, state.callers.set place new⟩ := by
  refine ⟨row, tracks.differs, ?_, ?_, ?_⟩
  · intro winner renewal won
    obtain ⟨victor, found, mine, answered⟩ := tracks.won winner renewal won
    refine ⟨_, set_found state.callers place winner caller new victor here found, ?_⟩
    split_ifs with itself
    · rw [← itself, here] at found
      cases found
      have flown : flight ≠ .fresh := by
        intro fresh
        rw [fresh] at won
        cases won
      exact ⟨same.trans mine, (upstream mine flown).trans answered⟩
    · exact ⟨mine, answered⟩
  · intro winner renewal spent
    obtain ⟨victor, address, found, mine, stage⟩ := tracks.storing winner renewal spent
    refine ⟨_, address, set_found state.callers place winner caller new victor here found, ?_⟩
    split_ifs with itself
    · rw [← itself, here] at found
      cases found
      obtain kept | apart := storing mine
      · exact ⟨same.trans mine, kept.trans stage⟩
      · exact absurd stage (apart address renewal)
    · exact ⟨mine, stage⟩
  · intro other someone found mine
    obtain ⟨rfl, rfl⟩ | ⟨_, before⟩ := set_cases state.callers place other new someone found
    · exact fits (same.symm.trans mine)
    · exact tracks.fits other someone before mine

end Callers

section Actions

variable {Credit : Type}

/-- The writes of a caller of another account. -/
theorem stored_elsewhere (letters : Letters)
    (locks : KiroProxy.Foundation.NamedLocks.Registry GoString)
    (accounts : List (Account Credit)) (caller : Caller Credit) (action : Action)
    (effect : Effect Credit) (acts : Acts letters locks accounts caller action effect)
    (id : GoString) (apart : caller.account.id ≠ id) :
    storedRow effect.accounts id = storedRow accounts id := by
  cases acts with
  | store address renewal credentialsLoaded unsaved next here follows =>
      have written := stored_token credentialsLoaded accounts caller.account.id id renewal.access
        renewal.refresh renewal.expiry unsaved
      rwa [if_neg (Ne.symm apart)] at written
  | storeArn address arn credentialsLoaded unsaved here =>
      have written := stored_profile credentialsLoaded accounts caller.account.id id arn unsaved
      rwa [if_neg (Ne.symm apart)] at written
  | enter | acquire | abandon | look | answer | reread | unlock | release | cancel => rfl

theorem token_error (credentialsLoaded : Bool) (accounts : List (Account Credit))
    (id : GoString) (row : Account Credit) (stored : storedRow accounts id = some row)
    (renewal : Renewal) (unsaved : Option GoString) :
    (updateAccountToken credentialsLoaded accounts id renewal.access renewal.refresh
        renewal.expiry unsaved).2 = unsaved := by
  simp only [updateAccountToken, stored]

theorem tokens_renewed (row : Account Credit) (renewal : Renewal) :
    tokens (withToken row renewal.access renewal.refresh renewal.expiry) =
      renewedTokens (tokens row) renewal := rfl

end Actions

section Looking

variable {Credit : Type}

theorem look_upstream (letters : Letters) (accounts : List (Account Credit)) (now : Int)
    (address : Nat) (caller : Caller Credit) :
    (lookUnderLock letters accounts now address caller).upstream = caller.upstream := by
  unfold lookUnderLock
  split
  · rfl
  · split
    · rfl
    · dsimp only
      split_ifs <;> rfl

/-- A caller that gets the lock before the refresh sets out for it, one that gets it after
takes the renewed tokens, and the one that is to store them has the lock itself. -/
theorem look_fits (letters : Letters) (id : GoString) (old : GoString × GoString)
    (flight : Flight) (state : State Credit) (tracks : Tracks letters id old flight state)
    (sound : Sound (lockState state)) (place : Nat) (caller : Caller Credit)
    (here : state.callers[place]? = some caller) (mine : caller.account.id = id)
    (address : Nat) (now : Int) (stage : caller.stage = .locked address)
    (assumed : Assumed letters id old state (.act place (.look now))) :
    Fits old flight place (lookUnderLock letters state.accounts now address caller)
      (lookUnderLock letters state.accounts now address caller).stage := by
  have before := tracks.fits place caller here mine
  rw [stage] at before
  obtain ⟨snapshot, unasked⟩ := before
  obtain ⟨row, stored, keyless, current⟩ := tracks.row
  obtain ⟨stale, valid⟩ := assumed caller row here mine stored
  unfold lookUnderLock
  rw [mine, stored]
  cases canceled : caller.canceled with
  | some err =>
      refine ⟨Or.inl canceled, ?_⟩
      intro renewal answered
      cases unasked.symm.trans answered
  | none =>
      simp only [keyless, Bool.false_or]
      cases flight with
      | fresh =>
          have same : tokens row = tokens caller.account := current.trans snapshot.symm
          obtain ⟨access, refresh⟩ := Prod.mk.inj same
          have needed : ((!caller.force || (row.refreshToken != caller.account.refreshToken ||
              row.accessToken != caller.account.accessToken)) && isValid row now) = false := by
            rw [access, refresh]
            obtain forced | expired := stale current
            · simp [forced]
            · simp [expired]
          rw [needed]
          exact ⟨rfl, unasked⟩
      | spent winner renewal =>
          obtain ⟨victor, other, found, theirs, storing⟩ := tracks.storing winner renewal rfl
          have itself : place = winner := by
            apply alone state sound id place winner caller victor address other here found
            · rw [Caller.phase, stage, mine]
              rfl
            · rw [Caller.phase, storing, theirs]
              rfl
          rw [itself, found] at here
          cases here
          rw [stage] at storing
          cases storing
      | renewed winner renewal =>
          have differs := tracks.differs winner renewal rfl
          have changed : tokens row ≠ tokens caller.account := by
            rw [current, snapshot]
            exact differs
          have rotated : (row.refreshToken != caller.account.refreshToken ||
              row.accessToken != caller.account.accessToken) = true := by
            rw [Bool.or_eq_true, bne_iff_ne, bne_iff_ne]
            by_contra unchanged
            push Not at unchanged
            exact changed (Prod.ext unchanged.2 unchanged.1)
          have fine : isValid row now = true := valid (by rw [current]; exact differs)
          rw [rotated, fine]
          simp only [Bool.or_true, Bool.true_and, if_true]
          refine ⟨⟨winner, renewal, rfl, current⟩, ?_⟩
          intro answer answered
          cases unasked.symm.trans answered

end Looking

section Flights

variable {Credit : Type}

theorem fits_cancel (old : GoString × GoString) (flight : Flight) (place : Nat)
    (caller : Caller Credit) (err : GoString) (stage : Stage)
    (fits : Fits old flight place caller stage) :
    Fits old flight place { caller with canceled := some (caller.canceled.getD err) } stage := by
  cases stage with
  | calling | waiting _ | locked _ | refreshing _ | storing _ _ | storingArn _ _
  | rereading _ => exact fits
  | unlocking _ result | releasing _ result | returned result =>
      refine ⟨?_, fits.2⟩
      cases result with
      | none => exact fits.1
      | some reason =>
          obtain canceled | other := fits.1
          · exact Or.inl (by simp [canceled])
          · exact Or.inr other

/-- Nobody else is under the lock, so an answered refresh is the only one. -/
theorem answered_tracks (letters : Letters) (id : GoString) (old : GoString × GoString)
    (flight : Flight) (state : State Credit) (tracks : Tracks letters id old flight state)
    (sound : Sound (lockState state)) (place : Nat) (caller : Caller Credit)
    (here : state.callers[place]? = some caller) (mine : caller.account.id = id)
    (address : Nat) (stage : caller.stage = .refreshing address) (renewal : Renewal)
    (differs : renewedTokens old renewal ≠ old) :
    Tracks letters id old (.spent place renewal)
      ⟨state.locks, state.accounts,
        state.callers.set place (receive (.ok renewal) address caller)⟩ := by
  have before := tracks.fits place caller here mine
  rw [stage] at before
  obtain ⟨rfl, unasked⟩ := before
  have inside : place < state.callers.length := (List.getElem?_eq_some_iff.mp here).1
  have set : (state.callers.set place (receive (.ok renewal) address caller))[place]? =
      some (receive (.ok renewal) address caller) := List.getElem?_set_self inside
  refine ⟨tracks.row, ?_, ?_, ?_, ?_⟩
  · intro winner answer won
    cases won
    exact differs
  · intro winner answer won
    cases won
    exact ⟨_, set, mine, rfl⟩
  · intro winner answer spent
    cases spent
    exact ⟨_, address, set, mine, rfl⟩
  · intro other someone found theirs
    obtain ⟨rfl, rfl⟩ | ⟨apart, earlier⟩ := set_cases state.callers place other _ someone found
    · exact ⟨rfl, rfl⟩
    · have fits := tracks.fits other someone earlier theirs
      cases stands : someone.stage with
      | calling | waiting _ | locked _ =>
          rw [stands] at fits
          exact fits
      | refreshing place' =>
          -- both would hold the lock
          refine absurd ?_ apart
          apply alone state sound id other place someone caller place' address earlier here
          · rw [Caller.phase, stands, theirs]
            rfl
          · rw [Caller.phase, stage, mine]
            rfl
      | storing _ _ =>
          rw [stands] at fits
          cases fits.1
      | storingArn _ _ | rereading _ =>
          rw [stands] at fits
          obtain ⟨_, impossible, _⟩ := fits
          cases impossible
      | unlocking _ result | releasing _ result | returned result =>
          rw [stands] at fits
          constructor
          · cases result with
            | none =>
                obtain ⟨_, _, impossible, _⟩ := fits.1
                cases impossible
            | some err => exact fits.1
          · intro answer answered
            cases fits.2 answer answered

/-- The renewal is stored by the caller that received it. -/
theorem stored_tracks (letters : Letters) (id : GoString) (old : GoString × GoString)
    (flight : Flight) (state : State Credit) (tracks : Tracks letters id old flight state)
    (place : Nat) (caller : Caller Credit) (here : state.callers[place]? = some caller)
    (mine : caller.account.id = id) (address : Nat) (renewal : Renewal)
    (stage : caller.stage = .storing address renewal) (credentialsLoaded : Bool)
    (unsaved : Option GoString) (next : Stage)
    (follows : next = .rereading address ∨ ∃ arn, next = .storingArn address arn) :
    Tracks letters id old (.renewed place renewal)
      ⟨state.locks, (updateAccountToken credentialsLoaded state.accounts caller.account.id
          renewal.access renewal.refresh renewal.expiry unsaved).1,
        state.callers.set place (caller.goes (after address next (updateAccountToken
          credentialsLoaded state.accounts caller.account.id renewal.access renewal.refresh
          renewal.expiry unsaved).2))⟩ := by
  have before := tracks.fits place caller here mine
  rw [stage] at before
  obtain ⟨rfl, asked⟩ := before
  obtain ⟨row, stored, keyless, current⟩ := tracks.row
  have inside : place < state.callers.length := (List.getElem?_eq_some_iff.mp here).1
  rw [mine, token_error credentialsLoaded state.accounts id row stored]
  refine ⟨?_, ?_, ?_, ?_, ?_⟩
  · have written := stored_token credentialsLoaded state.accounts id id renewal.access
      renewal.refresh renewal.expiry unsaved
    rw [if_pos rfl, stored, Option.map_some] at written
    refine ⟨_, written, ?_, ?_⟩
    · exact keyless
    · rw [tokens_renewed, current]
      rfl
  · intro winner answer won
    cases won
    exact tracks.differs place renewal rfl
  · intro winner answer won
    cases won
    exact ⟨_, List.getElem?_set_self inside, mine, asked⟩
  · intro winner answer spent
    cases spent
  · intro other someone found theirs
    obtain ⟨rfl, rfl⟩ | ⟨apart, earlier⟩ := set_cases state.callers place other _ someone found
    · cases unsaved with
      | some err =>
          refine ⟨Or.inr (Or.inr ⟨renewal, asked⟩), ?_⟩
          intro answer answered
          cases asked.symm.trans answered
          rfl
      | none =>
          obtain rfl | ⟨arn, rfl⟩ := follows
          · exact ⟨renewal, rfl, asked⟩
          · exact ⟨renewal, rfl, asked⟩
    · have fits := tracks.fits other someone earlier theirs
      cases stands : someone.stage with
      | calling | waiting _ | locked _ =>
          rw [stands] at fits
          exact fits
      | refreshing _ =>
          rw [stands] at fits
          cases fits.1
      | storing _ _ =>
          rw [stands] at fits
          cases fits.1
          exact absurd rfl apart
      | storingArn _ _ | rereading _ =>
          rw [stands] at fits
          obtain ⟨_, impossible, _⟩ := fits
          cases impossible
      | unlocking _ result | releasing _ result | returned result =>
          rw [stands] at fits
          constructor
          · cases result with
            | none =>
                obtain ⟨_, _, impossible, _⟩ := fits.1
                cases impossible
            | some err => exact fits.1
          · intro answer answered
            cases fits.2 answer answered

end Flights

section Runs

variable {Credit : Type}

/-- The flight after a step: one refresh is answered, and then stored. -/
theorem tracks_act (letters : Letters) (id : GoString) (old : GoString × GoString)
    (flight : Flight) (state : State Credit) (tracks : Tracks letters id old flight state)
    (sound : Sound (lockState state)) (place : Nat) (action : Action) (caller : Caller Credit)
    (effect : Effect Credit) (here : state.callers[place]? = some caller)
    (mine : caller.account.id = id)
    (assumed : Assumed letters id old state (.act place action))
    (acts : Acts letters state.locks state.accounts caller action effect) :
    ∃ next, Tracks letters id old next
      ⟨effect.locks, effect.accounts, state.callers.set place effect.caller⟩ := by
  have same := acts_id letters _ _ caller action effect acts
  have before := tracks.fits place caller here mine
  have quiet : ∀ new : Caller Credit, new.account.id = caller.account.id →
      new.upstream = caller.upstream → (∀ address renewal, caller.stage ≠ .storing address renewal) →
      Fits old flight place new new.stage → ∀ locks, Tracks letters id old flight
        ⟨locks, state.accounts, state.callers.set place new⟩ := by
    intro new kept upstream apart fits locks
    exact tracks_set letters id old flight state tracks locks state.accounts place caller new here
      kept tracks.row (fun _ _ => upstream) (fun _ => Or.inr apart) (fun _ => fits)
  cases acts with
  | enter stage =>
      rw [stage] at before
      exact ⟨flight, quiet _ same rfl (by simp [stage]) before _⟩
  | acquire address stage free =>
      rw [stage] at before
      exact ⟨flight, quiet _ same rfl (by simp [stage]) before _⟩
  | abandon address err stage canceled =>
      rw [stage] at before
      refine ⟨flight, quiet _ same rfl (by simp [stage]) ⟨Or.inl canceled, ?_⟩ _⟩
      intro renewal answered
      cases before.2.symm.trans answered
  | look address now stage =>
      refine ⟨flight, quiet _ same ?_ (by simp [stage]) ?_ _⟩
      · exact look_upstream letters state.accounts now address caller
      · exact look_fits letters id old flight state tracks sound place caller here mine address now
          stage assumed
  | answer address answered stage =>
      cases answered with
      | ok renewal =>
          exact ⟨_, answered_tracks letters id old flight state tracks sound place caller here mine
            address stage renewal (assumed caller here mine)⟩
      | error err =>
          rw [stage] at before
          obtain ⟨rfl, unasked⟩ := before
          refine ⟨.fresh, tracks_set letters id old .fresh state tracks _ _ place caller _ here
            same tracks.row ?_ ?_ ?_⟩
          · intro _ flown
            exact absurd rfl flown
          · intro _
            exact Or.inr (by simp [stage])
          · intro _
            refine ⟨Or.inr (Or.inl rfl), ?_⟩
            intro renewal answered
            cases answered
  | store address renewal credentialsLoaded unsaved next stage follows =>
      exact ⟨_, stored_tracks letters id old flight state tracks place caller here mine address
        renewal stage credentialsLoaded unsaved next follows⟩
  | storeArn address arn credentialsLoaded unsaved stage =>
      rw [stage] at before
      obtain ⟨renewal, rfl, asked⟩ := before
      obtain ⟨row, stored, keyless, current⟩ := tracks.row
      have written := stored_profile credentialsLoaded state.accounts id id arn unsaved
      rw [if_pos rfl, stored, Option.map_some] at written
      refine ⟨.renewed place renewal, tracks_set letters id old _ state tracks _ _ place caller _
        here same ?_ (fun _ _ => rfl) (fun _ => Or.inr (by simp [stage])) ?_⟩
      · rw [mine]
        refine ⟨_, written, ?_⟩
        split_ifs
        · exact ⟨keyless, current⟩
        · exact ⟨keyless, current⟩
      · intro _
        cases failed : (updateAccountProfileArn credentialsLoaded state.accounts
            caller.account.id arn unsaved).2 with
        | none => exact ⟨renewal, rfl, asked⟩
        | some err =>
            refine ⟨Or.inr (Or.inr ⟨renewal, asked⟩), ?_⟩
            intro answer answered
            cases asked.symm.trans answered
            rfl
  | reread address stage =>
      rw [stage] at before
      obtain ⟨renewal, rfl, asked⟩ := before
      obtain ⟨row, stored, keyless, current⟩ := tracks.row
      have reread : rereadStore state.accounts address caller =
          { caller with account := row, stage := .unlocking address none } := by
        unfold rereadStore
        rw [mine, stored]
      simp only [reread] at same ⊢
      refine ⟨.renewed place renewal, quiet ⟨row, caller.force, caller.canceled, caller.upstream,
        .unlocking address none⟩ same rfl (by simp [stage]) ?_ _⟩
      refine ⟨⟨place, renewal, rfl, current⟩, ?_⟩
      intro answer answered
      cases asked.symm.trans answered
      rfl
  | unlock address result stage =>
      rw [stage] at before
      exact ⟨flight, quiet _ same rfl (by simp [stage]) before _⟩
  | release address result stage =>
      rw [stage] at before
      exact ⟨flight, quiet _ same rfl (by simp [stage]) before _⟩
  | cancel err =>
      refine ⟨flight, tracks_set letters id old flight state tracks _ _ place caller _ here same
        tracks.row (fun _ _ => rfl) (fun _ => Or.inl rfl) ?_⟩
      intro _
      exact fits_cancel old flight place caller err caller.stage before

/-- Another caller is of another account, or acts under what is assumed. -/
theorem tracks_step (letters : Letters) (id : GoString) (old : GoString × GoString)
    (state : State Credit) (event : Event Credit) (sound : Sound (lockState state))
    (tracks : ∃ flight, Tracks letters id old flight state)
    (assumed : Assumed letters id old state event) :
    ∃ flight, Tracks letters id old flight (step letters state event) := by
  obtain ⟨flight, tracks⟩ := tracks
  obtain same | ⟨accounts, rfl, written⟩ | ⟨place, action, caller, effect, rfl, here, acts,
    stepped⟩ := step_cases letters state event
  · rw [same]
    exact ⟨flight, tracks⟩
  · rw [written]
    obtain ⟨row, changed, stored, after, kept, keyless⟩ := assumed
    obtain ⟨current, found, _, same⟩ := tracks.row
    rw [stored] at found
    cases found
    exact ⟨flight, ⟨changed, after, keyless, kept.trans same⟩, tracks.differs, tracks.won,
      tracks.storing, tracks.fits⟩
  · rw [stepped]
    by_cases mine : caller.account.id = id
    · exact tracks_act letters id old flight state tracks sound place action caller effect here
        mine assumed acts
    · have same := acts_id letters _ _ caller action effect acts
      refine ⟨flight, tracks_set letters id old flight state tracks _ _ place caller _ here same
        ?_ ?_ ?_ ?_⟩
      · rw [stored_elsewhere letters _ _ caller action effect acts id mine]
        exact tracks.row
      · intro ours
        exact absurd ours mine
      · intro ours
        exact absurd ours mine
      · intro ours
        exact absurd ours mine

/-- Every call has the stored tokens as its snapshot. -/
structure SameSnapshot (letters : Letters) (accounts : List (Account Credit))
    (calls : List (Call Credit)) (id : GoString) (old : GoString × GoString) : Prop where
  stored : ∃ row, storedRow accounts id = some row ∧ isAPIKeyAccount letters row = false ∧
    tokens row = old
  held : ∀ call ∈ calls, call.account.id = id → tokens call.account = old

theorem tracks_start (letters : Letters) (accounts : List (Account Credit))
    (calls : List (Call Credit)) (id : GoString) (old : GoString × GoString)
    (snapshot : SameSnapshot letters accounts calls id old) :
    Tracks letters id old .fresh (start accounts calls) := by
  refine ⟨snapshot.stored, ?_, ?_, ?_, ?_⟩
  · intro place renewal won
    cases won
  · intro place renewal won
    cases won
  · intro place renewal spent
    cases spent
  · intro place caller here mine
    obtain ⟨call, member, rfl⟩ := List.mem_map.mp (List.mem_of_getElem? here)
    exact ⟨snapshot.held call member mine, rfl⟩

theorem run_tracks (letters : Letters) (accounts : List (Account Credit))
    (calls : List (Call Credit)) (id : GoString) (old : GoString × GoString)
    (snapshot : SameSnapshot letters accounts calls id old) (events : List (Event Credit))
    (assumed : StepsMeet (step letters) (Assumed letters id old) (start accounts calls) events) :
    ∃ flight, Tracks letters id old flight
      (run (step letters) (start accounts calls) events) := by
  have both : Always (step letters)
      (fun state => (Sound (lockState state) ∧ InUse (lockState state)) ∧
        ∃ flight, Tracks letters id old flight state) (start accounts calls) events := by
    apply always_of_guarded_steps (step letters) (Assumed letters id old)
    · rintro state event ⟨locked, tracks⟩ met
      exact ⟨locked_step letters state event locked,
        tracks_step letters id old state event locked.1 tracks met⟩
    · exact ⟨locks_sound letters accounts calls [],
        ⟨.fresh, tracks_start letters accounts calls id old snapshot⟩⟩
    · exact assumed
  exact (both events [] (List.append_nil events).symm).2

end Runs

section Results

variable {Credit : Type}

/-- A call refers to the lock of its account from its arrival until it has let go of it. -/
def Stage.refers : Stage → Bool
  | .calling | .returned _ => false
  | _ => true

def Stage.holds : Stage → Bool
  | .locked _ | .refreshing _ | .storing _ _ | .storingArn _ _ | .rereading _
  | .unlocking _ _ => true
  | _ => false

theorem refers_phase (caller : Caller Credit) (id : GoString) :
    caller.phase.refersTo id = true ↔ caller.account.id = id ∧ caller.stage.refers = true := by
  unfold Caller.phase
  cases caller.stage <;> simp [Stage.phase, Stage.refers, Phase.refersTo, Phase.claim]

theorem holds_phase (caller : Caller Credit) (holds : caller.stage.holds = true) :
    ∃ address, caller.phase = .holding caller.account.id address := by
  unfold Caller.phase
  cases stage : caller.stage with
  | calling | waiting _ | releasing _ _ | returned _ =>
      rw [stage] at holds
      cases holds
  | locked address | refreshing address | storing address _ | storingArn address _
  | rereading address | unlocking address _ => exact ⟨address, rfl⟩

/-- At most one upstream refresh has succeeded, and a call that has returned without an error
has the tokens of that refresh, which are stored; one with an error had its context end or
its own upstream refresh fail, or it is the one that refreshed. -/
def SingleFlight (id : GoString) (old : GoString × GoString) (state : State Credit) : Prop :=
  (∀ (first second : Nat) (left right : Caller Credit) (one other : Renewal),
    state.callers[first]? = some left → state.callers[second]? = some right →
    left.account.id = id → right.account.id = id →
    left.upstream = some (.ok one) → right.upstream = some (.ok other) → first = second) ∧
  ∀ caller ∈ state.callers, caller.account.id = id → ∀ result, caller.stage = .returned result →
    match result with
    | none => ∃ winner ∈ state.callers, ∃ renewal, winner.account.id = id ∧
        winner.upstream = some (.ok renewal) ∧ renewedTokens old renewal ≠ old ∧
        tokens caller.account = renewedTokens old renewal ∧
        (storedRow state.accounts id).map tokens = some (renewedTokens old renewal)
    | some err => caller.canceled = some err ∨ caller.upstream = some (.error err) ∨
        ∃ renewal, caller.upstream = some (.ok renewal)

theorem fits_winner (old : GoString × GoString) (flight : Flight) (place : Nat)
    (caller : Caller Credit) (stage : Stage) (fits : Fits old flight place caller stage)
    (renewal : Renewal) (answered : caller.upstream = some (.ok renewal)) :
    ∃ same, flight.winner = some (place, same) := by
  cases stage with
  | calling | waiting _ | locked _ | refreshing _ => cases fits.2.symm.trans answered
  | storing _ answer =>
      obtain ⟨rfl, _⟩ := fits
      exact ⟨answer, rfl⟩
  | storingArn _ _ | rereading _ =>
      obtain ⟨answer, rfl, _⟩ := fits
      exact ⟨answer, rfl⟩
  | unlocking _ _ | releasing _ _ | returned _ =>
      rw [fits.2 renewal answered]
      exact ⟨renewal, rfl⟩

theorem single_of_tracks (letters : Letters) (id : GoString) (old : GoString × GoString)
    (flight : Flight) (state : State Credit) (tracks : Tracks letters id old flight state) :
    SingleFlight id old state := by
  constructor
  · intro first second left right one other hereLeft hereRight mine theirs won again
    obtain ⟨_, winner⟩ := fits_winner old flight first left left.stage
      (tracks.fits first left hereLeft mine) one won
    obtain ⟨_, same⟩ := fits_winner old flight second right right.stage
      (tracks.fits second right hereRight theirs) other again
    cases winner.symm.trans same
    rfl
  · intro caller member mine result returned
    obtain ⟨place, here⟩ := List.mem_iff_getElem?.mp member
    have fits := tracks.fits place caller here mine
    rw [returned] at fits
    cases result with
    | some err => exact fits.1
    | none =>
        obtain ⟨winner, renewal, rfl, taken⟩ := fits.1
        obtain ⟨victor, found, theirs, answered⟩ := tracks.won winner renewal rfl
        obtain ⟨row, stored, _, current⟩ := tracks.row
        refine ⟨victor, List.mem_of_getElem? found, renewal, theirs, answered,
          tracks.differs winner renewal rfl, taken, ?_⟩
        rw [stored, Option.map_some, current]
        rfl

def OneHolder (state : State Credit) : Prop :=
  ∀ (first second : Nat) (left right : Caller Credit), state.callers[first]? = some left →
    state.callers[second]? = some right → left.stage.holds = true → right.stage.holds = true →
    left.account.id = right.account.id → first = second

/-- The map has an ID exactly while a call of it waits, holds the lock or lets go of it. -/
def ExactMap (state : State Credit) : Prop :=
  ∀ id, (state.locks.names.get id).isSome = true ↔
    ∃ caller ∈ state.callers, caller.account.id = id ∧ caller.stage.refers = true

/-- Some caller can go on until all have returned, and each step of one leaves less to do. -/
def Completes (letters : Letters) (state : State Credit) : Prop :=
  (Finished state ∨ ∃ event, work (step letters state event) < work state) ∧
  ∀ event, (step letters state event).callers.map Caller.stage = state.callers.map Caller.stage ∨
    work (step letters state event) < work state

theorem one_holder (state : State Credit) (sound : Sound (lockState state)) :
    OneHolder state := by
  intro first second left right hereLeft hereRight holdsLeft holdsRight same
  obtain ⟨one, phaseLeft⟩ := holds_phase left holdsLeft
  obtain ⟨other, phaseRight⟩ := holds_phase right holdsRight
  rw [← same] at phaseRight
  exact alone state sound left.account.id first second left right one other hereLeft hereRight
    phaseLeft phaseRight

theorem exact_map (state : State Credit) (sound : Sound (lockState state))
    (used : InUse (lockState state)) : ExactMap state := by
  intro id
  have named := KiroProxy.Foundation.NamedLocks.named_iff (lockState state) sound used id
  rw [lockState] at named
  rw [named]
  constructor
  · rintro ⟨phase, member, refers⟩
    obtain ⟨caller, inside, rfl⟩ := List.mem_map.mp member
    exact ⟨caller, inside, (refers_phase caller id).mp refers⟩
  · rintro ⟨caller, inside, refers⟩
    exact ⟨caller.phase, List.mem_map_of_mem inside, (refers_phase caller id).mpr refers⟩

theorem refreshes_single_flight (letters : Letters) (accounts : List (Account Credit))
    (calls : List (Call Credit)) (events : List (Event Credit)) :
    let state := run (step letters) (start accounts calls) events
    OneHolder state ∧ ExactMap state ∧ Completes letters state ∧
      ∀ id old, SameSnapshot letters accounts calls id old →
        StepsMeet (step letters) (Assumed letters id old) (start accounts calls) events →
        SingleFlight id old state := by
  intro state
  obtain ⟨sound, used⟩ := locks_sound letters accounts calls events
  refine ⟨one_holder state sound, exact_map state sound used,
    ⟨finished_or_works letters state sound, work_step letters state⟩, ?_⟩
  intro id old snapshot assumed
  obtain ⟨flight, tracks⟩ := run_tracks letters accounts calls id old snapshot events assumed
  exact single_of_tracks letters id old flight state tracks

end Results

section TwoCallers

def staleAccount : Account Int :=
  { newAccount (lit "a") with accessToken := lit "t", refreshToken := lit "r" }

def forcedCalls : List (Call Int) := [⟨staleAccount, true, none⟩, ⟨staleAccount, true, none⟩]

def renewal : Renewal := ⟨lit "t2", lit "r2", 0, []⟩

/-- The first caller refreshes while the second waits. -/
def refreshOnce : List (Event Int) :=
  [.act 0 .enter, .act 0 .acquire, .act 1 .enter, .act 0 (.look 0), .act 0 (.answer (.ok renewal)),
    .act 0 (.store false none), .act 0 .reread, .act 0 .unlock, .act 0 .release,
    .act 1 .acquire, .act 1 (.look 0), .act 1 .unlock, .act 1 .release]

/-- The first caller's refresh is refused, the second caller's succeeds. -/
def refusedOnce : List (Event Int) :=
  [.act 0 .enter, .act 0 .acquire, .act 0 (.look 0), .act 0 (.answer (.error (lit "refused"))),
    .act 0 .unlock, .act 0 .release, .act 1 .enter, .act 1 .acquire, .act 1 (.look 0),
    .act 1 (.answer (.ok renewal)), .act 1 (.store false none), .act 1 .reread, .act 1 .unlock,
    .act 1 .release]

theorem same_snapshot :
    SameSnapshot asciiLetters [staleAccount] forcedCalls (lit "a") (lit "t", lit "r") := by
  constructor
  · exact ⟨staleAccount, rfl, by decide, rfl⟩
  · intro call member _
    obtain rfl | rfl : call = ⟨staleAccount, true, none⟩ ∨ call = ⟨staleAccount, true, none⟩ := by
      simpa [forcedCalls] using member
    · rfl
    · rfl

theorem look_assumed (state : State Int) (place : Nat) (caller : Caller Int)
    (row : Account Int) (here : state.callers[place]? = some caller)
    (forced : caller.force = true) (stored : storedRow state.accounts (lit "a") = some row)
    (lasting : row.expiresAt = 0) :
    Assumed asciiLetters (lit "a") (lit "t", lit "r") state (.act place (.look 0)) := by
  intro someone found here' _ stored'
  cases here.symm.trans here'
  cases stored.symm.trans stored'
  constructor
  · intro _
    exact Or.inl forced
  · intro _
    simp [isValid, lasting]

theorem answer_assumed (state : State Int) (place : Nat) :
    Assumed asciiLetters (lit "a") (lit "t", lit "r") state
      (.act place (.answer (.ok renewal))) := by
  intro _ _ _
  decide

theorem refresh_once_assumed :
    StepsMeet (step asciiLetters) (Assumed asciiLetters (lit "a") (lit "t", lit "r"))
      (start [staleAccount] forcedCalls) refreshOnce := by
  unfold refreshOnce
  simp only [steps_meet_cons]
  exact ⟨trivial, trivial, trivial, look_assumed _ 0 _ _ rfl rfl rfl rfl, answer_assumed _ 0,
    trivial, trivial, trivial, trivial, trivial, look_assumed _ 1 _ _ rfl rfl rfl rfl,
    trivial, trivial, steps_meet_nil _ _ _⟩

theorem refused_once_assumed :
    StepsMeet (step asciiLetters) (Assumed asciiLetters (lit "a") (lit "t", lit "r"))
      (start [staleAccount] forcedCalls) refusedOnce := by
  unfold refusedOnce
  simp only [steps_meet_cons]
  exact ⟨trivial, trivial, look_assumed _ 0 _ _ rfl rfl rfl rfl, trivial,
    trivial, trivial, trivial, trivial, look_assumed _ 1 _ _ rfl rfl rfl rfl, answer_assumed _ 1,
    trivial, trivial, trivial, trivial, steps_meet_nil _ _ _⟩

/-- Both callers return with the tokens of the one refresh. -/
theorem refresh_once_shared :
    let state := run (step asciiLetters) (start [staleAccount] forcedCalls) refreshOnce
    SingleFlight (lit "a") (lit "t", lit "r") state ∧
      state.callers.map (fun caller => (caller.stage, tokens caller.account)) =
        [(.returned none, (lit "t2", lit "r2")), (.returned none, (lit "t2", lit "r2"))] := by
  intro state
  have shared := refreshes_single_flight asciiLetters [staleAccount] forcedCalls refreshOnce
  exact ⟨shared.2.2.2 (lit "a") _ same_snapshot refresh_once_assumed, rfl⟩

/-- A caller whose own refresh is refused, and whose context has not ended, returns with the
old tokens although the next caller's refresh succeeds; and once a holder has emptied the gate
the map has the ID although nobody waits for the lock or holds it. -/
theorem refused_caller_keeps_old :
    let state := run (step asciiLetters) (start [staleAccount] forcedCalls) refusedOnce
    let between := run (step asciiLetters) (start [staleAccount] forcedCalls)
      (refusedOnce.take 5)
    SameSnapshot asciiLetters [staleAccount] forcedCalls (lit "a") (lit "t", lit "r") ∧
    StepsMeet (step asciiLetters) (Assumed asciiLetters (lit "a") (lit "t", lit "r"))
      (start [staleAccount] forcedCalls) refusedOnce ∧
    state.callers.map (fun caller => (caller.stage, caller.canceled, tokens caller.account)) =
      [(.returned (some (lit "refused")), none, (lit "t", lit "r")),
        (.returned none, none, (lit "t2", lit "r2"))] ∧
    (storedRow state.accounts (lit "a")).map tokens = some (lit "t2", lit "r2") ∧
    between.locks.names.get (lit "a") = some 0 ∧
    between.callers.map Caller.stage = [.releasing 0 (some (lit "refused")), .calling] := by
  intro state between
  exact ⟨same_snapshot, refused_once_assumed, rfl, rfl, rfl, rfl⟩

end TwoCallers

end KiroProxy.TokenRefresh
