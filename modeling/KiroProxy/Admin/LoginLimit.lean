import Mathlib.Algebra.Group.Nat.Defs
import KiroProxy.GoStrings
import KiroProxy.Foundation.CountingWindows
import KiroProxy.Foundation.Runs
import KiroProxy.Foundation.Tables

/-!
# Admin password guesses

A transcription of `proxy/admin_login_limit.go`. A guess is checked and counted
under the limiter's lock, so a run is a list of guesses, each with its host, its
clock reading and the password in force. Beside the limiter a run keeps the
wrong guesses that were let through.
-/

namespace KiroProxy.AdminLogin

open Foundation.CountingWindows Foundation.Runs Foundation.Tables

set_option autoImplicit false

/-- Nanoseconds since the zero time. -/
abbrev Time := Nat

abbrev Duration := Int

def adminGuessWindow : Nat := 60 * 10 ^ 9

def adminGuessesPerClient : Int := 5

def adminGuessesGlobal : Int := 30

def adminGuessesUnderAttack : Int := 1

def maxAdminGuessClients : Nat := 65536

abbrev AdminGuessBucket := Window

structure AdminGuessLimiter where
  clients : Table GoString AdminGuessBucket
  global : AdminGuessBucket

def newAdminGuessLimiter : AdminGuessLimiter := ⟨Table.empty, ⟨0, 0⟩⟩

section Limiter

variable (limiter : AdminGuessLimiter) (host : GoString) (now : Time)

/-- The bucket a guess is counted in; a missing one reads as zero and is over. -/
def bucketOf : AdminGuessBucket :=
  ((limiter.clients.get host).getD ⟨0, 0⟩).current adminGuessWindow now

/-- The clients whose buckets are not over. -/
def runningClients : Table GoString AdminGuessBucket :=
  limiter.clients.keep fun _ bucket => decide (now < bucket.ends)

def guessLimit (global : AdminGuessBucket) : Int :=
  if adminGuessesGlobal ≤ global.count then adminGuessesUnderAttack else adminGuessesPerClient

def allowLocked : Duration × AdminGuessLimiter :=
  let global := limiter.global.current adminGuessWindow now
  let bucket := bucketOf limiter host now
  if guessLimit global ≤ bucket.count then
    ((bucket.ends : Int) - now, { limiter with global := global })
  else
    let clients :=
      if maxAdminGuessClients ≤ limiter.clients.size then runningClients limiter now
      else limiter.clients
    if maxAdminGuessClients ≤ limiter.clients.size ∧ clients.get host = none ∧
        maxAdminGuessClients ≤ clients.size then
      (adminGuessWindow, ⟨clients, global⟩)
    else (0, ⟨clients.put host bucket.noted, global.noted⟩)

def adminPasswordMatches (stored supplied : GoString) : Bool :=
  supplied ≠ [] && supplied == stored

def checkPassword (stored password : GoString) : (Bool × Duration) × AdminGuessLimiter :=
  let allowed := allowLocked limiter host now
  if 0 < allowed.1 then ((false, allowed.1), allowed.2)
  else if !adminPasswordMatches stored password then ((false, 0), allowed.2)
  else
    -- Only failures consume budget.
    let bucket := (allowed.2.clients.get host).getD ⟨0, 0⟩
    ((true, 0),
      { clients := allowed.2.clients.put host { bucket with count := bucket.count - 1 }
        global := { allowed.2.global with count := allowed.2.global.count - 1 } })

end Limiter

section Runs

/-- A call of `checkPassword`, with the password that is stored at the time. -/
structure Attempt where
  host : GoString
  password : GoString
  stored : GoString
  now : Time

def Attempt.correct (attempt : Attempt) : Bool :=
  adminPasswordMatches attempt.stored attempt.password

structure Guess where
  host : GoString
  time : Time

/-- The limiter with the wrong guesses it let through and the last clock reading. -/
structure GuessRun where
  limiter : AdminGuessLimiter
  wrong : List Guess
  clock : Time

def startGuesses : GuessRun := ⟨newAdminGuessLimiter, [], 0⟩

variable (run : GuessRun) (attempt : Attempt)

def GuessRun.checked : (Bool × Duration) × AdminGuessLimiter :=
  checkPassword run.limiter attempt.host attempt.now attempt.stored attempt.password

def guess : GuessRun where
  limiter := (run.checked attempt).2
  wrong :=
    if (run.checked attempt).1 = (false, 0) then ⟨attempt.host, attempt.now⟩ :: run.wrong
    else run.wrong
  clock := attempt.now

/-- When a host guessed wrong. -/
def timesOf (wrong : List Guess) (host : GoString) : List Time :=
  (wrong.filter fun guess => decide (guess.host = host)).map Guess.time

/-- How many wrong guesses of a host its bucket has seen. -/
def guessesIn (wrong : List Guess) (host : GoString) (bucket : AdminGuessBucket) : Nat :=
  (since adminGuessWindow bucket (timesOf wrong host)).length

def guessesSince (wrong : List Guess) (bucket : AdminGuessBucket) : Nat :=
  (since adminGuessWindow bucket (wrong.map Guess.time)).length

/-- What holds of the limiter between two calls. -/
structure LimiterSound (run : GuessRun) : Prop where
  clients : ∀ host bucket, run.limiter.clients.get host = some bucket →
    bucket.count = guessesIn run.wrong host bucket ∧ bucket.count ≤ adminGuessesPerClient
  global : run.limiter.global.count = guessesSince run.wrong run.limiter.global
  /-- A correct password leaves every count in force as it is. -/
  correct : ∀ attempt, run.clock ≤ attempt.now → attempt.correct = true →
    (∀ host, (bucketOf (guess run attempt).limiter host attempt.now).count =
      (bucketOf run.limiter host attempt.now).count) ∧
    ((guess run attempt).limiter.global.current adminGuessWindow attempt.now).count =
      (run.limiter.global.current adminGuessWindow attempt.now).count
  /-- A host without a wrong guess in its bucket is refused only by a full table. -/
  refused : ∀ attempt, run.clock ≤ attempt.now → 0 < (run.checked attempt).1.2 →
    guessesIn run.wrong attempt.host (bucketOf run.limiter attempt.host attempt.now) = 0 →
    maxAdminGuessClients ≤ (runningClients run.limiter attempt.now).size

end Runs

section Outcomes

variable (limiter : AdminGuessLimiter) (host : GoString) (now : Time)

/-- The clients as they are, or without some whose buckets are over. -/
def Pruned (clients : Table GoString AdminGuessBucket) : Prop :=
  ∀ host, clients.get host = limiter.clients.get host ∨
    clients.get host = none ∧ ∀ bucket ∈ limiter.clients.get host, bucket.ends ≤ now

theorem running_pruned : Pruned limiter now (runningClients limiter now) := by
  intro host
  unfold runningClients
  rw [get_keep]
  cases found : limiter.clients.get host with
  | none => exact .inl rfl
  | some bucket =>
      by_cases running : now < bucket.ends
      · exact .inl (by simp [running])
      · have ended := Nat.not_lt.mp running
        refine .inr ⟨by simpa using ended, ?_⟩
        intro other same
        rw [← Option.some.inj (Option.mem_def.mp same)]
        exact ended

/-- What a guess that may be checked leaves: its bucket and the whole are up by one. -/
def Admitted (allowed : Duration × AdminGuessLimiter) : Prop :=
  (bucketOf limiter host now).count < guessLimit (limiter.global.current adminGuessWindow now) ∧
    ∃ clients, Pruned limiter now clients ∧ allowed =
      (0, ⟨clients.put host (bucketOf limiter host now).noted,
        (limiter.global.current adminGuessWindow now).noted⟩)

/-- A guess is refused for its bucket or for a full table, or it may be checked. -/
theorem allow_cases :
    (guessLimit (limiter.global.current adminGuessWindow now) ≤ (bucketOf limiter host now).count ∧
      allowLocked limiter host now = (((bucketOf limiter host now).ends : Int) - now,
        { limiter with global := limiter.global.current adminGuessWindow now })) ∨
    (maxAdminGuessClients ≤ (runningClients limiter now).size ∧
      allowLocked limiter host now = ((adminGuessWindow : Int),
        ⟨runningClients limiter now, limiter.global.current adminGuessWindow now⟩)) ∨
    Admitted limiter host now (allowLocked limiter host now) := by
  unfold allowLocked
  simp only
  split_ifs with spent crowded full full
  · exact .inl ⟨spent, rfl⟩
  · exact .inr (.inl ⟨full.2.2, rfl⟩)
  · exact .inr (.inr ⟨Int.not_le.mp spent, _, running_pruned limiter now, rfl⟩)
  · exact absurd full.1 crowded
  · exact .inr (.inr ⟨Int.not_le.mp spent, _, fun _ => .inl rfl, rfl⟩)

/-- What a call of `checkPassword` does: it is refused, or it counts a wrong guess, or a
correct password leaves the buckets in force. -/
inductive Outcome (stored password : GoString) :
    (Bool × Duration) × AdminGuessLimiter → Prop where
  | refused (delay : Duration) (clients : Table GoString AdminGuessBucket) (positive : 0 < delay)
      (pruned : Pruned limiter now clients)
      (reason : guessLimit (limiter.global.current adminGuessWindow now) ≤
          (bucketOf limiter host now).count ∨
        maxAdminGuessClients ≤ (runningClients limiter now).size) :
      Outcome stored password
        ((false, delay), ⟨clients, limiter.global.current adminGuessWindow now⟩)
  | wrong (clients : Table GoString AdminGuessBucket) (pruned : Pruned limiter now clients)
      (differs : adminPasswordMatches stored password = false)
      (room : (bucketOf limiter host now).count <
        guessLimit (limiter.global.current adminGuessWindow now)) :
      Outcome stored password
        ((false, 0), ⟨clients.put host (bucketOf limiter host now).noted,
          (limiter.global.current adminGuessWindow now).noted⟩)
  | right (clients after : Table GoString AdminGuessBucket) (pruned : Pruned limiter now clients)
      (matches_ : adminPasswordMatches stored password = true)
      (stores : ∀ other, after.get other =
        if other = host then some (bucketOf limiter host now) else clients.get other) :
      Outcome stored password
        ((true, 0), ⟨after, limiter.global.current adminGuessWindow now⟩)

theorem bucket_running : now < (bucketOf limiter host now).ends :=
  current_running (by decide)

theorem check_outcome (stored password : GoString) :
    Outcome limiter host now stored password
      (checkPassword limiter host now stored password) := by
  have open_ := bucket_running limiter host now
  unfold checkPassword
  rcases allow_cases limiter host now with ⟨spent, made⟩ | ⟨full, made⟩ | ⟨room, clients, pruned, made⟩
  · rw [made]
    have positive : 0 < ((bucketOf limiter host now).ends : Int) - now :=
      Int.sub_pos_of_lt (Int.ofNat_lt.mpr open_)
    simp only
    rw [if_pos positive]
    exact .refused _ _ positive (fun _ => .inl rfl) (.inl spent)
  · rw [made]
    have positive : 0 < (adminGuessWindow : Int) := by decide
    simp only
    rw [if_pos positive]
    exact .refused _ _ positive (running_pruned limiter now) (.inr full)
  · rw [made]
    simp only
    rw [if_neg (Int.lt_irrefl 0)]
    cases correct : adminPasswordMatches stored password with
    | false => exact .wrong clients pruned correct room
    | true =>
        have counted : (clients.put host (bucketOf limiter host now).noted).get host =
            some (bucketOf limiter host now).noted := by
          rw [get_put, if_pos rfl]
        have back (window : Window) :
            { window.noted with count := window.noted.count - 1 } = window := by
          cases window
          simp [Window.noted]
        simp only [Bool.not_true, Bool.false_eq_true, if_false]
        rw [counted, Option.getD_some, back, back]
        refine .right clients _ pruned correct ?_
        intro other
        rw [get_put, get_put]
        split_ifs
        · rfl
        · rfl

end Outcomes

section Tracking

/-- A stored bucket counts the wrong guesses of its host. A host without one has guessed
wrong only before now. -/
def HostTracked (wrong : List Guess) (clock : Time) (host : GoString) :
    Option AdminGuessBucket → Prop
  | some bucket =>
      Counts adminGuessWindow (timesOf wrong host) bucket ∧
        bucket.count ≤ adminGuessesPerClient ∧ bucket.ends ≤ clock + adminGuessWindow
  | none => ∀ time ∈ timesOf wrong host, time < clock

structure Tracked (run : GuessRun) : Prop where
  clients : ∀ host, HostTracked run.wrong run.clock host (run.limiter.clients.get host)
  global : Counts adminGuessWindow (run.wrong.map Guess.time) run.limiter.global
  begun : run.limiter.global.ends ≤ run.clock + adminGuessWindow

theorem start_tracked : Tracked startGuesses where
  clients := fun _ _ member => absurd member List.not_mem_nil
  global := ⟨rfl, fun _ member => absurd member List.not_mem_nil⟩
  begun := Nat.zero_le _

variable {wrong : List Guess} {clock now : Time} {host : GoString}

theorem host_later {stored : Option AdminGuessBucket} (later : clock ≤ now)
    (tracked : HostTracked wrong clock host stored) : HostTracked wrong now host stored := by
  cases stored with
  | none => exact fun time member => Nat.lt_of_lt_of_le (tracked time member) later
  | some bucket =>
      exact ⟨tracked.1, tracked.2.1, Nat.le_trans tracked.2.2 (Nat.add_le_add_right later _)⟩

/-- A bucket that is over may be dropped. -/
theorem host_pruned {limiter : AdminGuessLimiter} {clients : Table GoString AdminGuessBucket}
    (later : clock ≤ now) (pruned : Pruned limiter now clients)
    (tracked : HostTracked wrong clock host (limiter.clients.get host)) :
    HostTracked wrong now host (clients.get host) := by
  rcases pruned host with same | ⟨gone, over_⟩
  · rw [same]
    exact host_later later tracked
  · rw [gone]
    cases found : limiter.clients.get host with
    | none =>
        rw [found] at tracked
        exact host_later later tracked
    | some bucket =>
        rw [found] at tracked
        intro time member
        exact Nat.lt_of_lt_of_le (tracked.1.past time member)
          (over_ bucket (Option.mem_def.mpr found))

/-- The bucket in force is tracked like a stored one. -/
theorem bucket_tracked {limiter : AdminGuessLimiter} (later : clock ≤ now)
    (tracked : HostTracked wrong clock host (limiter.clients.get host)) :
    HostTracked wrong now host (some (bucketOf limiter host now)) := by
  have bounded : (0 : Int) ≤ adminGuessesPerClient := by decide
  unfold bucketOf
  cases found : limiter.clients.get host with
  | none =>
      rw [found] at tracked
      have fresh : ((none : Option AdminGuessBucket).getD ⟨0, 0⟩).current adminGuessWindow now =
          Window.begin adminGuessWindow now := if_neg (Nat.not_lt_zero _)
      rw [fresh]
      exact ⟨begin_counts fun time member => Nat.lt_of_lt_of_le (tracked time member) later,
        bounded, Nat.le_refl _⟩
  | some bucket =>
      rw [found] at tracked
      have kept := host_later later tracked
      refine ⟨current_counts tracked.1, ?_, current_begun kept.2.2⟩
      rw [Option.getD_some]
      unfold Window.current
      split_ifs
      · exact tracked.2.1
      · exact bounded

theorem times_of_same (wrong : List Guess) (host : GoString) (now : Time) :
    timesOf (⟨host, now⟩ :: wrong) host = now :: timesOf wrong host := by
  simp [timesOf]

theorem times_of_other (wrong : List Guess) (host other : GoString) (now : Time)
    (apart : other ≠ host) : timesOf (⟨host, now⟩ :: wrong) other = timesOf wrong other := by
  simp [timesOf, Ne.symm apart]

theorem guess_limit_le (global : AdminGuessBucket) :
    guessLimit global ≤ adminGuessesPerClient := by
  unfold guessLimit
  split_ifs <;> decide

/-- A call keeps every bucket tracked. -/
theorem guess_tracked (run : GuessRun) (attempt : Attempt) (later : run.clock ≤ attempt.now)
    (tracked : Tracked run) : Tracked (guess run attempt) := by
  have whole : Counts adminGuessWindow (run.wrong.map Guess.time)
      (run.limiter.global.current adminGuessWindow attempt.now) := current_counts tracked.global
  have begun : (run.limiter.global.current adminGuessWindow attempt.now).ends ≤
      attempt.now + adminGuessWindow :=
    current_begun (Nat.le_trans tracked.begun (Nat.add_le_add_right later _))
  have outcome := check_outcome run.limiter attempt.host attempt.now attempt.stored
    attempt.password
  have own := bucket_tracked later (tracked.clients attempt.host)
  unfold guess GuessRun.checked
  generalize checkPassword run.limiter attempt.host attempt.now attempt.stored
    attempt.password = result at outcome ⊢
  cases outcome with
  | refused delay clients positive pruned reason =>
      have apart : ((false, delay) : Bool × Duration) ≠ (false, 0) := by
        intro same
        exact absurd (Prod.mk.inj same).2 (Int.ne_of_gt positive)
      simp only [if_neg apart]
      exact ⟨fun host => host_pruned later pruned (tracked.clients host), whole, begun⟩
  | right clients after pruned matches_ stores =>
      have apart : ((true, 0) : Bool × Duration) ≠ (false, 0) := by decide
      simp only [if_neg apart]
      refine ⟨fun host => ?_, whole, begun⟩
      rw [stores]
      split_ifs with same
      · rw [same]
        exact own
      · exact host_pruned later pruned (tracked.clients host)
  | wrong clients pruned differs room =>
      simp only [if_true]
      have running : attempt.now <
          (run.limiter.global.current adminGuessWindow attempt.now).ends :=
        current_running (by decide)
      refine ⟨fun host => ?_, noted_counts whole running begun, begun⟩
      rw [get_put]
      split_ifs with same
      · rw [same]
        have counted := noted_counts own.1 (bucket_running _ _ _) own.2.2
        rw [← times_of_same] at counted
        have small := Int.lt_of_lt_of_le room (guess_limit_le _)
        exact ⟨counted, Int.add_one_le_of_lt small, own.2.2⟩
      · have kept := host_pruned later pruned (tracked.clients host)
        unfold HostTracked
        rw [times_of_other _ _ _ _ same]
        exact kept

end Tracking

section Soundness

theorem guess_limit_pos (global : AdminGuessBucket) : 0 < guessLimit global := by
  unfold guessLimit
  split_ifs <;> decide

/-- Dropping buckets that are over changes no bucket in force. -/
theorem bucket_of_pruned (limiter : AdminGuessLimiter) (now : Time) (host : GoString)
    (clients : Table GoString AdminGuessBucket) (global : AdminGuessBucket)
    (pruned : Pruned limiter now clients) :
    bucketOf ⟨clients, global⟩ host now = bucketOf limiter host now := by
  unfold bucketOf
  simp only
  rcases pruned host with same | ⟨gone, over_⟩
  · rw [same]
  · rw [gone]
    cases found : limiter.clients.get host with
    | none => rfl
    | some bucket =>
        have ended := over_ bucket (Option.mem_def.mpr found)
        have first : ((none : Option AdminGuessBucket).getD ⟨0, 0⟩).current adminGuessWindow now =
            Window.begin adminGuessWindow now := if_neg (Nat.not_lt_zero _)
        have second : ((some bucket).getD ⟨0, 0⟩).current adminGuessWindow now =
            Window.begin adminGuessWindow now := if_neg (Nat.not_lt.mpr ended)
        rw [first, second]

variable (run : GuessRun) (attempt : Attempt)

theorem correct_keeps (correct : attempt.correct = true) :
    (∀ host, bucketOf (guess run attempt).limiter host attempt.now =
      bucketOf run.limiter host attempt.now) ∧
    (guess run attempt).limiter.global.current adminGuessWindow attempt.now =
      run.limiter.global.current adminGuessWindow attempt.now := by
  have outcome := check_outcome run.limiter attempt.host attempt.now attempt.stored
    attempt.password
  unfold guess GuessRun.checked
  generalize checkPassword run.limiter attempt.host attempt.now attempt.stored
    attempt.password = result at outcome ⊢
  have again : ((run.limiter.global.current adminGuessWindow attempt.now).current
      adminGuessWindow attempt.now) =
        run.limiter.global.current adminGuessWindow attempt.now := current_again (by decide)
  cases outcome with
  | refused delay clients positive pruned reason =>
      exact ⟨fun host => bucket_of_pruned _ _ _ _ _ pruned, again⟩
  | wrong clients pruned differs room =>
      exact absurd (differs.symm.trans correct) Bool.false_ne_true
  | right clients after pruned matches_ stores =>
      refine ⟨fun host => ?_, again⟩
      have others := bucket_of_pruned run.limiter attempt.now host clients
        (run.limiter.global.current adminGuessWindow attempt.now) pruned
      rw [← others]
      unfold bucketOf
      simp only
      rw [stores]
      split_ifs with same
      · have own := bucket_of_pruned run.limiter attempt.now attempt.host clients
          (run.limiter.global.current adminGuessWindow attempt.now) pruned
        rw [same, ← own]
        exact current_again (by decide)
      · rfl

theorem tracked_sound (tracked : Tracked run) : LimiterSound run where
  clients := by
    intro host bucket found
    have kept := tracked.clients host
    rw [found] at kept
    exact ⟨kept.1.count, kept.2.1⟩
  global := tracked.global.count
  correct := by
    intro attempt later correct
    have kept := correct_keeps run attempt correct
    exact ⟨fun host => congrArg Window.count (kept.1 host), congrArg Window.count kept.2⟩
  refused := by
    intro attempt later delayed none_
    have own := bucket_tracked later (tracked.clients attempt.host)
    have outcome := check_outcome run.limiter attempt.host attempt.now attempt.stored
      attempt.password
    unfold GuessRun.checked at delayed
    generalize checkPassword run.limiter attempt.host attempt.now attempt.stored
      attempt.password = result at outcome delayed
    cases outcome with
    | refused delay clients positive pruned reason =>
        cases reason with
        | inr full => exact full
        | inl spent =>
            have zero : (bucketOf run.limiter attempt.host attempt.now).count = 0 := by
              rw [own.1.count]
              exact congrArg Int.ofNat none_
            rw [zero] at spent
            exact absurd spent (Int.not_le.mpr (guess_limit_pos _))
    | wrong clients pruned differs room => exact absurd delayed (Int.lt_irrefl 0)
    | right clients after pruned matches_ stores => exact absurd delayed (Int.lt_irrefl 0)

theorem ordered_meets (run : GuessRun) (attempts : List Attempt)
    (behind : ∀ attempt ∈ attempts, run.clock ≤ attempt.now)
    (ordered : (attempts.map Attempt.now).Pairwise (· ≤ ·)) :
    StepsMeet guess (fun run attempt => run.clock ≤ attempt.now) run attempts := by
  induction attempts generalizing run with
  | nil => exact steps_meet_nil _ _ _
  | cons attempt attempts ih =>
      rw [List.map_cons, List.pairwise_cons] at ordered
      rw [steps_meet_cons]
      refine ⟨behind attempt List.mem_cons_self, ih _ ?_ ordered.2⟩
      intro other member
      exact ordered.1 other.now (List.mem_map_of_mem member)

/-- Whatever hosts guess, in whatever order, the limiter counts the wrong guesses. -/
theorem guesses_counted (attempts : List Attempt)
    (ordered : (attempts.map Attempt.now).Pairwise (· ≤ ·)) :
    Always guess LimiterSound startGuesses attempts := by
  have meets := ordered_meets startGuesses attempts (fun _ _ => Nat.zero_le _) ordered
  have tracked := always_of_guarded_steps guess _ Tracked
    (fun run attempt kept later => guess_tracked run attempt later kept)
    startGuesses start_tracked attempts meets
  exact fun earlier later split => tracked_sound _ (tracked earlier later split)

/-- Two hosts guess, one of them wrong and then right. -/
def twoHosts : List Attempt :=
  [⟨lit "a", lit "no", lit "secret", 1⟩, ⟨lit "b", lit "secret", lit "secret", 2⟩,
    ⟨lit "a", lit "secret", lit "secret", 2⟩]

theorem two_hosts_counted : Always guess LimiterSound startGuesses twoHosts :=
  guesses_counted twoHosts (by decide)

end Soundness

end KiroProxy.AdminLogin
