import KiroProxy.Proxy.Observe

/-!
# The windows of the observability store

What the overview and the heatmap show of a window is the sum over the events of its minutes.
The sums of credits are rounded, so they are stated in the order in which they are made.
-/

namespace KiroProxy.Observe

open ApiKeys (CreditAmount)
open Foundation.StampedRings Foundation.Tables GoStrings
open RequestHandling (RequestRecord)

set_option autoImplicit false

section Recordings

variable {Credit : Type}

/-- What is recorded: the final outcome of a client request, or a failed upstream attempt. -/
inductive Recorded (Credit : Type) where
  | request (record : RequestRecord Credit)
  | failedAttempt (accountID model : GoString)

/-- A call of a Record function: the clock, which is read again for the account's ring, and
the order in which an account to drop is looked for. -/
structure Recording (Credit : Type) where
  now : Nat
  touched : Nat
  range : MapRange (GoString × Nat)
  what : Recorded Credit

def Recording.requests (recording : Recording Credit) : Nat :=
  match recording.what with
  | .request _ => 1
  | .failedAttempt _ _ => 0

def Recording.successes (recording : Recording Credit) : Nat :=
  match recording.what with
  | .request record => if record.success then 1 else 0
  | .failedAttempt _ _ => 0

def Recording.failures (recording : Recording Credit) : Nat :=
  match recording.what with
  | .request record => if record.success then 0 else 1
  | .failedAttempt _ _ => 0

def Recording.retries (recording : Recording Credit) : Nat :=
  match recording.what with
  | .request _ => 0
  | .failedAttempt _ _ => 1

def Recording.inTokens (recording : Recording Credit) : Int :=
  match recording.what with
  | .request record => record.inputTokens
  | .failedAttempt _ _ => 0

def Recording.outTokens (recording : Recording Credit) : Int :=
  match recording.what with
  | .request record => record.outputTokens
  | .failedAttempt _ _ => 0

/-- The sum over the events from `near` minutes ago to before `far` minutes ago. -/
def sumAgo {Amount : Type} [AddCommMonoid Amount] (recordings : List (Recording Credit))
    (now near far : Nat) (amount : Recording Credit → Amount) : Amount :=
  ((recordings.filter fun recording => ago (now / 60) near far (recording.now / 60)).map amount).sum

variable [CreditAmount Credit]

def Recording.credits (recording : Recording Credit) : Credit :=
  match recording.what with
  | .request record => record.credits
  | .failedAttempt _ _ => 0

/-- The credits of the minute `i` minutes ago, in the order they were recorded. -/
def minuteCredits (recordings : List (Recording Credit)) (now i : Nat) : Credit :=
  (recordings.filter fun recording => decide (recording.now / 60 + i = now / 60)).foldl
    (fun sum recording => sum + recording.credits) 0

/-- The credits from `near` minutes ago to before `far` minutes ago, newest minute first. -/
def creditsAgo (recordings : List (Recording Credit)) (now near far : Nat) : Credit :=
  (List.range' near (far - near)).foldl (fun sum i => sum + minuteCredits recordings now i) 0

def Recording.change (recording : Recording Credit) : MinuteBucket Credit → MinuteBucket Credit :=
  match recording.what with
  | .request record =>
      .addRequest record.success record.inputTokens record.outputTokens record.credits record.cache
  | .failedAttempt _ _ => .addRetry

def ObserveStore.record (s : ObserveStore Credit) (recording : Recording Credit) :
    ObserveStore Credit :=
  match recording.what with
  | .request record =>
      s.countRequestLocked recording.range recording.touched recording.now record
  | .failedAttempt accountID model =>
      s.recordFailure recording.range recording.touched recording.now accountID model

def minutes : Stamping (MinuteBucket Credit) (Recording Credit) where
  stamp := MinuteBucket.windowMin
  fresh := .start
  stamp_fresh := fun _ => rfl
  minute := fun recording => recording.now / 60
  change := Recording.change
  keeps := by
    intro recording bucket
    unfold Recording.change
    cases recording.what <;> rfl

end Recordings

section Measures

variable {Credit : Type} [CreditAmount Credit]

def requestsMeasure : Measure (minutes : Stamping (MinuteBucket Credit) _) Nat where
  value := MinuteBucket.reqs
  part := Recording.requests
  fresh := fun _ => rfl
  add_zero := Nat.add_zero
  adds := by
    intro recording bucket
    change (recording.change bucket).reqs = _
    unfold Recording.change Recording.requests
    cases recording.what <;> rfl

def successesMeasure : Measure (minutes : Stamping (MinuteBucket Credit) _) Nat where
  value := MinuteBucket.successes
  part := Recording.successes
  fresh := fun _ => rfl
  add_zero := Nat.add_zero
  adds := by
    intro recording bucket
    change (recording.change bucket).successes = _
    unfold Recording.change Recording.successes
    cases recording.what with
    | request record => cases record with
      | mk _ _ _ _ _ _ _ _ success => cases success <;> rfl
    | failedAttempt _ _ => rfl

def failuresMeasure : Measure (minutes : Stamping (MinuteBucket Credit) _) Nat where
  value := MinuteBucket.failures
  part := Recording.failures
  fresh := fun _ => rfl
  add_zero := Nat.add_zero
  adds := by
    intro recording bucket
    change (recording.change bucket).failures = _
    unfold Recording.change Recording.failures
    cases recording.what with
    | request record => cases record with
      | mk _ _ _ _ _ _ _ _ success => cases success <;> rfl
    | failedAttempt _ _ => rfl

def retriesMeasure : Measure (minutes : Stamping (MinuteBucket Credit) _) Nat where
  value := MinuteBucket.retries
  part := Recording.retries
  fresh := fun _ => rfl
  add_zero := Nat.add_zero
  adds := by
    intro recording bucket
    change (recording.change bucket).retries = _
    unfold Recording.change Recording.retries
    cases recording.what <;> rfl

def inTokensMeasure : Measure (minutes : Stamping (MinuteBucket Credit) _) Int where
  value := MinuteBucket.inTokens
  part := Recording.inTokens
  fresh := fun _ => rfl
  add_zero := Int.add_zero
  adds := by
    intro recording bucket
    change (recording.change bucket).inTokens = _
    unfold Recording.change Recording.inTokens
    cases recording.what with
    | request record => rfl
    | failedAttempt _ _ => exact (Int.add_zero _).symm

def outTokensMeasure : Measure (minutes : Stamping (MinuteBucket Credit) _) Int where
  value := MinuteBucket.outTokens
  part := Recording.outTokens
  fresh := fun _ => rfl
  add_zero := Int.add_zero
  adds := by
    intro recording bucket
    change (recording.change bucket).outTokens = _
    unfold Recording.change Recording.outTokens
    cases recording.what with
    | request record => rfl
    | failedAttempt _ _ => exact (Int.add_zero _).symm

def creditsMeasure : Measure (minutes : Stamping (MinuteBucket Credit) _) Credit where
  value := MinuteBucket.credits
  part := Recording.credits
  fresh := fun _ => rfl
  add_zero := CreditAmount.add_zero
  adds := by
    intro recording bucket
    change (recording.change bucket).credits = _
    unfold Recording.change Recording.credits
    cases recording.what with
    | request record => rfl
    | failedAttempt _ _ => exact (CreditAmount.add_zero _).symm

end Measures

section Rings

variable {Credit : Type} [CreditAmount Credit]

theorem changeBucket_write (ring : MinuteRing Credit) (recording : Recording Credit) :
    changeBucket ring recording.now recording.change = write minutes ring recording := by
  unfold changeBucket write touched touchBucket
  congr 2
  exact ite_not _ _ _

theorem ring_untouched (range : MapRange (GoString × Nat)) (touched : Nat)
    (s : ObserveStore Credit) (accountID : GoString) :
    (s.getOrCreateAccountRing range touched accountID).1.globalRing = s.globalRing := by
  unfold ObserveStore.getOrCreateAccountRing
  split_ifs
  · rfl
  · cases s.accountRings.get accountID with
    | some ring => rfl
    | none =>
        simp only
        split_ifs <;> rfl

theorem changeBuckets_global (range : MapRange (GoString × Nat)) (touched now : Nat)
    (accountID : GoString) (change : MinuteBucket Credit → MinuteBucket Credit)
    (s : ObserveStore Credit) :
    (s.changeBuckets range touched now accountID change).globalRing =
      changeBucket s.globalRing now change := by
  unfold ObserveStore.changeBuckets
  have untouched := ring_untouched range touched
    { s with globalRing := changeBucket s.globalRing now change } accountID
  cases got : ObserveStore.getOrCreateAccountRing range touched
      { s with globalRing := changeBucket s.globalRing now change } accountID with
  | mk next ring =>
      rw [got] at untouched
      cases ring with
      | none => simpa only [got] using untouched
      | some ring => simpa only [got] using untouched

/-- Every recording writes the bucket of its minute in the global ring. -/
theorem record_global (s : ObserveStore Credit) (recording : Recording Credit) :
    (s.record recording).globalRing = write minutes s.globalRing recording := by
  rw [← changeBucket_write]
  unfold ObserveStore.record Recording.change
  cases recording.what with
  | request record =>
      simp only
      unfold ObserveStore.countRequestLocked
      simp only
      split_ifs
      · exact changeBuckets_global ..
      · exact changeBuckets_global ..
  | failedAttempt accountID model =>
      simp only
      unfold ObserveStore.recordFailure
      simp only
      split_ifs
      · exact changeBuckets_global ..
      · exact changeBuckets_global ..

theorem records_global (s : ObserveStore Credit) (recordings : List (Recording Credit)) :
    (recordings.foldl ObserveStore.record s).globalRing =
      recordings.foldl (write minutes) s.globalRing := by
  induction recordings generalizing s with
  | nil => rfl
  | cons recording recordings ih =>
      rw [List.foldl_cons, ih, record_global, List.foldl_cons]

/-- The ring holds every log whose times never go back. -/
theorem records_hold (startedAt : Nat) (recordings : List (Recording Credit))
    (ordered : (recordings.map Recording.now).Pairwise (· ≤ ·)) (now : Nat)
    (past : ∀ recording ∈ recordings, recording.now ≤ now) :
    Holds minutes (recordings.foldl ObserveStore.record (.start startedAt)).globalRing recordings
      (now / 60) := by
  rw [records_global]
  have nothing : Holds minutes (emptyRing : MinuteRing Credit) [] 0 := fresh_holds minutes 0
  apply writes_hold _ [] recordings 0 nothing
  · rw [List.pairwise_map] at ordered ⊢
    exact ordered.imp fun first => Nat.div_le_div_right first
  · exact fun _ _ => Nat.zero_le _
  · exact Nat.zero_le _
  · exact fun recording member => Nat.div_le_div_right (past recording member)

variable {Amount : Type} [Zero Amount] [Add Amount]
  (measure : Measure (minutes : Stamping (MinuteBucket Credit) _) Amount)

/-- What is read of a bucket some minutes ago is what the ring shows of its minute. -/
theorem bucketAgo_shown (ring : MinuteRing Credit) (now i : Nat) (recent : i < observeMinuteSlots) :
    (bucketAgo ring now i).elim 0 measure.value = shownAgo measure ring (now / 60) i := by
  unfold bucketAgo shownAgo touched curSlot
  simp only
  by_cases within : i ≤ now / 60
  · have slot : Fin.ofNat observeMinuteSlots
        ((Fin.ofNat observeMinuteSlots (now / 60) : Nat) + observeMinuteSlots - i) =
          Fin.ofNat observeMinuteSlots (now / 60 - i) := by
      apply Fin.ext
      change (now / 60 % observeMinuteSlots + observeMinuteSlots - i) % observeMinuteSlots =
        (now / 60 - i) % observeMinuteSlots
      unfold observeMinuteSlots at *
      omega
    rw [slot, if_pos within]
    have stamps : ∀ stamp : Nat,
        (stamp : Int) ≠ ((now / 60 : Nat) : Int) - (i : Int) ↔ ¬ stamp = now / 60 - i := by
      intro stamp
      omega
    rw [if_congr (stamps _) rfl rfl, ite_not, apply_ite measure.value, measure.fresh]
    change Option.elim (if (ring _).windowMin = now / 60 - i then _ else _) _ _ =
      if (ring _).windowMin = now / 60 - i then _ else _
    split_ifs <;> rfl
  · rw [if_neg within, if_pos]
    · rfl
    · omega

variable {ring : MinuteRing Credit} {recordings : List (Recording Credit)} {now : Nat}
  (holds : Holds minutes ring recordings (now / 60))

include holds

theorem bucketAgo_logged (i : Nat) (recent : i < observeMinuteSlots) :
    (bucketAgo ring now i).elim 0 measure.value = minuteSum measure recordings (now / 60) i :=
  (bucketAgo_shown measure ring now i recent).trans (shown_logged measure holds i recent)

omit [Zero Amount] [Add Amount] in
/-- Where adding is associative, it is the sum over the events of the minute. -/
theorem bucketAgo_sum {Amount : Type} [AddCommMonoid Amount]
    (measure : Measure (minutes : Stamping (MinuteBucket Credit) _) Amount) (i : Nat)
    (recent : i < observeMinuteSlots) :
    (bucketAgo ring now i).elim 0 measure.value = sumAgo recordings now i (i + 1) measure.part := by
  have single := windowSum_logged measure recordings (now / 60) i 1 0
  rw [windowSum, List.range'_one, List.foldl_cons, List.foldl_nil, zero_add, zero_add] at single
  exact (bucketAgo_logged measure holds i recent).trans single

end Rings

end KiroProxy.Observe
