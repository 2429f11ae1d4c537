import KiroProxy.Foundation.Runs
import KiroProxy.Pool.Rotation

/-!
# Selections from any pool

What the scan of `findNextAvailableLocked` finds, whatever the cursor, the last
account and the accounts that cannot serve. The scan looks at one entry of an id
and passes over the others, so it misses nothing where the entries of one id are
copies of one account, as `Reload` makes them of accounts with ids of their own.
-/

namespace KiroProxy.Pool

open Accounts
open ApiKeys (CreditAmount)
open Foundation.Runs

set_option autoImplicit false

section Scan

variable {Credit : Type}

def CopiesOnly (pool : AccountPool Credit) : Prop :=
  ∀ account ∈ pool.accounts, ∀ other ∈ pool.accounts, account.id = other.id → account = other

/-- Accounts with ids of their own come into rotation as copies. -/
theorem reload_copies [CreditAmount Credit] (pool : AccountPool Credit)
    (enabled : List (Account Credit)) (allowOverUsage : Bool)
    (distinct : (enabled.map fun account => account.id).Nodup) :
    CopiesOnly (reload pool enabled allowOverUsage) := by
  intro account member other otherMember same
  rw [reload_accounts, mem_weighted] at member otherMember
  exact List.inj_on_of_nodup_map distinct (List.mem_filter.mp member).1
    (List.mem_filter.mp otherMember).1 same

variable [CreditAmount Credit] {pool : AccountPool Credit} {request : Request}

/-- An account the scan does not answer. -/
def PassedOver (pool : AccountPool Credit) (request : Request) (avoidLast : Bool)
    (account : Account Credit) : Prop :=
  avoidLast = true ∧ account.id = pool.lastSelected ∨ canServe pool account request = false

/-- A scan that finds nothing has passed over every slot it was to look at. -/
theorem find_none (copies : CopiesOnly pool) (avoidLast : Bool) (offsets : List Nat)
    (nonempty : pool.accounts ≠ []) (seen : List GoString)
    (passed : ∀ account ∈ pool.accounts, account.id ∈ seen →
      PassedOver pool request avoidLast account)
    (missed : findFrom pool request avoidLast seen offsets = none) :
    ∀ offset ∈ offsets, ∀ account ∈
      pool.accounts[(pool.currentIndex + offset) % pool.accounts.length]?,
      PassedOver pool request avoidLast account := by
  induction offsets generalizing seen with
  | nil => exact fun _ member => absurd member List.not_mem_nil
  | cons offset offsets ih =>
      have inside : (pool.currentIndex + offset) % pool.accounts.length < pool.accounts.length :=
        Nat.mod_lt _ (List.length_pos_of_ne_nil nonempty)
      rw [findFrom, List.getElem?_eq_getElem inside] at missed
      generalize slot : pool.accounts[(pool.currentIndex + offset) % pool.accounts.length] =
        found at missed
      have foundAt : pool.accounts[(pool.currentIndex + offset) % pool.accounts.length]? =
          some found := by
        rw [List.getElem?_eq_getElem inside, slot]
      have member : found ∈ pool.accounts := List.mem_of_getElem? foundAt
      -- Seeing one entry of an id passes over the others: they are the same account.
      have looked (here : PassedOver pool request avoidLast found) : ∀ account ∈ pool.accounts,
          account.id ∈ found.id :: seen → PassedOver pool request avoidLast account := by
        intro account present known
        cases List.mem_cons.mp known with
        | inl same =>
            rw [copies account present found member same]
            exact here
        | inr old => exact passed account present old
      have both (here : PassedOver pool request avoidLast found)
          (rest : ∀ offset ∈ offsets, ∀ account ∈
            pool.accounts[(pool.currentIndex + offset) % pool.accounts.length]?,
            PassedOver pool request avoidLast account) :
          ∀ other ∈ offset :: offsets, ∀ account ∈
            pool.accounts[(pool.currentIndex + other) % pool.accounts.length]?,
            PassedOver pool request avoidLast account := by
        intro other among account at_
        cases List.mem_cons.mp among with
        | inl same =>
            rw [same, foundAt] at at_
            cases at_
            exact here
        | inr later => exact rest other later account at_
      simp only at missed
      split_ifs at missed with known last idle
      · have here := passed found member (List.contains_iff_mem.mp known)
        exact both here (ih seen passed missed)
      · have here : PassedOver pool request avoidLast found := Or.inl (by simpa using last)
        exact both here (ih (found.id :: seen) (looked here) missed)
      · have here : PassedOver pool request avoidLast found := Or.inr (by simpa using idle)
        exact both here (ih (found.id :: seen) (looked here) missed)

theorem find_avoids (seen : List GoString) (offsets : List Nat) (slot : Nat)
    (account : Account Credit)
    (found : findFrom pool request true seen offsets = some (slot, account)) :
    account.id ≠ pool.lastSelected := by
  induction offsets generalizing seen with
  | nil => exact absurd found (Option.some_ne_none _).symm
  | cons offset offsets ih =>
      rw [findFrom] at found
      cases at_ : pool.accounts[(pool.currentIndex + offset) % pool.accounts.length]? with
      | none =>
          rw [at_] at found
          exact absurd found (Option.some_ne_none _).symm
      | some here =>
          rw [at_] at found
          simp only at found
          split_ifs at found with known last idle
          · exact ih seen found
          · exact ih (here.id :: seen) found
          · exact ih (here.id :: seen) found
          · cases found
            simpa using last

omit [CreditAmount Credit] in
/-- The offsets of a scan reach every account, from any cursor. -/
theorem offset_of_account (account : Account Credit) (member : account ∈ pool.accounts) :
    ∃ offset ∈ List.range pool.accounts.length,
      pool.accounts[(pool.currentIndex + offset) % pool.accounts.length]? = some account := by
  have scanned : account ∈ scanOrder pool := List.mem_rotate.mpr member
  obtain ⟨offset, inside, at_⟩ := List.mem_iff_getElem.mp scanned
  have short : offset < pool.accounts.length := by
    simpa [scanOrder] using inside
  refine ⟨offset, List.mem_range.mpr short, ?_⟩
  rw [slot_of_offset pool offset short, List.getElem?_eq_getElem inside, at_]

theorem find_next_none (copies : CopiesOnly pool) (avoidLast : Bool)
    (missed : (findNextAvailable pool request avoidLast).1 = none) :
    ∀ account ∈ pool.accounts, PassedOver pool request avoidLast account := by
  intro account member
  have scan : findFrom pool request avoidLast [] (List.range pool.accounts.length) = none := by
    unfold findNextAvailable at missed
    cases found : findFrom pool request avoidLast [] (List.range pool.accounts.length) with
    | none => rfl
    | some slot =>
        rw [found] at missed
        exact absurd missed (Option.some_ne_none _)
  obtain ⟨offset, among, at_⟩ := offset_of_account account member
  exact find_none copies avoidLast _ (List.ne_nil_of_mem member) []
    (fun _ _ known => absurd known List.not_mem_nil) scan offset among account
    (Option.mem_def.mpr at_)

theorem find_next_avoids (account : Account Credit)
    (found : (findNextAvailable pool request true).1 = some account) :
    account.id ≠ pool.lastSelected := by
  unfold findNextAvailable at found
  cases scan : findFrom pool request true [] (List.range pool.accounts.length) with
  | none =>
      rw [scan] at found
      exact absurd found (Option.some_ne_none _).symm
  | some slot =>
      rw [scan] at found
      cases found
      exact find_avoids [] _ slot.1 slot.2 scan

/-- The two passes of one selection: the second runs where the first found nothing. -/
theorem next_cases (nonempty : pool.accounts ≠ []) :
    ((findNextAvailable pool request true).1 ≠ none ∧
        nextAccount pool request = findNextAvailable pool request true) ∨
      (findNextAvailable pool request true).1 = none ∧
        nextAccount pool request = findNextAvailable pool request false := by
  unfold nextAccount
  rw [if_neg (by simpa using nonempty)]
  cases found : findNextAvailable pool request true with
  | mk selected next =>
      cases selected with
      | none => exact Or.inr ⟨rfl, rfl⟩
      | some account => exact Or.inl ⟨Option.some_ne_none account, rfl⟩

theorem none_of_idle (selected : Option (Account Credit))
    (serves : Serves pool request selected)
    (idle : ∀ account ∈ pool.accounts, canServe pool account request = false) :
    selected = none := by
  cases selected with
  | none => rfl
  | some account =>
      have able := serves account (Option.mem_def.mpr rfl)
      rw [idle account able.1] at able
      exact absurd able.2 Bool.false_ne_true

theorem next_none_iff (copies : CopiesOnly pool) :
    (nextAccount pool request).1 = none ↔
      ∀ account ∈ pool.accounts, canServe pool account request = false := by
  constructor
  · intro missed account member
    cases @next_cases Credit _ pool request (List.ne_nil_of_mem member) with
    | inl first =>
        rw [first.2] at missed
        exact absurd missed first.1
    | inr second =>
        rw [second.2] at missed
        cases find_next_none copies false missed account member with
        | inl avoided => exact absurd avoided.1 Bool.false_ne_true
        | inr idle => exact idle
  · exact none_of_idle _ (next_serves pool request)

/-- The last account is selected again only where no other can serve. -/
theorem next_repeats (copies : CopiesOnly pool) (account : Account Credit)
    (selected : (nextAccount pool request).1 = some account)
    (again : account.id = pool.lastSelected) :
    ∀ other ∈ pool.accounts, canServe pool other request = true → other = account := by
  intro other member able
  cases @next_cases Credit _ pool request (List.ne_nil_of_mem member) with
  | inl first =>
      rw [first.2] at selected
      exact absurd again (find_next_avoids account selected)
  | inr second =>
      have served : account ∈ pool.accounts :=
        (next_serves pool request account (Option.mem_def.mpr selected)).1
      cases find_next_none copies true second.1 other member with
      | inl last => exact copies other member account served (last.2.trans again.symm)
      | inr idle =>
          rw [idle] at able
          exact absurd able Bool.false_ne_true

/-- A preferred account that can serve is the selection; the rotation stays. -/
theorem preferred_selected (copies : CopiesOnly pool) (account : Account Credit)
    (member : account ∈ pool.accounts) (named : account.id ≠ [])
    (able : canServe pool account request = true) :
    getPreferredForModelExcluding pool account.id request = (some account, pool) := by
  unfold getPreferredForModelExcluding
  rw [if_neg named]
  have found : pool.accounts.find? (hasId account.id) = some account := by
    cases first : pool.accounts.find? (hasId account.id) with
    | none =>
        have missing := List.find?_eq_none.mp first account member
        simp [hasId] at missing
    | some other =>
        have same : other.id = account.id := by
          simpa [hasId] using List.find?_some first
        rw [copies other (List.mem_of_find?_eq_some first) account member same]
  rw [found]
  exact if_pos able

theorem preferred_cases (preferredID : GoString) :
    getPreferredForModelExcluding pool preferredID request = nextAccount pool request ∨
      ∃ account, getPreferredForModelExcluding pool preferredID request =
        (some account, pool) := by
  unfold getPreferredForModelExcluding
  split_ifs with unnamed
  · exact Or.inl rfl
  · cases pool.accounts.find? (hasId preferredID) with
    | none => exact Or.inl rfl
    | some account =>
        simp only
        split_ifs with able
        · exact Or.inr ⟨account, rfl⟩
        · exact Or.inl rfl

theorem preferred_none_iff (copies : CopiesOnly pool) (preferredID : GoString) :
    (getPreferredForModelExcluding pool preferredID request).1 = none ↔
      ∀ account ∈ pool.accounts, canServe pool account request = false := by
  constructor
  · intro missed
    cases @preferred_cases Credit _ pool request preferredID with
    | inl next =>
        rw [next] at missed
        exact (next_none_iff copies).mp missed
    | inr hit =>
        obtain ⟨account, found⟩ := hit
        rw [found] at missed
        exact absurd missed (Option.some_ne_none account)
  · exact none_of_idle _ (preferred_serves pool preferredID request)

end Scan

section Cursor

variable {Credit : Type} [CreditAmount Credit]

inductive Pick (Credit : Type) where
  | next (request : Request)
  | preferred (preferredID : GoString) (request : Request)
  | reload (enabled : List (Account Credit)) (allowOverUsage : Bool)

def afterPick (pool : AccountPool Credit) : Pick Credit → AccountPool Credit
  | .next request => (nextAccount pool request).2
  | .preferred preferredID request =>
      (getPreferredForModelExcluding pool preferredID request).2
  | .reload enabled allowOverUsage => Pool.reload pool enabled allowOverUsage

/-- The cursor is a slot of the rotation, or zero where the rotation has none. -/
def CursorInside (pool : AccountPool Credit) : Prop :=
  pool.currentIndex < pool.accounts.length ∨ pool.accounts = [] ∧ pool.currentIndex = 0

theorem find_next_cursor (pool : AccountPool Credit) (request : Request) (avoidLast : Bool)
    (inside : CursorInside pool) :
    CursorInside (findNextAvailable pool request avoidLast).2 := by
  unfold findNextAvailable
  cases found : findFrom pool request avoidLast [] (List.range pool.accounts.length) with
  | none => exact inside
  | some slot =>
      have serves := find_serves pool request avoidLast [] (List.range pool.accounts.length)
      rw [found] at serves
      have member := (serves slot.2 (Option.mem_def.mpr rfl)).1
      exact Or.inl (Nat.mod_lt _ (List.length_pos_of_mem member))

theorem next_cursor (pool : AccountPool Credit) (request : Request)
    (inside : CursorInside pool) : CursorInside (nextAccount pool request).2 := by
  by_cases empty : pool.accounts = []
  · unfold nextAccount
    rw [if_pos (by simpa using empty)]
    exact inside
  · cases @next_cases Credit _ pool request empty with
    | inl first =>
        rw [first.2]
        exact find_next_cursor pool request true inside
    | inr second =>
        rw [second.2]
        exact find_next_cursor pool request false inside

theorem preferred_cursor (pool : AccountPool Credit) (preferredID : GoString)
    (request : Request) (inside : CursorInside pool) :
    CursorInside (getPreferredForModelExcluding pool preferredID request).2 := by
  cases @preferred_cases Credit _ pool request preferredID with
  | inl next =>
      rw [next]
      exact next_cursor pool request inside
  | inr hit =>
      obtain ⟨account, found⟩ := hit
      rw [found]
      exact inside

/-- A stale cursor is brought back into the new rotation. -/
theorem reload_cursor (pool : AccountPool Credit) (enabled : List (Account Credit))
    (allowOverUsage : Bool) : CursorInside (reload pool enabled allowOverUsage) := by
  by_cases someone : rotationAccounts enabled allowOverUsage = []
  · have empty : weighted (enabled.filter (inRotation allowOverUsage)) = [] := by
      unfold rotationAccounts at someone
      rw [someone]
      rfl
    exact Or.inr ⟨empty, by simp [reload, empty]⟩
  · exact Or.inl (reload_cursor_inside pool enabled allowOverUsage someone)

theorem pick_cursor (pool : AccountPool Credit) (pick : Pick Credit)
    (inside : CursorInside pool) : CursorInside (afterPick pool pick) := by
  cases pick with
  | next request => exact next_cursor pool request inside
  | preferred preferredID request => exact preferred_cursor pool preferredID request inside
  | reload enabled allowOverUsage => exact reload_cursor pool enabled allowOverUsage

theorem picks_cursor (picks : List (Pick Credit)) :
    CursorInside (run afterPick newPool picks) :=
  invariant_of_steps afterPick CursorInside pick_cursor newPool (Or.inr ⟨rfl, rfl⟩) picks

end Cursor

section Selections

variable {Credit : Type} [CreditAmount Credit]

/-- Nothing is returned exactly where nobody in rotation can serve. -/
def Complete (pool : AccountPool Credit) (request : Request)
    (selected : Option (Account Credit)) : Prop :=
  selected = none ↔ ∀ account ∈ pool.accounts, canServe pool account request = false

/-- Selections are sound and complete whatever the pool, the cursor included, if the
entries of one id are copies of one account; what they return can serve in any case,
and the cursor stays inside over every run of picks and reloads. -/
theorem selections_complete (pool : AccountPool Credit) (request : Request)
    (preferredID : GoString) (picks : List (Pick Credit)) :
    Serves pool request (nextAccount pool request).1 ∧
      Serves pool request (getPreferredForModelExcluding pool preferredID request).1 ∧
      (CopiesOnly pool →
        Complete pool request (nextAccount pool request).1 ∧
        Complete pool request (getPreferredForModelExcluding pool preferredID request).1 ∧
        (∀ account, (nextAccount pool request).1 = some account →
          account.id = pool.lastSelected →
          ∀ other ∈ pool.accounts, canServe pool other request = true → other = account) ∧
        ∀ account ∈ pool.accounts, account.id = preferredID → preferredID ≠ [] →
          canServe pool account request = true →
          getPreferredForModelExcluding pool preferredID request = (some account, pool)) ∧
      CursorInside (run afterPick newPool picks : AccountPool Credit) := by
  refine ⟨next_serves pool request, preferred_serves pool preferredID request, ?_,
    picks_cursor picks⟩
  intro copies
  refine ⟨next_none_iff copies, preferred_none_iff copies preferredID, next_repeats copies, ?_⟩
  intro account member named nonempty able
  subst named
  exact preferred_selected copies account member nonempty able

/-- Every reload of accounts with ids of their own gives a pool whose selections are
complete. -/
theorem selections_complete_two :
    Complete (reload newPool heavyAndTwo false) plainRequest
      (nextAccount (reload newPool heavyAndTwo false) plainRequest).1 :=
  ((selections_complete (reload newPool heavyAndTwo false) plainRequest [] []).2.2.1
    (reload_copies newPool heavyAndTwo false (by decide))).1

/-- Two accounts under one id, the first with a token that has run out. -/
def sameIdTwice : List (Account Int) :=
  [{ weightedAccount (lit "a") 1 with expiresAt := 1 }, weightedAccount (lit "a") 1]

/-- The scan that met the first entry of an id passes over the account that could serve
under the same id; and in an empty rotation the cursor is not below the length. -/
theorem second_entry_hidden :
    (¬∀ (pool : AccountPool Int) (request : Request),
      Complete pool request (nextAccount pool request).1) ∧
    ¬∀ picks : List (Pick Int),
      (run afterPick newPool picks).currentIndex <
        (run afterPick newPool picks).accounts.length := by
  have hidden : ¬Complete (reload newPool sameIdTwice false) plainRequest
      (nextAccount (reload newPool sameIdTwice false) plainRequest).1 := by
    unfold Complete
    decide
  constructor
  · intro always
    exact hidden (always _ _)
  · intro always
    exact absurd (always []) (Nat.lt_irrefl 0)

end Selections

end KiroProxy.Pool
