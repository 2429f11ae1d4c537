import KiroProxy.Foundation.Pages
import KiroProxy.Foundation.Sorting
import KiroProxy.Foundation.Words
import KiroProxy.GoStrings

/-!
# Pages of recent requests

`normalizeRequestQuery` and `memoryRequestPage` of `proxy/observe.go`, which answer where no
request log is stored, and the query that `apiObserveRecentRequests` asks.
-/

namespace KiroProxy.RequestPages

open Foundation.Pages Foundation.Sorting Foundation.Words GoStrings

set_option autoImplicit false

abbrev observeRecentReqs : Nat := 200

structure RequestRecord (Credit : Type) where
  id : Int
  ts : Int
  accountID : GoString
  apiKeyID : GoString
  apiKey : GoString
  apiKeyMasked : GoString
  email : GoString
  model : GoString
  inTokens : Int
  outTokens : Int
  totalTokens : Int
  cacheRead : Int
  cacheWrite : Int
  credits : Credit
  success : Bool
  status : Int
  message : GoString
  endpoint : GoString
  durationMs : Int
  errorType : GoString
  totalWord : -2 ^ 63 ≤ totalTokens ∧ totalTokens < 2 ^ 63

/-- The ring of the last requests; a slot not written yet has no time. -/
structure RecentRing (Credit : Type) where
  recentRequests : Fin observeRecentReqs → RequestRecord Credit
  recentReqIdx : Fin observeRecentReqs

/-- The newest first. -/
def RecentRing.newest {Credit : Type} (store : RecentRing Credit) (limit : Int) :
    List (RequestRecord Credit) :=
  let limit : Int :=
    if limit ≤ 0 ∨ (observeRecentReqs : Int) < limit then (observeRecentReqs : Int) else limit
  (((List.range observeRecentReqs).map fun i =>
    store.recentRequests (Fin.ofNat _ (store.recentReqIdx + observeRecentReqs - 1 - i))).filter
      fun rec => decide (rec.ts ≠ 0)).take limit.toNat

structure RequestQuery where
  page : Int
  pageSize : Int
  search : GoString
  status : GoString
  sort : GoString
  order : GoString

inductive SortKey where
  | time
  | status
  | account
  | apiKey
  | model
  | tokens
  | credits
  | duration
  deriving DecidableEq

inductive SortOrder where
  | asc
  | desc
  deriving DecidableEq

/-- A query as `normalizeRequestQuery` leaves it; `status` is the success asked for. -/
structure PageQuery where
  page : Int
  pageSize : Int
  search : GoString
  status : Option Bool
  sort : SortKey
  order : SortOrder
  page_pos : 1 ≤ page
  size_pos : 1 ≤ pageSize
  size_le : pageSize ≤ 200

structure RequestPage (Credit : Type) where
  requests : List (RequestRecord Credit)
  total : Nat
  page : Int
  pageSize : Int
  sort : SortKey
  order : SortOrder

/-- The query of a call; a number is what `strconv.Atoi` makes of its parameter. -/
def observeQuery (page pageSize limit : Option Int) (search status sort order : GoString) :
    RequestQuery where
  page := ((page.filter fun parsed => decide (0 < parsed))).getD 1
  pageSize := ((pageSize.filter fun parsed => decide (0 < parsed)).or
    (limit.filter fun parsed => decide (0 < parsed))).getD 25
  search := search
  status := status
  sort := sort
  order := order

section Paging

variable {Credit : Type} [LinearOrder Credit] (letters : Letters)

def sortKey (sort : GoString) : SortKey :=
  let sort := trimSpace (letters.toLower sort)
  if sort = lit "status" then .status
  else if sort = lit "account" then .account
  else if sort = lit "api_key" then .apiKey
  else if sort = lit "model" then .model
  else if sort = lit "tokens" then .tokens
  else if sort = lit "credits" then .credits
  else if sort = lit "duration" then .duration
  else .time

def statusAsked (status : GoString) : Option Bool :=
  let status := trimSpace (letters.toLower status)
  if status = lit "success" then some true
  else if status = lit "failed" then some false
  else none

def normalizeRequestQuery (q : RequestQuery) : PageQuery where
  page := if q.page < 1 then 1 else q.page
  pageSize :=
    let size := if q.pageSize ≤ 0 then 25 else q.pageSize
    if 200 < size then 200 else size
  search := trimSpace q.search
  status := statusAsked letters q.status
  sort := sortKey letters q.sort
  order := if trimSpace (letters.toLower q.order) = lit "asc" then .asc else .desc
  page_pos := by split_ifs <;> omega
  size_pos := by simp only; split_ifs <;> omega
  size_le := by simp only; split_ifs <;> omega

def haystack (rec : RequestRecord Credit) : GoString :=
  letters.toLower (rec.email ++ lit " " ++ rec.accountID ++ lit " " ++ rec.apiKeyID ++ lit " " ++
    rec.apiKey ++ lit " " ++ rec.apiKeyMasked ++ lit " " ++ rec.model ++ lit " " ++ rec.message ++
    lit " " ++ rec.endpoint ++ lit " " ++ rec.errorType)

def matchesQuery (q : PageQuery) (rec : RequestRecord Credit) : Bool :=
  q.status.all (fun success => rec.success == success) &&
    (letters.toLower q.search == [] || contains (haystack letters rec) (letters.toLower q.search))

def filtered (store : RecentRing Credit) (q : PageQuery) : List (RequestRecord Credit) :=
  (store.newest observeRecentReqs).filter (matchesQuery letters q)

def boolInt (v : Bool) : Int := if v then 1 else 0

/-- The comparison of two records, by their time where the key has them even. -/
def compareBy (difference : Int → Int → Int) (sort : SortKey) (a b : RequestRecord Credit) : Int :=
  let compare := match sort with
    | .status => boolInt a.success - boolInt b.success
    | .account =>
        threeWay (letters.toLower (a.email ++ a.accountID))
          (letters.toLower (b.email ++ b.accountID))
    | .apiKey =>
        threeWay (letters.toLower (a.apiKey ++ a.apiKeyID))
          (letters.toLower (b.apiKey ++ b.apiKeyID))
    | .model => threeWay (letters.toLower a.model) (letters.toLower b.model)
    | .tokens => difference a.totalTokens b.totalTokens
    | .credits => threeWay a.credits b.credits
    | .duration => threeWay a.durationMs b.durationMs
    | .time => threeWay a.ts b.ts
  if compare = 0 then threeWay a.ts b.ts else compare

def lessBy (difference : Int → Int → Int) (q : PageQuery) (a b : RequestRecord Credit) : Bool :=
  match q.order with
  | .desc => decide (0 < compareBy letters difference q.sort a b)
  | .asc => decide (compareBy letters difference q.sort a b < 0)

/-- The function that `memoryRequestPage` sorts by: a difference of tokens is a word. -/
def lessRequest (q : PageQuery) : RequestRecord Credit → RequestRecord Credit → Bool :=
  lessBy letters (fun a b => word (a - b)) q

/-- The start and the end of the slice. -/
def pageBounds (q : PageQuery) (total : Nat) : Int × Int :=
  let start := word (word (q.page - 1) * q.pageSize)
  let start := if (total : Int) < start then (total : Int) else start
  let stop := word (start + q.pageSize)
  let stop := if (total : Int) < stop then (total : Int) else stop
  (start, stop)

/-- `items[start:stop]`, which panics unless the bounds are in order. -/
def sliceOf {Item : Type} (items : List Item) (bounds : Int × Int) : Option (List Item) :=
  if 0 ≤ bounds.1 ∧ bounds.1 ≤ bounds.2 ∧ bounds.2 ≤ items.length then
    some ((items.drop bounds.1.toNat).take (bounds.2.toNat - bounds.1.toNat))
  else none

/-- None where the slice panics. -/
def memoryRequestPage (sort : SliceSort (RequestRecord Credit)) (store : RecentRing Credit)
    (q : PageQuery) : Option (RequestPage Credit) :=
  let filtered := sort.slice (lessRequest letters q) (filtered letters store q)
  let total := filtered.length
  (sliceOf filtered (pageBounds q total)).map fun requests =>
    ⟨requests, total, q.page, q.pageSize, q.sort, q.order⟩

/-- The order that is asked for: differences of tokens have any size. -/
def wantedBefore (q : PageQuery) : RequestRecord Credit → RequestRecord Credit → Bool :=
  lessBy letters (fun a b => a - b) q

end Paging

section Order

variable {Credit : Type} [LinearOrder Credit] (letters : Letters)

theorem text_compares {Item : Type} (key : Item → GoString) :
    Compares fun a b => threeWay (key a) (key b) :=
  three_way_compares key (fun _ _ first second => List.lt_irrefl _ (List.lt_trans first second))
    fun _ _ _ first second => List.not_lt.mpr (List.le_trans (List.not_lt.mp first)
      (List.not_lt.mp second))

theorem linear_compares {Item Key : Type} [LinearOrder Key] (key : Item → Key) :
    Compares fun a b => threeWay (key a) (key b) :=
  three_way_compares key (fun _ _ first second => lt_asymm first second)
    fun _ _ _ first second => not_lt.mpr ((not_lt.mp first).trans (not_lt.mp second))

theorem wanted_compares (sort : SortKey) :
    Compares (@compareBy Credit _ letters (fun a b => a - b) sort) := by
  apply tie_compares _ _ ?_ (linear_compares fun rec : RequestRecord Credit => rec.ts)
  cases sort with
  | status => exact difference_compares fun rec : RequestRecord Credit => boolInt rec.success
  | account =>
      exact text_compares fun rec : RequestRecord Credit =>
        letters.toLower (rec.email ++ rec.accountID)
  | apiKey =>
      exact text_compares fun rec : RequestRecord Credit =>
        letters.toLower (rec.apiKey ++ rec.apiKeyID)
  | model => exact text_compares fun rec : RequestRecord Credit => letters.toLower rec.model
  | tokens => exact difference_compares fun rec : RequestRecord Credit => rec.totalTokens
  | credits => exact linear_compares fun rec : RequestRecord Credit => rec.credits
  | duration => exact linear_compares fun rec : RequestRecord Credit => rec.durationMs
  | time => exact linear_compares fun rec : RequestRecord Credit => rec.ts

theorem wanted_weak (q : PageQuery) (items : List (RequestRecord Credit)) :
    StrictWeak (wantedBefore letters q) items := by
  have compares := @wanted_compares Credit _ letters q.sort
  unfold wantedBefore lessBy
  cases q.order with
  | asc => exact ascending_weak compares items
  | desc => exact descending_weak compares items

/-- Differences of tokens that are words, where they are sorted by. -/
def TokensFit (store : RecentRing Credit) (q : PageQuery) : Prop :=
  q.sort = .tokens → ∀ a ∈ filtered letters store q, ∀ b ∈ filtered letters store q,
    a.totalTokens - b.totalTokens < 2 ^ 63

/-- Only tokens are compared by a difference of words. -/
theorem compare_by_key (first second : Int → Int → Int) (sort : SortKey)
    (a b : RequestRecord Credit)
    (same : sort = .tokens → first a.totalTokens b.totalTokens =
      second a.totalTokens b.totalTokens) :
    compareBy letters first sort a b = compareBy letters second sort a b := by
  unfold compareBy
  cases sort with
  | tokens => simp only [same rfl]
  | _ => rfl

theorem fitting_agrees (store : RecentRing Credit) (q : PageQuery)
    (fit : TokensFit letters store q) :
    ∀ a ∈ filtered letters store q, ∀ b ∈ filtered letters store q,
      lessRequest letters q a b = wantedBefore letters q a b := by
  intro a inA b inB
  have same := compare_by_key letters (fun a b => word (a - b)) (fun a b => a - b) q.sort a b
    (by
      intro tokens
      have one := fit tokens a inA b inB
      have two := fit tokens b inB a inA
      exact word_fits _ (by omega) one)
  unfold lessRequest wantedBefore lessBy
  rw [same]

theorem uneven_tokens (difference : Int → Int → Int) (a b : RequestRecord Credit)
    (uneven : difference a.totalTokens b.totalTokens ≠ 0) :
    compareBy letters difference .tokens a b = difference a.totalTokens b.totalTokens :=
  if_neg uneven

/-- Tokens further apart than a word come out the wrong way round under some sort. -/
theorem apart_unordered (store : RecentRing Credit) (q : PageQuery)
    (apart : ¬TokensFit letters store q) :
    ∃ sort : SliceSort (RequestRecord Credit), ¬Ordered (wantedBefore letters q)
      (sort.slice (lessRequest letters q) (filtered letters store q)) := by
  unfold TokensFit at apart
  push Not at apart
  obtain ⟨tokens, a, inA, b, inB, far⟩ := apart
  have top := a.totalWord
  have bottom := b.totalWord
  have wraps := word_passes (a.totalTokens - b.totalTokens) far (by omega)
  have code := uneven_tokens letters (fun a b => word (a - b)) a b (Int.ne_of_lt wraps)
  have wanted := uneven_tokens letters (fun a b => a - b) a b (by omega)
  have flipped := (@wanted_compares Credit _ letters .tokens).flips b a
  have weak := wanted_weak letters q (filtered letters store q)
  refine ⟨contrarySort (wantedBefore letters q), ?_⟩
  cases order : q.order with
  | asc =>
      apply contrary_unordered _ _ weak a b inA inB
      · simp only [wantedBefore, lessBy, order, tokens, decide_eq_true_eq]
        omega
      · right
        simp only [lessRequest, lessBy, order, tokens, decide_eq_true_eq]
        omega
  | desc =>
      apply contrary_unordered _ _ weak b a inB inA
      · simp only [wantedBefore, lessBy, order, tokens, decide_eq_true_eq]
        omega
      · left
        simp only [lessRequest, lessBy, order, tokens, decide_eq_false_iff_not]
        omega

end Order

section Bounds

/-- Where the page starts, computed without wrap-around. -/
def offset (q : PageQuery) : Int := (q.page - 1) * q.pageSize

theorem offset_nonneg (q : PageQuery) : 0 ≤ offset q :=
  Int.mul_nonneg (Int.sub_nonneg.mpr q.page_pos) (Int.le_trans Int.one_nonneg q.size_pos)

theorem start_word (q : PageQuery) :
    word (word (q.page - 1) * q.pageSize) = word (offset q) := by
  rw [Int.mul_comm, word_mul, Int.mul_comm]
  rfl

theorem newest_length {Credit : Type} (store : RecentRing Credit) (limit : Int) :
    (store.newest limit).length ≤ observeRecentReqs := by
  unfold RecentRing.newest
  refine (List.length_take_le' _ _).trans ((List.length_filter_le _ _).trans ?_)
  rw [List.length_map, List.length_range]

theorem filtered_length {Credit : Type} (letters : Letters) (store : RecentRing Credit)
    (q : PageQuery) : (filtered letters store q).length ≤ observeRecentReqs :=
  (List.length_filter_le _ _).trans (newest_length store _)

theorem page_bounds (q : PageQuery) (total : Nat) (small : total ≤ observeRecentReqs)
    (nonneg : 0 ≤ word (offset q)) :
    pageBounds q total =
      (min (word (offset q)) total, min (min (word (offset q)) total + q.pageSize) total) := by
  have size := q.size_le
  have positive := q.size_pos
  have low : (if (total : Int) < word (offset q) then (total : Int) else word (offset q)) =
      min (word (offset q)) total := by
    split_ifs <;> omega
  have whole := word_fits (min (word (offset q)) total + q.pageSize) (by omega) (by
    change total ≤ 200 at small
    omega)
  unfold pageBounds
  simp only [start_word, low, whole, Prod.mk.injEq, true_and]
  split_ifs <;> omega

theorem negative_start (q : PageQuery) (total : Nat) (negative : word (offset q) < 0) :
    (pageBounds q total).1 < 0 := by
  unfold pageBounds
  simp only [start_word]
  split_ifs <;> omega

/-- The bounds of a slice of `total` records. -/
def BoundsValid (q : PageQuery) (total : Nat) : Prop :=
  0 ≤ (pageBounds q total).1 ∧ (pageBounds q total).1 ≤ (pageBounds q total).2 ∧
    (pageBounds q total).2 ≤ total

theorem bounds_valid_iff (q : PageQuery) (total : Nat) (small : total ≤ observeRecentReqs) :
    BoundsValid q total ↔ 0 ≤ word (offset q) := by
  constructor
  · intro valid
    by_contra negative
    have low := negative_start q total (Int.not_le.mp negative)
    have first := valid.1
    omega
  · intro nonneg
    have positive := q.size_pos
    unfold BoundsValid
    rw [page_bounds q total small nonneg]
    simp only
    omega

theorem slice_page {Item : Type} (q : PageQuery) (items : List Item)
    (small : items.length ≤ observeRecentReqs) (nonneg : 0 ≤ word (offset q)) :
    sliceOf items (pageBounds q items.length) =
      some ((items.drop (word (offset q)).toNat).take q.pageSize.toNat) := by
  have valid := (bounds_valid_iff q items.length small).mpr nonneg
  have positive := q.size_pos
  have clamped := clamped_slice q.pageSize.toNat items (word (offset q)).toNat
  rw [sliceOf, if_pos ⟨valid.1, valid.2⟩, page_bounds q items.length small nonneg, ← clamped]
  simp only
  congr 2
  · omega
  · congr 1
    omega

end Bounds

section Partition

variable {Credit : Type} [LinearOrder Credit] (letters : Letters) (store : RecentRing Credit)
  (q : PageQuery)

/-- The query of page `index`, the first one being page 0. -/
def PageQuery.turn (q : PageQuery) (index : Nat) : PageQuery :=
  { q with page := index + 1, page_pos := by omega }

def requestsAt (sort : SliceSort (RequestRecord Credit)) : Option (List (RequestRecord Credit)) :=
  (memoryRequestPage letters sort store q).map (·.requests)

/-- The pages are the records that match, sorted; the page asked for is one of them, or empty
behind the last, and its slice is within bounds. -/
structure PagesPartition (sort : SliceSort (RequestRecord Credit))
    (sorted : List (RequestRecord Credit)) : Prop where
  perm : sorted.Perm (filtered letters store q)
  ordered : Ordered (wantedBefore letters q) sorted
  pages : ((List.range (pageCount q.pageSize.toNat sorted)).mapM fun index =>
    requestsAt letters store (q.turn index) sort).map List.flatten = some sorted
  asked : requestsAt letters store q sort =
    some (pageOf q.pageSize.toNat sorted (q.page - 1).toNat)
  valid : BoundsValid q (filtered letters store q).length

/-- The start of the page is a word, or the word it wraps to is behind the last record. -/
def OffsetFits : Prop :=
  word (offset q) = offset q ∨ (filtered letters store q).length ≤ word (offset q)

variable {store q} (sort : SliceSort (RequestRecord Credit))

theorem sorted_length : (sort.slice (lessRequest letters q) (filtered letters store q)).length =
    (filtered letters store q).length := (sort.perm _ _).length_eq

theorem requests_at (nonneg : 0 ≤ word (offset q)) :
    requestsAt letters store q sort =
      some (((sort.slice (lessRequest letters q) (filtered letters store q)).drop
        (word (offset q)).toNat).take q.pageSize.toNat) := by
  have small := filtered_length letters store q
  rw [← sorted_length letters sort] at small
  unfold requestsAt memoryRequestPage
  simp only [slice_page q _ small nonneg, Option.map_some]

theorem requests_panic (negative : word (offset q) < 0) :
    requestsAt letters store q sort = none := by
  have low := negative_start q
    (sort.slice (lessRequest letters q) (filtered letters store q)).length negative
  unfold requestsAt memoryRequestPage sliceOf
  simp only
  rw [if_neg (by omega)]
  rfl

theorem size_positive : 0 < q.pageSize.toNat := by
  have positive := q.size_pos
  omega

/-- Every page that starts within the records is where it should be. -/
theorem turned_page (index : Nat)
    (inside : index < pageCount q.pageSize.toNat
      (sort.slice (lessRequest letters q) (filtered letters store q))) :
    requestsAt letters store (q.turn index) sort =
      some (pageOf q.pageSize.toNat
        (sort.slice (lessRequest letters q) (filtered letters store q)) index) := by
  have starts := page_starts _ size_positive index inside
  have small := filtered_length letters store q
  rw [sorted_length] at starts
  have here : offset (q.turn index) = (index * q.pageSize.toNat : Nat) := by
    have positive := q.size_pos
    change ((index : Int) + 1 - 1) * q.pageSize = _
    rw [Int.add_sub_cancel, Nat.cast_mul, Int.toNat_of_nonneg (by omega)]
  have whole := word_fits (offset (q.turn index)) (by omega) (by
    change _ ≤ 200 at small
    omega)
  have nonneg : 0 ≤ word (offset (q.turn index)) := by omega
  refine (requests_at letters (q := q.turn index) sort nonneg).trans ?_
  rw [whole, here]
  rfl

theorem offset_pages : offset q = ((q.page - 1).toNat * q.pageSize.toNat : Nat) := by
  have page := q.page_pos
  have positive := q.size_pos
  unfold offset
  rw [Nat.cast_mul, Int.toNat_of_nonneg (by omega), Int.toNat_of_nonneg (by omega)]

theorem asked_page (fits : OffsetFits letters store q) :
    requestsAt letters store q sort =
      some (pageOf q.pageSize.toNat
        (sort.slice (lessRequest letters q) (filtered letters store q)) (q.page - 1).toNat) := by
  have pages := offset_pages (q := q)
  have total : (sort.slice (lessRequest letters q) (filtered letters store q)).length =
      (filtered letters store q).length := sorted_length letters sort
  rcases fits with whole | behind
  · rw [requests_at letters sort (by omega), whole, pages]
    rfl
  · have below := word_le (offset q) (offset_nonneg q)
    rw [requests_at letters sort (by omega), page_beyond _ _ _ (by omega),
      List.drop_eq_nil_of_le (by omega), List.take_nil]

/-- A page that is where it should be has no other start. -/
theorem asked_fits (asked : requestsAt letters store q sort =
      some (pageOf q.pageSize.toNat
        (sort.slice (lessRequest letters q) (filtered letters store q)) (q.page - 1).toNat)) :
    OffsetFits letters store q := by
  have total : (sort.slice (lessRequest letters q) (filtered letters store q)).length =
      (filtered letters store q).length := sorted_length letters sort
  have small := filtered_length letters store q
  change _ ≤ 200 at small
  have size := size_positive (q := q)
  have nonneg : 0 ≤ word (offset q) := by
    by_contra negative
    rw [requests_panic letters sort (Int.not_le.mp negative)] at asked
    exact absurd asked (Option.some_ne_none _).symm
  by_contra unfit
  obtain ⟨wraps, inside⟩ := not_or.mp unfit
  have far : 2 ^ 63 ≤ offset q := by
    by_contra near
    exact wraps (word_fits _ (by have low := offset_nonneg q; omega) (Int.not_le.mp near))
  have pages := offset_pages (q := q)
  rw [requests_at letters sort nonneg, page_beyond _ _ _ (by omega), Option.some.injEq] at asked
  have lengths := congrArg List.length asked
  rw [List.length_take, List.length_drop, List.length_nil] at lengths
  omega

theorem fitting_partition (fits : OffsetFits letters store q) (tokens : TokensFit letters store q) :
    PagesPartition letters store q sort
      (sort.slice (lessRequest letters q) (filtered letters store q)) where
  perm := sort.perm _ _
  ordered := agreeing_ordered sort _ _ (wanted_weak letters q _)
    (fitting_agrees letters store q tokens)
  pages := turned_pages _ size_positive _ (turned_page letters sort)
  asked := asked_page letters sort fits
  valid := by
    apply (bounds_valid_iff q _ (filtered_length letters store q)).mpr
    have low := offset_nonneg q
    rcases fits with whole | behind
    · omega
    · omega

/-- What the pages concatenate to is the list that `memoryRequestPage` cuts them from. -/
theorem partition_slice (sorted : List (RequestRecord Credit))
    (partition : PagesPartition letters store q sort sorted) :
    sorted = sort.slice (lessRequest letters q) (filtered letters store q) := by
  have same : pageCount q.pageSize.toNat sorted = pageCount q.pageSize.toNat
      (sort.slice (lessRequest letters q) (filtered letters store q)) := by
    unfold pageCount
    rw [sorted_length, partition.perm.length_eq]
  have turned := turned_pages _ size_positive _ (@turned_page Credit _ letters store q sort)
  have pages := partition.pages
  rw [same, turned] at pages
  exact (Option.some.inj pages).symm

end Partition

section Partitions

variable {Credit : Type} [LinearOrder Credit] (letters : Letters) (store : RecentRing Credit)

theorem pages_partition_iff (query : RequestQuery) :
    (∀ sort, ∃ sorted,
        PagesPartition letters store (normalizeRequestQuery letters query) sort sorted) ↔
      OffsetFits letters store (normalizeRequestQuery letters query) ∧
        TokensFit letters store (normalizeRequestQuery letters query) := by
  constructor
  · intro partitions
    constructor
    · obtain ⟨sorted, partition⟩ := partitions (mergeSliceSort _)
      have slice := partition_slice letters _ sorted partition
      exact asked_fits letters _ (slice ▸ partition.asked)
    · by_contra apart
      obtain ⟨sort, unordered⟩ := apart_unordered letters store _ apart
      obtain ⟨sorted, partition⟩ := partitions sort
      have slice := partition_slice letters sort sorted partition
      exact unordered (slice ▸ partition.ordered)
  · rintro ⟨fits, tokens⟩ sort
    exact ⟨_, fitting_partition letters sort fits tokens⟩

/-- A record as `make` leaves it. -/
def noRequest : RequestRecord Nat where
  id := 0
  ts := 0
  accountID := []
  apiKeyID := []
  apiKey := []
  apiKeyMasked := []
  email := []
  model := []
  inTokens := 0
  outTokens := 0
  totalTokens := 0
  cacheRead := 0
  cacheWrite := 0
  credits := 0
  success := false
  status := 0
  message := []
  endpoint := []
  durationMs := 0
  errorType := []
  totalWord := ⟨by decide, by decide⟩

/-- `?page=4611686018427387905&pageSize=2`. -/
def hugePage : PageQuery :=
  normalizeRequestQuery asciiLetters (observeQuery (some (2 ^ 62 + 1)) (some 2) none [] [] [] [])

/-- The page whose start is the least number of a word panics. -/
theorem huge_page_panics :
    (∀ sort, requestsAt asciiLetters ⟨fun _ => noRequest, 0⟩ hugePage sort = none) ∧
      ¬∀ sort, ∃ sorted,
        PagesPartition asciiLetters ⟨fun _ => noRequest, 0⟩ hugePage sort sorted := by
  have negative : word (offset hugePage) < 0 := by decide
  have panics := fun sort =>
    @requests_panic Nat _ asciiLetters ⟨fun _ => noRequest, 0⟩ hugePage sort negative
  refine ⟨panics, ?_⟩
  intro partitions
  obtain ⟨sorted, partition⟩ := partitions (mergeSliceSort _)
  exact absurd (partition.asked.symm.trans (panics _)) (Option.some_ne_none _)

end Partitions

end KiroProxy.RequestPages
