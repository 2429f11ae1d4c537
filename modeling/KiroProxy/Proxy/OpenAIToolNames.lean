import KiroProxy.Decimals
import KiroProxy.Proxy.ResponsesTools
import Mathlib.Data.List.Nodup
import Mathlib.Data.List.Perm.Subperm
import Mathlib.Data.Nat.Log

/-!
# Kiro names of OpenAI tools

What `convertOpenAITools` of `proxy/translator.go` makes of any list of declarations: the
search for a free name ends, its names are short and new, and the name map takes each one
back. A hosted search entry takes its name without asking whether it is free.
-/

namespace KiroProxy.OpenAITools

open Decimals GoStrings KiroTypes
open Responses (ConvertedTool)
open ToolDeclarations ToolNames

set_option autoImplicit false

section FreeNames

theorem numbered_decimal (name : GoString) (number : Nat) :
    numberedName name number =
      (if 64 < name.length + (decimal number).length then
        name.take (64 - (decimal number).length) else name) ++ decimal number := rfl

/-- With equally many digits the name is cut at the same place. -/
theorem numbered_apart (name : GoString) (places first second : Nat)
    (firstLow : 10 ^ places ≤ first) (firstHigh : first < 10 ^ (places + 1))
    (secondLow : 10 ^ places ≤ second) (secondHigh : second < 10 ^ (places + 1))
    (same : numberedName name first = numberedName name second) : first = second := by
  have long := decimal_length first places firstLow firstHigh
  have equallyLong := decimal_length second places secondLow secondHigh
  rw [numbered_decimal, numbered_decimal, long, equallyLong] at same
  exact decimal_injective first second (List.append_cancel_left same)

/-- More candidates than used names: the numbers from a power of ten on. -/
theorem some_number_free (name : GoString) (used : List GoString) :
    ∃ skipped < 100 * (used.length + 1), numberedName name (2 + skipped) ∉ used := by
  let places := Nat.log 10 (used.length + 1) + 1
  have low : used.length + 1 < 10 ^ places := Nat.lt_pow_succ_log_self (by decide) _
  have high : 10 ^ places ≤ 10 * (used.length + 1) := by
    rw [Nat.pow_succ, Nat.mul_comm]
    exact Nat.mul_le_mul_left 10 (Nat.pow_log_le_self 10 (Nat.succ_ne_zero _))
  have more : 10 ^ (places + 1) = 10 * 10 ^ places := by rw [Nat.pow_succ, Nat.mul_comm]
  by_contra none_
  have taken : ∀ skipped < 100 * (used.length + 1),
      numberedName name (2 + skipped) ∈ used := by
    intro skipped bound
    by_contra free
    exact none_ ⟨skipped, bound, free⟩
  let candidates := (List.range (used.length + 1)).map fun step =>
    numberedName name (10 ^ places + step)
  have distinct : candidates.Nodup := by
    apply List.Nodup.map_on _ List.nodup_range
    intro first firstBound second secondBound same
    rw [List.mem_range] at firstBound secondBound
    have numbers := numbered_apart name places _ _ (Nat.le_add_right _ first) (by omega)
      (Nat.le_add_right _ second) (by omega) same
    exact Nat.add_left_cancel numbers
  have inside : ∀ candidate ∈ candidates, candidate ∈ used := by
    intro candidate member
    obtain ⟨step, bound, rfl⟩ := List.mem_map.mp member
    rw [List.mem_range] at bound
    have reached := taken (10 ^ places + step - 2) (by omega)
    have number : 2 + (10 ^ places + step - 2) = 10 ^ places + step := by omega
    rwa [number] at reached
  have fewer := (List.Nodup.subperm distinct inside).length_le
  rw [List.length_map, List.length_range] at fewer
  omega

/-- The loop stops at the first free number. -/
theorem first_free_stops (name : GoString) (used : List GoString) (fuel number : Nat)
    (free : ∃ skipped < fuel, numberedName name (number + skipped) ∉ used) :
    ∃ skipped < fuel,
      firstFreeName name used fuel number = numberedName name (number + skipped) ∧
      numberedName name (number + skipped) ∉ used ∧
      ∀ earlier < skipped, numberedName name (number + earlier) ∈ used := by
  induction fuel generalizing number with
  | zero =>
      obtain ⟨skipped, bound, _⟩ := free
      exact absurd bound (Nat.not_lt_zero skipped)
  | succ fuel ih =>
      by_cases taken : numberedName name number ∈ used
      · have later : ∃ skipped < fuel, numberedName name (number + 1 + skipped) ∉ used := by
          obtain ⟨skipped, bound, unused⟩ := free
          cases skipped with
          | zero => exact absurd taken unused
          | succ skipped =>
              refine ⟨skipped, by omega, ?_⟩
              rwa [Nat.add_assoc, Nat.add_comm 1]
        obtain ⟨skipped, bound, found, unused, earlier⟩ := ih (number + 1) later
        have shift : number + (skipped + 1) = number + 1 + skipped := by omega
        refine ⟨skipped + 1, by omega, ?_, ?_, ?_⟩
        · rw [firstFreeName, if_pos (by simpa using taken), found, shift]
        · rwa [shift]
        · intro before bound
          cases before with
          | zero => exact taken
          | succ before =>
              have again := earlier before (by omega)
              rwa [Nat.add_assoc, Nat.add_comm 1] at again
      · refine ⟨0, by omega, ?_, taken, ?_⟩
        · rw [firstFreeName, if_neg (by simpa using taken)]
          rfl
        · intro before bound
          exact absurd bound (Nat.not_lt_zero before)

def presentName (name : GoString) : GoString :=
  if trimSpace name = [] then lit "tool" else name

/-- The number the loop over `i` stops at. -/
structure FirstFree (name : GoString) (used : List GoString) (number : Nat) : Prop where
  low : 2 ≤ number
  high : number < 2 + 100 * (used.length + 1)
  free : numberedName name number ∉ used
  least : ∀ earlier, 2 ≤ earlier → earlier < number → numberedName name earlier ∈ used

/-- A free name is kept, a taken one gets the first number that makes it new. -/
theorem unique_name_cases (name : GoString) (used : List GoString) :
    (presentName name ∉ used ∧ uniqueKiroToolName name used = presentName name) ∨
    (presentName name ∈ used ∧ ∃ number, FirstFree (presentName name) used number ∧
      uniqueKiroToolName name used = numberedName (presentName name) number) := by
  have step : uniqueKiroToolName name used =
      if used.contains (presentName name) then
        firstFreeName (presentName name) used (100 * (used.length + 1)) 2
      else presentName name := rfl
  by_cases taken : presentName name ∈ used
  · right
    obtain ⟨skipped, bound, found, unused, earlier⟩ :=
      first_free_stops _ used _ 2 (some_number_free (presentName name) used)
    refine ⟨taken, 2 + skipped, ⟨by omega, by omega, unused, ?_⟩, ?_⟩
    · intro number low high
      have again := earlier (number - 2) (by omega)
      rwa [Nat.add_sub_cancel' low] at again
    · rw [step, if_pos (by simpa using taken), found]
  · left
    refine ⟨taken, ?_⟩
    rw [step, if_neg (by simpa using taken)]

theorem unique_name_new (name : GoString) (used : List GoString) :
    uniqueKiroToolName name used ∉ used := by
  cases unique_name_cases name used with
  | inl kept =>
      rw [kept.2]
      exact kept.1
  | inr numbered =>
      obtain ⟨_, number, first, found⟩ := numbered
      rw [found]
      exact first.free

theorem decimal_short (number : Nat) (bound : number < 10 ^ 64) :
    (decimal number).length ≤ 64 := by
  rw [decimal_places, List.length_map]
  exact (Nat.length_toDigits_le_iff (by decide) (by decide)).mpr bound

theorem numbered_short (name : GoString) (number : Nat) (bound : number < 10 ^ 64) :
    (numberedName name number).length ≤ 64 := by
  have digits := decimal_short number bound
  rw [numbered_decimal, List.length_append]
  split_ifs with long
  · rw [List.length_take]
    omega
  · omega

theorem present_short (name : GoString) (short : name.length ≤ 64) :
    (presentName name).length ≤ 64 := by
  unfold presentName
  split_ifs
  · decide
  · exact short

theorem unique_name_short (name : GoString) (used : List GoString) (short : name.length ≤ 64)
    (bound : used.length < 2 ^ 63) : (uniqueKiroToolName name used).length ≤ 64 := by
  cases unique_name_cases name used with
  | inl kept =>
      rw [kept.2]
      exact present_short name short
  | inr numbered =>
      obtain ⟨_, number, first, found⟩ := numbered
      rw [found]
      have high := first.high
      exact numbered_short _ number (by omega)

end FreeNames

/-- Declarations with the mark of hosted searches. A slice has an `int` for its length. -/
structure DeclaredTools where
  tools : List ConvertedTool
  length_int : tools.length < 2 ^ 63

/-- What a declared Kiro name is made from: a search entry by its type, or a function, which
may be a marked one. -/
inductive Origin where
  | search
  | function (hosted : Bool) (client : GoString)
  deriving DecidableEq

namespace Origin

def isHosted : Origin → Bool
  | .search => true
  | .function hosted _ => hosted

def client : Origin → GoString
  | .search => webSearchToolName
  | .function _ client => client

/-- The name it would have among no others. -/
def kiroName : Origin → GoString
  | .search => kiroWebSearchToolName
  | .function _ client => presentName (kiroToolName client)

end Origin

def originOf (letters : Letters) (tool : ConvertedTool) : Option Origin :=
  if isHostedWebSearchToolType letters tool.type then some .search
  else if tool.type ≠ lit "function" then none
  else if trimSpace tool.name = [] then none
  else some (.function tool.hostedWebSearch (trimSpace tool.name))

def origins (letters : Letters) (tools : List ConvertedTool) : List Origin :=
  tools.filterMap (originOf letters)

section Assigned

def claimName (used : List GoString) : Origin → GoString
  | .search => kiroWebSearchToolName
  | .function _ client => uniqueKiroToolName (kiroToolName client) used

def assignNames (used : List GoString) : List Origin → List GoString
  | [] => []
  | origin :: rest => claimName used origin :: assignNames (claimName used origin :: used) rest

/-- The names with the client names they stand for, the first one first. -/
def assigned (used : List GoString) (origins : List Origin) : NameMap :=
  (assignNames used origins).zip (origins.map Origin.client)

def renames (entry : GoString × GoString) : Bool := entry.1 != entry.2

variable (letters : Letters)

theorem convert_tool_none (state : Conversion) (tool : ConvertedTool)
    (none_ : originOf letters tool = none) :
    convertOpenAITool letters state tool.toOpenAITool = state := by
  unfold originOf at none_
  unfold convertOpenAITool
  split_ifs at none_ ⊢ with hosted other blank
  · rfl
  · simp only [if_pos blank]

theorem convert_tool_some (state : Conversion) (tool : ConvertedTool) (origin : Origin)
    (some_ : originOf letters tool = some origin) :
    let name := claimName state.usedNames origin
    let converted := convertOpenAITool letters state tool.toOpenAITool
    kiroNames converted.result = kiroNames state.result ++ [name] ∧
      converted.nameMap = [(name, origin.client)].filter renames ++ state.nameMap ∧
      converted.usedNames = name :: state.usedNames := by
  unfold originOf at some_
  unfold convertOpenAITool
  split_ifs at some_ ⊢ with hosted other blank
  · rw [← Option.some.inj some_]
    refine ⟨by simp [kiroNames, hostedSearchTool, claimName], ?_, rfl⟩
    have renamed : renames (kiroWebSearchToolName, webSearchToolName) = true := by decide
    simp [claimName, Origin.client, renamed]
  · rw [← Option.some.inj some_]
    simp only [if_neg blank, claimName, Origin.client]
    refine ⟨by simp [kiroNames, functionTool], ?_, trivial⟩
    rw [List.filter_singleton, renames]
    by_cases kept : uniqueKiroToolName (kiroToolName (trimSpace tool.name)) state.usedNames =
        trimSpace tool.name
    · rw [if_neg (not_not.mpr kept), bne_eq_false_iff_eq.mpr kept]
      rfl
    · rw [if_pos kept, bne_iff_ne.mpr kept]
      rfl

theorem convert_fold_names (tools : List ConvertedTool) (state : Conversion) :
    kiroNames ((tools.map ConvertedTool.toOpenAITool).foldl
        (convertOpenAITool letters) state).result =
      kiroNames state.result ++ assignNames state.usedNames (origins letters tools) := by
  induction tools generalizing state with
  | nil => simp [origins, assignNames]
  | cons tool tools ih =>
      rw [List.map_cons, List.foldl_cons, ih]
      cases origin : originOf letters tool with
      | none =>
          have skipped : origins letters (tool :: tools) = origins letters tools := by
            simp [origins, origin]
          rw [convert_tool_none letters state tool origin, skipped]
      | some source =>
          have entered : origins letters (tool :: tools) = source :: origins letters tools := by
            simp [origins, origin]
          obtain ⟨names, _, used⟩ := convert_tool_some letters state tool source origin
          rw [names, used, entered, assignNames, List.append_assoc, List.singleton_append]

theorem convert_fold_map (tools : List ConvertedTool) (state : Conversion) :
    ((tools.map ConvertedTool.toOpenAITool).foldl (convertOpenAITool letters) state).nameMap =
      ((assigned state.usedNames (origins letters tools)).filter renames).reverse ++
        state.nameMap := by
  induction tools generalizing state with
  | nil => simp [origins, assigned, assignNames]
  | cons tool tools ih =>
      rw [List.map_cons, List.foldl_cons, ih]
      cases origin : originOf letters tool with
      | none =>
          have skipped : origins letters (tool :: tools) = origins letters tools := by
            simp [origins, origin]
          rw [convert_tool_none letters state tool origin, skipped]
      | some source =>
          have entered : origins letters (tool :: tools) = source :: origins letters tools := by
            simp [origins, origin]
          obtain ⟨_, mapped, used⟩ := convert_tool_some letters state tool source origin
          have step : assigned state.usedNames (source :: origins letters tools) =
              [(claimName state.usedNames source, source.client)] ++
                assigned (claimName state.usedNames source :: state.usedNames)
                  (origins letters tools) := rfl
          rw [mapped, used, entered, step, List.filter_append, List.reverse_append,
            List.append_assoc]
          congr 1
          cases renamed : renames (claimName state.usedNames source, source.client) with
          | true => simp [renamed]
          | false => simp [renamed]

theorem assign_length (used : List GoString) (origins : List Origin) :
    (assignNames used origins).length = origins.length := by
  induction origins generalizing used with
  | nil => rfl
  | cons origin origins ih => rw [assignNames, List.length_cons, List.length_cons, ih]

theorem assign_kiro_names (used : List GoString) (origins : List Origin) (origin : Origin)
    (member : origin ∈ origins) :
    origin.kiroName ∈ used ∨ origin.kiroName ∈ assignNames used origins := by
  induction origins generalizing used with
  | nil => simp at member
  | cons first rest ih =>
      rw [assignNames]
      cases List.mem_cons.mp member with
      | inl same =>
          subst same
          cases origin with
          | search => exact Or.inr List.mem_cons_self
          | function hosted client =>
              cases unique_name_cases (kiroToolName client) used with
              | inl kept =>
                  right
                  rw [claimName, kept.2]
                  exact List.mem_cons_self
              | inr numbered => exact Or.inl numbered.1
      | inr later =>
          cases ih (claimName used first :: used) later with
          | inl known =>
              cases List.mem_cons.mp known with
              | inl here => exact Or.inr (here ▸ List.mem_cons_self)
              | inr before => exact Or.inl before
          | inr inside => exact Or.inr (List.mem_cons_of_mem _ inside)

/-- A numbered name ends in a digit. -/
theorem numbered_not_search (name : GoString) (number : Nat) :
    numberedName name number ≠ kiroWebSearchToolName := by
  intro same
  have last := congrArg List.getLast? same
  have digits : decimal number ≠ [] := written_number_ne_nil number
  rw [numbered_decimal, List.getLast?_append_of_ne_nil _ digits,
    List.getLast?_eq_some_getLast digits] at last
  have letter : kiroWebSearchToolName.getLast? = some 0x68 := by decide
  rw [letter] at last
  have digit := decimal_digits number _ (List.getLast_mem digits)
  rw [Option.some.inj last] at digit
  exact absurd digit (by decide)

theorem claim_search_name (used : List GoString) (origin : Origin)
    (same : claimName used origin = kiroWebSearchToolName) :
    origin.kiroName = kiroWebSearchToolName := by
  cases origin with
  | search => rfl
  | function hosted client =>
      cases unique_name_cases (kiroToolName client) used with
      | inl kept =>
          rw [claimName, kept.2] at same
          exact same
      | inr numbered =>
          obtain ⟨_, number, _, found⟩ := numbered
          rw [claimName, found] at same
          exact absurd same (numbered_not_search _ number)

theorem assign_search_name (used : List GoString) (origins : List Origin)
    (member : kiroWebSearchToolName ∈ assignNames used origins) :
    ∃ origin ∈ origins, origin.kiroName = kiroWebSearchToolName := by
  induction origins generalizing used with
  | nil => simp [assignNames] at member
  | cons origin rest ih =>
      rw [assignNames] at member
      cases List.mem_cons.mp member with
      | inl here => exact ⟨origin, List.mem_cons_self, claim_search_name used origin here.symm⟩
      | inr later =>
          obtain ⟨other, inside, named⟩ := ih _ later
          exact ⟨other, List.mem_cons_of_mem _ inside, named⟩

/-- Nothing before a search entry has its Kiro name. -/
def SearchNameFree (origins : List Origin) : Prop :=
  ∀ before after, origins = before ++ .search :: after →
    ∀ origin ∈ before, origin.kiroName ≠ kiroWebSearchToolName

theorem assign_append (used : List GoString) (before after : List Origin) :
    assignNames used (before ++ after) =
      assignNames used before ++ assignNames ((assignNames used before).reverse ++ used) after := by
  induction before generalizing used with
  | nil => rfl
  | cons origin before ih =>
      rw [List.cons_append, assignNames, assignNames, ih, List.reverse_cons, List.append_assoc,
        List.cons_append, List.singleton_append]

/-- Only a search entry takes a name that may be in use. -/
theorem assign_new (used : List GoString) (origins : List Origin)
    (unused : ∀ before after, origins = before ++ .search :: after →
      kiroWebSearchToolName ∉ assignNames used before ∧ kiroWebSearchToolName ∉ used) :
    (assignNames used origins).Nodup ∧ ∀ name ∈ assignNames used origins, name ∉ used := by
  induction origins generalizing used with
  | nil => exact ⟨List.nodup_nil, by simp [assignNames]⟩
  | cons origin rest ih =>
      have new : claimName used origin ∉ used := by
        cases origin with
        | search => exact (unused [] rest rfl).2
        | function hosted client => exact unique_name_new _ used
      have later := ih (claimName used origin :: used) (by
        intro before after split
        have whole := unused (origin :: before) after (by rw [split, List.cons_append])
        rw [assignNames, List.mem_cons, not_or] at whole
        exact ⟨whole.1.2, by simpa using ⟨whole.1.1, whole.2⟩⟩)
      rw [assignNames]
      constructor
      · rw [List.nodup_cons]
        refine ⟨?_, later.1⟩
        intro again
        exact later.2 _ again List.mem_cons_self
      · intro name member
        cases List.mem_cons.mp member with
        | inl here => rwa [here]
        | inr inside => exact fun known => later.2 name inside (List.mem_cons_of_mem _ known)

theorem assigned_distinct_iff (origins : List Origin) :
    (assignNames [] origins).Nodup ↔ SearchNameFree origins := by
  constructor
  · intro distinct before after split origin member named
    rw [split, assign_append, List.nodup_append] at distinct
    have taken : kiroWebSearchToolName ∈ assignNames [] before := by
      cases assign_kiro_names [] before origin member with
      | inl known => simp at known
      | inr inside => rwa [named] at inside
    exact distinct.2.2 _ taken _ List.mem_cons_self rfl
  · intro free
    refine (assign_new [] origins ?_).1
    intro before after split
    refine ⟨?_, by simp⟩
    intro taken
    obtain ⟨origin, member, named⟩ := assign_search_name [] before taken
    exact free before after split origin member named

theorem claim_short (used : List GoString) (origin : Origin) (bound : used.length < 2 ^ 63) :
    (claimName used origin).length ≤ 64 := by
  cases origin with
  | search => exact (by decide : kiroWebSearchToolName.length ≤ 64)
  | function hosted client => exact unique_name_short _ used (kiro_name_short client) bound

theorem assign_short (used : List GoString) (origins : List Origin)
    (bound : used.length + origins.length ≤ 2 ^ 63) :
    ∀ name ∈ assignNames used origins, name.length ≤ 64 := by
  induction origins generalizing used with
  | nil => simp [assignNames]
  | cons origin rest ih =>
      intro name member
      rw [List.length_cons] at bound
      rw [assignNames] at member
      cases List.mem_cons.mp member with
      | inl here =>
          rw [here]
          exact claim_short used origin (by omega)
      | inr later =>
          exact ih (claimName used origin :: used) (by rw [List.length_cons]; omega) name later

end Assigned

section Restored

/-- Under distinct names, leaving out the entries that rename nothing loses none. -/
theorem lookup_distinct (entries : NameMap) (distinct : (entries.map Prod.fst).Nodup)
    (name client : GoString) (member : (name, client) ∈ entries) :
    entries.lookup name = some client := by
  induction entries with
  | nil => simp at member
  | cons entry entries ih =>
      rw [List.map_cons, List.nodup_cons] at distinct
      rw [List.lookup_cons]
      cases List.mem_cons.mp member with
      | inl here => rw [← here, beq_self_eq_true]
      | inr later =>
          have apart : (name == entry.1) = false := by
            rw [beq_eq_false_iff_ne]
            intro same
            exact distinct.1 (same ▸ List.mem_map_of_mem later)
          rw [apart]
          exact ih distinct.2 later

theorem restore_renames (entries : NameMap) (distinct : (entries.map Prod.fst).Nodup)
    (name client : GoString) (member : (name, client) ∈ entries) :
    restoreToolName (entries.filter renames).reverse name = client := by
  have kept : (((entries.filter renames).reverse).map Prod.fst).Nodup := by
    rw [List.map_reverse, List.nodup_reverse]
    exact (List.filter_sublist.map Prod.fst).nodup distinct
  rw [restoreToolName]
  cases renamed : renames (name, client) with
  | true =>
      rw [lookup_distinct _ kept name client
        (List.mem_reverse.mpr (List.mem_filter.mpr ⟨member, renamed⟩))]
      rfl
  | false =>
      have same : name = client := bne_eq_false_iff_eq.mp renamed
      have absent : (entries.filter renames).reverse.lookup name = none := by
        rw [Option.eq_none_iff_forall_ne_some]
        intro other found
        have entered := List.mem_reverse.mp (mem_of_lookup _ name other found)
        obtain ⟨inside, differ⟩ := List.mem_filter.mp entered
        have first := lookup_distinct entries distinct name client member
        rw [lookup_distinct entries distinct name other inside] at first
        rw [Option.some.inj first] at differ
        rw [renamed] at differ
        exact Bool.false_ne_true differ
      rw [absent]
      exact same

end Restored

section Unique

variable (letters : Letters)

def convert (declared : DeclaredTools) : List KiroToolWrapper × NameMap :=
  convertOpenAITools letters (declared.tools.map ConvertedTool.toOpenAITool)

def declaredNames (declared : DeclaredTools) : List GoString :=
  kiroNames (convert letters declared).1

/-- The declared names are distinct, short and taken back, and hosted searches and client
functions share neither the names they are declared under nor the ones they get back. -/
structure NamesUnique (declared : DeclaredTools) : Prop where
  distinct : (declaredNames letters declared).Nodup
  short : ∀ name ∈ declaredNames letters declared, name.length ≤ 64
  restored : List.Forall₂ (fun name origin =>
      restoreToolName (convert letters declared).2 name = origin.client)
    (declaredNames letters declared) (origins letters declared.tools)
  apart : ∀ hosted ∈ (declaredNames letters declared).zip (origins letters declared.tools),
    ∀ plain ∈ (declaredNames letters declared).zip (origins letters declared.tools),
      hosted.2.isHosted = true → plain.2.isHosted = false →
      hosted.1 ≠ plain.1 ∧ restoreToolName (convert letters declared).2 hosted.1 ≠
        restoreToolName (convert letters declared).2 plain.1

/-- No client function has the name of a hosted search. -/
def ClientsApart (origins : List Origin) : Prop :=
  ∀ hosted ∈ origins, ∀ plain ∈ origins,
    hosted.isHosted = true → plain.isHosted = false → hosted.client ≠ plain.client

theorem declared_assigned (declared : DeclaredTools) :
    declaredNames letters declared = assignNames [] (origins letters declared.tools) := by
  rw [declaredNames, convert, convertOpenAITools]
  simp only [convert_fold_names]
  rfl

theorem converted_map (declared : DeclaredTools) :
    (convert letters declared).2 =
      ((assigned [] (origins letters declared.tools)).filter renames).reverse := by
  rw [convert, convertOpenAITools]
  simp only [convert_fold_map, List.append_nil]

theorem zip_restored (declared : DeclaredTools)
    (free : SearchNameFree (origins letters declared.tools)) (name : GoString) (origin : Origin)
    (member : (name, origin) ∈
      (declaredNames letters declared).zip (origins letters declared.tools)) :
    restoreToolName (convert letters declared).2 name = origin.client := by
  have keys : (assigned [] (origins letters declared.tools)).map Prod.fst =
      assignNames [] (origins letters declared.tools) := by
    apply List.map_fst_zip
    rw [assign_length, List.length_map]
  have distinct := (assigned_distinct_iff (origins letters declared.tools)).mpr free
  rw [converted_map]
  apply restore_renames _ (by rw [keys]; exact distinct)
  rw [declared_assigned] at member
  rw [assigned, List.zip_map_right]
  exact List.mem_map.mpr ⟨(name, origin), member, rfl⟩

theorem origins_length (declared : DeclaredTools) :
    (origins letters declared.tools).length ≤ 2 ^ 63 :=
  (List.length_filterMap_le _ _).trans declared.length_int.le

theorem declared_length (declared : DeclaredTools) :
    (declaredNames letters declared).length = (origins letters declared.tools).length := by
  rw [declared_assigned, assign_length]

theorem names_unique_of_free (declared : DeclaredTools)
    (free : SearchNameFree (origins letters declared.tools))
    (clients : ClientsApart (origins letters declared.tools)) :
    NamesUnique letters declared := by
  have distinct : (declaredNames letters declared).Nodup := by
    rw [declared_assigned]
    exact (assigned_distinct_iff _).mpr free
  constructor
  · exact distinct
  · rw [declared_assigned]
    exact assign_short [] _ (by simpa using origins_length letters declared)
  · rw [List.forall₂_iff_zip]
    refine ⟨declared_length letters declared, ?_⟩
    intro name origin member
    exact zip_restored letters declared free name origin member
  · intro hosted member plain plainMember marked unmarked
    have back := zip_restored letters declared free hosted.1 hosted.2 member
    have plainBack := zip_restored letters declared free plain.1 plain.2 plainMember
    have differ := clients hosted.2 (List.of_mem_zip member).2 plain.2
      (List.of_mem_zip plainMember).2 marked unmarked
    rw [← back, ← plainBack] at differ
    exact ⟨fun same => differ (by rw [same]), differ⟩

theorem free_of_names_unique (declared : DeclaredTools) (unique : NamesUnique letters declared) :
    SearchNameFree (origins letters declared.tools) ∧
      ClientsApart (origins letters declared.tools) := by
  have free : SearchNameFree (origins letters declared.tools) := by
    rw [← assigned_distinct_iff, ← declared_assigned]
    exact unique.distinct
  refine ⟨free, ?_⟩
  intro hosted member plain plainMember marked unmarked
  have snds : ((declaredNames letters declared).zip (origins letters declared.tools)).map
      Prod.snd = origins letters declared.tools :=
    List.map_snd_zip (declared_length letters declared).ge
  rw [← snds] at member plainMember
  obtain ⟨entry, inside, rfl⟩ := List.mem_map.mp member
  obtain ⟨plainEntry, plainInside, rfl⟩ := List.mem_map.mp plainMember
  have differ := (unique.apart entry inside plainEntry plainInside marked unmarked).2
  rwa [zip_restored letters declared free _ _ inside,
    zip_restored letters declared free _ _ plainInside] at differ

/-- The search for a free name ends at the first free number. The names are unique exactly
when nothing declared before a search entry has its Kiro name and no client function has the
client name of a hosted search. -/
theorem tool_names_unique_iff (declared : DeclaredTools) :
    (∀ (name : GoString) (used : List GoString), presentName name ∈ used →
      ∃ number, FirstFree (presentName name) used number ∧
        uniqueKiroToolName name used = numberedName (presentName name) number) ∧
    (NamesUnique letters declared ↔
      SearchNameFree (origins letters declared.tools) ∧
        ClientsApart (origins letters declared.tools)) := by
  constructor
  · intro name used taken
    cases unique_name_cases name used with
    | inl kept => exact absurd taken kept.1
    | inr numbered => exact numbered.2
  · constructor
    · exact free_of_names_unique letters declared
    · exact fun holds => names_unique_of_free letters declared holds.1 holds.2

def shadowingTools : DeclaredTools where
  tools := [⟨⟨lit "web_search", [], [], .null⟩, false⟩,
    ⟨⟨lit "function", lit "web_search", [], .null⟩, false⟩]
  length_int := by decide

/-- The function's calls come back as hosted searches. -/
theorem client_search_shadowed :
    restoreToolName (convert asciiLetters shadowingTools).2 (lit "webSearch2") =
      restoreToolName (convert asciiLetters shadowingTools).2 (lit "webSearch") ∧
    ¬NamesUnique asciiLetters shadowingTools := by
  have clients : ¬ClientsApart (origins asciiLetters shadowingTools.tools) := by
    intro apart
    exact apart .search (by decide) (.function false (lit "web_search")) (by decide) rfl rfl rfl
  constructor
  · decide
  · intro unique
    exact clients (free_of_names_unique asciiLetters shadowingTools unique).2

end Unique

end KiroProxy.OpenAITools
