import KiroProxy.Config.CredentialWrites

/-!
# API-key accounts

The accounts of `config/kiro_api_key.go` that carry a Kiro API key instead of OAuth tokens, and
`AddAccount` and `DeleteAccount` of `config/config.go` among the credential writes. A pasted key
may name its region after a bar; keys and regions are normalised when an account is added.
-/

namespace KiroProxy.KeyAccounts

open Accounts CredentialWrites Foundation.KeyedList Foundation.Runs GoStrings

set_option autoImplicit false

inductive KeyError where
  | emptyKiroAPIKey
  | invalidKiroAPIKey
  | separators
  | invalidKiroRegion
  | unsupportedKiroAPIKeyRegion
  | duplicateKiroAPIKey
  deriving DecidableEq

def KeyError.text : KeyError → GoString
  | .emptyKiroAPIKey => lit "kiroApiKey is empty"
  | .invalidKiroAPIKey => lit "kiroApiKey contains invalid characters"
  | .separators => lit "kiroApiKey has more than one '|' separator"
  | .invalidKiroRegion => lit "invalid Kiro API key region"
  | .unsupportedKiroAPIKeyRegion =>
      lit "unsupported Kiro API key region: use us-east-1 or eu-central-1"
  | .duplicateKiroAPIKey => lit "this Kiro API key is already added"

section Keys

def bar : UInt8 := 0x7C

def isLower (byte : UInt8) : Bool := 0x61 ≤ byte && byte ≤ 0x7A

def isDigit (byte : UInt8) : Bool := 0x30 ≤ byte && byte ≤ 0x39

/-- `kiroAPIKeyRegionPattern`: two letters, words, and a number, with hyphens between them. -/
def regionPattern (region : GoString) : Bool :=
  match region.splitOn 0x2D with
  | [] => false
  | first :: rest =>
      first.length == 2 && first.all isLower && decide (2 ≤ rest.length) &&
        rest.dropLast.all (fun word => word != [] &&
          word.all fun byte => isLower byte || isDigit byte) &&
        match rest.getLast? with
        | some last => last != [] && last.all isDigit
        | none => false

example : regionPattern (lit "us-gov-east-1") = true ∧ regionPattern (lit "us-east") = false := by
  decide

def kiroServiceRegions : List GoString := [lit "us-east-1", lit "eu-central-1"]

variable (letters : Letters)

def isKiroServiceRegion (region : GoString) : Bool :=
  kiroServiceRegions.contains (letters.toLower (trimSpace region))

/-- Only visible ASCII goes into the header. -/
def visible (byte : UInt8) : Bool := 0x21 ≤ byte && byte ≤ 0x7E

def splitKiroAPIKeyAndRegion (raw : GoString) : Except KeyError (GoString × GoString) :=
  let trimmed := trimSpace raw
  let parts := trimmed.splitOn bar
  let key := trimSpace (parts.headD [])
  if trimmed = [] then .error .emptyKiroAPIKey
  else if 2 < parts.length then .error .separators
  else if key = [] then .error .emptyKiroAPIKey
  else if key.all visible = false then .error .invalidKiroAPIKey
  else
    match parts with
    | [_, second] =>
        let region := letters.toLower (trimSpace second)
        if regionPattern region then .ok (key, region) else .error .invalidKiroRegion
    | _ => .ok (key, [])

variable {Credit : Type}

/-- A blank value takes the standard one. -/
def filled (value standard : GoString) : GoString :=
  if trimSpace value = [] then standard else value

/-- The account of a key. `hash` is the SHA-256 in hexadecimal digits. -/
def withKey (hash : GoString → GoString) (account : Account Credit) (key region : GoString) :
    Account Credit :=
  { account with
    kiroApiKey := key
    accessToken := key
    authMethod := lit "api_key"
    refreshToken := []
    clientID := []
    clientSecret := []
    startUrl := []
    profileArn := []
    expiresAt := 0
    region := region
    machineId := filled account.machineId (hash (lit "KiroAPIKey/" ++ key))
    provider := filled account.provider (lit "APIKey")
    email := filled account.email (lit "api-key-" ++ (hash key).take 12) }

/-- The account's own region goes before the one of the key. -/
def chosenRegion (given keyRegion : GoString) : GoString :=
  if given ≠ [] then given else if keyRegion ≠ [] then keyRegion else lit "us-east-1"

def normalizeAPIKeyAccount (hash : GoString → GoString) (account : Account Credit) :
    Except KeyError (Account Credit) :=
  let raw :=
    if trimSpace account.kiroApiKey = [] then trimSpace account.accessToken
    else trimSpace account.kiroApiKey
  match splitKiroAPIKeyAndRegion letters raw with
  | .error failure => .error failure
  | .ok (key, keyRegion) =>
      let region := chosenRegion (letters.toLower (trimSpace account.region)) keyRegion
      if regionPattern region then .ok (withKey hash account key region)
      else .error .invalidKiroRegion

def hasKiroAPIKey (accounts : List (Account Credit)) (apiKey : GoString) : Bool :=
  if apiKey = [] then false
  else accounts.any fun account => trimSpace account.kiroApiKey == apiKey

/-- The account as `AddAccount` stores it. -/
def prepared (hash : GoString → GoString) (account : Account Credit) :
    Except KeyError (Account Credit) :=
  if isAPIKeyAccount letters account then
    match normalizeAPIKeyAccount letters hash account with
    | .error failure => .error failure
    | .ok account =>
        if isKiroServiceRegion letters account.region then .ok account
        else .error .unsupportedKiroAPIKeyRegion
  else .ok account

/-- The store after `AddAccount`, and its error. -/
def addAccount (hash : GoString → GoString) (accounts : List (Account Credit))
    (account : Account Credit) : List (Account Credit) × Option KeyError :=
  match prepared letters hash account with
  | .error failure => (accounts, some failure)
  | .ok account =>
      if hasKiroAPIKey accounts account.kiroApiKey then (accounts, some .duplicateKiroAPIKey)
      else (accounts ++ [account], none)

def deleteAccount (accounts : List (Account Credit)) (id : GoString) : List (Account Credit) :=
  accounts.eraseP (hasId id)

inductive StoreEvent (Credit : Type) where
  | write (credentialsLoaded : Bool) (event : Event Credit)
  | stats (id : GoString) (stats : AccountStats Credit)
  | add (account : Account Credit)
  | delete (id : GoString)
  | backup
  | restore (number : Nat)

/-- The accounts with the copies that callers hold, and the accounts that were backed up. -/
structure Store (Credit : Type) where
  state : State Credit
  backups : List (List (Account Credit))

def Store.put (store : Store Credit) (accounts : List (Account Credit)) : Store Credit :=
  { store with state := { store.state with accounts := accounts } }

def storeStep (hash : GoString → GoString) (store : Store Credit) :
    StoreEvent Credit → Store Credit
  | .write credentialsLoaded event =>
      { store with state := CredentialWrites.step credentialsLoaded store.state event }
  | .stats id stats => store.put (updateAccountStats store.state.accounts id stats)
  | .add account => store.put (addAccount letters hash store.state.accounts account).1
  | .delete id => store.put (deleteAccount store.state.accounts id)
  | .backup => { store with backups := store.backups ++ [store.state.accounts] }
  | .restore number => store.put (store.backups[number]?.getD store.state.accounts)

end Keys

section Texts

theorem visible_ascii (byte : UInt8) (seen : visible byte = true) :
    byte < 0x80 ∧ ∀ rune ∈ spaceRunes, byte ∉ rune.take 1 := by
  rw [visible, Bool.and_eq_true, decide_eq_true_iff, decide_eq_true_iff] at seen
  have low : 0x21 ≤ byte.toNat := seen.1
  have high : byte.toNat ≤ 0x7E := seen.2
  refine ⟨?_, ?_⟩
  · show byte.toNat < 0x80
    omega
  · have apart : ∀ rune ∈ spaceRunes, ∀ first ∈ rune.take 1,
        first.toNat < 0x21 ∨ 0x7E < first.toNat := by decide +kernel
    intro rune member inside
    rcases apart rune member byte inside with less | more <;> omega

/-- A text of visible ASCII has no space to trim. -/
theorem visible_trim (text : GoString) (seen : text.all visible = true) : trimSpace text = text := by
  have absent : ∀ rune ∈ spaceRunes, ¬ rune <:+: text := by
    intro rune member inside
    obtain ⟨first, rest, same⟩ := List.exists_cons_of_ne_nil (space_runes_ne_nil rune member)
    have here : first ∈ text := inside.subset (same ▸ List.mem_cons_self)
    apply (visible_ascii first (List.all_eq_true.mp seen first here)).2 rune member
    rw [same]
    exact List.mem_cons_self
  exact trim_space_kept text (fun rune member starts => absent rune member starts.isInfix)
    fun rune member ends => absent rune member ends.isInfix

theorem trim_space_within (text : GoString) : trimSpace text <:+: text := by
  have front : trimSpace text <+: trimStart spaceRunes text := by
    rw [← List.reverse_suffix]
    unfold trimSpace trimEnd
    rw [List.reverse_reverse]
    exact trim_start_suffix _ _
  exact front.isInfix.trans (trim_start_suffix spaceRunes text).isInfix

theorem split_parts {separator : UInt8} (text : GoString) :
    ∀ part ∈ text.splitOn separator, separator ∉ part := by
  induction text with
  | nil =>
      rw [List.splitOn_nil]
      intro part member
      rw [List.mem_singleton.mp member]
      exact List.not_mem_nil
  | cons byte text ih =>
      rw [List.splitOn_cons_eq_if_modifyHead]
      split_ifs with same
      · intro part member
        rcases List.mem_cons.mp member with rfl | later
        · exact List.not_mem_nil
        · exact ih part later
      · obtain ⟨first, rest, parts⟩ := List.exists_cons_of_ne_nil (List.splitOn_ne_nil separator text)
        rw [parts, List.modifyHead_cons]
        rw [parts] at ih
        intro part member
        rcases List.mem_cons.mp member with rfl | later
        · intro inside
          rcases List.mem_cons.mp inside with equal | inside
          · exact same (beq_iff_eq.mpr equal.symm)
          · exact ih first List.mem_cons_self inside
        · exact ih part (List.mem_cons_of_mem first later)

theorem split_bytes {separator : UInt8} (text : GoString) :
    ∀ byte ∈ text, byte = separator ∨ ∃ part ∈ text.splitOn separator, byte ∈ part := by
  induction text with
  | nil => exact fun byte member => absurd member List.not_mem_nil
  | cons first text ih =>
      rw [List.splitOn_cons_eq_if_modifyHead]
      intro byte member
      split_ifs with same
      · rcases List.mem_cons.mp member with rfl | later
        · exact .inl (beq_iff_eq.mp same)
        · exact (ih byte later).imp_right fun ⟨part, among, inside⟩ =>
            ⟨part, List.mem_cons_of_mem [] among, inside⟩
      · obtain ⟨head, rest, parts⟩ :=
          List.exists_cons_of_ne_nil (List.splitOn_ne_nil separator text)
        rw [parts] at ih
        rw [parts, List.modifyHead_cons]
        rcases List.mem_cons.mp member with rfl | later
        · exact .inr ⟨_, List.mem_cons_self, List.mem_cons_self⟩
        · rcases ih byte later with equal | ⟨part, among, inside⟩
          · exact .inl equal
          · rcases List.mem_cons.mp among with rfl | among
            · exact .inr ⟨_, List.mem_cons_self, List.mem_cons_of_mem first inside⟩
            · exact .inr ⟨part, List.mem_cons_of_mem _ among, inside⟩

/-- The letters, digits and hyphens that a region is made of. -/
def regionByte (byte : UInt8) : Bool := isLower byte || isDigit byte || byte == 0x2D

theorem region_bytes (region : GoString) (shape : regionPattern region = true) :
    region.all regionByte = true := by
  rw [regionPattern] at shape
  split at shape
  · cases shape
  · next first rest parts =>
      simp only [Bool.and_eq_true] at shape
      obtain ⟨⟨⟨⟨_, lower⟩, _⟩, words⟩, last⟩ := shape
      have piece : ∀ part ∈ first :: rest, ∀ byte ∈ part, regionByte byte = true := by
        intro part member byte inside
        rcases List.mem_cons.mp member with rfl | later
        · rw [regionByte, List.all_eq_true.mp lower byte inside]
          rfl
        · cases final : rest.getLast? with
          | none =>
              rw [final] at last
              cases last
          | some number =>
              rw [final] at last
              simp only [Bool.and_eq_true] at last
              obtain ⟨front, split⟩ := List.getLast?_eq_some_iff.mp final
              rw [split, List.dropLast_concat] at words
              rw [split] at later
              rcases List.mem_append.mp later with word | same
              · have good := List.all_eq_true.mp words part word
                simp only [Bool.and_eq_true] at good
                have kind := List.all_eq_true.mp good.2 byte inside
                rw [regionByte, kind]
                rfl
              · rw [List.mem_singleton.mp same] at inside
                rw [regionByte, List.all_eq_true.mp last.2 byte inside, Bool.or_true]
                rfl
      rw [List.all_eq_true]
      intro byte inside
      rcases @split_bytes 0x2D region byte inside with same | ⟨part, among, inside⟩
      · rw [same]
        rfl
      · exact piece part (parts ▸ among) byte inside

theorem region_byte_plain (byte : UInt8) (plain : regionByte byte = true) :
    visible byte = true ∧ lowerByte byte = byte := by
  have low : (0x61 ≤ byte.toNat ∧ byte.toNat ≤ 0x7A) ∨ (0x30 ≤ byte.toNat ∧ byte.toNat ≤ 0x39) ∨
      byte.toNat = 0x2D := by
    rw [regionByte, Bool.or_eq_true, Bool.or_eq_true] at plain
    rcases plain with (lower | digit) | hyphen
    · rw [isLower, Bool.and_eq_true, decide_eq_true_iff, decide_eq_true_iff] at lower
      exact .inl lower
    · rw [isDigit, Bool.and_eq_true, decide_eq_true_iff, decide_eq_true_iff] at digit
      exact .inr (.inl digit)
    · rw [beq_iff_eq.mp hyphen]
      exact .inr (.inr rfl)
  constructor
  · rw [visible, Bool.and_eq_true, decide_eq_true_iff, decide_eq_true_iff]
    show 0x21 ≤ byte.toNat ∧ byte.toNat ≤ 0x7E
    omega
  · rw [lowerByte, if_neg]
    rintro ⟨first, last⟩
    have from_ : 0x41 ≤ byte.toNat := first
    have to_ : byte.toNat ≤ 0x5A := last
    omega

variable {letters : Letters}

/-- A region is not changed by trimming and lowering it. -/
theorem region_kept (region : GoString) (shape : regionPattern region = true) :
    letters.toLower (trimSpace region) = region ∧ region ≠ [] ∧ bar ∉ region := by
  have bytes := List.all_eq_true.mp (region_bytes region shape)
  have seen : region.all visible = true :=
    List.all_eq_true.mpr fun byte member => (region_byte_plain byte (bytes byte member)).1
  refine ⟨?_, ?_, ?_⟩
  · rw [visible_trim region seen, letters.lower_ascii region fun byte member =>
      (visible_ascii byte (List.all_eq_true.mp seen byte member)).1]
    conv_rhs => rw [← List.map_id region]
    apply List.map_congr_left
    exact fun byte member => (region_byte_plain byte (bytes byte member)).2
  · intro none_
    rw [none_] at shape
    exact absurd shape (by decide)
  · intro inside
    exact absurd (bytes bar inside) (by decide)

/-- A key that is one word of visible ASCII without a bar. -/
def CleanKey (key : GoString) : Prop := key ≠ [] ∧ key.all visible = true ∧ bar ∉ key

/-- The text that names a key and, if there is one, its region. -/
def keyText (key region : GoString) : GoString :=
  if region = [] then key else key ++ bar :: region

theorem split_sound (raw key region : GoString)
    (split_ : splitKiroAPIKeyAndRegion letters raw = .ok (key, region)) :
    CleanKey key ∧ (region = [] ∨ regionPattern region = true) := by
  rw [splitKiroAPIKeyAndRegion] at split_
  dsimp only at split_
  have free : bar ∉ trimSpace (((trimSpace raw).splitOn bar).headD []) := by
    intro inside
    obtain ⟨head, rest, parts⟩ :=
      List.exists_cons_of_ne_nil (List.splitOn_ne_nil bar (trimSpace raw))
    rw [parts] at inside
    exact split_parts _ head (parts ▸ List.mem_cons_self)
      ((trim_space_within head).subset inside)
  split_ifs at split_ with empty many blank bad
  have seen : (trimSpace (((trimSpace raw).splitOn bar).headD [])).all visible = true := by
    simpa using bad
  split at split_
  · next first second parts =>
      split_ifs at split_ with shape
      obtain ⟨rfl, rfl⟩ := Prod.mk.inj (Except.ok.inj split_)
      exact ⟨⟨blank, seen, free⟩, .inr shape⟩
  · obtain ⟨rfl, rfl⟩ := Prod.mk.inj (Except.ok.inj split_)
    exact ⟨⟨blank, seen, free⟩, .inl rfl⟩

theorem text_split (key region : GoString) (clean : CleanKey key)
    (placed : region = [] ∨ regionPattern region = true) :
    splitKiroAPIKeyAndRegion letters (keyText key region) = .ok (key, region) := by
  obtain ⟨some_, seen, free⟩ := clean
  have kept := visible_trim key seen
  have good : ¬ key.all visible = false := by simp [seen]
  rcases placed with rfl | shape
  · rw [keyText, if_pos rfl, splitKiroAPIKeyAndRegion]
    dsimp only
    rw [kept, List.splitOn_eq_singleton free, List.headD_cons, kept, if_neg some_,
      if_neg (by simp), if_neg some_, if_neg good]
  · obtain ⟨same, named, apart⟩ := @region_kept letters region shape
    have bytes := List.all_eq_true.mp (region_bytes region shape)
    have whole : (key ++ bar :: region).all visible = true := by
      rw [List.all_append, seen, List.all_cons, Bool.true_and, Bool.and_eq_true]
      exact ⟨rfl, List.all_eq_true.mpr fun byte member =>
        (region_byte_plain byte (bytes byte member)).1⟩
    rw [keyText, if_neg named, splitKiroAPIKeyAndRegion]
    dsimp only
    rw [visible_trim _ whole, List.splitOn_append_cons_self_of_not_mem free,
      List.splitOn_eq_singleton apart, List.headD_cons, kept, if_neg (by simp), if_neg (by simp),
      if_neg some_, if_neg good]
    dsimp only
    rw [same, if_pos shape]

/-- The key texts that are accepted name exactly the clean keys, and a key is read back from its
own text. -/
theorem key_text_read (letters : Letters) (key region : GoString) :
    ((∃ raw, splitKiroAPIKeyAndRegion letters raw = .ok (key, region)) ↔
      CleanKey key ∧ (region = [] ∨ regionPattern region = true)) ∧
    (splitKiroAPIKeyAndRegion letters (keyText key region) = .ok (key, region) ↔
      CleanKey key ∧ (region = [] ∨ regionPattern region = true)) := by
  refine ⟨⟨?_, ?_⟩, ?_, ?_⟩
  · rintro ⟨raw, split_⟩
    exact split_sound raw key region split_
  · rintro ⟨clean, placed⟩
    exact ⟨keyText key region, text_split key region clean placed⟩
  · exact split_sound _ key region
  · rintro ⟨clean, placed⟩
    exact text_split key region clean placed

end Texts

section Accounts

variable {Credit : Type} {letters : Letters}

theorem normalized_made (hash : GoString → GoString) (account normal : Account Credit)
    (made : normalizeAPIKeyAccount letters hash account = .ok normal) :
    ∃ key region, normal = withKey hash account key region ∧ CleanKey key ∧
      regionPattern region = true := by
  rw [normalizeAPIKeyAccount] at made
  dsimp only at made
  split at made
  · cases made
  · next key keyRegion split_ =>
      split_ifs at made with shape
      exact ⟨key, _, (Except.ok.inj made).symm, (split_sound _ key keyRegion split_).1, shape⟩

/-- The account of a clean key is normalised by that key and its own region. -/
theorem normalize_clean (hash : GoString → GoString) (account : Account Credit)
    (clean : CleanKey account.kiroApiKey) (shape : regionPattern account.region = true) :
    normalizeAPIKeyAccount letters hash account =
      .ok (withKey hash account account.kiroApiKey account.region) := by
  obtain ⟨same, named, _⟩ := @region_kept letters account.region shape
  have kept := visible_trim account.kiroApiKey clean.2.1
  have read := @text_split letters account.kiroApiKey [] clean (.inl rfl)
  rw [keyText, if_pos rfl] at read
  rw [normalizeAPIKeyAccount]
  dsimp only
  rw [kept, if_neg clean.1, read]
  dsimp only
  rw [same, chosenRegion, if_pos named, if_pos shape]

/-- What makes an account one of a key. No write but `AddAccount` gives it. -/
def keyPart (account : Account Credit) : GoString × GoString × GoString :=
  (account.kiroApiKey, account.authMethod, account.region)

theorem back_parts (accounts : List (Account Credit)) (copy : Option (Account Credit))
    (change : Account Credit → Account Credit) :
    (writeBack accounts copy change).map keyPart = accounts.map keyPart := by
  cases copy with
  | none => rfl
  | some copy =>
      apply map_update_first keyPart
      intro account
      rfl

theorem row_parts (credentialsLoaded : Bool) (state : State Credit) (caller : Nat) (id : GoString)
    (change : Account Credit → Account Credit)
    (keeps : ∀ account, keyPart (change account) = keyPart account) :
    (writeRow credentialsLoaded state caller id change).map keyPart =
      state.accounts.map keyPart := by
  rw [writeRow]
  split_ifs
  · exact back_parts state.accounts _ change
  · exact map_update_first keyPart _ change keeps state.accounts

theorem write_parts (credentialsLoaded : Bool) (state : State Credit) (event : Event Credit) :
    (writes credentialsLoaded state event).map keyPart = state.accounts.map keyPart := by
  cases event with
  | updateAccountToken id accessToken refreshToken expiresAt =>
      rw [writes, updateAccountToken]
      cases storedRow state.accounts id with
      | none => rfl
      | some row =>
          apply map_update_first keyPart
          intro account
          rfl
  | updateAccountProfileArn id profileArn =>
      rw [writes, updateAccountProfileArn]
      cases storedRow state.accounts id with
      | none => rfl
      | some row =>
          dsimp only
          split_ifs
          · rfl
          · apply map_update_first keyPart
            intro account
            rfl
  | pinAccountProfileArn id profileArn =>
      apply map_update_first keyPart
      intro account
      rfl
  | copy caller id => rfl
  | updateAccount caller change => exact back_parts state.accounts _ change
  | setAccountEnabled caller id enabled now =>
      apply row_parts
      intro account
      rw [withAccountEnabled]
      split_ifs <;> rfl
  | setAccountBanStatus caller id status reason now =>
      apply row_parts
      intro account
      rw [withAccountBanStatus]
      split_ifs <;> rfl
  | updateAccountInfo caller id info =>
      rw [writes]
      split_ifs
      · rfl
      · exact row_parts _ state caller id _ fun account => rfl
      · exact row_parts _ state caller id _ fun account => rfl
  | updateCredentialInfo id info =>
      apply map_update_first keyPart
      intro account
      rfl

end Accounts

section Runs

variable {Credit : Type} {letters : Letters}

/-- No two accounts have one key, and the account of a key has it in its normal form. -/
structure KeysKept (letters : Letters) (accounts : List (Account Credit)) : Prop where
  apart : accounts.Pairwise fun account other =>
    trimSpace account.kiroApiKey ≠ [] →
      trimSpace account.kiroApiKey ≠ trimSpace other.kiroApiKey
  clean : ∀ account ∈ accounts, isAPIKeyAccount letters account = true →
    CleanKey account.kiroApiKey ∧ account.authMethod = lit "api_key" ∧
      regionPattern account.region = true ∧ isKiroServiceRegion letters account.region = true

theorem kept_parts {accounts later : List (Account Credit)} (kept : KeysKept letters accounts)
    (same : later.map keyPart = accounts.map keyPart) : KeysKept letters later where
  apart := by
    have apart : (accounts.map keyPart).Pairwise fun part other =>
        trimSpace part.1 ≠ [] → trimSpace part.1 ≠ trimSpace other.1 :=
      List.pairwise_map.mpr kept.apart
    rw [← same] at apart
    exact List.pairwise_map.mp apart
  clean := by
    intro account member keyed
    have part : keyPart account ∈ accounts.map keyPart := same ▸ List.mem_map_of_mem member
    obtain ⟨old, inside, equal⟩ := List.mem_map.mp part
    obtain ⟨key, rest⟩ := Prod.mk.inj equal
    obtain ⟨method, region⟩ := Prod.mk.inj rest
    have keyed_ : isAPIKeyAccount letters old = true := by
      rw [isAPIKeyAccount, key, method]
      exact keyed
    rw [← key, ← method, ← region]
    exact kept.clean old inside keyed_

theorem prepared_clean (hash : GoString → GoString) (account stored : Account Credit)
    (made : prepared letters hash account = .ok stored)
    (keyed : isAPIKeyAccount letters stored = true) :
    CleanKey stored.kiroApiKey ∧ stored.authMethod = lit "api_key" ∧
      regionPattern stored.region = true ∧ isKiroServiceRegion letters stored.region = true := by
  rw [prepared] at made
  split_ifs at made with kind
  · split at made
    · cases made
    · next normal normalized =>
        split_ifs at made with served
        obtain rfl := Except.ok.inj made
        obtain ⟨key, region, rfl, clean, shape⟩ :=
          normalized_made hash account normal normalized
        exact ⟨clean, rfl, shape, served⟩
  · rw [Except.ok.inj made] at kind
    exact absurd keyed kind

theorem add_kept (hash : GoString → GoString) (accounts : List (Account Credit))
    (account : Account Credit) (kept : KeysKept letters accounts) :
    KeysKept letters (addAccount letters hash accounts account).1 := by
  rw [addAccount]
  split
  · exact kept
  · next stored made =>
      split_ifs with known
      · exact kept
      · refine ⟨?_, ?_⟩
        · rw [List.pairwise_append]
          refine ⟨kept.apart, List.pairwise_singleton _ _, ?_⟩
          intro other member last inside some_ same
          rw [List.mem_singleton.mp inside] at same
          by_cases keyed : isAPIKeyAccount letters stored = true
          · obtain ⟨⟨named, seen, _⟩, _⟩ := prepared_clean hash account stored made keyed
            rw [visible_trim _ seen] at same
            apply known
            rw [hasKiroAPIKey, if_neg named, List.any_eq_true]
            exact ⟨other, member, beq_iff_eq.mpr same⟩
          · apply keyed
            rw [isAPIKeyAccount]
            simp [← same, some_]
        · intro other member keyed
          rcases List.mem_append.mp member with old | last
          · exact kept.clean other old keyed
          · rw [List.mem_singleton.mp last] at keyed ⊢
            exact prepared_clean hash account stored made keyed

theorem store_step_kept (hash : GoString → GoString) (store : Store Credit)
    (event : StoreEvent Credit)
    (kept : KeysKept letters store.state.accounts ∧
      ∀ accounts ∈ store.backups, KeysKept letters accounts) :
    KeysKept letters (storeStep letters hash store event).state.accounts ∧
      ∀ accounts ∈ (storeStep letters hash store event).backups, KeysKept letters accounts := by
  obtain ⟨now, before⟩ := kept
  cases event with
  | write credentialsLoaded event =>
      exact ⟨kept_parts now (write_parts credentialsLoaded store.state event), before⟩
  | stats id stats =>
      refine ⟨kept_parts now ?_, before⟩
      apply map_update_first keyPart
      intro account
      rfl
  | add account => exact ⟨add_kept hash store.state.accounts account now, before⟩
  | delete id =>
      refine ⟨⟨now.apart.sublist List.eraseP_sublist, ?_⟩, before⟩
      exact fun account member keyed => now.clean account (List.mem_of_mem_eraseP member) keyed
  | backup =>
      refine ⟨now, fun accounts member => ?_⟩
      rcases List.mem_append.mp member with old | last
      · exact before accounts old
      · rw [List.mem_singleton.mp last]
        exact now
  | restore number =>
      refine ⟨?_, before⟩
      rw [storeStep, Store.put]
      cases found : store.backups[number]? with
      | none => exact now
      | some accounts => exact before accounts (List.mem_of_getElem? found)

def emptyStore : Store Credit := ⟨CredentialWrites.start [], []⟩

/-- The account of a stored key is not added again. -/
theorem added_again (hash : GoString → GoString) (accounts : List (Account Credit))
    (kept : KeysKept letters accounts) (account : Account Credit) (member : account ∈ accounts)
    (keyed : isAPIKeyAccount letters account = true) :
    addAccount letters hash accounts account = (accounts, some .duplicateKiroAPIKey) := by
  obtain ⟨clean, _, shape, served⟩ := kept.clean account member keyed
  have trimmed := visible_trim account.kiroApiKey clean.2.1
  have made : prepared letters hash account =
      .ok (withKey hash account account.kiroApiKey account.region) := by
    rw [prepared, if_pos keyed, normalize_clean hash account clean shape]
    exact if_pos served
  have known : hasKiroAPIKey accounts account.kiroApiKey = true := by
    rw [hasKiroAPIKey, if_neg clean.1, List.any_eq_true]
    exact ⟨account, member, beq_iff_eq.mpr trimmed⟩
  rw [addAccount, made]
  exact if_pos known

/-- In every run of the store, whatever copies are written back. -/
theorem api_keys_kept (letters : Letters) (hash : GoString → GoString)
    (events : List (StoreEvent Credit)) :
    let accounts := (run (storeStep letters hash) emptyStore events).state.accounts
    KeysKept letters accounts ∧ ∀ account ∈ accounts, isAPIKeyAccount letters account = true →
      addAccount letters hash accounts account = (accounts, some .duplicateKiroAPIKey) := by
  have kept := invariant_of_steps (storeStep letters hash)
    (fun store => KeysKept letters store.state.accounts ∧
      ∀ accounts ∈ store.backups, KeysKept letters accounts)
    (store_step_kept hash) emptyStore
    ⟨⟨List.Pairwise.nil, fun account member => absurd member List.not_mem_nil⟩,
      fun accounts member => absurd member List.not_mem_nil⟩ events
  exact ⟨kept.1, added_again hash _ kept.1⟩

end Runs

end KiroProxy.KeyAccounts
