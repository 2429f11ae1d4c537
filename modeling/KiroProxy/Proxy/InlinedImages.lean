import KiroProxy.Proxy.RemoteImages

/-!
# Inlined images

Which blocks `inlineRemoteImages` of `proxy/remote_images.go` reaches, by the keys and the kinds of
blocks on the way to them, and what a request body has in common with the one that is passed on.
-/

namespace KiroProxy.RemoteImages

open GoStrings InlineMedia Responses

set_option autoImplicit false

section Places

variable (httpURL : GoString → Bool)

def walkedKeys : List GoString := [lit "messages", lit "input", lit "content", lit "system"]

/-- A step that the walk takes. -/
def JsonStep.walked : JsonStep → Prop
  | .key name => name ∈ walkedKeys
  | .index _ => True

/-- The walked steps from the body, past no block of these kinds. -/
def Reaches (kinds : List GoString) (root : Json) (path : JsonPath) : Prop :=
  (∀ step ∈ path, JsonStep.walked step) ∧
    ∀ before step after, path = before ++ step :: after →
      ∀ node, root.follow before = some (.obj node) → blockKind node ∉ kinds

/-- An image block that is asked for. -/
structure RemoteBlock (root : Json) (path : JsonPath) (node : JsonFields) : Prop where
  there : root.follow path = some (.obj node)
  image : blockKind node ∈ imageKinds
  asked : asks httpURL node = true

theorem reaches_cons (kinds : List GoString) (root inner : Json) (step : JsonStep) (path : JsonPath)
    (child : root.child step = some inner) :
    Reaches kinds root (step :: path) ↔
      JsonStep.walked step ∧ (∀ node, root = .obj node → blockKind node ∉ kinds) ∧
        Reaches kinds inner path := by
  constructor
  · intro reaches
    refine ⟨reaches.1 step List.mem_cons_self, ?_, ?_, ?_⟩
    · intro node same
      exact reaches.2 [] step path rfl node (by rw [same]; rfl)
    · exact fun other member => reaches.1 other (List.mem_cons_of_mem _ member)
    · intro before next after split node found
      apply reaches.2 (step :: before) next after (by rw [split, List.cons_append]) node
      rw [Json.follow, child]
      exact found
  · intro reaches
    obtain ⟨walked, outside, steps, rest⟩ := reaches
    constructor
    · intro other member
      cases List.mem_cons.mp member with
      | inl same => rwa [same]
      | inr later => exact steps other later
    · intro before next after split node found
      cases before with
      | nil => exact outside node (Option.some.inj found)
      | cons first before =>
          rw [List.cons_append, List.cons_eq_cons] at split
          rw [← split.1, Json.follow, child] at found
          exact rest before next after split.2 node found

theorem reaches_nil (kinds : List GoString) (root : Json) : Reaches kinds root [] := by
  constructor
  · simp
  · intro before step after split
    simp at split

theorem mem_under (step first : JsonStep) (path : JsonPath) (block : JsonFields)
    (occurrences : List Found) :
    ⟨step :: path, block⟩ ∈ occurrences.map (Found.under first) ↔
      first = step ∧ ⟨path, block⟩ ∈ occurrences := by
  rw [List.mem_map]
  constructor
  · rintro ⟨found, member, same⟩
    obtain ⟨inner, node⟩ := found
    rw [Found.under, Found.mk.injEq, List.cons_eq_cons] at same
    obtain ⟨⟨steps, paths⟩, blocks⟩ := same
    dsimp only at paths blocks
    rw [← paths, ← blocks]
    exact ⟨steps, member⟩
  · rintro ⟨rfl, member⟩
    exact ⟨_, member, rfl⟩

theorem mem_found_items (items : List Json) (position : Nat) (step : JsonStep) (path : JsonPath)
    (block : JsonFields) :
    ⟨step :: path, block⟩ ∈ foundItems httpURL position items ↔
      ∃ skipped inner, step = .index (position + skipped) ∧ items[skipped]? = some inner ∧
        ⟨path, block⟩ ∈ found httpURL inner := by
  induction items generalizing position with
  | nil => simp [foundItems]
  | cons item items ih =>
      rw [foundItems, List.mem_append, mem_under, ih]
      constructor
      · rintro (⟨rfl, member⟩ | ⟨skipped, inner, same, there, member⟩)
        · exact ⟨0, item, rfl, rfl, member⟩
        · refine ⟨skipped + 1, inner, ?_, there, member⟩
          rw [same, Nat.add_assoc, Nat.add_comm 1]
      · rintro ⟨skipped, inner, same, there, member⟩
        cases skipped with
        | zero =>
            left
            rw [← Option.some.inj there] at member
            exact ⟨same.symm, member⟩
        | succ skipped =>
            right
            refine ⟨skipped, inner, ?_, there, member⟩
            rw [same, Nat.add_assoc, Nat.add_comm 1]

theorem mem_found_field (key : GoString) (node : JsonFields) (step : JsonStep) (path : JsonPath)
    (block : JsonFields) :
    ⟨step :: path, block⟩ ∈ foundField httpURL key node ↔
      step = .key key ∧ ∃ inner, node.get key = some inner ∧
        ⟨path, block⟩ ∈ found httpURL inner := by
  rw [found_field_get]
  cases child : node.get key with
  | none => simp
  | some value =>
      rw [Option.map_some, Option.getD_some, mem_under]
      constructor
      · rintro ⟨rfl, member⟩
        exact ⟨rfl, value, rfl, member⟩
      · rintro ⟨rfl, inner, same, member⟩
        rw [Option.some.inj same]
        exact ⟨rfl, member⟩

/-- The kinds of blocks that the walk does not go into. -/
def stopKinds : List GoString := imageKinds ++ skippedKinds

theorem mem_found_cons (root : Json) (step : JsonStep) (path : JsonPath) (block : JsonFields) :
    ⟨step :: path, block⟩ ∈ found httpURL root ↔
      ∃ inner, root.child step = some inner ∧ JsonStep.walked step ∧
        (∀ node, root = .obj node → blockKind node ∉ stopKinds) ∧
        ⟨path, block⟩ ∈ found httpURL inner := by
  cases root with
  | arr items =>
      rw [found, mem_found_items]
      constructor
      · rintro ⟨skipped, inner, same, there, member⟩
        rw [Nat.zero_add] at same
        refine ⟨inner, ?_, ?_, by simp, member⟩
        · rw [same]
          exact there
        · rw [same]
          trivial
      · rintro ⟨inner, there, _, _, member⟩
        cases step with
        | key name => simp [Json.child] at there
        | index position => exact ⟨position, inner, by rw [Nat.zero_add], there, member⟩
  | obj node =>
      rw [found]
      by_cases image : blockKind node ∈ imageKinds
      · rw [if_pos image]
        constructor
        · intro member
          split_ifs at member
          · simp at member
          · simp at member
        · rintro ⟨_, _, _, outside, _⟩
          exact absurd (List.mem_append_left _ image) (outside node rfl)
      · rw [if_neg image]
        by_cases skipped : blockKind node ∈ skippedKinds
        · rw [if_pos skipped]
          constructor
          · simp
          · rintro ⟨_, _, _, outside, _⟩
            exact absurd (List.mem_append_right _ skipped) (outside node rfl)
        · rw [if_neg skipped, List.mem_append, List.mem_append, List.mem_append,
            mem_found_field, mem_found_field, mem_found_field, mem_found_field]
          have outside : ∀ other, Json.obj node = .obj other → blockKind other ∉ stopKinds := by
            intro other same
            rw [← Json.obj.inj same, stopKinds, List.mem_append, not_or]
            exact ⟨image, skipped⟩
          have keys : ∀ name, name ∈ walkedKeys ↔ ((name = lit "messages" ∨ name = lit "input") ∨
              name = lit "content") ∨ name = lit "system" := by
            intro name
            simp [walkedKeys, or_assoc]
          constructor
          · rintro (((⟨rfl, inner, there, member⟩ | ⟨rfl, inner, there, member⟩) |
              ⟨rfl, inner, there, member⟩) | ⟨rfl, inner, there, member⟩)
            all_goals exact ⟨inner, there, (keys _).mpr (by simp), outside, member⟩
          · rintro ⟨inner, there, walked, _, member⟩
            cases step with
            | index position => simp [Json.child] at there
            | key name =>
                have named := (keys name).mp walked
                rcases named with ((rfl | rfl) | rfl) | rfl
                · exact Or.inl (Or.inl (Or.inl ⟨rfl, inner, there, member⟩))
                · exact Or.inl (Or.inl (Or.inr ⟨rfl, inner, there, member⟩))
                · exact Or.inl (Or.inr ⟨rfl, inner, there, member⟩)
                · exact Or.inr ⟨rfl, inner, there, member⟩
  | _ => simp [found, Json.child]

theorem mem_found_nil (root : Json) (block : JsonFields) :
    ⟨[], block⟩ ∈ found httpURL root ↔ RemoteBlock httpURL root [] block := by
  have below : ∀ (step : JsonStep) (occurrences : List Found),
      (⟨[], block⟩ : Found) ∉ occurrences.map (Found.under step) := by
    intro step occurrences member
    obtain ⟨found, _, same⟩ := List.mem_map.mp member
    exact absurd (congrArg Found.path same) (by simp [Found.under])
  have items : ∀ (list : List Json) (position : Nat),
      (⟨[], block⟩ : Found) ∉ foundItems httpURL position list := by
    intro list
    induction list with
    | nil => simp [foundItems]
    | cons item list ih =>
        intro position member
        rw [foundItems, List.mem_append] at member
        exact member.elim (below _ _) (ih (position + 1))
  have field : ∀ (key : GoString) (node : JsonFields),
      (⟨[], block⟩ : Found) ∉ foundField httpURL key node := by
    intro key node
    rw [found_field_get]
    cases node.get key with
    | none => simp
    | some value => exact below _ _
  constructor
  · intro member
    cases root with
    | obj node =>
        rw [found] at member
        split_ifs at member with image asked skipped
        · rw [List.mem_singleton, Found.mk.injEq] at member
          obtain ⟨_, same⟩ := member
          rw [same]
          exact ⟨rfl, image, asked⟩
        · simp at member
        · simp at member
        · rw [List.mem_append, List.mem_append, List.mem_append] at member
          exact absurd member (by simp [field])
    | arr list =>
        rw [found] at member
        exact absurd member (items list 0)
    | _ => simp [found] at member
  · rintro ⟨there, image, asked⟩
    have same : root = .obj block := Option.some.inj there
    rw [same, found, if_pos image, if_pos asked]
    exact List.mem_singleton_self _

/-- The walk finds the blocks that it can reach. -/
theorem mem_found_iff (root : Json) (path : JsonPath) (block : JsonFields) :
    ⟨path, block⟩ ∈ found httpURL root ↔
      RemoteBlock httpURL root path block ∧ Reaches stopKinds root path := by
  induction path generalizing root with
  | nil =>
      rw [mem_found_nil]
      exact ⟨fun remote => ⟨remote, reaches_nil stopKinds root⟩, fun both => both.1⟩
  | cons step path ih =>
      rw [mem_found_cons]
      constructor
      · rintro ⟨inner, child, walked, outside, member⟩
        obtain ⟨remote, reaches⟩ := (ih inner).mp member
        refine ⟨⟨?_, remote.image, remote.asked⟩, ?_⟩
        · rw [Json.follow, child]
          exact remote.there
        · exact (reaches_cons stopKinds root inner step path child).mpr
            ⟨walked, outside, reaches⟩
      · rintro ⟨remote, reaches⟩
        have there := remote.there
        rw [Json.follow] at there
        obtain ⟨inner, child, rest⟩ := Option.bind_eq_some_iff.mp there
        obtain ⟨walked, outside, inside⟩ :=
          (reaches_cons stopKinds root inner step path child).mp reaches
        exact ⟨inner, child, walked, outside,
          (ih inner).mpr ⟨⟨rest, remote.image, remote.asked⟩, inside⟩⟩

end Places

section Carrying

/-- A byte of a text without spaces. -/
def graphic (byte : UInt8) : Bool := 0x21 ≤ byte && byte ≤ 0x7E

theorem graphic_no_space (byte : UInt8) (visible : graphic byte = true) :
    ∀ rune ∈ spaceRunes, byte ∉ rune := by
  have spaces : (spaceRunes.all fun rune => rune.all fun other => !graphic other) = true := by
    decide
  intro rune member inside
  have hidden := List.all_eq_true.mp (List.all_eq_true.mp spaces rune member) byte inside
  rw [visible] at hidden
  exact Bool.false_ne_true hidden

theorem trim_graphic (text : GoString) (visible : ∀ byte ∈ text, graphic byte = true) :
    trimSpace text = text := by
  have apart : ∀ rune ∈ spaceRunes, ∀ byte ∈ rune, byte ∉ text := by
    intro rune member byte inside there
    exact graphic_no_space byte (visible byte there) rune member inside
  have some_ : ∀ rune ∈ spaceRunes, ∃ byte, byte ∈ rune := by
    intro rune member
    exact List.exists_mem_of_ne_nil rune (space_runes_ne_nil rune member)
  apply trim_space_kept
  · intro rune member starts
    obtain ⟨byte, inside⟩ := some_ rune member
    exact apart rune member byte inside (starts.subset inside)
  · intro rune member ends
    obtain ⟨byte, inside⟩ := some_ rune member
    exact apart rune member byte inside (ends.subset inside)

theorem graphic_iff (byte : UInt8) :
    graphic byte = true ↔ 0x21 ≤ byte.toNat ∧ byte.toNat ≤ 0x7E := by
  rw [graphic, Bool.and_eq_true, decide_eq_true_eq, decide_eq_true_eq, UInt8.le_iff_toNat_le,
    UInt8.le_iff_toNat_le]
  rfl

theorem sextet_graphic (value : UInt8) : graphic (encodeSextet value) = true := by
  rw [graphic_iff, encodeSextet]
  split_ifs with upper lower digit plus
  · rw [UInt8.lt_iff_toNat_lt] at upper
    simp at upper ⊢
    omega
  · rw [UInt8.lt_iff_toNat_lt] at upper lower
    have enough : (26 : UInt8) ≤ value := UInt8.le_iff_toNat_le.mpr (by simpa using upper)
    rw [UInt8.toNat_add, UInt8.toNat_sub_of_le _ _ enough]
    simp at upper lower ⊢
    omega
  · rw [UInt8.lt_iff_toNat_lt] at lower digit
    have enough : (52 : UInt8) ≤ value := UInt8.le_iff_toNat_le.mpr (by simpa using lower)
    rw [UInt8.toNat_add, UInt8.toNat_sub_of_le _ _ enough]
    simp at lower digit ⊢
    omega
  · decide
  · decide

theorem base64_graphic (bytes : GoString) :
    ∀ byte ∈ base64Encode bytes, graphic byte = true := by
  have pad : graphic 0x3D = true := by decide
  induction bytes using base64Encode.induct with
  | case1 => simp [base64Encode]
  | case2 first => simp [base64Encode, sextet_graphic, pad]
  | case3 first second => simp [base64Encode, sextet_graphic, pad]
  | case4 first second third rest ih =>
      intro byte member
      rw [base64Encode, List.mem_append] at member
      cases member with
      | inl here =>
          simp only [List.mem_cons, List.not_mem_nil, or_false] at here
          rcases here with same | same | same | same
          all_goals rw [same]; exact sextet_graphic _
      | inr later => exact ih byte later

theorem base64_length (bytes : GoString) : bytes.length ≤ (base64Encode bytes).length := by
  induction bytes using base64Encode.induct with
  | case1 => simp
  | case2 first => simp [base64Encode]
  | case3 first second => simp [base64Encode]
  | case4 first second third rest ih =>
      rw [base64Encode, List.length_append]
      simp only [List.length_cons, List.length_nil]
      omega

theorem data_url_graphic (image : RemoteImage) (media : image.media ∈ imageMedia) :
    ∀ byte ∈ image.dataURL, graphic byte = true := by
  have types : (imageMedia.all fun media => media.all graphic) = true := by decide
  have front : (lit "data:").all graphic = true := by decide
  have middle : (lit ";base64,").all graphic = true := by decide
  intro byte member
  rw [RemoteImage.dataURL, List.mem_append, List.mem_append, List.mem_append] at member
  rcases member with ((inside | inside) | inside) | inside
  · exact List.all_eq_true.mp front byte inside
  · exact List.all_eq_true.mp (List.all_eq_true.mp types image.media media) byte inside
  · exact List.all_eq_true.mp middle byte inside
  · exact base64_graphic image.bytes byte inside

/-- The places of a block where a URL can stand. -/
def sourceURL (node : JsonFields) : GoString :=
  match node.get (lit "source") with
  | some (.obj source) =>
      if firstString [JsonFields.get source (lit "type")] = lit "url" then
        trimSpace (firstString [JsonFields.get source (lit "url")])
      else []
  | _ => []

def imageField (node : JsonFields) : GoString :=
  match node.get (lit "image_url") with
  | some (.obj image) => trimSpace (firstString [JsonFields.get image (lit "url")])
  | value => trimSpace (firstString [value])

def plainURL (node : JsonFields) : GoString := trimSpace (firstString [node.get (lit "url")])

/-- The block has the image, and the URL nowhere any more. -/
structure Carries (node : JsonFields) (url : GoString) (image : RemoteImage) : Prop where
  bytes : node.get (lit "source") = some (base64Source image) ∨
    node.get (lit "image_url") = some (.str image.dataURL) ∨
    ∃ nested, node.get (lit "image_url") = some (.obj nested) ∧
      JsonFields.get nested (lit "url") = some (.str image.dataURL)
  gone : url ∉ [sourceURL node, imageField node, plainURL node]

/-- The URL also stands where nothing is written: `image_url` of an `image` block, the source
of another. -/
def KeepsURL (node : JsonFields) : Prop :=
  (if blockKind node = lit "image" then imageField node else sourceURL node) =
    remoteImageURL node

theorem asks_url (httpURL : GoString → Bool) (node : JsonFields)
    (asked : asks httpURL node = true) :
    remoteImageURL node ≠ [] ∧ ¬lit "data:" <+: remoteImageURL node := by
  rw [asks, Bool.and_eq_true, Bool.not_eq_true', Bool.or_eq_false_iff] at asked
  refine ⟨by simpa using asked.1.1, ?_⟩
  intro starts
  rw [List.isPrefixOf_iff_prefix.mpr starts] at asked
  exact absurd asked.1.2 (by decide)

theorem url_deleted (node : JsonFields) : plainURL (node.delete (lit "url")) = [] := by
  rw [plainURL, JsonFields.get_delete_same]
  decide

theorem source_deleted (node : JsonFields) :
    sourceURL (node.delete (lit "url")) = sourceURL node := by
  rw [sourceURL, JsonFields.get_delete_other _ _ _ (by decide), sourceURL]

theorem image_deleted (node : JsonFields) :
    imageField (node.delete (lit "url")) = imageField node := by
  rw [imageField, JsonFields.get_delete_other _ _ _ (by decide), imageField]

/-- What a block of another kind has under `image_url` afterwards. -/
theorem written_image (node : JsonFields) (image : RemoteImage)
    (other : blockKind node ≠ lit "image") :
    ∃ written, carryImage node image =
        (node.set (lit "image_url") written).delete (lit "url") ∧
      (written = .str image.dataURL ∨ ∃ nested, written = .obj nested ∧
        JsonFields.get nested (lit "url") = some (.str image.dataURL)) := by
  rw [carryImage]
  simp only [if_neg other]
  split
  · exact ⟨_, rfl, Or.inr ⟨_, rfl, JsonFields.get_set_same _ _ _⟩⟩
  · exact ⟨_, rfl, Or.inl rfl⟩

theorem carries_iff (httpURL : GoString → Bool) (node : JsonFields) (image : RemoteImage)
    (asked : asks httpURL node = true) (media : image.media ∈ imageMedia) :
    Carries (carryImage node image) (remoteImageURL node) image ↔ ¬KeepsURL node := by
  obtain ⟨some_, remote⟩ := asks_url httpURL node asked
  by_cases kind : blockKind node = lit "image"
  · have written : carryImage node image =
        (node.set (lit "source") (base64Source image)).delete (lit "url") := by
      rw [carryImage]
      simp only [if_pos kind]
    have source : sourceURL (carryImage node image) = [] := by
      rw [written, source_deleted, sourceURL, JsonFields.get_set_same]
      rfl
    have field : imageField (carryImage node image) = imageField node := by
      rw [written, image_deleted, imageField, JsonFields.get_set_other _ _ _ _ (by decide),
        imageField]
    have plain : plainURL (carryImage node image) = [] := by
      rw [written, url_deleted]
    rw [KeepsURL, if_pos kind]
    constructor
    · intro carried keeps
      apply carried.gone
      rw [field, keeps]
      simp
    · intro elsewhere
      constructor
      · left
        rw [written, JsonFields.get_delete_other _ _ _ (by decide), JsonFields.get_set_same]
      · rw [source, field, plain]
        simp [some_, Ne.symm elsewhere]
  · obtain ⟨value, written, holds⟩ := written_image node image kind
    have source : sourceURL (carryImage node image) = sourceURL node := by
      rw [written, source_deleted, sourceURL, JsonFields.get_set_other _ _ _ _ (by decide),
        sourceURL]
    have there : (carryImage node image).get (lit "image_url") = some value := by
      rw [written, JsonFields.get_delete_other _ _ _ (by decide), JsonFields.get_set_same]
    have nonempty : image.dataURL ≠ [] := by
      rw [RemoteImage.dataURL, List.append_assoc, List.append_assoc]
      exact List.append_ne_nil_of_left_ne_nil (by decide) _
    have field : imageField (carryImage node image) = image.dataURL := by
      rw [imageField, there]
      rcases holds with rfl | ⟨nested, rfl, found⟩
      · simp only [firstString, if_pos nonempty]
        exact trim_graphic _ (data_url_graphic image media)
      · simp only [found, firstString, if_pos nonempty]
        exact trim_graphic _ (data_url_graphic image media)
    have differs : remoteImageURL node ≠ image.dataURL := by
      intro same
      apply remote
      rw [same, RemoteImage.dataURL, List.append_assoc, List.append_assoc]
      exact List.prefix_append _ _
    have plain : plainURL (carryImage node image) = [] := by
      rw [written, url_deleted]
    rw [KeepsURL, if_neg kind]
    constructor
    · intro carried keeps
      apply carried.gone
      rw [source, keeps]
      simp
    · intro elsewhere
      constructor
      · right
        rcases holds with rfl | ⟨nested, rfl, found⟩
        · exact Or.inl there
        · exact Or.inr ⟨nested, there, found⟩
      · rw [source, field, plain]
        simp [some_, Ne.symm elsewhere, differs]

end Carrying

section Inlining

def toolCallKinds : List GoString :=
  [lit "tool_use", lit "server_tool_use", lit "mcp_tool_use", lit "function"]

/-- Inside the body, along message keys and outside tool calls. -/
def MessageContent (root : Json) (path : JsonPath) : Prop :=
  path ≠ [] ∧ Reaches toolCallKinds root path

def Passed.value (decode : GoString → Option Json) (body : GoString) : Passed → Option Json
  | .unchanged => decode body
  | .marshalled value => some value

variable (network : Network) (decode : GoString → Option Json) (body : GoString)

def keptImages (made : List Request) : List RemoteImage := made.filterMap Request.image

/-- The body passed on differs at image blocks of messages only, each with the bytes downloaded
for it in the place of its URL. -/
structure InlinesMessageImages : Prop where
  value : ∀ root, decode body = some root →
    (inlineRemoteImages network decode body).1.value decode body =
      some (root.applyEdits ((inlineRemoteImages network decode body).2.filterMap Request.edit))
  unread : decode body = none →
    (inlineRemoteImages network decode body).1 = .unchanged ∧
      (inlineRemoteImages network decode body).2 = []
  messages : ∀ request ∈ (inlineRemoteImages network decode body).2,
    ∃ root, decode body = some root ∧
      RemoteBlock network.httpURL root request.path request.block ∧
      request.url = remoteImageURL request.block ∧ MessageContent root request.path
  toolCalls : ∀ root path node, decode body = some root →
    root.follow path = some (.obj node) → blockKind node ∈ toolCallKinds →
    ∀ request ∈ (inlineRemoteImages network decode body).2, ¬path <+: request.path
  carried : ∀ request ∈ (inlineRemoteImages network decode body).2,
    ∀ image, request.image = some image →
      (∃ count, fetchRemoteImage (network.download count request.url) = some image) ∧
        Carries (carryImage request.block image) request.url image
  budget : ((keptImages (inlineRemoteImages network decode body).2).map
    fun image => image.bytes.length).sum ≤ maxRemoteImageTotalBytes

/-- Every remote image block that the walk reaches is message content, and its URL stands only
where the image is written. -/
def OnlyMessageImages (httpURL : GoString → Bool) : Prop :=
  mentionsURL body = true → ∀ fields, decode body = some (.obj fields) →
    ∀ path node, RemoteBlock httpURL (.obj fields) path node →
      Reaches stopKinds (.obj fields) path → MessageContent (.obj fields) path ∧ ¬KeepsURL node

theorem inline_object (fields : JsonFields) (mentioned : mentionsURL body = true)
    (read : decode body = some (.obj fields)) :
    (inlineRemoteImages network decode body).2 =
        requestsFor network ⟨0, 0⟩ (found network.httpURL (.obj fields)) ∧
      (inlineRemoteImages network decode body).1.value decode body =
        some (Json.applyEdits (.obj fields)
          (edits network ⟨0, 0⟩ (found network.httpURL (.obj fields)))) := by
  let occurrences := found network.httpURL (.obj fields)
  let made := requestsFor network ⟨0, 0⟩ occurrences
  have walked := walk_found network (.obj fields) [] ⟨0, false, []⟩
  have spent : (Progress.mk 0 false []).spent = ⟨0, 0⟩ := rfl
  rw [editedAt, Progress.through, spent] at walked
  have same : made.map (Request.under []) = made := by
    have identity : Request.under [] = id := rfl
    rw [identity, List.map_id]
  rw [inlineRemoteImages, if_pos mentioned, read]
  simp only [walked]
  constructor
  · exact same
  · by_cases changed : made.any (fun request => request.image.isSome) = true
    · have marked : (Progress.add ⟨0, false, []⟩ [] made).changed = true := by
        rw [Progress.add, changed]
        rfl
      rw [if_pos marked]
      rfl
    · have none_ : edits network ⟨0, 0⟩ occurrences = [] := by
        rw [edits, List.filterMap_eq_nil_iff]
        intro request member
        cases image : request.image with
        | none => rw [Request.edit, image]; rfl
        | some image =>
            have some_ : request.image.isSome = true := by rw [image]; rfl
            exact absurd (List.any_eq_true.mpr ⟨request, member, some_⟩) changed
      have unmarked : ¬(Progress.add ⟨0, false, []⟩ [] made).changed = true := by
        rw [Progress.add]
        simpa using changed
      rw [if_neg unmarked, none_]
      exact read

theorem requests_for_blocks (spent : Spent) (occurrences : List Found) (request : Request)
    (member : request ∈ requestsFor network spent occurrences) :
    ⟨request.path, request.block⟩ ∈ occurrences ∧ request.url = remoteImageURL request.block ∧
      ∀ image, request.image = some image →
        ∃ count, fetchRemoteImage (network.download count request.url) = some image := by
  induction occurrences generalizing spent with
  | nil => simp [requestsFor] at member
  | cons first occurrences ih =>
      rw [requestsFor] at member
      cases List.mem_cons.mp member with
      | inl here =>
          rw [here]
          refine ⟨List.mem_cons_self, rfl, ?_⟩
          intro image kept
          exact ⟨spent.count, (Option.filter_eq_some_iff.mp kept).1⟩
      | inr later =>
          obtain ⟨inside, url, image⟩ := ih _ later
          exact ⟨List.mem_cons_of_mem _ inside, url, image⟩

theorem requests_for_budget (spent : Spent) (occurrences : List Found)
    (within : spent.total ≤ maxRemoteImageTotalBytes) :
    spent.total + ((keptImages (requestsFor network spent occurrences)).map
      fun image => image.data.length).sum ≤ maxRemoteImageTotalBytes := by
  induction occurrences generalizing spent with
  | nil => simpa [requestsFor, keptImages] using within
  | cons first occurrences ih =>
      rw [requestsFor]
      cases kept : (request network spent first).image with
      | none =>
          have rest := ih (spent.after none) within
          have total : (spent.after none).total = spent.total := rfl
          rw [total] at rest
          rw [keptImages, List.filterMap_cons, kept]
          exact rest
      | some image =>
          have fits := (Option.filter_eq_some_iff.mp kept).2
          rw [decide_eq_true_eq] at fits
          have rest := ih (spent.after (some image)) fits
          have total : (spent.after (some image)).total = spent.total + image.data.length := rfl
          rw [total] at rest
          rw [keptImages, List.filterMap_cons, kept]
          simp only [List.map_cons, List.sum_cons]
          rw [← Nat.add_assoc]
          exact rest

theorem images_expand (images : List RemoteImage) :
    (images.map fun image => image.bytes.length).sum ≤
      (images.map fun image => image.data.length).sum := by
  apply List.sum_le_sum
  intro image _
  exact base64_length image.bytes

theorem fetched_media (outcome : Outcome) (image : RemoteImage)
    (fetched : fetchRemoteImage outcome = some image) : image.media ∈ imageMedia := by
  cases outcome with
  | failed => simp [fetchRemoteImage] at fetched
  | answered status data media =>
      rw [fetchRemoteImage] at fetched
      split_ifs at fetched with _ _ foreign
      rw [← Option.some.inj fetched]
      simpa using foreign

/-- A body that is not walked. -/
theorem inline_unwalked
    (unwalked : ¬(mentionsURL body = true ∧ ∃ fields, decode body = some (.obj fields))) :
    inlineRemoteImages network decode body = (.unchanged, []) := by
  rw [inlineRemoteImages]
  by_cases mentioned : mentionsURL body = true
  · rw [if_pos mentioned]
    split
    · rename_i fields read
      exact absurd ⟨mentioned, fields, read⟩ unwalked
    · rfl
  · rw [if_neg mentioned]

theorem unwalked_inlines (unwalked : inlineRemoteImages network decode body = (.unchanged, [])) :
    InlinesMessageImages network decode body := by
  constructor
  · intro root read
    rw [unwalked]
    exact read
  · intro _
    rw [unwalked]
    exact ⟨rfl, rfl⟩
  · rw [unwalked]
    simp
  · rw [unwalked]
    simp
  · rw [unwalked]
    simp
  · rw [unwalked]
    simp [keptImages]

theorem tool_call_no_image (node : JsonFields) (call : blockKind node ∈ toolCallKinds) :
    blockKind node ∉ imageKinds := by
  have apart : ∀ kind ∈ toolCallKinds, kind ∉ imageKinds := by decide
  exact apart _ call

/-- Nothing under a tool call is message content. -/
theorem outside_tool_call (root : Json) (path inner : JsonPath) (node block : JsonFields)
    (there : root.follow path = some (.obj node)) (call : blockKind node ∈ toolCallKinds)
    (found : root.follow inner = some (.obj block)) (image : blockKind block ∈ imageKinds)
    (content : MessageContent root inner) : ¬path <+: inner := by
  rintro ⟨rest, split⟩
  cases rest with
  | nil =>
      rw [List.append_nil] at split
      rw [← split, there] at found
      rw [← Json.obj.inj (Option.some.inj found)] at image
      exact tool_call_no_image node call image
  | cons step rest => exact content.2.2 path step rest split.symm node there call

theorem inlines_of_only (only : OnlyMessageImages decode body network.httpURL) :
    InlinesMessageImages network decode body := by
  by_cases walked : mentionsURL body = true ∧ ∃ fields, decode body = some (.obj fields)
  · obtain ⟨mentioned, fields, read⟩ := walked
    obtain ⟨made, value⟩ := inline_object network decode body fields mentioned read
    have blocks : ∀ request ∈ (inlineRemoteImages network decode body).2,
        RemoteBlock network.httpURL (.obj fields) request.path request.block ∧
          MessageContent (.obj fields) request.path ∧ ¬KeepsURL request.block ∧
          request.url = remoteImageURL request.block ∧
          ∀ image, request.image = some image →
            ∃ count, fetchRemoteImage (network.download count request.url) = some image := by
      intro request member
      rw [made] at member
      obtain ⟨inside, url, image⟩ := requests_for_blocks network _ _ request member
      obtain ⟨remote, reaches⟩ := (mem_found_iff _ _ _ _).mp inside
      obtain ⟨content, gone⟩ := only mentioned fields read _ _ remote reaches
      exact ⟨remote, content, gone, url, image⟩
    constructor
    · intro root same
      rw [read] at same
      rw [value, made, ← Option.some.inj same]
      rfl
    · intro unread
      rw [unread] at read
      exact absurd read (by simp)
    · intro request member
      obtain ⟨remote, content, _, url, _⟩ := blocks request member
      exact ⟨_, read, remote, url, content⟩
    · intro root path node same there call request member
      obtain ⟨remote, content, _⟩ := blocks request member
      rw [read] at same
      rw [← Option.some.inj same] at there
      exact outside_tool_call _ path request.path node request.block there call remote.there
        remote.image content
    · intro request member image kept
      obtain ⟨remote, _, gone, url, fetched⟩ := blocks request member
      obtain ⟨count, answer⟩ := fetched image kept
      refine ⟨⟨count, answer⟩, ?_⟩
      rw [url]
      exact (carries_iff network.httpURL request.block image remote.asked
        (fetched_media _ image answer)).mpr gone
    · rw [made]
      have within := requests_for_budget network ⟨0, 0⟩
        (found network.httpURL (.obj fields)) (Nat.zero_le _)
      rw [Nat.zero_add] at within
      exact (images_expand _).trans within
  · exact unwalked_inlines network decode body (inline_unwalked network decode body walked)

def tinyImage : RemoteImage := ⟨lit "GIF89a", lit "image/gif"⟩

/-- Only one of the downloads succeeds. -/
def onlyDownload (count index : Nat) (_ : GoString) : Outcome :=
  if index = count then .answered 200 tinyImage.bytes tinyImage.media else .failed

theorem only_download_kept (httpURL : GoString → Bool) (occurrences : List Found) (spent : Spent)
    (index : Nat) (target : Found) (there : occurrences[index]? = some target)
    (fits : spent.total + tinyImage.data.length ≤ maxRemoteImageTotalBytes) :
    ∃ request ∈ requestsFor ⟨httpURL, onlyDownload (spent.count + index)⟩ spent occurrences,
      request.path = target.path ∧ request.block = target.block ∧
        request.image = some tinyImage := by
  induction occurrences generalizing spent index with
  | nil => simp at there
  | cons first occurrences ih =>
      cases index with
      | zero =>
          refine ⟨_, List.mem_cons_self, ?_⟩
          rw [← Option.some.inj there]
          refine ⟨rfl, rfl, ?_⟩
          have answer : fetchRemoteImage (onlyDownload (spent.count + 0) spent.count
              (remoteImageURL first.block)) = some tinyImage := by
            rw [onlyDownload, if_pos (Nat.add_zero _).symm]
            decide
          exact Option.filter_eq_some_iff.mpr ⟨answer, by simpa using fits⟩
      | succ index =>
          have shift : spent.count + (index + 1) = spent.count + 1 + index := by omega
          have failed : (request ⟨httpURL, onlyDownload (spent.count + (index + 1))⟩ spent
              first).image = none := by
            simp [request, keptImage, onlyDownload, fetchRemoteImage]
          obtain ⟨request, member, found⟩ := ih (spent.after none) index there fits
          refine ⟨request, ?_, found⟩
          rw [requestsFor, failed, shift]
          exact List.mem_cons_of_mem _ member

theorem only_of_inlines (httpURL : GoString → Bool)
    (inlines : ∀ download, InlinesMessageImages ⟨httpURL, download⟩ decode body) :
    OnlyMessageImages decode body httpURL := by
  intro mentioned fields read path node remote reaches
  have inside := (mem_found_iff httpURL _ path node).mpr ⟨remote, reaches⟩
  obtain ⟨index, there⟩ := List.mem_iff_getElem?.mp inside
  obtain ⟨request, member, samePath, sameBlock, kept⟩ :=
    only_download_kept httpURL _ ⟨0, 0⟩ index _ there (by decide)
  have holds := inlines (onlyDownload (0 + index))
  rw [← (inline_object ⟨httpURL, onlyDownload (0 + index)⟩ decode body fields mentioned
    read).1] at member
  obtain ⟨root, same, _, url, content⟩ := holds.messages request member
  rw [read] at same
  rw [samePath, ← Option.some.inj same] at content
  refine ⟨content, ?_⟩
  have carries := (holds.carried request member tinyImage kept).2
  rw [url, sameBlock] at carries
  exact (carries_iff httpURL node tinyImage remote.asked (by decide)).mp carries

/-- Only message images are fetched and changed, whatever the downloads come to, exactly when
the walk reaches no remote image inside another tool call than `tool_use` and `function`, and no
block that has its URL in a second place. -/
theorem only_message_images_iff (httpURL : GoString → Bool) :
    (∀ download, InlinesMessageImages ⟨httpURL, download⟩ decode body) ↔
      OnlyMessageImages decode body httpURL := by
  constructor
  · exact only_of_inlines decode body httpURL
  · exact fun only download => inlines_of_only ⟨httpURL, download⟩ decode body only

def toolImage : JsonFields :=
  [(lit "type", .str (lit "image")), (lit "url", .str (lit "http://1.1.1.1/a.png"))]

def toolCall : JsonFields :=
  [(lit "type", .str (lit "server_tool_use")), (lit "input", .obj toolImage)]

def toolMessage : JsonFields := [(lit "content", .arr [.obj toolCall])]

def toolRequest : JsonFields := [(lit "messages", .arr [.obj toolMessage])]

def toolText : GoString :=
  lit "\x7b\"messages\":[\x7b\"content\":[\x7b\"type\":\"server_tool_use\",\"input\":\x7b" ++
    lit "\"type\":\"image\",\"url\":\"http://1.1.1.1/a.png\"\x7d\x7d]\x7d]\x7d"

/-- The input of a server tool call is fetched and rewritten. -/
theorem server_tool_input_rewritten :
    ¬∀ download, InlinesMessageImages ⟨fun url => (lit "http://").isPrefixOf url, download⟩
      (fun text => if text = toolText then some (.obj toolRequest) else none) toolText := by
  intro inlines
  have only := only_of_inlines _ toolText _ inlines
  have outside : ∀ (items : List Json) (node : JsonFields), Json.arr items = .obj node →
      blockKind node ∉ stopKinds := by
    intro items node same
    exact absurd same (by simp)
  have plain : ∀ node other : JsonFields, blockKind node ∉ stopKinds →
      Json.obj node = .obj other → blockKind other ∉ stopKinds := by
    intro node other kind same
    rwa [← Json.obj.inj same]
  have input : Reaches stopKinds (.obj toolCall) [.key (lit "input")] :=
    (reaches_cons _ _ (.obj toolImage) _ _ rfl).mpr
      ⟨(by decide : lit "input" ∈ walkedKeys), fun other => plain toolCall other (by decide),
        reaches_nil _ _⟩
  have message : Reaches stopKinds (.obj toolMessage)
      [.key (lit "content"), .index 0, .key (lit "input")] :=
    (reaches_cons _ _ (.arr [.obj toolCall]) _ _ rfl).mpr
      ⟨(by decide : lit "content" ∈ walkedKeys), fun other => plain toolMessage other (by decide),
        (reaches_cons _ _ (.obj toolCall) _ _ rfl).mpr ⟨trivial, outside _, input⟩⟩
  have reaches : Reaches stopKinds (.obj toolRequest)
      [.key (lit "messages"), .index 0, .key (lit "content"), .index 0, .key (lit "input")] :=
    (reaches_cons _ _ (.arr [.obj toolMessage]) _ _ rfl).mpr
      ⟨(by decide : lit "messages" ∈ walkedKeys), fun other => plain toolRequest other (by decide),
        (reaches_cons _ _ (.obj toolMessage) _ _ rfl).mpr ⟨trivial, outside _, message⟩⟩
  have content := (only (by decide +kernel) toolRequest (if_pos rfl) _ toolImage
    ⟨rfl, by decide, by decide⟩ reaches).1
  exact content.2.2 [.key (lit "messages"), .index 0, .key (lit "content"), .index 0]
    (.key (lit "input")) [] rfl toolCall rfl (by decide)

end Inlining

end KiroProxy.RemoteImages
