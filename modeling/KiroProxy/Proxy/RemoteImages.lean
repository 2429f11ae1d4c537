import KiroProxy.JsonPaths
import KiroProxy.Proxy.InlineMedia

/-!
# Remote images

`inlineRemoteImages` of `proxy/remote_images.go` walks the JSON of a request, downloads the images
it meets by URL and writes their bytes into the blocks. What the network answers is given, and so
are `net/url` and the JSON text.
-/

namespace KiroProxy.RemoteImages

open GoStrings InlineMedia Responses

set_option autoImplicit false

def maxRemoteImageBytes : Nat := 10 * 2 ^ 20

def maxRemoteImageTotalBytes : Nat := 24 * 2 ^ 20

/-- `media` is what `http.DetectContentType` makes of the data. -/
inductive Outcome where
  | failed
  | answered (status : Nat) (data media : GoString)

structure RemoteImage where
  bytes : GoString
  media : GoString
  deriving DecidableEq

namespace RemoteImage

def data (image : RemoteImage) : GoString := base64Encode image.bytes

def dataURL (image : RemoteImage) : GoString :=
  lit "data:" ++ image.media ++ lit ";base64," ++ image.data

end RemoteImage

def imageMedia : List GoString :=
  [lit "image/png", lit "image/jpeg", lit "image/gif", lit "image/webp"]

def fetchRemoteImage : Outcome → Option RemoteImage
  | .failed => none
  | .answered status data media =>
      if status ≠ 200 then none
      else if maxRemoteImageBytes < data.length then none
      else if media ∉ imageMedia then none
      else some ⟨data, media⟩

section Blocks

def blockKind (node : JsonFields) : GoString := firstString [node.get (lit "type")]

def imageKinds : List GoString := [lit "image", lit "image_url", lit "input_image"]

/-- Tool calls and tool definitions are not message content. -/
def skippedKinds : List GoString := [lit "tool_use", lit "function"]

def remoteImageURL (node : JsonFields) : GoString :=
  match node.get (lit "source") with
  | some (.obj source) =>
      if firstString [JsonFields.get source (lit "type")] = lit "url" then
        trimSpace (firstString [JsonFields.get source (lit "url")])
      else []
  | _ =>
      match node.get (lit "image_url") with
      | some (.obj image) => trimSpace (firstString [JsonFields.get image (lit "url")])
      | _ => trimSpace (firstString [node.get (lit "image_url"), node.get (lit "url")])

def base64Source (image : RemoteImage) : Json :=
  .obj [(lit "type", .str (lit "base64")), (lit "media_type", .str image.media),
    (lit "data", .str image.data)]

/-- The block with the image in it. -/
def carryImage (node : JsonFields) (image : RemoteImage) : JsonFields :=
  let written :=
    if blockKind node = lit "image" then node.set (lit "source") (base64Source image)
    else
      match node.get (lit "image_url") with
      | some (.obj nested) =>
          node.set (lit "image_url") (.obj (JsonFields.set nested (lit "url") (.str image.dataURL)))
      | _ => node.set (lit "image_url") (.str image.dataURL)
  written.delete (lit "url")

end Blocks

/-- What requests depend on besides the body: which URLs are public HTTP or HTTPS ones without
credentials, and what each download comes to. -/
structure Network where
  httpURL : GoString → Bool
  download : Nat → GoString → Outcome

/-- One download: where its block stands, and the image if it is kept. -/
structure Request where
  path : JsonPath
  block : JsonFields
  url : GoString
  image : Option RemoteImage

structure Progress where
  total : Nat
  changed : Bool
  requests : List Request

/-- Whether a block has a URL that is asked for. -/
def asks (httpURL : GoString → Bool) (node : JsonFields) : Bool :=
  let raw := remoteImageURL node
  !(raw == [] || (lit "data:").isPrefixOf raw) && httpURL raw

variable (network : Network)

/-- The image of the next download, unless it exceeds what the request has left. -/
def keptImage (total count : Nat) (url : GoString) : Option RemoteImage :=
  (fetchRemoteImage (network.download count url)).filter fun image =>
    total + image.data.length ≤ maxRemoteImageTotalBytes

def inlineBlock (path : JsonPath) (node : JsonFields) (progress : Progress) : Json × Progress :=
  if asks network.httpURL node then
    let url := remoteImageURL node
    match keptImage network progress.total progress.requests.length url with
    | none =>
        (.obj node,
          { progress with requests := progress.requests ++ [⟨path, node, url, none⟩] })
    | some image =>
        (.obj (carryImage node image),
          { total := progress.total + image.data.length
            changed := true
            requests := progress.requests ++ [⟨path, node, url, some image⟩] })
  else (.obj node, progress)

def put (node : JsonFields) (key : GoString) : Option Json → JsonFields
  | some value => node.set key value
  | none => node

mutual

def walk (path : JsonPath) : Json → Progress → Json × Progress
  | .arr items, progress =>
      let walked := walkItems path 0 items progress
      (.arr walked.1, walked.2)
  | .obj node, progress =>
      if blockKind node ∈ imageKinds then inlineBlock network path node progress
      else if blockKind node ∈ skippedKinds then (.obj node, progress)
      else
        let messages := walkField path (lit "messages") node progress
        let input := walkField path (lit "input") node messages.2
        let content := walkField path (lit "content") node input.2
        let system := walkField path (lit "system") node content.2
        (.obj (put (put (put (put node (lit "messages") messages.1) (lit "input") input.1)
          (lit "content") content.1) (lit "system") system.1), system.2)
  | value, progress => (value, progress)

def walkItems (path : JsonPath) (position : Nat) : List Json → Progress → List Json × Progress
  | [], progress => ([], progress)
  | item :: items, progress =>
      let first := walk (path ++ [.index position]) item progress
      let rest := walkItems path (position + 1) items first.2
      (first.1 :: rest.1, rest.2)

/-- The value under a key, walked. -/
def walkField (path : JsonPath) (key : GoString) :
    List (GoString × Json) → Progress → Option Json × Progress
  | [], progress => (none, progress)
  | (name, value) :: fields, progress =>
      if name = key then
        let walked := walk (path ++ [.key key]) value progress
        (some walked.1, walked.2)
      else walkField path key fields progress

end

/-- What is passed on: the body as it came, or the JSON text of a value. -/
inductive Passed where
  | unchanged
  | marshalled (value : Json)

def mentionsURL (body : GoString) : Bool :=
  contains body (lit "\"url\"") || contains body (lit "\"image_url\"")

/-- `decode` reads one value and nothing behind it. -/
def inlineRemoteImages (decode : GoString → Option Json) (body : GoString) :
    Passed × List Request :=
  if mentionsURL body then
    match decode body with
    | some (.obj root) =>
        let walked := walk network [] (.obj root) ⟨0, false, []⟩
        (if walked.2.changed then .marshalled walked.1 else .unchanged, walked.2.requests)
    | _ => (.unchanged, [])
  else (.unchanged, [])

section Walking

/-- An image block that is asked for, and where it stands. -/
structure Found where
  path : JsonPath
  block : JsonFields

def Found.under (step : JsonStep) (found : Found) : Found :=
  { found with path := step :: found.path }

variable (httpURL : GoString → Bool)

mutual

/-- The blocks that are asked for, in the order of the walk. -/
def found : Json → List Found
  | .arr items => foundItems 0 items
  | .obj node =>
      if blockKind node ∈ imageKinds then
        if asks httpURL node then [⟨[], node⟩] else []
      else if blockKind node ∈ skippedKinds then []
      else foundField (lit "messages") node ++ foundField (lit "input") node ++
        foundField (lit "content") node ++ foundField (lit "system") node
  | _ => []

def foundItems (position : Nat) : List Json → List Found
  | [] => []
  | item :: items =>
      (found item).map (Found.under (.index position)) ++ foundItems (position + 1) items

def foundField (key : GoString) : List (GoString × Json) → List Found
  | [] => []
  | (name, value) :: fields =>
      if name = key then (found value).map (Found.under (.key key)) else foundField key fields

end

/-- What downloads are decided by: the size of the images so far, and how many were asked for. -/
structure Spent where
  total : Nat
  count : Nat

def Spent.after (spent : Spent) (image : Option RemoteImage) : Spent where
  total := spent.total + (image.map fun image => image.data.length).getD 0
  count := spent.count + 1

def request (spent : Spent) (found : Found) : Request where
  path := found.path
  block := found.block
  url := remoteImageURL found.block
  image := keptImage network spent.total spent.count (remoteImageURL found.block)

def requestsFor (spent : Spent) : List Found → List Request
  | [] => []
  | found :: rest =>
      let first := request network spent found
      first :: requestsFor (spent.after first.image) rest

/-- The block is replaced if its image is kept. -/
def Request.edit (request : Request) : Option Edit :=
  request.image.map fun image => ⟨request.path, .obj (carryImage request.block image)⟩

def Request.under (path : JsonPath) (request : Request) : Request :=
  { request with path := path ++ request.path }

def Progress.spent (progress : Progress) : Spent := ⟨progress.total, progress.requests.length⟩

def Progress.add (progress : Progress) (path : JsonPath) (made : List Request) : Progress where
  total := progress.total + (made.map fun request =>
    (request.image.map fun image => image.data.length).getD 0).sum
  changed := progress.changed || made.any fun request => request.image.isSome
  requests := progress.requests ++ made.map (Request.under path)

theorem progress_add_nil (progress : Progress) (path : JsonPath) :
    progress.add path [] = progress := by
  simp [Progress.add]

theorem progress_add_append (progress : Progress) (path : JsonPath) (first second : List Request) :
    progress.add path (first ++ second) = (progress.add path first).add path second := by
  simp [Progress.add, Nat.add_assoc, Bool.or_assoc]

theorem progress_add_under (progress : Progress) (path : JsonPath) (step : JsonStep)
    (made : List Request) :
    progress.add (path ++ [step]) made = progress.add path (made.map (Request.under [step])) := by
  simp [Progress.add, Request.under, Function.comp_def]

theorem requests_for_append (spent : Spent) (first second : List Found) :
    requestsFor network spent (first ++ second) = requestsFor network spent first ++
      requestsFor network
        ((requestsFor network spent first).foldl (fun spent made => spent.after made.image) spent)
        second := by
  induction first generalizing spent with
  | nil => rfl
  | cons found first ih => rw [List.cons_append, requestsFor, requestsFor, ih, List.foldl_cons]; rfl

theorem requests_for_under (spent : Spent) (step : JsonStep) (occurrences : List Found) :
    requestsFor network spent (occurrences.map (Found.under step)) =
      (requestsFor network spent occurrences).map (Request.under [step]) := by
  induction occurrences generalizing spent with
  | nil => rfl
  | cons found occurrences ih =>
      rw [List.map_cons, requestsFor, requestsFor, List.map_cons]
      have same : request network spent (found.under step) =
          (request network spent found).under [step] := rfl
      rw [same]
      exact congrArg _ (ih _)

theorem spent_add (progress : Progress) (path : JsonPath) (made : List Request) :
    (progress.add path made).spent =
      made.foldl (fun spent made => spent.after made.image) progress.spent := by
  induction made generalizing progress with
  | nil => rw [progress_add_nil]; rfl
  | cons request made ih =>
      have first : (progress.add path [request]).spent = progress.spent.after request.image := by
        simp [Progress.add, Progress.spent, Spent.after]
      have step := progress_add_append progress path [request] made
      rw [List.singleton_append] at step
      rw [step, ih, first, List.foldl_cons]

/-- The progress of a walk over the blocks. -/
def Progress.through (progress : Progress) (path : JsonPath) (occurrences : List Found) :
    Progress :=
  progress.add path (requestsFor network progress.spent occurrences)

def edits (spent : Spent) (occurrences : List Found) : List Edit :=
  (requestsFor network spent occurrences).filterMap Request.edit

theorem through_append (progress : Progress) (path : JsonPath) (first second : List Found) :
    progress.through network path (first ++ second) =
      (progress.through network path first).through network path second := by
  rw [Progress.through, requests_for_append, progress_add_append, Progress.through,
    Progress.through, spent_add]

theorem edits_append (progress : Progress) (path : JsonPath) (first second : List Found) :
    edits network progress.spent (first ++ second) = edits network progress.spent first ++
      edits network (progress.through network path first).spent second := by
  rw [edits, requests_for_append, List.filterMap_append, Progress.through, spent_add]
  rfl

theorem through_under (progress : Progress) (path : JsonPath) (step : JsonStep)
    (occurrences : List Found) :
    progress.through network path (occurrences.map (Found.under step)) =
      progress.through network (path ++ [step]) occurrences := by
  rw [Progress.through, requests_for_under, Progress.through, progress_add_under]

theorem edits_under (spent : Spent) (step : JsonStep) (occurrences : List Found) :
    edits network spent (occurrences.map (Found.under step)) =
      (edits network spent occurrences).map (Edit.under step) := by
  rw [edits, requests_for_under, edits, List.filterMap_map, List.map_filterMap]
  congr 1
  funext request
  cases image : request.image <;> simp [Request.edit, Request.under, Edit.under, image]

theorem found_field_get (key : GoString) (fields : JsonFields) :
    foundField httpURL key fields =
      ((fields.get key).map fun value =>
        (found httpURL value).map (Found.under (.key key))).getD [] := by
  induction fields with
  | nil => rfl
  | cons field fields ih =>
      obtain ⟨name, value⟩ := field
      rw [foundField, JsonFields.get, List.lookup_cons]
      by_cases same : name = key
      · rw [if_pos same, same, beq_self_eq_true]
        rfl
      · have apart : (key == name) = false := by simpa using Ne.symm same
        rw [if_neg same, apart, ih]
        rfl

/-- A value that is walked is edited at the blocks found in it. -/
def editedAt (progress : Progress) (value : Json) : Json :=
  value.applyEdits (edits network progress.spent (found network.httpURL value))

theorem edit_field (node current : JsonFields) (key : GoString) (progress : Progress)
    (kept : current.get key = node.get key) :
    Json.applyEdits (.obj current)
        (edits network progress.spent (foundField network.httpURL key node)) =
      .obj (put current key ((node.get key).map (editedAt network progress))) := by
  rw [found_field_get]
  cases child : node.get key with
  | none => rfl
  | some value =>
      rw [child] at kept
      rw [Option.map_some, Option.getD_some, edits_under,
        apply_under (.obj current) value (.key key) _ kept]
      rfl

theorem put_other (node : JsonFields) (key other : GoString) (value : Option Json)
    (apart : other ≠ key) : (put node key value).get other = node.get other := by
  cases value with
  | none => rfl
  | some value => exact JsonFields.get_set_other node key other value apart

/-- The four keys of an object, one after another. -/
theorem edit_fields (node : JsonFields) (path : JsonPath) (progress : Progress) :
    let messages := foundField network.httpURL (lit "messages") node
    let input := foundField network.httpURL (lit "input") node
    let content := foundField network.httpURL (lit "content") node
    let system := foundField network.httpURL (lit "system") node
    let second := progress.through network path messages
    let third := second.through network path input
    let fourth := third.through network path content
    Json.applyEdits (.obj node)
        (edits network progress.spent (messages ++ input ++ content ++ system)) =
      .obj (put (put (put (put node
        (lit "messages") ((node.get (lit "messages")).map (editedAt network progress)))
        (lit "input") ((node.get (lit "input")).map (editedAt network second)))
        (lit "content") ((node.get (lit "content")).map (editedAt network third)))
        (lit "system") ((node.get (lit "system")).map (editedAt network fourth))) := by
  intro messages input content system second third fourth
  have inputApart : lit "input" ≠ lit "messages" := by decide
  have contentApart : lit "content" ≠ lit "messages" ∧ lit "content" ≠ lit "input" := by decide
  have systemApart : lit "system" ≠ lit "messages" ∧ lit "system" ≠ lit "input" ∧
      lit "system" ≠ lit "content" := by decide
  rw [edits_append network progress path, edits_append network progress path,
    edits_append network progress path, through_append, through_append, through_append,
    apply_append, apply_append, apply_append,
    edit_field network node node (lit "messages") progress rfl]
  rw [edit_field network node _ (lit "input") second (put_other _ _ _ _ inputApart)]
  rw [edit_field network node _ (lit "content") third (by
    rw [put_other _ _ _ _ contentApart.2, put_other _ _ _ _ contentApart.1])]
  rw [edit_field network node _ (lit "system") fourth (by
    rw [put_other _ _ _ _ systemApart.2.2, put_other _ _ _ _ systemApart.2.1,
      put_other _ _ _ _ systemApart.1])]

theorem edit_block (node : JsonFields) (path : JsonPath) (progress : Progress)
    (asked : asks network.httpURL node = true) :
    inlineBlock network path node progress =
      (Json.applyEdits (.obj node) (edits network progress.spent [⟨[], node⟩]),
        progress.through network path [⟨[], node⟩]) := by
  rw [inlineBlock, if_pos asked]
  cases kept : keptImage network progress.total progress.requests.length (remoteImageURL node) with
  | none =>
      simp [edits, requestsFor, request, Progress.spent, Progress.through, Progress.add, kept,
        List.filterMap_cons, Request.edit, Request.under, Json.applyEdits]
  | some image =>
      simp [edits, requestsFor, request, Progress.spent, Progress.through, Progress.add, kept,
        Request.edit, Request.under, Json.applyEdits, Json.applyEdit, Json.replace]

mutual

theorem walk_found : ∀ (value : Json) (path : JsonPath) (progress : Progress),
    walk network path value progress =
      (editedAt network progress value, progress.through network path (found network.httpURL value))
  | .arr items, path, progress => by
      have walked := walk_items_found items [] path progress
      rw [walk, editedAt, found]
      rw [List.length_nil, List.nil_append, List.nil_append] at walked
      rw [walked.1, walked.2]
  | .obj node, path, progress => by
      rw [walk, editedAt, found]
      by_cases image : blockKind node ∈ imageKinds
      · rw [if_pos image, if_pos image]
        by_cases asked : asks network.httpURL node = true
        · rw [if_pos asked, edit_block network node path progress asked]
        · rw [inlineBlock, if_neg asked, if_neg asked, Progress.through, requestsFor,
            progress_add_nil]
          rfl
      · rw [if_neg image, if_neg image]
        by_cases skipped : blockKind node ∈ skippedKinds
        · rw [if_pos skipped, if_pos skipped, Progress.through, requestsFor, progress_add_nil]
          rfl
        · rw [if_neg skipped, if_neg skipped, edit_fields network node path progress,
            through_append, through_append, through_append]
          simp only [walk_field_found node]
  | .null, path, progress => by
      rw [walk, editedAt, found, Progress.through, requestsFor, progress_add_nil]
      all_goals simp [edits, requestsFor, Json.applyEdits]
  | .bool _, path, progress => by
      rw [walk, editedAt, found, Progress.through, requestsFor, progress_add_nil]
      all_goals simp [edits, requestsFor, Json.applyEdits]
  | .num _, path, progress => by
      rw [walk, editedAt, found, Progress.through, requestsFor, progress_add_nil]
      all_goals simp [edits, requestsFor, Json.applyEdits]
  | .str _, path, progress => by
      rw [walk, editedAt, found, Progress.through, requestsFor, progress_add_nil]
      all_goals simp [edits, requestsFor, Json.applyEdits]

theorem walk_items_found : ∀ (items done : List Json) (path : JsonPath) (progress : Progress),
    (walkItems network path done.length items progress).2 =
        progress.through network path (foundItems network.httpURL done.length items) ∧
      Json.applyEdits (.arr (done ++ items))
          (edits network progress.spent (foundItems network.httpURL done.length items)) =
        .arr (done ++ (walkItems network path done.length items progress).1)
  | [], done, path, progress => by
      rw [walkItems, foundItems, Progress.through, requestsFor, progress_add_nil]
      exact ⟨rfl, rfl⟩
  | item :: items, done, path, progress => by
      have first := walk_found item (path ++ [.index done.length]) progress
      have there : (Json.arr (done ++ item :: items)).child (.index done.length) =
          some item := by
        simp [Json.child]
      let new := editedAt network progress item
      let after := progress.through network (path ++ [.index done.length])
        (found network.httpURL item)
      have rest := walk_items_found items (done ++ [new]) path after
      rw [List.length_append, List.length_singleton, List.append_assoc, List.append_assoc,
        List.singleton_append, List.singleton_append] at rest
      rw [walkItems, foundItems, first]
      constructor
      · rw [rest.1, through_append, through_under]
      · rw [edits_append network progress path, through_under, apply_append, edits_under,
          apply_under _ item _ _ there]
        have placed : Json.setChild (.arr (done ++ item :: items)) (.index done.length) new =
            .arr (done ++ new :: items) := by
          simp [Json.setChild]
        exact (congrArg (Json.applyEdits · _) placed).trans rest.2

theorem walk_field_found : ∀ (fields : List (GoString × Json)) (key : GoString)
    (path : JsonPath) (progress : Progress),
    walkField network path key fields progress =
      ((JsonFields.get fields key).map (editedAt network progress),
        progress.through network path (foundField network.httpURL key fields))
  | [], key, path, progress => by
      rw [walkField, foundField, Progress.through, requestsFor, progress_add_nil]
      rfl
  | (name, value) :: fields, key, path, progress => by
      rw [walkField, foundField, JsonFields.get, List.lookup_cons]
      by_cases same : name = key
      · rw [if_pos same, if_pos same, same, beq_self_eq_true, through_under]
        simp only [walk_found value]
        rfl
      · have apart : (key == name) = false := by simpa using Ne.symm same
        rw [if_neg same, if_neg same, apart, walk_field_found fields key path progress]
        rfl

end

end Walking

end KiroProxy.RemoteImages
