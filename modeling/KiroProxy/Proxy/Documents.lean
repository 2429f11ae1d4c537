import KiroProxy.Decimals
import KiroProxy.Proxy.InlineMedia

/-!
# Documents

The documents of a message, as `proxy/documents.go` collects them from content blocks. Their names
are cleaned, and a name that comes again gets a number.
-/

namespace KiroProxy.Documents

open Decimals Foundation.Searching GoStrings InlineMedia KiroTypes Responses

set_option autoImplicit false

section Names

/-- ASCII letters and digits, hyphens, parentheses and brackets. -/
def documentNameByte (byte : UInt8) : Bool := letterOrDigit byte || (lit "-()[]").contains byte

/-- Every other byte counts as a space, also of a rune of several bytes: spaces that meet are
one. -/
def kiroDocumentName (name : GoString) : GoString :=
  let fields := fieldsFunc (fun byte => !documentNameByte byte) name
  let cleaned := List.intercalate (lit " ") fields
  let cleaned := if 100 < cleaned.length then trimSpace (cleaned.take 100) else cleaned
  if cleaned = [] then lit "document" else cleaned

/-- A later copy of a name. -/
def numberedName (base : GoString) (number : Nat) : GoString :=
  base ++ lit " (" ++ decimal number ++ lit ")"

/-- The name of the document with this base, the given number of times after itself. -/
def copyName (base : GoString) (number : Nat) : GoString :=
  if 1 < number then numberedName base number else base

/-- The loop over the documents, with the bases that were seen. -/
def numberDocuments (seen : List GoString) : List KiroDocument → List KiroDocument
  | [] => []
  | document :: documents =>
      { document with name := copyName document.name (seen.count document.name + 1) } ::
        numberDocuments (document.name :: seen) documents

end Names

section Blocks

variable (letters : Letters)

def documentFormatsByMediaType : List (GoString × GoString) :=
  [(lit "application/pdf", lit "pdf"), (lit "text/csv", lit "csv"), (lit "text/html", lit "html"),
    (lit "text/markdown", lit "md"), (lit "text/plain", lit "txt"),
    (lit "application/msword", lit "doc"),
    (lit "application/vnd.openxmlformats-officedocument.wordprocessingml.document", lit "docx"),
    (lit "application/vnd.ms-excel", lit "xls"),
    (lit "application/vnd.openxmlformats-officedocument.spreadsheetml.sheet", lit "xlsx")]

/-- `path.Ext` without its dot. -/
def extension (name : GoString) : GoString :=
  let last := name.reverse.takeWhile fun byte => byte != 0x2F
  if last.contains 0x2E then (last.takeWhile fun byte => byte != 0x2E).reverse else []

def documentFormat (media name : GoString) : Option GoString :=
  match documentFormatsByMediaType.lookup (letters.toLower (trimSpace media)) with
  | some format => some format
  | none => (documentFormatsByMediaType.map Prod.snd).find? (· = letters.toLower (extension name))

/-- The media type and the data of a source; none where its type is not known. -/
def sourceData (block : JsonFields) : Option (GoString × GoString) :=
  match block.get (lit "source") with
  | some (.obj source) =>
      let type := firstString [JsonFields.get source (lit "type")]
      let data := firstString [JsonFields.get source (lit "data")]
      if type = lit "base64" then
        some (firstString [JsonFields.get source (lit "media_type")], data)
      else if type = lit "text" then some (lit "text/plain", base64Encode data)
      else none
  | _ => some ([], [])

def fileField (block : JsonFields) (key : GoString) : GoString :=
  match block.get (lit "file") with
  | some (.obj file) => firstString [JsonFields.get file key]
  | _ => []

/-- The media type and the data of a data URL; other data keeps the type it has. -/
def dataOfURL (media data : GoString) : Option (GoString × GoString) :=
  if (lit "data:").isPrefixOf data then
    let rest := data.drop 5
    let header := rest.takeWhile fun byte => byte != 0x2C
    if rest.contains 0x2C && (lit ";base64").isSuffixOf header then
      some (header.takeWhile (fun byte => byte != 0x3B), rest.drop (header.length + 1))
    else none
  else some (media, data)

def firstPresent (values : List GoString) : GoString := (values.find? (· ≠ [])).getD []

def kiroDocumentFromBlock (block : JsonFields) : Option KiroDocument := do
  let name := firstPresent
    [firstString [block.get (lit "title"), block.get (lit "filename"), block.get (lit "name")],
      fileField block (lit "filename")]
  let source ← sourceData block
  let data := firstPresent
    [source.2, fileField block (lit "file_data"), firstString [block.get (lit "file_data")]]
  let (media, data) ← dataOfURL source.1 data
  if data = [] || !decodesPadded stdExtra data then none
  else
    let format ← documentFormat letters media name
    some ⟨format, kiroDocumentName name, data⟩

def documentTypes : List GoString := [lit "document", lit "file", lit "input_file"]

mutual

def collectDocuments : Json → List KiroDocument
  | .arr blocks => documentsOfBlocks blocks
  | _ => []

def documentsOfBlocks : List Json → List KiroDocument
  | [] => []
  | block :: blocks => documentsOfBlock block ++ documentsOfBlocks blocks

/-- The results of tools are searched as well; images are not documents. -/
def documentsOfBlock : Json → List KiroDocument
  | .obj block =>
      let kind := stringField block (lit "type")
      if kind = lit "tool_result" then documentsOfContent block
      else if kind ∈ documentTypes then
        if (extractImageFromOpenAIPart letters (.obj block)).isSome then []
        else (kiroDocumentFromBlock letters block).toList
      else []
  | _ => []

def documentsOfContent : List (GoString × Json) → List KiroDocument
  | [] => []
  | (key, value) :: fields =>
      if key = lit "content" then collectDocuments value else documentsOfContent fields

end

def extractDocuments (content : Json) : List KiroDocument :=
  numberDocuments [] (collectDocuments letters content)

end Blocks

section Copies

/-- The bases with how often each came up to there. -/
def occurrences (seen : List GoString) : List GoString → List (GoString × Nat)
  | [] => []
  | base :: bases => (base, seen.count base + 1) :: occurrences (base :: seen) bases

theorem occurrences_mem (seen bases : List GoString) (base : GoString) (number : Nat) :
    (base, number) ∈ occurrences seen bases ↔
      seen.count base < number ∧ number ≤ seen.count base + bases.count base := by
  induction bases generalizing seen with
  | nil => simp [occurrences]
  | cons first bases ih =>
      rw [occurrences, List.mem_cons, ih, Prod.mk.injEq]
      by_cases same : base = first
      · rw [same, List.count_cons_self, List.count_cons_self]
        constructor
        · rintro (⟨-, here⟩ | later) <;> omega
        · intro range
          by_cases here : number = seen.count first + 1
          · exact .inl ⟨rfl, here⟩
          · right
            omega
      · have other : first ≠ base := fun equal => same equal.symm
        rw [List.count_cons_of_ne other, List.count_cons_of_ne other]
        constructor
        · rintro (⟨equal, -⟩ | later)
          · exact absurd equal same
          · exact later
        · exact .inr

theorem occurrences_nodup (seen bases : List GoString) : (occurrences seen bases).Nodup := by
  induction bases generalizing seen with
  | nil => exact List.nodup_nil
  | cons base bases ih =>
      rw [occurrences, List.nodup_cons]
      refine ⟨?_, ih (base :: seen)⟩
      rw [occurrences_mem, List.count_cons_self]
      rintro ⟨later, -⟩
      exact Nat.lt_irrefl _ later

theorem numbered_names (seen : List GoString) (documents : List KiroDocument) :
    (numberDocuments seen documents).map KiroDocument.name =
      (occurrences seen (documents.map KiroDocument.name)).map fun entry =>
        copyName entry.1 entry.2 := by
  induction documents generalizing seen with
  | nil => rfl
  | cons document documents ih =>
      rw [numberDocuments, List.map_cons, List.map_cons, occurrences, List.map_cons, ih]

/-- A numbered name is read back: the number stands behind the last parenthesis. -/
theorem numbered_name_injective (base other : GoString) (number count : Nat)
    (same : numberedName base number = numberedName other count) :
    base = other ∧ number = count := by
  have opens : lit " (" = [0x20] ++ [0x28] := by decide
  have solid : ∀ number, (0x28 : UInt8) ∉ decimal number := by
    intro number member
    exact absurd (decimal_digits number 0x28 member) (by decide)
  unfold numberedName at same
  have inner := List.append_cancel_right same
  rw [opens, ← List.append_assoc, ← List.append_assoc, List.append_assoc (base ++ [0x20]),
    List.append_assoc (other ++ [0x20])] at inner
  obtain ⟨bases, numbers⟩ := last_separator_unique 0x28 (solid number) (solid count) inner
  exact ⟨List.append_cancel_right bases, decimal_injective number count numbers⟩

theorem numbered_name_longer (base : GoString) (number : Nat) : numberedName base number ≠ base := by
  intro same
  have length := congrArg List.length same
  have opens : (lit " (").length = 2 := by decide
  unfold numberedName at length
  rw [List.length_append, List.length_append, List.length_append, opens] at length
  omega

/-- A base that comes so often that one of its copies is called as another base. -/
def CopyClash (bases : List GoString) : Prop :=
  ∃ base number, 1 < number ∧ number ≤ bases.count base ∧ numberedName base number ∈ bases

/-- Without a clash no two documents get one name. -/
theorem copy_names_injective (bases : List GoString) (apart : ¬CopyClash bases) :
    ∀ first ∈ occurrences [] bases, ∀ second ∈ occurrences [] bases,
      copyName first.1 first.2 = copyName second.1 second.2 → first = second := by
  rintro ⟨base, number⟩ held ⟨other, count⟩ among same
  rw [occurrences_mem, List.count_nil, Nat.zero_add] at held among
  have present : ∀ name, 0 < bases.count name → name ∈ bases := fun name =>
    List.count_pos_iff.mp
  unfold copyName at same
  simp only at same
  split_ifs at same with copied again again
  · obtain ⟨bases, numbers⟩ := numbered_name_injective _ _ _ _ same
    rw [bases, numbers]
  · exact absurd ⟨base, number, copied, held.2, same ▸ present other (by omega)⟩ apart
  · exact absurd ⟨other, count, again, among.2, same ▸ present base (by omega)⟩ apart
  · have one : number = 1 ∧ count = 1 := by omega
    rw [same, one.1, one.2]

/-- With a clash two documents have one name. -/
theorem clash_repeats (bases : List GoString) (clash : CopyClash bases)
    (injective : ∀ first ∈ occurrences [] bases, ∀ second ∈ occurrences [] bases,
      copyName first.1 first.2 = copyName second.1 second.2 → first = second) : False := by
  obtain ⟨base, number, copied, often, called⟩ := clash
  have copy : (base, number) ∈ occurrences [] bases := by
    rw [occurrences_mem, List.count_nil, Nat.zero_add]
    exact ⟨by omega, often⟩
  have original : (numberedName base number, 1) ∈ occurrences [] bases := by
    rw [occurrences_mem, List.count_nil, Nat.zero_add]
    exact ⟨Nat.one_pos, List.count_pos_iff.mpr called⟩
  have same := injective _ copy _ original (if_pos copied)
  exact numbered_name_longer base number (Prod.mk.inj same).1.symm

end Copies

section Unique

variable (letters : Letters)

theorem document_name_ne_nil (name : GoString) : kiroDocumentName name ≠ [] := by
  unfold kiroDocumentName
  simp only
  generalize (if 100 < _ then _ else _ : GoString) = cleaned
  split_ifs with empty
  · decide
  · exact empty

theorem block_document_named (block : JsonFields) (document : KiroDocument)
    (made : kiroDocumentFromBlock letters block = some document) : document.name ≠ [] := by
  unfold kiroDocumentFromBlock at made
  simp only [Option.bind_eq_bind, Option.bind_eq_some_iff] at made
  obtain ⟨source, -, ⟨media, data⟩, -, made⟩ := made
  simp only at made
  split_ifs at made
  obtain ⟨format, -, same⟩ := Option.bind_eq_some_iff.mp made
  rw [← Option.some.inj same]
  exact document_name_ne_nil _

mutual

theorem collected_named (content : Json) :
    ∀ document ∈ collectDocuments letters content, document.name ≠ [] := by
  cases content with
  | arr blocks => exact blocks_named blocks
  | _ => exact fun _ member => absurd member List.not_mem_nil

theorem blocks_named (blocks : List Json) :
    ∀ document ∈ documentsOfBlocks letters blocks, document.name ≠ [] := by
  cases blocks with
  | nil => exact fun _ member => absurd member List.not_mem_nil
  | cons block blocks =>
      intro document member
      rw [documentsOfBlocks, List.mem_append] at member
      exact member.elim (block_named block document) (blocks_named blocks document)

theorem block_named (block : Json) :
    ∀ document ∈ documentsOfBlock letters block, document.name ≠ [] := by
  cases block with
  | obj block =>
      intro document member
      rw [documentsOfBlock] at member
      split_ifs at member with result kind image
      · exact content_named block document member
      · exact absurd member List.not_mem_nil
      · exact block_document_named letters block document (Option.mem_toList.mp member)
      · exact absurd member List.not_mem_nil
  | _ => exact fun _ member => absurd member List.not_mem_nil

theorem content_named (fields : List (GoString × Json)) :
    ∀ document ∈ documentsOfContent letters fields, document.name ≠ [] := by
  cases fields with
  | nil => exact fun _ member => absurd member List.not_mem_nil
  | cons field fields =>
      obtain ⟨key, value⟩ := field
      rw [documentsOfContent]
      split_ifs
      · exact collected_named value
      · exact content_named fields

end

theorem numbered_named (seen : List GoString) (documents : List KiroDocument)
    (named : ∀ document ∈ documents, document.name ≠ []) :
    ∀ document ∈ numberDocuments seen documents, document.name ≠ [] := by
  induction documents generalizing seen with
  | nil => exact fun _ member => absurd member List.not_mem_nil
  | cons document documents ih =>
      intro other member
      rcases List.mem_cons.mp member with first | rest
      · rw [first]
        unfold copyName
        simp only
        split_ifs
        · exact List.append_ne_nil_of_right_ne_nil _ (by decide)
        · exact named document List.mem_cons_self
      · exact ih _ (fun held among => named held (List.mem_cons_of_mem _ among)) other rest

/-- The cleaned names of the documents of a message, in order. -/
def documentBases (content : Json) : List GoString :=
  (collectDocuments letters content).map KiroDocument.name

/-- The names of the documents of a message are distinct, none is empty, exactly if no name is
also that of a numbered copy. -/
theorem document_names_unique_iff (content : Json) :
    (((extractDocuments letters content).map KiroDocument.name).Nodup ∧
      ∀ document ∈ extractDocuments letters content, document.name ≠ []) ↔
      ¬CopyClash (documentBases letters content) := by
  have named := numbered_named [] (collectDocuments letters content)
    (collected_named letters content)
  unfold extractDocuments
  rw [numbered_names, List.nodup_map_iff_inj_on (occurrences_nodup _ _)]
  constructor
  · rintro ⟨injective, -⟩ clash
    exact clash_repeats _ clash injective
  · intro apart
    exact ⟨copy_names_injective _ apart, named⟩

def textDocument (title : String) : Json :=
  .obj [(lit "type", .str (lit "document")), (lit "title", .str (lit title)),
    (lit "source", .obj [(lit "type", .str (lit "text")), (lit "data", .str (lit "x"))])]

/-- Two documents of one name, and one that is called as the copy. -/
theorem numbered_title_repeats :
    ¬((extractDocuments asciiLetters (.arr [textDocument "a", textDocument "a",
        textDocument "a (2)"])).map KiroDocument.name).Nodup := by
  decide +kernel

end Unique

end KiroProxy.Documents
