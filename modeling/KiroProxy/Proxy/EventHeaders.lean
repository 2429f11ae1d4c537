import KiroProxy.Proxy.EventFrames

/-!
# Event stream headers

`parseEventStreamHeaders` with its offsets, where an index or a slice outside the input would
panic, against the parser on the rest of the input; and the headers it reads back from an
encoded list.
-/

namespace KiroProxy.EventFrames

open GoStrings

set_option autoImplicit false

section Offsets

/-- `data[low:high]`, which panics where the bounds are not those of a part. -/
def slice (data : GoString) (low high : Nat) : Option GoString :=
  if low ≤ high ∧ high ≤ data.length then some ((data.drop low).take (high - low)) else none

/-- The length of the value at the offset and the offset of its first byte; `none` panics. -/
def valueLengthAt (data : GoString) (valueType : UInt8) (offset : Nat) :
    Option (Except HeaderError (Nat × Nat)) :=
  match valueType.toNat with
  | 0 | 1 => some (.ok (0, offset))
  | 2 => some (.ok (1, offset))
  | 3 => some (.ok (2, offset))
  | 4 => some (.ok (4, offset))
  | 5 | 8 => some (.ok (8, offset))
  | 9 => some (.ok (16, offset))
  | 6 | 7 =>
      if data.length < offset + 2 then some (.error .malformedVariable)
      else do
        let high ← data[offset]?
        let low ← data[offset + 1]?
        some (.ok (high.toNat <<< 8 ||| low.toNat, offset + 2))
  | _ => some (.error (.unsupportedType valueType))

/-- One round of the loop from an offset inside the input; `none` panics. -/
def headerRound (data : GoString) (offset : Nat) (headers : Headers) :
    Option (Except HeaderError (Nat × Headers)) := do
  let nameLength ← data[offset]?
  if nameLength = 0 ∨ data.length ≤ offset + 1 + nameLength.toNat then
    some (.error .malformedName)
  else
    let name ← slice data (offset + 1) (offset + 1 + nameLength.toNat)
    let valueType ← data[offset + 1 + nameLength.toNat]?
    match ← valueLengthAt data valueType (offset + 1 + nameLength.toNat + 1) with
    | .error err => some (.error err)
    | .ok (valueLength, start) =>
        if data.length < start + valueLength then some (.error .truncatedValue)
        else if valueType = 7 then do
          let value ← slice data start (start + valueLength)
          some (.ok (start + valueLength, (name, value) :: headers))
        else some (.ok (start + valueLength, headers))

/-- How the loop stands after some rounds. -/
inductive HeaderLoop where
  | running
  | panicked
  | returned (result : Except HeaderError Headers)

def headerLoop (data : GoString) : Nat → Nat → Headers → HeaderLoop
  | 0, _, _ => .running
  | rounds + 1, offset, headers =>
      if data.length ≤ offset then .returned (.ok headers)
      else
        match headerRound data offset headers with
        | none => .panicked
        | some (.error err) => .returned (.error err)
        | some (.ok (next, headers)) => headerLoop data rounds next headers

theorem slice_inside (data : GoString) (low count : Nat) (inside : low + count ≤ data.length) :
    slice data low (low + count) = some ((data.drop low).take count) := by
  rw [slice, if_pos ⟨Nat.le_add_right low count, inside⟩, Nat.add_sub_cancel_left]

/-- The bytes from an offset on, taken apart. -/
theorem drop_split (data : GoString) (offset : Nat) (inside : offset < data.length) :
    ∃ byte, data[offset]? = some byte ∧ data.drop offset = byte :: data.drop (offset + 1) :=
  ⟨data[offset], List.getElem?_eq_getElem inside, List.drop_eq_getElem_cons inside⟩

theorem value_length_at (data : GoString) (valueType : UInt8) (offset : Nat)
    (inside : offset ≤ data.length) :
    (∃ err, valueLengthAt data valueType offset = some (.error err) ∧
      headerValueLength valueType (data.drop offset) = .error err) ∨
    ∃ count start, valueLengthAt data valueType offset = some (.ok (count, start)) ∧
      headerValueLength valueType (data.drop offset) = .ok (count, data.drop start) ∧
      offset ≤ start ∧ start ≤ data.length := by
  unfold valueLengthAt headerValueLength
  generalize valueType.toNat = code
  split
  iterate 8 exact Or.inr ⟨_, offset, rfl, rfl, Nat.le_refl offset, inside⟩
  iterate 2
    split_ifs with short
    · apply Or.inl
      refine ⟨.malformedVariable, rfl, ?_⟩
      have size : (data.drop offset).length < 2 := by
        rw [List.length_drop]
        omega
      generalize data.drop offset = bytes at size ⊢
      rcases bytes with _ | ⟨high, _ | ⟨low, rest⟩⟩
      · rfl
      · rfl
      · rw [List.length_cons, List.length_cons] at size
        omega
    · apply Or.inr
      obtain ⟨high, foundHigh, splitHigh⟩ := drop_split data offset (by omega)
      obtain ⟨low, foundLow, splitLow⟩ := drop_split data (offset + 1) (by omega)
      rw [foundHigh, foundLow, splitHigh, splitLow]
      exact ⟨_, offset + 2, rfl, rfl, by omega, by omega⟩
  · apply Or.inl
    refine ⟨.unsupportedType valueType, rfl, ?_⟩
    simp [*]

/-- A round panics nowhere: it fails as the parser does, or it goes on behind the header. -/
theorem header_round (data : GoString) (offset fuel : Nat) (headers : Headers)
    (inside : offset < data.length) :
    (∃ err, headerRound data offset headers = some (.error err) ∧
      parseHeaders (fuel + 1) (data.drop offset) headers = .error err) ∨
    ∃ next more, headerRound data offset headers = some (.ok (next, more)) ∧
      parseHeaders (fuel + 1) (data.drop offset) headers =
        parseHeaders fuel (data.drop next) more ∧
      offset < next ∧ next ≤ data.length := by
  obtain ⟨nameLength, found, split⟩ := drop_split data offset inside
  have rest : (data.drop (offset + 1)).length = data.length - (offset + 1) := List.length_drop
  rw [headerRound, found, split, parseHeaders]
  simp only [Option.bind_eq_bind, Option.bind_some]
  by_cases malformed : nameLength = 0 ∨ data.length ≤ offset + 1 + nameLength.toNat
  · have short : nameLength = 0 ∨ (data.drop (offset + 1)).length ≤ nameLength.toNat := by
      apply malformed.imp id
      intro beyond
      omega
    rw [if_pos malformed, if_pos short]
    exact Or.inl ⟨.malformedName, rfl, rfl⟩
  · rw [if_neg malformed]
    rw [not_or, Nat.not_le] at malformed
    have long : ¬(nameLength = 0 ∨ (data.drop (offset + 1)).length ≤ nameLength.toNat) := by
      rw [not_or, Nat.not_le]
      exact ⟨malformed.1, by omega⟩
    rw [if_neg long]
    obtain ⟨valueType, foundType, splitType⟩ :=
      drop_split data (offset + 1 + nameLength.toNat) malformed.2
    rw [slice_inside data (offset + 1) nameLength.toNat (Nat.le_of_lt malformed.2), foundType,
      List.drop_drop, splitType]
    simp only [Option.bind_some]
    obtain ⟨err, fails, refused⟩ | ⟨count, start, reads, same, behind, within⟩ :=
      value_length_at data valueType (offset + 1 + nameLength.toNat + 1) malformed.2
    · rw [fails, refused]
      exact Or.inl ⟨err, rfl, rfl⟩
    · rw [reads, same]
      simp only [Option.bind_some, List.length_drop]
      by_cases truncated : data.length < start + count
      · have short : data.length - start < count := by omega
        rw [if_pos truncated, if_pos short]
        exact Or.inl ⟨.truncatedValue, rfl, rfl⟩
      · have long : ¬data.length - start < count := by omega
        rw [if_neg truncated, if_neg long, slice_inside data start count (by omega),
          List.drop_drop]
        apply Or.inr
        split_ifs
        · exact ⟨start + count, _, rfl, rfl, by omega, by omega⟩
        · exact ⟨start + count, _, rfl, rfl, by omega, by omega⟩

/-- With a round for each byte left the loop has returned what the parser does. -/
theorem header_loop_returns (data : GoString) (rounds offset : Nat) (headers : Headers)
    (inside : offset ≤ data.length) (enough : data.length - offset < rounds) :
    headerLoop data rounds offset headers =
      .returned (parseHeaders (data.length - offset) (data.drop offset) headers) := by
  induction rounds generalizing offset headers with
  | zero => omega
  | succ rounds ih =>
      rw [headerLoop]
      split_ifs with ended
      · have same : data.length - offset = 0 := by omega
        rw [same]
        rfl
      · have left : data.length - offset = (data.length - offset - 1) + 1 := by omega
        rw [left]
        obtain ⟨err, fails, refused⟩ | ⟨next, more, goes, same, behind, within⟩ :=
          header_round data offset (data.length - offset - 1) headers (by omega)
        · rw [fails, refused]
        · rw [goes, same]
          simp only
          rw [ih next more within (by omega)]
          congr 1
          apply parse_headers_fuel
          · rw [List.length_drop]
          · rw [List.length_drop]
            omega

end Offsets

section Encoding

/-- A text of a fixed number of bytes. -/
structure Bytes (count : Nat) where
  bytes : GoString
  size : bytes.length = count

/-- A text whose length two bytes can tell. -/
structure Block where
  bytes : GoString
  size : bytes.length < 65536

structure HeaderName where
  bytes : GoString
  nonempty : bytes ≠ []
  size : bytes.length < 256

/-- The ten value types of a header. -/
inductive HeaderValue where
  | yes
  | no
  | byte (value : Bytes 1)
  | short (value : Bytes 2)
  | integer (value : Bytes 4)
  | long (value : Bytes 8)
  | binary (value : Block)
  | text (value : Block)
  | timestamp (value : Bytes 8)
  | uuid (value : Bytes 16)

structure EncodedHeader where
  name : HeaderName
  value : HeaderValue

def HeaderValue.code : HeaderValue → UInt8
  | .yes => 0
  | .no => 1
  | .byte _ => 2
  | .short _ => 3
  | .integer _ => 4
  | .long _ => 5
  | .binary _ => 6
  | .text _ => 7
  | .timestamp _ => 8
  | .uuid _ => 9

/-- The two bytes of a length. -/
def uint16Bytes (value : Nat) : GoString := [UInt8.ofNat (value / 256), UInt8.ofNat value]

def HeaderValue.encode : HeaderValue → GoString
  | .yes => []
  | .no => []
  | .byte value => value.bytes
  | .short value => value.bytes
  | .integer value => value.bytes
  | .long value => value.bytes
  | .binary value => uint16Bytes value.bytes.length ++ value.bytes
  | .text value => uint16Bytes value.bytes.length ++ value.bytes
  | .timestamp value => value.bytes
  | .uuid value => value.bytes

def EncodedHeader.encode (header : EncodedHeader) : GoString :=
  UInt8.ofNat header.name.bytes.length :: header.name.bytes ++
    header.value.code :: header.value.encode

def encodeHeaders (headers : List EncodedHeader) : GoString :=
  headers.flatMap EncodedHeader.encode

/-- The bytes of the value behind its length. -/
def HeaderValue.bytes : HeaderValue → GoString
  | .yes => []
  | .no => []
  | .byte value => value.bytes
  | .short value => value.bytes
  | .integer value => value.bytes
  | .long value => value.bytes
  | .binary value => value.bytes
  | .text value => value.bytes
  | .timestamp value => value.bytes
  | .uuid value => value.bytes

/-- A header that is a string, by name. -/
def EncodedHeader.string (header : EncodedHeader) : Option (GoString × GoString) :=
  match header.value with
  | .text value => some (header.name.bytes, value.bytes)
  | _ => none

theorem uint16_bytes (size : Nat) (small : size < 65536) :
    (UInt8.ofNat (size / 256)).toNat <<< 8 ||| (UInt8.ofNat size).toNat = size := by
  have high : (UInt8.ofNat (size / 256)).toNat = size / 256 := by
    rw [UInt8.toNat_ofNat']
    exact Nat.mod_eq_of_lt (by omega)
  have low : (UInt8.ofNat size).toNat = size % 256 := UInt8.toNat_ofNat'
  rw [high, low, ← Nat.shiftLeft_add_eq_or_of_lt (by omega), Nat.shiftLeft_eq]
  omega

theorem encoded_value_length (value : HeaderValue) (rest : GoString) :
    headerValueLength value.code (value.encode ++ rest) =
      .ok (value.bytes.length, value.bytes ++ rest) := by
  cases value with
  | yes => rfl
  | no => rfl
  | byte value => rw [HeaderValue.bytes, value.size]; rfl
  | short value => rw [HeaderValue.bytes, value.size]; rfl
  | integer value => rw [HeaderValue.bytes, value.size]; rfl
  | long value => rw [HeaderValue.bytes, value.size]; rfl
  | timestamp value => rw [HeaderValue.bytes, value.size]; rfl
  | uuid value => rw [HeaderValue.bytes, value.size]; rfl
  | binary value =>
      change Except.ok (_ ||| _, value.bytes ++ rest) = _
      rw [uint16_bytes value.bytes.length value.size]
      rfl
  | text value =>
      change Except.ok (_ ||| _, value.bytes ++ rest) = _
      rw [uint16_bytes value.bytes.length value.size]
      rfl

theorem parse_encoded_header (header : EncodedHeader) (rest : GoString) (fuel : Nat)
    (headers : Headers) :
    parseHeaders (fuel + 1) (header.encode ++ rest) headers =
      parseHeaders fuel rest (header.string.toList ++ headers) := by
  obtain ⟨name, value⟩ := header
  have size : (UInt8.ofNat name.bytes.length).toNat = name.bytes.length := by
    rw [UInt8.toNat_ofNat']
    exact Nat.mod_eq_of_lt name.size
  have positive : 0 < name.bytes.length := List.length_pos_iff.mpr name.nonempty
  have named : ¬(UInt8.ofNat name.bytes.length = 0 ∨
      (name.bytes ++ value.code :: (value.encode ++ rest)).length ≤
        (UInt8.ofNat name.bytes.length).toNat) := by
    rw [size, List.length_append, List.length_cons]
    rintro (zero | short)
    · rw [zero] at size
      change 0 = _ at size
      omega
    · omega
  have shape : (EncodedHeader.mk name value).encode ++ rest =
      UInt8.ofNat name.bytes.length ::
        (name.bytes ++ value.code :: (value.encode ++ rest)) := by
    simp [EncodedHeader.encode]
  rw [shape, parseHeaders, if_neg named, size]
  simp only [List.take_left, List.drop_left, encoded_value_length]
  have whole : ¬(value.bytes ++ rest).length < value.bytes.length := by
    rw [List.length_append]
    omega
  rw [if_neg whole]
  congr 1
  cases value with
  | text value => rfl
  | yes | no | byte | short | integer | long | binary | timestamp | uuid => rfl

theorem parse_encoded_headers (headers : List EncodedHeader) (fuel : Nat) (read : Headers)
    (enough : (encodeHeaders headers).length ≤ fuel) :
    parseHeaders fuel (encodeHeaders headers) read =
      .ok ((headers.filterMap EncodedHeader.string).reverse ++ read) := by
  induction headers generalizing fuel read with
  | nil => cases fuel <;> rfl
  | cons header headers ih =>
      rw [encodeHeaders, List.flatMap_cons] at enough ⊢
      have nonempty : 0 < header.encode.length := by simp [EncodedHeader.encode]
      rw [List.length_append] at enough
      obtain ⟨fuel, rfl⟩ : ∃ less, fuel = less + 1 := ⟨fuel - 1, by omega⟩
      rw [parse_encoded_header]
      change parseHeaders fuel (encodeHeaders headers) _ = _
      rw [ih fuel _ (by rw [encodeHeaders]; omega), List.filterMap_cons]
      cases header.string with
      | none => rfl
      | some named => simp

/-- An encoded list is read back as its string headers, the last of a name first. -/
theorem headers_read_back (headers : List EncodedHeader) :
    parseEventStreamHeaders (encodeHeaders headers) =
      .ok (headers.filterMap EncodedHeader.string).reverse := by
  rw [parseEventStreamHeaders, parse_encoded_headers headers _ _ (Nat.le_refl _),
    List.append_nil]

end Encoding

end KiroProxy.EventFrames
