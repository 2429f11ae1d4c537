import KiroProxy.Proxy.EventHeaders
import KiroProxy.Proxy.EventStreamOutput

/-!
# Event stream framing

Streams of encoded frames that end, or are cut, anywhere. The frames in front of a cut are
handled; a cut inside a frame is a truncated response.
-/

namespace KiroProxy.EventStream

open ApiKeys (CreditAmount)
open EventFrames Foundation.Emissions Foundation.Emissions.Emission GoStrings KiroTypes ToolMarkup
open ToolUseEvents

set_option autoImplicit false

section Frames

/-- The four bytes of a number, the highest first. -/
def uint32Bytes (value : UInt32) : GoString :=
  [UInt8.ofNat (value.toNat / 16777216), UInt8.ofNat (value.toNat / 65536),
    UInt8.ofNat (value.toNat / 256), UInt8.ofNat value.toNat]

structure WireFrame where
  headers : List EncodedHeader
  payload : GoString
  fits : 16 + (encodeHeaders headers).length + payload.length ≤ maxEventStreamMessageSize

def WireFrame.lengths (frame : WireFrame) : GoString :=
  uint32Bytes (UInt32.ofNat (16 + (encodeHeaders frame.headers).length + frame.payload.length)) ++
    uint32Bytes (UInt32.ofNat (encodeHeaders frame.headers).length)

def WireFrame.prelude (frame : WireFrame) : GoString :=
  frame.lengths ++ uint32Bytes (checksumIEEE frame.lengths)

def WireFrame.covered (frame : WireFrame) : GoString :=
  encodeHeaders frame.headers ++ frame.payload

def WireFrame.message (frame : WireFrame) : GoString :=
  frame.covered ++ uint32Bytes (eventStreamChecksum frame.prelude frame.covered)

def WireFrame.encode (frame : WireFrame) : GoString := frame.prelude ++ frame.message

/-- The frame as it is read. -/
def WireFrame.event (frame : WireFrame) : EventFrame :=
  ⟨(frame.headers.filterMap EncodedHeader.string).reverse, frame.payload⟩

def encodeFrames (frames : List WireFrame) : GoString := frames.flatMap WireFrame.encode

theorem uint32_append (value : UInt32) (byte : UInt8) (small : value.toNat < 16777216) :
    (value <<< 8 ||| byte.toUInt32).toNat = value.toNat * 256 + byte.toNat := by
  have byteSmall : byte.toNat < 2 ^ 8 := byte.toNat_lt
  rw [UInt32.toNat_or, UInt32.toNat_shiftLeft, UInt8.toNat_toUInt32]
  have shifted : value.toNat <<< (UInt32.toNat 8 % 32) % 2 ^ 32 = value.toNat <<< 8 := by
    change value.toNat <<< 8 % 2 ^ 32 = value.toNat <<< 8
    rw [Nat.shiftLeft_eq]
    exact Nat.mod_eq_of_lt (by omega)
  rw [shifted, ← Nat.shiftLeft_add_eq_or_of_lt byteSmall, Nat.shiftLeft_eq]

theorem uint32_read (value : UInt32) (rest : GoString) :
    eventStreamUint32 (uint32Bytes value ++ rest) = value := by
  have below : value.toNat < 4294967296 := value.toNat_lt
  have first : (UInt8.ofNat (value.toNat / 16777216)).toNat = value.toNat / 16777216 := by
    rw [UInt8.toNat_ofNat']
    exact Nat.mod_eq_of_lt (by omega)
  have second : (UInt8.ofNat (value.toNat / 65536)).toNat = value.toNat / 65536 % 256 :=
    UInt8.toNat_ofNat'
  have third : (UInt8.ofNat (value.toNat / 256)).toNat = value.toNat / 256 % 256 :=
    UInt8.toNat_ofNat'
  have fourth : (UInt8.ofNat value.toNat).toNat = value.toNat % 256 := UInt8.toNat_ofNat'
  rw [← UInt32.toNat_inj]
  change ((((((0 : UInt32) <<< 8 ||| (UInt8.ofNat _).toUInt32) <<< 8 |||
    (UInt8.ofNat _).toUInt32) <<< 8 ||| (UInt8.ofNat _).toUInt32) <<< 8) |||
    (UInt8.ofNat _).toUInt32).toNat = value.toNat
  have one := uint32_append 0 (UInt8.ofNat (value.toNat / 16777216)) (by decide)
  rw [first] at one
  change _ = 0 * 256 + value.toNat / 16777216 at one
  have two := uint32_append _ (UInt8.ofNat (value.toNat / 65536)) (by rw [one]; omega)
  rw [one, second] at two
  have three := uint32_append _ (UInt8.ofNat (value.toNat / 256)) (by rw [two]; omega)
  rw [two, third] at three
  have four := uint32_append _ (UInt8.ofNat value.toNat) (by rw [three]; omega)
  rw [three, fourth] at four
  rw [four]
  omega

theorem prelude_size (frame : WireFrame) : frame.prelude.length = 12 := rfl

theorem message_size (frame : WireFrame) :
    frame.message.length = 4 + (encodeHeaders frame.headers).length + frame.payload.length := by
  rw [WireFrame.message, WireFrame.covered, List.length_append, List.length_append]
  change _ + _ + 4 = _
  omega

theorem read_full_front (data rest : GoString) (failure : ReadError) :
    readFull data.length ⟨data ++ rest, failure⟩ = .ok (data, ⟨rest, failure⟩) := by
  rw [readFull, if_pos (by rw [List.length_append]; omega), List.take_left, List.drop_left]

/-- The prelude of a frame passes its checks. -/
theorem read_prelude (frame : WireFrame) (rest : GoString) (failure : ReadError) :
    readFrame ⟨frame.prelude ++ rest, failure⟩ =
      readMessage frame.prelude frame.encode.length (encodeHeaders frame.headers).length
        ⟨rest, failure⟩ := by
  have fits := frame.fits
  unfold maxEventStreamMessageSize at fits
  have total : (eventStreamUint32 frame.prelude).toNat = frame.encode.length := by
    rw [WireFrame.prelude, WireFrame.lengths, List.append_assoc, uint32_read,
      UInt32.toNat_ofNat', WireFrame.encode, List.length_append, prelude_size, message_size]
    omega
  have headers : (eventStreamUint32 (frame.prelude.drop 4)).toNat =
      (encodeHeaders frame.headers).length := by
    change (eventStreamUint32 (uint32Bytes _ ++ _)).toNat = _
    rw [uint32_read, UInt32.toNat_ofNat']
    omega
  have checked : eventStreamUint32 (frame.prelude.drop 8) = checksumIEEE (frame.prelude.take 8) := by
    change eventStreamUint32 (uint32Bytes _) = checksumIEEE frame.lengths
    rw [← List.append_nil (uint32Bytes _), uint32_read]
  have size : frame.encode.length =
      16 + (encodeHeaders frame.headers).length + frame.payload.length := by
    rw [WireFrame.encode, List.length_append, prelude_size, message_size]
    omega
  have prelude := read_full_front frame.prelude rest failure
  rw [prelude_size] at prelude
  rw [readFrame, prelude]
  simp only [total, headers]
  rw [if_neg (by unfold maxEventStreamMessageSize; omega), if_neg (by omega),
    if_neg (by rw [checked]; simp)]

/-- An encoded frame is read whole. -/
theorem read_encoded (frame : WireFrame) (rest : GoString) (failure : ReadError) :
    readFrame ⟨frame.encode ++ rest, failure⟩ = .frame frame.event ⟨rest, failure⟩ := by
  have size : frame.encode.length - 12 = frame.message.length := by
    rw [WireFrame.encode, List.length_append, prelude_size]
    omega
  have covered : frame.message.take (frame.message.length - 4) = frame.covered := by
    change (frame.covered ++ uint32Bytes _).take ((frame.covered ++ uint32Bytes _).length - 4) = _
    rw [List.length_append]
    change List.take (frame.covered.length + 4 - 4) _ = _
    rw [Nat.add_sub_cancel, List.take_left]
  have checksum : frame.message.drop (frame.message.length - 4) =
      uint32Bytes (eventStreamChecksum frame.prelude frame.covered) := by
    change (frame.covered ++ uint32Bytes _).drop ((frame.covered ++ uint32Bytes _).length - 4) = _
    rw [List.length_append]
    change List.drop (frame.covered.length + 4 - 4) _ = _
    rw [Nat.add_sub_cancel, List.drop_left]
  have headers : frame.message.take (encodeHeaders frame.headers).length =
      encodeHeaders frame.headers := by
    rw [WireFrame.message, WireFrame.covered, List.append_assoc, List.take_left]
  have payload : frame.covered.drop (encodeHeaders frame.headers).length = frame.payload := by
    rw [WireFrame.covered, List.drop_left]
  have same := uint32_read (eventStreamChecksum frame.prelude frame.covered) []
  rw [List.append_nil] at same
  rw [WireFrame.encode, List.append_assoc, read_prelude, readMessage, size, read_full_front]
  simp only [covered, checksum, same, headers, payload, headers_read_back, ne_eq,
    not_true_eq_false, if_false]
  rfl

end Frames

section Cuts

/-- How a cut connection ends: the body just ends, or the reader knows that more was due. -/
def EndsEarly (failure : ReadError) : Prop := failure = .eof ∨ failure = .unexpectedEOF

theorem read_full_short (count : Nat) (data : GoString) (failure : ReadError)
    (early : EndsEarly failure) (short : data.length < count) :
    ∃ error, readFull count ⟨data, failure⟩ = .error error ∧
      frameReadError error = .truncatedResponse ∧ (error = .eof → data = []) := by
  rw [readFull, if_neg (Nat.not_le.mpr short)]
  obtain rfl | rfl := early
  · cases data with
    | nil => exact ⟨.eof, rfl, rfl, fun _ => rfl⟩
    | cons byte data => exact ⟨.unexpectedEOF, rfl, rfl, by simp⟩
  · exact ⟨.unexpectedEOF, rfl, rfl, by simp⟩

/-- A frame cut behind its first byte and before its last. -/
theorem read_cut (frame : WireFrame) (size : Nat) (failure : ReadError)
    (early : EndsEarly failure) (some_ : 0 < size) (short : size < frame.encode.length) :
    readFrame ⟨frame.encode.take size, failure⟩ = .failed .truncatedResponse := by
  have taken : (frame.encode.take size).length = size :=
    List.length_take_of_le (Nat.le_of_lt short)
  by_cases inside : size < 12
  · obtain ⟨error, read, truncated, empty⟩ :=
      read_full_short 12 (frame.encode.take size) failure early (by rw [taken]; exact inside)
    rw [readFrame, read]
    cases error with
    | eof =>
        rw [empty rfl] at taken
        change 0 = size at taken
        omega
    | unexpectedEOF | canceled | deadlineExceeded | timeout | idle | other =>
        simp only [truncated]
  · have split : frame.encode.take size = frame.prelude ++ frame.message.take (size - 12) := by
      rw [WireFrame.encode, List.take_append, prelude_size,
        List.take_of_length_le (by rw [prelude_size]; omega)]
    have cut : (frame.message.take (size - 12)).length < frame.encode.length - 12 := by
      rw [split, List.length_append, prelude_size] at taken
      omega
    obtain ⟨error, read, truncated, _⟩ := read_full_short _ _ failure early cut
    rw [split, read_prelude, readMessage, read]
    simp only [truncated]

theorem encoded_nonempty (frame : WireFrame) : 0 < frame.encode.length := by
  rw [WireFrame.encode, List.length_append, prelude_size]
  omega

variable {Credit : Type} [CreditAmount Credit] (unmarshal : GoString → Option Json)
  (reports : EventReports Credit) (callback : KiroStreamCallback) (newID : Nat → GoString)

/-- The frames in front of a failed read are handled, and a read that fails ends the loop. -/
theorem frames_before (frames : List WireFrame) (rest : GoString) (failure : ReadError)
    (error : FrameError) (fails : readFrame ⟨rest, failure⟩ = .failed error) (fuel : Nat)
    (enough : (encodeFrames frames ++ rest).length < fuel) (state : StreamState Credit) :
    readFrames unmarshal reports callback newID fuel ⟨encodeFrames frames ++ rest, failure⟩ state =
      (emitAll (handleFrame unmarshal reports callback newID) state
        (frames.map WireFrame.event)).andThen fun state => ⟨state, [], some (.frame error)⟩ := by
  induction frames generalizing fuel state with
  | nil =>
      obtain ⟨fuel, rfl⟩ : ∃ less, fuel = less + 1 := ⟨fuel - 1, by omega⟩
      change readFrames unmarshal reports callback newID (fuel + 1) ⟨rest, failure⟩ state = _
      rw [readFrames, fails]
      rfl
  | cons frame frames ih =>
      have nonempty := encoded_nonempty frame
      have split : encodeFrames (frame :: frames) ++ rest =
          frame.encode ++ (encodeFrames frames ++ rest) := by
        rw [encodeFrames, List.flatMap_cons, List.append_assoc, encodeFrames]
      rw [split] at enough ⊢
      rw [List.length_append] at enough
      obtain ⟨fuel, rfl⟩ : ∃ less, fuel = less + 1 := ⟨fuel - 1, by omega⟩
      rw [readFrames, read_encoded]
      simp only [List.map_cons, emitAll, then_assoc]
      congr 1
      funext next
      exact ih fuel (by omega) next

/-- A cut that is at no boundary is inside a frame. -/
theorem cut_inside (frames : List WireFrame) (cut : Nat)
    (short : cut < (encodeFrames frames).length)
    (apart : ∀ count, cut ≠ (encodeFrames (frames.take count)).length) :
    ∃ before frame later size, frames = before ++ frame :: later ∧ 0 < size ∧
      size < frame.encode.length ∧ cut = (encodeFrames before).length + size ∧
      (encodeFrames frames).take cut = encodeFrames before ++ frame.encode.take size := by
  induction frames generalizing cut with
  | nil => simp [encodeFrames] at short
  | cons frame frames ih =>
      have split : encodeFrames (frame :: frames) = frame.encode ++ encodeFrames frames :=
        List.flatMap_cons
      rw [split, List.length_append] at short
      by_cases first : cut < frame.encode.length
      · refine ⟨[], frame, frames, cut, rfl, ?_, first, ?_, ?_⟩
        · have zero := apart 0
          change cut ≠ 0 at zero
          omega
        · exact (Nat.zero_add cut).symm
        · rw [split, List.take_append_of_le_length (Nat.le_of_lt first)]
          rfl
      · obtain ⟨before, other, later, size, rfl, some_, inside, place, taken⟩ :=
          ih (cut - frame.encode.length) (by omega) (by
            intro count same
            apply apart (count + 1)
            rw [List.take_succ_cons, encodeFrames, List.flatMap_cons, List.length_append]
            change cut = frame.encode.length + (encodeFrames (frames.take count)).length
            omega)
        have longer : encodeFrames (frame :: before) = frame.encode ++ encodeFrames before :=
          List.flatMap_cons
        refine ⟨frame :: before, other, later, size, rfl, some_, inside, ?_, ?_⟩
        · rw [longer, List.length_append]
          omega
        · rw [split, longer, List.take_append, taken, List.take_of_length_le (by omega),
            List.append_assoc]

variable (letters : Letters) (lenient : Bool)

/-- A read that fails behind some frames fails the stream, unless one of their events does. -/
theorem cut_fault (before : List WireFrame) (rest : GoString) (failure : ReadError)
    (error : FrameError) (fails : readFrame ⟨rest, failure⟩ = .failed error) :
    (parseEventStreamTracked letters unmarshal reports callback newID lenient
        (⟨encodeFrames before ++ rest, failure⟩ : Body)).fault =
      some ((emitAll (handleFrame unmarshal reports callback newID)
        (startStream callback.markupTools) (before.map WireFrame.event)).fault.getD
          (.frame error)) := by
  have frames := frames_before unmarshal reports callback newID before rest failure error fails
    ((encodeFrames before ++ rest).length + 1) (Nat.lt_succ_self _)
    (startStream callback.markupTools)
  have read : (readStream unmarshal reports callback newID
      ⟨encodeFrames before ++ rest, failure⟩).fault =
      some ((emitAll (handleFrame unmarshal reports callback newID)
        (startStream callback.markupTools) (before.map WireFrame.event)).fault.getD
          (.frame error)) := by
    rw [readStream, frames]
    cases handled : (emitAll (handleFrame unmarshal reports callback newID)
        (startStream callback.markupTools) (before.map WireFrame.event)).fault with
    | none =>
        rw [then_of_none _ _ handled]
        rfl
    | some fault =>
        rw [then_of_fault _ _ fault handled, then_of_fault _ _ fault handled, handled]
        rfl
  rw [parseEventStreamTracked, hand_back_fault, then_of_fault _ _ _ read, read]

/-- A cut stream fails with the error of an event in front of the cut, or as truncated; and the
header parser, which indexes nothing outside its input, reads encoded headers back. -/
theorem framing_sound :
    (∀ (frames : List WireFrame) (cut : Nat) (failure : ReadError), EndsEarly failure →
      cut < (encodeFrames frames).length →
      (∀ count, cut ≠ (encodeFrames (frames.take count)).length) →
      ∃ before frame later, frames = before ++ frame :: later ∧
        (encodeFrames before).length < cut ∧
        cut < (encodeFrames before).length + frame.encode.length ∧
        (parseEventStreamTracked letters unmarshal reports callback newID lenient
          (⟨(encodeFrames frames).take cut, failure⟩ : Body)).fault =
          some ((emitAll (handleFrame unmarshal reports callback newID)
            (startStream callback.markupTools) (before.map WireFrame.event)).fault.getD
              (.frame .truncatedResponse))) ∧
    (∀ data : GoString, headerLoop data (data.length + 1) 0 [] =
      .returned (parseEventStreamHeaders data)) ∧
    ∀ headers : List EncodedHeader, parseEventStreamHeaders (encodeHeaders headers) =
      .ok (headers.filterMap EncodedHeader.string).reverse := by
  refine ⟨?_, ?_, headers_read_back⟩
  · intro frames cut failure early short apart
    obtain ⟨before, frame, later, size, rfl, some_, inside, place, taken⟩ :=
      cut_inside frames cut short apart
    refine ⟨before, frame, later, rfl, by omega, by omega, ?_⟩
    rw [taken]
    exact cut_fault unmarshal reports callback newID letters lenient before _ failure
      .truncatedResponse (read_cut frame size failure early some_ inside)
  · intro data
    rw [header_loop_returns data (data.length + 1) 0 [] (Nat.zero_le _) (by omega),
      parseEventStreamHeaders]
    rfl

end Cuts

section Refused

def exceptionFrame : WireFrame where
  headers := [⟨⟨lit ":message-type", by decide, by decide⟩, .text ⟨lit "exception", by decide⟩⟩]
  payload := []
  fits := by decide

def silentReports : EventReports Int where
  letters := asciiLetters
  whole := fun _ => 0
  amount := fun _ => 0
  atoi := fun _ => none
  parseFloat := fun _ => none
  visits := fun fields => fields.map Prod.fst
  visits_all := fun _ => List.Perm.refl _

def silentCallback : KiroStreamCallback where
  onText := false
  onToolUse := false
  onComplete := false
  onStopReason := false
  onCredits := false
  onContextUsage := false
  onCacheUsage := false
  markupTools := []

theorem refused_event :
    (emitAll (handleFrame (fun _ => none) silentReports silentCallback (fun _ => []))
      (startStream []) ([exceptionFrame].map WireFrame.event)).fault =
      some (.upstream (lit "exception")) := by
  rfl

/-- An exception in front of the cut is the error, not the truncation behind it. -/
theorem exception_before_cut :
    let frames := [exceptionFrame, exceptionFrame]
    let cut := exceptionFrame.encode.length + 1
    cut < (encodeFrames frames).length ∧
      (∀ count, cut ≠ (encodeFrames (frames.take count)).length) ∧
      (parseEventStreamTracked asciiLetters (fun _ => none) silentReports silentCallback
        (fun _ => []) false (⟨(encodeFrames frames).take cut, .eof⟩ : Body)).fault =
        some (.upstream (lit "exception")) := by
  intro frames cut
  have nonempty : 1 < exceptionFrame.encode.length := by
    rw [WireFrame.encode, List.length_append, prelude_size]
    omega
  have both : encodeFrames frames = exceptionFrame.encode ++ exceptionFrame.encode := by
    simp [frames, encodeFrames]
  have one : encodeFrames [exceptionFrame] = exceptionFrame.encode := by
    simp [encodeFrames]
  refine ⟨?_, ?_, ?_⟩
  · rw [both, List.length_append]
    omega
  · intro count same
    match count with
    | 0 =>
        change cut = 0 at same
        omega
    | 1 =>
        change cut = (encodeFrames [exceptionFrame]).length at same
        rw [one] at same
        omega
    | count + 2 =>
        change cut = (encodeFrames (exceptionFrame :: exceptionFrame :: List.take count [])).length
          at same
        rw [List.take_nil] at same
        change cut = (encodeFrames frames).length at same
        rw [both, List.length_append] at same
        omega
  · have taken : (encodeFrames frames).take cut =
        encodeFrames [exceptionFrame] ++ exceptionFrame.encode.take 1 := by
      rw [both, one, List.take_append, List.take_of_length_le (by omega), Nat.add_sub_cancel_left]
    rw [taken, cut_fault (fun _ => none) silentReports silentCallback (fun _ => []) asciiLetters
      false [exceptionFrame] _ .eof .truncatedResponse
      (read_cut exceptionFrame 1 .eof (Or.inl rfl) Nat.one_pos nonempty)]
    change some ((emitAll _ (startStream []) _).fault.getD _) = _
    rw [refused_event]
    rfl

end Refused

end KiroProxy.EventStream
