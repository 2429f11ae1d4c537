import KiroProxy.GoStrings

/-!
# Event stream frames

The frames that `parseEventStreamTracked` of `proxy/kiro.go` reads from the body of an
answer, with their checksums, and `parseEventStreamHeaders`.
-/

namespace KiroProxy.EventFrames

open GoStrings

set_option autoImplicit false

section Checksums

def crc32Bit (crc : UInt32) : UInt32 :=
  if crc &&& 1 = 1 then (crc >>> 1) ^^^ 0xEDB88320 else crc >>> 1

def crc32Byte (crc : UInt32) (byte : UInt8) : UInt32 :=
  crc32Bit (crc32Bit (crc32Bit (crc32Bit (crc32Bit (crc32Bit (crc32Bit (crc32Bit
    (crc ^^^ byte.toUInt32))))))))

/-- `crc32.Update` with the IEEE table. -/
def crc32Update (crc : UInt32) (data : GoString) : UInt32 := ~~~(data.foldl crc32Byte (~~~crc))

def checksumIEEE (data : GoString) : UInt32 := crc32Update 0 data

example : checksumIEEE (lit "123456789") = 0xCBF43926 := by decide +kernel

def eventStreamUint32 (data : GoString) : UInt32 :=
  (data.take 4).foldl (fun value byte => value <<< 8 ||| byte.toUInt32) 0

def eventStreamChecksum (prelude message : GoString) : UInt32 :=
  crc32Update (crc32Update 0 prelude) message

end Checksums

section Headers

inductive HeaderError where
  | malformedName
  | malformedVariable
  | unsupportedType (valueType : UInt8)
  | truncatedValue
  deriving DecidableEq

abbrev Headers := List (GoString × GoString)

def Headers.get (headers : Headers) (name : GoString) : GoString :=
  (headers.lookup name).getD []

/-- The length of a value, and the bytes behind the length where the value has one. -/
def headerValueLength (valueType : UInt8) (data : GoString) :
    Except HeaderError (Nat × GoString) :=
  match valueType.toNat with
  | 0 | 1 => .ok (0, data)
  | 2 => .ok (1, data)
  | 3 => .ok (2, data)
  | 4 => .ok (4, data)
  | 5 | 8 => .ok (8, data)
  | 9 => .ok (16, data)
  | 6 | 7 =>
      match data with
      | high :: low :: rest => .ok (high.toNat <<< 8 ||| low.toNat, rest)
      | _ => .error .malformedVariable
  | _ => .error (.unsupportedType valueType)

/-- The loop over the headers. Only strings are kept, the last value of a name first. -/
def parseHeaders : Nat → GoString → Headers → Except HeaderError Headers
  | 0, _, headers => .ok headers
  | _ + 1, [], headers => .ok headers
  | fuel + 1, nameLength :: rest, headers =>
      if nameLength = 0 ∨ rest.length ≤ nameLength.toNat then .error .malformedName
      else
        let name := rest.take nameLength.toNat
        match rest.drop nameLength.toNat with
        | [] => .error .malformedName
        | valueType :: rest =>
            match headerValueLength valueType rest with
            | .error error => .error error
            | .ok (valueLength, rest) =>
                if rest.length < valueLength then .error .truncatedValue
                else
                  parseHeaders fuel (rest.drop valueLength)
                    (if valueType = 7 then (name, rest.take valueLength) :: headers else headers)

theorem header_value_rest (valueType : UInt8) (data rest : GoString) (valueLength : Nat)
    (read : headerValueLength valueType data = .ok (valueLength, rest)) :
    rest.length ≤ data.length := by
  unfold headerValueLength at read
  split at read
  all_goals try
    rw [Except.ok.injEq, Prod.mk.injEq] at read
    rw [← read.2]
  · split at read
    · rw [Except.ok.injEq, Prod.mk.injEq] at read
      rw [← read.2, List.length_cons, List.length_cons]
      omega
    · cases read
  · split at read
    · rw [Except.ok.injEq, Prod.mk.injEq] at read
      rw [← read.2, List.length_cons, List.length_cons]
      omega
    · cases read
  · cases read

/-- The bytes bound the rounds. -/
theorem parse_headers_fuel (fuel fuel' : Nat) (data : GoString) (headers : Headers)
    (enough : data.length ≤ fuel) (enough' : data.length ≤ fuel') :
    parseHeaders fuel data headers = parseHeaders fuel' data headers := by
  induction fuel generalizing fuel' data headers with
  | zero =>
      have none : data = [] := List.eq_nil_of_length_eq_zero (Nat.le_zero.mp enough)
      rw [none]
      cases fuel' <;> rfl
  | succ fuel ih =>
      cases data with
      | nil => cases fuel' <;> rfl
      | cons nameLength rest =>
          cases fuel' with
          | zero => simp at enough'
          | succ fuel' =>
              rw [List.length_cons] at enough enough'
              rw [parseHeaders, parseHeaders]
              split_ifs
              · rfl
              · simp only
                cases behind : rest.drop nameLength.toNat with
                | nil => rfl
                | cons valueType values =>
                    have fewer := congrArg List.length behind
                    rw [List.length_drop, List.length_cons] at fewer
                    simp only
                    cases read : headerValueLength valueType values with
                    | error error => rfl
                    | ok result =>
                        obtain ⟨valueLength, after⟩ := result
                        have shorter := header_value_rest valueType values after valueLength read
                        simp only
                        split_ifs
                        · rfl
                        all_goals
                          apply ih
                          · rw [List.length_drop]
                            omega
                          · rw [List.length_drop]
                            omega

def parseEventStreamHeaders (data : GoString) : Except HeaderError Headers :=
  parseHeaders data.length data []

end Headers

section Reading

/-- What a body ends with; `eof` is `io.EOF` itself. -/
inductive ReadError where
  | eof
  | unexpectedEOF
  | canceled
  | deadlineExceeded
  | timeout
  | idle
  | other
  deriving DecidableEq

/-- `io.Reader`: the bytes it delivers and the error behind them. -/
structure Body where
  data : GoString
  failure : ReadError

inductive FrameFault where
  | length (totalLength : Nat)
  | headersLength (headersLength : Nat)
  | preludeCRC
  | messageCRC
  | headers (error : HeaderError)
  deriving DecidableEq

inductive FrameError where
  | truncatedResponse
  | read (error : ReadError)
  | invalidEventStream (fault : FrameFault)
  deriving DecidableEq

def frameReadError : ReadError → FrameError
  | .eof => .truncatedResponse
  | .unexpectedEOF => .truncatedResponse
  | error => .read error

/-- `io.ReadFull`: the bytes and the rest, or the error. -/
def readFull (count : Nat) (body : Body) : Except ReadError (GoString × Body) :=
  if count ≤ body.data.length then
    .ok (body.data.take count, { body with data := body.data.drop count })
  else if body.failure = .eof && !body.data.isEmpty then .error .unexpectedEOF
  else .error body.failure

def maxEventStreamMessageSize : Nat := 16 * 1024 * 1024

structure EventFrame where
  headers : Headers
  payload : GoString

inductive FrameRead where
  | ended
  | failed (error : FrameError)
  | frame (frame : EventFrame) (rest : Body)

/-- The message behind a prelude. -/
def readMessage (prelude : GoString) (totalLength headersLength : Nat) (body : Body) : FrameRead :=
  match readFull (totalLength - 12) body with
  | .error error => .failed (frameReadError error)
  | .ok (message, rest) =>
      let covered := message.take (message.length - 4)
      if eventStreamUint32 (message.drop (message.length - 4)) ≠
          eventStreamChecksum prelude covered then
        .failed (.invalidEventStream .messageCRC)
      else
        match parseEventStreamHeaders (message.take headersLength) with
        | .error error => .failed (.invalidEventStream (.headers error))
        | .ok headers => .frame ⟨headers, covered.drop headersLength⟩ rest

def readFrame (body : Body) : FrameRead :=
  match readFull 12 body with
  | .error .eof => .ended
  | .error error => .failed (frameReadError error)
  | .ok (prelude, rest) =>
      let totalLength := (eventStreamUint32 prelude).toNat
      let headersLength := (eventStreamUint32 (prelude.drop 4)).toNat
      if totalLength < 16 ∨ maxEventStreamMessageSize < totalLength then
        .failed (.invalidEventStream (.length totalLength))
      else if totalLength - 16 < headersLength then
        .failed (.invalidEventStream (.headersLength headersLength))
      else if eventStreamUint32 (prelude.drop 8) ≠ checksumIEEE (prelude.take 8) then
        .failed (.invalidEventStream .preludeCRC)
      else readMessage prelude totalLength headersLength rest

theorem read_full_rest (count : Nat) (body rest : Body) (data : GoString)
    (read : readFull count body = .ok (data, rest)) :
    body.data = data ++ rest.data ∧ data.length = count ∧ rest.failure = body.failure := by
  unfold readFull at read
  split_ifs at read with fits
  rw [Except.ok.injEq, Prod.mk.injEq] at read
  rw [← read.1, ← read.2]
  exact ⟨(List.take_append_drop count body.data).symm, List.length_take_of_le fits, rfl⟩

/-- Every frame takes bytes from the body. -/
theorem read_frame_shorter (body rest : Body) (frame : EventFrame)
    (read : readFrame body = .frame frame rest) : rest.data.length < body.data.length := by
  unfold readFrame at read
  split at read
  · cases read
  · cases read
  · rename_i prelude behind whole
    obtain ⟨bytes, size, _⟩ := read_full_rest 12 body behind prelude whole
    simp only at read
    split_ifs at read
    unfold readMessage at read
    split at read
    · cases read
    · rename_i message after message_read
      obtain ⟨later, _, _⟩ := read_full_rest _ behind after message message_read
      simp only at read
      split_ifs at read
      split at read
      · cases read
      · rw [FrameRead.frame.injEq] at read
        rw [bytes, later, ← read.2]
        simp only [List.length_append]
        omega

/-- The frames of a body, and the error that ended them if any. -/
inductive ReadsFrames : Body → List EventFrame → Option FrameError → Prop where
  | ended {body : Body} (read : readFrame body = .ended) : ReadsFrames body [] none
  | failed {body : Body} {error : FrameError} (read : readFrame body = .failed error) :
      ReadsFrames body [] (some error)
  | frame {body rest : Body} {frame : EventFrame} {frames : List EventFrame}
      {error : Option FrameError} (read : readFrame body = .frame frame rest)
      (later : ReadsFrames rest frames error) : ReadsFrames body (frame :: frames) error

end Reading

end KiroProxy.EventFrames
