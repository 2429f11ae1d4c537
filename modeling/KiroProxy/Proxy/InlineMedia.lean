import KiroProxy.Proxy.ResponsesInput

/-!
# Inline media

Base64 texts, and the image that a content part holds, as `extractImageFromOpenAIPart` of
`proxy/translator.go` finds it: in a nested file or source first, then in the part's own fields.
-/

namespace KiroProxy.InlineMedia

open GoStrings KiroTypes Responses

set_option autoImplicit false

section Base64

def letterOrDigit (byte : UInt8) : Bool :=
  (0x41 ≤ byte && byte ≤ 0x5A) || (0x61 ≤ byte && byte ≤ 0x7A) || (0x30 ≤ byte && byte ≤ 0x39)

/-- The alphabets of package `encoding/base64`, by their last two letters. -/
def base64Letter (extra : GoString) (byte : UInt8) : Bool :=
  letterOrDigit byte || extra.contains byte

def stdExtra : GoString := lit "+/"

def urlExtra : GoString := lit "-_"

/-- Line ends are ignored in encoded texts. -/
def withoutLineEnds (text : GoString) : GoString :=
  text.filter fun byte => byte != 0x0A && byte != 0x0D

def decodesPadded (extra text : GoString) : Bool :=
  let text := withoutLineEnds text
  let padding := (text.reverse.takeWhile fun byte => byte == 0x3D).length
  text.length % 4 == 0 && padding ≤ 2 &&
    (text.take (text.length - padding)).all (base64Letter extra)

def decodesRaw (extra text : GoString) : Bool :=
  let text := withoutLineEnds text
  text.length % 4 != 1 && text.all (base64Letter extra)

def encodeSextet (value : UInt8) : UInt8 :=
  if value < 26 then 0x41 + value
  else if value < 52 then 0x61 + (value - 26)
  else if value < 62 then 0x30 + (value - 52)
  else if value = 62 then 0x2B
  else 0x2F

/-- `base64.StdEncoding.EncodeToString`. -/
def base64Encode : GoString → GoString
  | [] => []
  | [first] => [encodeSextet (first >>> 2), encodeSextet ((first &&& 0x03) <<< 4), 0x3D, 0x3D]
  | [first, second] =>
      [encodeSextet (first >>> 2), encodeSextet ((first &&& 0x03) <<< 4 ||| second >>> 4),
        encodeSextet ((second &&& 0x0F) <<< 2), 0x3D]
  | first :: second :: third :: rest =>
      [encodeSextet (first >>> 2), encodeSextet ((first &&& 0x03) <<< 4 ||| second >>> 4),
        encodeSextet ((second &&& 0x0F) <<< 2 ||| third >>> 6), encodeSextet (third &&& 0x3F)] ++
        base64Encode rest

example : base64Encode (lit "hello") = lit "aGVsbG8=" ∧
    decodesPadded stdExtra (lit "aGVs\nbG8=") = true := by decide

end Base64

section Images

variable (letters : Letters)

def parseBase64Image (data format : GoString) : Option KiroImage :=
  let format := letters.toLower format
  let format := if format = lit "jpg" then lit "jpeg" else format
  if decodesPadded stdExtra data || decodesRaw stdExtra data || decodesPadded urlExtra data ||
      decodesRaw urlExtra data then
    some ⟨if format = [] then lit "png" else format, data⟩
  else none

def subtypeByte (byte : UInt8) : Bool := letterOrDigit byte || (lit "+.-").contains byte

def parameterByte (byte : UInt8) : Bool := letterOrDigit byte || (lit "=._:+-").contains byte

/-- The type and the data of `data:image/type;parameters;base64,data`. A comma or a semicolon
is in none of the parts in front of the data. -/
def matchDataURL (text : GoString) : Option (GoString × GoString) :=
  if (lit "data:image/").isPrefixOf text then
    let rest := text.drop 11
    let header := rest.takeWhile fun byte => byte != 0x2C
    let data := rest.drop (header.length + 1)
    match header.splitOn 0x3B with
    | subtype :: parameters =>
        if subtype ≠ [] && subtype.all subtypeByte && parameters.getLast? == some (lit "base64") &&
            parameters.dropLast.all (fun parameter => parameter ≠ [] && parameter.all parameterByte) &&
            data ≠ [] then
          some (subtype, data)
        else none
    | [] => none
  else none

def parseDataURL (url : GoString) : Option KiroImage :=
  let cleaned := trimSpace (withoutLineEnds url)
  if contains cleaned (lit "[Image") then none
  else
    match matchDataURL cleaned with
    | some (format, data) => parseBase64Image letters data format
    | none => none

def stringOf : Option Json → Option GoString
  | some (.str text) => some text
  | _ => none

/-- A type that is given and that is not one of images. -/
def foreignType (part : JsonFields) : Bool :=
  [lit "mime", lit "media_type", lit "mime_type"].any fun key =>
    match stringOf (part.get key) with
    | some type => !(lit "image/").isPrefixOf (letters.toLower type)
    | none => false

def imageURL (part : JsonFields) : Option GoString :=
  match part.get (lit "image_url") with
  | some (.str url) => some url
  | some (.obj nested) => stringOf (JsonFields.get nested (lit "url"))
  | _ => none

/-- The image in the fields of a part, the first one that there is. -/
def ownImage (part : JsonFields) : Option KiroImage :=
  if foreignType letters part then none
  else
    [(stringOf (part.get (lit "url"))).bind (parseDataURL letters),
      (stringOf (part.get (lit "b64_json"))).bind (parseBase64Image letters · (lit "png")),
      (imageURL part).bind (parseDataURL letters),
      (stringOf (part.get (lit "image_base64"))).bind (parseBase64Image letters · (lit "png")),
      (stringOf (part.get (lit "data"))).bind (parseDataURL letters),
      (stringOf (part.get (lit "data"))).bind (parseBase64Image letters · (lit "png"))].findSome? id

def imagePartTypes : List GoString :=
  [lit "image", lit "image_url", lit "input_image", lit "file", lit "input_file"]

mutual

def extractImageFromOpenAIPart : Json → Option KiroImage
  | .obj part =>
      let partType := stringField part (lit "type")
      if partType ≠ [] ∧ partType ∉ imagePartTypes then none
      else
        [imageInside (lit "file") part, imageInside (lit "source") part,
          ownImage letters part].findSome? id
  | _ => none

/-- The image in the object under a key. -/
def imageInside (key : GoString) : List (GoString × Json) → Option KiroImage
  | [] => none
  | (name, value) :: fields =>
      if name = key then extractImageFromOpenAIPart value else imageInside key fields

end

end Images

end KiroProxy.InlineMedia
