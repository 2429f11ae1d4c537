import KiroProxy.Foundation.Searching
import Mathlib.Data.UInt

/-!
# The check of Go regexes

`compilesInGo` of `ui/src/features/settings/lib/go-regex.ts`. A text of JavaScript is its UTF-16
code units, and a position in it is the text from there on. Which names are scripts is a
parameter.
-/

namespace KiroProxy.GoRegex

open Foundation.Searching

set_option autoImplicit false

abbrev Units := List UInt16

def charUnits (char : Char) : Units :=
  if char.toNat < 0x10000 then [char.toNat.toUInt16]
  else
    [(0xD800 + (char.toNat - 0x10000) / 0x400).toUInt16,
      (0xDC00 + (char.toNat - 0x10000) % 0x400).toUInt16]

def units (text : String) : Units := text.toList.flatMap charUnits

section Characters

def codePointAt : Units → Option Nat
  | [] => none
  | unit :: rest =>
      if 0xD800 ≤ unit ∧ unit ≤ 0xDBFF then
        match rest with
        | low :: _ =>
            if 0xDC00 ≤ low ∧ low ≤ 0xDFFF then
              some (0x10000 + (unit.toNat - 0xD800) * 0x400 + (low.toNat - 0xDC00))
            else some unit.toNat
        | [] => some unit.toNat
      else some unit.toNat

/-- How many units a code point takes. -/
def pointSize (point : Nat) : Nat := if 0xFFFF < point then 2 else 1

def isOctal (unit : UInt16) : Bool := 0x30 ≤ unit && unit ≤ 0x37

def isDigit (unit : UInt16) : Bool := 0x30 ≤ unit && unit ≤ 0x39

def isUpper (unit : UInt16) : Bool := 0x41 ≤ unit && unit ≤ 0x5A

def isLower (unit : UInt16) : Bool := 0x61 ≤ unit && unit ≤ 0x7A

def isHex (unit : UInt16) : Bool :=
  isDigit unit || (0x41 ≤ unit && unit ≤ 0x46) || (0x61 ≤ unit && unit ≤ 0x66)

def isAlnum (unit : UInt16) : Bool := isUpper unit || isLower unit || isDigit unit

def hexValue (unit : UInt16) : Nat :=
  if isDigit unit then unit.toNat - 0x30
  else if isUpper unit then unit.toNat - 0x37
  else unit.toNat - 0x57

/-- `Number.parseInt` of hexadecimal digits. -/
def parseHex (digits : Units) : Nat := digits.foldl (fun value unit => value * 16 + hexValue unit) 0

def captureName (name : Units) : Bool :=
  name != [] && name.all fun unit => isAlnum unit || unit == 0x5F

end Characters

section Names

def perlClasses : List UInt16 := [0x64, 0x44, 0x73, 0x53, 0x77, 0x57]

def posixClasses : List Units :=
  [units "alnum", units "alpha", units "ascii", units "blank", units "cntrl", units "digit",
    units "graph", units "lower", units "print", units "punct", units "space", units "upper",
    units "word", units "xdigit"]

def controlEscapes : List (UInt16 × Nat) :=
  [(0x61, 7), (0x66, 12), (0x6E, 10), (0x72, 13), (0x74, 9), (0x76, 11)]

/-- Go's canonicalName: separators dropped, first letter upper case, the rest lower case. -/
def canonicalName (name : Units) : Units :=
  match name.filter fun unit => !(unit == 0x5F || unit == 0x2D || unit == 0x20) with
  | [] => []
  | first :: rest =>
      (if isLower first then first - 0x20 else first) ::
        rest.map fun unit => if isUpper unit then unit + 0x20 else unit

def categoryNames : List String :=
  ["C", "Cc", "Cf", "Cn", "Co", "Cs", "L", "Ll", "Lm", "Lo", "Lt", "Lu", "M", "Mc", "Me", "Mn",
    "N", "Nd", "Nl", "No", "P", "Pc", "Pd", "Pe", "Pf", "Pi", "Po", "Ps", "S", "Sc", "Sk", "Sm",
    "So", "Z", "Zl", "Zp", "Zs", "Cased_Letter", "Close_Punctuation", "Combining_Mark",
    "Connector_Punctuation", "Control", "Currency_Symbol", "Dash_Punctuation", "Decimal_Number",
    "Enclosing_Mark", "Final_Punctuation", "Format", "Initial_Punctuation", "Letter",
    "Letter_Number", "Line_Separator", "Lowercase_Letter", "Mark", "Math_Symbol",
    "Modifier_Letter", "Modifier_Symbol", "Nonspacing_Mark", "Number", "Open_Punctuation", "Other",
    "Other_Letter", "Other_Number", "Other_Punctuation", "Other_Symbol", "Paragraph_Separator",
    "Private_Use", "Punctuation", "Separator", "Space_Separator", "Spacing_Mark", "Surrogate",
    "Symbol", "Titlecase_Letter", "Unassigned", "Uppercase_Letter", "cntrl", "digit", "punct",
    "Any", "Assigned", "ASCII", "LC"]

def categories : List Units := categoryNames.map fun name => canonicalName (units name)

def isUnicodeClassName (isScript : Units → Bool) (name : Units) : Bool :=
  name != [] && (categories.contains (canonicalName name) || isScript name)

end Names

section Escapes

/-- The octal digits of an escape behind its first one: two more at most. -/
def octalFrom : Nat → Nat → Units → Nat × Units
  | more + 1, value, unit :: rest =>
      if isOctal unit then octalFrom more (value * 8 + (unit.toNat - 0x30)) rest
      else (value, unit :: rest)
  | _, value, text => (value, text)

/-- Go's parseEscape for the text behind a backslash: the character it stands for and the text
behind it. -/
def parseEscape : Units → Option (Nat × Units)
  | [] => none
  | unit :: next =>
      if unit = 0x30 ∨ (0x31 ≤ unit ∧ unit ≤ 0x37 ∧ next.head?.any isOctal = true) then
        some (octalFrom 2 (unit.toNat - 0x30) next)
      else if unit = 0x78 then
        match next with
        | 0x7B :: braced =>
            match indexOf [0x7D] braced with
            | none => none
            | some close =>
                let digits := braced.take close
                if digits != [] && digits.all isHex then
                  if 0x10FFFF < parseHex digits then none
                  else some (parseHex digits, braced.drop (close + 1))
                else none
        | first :: second :: rest =>
            if isHex first && isHex second then some (parseHex [first, second], rest) else none
        | _ => none
      else
        match controlEscapes.lookup unit with
        | some control => some (control, next)
        | none => if unit < 0x80 ∧ isAlnum unit = false then some (unit.toNat, next) else none

/-- A name or a class less its negation. -/
def affirmed : Units → Units
  | 0x5E :: name => name
  | name => name

/-- Go's parseUnicodeClass for the text behind the `p` or `P`: the text behind the class. -/
def parseUnicodeClass (isScript : Units → Bool) (text : Units) : Option Units :=
  match text with
  | 0x7B :: braced =>
      match indexOf [0x7D] braced with
      | none => none
      | some close =>
          if isUnicodeClassName isScript (affirmed (braced.take close)) then
            some (braced.drop (close + 1))
          else none
  | _ =>
      match codePointAt text with
      | none => none
      | some point =>
          if isUnicodeClassName isScript (affirmed (text.take (pointSize point))) then
            some (text.drop (pointSize point))
          else none

def parseClassChar : Units → Option (Nat × Units)
  | [] => none
  | 0x5C :: next => parseEscape next
  | unit :: rest =>
      let point := (codePointAt (unit :: rest)).getD 0
      some (point, (unit :: rest).drop (pointSize point))

/-- A character of a class, or a range of them. -/
def parseClassRange (text : Units) : Option Units :=
  match parseClassChar text with
  | none => none
  | some (low, rest) =>
      match rest with
      | 0x2D :: unit :: more =>
          if unit = 0x5D then some rest
          else
            match parseClassChar (unit :: more) with
            | none => none
            | some (high, rest) => if high < low then none else some rest
      | _ => some rest

/-- `[:name:]`, where the text starts with one: none where Go does not know the name. -/
def parsePosixClass : Units → Option (Option Units)
  | 0x5B :: 0x3A :: unit :: more =>
      (indexOf [0x3A, 0x5D] (unit :: more)).map fun close =>
        if posixClasses.contains (affirmed ((unit :: more).take close)) then
          some ((unit :: more).drop (close + 2))
        else none
  | _ => none

def parseClassItem (isScript : Units → Bool) (text : Units) : Option Units :=
  match parsePosixClass text with
  | some parsed => parsed
  | none =>
      match text with
      | 0x5C :: unit :: rest =>
          if unit = 0x70 ∨ unit = 0x50 then parseUnicodeClass isScript rest
          else if perlClasses.contains unit then some rest
          else parseClassRange text
      | _ => parseClassRange text

def parseClassItems (isScript : Units → Bool) : Nat → Bool → Units → Option Units
  | 0, _, _ => none
  | _, _, [] => none
  | fuel + 1, first, unit :: rest =>
      if first = false ∧ unit = 0x5D then some rest
      else (parseClassItem isScript (unit :: rest)).bind (parseClassItems isScript fuel false)

/-- Go's parseClass for the text behind a `[`: the text behind its `]`. -/
def parseClass (isScript : Units → Bool) (text : Units) : Option Units :=
  parseClassItems isScript (text.length + 1) true (affirmed text)

/-- The flags of a group, and whether the group opens. -/
def parseFlags : Bool → Bool → Units → Option (Units × Bool)
  | _, _, [] => none
  | negated, sawFlag, unit :: rest =>
      if unit = 0x69 ∨ unit = 0x6D ∨ unit = 0x73 ∨ unit = 0x55 then parseFlags negated true rest
      else if unit = 0x2D ∧ negated = false then parseFlags true false rest
      else if unit = 0x3A ∨ unit = 0x29 then
        if negated && !sawFlag then none else some (rest, unit == 0x3A)
      else none

/-- Go's parsePerlFlags for the text behind `(?`: where parsing resumes and whether a group
opens. -/
def parsePerlGroup (text : Units) : Option (Units × Bool) :=
  let named := match text with
    | 0x3C :: unit :: more => some (unit :: more)
    | 0x50 :: 0x3C :: unit :: more => some (unit :: more)
    | _ => none
  match named with
  | some text =>
      match indexOf [0x3E] text with
      | none => none
      | some close =>
          if captureName (text.take close) then some (text.drop (close + 1), true) else none
  | none => parseFlags false false text

end Escapes

section Repeats

def maxRepeat : Nat := 1000

/-- The counts of a repetition; without a maximum it is unbounded. -/
structure Counted where
  min : Nat
  max : Option Nat

def readDigits : Nat → Units → Nat × Units
  | value, [] => (value, [])
  | value, unit :: rest =>
      if isDigit unit then readDigits (value * 10 + (unit.toNat - 0x30)) rest
      else (value, unit :: rest)

/-- A number without leading zeros. -/
def readNumber : Units → Option (Nat × Units)
  | [] => none
  | unit :: rest =>
      if unit = 0x30 then some (0, rest)
      else if isDigit unit then some (readDigits (unit.toNat - 0x30) rest)
      else none

def readClosed (counted : Counted) : Units → Option (Counted × Units)
  | 0x7D :: rest => some (counted, rest)
  | _ => none

/-- `REPEAT` for the text behind a `{`: the counts, and the text behind the `}`. -/
def readRepeat (text : Units) : Option (Counted × Units) :=
  match readNumber text with
  | none => none
  | some (min, 0x2C :: rest) =>
      match readNumber rest with
      | none => readClosed ⟨min, none⟩ rest
      | some (max, rest) => readClosed ⟨min, some max⟩ rest
  | some (min, rest) => readClosed ⟨min, some min⟩ rest

/-- Whether Go takes the counts by themselves. -/
def Counted.InOrder (counted : Counted) : Prop :=
  counted.min ≤ maxRepeat ∧ ∀ max, counted.max = some max → max ≤ maxRepeat ∧ counted.min ≤ max

instance (counted : Counted) : Decidable counted.InOrder := by
  unfold Counted.InOrder
  cases counted.max with
  | none => exact decidable_of_iff (counted.min ≤ maxRepeat) (by simp)
  | some max =>
      exact decidable_of_iff (counted.min ≤ maxRepeat ∧ max ≤ maxRepeat ∧ counted.min ≤ max)
        (by simp)

def repeatWeight (operand : Nat) (counted : Counted) : Nat :=
  if counted.max = some 0 then 1
  else
    let count := counted.max.getD counted.min
    if 0 < count then operand * count else operand

end Repeats

section Scanning

structure Frame where
  done : Nat
  last : Option Nat

def Frame.start : Frame := ⟨1, none⟩

/-- The heaviest item of the group so far. -/
def Frame.heaviest (frame : Frame) : Nat := max frame.done (frame.last.getD 1)

def Frame.item (weight : Nat) (frame : Frame) : Frame := ⟨frame.heaviest, some weight⟩

def Frame.alternate (frame : Frame) : Frame := ⟨frame.heaviest, none⟩

/-- The frames, the innermost on top, and whether the last thing was a repetition. -/
structure State where
  top : Frame
  below : List Frame
  lastWasRepeat : Bool

def State.change (change : Frame → Frame) (state : State) : State :=
  ⟨change state.top, state.below, false⟩

def State.enter (state : State) : State := ⟨.start, state.top :: state.below, false⟩

variable (isScript : Units → Bool)

/-- Behind a repetition operator; a `?` makes it lazy. -/
def afterRepeat (state : State) (counted : Option Counted) (text : Units) :
    Option (State × Units) :=
  let text := match text with
    | 0x3F :: rest => rest
    | _ => text
  match state.top.last with
  | none => none
  | some last =>
      if state.lastWasRepeat then none
      else
        match counted with
        | none => some (⟨state.top, state.below, true⟩, text)
        | some counted =>
            if maxRepeat < repeatWeight last counted then none
            else
              some (⟨⟨state.top.done, some (repeatWeight last counted)⟩, state.below, true⟩, text)

/-- Behind a backslash. -/
def afterBackslash (state : State) (text : Units) : Option (State × Units) :=
  match text with
  | [] => none
  | next :: rest =>
      if next = 0x43 then none
      else if next = 0x51 then
        match indexOf [0x5C, 0x45] rest with
        | none => some (state.change (if rest = [] then id else .item 1), [])
        | some close =>
            some (state.change (if close = 0 then id else .item 1), rest.drop (close + 2))
      else
        let behind :=
          if next = 0x41 ∨ next = 0x62 ∨ next = 0x42 ∨ next = 0x7A then some rest
          else if next = 0x70 ∨ next = 0x50 then parseUnicodeClass isScript rest
          else if perlClasses.contains next then some rest
          else (parseEscape text).map Prod.snd
        behind.map fun rest => (state.change (.item 1), rest)

/-- One round of the loop; none where the pattern is rejected. -/
def step (state : State) (unit : UInt16) (rest : Units) : Option (State × Units) :=
  if unit = 0x28 then
    match rest with
    | 0x3F :: rest =>
        (parsePerlGroup rest).map fun group =>
          (if group.2 then state.enter else state.change id, group.1)
    | _ => some (state.enter, rest)
  else if unit = 0x29 then
    match state.below with
    | [] => none
    | outer :: below => some (⟨outer.item state.top.heaviest, below, false⟩, rest)
  else if unit = 0x7C then some (state.change .alternate, rest)
  else if unit = 0x5B then
    (parseClass isScript rest).map fun rest => (state.change (.item 1), rest)
  else if unit = 0x2A ∨ unit = 0x2B ∨ unit = 0x3F then afterRepeat state none rest
  else if unit = 0x7B then
    match readRepeat rest with
    | none => some (state.change (.item 1), rest)
    | some (counted, rest) =>
        if counted.InOrder then afterRepeat state (some counted) rest else none
  else if unit = 0x5C then afterBackslash isScript state rest
  else
    some (state.change (.item 1),
      (unit :: rest).drop (pointSize ((codePointAt (unit :: rest)).getD 0)))

def scan : Nat → State → Units → Bool
  | _, state, [] => state.below.isEmpty
  | 0, _, _ :: _ => false
  | fuel + 1, state, unit :: rest =>
      match step isScript state unit rest with
      | none => false
      | some (state, rest) => scan fuel state rest

def compilesInGo (pattern : Units) : Bool :=
  scan isScript pattern.length ⟨.start, [], false⟩ pattern

end Scanning

end KiroProxy.GoRegex
