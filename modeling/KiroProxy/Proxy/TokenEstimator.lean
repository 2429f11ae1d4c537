import KiroProxy.JsonText
import KiroProxy.Proxy.KiroTypes

/-!
# Token estimates

`estimateApproxTokens` of `proxy/token_estimator.go` and the estimates made with it. What the
weighted sum of the rune classes comes to in floating point is a parameter.
-/

namespace KiroProxy.TokenEstimator

open GoStrings KiroTypes

set_option autoImplicit false

/-- How many runes of a text are of each class. -/
structure RuneClasses where
  regularAscii : Nat
  digits : Nat
  symbols : Nat
  nonASCII : Nat
  deriving DecidableEq

def RuneClasses.length (classes : RuneClasses) : Nat :=
  classes.regularAscii + classes.digits + classes.symbols + classes.nonASCII

def isSymbol (byte : UInt8) : Bool :=
  (0x21 ≤ byte && byte ≤ 0x2F) || (0x3A ≤ byte && byte ≤ 0x40) ||
    (0x5B ≤ byte && byte ≤ 0x60) || (0x7B ≤ byte && byte ≤ 0x7E)

def countByte (classes : RuneClasses) (byte : UInt8) : RuneClasses :=
  if 0x80 ≤ byte then { classes with nonASCII := classes.nonASCII + 1 }
  else if 0x30 ≤ byte ∧ byte ≤ 0x39 then { classes with digits := classes.digits + 1 }
  else if isSymbol byte then { classes with symbols := classes.symbols + 1 }
  else { classes with regularAscii := classes.regularAscii + 1 }

/-- A byte that begins no valid rune is one of its own. -/
def countRunes : Nat → GoString → RuneClasses → RuneClasses
  | 0, _, classes => classes
  | _, [], classes => classes
  | fuel + 1, byte :: text, classes =>
      if byte < 0x80 then countRunes fuel text (countByte classes byte)
      else
        countRunes fuel ((byte :: text).drop ((JsonText.runeSize (byte :: text)).getD 1))
          (countByte classes byte)

def runeClasses (text : GoString) : RuneClasses := countRunes text.length text ⟨0, 0, 0, 0⟩

example : runeClasses (lit "ab 12é!") = ⟨3, 2, 1, 1⟩ := by decide

variable (weigh : RuneClasses → Int)

def estimateApproxTokens (text : GoString) : Int :=
  if text = [] then 0
  else
    let classes := runeClasses text
    if classes.length < 5 then max 1 ((classes.length + 2) / 3 : Nat)
    else if weigh classes < 1 then 1
    else weigh classes

theorem approx_tokens_nonneg (text : GoString) : 0 ≤ estimateApproxTokens weigh text := by
  unfold estimateApproxTokens
  simp only
  split_ifs with none short light
  · exact Int.le_refl 0
  · exact Int.le_trans (by decide) (Int.le_max_left 1 _)
  · decide
  · omega

def estimateJSONTokens (value : Json) : Int :=
  match value with
  | .null => 0
  | value => estimateApproxTokens weigh (JsonText.marshal value)

/-- `estimateClaudeOutputTokens` and `estimateOpenAIOutputTokens`. -/
def estimateClaudeOutputTokens (content thinkingContent : GoString)
    (toolUses : List KiroToolUse) : Int :=
  toolUses.foldl (fun total use =>
    total + estimateApproxTokens weigh use.name + estimateJSONTokens weigh (.obj use.input))
    (estimateApproxTokens weigh content + estimateApproxTokens weigh thinkingContent)

end KiroProxy.TokenEstimator
