import KiroProxy.Foundation.Delimited

/-!
# Reading delimited text through a buffer

A reader that gets its text in pieces keeps what it cannot judge yet in a buffer. It is
in a block or outside, and what it has released already stands before what the buffer
and the text to come read as.
-/

namespace KiroProxy.Foundation.Delimited.Delimiters

open Foundation.Searching

set_option autoImplicit false

variable {Symbol : Type*} (tags : Delimiters Symbol)

def Reads (stretches : List (List Symbol)) (outside within : List Symbol) : Prop :=
  ∃ opened closed, tags.Reading stretches outside within opened closed

/-- A reading that starts in a block or outside. -/
inductive ReadsFrom : Bool → List Symbol → List (List Symbol) →
    List Symbol → List Symbol → Prop where
  | outside {text : List Symbol} {later : List (List Symbol)} {outside within : List Symbol}
      (reads : tags.Reads (text :: later) outside within) :
      ReadsFrom false text later outside within
  | block {text content more : List Symbol} {later : List (List Symbol)}
      {outside within : List Symbol} (closes : FirstAt tags.closeTag text content more)
      (reads : tags.Reads (more :: later) outside within) :
      ReadsFrom true text later outside (content ++ within)
  | cut {text : List Symbol} {later : List (List Symbol)} {outside within : List Symbol}
      (absent : ¬tags.closeTag <:+: text) (reads : tags.Reads later outside within) :
      ReadsFrom true text later outside (text ++ within)

variable {tags}

theorem reads_flush {text : List Symbol} {later : List (List Symbol)}
    {outside within : List Symbol} (absent : ¬tags.openTag <:+: text)
    (reads : tags.Reads later outside within) :
    tags.ReadsFrom false text later (text ++ outside) within := by
  obtain ⟨opened, closed, reading⟩ := reads
  exact ReadsFrom.outside ⟨opened, closed, Reading.plain absent reading⟩

theorem reads_open {text before after : List Symbol} {later : List (List Symbol)}
    {outside within : List Symbol} (opens : FirstAt tags.openTag text before after)
    (reads : tags.ReadsFrom true after later outside within) :
    tags.ReadsFrom false text later (before ++ outside) within := by
  cases reads with
  | block closes reads =>
      obtain ⟨opened, closed, reading⟩ := reads
      exact ReadsFrom.outside ⟨opened + 1, closed + 1, Reading.block opens closes reading⟩
  | cut absent reads =>
      obtain ⟨opened, closed, reading⟩ := reads
      exact ReadsFrom.outside ⟨opened + 1, closed, Reading.cut opens absent reading⟩

theorem reads_close {text content more : List Symbol} {later : List (List Symbol)}
    {outside within : List Symbol} (closes : FirstAt tags.closeTag text content more)
    (reads : tags.ReadsFrom false more later outside within) :
    tags.ReadsFrom true text later outside (content ++ within) := by
  cases reads with
  | outside reads => exact ReadsFrom.block closes reads

theorem reads_behind_outside {released held more : List Symbol} {later : List (List Symbol)}
    {outside within : List Symbol}
    (behind : ∀ earlier rest, released ++ (held ++ more) = earlier ++ tags.openTag ++ rest →
      released.length ≤ earlier.length)
    (reads : tags.ReadsFrom false (held ++ more) later outside within) :
    tags.ReadsFrom false (released ++ (held ++ more)) later (released ++ outside) within := by
  cases reads with
  | outside reads =>
      obtain ⟨opened, closed, reading⟩ := reads
      apply ReadsFrom.outside
      refine ⟨opened, closed, ?_⟩
      cases reading with
      | plain missing rest =>
          have step := Reading.plain (absent_behind behind missing) rest
          rwa [List.append_assoc] at step
      | block opens closes rest =>
          have step := Reading.block (first_behind behind opens) closes rest
          rwa [List.append_assoc] at step
      | cut opens missing rest =>
          have step := Reading.cut (first_behind behind opens) missing rest
          rwa [List.append_assoc] at step

theorem reads_behind_block {released held more : List Symbol} {later : List (List Symbol)}
    {outside within : List Symbol}
    (behind : ∀ earlier rest, released ++ (held ++ more) = earlier ++ tags.closeTag ++ rest →
      released.length ≤ earlier.length)
    (reads : tags.ReadsFrom true (held ++ more) later outside within) :
    tags.ReadsFrom true (released ++ (held ++ more)) later outside (released ++ within) := by
  cases reads with
  | block closes reads =>
      have step := ReadsFrom.block (first_behind behind closes) reads
      rwa [List.append_assoc] at step
  | cut missing reads =>
      have step := ReadsFrom.cut (absent_behind behind missing) reads
      rwa [List.append_assoc] at step

theorem reads_hold_outside {released tail more : List Symbol} {later : List (List Symbol)}
    {outside within : List Symbol} (absent : ¬tags.openTag <:+: released ++ tail)
    (long : tags.openTag.length ≤ tail.length + 1)
    (reads : tags.ReadsFrom false (tail ++ more) later outside within) :
    tags.ReadsFrom false (released ++ (tail ++ more)) later (released ++ outside) within :=
  reads_behind_outside (held_back absent long more) reads

theorem reads_hold_block {released tail more : List Symbol} {later : List (List Symbol)}
    {outside within : List Symbol} (absent : ¬tags.closeTag <:+: released ++ tail)
    (long : tags.closeTag.length ≤ tail.length + 1)
    (reads : tags.ReadsFrom true (tail ++ more) later outside within) :
    tags.ReadsFrom true (released ++ (tail ++ more)) later outside (released ++ within) :=
  reads_behind_block (held_back absent long more) reads

end KiroProxy.Foundation.Delimited.Delimiters
