import KiroProxy.Foundation.Searching
import Mathlib.Data.List.DropRight
import Mathlib.Tactic.Ring

/-!
# Text with delimited blocks

A text arrives in stretches and holds blocks between an opening and a closing tag.
One reader walks through each stretch and keeps the blocks apart from the rest, the
other takes the first block out of the whole text and searches what is left from its
beginning again. The two agree exactly when every stretch ends outside a block and
the text outside the blocks never forms an opening tag that a closing tag follows.
-/

namespace KiroProxy.Foundation.Delimited

open Foundation.Searching

set_option autoImplicit false

section Trimming

variable {Symbol : Type*} (blank : Symbol → Bool)

def trim (text : List Symbol) : List Symbol :=
  (text.dropWhile blank).rdropWhile blank

theorem count_drop_while (counted : Symbol → Bool)
    (solid : ∀ symbol, counted symbol = true → blank symbol = false) (text : List Symbol) :
    (text.dropWhile blank).countP counted = text.countP counted := by
  induction text with
  | nil => rfl
  | cons symbol text ih =>
      rw [List.dropWhile_cons]
      split_ifs with skipped
      · have uncounted : ¬counted symbol = true := by
          intro taken
          rw [solid symbol taken] at skipped
          exact absurd skipped (by simp)
        rw [ih, List.countP_cons_of_neg uncounted]
      · rfl

theorem count_trim (counted : Symbol → Bool)
    (solid : ∀ symbol, counted symbol = true → blank symbol = false) (text : List Symbol) :
    (trim blank text).countP counted = text.countP counted := by
  unfold trim List.rdropWhile
  rw [List.countP_reverse, count_drop_while blank counted solid, List.countP_reverse,
    count_drop_while blank counted solid]

/-- What starts with a symbol that is not blank outlives the trimming before it. -/
theorem infix_drop_while (symbol : Symbol) (part text : List Symbol)
    (solid : blank symbol = false) (inside : symbol :: part <:+: text) :
    symbol :: part <:+: text.dropWhile blank := by
  obtain ⟨before, after, split⟩ := inside
  rw [← split, List.append_assoc, List.dropWhile_append]
  split_ifs with skipped
  · rw [List.cons_append, List.dropWhile_cons_of_neg (by simp [solid])]
    exact ⟨[], after, by simp⟩
  · exact ⟨before.dropWhile blank, after, by simp⟩

theorem infix_trim (first last : Symbol) (middle text : List Symbol)
    (head : blank first = false) (final : blank last = false)
    (inside : first :: middle ++ [last] <:+: text) :
    first :: middle ++ [last] <:+: trim blank text := by
  have kept := infix_drop_while blank first (middle ++ [last]) text head inside
  unfold trim List.rdropWhile
  rw [← List.reverse_infix, List.reverse_reverse]
  have backwards : (first :: middle ++ [last]).reverse = last :: (first :: middle).reverse := by
    simp
  rw [backwards]
  apply infix_drop_while blank last _ _ final
  rw [← backwards, List.reverse_infix]
  exact kept

theorem trim_within (text : List Symbol) : trim blank text <:+: text := by
  have front : text.dropWhile blank <:+ text := List.dropWhile_suffix blank
  have back : trim blank text <+: text.dropWhile blank := List.rdropWhile_prefix blank _
  exact back.isInfix.trans front.isInfix

theorem trim_trim (text : List Symbol) : trim blank (trim blank text) = trim blank text := by
  have front : (trim blank text).dropWhile blank = trim blank text := by
    rw [List.dropWhile_eq_self_iff]
    intro nonempty
    have starts : trim blank text <+: text.dropWhile blank := List.rdropWhile_prefix blank _
    have kept : 0 < (text.dropWhile blank).length :=
      Nat.lt_of_lt_of_le nonempty starts.length_le
    have first := List.dropWhile_get_zero_not blank text kept
    rw [starts.getElem nonempty]
    exact first
  conv_lhs => rw [trim, front]
  unfold trim
  exact List.rdropWhile_idempotent blank _

end Trimming

/-- Both tags start with the mark, which occurs nowhere else in them. -/
structure Delimiters (Symbol : Type*) where
  mark : Symbol
  openRest : List Symbol
  closeRest : List Symbol
  slash : Symbol
  blank : Symbol → Bool
  openUnmarked : mark ∉ openRest
  closeUnmarked : mark ∉ closeRest
  apart : ∀ left right, openRest ++ left ≠ closeRest ++ right
  markSolid : blank mark = false
  restSolid : (openRest ++ closeRest).any blank = false
  slashOpen : slash ∉ mark :: openRest
  slashClose : slash ∈ closeRest

namespace Delimiters

variable {Symbol : Type*}

def openTag (tags : Delimiters Symbol) : List Symbol := tags.mark :: tags.openRest

def closeTag (tags : Delimiters Symbol) : List Symbol := tags.mark :: tags.closeRest

variable (tags : Delimiters Symbol)

/-- The stretches read from left to right: the text outside the blocks, the text in
them, and how many blocks were opened and closed. A stretch that ends in a block ends it. -/
inductive Reading : List (List Symbol) → List Symbol → List Symbol → Nat → Nat → Prop where
  | done : Reading [] [] [] 0 0
  | plain {stretch : List Symbol} {later : List (List Symbol)} {outside within : List Symbol}
      {opened closed : Nat} (absent : ¬tags.openTag <:+: stretch)
      (rest : Reading later outside within opened closed) :
      Reading (stretch :: later) (stretch ++ outside) within opened closed
  | block {stretch before content after more : List Symbol} {later : List (List Symbol)}
      {outside within : List Symbol} {opened closed : Nat}
      (opens : FirstAt tags.openTag stretch before after)
      (closes : FirstAt tags.closeTag after content more)
      (rest : Reading (more :: later) outside within opened closed) :
      Reading (stretch :: later) (before ++ outside) (content ++ within)
        (opened + 1) (closed + 1)
  | cut {stretch before content : List Symbol} {later : List (List Symbol)}
      {outside within : List Symbol} {opened closed : Nat}
      (opens : FirstAt tags.openTag stretch before content)
      (absent : ¬tags.closeTag <:+: content)
      (rest : Reading later outside within opened closed) :
      Reading (stretch :: later) (before ++ outside) (content ++ within) (opened + 1) closed

def Spans (text : List Symbol) : Prop :=
  ∃ before content after, text = before ++ tags.openTag ++ content ++ tags.closeTag ++ after

/-- The first block taken out, again and again, from the beginning of what is left. -/
inductive Rescan : List Symbol → List Symbol → List Symbol → Nat → Prop where
  | stop {text : List Symbol} (closed : ¬tags.Spans text) : Rescan text text [] 0
  | remove {text before content after more outside within : List Symbol} {removed : Nat}
      (opens : FirstAt tags.openTag text before after)
      (closes : FirstAt tags.closeTag after content more)
      (rest : Rescan (before ++ more) outside within removed) :
      Rescan text outside (content ++ within) (removed + 1)

/-- Stretches that end outside the blocks, after text outside the blocks in which no
opening tag forms that a closing tag follows. -/
inductive Seamless : List Symbol → List (List Symbol) → Prop where
  | done {outside : List Symbol} (closed : ¬tags.Spans outside) : Seamless outside []
  | plain {outside stretch : List Symbol} {later : List (List Symbol)}
      (absent : ¬tags.openTag <:+: stretch) (rest : Seamless (outside ++ stretch) later) :
      Seamless outside (stretch :: later)
  | block {outside stretch before content after more : List Symbol}
      {later : List (List Symbol)} (opens : FirstAt tags.openTag stretch before after)
      (closes : FirstAt tags.closeTag after content more)
      (seam : ¬tags.openTag <:+: outside ++ before)
      (rest : Seamless (outside ++ before) (more :: later)) :
      Seamless outside (stretch :: later)

def Alike (left right : List Symbol) : Prop := trim tags.blank left = trim tags.blank right

section Occurrences

/-! The mark keeps any two tags of a text apart. -/

theorem marked_apart (mark : Symbol) (first second : List Symbol) (unmarked : mark ∉ first)
    {left leftAfter right rightAfter : List Symbol}
    (same : left ++ (mark :: first) ++ leftAfter = right ++ (mark :: second) ++ rightAfter)
    (before : left.length < right.length) :
    ∃ between, right = left ++ (mark :: first) ++ between ∧
      leftAfter = between ++ (mark :: second) ++ rightAfter := by
  rw [List.append_assoc right, List.append_eq_append_iff] at same
  rcases same with ⟨between, split, rest⟩ | ⟨inside, split, rest⟩
  · exact ⟨between, split, by rw [rest, List.append_assoc]⟩
  · cases inside with
    | nil => exact ⟨[], by rw [split, List.append_nil, List.append_nil], by simpa using rest.symm⟩
    | cons symbol inside =>
        rw [List.cons_append, List.cons_append, List.cons.injEq] at rest
        obtain ⟨rfl, _⟩ := rest
        rw [List.append_eq_append_iff] at split
        rcases split with ⟨back, longer, tag⟩ | ⟨back, shorter, _⟩
        · cases back with
          | nil => simp [longer] at before
          | cons head back =>
              rw [List.cons_append, List.cons.injEq] at tag
              exact absurd (by simp [tag.2]) unmarked
        · rw [shorter, List.length_append] at before
          omega

/-- An opening and a closing tag of a text do not share a symbol. -/
theorem tags_apart (tags : Delimiters Symbol) {left leftAfter right rightAfter : List Symbol}
    (same : left ++ tags.openTag ++ leftAfter = right ++ tags.closeTag ++ rightAfter) :
    (∃ between, right = left ++ tags.openTag ++ between ∧
      leftAfter = between ++ tags.closeTag ++ rightAfter) ∨
    (∃ between, left = right ++ tags.closeTag ++ between ∧
      rightAfter = between ++ tags.openTag ++ leftAfter) := by
  rcases Nat.lt_trichotomy left.length right.length with before | level | behind
  · exact Or.inl (marked_apart tags.mark _ _ tags.openUnmarked same before)
  · rw [List.append_assoc, List.append_assoc] at same
    obtain ⟨_, rests⟩ := List.append_inj same level
    unfold openTag closeTag at rests
    rw [List.cons_append, List.cons_append, List.cons.injEq] at rests
    exact absurd rests.2 (tags.apart leftAfter rightAfter)
  · exact Or.inr (marked_apart tags.mark _ _ tags.closeUnmarked same.symm behind)

variable (tags : Delimiters Symbol)

theorem open_nonempty : tags.openTag ≠ [] := List.cons_ne_nil _ _

theorem close_nonempty : tags.closeTag ≠ [] := List.cons_ne_nil _ _

variable {tags}

theorem first_after (text after : List Symbol) (absent : ¬tags.openTag <:+: text) :
    FirstAt tags.openTag (text ++ tags.openTag ++ after) text after := by
  refine ⟨rfl, ?_⟩
  intro earlier rest split
  by_contra shorter
  obtain ⟨between, inside, _⟩ :=
    marked_apart tags.mark _ _ tags.openUnmarked split.symm (Nat.lt_of_not_le shorter)
  exact absent ⟨earlier, between, inside.symm⟩

/-- A closing tag behind an opening tag is behind all of it. -/
theorem close_after_open (after earlier rest : List Symbol)
    (split : tags.openTag ++ after = earlier ++ tags.closeTag ++ rest) :
    tags.openTag.length ≤ earlier.length := by
  have whole : [] ++ tags.openTag ++ after = earlier ++ tags.closeTag ++ rest := split
  rcases tags_apart tags whole with ⟨between, inside, _⟩ | ⟨between, before, _⟩
  · rw [inside]
    simp only [List.nil_append, List.length_append]
    omega
  · have length := congrArg List.length before
    simp [closeTag] at length

theorem spans_of_first {text before after content more : List Symbol}
    (opens : FirstAt tags.openTag text before after)
    (closes : FirstAt tags.closeTag after content more) : tags.Spans text :=
  ⟨before, content, more, by rw [opens.1, closes.1]; simp only [List.append_assoc]⟩

theorem first_of_spans {text : List Symbol} (spans : tags.Spans text) :
    ∃ before after content more, FirstAt tags.openTag text before after ∧
      FirstAt tags.closeTag after content more := by
  classical
  obtain ⟨left, inner, right, split⟩ := spans
  have whole : text = left ++ tags.openTag ++ (inner ++ tags.closeTag ++ right) := by
    rw [split]
    simp only [List.append_assoc]
  obtain ⟨before, after, opens⟩ := exists_first_at (open_nonempty tags)
    ⟨left, inner ++ tags.closeTag ++ right, whole.symm⟩
  have closes : tags.closeTag <:+: after := by
    have bound := opens.2 left _ whole
    have texts := opens.1.symm.trans whole
    rcases Nat.lt_or_eq_of_le bound with earlier | level
    · obtain ⟨between, _, remains⟩ :=
        marked_apart tags.mark _ _ tags.openUnmarked texts earlier
      exact ⟨between ++ tags.openTag ++ inner, right, by
        rw [remains]
        simp [openTag]⟩
    · rw [List.append_assoc, List.append_assoc] at texts
      obtain ⟨_, tails⟩ := List.append_inj texts level
      exact ⟨inner, right, (List.append_cancel_left tails).symm⟩
  obtain ⟨content, more, ends⟩ := exists_first_at (close_nonempty tags) closes
  exact ⟨before, after, content, more, opens, ends⟩

/-- The first block of a text with a block is that block, or it starts before it. It
ends with that block or ends before it. -/
theorem first_removal {text after content more before inner rest left : List Symbol}
    (closes : FirstAt tags.closeTag after content more)
    (opens : FirstAt tags.openTag (text ++ tags.openTag ++ after) before left)
    (ends : FirstAt tags.closeTag left inner rest) :
    (∃ tail, text = before ++ tags.openTag ++ inner ++ tags.closeTag ++ tail) ∨
    (rest = more ∧
      (before = text ∧ inner = content ∨ ∃ tail, text = before ++ tags.openTag ++ tail)) := by
  rcases Nat.lt_or_ge before.length text.length with earlier | level
  · obtain ⟨between, split, remains⟩ :=
      marked_apart tags.mark _ _ tags.openUnmarked opens.1.symm earlier
    have texts : between ++ tags.openTag ++ after = inner ++ tags.closeTag ++ rest := by
      rw [← ends.1]
      exact remains.symm
    rcases tags_apart tags texts with ⟨middle, inside, behind⟩ | ⟨middle, inside, _⟩
    · have shortest := closes.2 middle rest behind
      have first := ends.2 (between ++ tags.openTag ++ content) more (by
        rw [remains, closes.1]
        simp [openTag])
      have same : content.length = middle.length := by
        rw [inside] at first
        simp only [List.length_append] at first
        omega
      rw [closes.1, List.append_assoc, List.append_assoc] at behind
      obtain ⟨_, tails⟩ := List.append_inj behind same
      right
      exact ⟨(List.append_cancel_left tails).symm, Or.inr ⟨between, split⟩⟩
    · left
      refine ⟨middle, ?_⟩
      rw [split, inside]
      simp [openTag]
  · have bound := opens.2 text after rfl
    have splits := opens.1
    rw [List.append_assoc, List.append_assoc] at splits
    obtain ⟨same, tails⟩ := List.append_inj splits (Nat.le_antisymm level bound)
    have remains := List.append_cancel_left tails
    rw [← remains] at ends
    obtain ⟨inside, behind⟩ := first_unique ends closes
    right
    exact ⟨behind, Or.inl ⟨same.symm, inside⟩⟩

theorem close_behind {text more before inner tail : List Symbol}
    (absent : ¬tags.openTag <:+: text)
    (spans : text ++ more = before ++ tags.openTag ++ inner ++ tags.closeTag ++ tail) :
    tags.closeTag <:+: more := by
  rw [List.append_assoc _ tags.closeTag, List.append_assoc _ inner,
    List.append_eq_append_iff] at spans
  rcases spans with ⟨inside, _, split⟩ | ⟨inside, split, _⟩
  · exact ⟨inside ++ inner, tail, by rw [split]; simp only [List.append_assoc]⟩
  · exact absurd ⟨before, inside, split.symm⟩ absent

theorem spans_of_infix {text more : List Symbol} (opens : tags.openTag <:+: text)
    (closes : tags.closeTag <:+: more) (rest : List Symbol) :
    tags.Spans (text ++ (more ++ rest)) := by
  obtain ⟨before, content, split⟩ := opens
  obtain ⟨inner, after, tail⟩ := closes
  refine ⟨before, content ++ inner, after ++ rest, ?_⟩
  rw [← split, ← tail]
  simp only [List.append_assoc]

end Occurrences

section Counting

variable {tags}

/-! Neither reader loses or repeats a symbol. -/

theorem reading_count {stretches : List (List Symbol)} {outside within : List Symbol}
    {opened closed : Nat} (counted : Symbol → Bool)
    (reading : tags.Reading stretches outside within opened closed) :
    stretches.flatten.countP counted = outside.countP counted + within.countP counted +
      opened * tags.openTag.countP counted + closed * tags.closeTag.countP counted := by
  induction reading with
  | done => simp
  | plain _ _ ih =>
      rw [List.flatten_cons, List.countP_append, List.countP_append, ih]
      omega
  | block opens closes _ ih =>
      rw [List.flatten_cons, List.countP_append] at ih ⊢
      rw [opens.1, closes.1]
      simp only [List.countP_append, Nat.add_mul, Nat.one_mul]
      omega
  | cut opens _ _ ih =>
      rw [List.flatten_cons, List.countP_append, ih, opens.1]
      simp only [List.countP_append, Nat.add_mul, Nat.one_mul]
      omega

theorem rescan_count {text outside within : List Symbol} {removed : Nat}
    (counted : Symbol → Bool) (rescan : tags.Rescan text outside within removed) :
    text.countP counted = outside.countP counted + within.countP counted +
      removed * (tags.openTag.countP counted + tags.closeTag.countP counted) := by
  induction rescan with
  | stop => simp
  | remove opens closes _ ih =>
      rw [opens.1, closes.1]
      simp only [List.countP_append, Nat.add_mul, Nat.one_mul] at ih ⊢
      omega

theorem reading_closed_le {stretches : List (List Symbol)} {outside within : List Symbol}
    {opened closed : Nat} (reading : tags.Reading stretches outside within opened closed) :
    closed ≤ opened := by
  induction reading with
  | done => exact Nat.le_refl 0
  | plain _ _ ih => exact ih
  | block _ _ _ ih => exact Nat.succ_le_succ ih
  | cut _ _ _ ih => exact Nat.le_succ_of_le ih

end Counting

section Agreement

variable {tags}

theorem rescan_final {text outside within : List Symbol} {removed : Nat}
    (rescan : tags.Rescan text outside within removed) : ¬tags.Spans outside := by
  induction rescan with
  | stop closed => exact closed
  | remove _ _ _ ih => exact ih

theorem rescan_removes {text before after content more outside within : List Symbol}
    {removed : Nat} (rescan : tags.Rescan text outside within removed)
    (opens : FirstAt tags.openTag text before after)
    (closes : FirstAt tags.closeTag after content more) :
    ∃ inner count, within = content ++ inner ∧
      tags.Rescan (before ++ more) outside inner count := by
  cases rescan with
  | stop closed => exact absurd (spans_of_first opens closes) closed
  | remove opens' closes' rest =>
      obtain ⟨rfl, rfl⟩ := first_unique opens' opens
      obtain ⟨rfl, rfl⟩ := first_unique closes' closes
      exact ⟨_, _, rfl, rest⟩

theorem alike_count {left right : List Symbol} (alike : tags.Alike left right)
    (counted : Symbol → Bool)
    (solid : ∀ symbol, counted symbol = true → tags.blank symbol = false) :
    left.countP counted = right.countP counted := by
  rw [← count_trim tags.blank counted solid left, alike,
    count_trim tags.blank counted solid right]

theorem close_rest_solid {symbol : Symbol} (member : symbol ∈ tags.closeRest) :
    tags.blank symbol = false := by
  have solid := List.any_eq_false.mp tags.restSolid symbol (List.mem_append_right _ member)
  exact Bool.eq_false_iff.mpr solid

theorem spans_alike {left right : List Symbol} (alike : tags.Alike left right)
    (spans : tags.Spans left) : tags.Spans right := by
  obtain ⟨before, content, after, split⟩ := spans
  obtain ⟨front, last, close⟩ : ∃ front last, tags.closeTag = front ++ [last] :=
    ⟨_, _, (List.dropLast_append_getLast (close_nonempty tags)).symm⟩
  have final : tags.blank last = false := by
    have member : last ∈ tags.closeTag := by simp [close]
    rcases List.mem_cons.mp member with rfl | rest
    · exact tags.markSolid
    · exact close_rest_solid rest
  have inside : tags.mark :: (tags.openRest ++ content ++ front) ++ [last] <:+: left :=
    ⟨before, after, by
      rw [split, close]
      simp [openTag]⟩
  have kept := infix_trim tags.blank tags.mark last _ left tags.markSolid final inside
  rw [alike] at kept
  obtain ⟨earlier, later, whole⟩ := kept.trans (trim_within tags.blank right)
  refine ⟨earlier, content, later, ?_⟩
  rw [← whole, close]
  simp [openTag]

def solidCount (tags : Delimiters Symbol) (text : List Symbol) : Nat :=
  text.countP (fun symbol => !tags.blank symbol)

theorem alike_solid_count {left right : List Symbol} (alike : tags.Alike left right) :
    tags.solidCount left = tags.solidCount right :=
  alike_count alike _ (by simp)

theorem solid_count_append (left right : List Symbol) :
    tags.solidCount (left ++ right) = tags.solidCount left + tags.solidCount right :=
  List.countP_append

theorem solid_count_open_pos : 0 < tags.solidCount tags.openTag := by
  unfold solidCount openTag
  rw [List.countP_cons_of_pos (by simp [tags.markSolid])]
  exact Nat.succ_pos _

/-- Once the rescan has taken an opening tag that the reading left outside the blocks,
it has less left outside them for good. -/
theorem rescan_behind {stretches : List (List Symbol)} {outside within : List Symbol}
    {opened closed : Nat} (reading : tags.Reading stretches outside within opened closed)
    (even : opened = closed) (short common long : List Symbol)
    (absent : ¬tags.openTag <:+: short) (occurs : tags.openTag <:+: long)
    (less : tags.solidCount short < tags.solidCount long)
    {left inner : List Symbol} {removed : Nat}
    (rescan : tags.Rescan (short ++ common ++ stretches.flatten) left inner removed) :
    ¬tags.Alike (long ++ common ++ outside) left := by
  induction reading generalizing short common long left inner removed with
  | done =>
      intro alike
      rw [List.flatten_nil, List.append_nil] at rescan
      rw [List.append_nil] at alike
      cases rescan with
      | stop =>
          have counts := alike_solid_count alike
          rw [solid_count_append, solid_count_append] at counts
          omega
      | remove opens closes rest =>
          obtain ⟨_, _, _, split⟩ := spans_of_first opens closes
          have spans := spans_of_infix occurs (close_behind absent split) []
          rw [List.append_nil] at spans
          exact rescan_final rest (spans_alike alike spans)
  | @plain stretch later outside within opened closed absentHere rest ih =>
      rw [List.flatten_cons, ← List.append_assoc, List.append_assoc short] at rescan
      have final := ih even short (common ++ stretch) long absent occurs less rescan
      simpa only [List.append_assoc] using final
  | @block stretch before content after more later outside within opened closed
      opens closes rest ih =>
      intro alike
      have texts : short ++ common ++ (stretch :: later).flatten =
          (short ++ common ++ before) ++ tags.openTag ++ (after ++ later.flatten) := by
        rw [List.flatten_cons, opens.1]
        simp only [List.append_assoc]
      rw [texts] at rescan
      have ends := first_append closes later.flatten
      cases rescan with
      | stop closed =>
          apply closed
          rw [ends.1]
          exact ⟨short ++ common ++ before, content, more ++ later.flatten,
            by simp only [List.append_assoc]⟩
      | @remove _ earlier content' remains behind _ within' removed' opens' closes' rescan' =>
          have apart := first_absent (open_nonempty tags) opens'
          rcases first_removal ends opens' closes' with ⟨tail, split⟩ | ⟨rfl, whole⟩
          · rw [List.append_assoc short] at split
            have spans := spans_of_infix occurs (close_behind absent split) outside
            apply rescan_final rescan'
            apply spans_alike alike
            simpa only [List.append_assoc] using spans
          · have shorter : tags.solidCount earlier ≤
                tags.solidCount short + tags.solidCount (common ++ before) := by
              rw [← solid_count_append, ← List.append_assoc]
              rcases whole with ⟨rfl, _⟩ | ⟨tail, split⟩
              · exact Nat.le_refl _
              · rw [split, solid_count_append, solid_count_append]
                omega
            have fewer : tags.solidCount earlier <
                tags.solidCount (long ++ (common ++ before)) := by
              rw [solid_count_append]
              omega
            have inside : tags.openTag <:+: long ++ (common ++ before) :=
              occurs.trans (List.prefix_append _ _).isInfix
            have next : tags.Rescan (earlier ++ [] ++ (more :: later).flatten)
                left within' removed' := by
              rw [List.append_nil, List.flatten_cons]
              exact rescan'
            have final := ih (Nat.succ.inj even) earlier [] (long ++ (common ++ before))
              apart inside fewer next
            apply final
            simpa only [List.append_assoc, List.append_nil, List.nil_append] using alike
  | cut _ _ rest =>
      have bound := reading_closed_le rest
      omega

theorem seamless_of_alike {stretches : List (List Symbol)} {outside within : List Symbol}
    {opened closed : Nat} (reading : tags.Reading stretches outside within opened closed)
    (even : opened = closed) (visible : List Symbol) {left inner : List Symbol} {removed : Nat}
    (rescan : tags.Rescan (visible ++ stretches.flatten) left inner removed)
    (alike : tags.Alike (visible ++ outside) left) : tags.Seamless visible stretches := by
  induction reading generalizing visible left inner removed with
  | done =>
      rw [List.append_nil] at alike
      apply Seamless.done
      intro spans
      exact rescan_final rescan (spans_alike alike spans)
  | @plain stretch later outside within opened closed absent rest ih =>
      apply Seamless.plain absent
      rw [List.flatten_cons, ← List.append_assoc] at rescan
      rw [← List.append_assoc] at alike
      exact ih even _ rescan alike
  | @block stretch before content after more later outside within opened closed
      opens closes rest ih =>
      have texts : visible ++ (stretch :: later).flatten =
          (visible ++ before) ++ tags.openTag ++ (after ++ later.flatten) := by
        rw [List.flatten_cons, opens.1]
        simp only [List.append_assoc]
      rw [texts] at rescan
      rw [← List.append_assoc] at alike
      have ends := first_append closes later.flatten
      by_cases seam : tags.openTag <:+: visible ++ before
      · exfalso
        cases rescan with
        | stop closed =>
            apply closed
            rw [ends.1]
            exact ⟨visible ++ before, content, more ++ later.flatten,
              by simp only [List.append_assoc]⟩
        | @remove _ earlier content' remains behind _ within' removed' opens' closes' rescan' =>
            have apart := first_absent (open_nonempty tags) opens'
            rcases first_removal ends opens' closes' with ⟨tail, split⟩ | ⟨rfl, whole⟩
            · apply rescan_final rescan'
              apply spans_alike alike
              refine ⟨earlier, content', tail ++ outside, ?_⟩
              rw [split]
              simp only [List.append_assoc]
            · rcases whole with ⟨rfl, _⟩ | ⟨tail, split⟩
              · exact apart seam
              · have fewer : tags.solidCount earlier < tags.solidCount (visible ++ before) := by
                  have positive : 0 < tags.solidCount tags.openTag := solid_count_open_pos
                  rw [split, solid_count_append, solid_count_append]
                  omega
                have next : tags.Rescan (earlier ++ [] ++ (more :: later).flatten)
                    left within' removed' := by
                  rw [List.append_nil, List.flatten_cons]
                  exact rescan'
                apply rescan_behind rest (Nat.succ.inj even) earlier [] (visible ++ before)
                  apart seam fewer next
                rw [List.append_nil]
                exact alike
      · have first := first_after (visible ++ before) (after ++ later.flatten) seam
        obtain ⟨_, _, _, rescan'⟩ := rescan_removes rescan first ends
        rw [← List.flatten_cons] at rescan'
        apply Seamless.block opens closes seam
        exact ih (Nat.succ.inj even) (visible ++ before) rescan' alike
  | cut _ _ rest =>
      have bound := reading_closed_le rest
      omega

/-- Counting the slashes and then the symbols that are not blank shows that readers who
agree have opened, closed and removed equally many blocks. -/
theorem even_of_alike {stretches : List (List Symbol)} {outside within left inner : List Symbol}
    {opened closed removed : Nat}
    (reading : tags.Reading stretches outside within opened closed)
    (rescan : tags.Rescan stretches.flatten left inner removed)
    (visible : tags.Alike outside left) (reasoning : tags.Alike within inner) :
    opened = closed := by
  classical
  have count (counted : Symbol → Bool)
      (solid : ∀ symbol, counted symbol = true → tags.blank symbol = false) :
      opened * tags.openTag.countP counted + closed * tags.closeTag.countP counted =
        removed * (tags.openTag.countP counted + tags.closeTag.countP counted) := by
    have read := reading_count counted reading
    have scanned := rescan_count counted rescan
    have shown := alike_count visible counted solid
    have thought := alike_count reasoning counted solid
    omega
  have closes : closed = removed := by
    have slashes := count (fun symbol => symbol = tags.slash) (by
      intro symbol same
      rw [decide_eq_true_eq] at same
      rw [same]
      exact close_rest_solid tags.slashClose)
    have none : tags.openTag.countP (fun symbol => symbol = tags.slash) = 0 := by
      rw [List.countP_eq_zero]
      intro symbol member same
      rw [decide_eq_true_eq] at same
      exact tags.slashOpen (same ▸ member)
    have some : 0 < tags.closeTag.countP (fun symbol => symbol = tags.slash) := by
      rw [List.countP_pos_iff]
      exact ⟨tags.slash, List.mem_cons_of_mem _ tags.slashClose, by simp⟩
    rw [none, Nat.mul_zero, Nat.zero_add, Nat.zero_add] at slashes
    exact Nat.eq_of_mul_eq_mul_right some slashes
  have solids := count (fun symbol => !tags.blank symbol) (by simp)
  rw [← closes, Nat.mul_add] at solids
  have positive : 0 < tags.solidCount tags.openTag := solid_count_open_pos
  exact (Nat.eq_of_mul_eq_mul_right positive (Nat.add_right_cancel solids))

section Inversion

variable {stretch before content after more : List Symbol} {later : List (List Symbol)}
  {outside within : List Symbol} {opened closed : Nat}

theorem reading_plain (reading : tags.Reading (stretch :: later) outside within opened closed)
    (absent : ¬tags.openTag <:+: stretch) :
    ∃ text, outside = stretch ++ text ∧ tags.Reading later text within opened closed := by
  cases reading with
  | plain _ rest => exact ⟨_, rfl, rest⟩
  | block opens => exact absurd ⟨_, _, opens.1.symm⟩ absent
  | cut opens => exact absurd ⟨_, _, opens.1.symm⟩ absent

theorem reading_block (reading : tags.Reading (stretch :: later) outside within opened closed)
    (opens : FirstAt tags.openTag stretch before after)
    (closes : FirstAt tags.closeTag after content more) :
    ∃ text thought wasOpened wasClosed, outside = before ++ text ∧ within = content ++ thought ∧
      tags.Reading (more :: later) text thought wasOpened wasClosed := by
  cases reading with
  | plain absent => exact absurd ⟨_, _, opens.1.symm⟩ absent
  | block opens' closes' rest =>
      obtain ⟨rfl, rfl⟩ := first_unique opens' opens
      obtain ⟨rfl, rfl⟩ := first_unique closes' closes
      exact ⟨_, _, _, _, rfl, rfl, rest⟩
  | cut opens' absent =>
      obtain ⟨rfl, rfl⟩ := first_unique opens' opens
      exact absurd ⟨_, _, closes.1.symm⟩ absent

theorem reading_cut (reading : tags.Reading (stretch :: later) outside within opened closed)
    (opens : FirstAt tags.openTag stretch before content)
    (absent : ¬tags.closeTag <:+: content) :
    ∃ text thought wasOpened wasClosed, outside = before ++ text ∧ within = content ++ thought ∧
      tags.Reading later text thought wasOpened wasClosed := by
  cases reading with
  | plain absent => exact absurd ⟨_, _, opens.1.symm⟩ absent
  | block opens' closes' =>
      obtain ⟨rfl, rfl⟩ := first_unique opens' opens
      exact absurd ⟨_, _, closes'.1.symm⟩ absent
  | cut opens' _ rest =>
      obtain ⟨rfl, rfl⟩ := first_unique opens' opens
      exact ⟨_, _, _, _, rfl, rfl, rest⟩

end Inversion

theorem reading_unique {stretches : List (List Symbol)} {outside within : List Symbol}
    {opened closed : Nat} (reading : tags.Reading stretches outside within opened closed)
    {outside' within' : List Symbol} {opened' closed' : Nat}
    (other : tags.Reading stretches outside' within' opened' closed') :
    outside' = outside ∧ within' = within := by
  induction reading generalizing outside' within' opened' closed' with
  | done =>
      cases other
      exact ⟨rfl, rfl⟩
  | plain absent _ ih =>
      obtain ⟨text, rfl, rest⟩ := reading_plain other absent
      obtain ⟨rfl, rfl⟩ := ih rest
      exact ⟨rfl, rfl⟩
  | block opens closes _ ih =>
      obtain ⟨text, thought, _, _, rfl, rfl, rest⟩ := reading_block other opens closes
      obtain ⟨rfl, rfl⟩ := ih rest
      exact ⟨rfl, rfl⟩
  | cut opens absent _ ih =>
      obtain ⟨text, thought, _, _, rfl, rfl, rest⟩ := reading_cut other opens absent
      obtain ⟨rfl, rfl⟩ := ih rest
      exact ⟨rfl, rfl⟩

theorem seamless_agrees {visible : List Symbol} {stretches : List (List Symbol)}
    (seamless : tags.Seamless visible stretches) {outside within : List Symbol}
    {opened closed : Nat} (reading : tags.Reading stretches outside within opened closed)
    {left inner : List Symbol} {removed : Nat}
    (rescan : tags.Rescan (visible ++ stretches.flatten) left inner removed) :
    left = visible ++ outside ∧ inner = within := by
  induction seamless generalizing outside within opened closed left inner removed with
  | done apart =>
      cases reading
      rw [List.flatten_nil, List.append_nil] at rescan
      cases rescan with
      | stop => simp
      | remove opens closes => exact absurd (spans_of_first opens closes) apart
  | @plain visible stretch later absent _ ih =>
      obtain ⟨text, rfl, rest⟩ := reading_plain reading absent
      rw [List.flatten_cons, ← List.append_assoc] at rescan
      rw [← List.append_assoc]
      exact ih rest rescan
  | @block visible stretch before content after more later opens closes seam _ ih =>
      obtain ⟨text, thought, _, _, rfl, rfl, rest⟩ := reading_block reading opens closes
      have texts : visible ++ (stretch :: later).flatten =
          (visible ++ before) ++ tags.openTag ++ (after ++ later.flatten) := by
        rw [List.flatten_cons, opens.1]
        simp only [List.append_assoc]
      rw [texts] at rescan
      obtain ⟨inner', count, rfl, rescan'⟩ := rescan_removes rescan
        (first_after (visible ++ before) (after ++ later.flatten) seam)
        (first_append closes later.flatten)
      have next : tags.Rescan (visible ++ before ++ (more :: later).flatten) left inner' count := by
        rw [List.flatten_cons]
        exact rescan'
      obtain ⟨same, thoughts⟩ := ih rest next
      exact ⟨by rw [same, List.append_assoc], by rw [thoughts]⟩

/-- The two readers agree up to blanks around their texts exactly on seamless stretches. -/
theorem alike_iff_seamless {stretches : List (List Symbol)}
    {outside within left inner : List Symbol} {opened closed removed : Nat}
    (reading : tags.Reading stretches outside within opened closed)
    (rescan : tags.Rescan stretches.flatten left inner removed) :
    tags.Alike outside left ∧ tags.Alike within inner ↔ tags.Seamless [] stretches := by
  constructor
  · intro ⟨visible, reasoning⟩
    exact seamless_of_alike reading (even_of_alike reading rescan visible reasoning) []
      rescan visible
  · intro seamless
    obtain ⟨same, thoughts⟩ := seamless_agrees seamless reading rescan
    rw [same, thoughts]
    exact ⟨rfl, rfl⟩

end Agreement

end Delimiters
end KiroProxy.Foundation.Delimited
