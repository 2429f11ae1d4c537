import KiroProxy.Proxy.ToolMarkup

/-!
# What the markup parser decides

A tag, a name or an invoke block that the parser has decided on stays decided when
more text follows, and a complete block takes up some of the text.
-/

namespace KiroProxy.ToolMarkup

open GoStrings Foundation.Searching KiroTypes

set_option autoImplicit false

section Tags

theorem prefix_unmatched (tag text more : GoString) (unmatched : tag.isPrefixOf text = false)
    (whole : isPartialTag text tag = false) : tag.isPrefixOf (text ++ more) = false := by
  cases longer : tag.isPrefixOf (text ++ more) with
  | false => rfl
  | true =>
      rcases prefix_append_cases tag text more longer with here | part
      · rw [unmatched] at here
        exact absurd here (by decide)
      · simp [isPartialTag, part.1, part.2] at whole

/-- A text that starts with one tag does not grow into another one. -/
theorem prefix_other (other tag text more : GoString) (started : other.isPrefixOf text = true)
    (apart : other.isPrefixOf tag = false) (unmatched : tag.isPrefixOf text = false) :
    tag.isPrefixOf (text ++ more) = false := by
  cases longer : tag.isPrefixOf (text ++ more) with
  | false => rfl
  | true =>
      rcases prefix_append_cases tag text more longer with here | part
      · rw [unmatched] at here
        exact absurd here (by decide)
      · have through := (List.isPrefixOf_iff_prefix.mp started).trans
          (List.isPrefixOf_iff_prefix.mp part.2)
        rw [← List.isPrefixOf_iff_prefix, apart] at through
        exact absurd through (by decide)

theorem partial_unmatched (tag text more : GoString) (whole : isPartialTag text tag = false) :
    isPartialTag (text ++ more) tag = false := by
  cases longer : isPartialTag (text ++ more) tag with
  | false => rfl
  | true =>
      simp only [isPartialTag, Bool.and_eq_true, decide_eq_true_eq, List.length_append] at longer
      have shorter : text.length < tag.length := by omega
      have starts : text <+: tag :=
        (List.prefix_append text more).trans (List.isPrefixOf_iff_prefix.mp longer.2)
      simp [isPartialTag, shorter, List.isPrefixOf_iff_prefix.mpr starts] at whole

theorem not_prefix_nil (tag : GoString) (nonempty : tag ≠ []) : tag.isPrefixOf [] = false := by
  cases tag with
  | nil => exact absurd rfl nonempty
  | cons _ _ => rfl

theorem partial_nil (tag : GoString) (nonempty : tag ≠ []) : isPartialTag [] tag = true := by
  simp [isPartialTag, List.length_pos_iff, nonempty]

theorem trim_append (text more : GoString) (kept : trimMarkupSpace text ≠ []) :
    trimMarkupSpace (text ++ more) = trimMarkupSpace text ++ more :=
  trim_left_append _ text more kept

theorem trim_length (text : GoString) : (trimMarkupSpace text).length ≤ text.length :=
  trim_left_length _ text

/-- The bytes skipped before what is left do not depend on what follows. -/
theorem skipped_append (text more : GoString) (kept : trimMarkupSpace text ≠ []) :
    (text ++ more).length - (trimMarkupSpace (text ++ more)).length =
      text.length - (trimMarkupSpace text).length := by
  rw [trim_append text more kept, List.length_append, List.length_append]
  omega

end Tags

section Parsing

theorem trim_quote_part (text : GoString) : trimQuote text <+: text := by
  unfold trimQuote
  split_ifs
  · exact List.dropLast_prefix text
  · exact List.prefix_rfl

theorem trim_quote_append (text more : GoString) :
    trimQuote text <+: trimQuote (text ++ more) := by
  cases more with
  | nil => simp
  | cons byte more =>
      apply (trim_quote_part text).trans
      unfold trimQuote
      split_ifs
      · rw [List.dropLast_append_of_ne_nil (by simp)]
        exact List.prefix_append text _
      · exact List.prefix_append text _

theorem bad_name_prefix (short long : GoString) (part : short <+: long)
    (bad : maxMarkupNameLen < short.length ∨ containsAny nameBreaks short = true) :
    maxMarkupNameLen < long.length ∨ containsAny nameBreaks long = true := by
  rcases bad with big | broken
  · exact Or.inl (Nat.lt_of_lt_of_le big part.length_le)
  · exact Or.inr (contains_any_longer nameBreaks short long part broken)

/-- The part of a pending name is part of the name it turns out to be. -/
theorem pending_part (text more : GoString) (stop : Nat)
    (missing : indexOf (lit "\">") text = none)
    (found : indexOf (lit "\">") (text ++ more) = some stop) :
    trimQuote text <+: (text ++ more).take stop := by
  have reaches : text.length < stop + 2 :=
    index_new (lit "\">") text more stop (by decide) missing found
  by_cases beyond : text.length ≤ stop
  · apply (trim_quote_part text).trans
    rw [List.take_append, List.take_of_length_le beyond]
    exact List.prefix_append text _
  · have last : stop = text.length - 1 := by omega
    have inside : stop < text.length := by omega
    have starts := (index_found _ _ _ found).1
    rw [List.drop_append_of_le_length (Nat.le_of_lt inside), List.drop_eq_getElem_cons inside] at starts
    have bytes : lit "\">" = [0x22, 0x3E] := by decide
    have quote : text[stop] = 0x22 := by
      obtain ⟨tail, same⟩ := starts
      simp only [bytes, List.cons_append, List.cons.injEq] at same
      exact same.1.symm
    have quoted : text.getLast? = some 0x22 := by
      rw [List.getLast?_eq_getElem?, ← last, List.getElem?_eq_getElem inside, quote]
    have trimmed : trimQuote text = text.dropLast := if_pos quoted
    refine ⟨[], ?_⟩
    rw [List.append_nil, trimmed, List.take_append_of_le_length (Nat.le_of_lt inside), last,
      List.dropLast_eq_take]

/-- A name that is decided stays decided when more text follows. -/
theorem markup_name_append (text more : GoString) (start : Nat) (inside : start ≤ text.length)
    (decided : markupName text start ≠ .needMore) :
    markupName (text ++ more) start = markupName text start := by
  have rest : (text ++ more).drop start = text.drop start ++ more :=
    List.drop_append_of_le_length inside
  unfold markupName at decided ⊢
  simp only [rest]
  cases found : indexOf (lit "\">") (text.drop start) with
  | some stop =>
      have fits := (index_found _ _ _ found).2
      have same : (text.drop start ++ more).take stop = (text.drop start).take stop :=
        List.take_append_of_le_length (by omega)
      rw [index_append _ _ more _ found]
      simp only [same]
  | none =>
      simp only [found] at decided
      have bad : maxMarkupNameLen < (trimQuote (text.drop start)).length ∨
          containsAny nameBreaks (trimQuote (text.drop start)) = true := by
        by_contra good
        rw [if_neg good] at decided
        exact decided rfl
      rw [if_pos bad]
      cases later : indexOf (lit "\">") (text.drop start ++ more) with
      | none =>
          have worse := bad_name_prefix _ _ (trim_quote_append (text.drop start) more) bad
          simp only [if_pos worse]
      | some stop =>
          have worse := bad_name_prefix _ _
            (pending_part (text.drop start) more stop found later) bad
          simp only [if_pos (Or.inr worse)]

theorem markup_name_stop (text : GoString) (start stop : Nat) (name : GoString)
    (inside : start ≤ text.length) (complete : markupName text start = .complete name stop) :
    start + 2 ≤ stop ∧ stop ≤ text.length := by
  unfold markupName at complete
  cases found : indexOf (lit "\">") (text.drop start) with
  | none =>
      simp only [found] at complete
      split_ifs at complete
  | some index =>
      have fits := (index_found _ _ _ found).2
      simp only [found] at complete
      split_ifs at complete
      simp only [NameParse.complete.injEq] at complete
      have two : (lit "\">").length = 2 := by decide
      rw [List.length_drop, two] at fits
      omega

variable (unmarshal : GoString → Option Json) (tags : ToolMarkupTags)

/-- Parameters that are decided stay decided when more text follows, whatever fuel
is left over. -/
theorem parse_params_append (apart : TagsApart tags) (name : GoString)
    (paramTypes : ParamTypes) (fuel fuel' : Nat) (text more : GoString) (consumed : Nat)
    (input : JsonFields) (enough : text.length < fuel)
    (enough' : (text ++ more).length < fuel')
    (decided : parseParams unmarshal tags name paramTypes fuel text consumed input ≠ .needMore) :
    parseParams unmarshal tags name paramTypes fuel' (text ++ more) consumed input =
      parseParams unmarshal tags name paramTypes fuel text consumed input := by
  induction fuel generalizing fuel' text consumed input with
  | zero => omega
  | succ fuel ih =>
      obtain ⟨fuel', rfl⟩ : ∃ less, fuel' = less + 1 := ⟨fuel' - 1, by omega⟩
      have shorter := trim_length text
      have kept : trimMarkupSpace text ≠ [] := by
        intro empty
        apply decided
        simp [parseParams, empty, not_prefix_nil _ apart.invokeClose,
          not_prefix_nil _ apart.paramOpen, partial_nil _ apart.invokeClose]
      have skipped := skipped_append text more kept
      rw [trim_append text more kept] at skipped
      rw [parseParams] at decided ⊢
      rw [parseParams]
      simp only [trim_append text more kept, skipped] at decided ⊢
      generalize trimMarkupSpace text = rest at *
      cases closed : tags.invokeClose.isPrefixOf rest with
      | true => simp only [prefix_of_append _ _ more closed, if_true]
      | false =>
          cases opened : tags.paramOpen.isPrefixOf rest with
          | true =>
              have stillOpen := prefix_of_append _ _ more opened
              have unclosed := prefix_other _ _ _ more opened apart.paramApart closed
              have inside := (List.isPrefixOf_iff_prefix.mp opened).length_le
              simp only [closed, opened, stillOpen, unclosed, if_true, if_false,
                Bool.false_eq_true] at decided ⊢
              cases key : markupName rest tags.paramOpen.length with
              | needMore => simp only [key, ne_eq, not_true_eq_false] at decided
              | invalid => rw [markup_name_append _ more _ inside (by simp [key]), key]
              | complete keyName valueStart =>
                  have bounds := markup_name_stop _ _ _ _ inside key
                  rw [markup_name_append _ more _ inside (by simp [key]), key]
                  simp only [key] at decided ⊢
                  rw [List.drop_append_of_le_length bounds.2]
                  cases value : indexOf tags.paramClose (rest.drop valueStart) with
                  | none => simp only [value, ne_eq, not_true_eq_false] at decided
                  | some stop =>
                      have fits := (index_found _ _ _ value).2
                      rw [List.length_drop] at fits
                      have size : valueStart + stop + tags.paramClose.length ≤ rest.length := by
                        omega
                      rw [index_append _ _ more _ value]
                      simp only [value] at decided ⊢
                      rw [List.drop_append_of_le_length size,
                        List.take_append_of_le_length (by rw [List.length_drop]; omega)]
                      apply ih _ _ _ _ _ _ decided
                      · rw [List.length_drop]
                        omega
                      · rw [List.length_append, List.length_drop]
                        rw [List.length_append] at enough'
                        omega
          | false =>
              simp only [closed, opened, if_false, Bool.false_eq_true] at decided ⊢
              cases part : isPartialTag rest tags.invokeClose ||
                  isPartialTag rest tags.paramOpen with
              | true => simp only [part, if_true, ne_eq, not_true_eq_false] at decided
              | false =>
                  rw [Bool.or_eq_false_iff] at part
                  simp only [prefix_unmatched _ _ more closed part.1,
                    prefix_unmatched _ _ more opened part.2,
                    partial_unmatched _ _ more part.1, partial_unmatched _ _ more part.2,
                    Bool.or_self, if_false, Bool.false_eq_true]

/-- What is decided about an invoke block stays decided when more text follows. -/
theorem parse_invoke_append (apart : TagsApart tags) (tools : DeclaredTools)
    (text more : GoString) (decided : parseInvoke unmarshal tools text tags ≠ .needMore) :
    parseInvoke unmarshal tools (text ++ more) tags = parseInvoke unmarshal tools text tags := by
  unfold parseInvoke at decided ⊢
  cases opened : tags.invokeOpen.isPrefixOf text with
  | false =>
      simp only [opened, Bool.not_false, if_true] at decided ⊢
      cases part : isPartialTag text tags.invokeOpen with
      | true => simp only [part, if_true, ne_eq, not_true_eq_false] at decided
      | false =>
          simp only [prefix_unmatched _ _ more opened part, partial_unmatched _ _ more part,
            Bool.not_false, if_true]
  | true =>
      have inside := (List.isPrefixOf_iff_prefix.mp opened).length_le
      simp only [opened, prefix_of_append _ _ more opened, Bool.not_true, Bool.false_eq_true,
        if_false] at decided ⊢
      cases quoted : markupName text tags.invokeOpen.length with
      | needMore => simp only [quoted, ne_eq, not_true_eq_false] at decided
      | invalid => rw [markup_name_append _ more _ inside (by simp [quoted]), quoted]
      | complete name pos =>
          have bounds := markup_name_stop _ _ _ _ inside quoted
          rw [markup_name_append _ more _ inside (by simp [quoted]), quoted]
          simp only [quoted] at decided ⊢
          cases declared : tools.lookup name with
          | none => rfl
          | some paramTypes =>
              simp only [declared] at decided ⊢
              rw [List.drop_append_of_le_length bounds.2]
              apply parse_params_append unmarshal tags apart _ _ _ _ _ _ _ _ _ _ decided
              · rw [List.length_drop]
                omega
              · rw [List.length_append, List.length_append, List.length_drop]
                omega

/-- A block that is complete takes up some of the text and not more than there is. -/
theorem parse_params_bounds (apart : TagsApart tags) (name : GoString) (paramTypes : ParamTypes)
    (fuel : Nat) (text : GoString) (consumed total : Nat) (input : JsonFields)
    (call : KiroToolUse)
    (complete : parseParams unmarshal tags name paramTypes fuel text consumed input =
      .complete total call) : consumed < total ∧ total ≤ consumed + text.length := by
  induction fuel generalizing text consumed input with
  | zero => simp [parseParams] at complete
  | succ fuel ih =>
      have shorter := trim_length text
      rw [parseParams] at complete
      dsimp only at complete
      generalize trimMarkupSpace text = rest at *
      split_ifs at complete with closed opened part
      · rw [MarkupParse.complete.injEq] at complete
        have inside := (List.isPrefixOf_iff_prefix.mp closed).length_le
        have positive := List.length_pos_iff.mpr apart.invokeClose
        omega
      · have inside := (List.isPrefixOf_iff_prefix.mp opened).length_le
        cases key : markupName rest tags.paramOpen.length with
        | needMore => simp [key] at complete
        | invalid => simp [key] at complete
        | complete keyName valueStart =>
            have bounds := markup_name_stop _ _ _ _ inside key
            simp only [key] at complete
            cases value : indexOf tags.paramClose (rest.drop valueStart) with
            | none => simp [value] at complete
            | some stop =>
                have fits := (index_found _ _ _ value).2
                simp only [value] at complete
                have later := ih _ _ _ complete
                rw [List.length_drop] at fits later
                omega

theorem parse_invoke_bounds (apart : TagsApart tags) (tools : DeclaredTools) (text : GoString)
    (consumed : Nat) (call : KiroToolUse)
    (complete : parseInvoke unmarshal tools text tags = .complete consumed call) :
    0 < consumed ∧ consumed ≤ text.length := by
  unfold parseInvoke at complete
  cases opened : tags.invokeOpen.isPrefixOf text with
  | false =>
      simp only [opened, Bool.not_false, if_true] at complete
      split_ifs at complete
  | true =>
      have inside := (List.isPrefixOf_iff_prefix.mp opened).length_le
      simp only [opened, Bool.not_true, Bool.false_eq_true, if_false] at complete
      cases quoted : markupName text tags.invokeOpen.length with
      | needMore => simp [quoted] at complete
      | invalid => simp [quoted] at complete
      | complete name pos =>
          have bounds := markup_name_stop _ _ _ _ inside quoted
          simp only [quoted] at complete
          cases declared : tools.lookup name with
          | none => simp [declared] at complete
          | some paramTypes =>
              simp only [declared] at complete
              have total := parse_params_bounds unmarshal tags apart _ _ _ _ _ _ _ _ complete
              rw [List.length_drop] at total
              omega

/-- Nothing is decided about an empty text. -/
theorem parse_invoke_nil (apart : TagsApart tags) (tools : DeclaredTools) :
    parseInvoke unmarshal tools [] tags = .needMore := by
  simp [parseInvoke, not_prefix_nil _ apart.invokeOpen, partial_nil _ apart.invokeOpen]

end Parsing

end KiroProxy.ToolMarkup
