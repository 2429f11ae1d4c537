import KiroProxy.Proxy.ToolHistory
import Mathlib.Order.Bounds.Basic

/-!
# Limits of historical images

Which images `limitHistoryImages` of `proxy/translator.go` keeps: of all images of the history, the
newest first, the longest run within both limits. A turn that loses images has a note instead.
-/

namespace KiroProxy.ToolHistory

open GoStrings KiroTypes

set_option autoImplicit false

section Runs

def imagesSize : List KiroImage → Nat
  | [] => 0
  | image :: images => image.bytes.length + imagesSize images

/-- How many images are kept of a run, with the limits spent on the ones before. -/
def keptOf (images : List KiroImage) (budget : Nat × Nat × Bool) : Nat :=
  (keepImages images budget).1

theorem kept_of_full (images : List KiroImage) (count size : Nat) :
    keepImages images (count, size, true) = (0, count, size, true) := by
  cases images <;> rfl

theorem kept_le_length (images : List KiroImage) (budget : Nat × Nat × Bool) :
    keptOf images budget ≤ images.length := by
  induction images generalizing budget with
  | nil => exact Nat.le_refl 0
  | cons image images ih =>
      obtain ⟨count, size, full⟩ := budget
      unfold keptOf keepImages
      split_ifs
      · exact Nat.zero_le _
      · exact Nat.succ_le_succ (ih _)

/-- Once an image is left out, all older ones are. -/
theorem keep_images_append (newer older : List KiroImage) (budget : Nat × Nat × Bool) :
    keepImages (newer ++ older) budget =
      (keptOf newer budget + keptOf older (keepImages newer budget).2,
        (keepImages older (keepImages newer budget).2).2) := by
  induction newer generalizing budget with
  | nil => exact Prod.ext (Nat.zero_add _).symm rfl
  | cons image newer ih =>
      obtain ⟨count, size, full⟩ := budget
      unfold keptOf
      rw [List.cons_append, keepImages, keepImages]
      split_ifs
      · rw [kept_of_full older count size]
        rfl
      · rw [ih]
        unfold keptOf
        exact Prod.ext (by simp only; omega) rfl

/-- Where images are left out, nothing more is kept. -/
theorem kept_short (images : List KiroImage) (budget : Nat × Nat × Bool)
    (short : keptOf images budget < images.length) :
    (keepImages images budget).2.2.2 = true := by
  induction images generalizing budget with
  | nil => exact absurd short (Nat.lt_irrefl 0)
  | cons image images ih =>
      obtain ⟨count, size, full⟩ := budget
      unfold keptOf at short
      rw [keepImages] at short ⊢
      split_ifs with exceeds
      · rfl
      · rw [if_neg exceeds] at short
        exact ih _ (Nat.lt_of_succ_lt_succ short)

theorem kept_after_short (newer older : List KiroImage) (budget : Nat × Nat × Bool)
    (short : keptOf newer budget < newer.length) :
    keptOf older (keepImages newer budget).2 = 0 := by
  have full := kept_short newer budget short
  generalize keepImages newer budget = state at full ⊢
  obtain ⟨kept, count, size, latch⟩ := state
  change latch = true at full
  unfold keptOf
  rw [full, kept_of_full]

/-- The images kept of one turn and of the older ones are the images kept of them all. -/
theorem kept_of_append (newer older : List KiroImage) (budget : Nat × Nat × Bool) :
    newer.take (keptOf newer budget) ++ older.take (keptOf older (keepImages newer budget).2) =
      (newer ++ older).take (keptOf (newer ++ older) budget) := by
  have whole : keptOf (newer ++ older) budget =
      keptOf newer budget + keptOf older (keepImages newer budget).2 :=
    congrArg Prod.fst (keep_images_append newer older budget)
  rw [whole, List.take_append]
  rcases Nat.lt_or_eq_of_le (kept_le_length newer budget) with short | all
  · rw [kept_after_short newer older budget short, Nat.add_zero,
      Nat.sub_eq_zero_of_le (Nat.le_of_lt short)]
  · rw [all, Nat.add_sub_cancel_left, List.take_length, List.take_of_length_le (Nat.le_add_right _ _)]

/-- What is kept is all kept again. -/
theorem kept_again (images : List KiroImage) (budget : Nat × Nat × Bool) :
    keptOf (images.take (keptOf images budget)) budget = keptOf images budget := by
  induction images generalizing budget with
  | nil => rfl
  | cons image images ih =>
      obtain ⟨count, size, full⟩ := budget
      have again := ih (count + 1, size + image.bytes.length, full)
      unfold keptOf at again ⊢
      rw [keepImages]
      split_ifs with exceeds
      · rfl
      · rw [List.take_succ_cons, keepImages, if_neg exceeds]
        exact congrArg (· + 1) again

/-- The numbers of images that stay within both limits. -/
def Fitting (images : List KiroImage) (count size : Nat) : Set Nat :=
  {number | number ≤ images.length ∧ count + number ≤ maxHistoryImages ∧
    size + imagesSize (images.take number) ≤ maxHistoryImageBytes}

/-- By induction on the run: an image that does not fit ends it. -/
theorem kept_is_greatest (images : List KiroImage) (count size : Nat)
    (few : count ≤ maxHistoryImages) (small : size ≤ maxHistoryImageBytes) :
    IsGreatest (Fitting images count size) (keptOf images (count, size, false)) := by
  induction images generalizing count size with
  | nil => exact ⟨⟨Nat.le_refl 0, few, small⟩, fun number fits => fits.1⟩
  | cons image images ih =>
      unfold keptOf
      rw [keepImages, Bool.false_or]
      split_ifs with exceeds
      · refine ⟨⟨Nat.zero_le _, few, small⟩, ?_⟩
        rintro number ⟨-, room, space⟩
        rw [Bool.or_eq_true, decide_eq_true_eq, decide_eq_true_eq] at exceeds
        cases number with
        | zero => exact Nat.le_refl 0
        | succ number =>
            rw [List.take_succ_cons, imagesSize] at space
            omega
      · rw [Bool.or_eq_true, decide_eq_true_eq, decide_eq_true_eq] at exceeds
        obtain ⟨⟨short, room, space⟩, greatest⟩ :=
          ih (count + 1) (size + image.bytes.length) (by omega) (by omega)
        refine ⟨⟨Nat.succ_le_succ short, ?_, ?_⟩, ?_⟩
        · change count + (keptOf images (count + 1, size + image.bytes.length, false) + 1) ≤ _
          omega
        · change size + imagesSize ((image :: images).take
            (keptOf images (count + 1, size + image.bytes.length, false) + 1)) ≤ _
          rw [List.take_succ_cons, imagesSize]
          omega
        · rintro number ⟨length, limit, bytes⟩
          cases number with
          | zero => exact Nat.zero_le _
          | succ number =>
              rw [List.take_succ_cons, imagesSize] at bytes
              rw [List.length_cons] at length
              exact Nat.succ_le_succ (greatest ⟨by omega, by omega, by omega⟩)

end Runs

section Turns

def turnImages (msg : KiroHistoryMessage) : List KiroImage :=
  (msg.userInputMessage.map KiroUserInputMessage.images).getD []

def historyImages (history : History) : List KiroImage := history.flatMap turnImages

/-- A user turn without its oldest images. The text that only spoke of images goes with the last
of them. -/
def shortened (removed : Nat) (user : KiroUserInputMessage) : KiroUserInputMessage :=
  if removed = 0 then user
  else
    { user with
      content := joinHistoryText
        (if trimSpace user.content = normalizeUserContent [] true ∧
            (user.images.drop removed).isEmpty = true then []
          else user.content)
        (omittedNote removed)
      images := user.images.drop removed }

/-- A turn and what is left of it: as many images as the note says are gone. -/
def Shortens (before after : KiroHistoryMessage) : Prop :=
  ∃ removed, removed ≤ (turnImages before).length ∧
    (turnImages after).length + removed = (turnImages before).length ∧
    after = { before with userInputMessage := before.userInputMessage.map (shortened removed) }

theorem limit_images_shortens (user : KiroUserInputMessage) (budget : Nat × Nat × Bool) :
    limitImages user budget =
      (shortened (user.images.length - keptOf user.images.reverse budget) user,
        (keepImages user.images.reverse budget).2) := by
  unfold limitImages shortened keptOf
  simp only [Bool.and_eq_true, decide_eq_true_eq]
  split_ifs <;> rfl

@[simp] theorem shortened_images (removed : Nat) (user : KiroUserInputMessage) :
    (shortened removed user).images = user.images.drop removed := by
  unfold shortened
  by_cases none_ : removed = 0
  · rw [if_pos none_, none_]
    rfl
  · rw [if_neg none_]

/-- The images that are left of a turn, the newest first. -/
theorem left_images (images : List KiroImage) (kept : Nat) :
    (images.drop (images.length - kept)).reverse = images.reverse.take kept := by
  rw [List.take_reverse]

theorem limit_from_spec (history : History) :
    (limitImagesFrom history).2 = (keepImages (historyImages history).reverse (0, 0, false)).2 ∧
      (historyImages (limitImagesFrom history).1).reverse =
        (historyImages history).reverse.take
          (keptOf (historyImages history).reverse (0, 0, false)) := by
  induction history with
  | nil => exact ⟨rfl, rfl⟩
  | cons msg newer ih =>
      obtain ⟨budget, left⟩ := ih
      have images : (historyImages (msg :: newer)).reverse =
          (historyImages newer).reverse ++ (turnImages msg).reverse := List.reverse_append
      rw [images, keep_images_append, ← kept_of_append, ← budget, ← left]
      rw [limitImagesFrom]
      obtain ⟨user, assistant⟩ := msg
      cases user with
      | none => exact ⟨rfl, (List.append_nil _).symm⟩
      | some user =>
          simp only [limit_images_shortens]
          refine ⟨rfl, ?_⟩
          change (turnImages ⟨some (shortened _ user), assistant⟩ ++
            historyImages (limitImagesFrom newer).1).reverse = _
          rw [List.reverse_append]
          apply congrArg
          change (shortened _ user).images.reverse = _
          rw [shortened_images, left_images]
          rfl

theorem user_shortens (user : KiroUserInputMessage)
    (assistant : Option KiroAssistantResponseMessage) (kept : Nat)
    (few : kept ≤ user.images.length) :
    Shortens ⟨some user, assistant⟩
      ⟨some (shortened (user.images.length - kept) user), assistant⟩ := by
  refine ⟨user.images.length - kept, Nat.sub_le _ _, ?_, rfl⟩
  change (shortened _ user).images.length + _ = user.images.length
  rw [shortened_images, List.length_drop]
  omega

theorem limit_from_shortens (history : History) :
    List.Forall₂ Shortens history (limitImagesFrom history).1 := by
  induction history with
  | nil => exact .nil
  | cons msg newer ih =>
      rw [limitImagesFrom]
      obtain ⟨user, assistant⟩ := msg
      cases user with
      | none => exact .cons ⟨0, Nat.le_refl 0, rfl, rfl⟩ ih
      | some user =>
          simp only [limit_images_shortens]
          refine .cons (user_shortens user assistant _ ?_) ih
          have within := kept_le_length user.images.reverse (limitImagesFrom newer).2
          rwa [List.length_reverse] at within

/-- A history whose images all fit stays as it is. -/
theorem limit_fitting (history : History)
    (fits : keptOf (historyImages history).reverse (0, 0, false) =
      (historyImages history).length) :
    limitHistoryImages history = history := by
  unfold limitHistoryImages
  induction history with
  | nil => rfl
  | cons msg newer ih =>
      have images : (historyImages (msg :: newer)).reverse =
          (historyImages newer).reverse ++ (turnImages msg).reverse := List.reverse_append
      have length : (historyImages (msg :: newer)).length =
          (turnImages msg).length + (historyImages newer).length := List.length_append
      have newest := kept_le_length (historyImages newer).reverse (0, 0, false)
      have budget := (limit_from_spec newer).1
      have oldest := kept_le_length (turnImages msg).reverse (limitImagesFrom newer).2
      have whole := congrArg Prod.fst (keep_images_append (historyImages newer).reverse
        (turnImages msg).reverse (0, 0, false))
      rw [← images, ← budget] at whole
      change keptOf (historyImages (msg :: newer)).reverse (0, 0, false) = _ at whole
      simp only at whole
      rw [List.length_reverse] at newest oldest
      have same := ih (by omega)
      have all : keptOf (turnImages msg).reverse (limitImagesFrom newer).2 =
          (turnImages msg).length := by omega
      rw [limitImagesFrom]
      obtain ⟨user, assistant⟩ := msg
      cases user with
      | none => exact congrArg _ same
      | some user =>
          simp only [limit_images_shortens]
          change keptOf user.images.reverse _ = user.images.length at all
          rw [all, Nat.sub_self, same]
          rfl

/-- The newest images that fit both limits stay, in order; a turn that loses images gets a note
with their number, every other turn stays as it is; and a second time nothing changes. -/
theorem newest_images_kept (history : History) :
    (∃ kept, IsGreatest (Fitting (historyImages history).reverse 0 0) kept ∧
        (historyImages (limitHistoryImages history)).reverse =
          (historyImages history).reverse.take kept) ∧
      List.Forall₂ Shortens history (limitHistoryImages history) ∧
      limitHistoryImages (limitHistoryImages history) = limitHistoryImages history := by
  obtain ⟨-, left⟩ := limit_from_spec history
  have greatest := kept_is_greatest (historyImages history).reverse 0 0 (Nat.zero_le _)
    (Nat.zero_le _)
  refine ⟨⟨_, greatest, left⟩, limit_from_shortens history, limit_fitting _ ?_⟩
  change keptOf (historyImages (limitImagesFrom history).1).reverse (0, 0, false) =
    (historyImages (limitImagesFrom history).1).length
  rw [left, kept_again, ← List.length_reverse, left, List.length_take]
  exact (Nat.min_eq_left (kept_le_length _ _)).symm

end Turns

end KiroProxy.ToolHistory
