import Wareboxes.RustText

/-!
# Trimmed texts

Trimming takes characters off both ends of a text. A text is trimmed when neither its first nor
its last character would be taken off, and trimming twice is trimming once.
-/

namespace Wareboxes.TrimmedTexts

open RustText

variable {drops : Char → Bool} {characters : List Char}

/-- A trimmed text is not changed. -/
theorem trimChars_eq_self (hfirst : ∀ first ∈ characters.head?, drops first = false)
    (hlast : ∀ last ∈ characters.getLast?, drops last = false) :
    trimChars drops characters = characters := by
  have hkept : ∀ {text : List Char}, (∀ first ∈ text.head?, drops first = false) →
      text.dropWhile drops = text := by
    intro text htext
    cases text with
    | nil => rfl
    | cons first => exact List.dropWhile_cons_of_neg (Bool.not_eq_true _ ▸ htext first rfl)
  unfold trimChars
  rw [hkept hfirst, hkept, List.reverse_reverse]
  rwa [List.head?_reverse]

/-- The first character is not one to drop. -/
theorem head?_trimChars (drops : Char → Bool) (characters : List Char) :
    ∀ first ∈ (trimChars drops characters).head?, drops first = false := by
  intro first hfirst
  -- The second cut takes characters off the end only.
  have hlead : trimChars drops characters <+: characters.dropWhile drops := by
    unfold trimChars
    have hsuffix := List.dropWhile_suffix (l := (characters.dropWhile drops).reverse) drops
    have h := List.reverse_prefix.mpr hsuffix
    rwa [List.reverse_reverse] at h
  obtain ⟨rest, hrest⟩ := hlead
  have hdropped : (characters.dropWhile drops).head? = some first := by
    rw [← hrest]
    cases htrim : trimChars drops characters with
    | nil =>
      rw [htrim] at hfirst
      cases hfirst
    | cons =>
      rw [htrim] at hfirst
      exact hfirst
  have hnot := List.head?_dropWhile_not drops characters
  rw [hdropped] at hnot
  exact hnot

/-- The last character is not one to drop. -/
theorem getLast?_trimChars (drops : Char → Bool) (characters : List Char) :
    ∀ last ∈ (trimChars drops characters).getLast?, drops last = false := by
  intro last hlast
  unfold trimChars at hlast
  rw [List.getLast?_reverse] at hlast
  have hnot := List.head?_dropWhile_not drops (characters.dropWhile drops).reverse
  rw [hlast] at hnot
  exact hnot

/-- Trimming characters twice is trimming them once. -/
theorem trimChars_trimChars (drops : Char → Bool) (characters : List Char) :
    trimChars drops (trimChars drops characters) = trimChars drops characters :=
  trimChars_eq_self (head?_trimChars drops characters) (getLast?_trimChars drops characters)

/-- Trimming twice is trimming once. -/
@[simp] theorem trim_trim (text : String) : trim (trim text) = trim text := by
  unfold trim
  rw [String.toList_ofList, trimChars_trimChars]

/-- Trimming adds no character. -/
theorem mem_of_mem_trimChars {character : Char}
    (h : character ∈ trimChars drops characters) : character ∈ characters := by
  unfold trimChars at h
  rw [List.mem_reverse] at h
  have h := (List.dropWhile_suffix _).subset h
  rw [List.mem_reverse] at h
  exact (List.dropWhile_suffix _).subset h

/-- Trimming keeps every character that is not dropped. -/
theorem mem_trimChars_iff {character : Char} (h : drops character = false) :
    character ∈ trimChars drops characters ↔ character ∈ characters := by
  have hkept (text : List Char) : character ∈ text.dropWhile drops ↔ character ∈ text := by
    conv_rhs => rw [← List.takeWhile_append_dropWhile (p := drops) (l := text), List.mem_append]
    refine (or_iff_right fun hmem => ?_).symm
    exact Bool.false_ne_true (h.symm.trans (List.mem_takeWhile_imp hmem))
  rw [trimChars, List.mem_reverse, hkept, List.mem_reverse, hkept]

end Wareboxes.TrimmedTexts
