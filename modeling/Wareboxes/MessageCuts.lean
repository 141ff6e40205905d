import Wareboxes.EdgeTransitions
import Wareboxes.TrimmedTexts

/-!
# Messages that are cut

The agent cuts the messages of adapters and of the store to 1000 bytes. The cut panics when it is
inside a character, and an adapter message that is blank up to the cut is replaced.
-/

namespace Wareboxes.MessageCuts

open RustText TrimmedTexts EdgeAdapters EdgeTransitions

/-- `AdapterFailure::new`. -/
def newFailure (failureClass : AdapterFailureClass) (message : String) : Option AdapterFailure :=
  (truncate maxAdapterMessageLength message).map fun message =>
    ⟨failureClass, if isEmpty (trim message) then "adapter did not provide an error message"
      else message⟩

/-- The length of some characters in bytes. -/
def byteCount (characters : List Char) : ℕ := (characters.map Char.utf8Size).sum

/-- A text has a character boundary at a byte, or is not longer. -/
def CutsBetween (bytes : ℕ) (characters : List Char) : Prop :=
  byteCount characters ≤ bytes ∨
    ∃ front back, characters = front ++ back ∧ byteCount front = bytes

variable {bytes : ℕ} {text given placeholder : String}

theorem len_ofList (characters : List Char) :
    len (String.ofList characters) = byteCount characters := by
  induction characters with
  | nil => rfl
  | cons first rest ih =>
    unfold len byteCount at *
    rw [String.ofList_cons, String.utf8ByteSize_append, ih]
    simp

/-- Whole characters in front are taken. -/
theorem takeBytes_append (front back : List Char) (h : byteCount front ≤ bytes) :
    takeBytes bytes (front ++ back) =
      (takeBytes (bytes - byteCount front) back).map (front ++ ·) := by
  induction front generalizing bytes with
  | nil => exact Option.map_id'.symm
  | cons first front ih =>
    have hsize := first.utf8Size_pos
    change first.utf8Size + byteCount front ≤ bytes at h
    obtain ⟨bytes, rfl⟩ := Nat.exists_eq_add_of_lt (show 0 < bytes by omega)
    rw [zero_add] at h ⊢
    change (if first.utf8Size ≤ bytes + 1 then _ else _) =
      Option.map _ (takeBytes (bytes + 1 - (first.utf8Size + byteCount front)) back)
    rw [if_pos (by omega), ← Nat.sub_sub]
    refine (congrArg _ (ih (by omega))).trans ?_
    rw [Option.map_map]
    rfl

theorem takeBytes_nil (bytes : ℕ) : takeBytes bytes [] = some [] := by
  cases bytes <;> rfl

theorem truncate_of_cutsBetween (h : CutsBetween bytes text.toList)
    (hpositive : 0 < bytes) :
    ∃ cut, truncate bytes text = some (String.ofList cut) ∧ cut <+: text.toList ∧
      byteCount cut ≤ bytes ∧ (text.toList ≠ [] → cut ≠ []) := by
  unfold truncate
  rcases h with hshort | ⟨front, back, hsplit, hfront⟩
  · have htaken := takeBytes_append text.toList [] hshort
    rw [List.append_nil, takeBytes_nil] at htaken
    rw [htaken]
    exact ⟨text.toList, by simp, List.prefix_rfl, hshort, id⟩
  · rw [hsplit, takeBytes_append front back hfront.le, hfront, Nat.sub_self]
    refine ⟨front, by simp [takeBytes], ⟨back, rfl⟩, hfront.le, ?_⟩
    rintro - rfl
    exact hpositive.ne hfront

theorem cutsBetween_of_takeBytes {characters cut : List Char}
    (h : takeBytes bytes characters = some cut) : CutsBetween bytes characters := by
  fun_induction takeBytes bytes characters generalizing cut with
  | case1 characters => exact .inr ⟨[], characters, rfl, rfl⟩
  | case2 => exact .inl (Nat.zero_le _)
  | case3 bytes first rest hfits ih =>
    obtain ⟨others, hothers, -⟩ := Option.map_eq_some_iff.mp h
    rcases ih hothers with hshort | ⟨front, back, rfl, hfront⟩
    · refine .inl ?_
      change first.utf8Size + byteCount rest ≤ bytes + 1
      omega
    · refine .inr ⟨first :: front, back, rfl, ?_⟩
      change first.utf8Size + byteCount front = bytes + 1
      omega
  | case4 => cases h

theorem cutsBetween_of_truncate {cut : String} (h : truncate bytes text = some cut) :
    CutsBetween bytes text.toList := by
  obtain ⟨characters, hcharacters, -⟩ := Option.map_eq_some_iff.mp h
  exact cutsBetween_of_takeBytes hcharacters

theorem byteCount_trimChars_le (drops : Char → Bool) (characters : List Char) :
    byteCount (trimChars drops characters) ≤ byteCount characters := by
  have hsublist : (trimChars drops characters).Sublist characters := by
    have hback := (List.dropWhile_sublist drops (l := (characters.dropWhile drops).reverse)).reverse
    rw [List.reverse_reverse] at hback
    exact hback.trans (List.dropWhile_sublist drops)
  exact (hsublist.map Char.utf8Size).sum_le_sum fun _ _ => Nat.zero_le _

/-- A message is not empty, has at most 1000 bytes, and is the first part of what was given, or
stands for a blank text. -/
def IsCut (placeholder given message : String) : Prop :=
  message.toList ≠ [] ∧ len message ≤ 1000 ∧
    if isEmpty (trim given) then message = placeholder else message.toList <+: given.toList

theorem isCut_placeholder (hblank : isEmpty (trim given) = true)
    (h : placeholder.toList ≠ [] ∧ len placeholder ≤ 1000) :
    IsCut placeholder given placeholder :=
  ⟨h.1, h.2, by rw [if_pos hblank]⟩

theorem isCut_of_cutsBetween (hblank : isEmpty (trim given) = false)
    (h : CutsBetween 1000 given.toList) :
    ∃ cut, truncate 1000 given = some cut ∧ IsCut placeholder given cut := by
  obtain ⟨cut, hcut, hlead, hbytes, hnonempty⟩ := truncate_of_cutsBetween h (by decide)
  refine ⟨_, hcut, ?_, (len_ofList cut).trans_le hbytes, ?_⟩
  · rw [String.toList_ofList]
    refine hnonempty fun hnil => ?_
    rw [trim, isEmpty, hnil] at hblank
    cases hblank
  · rw [hblank, String.toList_ofList]
    exact hlead

theorem truncateMessage_iff {message : String} :
    (∃ text, truncateMessage message = some text ∧
      IsCut "no detail supplied" (trim message) text) ↔
      CutsBetween 1000 (trim message).toList := by
  unfold truncateMessage
  dsimp only
  by_cases hblank : isEmpty (trim message) = true
  · rw [if_pos hblank]
    refine iff_of_true ⟨"no detail supplied", by decide +kernel,
      isCut_placeholder (by rw [trim_trim]; exact hblank) (by decide +kernel)⟩ (.inl ?_)
    rw [List.isEmpty_iff.mp hblank]
    exact Nat.zero_le _
  · rw [if_neg hblank]
    constructor
    · exact fun ⟨text, htext, _⟩ => cutsBetween_of_truncate htext
    · refine isCut_of_cutsBetween ?_
      rw [trim_trim]
      exact Bool.not_eq_true _ ▸ hblank

/-- A text is blank when all its characters are. -/
theorem isEmpty_trim :
    isEmpty (trim text) = true ↔ ∀ character ∈ text.toList, isWhitespace character = true := by
  rw [isEmpty, trim, String.toList_ofList, List.isEmpty_iff, trimChars, List.reverse_eq_nil_iff,
    List.dropWhile_eq_nil_iff]
  constructor
  · intro h
    cases hrest : text.toList.dropWhile isWhitespace with
    | nil => exact List.dropWhile_eq_nil_iff.mp hrest
    | cons first rest =>
      have hfirst := List.head?_dropWhile_not isWhitespace text.toList
      rw [hrest] at hfirst h
      exact absurd (h first (List.mem_reverse.mpr List.mem_cons_self)) (Bool.eq_false_iff.mp hfirst)
  · intro h character hmem
    rw [List.mem_reverse] at hmem
    exact h character ((List.dropWhile_sublist _).subset hmem)

/-- The first character of a text that is blank up to the cut is blank. -/
theorem head?_of_blank_cut {cut : List Char} (hlead : cut <+: text.toList)
    (hnonempty : text.toList ≠ [] → cut ≠ []) (hblank : isEmpty (trim (String.ofList cut)) = true) :
    ∀ first ∈ text.toList.head?, isWhitespace first = true := by
  rw [isEmpty_trim, String.toList_ofList] at hblank
  obtain ⟨rest, hrest⟩ := hlead
  intro first hfirst
  cases cut with
  | nil =>
    rw [List.head?_eq_none_iff.mpr (not_not.mp fun h => hnonempty h rfl)] at hfirst
    cases hfirst
  | cons head tail =>
    rw [← hrest] at hfirst
    cases hfirst
    exact hblank first List.mem_cons_self

theorem newFailure_iff {failureClass : AdapterFailureClass} :
    (∃ failure, newFailure failureClass given = some failure ∧
      IsCut "adapter did not provide an error message" given failure.message) ↔
      CutsBetween 1000 given.toList ∧ ∀ cut ∈ truncate 1000 given,
        isEmpty (trim cut) = true → isEmpty (trim given) = true := by
  constructor
  · rintro ⟨failure, hfailure, -, -, hmessage⟩
    obtain ⟨cut, hcut, rfl⟩ := Option.map_eq_some_iff.mp hfailure
    have hbetween : CutsBetween 1000 given.toList := cutsBetween_of_truncate hcut
    refine ⟨hbetween, fun other hother hcutBlank => ?_⟩
    obtain ⟨characters, hcharacters, hlead, -, hnonempty⟩ :=
      truncate_of_cutsBetween hbetween (by decide)
    rw [hother] at hcharacters
    cases hcharacters
    cases Option.some.inj (hother.symm.trans hcut)
    by_contra hblank
    -- The placeholder does not start with space, so a text that starts with it is not blank.
    rw [if_pos hcutBlank, if_neg hblank] at hmessage
    obtain ⟨rest, hrest⟩ := hmessage
    have hfirst := head?_of_blank_cut hlead hnonempty hcutBlank 'a' (by simp [← hrest])
    exact absurd hfirst (by decide)
  · rintro ⟨hgiven, hopens⟩
    unfold newFailure
    by_cases hblank : isEmpty (trim given) = true
    · obtain ⟨cut, hcut, hlead, -⟩ := truncate_of_cutsBetween hgiven (by decide)
      have hcutBlank : isEmpty (trim (String.ofList cut)) = true := by
        rw [isEmpty_trim, String.toList_ofList]
        exact fun character hmem => isEmpty_trim.mp hblank character (hlead.subset hmem)
      rw [show truncate maxAdapterMessageLength given = _ from hcut, Option.map_some,
        if_pos hcutBlank]
      exact ⟨_, rfl, isCut_placeholder hblank (by decide +kernel)⟩
    · obtain ⟨cut, hcut, hisCut⟩ := isCut_of_cutsBetween (Bool.not_eq_true _ ▸ hblank) hgiven
      have hkept : ¬isEmpty (trim cut) = true := fun h => hblank (hopens cut hcut h)
      rw [show truncate maxAdapterMessageLength given = some cut from hcut, Option.map_some,
        if_neg hkept]
      exact ⟨_, rfl, hisCut⟩

/-- A message that was made for an adapter can be stored. -/
theorem truncateMessage_newFailure {failureClass : AdapterFailureClass} {failure : AdapterFailure}
    (h : newFailure failureClass given = some failure) :
    (truncateMessage failure.message).isSome = true := by
  obtain ⟨cut, hcut, rfl⟩ := Option.map_eq_some_iff.mp h
  obtain ⟨characters, hcharacters, -, hbytes, -⟩ :=
    truncate_of_cutsBetween (cutsBetween_of_truncate hcut) (by decide)
  rw [hcut] at hcharacters
  cases hcharacters
  dsimp only
  split_ifs
  · decide +kernel
  · have hshort : byteCount (trim (String.ofList characters)).toList ≤ 1000 := by
      rw [trim, String.toList_ofList, String.toList_ofList]
      exact (byteCount_trimChars_le _ _).trans hbytes
    obtain ⟨text, htext, -⟩ := truncateMessage_iff.mpr (.inl hshort)
    rw [htext]
    rfl

/-- Messages are cut exactly when they have a character boundary at the cut, and an adapter message
only when it is not replaced for being blank up to the cut. A message that was made for an adapter
can be stored. -/
theorem messages_are_cut (message given : String) (failureClass : AdapterFailureClass) :
    ((∃ text, truncateMessage message = some text ∧
      IsCut "no detail supplied" (trim message) text) ↔
      CutsBetween maxPersistedMessageLength (trim message).toList) ∧
    ((∃ failure, newFailure failureClass given = some failure ∧
      IsCut "adapter did not provide an error message" given failure.message) ↔
      CutsBetween maxAdapterMessageLength given.toList ∧
        ∀ cut ∈ truncate maxAdapterMessageLength given, isEmpty (trim cut) = true →
          isEmpty (trim given) = true) ∧
    ∀ failure, newFailure failureClass given = some failure →
      (truncateMessage failure.message).isSome = true :=
  ⟨truncateMessage_iff, newFailure_iff, fun _ => truncateMessage_newFailure⟩

/-- Short messages are cut nowhere. -/
theorem short_messages_are_kept :
    (∃ text, truncateMessage "offline" = some text ∧
      IsCut "no detail supplied" (trim "offline") text) ∧
    ∃ failure, newFailure .retryable "offline" = some failure ∧
      IsCut "adapter did not provide an error message" "offline" failure.message := by
  obtain ⟨hmessage, hfailure, -⟩ := messages_are_cut "offline" "offline" .retryable
  exact ⟨hmessage.mpr (.inl (by decide +kernel)),
    hfailure.mpr ⟨.inl (by decide +kernel), by decide +kernel⟩⟩

theorem byteCount_replicate (count : ℕ) {character : Char} (h : character.utf8Size = 1) :
    byteCount (List.replicate count character) = count := by
  rw [byteCount, List.map_replicate, h, List.sum_replicate, smul_eq_mul, mul_one]

/-- A character of three bytes behind 999 letters makes both calls panic, and a letter behind 1000
spaces is lost. -/
theorem long_messages_panic :
    (∃ message, truncateMessage message = none ∧ newFailure .ambiguous message = none) ∧
      ∃ message failure, newFailure .ambiguous message = some failure ∧
        isEmpty (trim message) = false ∧
        failure.message = "adapter did not provide an error message" := by
  constructor
  · obtain ⟨front, hfront, hhead⟩ : ∃ front, byteCount front = 999 ∧ front.head? = some 'a' :=
      ⟨List.replicate 999 'a', byteCount_replicate 999 (by decide), rfl⟩
    have hcut : truncate 1000 (String.ofList (front ++ ['€'])) = none := by
      rw [truncate, String.toList_ofList, takeBytes_append front ['€'] (by omega), hfront,
        show takeBytes (1000 - 999) ['€'] = none by decide]
      rfl
    have htrim : trim (String.ofList (front ++ ['€'])) = String.ofList (front ++ ['€']) := by
      rw [trim, String.toList_ofList, trimChars_eq_self]
      · rw [List.head?_append, hhead]
        rintro _ ⟨⟩
        rfl
      · rw [List.getLast?_concat]
        rintro _ ⟨⟩
        rfl
    refine ⟨String.ofList (front ++ ['€']), ?_, congrArg (Option.map _) hcut⟩
    unfold truncateMessage
    rw [htrim]
    dsimp only
    rw [if_neg (by simp [isEmpty])]
    exact hcut
  · obtain ⟨front, hfront, hspaces⟩ : ∃ front, byteCount front = 1000 ∧ ∀ c ∈ front, c = ' ' :=
      ⟨List.replicate 1000 ' ', byteCount_replicate 1000 (by decide),
        fun _ h => List.eq_of_mem_replicate h⟩
    have hcut : truncate 1000 (String.ofList (front ++ ['a'])) = some (String.ofList front) := by
      rw [truncate, String.toList_ofList, takeBytes_append front ['a'] hfront.le, hfront]
      simp [takeBytes]
    refine ⟨String.ofList (front ++ ['a']), _, congrArg (Option.map _) hcut, ?_, if_pos ?_⟩
    · rw [← Bool.not_eq_true, isEmpty_trim, String.toList_ofList]
      exact fun h => absurd (h 'a' (by simp)) (by decide)
    · rw [isEmpty_trim, String.toList_ofList]
      intro character hmem
      rw [hspaces character hmem]
      decide

end Wareboxes.MessageCuts
