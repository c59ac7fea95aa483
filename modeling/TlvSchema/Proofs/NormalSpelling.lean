import TlvSchema.Proofs.Spelling

/-!
# Spellings as normal forms of names

The spellings with underscores forget the characters between the words and the case of the letters, and
nothing else.  So both tell the same names apart, and a name that is spelt already stays as it is or
changes its case.  The spelling without separators forgets no more than that, unless a word after the
first one begins with a digit: such a word has no capital to show where it begins.

* `spelling` — the words of a name between underscores, with some change of the letters
* `spelling_spelling` — of two spellings, one after the other, the second one counts
* `camel_eq_iff_sameWords` — when the spelling without separators tells the words
* `spellings_agree` — what the three spellings of names have in common
-/

namespace TlvSchema.Identifier

variable {name other : String} {f g : Char → Char}

/-! ### Spellings with underscores -/

/-- The words of the name, with a change of the letters, between underscores. -/
def spelling (f : Char → Char) (name : String) : String :=
  String.ofList (List.intercalate ['_'] ((words name.toList).map (List.map f)))

theorem snake_eq_spelling (name : String) : snake name = spelling Char.toLower name := rfl

theorem screaming_eq_spelling (name : String) : screaming name = spelling Char.toUpper name := rfl

theorem words_toList_spelling (hf : ∀ c, (f c).isAlphanum = c.isAlphanum) (name : String) :
    words (spelling f name).toList = (words name.toList).map (List.map f) :=
  words_spelling hf name

/-- **Of two spellings the second one counts**, if it does not depend on what the first one changes. -/
theorem spelling_spelling (hf : ∀ c, (f c).isAlphanum = c.isAlphanum) (hgf : ∀ c, g (f c) = g c)
    (name : String) : spelling g (spelling f name) = spelling g name := by
  rw [spelling, words_toList_spelling hf, List.map_map, spelling]
  simp only [Function.comp_def, List.map_map, hgf]

theorem spelling_eq_empty_iff (hf : ∀ c, (f c).isAlphanum = c.isAlphanum) :
    spelling f name = "" ↔ words name.toList = [] := by
  constructor
  · intro h
    have hwords := words_toList_spelling hf name
    rw [h] at hwords
    exact List.map_eq_nil_iff.1 hwords.symm
  · intro h
    rw [spelling, h]
    rfl

/-! ### The spelling without separators -/

/-- No word after the first one begins with a digit. -/
def LetterStarts (name : String) : Prop :=
  ∀ w ∈ (words name.toList).tail, beginsWithDigit w = false

instance : DecidablePred LetterStarts := fun name =>
  inferInstanceAs (Decidable (∀ w ∈ (words name.toList).tail, beginsWithDigit w = false))

theorem joinDigits_eq_self {ws : List (List Char)} (h : ∀ w ∈ ws.tail, beginsWithDigit w = false) :
    joinDigits ws = ws := by
  induction ws with
  | nil => rfl
  | cons w ws ih =>
    have htail : joinDigits ws = ws := ih fun v hv => h v (List.mem_of_mem_tail hv)
    rw [joinDigits, htail]
    cases ws with
    | nil => rfl
    | cons v vs =>
      have hv : beginsWithDigit v = false := h v List.mem_cons_self
      simp only [hv, Bool.false_eq_true, if_false]

theorem LetterStarts.humps_eq (h : LetterStarts name) : humps name = lowerWords name := by
  rw [humps, joinDigits_eq_self h, lowerWords]

/-- **Names whose words begin with letters give one type name if and only if they have the same words.** -/
theorem camel_eq_iff_sameWords (h : LetterStarts name) (h' : LetterStarts other) :
    camel name = camel other ↔ SameWords name other := by
  rw [camel_eq_iff, h.humps_eq, h'.humps_eq]
  rfl

theorem camel_eq_empty_iff : camel name = "" ↔ words name.toList = [] := by
  rw [camel, String.ofList_eq_empty_iff, List.flatten_eq_nil_iff]
  constructor
  · intro h
    by_contra hne
    obtain ⟨w, hw⟩ := List.exists_mem_of_ne_nil _ hne
    have hnil : capitalize w = [] := h _ (List.mem_map_of_mem hw)
    -- a word has a first character, and so has its capitalized form
    cases w with
    | nil => exact (isWord_of_mem_words hw).1 rfl
    | cons c cs => cases hnil
  · intro h
    simp [h]

/-! ### All three -/

/-- **The spellings keep the words of names and nothing else.**  Two names are spelt alike in lower case, or
in upper case, if and only if they have the same words up to the case of letters; for the names of types this
is so if the words after the first one begin with letters.  To spell a name twice is to spell it the second
way.  And a name has a word if and only if its spellings are not empty. -/
theorem spellings_agree (s t : String) :
    (snake s = snake t ↔ SameWords s t) ∧
    (screaming s = screaming t ↔ SameWords s t) ∧
    (LetterStarts s → LetterStarts t → (camel s = camel t ↔ SameWords s t)) ∧
    (snake (snake s) = snake s ∧ screaming (screaming s) = screaming s) ∧
    (screaming (snake s) = screaming s ∧ snake (screaming s) = snake s) ∧
    (hasWords s = true ↔ camel s ≠ "") ∧
    (hasWords s = true ↔ snake s ≠ "") ∧
    (hasWords s = true ↔ screaming s ≠ "") := by
  refine ⟨snake_eq_iff, screaming_eq_iff, camel_eq_iff_sameWords, ⟨?_, ?_⟩, ⟨?_, ?_⟩, ?_, ?_, ?_⟩
  · exact spelling_spelling isAlphanum_toLower (by simp) s
  · exact spelling_spelling isAlphanum_toUpper (by simp) s
  · exact spelling_spelling isAlphanum_toLower (by simp) s
  · exact spelling_spelling isAlphanum_toUpper (by simp) s
  · rw [hasWords_iff_words_ne_nil, ne_eq, ne_eq, camel_eq_empty_iff]
  · rw [hasWords_iff_words_ne_nil, snake_eq_spelling, ne_eq, ne_eq,
      spelling_eq_empty_iff isAlphanum_toLower]
  · rw [hasWords_iff_words_ne_nil, screaming_eq_spelling, ne_eq, ne_eq,
      spelling_eq_empty_iff isAlphanum_toUpper]

theorem spellings_agree_digitNames :
    LetterStarts "2nd Msg--b9" ∧ LetterStarts "/2ND/msg B9" ∧
      camel "2nd Msg--b9" = camel "/2ND/msg B9" ∧
      ¬ LetterStarts "Msg 2" ∧ camel "Msg 2" = camel "Msg2" ∧ snake "Msg 2" ≠ snake "Msg2" := by
  obtain ⟨-, -, halike, -⟩ := spellings_agree "2nd Msg--b9" "/2ND/msg B9"
  obtain ⟨hdiffer, -⟩ := spellings_agree "Msg 2" "Msg2"
  have hs : LetterStarts "2nd Msg--b9" := by decide +kernel
  have ht : LetterStarts "/2ND/msg B9" := by decide +kernel
  refine ⟨hs, ht, (halike hs ht).2 (by decide +kernel), by decide +kernel, by decide +kernel, ?_⟩
  exact fun h => absurd (hdiffer.1 h) (by decide +kernel)

end TlvSchema.Identifier
