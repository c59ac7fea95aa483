import Mathlib
import TlvSchema.Identifier

/-!
# The words that identifiers keep

A character that is neither a letter nor a digit ends a word.  So the words of a text with such a
character in it are those before the character followed by those after it (`words_append_cons`), and
words that have been joined by underscores can be read back (`words_intercalate`).  It follows that
an identifier keeps the words of its name and nothing else:

* `screaming_eq_iff`, `snake_eq_iff` — two names are spelt alike in upper case, and in lower case, if
  and only if they have the same words up to the case of letters, `SameWords`;
* `wireTagSymbol_eq_iff` — for the fields of one container the same holds of their symbols;
* `hasWords_iff` — a name has words if and only if it has a letter or digit.
-/

namespace TlvSchema.Identifier

/-- A word is a non-empty run of letters and digits. -/
def IsWord (w : List Char) : Prop := w ≠ [] ∧ ∀ c ∈ w, c.isAlphanum = true

/-- The two names have the same words in the same order, up to the case of letters. -/
def SameWords (a b : String) : Prop :=
  (words a.toList).map (List.map Char.toLower) = (words b.toList).map (List.map Char.toLower)

instance : DecidableRel SameWords := fun _ _ => inferInstanceAs (Decidable (_ = _))

theorem SameWords.of_eq {a b : String} (h : a = b) : SameWords a b := h ▸ rfl

theorem SameWords.symm {a b : String} (h : SameWords a b) : SameWords b a := Eq.symm h

/-! ### Splitting a text into words -/

theorem closeWord_append (w : List Char) (xs ys : List (List Char)) :
    closeWord w (xs ++ ys) = closeWord w xs ++ ys := by
  unfold closeWord
  split <;> simp

theorem splitWord_append_cons {c : Char} (hc : c.isAlphanum = false) (xs ys : List Char) :
    splitWord (xs ++ c :: ys) = ((splitWord xs).1, (splitWord xs).2 ++ words ys) := by
  induction xs with
  | nil => simp [splitWord, hc, words]
  | cons x xs ih =>
    by_cases hx : x.isAlphanum = true
    · simp only [List.cons_append, splitWord, ih, hx, if_true]
    · simp only [List.cons_append, splitWord, ih, hx, if_false, closeWord_append,
        Bool.false_eq_true]

/-- **A character that is no letter or digit separates the words** before it from those after it. -/
theorem words_append_cons {c : Char} (hc : c.isAlphanum = false) (xs ys : List Char) :
    words (xs ++ c :: ys) = words xs ++ words ys := by
  simp only [words, splitWord_append_cons hc, closeWord_append]

theorem words_cons {c : Char} (hc : c.isAlphanum = false) (cs : List Char) :
    words (c :: cs) = words cs :=
  words_append_cons hc [] cs

theorem splitWord_spec (cs : List Char) :
    (∀ c ∈ (splitWord cs).1, c.isAlphanum = true) ∧ ∀ w ∈ (splitWord cs).2, IsWord w := by
  induction cs with
  | nil => simp [splitWord]
  | cons c cs ih =>
    by_cases hc : c.isAlphanum = true
    · simp only [splitWord, hc, if_true, List.mem_cons, forall_eq_or_imp, true_and]
      exact ih
    · simp only [splitWord, hc, if_false, Bool.false_eq_true, List.not_mem_nil, false_implies,
        implies_true, true_and]
      intro w hw
      unfold closeWord at hw
      split at hw
      · exact ih.2 w hw
      · rename_i hne
        rcases List.mem_cons.1 hw with rfl | hw
        · exact ⟨by simpa using hne, ih.1⟩
        · exact ih.2 w hw

theorem isWord_of_mem_words {cs w : List Char} (h : w ∈ words cs) : IsWord w := by
  -- a character in front of the text that is in no word turns the first word into a later one
  have hs : (splitWord (' ' :: cs)).2 = words cs := by simp [splitWord, words]
  exact (splitWord_spec (' ' :: cs)).2 w (hs ▸ h)

theorem splitWord_of_isAlphanum {cs : List Char} (h : ∀ c ∈ cs, c.isAlphanum = true) :
    splitWord cs = (cs, []) := by
  induction cs with
  | nil => rfl
  | cons c cs ih =>
    simp only [splitWord, h c List.mem_cons_self, if_true,
      ih fun d hd => h d (List.mem_cons_of_mem c hd)]

theorem words_of_isWord {w : List Char} (h : IsWord w) : words w = [w] := by
  rw [words, splitWord_of_isAlphanum h.2]
  simp [closeWord, h.1]

theorem words_eq_nil_iff {cs : List Char} : words cs = [] ↔ ∀ c ∈ cs, c.isAlphanum = false := by
  induction cs with
  | nil => simp [words, splitWord, closeWord]
  | cons c cs ih =>
    by_cases hc : c.isAlphanum = true
    · simp [words, splitWord, closeWord, hc]
    · have hc' : c.isAlphanum = false := by simpa using hc
      rw [words_cons hc', ih]
      simp [hc']

theorem hasWords_iff_words_ne_nil {name : String} :
    hasWords name = true ↔ words name.toList ≠ [] := by
  rw [hasWords, Bool.not_eq_true', List.isEmpty_eq_false_iff]

/-- A name has words if and only if it has a letter or digit. -/
theorem hasWords_iff {name : String} :
    hasWords name = true ↔ ∃ c ∈ name.toList, c.isAlphanum = true := by
  rw [hasWords_iff_words_ne_nil, ne_eq, words_eq_nil_iff]
  simp

/-! ### Joining words -/

/-- **Words joined by underscores can be read back.** -/
theorem words_intercalate {ws : List (List Char)} (h : ∀ w ∈ ws, IsWord w) :
    words (List.intercalate ['_'] ws) = ws := by
  induction ws with
  | nil => simp [words, splitWord, closeWord]
  | cons w ws ih =>
    have hw : words w = [w] := words_of_isWord (h w List.mem_cons_self)
    cases ws with
    | nil => simpa using hw
    | cons v vs =>
      rw [List.intercalate_cons_cons, List.append_assoc, List.singleton_append,
        words_append_cons (by decide), hw, ih fun u hu => h u (List.mem_cons_of_mem w hu)]
      rfl

/-! ### The case of letters -/

theorem isAlphanum_toUpper (c : Char) : c.toUpper.isAlphanum = c.isAlphanum := by
  by_cases hc : c.isLower = true
  · have hu : c.isAlpha = true := by simp [Char.isAlpha, hc]
    simp [Char.isAlphanum, hu]
  · rw [Char.toUpper_eq_of_not_isLower hc]

theorem isAlphanum_toLower (c : Char) : c.toLower.isAlphanum = c.isAlphanum := by
  by_cases hc : c.isUpper = true
  · have hu : c.isAlpha = true := by simp [Char.isAlpha, hc]
    simp [Char.isAlphanum, hu]
  · rw [Char.toLower_eq_of_not_isUpper hc]

theorem IsWord.map {f : Char → Char} (hf : ∀ c, (f c).isAlphanum = c.isAlphanum) {w : List Char}
    (h : IsWord w) : IsWord (w.map f) := by
  refine ⟨by simpa using h.1, fun c hc => ?_⟩
  obtain ⟨d, hd, rfl⟩ := List.mem_map.1 hc
  rw [hf, h.2 d hd]

/-- Lists of words are equal in upper case if and only if they are equal in lower case. -/
theorem map_toUpper_eq_iff {ws vs : List (List Char)} :
    ws.map (List.map Char.toUpper) = vs.map (List.map Char.toUpper) ↔
      ws.map (List.map Char.toLower) = vs.map (List.map Char.toLower) := by
  constructor
  · intro h
    have h' := congrArg (List.map (List.map Char.toLower)) h
    simpa [Function.comp_def] using h'
  · intro h
    have h' := congrArg (List.map (List.map Char.toUpper)) h
    simpa [Function.comp_def] using h'

/-! ### Identifiers -/

/-- A spelling that changes no more than the case of letters keeps the words apart. -/
theorem words_spelling {f : Char → Char} (hf : ∀ c, (f c).isAlphanum = c.isAlphanum)
    (name : String) :
    words (String.ofList (List.intercalate ['_'] ((words name.toList).map (List.map f)))).toList =
      (words name.toList).map (List.map f) := by
  rw [String.toList_ofList, words_intercalate]
  intro w hw
  obtain ⟨v, hv, rfl⟩ := List.mem_map.1 hw
  exact (isWord_of_mem_words hv).map hf

theorem words_screaming (name : String) :
    words (screaming name).toList = (words name.toList).map (List.map Char.toUpper) :=
  words_spelling isAlphanum_toUpper name

theorem words_snake (name : String) :
    words (snake name).toList = (words name.toList).map (List.map Char.toLower) :=
  words_spelling isAlphanum_toLower name

/-- **Two names are spelt alike in upper case if and only if they have the same words.** -/
theorem screaming_eq_iff {a b : String} : screaming a = screaming b ↔ SameWords a b := by
  unfold SameWords
  rw [← map_toUpper_eq_iff]
  constructor
  · intro h
    rw [← words_screaming, ← words_screaming, h]
  · intro h
    rw [screaming, screaming, h]

/-- **The same holds of names in lower case.** -/
theorem snake_eq_iff {a b : String} : snake a = snake b ↔ SameWords a b := by
  constructor
  · intro h
    have hw : words (snake a).toList = words (snake b).toList := by rw [h]
    rwa [words_snake, words_snake] at hw
  · intro h
    rw [snake, snake, h]

/-- The words that go into the symbol of a field. -/
theorem words_symbolName (container field : String) :
    words (container ++ " TLV " ++ field).toList =
      words container.toList ++ ['T', 'L', 'V'] :: words field.toList := by
  have hs : (container ++ " TLV " ++ field).toList =
      container.toList ++ ' ' :: (['T', 'L', 'V'] ++ ' ' :: field.toList) := by
    simp
  have hm : words ['T', 'L', 'V'] = [['T', 'L', 'V']] := by decide
  rw [hs, words_append_cons (by decide), words_append_cons (by decide), hm]
  rfl

/-- **Two fields of a container share a symbol if and only if their names have the same words.** -/
theorem wireTagSymbol_eq_iff {container f g : String} :
    wireTagSymbol container f = wireTagSymbol container g ↔ SameWords f g := by
  rw [wireTagSymbol, wireTagSymbol, screaming_eq_iff]
  simp only [SameWords, words_symbolName, List.map_append, List.map_cons,
    List.append_cancel_left_eq, List.cons.injEq, true_and]

end TlvSchema.Identifier
