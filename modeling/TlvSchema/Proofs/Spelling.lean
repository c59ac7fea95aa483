import TlvSchema.Proofs.Identifier

/-!
# Different names with one spelling

Within a container, symbols are told apart by the words of the field names.  Across containers the words
of two full names come in, and the word `TLV` that stands between the container and the field may be one
of the words of a name.  The name of a type has no separators at all: a capital begins each word, but a
word that begins with a digit runs on from the word before it.

* `wireTagSymbol_eq_wireTagSymbol_iff` — two fields have one symbol if and only if they `Meet`
* `wireTagSymbol_words` — what a symbol tells of its container and its field
* `camel_eq_iff` — two names give one type name if and only if they have the same `humps`
* `Apart.not_meet` — full names that are told apart whatever the fields of their containers are
-/

namespace TlvSchema.Identifier

/-- The words of a name in lower case. -/
def lowerWords (name : String) : List (List Char) := (words name.toList).map (List.map Char.toLower)

/-! ### Symbols of different containers -/

/-- The word between the container and the field, in lower case. -/
def separator : List Char := ['t', 'l', 'v']

/-- The name of the container `d` begins with that of `c` and a separator, and the name of the field `f`
of `c` has the rest of it before the separator and the name of the field `g` of `d`. -/
def Overlap (c f d g : String) : Prop :=
  ∃ ws, lowerWords d = lowerWords c ++ separator :: ws ∧
    lowerWords f = ws ++ separator :: lowerWords g

/-- The field `f` of the container `c` and the field `g` of the container `d` cannot be told apart. -/
def Meet (c f d g : String) : Prop :=
  (SameWords c d ∧ SameWords f g) ∨ Overlap c f d g ∨ Overlap d g c f

theorem append_cons_eq_append_cons_iff {α : Type} {a : α} {xs ys zs ws : List α} :
    xs ++ a :: ys = zs ++ a :: ws ↔ (xs = zs ∧ ys = ws) ∨
      (∃ r, zs = xs ++ a :: r ∧ ys = r ++ a :: ws) ∨ ∃ r, xs = zs ++ a :: r ∧ ws = r ++ a :: ys := by
  constructor
  · intro h
    rcases List.append_eq_append_iff.1 h with ⟨r, rfl, hr⟩ | ⟨r, rfl, hr⟩
    · cases r with
      | nil =>
        obtain ⟨-, rfl⟩ := List.cons.inj hr
        exact .inl ⟨(List.append_nil xs).symm, rfl⟩
      | cons b r =>
        obtain ⟨rfl, hys⟩ := List.cons.inj hr
        exact .inr (.inl ⟨r, rfl, hys⟩)
    · cases r with
      | nil =>
        obtain ⟨-, rfl⟩ := List.cons.inj hr
        exact .inl ⟨List.append_nil zs, rfl⟩
      | cons b r =>
        obtain ⟨rfl, hws⟩ := List.cons.inj hr
        exact .inr (.inr ⟨r, rfl, hws⟩)
  · rintro (⟨rfl, rfl⟩ | ⟨r, rfl, rfl⟩ | ⟨r, rfl, rfl⟩)
    · rfl
    · rw [List.append_assoc, List.cons_append]
    · rw [List.append_assoc, List.cons_append]

theorem lowerWords_symbolName (container field : String) :
    lowerWords (container ++ " TLV " ++ field) =
      lowerWords container ++ separator :: lowerWords field := by
  have hs : ['T', 'L', 'V'].map Char.toLower = separator := by decide
  rw [lowerWords, words_symbolName, List.map_append, List.map_cons, hs]
  rfl

/-- A symbol is made of the words of the container, the separator and the words of the field. -/
theorem wireTagSymbol_eq_iff_lowerWords {c f d g : String} :
    wireTagSymbol c f = wireTagSymbol d g ↔
      lowerWords c ++ separator :: lowerWords f = lowerWords d ++ separator :: lowerWords g := by
  rw [wireTagSymbol, wireTagSymbol, screaming_eq_iff, ← lowerWords_symbolName,
    ← lowerWords_symbolName]
  rfl

/-- **Two fields have one symbol if and only if they meet.** -/
theorem wireTagSymbol_eq_wireTagSymbol_iff {c f d g : String} :
    wireTagSymbol c f = wireTagSymbol d g ↔ Meet c f d g := by
  rw [wireTagSymbol_eq_iff_lowerWords, append_cons_eq_append_cons_iff]
  rfl

/-- Field names without the separator are the words after the last one. -/
theorem sameWords_of_meet {c f d g : String} (hf : separator ∉ lowerWords f)
    (hg : separator ∉ lowerWords g) (h : Meet c f d g) : SameWords c d ∧ SameWords f g := by
  rcases h with hsame | ⟨ws, -, hws⟩ | ⟨ws, -, hws⟩
  · exact hsame
  · exact absurd (hws ▸ List.mem_append_right ws List.mem_cons_self) hf
  · exact absurd (hws ▸ List.mem_append_right ws List.mem_cons_self) hg

/-- **What a symbol tells of its container and its field.**  Two symbols are equal if and only if the words
of the container, the word `TLV` and the words of the field are the same in a row, up to the case of letters.
So the symbols of one container tell the words of its fields apart, and those of several containers also tell
the containers apart, as long as no field has the word `TLV` in its own name. -/
theorem wireTagSymbol_words (c d f g : String) :
    (wireTagSymbol c f = wireTagSymbol d g ↔
      [c, "TLV", f].flatMap lowerWords = [d, "TLV", g].flatMap lowerWords) ∧
    (wireTagSymbol c f = wireTagSymbol c g ↔ lowerWords f = lowerWords g) ∧
    (separator ∉ lowerWords f → separator ∉ lowerWords g →
      (wireTagSymbol c f = wireTagSymbol d g ↔
        lowerWords c = lowerWords d ∧ lowerWords f = lowerWords g)) := by
  have hrow (c f : String) : [c, "TLV", f].flatMap lowerWords =
      lowerWords c ++ separator :: lowerWords f := by
    have hs : lowerWords "TLV" = [separator] := by decide +kernel
    simp [hs]
  refine ⟨?_, wireTagSymbol_eq_iff, fun hf hg => ⟨fun h => ?_, ?_⟩⟩
  · rw [hrow, hrow, wireTagSymbol_eq_iff_lowerWords]
  · exact sameWords_of_meet hf hg (wireTagSymbol_eq_wireTagSymbol_iff.1 h)
  · rintro ⟨hc, hf⟩
    rw [wireTagSymbol_eq_iff_lowerWords, hc, hf]

theorem wireTagSymbol_words_separatedNames :
    wireTagSymbol "Msg TLV-A Input" "foo/1" = wireTagSymbol "msg tlv a INPUT" "Foo 1" ∧
      wireTagSymbol "Msg A" "Foo" ≠ wireTagSymbol "Msg A TLV" "Foo" := by
  obtain ⟨-, -, happly⟩ := wireTagSymbol_words "Msg TLV-A Input" "msg tlv a INPUT" "foo/1" "Foo 1"
  obtain ⟨-, -, hdiffer⟩ := wireTagSymbol_words "Msg A" "Msg A TLV" "Foo" "Foo"
  refine ⟨(happly ?_ ?_).2 ?_, fun h => absurd ((hdiffer ?_ ?_).1 h).1 ?_⟩ <;> decide +kernel

/-- The word `TLV` in the name of a field makes a difference. -/
example : wireTagSymbol "A" "B TLV C" = wireTagSymbol "A TLV B" "C" := by decide +kernel

/-! ### Type names -/

/-- The word begins with a digit. -/
def beginsWithDigit (w : List Char) : Bool := w.head?.any Char.isDigit

/-- The words; one that begins with a digit is joined to the word before it. -/
def joinDigits : List (List Char) → List (List Char)
  | [] => []
  | w :: ws =>
    match joinDigits ws with
    | [] => [w]
    | v :: vs => if beginsWithDigit v then (w ++ v) :: vs else w :: v :: vs

/-- The parts of a type name, each of which has a capital in front, in lower case. -/
def humps (name : String) : List (List Char) :=
  (joinDigits (words name.toList)).map (List.map Char.toLower)

/-- The words can be told apart by their capitals. -/
def Capitals (ws : List (List Char)) : Prop :=
  (∀ w ∈ ws, IsWord w) ∧ ∀ w ∈ ws.tail, beginsWithDigit w = false

theorem IsWord.append {w v : List Char} (hw : IsWord w) (hv : IsWord v) : IsWord (w ++ v) := by
  refine ⟨fun h => hw.1 (List.append_eq_nil_iff.1 h).1, fun c hc => ?_⟩
  rcases List.mem_append.1 hc with hc | hc
  · exact hw.2 c hc
  · exact hv.2 c hc

theorem capitals_joinDigits {ws : List (List Char)} (h : ∀ w ∈ ws, IsWord w) :
    Capitals (joinDigits ws) := by
  induction ws with
  | nil => exact ⟨List.forall_mem_nil _, List.forall_mem_nil _⟩
  | cons w ws ih =>
    obtain ⟨hw, hws⟩ := List.forall_mem_cons.1 h
    obtain ⟨hwords, htail⟩ := ih hws
    rw [joinDigits]
    cases hj : joinDigits ws with
    | nil => exact ⟨List.forall_mem_singleton.2 hw, List.forall_mem_nil _⟩
    | cons v vs =>
      rw [hj] at hwords htail
      obtain ⟨hv, hvs⟩ := List.forall_mem_cons.1 hwords
      dsimp only
      split_ifs with hd
      · exact ⟨List.forall_mem_cons.2 ⟨hw.append hv, hvs⟩, htail⟩
      · exact ⟨List.forall_mem_cons.2 ⟨hw, hwords⟩, List.forall_mem_cons.2 ⟨Bool.eq_false_iff.2 hd, htail⟩⟩

/-! ### The case of letters in type names -/

theorem capitalize_map_toLower (w : List Char) : capitalize (w.map Char.toLower) = capitalize w := by
  cases w with
  | nil => rfl
  | cons c cs => simp [capitalize]

theorem isAlpha_of_isDigit {c : Char} (h : c.isDigit = true) : c.isAlpha = false := by
  simp [Char.isDigit, Char.isAlpha, Char.isUpper, Char.isLower, UInt32.le_iff_toNat_le] at *
  omega

/-- A digit has no upper case. -/
theorem capitalize_of_beginsWithDigit {w : List Char} (h : beginsWithDigit w = true) :
    capitalize w = w.map Char.toLower := by
  cases w with
  | nil => rfl
  | cons c cs =>
    have hd : c.isDigit = true := h
    have ha := Bool.or_eq_false_iff.1 (isAlpha_of_isDigit hd)
    rw [capitalize, List.map_cons, Char.toUpper_eq_of_not_isLower (by simp [ha.2]),
      Char.toLower_eq_of_not_isUpper (by simp [ha.1])]

/-- A word that begins with a letter has a capital in front. -/
theorem capitalize_eq_cons {w : List Char} (hw : IsWord w) (h : beginsWithDigit w = false) :
    ∃ c cs, capitalize w = c :: cs ∧ c.isUpper = true := by
  cases w with
  | nil => exact absurd rfl hw.1
  | cons c cs =>
    have hc := hw.2 c List.mem_cons_self
    have hd : c.isDigit = false := h
    rw [Char.isAlphanum, hd, Bool.or_false] at hc
    exact ⟨c.toUpper, cs.map Char.toLower, rfl, by rw [Char.isUpper_toUpper_eq_isAlpha, hc]⟩

theorem capitalize_append {w : List Char} (hw : IsWord w) (v : List Char) :
    capitalize (w ++ v) = capitalize w ++ v.map Char.toLower := by
  cases w with
  | nil => exact absurd rfl hw.1
  | cons c cs => simp [capitalize]

/-- Joining words that begin with digits does not change the type name. -/
theorem flatten_capitalize_joinDigits {ws : List (List Char)} (h : ∀ w ∈ ws, IsWord w) :
    ((joinDigits ws).map capitalize).flatten = (ws.map capitalize).flatten := by
  induction ws with
  | nil => rfl
  | cons w ws ih =>
    obtain ⟨hw, hws⟩ := List.forall_mem_cons.1 h
    rw [List.map_cons, List.flatten_cons, ← ih hws, joinDigits]
    cases hj : joinDigits ws with
    | nil => rfl
    | cons v vs =>
      dsimp only
      split_ifs with hd
      · rw [List.map_cons, List.flatten_cons, List.map_cons, List.flatten_cons,
          capitalize_append hw, capitalize_of_beginsWithDigit hd, List.append_assoc]
      · rw [List.map_cons, List.flatten_cons]

/-! ### Reading type names back -/

/-- A text without capitals ends where the first capital stands. -/
theorem append_inj_of_isUpper {xs ys : List Char} {us vs : List Char}
    (hx : ∀ c ∈ xs, c.isUpper = false) (hy : ∀ c ∈ ys, c.isUpper = false)
    (hu : ∀ c ∈ us.head?, c.isUpper = true) (hv : ∀ c ∈ vs.head?, c.isUpper = true)
    (h : xs ++ us = ys ++ vs) : xs = ys ∧ us = vs := by
  induction xs generalizing ys with
  | nil =>
    cases ys with
    | nil => exact ⟨rfl, h⟩
    | cons y ys =>
      have hup := hu y (by rw [show us = y :: (ys ++ vs) from h]; rfl)
      rw [hy y List.mem_cons_self] at hup
      cases hup
  | cons x xs ih =>
    obtain ⟨hx', hxs⟩ := List.forall_mem_cons.1 hx
    cases ys with
    | nil =>
      have hup := hv x (by rw [show vs = x :: (xs ++ us) from h.symm]; rfl)
      rw [hx'] at hup
      cases hup
    | cons y ys =>
      obtain ⟨rfl, hrest⟩ := List.cons.inj h
      obtain ⟨rfl, hr⟩ := ih hxs (List.forall_mem_cons.1 hy).2 hrest
      exact ⟨rfl, hr⟩

/-- Words with capitals in front begin with a capital. -/
theorem isUpper_head?_flatten {ws : List (List Char)} (h : ∀ w ∈ ws, IsWord w)
    (hd : ∀ w ∈ ws, beginsWithDigit w = false) :
    ∀ c ∈ (ws.map capitalize).flatten.head?, c.isUpper = true := by
  cases ws with
  | nil => exact nofun
  | cons w ws =>
    obtain ⟨c, cs, hc, hup⟩ := capitalize_eq_cons (h w List.mem_cons_self) (hd w List.mem_cons_self)
    rw [List.map_cons, List.flatten_cons, hc]
    rintro _ ⟨⟩
    exact hup

/-- **Words with capitals in front can be read back.** -/
theorem map_toLower_eq_of_flatten {ws vs : List (List Char)} (hw : Capitals ws) (hv : Capitals vs)
    (h : (ws.map capitalize).flatten = (vs.map capitalize).flatten) :
    ws.map (List.map Char.toLower) = vs.map (List.map Char.toLower) := by
  induction ws generalizing vs with
  | nil =>
    cases vs with
    | nil => rfl
    | cons v vs =>
      cases v with
      | nil => exact absurd rfl (hv.1 [] List.mem_cons_self).1
      | cons c cs => cases h
  | cons w ws ih =>
    cases w with
    | nil => exact absurd rfl (hw.1 [] List.mem_cons_self).1
    | cons a as =>
      cases vs with
      | nil => cases h
      | cons v vs =>
        cases v with
        | nil => exact absurd rfl (hv.1 [] List.mem_cons_self).1
        | cons b bs =>
          obtain ⟨⟨-, hws⟩, hwd⟩ := hw.imp_left List.forall_mem_cons.1
          obtain ⟨⟨-, hvs⟩, hvd⟩ := hv.imp_left List.forall_mem_cons.1
          obtain ⟨hab, hrest⟩ := List.cons.inj h
          have hlower (cs : List Char) : ∀ c ∈ cs.map Char.toLower, c.isUpper = false := by
            intro c hc
            obtain ⟨d, -, rfl⟩ := List.mem_map.1 hc
            exact Char.isUpper_toLower_eq_false d
          obtain ⟨has, hflat⟩ := append_inj_of_isUpper (hlower as) (hlower bs)
            (isUpper_head?_flatten hws hwd) (isUpper_head?_flatten hvs hvd) hrest
          have hhead : a.toLower = b.toLower := by
            rw [← Char.toLower_toUpper_eq_toLower a, hab, Char.toLower_toUpper_eq_toLower]
          have htail := ih ⟨hws, fun w hmem => hwd w (List.mem_of_mem_tail hmem)⟩
            ⟨hvs, fun w hmem => hvd w (List.mem_of_mem_tail hmem)⟩ hflat
          rw [List.map_cons, List.map_cons, List.map_cons, List.map_cons, hhead, has, htail]

/-- **Two names give one type name if and only if they have the same humps.** -/
theorem camel_eq_iff {a b : String} : camel a = camel b ↔ humps a = humps b := by
  have hcamel (name : String) : camel name =
      String.ofList ((joinDigits (words name.toList)).map capitalize).flatten := by
    rw [camel, flatten_capitalize_joinDigits fun _ => isWord_of_mem_words]
  rw [hcamel, hcamel]
  constructor
  · intro h
    exact map_toLower_eq_of_flatten (capitals_joinDigits fun _ => isWord_of_mem_words)
      (capitals_joinDigits fun _ => isWord_of_mem_words) (String.ofList_injective h)
  · intro h
    have hcap := congrArg (List.map capitalize) h
    simp only [humps, List.map_map, Function.comp_def, capitalize_map_toLower] at hcap
    rw [hcap]

/-- Names with the same words give one type name. -/
theorem humps_eq_of_sameWords {a b : String} (h : SameWords a b) : humps a = humps b := by
  refine camel_eq_iff.1 ?_
  have hcap := congrArg (List.map capitalize) h
  simp only [List.map_map, Function.comp_def, capitalize_map_toLower] at hcap
  rw [camel, camel, hcap]

/-! ### Names that are told apart -/

/-- The names give different type names, and neither of them goes on with a separator after the words
of the other one. -/
structure Apart (c d : String) : Prop where
  /-- The type names differ. -/
  humps_ne : humps c ≠ humps d
  /-- The second name does not go on after the first one. -/
  not_prefix : ¬ lowerWords c ++ [separator] <+: lowerWords d
  /-- The first name does not go on after the second one. -/
  not_prefix' : ¬ lowerWords d ++ [separator] <+: lowerWords c

theorem apart_iff {c d : String} : Apart c d ↔ humps c ≠ humps d ∧
    ¬ lowerWords c ++ [separator] <+: lowerWords d ∧
      ¬ lowerWords d ++ [separator] <+: lowerWords c :=
  ⟨fun ⟨h, hp, hp'⟩ => ⟨h, hp, hp'⟩, fun ⟨h, hp, hp'⟩ => ⟨h, hp, hp'⟩⟩

instance : DecidableRel Apart := fun _ _ => decidable_of_iff' _ apart_iff

theorem Apart.not_meet {c f d g : String} (h : Apart c d) : ¬ Meet c f d g := by
  rintro (⟨hsame, -⟩ | ⟨ws, hd, -⟩ | ⟨ws, hc, -⟩)
  · exact h.humps_ne (humps_eq_of_sameWords hsame)
  · exact h.not_prefix ⟨ws, by rw [hd, List.append_assoc]; rfl⟩
  · exact h.not_prefix' ⟨ws, by rw [hc, List.append_assoc]; rfl⟩

end TlvSchema.Identifier
