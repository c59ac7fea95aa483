import Mathlib
import TlvSchema.WireTag

/-!
# The texts of wire tags

What a tag may look like is said by a grammar: a row of digits denotes the number whose digits in the base
they are, a plus sign may stand in front of it, `0x` or `0X` makes the base sixteen, and white space may
stand around it.  Reading accepts what the grammar allows and a tag has room for.  A tag that is shown is a
row of its hexadecimal digits, so it is read back, and no two tags look alike.

* `IsNumeral`, `Denotes`, `Spells` — the grammar of digits, numbers and tags
* `number?_eq_some_iff`, `parse?_eq_some_iff` — reading follows the grammar
* `denotes_display` — what is shown denotes the number of the tag
* `reading_and_showing` — reading, and reading back
-/

namespace TlvSchema

/-! ### White space at the ends -/

namespace Text

variable {left body right : List Char}

theorem dropWhile_isBlank_append (hl : ∀ c ∈ left, isBlank c = true)
    (hb : ∀ c ∈ body.head?, isBlank c = false) : (left ++ body).dropWhile isBlank = body := by
  rw [List.dropWhile_append_of_pos hl]
  cases body with
  | nil => rfl
  | cons c cs => exact List.dropWhile_cons_of_neg (by simp [hb c rfl])

/-- White space is taken away from the ends of a text that has none itself. -/
theorem trim_append (hl : ∀ c ∈ left, isBlank c = true) (hr : ∀ c ∈ right, isBlank c = true)
    (hne : body ≠ []) (hb : ∀ c ∈ body, isBlank c = false) : trim (left ++ body ++ right) = body := by
  have hfirst : (left ++ body ++ right).dropWhile isBlank = body ++ right := by
    rw [List.append_assoc]
    refine dropWhile_isBlank_append hl fun c hc => hb c ?_
    rw [List.head?_append_of_ne_nil _ hne] at hc
    exact List.mem_of_mem_head? hc
  rw [trim, hfirst, List.reverse_append,
    dropWhile_isBlank_append (fun c hc => hr c (List.mem_reverse.1 hc)), List.reverse_reverse]
  exact fun c hc => hb c (List.mem_reverse.1 (List.mem_of_mem_head? hc))

/-- What is taken away is white space. -/
theorem exists_trim (cs : List Char) : ∃ left right, cs = left ++ trim cs ++ right ∧
    (∀ c ∈ left, isBlank c = true) ∧ ∀ c ∈ right, isBlank c = true := by
  refine ⟨cs.takeWhile isBlank, ((cs.dropWhile isBlank).reverse.takeWhile isBlank).reverse, ?_,
    fun c hc => List.mem_takeWhile_imp hc,
    fun c hc => List.mem_takeWhile_imp (List.mem_reverse.1 hc)⟩
  rw [trim, List.append_assoc, ← List.reverse_append, List.takeWhile_append_dropWhile,
    List.reverse_reverse, List.takeWhile_append_dropWhile]

end Text

namespace WireTag

open Text (isBlank trim)

/-! ### The grammar -/

/-- The character is the digit of a value in a base; letters count in either case. -/
def IsDigit (base : ℕ) (c : Char) (value : ℕ) : Prop :=
  value < base ∧ c.toLower = value.digitChar

/-- There is a digit, and the digits denote the number in the base. -/
def IsNumeral (base : ℕ) (cs : List Char) (n : ℕ) : Prop :=
  cs ≠ [] ∧ ∃ values, List.Forall₂ (IsDigit base) cs values ∧ n = Nat.ofDigits base values.reverse

/-- A plus sign or none. -/
def IsSign (sign : List Char) : Prop := sign = [] ∨ sign = ['+']

/-- The text denotes the number. -/
inductive Denotes : List Char → ℕ → Prop where
  /-- In hexadecimal, after a mark. -/
  | hexadecimal {mark : Char} {sign digits : List Char} {n : ℕ} (hm : mark = 'x' ∨ mark = 'X')
    (hs : IsSign sign) (hd : IsNumeral 16 digits n) :
    Denotes ('0' :: mark :: (sign ++ digits)) n
  /-- In decimal. -/
  | decimal {sign digits : List Char} {n : ℕ} (hs : IsSign sign) (hd : IsNumeral 10 digits n) :
    Denotes (sign ++ digits) n

/-- The text denotes the number, the white space at its ends apart. -/
def Spells (text : String) (n : ℕ) : Prop :=
  ∃ left body right, text.toList = left ++ body ++ right ∧ (∀ c ∈ left, isBlank c = true) ∧
    (∀ c ∈ right, isBlank c = true) ∧ Denotes body n

/-! ### Digits -/

variable {base value n : ℕ} {c : Char} {cs : List Char}

/-- A letter whose lower case is known is that letter or its upper case. -/
theorem eq_or_eq_toUpper {d : Char} (h : c.toLower = d) : c = d ∨ c = d.toUpper := by
  by_cases hc : c.isUpper = true
  · right
    have hl : c.isLower = false := by
      simp [Char.isUpper, Char.isLower, UInt32.le_iff_toNat_le] at hc ⊢
      omega
    rw [← h, Char.toUpper_toLower_eq_toUpper, Char.toUpper_eq_of_not_isLower (by simp [hl])]
  · left
    rw [← h, Char.toLower_eq_of_not_isUpper hc]

/-- A digit is one of the sixteen, in lower or in upper case. -/
theorem IsDigit.elim {P : ℕ → Char → Prop} (h : IsDigit base c value) (hb : base ≤ 16)
    (hP : ∀ v < 16, P v v.digitChar ∧ P v v.digitChar.toUpper) : P value c := by
  obtain ⟨hlt, hc⟩ := h
  obtain ⟨hsmall, hcapital⟩ := hP value (hlt.trans_le hb)
  rcases eq_or_eq_toUpper hc with rfl | rfl
  · exact hsmall
  · exact hcapital

theorem isDigit_of_digitValue? (h : digitValue? base c = some value) : IsDigit base c value := by
  have hdigit : ∀ k ∈ Finset.Icc 48 57, (Char.ofNat k).toLower = (k - 48).digitChar := by decide
  have hsmall : ∀ k ∈ Finset.Icc 97 102, (Char.ofNat k).toLower = (k - 97 + 10).digitChar := by
    decide
  have hcapital : ∀ k ∈ Finset.Icc 65 70, (Char.ofNat k).toLower = (k - 65 + 10).digitChar := by
    decide
  have hle {a b : Char} (hab : a ≤ b) : a.toNat ≤ b.toNat := UInt32.le_iff_toNat_le.1 hab
  rw [digitValue?, Option.filter_eq_some_iff, decide_eq_true_eq] at h
  obtain ⟨hvalue, hlt⟩ := h
  refine ⟨hlt, ?_⟩
  rw [← Char.ofNat_toNat c]
  split_ifs at hvalue with h₀ ha hA <;> cases hvalue
  · exact hdigit _ (Finset.mem_Icc.2 (h₀.imp hle hle))
  · exact hsmall _ (Finset.mem_Icc.2 (ha.imp hle hle))
  · exact hcapital _ (Finset.mem_Icc.2 (hA.imp hle hle))

theorem digitValue?_of_isDigit (hb : base ≤ 16) (h : IsDigit base c value) :
    digitValue? base c = some value := by
  have hsixteen : digitValue? 16 c = some value :=
    h.elim (P := fun v c => digitValue? 16 c = some v) hb (by decide)
  rw [digitValue?, Option.filter_eq_some_iff] at hsixteen ⊢
  exact ⟨hsixteen.1, decide_eq_true h.1⟩

theorem digitValue?_eq_some_iff (hb : base ≤ 16) :
    digitValue? base c = some value ↔ IsDigit base c value :=
  ⟨isDigit_of_digitValue?, digitValue?_of_isDigit hb⟩

/-! ### Rows of digits -/

/-- A row of digits, read on from a number, moves that number up by its own length. -/
theorem digitsValue?_eq_some_iff (hb : base ≤ 16) {start : ℕ} :
    digitsValue? base start cs = some n ↔ ∃ values, List.Forall₂ (IsDigit base) cs values ∧
      n = start * base ^ cs.length + Nat.ofDigits base values.reverse := by
  induction cs generalizing start with
  | nil => simp [digitsValue?, eq_comm]
  | cons c cs ih =>
    rw [digitsValue?]
    simp only [Option.bind_eq_bind, Option.bind_eq_some_iff, digitValue?_eq_some_iff hb, ih,
      List.forall₂_cons_left_iff]
    have hsum (v : ℕ) (values : List ℕ) (hl : cs.length = values.length) :
        (start * base + v) * base ^ cs.length + Nat.ofDigits base values.reverse =
          start * base ^ (c :: cs).length + Nat.ofDigits base (v :: values).reverse := by
      rw [List.reverse_cons, Nat.ofDigits_append, Nat.ofDigits_singleton, List.length_reverse, ← hl,
        List.length_cons]
      ring
    constructor
    · rintro ⟨v, hv, values, hvalues, rfl⟩
      exact ⟨v :: values, ⟨v, values, hv, hvalues, rfl⟩, hsum v values hvalues.length_eq⟩
    · rintro ⟨_, ⟨v, values, hv, hvalues, rfl⟩, rfl⟩
      exact ⟨v, hv, values, hvalues, (hsum v values hvalues.length_eq).symm⟩

/-- The characters of a numeral are digits. -/
theorem IsNumeral.forall_mem {P : Char → Prop} (h : IsNumeral base cs n) (hb : base ≤ 16)
    (hP : ∀ v < 16, P v.digitChar ∧ P v.digitChar.toUpper) : ∀ c ∈ cs, P c := by
  obtain ⟨-, values, hvalues, -⟩ := h
  induction hvalues with
  | nil => exact List.forall_mem_nil _
  | cons hv _ ih => exact List.forall_mem_cons.2 ⟨hv.elim (P := fun _ => P) hb hP, ih⟩

theorem IsSign.forall_mem_append {P : Char → Prop} {sign : List Char} (hs : IsSign sign)
    (hplus : P '+') (h : ∀ c ∈ cs, P c) : ∀ c ∈ sign ++ cs, P c := by
  rcases hs with rfl | rfl
  · exact h
  · exact List.forall_mem_cons.2 ⟨hplus, h⟩

/-! ### Numbers -/

theorem dropPlus_of_ne (h : ∀ c ∈ cs, c ≠ '+') : dropPlus cs = cs := by
  fun_cases dropPlus cs with
  | case1 cs => exact absurd rfl (h '+' List.mem_cons_self)
  | case2 => rfl

/-- **A numeral is read by its digits, after a plus sign or not.** -/
theorem numeral?_eq_some_iff (hb : base ≤ 16) : numeral? base cs = some n ↔
    ∃ sign digits, cs = sign ++ digits ∧ IsSign sign ∧ IsNumeral base digits n := by
  have hdigits : numeral? base cs = some n ↔ IsNumeral base (dropPlus cs) n := by
    rw [numeral?, IsNumeral]
    cases dropPlus cs with
    | nil => simp
    | cons c cs => simp [digitsValue?_eq_some_iff hb]
  rw [hdigits]
  constructor
  · fun_cases dropPlus cs with
    | case1 cs => exact fun h => ⟨['+'], cs, rfl, .inr rfl, h⟩
    | case2 => exact fun h => ⟨[], cs, rfl, .inl rfl, h⟩
  · rintro ⟨sign, digits, rfl, rfl | rfl, h⟩
    · rwa [List.nil_append, dropPlus_of_ne (h.forall_mem hb (by decide))]
    · exact h

/-- A text without a mark is read in decimal. -/
theorem number?_of_ne (h : ∀ c ∈ cs, c ≠ 'x' ∧ c ≠ 'X') : number? cs = numeral? 10 cs := by
  fun_cases number? cs with
  | case1 cs => exact absurd rfl (h 'x' (List.mem_cons_of_mem _ List.mem_cons_self)).1
  | case2 cs => exact absurd rfl (h 'X' (List.mem_cons_of_mem _ List.mem_cons_self)).2
  | case3 => rfl

/-- **Numbers are read as the grammar says.** -/
theorem number?_eq_some_iff : number? cs = some n ↔ Denotes cs n := by
  constructor
  · fun_cases number? cs with
    | case1 cs =>
      intro h
      obtain ⟨sign, digits, rfl, hs, hd⟩ := (numeral?_eq_some_iff (by decide)).1 h
      exact .hexadecimal (.inl rfl) hs hd
    | case2 cs =>
      intro h
      obtain ⟨sign, digits, rfl, hs, hd⟩ := (numeral?_eq_some_iff (by decide)).1 h
      exact .hexadecimal (.inr rfl) hs hd
    | case3 =>
      intro h
      obtain ⟨sign, digits, rfl, hs, hd⟩ := (numeral?_eq_some_iff (by decide)).1 h
      exact .decimal hs hd
  · rintro (⟨rfl | rfl, hs, hd⟩ | ⟨hs, hd⟩)
    · exact (numeral?_eq_some_iff (by decide)).2 ⟨_, _, rfl, hs, hd⟩
    · exact (numeral?_eq_some_iff (by decide)).2 ⟨_, _, rfl, hs, hd⟩
    · have hdecimal := hs.forall_mem_append (P := fun c => c ≠ 'x' ∧ c ≠ 'X') (by decide)
        (hd.forall_mem (by decide) (by decide))
      rw [number?_of_ne hdecimal]
      exact (numeral?_eq_some_iff (by decide)).2 ⟨_, _, rfl, hs, hd⟩

/-! ### Texts -/

theorem Denotes.ne_nil (h : Denotes cs n) : cs ≠ [] := by
  cases h with
  | hexadecimal => exact List.cons_ne_nil _ _
  | decimal _ hd => exact List.append_ne_nil_of_right_ne_nil _ hd.1

/-- There is no white space inside a number. -/
theorem Denotes.isBlank_eq_false (h : Denotes cs n) : ∀ c ∈ cs, isBlank c = false := by
  cases h with
  | hexadecimal hm hs hd =>
    have hrest := hs.forall_mem_append (P := fun c => isBlank c = false) (by decide)
      (hd.forall_mem (by decide) (by decide))
    refine List.forall_mem_cons.2 ⟨by decide, List.forall_mem_cons.2 ⟨?_, hrest⟩⟩
    rcases hm with rfl | rfl <;> decide
  | decimal hs hd =>
    exact hs.forall_mem_append (P := fun c => isBlank c = false) (by decide)
      (hd.forall_mem (by decide) (by decide))

theorem spells_iff {text : String} : Spells text n ↔ Denotes (trim text.toList) n := by
  constructor
  · rintro ⟨left, body, right, htext, hl, hr, h⟩
    rwa [htext, Text.trim_append hl hr h.ne_nil h.isBlank_eq_false]
  · intro h
    obtain ⟨left, right, htext, hl, hr⟩ := Text.exists_trim text.toList
    exact ⟨left, _, right, htext, hl, hr, h⟩

theorem ofNat?_eq_some_iff {tag : WireTag} : ofNat? n = some tag ↔ n = tag.code.toNat := by
  obtain ⟨code⟩ := tag
  rw [ofNat?, Option.ite_none_right_eq_some, Option.some.injEq, mk.injEq]
  constructor
  · rintro ⟨hlt, rfl⟩
    exact (UInt32.toNat_ofNat_of_lt' hlt).symm
  · rintro rfl
    exact ⟨code.toNat_lt, UInt32.ofNat_toNat⟩

/-- **A text is read as a tag if and only if it spells the number of the tag.** -/
theorem parse?_eq_some_iff {text : String} {tag : WireTag} :
    parse? text = some tag ↔ Spells text tag.code.toNat := by
  rw [parse?, Option.bind_eq_some_iff, spells_iff]
  simp only [number?_eq_some_iff, ofNat?_eq_some_iff, exists_eq_right]

/-! ### Tags that are shown -/

theorem isDigit_hexDigit (h : value < 16) : IsDigit 16 (hexDigit value) value := by
  have hall : ∀ v < 16, (hexDigit v).toLower = v.digitChar := by decide
  exact ⟨h, hall value h⟩

theorem isNumeral_singleton {d : Char} (h : IsDigit base d value) : IsNumeral base [d] value :=
  ⟨List.cons_ne_nil _ _, [value], .cons h .nil, by simp⟩

/-- A digit more makes the number the base times as great, and adds its value. -/
theorem IsNumeral.concat {d : Char} (h : IsNumeral base cs n) (hd : IsDigit base d value) :
    IsNumeral base (cs ++ [d]) (n * base + value) := by
  obtain ⟨-, values, hvalues, rfl⟩ := h
  refine ⟨by simp, values ++ [value], List.rel_append hvalues (.cons hd .nil), ?_⟩
  rw [List.reverse_append, List.reverse_singleton, List.singleton_append, Nat.ofDigits_cons]
  ring

theorem isNumeral_hexDigits (n : ℕ) : IsNumeral 16 (hexDigits n) n := by
  induction n using Nat.strong_induction_on with
  | _ n ih =>
    rw [hexDigits]
    split_ifs with h
    · exact isNumeral_singleton (isDigit_hexDigit h)
    · have hnumeral := (ih (n / 16) (by omega)).concat
        (isDigit_hexDigit (Nat.mod_lt n (by decide)))
      rwa [Nat.div_add_mod'] at hnumeral

/-- **A tag that is shown denotes its number.** -/
theorem denotes_display (tag : WireTag) : Denotes tag.display.toList tag.code.toNat := by
  rw [display, String.toList_ofList, ← List.nil_append (pairedHexDigits tag.code.toNat)]
  refine .hexadecimal (.inl rfl) (.inl rfl) ?_
  rw [pairedHexDigits]
  split_ifs with h
  · have hzero : IsDigit 16 '0' 0 := isDigit_hexDigit (by decide)
    simpa using (isNumeral_singleton hzero).concat (isDigit_hexDigit h)
  · exact isNumeral_hexDigits _

/-- Around a tag that is shown there may be white space. -/
theorem spells_display {left right : String} (hl : ∀ c ∈ left.toList, isBlank c = true)
    (hr : ∀ c ∈ right.toList, isBlank c = true) (tag : WireTag) :
    Spells (left ++ tag.display ++ right) tag.code.toNat :=
  ⟨_, _, _, by rw [String.toList_append, String.toList_append], hl, hr, denotes_display tag⟩

/-! ### Reading and showing -/

theorem read_eq_ok_iff {text : String} {tag : WireTag} :
    read text = .ok tag ↔ Spells text tag.code.toNat := by
  rw [read, ← parse?_eq_some_iff]
  cases parse? text <;> simp

theorem read_eq_error {text : String} (h : ¬ ∃ n < 2 ^ 32, Spells text n) :
    read text = .error ⟨text⟩ := by
  have hnone : parse? text = none := by
    refine Option.eq_none_iff_forall_ne_some.2 fun tag htag => h ?_
    exact ⟨tag.code.toNat, tag.code.toNat_lt, parse?_eq_some_iff.1 htag⟩
  rw [read, hnone]

theorem display_injective : Function.Injective display := by
  intro tag tag' h
  have hdenotes := denotes_display tag
  rw [h, ← number?_eq_some_iff, number?_eq_some_iff.2 (denotes_display tag')] at hdenotes
  have hcode := UInt32.toNat_inj.1 (Option.some.inj hdenotes)
  exact congrArg mk hcode.symm

/-- **Reading and showing tags.**  A text is read as a tag if and only if it spells a number that a tag has
room for, and then as that number; any other text is refused, and the report quotes it as it is.  A tag that
is shown is read back, whatever white space is around it, so no two tags are shown alike. -/
theorem reading_and_showing :
    (∀ text tag, read text = .ok tag ↔ Spells text tag.code.toNat) ∧
    (∀ text, (∃ tag, read text = .ok tag) ↔ ∃ n < 2 ^ 32, Spells text n) ∧
    (∀ text, (¬ ∃ n < 2 ^ 32, Spells text n) → ∃ e, read text = .error e ∧ e.text = text ∧
      e.message = "invalid wire tag `" ++ text ++ "`") ∧
    (∀ tag left right, (∀ c ∈ left.toList, isBlank c = true) →
      (∀ c ∈ right.toList, isBlank c = true) → read (left ++ display tag ++ right) = .ok tag) ∧
    Function.Injective display := by
  refine ⟨fun _ _ => read_eq_ok_iff, fun text => ⟨?_, ?_⟩, fun text h => ?_, ?_, display_injective⟩
  · rintro ⟨tag, h⟩
    exact ⟨tag.code.toNat, tag.code.toNat_lt, read_eq_ok_iff.1 h⟩
  · rintro ⟨n, hn, h⟩
    refine ⟨⟨UInt32.ofNat n⟩, read_eq_ok_iff.2 ?_⟩
    rwa [UInt32.toNat_ofNat_of_lt' hn]
  · exact ⟨⟨text⟩, read_eq_error h, rfl, rfl⟩
  · exact fun tag left right hl hr => read_eq_ok_iff.2 (spells_display hl hr tag)

theorem reading_and_showing_paddedTexts :
    read " 0X+00fF\n" = .ok ⟨255⟩ ∧
    (∃ e, read "+4294967296" = .error e ∧ e.message = "invalid wire tag `+4294967296`") ∧
    read (" \t" ++ display ⟨10⟩ ++ "\n") = .ok ⟨10⟩ := by
  obtain ⟨hread, -, hrefused, hback, -⟩ := reading_and_showing
  have hspells : Spells " 0X+00fF\n" 255 :=
    spells_iff.2 (number?_eq_some_iff.1 (by decide +kernel))
  have htoo : ¬ ∃ n < 2 ^ 32, Spells "+4294967296" n := by
    rintro ⟨n, hlt, hn⟩
    have hnumber : number? (trim "+4294967296".toList) = some 4294967296 := by decide +kernel
    rw [spells_iff, ← number?_eq_some_iff, hnumber, Option.some.injEq] at hn
    omega
  obtain ⟨e, he, -, hmessage⟩ := hrefused "+4294967296" htoo
  exact ⟨(hread _ ⟨255⟩).2 hspells, ⟨e, he, hmessage⟩,
    hback ⟨10⟩ " \t" "\n" (by simp [isBlank]) (by simp [isBlank])⟩

end WireTag

end TlvSchema
