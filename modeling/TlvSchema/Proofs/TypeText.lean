import TlvSchema.FieldType.Basic
import TlvSchema.Proofs.Spelling

/-!
# Types and their texts

The text of a type begins with a keyword, and no keyword is the beginning of another one.  What follows is
nothing, the element of an array or the members of a struct.  So it can be read off a text that begins with
a type which type it is and where its text ends, whatever comes afterwards.  Only the names of the members
can be in the way: the first colon has to end a name, and a name must not look like the end of a struct.

* `memberNames`, `Plain` — the names of the members in a type, and the types whose names are not in the way
* `Keyword` — what the text of a type begins with
* `display_append_inj` — texts that begin with a type can be read
* `display_injective` — types with one text are the same
-/

namespace TlvSchema.FieldType

variable {s t : FieldType} {xs ys : List Char}

/-! ### Names of members -/

mutual

/-- The names of the members of all structs in a type. -/
def memberNames : FieldType → List String
  | .scalar _ | .string => []
  | .array element => element.memberNames
  | .struct members => listedNames members

/-- The names of the members of a struct, and those in their types. -/
def listedNames : List (String × FieldType) → List String
  | [] => []
  | (name, type) :: members => name :: (type.memberNames ++ listedNames members)

end

/-- The names of the members have neither a colon nor a closing brace. -/
def Plain (type : FieldType) : Prop :=
  ∀ name ∈ type.memberNames, ':' ∉ name.toList ∧ '\x7d' ∉ name.toList

instance : DecidablePred Plain := fun type =>
  inferInstanceAs (Decidable (∀ name ∈ type.memberNames, ':' ∉ name.toList ∧ '\x7d' ∉ name.toList))

theorem plain_array_iff {element : FieldType} : (array element).Plain ↔ element.Plain := Iff.rfl

theorem plain_struct_cons_iff {name : String} {type : FieldType}
    {members : List (String × FieldType)} :
    (struct ((name, type) :: members)).Plain ↔
      (':' ∉ name.toList ∧ '\x7d' ∉ name.toList) ∧ type.Plain ∧ (struct members).Plain := by
  simp only [Plain, memberNames, listedNames, List.forall_mem_cons, List.forall_mem_append]

/-! ### Keywords -/

/-- What the text of a type begins with. -/
inductive Keyword where
  /-- The name of a type of fixed size. -/
  | scalar (kind : Scalar)
  /-- The name of the type of texts. -/
  | string
  /-- The beginning of an array, up to its element. -/
  | array
  /-- The beginning of a struct, up to its members. -/
  | struct
deriving DecidableEq

namespace Keyword

/-- The keyword as text. -/
def text : Keyword → String
  | .scalar kind => kind.display
  | .string => "string"
  | .array => "array<"
  | .struct => "struct \x7b "

/-- All keywords. -/
def all : List Keyword :=
  [.scalar .u8, .scalar .u16, .scalar .u32, .scalar .u64, .scalar .i8, .scalar .i16, .scalar .i32,
    .scalar .i64, .scalar .bool, .scalar .f32, .scalar .f64, .string, .array, .struct]

theorem mem_all (k : Keyword) : k ∈ all := by
  cases k with
  | scalar kind => cases kind <;> decide
  | _ => decide

/-- **No keyword is the beginning of another one.** -/
theorem eq_of_isPrefix {k l : Keyword} (h : k.text.toList <+: l.text.toList) : k = l := by
  have hall : ∀ k ∈ all, ∀ l ∈ all, k.text.toList <+: l.text.toList → k = l := by decide +kernel
  exact hall k k.mem_all l l.mem_all h

theorem text_append_inj {k l : Keyword} (h : k.text.toList ++ xs = l.text.toList ++ ys) :
    k = l ∧ xs = ys := by
  have hkl : k = l := by
    rcases List.append_eq_append_iff.1 h with ⟨r, hr, -⟩ | ⟨r, hr, -⟩
    · exact eq_of_isPrefix ⟨r, hr.symm⟩
    · exact (eq_of_isPrefix ⟨r, hr.symm⟩).symm
  subst hkl
  exact ⟨rfl, List.append_cancel_left h⟩

end Keyword

/-- The keyword of a type. -/
def keyword : FieldType → Keyword
  | .scalar kind => .scalar kind
  | .string => .string
  | .array _ => .array
  | .struct _ => .struct

/-- The members of a struct and its end. -/
def closedMembers (members : List (String × FieldType)) : List Char :=
  (displayMembers members).toList ++ [' ', '\x7d']

/-- What follows the keyword of a type. -/
def afterKeyword : FieldType → List Char
  | .scalar _ | .string => []
  | .array element => element.display.toList ++ ['>']
  | .struct members => closedMembers members

theorem toList_display (type : FieldType) :
    type.display.toList = type.keyword.text.toList ++ type.afterKeyword := by
  cases type <;> simp [display, keyword, Keyword.text, afterKeyword, closedMembers]

theorem keyword_append_inj (h : s.display.toList ++ xs = t.display.toList ++ ys) :
    s.keyword = t.keyword ∧ s.afterKeyword ++ xs = t.afterKeyword ++ ys := by
  rw [toList_display, toList_display, List.append_assoc, List.append_assoc] at h
  exact Keyword.text_append_inj h

/-! ### Members -/

/-- What follows a member of a struct. -/
def afterMember : List (String × FieldType) → List Char
  | [] => [' ', '\x7d']
  | members => ',' :: ' ' :: closedMembers members

theorem closedMembers_cons_append (name : String) (type : FieldType)
    (members : List (String × FieldType)) (xs : List Char) :
    closedMembers ((name, type) :: members) ++ xs =
      name.toList ++ ':' :: ' ' :: (type.display.toList ++ (afterMember members ++ xs)) := by
  cases members <;> simp [closedMembers, displayMembers, afterMember]

/-- A struct without members does not look like one with a member. -/
theorem closedMembers_nil_append_ne {name : String} (h : '\x7d' ∉ name.toList) (type : FieldType)
    (members : List (String × FieldType)) :
    closedMembers [] ++ xs ≠ closedMembers ((name, type) :: members) ++ ys := by
  intro he
  rw [closedMembers_cons_append] at he
  -- the name would begin with the end of the struct
  cases hn : name.toList with
  | nil => simp [closedMembers, displayMembers, hn] at he
  | cons c cs =>
    cases cs with
    | nil => simp [closedMembers, displayMembers, hn] at he
    | cons d ds =>
      simp only [closedMembers, displayMembers, hn, String.toList_empty, List.nil_append,
        List.cons_append, List.cons.injEq] at he
      obtain ⟨-, hd, -⟩ := he
      exact h (by rw [hn, hd]; simp)

/-- A name without colons ends where the first colon stands. -/
theorem name_append_inj {name name' : String} (h : ':' ∉ name.toList) (h' : ':' ∉ name'.toList)
    (he : name.toList ++ ':' :: xs = name'.toList ++ ':' :: ys) : name = name' ∧ xs = ys := by
  rcases Identifier.append_cons_eq_append_cons_iff.1 he with ⟨hn, hr⟩ | ⟨r, hr, -⟩ | ⟨r, hr, -⟩
  · exact ⟨String.toList_injective hn, hr⟩
  · exact absurd (hr ▸ List.mem_append_right _ List.mem_cons_self) h'
  · exact absurd (hr ▸ List.mem_append_right _ List.mem_cons_self) h

/-! ### Reading types -/

mutual

/-- **Texts that begin with a type can be read.** -/
theorem display_append_inj : ∀ (s t : FieldType) (xs ys : List Char), s.Plain → t.Plain →
    s.display.toList ++ xs = t.display.toList ++ ys → s = t ∧ xs = ys
  | .scalar kind, t, xs, ys, _, _, h => by
    obtain ⟨hk, hrest⟩ := keyword_append_inj h
    cases t with
    | scalar kind' =>
      cases hk
      exact ⟨rfl, hrest⟩
    | _ => cases hk
  | .string, t, xs, ys, _, _, h => by
    obtain ⟨hk, hrest⟩ := keyword_append_inj h
    cases t with
    | string => exact ⟨rfl, hrest⟩
    | _ => cases hk
  | .array s, t, xs, ys, hs, ht, h => by
    obtain ⟨hk, hrest⟩ := keyword_append_inj h
    cases t with
    | array t =>
      rw [afterKeyword, afterKeyword, List.append_assoc, List.append_assoc] at hrest
      obtain ⟨hst, htail⟩ := display_append_inj s t ('>' :: xs) ('>' :: ys)
        (plain_array_iff.1 hs) (plain_array_iff.1 ht) hrest
      exact ⟨congrArg array hst, List.tail_eq_of_cons_eq htail⟩
    | _ => cases hk
  | .struct members, t, xs, ys, hs, ht, h => by
    obtain ⟨hk, hrest⟩ := keyword_append_inj h
    cases t with
    | struct members' =>
      obtain ⟨hm, htail⟩ := members_append_inj members members' xs ys hs ht hrest
      exact ⟨congrArg struct hm, htail⟩
    | _ => cases hk

/-- Texts that begin with the members of a struct can be read. -/
theorem members_append_inj : ∀ (ms ns : List (String × FieldType)) (xs ys : List Char),
    (struct ms).Plain → (struct ns).Plain →
    closedMembers ms ++ xs = closedMembers ns ++ ys → ms = ns ∧ xs = ys
  | [], ns, xs, ys, _, hns, h => by
    cases ns with
    | nil => exact ⟨rfl, List.append_cancel_left h⟩
    | cons n ns =>
      obtain ⟨hname, -, -⟩ := plain_struct_cons_iff.1 hns
      exact absurd h (closedMembers_nil_append_ne hname.2 _ _)
  | (name, type) :: ms, ns, xs, ys, hms, hns, h => by
    obtain ⟨hname, htype, hlater⟩ := plain_struct_cons_iff.1 hms
    cases ns with
    | nil => exact absurd h.symm (closedMembers_nil_append_ne hname.2 _ _)
    | cons n ns =>
      obtain ⟨name', type'⟩ := n
      obtain ⟨hname', htype', hlater'⟩ := plain_struct_cons_iff.1 hns
      rw [closedMembers_cons_append, closedMembers_cons_append] at h
      obtain ⟨hn, hrest⟩ := name_append_inj hname.1 hname'.1 h
      obtain ⟨ht, htail⟩ := display_append_inj type type' _ _ htype htype'
        (List.tail_eq_of_cons_eq hrest)
      subst hn ht
      -- after a member there is a comma or the end
      cases ms with
      | nil =>
        cases ns with
        | nil => exact ⟨rfl, List.append_cancel_left htail⟩
        | cons n ns => simp [afterMember] at htail
      | cons m ms =>
        cases ns with
        | nil => simp [afterMember] at htail
        | cons n ns =>
          obtain ⟨hm, hxs⟩ := members_append_inj (m :: ms) (n :: ns) xs ys hlater hlater'
            (List.tail_eq_of_cons_eq (List.tail_eq_of_cons_eq htail))
          exact ⟨by rw [hm], hxs⟩

end

/-- **Types with one text are the same.** -/
theorem display_injective (hs : s.Plain) (ht : t.Plain) (h : s.display = t.display) : s = t :=
  (display_append_inj s t [] [] hs ht (by rw [h])).1

/-- A colon in a name hides where the name ends. -/
example : display (.struct [("a", .scalar .u8), ("b", .string)]) =
    display (.struct [("a: u8, b", .string)]) := by decide +kernel

/-- A closing brace in a name hides where a struct ends. -/
example : display (.struct [("a", .struct []), ("b", .struct [(" \x7d, c", .string)])]) =
    display (.struct [("a", .struct [(" \x7d, b", .struct []), ("c", .string)])]) := by decide +kernel

end TlvSchema.FieldType
