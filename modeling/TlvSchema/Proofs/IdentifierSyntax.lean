import TlvSchema.Proofs.Collision
import TlvSchema.Proofs.Loading

/-!
# The syntax of identifiers

The target language takes a row of letters, digits and underscores that begins with a letter.  All names
of a model are words that are joined by single underscores, whatever stands between the words of the
names in the schema.  A name may have no words at all, or begin with a digit; but a field without words
has no model, and the full name of a container begins with the type of its message.

* `IsIdentifier` — what the target language takes
* `Joined` — words with an underscore between each two, which `Joined.append` makes longer
* `LetterFirst` — a name whose three spellings are identifiers
* `Model.Built.isIdentifier_operationName` — the names of functions
* `Schema.letterFirst_fullName` — the full names of the containers of a schema
* `Schema.isIdentifier_of_compile` — all names of a container that compiles
-/

namespace TlvSchema

namespace Identifier

/-- The target language takes the text as an identifier. -/
structure IsIdentifier (name : String) : Prop where
  /-- It begins with a letter. -/
  first : ∃ c cs, name.toList = c :: cs ∧ c.isAlpha = true
  /-- It has letters, digits and underscores only. -/
  chars : ∀ c ∈ name.toList, c.isAlphanum = true ∨ c = '_'
  /-- No two underscores stand next to each other. -/
  apart : ¬ ['_', '_'] <:+: name.toList
  /-- It does not end with an underscore. -/
  last : name.toList.getLast? ≠ some '_'

/-! ### Joined words -/

/-- The text begins and ends with a letter or digit, and has single underscores in between. -/
structure Joined (cs : List Char) : Prop where
  /-- It has letters, digits and underscores only. -/
  chars : ∀ c ∈ cs, c.isAlphanum = true ∨ c = '_'
  /-- Of two characters next to each other one is no underscore. -/
  chain : cs.IsChain fun a b => a ≠ '_' ∨ b ≠ '_'
  /-- It begins with a letter or digit. -/
  first : ∃ c, cs.head? = some c ∧ c ≠ '_'
  /-- It ends with a letter or digit. -/
  last : ∃ c, cs.getLast? = some c ∧ c ≠ '_'

theorem ne_underscore {c : Char} (h : c.isAlphanum = true) : c ≠ '_' := by
  rintro rfl
  exact absurd h (by decide)

theorem IsWord.joined {w : List Char} (h : IsWord w) : Joined w := by
  have hne : ∀ c ∈ w, c ≠ '_' := fun c hc => ne_underscore (h.2 c hc)
  refine ⟨fun c hc => .inl (h.2 c hc), ?_, ?_, ?_⟩
  · refine (List.pairwise_of_forall_mem_list fun a ha b _ => ?_).isChain
    exact .inl (hne a ha)
  · exact ⟨w.head h.1, List.head?_eq_some_head h.1, hne _ (List.head_mem h.1)⟩
  · exact ⟨w.getLast h.1, List.getLast?_eq_some_getLast h.1, hne _ (List.getLast_mem h.1)⟩

/-- Joined words may be joined to further ones. -/
theorem Joined.append {xs ys : List Char} (hx : Joined xs) (hy : Joined ys) :
    Joined (xs ++ '_' :: ys) := by
  obtain ⟨a, ha, hane⟩ := hx.first
  obtain ⟨b, hb, hbne⟩ := hx.last
  obtain ⟨c, hc, hcne⟩ := hy.first
  obtain ⟨d, hd, hdne⟩ := hy.last
  refine ⟨fun e he => ?_, List.isChain_append.2 ⟨hx.chain, ?_, ?_⟩, ⟨a, ?_, hane⟩, ⟨d, ?_, hdne⟩⟩
  · rcases List.mem_append.1 he with he | he
    · exact hx.chars e he
    · exact (List.mem_cons.1 he).elim .inr (hy.chars e)
  · refine List.isChain_cons.2 ⟨fun e he => .inr ?_, hy.chain⟩
    rw [hc] at he
    exact Option.some.inj he ▸ hcne
  · intro e he _ _
    rw [hb] at he
    exact .inl (Option.some.inj he ▸ hbne)
  · rw [List.head?_append, ha, Option.some_or]
  · rw [List.getLast?_append, List.getLast?_cons, hd]
    rfl

theorem joined_intercalate {ws : List (List Char)} (hne : ws ≠ []) (h : ∀ w ∈ ws, IsWord w) :
    Joined (List.intercalate ['_'] ws) := by
  induction ws with
  | nil => exact absurd rfl hne
  | cons w ws ih =>
    obtain ⟨hw, hws⟩ := List.forall_mem_cons.1 h
    cases ws with
    | nil =>
      rw [List.intercalate_singleton]
      exact hw.joined
    | cons v vs =>
      rw [List.intercalate_cons_cons, List.append_assoc]
      exact hw.joined.append (ih (List.cons_ne_nil v vs) hws)

/-- Joined words are an identifier if they begin with a letter. -/
theorem Joined.isIdentifier {name : String} (h : Joined name.toList)
    (hl : ∃ c, name.toList.head? = some c ∧ c.isAlpha = true) : IsIdentifier name := by
  obtain ⟨c, hc, halpha⟩ := hl
  obtain ⟨d, hd, hne⟩ := h.last
  refine ⟨?_, h.chars, fun hi => ?_, fun hu => ?_⟩
  · obtain ⟨cs, hcs⟩ := List.head?_eq_some_iff.1 hc
    exact ⟨c, cs, hcs, halpha⟩
  · have htwo := h.chain.infix hi
    simp at htwo
  · exact hne (Option.some.inj (hd.symm.trans hu))

/-! ### Spellings of names -/

/-- The first word of the name begins with a letter. -/
def LetterFirst (name : String) : Prop :=
  ∃ c w ws, words name.toList = (c :: w) :: ws ∧ c.isAlpha = true

theorem LetterFirst.words_ne_nil {name : String} (h : LetterFirst name) :
    words name.toList ≠ [] := by
  obtain ⟨c, w, ws, hw, -⟩ := h
  exact hw ▸ List.cons_ne_nil _ _

/-- Words that follow do not matter. -/
theorem LetterFirst.append {name : String} (h : LetterFirst name) (later : String) :
    LetterFirst (name ++ " " ++ later) := by
  obtain ⟨c, w, ws, hw, hc⟩ := h
  have hs : (name ++ " " ++ later).toList = name.toList ++ ' ' :: later.toList := by simp
  refine ⟨c, w, ws ++ words later.toList, ?_, hc⟩
  rw [hs, words_append_cons (by decide), hw]
  rfl

theorem LetterFirst.symbolName {name : String} (h : LetterFirst name) (field : String) :
    LetterFirst (name ++ " TLV " ++ field) := by
  obtain ⟨c, w, ws, hw, hc⟩ := h
  exact ⟨c, w, ws ++ ['T', 'L', 'V'] :: words field.toList, by rw [words_symbolName, hw]; rfl, hc⟩

/-- A spelling that changes no more than the case of letters joins words. -/
theorem joined_spelling {f : Char → Char} (hf : ∀ c, (f c).isAlphanum = c.isAlphanum)
    {name : String} (h : words name.toList ≠ []) :
    Joined (List.intercalate ['_'] ((words name.toList).map (List.map f))) := by
  refine joined_intercalate (by simpa using h) fun w hw => ?_
  obtain ⟨v, hv, rfl⟩ := List.mem_map.1 hw
  exact (isWord_of_mem_words hv).map hf

theorem isAlphanum_of_mem_capitalize {w : List Char} (hw : IsWord w) {d : Char}
    (hd : d ∈ capitalize w) : d.isAlphanum = true := by
  cases w with
  | nil => exact absurd rfl hw.1
  | cons c cs =>
    rcases List.mem_cons.1 hd with rfl | hd
    · rw [isAlphanum_toUpper, hw.2 c List.mem_cons_self]
    · obtain ⟨e, he, rfl⟩ := List.mem_map.1 hd
      rw [isAlphanum_toLower, hw.2 e (List.mem_cons_of_mem c he)]

theorem head?_intercalate (c : Char) (w : List Char) (ws : List (List Char)) :
    (List.intercalate ['_'] ((c :: w) :: ws)).head? = some c := by
  cases ws with
  | nil => rw [List.intercalate_singleton, List.head?_cons]
  | cons v vs => rw [List.intercalate_cons_cons, List.append_assoc, List.cons_append, List.head?_cons]

theorem isIdentifier_spelling {f : Char → Char} (hf : ∀ c, (f c).isAlphanum = c.isAlphanum)
    (hl : ∀ c, (f c).isAlpha = c.isAlpha) {name : String} (h : LetterFirst name) :
    IsIdentifier
      (String.ofList (List.intercalate ['_'] ((words name.toList).map (List.map f)))) := by
  have hne := h.words_ne_nil
  obtain ⟨c, w, ws, hw, hc⟩ := h
  refine Joined.isIdentifier ?_ ⟨f c, ?_, (hl c).trans hc⟩
  · rw [String.toList_ofList]
    exact joined_spelling hf hne
  · rw [String.toList_ofList, hw, List.map_cons, List.map_cons, head?_intercalate]

theorem joined_snake {name : String} (h : words name.toList ≠ []) :
    Joined (snake name).toList := by
  rw [snake, String.toList_ofList]
  exact joined_spelling isAlphanum_toLower h

theorem isIdentifier_snake {name : String} (h : LetterFirst name) : IsIdentifier (snake name) :=
  isIdentifier_spelling isAlphanum_toLower (fun c => by simp) h

theorem isIdentifier_screaming {name : String} (h : LetterFirst name) :
    IsIdentifier (screaming name) :=
  isIdentifier_spelling isAlphanum_toUpper (fun c => by simp) h

/-- A type name is one long word. -/
theorem isIdentifier_camel {name : String} (h : LetterFirst name) : IsIdentifier (camel name) := by
  obtain ⟨c, w, ws, hw, hc⟩ := h
  have hcamel : (camel name).toList =
      c.toUpper :: (w.map Char.toLower ++ (ws.map capitalize).flatten) := by
    rw [camel, String.toList_ofList, hw]
    rfl
  have hword : IsWord (camel name).toList := by
    refine ⟨by rw [hcamel]; exact List.cons_ne_nil _ _, fun d hd => ?_⟩
    rw [camel, String.toList_ofList] at hd
    obtain ⟨_, hcap, hd⟩ := List.mem_flatten.1 hd
    obtain ⟨v, hv, rfl⟩ := List.mem_map.1 hcap
    exact isAlphanum_of_mem_capitalize (isWord_of_mem_words hv) hd
  exact hword.joined.isIdentifier ⟨c.toUpper, by rw [hcamel]; rfl, by simpa using hc⟩

end Identifier

open Identifier

/-! ### Names of a model -/

namespace Model

variable {m : Model} {fields : List Field} {op : Operation} {i : ℕ}

theorem Built.joined_snake_name (h : m.Built fields) (hi : i < m.fields.length) :
    Joined (snake m.fields[i].name).toList := by
  obtain ⟨hlen, hget⟩ := List.forall₂_iff_get.1 h.models
  have hf : i < fields.length := hlen ▸ hi
  obtain ⟨hw, type, -, he⟩ := Field.model_eq_ok_iff.1 (hget i hf hi)
  have hname : m.fields[i].name = fields[i].name := (congrArg FieldModel.name he).symm
  rw [hname]
  exact joined_snake (hasWords_iff_words_ne_nil.1 hw)

/-- What follows the stem of a function name are words after an underscore. -/
theorem Built.joined_ending (h : m.Built fields) (ho : op ∈ m.operations) :
    ∃ cs, (m.ending op).toList = '_' :: cs ∧ Joined cs := by
  have hword (w : List Char) (hne : w ≠ []) (hw : w.all Char.isAlphanum = true) : Joined w :=
    IsWord.joined ⟨hne, List.all_eq_true.1 hw⟩
  rw [mem_operations_iff] at ho
  cases op with
  | create => exact ⟨['n', 'e', 'w'], by simp [ending], hword _ (by decide) (by decide)⟩
  | retain => exact ⟨['r', 'e', 'f'], by simp [ending], hword _ (by decide) (by decide)⟩
  | release => exact ⟨['u', 'n', 'r', 'e', 'f'], by simp [ending], hword _ (by decide) (by decide)⟩
  | get i =>
    have hget : Joined ['g', 'e', 't'] := hword _ (by decide) (by decide)
    refine ⟨_, ?_, hget.append (h.joined_snake_name ho)⟩
    simp [ending, List.getElem?_eq_getElem ho]
  | set i =>
    have hset : Joined ['s', 'e', 't'] := hword _ (by decide) (by decide)
    refine ⟨_, ?_, hset.append (h.joined_snake_name ho.1)⟩
    simp [ending, List.getElem?_eq_getElem ho.1]

/-- **Every operation of a model has a function name, which is an identifier.** -/
theorem Built.isIdentifier_operationName (h : m.Built fields) (hl : LetterFirst m.fullName)
    (ho : op ∈ m.operations) : ∃ name, m.operationName op = some name ∧ IsIdentifier name := by
  obtain ⟨cs, hcs, hjoined⟩ := h.joined_ending ho
  refine ⟨m.functionStem ++ m.ending op, by rw [h.operationName_eq, if_pos ho], ?_⟩
  obtain ⟨c, cs', hfirst, halpha⟩ := (isIdentifier_snake hl).first
  have hname : (m.functionStem ++ m.ending op).toList = m.functionStem.toList ++ '_' :: cs := by
    rw [String.toList_append, hcs]
  refine Joined.isIdentifier ?_ ⟨c, ?_, halpha⟩
  · rw [hname]
    exact (joined_snake hl.words_ne_nil).append hjoined
  · rw [hname, functionStem, hfirst]
    rfl

end Model

/-! ### Names of a schema -/

/-- The containers of a message are named after its type first. -/
theorem MessageEntry.letterFirst_fullName {m : MessageEntry}
    (ht : m.type = "Message" ∨ m.type = "Indication") : LetterFirst m.fullName := by
  have htype : LetterFirst m.type := by
    rcases ht with ht | ht
    · exact ht ▸ ⟨'M', _, [], rfl, by decide⟩
    · exact ht ▸ ⟨'I', _, [], rfl, by decide⟩
  unfold fullName
  cases m.service with
  | none => exact htype.append _
  | some service => exact (htype.append service).append _

namespace Schema

variable {text : String} {schema : Schema} {spec : ContainerSpec} {m : Model}

/-- The containers of a schema are those of messages and indications. -/
theorem exists_messageEntry (hload : (load text).run.value = .ok schema)
    (hspec : spec ∈ schema.containers) :
    ∃ m : MessageEntry, (m.type = "Message" ∨ m.type = "Indication") ∧
      spec.message = m.fullName := by
  cases hp : Json.parseArray text with
  | error e =>
    rw [load, hp] at hload
    cases hload
  | ok entries =>
    have hsound := not_faulty_of_load_eq_ok hp hload
    rw [load_eq_ok_of_sound hp hsound] at hload
    cases hload
    obtain ⟨entry, hentry, hmem⟩ := List.mem_flatMap.1 hspec
    obtain ⟨hentry, hmessage⟩ := List.mem_filter.1 hentry
    have htype := (Json.isMessage_iff.1 hmessage).2
    cases hj : MessageEntry.ofJson entry with
    | error e => simp [Json.containers, hj] at hmem
    | ok m =>
      have hd := Json.distinctKeys_of_parseArray hp hentry
      have hread {type : String} (ht : entry.entryType = some type) : m.type = type :=
        (Except.ok.inj (MessageEntry.type_of_ofJson hd hj (Json.get?_of_entryType ht))).symm
      have hname : ∀ c ∈ entry.containers, c.message = m.fullName := by
        rw [Json.containers, hj]
        dsimp only
        split_ifs <;> simp
      exact ⟨m, htype.imp hread hread, hname spec hmem⟩

theorem letterFirst_fullName (hload : (load text).run.value = .ok schema)
    (hspec : spec ∈ schema.containers) : LetterFirst spec.fullName := by
  obtain ⟨m, ht, hm⟩ := exists_messageEntry hload hspec
  rw [ContainerSpec.fullName, hm]
  exact (MessageEntry.letterFirst_fullName ht).append _

/-- **All names of a container that compiles are identifiers.**  They are the name of its type, the stem
of its functions, the name of a function for each operation, and the symbols of the wire tags. -/
theorem isIdentifier_of_compile (hload : (load text).run.value = .ok schema)
    (hspec : spec ∈ schema.containers) (hm : (spec.compile schema.common).run.value = .ok m) :
    IsIdentifier m.typeName ∧ IsIdentifier m.functionStem ∧
      (∀ op ∈ m.operations, ∃ name, m.operationName op = some name ∧ IsIdentifier name) ∧
      (∀ op name, m.operationName op = some name → IsIdentifier name) ∧
      ∀ entry ∈ m.wireTags, IsIdentifier entry.1 := by
  obtain ⟨hname, fields, hb⟩ := ContainerSpec.built_of_compile hm
  have hl : LetterFirst m.fullName := hname ▸ letterFirst_fullName hload hspec
  refine ⟨isIdentifier_camel hl, isIdentifier_snake hl, fun op => hb.isIdentifier_operationName hl,
    fun op name hop => ?_, fun entry he => ?_⟩
  · have ho : op ∈ m.operations := hb.isSome_operationName_iff.1 (hop ▸ rfl)
    obtain ⟨name', hname', hid⟩ := hb.isIdentifier_operationName hl ho
    exact Option.some.inj (hname'.symm.trans hop) ▸ hid
  · obtain ⟨f, hf, rfl⟩ := List.mem_map.1 he
    change IsIdentifier f.symbol
    rw [hb.symbol_eq hf]
    exact isIdentifier_screaming (hl.symbolName f.name)

/-- A message whose service has no words, and a field whose name begins with a digit. -/
def oddNames : String :=
  "[\x7b\"type\":\"Message\",\"service\":\"--\",\"name\":\"été 9\",\"input\":[" ++
    "\x7b\"name\":\"3 µ\",\"id\":1,\"format\":\"guint8\"\x7d]\x7d]"

theorem isIdentifier_of_compile_oddNames : ∃ schema spec m, (load oddNames).run.value = .ok schema ∧
    spec ∈ schema.containers ∧ (spec.compile schema.common).run.value = .ok m ∧
    m.operationName (.get 0) = some "message_t_9_input_get_3" ∧
    IsIdentifier "message_t_9_input_get_3" := by
  have h : ((load oddNames).run.value.toOption.bind fun schema => schema.containers.head?.bind
      fun spec => (spec.compile schema.common).run.value.toOption.map
        fun m => m.operationName (.get 0)) = some (some "message_t_9_input_get_3") := by
    decide +kernel
  obtain ⟨schema, hload, h⟩ := Option.bind_eq_some_iff.1 h
  obtain ⟨spec, hspec, h⟩ := Option.bind_eq_some_iff.1 h
  obtain ⟨m, hm, hop⟩ := Option.map_eq_some_iff.1 h
  have hload := Session.toOption_eq_some_iff.1 hload
  have hm := Session.toOption_eq_some_iff.1 hm
  have hspec := List.mem_of_head? hspec
  obtain ⟨-, -, -, hnames, -⟩ := isIdentifier_of_compile hload hspec hm
  exact ⟨schema, spec, m, hload, hspec, hm, hop, hnames _ _ hop⟩

end Schema

end TlvSchema
