import TlvSchema.Proofs.Bytes
import TlvSchema.Proofs.Command
import TlvSchema.Proofs.Loading

/-!
# Where a fault is shown

A fault that is found in a text has a position, the line and column of some offset, and the report on it has
a label at an offset again.  The label goes back by one byte, as columns of faults count from one, but never
to the line before.  Lines and positions are found by separate passes over the text, and both count the line
feeds: the line of a position is the one that has as many line feeds before it, and its column leads from
the start of that line to the offset.

* `StartsLine` — where the line with a number begins, in bytes
* `startsLine_of_getElem?` — the lines of a text begin there
* `exists_liesOn` — the position of an offset lies on one of the lines
* `Schema.position_of_load` — the faults of a schema have positions in its text
* `Session.label_of_fault` — the label of a fault
-/

namespace TlvSchema

namespace Text

/-- The line with the number, counted from one, begins at the offset. -/
structure StartsLine (text : List UInt8) (number start : ℕ) : Prop where
  /-- The offset is one of the text. -/
  le_length : start ≤ text.length
  /-- The line feeds before it end the lines before. -/
  count : (text.take start).count lineFeed + 1 = number
  /-- Nothing else of the line is before it. -/
  first : start = 0 ∨ text[start - 1]? = some lineFeed

variable {text : List UInt8} {cs : List Char} {number start i : ℕ} {l : Line}

/-! ### Lines -/

theorem startsLine_zero (text : List UInt8) : StartsLine text 1 0 :=
  ⟨Nat.zero_le _, rfl, .inl rfl⟩

theorem StartsLine.ne_zero (h : StartsLine text number start) (hn : number ≠ 1) : start ≠ 0 := by
  rintro rfl
  exact hn h.count.symm

/-- A line begins later by what is put in front of the text, unless that goes into the line itself. -/
theorem StartsLine.append (h : StartsLine text number start) (before : List UInt8)
    (hb : start = 0 → before[before.length - 1]? = some lineFeed) :
    StartsLine (before ++ text) (before.count lineFeed + number) (before.length + start) := by
  obtain ⟨hle, hcount, hfirst⟩ := h
  refine ⟨?_, ?_, .inr ?_⟩
  · rw [List.length_append]
    omega
  · rw [List.take_length_add_append, List.count_append]
    omega
  · by_cases hs : start = 0
    · have hlast := hb hs
      rwa [hs, Nat.add_zero, List.getElem?_append_left (List.getElem?_eq_some_iff.1 hlast).1]
    · rw [Nat.add_sub_assoc (Nat.one_le_iff_ne_zero.2 hs), List.getElem?_append_right (by omega),
        Nat.add_sub_cancel_left]
      exact hfirst.resolve_left hs

theorem getElem?_consChar {c : Char} {ls : List Line} (h : (consChar start c ls)[i]? = some l) :
    (i = 0 ∧ l.start = start) ∨ (i ≠ 0 ∧ ls[i]? = some l) := by
  cases i with
  | zero =>
    cases ls with
    | nil | cons => exact .inl ⟨rfl, by cases h; rfl⟩
  | succ i =>
    cases ls with
    | nil => cases h
    | cons => exact .inr ⟨i.succ_ne_zero, h⟩

/-- **The lines of a text begin where its line feeds end the lines before.** -/
theorem startsLine_of_getElem? (h : (linesFrom start cs)[i]? = some l) :
    ∃ offset, l.start = start + offset ∧ StartsLine (encode cs) (i + 1) offset := by
  induction cs generalizing start i with
  | nil =>
    cases i with
    | zero =>
      cases h
      exact ⟨0, rfl, startsLine_zero _⟩
    | succ i => cases h
  | cons c cs ih =>
    rw [linesFrom] at h
    rw [encode_cons]
    split_ifs at h with hc
    · subst hc
      cases i with
      | zero =>
        cases h
        exact ⟨0, rfl, startsLine_zero _⟩
      | succ i =>
        obtain ⟨offset, hl, hstarts⟩ := ih h
        refine ⟨1 + offset, by omega, ?_⟩
        have happend := hstarts.append (String.utf8EncodeChar '\n') fun _ => rfl
        rw [count_utf8EncodeChar, if_pos rfl, String.length_utf8EncodeChar, Nat.add_comm] at happend
        exact happend
    · rcases getElem?_consChar h with ⟨rfl, hl⟩ | ⟨hi, hl⟩
      · exact ⟨0, hl, startsLine_zero _⟩
      · obtain ⟨offset, hl, hstarts⟩ := ih hl
        refine ⟨c.utf8Size + offset, by omega, ?_⟩
        have happend := hstarts.append (String.utf8EncodeChar c) fun h0 =>
          absurd h0 (hstarts.ne_zero (by omega))
        rwa [count_utf8EncodeChar, if_neg hc, String.length_utf8EncodeChar, Nat.zero_add] at happend

/-! ### Positions -/

theorem after_of_eq {c : Char} {n column : ℕ} (h : c = '\n') :
    (⟨n, column⟩ : Position).after c = ⟨n + 1, 0⟩ :=
  if_pos h

theorem after_of_ne {c : Char} {n column : ℕ} (h : c ≠ '\n') :
    (⟨n, column⟩ : Position).after c = ⟨n, column + c.utf8Size⟩ :=
  if_neg h

/-- The first line goes on at least to the end of the first character. -/
theorem exists_firstLine (start : ℕ) (c : Char) (cs : List Char) :
    ∃ l, (linesFrom start (c :: cs))[0]? = some l ∧ l.start = start ∧ start + c.utf8Size ≤ l.stop := by
  rw [linesFrom]
  split_ifs
  · exact ⟨_, rfl, rfl, le_rfl⟩
  · cases linesFrom (start + c.utf8Size) cs with
    | nil => exact ⟨_, rfl, rfl, le_rfl⟩
    | cons l ls => exact ⟨_, rfl, rfl, Nat.add_le_add_left (Nat.le_add_right _ _) start⟩

/-- The first line of a text begins where the text does. -/
theorem start_of_getElem?_zero (h : (linesFrom start cs)[0]? = some l) : l.start = start := by
  cases cs with
  | nil =>
    cases h
    rfl
  | cons c cs =>
    obtain ⟨l', hl', hstart, -⟩ := exists_firstLine start c cs
    rw [h] at hl'
    cases hl'
    exact hstart

/-- A character in front of a text that is no line feed becomes a part of the first line. -/
theorem exists_line_cons {c : Char} (hc : c ≠ '\n')
    (h : (linesFrom (start + c.utf8Size) cs)[i]? = some l) :
    ∃ l', (linesFrom start (c :: cs))[i]? = some l' ∧ l'.stop = l.stop ∧
      l'.start + (if i = 0 then c.utf8Size else 0) = l.start := by
  have hzero : (linesFrom (start + c.utf8Size) cs)[0]? = some l → l.start = start + c.utf8Size :=
    start_of_getElem?_zero
  rw [linesFrom, if_neg hc]
  generalize linesFrom (start + c.utf8Size) cs = ls at h hzero ⊢
  cases ls with
  | nil => cases h
  | cons first ls =>
    cases i with
    | zero =>
      have hstart := hzero h
      cases h
      refine ⟨_, rfl, ?_, hstart.symm⟩
      rw [Line.stop, Line.stop, byteLength, hstart, Nat.add_assoc]
    | succ i => exact ⟨l, h, rfl, rfl⟩

/-- The position names a place on the line `l` of a text that begins at `start`.  Lines are counted on from
`n`, and `column` bytes of the first one lie before the text. -/
structure LiesOn (cs : List Char) (start n column place : ℕ) (p : Position) (l : Line) : Prop where
  /-- The position is not before the text. -/
  le_line : n ≤ p.line
  /-- Its line is that of the text. -/
  getElem?_line : (linesFrom start cs)[p.line - n]? = some l
  /-- Its column leads from the start of the line to the place. -/
  column_eq : l.start + p.column = place + if p.line = n then column else 0
  /-- The line goes on to the place. -/
  le_stop : place ≤ l.stop

variable {c : Char} {n column place offset : ℕ} {p : Position}

theorem liesOn_nil : LiesOn [] start n column start ⟨n, column⟩ ⟨start, []⟩ where
  le_line := le_rfl
  getElem?_line := by
    rw [Nat.sub_self]
    rfl
  column_eq := by rw [if_pos rfl]
  le_stop := Nat.le_add_right _ _

/-- A place inside the first character. -/
theorem exists_liesOn_of_lt (h : offset < c.utf8Size) :
    ∃ l, LiesOn (c :: cs) start n column (start + offset) ⟨n, column + offset⟩ l := by
  obtain ⟨l, hl, hstart, hstop⟩ := exists_firstLine start c cs
  refine ⟨l, le_rfl, ?_, ?_, by omega⟩
  · rw [Nat.sub_self]
    exact hl
  · rw [if_pos rfl, hstart]
    dsimp only
    omega

/-- A line feed in front of the text ends a line. -/
theorem LiesOn.lineFeed (h : LiesOn cs (start + 1) (n + 1) 0 place p l) :
    LiesOn ('\n' :: cs) start n column place p l := by
  obtain ⟨hn, hl, hcolumn, hstop⟩ := h
  refine ⟨by omega, ?_, ?_, hstop⟩
  · rw [linesFrom, if_pos rfl, show p.line - n = p.line - (n + 1) + 1 by omega]
    exact hl
  · rw [ite_self] at hcolumn
    rwa [if_neg (by omega)]

/-- Any other character becomes a part of the first line. -/
theorem LiesOn.exists_cons (hc : c ≠ '\n')
    (h : LiesOn cs (start + c.utf8Size) n (column + c.utf8Size) place p l) :
    ∃ l', LiesOn (c :: cs) start n column place p l' := by
  obtain ⟨hn, hl, hcolumn, hstop⟩ := h
  obtain ⟨l', hl', hstop', hstart'⟩ := exists_line_cons hc hl
  refine ⟨l', hn, hl', ?_, by omega⟩
  by_cases hline : p.line = n
  · rw [if_pos hline] at hcolumn ⊢
    rw [if_pos (by omega)] at hstart'
    omega
  · rw [if_neg hline] at hcolumn ⊢
    rw [if_neg (by omega)] at hstart'
    omega

/-- **The position of an offset lies on a line of the text.** -/
theorem exists_liesOn (cs : List Char) (offset start n column : ℕ) :
    ∃ l, LiesOn cs start n column (start + min offset (byteLength cs))
      (positionFrom ⟨n, column⟩ cs offset) l := by
  induction cs generalizing offset start n column with
  | nil =>
    rw [positionFrom, byteLength, Nat.min_zero]
    exact ⟨_, liesOn_nil⟩
  | cons c cs ih =>
    rw [positionFrom, byteLength]
    by_cases hlt : offset < c.utf8Size
    · rw [if_pos hlt, show min offset (c.utf8Size + byteLength cs) = offset by omega]
      exact exists_liesOn_of_lt hlt
    · have hplace : start + min offset (c.utf8Size + byteLength cs) =
          start + c.utf8Size + min (offset - c.utf8Size) (byteLength cs) := by omega
      rw [if_neg hlt, hplace]
      by_cases hc : c = '\n'
      · subst hc
        obtain ⟨l, hl⟩ := ih (offset - '\n'.utf8Size) (start + 1) (n + 1) 0
        exact ⟨l, hl.lineFeed⟩
      · obtain ⟨l, hl⟩ := ih (offset - c.utf8Size) (start + c.utf8Size) n (column + c.utf8Size)
        rw [after_of_ne hc]
        exact hl.exists_cons hc

/-- The line of a position counts the line feeds before the offset. -/
theorem line_positionFrom (cs : List Char) (offset n column : ℕ) :
    (positionFrom ⟨n, column⟩ cs offset).line = n + ((encode cs).take offset).count lineFeed := by
  induction cs generalizing offset n column with
  | nil => simp [positionFrom]
  | cons c cs ih =>
    have hcount := count_utf8EncodeChar c
    rw [positionFrom, encode_cons, List.take_append, List.count_append, String.length_utf8EncodeChar]
    split_ifs with hlt
    · have hzero : ((String.utf8EncodeChar c).take offset).count lineFeed = 0 := by
        by_cases hc : c = '\n'
        · have hsize : c.utf8Size = 1 := by rw [hc]; rfl
          rw [show offset = 0 by omega]
          rfl
        · have hle := (List.take_sublist offset (String.utf8EncodeChar c)).count_le lineFeed
          rw [hcount, if_neg hc] at hle
          exact Nat.le_zero.1 hle
      rw [hzero, Nat.sub_eq_zero_of_le hlt.le]
      rfl
    · rw [List.take_of_length_le (by rw [String.length_utf8EncodeChar]; omega), hcount]
      by_cases hc : c = '\n'
      · rw [after_of_eq hc, ih, if_pos hc, Nat.add_assoc]
      · rw [after_of_ne hc, ih, if_neg hc, Nat.zero_add]

/-- What lies between the start of a line and a place on it is on the line too. -/
theorem StartsLine.count_take (h : StartsLine text number start) {last : ℕ} (offset : ℕ)
    (hlast : (text.take last).count lineFeed + 1 = number) (hle : start ≤ offset)
    (hle' : offset ≤ last) : (text.take offset).count lineFeed + 1 = number := by
  have hbefore := (List.take_sublist_take_left (l := text) hle).count_le lineFeed
  have hafter := (List.take_sublist_take_left (l := text) hle').count_le lineFeed
  have hcount := h.count
  omega

/-- **The position of an offset is on the line that has as many line feeds before it.** -/
theorem line_of_positionAt (source : String) (offset : ℕ) :
    let p := positionAt source.toList offset
    let last := min offset source.utf8ByteSize
    1 ≤ p.line ∧ ((bytes source).take last).count lineFeed + 1 = p.line ∧
      ∃ l, (lines source.toList)[p.line - 1]? = some l ∧ StartsLine (bytes source) p.line l.start ∧
        l.start + p.column = last ∧ last ≤ l.stop := by
  have hlength : byteLength source.toList = source.utf8ByteSize := by
    rw [← length_encode, ← bytes_eq, length_bytes]
  obtain ⟨l, hn, hl, hcolumn, hstop⟩ := exists_liesOn source.toList offset 0 1 0
  have hcount := line_positionFrom source.toList offset 1 0
  obtain ⟨start, hstart, hstarts⟩ := startsLine_of_getElem? hl
  dsimp only
  rw [positionAt, bytes_eq]
  generalize positionFrom ⟨1, 0⟩ source.toList offset = p at hn hl hcolumn hcount hstarts ⊢
  have hlast : ((encode source.toList).take (min offset source.utf8ByteSize)).count lineFeed + 1 =
      p.line := by
    rw [← hlength, ← length_encode, ← List.take_eq_take_min, hcount, Nat.add_comm]
  rw [ite_self, hlength] at hcolumn
  rw [hlength] at hstop
  rw [Nat.sub_add_cancel hn] at hstarts
  obtain rfl : l.start = start := by omega
  exact ⟨hn, hlast, l, hl, hstarts, by omega, by omega⟩

end Text

/-! ### Faults of schemas -/

open Text (StartsLine bytes lineFeed)

/-- A fault of a text has a position in it, and one of a value that was read has none. -/
theorem Schema.position_of_load {text : String} {e : Json.Error}
    (h : (load text).run.value = .error (.json e)) :
    e.position = none ∨ ∃ offset, e.position = some (Text.positionAt text.toList offset) := by
  cases hparse : Json.parseArray text with
  | ok entries =>
    obtain ⟨-, entry, -, -, hfaulty, -⟩ := (load_eq_error_iff hparse).1 h
    left
    cases hfaulty <;> rfl
  | error e' =>
    have he : e' = e := by
      rw [load, hparse] at h
      cases h
      rfl
    subst he
    rw [Json.parseArray, Json.Parser.read] at hparse
    split at hparse
    next => cases hparse
    next failure _ =>
      cases hparse
      exact .inr ⟨failure.offset, rfl⟩

namespace Session

variable {s : Session} {number : ℕ} {source : Source} {e : Json.Error}

/-- **The label of a fault.**  If a source is not the JSON of a schema, that is what is reported.  A fault
without a position has no label.  Any other one has one label, in the text, on the line that the fault is
reported for, and as many bytes after the start of that line as the column says, which counts from one.  The
end of the line does not come into it. -/
theorem label_of_fault (hs : s.sources[number]? = some source)
    (hload : (Schema.load source.text).run.value = .error (.json e)) :
    ((loadSchema number).run s).value = (none, s.reported (jsonDiagnostic source e)) ∧
    (e.position = none → (jsonDiagnostic source e).label = none) ∧
    ∀ p, e.position = some p → 1 ≤ p.line ∧ ∃ label line,
      (jsonDiagnostic source e).label = some label ∧ label.source = source ∧
      label.offset ≤ (bytes source.text).length ∧
      ((bytes source.text).take label.offset).count lineFeed = p.line - 1 ∧
      (Text.lines source.text.toList)[p.line - 1]? = some line ∧
      StartsLine (bytes source.text) p.line line.start ∧
      label.offset = line.start + (max p.column 1 - 1) ∧ label.offset ≤ line.stop := by
  refine ⟨?_, fun hp => by simp [jsonDiagnostic, hp], fun p hp => ?_⟩
  · rw [(loadSchema_spec number s).2, hs, schemaOf, hload]
    rfl
  obtain ⟨offset, hoffset⟩ := (Schema.position_of_load hload).resolve_left (by simp [hp])
  obtain rfl : p = Text.positionAt source.text.toList offset := Option.some.inj (hp.symm.trans hoffset)
  obtain ⟨hone, hlast, line, hline, hstarts, hcolumn, hstop⟩ :=
    Text.line_of_positionAt source.text offset
  generalize Text.positionAt source.text.toList offset = p at hp hone hlast hline hstarts hcolumn ⊢
  have hplace : offsetOf? source.text p = some (line.start + (max p.column 1 - 1)) := by
    rw [offsetOf?, hline, Option.map_some, Option.some.injEq]
    omega
  refine ⟨hone, ⟨source, line.start + (max p.column 1 - 1), faultRemark e.fault.category⟩, line, ?_,
    rfl, ?_, ?_, hline, hstarts, rfl, ?_⟩
  · rw [jsonDiagnostic, hp, Option.bind_some, hplace, Option.map_some]
  · rw [Text.length_bytes]
    dsimp only
    omega
  · have hcount := hstarts.count_take (line.start + (max p.column 1 - 1)) hlast (Nat.le_add_right _ _)
      (by omega)
    exact Nat.eq_sub_of_add_eq hcount
  · dsimp only
    omega

/-- A list with a comma missing on its second line. -/
def unseparatedSource : Source := ⟨"a", "[\n\"é\" 1]"⟩

theorem label_of_fault_unseparatedSource :
    ∃ label, (jsonDiagnostic unseparatedSource ⟨.expectedListEnd, some ⟨2, 6⟩⟩).label = some label ∧
      label.offset = 7 := by
  have hload : (Schema.load unseparatedSource.text).run.value =
      .error (.json ⟨.expectedListEnd, some ⟨2, 6⟩⟩) := by cbv
  obtain ⟨-, -, hlabel⟩ :=
    @label_of_fault { empty with sources := [unseparatedSource] } 0 unseparatedSource _ rfl hload
  obtain ⟨-, label, line, hl, -, -, -, hline, -, hoffset, -⟩ := hlabel ⟨2, 6⟩ rfl
  have hstart : some line.start = some 2 := by
    rw [← Option.map_some (f := Text.Line.start), ← hline]
    decide +kernel
  exact ⟨label, hl, by rw [hoffset, Option.some.inj hstart]; rfl⟩

end Session

end TlvSchema
