import TlvSchema.Model
import TlvSchema.Proofs.Identifier
import TlvSchema.Proofs.Shape

/-!
# When a model can be built

A list of fields has a model if and only if every field has one by itself and no two fields have
names with the same words (`exists_build_iff`).  The model lists the models of the fields in the
order of the fields (`build_eq_ok_iff`).
-/

namespace TlvSchema

/-! ### Single fields -/

namespace Field

/-- The model of a field whose values have a known type. -/
def modelOfType (container : String) (direction : Direction) (f : Field) (type : FieldType) :
    FieldModel where
  name := f.name
  tag := f.tag
  symbol := Identifier.wireTagSymbol container f.name
  format := f.format
  type := type
  prerequisite := f.prerequisite
  getter := Identifier.snake container ++ "_get_" ++ Identifier.snake f.name
  setter :=
    if direction = .input then
      some (Identifier.snake container ++ "_set_" ++ Identifier.snake f.name)
    else none

variable {container : String} {direction : Direction} {f : Field} {g : FieldModel}

theorem model_eq_ok_iff :
    f.model container direction = .ok g ↔ Identifier.hasWords f.name = true ∧
      ∃ type, f.shape.type? container f.name = .ok type ∧
        f.modelOfType container direction type = g := by
  unfold model
  rw [bind_eq_ok_iff]
  by_cases hw : Identifier.hasWords f.name = true
  · simp [hw, modelOfType, pure, Except.pure]
  · simp [hw]

variable (container direction) in
theorem exists_model_iff :
    (∃ g, f.model container direction = .ok g) ↔
      Identifier.hasWords f.name = true ∧ f.shape.WellFormed := by
  rw [← Member.exists_type?_iff container f.name]
  simp only [model_eq_ok_iff]
  constructor
  · rintro ⟨_, hw, type, ht, -⟩
    exact ⟨hw, type, ht⟩
  · rintro ⟨hw, type, ht⟩
    exact ⟨_, hw, type, ht, rfl⟩

end Field

/-! ### Lists of fields -/

namespace Model

variable {container : String} {direction : Direction} {fields : List Field} {gs : List FieldModel}

theorem collision?_eq_none_iff {earlier : List FieldModel}
    (h : earlier.Pairwise fun a b => a.symbol ≠ b.symbol) :
    collision? container earlier gs = none ↔
      (earlier ++ gs).Pairwise fun a b => a.symbol ≠ b.symbol := by
  induction gs generalizing earlier with
  | nil => simpa [collision?] using h
  | cons g gs ih =>
    rw [collision?]
    cases hf : earlier.find? (·.symbol = g.symbol) with
    | some first =>
      have hm := List.mem_of_find?_eq_some hf
      have he : first.symbol = g.symbol := by simpa using List.find?_some hf
      simp only [reduceCtorEq, false_iff]
      exact fun hp => (List.pairwise_append.1 hp).2.2 first hm g List.mem_cons_self he
    | none =>
      have hne : ∀ a ∈ earlier, a.symbol ≠ g.symbol := by simpa using hf
      -- what has been scanned is still without repetitions
      have h' : (earlier ++ [g]).Pairwise fun a b => a.symbol ≠ b.symbol :=
        List.pairwise_append.2 ⟨h, List.pairwise_singleton _ _, by simpa using hne⟩
      rw [ih h', List.append_assoc, List.singleton_append]

theorem fieldModels_eq_ok_iff :
    fieldModels container direction fields = .ok gs ↔
      List.Forall₂ (fun f g => f.model container direction = .ok g) fields gs ∧
        gs.Pairwise fun a b => a.symbol ≠ b.symbol := by
  simp only [fieldModels, bind_eq_ok_iff, mapM_eq_ok_iff]
  constructor
  · rintro ⟨models, hm, hc⟩
    cases hn : collision? container [] models with
    | some e => simp [hn] at hc
    | none =>
      simp only [hn, pure, Except.pure, Except.ok.injEq] at hc
      exact ⟨hc ▸ hm, hc ▸ (collision?_eq_none_iff .nil).1 hn⟩
  · rintro ⟨hm, hp⟩
    have hn : collision? container [] gs = none := (collision?_eq_none_iff .nil).2 hp
    exact ⟨gs, hm, by simp [hn, pure, Except.pure]⟩

/-- The model lists the models of the fields, whose symbols are pairwise different. -/
theorem build_eq_ok_iff {m : Model} :
    build container direction (some fields) = .ok m ↔
      ∃ gs, List.Forall₂ (fun f g => f.model container direction = .ok g) fields gs ∧
        (gs.Pairwise fun a b => a.symbol ≠ b.symbol) ∧ ⟨container, direction, some gs⟩ = m := by
  simp only [build, bind_eq_ok_iff, fieldModels_eq_ok_iff, pure, Except.pure, Except.ok.injEq,
    and_assoc]

/-- What a model keeps of its field is the same in the list of models as in the list of fields. -/
theorem map_eq_map {γ : Type} {p : FieldModel → γ} {q : Field → γ}
    (hpq : ∀ f type, p (Field.modelOfType container direction f type) = q f)
    (h : List.Forall₂ (fun f g => f.model container direction = .ok g) fields gs) :
    gs.map p = fields.map q := by
  induction h with
  | nil => rfl
  | cons hg _ ih =>
    obtain ⟨-, type, -, rfl⟩ := Field.model_eq_ok_iff.1 hg
    rw [List.map_cons, List.map_cons, hpq, ih]

/-- Fields in another order have their models in another order. -/
theorem perm_of_forall₂ {fields' : List Field} {gs' : List FieldModel} (hp : fields.Perm fields')
    (h : List.Forall₂ (fun f g => f.model container direction = .ok g) fields gs)
    (h' : List.Forall₂ (fun f g => f.model container direction = .ok g) fields' gs') :
    gs.Perm gs' := by
  have hm : ∀ {fs : List Field} {ms : List FieldModel},
      List.Forall₂ (fun f g => f.model container direction = .ok g) fs ms →
        ms = fs.filterMap fun f => (f.model container direction).toOption := by
    intro fs ms hfs
    induction hfs with
    | nil => rfl
    | cons hg _ ih => rw [List.filterMap_cons, hg, ← ih]; rfl
  rw [hm h, hm h']
  exact hp.filterMap _

theorem pairwise_symbol_iff
    (h : List.Forall₂ (fun f g => f.model container direction = .ok g) fields gs) :
    (gs.Pairwise fun a b => a.symbol ≠ b.symbol) ↔
      fields.Pairwise fun f g => ¬ Identifier.SameWords f.name g.name := by
  have hs : gs.map (·.symbol) = fields.map fun f => Identifier.wireTagSymbol container f.name :=
    map_eq_map (fun _ _ => rfl) h
  rw [← List.pairwise_map (f := FieldModel.symbol) (R := fun a b => a ≠ b), hs, List.pairwise_map]
  simp only [ne_eq, Identifier.wireTagSymbol_eq_iff]

variable (container direction) in
theorem exists_forall₂_model_iff :
    (∃ gs, List.Forall₂ (fun f g => f.model container direction = .ok g) fields gs) ↔
      ∀ f ∈ fields, Identifier.hasWords f.name = true ∧ f.shape.WellFormed := by
  rw [exists_forall₂_iff]
  exact forall₂_congr fun f _ => Field.exists_model_iff container direction

/-- **Fields have a model if and only if each of them has one and no two of them have names with the
same words.** -/
theorem exists_build_iff :
    (∃ m, build container direction (some fields) = .ok m) ↔
      (∀ f ∈ fields, Identifier.hasWords f.name = true ∧ f.shape.WellFormed) ∧
        fields.Pairwise fun f g => ¬ Identifier.SameWords f.name g.name := by
  rw [← exists_forall₂_model_iff container direction]
  constructor
  · rintro ⟨m, hm⟩
    obtain ⟨gs, hg, hp, -⟩ := build_eq_ok_iff.1 hm
    exact ⟨⟨gs, hg⟩, (pairwise_symbol_iff hg).1 hp⟩
  · rintro ⟨⟨gs, hg⟩, hp⟩
    exact ⟨_, build_eq_ok_iff.2 ⟨gs, hg, (pairwise_symbol_iff hg).2 hp, rfl⟩⟩

end Model

end TlvSchema
