import Mathlib
import TlvSchema.Event

/-!
# Results that may fail, and results with a log

`Logged` is a lawful monad.  What a computation that may fail gives is read off its parts:

* `bind_eq_ok_iff` — a sequence of two steps succeeds if both steps do;
* `mapM_eq_ok_iff`, `exists_forall₂_iff` — a step done for all elements of a list succeeds if it
  does for each of them.
-/

namespace TlvSchema

@[ext] theorem Logged.ext {α : Type} {x y : Logged α} (hv : x.value = y.value)
    (he : x.entries = y.entries) : x = y := by
  cases x
  cases y
  exact congrArg₂ Logged.mk hv he

instance : LawfulMonad Logged :=
  .mk' Logged (fun x => Logged.ext rfl (List.append_nil x.entries)) (fun _ _ => rfl)
    fun _ _ _ => Logged.ext rfl (List.append_assoc _ _ _)

variable {ε α β : Type}

@[simp] theorem Logged.value_event (e : Event) : (Logged.event e).value = () := rfl

@[simp] theorem Logged.events_event (e : Event) : (Logged.event e).events = [e] := rfl

@[simp] theorem Logged.entries_event (e : Event) : (Logged.event e).entries = [.event e] := rfl

@[simp] theorem Logged.value_all (es : List Event) : (Logged.all es).value = () := rfl

@[simp] theorem Logged.entries_all (es : List Event) :
    (Logged.all es).entries = es.map .event := rfl

theorem Logged.mem_events_iff {x : Logged α} {e : Event} : e ∈ x.events ↔ .event e ∈ x.entries := by
  rw [events, List.mem_filterMap]
  constructor
  · rintro ⟨entry, hm, he⟩
    cases entry with
    | event e' => exact Option.some.inj he ▸ hm
    | written text => cases he
  · exact fun hm => ⟨_, hm, rfl⟩

theorem Logged.events_mk_map (a : α) (es : List Event) :
    (⟨a, es.map Entry.event⟩ : Logged α).events = es := by
  change (es.map Entry.event).filterMap Entry.event? = es
  rw [List.filterMap_map]
  exact List.filterMap_some

@[simp] theorem Logged.events_all (es : List Event) : (Logged.all es).events = es :=
  events_mk_map () es

@[simp] theorem Logged.events_written (text : String) : (Logged.written text).events = [] := rfl

@[simp] theorem Logged.value_map (f : α → β) (x : Logged α) : (f <$> x).value = f x.value := rfl

@[simp] theorem Logged.entries_map (f : α → β) (x : Logged α) : (f <$> x).entries = x.entries :=
  List.append_nil x.entries

@[simp] theorem Logged.events_map (f : α → β) (x : Logged α) : (f <$> x).events = x.events :=
  congrArg (List.filterMap Entry.event?) (Logged.entries_map f x)

theorem exists_eq_ok_of_isOk {x : Except ε α} (h : x.isOk = true) : ∃ a, x = .ok a := by
  cases x with
  | error e => cases h
  | ok a => exact ⟨a, rfl⟩

theorem bind_eq_ok_iff {x : Except ε α} {f : α → Except ε β} {b : β} :
    x >>= f = .ok b ↔ ∃ a, x = .ok a ∧ f a = .ok b := by
  cases x <;> simp [bind, Except.bind]

theorem map_eq_ok_iff {x : Except ε α} {f : α → β} {b : β} :
    f <$> x = .ok b ↔ ∃ a, x = .ok a ∧ f a = b := by
  cases x <;> simp [Functor.map, Except.map]

theorem mapM_eq_ok_iff {f : α → Except ε β} {as : List α} {bs : List β} :
    as.mapM f = .ok bs ↔ List.Forall₂ (fun a b => f a = .ok b) as bs := by
  induction as generalizing bs with
  | nil => simp [pure, Except.pure, eq_comm]
  | cons a as ih =>
    rw [List.mapM_cons, bind_eq_ok_iff]
    simp only [bind_eq_ok_iff, pure, Except.pure, Except.ok.injEq, ih]
    constructor
    · rintro ⟨b, hb, bs', hbs, rfl⟩
      exact .cons hb hbs
    · rintro (_ | ⟨hb, hbs⟩)
      exact ⟨_, hb, _, hbs, rfl⟩

theorem exists_forall₂_iff {R : α → β → Prop} {as : List α} :
    (∃ bs, List.Forall₂ R as bs) ↔ ∀ a ∈ as, ∃ b, R a b := by
  induction as with
  | nil => simp
  | cons a as ih =>
    rw [List.forall_mem_cons, ← ih]
    constructor
    · rintro ⟨_, _ | ⟨hb, hbs⟩⟩
      exact ⟨⟨_, hb⟩, _, hbs⟩
    · rintro ⟨⟨b, hb⟩, bs, hbs⟩
      exact ⟨b :: bs, .cons hb hbs⟩

end TlvSchema
