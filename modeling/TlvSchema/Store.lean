import TlvSchema.Container
import TlvSchema.Event

/-!
# The store of containers

Containers are reached through named handles.  Every handle holds one reference to its container, and
the container is disposed with its last reference.

* `Store` — the containers that are alive and the handles to them
* `Store.Step`, `Store.Answer` — what can be asked of a store, and the answers
* `Store.step`, `Store.run` — one step and several steps
* `Store.close` — giving back the handles that are left
-/

namespace TlvSchema

/-- The containers that are alive, under their numbers, and the handles to them. -/
structure Store where
  /-- The containers. -/
  containers : List (Nat × Container)
  /-- The names of the handles with the numbers of their containers. -/
  handles : List (String × Nat)
  /-- The number of the next container. -/
  next : Nat

namespace Store

/-- Nothing is alive. -/
def empty : Store := ⟨[], [], 0⟩

variable (s : Store)

/-! ### Containers and handles -/

/-- The number of the container of a handle. -/
def number? (handle : String) : Option Nat := s.handles.lookup handle

/-- The container with a number. -/
def container? (number : Nat) : Option Container := s.containers.lookup number

/-- The container of a handle, with its number. -/
def target? (handle : String) : Option (Nat × Container) := do
  let number ← s.number? handle
  let container ← s.container? number
  pure (number, container)

/-- The store in which a container that is alive has been replaced. -/
def replace (number : Nat) (c : Container) : Store :=
  { s with containers := s.containers.map fun e => if e.1 = number then (number, c) else e }

/-- The store in which a container is no longer alive. -/
def remove (number : Nat) : Store :=
  { s with containers := s.containers.filter fun e => e.1 ≠ number }

/-- The store with one more container, which is alive from now on. -/
def add (c : Container) : Store :=
  { s with containers := s.containers ++ [(s.next, c)], next := s.next + 1 }

/-- The store without a handle; its reference is not given back. -/
def forget (handle : String) : Store :=
  { s with handles := s.handles.filter fun e => e.1 ≠ handle }

/-- The store with one more handle. -/
def hold (handle : String) (number : Nat) : Store :=
  { s with handles := s.handles ++ [(handle, number)] }

/-! ### References -/

/-- Give one reference to a container back; whether it was the last one.  With the last one the fields of
the container are released and the container is gone. -/
def giveBack (number : Nat) : Logged (Bool × Store) :=
  match s.container? number with
  | none => pure (false, s)
  | some c =>
    if c.count = 1 then do
      let (c, released) := c.clear
      Logged.event (.disposed c.model.fullName released)
      pure (true, s.remove number)
    else pure (false, s.replace number { c with count := c.count - 1 })

/-- Give back the reference of a handle, which is gone then; whether it was the last one. -/
def release (handle : String) : Logged (Bool × Store) :=
  match s.number? handle with
  | none => pure (false, s)
  | some number => (s.forget handle).giveBack number

/-- Bind a handle to a container that has a reference for it.  If the name is in use, the handle that
has it gives its reference back. -/
def assign (handle : String) (number : Nat) : Logged Store := do
  let (_, s) ← s.release handle
  pure (s.hold handle number)

/-! ### Steps -/

/-- What can be asked of a store. -/
inductive Step where
  /-- Make an empty container. -/
  | create (handle : String) (model : Model)
  /-- Make a container of decoded values. -/
  | decode (handle : String) (model : Model) (values : List (String × Value))
  /-- Make a second handle. -/
  | retain (handle second : String)
  /-- Give a handle back and ask whether it was the last one. -/
  | release (handle : String)
  /-- Give a handle back. -/
  | drop (handle : String)
  /-- Write a field. -/
  | set (handle field : String) (value : Value)
  /-- Read a field. -/
  | get (handle field : String)
  /-- Read a field, or the default of its type. -/
  | getOrDefault (handle field : String)
  /-- Ask whether a field is present. -/
  | isPresent (handle field : String)
  /-- Ask for the number of references. -/
  | count (handle : String)
  /-- Ask for the name of the container. -/
  | name (handle : String)
  /-- Ask for the container with all its parts, on one line or over several lines. -/
  | dump (handle : String) (spread : Bool)

/-- What a store answers. -/
inductive Answer where
  /-- It is done. -/
  | done
  /-- A number of references. -/
  | count (n : Nat)
  /-- Yes or no. -/
  | flag (b : Bool)
  /-- A value, if it is present. -/
  | value (v : Option Value)
  /-- Whether a value is present, and the value or a default. -/
  | presence (present : Bool) (v : Value)
  /-- A text. -/
  | text (t : String)
  /-- It was not done. -/
  | refused (e : UsageError)
  /-- There is no such handle. -/
  | noHandle (handle : String)

/-- A result of a reading as an answer. -/
def answerOf {α : Type} (answer : α → Answer) : Except UsageError α → Answer
  | .ok a => answer a
  | .error e => .refused e

/-- Add a new container and bind a handle to it. -/
def enter (handle : String) : Except UsageError Container → Logged (Answer × Store)
  | .error e => pure (.refused e, s)
  | .ok c => do
    let s' ← (s.add c).assign handle s.next
    pure (.count c.count, s')

/-- Read something of the container of a handle. -/
def read (handle : String) (answer : Container → Answer) : Answer :=
  match s.target? handle with
  | none => .noHandle handle
  | some (_, c) => answer c

/-- Make a second handle to the container of a handle.  A count of more than `2 ^ 63 - 1` references would
stop the program, since so many can only be the result of a leak; the count has no bound here. -/
def retain (handle second : String) : Logged (Answer × Store) :=
  match s.target? handle with
  | none => pure (.noHandle handle, s)
  | some (number, c) => do
    let s' ← (s.replace number { c with count := c.count + 1 }).assign second number
    pure (.count (c.count + 1), s')

/-- Write a field of the container of a handle.  Only handles to input containers offer this, so that the
direction is not checked; here it may be asked of any handle. -/
def write (handle field : String) (value : Value) : Answer × Store :=
  match s.target? handle with
  | none => (.noHandle handle, s)
  | some (number, c) => match c.set field value with
    | .ok c' => (.done, s.replace number c')
    | .error e => (.refused e, s)

/-- Do one step. -/
def step : Step → Logged (Answer × Store)
  | .create handle model => s.enter handle (Container.create model)
  | .decode handle model values => s.enter handle (Container.decode model values)
  | .retain handle second => s.retain handle second
  | .release handle => do
    let (last, s') ← s.release handle
    pure (s.read handle fun _ => .flag last, s')
  | .drop handle => do
    let (_, s') ← s.release handle
    pure (s.read handle fun _ => .done, s')
  | .set handle field value => pure (s.write handle field value)
  | .get handle field => pure (s.read handle fun c => answerOf .value (c.get field), s)
  | .getOrDefault handle field =>
    pure (s.read handle fun c => answerOf (fun r => .presence r.1 r.2) (c.getOrDefault field), s)
  | .isPresent handle field =>
    pure (s.read handle fun c => answerOf .flag (c.isPresent field), s)
  | .count handle => pure (s.read handle fun c => .count c.count, s)
  | .name handle => pure (s.read handle fun c => .text c.model.fullName, s)
  | .dump handle spread =>
    pure (s.read handle fun c => .text (if spread then c.dump.spread else c.dump.line), s)

/-- Do several steps one after the other: each answer with the events of its step, and the store in
the end. -/
def run (s : Store) : List Step → List (Logged Answer) × Store
  | [] => ([], s)
  | step :: steps =>
    let result := s.step step
    let (answers, s') := run result.value.2 steps
    (⟨result.value.1, result.entries⟩ :: answers, s')

/-! ### The end -/

/-- The names of the handles in ascending order. -/
def handleNames : List String := (s.handles.map Prod.fst).mergeSort fun a b => a ≤ b

/-- Give back several handles one after the other. -/
def releaseAll (s : Store) : List String → Logged Store
  | [] => pure s
  | handle :: handles => do
    let (_, s') ← s.release handle
    releaseAll s' handles

/-- Give back the handles that are left, in ascending order of their names. -/
def close : Logged Store := s.releaseAll s.handleNames

end Store

end TlvSchema
