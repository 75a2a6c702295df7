import Scriptlet.Failure
import Scriptlet.Note
import Scriptlet.Scope

/-!
# The machine that runs programs

A machine has the scope that it works in, a frame for each call that it is inside of, and what it
has printed and noted so far. The number of calls is part of its type: `Eval d α` is a computation
inside of `d` calls, and as it ends inside of as many, no call can be left behind or left early,
whether it fails or not.

A `return` does not leave its call at once. It leaves its value in the innermost frame, and
whatever has yet to be evaluated in that call looks there first (`Eval.unlessReturning`).
-/

namespace Scriptlet

/-- A call in progress. -/
structure Frame where
  /-- The name of the function. -/
  function : String
  /-- The value that was returned, if there was a `return`. -/
  result : Option Value := none

namespace Frame

/-- Leaves a value to be returned. -/
def signal (f : Frame) (v : Value) : Frame := { f with result := some v }

/-- Whether there was a `return`. -/
def shouldReturn (f : Frame) : Bool := f.result.isSome

/-- The value of the call. -/
def returnValue (f : Frame) : Value := f.result.getD .nothing

end Frame

/-- The frames of a number of calls, each inside of the next. -/
inductive CallStack : Nat → Type where
  /-- No call. -/
  | empty : CallStack 0
  /-- A call inside of others. -/
  | push {d : Nat} (frame : Frame) (below : CallStack d) : CallStack (d + 1)

namespace CallStack

/-- The frame of the innermost call. -/
def top {d : Nat} : CallStack (d + 1) → Frame
  | push frame _ => frame

/-- The calls around the innermost one. -/
def pop {d : Nat} : CallStack (d + 1) → CallStack d
  | push _ below => below

/-- The value that the innermost call is returning, if it is. -/
def returned? {d : Nat} : CallStack d → Option Value
  | empty => none
  | push frame _ => frame.result

/-- Leaves a value in the innermost frame, unless there is one. -/
def signal {d : Nat} (v : Value) : CallStack d → CallStack d
  | empty => empty
  | push frame below => push (if frame.shouldReturn then frame else frame.signal v) below

/-- The frames as a list, the innermost first. -/
def toList {d : Nat} : CallStack d → List Frame
  | empty => []
  | push frame below => frame :: below.toList

@[simp] theorem length_toList {d : Nat} (s : CallStack d) : s.toList.length = d := by
  induction s with
  | empty => rfl
  | push _ _ ih => simp [toList, ih]

end CallStack

/-- A machine inside of `d` calls. -/
structure Machine (d : Nat) where
  /-- The scope that it works in. -/
  scope : Scope
  /-- The calls that it is inside of. -/
  stack : CallStack d
  /-- What it has printed. -/
  output : String := ""
  /-- What it has noted. -/
  log : Array Note := #[]

/-- The number of calls that a machine is inside of. -/
def Machine.callDepth {d : Nat} (m : Machine d) : Nat := m.stack.toList.length

/-- A machine inside of no call. -/
def Machine.atTop (scope : Scope) (output : String := "") (log : Array Note := #[]) : Machine 0 :=
  ⟨scope, .empty, output, log⟩

/-- A computation of a machine inside of `d` calls: it gives a value or fails, and leaves a
machine behind in either case. -/
def Eval (d : Nat) (α : Type) : Type := Machine d → Except Failure α × Machine d

namespace Eval

variable {d : Nat} {α β : Type}

instance : Monad (Eval d) where
  pure a := fun m => (.ok a, m)
  bind x f := fun m =>
    match x m with
    | (.ok a, m) => f a m
    | (.error e, m) => (.error e, m)

@[simp] theorem pure_apply (a : α) (m : Machine d) : (pure a : Eval d α) m = (.ok a, m) := rfl

@[simp] theorem bind_apply (x : Eval d α) (f : α → Eval d β) (m : Machine d) :
    (x >>= f) m = match x m with
      | (.ok a, m) => f a m
      | (.error e, m) => (.error e, m) := rfl

/-- Fails. -/
def fail (e : Failure) : Eval d α := fun m => (.error e, m)

/-- Fails with an error of the language. -/
def raise (cause : Cause) (span : Option Span := none) : Eval d α := fail (.located cause span)

/-- Gives the result of a computation that needs no machine. -/
def ofExcept (x : Except Failure α) : Eval d α := fun m => (x, m)

/-- Gives something that the machine has. -/
def read (f : Machine d → α) : Eval d α := fun m => (.ok (f m), m)

/-- Changes the machine. -/
def update (f : Machine d → Machine d) : Eval d Unit := fun m => (.ok (), f m)

/-- Takes a note. -/
def note (n : Note) : Eval d Unit := update fun m => { m with log := m.log.push n }

/-- Prints a text. -/
def print (s : String) : Eval d Unit := update fun m => { m with output := m.output ++ s }

/-- Binds a name in the scope. -/
def bindName (name : String) (v : Value) : Eval d Unit :=
  update fun m => { m with scope := m.scope.set name v }

/-- The value that the innermost call is returning, if it is. -/
def returning : Eval d (Option Value) := read fun m => m.stack.returned?

/-- Goes on, unless the innermost call is returning: then that call's value is the value here,
too. -/
def unlessReturning (go : Eval d Value) : Eval d Value := do
  match ← returning with
  | some v => return v
  | none => go

@[simp] theorem fail_apply (e : Failure) (m : Machine d) :
    (fail e : Eval d α) m = (.error e, m) := rfl

@[simp] theorem raise_apply (cause : Cause) (span : Option Span) (m : Machine d) :
    (raise cause span : Eval d α) m = (.error (.located cause span), m) := rfl

@[simp] theorem ofExcept_apply (x : Except Failure α) (m : Machine d) :
    ofExcept x m = (x, m) := rfl

@[simp] theorem read_apply (f : Machine d → α) (m : Machine d) : read f m = (.ok (f m), m) := rfl

@[simp] theorem update_apply (f : Machine d → Machine d) (m : Machine d) :
    update f m = (.ok (), f m) := rfl

@[simp] theorem note_apply (n : Note) (m : Machine d) :
    note n m = (.ok (), { m with log := m.log.push n }) := rfl

@[simp] theorem print_apply (s : String) (m : Machine d) :
    print s m = (.ok (), { m with output := m.output ++ s }) := rfl

@[simp] theorem bindName_apply (name : String) (v : Value) (m : Machine d) :
    bindName name v m = (.ok (), { m with scope := m.scope.set name v }) := rfl

@[simp] theorem returning_apply (m : Machine d) :
    returning m = (.ok m.stack.returned?, m) := rfl

theorem unlessReturning_apply (go : Eval d Value) (m : Machine d) :
    unlessReturning go m = match m.stack.returned? with
      | some v => (.ok v, m)
      | none => go m := by
  simp only [unlessReturning, bind_apply, returning_apply]
  cases m.stack.returned? <;> rfl

/-- Runs a body inside of one more call, in a scope of its own, and gives the value that the call
returns. The scope of the caller is as it was. -/
def insideCall (function : String) (scope : Scope) (body : Eval (d + 1) Unit) :
    Eval d Value := fun m =>
  match body ⟨scope, .push { function } m.stack, m.output, m.log⟩ with
  | (.ok (), m') =>
    (.ok m'.stack.top.returnValue, ⟨m.scope, m'.stack.pop, m'.output, m'.log⟩)
  | (.error e, m') => (.error e, ⟨m.scope, m'.stack.pop, m'.output, m'.log⟩)

end Eval

end Scriptlet
