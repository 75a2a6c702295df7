import Scriptlet.Value

/-!
# Scopes

A scope binds names to values. There is one scope for the top level of a program; each call works
in a copy of its caller's scope, so what a call binds is gone with it.
-/

namespace Scriptlet

/-- Bindings of names to values. -/
structure Scope where
  /-- What the scope is called in logs. -/
  name : String := "toplevel"
  /-- The bindings, in the order in which the names were first bound. -/
  bindings : List (String × Value) := []
  /-- No name is bound twice. -/
  distinct : (bindings.map Prod.fst).Nodup := by simp

namespace Scope

/-- The scope of the top level before anything is bound. -/
def empty : Scope := {}

/-- The value that a name is bound to. -/
def get? (s : Scope) (name : String) : Option Value :=
  (Keyed.get? Prod.fst name s.bindings).map Prod.snd

/-- The scope with a name bound to a value. -/
def set (s : Scope) (name : String) (v : Value) : Scope :=
  ⟨s.name, Keyed.put Prod.fst (name, v) s.bindings, Keyed.nodup_keys_put Prod.fst s.distinct⟩

/-- A copy of the scope under another name. -/
def snapshot (s : Scope) (name : String) : Scope := { s with name }

/-- Whether a name is bound. -/
def contains (s : Scope) (name : String) : Bool := (s.get? name).isSome

/-- The bound names, in the order in which they were first bound. -/
def names (s : Scope) : List String := s.bindings.map Prod.fst

/-- The number of bound names. -/
def size (s : Scope) : Nat := s.bindings.length

/-- The bindings in the order of the names. -/
def sorted (s : Scope) : List (String × Value) := s.bindings.mergeSort fun a b => a.1 ≤ b.1

@[simp] theorem get?_set (s : Scope) (name : String) (v : Value) (x : String) :
    (s.set name v).get? x = if name = x then some v else s.get? x := by
  unfold get? set
  rw [Keyed.get?_put]
  split <;> rfl

@[simp] theorem get?_snapshot (s : Scope) (name x : String) :
    (s.snapshot name).get? x = s.get? x := rfl

@[simp] theorem name_set (s : Scope) (name : String) (v : Value) :
    (s.set name v).name = s.name := rfl

end Scope

end Scriptlet
