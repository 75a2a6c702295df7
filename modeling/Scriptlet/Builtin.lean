import Scriptlet.Machine

/-!
# Built-in functions

Programs see a built-in function as a handle, a value that holds its name. The registry has the
functions themselves: what they accept, what they give, and what they do. A function is called
only with arguments that it accepts, and its result is checked against the type that the handle
promises.
-/

namespace Scriptlet

/-- What a built-in function does with arguments: it may print a text, and it gives a value or
fails. -/
structure Reply where
  /-- What is printed. -/
  printed : String := ""
  /-- The value that is given. -/
  result : Except Failure Value

/-- A built-in function. -/
structure Builtin where
  /-- Its name. -/
  name : String
  /-- The type of its results. -/
  returnType : ValueType
  /-- The types of its arguments, where `none` accepts all types. -/
  params : List (Option ValueType) := []
  /-- Whether it takes any arguments, whatever its parameters are. -/
  variadic : Bool := false
  /-- What it does with arguments that it accepts.  It knows nothing but their values: it keeps no
  state, and it does not see the evaluation that calls it. -/
  run : List Value → Reply

namespace Builtin

/-- The number of arguments, unless any number will do. -/
def arity (b : Builtin) : Option Nat := if b.variadic then none else some b.params.length

/-- The text of what a parameter accepts. -/
def paramText : Option ValueType → String
  | none => "None"
  | some t => t.name

/-- Whether a parameter accepts an argument. -/
def accepts (param : Option ValueType) (arg : Value) : Bool :=
  match param with
  | none => true
  | some t => t = arg.type

/-- What is wrong with arguments, if something is. -/
def rejection? (b : Builtin) (args : List Value) : Option Cause :=
  if b.variadic then none
  else if args.length ≠ b.params.length then
    some (.arityMismatch b.name b.params.length args.length)
  else if (b.params.zip args).all fun (param, arg) => accepts param arg then none
  else some (.typeMismatch ("'" ++ b.name ++ "'")
    ("(" ++ ", ".intercalate (b.params.map paramText) ++ ")") (args.map Value.type))

/-- A function that always gives the same value. -/
def constant (v : Value) : List Value → Reply := fun _ => { result := .ok v }

/-- A function that gives one of its arguments. -/
def argument (i : Nat) : List Value → Reply := fun args =>
  { result := match args[i]? with
      | some v => .ok v
      | none => .error .missingArgument }

end Builtin

/-- The built-in functions that there are. -/
structure Registry where
  /-- The functions, in the order in which their names were first registered. -/
  builtins : List Builtin := []
  /-- No two functions have the same name. -/
  distinct : (builtins.map Builtin.name).Nodup := by simp

namespace Registry

/-- The function of a given name. -/
def find? (r : Registry) (name : String) : Option Builtin := Keyed.get? Builtin.name name r.builtins

/-- The registry with a further function, which takes the place of one of the same name. -/
def register (r : Registry) (b : Builtin) : Registry :=
  ⟨Keyed.put Builtin.name b r.builtins, Keyed.nodup_keys_put Builtin.name r.distinct⟩

/-- What registering a function leaves in the log. -/
def registerNotes (r : Registry) (b : Builtin) : List Note :=
  if (r.find? b.name).isSome then [.builtinReplaced b.name] else []

/-- The names of the functions, in order. -/
def names (r : Registry) : List String :=
  (r.builtins.map Builtin.name).mergeSort fun a b => a ≤ b

/-- A scope in which each function's name is bound to a handle to it. -/
def populate (r : Registry) (s : Scope) : Scope :=
  r.builtins.foldl (fun s b => s.set b.name (.fn (.builtin b.name b.returnType))) s

/-- What populating a scope leaves in the log. -/
def populateNote (r : Registry) (s : Scope) : Note := .scopePopulated s.name r.builtins.length

@[simp] theorem find?_register (r : Registry) (b : Builtin) (name : String) :
    (r.register b).find? name = if b.name = name then some b else r.find? name :=
  Keyed.get?_put Builtin.name name b r.builtins

/-- The function that is found under a name has that name. -/
theorem name_of_find? {r : Registry} {name : String} {b : Builtin} (h : r.find? name = some b) :
    b.name = name := by
  simpa using List.find?_some h

/-- Calls a function by its name, where a result of a given type is promised. -/
def call {d : Nat} (r : Registry) (name : String) (args : List Value) (promised : ValueType) :
    Eval d Value := do
  match r.find? name with
  | none => Eval.raise (.unknownBuiltin name)
  | some b =>
    match b.rejection? args with
    | some cause => Eval.raise cause
    | none =>
      Eval.note (.builtinCalled name args.length)
      let reply := b.run args
      Eval.print reply.printed
      let v ← Eval.ofExcept reply.result
      if v.type = promised then return v
      else Eval.raise (.typeMismatch ("result of '" ++ name ++ "'") promised.name [v.type])

end Registry

end Scriptlet
