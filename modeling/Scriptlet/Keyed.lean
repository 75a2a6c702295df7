/-!
# Lists with keys

Scopes, registries and parameter lists are lists whose members have keys, one member for each key,
in the order in which the keys first came. `put` keeps them so: a member takes the place of the
one with its key, or else comes last.
-/

namespace Scriptlet.Keyed

variable {α κ : Type} [DecidableEq κ] (key : α → κ)

/-- Puts a member into a list, in the place of the one with the same key if there is one. -/
def put (x : α) : List α → List α
  | [] => [x]
  | y :: ys => if key y = key x then x :: ys else y :: put x ys

/-- The member with a given key. -/
def get? (k : κ) (xs : List α) : Option α := xs.find? (key · = k)

/-- The members of a list put together one after the other. -/
def ofList (xs : List α) : List α := xs.foldl (fun kept x => put key x kept) []

@[simp] theorem get?_nil (k : κ) : get? key k [] = none := rfl

theorem get?_cons (k : κ) (x : α) (xs : List α) :
    get? key k (x :: xs) = if key x = k then some x else get? key k xs := by
  by_cases h : key x = k <;> simp [get?, h]

/-- A member that was put into a list is found there, and no other member is affected. -/
theorem get?_put (k : κ) (x : α) (xs : List α) :
    get? key k (put key x xs) = if key x = k then some x else get? key k xs := by
  induction xs with
  | nil => simp [put, get?_cons]
  | cons y ys ih =>
    unfold put
    by_cases same : key y = key x
    · by_cases h : key x = k <;> simp [get?_cons, same, h]
    · by_cases h : key x = k
      · have : key y ≠ k := fun e => same (e.trans h.symm)
        simp [get?_cons, ih, h, this]
      · simp [get?_cons, same, ih, h]

theorem mem_keys_put {k : κ} {x : α} {xs : List α} :
    k ∈ (put key x xs).map key ↔ k = key x ∨ k ∈ xs.map key := by
  induction xs with
  | nil => simp [put]
  | cons y ys ih =>
    unfold put
    by_cases same : key y = key x
    · simp [same]
    · simp only [same, if_false, List.map_cons, List.mem_cons, ih]
      exact or_left_comm

/-- Putting a member into a list keeps its keys different from each other. -/
theorem nodup_keys_put {x : α} {xs : List α} (h : (xs.map key).Nodup) :
    ((put key x xs).map key).Nodup := by
  induction xs with
  | nil => simp [put]
  | cons y ys ih =>
    simp only [List.map_cons, List.nodup_cons] at h
    unfold put
    by_cases same : key y = key x
    · rw [if_pos same, List.map_cons, List.nodup_cons, ← same]
      exact h
    · rw [if_neg same, List.map_cons, List.nodup_cons, mem_keys_put]
      exact ⟨fun hm => hm.elim same h.1, ih h.2⟩

theorem nodup_keys_ofList (xs : List α) : ((ofList key xs).map key).Nodup := by
  have step : ∀ (xs kept : List α), (kept.map key).Nodup →
      ((xs.foldl (fun kept x => put key x kept) kept).map key).Nodup := by
    intro xs
    induction xs with
    | nil => intro kept h; exact h
    | cons x xs ih => intro kept h; exact ih _ (nodup_keys_put key h)
  exact step xs [] List.nodup_nil

end Scriptlet.Keyed
