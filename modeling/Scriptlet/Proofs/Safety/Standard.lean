import Mathlib.Tactic.Lemma
import Scriptlet.Builtin.Standard

/-!
# What the built-in functions of the language give

A built-in function gives values of the type that it declares, or none: it fails because an
assertion does not hold, because a text is no integer, or because a numeral is too long, either to
be read or to be written.
-/

namespace Scriptlet

namespace Numeral

/-- Without the white space around it and without its sign, the text is that many digits, more than
can be read. -/
def IsLong (cs : List Char) (digits : Nat) : Prop :=
  maxDigits < digits ∧ ∃ ds, digits? (splitSign (Text.trim cs)).2 = some ds ∧ ds.length = digits

lemma ofSignAndDigits_eq_error {negative : Bool} {ds : List Nat} {reason : TooLong}
    (h : ofSignAndDigits negative ds = .error reason) :
    maxDigits < ds.length ∧ reason = .reading ds.length := by
  unfold ofSignAndDigits at h
  split at h
  · rename_i hlong
    cases h
    exact ⟨hlong, rfl⟩
  · cases h

lemma readPlain_eq_tooLong {cs : List Char} {reason : TooLong}
    (h : readPlain cs = .error (.tooLong reason)) : ∃ n, reason = .reading n ∧ IsLong cs n := by
  unfold readPlain at h
  dsimp only at h
  split at h
  · rename_i c rest ds _ hds
    cases hread : ofSignAndDigits (splitSign (Text.trim cs)).1 ds with
    | ok n =>
      rw [hread] at h
      cases h
    | error reason' =>
      rw [hread] at h
      cases h
      obtain ⟨hlong, rfl⟩ := ofSignAndDigits_eq_error hread
      exact ⟨ds.length, rfl, hlong, ds, hds, rfl⟩
  · cases h

lemma write_eq_error {n : Int} {reason : TooLong} (h : write n = .error reason) :
    writingLimit ≤ n.natAbs ∧ reason = .writing := by
  unfold write at h
  split at h
  · cases h
  · rename_i hlong
    cases h
    exact ⟨Nat.le_of_not_lt hlong, rfl⟩

end Numeral

lemma Value.display_eq_error {v : Value} {reason : Numeral.TooLong}
    (h : v.display = .error reason) :
    ∃ n, v = .int n ∧ Numeral.writingLimit ≤ n.natAbs ∧ reason = .writing := by
  cases v with
  | int n =>
    obtain ⟨hlong, rfl⟩ := Numeral.write_eq_error h
    exact ⟨n, rfl, hlong, rfl⟩
  | string | bool | fn | nothing => cases h

lemma Value.displays_eq_error {vs : List Value} {reason : Numeral.TooLong}
    (h : vs.mapM Value.display = .error reason) : ∃ v ∈ vs, v.display = .error reason := by
  induction vs with
  | nil => cases h
  | cons v vs ih =>
    rw [List.mapM_cons] at h
    cases hv : v.display with
    | error reason' =>
      rw [hv] at h
      cases h
      exact ⟨v, by simp, hv⟩
    | ok s =>
      cases hvs : vs.mapM Value.display with
      | error reason' =>
        rw [hv, hvs] at h
        cases h
        obtain ⟨u, hu, hdisplay⟩ := ih hvs
        exact ⟨u, by simp [hu], hdisplay⟩
      | ok texts =>
        rw [hv, hvs] at h
        cases h

namespace Builtin

/-- Why the built-in function of a name cannot convert an integer or a text among its arguments. -/
inductive TooLong : String → List Value → Numeral.TooLong → Prop
  /-- A text is to be read that has too many digits. -/
  | read {s : String} {digits : Nat} (h : Numeral.IsLong s.toList digits) :
      TooLong "parse_int" [.string s] (.reading digits)
  /-- An integer is to be written that has too many digits. -/
  | written {name : String} {vs : List Value} {n : Int}
      (hname : name = "print" ∨ name = "to_string") (hn : .int n ∈ vs)
      (h : Numeral.writingLimit ≤ n.natAbs) : TooLong name vs .writing

/-- A function of one argument is called with one that it accepts. -/
lemma accepted_one {b : Builtin} {param : Option ValueType} {vs : List Value}
    (hvariadic : b.variadic = false) (hparams : b.params = [param])
    (h : b.rejection? vs = none) : ∃ v, vs = [v] ∧ accepts param v = true := by
  unfold rejection? at h
  rw [hvariadic, hparams] at h
  simp only [Bool.false_eq_true, if_false, List.length_singleton] at h
  split at h
  · cases h
  · rename_i hlength
    obtain ⟨v, rfl⟩ := List.length_eq_one_iff.1 (Decidable.not_not.1 hlength)
    split at h
    · rename_i hall
      exact ⟨v, rfl, by simpa using hall⟩
    · cases h

lemma code_of_rejection? {b : Builtin} {vs : List Value} {cause : Cause}
    (h : b.rejection? vs = some cause) : cause.code = "E404" ∨ cause.code = "E406" := by
  unfold rejection? at h
  split at h
  · cases h
  · split at h
    · cases h
      simp [Cause.code]
    · split at h
      · cases h
      · cases h
        simp [Cause.code]

/-- Why a call of a built-in function fails with arguments that the function accepts. -/
def FailsFor (name : String) (vs : List Value) (f : Failure) : Prop :=
  (∃ cause, f = .located cause none ∧ (cause.code = "E412" ∨ cause.code = "E413")) ∨
    ∃ reason, f = .tooLong reason ∧ TooLong name vs reason

lemma failsFor_print {vs : List Value} {f : Failure} (h : (print.run vs).result = .error f) :
    FailsFor "print" vs f := by
  simp only [print] at h
  split at h
  · cases h
  · rename_i reason hreason
    cases h
    obtain ⟨v, hv, hdisplay⟩ := Value.displays_eq_error hreason
    obtain ⟨n, rfl, hlong, rfl⟩ := Value.display_eq_error hdisplay
    exact .inr ⟨_, rfl, .written (.inl rfl) hv hlong⟩

lemma failsFor_toText {vs : List Value} {f : Failure} (ha : toText.rejection? vs = none)
    (h : (toText.run vs).result = .error f) : FailsFor "to_string" vs f := by
  obtain ⟨v, rfl, -⟩ := accepted_one rfl rfl ha
  simp only [toText, replyText] at h
  split at h
  · cases h
  · rename_i reason hreason
    cases h
    obtain ⟨n, rfl, hlong, rfl⟩ := Value.display_eq_error hreason
    exact .inr ⟨_, rfl, .written (.inr rfl) (by simp) hlong⟩

lemma exists_string_of_accepts {v : Value} (h : accepts (some .string) v = true) :
    ∃ s, v = .string s := by
  cases v with
  | string s => exact ⟨s, rfl⟩
  | int | bool | fn | nothing => cases h

lemma failsFor_parseInt {vs : List Value} {f : Failure} (ha : parseInt.rejection? vs = none)
    (h : (parseInt.run vs).result = .error f) : FailsFor "parse_int" vs f := by
  obtain ⟨v, rfl, hv⟩ := accepted_one rfl rfl ha
  obtain ⟨s, rfl⟩ := exists_string_of_accepts hv
  simp only [parseInt, replyInt] at h
  split at h
  · cases h
  · cases h
    exact .inl ⟨_, rfl, by simp [Cause.code]⟩
  · rename_i reason hreason
    cases h
    obtain ⟨n, rfl, hlong⟩ := Numeral.readPlain_eq_tooLong hreason
    exact .inr ⟨_, rfl, .read hlong⟩

lemma failsFor_assert {vs : List Value} {f : Failure} (ha : assert.rejection? vs = none)
    (h : (assert.run vs).result = .error f) : FailsFor "assert" vs f := by
  obtain ⟨v, rfl, hv⟩ := accepted_one rfl rfl ha
  cases v with
  | bool b =>
    cases b <;> cases h
    exact .inl ⟨_, rfl, by simp [Cause.code]⟩
  | int | string | fn | nothing => cases hv

end Builtin

namespace Registry

open Builtin

lemma mem_of_find? {r : Registry} {name : String} {b : Builtin} (h : r.find? name = some b) :
    b ∈ r.builtins := List.mem_of_find?_eq_some h

/-- The built-in functions of the language give values of the types that they declare. -/
theorem type_standard {name : String} {b : Builtin} {vs : List Value} {v : Value}
    (h : standard.find? name = some b) (hv : (b.run vs).result = .ok v) :
    v.type = b.returnType := by
  have hmem := mem_of_find? h
  simp only [standard, List.mem_cons, List.not_mem_nil, or_false] at hmem
  rcases hmem with rfl | rfl | rfl | rfl | rfl | rfl
  · simp only [print] at hv
    split at hv <;> cases hv
    rfl
  · simp only [toText] at hv
    split at hv
    · simp only [replyText] at hv
      split at hv <;> cases hv
      rfl
    · cases hv
  · simp only [parseInt] at hv
    split at hv
    · simp only [replyInt] at hv
      split at hv <;> cases hv
      rfl
    · cases hv
  all_goals
    simp only [length, typeOf, assert] at hv
    split at hv <;> cases hv
    rfl

/-- The built-in functions of the language fail for the reasons that are listed, and no other ones.
-/
theorem failsFor_standard {name : String} {b : Builtin} {vs : List Value} {f : Failure}
    (h : standard.find? name = some b) (ha : b.rejection? vs = none)
    (hf : (b.run vs).result = .error f) : FailsFor name vs f := by
  have hmem := mem_of_find? h
  obtain rfl := name_of_find? h
  simp only [standard, List.mem_cons, List.not_mem_nil, or_false] at hmem
  rcases hmem with rfl | rfl | rfl | rfl | rfl | rfl
  · exact failsFor_print hf
  · exact failsFor_toText ha hf
  · exact failsFor_parseInt ha hf
  · obtain ⟨v, rfl, hv⟩ := accepted_one rfl rfl ha
    obtain ⟨s, rfl⟩ := exists_string_of_accepts hv
    cases hf
  · obtain ⟨v, rfl, -⟩ := accepted_one rfl rfl ha
    cases hf
  · exact failsFor_assert ha hf

end Registry

end Scriptlet
