import Scriptlet.Proofs.Conversion.Integers
import Scriptlet.Settings

/-!
# What settings an environment makes

For each variable there are texts that spell a setting, and for some of the variables white space
leaves the setting as it is by default.  An environment in which every variable is such a text makes
the settings that are spelled; in any other the first variable that is malformed is reported, in the
order of `Settings.order` (`Settings.ofEnvironment_exact`).
-/

namespace Scriptlet

namespace Text

/-! ## White space and letter case -/

/-- The text has nothing but white space. -/
def AllBlank (s : String) : Prop := ∀ c ∈ s.toList, isBlank c = true

lemma isEmpty_trim_iff (s : String) : (trim s.toList).isEmpty = true ↔ AllBlank s := by
  rw [List.isEmpty_iff]
  constructor
  · intro h
    obtain ⟨left, right, hs, hleft, hright⟩ := padded_trimBoth isBlank s.toList
    rw [AllBlank, hs, ← trim, h, List.nil_append, List.forall_mem_append]
    exact ⟨hleft, hright⟩
  · intro h
    have hpadded : Padded isBlank [] s.toList :=
      ⟨s.toList, [], by simp, h, List.forall_mem_nil _⟩
    exact hpadded.trimBoth_eq ⟨by simp, by simp⟩

/-- No letter of either case is white space. -/
lemma not_letter_of_isBlank {c : Char} (h : isBlank c = true) :
    ¬ (65 ≤ c.toNat ∧ c.toNat ≤ 90) ∧ ¬ (97 ≤ c.toNat ∧ c.toNat ≤ 122) := by
  simp only [isBlank, isMargin, isInformationSeparator, Bool.or_eq_true, Bool.and_eq_true,
    decide_eq_true_eq, beq_iff_eq] at h
  omega

lemma toLower_of_isBlank {c : Char} (h : isBlank c = true) : c.toLower = c :=
  dif_neg (not_letter_of_isBlank h).1

lemma toUpper_of_isBlank {c : Char} (h : isBlank c = true) : c.toUpper = c :=
  dif_neg (not_letter_of_isBlank h).2

/-- A text is trimmed if a map that keeps white space makes a text without any of it. -/
lemma trimmed_of_map {f : Char → Char} (hf : ∀ c, isBlank c = true → f c = c) {inner : List Char}
    (h : ∀ c ∈ inner.map f, isBlank c = false) : Trimmed isBlank inner := by
  have hinner : ∀ c ∈ inner, isBlank c = false := by
    intro c hc
    by_contra hblank
    have hmem := h (f c) (List.mem_map_of_mem hc)
    rw [hf c (by simpa using hblank)] at hmem
    exact hblank hmem
  constructor
  · exact fun c hc => hinner c (List.mem_of_head? hc)
  · exact fun c hc => hinner c (List.mem_of_getLast? hc)

/-- What is spelled between white space is what is left of it when it is trimmed. -/
lemma exists_padded_map_iff {f : Char → Char} (hf : ∀ c, isBlank c = true → f c = c)
    {word cs : List Char} (hword : ∀ c ∈ word, isBlank c = false) :
    (∃ inner, Padded isBlank inner cs ∧ inner.map f = word) ↔ (trim cs).map f = word := by
  constructor
  · rintro ⟨inner, hpadded, rfl⟩
    rw [trim, hpadded.trimBoth_eq (trimmed_of_map hf hword)]
  · intro h
    exact ⟨trim cs, padded_trimBoth isBlank cs, h⟩

end Text

namespace Settings

open Text

/-! ## Variables -/

/-- A variable that makes a setting. -/
structure Variable (α : Type) where
  /-- The name of the variable. -/
  name : String
  /-- Whether white space leaves the setting as it is by default. -/
  skipsBlank : Prop
  /-- The texts that the variable may be set to, with what they mean. -/
  Spells : String → α → Prop

namespace Variable

/-- The call depth: a numeral that is not too long, in which underscores may stand between digits,
of a number that is not less than one. -/
def depth : Variable Int where
  name := depthVariable
  skipsBlank := True
  Spells raw n := 1 ≤ n ∧ ∃ negative ds, Numeral.IsNumeral isMargin True raw.toList negative ds ∧
    ds.length ≤ Numeral.maxDigits ∧ n = Numeral.signedValue negative ds

/-- The words for a flag that is on, and for one that is off. -/
def flagWords : Bool → List String
  | true => ["1", "true", "yes", "on"]
  | false => ["", "0", "false", "no", "off"]

/-- A flag: a word for it in letters of any case, between white space.  White space alone is a flag
that is off. -/
def flag (name : String) : Variable Bool where
  name := name
  skipsBlank := False
  Spells raw b := ∃ word ∈ flagWords b, ∃ inner, Padded isBlank inner raw.toList ∧
    inner.map Char.toLower = word.toList

/-- The log level: the name of one in letters of any case, between white space. -/
def level : Variable LogLevel where
  name := levelVariable
  skipsBlank := True
  Spells raw l := ∃ inner, Padded isBlank inner raw.toList ∧
    inner.map upperLetter = l.name.toList

variable {α : Type} (v : Variable α) (environment : Environment)

/-- The variable is set to a text that is not passed over. -/
def IsSetTo (raw : String) : Prop :=
  environment v.name = some raw ∧ ¬ (v.skipsBlank ∧ AllBlank raw)

/-- The setting is what the variable spells, or the default if it is not set. -/
def Gives (default x : α) : Prop :=
  (∃ raw, v.IsSetTo environment raw ∧ v.Spells raw x) ∨
    (∀ raw, ¬ v.IsSetTo environment raw) ∧ x = default

/-- The variable is set to a text that spells nothing. -/
def IsMalformed : Prop := ∃ raw, v.IsSetTo environment raw ∧ ∀ x, ¬ v.Spells raw x

end Variable

/-- The variable that is malformed. -/
def Malformed.variableName : Malformed → String
  | depthNotInteger _ | depthTooSmall _ => depthVariable
  | notFlag variableName _ => variableName
  | unknownLevel _ => levelVariable

/-- What is said of a malformed variable starts with its name. -/
lemma Malformed.message_eq (e : Malformed) :
    ∃ rest, e.message = e.variableName ++ (" must be " ++ rest) := by
  cases e with
  | depthNotInteger raw => exact ⟨"an integer, got " ++ quoted raw, String.append_assoc ..⟩
  | depthTooSmall n => exact ⟨"at least 1, got " ++ toString n, String.append_assoc ..⟩
  | notFlag name raw => exact ⟨"a boolean flag, got " ++ quoted raw, String.append_assoc ..⟩
  | unknownLevel raw => exact ⟨"a logging level name, got " ++ quoted raw, String.append_assoc ..⟩

/-! ## Reading one variable -/

/-- The reader gives the setting that the variable makes, or an error with the variable's name. -/
structure Variable.Reads {α : Type} (v : Variable α) (default : α)
    (read : Environment → Except Malformed α) : Prop where
  /-- A setting is read. -/
  gives : ∀ {environment x}, v.Gives environment default x → read environment = .ok x
  /-- A malformed variable is not. -/
  malformed : ∀ {environment}, v.IsMalformed environment →
    ∃ e, read environment = .error e ∧ e.variableName = v.name

namespace Variable

variable {α : Type} {v : Variable α} {environment : Environment}

/-- A variable that is not malformed makes a setting. -/
lemma gives_or_isMalformed (v : Variable α) (environment : Environment) (default : α) :
    (∃ x, v.Gives environment default x) ∨ v.IsMalformed environment := by
  by_cases hset : ∃ raw, v.IsSetTo environment raw
  · obtain ⟨raw, hraw⟩ := hset
    by_cases hspelled : ∃ x, v.Spells raw x
    · obtain ⟨x, hx⟩ := hspelled
      exact .inl ⟨x, .inl ⟨raw, hraw, hx⟩⟩
    · exact .inr ⟨raw, hraw, not_exists.1 hspelled⟩
  · exact .inl ⟨default, .inr ⟨not_exists.1 hset, rfl⟩⟩

variable {default x : α} {read : Environment → Except Malformed α}

lemma Reads.eq_ok_iff (h : v.Reads default read) :
    read environment = .ok x ↔ v.Gives environment default x := by
  refine ⟨fun hx => ?_, h.gives⟩
  obtain ⟨y, hy⟩ | hbad := v.gives_or_isMalformed environment default
  · rw [h.gives hy] at hx
    cases hx
    exact hy
  · obtain ⟨e, he, -⟩ := h.malformed hbad
    cases hx.symm.trans he

/-- A variable that makes a setting is not malformed. -/
lemma Reads.not_isMalformed (h : v.Reads default read) (hx : v.Gives environment default x) :
    ¬ v.IsMalformed environment := by
  intro hbad
  obtain ⟨e, he, -⟩ := h.malformed hbad
  cases (h.gives hx).symm.trans he

lemma Reads.of_eq_error (h : v.Reads default read) {e : Malformed}
    (he : read environment = .error e) : v.IsMalformed environment ∧ e.variableName = v.name := by
  obtain ⟨y, hy⟩ | hbad := v.gives_or_isMalformed environment default
  · cases he.symm.trans (h.gives hy)
  · obtain ⟨e', he', hname⟩ := h.malformed hbad
    cases he.symm.trans he'
    exact ⟨hbad, hname⟩

/-- For the reader of a variable it is enough to say what it makes of a variable that is not set and
of one that is set to a text. -/
lemma reads_of_isSetTo (hunset : ∀ {environment}, (∀ raw, ¬ v.IsSetTo environment raw) →
      read environment = .ok default)
    (hspelled : ∀ {environment raw x}, v.IsSetTo environment raw → v.Spells raw x →
      read environment = .ok x)
    (hother : ∀ {environment raw}, v.IsSetTo environment raw → (∀ x, ¬ v.Spells raw x) →
      ∃ e, read environment = .error e ∧ e.variableName = v.name) : v.Reads default read := by
  constructor
  · rintro environment x (⟨raw, hraw, hx⟩ | ⟨hnone, rfl⟩)
    · exact hspelled hraw hx
    · exact hunset hnone
  · rintro environment ⟨raw, hraw, hx⟩
    exact hother hraw hx

/-! ## The readers -/

lemma filled?_eq_some_iff {name raw : String} : filled? environment name = some raw ↔
    environment name = some raw ∧ ¬ AllBlank raw := by
  rw [filled?, Option.filter_eq_some_iff, ← isEmpty_trim_iff, Bool.not_eq_true', Bool.not_eq_true]

lemma filled?_of_isSetTo (hv : v.skipsBlank) {raw : String} (h : v.IsSetTo environment raw) :
    filled? environment v.name = some raw :=
  filled?_eq_some_iff.2 ⟨h.1, fun hblank => h.2 ⟨hv, hblank⟩⟩

lemma filled?_of_unset (h : ∀ raw, ¬ v.IsSetTo environment raw) :
    filled? environment v.name = none := by
  rw [Option.eq_none_iff_forall_ne_some]
  intro raw hraw
  obtain ⟨hset, hblank⟩ := filled?_eq_some_iff.1 hraw
  exact h raw ⟨hset, fun hskip => hblank hskip.2⟩

lemma reads_depth (default : Int) : depth.Reads default (depthOf · default) := by
  refine reads_of_isSetTo ?_ ?_ ?_
  · intro environment h
    have hfilled : filled? environment depthVariable = none := filled?_of_unset h
    rw [depthOf, hfilled]
  · rintro environment raw n h ⟨hn, hnumeral⟩
    have hfilled : filled? environment depthVariable = some raw := filled?_of_isSetTo trivial h
    rw [depthOf, hfilled]
    simp only [Numeral.reads_readGrouped.eq_ok_iff.2 hnumeral]
    rw [if_neg (by omega)]
  · intro environment raw h hnone
    have hfilled : filled? environment depthVariable = some raw := filled?_of_isSetTo trivial h
    rw [depthOf, hfilled]
    cases hread : Numeral.readGrouped raw.toList with
    | error reason => exact ⟨.depthNotInteger raw, by simp only [hread], rfl⟩
    | ok n =>
      have hsmall : n < 1 := by
        by_contra hn
        exact hnone n ⟨by omega, Numeral.reads_readGrouped.eq_ok_iff.1 hread⟩
      exact ⟨.depthTooSmall n, by simp only [hread, if_pos hsmall], rfl⟩

/-- No word for a flag has white space in it. -/
lemma isBlank_of_mem_flagWords {b : Bool} {word : String} (h : word ∈ flagWords b) :
    ∀ c ∈ word.toList, isBlank c = false := by
  have hall : ((flagWords b).all fun w => w.toList.all fun c => !isBlank c) = true := by
    cases b <;> decide
  intro c hc
  simpa using List.all_eq_true.1 (List.all_eq_true.1 hall word h) c hc

lemma flag?_eq_some_iff {name raw : String} {b : Bool} :
    flag? raw = some b ↔ (flag name).Spells raw b := by
  have hspells : (flag name).Spells raw b ↔
      String.ofList ((trim raw.toList).map Char.toLower) ∈ flagWords b := by
    constructor
    · rintro ⟨word, hword, hinner⟩
      rw [(exists_padded_map_iff (fun c => toLower_of_isBlank)
        (isBlank_of_mem_flagWords hword)).1 hinner, String.ofList_toList]
      exact hword
    · intro h
      exact ⟨_, h, (exists_padded_map_iff (fun c => toLower_of_isBlank)
        (isBlank_of_mem_flagWords h)).2 String.toList_ofList.symm⟩
  have hflag : flag? raw =
      let word := String.ofList ((trim raw.toList).map Char.toLower)
      if word ∈ flagWords true then some true
      else if word ∈ flagWords false then some false else none := rfl
  have hdisjoint : ∀ word ∈ flagWords false, word ∉ flagWords true := by decide
  rw [hspells, hflag]
  generalize String.ofList ((trim raw.toList).map Char.toLower) = word
  dsimp only
  split_ifs with htrue hfalse
  · have hnot : word ∉ flagWords false := fun hf => hdisjoint word hf htrue
    cases b <;> simp [htrue, hnot]
  · cases b <;> simp [htrue, hfalse]
  · cases b <;> simp [htrue, hfalse]

lemma reads_flag (name : String) (default : Bool) :
    (flag name).Reads default (flagOf · name default) := by
  refine reads_of_isSetTo ?_ ?_ ?_
  · intro environment h
    have hnone : environment name = none :=
      Option.eq_none_iff_forall_ne_some.2 fun raw hraw => h raw ⟨hraw, fun hskip => hskip.1⟩
    rw [flagOf, hnone]
  · intro environment raw b h hb
    have hsome : environment name = some raw := h.1
    simp only [flagOf, hsome, flag?_eq_some_iff.2 hb]
  · intro environment raw h hnone
    have hsome : environment name = some raw := h.1
    have hflag : flag? raw = none :=
      Option.eq_none_iff_forall_ne_some.2 fun b hb => hnone b (flag?_eq_some_iff.1 hb)
    simp only [flagOf, hsome, hflag]
    exact ⟨_, rfl, rfl⟩

lemma ofName?_eq_some_iff {name : String} {l : LogLevel} :
    LogLevel.ofName? name = some l ↔ l.name = name := by
  constructor
  · intro h
    simpa using List.find?_some h
  · rintro rfl
    exact l.ofName?_name

lemma isBlank_of_mem_name (l : LogLevel) : ∀ c ∈ l.name.toList, isBlank c = false := by
  have hall : (l.name.toList.all fun c => !isBlank c) = true := by cases l <;> decide
  intro c hc
  simpa using List.all_eq_true.1 hall c hc

lemma upperLetter_of_isBlank {c : Char} (h : isBlank c = true) : upperLetter c = c := by
  rw [upperLetter, if_neg, if_neg, toUpper_of_isBlank h]
  · rintro rfl
    exact absurd h (by decide)
  · rintro rfl
    exact absurd h (by decide)

lemma spells_level_iff {raw : String} {l : LogLevel} :
    level.Spells raw l ↔ (trim raw.toList).map upperLetter = l.name.toList :=
  exists_padded_map_iff (fun _ => upperLetter_of_isBlank) (isBlank_of_mem_name l)

lemma level?_eq_some_iff {raw : String} {l : LogLevel} :
    level? raw = some l ↔ level.Spells raw l := by
  rw [spells_level_iff, level?, ofName?_eq_some_iff, ← String.toList_inj, String.toList_ofList,
    eq_comm]

lemma reads_level (default : LogLevel) : level.Reads default (levelOf · default) := by
  refine reads_of_isSetTo ?_ ?_ ?_
  · intro environment h
    have hfilled : filled? environment levelVariable = none := filled?_of_unset h
    rw [levelOf, hfilled]
  · intro environment raw l h hl
    have hfilled : filled? environment levelVariable = some raw := filled?_of_isSetTo trivial h
    simp only [levelOf, hfilled, level?_eq_some_iff.2 hl]
  · intro environment raw h hnone
    have hfilled : filled? environment levelVariable = some raw := filled?_of_isSetTo trivial h
    have hlevel : level? raw = none :=
      Option.eq_none_iff_forall_ne_some.2 fun l hl => hnone l (level?_eq_some_iff.1 hl)
    exact ⟨.unknownLevel raw, by simp only [levelOf, hfilled, hlevel], rfl⟩

end Variable

/-! ## Reading all variables -/

/-- The variables, in the order in which they are read. -/
def order : List (Σ α : Type, Variable α) :=
  [⟨Int, .depth⟩, ⟨Bool, .flag permissiveVariable⟩, ⟨Bool, .flag checkVariable⟩,
    ⟨LogLevel, .level⟩]

/-- The variable of this name is malformed, and none is that is read before it. -/
def IsFirstMalformed (environment : Environment) (name : String) : Prop :=
  ∃ before v after, order = before ++ v :: after ∧ (∀ u ∈ before, ¬ u.2.IsMalformed environment) ∧
    v.2.IsMalformed environment ∧ v.2.name = name

/-- Each of the settings is what its variable makes. -/
structure MadeBy (environment : Environment) (settings : Settings) : Prop where
  /-- The call depth. -/
  depth : Variable.depth.Gives environment 100 settings.maxCallDepth
  /-- Whether leaves without a value are passed over. -/
  permissive : (Variable.flag permissiveVariable).Gives environment false settings.permissiveLeaves
  /-- Whether annotations are checked. -/
  check : (Variable.flag checkVariable).Gives environment false settings.checkTypes
  /-- Which notes are shown. -/
  level : Variable.level.Gives environment .warning settings.logLevel

section

variable {environment : Environment} {settings : Settings}

lemma IsFirstMalformed.unique {name name' : String} (h : IsFirstMalformed environment name)
    (h' : IsFirstMalformed environment name') : name = name' := by
  classical
  have hfind : ∀ {n}, IsFirstMalformed environment n →
      ∃ v, order.find? (fun v => v.2.IsMalformed environment) = some v ∧ v.2.name = n := by
    rintro n ⟨before, v, after, horder, hbefore, hv, hname⟩
    have hbad : decide (v.2.IsMalformed environment) = true := by simpa using hv
    refine ⟨v, List.find?_eq_some_iff_append.2 ⟨hbad, before, after, horder, ?_⟩, hname⟩
    simpa using hbefore
  obtain ⟨v, hv, rfl⟩ := hfind h
  obtain ⟨v', hv', rfl⟩ := hfind h'
  rw [Option.some.inj (hv.symm.trans hv')]

lemma ofEnvironment_of_madeBy (h : MadeBy environment settings) :
    ofEnvironment environment = .ok settings := by
  have hdepth : depthOf environment 100 = _ := (Variable.reads_depth 100).gives h.depth
  have hpermissive : flagOf environment permissiveVariable false = _ :=
    (Variable.reads_flag _ false).gives h.permissive
  have hcheck : flagOf environment checkVariable false = _ :=
    (Variable.reads_flag _ false).gives h.check
  have hlevel : levelOf environment .warning = _ := (Variable.reads_level .warning).gives h.level
  simp only [ofEnvironment, hdepth, hpermissive, hcheck, hlevel]
  rfl

/-- Either every variable makes a setting, or the first that does not is reported. -/
lemma madeBy_or_eq_error (environment : Environment) :
    (∃ settings, MadeBy environment settings) ∨
      ∃ e, ofEnvironment environment = .error e ∧ IsFirstMalformed environment e.variableName := by
  have hreadDepth := Variable.reads_depth 100
  have hreadPermissive := Variable.reads_flag permissiveVariable false
  have hreadCheck := Variable.reads_flag checkVariable false
  have hreadLevel := Variable.reads_level .warning
  cases hdepth : depthOf environment 100 with
  | error e =>
    obtain ⟨hbad, hname⟩ := hreadDepth.of_eq_error hdepth
    refine .inr ⟨e, ?_, [], _, _, rfl, List.forall_mem_nil _, hbad, hname.symm⟩
    simp only [ofEnvironment, hdepth]
    rfl
  | ok n =>
  have hn := hreadDepth.eq_ok_iff.1 hdepth
  have hn' := hreadDepth.not_isMalformed hn
  cases hpermissive : flagOf environment permissiveVariable false with
  | error e =>
    obtain ⟨hbad, hname⟩ := hreadPermissive.of_eq_error hpermissive
    refine .inr ⟨e, ?_, [_], _, _, rfl, by simpa using hn', hbad, hname.symm⟩
    simp only [ofEnvironment, hdepth, hpermissive]
    rfl
  | ok b =>
  have hp := hreadPermissive.eq_ok_iff.1 hpermissive
  have hp' := hreadPermissive.not_isMalformed hp
  cases hcheck : flagOf environment checkVariable false with
  | error e =>
    obtain ⟨hbad, hname⟩ := hreadCheck.of_eq_error hcheck
    refine .inr ⟨e, ?_, [_, _], _, _, rfl, by simpa using ⟨hn', hp'⟩, hbad, hname.symm⟩
    simp only [ofEnvironment, hdepth, hpermissive, hcheck]
    rfl
  | ok b' =>
  have hc := hreadCheck.eq_ok_iff.1 hcheck
  have hc' := hreadCheck.not_isMalformed hc
  cases hlevel : levelOf environment .warning with
  | error e =>
    obtain ⟨hbad, hname⟩ := hreadLevel.of_eq_error hlevel
    refine .inr ⟨e, ?_, [_, _, _], _, _, rfl, by simpa using ⟨hn', hp', hc'⟩, hbad, hname.symm⟩
    simp only [ofEnvironment, hdepth, hpermissive, hcheck, hlevel]
    rfl
  | ok l =>
    exact .inl ⟨⟨n, b, b', l⟩, hn, hp, hc, hreadLevel.eq_ok_iff.1 hlevel⟩

lemma MadeBy.not_isMalformed (h : MadeBy environment settings) :
    ∀ v ∈ order, ¬ v.2.IsMalformed environment := by
  simp only [order, List.forall_mem_cons]
  refine ⟨?_, ?_, ?_, ?_, List.forall_mem_nil _⟩
  · exact (Variable.reads_depth _).not_isMalformed h.depth
  · exact (Variable.reads_flag _ _).not_isMalformed h.permissive
  · exact (Variable.reads_flag _ _).not_isMalformed h.check
  · exact (Variable.reads_level _).not_isMalformed h.level

/-! ## Writing settings -/

/-- The text consists of the digits, and single underscores stand between some of them. -/
inductive Grouped : List Char → List Char → Prop
  /-- A digit. -/
  | last (c : Char) : Grouped [c] [c]
  /-- A digit, and more. -/
  | more (c : Char) {cs ds : List Char} (h : Grouped cs ds) : Grouped (c :: cs) (c :: ds)
  /-- A digit, and more behind an underscore. -/
  | group (c : Char) {cs ds : List Char} (h : Grouped cs ds) : Grouped (c :: '_' :: cs) (c :: ds)

/-- Spaces and tabs. -/
def isSpaceOrTab (c : Char) : Bool := c == ' ' || c == '\t'

/-- Every variable is set to a text for its setting.  The call depth may have a plus sign,
underscores between digits and a margin; the words may be in letters of any case and have a margin,
too. -/
structure WrittenIn (environment : Environment) (settings : Settings) : Prop where
  /-- The decimal text of the call depth. -/
  depth : ∃ raw plus digits, environment depthVariable = some raw ∧
    Padded isSpaceOrTab (plus ++ digits) raw.toList ∧ (plus = [] ∨ plus = ['+']) ∧
    Grouped digits (toString settings.maxCallDepth).toList
  /-- A word for the first flag. -/
  permissive : ∃ raw inner, environment permissiveVariable = some raw ∧
    Padded isBlank inner raw.toList ∧
    ∃ word ∈ Variable.flagWords settings.permissiveLeaves, inner.map Char.toLower = word.toList
  /-- A word for the second flag. -/
  check : ∃ raw inner, environment checkVariable = some raw ∧ Padded isBlank inner raw.toList ∧
    ∃ word ∈ Variable.flagWords settings.checkTypes, inner.map Char.toLower = word.toList
  /-- The name of the level. -/
  level : ∃ raw inner, environment levelVariable = some raw ∧ Padded isBlank inner raw.toList ∧
    inner.map Char.toUpper = settings.logLevel.name.toList

lemma Grouped.digits {cs ds : List Char} (h : Grouped cs ds) (hds : ∀ c ∈ ds, c.isDigit = true) :
    Numeral.Digits True cs (ds.map Token.asciiDigitValue) := by
  induction h with
  | last c => exact .last (Numeral.digitValue?_of_isDigit (by simpa using hds))
  | more c h ih =>
    obtain ⟨hc, hds⟩ := List.forall_mem_cons.1 hds
    exact .more (Numeral.digitValue?_of_isDigit hc) (ih hds)
  | group c h ih =>
    obtain ⟨hc, hds⟩ := List.forall_mem_cons.1 hds
    exact .group trivial (Numeral.digitValue?_of_isDigit hc) (ih hds)

lemma isMargin_of_isSpaceOrTab {c : Char} (h : isSpaceOrTab c = true) : isMargin c = true := by
  rw [isSpaceOrTab, Bool.or_eq_true, beq_iff_eq, beq_iff_eq] at h
  obtain rfl | rfl := h <;> decide

/-- A numeral has digits, and is not passed over. -/
lemma not_allBlank_of_depth {raw : String} {n : Int} (h : Variable.depth.Spells raw n) :
    ¬ AllBlank raw := by
  intro hblank
  obtain ⟨-, negative, ds, ⟨sign, digits, ⟨left, right, hraw, -, -⟩, -, hdigits⟩, -⟩ := h
  obtain ⟨c, cs, rfl⟩ := List.exists_cons_of_ne_nil hdigits.ne_nil
  obtain ⟨d, hd⟩ := hdigits.head? c rfl
  have hc : isBlank c = true := hblank c (by simp [hraw])
  cases hc.symm.trans (Numeral.isMarginal_isBlank.digit hd)

lemma not_allBlank_of_level {raw : String} {l : LogLevel} (h : Variable.level.Spells raw l) :
    ¬ AllBlank raw := by
  intro hblank
  have hname := (exists_padded_map_iff (fun c => Variable.upperLetter_of_isBlank)
    (Variable.isBlank_of_mem_name l)).1 h
  rw [List.isEmpty_iff.1 ((isEmpty_trim_iff raw).2 hblank)] at hname
  cases l <;> exact absurd hname (by decide)

/-- The letters that are no ASCII letters, but have one as their upper case, are of no use here. -/
lemma map_upperLetter {inner : List Char} {l : LogLevel}
    (h : inner.map Char.toUpper = l.name.toList) : inner.map upperLetter = l.name.toList := by
  have hnot : 'ı' ∉ l.name.toList ∧ 'ſ' ∉ l.name.toList := by cases l <;> decide
  rw [← h]
  refine List.map_congr_left fun c hc => ?_
  have hmem : c.toUpper ∈ l.name.toList := h ▸ List.mem_map_of_mem hc
  rw [upperLetter, if_neg, if_neg]
  · rintro rfl
    exact hnot.2 hmem
  · rintro rfl
    exact hnot.1 hmem

/-- The decimal text of a call depth spells it, with a plus sign, underscores and a margin or
without. -/
lemma spells_depth {raw : String} {plus digits : List Char} {n : Int}
    (hpadded : Padded isSpaceOrTab (plus ++ digits) raw.toList) (hplus : plus = [] ∨ plus = ['+'])
    (hgrouped : Grouped digits (toString n).toList) (hpos : 1 ≤ n)
    (hlimit : n < Numeral.writingLimit) : Variable.depth.Spells raw n := by
  obtain ⟨left, right, htext, hleft, hright⟩ := hpadded
  have htoString : (toString n).toList = Nat.toDigits 10 n.natAbs := by
    rw [Numeral.toList_toString, if_pos (by omega), List.nil_append]
  rw [htoString] at hgrouped
  have hdigits := hgrouped.digits fun c hc =>
    Nat.isDigit_of_mem_toDigits (by decide) (by decide) hc
  have hsign : Numeral.Sign plus false := by
    obtain rfl | rfl := hplus
    · exact .none
    · exact .plus
  have hmargin : Padded isMargin (plus ++ digits) raw.toList :=
    ⟨left, right, htext, fun c hc => isMargin_of_isSpaceOrTab (hleft c hc),
      fun c hc => isMargin_of_isSpaceOrTab (hright c hc)⟩
  refine ⟨hpos, false, _, ⟨plus, digits, hmargin, hsign, hdigits⟩, ?_, ?_⟩
  · rw [List.length_map]
    exact Token.length_toDigits_le (by omega)
  · rw [Numeral.signedValue, if_neg Bool.false_ne_true, ← Numeral.ofDigits_eq,
      Token.ofDigits_toDigits]
    omega

/-- What is written is what is spelled. -/
lemma WrittenIn.madeBy (h : WrittenIn environment settings) (hpos : 1 ≤ settings.maxCallDepth)
    (hlimit : settings.maxCallDepth < Numeral.writingLimit) : MadeBy environment settings := by
  constructor
  · obtain ⟨raw, plus, digits, hraw, hpadded, hplus, hgrouped⟩ := h.depth
    have hspells := spells_depth hpadded hplus hgrouped hpos hlimit
    exact .inl ⟨raw, ⟨hraw, fun hskip => not_allBlank_of_depth hspells hskip.2⟩, hspells⟩
  · obtain ⟨raw, inner, hraw, hpadded, word, hword, hinner⟩ := h.permissive
    exact .inl ⟨raw, ⟨hraw, fun hskip => hskip.1⟩, word, hword, inner, hpadded, hinner⟩
  · obtain ⟨raw, inner, hraw, hpadded, word, hword, hinner⟩ := h.check
    exact .inl ⟨raw, ⟨hraw, fun hskip => hskip.1⟩, word, hword, inner, hpadded, hinner⟩
  · obtain ⟨raw, inner, hraw, hpadded, hinner⟩ := h.level
    have hspells : Variable.level.Spells raw settings.logLevel :=
      ⟨inner, hpadded, map_upperLetter hinner⟩
    exact .inl ⟨raw, ⟨hraw, fun hskip => not_allBlank_of_level hspells hskip.2⟩, hspells⟩

/-- **Settings are validated, and read as they are written.**  An environment makes the settings
that its variables spell, and the defaults for those that are not set; the call depth is then at
least one, and the name of the level is the text of its variable in upper case, without the white
space around it.  If variables are malformed, then the error names the first of them.  Settings that
are written to the environment are read again. -/
theorem ofEnvironment_exact (environment : Environment) :
    (∀ settings, ofEnvironment environment = .ok settings ↔ MadeBy environment settings) ∧
    (∀ settings, ofEnvironment environment = .ok settings →
      1 ≤ settings.maxCallDepth ∧ ∀ raw, Variable.level.IsSetTo environment raw →
        settings.logLevel.name.toList = (trim raw.toList).map upperLetter) ∧
    ((∃ e, ofEnvironment environment = .error e) ↔ ∃ v ∈ order, v.2.IsMalformed environment) ∧
    (∀ name, IsFirstMalformed environment name ↔
      ∃ e, ofEnvironment environment = .error e ∧ e.variableName = name ∧
        ∃ rest, e.message = name ++ (" must be " ++ rest)) ∧
    (∀ settings : Settings, 1 ≤ settings.maxCallDepth →
      settings.maxCallDepth < Numeral.writingLimit → WrittenIn environment settings →
      ofEnvironment environment = .ok settings) := by
  have hok : ∀ settings, ofEnvironment environment = .ok settings ↔
      MadeBy environment settings := by
    refine fun settings => ⟨fun h => ?_, ofEnvironment_of_madeBy⟩
    obtain ⟨settings', hmade⟩ | ⟨e, he, -⟩ := madeBy_or_eq_error environment
    · cases h.symm.trans (ofEnvironment_of_madeBy hmade)
      exact hmade
    · cases h.symm.trans he
  refine ⟨hok, fun settings h => ⟨?_, fun raw hraw => ?_⟩, ⟨?_, ?_⟩, fun name => ⟨?_, ?_⟩, ?_⟩
  · obtain ⟨raw, -, hpos, -⟩ | ⟨-, hdefault⟩ := ((hok settings).1 h).depth
    · exact hpos
    · rw [hdefault]
      decide
  · obtain ⟨raw', hraw', hspells⟩ | ⟨hunset, -⟩ := ((hok settings).1 h).level
    · obtain rfl : raw' = raw := Option.some.inj (hraw'.1.symm.trans hraw.1)
      exact (Variable.spells_level_iff.1 hspells).symm
    · exact absurd hraw (hunset raw)
  · rintro ⟨e, he⟩
    obtain ⟨settings, hmade⟩ | ⟨-, -, before, v, after, horder, -, hbad, -⟩ :=
      madeBy_or_eq_error environment
    · cases he.symm.trans (ofEnvironment_of_madeBy hmade)
    · exact ⟨v, by simp [horder], hbad⟩
  · rintro ⟨v, hv, hbad⟩
    obtain ⟨settings, hmade⟩ | ⟨e, he, -⟩ := madeBy_or_eq_error environment
    · exact absurd hbad (hmade.not_isMalformed v hv)
    · exact ⟨e, he⟩
  · intro hfirst
    obtain ⟨settings, hmade⟩ | ⟨e, he, hname⟩ := madeBy_or_eq_error environment
    · obtain ⟨before, v, after, horder, -, hbad, -⟩ := hfirst
      exact absurd hbad (hmade.not_isMalformed v (by simp [horder]))
    · obtain rfl := hname.unique hfirst
      exact ⟨e, he, rfl, e.message_eq⟩
  · rintro ⟨e, he, rfl, -⟩
    obtain ⟨settings, hmade⟩ | ⟨e', he', hname⟩ := madeBy_or_eq_error environment
    · cases he.symm.trans (ofEnvironment_of_madeBy hmade)
    · cases he.symm.trans he'
      exact hname
  · intro settings hpos hlimit hwritten
    exact ofEnvironment_of_madeBy (hwritten.madeBy hpos hlimit)

end

/-- Settings that are written with all that does not matter are read again.  Where both the second
variable and the last are malformed, and the first is blank, the second is reported. -/
theorem ofEnvironment_exact_debug :
    let written : Environment := fun name =>
      if name = depthVariable then some " \t+1_2 "
      else if name = permissiveVariable then some " yEs"
      else if name = checkVariable then some "oFF"
      else if name = levelVariable then some "deBug\n" else none
    let malformed : Environment := fun name =>
      if name = depthVariable then some "\u2003"
      else if name = permissiveVariable then some "maybe"
      else if name = levelVariable then some "LOUD" else none
    ofEnvironment written = .ok ⟨12, true, false, .debug⟩ ∧
      IsFirstMalformed malformed permissiveVariable := by
  intro written malformed
  constructor
  · refine (ofEnvironment_exact written).2.2.2.2 ⟨12, true, false, .debug⟩ (by decide)
      (by decide +kernel) ⟨?_, ?_, ?_, ?_⟩
    · have htext : (toString (12 : Int)).toList = ['1', '2'] := by decide
      refine ⟨" \t+1_2 ", ['+'], ['1', '_', '2'], rfl, ?_, .inr rfl, ?_⟩
      · exact ⟨[' ', '\t'], [' '], by decide, by simp [isSpaceOrTab], by simp [isSpaceOrTab]⟩
      · rw [htext]
        exact .group '1' (.last '2')
    · exact ⟨" yEs", "yEs".toList, rfl, ⟨[' '], [], by decide,
        List.forall_mem_singleton.2 (by decide), List.forall_mem_nil _⟩, "yes", by decide,
        by decide⟩
    · exact ⟨"oFF", "oFF".toList, rfl, padded_self _ _, "off", by decide, by decide⟩
    · exact ⟨"deBug\n", "deBug".toList, rfl, ⟨[], ['\n'], by decide, List.forall_mem_nil _,
        List.forall_mem_singleton.2 (by decide)⟩, by decide⟩
  · refine ((ofEnvironment_exact malformed).2.2.2.1 permissiveVariable).2
      ⟨.notFlag permissiveVariable "maybe", ?_, rfl, "a boolean flag, got 'maybe'", ?_⟩
    · decide +kernel
    · decide +kernel

end Settings

end Scriptlet
