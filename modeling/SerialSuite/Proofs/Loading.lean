import Mathlib.Algebra.GroupWithZero.Nat
import Mathlib.Data.List.Forall2
import Mathlib.Tactic.SplitIfs
import SerialSuite.Settings

/-!
Settings and the variables they come from. What a variable may hold is said without the functions
that read it: a number by its spelling (`Spells`), a path by having something to see (`Solid`), a
format by its name in any case (`Names`), each perhaps with white space around it (`Trimmed`). Any
environment loads (`load_faithful`): each setting heeds its own variable (`Heeds`) and no other, and
is in its range whatever the variables hold.
-/

namespace SerialSuite

namespace Text

/-- `kept` is what stands between the white space around a text. -/
def Trimmed (text kept : List Char) : Prop :=
  ∃ front back, text = front ++ kept ++ back ∧ (∀ c ∈ front, isBlank c) ∧ (∀ c ∈ back, isBlank c) ∧
    ∀ c, kept.head? = some c ∨ kept.getLast? = some c → ¬ isBlank c

theorem dropWhile_blanks {front rest : List Char} (blank : ∀ c ∈ front, isBlank c)
    (stops : ∀ c, rest.head? = some c → ¬ isBlank c) :
    (front ++ rest).dropWhile isBlank = rest := by
  rw [List.dropWhile_append_of_pos blank]
  cases rest with
  | nil => rfl
  | cons c rest => rw [List.dropWhile_cons, if_neg (stops c rfl)]

theorem head_dropWhile (text : List Char) (c : Char)
    (h : (text.dropWhile isBlank).head? = some c) : ¬ isBlank c := by
  have stops := List.head?_dropWhile_not isBlank text
  rw [h] at stops
  simp [stops]

/-- A text is white space, what is kept of it by trimming, and white space again. -/
theorem trimmed_trim (text : List Char) : Trimmed text (trim text) := by
  let rest := text.dropWhile isBlank
  have behind : trim text ++ (rest.reverse.takeWhile isBlank).reverse = rest := by
    rw [trim, ← List.reverse_append, List.takeWhile_append_dropWhile, List.reverse_reverse]
  refine ⟨text.takeWhile isBlank, (rest.reverse.takeWhile isBlank).reverse, ?_, ?_, ?_, ?_⟩
  · rw [List.append_assoc, behind, List.takeWhile_append_dropWhile]
  · exact List.all_eq_true.1 List.all_takeWhile
  · intro c inside
    exact List.all_eq_true.1 List.all_takeWhile c (List.mem_reverse.1 inside)
  · rintro c (first | last)
    · apply head_dropWhile text
      show rest.head? = some c
      rw [← behind, List.head?_append, first]
      rfl
    · apply head_dropWhile rest.reverse
      rwa [trim, List.getLast?_reverse] at last

theorem trim_eq_of_trimmed {text kept : List Char} (h : Trimmed text kept) : trim text = kept := by
  obtain ⟨front, back, rfl, blank, blank', solid⟩ := h
  by_cases nothing : kept = []
  · have all_blank : ∀ c ∈ front ++ kept ++ back, isBlank c := by
      intro c inside
      rw [nothing, List.append_nil] at inside
      exact (List.mem_append.1 inside).elim (blank c) (blank' c)
    have dropped := @dropWhile_blanks _ [] all_blank (fun c h => by cases h)
    rw [List.append_nil] at dropped
    rw [trim, dropped, nothing]
    rfl
  · obtain ⟨c, rest, rfl⟩ := List.exists_cons_of_ne_nil nothing
    have first : (front ++ c :: rest ++ back).dropWhile isBlank = c :: rest ++ back := by
      rw [List.append_assoc]
      exact dropWhile_blanks blank fun d h => solid d (.inl h)
    have last : (back.reverse ++ (c :: rest).reverse).dropWhile isBlank = (c :: rest).reverse := by
      apply dropWhile_blanks
      · exact fun d inside => blank' d (List.mem_reverse.1 inside)
      · intro d h
        rw [List.head?_reverse] at h
        exact solid d (.inr h)
    rw [trim, first, List.reverse_append, last, List.reverse_reverse]

/-- What is said of the text between the white space is said of the trimmed text. -/
theorem exists_trimmed_iff {text : List Char} {p : List Char → Prop} :
    (∃ kept, Trimmed text kept ∧ p kept) ↔ p (trim text) := by
  constructor
  · rintro ⟨kept, trimmed, h⟩
    rwa [trim_eq_of_trimmed trimmed]
  · exact fun h => ⟨trim text, trimmed_trim text, h⟩

/-- The digits of a number, behind a plus sign or without one. -/
def Spells (text : List Char) (n : Nat) : Prop :=
  ∃ sign digits, text = sign ++ digits ∧ (sign = [] ∨ sign = ['+']) ∧ digits ≠ [] ∧
    (∀ c ∈ digits, '0' ≤ c ∧ c ≤ '9') ∧ Nat.ofDigitChars 10 digits 0 = n

theorem digitsValue_eq (digits : List Char) :
    digitsValue digits = Nat.ofDigitChars 10 digits 0 := by
  unfold digitsValue Nat.ofDigitChars
  congr 1
  funext n c
  rw [Nat.mul_comm]

theorem unsigned_of_digits {digits : List Char} (h : ∀ c ∈ digits, '0' ≤ c ∧ c ≤ '9') :
    unsigned digits = digits := by
  unfold unsigned
  split
  next rest =>
    have plus := h '+' List.mem_cons_self
    exact absurd plus.1 (by decide)
  · rfl

theorem sign_of_unsigned (text : List Char) :
    ∃ sign, text = sign ++ unsigned text ∧ (sign = [] ∨ sign = ['+']) := by
  unfold unsigned
  split
  · exact ⟨['+'], rfl, .inr rfl⟩
  · exact ⟨[], rfl, .inl rfl⟩

/-- Numerals are the spellings of numbers of 64 bits. -/
theorem numeral?_eq_some_iff {text : List Char} {n : Nat} :
    numeral? text = some n ↔ Spells text n ∧ n < 2 ^ 64 := by
  have all_digits (digits : List Char) :
      digits.all isDigit ↔ ∀ c ∈ digits, '0' ≤ c ∧ c ≤ '9' := by
    simp [isDigit]
  simp only [numeral?, digitsValue_eq, all_digits]
  constructor
  · intro h
    split at h
    next spelled =>
      obtain ⟨some_digit, digits_only, small⟩ := spelled
      obtain ⟨sign, same, plus⟩ := sign_of_unsigned text
      obtain rfl := Option.some.inj h
      exact ⟨⟨sign, unsigned text, same, plus, some_digit, digits_only, rfl⟩, small⟩
    · cases h
  · rintro ⟨⟨sign, digits, rfl, plus, some_digit, digits_only, rfl⟩, small⟩
    have same : unsigned (sign ++ digits) = digits := by
      rcases plus with rfl | rfl
      · exact unsigned_of_digits digits_only
      · rfl
    rw [same, if_pos ⟨some_digit, digits_only, small⟩]

/-- A word in small letters, read in any case. -/
def AnyCase (text : List Char) (word : String) : Prop :=
  List.Forall₂ (fun c l => c = l ∨ c = l.toUpper) text word.toList

theorem toLower_eq_iff {c l : Char} (small : 'a' ≤ l ∧ l ≤ 'z') :
    c.toLower = l ↔ c = l ∨ c = l.toUpper := by
  have small : l.val ≥ 'a'.val ∧ l.val ≤ 'z'.val := small
  have low := UInt32.le_iff_toNat_le.1 small.1
  have high := UInt32.le_iff_toNat_le.1 small.2
  -- the codes of the letters at both ends, and what the two functions add to a code
  have lower_a : 'a'.val.toNat = 97 := rfl
  have lower_z : 'z'.val.toNat = 122 := rfl
  have upper_a : 'A'.val.toNat = 65 := rfl
  have upper_z : 'Z'.val.toNat = 90 := rfl
  have down : ('a'.val - 'A'.val).toNat = 32 := rfl
  have up : ('A'.val - 'a'.val).toNat = 2 ^ 32 - 32 := rfl
  have raised : l.toUpper = _ := dif_pos small
  by_cases capital : c.val ≥ 'A'.val ∧ c.val ≤ 'Z'.val
  · have lowered : c.toLower = _ := dif_pos capital
    simp only [ge_iff_le, UInt32.le_iff_toNat_le] at capital
    simp only [raised, lowered, Char.ext_iff, ← UInt32.toNat_inj, UInt32.toNat_add]
    omega
  · have lowered : c.toLower = c := dif_neg capital
    simp only [ge_iff_le, UInt32.le_iff_toNat_le] at capital
    simp only [raised, lowered, Char.ext_iff, ← UInt32.toNat_inj, UInt32.toNat_add]
    omega

theorem map_toLower_eq_iff {text : List Char} {word : String}
    (small : ∀ l ∈ word.toList, 'a' ≤ l ∧ l ≤ 'z') :
    String.ofList (text.map Char.toLower) = word ↔ AnyCase text word := by
  rw [← String.toList_inj, String.toList_ofList, AnyCase]
  generalize word.toList = letters at small
  induction text generalizing letters with
  | nil => cases letters <;> simp
  | cons c text ih =>
    cases letters with
    | nil => simp
    | cons l letters =>
      rw [List.map_cons, List.cons_eq_cons, List.forall₂_cons,
        toLower_eq_iff (small l List.mem_cons_self),
        ih letters fun m inside => small m (List.mem_cons_of_mem _ inside)]

end Text

/-- A text with something else than white space in it. -/
def Solid (text : String) : Prop := ∃ c ∈ text.toList, ¬ Text.isBlank c

/-- A number of 64 bits, perhaps with white space around it. -/
def HoldsNumber (text : String) (n : Nat) : Prop :=
  ∃ kept, Text.Trimmed text.toList kept ∧ Text.Spells kept n ∧ n < 2 ^ 64

/-- Any text that is solid, as it stands. -/
def HoldsText (text value : String) : Prop := Solid text ∧ value = text

/-- The names of the formats, in any case. -/
def Names (text : List Char) : LogFormat → Prop
  | .pretty => Text.AnyCase text "pretty" ∨ Text.AnyCase text "text"
  | .json => Text.AnyCase text "json"

/-- A format's name, perhaps with white space around it. -/
def HoldsFormat (text : String) (format : LogFormat) : Prop :=
  ∃ kept, Text.Trimmed text.toList kept ∧ Names kept format

/-- A setting heeds its variable. What the text means counts, put in range by `apply`; a text
without a meaning counts as little as none at all. -/
def Heeds (content : Option String) (Means : String → β → Prop) (apply : β → α)
    (default value : α) : Prop :=
  (∀ text b, content = some text → Means text b → value = apply b) ∧
    ((∀ text b, content = some text → ¬ Means text b) → value = default)

theorem heeds_of_parse {parse : String → Option β} {Means : String → β → Prop}
    (parses : ∀ text b, parse text = some b ↔ Means text b) (content : Option String)
    (apply : β → α) (default : β) :
    Heeds content Means apply (apply default) (apply ((content.bind parse).getD default)) := by
  constructor
  · rintro text b rfl means
    rw [Option.bind_some, (parses text b).2 means]
    rfl
  · intro none_means
    have nothing : content.bind parse = none := by
      cases content with
      | none => rfl
      | some text =>
        rw [Option.bind_some, Option.eq_none_iff_forall_ne_some]
        exact fun b read => none_means text b rfl ((parses text b).1 read)
    rw [nothing]
    rfl

theorem parse_number (text : String) (n : Nat) :
    Text.numeral? (Text.trim text.toList) = some n ↔ HoldsNumber text n := by
  rw [Text.numeral?_eq_some_iff, HoldsNumber, Text.exists_trimmed_iff]

theorem parse_text (text value : String) :
    (if !Text.allBlank text.toList then some text else none) = some value ↔
      HoldsText text value := by
  have solid : (!Text.allBlank text.toList) = true ↔ Solid text := by
    simp [Text.allBlank, Solid]
  rw [HoldsText, ← solid]
  split
  next kept => simp [kept, eq_comm]
  next dropped => simp [dropped]

theorem parse_format (text : String) (format : LogFormat) :
    (LogFormat.ofText text).toOption = some format ↔ HoldsFormat text format := by
  have pretty_small : ∀ l ∈ "pretty".toList, 'a' ≤ l ∧ l ≤ 'z' := by simp
  have text_small : ∀ l ∈ "text".toList, 'a' ≤ l ∧ l ≤ 'z' := by simp
  have json_small : ∀ l ∈ "json".toList, 'a' ≤ l ∧ l ≤ 'z' := by simp
  rw [HoldsFormat, Text.exists_trimmed_iff, LogFormat.ofText]
  generalize lowered : String.ofList ((Text.trim text.toList).map Char.toLower) = name
  cases format with
  | pretty =>
    rw [Names, ← Text.map_toLower_eq_iff pretty_small, ← Text.map_toLower_eq_iff text_small,
      lowered]
    split_ifs with pretty json <;> simp [Except.toOption, *]
  | json =>
    rw [Names, ← Text.map_toLower_eq_iff json_small, lowered]
    by_cases json : name = "json"
    · subst json
      simp [Except.toOption]
    · split_ifs <;> simp [Except.toOption, *]

namespace Settings

theorem number_heeds (env : Environment) (v : Variable) (apply : Nat → α) (default : Nat) :
    Heeds (env v) HoldsNumber apply (apply default) (apply (number env v default)) :=
  heeds_of_parse parse_number (env v) apply default

theorem text_heeds (env : Environment) (v : Variable) (default : String) :
    Heeds (env v) HoldsText id default (text env v default) := by
  have parsed : text env v default = ((env v).bind fun text =>
      if !Text.allBlank text.toList then some text else none).getD default := by
    unfold text
    cases env v <;> rfl
  rw [parsed]
  exact heeds_of_parse parse_text (env v) id default

theorem number_congr {env env' : Environment} {v : Variable} (agree : env v = env' v)
    (default : Nat) : number env v default = number env' v default := by
  rw [number, number, agree]

theorem text_congr {env env' : Environment} {v : Variable} (agree : env v = env' v)
    (default : String) : text env v default = text env' v default := by
  rw [text, text, agree]

/-- The setting that a variable is for is the same in both. -/
def SameFor (v : Variable) (s s' : Settings) : Prop :=
  match v with
  | .sinkPath => s.sinkPath = s'.sinkPath
  | .sourcePath => s.sourcePath = s'.sourcePath
  | .settle => s.settle = s'.settle
  | .compensation => s.compensation = s'.compensation
  | .poll => s.pacing.poll = s'.pacing.poll
  | .timeout => s.pacing.limit = s'.pacing.limit
  | .logLevel => s.logLevel = s'.logLevel
  | .logFormat => s.logFormat = s'.logFormat

/-- The settings that a suite can be run with. -/
structure InRange (s : Settings) : Prop where
  settle : 300 ≤ s.settle ∧ s.settle ≤ 600
  poll : 1 ≤ s.pacing.poll
  limit : ∀ ms, s.pacing.limit = some ms → 1000 ≤ ms
  sinkPath : Solid s.sinkPath
  sourcePath : Solid s.sourcePath
  logLevel : Solid s.logLevel

/-- The settings without any variable. -/
def missing : Settings := load fun _ => none

/-- Each setting heeds its own variable. -/
structure Reads (s : Settings) (env : Environment) : Prop where
  sinkPath : Heeds (env .sinkPath) HoldsText id missing.sinkPath s.sinkPath
  sourcePath : Heeds (env .sourcePath) HoldsText id missing.sourcePath s.sourcePath
  settle : Heeds (env .settle) HoldsNumber (fun n => min 600 (max 300 n)) missing.settle s.settle
  compensation :
    Heeds (env .compensation) HoldsNumber id missing.compensation s.compensation
  poll : Heeds (env .poll) HoldsNumber (max 1) missing.pacing.poll s.pacing.poll
  limit : Heeds (env .timeout) HoldsNumber (fun n => if n = 0 then none else some (n * 1000))
    missing.pacing.limit s.pacing.limit
  logLevel : Heeds (env .logLevel) HoldsText id missing.logLevel s.logLevel
  logFormat : Heeds (env .logFormat) HoldsFormat id missing.logFormat s.logFormat

theorem load_reads (env : Environment) : Reads (load env) env where
  sinkPath := text_heeds ..
  sourcePath := text_heeds ..
  settle := number_heeds env .settle (fun n => min 600 (max 300 n)) minSettle
  compensation := number_heeds env .compensation id 600
  poll := number_heeds env .poll (max 1) 10
  limit := number_heeds env .timeout (fun n => if n = 0 then none else some (n * 1000)) 0
  logLevel := text_heeds ..
  logFormat := heeds_of_parse parse_format _ id _

theorem solid_of_heeds {content : Option String} {default value : String}
    (heeds : Heeds content HoldsText id default value) (solid : Solid default) : Solid value := by
  by_cases held : ∃ text, content = some text ∧ Solid text
  · obtain ⟨text, set, solid⟩ := held
    rw [heeds.1 text text set ⟨solid, rfl⟩]
    exact solid
  · rw [heeds.2 fun text b set holds => held ⟨text, set, holds.1⟩]
    exact solid

theorem load_inRange (env : Environment) : InRange (load env) where
  settle := by
    show 300 ≤ min maxSettle (max minSettle _) ∧ min maxSettle (max minSettle _) ≤ 600
    unfold maxSettle minSettle
    omega
  poll := (load env).pacing.poll_pos
  limit := by
    intro ms limited
    change (if number env .timeout 0 = 0 then none else some (number env .timeout 0 * 1000)) =
      some ms at limited
    split at limited
    next => cases limited
    next set =>
      obtain rfl := Option.some.inj limited
      omega
  sinkPath := solid_of_heeds (load_reads env).sinkPath ⟨'b', by decide, by decide⟩
  sourcePath := solid_of_heeds (load_reads env).sourcePath ⟨'b', by decide, by decide⟩
  logLevel := solid_of_heeds (load_reads env).logLevel ⟨'w', by decide, by decide⟩

theorem load_sameFor {env env' : Environment} {v : Variable} (agree : env v = env' v) :
    SameFor v (load env) (load env') := by
  cases v with
  | sinkPath | sourcePath | logLevel => exact text_congr agree _
  | settle => exact congrArg (fun n => min maxSettle (max minSettle n)) (number_congr agree _)
  | compensation => exact number_congr agree _
  | poll => exact congrArg (max 1) (number_congr agree _)
  | timeout =>
    exact congrArg (fun n => if n = 0 then none else some (n * 1000)) (number_congr agree 0)
  | logFormat =>
    exact congrArg (fun content : Option String =>
      (content.bind fun text => (LogFormat.ofText text).toOption).getD .pretty) agree

end Settings

/-- Any environment gives settings in their ranges. Each heeds its variable, and does not change
when other variables do. -/
theorem load_faithful (env : Environment) :
    (Settings.load env).InRange ∧ (Settings.load env).Reads env ∧
      ∀ env' v, env v = env' v →
        Settings.SameFor v (Settings.load env) (Settings.load env') :=
  ⟨Settings.load_inRange env, Settings.load_reads env, fun _ _ => Settings.load_sameFor⟩

/-- A number with a sign, a zero and white space is read and then put in range; one that needs more
than 64 bits is not read at all. -/
theorem load_faithful_settings :
    let env : Environment := fun
      | .settle => some " +0700\t"
      | .timeout => some "18446744073709551616"
      | .logFormat => some "\nJson "
      | _ => none
    HoldsNumber " +0700\t" 700 ∧ (Settings.load env).settle = 600 ∧
      (∀ n, ¬ HoldsNumber "18446744073709551616" n) ∧ (Settings.load env).pacing.limit = none ∧
      (Settings.load env).logFormat = .json ∧
      Settings.SameFor .poll (Settings.load env) (Settings.load fun _ => none) := by
  intro env
  have faithful := load_faithful env
  have seven_hundred : HoldsNumber " +0700\t" 700 := (parse_number _ _).1 (by decide)
  have json : HoldsFormat "\nJson " .json := (parse_format _ _).1 (by decide)
  have too_long (n : Nat) : ¬ HoldsNumber "18446744073709551616" n := by
    have unread : Text.numeral? (Text.trim "18446744073709551616".toList) = none := by decide
    rw [← parse_number, unread]
    exact nofun
  refine ⟨seven_hundred, faithful.2.1.settle.1 _ _ rfl seven_hundred, too_long, ?_,
    faithful.2.1.logFormat.1 _ _ rfl json, faithful.2.2 _ .poll rfl⟩
  apply faithful.2.1.limit.2
  rintro _ n ⟨⟩
  exact too_long n

end SerialSuite
