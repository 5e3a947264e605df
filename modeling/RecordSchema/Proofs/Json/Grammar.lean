/-!
# The grammar of JSON

The texts that the standard grammar of JSON allows, production by production: numbers (`IsNumber`),
strings (`IsString`), and, as one relation between the symbols of the grammar and texts, values with
the lists of elements inside them (`Derives`).

A quotation mark opens a string, and the next one that does not follow a backslash closes it. What
a walk along a text finds outside of its strings (`bare`) tells of some texts that the grammar does
not allow them: in a text that it allows no string stays open, and neither an `N` nor an `I` stands
outside of strings (`Derives.tidy`).
-/

set_option autoImplicit false

namespace RecordSchema.Json

/-! ## Numbers -/

/-- A run of digits that is not empty. -/
structure IsDigits (cs : List Char) : Prop where
  ne_nil : cs ≠ []
  digits : ∀ c ∈ cs, '0' ≤ c ∧ c ≤ '9'

/-- The whole part of a number: a zero, or digits of which the first is none. -/
inductive IsWhole : List Char → Prop where
  | zero : IsWhole ['0']
  | digits {c : Char} {cs : List Char} (first : '1' ≤ c ∧ c ≤ '9')
      (others : ∀ d ∈ cs, '0' ≤ d ∧ d ≤ '9') : IsWhole (c :: cs)

/-- The digits behind the decimal point, where there are any. -/
inductive IsFraction : List Char → Prop where
  | absent : IsFraction []
  | point {cs : List Char} (digits : IsDigits cs) : IsFraction ('.' :: cs)

/-- The exponent, where there is one. -/
inductive IsExponent : List Char → Prop where
  | absent : IsExponent []
  | unsigned {e : Char} {cs : List Char} (letter : e = 'e' ∨ e = 'E') (digits : IsDigits cs) :
      IsExponent (e :: cs)
  | signed {e sign : Char} {cs : List Char} (letter : e = 'e' ∨ e = 'E')
      (sign_eq : sign = '+' ∨ sign = '-') (digits : IsDigits cs) : IsExponent (e :: sign :: cs)

/-- A number without its sign: its whole part, its fraction and its exponent. -/
inductive IsMagnitude : List Char → Prop where
  | parts {whole fraction exponent : List Char} (whole_of : IsWhole whole)
      (fraction_of : IsFraction fraction) (exponent_of : IsExponent exponent) :
      IsMagnitude (whole ++ (fraction ++ exponent))

/-- A number, with a minus sign in front or none. -/
inductive IsNumber : List Char → Prop where
  | positive {cs : List Char} (magnitude : IsMagnitude cs) : IsNumber cs
  | negative {cs : List Char} (magnitude : IsMagnitude cs) : IsNumber ('-' :: cs)

/-! ## Strings -/

/-- A hexadecimal digit. -/
def IsHexDigit (c : Char) : Prop :=
  ('0' ≤ c ∧ c ≤ '9') ∨ ('a' ≤ c ∧ c ≤ 'f') ∨ ('A' ≤ c ∧ c ≤ 'F')

/-- What stands for one character of a string. -/
inductive IsStringChar : List Char → Prop where
  | itself {c : Char} (quote : c ≠ '"') (backslash : c ≠ '\\') (control : 0x20 ≤ c.toNat) :
      IsStringChar [c]
  | short {c : Char} (letter : c ∈ ['"', '\\', '/', 'b', 'f', 'n', 'r', 't']) :
      IsStringChar ['\\', c]
  | number {a b c d : Char} (hex : ∀ x ∈ [a, b, c, d], IsHexDigit x) :
      IsStringChar ['\\', 'u', a, b, c, d]

/-- Characters between quotation marks. -/
inductive IsString : List Char → Prop where
  | quoted {chars : List (List Char)} (each : ∀ one ∈ chars, IsStringChar one) :
      IsString ('"' :: (chars.flatten ++ ['"']))

/-! ## Values -/

/-- Blanks between tokens. -/
def IsBlanks (cs : List Char) : Prop := ∀ c ∈ cs, c = ' ' ∨ c = '\t' ∨ c = '\n' ∨ c = '\r'

/-- The symbols of the grammar that refer to one another. -/
inductive Symbol where
  | value
  /-- A string, a colon and a value. -/
  | member
  /-- One element or more, separated by commas, with blanks around each. -/
  | several (element : Symbol)

/-- A text is derived from a symbol of the grammar. -/
inductive Derives : Symbol → List Char → Prop where
  | null : Derives .value ['n', 'u', 'l', 'l']
  | true : Derives .value ['t', 'r', 'u', 'e']
  | false : Derives .value ['f', 'a', 'l', 's', 'e']
  | number {cs : List Char} (number : IsNumber cs) : Derives .value cs
  | string {cs : List Char} (string : IsString cs) : Derives .value cs
  | emptyArray {blanks : List Char} (blank : IsBlanks blanks) :
      Derives .value ('[' :: (blanks ++ [']']))
  | array {cs : List Char} (items : Derives (.several .value) cs) :
      Derives .value ('[' :: (cs ++ [']']))
  | emptyObject {blanks : List Char} (blank : IsBlanks blanks) :
      Derives .value ('\x7b' :: (blanks ++ ['\x7d']))
  | object {cs : List Char} (members : Derives (.several .member) cs) :
      Derives .value ('\x7b' :: (cs ++ ['\x7d']))
  | member {name before after cs : List Char} (name_of : IsString name) (blank : IsBlanks before)
      (blank' : IsBlanks after) (value : Derives .value cs) :
      Derives .member (name ++ (before ++ ':' :: (after ++ cs)))
  | last {element : Symbol} {before cs after : List Char} (blank : IsBlanks before)
      (blank' : IsBlanks after) (one : Derives element cs) :
      Derives (.several element) (before ++ (cs ++ after))
  | next {element : Symbol} {before cs after rest : List Char} (blank : IsBlanks before)
      (blank' : IsBlanks after) (one : Derives element cs)
      (others : Derives (.several element) rest) :
      Derives (.several element) (before ++ (cs ++ (after ++ ',' :: rest)))

/-! ## Outside of strings -/

/-- Where a walk along a text has come to. -/
inductive Position where
  | outside
  | inside
  /-- Inside of a string, behind a backslash. -/
  | escaped

/-- What a character does to the position. -/
def Position.step : Position → Char → Position
  | .outside, c => if c = '"' then .inside else .outside
  | .inside, c => if c = '"' then .outside else if c = '\\' then .escaped else .inside
  | .escaped, _ => .inside

/-- The position behind characters. -/
def Position.along (p : Position) (cs : List Char) : Position := cs.foldl Position.step p

/-- The characters outside of strings; the mark that opens a string still is outside. -/
def bare : Position → List Char → List Char
  | _, [] => []
  | .outside, c :: cs => c :: bare (Position.step .outside c) cs
  | p, c :: cs => bare (p.step c) cs

theorem along_append (p : Position) (cs ds : List Char) :
    p.along (cs ++ ds) = (p.along cs).along ds := List.foldl_append

theorem bare_append (p : Position) (cs ds : List Char) :
    bare p (cs ++ ds) = bare p cs ++ bare (p.along cs) ds := by
  induction cs generalizing p with
  | nil => rfl
  | cons c cs ih =>
    cases p with
    | outside =>
      show c :: bare _ (cs ++ ds) = c :: (bare _ cs ++ _)
      rw [ih]
      rfl
    | inside | escaped =>
      show bare _ (cs ++ ds) = bare _ cs ++ _
      rw [ih]
      rfl

/-- A text leaves no string open. -/
def Balanced (cs : List Char) : Prop := Position.along .outside cs = .outside

/-- A character is not one of the capital letters that begin a word for what is no number. -/
def IsOrdinary (c : Char) : Prop := c ≠ 'N' ∧ c ≠ 'I'

/-- A text leaves no string open, and there are only ordinary characters outside of its strings. -/
structure Tidy (cs : List Char) : Prop where
  balanced : Balanced cs
  ordinary : ∀ c ∈ bare .outside cs, IsOrdinary c

theorem Balanced.append {cs ds : List Char} (hcs : Balanced cs) (hds : Balanced ds) :
    Balanced (cs ++ ds) := by
  unfold Balanced at *
  rw [along_append, hcs, hds]

/-- Behind a text that leaves no string open what is outside of strings stays so. -/
theorem mem_bare_append {cs ds : List Char} (hcs : Balanced cs) {c : Char} :
    c ∈ bare .outside (cs ++ ds) ↔ c ∈ bare .outside cs ∨ c ∈ bare .outside ds := by
  rw [bare_append, hcs, List.mem_append]

theorem tidy_nil : Tidy [] := ⟨rfl, fun _ hc => absurd hc List.not_mem_nil⟩

theorem Tidy.append {cs ds : List Char} (hcs : Tidy cs) (hds : Tidy ds) : Tidy (cs ++ ds) := by
  refine ⟨hcs.balanced.append hds.balanced, fun c hc => ?_⟩
  rcases (mem_bare_append hcs.balanced).1 hc with hc | hc
  · exact hcs.ordinary c hc
  · exact hds.ordinary c hc

/-- A character in front, other than a quotation mark. -/
theorem Tidy.cons {c : Char} {cs : List Char} (hquote : c ≠ '"') (hc : IsOrdinary c)
    (hcs : Tidy cs) : Tidy (c :: cs) := by
  have hone : Tidy [c] := by
    refine ⟨if_neg hquote, fun d hd => ?_⟩
    rw [List.mem_singleton.1 hd]
    exact hc
  exact hone.append hcs

/-- Characters that are no quotation marks. -/
theorem tidy_of_forall {cs : List Char} (h : ∀ c ∈ cs, c ≠ '"' ∧ IsOrdinary c) : Tidy cs := by
  induction cs with
  | nil => exact tidy_nil
  | cons c cs ih =>
    obtain ⟨hquote, hc⟩ := h c (List.mem_cons_self ..)
    exact .cons hquote hc (ih fun d hd => h d (List.mem_cons_of_mem _ hd))

/-! ## What the grammar allows is tidy -/

/-- The characters of numbers. -/
def IsNumeric (c : Char) : Prop := ('0' ≤ c ∧ c ≤ '9') ∨ c ∈ ['.', 'e', 'E', '+', '-']

theorem IsNumeric.ordinary {c : Char} (h : IsNumeric c) : c ≠ '"' ∧ IsOrdinary c := by
  have hother : ∀ d ∈ ['"', 'N', 'I'], ¬ IsNumeric d := by
    simp [IsNumeric]
  have hne : ∀ d ∈ ['"', 'N', 'I'], c ≠ d := by
    rintro d hd rfl
    exact hother c hd h
  exact ⟨hne '"' (by simp), hne 'N' (by simp), hne 'I' (by simp)⟩

theorem IsDigits.numeric {cs : List Char} (h : IsDigits cs) : ∀ c ∈ cs, IsNumeric c :=
  fun c hc => .inl (h.digits c hc)

theorem IsWhole.numeric {cs : List Char} (h : IsWhole cs) : ∀ c ∈ cs, IsNumeric c := by
  intro c hc
  cases h with
  | zero =>
    rw [List.mem_singleton.1 hc]
    exact .inl (by decide)
  | digits first others =>
    rcases List.mem_cons.1 hc with rfl | hc
    · exact .inl ⟨Char.le_trans (by decide) first.1, first.2⟩
    · exact .inl (others c hc)

theorem IsFraction.numeric {cs : List Char} (h : IsFraction cs) : ∀ c ∈ cs, IsNumeric c := by
  intro c hc
  cases h with
  | absent => exact absurd hc List.not_mem_nil
  | point digits =>
    rcases List.mem_cons.1 hc with rfl | hc
    · exact .inr (by simp)
    · exact digits.numeric c hc

theorem IsExponent.numeric {cs : List Char} (h : IsExponent cs) : ∀ c ∈ cs, IsNumeric c := by
  have hletter : ∀ e, e = 'e' ∨ e = 'E' → IsNumeric e := by
    rintro e (rfl | rfl)
    · exact .inr (by simp)
    · exact .inr (by simp)
  have hsign : ∀ sign, sign = '+' ∨ sign = '-' → IsNumeric sign := by
    rintro sign (rfl | rfl)
    · exact .inr (by simp)
    · exact .inr (by simp)
  intro c hc
  cases h with
  | absent => exact absurd hc List.not_mem_nil
  | unsigned letter digits =>
    rcases List.mem_cons.1 hc with rfl | hc
    · exact hletter c letter
    · exact digits.numeric c hc
  | signed letter sign digits =>
    rcases List.mem_cons.1 hc with rfl | hc
    · exact hletter c letter
    · rcases List.mem_cons.1 hc with rfl | hc
      · exact hsign c sign
      · exact digits.numeric c hc

theorem IsMagnitude.tidy {cs : List Char} (h : IsMagnitude cs) : Tidy cs := by
  obtain ⟨whole, fraction, exponent⟩ := h
  refine tidy_of_forall fun c hc => IsNumeric.ordinary ?_
  simp only [List.mem_append] at hc
  rcases hc with hc | hc | hc
  · exact whole.numeric c hc
  · exact fraction.numeric c hc
  · exact exponent.numeric c hc

theorem IsNumber.tidy {cs : List Char} (h : IsNumber cs) : Tidy cs := by
  cases h with
  | positive magnitude => exact magnitude.tidy
  | negative magnitude =>
    obtain ⟨hquote, hminus⟩ := IsNumeric.ordinary (c := '-') (.inr (by simp))
    exact .cons hquote hminus magnitude.tidy

/-- A character of a string leaves the walk inside of it. -/
theorem IsStringChar.inside {cs : List Char} (h : IsStringChar cs) :
    Position.along .inside cs = .inside ∧ bare .inside cs = [] := by
  cases h with
  | itself quote backslash _ => simp [Position.along, Position.step, bare, quote, backslash]
  | short _ => exact ⟨rfl, rfl⟩
  | @number a b c d hex =>
    -- No hexadecimal digit ends the string or the escape.
    have hplain : ∀ x ∈ [a, b, c, d], x ≠ '"' ∧ x ≠ '\\' := by
      intro x hx
      have hother : ∀ y ∈ ['"', '\\'], ¬ IsHexDigit y := by
        simp [IsHexDigit]
      constructor
      · rintro rfl
        exact hother '"' (by simp) (hex _ hx)
      · rintro rfl
        exact hother '\\' (by simp) (hex _ hx)
    simp only [List.forall_mem_cons, List.not_mem_nil, false_implies, implies_true,
      and_true] at hplain
    simp [Position.along, Position.step, bare, hplain]

theorem IsString.tidy {cs : List Char} (h : IsString cs) : Tidy cs := by
  obtain @⟨chars, each⟩ := h
  have hinside : Position.along .inside chars.flatten = .inside ∧
      bare .inside chars.flatten = [] := by
    induction chars with
    | nil => exact ⟨rfl, rfl⟩
    | cons one chars ih =>
      obtain ⟨hone, hbare⟩ := (each one (List.mem_cons_self ..)).inside
      obtain ⟨hrest, hbare'⟩ := ih fun d hd => each d (List.mem_cons_of_mem _ hd)
      rw [List.flatten_cons, along_append, bare_append, hone, hbare, hrest, hbare']
      exact ⟨rfl, rfl⟩
  -- Behind the opening mark the walk is inside, and the closing mark leads out again.
  constructor
  · show Position.along .inside (chars.flatten ++ ['"']) = .outside
    rw [along_append, hinside.1]
    rfl
  · intro c hc
    have hquote : c ∈ '"' :: bare .inside (chars.flatten ++ ['"']) := hc
    rw [bare_append, hinside.1, hinside.2] at hquote
    rw [List.mem_singleton.1 hquote]
    exact ⟨by decide, by decide⟩

theorem IsBlanks.tidy {cs : List Char} (h : IsBlanks cs) : Tidy cs := by
  refine tidy_of_forall fun c hc => ?_
  rcases h c hc with rfl | rfl | rfl | rfl
  all_goals exact ⟨by decide, by decide, by decide⟩

/-- A text between brackets or braces. -/
theorem Tidy.enclosed {opening closing : Char} {cs : List Char} (hcs : Tidy cs)
    (hopening : opening ≠ '"' ∧ IsOrdinary opening)
    (hclosing : closing ≠ '"' ∧ IsOrdinary closing) : Tidy (opening :: (cs ++ [closing])) :=
  .cons hopening.1 hopening.2 (hcs.append (.cons hclosing.1 hclosing.2 tidy_nil))

/-- What the grammar allows leaves no string open, and outside of its strings there is neither of
the letters that begin a word for what is no number. -/
theorem Derives.tidy {symbol : Symbol} {cs : List Char} (h : Derives symbol cs) : Tidy cs := by
  -- The marks between parts open no string and begin no word.
  have hmarks : ∀ c ∈ ['[', ']', '\x7b', '\x7d', ':', ','], c ≠ '"' ∧ IsOrdinary c := by
    simp [IsOrdinary]
  induction h with
  | null => exact tidy_of_forall (by simp [IsOrdinary])
  | true => exact tidy_of_forall (by simp [IsOrdinary])
  | false => exact tidy_of_forall (by simp [IsOrdinary])
  | number number => exact number.tidy
  | string string => exact string.tidy
  | emptyArray blank => exact blank.tidy.enclosed (hmarks _ (by simp)) (hmarks _ (by simp))
  | array _ ih => exact ih.enclosed (hmarks _ (by simp)) (hmarks _ (by simp))
  | emptyObject blank => exact blank.tidy.enclosed (hmarks _ (by simp)) (hmarks _ (by simp))
  | object _ ih => exact ih.enclosed (hmarks _ (by simp)) (hmarks _ (by simp))
  | member name blank blank' _ ih =>
    have hcolon := hmarks ':' (by simp)
    exact name.tidy.append (blank.tidy.append (.cons hcolon.1 hcolon.2 (blank'.tidy.append ih)))
  | last blank blank' _ ih => exact blank.tidy.append (ih.append blank'.tidy)
  | next blank blank' _ _ ih ih' =>
    have hcomma := hmarks ',' (by simp)
    exact blank.tidy.append (ih.append (blank'.tidy.append (.cons hcomma.1 hcomma.2 ih')))

end RecordSchema.Json
