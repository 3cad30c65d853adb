import Mathlib.Data.List.Basic
import NplgMcp.Malware.Scanner

/-!
# The version of the scanner

`_version`: the reply to `zVERSION` names the engine, the signatures and the moment of their last
update, as `ctime` writes it. `matchVersion` is the regular expression and `readMoment` is
`datetime.strptime` on what the expression lets through, in the C locale; moments are seconds since
the start of the year one. `readVersion_text` says that what the scanner writes is read.
-/

namespace NplgMcp.Malware

/-! ## The calendar -/

/-- The names that `%a` knows. -/
def weekdays : List (List Char) :=
  ["Mon".toList, "Tue".toList, "Wed".toList, "Thu".toList, "Fri".toList, "Sat".toList, "Sun".toList]

/-- The names that `%b` knows. -/
def months : List (List Char) :=
  ["Jan".toList, "Feb".toList, "Mar".toList, "Apr".toList, "May".toList, "Jun".toList, "Jul".toList,
    "Aug".toList, "Sep".toList, "Oct".toList, "Nov".toList, "Dec".toList]

/-- `_is_leap`. -/
def isLeap (year : ℕ) : Bool := year % 4 = 0 && (year % 100 ≠ 0 || year % 400 = 0)

/-- `_days_in_month`, for the months from 0. -/
def daysInMonth (year month : ℕ) : ℕ :=
  if month = 1 then if isLeap year then 29 else 28
  else if month = 3 ∨ month = 5 ∨ month = 8 ∨ month = 10 then 30 else 31

/-- `_days_before_year`. -/
def daysBeforeYear (year : ℕ) : ℕ :=
  365 * (year - 1) + (year - 1) / 4 - (year - 1) / 100 + (year - 1) / 400

/-- `_days_before_month`, for the months from 0. -/
def daysBeforeMonth (year month : ℕ) : ℕ := ((List.range month).map (daysInMonth year)).sum

/-- A moment that a `datetime` without microseconds can be, in UTC. -/
structure Moment where
  year : ℕ
  month : ℕ
  day : ℕ
  hour : ℕ
  minute : ℕ
  second : ℕ
  year_mem : 1 ≤ year ∧ year ≤ 9999
  month_lt : month < 12
  day_mem : 1 ≤ day ∧ day ≤ daysInMonth year month
  hour_lt : hour < 24
  minute_lt : minute < 60
  second_lt : second < 60

/-- The seconds from the start of the year one. -/
def Moment.seconds (moment : Moment) : ℕ :=
  (daysBeforeYear moment.year + daysBeforeMonth moment.year moment.month + (moment.day - 1)) * 86400 +
    moment.hour * 3600 + moment.minute * 60 + moment.second

/-! ## Reading -/

/-- The parts of a date, as the regular expression cuts them. -/
structure DateText where
  weekday : List Char
  month : List Char
  day : List Char
  hour : List Char
  minute : List Char
  second : List Char
  year : List Char

/-- A text of 24 characters with its separators. -/
def cutDate : List Char → Option DateText
  | [w₁, w₂, w₃, ' ', m₁, m₂, m₃, ' ', d₁, d₂, ' ', h₁, h₂, ':', i₁, i₂, ':', s₁, s₂, ' ', y₁, y₂, y₃,
      y₄] =>
    some ⟨[w₁, w₂, w₃], [m₁, m₂, m₃], [d₁, d₂], [h₁, h₂], [i₁, i₂], [s₁, s₂], [y₁, y₂, y₃, y₄]⟩
  | _ => none

/-- `[A-Z][a-z]{2}`. -/
def isName : List Char → Bool
  | first :: rest => first.isUpper && rest.all (·.isLower)
  | [] => false

/-- The groups of the expression. -/
def DateText.isMatched (date : DateText) : Bool :=
  isName date.weekday && isName date.month && (date.day.head? = some ' ' || date.day.all (·.isDigit)) &&
    date.day.tail.all (·.isDigit) && date.hour.all (·.isDigit) && date.minute.all (·.isDigit) &&
    date.second.all (·.isDigit) && date.year.all (·.isDigit)

/-- `int` of digits; a space before them counts as none. -/
def number (digits : List Char) : ℕ := Nat.ofDigitChars 10 digits 0

/-- `datetime.strptime(updated, "%a %b %d %H:%M:%S %Y")`; `none` is the `ValueError`. A leap second
is read and no `datetime` then. -/
def readMoment (date : DateText) : Option Moment :=
  match months.idxOf? date.month with
  | none => none
  | some month =>
    let year := number date.year
    let day := number date.day
    let hour := number date.hour
    let minute := number date.minute
    let second := number date.second
    if h : date.weekday ∈ weekdays ∧ (1 ≤ year ∧ year ≤ 9999) ∧ month < 12 ∧
        (1 ≤ day ∧ day ≤ daysInMonth year month) ∧ hour < 24 ∧ minute < 60 ∧ second < 60 then
      some {
        year, month, day, hour, minute, second
        year_mem := h.2.1
        month_lt := h.2.2.1
        day_mem := h.2.2.2.1
        hour_lt := h.2.2.2.2.1
        minute_lt := h.2.2.2.2.2.1
        second_lt := h.2.2.2.2.2.2 }
    else none

/-- `[0-9][0-9.]{0,31}`. -/
def isEngine : List Char → Bool
  | first :: rest => first.isDigit && rest.all (fun c => c.isDigit || c = '.') && rest.length ≤ 31
  | [] => false

/-- `[0-9]{1,20}`. -/
def isSignature (text : List Char) : Bool := text ≠ [] && text.all (·.isDigit) && text.length ≤ 20

/-- What the reply begins with. -/
def versionPrefix : List Char := "ClamAV ".toList

/-- `_CLAMAV_VERSION_PATTERN.fullmatch`, with the groups. -/
def matchVersion (response : List Char) : Option (List Char × List Char × DateText) :=
  if versionPrefix.isPrefixOf response then
    match (response.drop versionPrefix.length).splitOn '/' with
    | [engine, signature, updated] =>
      match cutDate updated with
      | some date =>
        if isEngine engine && isSignature signature && date.isMatched then
          some (engine, signature, date)
        else none
      | none => none
    | _ => none
  else none

/-- What `_version` returns. -/
structure Version where
  engine : List Char
  signature : List Char
  updatedAt : Moment

/-- The reading of the reply. -/
def readVersion (response : List Char) : Except ScanFailure Version :=
  match matchVersion response with
  | none => .error (.raised .versionInvalid)
  | some (engine, signature, date) =>
    match readMoment date with
    | none => .error (.raised .timestampInvalid)
    | some updatedAt => .ok ⟨engine, signature, updatedAt⟩

/-! ## Writing -/

/-- Two digits. -/
def twoDigits (value : ℕ) : List Char := [Nat.digitChar (value / 10), Nat.digitChar (value % 10)]

/-- What the scanner has to say of its version. -/
structure ScannerVersion where
  engine : List Char
  signature : List Char
  weekday : Fin 7
  updatedAt : Moment
  engine_ok : isEngine engine = true
  signature_ok : isSignature signature = true

/-- The date as `ctime` writes it: the day is padded with a space. -/
def ScannerVersion.date (version : ScannerVersion) : DateText where
  weekday := weekdays.get version.weekday
  month := months.getD version.updatedAt.month []
  day := [if version.updatedAt.day < 10 then ' ' else Nat.digitChar (version.updatedAt.day / 10),
    Nat.digitChar (version.updatedAt.day % 10)]
  hour := twoDigits version.updatedAt.hour
  minute := twoDigits version.updatedAt.minute
  second := twoDigits version.updatedAt.second
  year := twoDigits (version.updatedAt.year / 100) ++ twoDigits (version.updatedAt.year % 100)

/-- The text of a date. -/
def DateText.text (date : DateText) : List Char :=
  date.weekday ++ ' ' :: date.month ++ ' ' :: date.day ++ ' ' :: date.hour ++ ':' :: date.minute ++
    ':' :: date.second ++ ' ' :: date.year

/-- The reply to `zVERSION`. -/
def ScannerVersion.text (version : ScannerVersion) : List Char :=
  versionPrefix ++ version.engine ++ '/' :: version.signature ++ '/' :: version.date.text

/-! ## What is written is read -/

theorem number_pair {first second : ℕ} (hfirst : first < 10) (hsecond : second < 10) :
    number [Nat.digitChar first, Nat.digitChar second] = 10 * first + second := by
  unfold number
  rw [Nat.ofDigitChars_cons_digitChar_of_lt_ten hfirst,
    Nat.ofDigitChars_cons_digitChar_of_lt_ten hsecond, Nat.ofDigitChars_nil]
  omega

/-- Two digits are read back. -/
theorem number_twoDigits {value : ℕ} (h : value < 100) : number (twoDigits value) = value := by
  rw [twoDigits, number_pair (by omega) (by omega)]
  omega

/-- Four digits are read back. -/
theorem number_year {value : ℕ} (h : value < 10000) :
    number (twoDigits (value / 100) ++ twoDigits (value % 100)) = value := by
  have hfront := @number_twoDigits (value / 100) (by omega)
  have hback := @number_twoDigits (value % 100) (by omega)
  unfold number at hfront hback ⊢
  rw [Nat.ofDigitChars_append, hfront, Nat.ofDigitChars_eq_ofDigitChars_zero, hback]
  change 10 ^ 2 * (value / 100) + value % 100 = value
  omega

/-- A padded day is read back. -/
theorem number_day {day : ℕ} (h : day < 100) :
    number [if day < 10 then ' ' else Nat.digitChar (day / 10), Nat.digitChar (day % 10)] = day := by
  split
  · have hlast : day % 10 < 10 := Nat.mod_lt _ (Nat.zero_lt_succ 9)
    unfold number
    rw [Nat.ofDigitChars_cons, Nat.ofDigitChars_cons_digitChar_of_lt_ten hlast, Nat.ofDigitChars_nil]
    change 10 * (10 * 0 + 0) + day % 10 = day
    omega
  · rw [number_pair (by omega) (by omega)]
    omega

theorem isDigit_digitChar {value : ℕ} (h : value < 10) : (Nat.digitChar value).isDigit = true := by
  have hall : ∀ value < 10, (Nat.digitChar value).isDigit = true := by decide
  exact hall value h

theorem all_twoDigits {value : ℕ} (h : value < 100) :
    (twoDigits value).all (·.isDigit) = true := by
  simp only [twoDigits, List.all_cons, List.all_nil, Bool.and_true, Bool.and_eq_true]
  exact ⟨isDigit_digitChar (by omega), isDigit_digitChar (by omega)⟩

/-- A month has at most 31 days. -/
theorem daysInMonth_le (year month : ℕ) : daysInMonth year month ≤ 31 := by
  unfold daysInMonth
  split_ifs <;> omega

/-- A name has no slash. -/
theorem slash_notMem_of_isName {name : List Char} (h : isName name = true) : '/' ∉ name := by
  cases name with
  | nil => exact List.not_mem_nil
  | cons first rest =>
      obtain ⟨hfirst, hrest⟩ := Bool.and_eq_true_iff.1 h
      intro hmem
      rcases List.mem_cons.1 hmem with rfl | hmem
      · cases hfirst
      · cases List.all_eq_true.1 hrest '/' hmem

theorem slash_notMem_of_digits {digits : List Char} (h : digits.all (·.isDigit) = true) :
    '/' ∉ digits := by
  intro hmem
  cases List.all_eq_true.1 h '/' hmem

/-- What the expression matches has no slash. -/
theorem DateText.slash_notMem (date : DateText) (h : date.isMatched = true) : '/' ∉ date.text := by
  simp only [isMatched, Bool.and_eq_true, Bool.or_eq_true, decide_eq_true_eq] at h
  obtain ⟨⟨⟨⟨⟨⟨⟨hweekday, hmonth⟩, hday⟩, htail⟩, hhour⟩, hminute⟩, hsecond⟩, hyear⟩ := h
  have hday' : '/' ∉ date.day := by
    intro hmem
    cases hchars : date.day with
    | nil =>
        rw [hchars] at hmem
        cases hmem
    | cons first rest =>
        rw [hchars] at hmem hday htail
        rcases List.mem_cons.1 hmem with rfl | hmem
        · rcases hday with hspace | hdigits
          · cases hspace
          · exact slash_notMem_of_digits hdigits List.mem_cons_self
        · exact slash_notMem_of_digits htail hmem
  intro hmem
  simp only [text, List.mem_append, List.mem_cons] at hmem
  have hspace : ('/' : Char) ≠ ' ' := by decide
  have hcolon : ('/' : Char) ≠ ':' := by decide
  simp only [hspace, hcolon, false_or, slash_notMem_of_isName hweekday, slash_notMem_of_isName hmonth,
    hday', slash_notMem_of_digits hhour, slash_notMem_of_digits hminute,
    slash_notMem_of_digits hsecond, slash_notMem_of_digits hyear] at hmem

namespace ScannerVersion

variable (version : ScannerVersion)

/-- The names are three letters. -/
theorem names : (∀ name ∈ weekdays ++ months, isName name = true ∧ name.length = 3) := by decide

/-- The month has its name. -/
theorem month_mem : months.getD version.updatedAt.month [] ∈ months := by
  have hmonths : ∀ month < 12, months.getD month [] ∈ months := by decide
  exact hmonths _ version.updatedAt.month_lt

/-- The date is cut into its parts. -/
theorem cutDate_text : cutDate version.date.text = some version.date := by
  have hthree : ∀ name : List Char, name.length = 3 → ∃ a b c, name = [a, b, c] :=
    fun name h => List.length_eq_three.1 h
  obtain ⟨w₁, w₂, w₃, hweekday⟩ := hthree (weekdays.get version.weekday)
    (names _ (List.mem_append_left _ (List.get_mem _ _))).2
  obtain ⟨m₁, m₂, m₃, hmonth⟩ := hthree (months.getD version.updatedAt.month [])
    (names _ (List.mem_append_right _ version.month_mem)).2
  unfold DateText.text date twoDigits
  rw [hweekday, hmonth]
  rfl

/-- The day is padded with a space or has two digits. -/
theorem day_matched : (version.date.day.head? = some ' ' ∨ version.date.day.all (·.isDigit) = true) ∧
    version.date.day.tail.all (·.isDigit) = true := by
  have hday := version.updatedAt.day_mem.2.trans (daysInMonth_le _ _)
  have hlast := @isDigit_digitChar (version.updatedAt.day % 10) (by omega)
  have htail : [Nat.digitChar (version.updatedAt.day % 10)].all (·.isDigit) = true := by
    rw [List.all_cons, hlast, List.all_nil]
    rfl
  refine ⟨?_, htail⟩
  unfold date
  dsimp only
  split
  · exact .inl rfl
  · refine .inr ?_
    rw [List.all_cons, htail, Bool.and_true]
    exact isDigit_digitChar (by omega)

/-- The date has the form of the expression. -/
theorem isMatched_date : version.date.isMatched = true := by
  have hyear := version.updatedAt.year_mem.2
  have hhour := version.updatedAt.hour_lt
  have hminute := version.updatedAt.minute_lt
  have hsecond := version.updatedAt.second_lt
  obtain ⟨hday, htail⟩ := version.day_matched
  unfold DateText.isMatched
  simp only [Bool.and_eq_true, Bool.or_eq_true, decide_eq_true_eq]
  refine ⟨⟨⟨⟨⟨⟨⟨?_, ?_⟩, hday⟩, htail⟩, all_twoDigits (by omega)⟩, all_twoDigits (by omega)⟩,
    all_twoDigits (by omega)⟩, ?_⟩
  · exact (names _ (List.mem_append_left _ (List.get_mem _ _))).1
  · exact (names _ (List.mem_append_right _ version.month_mem)).1
  · rw [date, List.all_append, all_twoDigits (by omega), all_twoDigits (by omega)]
    rfl

/-- The moment is read back. -/
theorem readMoment_date : readMoment version.date = some version.updatedAt := by
  have hmonths : ∀ month < 12, months.idxOf? (months.getD month []) = some month := by decide
  have hmonth := hmonths _ version.updatedAt.month_lt
  have hyear := @number_year version.updatedAt.year (by have := version.updatedAt.year_mem; omega)
  have hday := @number_day version.updatedAt.day
    (by have := version.updatedAt.day_mem.2.trans (daysInMonth_le _ _); omega)
  have hhour := @number_twoDigits version.updatedAt.hour
    (by have := version.updatedAt.hour_lt; omega)
  have hminute := @number_twoDigits version.updatedAt.minute
    (by have := version.updatedAt.minute_lt; omega)
  have hsecond := @number_twoDigits version.updatedAt.second
    (by have := version.updatedAt.second_lt; omega)
  unfold readMoment date
  dsimp only
  rw [hmonth]
  dsimp only
  simp only [hyear, hday, hhour, hminute, hsecond]
  rw [dif_pos ⟨List.get_mem _ _, version.updatedAt.year_mem, version.updatedAt.month_lt,
    version.updatedAt.day_mem, version.updatedAt.hour_lt, version.updatedAt.minute_lt,
    version.updatedAt.second_lt⟩]

/-- No part of the reply has a slash. -/
theorem slash_notMem : '/' ∉ version.engine ∧ '/' ∉ version.signature ∧ '/' ∉ version.date.text := by
  refine ⟨fun hmem => ?_, fun hmem => ?_, fun hmem => ?_⟩
  · have hengine := version.engine_ok
    cases hchars : version.engine with
    | nil =>
        rw [hchars] at hmem
        cases hmem
    | cons first rest =>
        rw [hchars] at hengine hmem
        simp only [isEngine, Bool.and_eq_true, List.all_eq_true] at hengine
        rcases List.mem_cons.1 hmem with rfl | hrest
        · exact absurd hengine.1.1 (by decide)
        · exact absurd (hengine.1.2 '/' hrest) (by decide)
  · have hsignature := version.signature_ok
    simp only [isSignature, Bool.and_eq_true, List.all_eq_true] at hsignature
    exact absurd (hsignature.1.2 '/' hmem) (by decide)
  · exact version.date.slash_notMem version.isMatched_date hmem

/-- The reply is matched. -/
theorem matchVersion_text :
    matchVersion version.text = some (version.engine, version.signature, version.date) := by
  obtain ⟨hengine, hsignature, hdate⟩ := version.slash_notMem
  have hsplit : (version.engine ++ '/' :: (version.signature ++ '/' :: version.date.text)).splitOn '/' =
      [version.engine, version.signature, version.date.text] := by
    rw [List.splitOn_append_cons_self_of_not_mem hengine,
      List.splitOn_append_cons_self_of_not_mem hsignature, List.splitOn_eq_singleton hdate]
  have htext : version.text = versionPrefix ++
      (version.engine ++ '/' :: (version.signature ++ '/' :: version.date.text)) := by
    rw [text, List.append_assoc, List.append_assoc, List.cons_append]
  have hstart := List.isPrefixOf_iff_prefix.2 <| List.prefix_append versionPrefix
    (version.engine ++ '/' :: (version.signature ++ '/' :: version.date.text))
  unfold matchVersion
  rw [htext, if_pos hstart, List.drop_left, hsplit]
  dsimp only
  rw [version.cutDate_text]
  dsimp only
  rw [version.engine_ok, version.signature_ok, version.isMatched_date]
  rfl

end ScannerVersion

/-- **What the scanner says of itself is read.** Whatever its engine, its signatures and the moment of
their update, the reply in its format is read back to them. -/
theorem readVersion_text (version : ScannerVersion) :
    readVersion version.text = .ok ⟨version.engine, version.signature, version.updatedAt⟩ := by
  unfold readVersion
  rw [version.matchVersion_text]
  dsimp only
  rw [version.readMoment_date]

end NplgMcp.Malware
