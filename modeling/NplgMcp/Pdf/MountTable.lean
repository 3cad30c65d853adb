import NplgMcp.Library.Fields
import NplgMcp.Pdf.WorkerSlot

/-!
# The mount table of the kernel

The kernel writes one line for a mount, its fields between spaces, with the spaces, tabs, newlines and
backslashes of a path as octal numbers. The reader ends a line wherever `str.splitlines` does, and
some of those characters may stand in a path as they are. Such a path tears its line apart, and one
of the pieces is malformed: the piece up to a path that comes before the separator has no separator,
and the piece that begins behind it has at most three fields. So the reader accepts a table exactly
when no line is torn, one mount is at the root, on its device, and none is below it.
-/

open Library Library.Lines Library.Fields

namespace NplgMcp.Pdf

/-! ## Mounts -/

/-- A character as it may be in a field: the kernel writes spaces and newlines otherwise. -/
def IsWritten (c : Char) : Prop := c ≠ ' ' ∧ c ≠ '\n'

/-- A mount of the table. The mountpoint is the path, the other fields are as they are written. -/
structure Mount where
  id : ℕ
  parent : ℕ
  device : Device
  root : List Char
  mountpoint : List Char
  options : List (List Char)
  optional : List (List Char)
  filesystemType : List Char
  source : List Char
  superOptions : List Char
  root_head : root.head? ≠ some '-'
  mountpoint_head : mountpoint.head? = some '/'
  options_ne : options ≠ []
  options_plain : ∀ option ∈ options, ∀ c ∈ option, c.isLower = true
  optional_plain : ∀ field ∈ optional, ∀ c ∈ field, IsWritten c ∧ isLineBoundary c = false
  optional_ne : ['-'] ∉ optional
  written : ∀ field ∈ [root, filesystemType, source, superOptions], ∀ c ∈ field, IsWritten c
  superOptions_end : superOptions.getLast? ≠ some '\r'

/-- A character of a mountpoint, as the kernel writes it. -/
def escapeMountinfoChar : Char → List Char
  | ' ' => ['\\', '0', '4', '0']
  | '\t' => ['\\', '0', '1', '1']
  | '\n' => ['\\', '0', '1', '2']
  | '\\' => ['\\', '1', '3', '4']
  | c => [c]

/-- A mountpoint, as the kernel writes it. -/
def escapeMountinfoPath (path : List Char) : List Char := path.flatMap escapeMountinfoChar

/-- **Escapes are read back.** -/
theorem decode_escapeMountinfoPath (path : List Char) :
    decodeMountinfoPath (escapeMountinfoPath path) = path := by
  induction path with
  | nil => rfl
  | cons c path ih =>
      have hcons : escapeMountinfoPath (c :: path) =
          escapeMountinfoChar c ++ escapeMountinfoPath path := List.flatMap_cons
      rw [hcons]
      unfold escapeMountinfoChar
      split
      · exact congrArg (' ' :: ·) ih
      · exact congrArg ('\t' :: ·) ih
      · exact congrArg ('\n' :: ·) ih
      · exact congrArg ('\\' :: ·) ih
      · rename_i hslash
        rw [List.singleton_append, decodeMountinfoPath.eq_2 c _ fun _ _ _ _ h _ => hslash h, ih]

/-- A mountpoint is written without spaces and newlines. -/
theorem isWritten_of_mem_escape {path : List Char} {c : Char} (h : c ∈ escapeMountinfoPath path) :
    IsWritten c ∧ (isLineBoundary c = true → c ∈ path) := by
  obtain ⟨d, hd, hc⟩ := List.mem_flatMap.1 h
  unfold escapeMountinfoChar at hc
  split at hc
  iterate 4
    · simp only [List.mem_cons, List.not_mem_nil, or_false] at hc
      rcases hc with rfl | rfl | rfl | rfl <;> exact ⟨⟨by decide, by decide⟩, nofun⟩
  · rename_i hspace _ hnewline _
    obtain rfl := List.mem_singleton.1 hc
    exact ⟨⟨hspace, hnewline⟩, fun _ => hd⟩

/-- A line boundary other than the newline is written as it is. -/
theorem mem_escape_of_boundary {path : List Char} {c : Char} (h : c ∈ path)
    (hc : isLineBoundary c = true) (hne : c ≠ '\n') : c ∈ escapeMountinfoPath path := by
  refine List.mem_flatMap.2 ⟨c, h, ?_⟩
  unfold escapeMountinfoChar
  split
  · cases hc
  · cases hc
  · exact absurd rfl hne
  · cases hc
  · exact List.mem_singleton_self c

theorem head_escape {path : List Char} (h : path.head? = some '/') :
    (escapeMountinfoPath path).head? = some '/' := by
  obtain ⟨tail, rfl⟩ := List.head?_eq_some_iff.1 h
  rfl

namespace Mount

variable (m : Mount)

/-- The fields before the separator. -/
def front : List (List Char) :=
  [Nat.toDigits 10 m.id, Nat.toDigits 10 m.parent, m.device.text, m.root,
    escapeMountinfoPath m.mountpoint, [','].intercalate m.options] ++ m.optional

/-- The fields behind the separator. -/
def back : List (List Char) := [m.filesystemType, m.source, m.superOptions]

/-- The fields of the line. -/
def fields : List (List Char) := m.front ++ ['-'] :: m.back

/-- The line of the mount. -/
def line : List Char := [' '].intercalate m.fields

/-- What the reader is to make of the line. -/
def read : MountLine := ⟨m.mountpoint, m.device.text, m.options, m.filesystemType⟩

/-- No character in the line of the mount is taken for the end of the line. -/
structure Clean : Prop where
  mountpoint : ∀ c ∈ m.mountpoint, isLineBoundary c = true → c = '\n'
  others : ∀ field ∈ [m.root, m.filesystemType, m.source, m.superOptions],
    ∀ c ∈ field, isLineBoundary c = false

end Mount

/-- The text of the table. -/
def tableText (table : List Mount) : List Char := table.flatMap fun m => m.line ++ ['\n']

/-! ## The fields of a line -/

/-- What numbers, device numbers and lists of options are written with. -/
theorem plain_of_simple {c : Char}
    (h : c.isDigit = true ∨ c.isLower = true ∨ c = ':' ∨ c = ',') :
    IsWritten c ∧ isLineBoundary c = false := by
  have hspecial : [' ', '\n', '\r', '\x0b', '\x0c', '\x1c', '\x1d', '\x1e', '\x85', '\u2028',
      '\u2029'].all (fun d => !(d.isDigit || d.isLower || d == ':' || d == ',')) = true := by decide
  have hplain : c ∉ [' ', '\n', '\r', '\x0b', '\x0c', '\x1c', '\x1d', '\x1e', '\x85', '\u2028',
      '\u2029'] := by
    intro hmem
    have hc := List.all_eq_true.1 hspecial c hmem
    rcases h with h | h | h | h <;> simp [h] at hc
  refine ⟨⟨fun hspace => hplain (hspace ▸ List.mem_cons_self), fun hnewline => hplain ?_⟩, ?_⟩
  · exact hnewline ▸ List.mem_cons_of_mem _ List.mem_cons_self
  · exact decide_eq_false fun hmem => hplain (List.mem_cons_of_mem _ hmem)

theorem Device.simple_of_mem_text {device : Device} {c : Char} (h : c ∈ device.text) :
    c.isDigit = true ∨ c = ':' := by
  rcases List.mem_append.1 h with hmajor | hrest
  · exact .inl (Nat.isDigit_of_mem_toDigits (by decide) (by decide) hmajor)
  · rcases List.mem_cons.1 hrest with rfl | hminor
    · exact .inr rfl
    · exact .inl (Nat.isDigit_of_mem_toDigits (by decide) (by decide) hminor)

/-- The text of a device tells the device. -/
theorem Device.text_injective : Function.Injective Device.text := by
  rintro ⟨major, minor⟩ ⟨major', minor'⟩ h
  obtain ⟨hmajor, hminor⟩ := append_mark_inj (notMem_toDigits rfl) (notMem_toDigits rfl) h
  obtain rfl := toDigits_injective hmajor
  obtain rfl := toDigits_injective hminor
  rfl

namespace Mount

variable {m : Mount} {field : List Char}

/-- What an option is made of, and the list of the options. -/
theorem simple_of_mem_options {c : Char} (h : c ∈ [','].intercalate m.options) :
    c.isLower = true ∨ c = ',' := by
  by_contra hno
  obtain ⟨hlower, hcomma⟩ := not_or.1 hno
  exact notMem_intercalate hcomma (fun option hoption hmem =>
    hlower (m.options_plain option hoption c hmem)) h

/-- The fields before the separator: only the root and the mountpoint may tear the line. -/
theorem front_field (h : field ∈ m.front) :
    (∀ c ∈ field, IsWritten c ∧ isLineBoundary c = false) ∨ field = m.root ∨
      field = escapeMountinfoPath m.mountpoint := by
  rcases List.mem_append.1 h with hfixed | hoptional
  · simp only [List.mem_cons, List.not_mem_nil, or_false] at hfixed
    rcases hfixed with rfl | rfl | rfl | rfl | rfl | rfl
    · exact .inl fun c hc =>
        plain_of_simple (.inl (Nat.isDigit_of_mem_toDigits (by decide) (by decide) hc))
    · exact .inl fun c hc =>
        plain_of_simple (.inl (Nat.isDigit_of_mem_toDigits (by decide) (by decide) hc))
    · exact .inl fun c hc =>
        plain_of_simple ((Device.simple_of_mem_text hc).imp_right fun h => .inr (.inl h))
    · exact .inr (.inl rfl)
    · exact .inr (.inr rfl)
    · exact .inl fun c hc =>
        plain_of_simple (.inr ((simple_of_mem_options hc).imp_right .inr))
  · exact .inl (m.optional_plain field hoptional)

/-- The fields before the separator are not the separator. -/
theorem separator_notMem_front : ['-'] ∉ m.front := by
  intro h
  rcases List.mem_append.1 h with hfixed | hoptional
  · simp only [List.mem_cons, List.not_mem_nil, or_false] at hfixed
    rcases hfixed with h | h | h | h | h | h
    · exact notMem_toDigits rfl (h ▸ List.mem_singleton_self '-')
    · exact notMem_toDigits rfl (h ▸ List.mem_singleton_self '-')
    · have hdash : '-' ∈ m.device.text := h ▸ List.mem_singleton_self '-'
      rcases Device.simple_of_mem_text hdash with hdigit | hcolon
      · cases hdigit
      · cases hcolon
    · exact m.root_head (congrArg List.head? h).symm
    · have hhead := head_escape m.mountpoint_head
      rw [← h] at hhead
      cases hhead
    · have hdash : '-' ∈ [','].intercalate m.options := h ▸ List.mem_singleton_self '-'
      rcases simple_of_mem_options hdash with hlower | hcomma
      · cases hlower
      · cases hcomma
  · exact m.optional_ne hoptional

/-- A field that tears the line does not begin like the separator. -/
theorem head_front_field (h : field ∈ m.front) {c : Char} (hc : c ∈ field)
    (hboundary : isLineBoundary c = true) : field.head? ≠ some '-' := by
  rcases front_field h with hplain | rfl | rfl
  · rw [(hplain c hc).2] at hboundary
    cases hboundary
  · exact m.root_head
  · rw [head_escape m.mountpoint_head]
    nofun

/-- Every field is written without spaces and newlines. -/
theorem written_of_mem_fields (h : field ∈ m.fields) : ∀ c ∈ field, IsWritten c := by
  have hothers := m.written
  rw [List.forall_mem_cons] at hothers
  rcases List.mem_append.1 h with hfront | hback
  · rcases front_field hfront with hplain | rfl | rfl
    · exact fun c hc => (hplain c hc).1
    · exact hothers.1
    · exact fun c hc => (isWritten_of_mem_escape hc).1
  · rcases List.mem_cons.1 hback with rfl | hback
    · intro c hc
      obtain rfl := List.mem_singleton.1 hc
      exact ⟨nofun, nofun⟩
    · exact hothers.2 field hback

theorem space_notMem_fields : ∀ field ∈ m.fields, ' ' ∉ field :=
  fun _ hfield hmem => (written_of_mem_fields hfield ' ' hmem).1 rfl

theorem newline_notMem_line : '\n' ∉ m.line :=
  notMem_intercalate (by decide) fun _ hfield hmem => (written_of_mem_fields hfield '\n' hmem).2 rfl

theorem fields_ne_nil : m.fields ≠ [] :=
  List.append_ne_nil_of_right_ne_nil _ (List.cons_ne_nil _ _)

/-! ## Lines that are whole -/

/-- A clean line has no line boundary. -/
theorem Clean.line (h : m.Clean) : ∀ c ∈ m.line, isLineBoundary c = false := by
  intro c hc
  refine Bool.eq_false_iff.2 fun hboundary => ?_
  have hspace : c ≠ ' ' := by
    rintro rfl
    cases hboundary
  refine notMem_intercalate hspace (fun field hfield hmem => ?_) hc
  have hothers := h.others
  rw [List.forall_mem_cons] at hothers
  have hfalse : isLineBoundary c = false := by
    rcases List.mem_append.1 hfield with hfront | hback
    · rcases front_field hfront with hplain | rfl | rfl
      · exact (hplain c hmem).2
      · exact hothers.1 c hmem
      · have hwritten := isWritten_of_mem_escape hmem
        exact absurd (h.mountpoint c (hwritten.2 hboundary) hboundary) hwritten.1.2
    · rcases List.mem_cons.1 hback with rfl | hback
      · obtain rfl := List.mem_singleton.1 hmem
        rfl
      · exact hothers.2 field hback c hmem
  rw [hfalse] at hboundary
  cases hboundary

/-- The reader finds the separator. -/
theorem idxOf?_separator : m.fields.idxOf? ['-'] = some m.front.length := by
  have hfront : m.front.findIdx? (· == ['-']) = none := by
    rw [List.findIdx?_eq_none_iff]
    exact fun field hfield => beq_eq_false_iff_ne.2 fun heq => separator_notMem_front (heq ▸ hfield)
  rw [List.idxOf?, fields, List.findIdx?_append, hfront, List.findIdx?_cons, beq_self_eq_true]
  exact congrArg some (Nat.zero_add _)

/-- The options are read as they were written. -/
theorem splitOn_options : ([','].intercalate m.options).splitOn ',' = m.options :=
  List.splitOn_intercalate ',' (fun option hoption hmem =>
    absurd (m.options_plain option hoption ',' hmem) (by decide)) m.options_ne

/-- **A whole line is read as the mount.** -/
theorem parseMountLine_line : parseMountLine m.line = some m.read := by
  have hsplit : m.line.splitOn ' ' = m.fields :=
    List.splitOn_intercalate ' ' space_notMem_fields fields_ne_nil
  have htype : m.fields[m.front.length + 1]? = some m.filesystemType := by
    rw [fields, List.getElem?_append_right (Nat.le_add_right _ 1), Nat.add_sub_cancel_left]
    rfl
  unfold parseMountLine
  dsimp only
  rw [hsplit, idxOf?_separator, Option.bind_eq_bind, Option.bind_some, htype]
  change some (MountLine.mk (decodeMountinfoPath (escapeMountinfoPath m.mountpoint)) m.device.text
    (([','].intercalate m.options).splitOn ',') m.filesystemType) = _
  rw [decode_escapeMountinfoPath, splitOn_options]
  rfl

/-! ## Lines that are torn -/

/-- A line that is not clean has a line boundary. -/
theorem exists_boundary (h : ¬ m.Clean) : ∃ c ∈ m.line, isLineBoundary c = true := by
  by_contra hno
  have hfield : ∀ field ∈ m.fields, ∀ c ∈ field, isLineBoundary c = false := by
    intro field hfield c hc
    refine Bool.eq_false_iff.2 fun hboundary => hno ⟨c, ?_, hboundary⟩
    exact mem_intercalate hfield hc
  refine h ⟨fun c hc hboundary => ?_, fun field hmem => hfield field ?_⟩
  · by_contra hne
    have hpoint := hfield (escapeMountinfoPath m.mountpoint) (by simp [fields, front]) c
      (mem_escape_of_boundary hc hboundary hne)
    rw [hpoint] at hboundary
    cases hboundary
  · simp only [List.mem_cons, List.not_mem_nil, or_false] at hmem
    rcases hmem with rfl | rfl | rfl | rfl <;> simp [fields, front, back]

/-- A line that is torn before the separator: the first piece has no separator. -/
theorem torn_front {before after : List (List Char)} {field head tail : List Char} {c : Char}
    (hfront : m.front = before ++ field :: after) (hfield : field = head ++ c :: tail)
    (hboundary : isLineBoundary c = true) {piece : List Char}
    (hpiece : piece.splitOn ' ' = before ++ [head]) : parseMountLine piece = none := by
  have hmem : field ∈ m.front := by
    rw [hfront]
    exact List.mem_append_right _ List.mem_cons_self
  have hhead := head_front_field hmem (hfield ▸ List.mem_append_right _ List.mem_cons_self) hboundary
  have hnone : (before ++ [head]).idxOf? ['-'] = none := by
    rw [List.idxOf?_eq_none_iff]
    intro hdash
    rcases List.mem_append.1 hdash with hbefore | hlast
    · exact separator_notMem_front (hfront ▸ List.mem_append_left _ hbefore)
    · rw [hfield, ← List.mem_singleton.1 hlast] at hhead
      exact hhead rfl
  unfold parseMountLine
  dsimp only
  rw [hpiece, hnone]
  rfl

/-- A piece of at most three fields is malformed. -/
theorem torn_back {piece : List Char} (h : (piece.splitOn ' ').length ≤ 3) :
    parseMountLine piece = none := by
  have hnone : (piece.splitOn ' ')[4]? = none := List.getElem?_eq_none (by omega)
  unfold parseMountLine
  dsimp only
  rw [hnone]
  cases (piece.splitOn ' ').idxOf? ['-'] <;> rfl

/-- The line is not torn by a carriage return at its very end. -/
theorem superOptions_torn {middle after : List (List Char)} {field head tail : List Char}
    (hback : [] = [' '].intercalate (tail :: after)) (hmiddle : m.back = middle ++ field :: after)
    (hfield : field = head ++ '\r' :: tail) : False := by
  cases after with
  | cons next after =>
      rw [List.intercalate_cons_cons, List.append_assoc] at hback
      exact List.append_ne_nil_of_right_ne_nil _ (List.cons_ne_nil _ _) hback.symm
  | nil =>
      rw [List.intercalate_singleton] at hback
      have hlast : some m.superOptions = some field := by
        have hback' := congrArg List.getLast? hmiddle
        rwa [List.getLast?_append_cons] at hback'
      refine m.superOptions_end ?_
      rw [Option.some.inj hlast, hfield, ← hback, List.getLast?_append_cons]
      rfl

/-- **A torn line is malformed.** Wherever the line is torn, one of the pieces is. -/
theorem torn_line (h : ¬ m.Clean) (rest : List Char) :
    ∃ piece ∈ splitlines (m.line ++ '\n' :: rest), parseMountLine piece = none := by
  obtain ⟨front, c, back, hline, hc, hplain⟩ := exists_first_boundary (exists_boundary h)
  have hspace : c ≠ ' ' := by
    rintro rfl
    cases hc
  obtain ⟨before, field, after, head, tail, hfields, hfield, hsplit, hback⟩ :=
    broken_line space_notMem_fields hspace hline.symm
  have htext : m.line ++ '\n' :: rest = front ++ c :: (back ++ '\n' :: rest) := by
    rw [hline, List.append_assoc, List.cons_append]
  have hdash : field ≠ ['-'] := by
    rintro rfl
    have hmem : c ∈ ['-'] := hfield ▸ List.mem_append_right _ List.mem_cons_self
    rw [List.mem_singleton.1 hmem] at hc
    cases hc
  rw [htext]
  rcases List.append_eq_append_iff.1 hfields with ⟨middle, rfl, hmiddle⟩ | ⟨middle, hfront, hmiddle⟩
  · -- the line is torn behind the separator, so the next piece is short
    cases middle with
    | nil => exact absurd (List.cons.inj hmiddle).1.symm hdash
    | cons separator middle =>
        obtain ⟨-, hmiddle⟩ := List.cons.inj hmiddle
        have hshort : after.length ≤ 2 := by
          have hlength := congrArg List.length hmiddle
          change 3 = (middle ++ field :: after).length at hlength
          rw [List.length_append, List.length_cons] at hlength
          omega
        have hcrlf : c = '\r' → (back ++ '\n' :: rest).head? ≠ some '\n' := by
          intro hcr hnewline
          cases back with
          | nil => exact superOptions_torn hback hmiddle (hcr ▸ hfield)
          | cons d back =>
              obtain rfl : d = '\n' := Option.some.inj hnewline
              refine newline_notMem_line (m := m) ?_
              rw [hline]
              exact List.mem_append_right _ (List.mem_cons_of_mem _ List.mem_cons_self)
        obtain ⟨piece, more, lines, hpiece, hlines⟩ := exists_first_line back rest
        refine ⟨piece, ?_, torn_back ?_⟩
        · rw [splitlines_append_boundary hplain hc hcrlf, hlines]
          exact List.mem_cons_of_mem _ List.mem_cons_self
        · have hspaces : ∀ other ∈ tail :: after, ' ' ∉ other := by
            rw [List.forall_mem_cons]
            constructor
            · intro hmem
              refine space_notMem_fields field (hfields ▸ List.mem_append_right _ List.mem_cons_self) ?_
              exact hfield ▸ List.mem_append_right _ (List.mem_cons_of_mem _ hmem)
            · intro other hmem
              exact space_notMem_fields other
                (hfields ▸ List.mem_append_right _ (List.mem_cons_of_mem _ hmem))
          have hlength := length_splitOn_start hspaces (List.cons_ne_nil _ _) (hpiece.symm.trans hback)
          exact hlength.trans (Nat.succ_le_succ hshort)
  · cases middle with
    | nil => exact absurd (List.cons.inj hmiddle).1 hdash
    | cons other middle =>
        obtain ⟨rfl, -⟩ := List.cons.inj hmiddle
        obtain ⟨lines, hlines⟩ := @exists_splitlines_boundary c front (back ++ '\n' :: rest) hplain hc
        refine ⟨front, ?_, torn_front hfront hfield hc hsplit⟩
        rw [hlines]
        exact List.mem_cons_self

end Mount

/-! ## Reading the table -/

/-- What is kept of a mount at the root. -/
def MountLine.details (mount : MountLine) : List (List Char) × List Char :=
  (mount.mountOptions, mount.filesystemType)

/-- **What the loop accepts.** -/
theorem mountLoop_eq_ok_iff {root expectedDevice : List Char} {lines : List (List Char)}
    {found : List (List (List Char) × List Char)} {nested : Bool}
    {details : List (List Char) × List Char} :
    mountLoop root expectedDevice lines found nested = .ok details ↔
      ∃ mounts, List.Forall₂ (fun line mount => parseMountLine line = some mount) lines mounts ∧
        nested = false ∧
        (∀ mount ∈ mounts, mount.mountpoint = root → mount.device = expectedDevice) ∧
        (∀ mount ∈ mounts, ¬ root ++ ['/'] <+: mount.mountpoint) ∧
        found ++ (mounts.filter (·.mountpoint = root)).map MountLine.details = [details] := by
  induction lines generalizing found nested with
  | nil =>
      unfold mountLoop
      constructor
      · intro h
        cases nested with
        | true => cases h
        | false =>
            rw [if_neg Bool.false_ne_true] at h
            split at h
            · obtain rfl := Except.ok.inj h
              exact ⟨[], .nil, rfl, nofun, nofun, rfl⟩
            · cases h
      · rintro ⟨mounts, hmounts, rfl, -, -, hfound⟩
        cases hmounts
        rw [List.filter_nil, List.map_nil, List.append_nil] at hfound
        rw [hfound]
        rfl
  | cons line lines ih =>
      unfold mountLoop
      constructor
      · intro h
        cases hparse : parseMountLine line with
        | none =>
            rw [hparse] at h
            cases h
        | some mount =>
            rw [hparse] at h
            dsimp only at h
            split at h
            · cases h
            · rename_i hdevice
              obtain ⟨mounts, hmounts, hnested, hdevices, hbelow, hfound⟩ := ih.1 h
              obtain ⟨rfl, hnot⟩ := Bool.or_eq_false_iff.1 hnested
              refine ⟨mount :: mounts, .cons hparse hmounts, rfl,
                List.forall_mem_cons.2 ⟨fun hroot => ?_, hdevices⟩,
                List.forall_mem_cons.2 ⟨fun hstart => ?_, hbelow⟩, ?_⟩
              · by_contra hne
                exact hdevice ⟨hroot, hne⟩
              · have hbelow' := List.isPrefixOf_iff_prefix.2 hstart
                rw [hbelow'] at hnot
                cases hnot
              · rw [← hfound, List.filter_cons]
                by_cases hroot : mount.mountpoint = root
                · simp only [hroot, decide_true, if_true, List.map_cons, List.append_assoc]
                  rfl
                · simp only [hroot, decide_false, if_false, Bool.false_eq_true]
      · rintro ⟨mounts, hmounts, rfl, hdevices, hbelow, hfound⟩
        cases hmounts with
        | cons hparse hmounts =>
            rename_i mount mounts
            obtain ⟨hdevice, hdevices⟩ := List.forall_mem_cons.1 hdevices
            obtain ⟨hnot, hbelow⟩ := List.forall_mem_cons.1 hbelow
            have hstart : (root ++ ['/']).isPrefixOf mount.mountpoint = false :=
              Bool.eq_false_iff.2 fun h => hnot <| List.isPrefixOf_iff_prefix.1 h
            rw [hparse]
            dsimp only
            rw [if_neg fun h => h.2 (hdevice h.1), ih]
            refine ⟨mounts, hmounts, by rw [hstart]; rfl, hdevices, hbelow, ?_⟩
            rw [← hfound, List.filter_cons]
            by_cases hroot : mount.mountpoint = root
            · simp only [hroot, decide_true, if_true, List.map_cons, List.append_assoc]
              rfl
            · simp only [hroot, decide_false, if_false, Bool.false_eq_true]

variable {table : List Mount}

theorem tableText_cons (m : Mount) (table : List Mount) :
    tableText (m :: table) = m.line ++ '\n' :: tableText table := by
  rw [tableText, List.flatMap_cons, List.append_assoc]
  rfl

/-- A table of whole lines is read mount by mount. -/
theorem forall₂_splitlines_tableText (h : ∀ m ∈ table, m.Clean) :
    List.Forall₂ (fun line mount => parseMountLine line = some mount)
      (splitlines (tableText table)) (table.map Mount.read) := by
  induction table with
  | nil => exact .nil
  | cons m table ih =>
      obtain ⟨hclean, hrest⟩ := List.forall_mem_cons.1 h
      rw [tableText_cons, splitlines_append_newline hclean.line]
      exact .cons Mount.parseMountLine_line (ih hrest)

/-- A table with a torn line is not read. -/
theorem exists_malformed (h : ¬ ∀ m ∈ table, m.Clean) :
    ∃ piece ∈ splitlines (tableText table), parseMountLine piece = none := by
  induction table with
  | nil => exact absurd nofun h
  | cons m table ih =>
      rw [tableText_cons]
      by_cases hclean : m.Clean
      · obtain ⟨piece, hpiece, hnone⟩ := ih fun hrest => h (List.forall_mem_cons.2 ⟨hclean, hrest⟩)
        refine ⟨piece, ?_, hnone⟩
        rw [splitlines_append_newline hclean.line]
        exact List.mem_cons_of_mem _ hpiece
      · exact Mount.torn_line hclean _

/-- A list that is read as a whole has no malformed line. -/
theorem not_malformed {lines : List (List Char)} {mounts : List MountLine}
    (h : List.Forall₂ (fun line mount => parseMountLine line = some mount) lines mounts) :
    ∀ line ∈ lines, parseMountLine line ≠ none := by
  induction h with
  | nil => nofun
  | cons hline _ ih =>
      refine List.forall_mem_cons.2 ⟨?_, ih⟩
      rw [hline]
      nofun

/-- The lines are read as one list of mounts only. -/
theorem forall₂_unique {lines : List (List Char)} {mounts others : List MountLine}
    (h : List.Forall₂ (fun line mount => parseMountLine line = some mount) lines mounts)
    (h' : List.Forall₂ (fun line mount => parseMountLine line = some mount) lines others) :
    mounts = others := by
  induction h generalizing others with
  | nil =>
      cases h'
      rfl
  | cons hline _ ih =>
      cases h' with
      | cons hother hrest => rw [Option.some.inj (hline.symm.trans hother), ih hrest]

/-- The mounts at a mountpoint. -/
def mountsAt (table : List Mount) (root : List Char) : List Mount :=
  table.filter (·.mountpoint = root)

/-- **What the reader accepts.** A table is accepted exactly when no line is torn, one mount is at the
root, on its device, and none is below it; what is returned is of that mount. -/
theorem mountDetails_eq_ok_iff {root : List Char} {device : Device}
    {details : List (List Char) × List Char} :
    mountDetails (tableText table) root device = .ok details ↔
      (∀ m ∈ table, m.Clean) ∧ (∀ m ∈ table, ¬ root ++ ['/'] <+: m.mountpoint) ∧
        ∃ m, mountsAt table root = [m] ∧ m.device = device ∧
          (m.options, m.filesystemType) = details := by
  unfold mountDetails
  rw [mountLoop_eq_ok_iff]
  have hfilter : (table.map Mount.read).filter (·.mountpoint = root) =
      (mountsAt table root).map Mount.read := List.filter_map
  constructor
  · rintro ⟨mounts, hmounts, -, hdevices, hbelow, hfound⟩
    have hclean : ∀ m ∈ table, m.Clean := by
      by_contra hno
      obtain ⟨piece, hpiece, hnone⟩ := exists_malformed hno
      exact not_malformed hmounts piece hpiece hnone
    obtain rfl := forall₂_unique hmounts (forall₂_splitlines_tableText hclean)
    rw [hfilter, List.map_map] at hfound
    obtain ⟨m, hm, hdetails⟩ := List.map_eq_singleton_iff.1 hfound
    have hmem : m ∈ mountsAt table root := hm ▸ List.mem_singleton_self m
    obtain ⟨hmem, hroot⟩ := List.mem_filter.1 hmem
    refine ⟨hclean, fun other hother => hbelow other.read (List.mem_map_of_mem hother), m, hm, ?_,
      hdetails⟩
    exact Device.text_injective (hdevices m.read (List.mem_map_of_mem hmem) (of_decide_eq_true hroot))
  · rintro ⟨hclean, hbelow, m, hm, rfl, rfl⟩
    refine ⟨table.map Mount.read, forall₂_splitlines_tableText hclean, rfl, ?_, ?_, ?_⟩
    · intro mount hmount hroot
      obtain ⟨other, hother, rfl⟩ := List.mem_map.1 hmount
      have hmem : other ∈ mountsAt table root :=
        List.mem_filter.2 ⟨hother, decide_eq_true hroot⟩
      rw [hm] at hmem
      rw [List.mem_singleton.1 hmem]
      rfl
    · intro mount hmount
      obtain ⟨other, hother, rfl⟩ := List.mem_map.1 hmount
      exact hbelow other hother
    · rw [hfilter, hm]
      rfl

/-! ## The root that is accepted -/

/-- What the policy asks of the capacity. -/
structure WorkerSlotPolicy.Fits (policy : WorkerSlotPolicy) (capacity : SlotCapacity) : Prop where
  totalBytes : capacity.blocks * capacity.fragmentSize = policy.maximumTotalBytes
  availableBytes : policy.minimumAvailableBytes ≤ capacity.availableBlocks * capacity.fragmentSize
  totalInodes : capacity.inodes = policy.maximumTotalInodes
  availableInodes : policy.minimumAvailableInodes ≤ capacity.availableInodes

/-- The checks of the policy pass exactly when the filesystem is what the policy asks for. -/
theorem slotViolation_eq_none_iff {policy : WorkerSlotPolicy} {options : List (List Char)}
    {filesystemType : List Char} {capacity : SlotCapacity} :
    slotViolation policy {
        filesystemType
        mountOptions := options
        totalBytes := capacity.blocks * capacity.fragmentSize
        availableBytes := capacity.availableBlocks * capacity.fragmentSize
        totalInodes := capacity.inodes
        availableInodes := capacity.availableInodes } = none ↔
      filesystemType = policy.filesystemType ∧ requiredMountOptions ⊆ options ∧
        policy.Fits capacity := by
  unfold slotViolation
  dsimp only
  constructor
  · intro h
    split_ifs at h with htype hoptions hbytes havailable hinodes hfree
    exact ⟨not_not.1 htype, hoptions, not_not.1 hbytes, Nat.le_of_not_lt havailable,
      not_not.1 hinodes, Nat.le_of_not_lt hfree⟩
  · rintro ⟨htype, hoptions, hfits⟩
    rw [if_neg (not_not.2 htype), if_neg (not_not.2 hoptions), if_neg (not_not.2 hfits.totalBytes),
      if_neg (Nat.not_lt.2 hfits.availableBytes), if_neg (not_not.2 hfits.totalInodes),
      if_neg (Nat.not_lt.2 hfits.availableInodes)]

/-- **The root that is accepted.** Whatever the mount table says, the validation passes exactly when
the root is a directory, no line of the table is torn, one `ext4` mount with the required options is
at the root, on its device, nothing is mounted below it, and its capacity is what the policy asks
for. -/
theorem stagingRoot_accepted_iff (policy : WorkerSlotPolicy) (table : List Mount)
    (isDirectory : Option Bool) (device : Device) (capacity : Option SlotCapacity) :
    validateQuotaBoundStagingRoot policy ⟨isDirectory, device, .content (tableText table), capacity⟩ =
        .ok () ↔
      isDirectory = some true ∧ (∀ m ∈ table, m.Clean) ∧
        (∀ m ∈ table, ¬ policy.root ++ ['/'] <+: m.mountpoint) ∧
        (∃ m, mountsAt table policy.root = [m] ∧ m.device = device ∧
          m.filesystemType = policy.filesystemType ∧ requiredMountOptions ⊆ m.options) ∧
        ∃ found, capacity = some found ∧ policy.Fits found := by
  have hdetails := @mountDetails_eq_ok_iff table policy.root device
  unfold validateQuotaBoundStagingRoot
  constructor
  · intro h
    cases hdirectory : isDirectory with
    | none =>
        rw [hdirectory] at h
        cases h
    | some directory =>
        cases directory with
        | false =>
            rw [hdirectory] at h
            cases h
        | true =>
            unfold inspectSlot at h
            rw [hdirectory] at h
            dsimp only at h
            cases hmount : mountDetails (tableText table) policy.root device with
            | error error =>
                rw [hmount] at h
                cases h
            | ok details =>
                cases hcapacity : capacity with
                | none =>
                    rw [hmount, hcapacity] at h
                    cases h
                | some found =>
                    rw [hmount, hcapacity] at h
                    dsimp only at h
                    split at h
                    · cases h
                    · rename_i hnone
                      obtain ⟨htype, hoptions, hfits⟩ := slotViolation_eq_none_iff.1 hnone
                      obtain ⟨hclean, hbelow, m, hm, hdevice, rfl⟩ := hdetails.1 hmount
                      exact ⟨rfl, hclean, hbelow, ⟨m, hm, hdevice, htype, hoptions⟩, found, rfl, hfits⟩
  · rintro ⟨rfl, hclean, hbelow, ⟨m, hm, hdevice, htype, hoptions⟩, found, rfl, hfits⟩
    unfold inspectSlot
    dsimp only
    rw [hdetails.2 ⟨hclean, hbelow, m, hm, hdevice, rfl⟩]
    dsimp only
    rw [slotViolation_eq_none_iff.2 ⟨htype, hoptions, hfits⟩]

end NplgMcp.Pdf
