import NplgMcp.Markup.XmlTally

/-!
# The XML preflight agrees with the tree

The preflight of a document within the limits adds up the events that are handed over. They are the
events of the document with one difference: where a chunk ends behind an end tag, the text up to the
next tag is set on an element that has been read and cleared already, so that tail is not counted.
`TailsWhole` says that no tail is lost this way.
-/

namespace NplgMcp

/-! ## The reader -/

namespace XmlPreflight

variable {p : XmlPreflight} {tag text tail : String} {attrib : List (String × String)}
  {events : List XmlEvent} {expired : ℕ → Bool}

/-- The counters of the reader. -/
def recount (p : XmlPreflight) : XmlRecount where
  elements := p.elements
  textCodePoints := p.textCodePoints
  totalAttributes := p.totalAttributes
  metadataFields := p.metadataFields
  records := p.records
  maxFieldCodePoints := p.maxFieldCodePoints

/-- The reader after a start event, as long as nothing is over a limit. -/
def started (p : XmlPreflight) (tag : String) (attrib : List (String × String)) : XmlPreflight :=
  let field := isField (localName tag) p.elementNames.head?
  { p with
    elements := p.elements + 1
    depth := p.depth + 1
    textCodePoints := p.textCodePoints + attributeText attrib
    totalAttributes := p.totalAttributes + attrib.length
    metadataFields := p.metadataFields + if field then 1 else 0
    records := p.records + if localName tag == "record" then 1 else 0
    elementNames := localName tag :: p.elementNames
    fieldElements := field :: p.fieldElements }

/-- The reader after an end event, as long as nothing is over a limit. -/
def stopped (p : XmlPreflight) (text tail : String) : XmlPreflight :=
  { p with
    textCodePoints := p.textCodePoints + text.length + tail.length
    maxFieldCodePoints :=
      if p.fieldElements.head?.getD false then max p.maxFieldCodePoints text.length
      else p.maxFieldCodePoints
    elementNames := p.elementNames.tail
    fieldElements := p.fieldElements.tail
    depth := p.depth - 1 }

theorem recount_started :
    (p.started tag attrib).recount =
      p.recount + startRecount p.elementNames.head? tag attrib := by
  ext <;> simp [started, recount, startRecount]

theorem recount_stopped :
    (p.stopped text tail).recount =
      p.recount + stopRecount (p.fieldElements.head?.getD false) text tail := by
  ext <;> simp [stopped, recount, stopRecount, Nat.add_assoc]
  cases p.fieldElements.head?.getD false <;> simp

/-- A start event within the limits is counted. -/
theorem start_eq (hdepth : p.depth + 1 ≤ parserLimits.maxDepth)
    (hattributes : attrib.length ≤ parserLimits.maxAttributesPerNode)
    (hwithin : (p.started tag attrib).recount.Within) :
    p.start tag attrib = .ok (p.started tag attrib) := by
  obtain ⟨helements, htext, htotal, hfields, hrecords, -⟩ := hwithin
  simp only [recount, started] at helements htext htotal hfields hrecords
  have hroom : ¬ (attrib.length : ℤ) > parserLimits.maxTotalAttributes - p.totalAttributes := by
    omega
  simp only [start, saturatingIncrement_eq hdepth, saturatingIncrement_eq helements,
    saturatingIncrement_eq htotal, incrementIf_eq hfields,
    incrementIf_eq hrecords, addAttributes_eq htext, if_neg hroom, gt_iff_lt,
    if_neg (not_lt.2 hdepth), if_neg (not_lt.2 hattributes), if_neg (not_lt.2 helements), bind,
    if_neg fun h : _ ∧ _ => not_lt.2 hfields h.2, if_neg fun h : _ ∧ _ => not_lt.2 hrecords h.2,
    Except.bind, pure, Except.pure]
  rfl

/-- An end event within the limits is counted. -/
theorem stop_eq (hwithin : (p.stopped text tail).recount.Within) :
    p.stop text tail = .ok (p.stopped text tail) := by
  obtain ⟨-, htext, -, -, -, hfield⟩ := hwithin
  simp only [recount, stopped] at htext hfield
  have hown := @validateTextBudget_eq p.textCodePoints text none (by omega)
  cases hopen : p.fieldElements.head?.getD false with
  | false =>
      simp [stop, stopped, hopen, hown, validateTextBudget_eq htext, bind, Except.bind, pure,
        Except.pure]
  | true =>
      have hlength : text.length ≤ parserLimits.maxFieldCodePoints := by
        rw [hopen, if_pos rfl] at hfield
        exact (Nat.le_max_right _ _).trans hfield
      have hmin : min text.length (parserLimits.maxFieldCodePoints + 1) = text.length := by omega
      simp [stop, stopped, hopen, hown, hmin, not_lt.2 hlength, validateTextBudget_eq htext, bind,
        Except.bind, pure, Except.pure]

/-- A reader whose clock does not expire adds up the events it is handed. -/
theorem foldlM_handle (hclock : ∀ reading, expired reading = false)
    (hshallow : EventsShallow p.depth events)
    (hwithin : (p.recount + eventsRecount p.elementNames p.fieldElements events).Within) :
    ∃ p', events.foldlM (handle expired) p = .ok p' ∧
      p'.recount = p.recount + eventsRecount p.elementNames p.fieldElements events := by
  induction events generalizing p with
  | nil => exact ⟨p, rfl, XmlRecount.add_zero.symm⟩
  | cons event rest ih =>
      rw [List.foldlM_cons, handle, hclock, if_neg Bool.false_ne_true]
      cases event with
      | start tag attrib =>
          obtain ⟨hdepth, hattributes, hshallow⟩ := hshallow
          let q : XmlPreflight := { p with clockReads := p.clockReads + 1 }
          have hq : (q.started tag attrib).recount =
              p.recount + startRecount p.elementNames.head? tag attrib := recount_started
          rw [eventsRecount, ← XmlRecount.add_assoc, ← hq] at hwithin ⊢
          have hstart : q.start tag attrib = .ok (q.started tag attrib) :=
            start_eq hdepth hattributes hwithin.left
          show ∃ p', (q.start tag attrib >>= fun p => rest.foldlM (handle expired) p) = _ ∧ _
          rw [hstart]
          exact ih hshallow hwithin
      | stop text tail =>
          let q : XmlPreflight := { p with clockReads := p.clockReads + 1 }
          have hq : (q.stopped text tail).recount =
              p.recount + stopRecount (p.fieldElements.head?.getD false) text tail :=
            recount_stopped
          rw [eventsRecount, ← XmlRecount.add_assoc, ← hq] at hwithin ⊢
          have hstop : q.stop text tail = .ok (q.stopped text tail) := stop_eq hwithin.left
          show ∃ p', (q.stop text tail >>= fun p => rest.foldlM (handle expired) p) = _ ∧ _
          rw [hstop]
          exact ih hshallow hwithin

end XmlPreflight

/-! ## What the chunks hand over -/

/-- The events of one chunk after another. -/
def handedOver : PullParser → List (List XmlTag) → List XmlEvent
  | _, [] => []
  | parser, chunk :: rest =>
    let parser := chunk.foldl PullParser.feed parser
    parser.queue.reverse ++ handedOver { parser with queue := [] } rest

theorem XmlPreflight.readChunks_eq {expired : ℕ → Bool} {parser : PullParser} {p : XmlPreflight}
    {chunks : List (List XmlTag)} :
    XmlPreflight.readChunks expired parser p chunks =
      (handedOver parser chunks).foldlM (XmlPreflight.handle expired) p := by
  induction chunks generalizing parser p with
  | nil => rfl
  | cons chunk rest ih => simp only [XmlPreflight.readChunks, handedOver, List.foldlM_append, ih]

/-- The text behind a tag is that before the next one. -/
def textBefore : List XmlTag → String
  | [] => ""
  | tag :: _ => tag.before

/-- The open elements when the text behind the last tag is known. -/
def openedWith (closed : Bool) (opened : List String) (text : String) : List String :=
  if closed then opened else opened.set 0 text

/-- The open elements after some tags, and whether the last one was an end tag. -/
def openedAfter (closed : Bool) (opened : List String) : List XmlTag → Bool × List String
  | [] => (closed, opened)
  | ⟨before, .start _ _⟩ :: rest =>
    openedAfter false ("" :: openedWith closed opened before) rest
  | ⟨before, .stop⟩ :: rest => openedAfter true (openedWith closed opened before).tail rest

/-- The events of tags that are all in one chunk. -/
def chunkEvents (closed : Bool) (opened : List String) : List XmlTag → List XmlEvent
  | [] => []
  | ⟨before, .start tag attrib⟩ :: rest =>
    .start tag attrib :: chunkEvents false ("" :: openedWith closed opened before) rest
  | ⟨before, .stop⟩ :: rest =>
    .stop ((openedWith closed opened before).headD "") (textBefore rest) ::
      chunkEvents true (openedWith closed opened before).tail rest

/-- The tail of the element that has ended is set. -/
def setTail (closed : Bool) (queue : List XmlEvent) (text : String) : List XmlEvent :=
  match closed, queue with
  | true, .stop own _ :: rest => .stop own text :: rest
  | _, _ => queue

/-- The events that were waiting when some tags are complete. -/
def waiting (closed : Bool) (queue : List XmlEvent) : List XmlTag → List XmlEvent
  | [] => queue
  | tag :: _ => setTail closed queue tag.before

theorem PullParser.flush_eq {parser : PullParser} {text : String} :
    parser.flush text =
      { opened := openedWith parser.closed parser.opened text
        closed := parser.closed
        queue := setTail parser.closed parser.queue text } := by
  obtain ⟨opened, closed, queue⟩ := parser
  cases closed with
  | false => rfl
  | true =>
      match queue with
      | [] => rfl
      | .start _ _ :: _ => rfl
      | .stop _ _ :: _ => rfl

theorem waiting_stop {own : String} {queue : List XmlEvent} {tags : List XmlTag} :
    waiting true (.stop own "" :: queue) tags = .stop own (textBefore tags) :: queue := by
  cases tags <;> rfl

theorem waiting_start {tag : String} {attrib : List (String × String)} {queue : List XmlEvent}
    {tags : List XmlTag} :
    waiting false (.start tag attrib :: queue) tags = .start tag attrib :: queue := by
  cases tags <;> rfl

theorem foldl_feed {parser : PullParser} {tags : List XmlTag} :
    tags.foldl PullParser.feed parser =
      { opened := (openedAfter parser.closed parser.opened tags).2
        closed := (openedAfter parser.closed parser.opened tags).1
        queue := (chunkEvents parser.closed parser.opened tags).reverse ++
          waiting parser.closed parser.queue tags } := by
  induction tags generalizing parser with
  | nil => rfl
  | cons tag rest ih =>
      obtain ⟨before, kind⟩ := tag
      rw [List.foldl_cons, ih]
      cases kind with
      | start tag attrib =>
          simp only [PullParser.feed, PullParser.flush_eq, openedAfter, chunkEvents, waiting_start,
            List.reverse_cons, List.append_assoc, List.singleton_append]
          rfl
      | stop =>
          simp only [PullParser.feed, PullParser.flush_eq, openedAfter, chunkEvents, waiting_stop,
            List.reverse_cons, List.append_assoc, List.singleton_append]
          rfl

/-- From no waiting events, the chunks hand over the events of each. -/
theorem handedOver_cons {closed : Bool} {opened : List String} {chunk : List XmlTag}
    {rest : List (List XmlTag)} :
    handedOver ⟨opened, closed, []⟩ (chunk :: rest) =
      chunkEvents closed opened chunk ++
        handedOver ⟨(openedAfter closed opened chunk).2, (openedAfter closed opened chunk).1, []⟩
          rest := by
  have hnone : waiting closed [] chunk = [] := by
    cases chunk <;> cases closed <;> rfl
  simp only [handedOver, foldl_feed, hnone, List.append_nil, List.reverse_reverse]

/-! ## What is lost -/

/-- The events handed over are those of a document, with so many code points of tails missing. -/
inductive Loses : List XmlEvent → List XmlEvent → ℕ → Prop
  | nil : Loses [] [] 0
  | keep {event full got n} (rest : Loses full got n) : Loses (event :: full) (event :: got) n
  | drop {text tail full got n} (rest : Loses full got n) :
      Loses (.stop text tail :: full) (.stop text "" :: got) (tail.length + n)

theorem Loses.append {full got full' got' : List XmlEvent} {n m : ℕ} (h : Loses full got n)
    (h' : Loses full' got' m) : Loses (full ++ full') (got ++ got') (n + m) := by
  induction h with
  | nil => simpa using h'
  | keep _ ih => exact .keep ih
  | drop _ ih =>
      rw [Nat.add_assoc]
      exact .drop ih

theorem Loses.eventsShallow {full got : List XmlEvent} {n depth : ℕ} (h : Loses full got n)
    (hshallow : EventsShallow depth full) : EventsShallow depth got := by
  induction h generalizing depth with
  | nil => trivial
  | @keep event full got n rest ih =>
      cases event with
      | start tag attrib => exact ⟨hshallow.1, hshallow.2.1, ih hshallow.2.2⟩
      | stop text tail => exact ih hshallow
  | drop rest ih => exact ih hshallow

/-- What is lost is lost to the text count only. -/
theorem Loses.eventsRecount {full got : List XmlEvent} {n : ℕ} {names : List String}
    {fields : List Bool} (h : Loses full got n) :
    eventsRecount names fields full =
      eventsRecount names fields got + { textCodePoints := n } := by
  induction h generalizing names fields with
  | nil => rfl
  | @keep event full got n rest ih =>
      cases event <;> simp only [NplgMcp.eventsRecount, ih, XmlRecount.add_assoc]
  | @drop text tail full got n rest ih =>
      simp only [NplgMcp.eventsRecount, ih]
      ext <;> simp [stopRecount]
      omega

/-- The last tag is an end tag. -/
def endsStopped (tags : List XmlTag) : Bool :=
  match tags.getLast? with
  | some ⟨_, .stop⟩ => true
  | _ => false

/-- The code points of tails that are set too late. -/
def lateTails : List (List XmlTag) → ℕ
  | [] => 0
  | chunk :: rest =>
    (if endsStopped chunk then (textBefore rest.flatten).length else 0) + lateTails rest

/-- No chunk ends between the end tag of an element that has a tail and the end of the next tag. -/
def TailsWhole : List (List XmlTag) → Prop
  | [] => True
  | chunk :: rest => (endsStopped chunk → textBefore rest.flatten = "") ∧ TailsWhole rest

theorem lateTails_eq_zero {chunks : List (List XmlTag)} : lateTails chunks = 0 ↔ TailsWhole chunks := by
  induction chunks with
  | nil => simp [lateTails, TailsWhole]
  | cons chunk rest ih =>
      simp only [lateTails, TailsWhole, Nat.add_eq_zero_iff, ih]
      cases endsStopped chunk <;> simp

theorem Loses.refl {events : List XmlEvent} : Loses events events 0 := by
  induction events with
  | nil => exact .nil
  | cons event rest ih => exact .keep ih

theorem Loses.trans {full mid got : List XmlEvent} {n m : ℕ} (h : Loses full mid n)
    (h' : Loses mid got m) : Loses full got (n + m) := by
  induction h generalizing got m with
  | nil => simpa using h'
  | keep rest ih =>
      cases h' with
      | keep rest' => exact .keep (ih rest')
      | drop rest' =>
          rw [Nat.add_left_comm]
          exact .drop (ih rest')
  | drop rest ih =>
      cases h' with
      | keep rest' =>
          rw [Nat.add_assoc]
          exact .drop (ih rest')
      | drop rest' =>
          rw [Nat.add_assoc, String.length_empty, Nat.zero_add]
          exact .drop (ih rest')

theorem endsStopped_cons {tag next : XmlTag} {rest : List XmlTag} :
    endsStopped (tag :: next :: rest) = endsStopped (next :: rest) := by
  simp only [endsStopped, List.getLast?_cons_cons]

/-- Cutting tags in two loses the tail of the element that ended last. -/
theorem chunkEvents_append {closed : Bool} {opened : List String} {tags rest : List XmlTag} :
    Loses (chunkEvents closed opened (tags ++ rest))
      (chunkEvents closed opened tags ++
        chunkEvents (openedAfter closed opened tags).1 (openedAfter closed opened tags).2 rest)
      (if endsStopped tags then (textBefore rest).length else 0) := by
  induction tags generalizing closed opened with
  | nil => exact .refl
  | cons tag others ih =>
      obtain ⟨before, kind⟩ := tag
      cases others with
      | nil =>
          cases kind with
          | start tag attrib => exact .keep .refl
          | stop => exact .drop .refl
      | cons next others =>
          rw [endsStopped_cons]
          cases kind with
          | start tag attrib => exact .keep ih
          | stop => exact .keep ih

/-- The chunks hand over the events of the whole but for the late tails. -/
theorem loses_handedOver {closed : Bool} {opened : List String} {chunks : List (List XmlTag)} :
    Loses (chunkEvents closed opened chunks.flatten) (handedOver ⟨opened, closed, []⟩ chunks)
      (lateTails chunks) := by
  induction chunks generalizing closed opened with
  | nil => exact .nil
  | cons chunk rest ih =>
      rw [List.flatten_cons, handedOver_cons, lateTails]
      have hrest := (@Loses.refl (chunkEvents closed opened chunk)).append (@ih
        (openedAfter closed opened chunk).1 (openedAfter closed opened chunk).2)
      rw [Nat.zero_add] at hrest
      exact chunkEvents_append.trans hrest

/-- The chunks are the tags of the document, cut. -/
theorem flatten_feedChunks {tags : List (XmlTag × ℕ)} {fed : ℕ} {sizes : List ℕ} :
    (feedChunks tags fed sizes).flatten = tags.map Prod.fst := by
  induction sizes generalizing tags fed with
  | nil => simp [feedChunks]
  | cons size rest ih =>
      rw [feedChunks, List.flatten_cons, ih, ← List.map_append, List.takeWhile_append_dropWhile]

theorem XmlDocument.flatten_chunks {document : XmlDocument} {sizes : List ℕ} :
    (document.chunks sizes).flatten = document.root.tags "" := by
  rw [XmlDocument.chunks, flatten_feedChunks, List.map_fst_zip]
  exact document.ends_tags.ge

theorem XmlElement.textBefore_contentTags {children : List XmlElement} {before : String}
    {rest : List XmlTag} :
    textBefore (XmlElement.contentTags before children ++ rest) = before := by
  cases children with
  | nil => rfl
  | cons child others =>
      obtain ⟨tag, attrib, text, children, tail⟩ := child
      rfl

theorem openedWith_cons {closed : Bool} {own text : String} {opened : List String} :
    openedWith closed (own :: opened) text = (if closed then own else text) :: opened := by
  cases closed <;> rfl

mutual

/-- The tags of an element have its events. -/
theorem XmlElement.chunkEvents_tags {element : XmlElement} {before : String} {closed : Bool}
    {opened : List String} {rest : List XmlTag} (htail : textBefore rest = element.tail) :
    chunkEvents closed opened (element.tags before ++ rest) =
      element.events ++ chunkEvents true (openedWith closed opened before) rest := by
  match element with
  | .mk tag attrib text children tail =>
      rw [XmlElement.tags, List.cons_append, chunkEvents, XmlElement.chunkEvents_contentTags htail]
      simp only [XmlElement.events, List.cons_append, List.append_assoc, List.nil_append]
      rfl

theorem XmlElement.chunkEvents_contentTags {children : List XmlElement} {before own tail : String}
    {closed : Bool} {opened : List String} {rest : List XmlTag} (htail : textBefore rest = tail) :
    chunkEvents closed (own :: opened) (XmlElement.contentTags before children ++ rest) =
      XmlElement.eventsOf children ++
        .stop (if closed then own else before) tail :: chunkEvents true opened rest := by
  match children with
  | [] =>
      subst htail
      cases closed <;> rfl
  | child :: others =>
      rw [XmlElement.contentTags, List.append_assoc,
        XmlElement.chunkEvents_tags XmlElement.textBefore_contentTags, openedWith_cons,
        XmlElement.chunkEvents_contentTags htail, XmlElement.eventsOf, List.append_assoc]
      rfl

end

/-- The events that the document's chunks hand over, but for the late tails. -/
theorem XmlDocument.loses_handedOver {document : XmlDocument} {sizes : List ℕ} :
    Loses document.root.events (handedOver ⟨[], false, []⟩ (document.chunks sizes))
      (lateTails (document.chunks sizes)) := by
  have h := @NplgMcp.loses_handedOver false [] (document.chunks sizes)
  have hevents := @XmlElement.chunkEvents_tags document.root "" false [] [] document.root_tail.symm
  rw [XmlDocument.flatten_chunks, ← List.append_nil (document.root.tags ""), hevents] at h
  simpa [chunkEvents] using h

/-- The preflight of a document within the limits misses the late tails and nothing else. -/
theorem preflightXml_eq {document : XmlDocument} {sizes : List ℕ} {expired : ℕ → Bool}
    (h : document.WithinLimits) (hclock : ∀ reading, expired reading = false) :
    ∃ recount : XmlRecount, preflightXml document sizes expired = .ok recount.counts ∧
      document.root.recount none =
        recount + { textCodePoints := lateTails (document.chunks sizes) } := by
  have hloses := @XmlDocument.loses_handedOver document sizes
  have hall : eventsRecount [] [] document.root.events = document.root.recount none := by
    have hevents := @XmlElement.eventsRecount_events document.root [] [] []
    rw [List.append_nil] at hevents
    rw [hevents]
    exact XmlRecount.add_zero
  have hshallow : EventsShallow 0 document.root.events := by
    have hevents := @XmlElement.eventsShallow_events document.root 0 [] (by
      rw [Nat.zero_add]; exact h.depth) h.attributes trivial
    rwa [List.append_nil] at hevents
  have hcounts := h.counts
  rw [← hall, hloses.eventsRecount] at hcounts
  obtain ⟨p, hread, hp⟩ := @XmlPreflight.foldlM_handle {} _ expired hclock
    (hloses.eventsShallow hshallow) (by
      rw [XmlPreflight.recount, XmlRecount.zero_add]
      exact hcounts.left)
  refine ⟨p.recount, ?_, ?_⟩
  · unfold preflightXml
    rw [if_neg (not_lt.2 h.bytes), XmlPreflight.readChunks_eq, hread]
    rfl
  · rw [hp, ← hall, hloses.eventsRecount, XmlPreflight.recount, XmlRecount.zero_add]

/-- A count that misses some text agrees with the full one only if it misses none. -/
theorem XmlRecount.preflightAgrees_counts {recount : XmlRecount} {missing : ℕ} :
    preflightAgrees recount.counts (recount + { textCodePoints := missing }).counts true =
      decide (missing = 0) := by
  cases missing with
  | zero => simp [preflightAgrees, XmlRecount.counts]
  | succ missing => simp [preflightAgrees, XmlRecount.counts]

/-- A document within the limits is parsed unless a tail comes late. -/
theorem parseXml_eq {document : XmlDocument} {sizes : List ℕ} {expired : ℕ → Bool}
    (h : document.WithinLimits) (hclock : ∀ reading, expired reading = false) :
    parseXml document sizes expired =
      if lateTails (document.chunks sizes) = 0 then .ok document.root
      else .error (preflightDisagreement none) := by
  obtain ⟨recount, hpreflight, hrecount⟩ := @preflightXml_eq document sizes expired h hclock
  simp only [parseXml, hpreflight, validateXmlTree_eq h, hrecount, requirePreflightAgreement,
    XmlRecount.preflightAgrees_counts, decide_eq_true_eq, bind, Except.bind]
  by_cases hlate : lateTails (document.chunks sizes) = 0
  · rw [if_pos hlate, if_pos hlate]
    rfl
  · rw [if_neg hlate, if_neg hlate]

/-- `<r>`, a comment up to the end of the first chunk less the element `<a></a>`, a line break and
`</r>`: what `iterparse` reads as 16384 characters and then 5. -/
def paddedDocument : XmlDocument where
  root := .mk "r" [] "" [.mk "a" [] "" [] "\n"] ""
  ends := [3, 16380, 16384, 16389]
  bytes := 16389
  root_tail := rfl
  ends_increasing := by decide
  ends_tags := rfl

theorem paddedDocument_withinLimits : paddedDocument.WithinLimits := by
  refine ⟨by decide, by decide, by decide, ⟨?_, ?_, ?_, ?_, ?_, ?_⟩⟩ <;> decide

end NplgMcp
