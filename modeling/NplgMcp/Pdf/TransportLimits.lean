import NplgMcp.Pdf.Frames
import NplgMcp.Pdf.MessageShapes

/-!
# Which messages the transport carries

The limits of the models against those of the frames. A frame may hold 32,768 JSON values, and a
page of an inspection has nineteen: the inspection of more than 1,724 pages is encoded by the worker
and refused by the parent, although the worker inspects up to 2,000 pages. Every other message
that the models and the settings admit is carried (`transport_carries_iff`).
-/

namespace NplgMcp.Pdf

open Library.JsonText

section
variable {codecs : Codecs}

/-- The frame of an object is that of its dump, if this is short enough. -/
theorem exists_body_iff {members : List (String × JsonTree)} {maximum : ℕ}
    {parsed : Bytes → Prop} :
    (∃ body, encodeFrame codecs (.obj members) maximum = .ok (lengthPrefix body.length ++ body) ∧
        parsed body) ↔
      width ((JsonTree.obj members).text codecs.json) ≤ maximum ∧
        parsed (dumpJson codecs (.obj members)) := by
  constructor
  · rintro ⟨body, hframe, hparsed⟩
    by_cases hlength : width ((JsonTree.obj members).text codecs.json) ≤ maximum
    · rw [encodeFrame_obj hlength] at hframe
      have hsame := List.append_inj (Except.ok.inj hframe) (by simp [lengthPrefix])
      exact ⟨hlength, hsame.2 ▸ hparsed⟩
    · have herror : encodeFrame codecs (.obj members) maximum = .error .length := by
        unfold encodeFrame
        rw [if_pos (.inr (by rw [length_dumpJson]; omega))]
      rw [herror] at hframe
      cases hframe
  · rintro ⟨hlength, hparsed⟩
    exact ⟨_, encodeFrame_obj hlength, hparsed⟩

/-- A result that the codecs are faithful to is carried if it is short enough and has few enough
values. -/
theorem PdfResult.carried_iff {result : PdfResult} {shape : Shape}
    (hfaithful : codecs.FaithfulTo (.result result)) (hfits : Fits codecs.json result.json shape)
    (hheight : shape.height ≤ maxJsonDepth) :
    (Message.result result).Carried codecs ↔
      width (result.json.text codecs.json) ≤ maxResultFrameBytes ∧
        result.json.size ≤ maxJsonValues := by
  obtain ⟨members, hjson⟩ : ∃ members, result.json = .obj members := by
    cases result <;> exact ⟨_, rfl⟩
  have hvalidate := hfaithful.result result rfl
  simp only [Message.json] at hvalidate
  simp only [Message.Carried, hjson] at hfits hvalidate ⊢
  rw [exists_body_iff, and_congr_right_iff]
  intro hlength
  have hpreflight := preflightJson_dumpJson maxResultFrameBytes
    hfits.readable (hfits.height_le.trans hheight) hlength
  constructor
  · rintro ⟨hparse, -⟩
    refine hpreflight.1 ?_
    cases hcheck : preflightJson codecs (dumpJson codecs (.obj members)) maxResultFrameBytes with
    | error error => simp [parseResultFrame, hcheck, bind, Except.bind] at hparse
    | ok value => rfl
  · intro hsize
    have hparse : parseResultFrame codecs (dumpJson codecs (.obj members)) = .ok result := by
      simp only [parseResultFrame, hpreflight.2 hsize, bind, Except.bind, hvalidate]
    refine ⟨hparse, ?_⟩
    have hbody := readBody_frame maxResultFrameBytes (dumpJson_ne_nil codecs members)
      (by rw [length_dumpJson]; exact hlength) (by decide)
    simp only [receiveResult, sendResult, hjson, encodeFrame_obj hlength, hbody, hparse]

/-- A command that the codecs are faithful to is carried if it is short enough and has few enough
values. -/
theorem PdfCommand.carried {command : PdfCommand} {shape : Shape}
    (hfaithful : codecs.FaithfulTo (.command command)) (hfits : Fits codecs.json command.json shape)
    (hheight : shape.height ≤ maxJsonDepth) (hsize : shape.size ≤ maxJsonValues)
    (hbytes : shape.bytes ≤ maxCommandFrameBytes) :
    (Message.command command).Carried codecs := by
  obtain ⟨members, hjson⟩ : ∃ members, command.json = .obj members := ⟨_, rfl⟩
  have hvalidate := hfaithful.command command rfl
  simp only [Message.json] at hvalidate
  simp only [Message.Carried, hjson] at hfits hvalidate ⊢
  rw [exists_body_iff]
  have hlength := hfits.width_le.trans hbytes
  have hpreflight := (preflightJson_dumpJson maxCommandFrameBytes
    hfits.readable (hfits.height_le.trans hheight) hlength).2 (hfits.size_eq.le.trans hsize)
  have hparse : parseCommandFrame codecs (dumpJson codecs (.obj members)) = .ok command := by
    simp only [parseCommandFrame, hpreflight, bind, Except.bind, hvalidate]
  have hbody := readBody_frame maxCommandFrameBytes (dumpJson_ne_nil codecs members)
    (by rw [length_dumpJson]; exact hlength) (by decide)
  refine ⟨hlength, hparse, ?_⟩
  simp only [receiveCommand, hbody, hparse]
  rfl

/-- The shape of an admitted result: of its values, only those of a long inspection are too many,
and it is short enough unless they are. -/
theorem PdfResult.fits {settings : PdfProcessorSettings} {result : PdfResult}
    (hadmitted : (Message.result result).AdmittedBy settings)
    (hfaithful : codecs.FaithfulTo (.result result)) : ∃ shape,
    Fits codecs.json result.json shape ∧ shape.height ≤ maxJsonDepth ∧
      ((shape.bytes ≤ maxResultFrameBytes ∧ shape.size ≤ maxJsonValues) ∧
          ¬ (Message.result result).IsLongInspection ∨
        maxJsonValues < shape.size ∧ (Message.result result).IsLongInspection) := by
  have hfloats : FaithfulFloats codecs (Message.result result).floats :=
    fun value hvalue => ⟨hfaithful.reads value hvalue, hfaithful.short value hvalue⟩
  have hnot : (∀ requestId value, result ≠ .success requestId (.inspect value)) →
      ¬ (Message.result result).IsLongInspection := by
    rintro hne ⟨requestId, value, heq, -⟩
    exact hne requestId value (Message.result.inj heq)
  have hfour : 1 ≤ 4 := by decide
  have hdepth : 4 + 2 ≤ maxJsonDepth := by decide
  cases result with
  | failure requestId operation code message hlength =>
      refine ⟨_, fits_failure hlength, by decide, .inl ⟨by decide, hnot ?_⟩⟩
      rintro requestId value ⟨⟩
  | success requestId payload =>
      cases payload with
      | inspect value =>
          refine ⟨_, fits_success (PdfInspectionOutput.fits hadmitted hfloats) hfour,
            hdepth, ?_⟩
          simp only [maxResultFrameBytes, maxJsonValues]
          by_cases hlong : 1724 < value.pages.length
          · exact .inr ⟨by omega, requestId, value, rfl, hlong⟩
          · refine .inl ⟨⟨by omega, by omega⟩, ?_⟩
            rintro ⟨_, _, ⟨⟩, hlong'⟩
            exact hlong hlong'
      | renderPages value =>
          have hlength := value.pages_length.2
          refine ⟨_, fits_success (RenderPagesOutput.fits hadmitted hfloats) hfour,
            hdepth, .inl ⟨?_, hnot ?_⟩⟩
          · simp only [maxResultFrameBytes, maxJsonValues]
            omega
          · rintro requestId value ⟨⟩
      | renderTiles value =>
          have hlength : value.tiles.length ≤ 100 := value.tiles_length.2
          refine ⟨_, fits_success (RenderTilesOutput.fits hadmitted) hfour,
            hdepth, .inl ⟨?_, hnot ?_⟩⟩
          · simp only [maxResultFrameBytes, maxJsonValues]
            omega
          · rintro requestId value ⟨⟩
      | manifest value =>
          have hlength := value.pages_length.2
          refine ⟨_, fits_success (RenderPagesOutput.fits hadmitted hfloats) hfour,
            hdepth, .inl ⟨?_, hnot ?_⟩⟩
          · simp only [maxResultFrameBytes, maxJsonValues]
            omega
          · rintro requestId value ⟨⟩

/-- The parent makes an operational failure of a result with too many values. -/
theorem receiveResult_of_long {result : PdfResult} {shape : Shape}
    (hfits : Fits codecs.json result.json shape) (hheight : shape.height ≤ maxJsonDepth)
    (hsize : maxJsonValues < shape.size) (hbytes : shape.bytes ≤ maxResultFrameBytes) :
    receiveResult codecs (sendResult codecs result) =
      .error (.operational "PDF worker transport failed") := by
  obtain ⟨members, hjson⟩ : ∃ members, result.json = .obj members := by
    cases result <;> exact ⟨_, rfl⟩
  rw [hjson] at hfits
  have hlength := hfits.width_le.trans hbytes
  have hpreflight := preflightJson_dumpJson maxResultFrameBytes
    hfits.readable (hfits.height_le.trans hheight) hlength
  have hbody := readBody_frame maxResultFrameBytes (dumpJson_ne_nil codecs members)
    (by rw [length_dumpJson]; exact hlength) (by decide)
  have hrefused : ∃ error, parseResultFrame codecs (dumpJson codecs (.obj members)) =
      .error error := by
    cases hcheck : preflightJson codecs (dumpJson codecs (.obj members)) maxResultFrameBytes with
    | error error => exact ⟨error, by simp [parseResultFrame, hcheck, bind, Except.bind]⟩
    | ok value =>
        have hle := hpreflight.1 hcheck
        rw [hfits.size_eq] at hle
        omega
  obtain ⟨error, herror⟩ := hrefused
  simp only [receiveResult, sendResult, hjson, encodeFrame_obj hlength, hbody, herror]

/-- The inspection of more than 1,724 pages is an operational failure of the parent. -/
theorem refused_of_long {requestId : ℕ} {value : PdfInspectionOutput}
    (hadmitted : value.AdmittedBy)
    (hfaithful : codecs.FaithfulTo (.result (.success requestId (.inspect value))))
    (hlong : 1724 < value.pages.length) :
    ¬ (Message.result (.success requestId (.inspect value))).Carried codecs ∧
      receiveResult codecs (sendResult codecs (.success requestId (.inspect value))) =
        .error (.operational "PDF worker transport failed") := by
  have hfour : 1 ≤ 4 := by decide
  have hdepth : 4 + 2 ≤ maxJsonDepth := by decide
  have hcount : value.pages.length ≤ 2000 := hadmitted.pages_length.le.trans hadmitted.pageCount_le
  have hfits := @fits_success codecs requestId (.inspect value) _
    (PdfInspectionOutput.fits hadmitted fun float hfloat =>
      ⟨hfaithful.reads float hfloat, hfaithful.short float hfloat⟩) hfour
  have hsize : maxJsonValues < value.pages.length * 19 + 5 + 5 := by
    simp only [maxJsonValues]
    omega
  have hbytes : value.pages.length * 1801 + 2100 + 500 ≤ maxResultFrameBytes := by
    simp only [maxResultFrameBytes]
    omega
  refine ⟨fun hcarried => ?_, receiveResult_of_long hfits hdepth hsize hbytes⟩
  have hle := ((PdfResult.carried_iff hfaithful hfits hdepth).1 hcarried).2
  rw [hfits.size_eq] at hle
  exact absurd hle (not_le.2 hsize)

end

/-! ## A long document -/

theorem isSha256_zeros :
    isSha256 "0000000000000000000000000000000000000000000000000000000000000000" = true := by
  decide

theorem unrotated : 0 ≤ 359 := by decide

theorem hasLength_vector : hasLength "vector" 64 := by decide

/-- A page of 612 points without anything on it. -/
def blankPage (pageNumber : ℕ) (h : isPageNumber pageNumber) : PageInspectionOutput where
  pageNumber := pageNumber
  widthPoints := 612
  heightPoints := 612
  rotation := 0
  classification := "vector"
  imageCount := 0
  hasText := false
  hasDrawings := false
  cropApplied := false
  dominantImageIndex := none
  dominantExtension := none
  dominantCoverage := none
  nativeWidth := none
  nativeHeight := none
  effectiveDpiX := none
  effectiveDpiY := none
  directJpegEligible := false
  nativeRasterExtractEligible := false
  pageNumber_mem := h
  widthPoints_pos := by decide
  heightPoints_pos := by decide
  rotation_le := unrotated
  classification_length := hasLength_vector
  imageCount_le := by decide
  dominantImageIndex_le := by simp
  dominantExtension_length := by simp
  dominantCoverage_mem := by simp
  nativeWidth_pos := by simp
  nativeHeight_pos := by simp
  effectiveDpiX_pos := by simp
  effectiveDpiY_pos := by simp

/-- The inspection of a document of blank pages. -/
def blankInspection (count : ℕ) (h : count ≤ 10000) : PdfInspectionOutput where
  sourceSha256 := "0000000000000000000000000000000000000000000000000000000000000000"
  pageCount := count
  rendererVersion := "pdfium"
  pages := (List.finRange count).map fun i : Fin count =>
    blankPage (i.val + 1) ⟨by omega, by have hlt := i.isLt; omega⟩
  sourceSha256_valid := isSha256_zeros
  pageCount_le := h
  rendererVersion_length := by decide
  pages_length := by simpa using h

/-- The codecs at the inspection of blank pages. -/
def blankCodecs (result : PdfResult) : Codecs where
  writeFloat := fun _ => ['6', '1', '2', '.', '0']
  readFloat := fun _ => some 612
  validateCommand := fun _ => none
  validateResult := fun _ => some result

/-- There is a blank page for each page counted. -/
theorem length_blankInspection {count : ℕ} (h : count ≤ 10000) :
    (blankInspection count h).pages.length = count := by
  simp [blankInspection]

/-- The inspection of blank pages is admitted. -/
theorem blankInspection_admitted {count : ℕ} (h : count ≤ 2000) :
    (blankInspection count (by omega)).AdmittedBy where
  pages_length := length_blankInspection _
  pageCount_le := h
  nativeWidth_lt := by simp [blankInspection, blankPage]
  nativeHeight_lt := by simp [blankInspection, blankPage]

/-- The codecs are faithful to the inspection of blank pages. -/
theorem blankCodecs_faithful {count : ℕ} (h : count ≤ 10000) :
    let result := PdfResult.success 0 (.inspect (blankInspection count h))
    (blankCodecs result).FaithfulTo (.result result) := by
  intro result
  have hfloats : ∀ value ∈ (Message.result result).floats, value = 612 := by
    intro value hvalue
    obtain ⟨page, hpage, hvalue⟩ := List.mem_flatMap.1 hvalue
    obtain ⟨i, -, rfl⟩ := List.mem_map.1 hpage
    simpa [PageInspectionOutput.floats, blankPage] using hvalue
  refine ⟨fun value hvalue => ?_, fun value _ => ?_, ?_, ?_⟩
  · rw [hfloats value hvalue]
    exact ⟨{ negative := false, integer := ['6', '1', '2'], fraction := ['0'] },
      ⟨by simp, by simp, by simp, by simp, by simp, by simp⟩, rfl, rfl, rfl⟩
  · show width ['6', '1', '2', '.', '0'] ≤ 24
    decide
  · rintro command ⟨⟩
  · rintro other ⟨⟩
    rfl

/-- The inspection of a document of 1,725 pages, which the worker's limit admits, is encoded by the
worker and an operational failure of the parent. -/
theorem long_inspection_refused :
    let value := blankInspection 1725 (by decide)
    let result := PdfResult.success 0 (.inspect value)
    value.AdmittedBy ∧ (blankCodecs result).FaithfulTo (.result result) ∧
      ¬ (Message.result result).Carried (blankCodecs result) ∧
      receiveResult (blankCodecs result) (sendResult (blankCodecs result) result) =
        .error (.operational "PDF worker transport failed") := by
  intro value result
  have hadmitted : value.AdmittedBy := blankInspection_admitted (by decide)
  have hfaithful : (blankCodecs result).FaithfulTo (.result result) :=
    blankCodecs_faithful (by decide)
  have hcount : value.pages.length = 1725 := length_blankInspection _
  exact ⟨hadmitted, hfaithful, refused_of_long hadmitted hfaithful (by omega)⟩

/-- A message that the models and the settings admit, and that the codecs are faithful to, is
carried unless it is the inspection of more than 1,724 pages. -/
theorem transport_carries_iff (codecs : Codecs) (settings : PdfProcessorSettings)
    (message : Message) (hadmitted : message.AdmittedBy settings)
    (hfaithful : codecs.FaithfulTo message) :
    message.Carried codecs ↔ ¬ message.IsLongInspection := by
  cases message with
  | command command =>
      obtain ⟨shape, hfits, hheight, hsize, hbytes⟩ := command.fits codecs
      refine iff_of_true (PdfCommand.carried hfaithful hfits hheight hsize hbytes) ?_
      rintro ⟨requestId, value, heq, -⟩
      cases heq
  | result result =>
      obtain ⟨shape, hfits, hheight, hcase⟩ := PdfResult.fits hadmitted hfaithful
      rw [PdfResult.carried_iff hfaithful hfits hheight, hfits.size_eq]
      rcases hcase with ⟨⟨hbytes, hsize⟩, hshort⟩ | ⟨hsize, hlong⟩
      · exact iff_of_true ⟨hfits.width_le.trans hbytes, hsize⟩ hshort
      · exact iff_of_false (fun h => absurd h.2 (by omega)) (not_not.2 hlong)

/-- The inspection of a document of one page is carried. -/
theorem transport_carries_onePage :
    let result := PdfResult.success 0 (.inspect (blankInspection 1 (by decide)))
    (Message.result result).Carried (blankCodecs result) :=
  let value := blankInspection 1 (by decide)
  let result := PdfResult.success 0 (.inspect value)
  have hadmitted : value.AdmittedBy := blankInspection_admitted (by decide)
  (transport_carries_iff (blankCodecs result) {} (.result result) hadmitted
    (blankCodecs_faithful (by decide))).2 (by
      rintro ⟨_, _, heq, hlong⟩
      obtain rfl : value = _ := PdfPayload.inspect.inj (PdfResult.success.inj
        (Message.result.inj heq)).2
      rw [length_blankInspection] at hlong
      omega)

end NplgMcp.Pdf
