import Mathlib.Tactic.Ring
import NplgMcp.Pdf.Transport

/-!
# Writing and reading one frame

The preflight visits the values of a dumped object one by one: it accepts a readable object that is
not too deep exactly if it has few enough values (`preflightJson_dumpJson`). The stream of one frame
is read to its body.
-/

namespace NplgMcp.Pdf

open Library.JsonText

section
variable {codec : Codec}

/-- A readable tree has no infinity at its root. -/
theorem isInfinite_of_readable {tree : JsonTree} (h : tree.Readable codec) :
    isInfinite tree = false := by
  cases tree with
  | float value =>
      cases value with
      | none => exact h.elim
      | some value => rfl
  | _ => rfl

/-- The loop visits values that are readable and not too deep exactly as long as their number
allows it. -/
theorem visitValues_iff {left : ℕ} {stack : List (JsonTree × ℕ)}
    (hread : ∀ entry ∈ stack, entry.1.Readable codec)
    (hdepth : ∀ entry ∈ stack, entry.2 + entry.1.height ≤ maxJsonDepth + 1) :
    visitValues left stack = .ok () ↔ (stack.map fun entry => entry.1.size).sum ≤ left := by
  induction left generalizing stack with
  | zero =>
      cases stack with
      | nil => simp [visitValues]
      | cons entry stack =>
          have hsize := JsonTree.size_eq entry.1
          simp only [visitValues, List.map_cons, List.sum_cons, reduceCtorEq, false_iff]
          omega
  | succ left ih =>
      cases stack with
      | nil => simp [visitValues]
      | cons entry stack =>
          obtain ⟨item, depth⟩ := entry
          have hitem : item.Readable codec := hread (item, depth) (by simp)
          have hheight : depth + item.height ≤ maxJsonDepth + 1 := hdepth (item, depth) (by simp)
          have hpos : 1 ≤ item.height := by cases item <;> simp [JsonTree.height]
          have hstack : visitValues (left + 1) ((item, depth) :: stack) =
              visitValues left
                ((item.children.map fun child => (child, depth + 1)).reverse ++ stack) := by
            rw [visitValues, if_neg (by omega), isInfinite_of_readable hitem]
            rfl
          have hmem : ∀ entry ∈
              (item.children.map fun child => (child, depth + 1)).reverse ++ stack,
              entry ∈ stack ∨ entry.1 ∈ item.children ∧ entry.2 = depth + 1 := by
            intro entry hentry
            rcases List.mem_append.1 hentry with hchild | hold
            · obtain ⟨child, hmem, rfl⟩ := List.mem_map.1 (List.mem_reverse.1 hchild)
              exact .inr ⟨hmem, rfl⟩
            · exact .inl hold
          have hsum : ((((item.children.map fun child => (child, depth + 1)).reverse ++
              stack).map fun entry => entry.1.size).sum) + 1 =
              (((item, depth) :: stack).map fun entry => entry.1.size).sum := by
            simp only [List.map_append, List.map_reverse, List.map_map, List.sum_append,
              List.sum_reverse, List.map_cons, List.sum_cons, Function.comp_def,
              JsonTree.size_eq item]
            ring
          rw [hstack, ih, ← hsum]
          · omega
          · intro entry hentry
            rcases hmem entry hentry with hold | ⟨hchild, -⟩
            · exact hread entry (by simp [hold])
            · exact hitem.children hchild
          · intro entry hentry
            rcases hmem entry hentry with hold | ⟨hchild, heq⟩
            · exact hdepth entry (by simp [hold])
            · have hlt := JsonTree.height_lt hchild
              omega

end

/-! ## One frame -/

section
variable {codecs : Codecs} {tree : JsonTree}

/-- A dumped tree has as many bytes as its text. -/
theorem length_dumpJson : (dumpJson codecs tree).length = width (tree.text codecs.json) := by
  simp only [dumpJson, encodeUtf8, String.toList_ofList, width]

/-- A dumped tree decodes to its text. -/
theorem fromUTF8_dumpJson :
    String.fromUTF8? (dumpJson codecs tree).toByteArray =
      some (String.ofList (tree.text codecs.json)) := by
  have hbytes : (dumpJson codecs tree).toByteArray =
      (String.ofList (tree.text codecs.json)).toByteArray := by
    rw [String.toByteArray_ofList, List.utf8Encode, dumpJson, encodeUtf8, String.toList_ofList]
  rw [hbytes, String.fromUTF8?, dif_pos (String.ofList (tree.text codecs.json)).isValidUTF8]
  rfl

/-- A dumped object starts with a brace. -/
theorem dumpJson_obj (codecs : Codecs) (members : List (String × JsonTree)) :
    ∃ tail, dumpJson codecs (.obj members) = 0x7B :: tail := by
  refine ⟨(membersText codecs.json members).flatMap String.utf8EncodeChar, ?_⟩
  simp only [dumpJson, encodeUtf8, String.toList_ofList, JsonTree.text, List.flatMap_cons]
  rfl

/-- A dumped object is not empty. -/
theorem dumpJson_ne_nil (codecs : Codecs) (members : List (String × JsonTree)) :
    dumpJson codecs (.obj members) ≠ [] := by
  obtain ⟨tail, htail⟩ := dumpJson_obj codecs members
  rw [htail]
  exact List.cons_ne_nil _ _

/-- The preflight of a dumped object counts its values. -/
theorem preflightJson_dumpJson (maximum : ℕ) {members : List (String × JsonTree)}
    (hread : (JsonTree.obj members).Readable codecs.json)
    (hheight : (JsonTree.obj members).height ≤ maxJsonDepth)
    (hlength : width ((JsonTree.obj members).text codecs.json) ≤ maximum) :
    preflightJson codecs (dumpJson codecs (.obj members)) maximum = .ok () ↔
      (JsonTree.obj members).size ≤ maxJsonValues := by
  have hne := dumpJson_ne_nil codecs members
  have hmark :
      ([0xEF, 0xBB, 0xBF] : Bytes).isPrefixOf (dumpJson codecs (.obj members)) = false := by
    obtain ⟨tail, htail⟩ := dumpJson_obj codecs members
    rw [htail]
    rfl
  have hvisit := @visitValues_iff codecs.json maxJsonValues [(JsonTree.obj members, 1)]
    (by simpa using hread) (by simp only [List.mem_singleton, forall_eq]; omega)
  unfold preflightJson
  rw [if_neg (by rw [length_dumpJson]; simp [hne, hlength]), hmark, if_neg (by simp),
    fromUTF8_dumpJson]
  simp only [String.toList_ofList, loads_text hread]
  simpa using hvisit

/-- A dumped object that is short enough is framed. -/
theorem encodeFrame_obj {members : List (String × JsonTree)} {maximum : ℕ}
    (hlength : width ((JsonTree.obj members).text codecs.json) ≤ maximum) :
    encodeFrame codecs (.obj members) maximum =
      .ok (lengthPrefix (dumpJson codecs (.obj members)).length ++
        dumpJson codecs (.obj members)) := by
  have hne := dumpJson_ne_nil codecs members
  unfold encodeFrame
  simp only [length_dumpJson, hne, false_or]
  rw [if_neg (by omega)]

/-- The header of a frame is its length. -/
theorem bigEndian_lengthPrefix {size : ℕ} (h : size < 2 ^ 32) :
    bigEndian (lengthPrefix size) = size := by
  simp only [bigEndian, lengthPrefix, List.foldl_cons, List.foldl_nil, Nat.toUInt8,
    UInt8.toNat_ofNat', Nat.reducePow] at h ⊢
  omega

/-- The stream of one frame is read to its body. -/
theorem readBody_frame (maximum : ℕ) {body : Bytes} (hne : body ≠ [])
    (hlength : body.length ≤ maximum) (hmaximum : maximum < 2 ^ 32) :
    readBody (lengthPrefix body.length ++ body) maximum = .ok body := by
  have hpos : 0 < body.length := List.length_pos_of_ne_nil hne
  have htake : (lengthPrefix body.length ++ body).take 4 = lengthPrefix body.length := rfl
  have hdrop : (lengthPrefix body.length ++ body).drop 4 = body := rfl
  have hsize := bigEndian_lengthPrefix (hlength.trans_lt hmaximum)
  have hfour : (lengthPrefix body.length ++ body).length = body.length + 4 := by
    simp [lengthPrefix]
  unfold readBody
  simp only [htake, hdrop, hsize, hfour]
  rw [if_neg (by omega), if_neg (by omega), if_neg (by omega), if_neg (by omega)]

end

end NplgMcp.Pdf
