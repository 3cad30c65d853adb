import Mathlib.Data.List.Basic

/-!
# Streams of frames

A content is sent in chunks, each behind a header that tells its length, and the header of the length
zero ends the stream. Nothing that is shorter than such a stream is one (`Stream.prefix_unique`), so
who receives it knows that it is whole, and a sender that gives up between two frames has sent no
content at all (`not_stream_frames`).
-/

namespace Library.Framing

/-- Headers of one width, which tell the lengths below a bound. -/
structure Headers (σ : Type) where
  header : ℕ → List σ
  width : ℕ
  bound : ℕ
  width_pos : 0 < width
  length_header : ∀ size, (header size).length = width
  header_injective : ∀ size other, size < bound → other < bound → header size = header other →
    size = other

variable {σ : Type} {h : Headers σ}

/-- What is sent of whole chunks. -/
def frames (h : Headers σ) (chunks : List (List σ)) : List σ :=
  chunks.flatMap fun chunk => h.header chunk.length ++ chunk

/-- The content that a stream carries. -/
inductive Stream (h : Headers σ) : List σ → List σ → Prop
  | stop : Stream h (h.header 0) []
  | frame {chunk wire content : List σ} : chunk ≠ [] → chunk.length < h.bound →
      Stream h wire content → Stream h (h.header chunk.length ++ (chunk ++ wire)) (chunk ++ content)

/-- Two texts that begin with headers, one a prefix of the other, begin with the same one. -/
theorem header_eq_of_start {size other : ℕ} {rest tail : List σ}
    (hstart : h.header size ++ rest <+: h.header other ++ tail) :
    h.header size = h.header other ∧ rest <+: tail := by
  obtain ⟨more, hmore⟩ := hstart
  rw [List.append_assoc] at hmore
  obtain ⟨hheader, hrest⟩ := List.append_inj hmore
    ((h.length_header size).trans (h.length_header other).symm)
  exact ⟨hheader, more, hrest⟩

/-- **A stream ends where it ends.** A stream that another one begins with is that one. -/
theorem Stream.prefix_unique {wire content wire' content' : List σ} (hs : Stream h wire content)
    (hs' : Stream h wire' content') (hstart : wire <+: wire') :
    wire = wire' ∧ content = content' := by
  induction hs generalizing wire' content' with
  | stop =>
      cases hs' with
      | stop => exact ⟨rfl, rfl⟩
      | frame hne hlt hrest =>
          rw [← List.append_nil (h.header 0)] at hstart
          have hheader := (header_eq_of_start hstart).1
          have hlength := h.header_injective _ _ (Nat.zero_lt_of_lt hlt) hlt hheader
          exact absurd (List.length_eq_zero_iff.1 hlength.symm) hne
  | frame hne hlt hrest ih =>
      cases hs' with
      | stop =>
          rw [← List.append_nil (h.header 0)] at hstart
          have hheader := (header_eq_of_start hstart).1
          have hlength := h.header_injective _ _ hlt (Nat.zero_lt_of_lt hlt) hheader
          exact absurd (List.length_eq_zero_iff.1 hlength) hne
      | frame hne' hlt' hrest' =>
          obtain ⟨hheader, more, hmore⟩ := header_eq_of_start hstart
          have hlength := h.header_injective _ _ hlt hlt' hheader
          rw [List.append_assoc] at hmore
          obtain ⟨rfl, htail⟩ := List.append_inj hmore hlength
          obtain ⟨rfl, rfl⟩ := ih hrest' ⟨more, htail⟩
          exact ⟨rfl, rfl⟩

variable {chunks : List (List σ)}

/-- Chunks that are sent and stopped are a stream of their bytes. -/
theorem stream_frames (hchunks : ∀ chunk ∈ chunks, chunk ≠ [] ∧ chunk.length < h.bound) :
    Stream h (frames h chunks ++ h.header 0) chunks.flatten := by
  induction chunks with
  | nil => exact .stop
  | cons chunk chunks ih =>
      obtain ⟨⟨hne, hlt⟩, hrest⟩ := List.forall_mem_cons.1 hchunks
      have hframes : frames h (chunk :: chunks) ++ h.header 0 =
          h.header chunk.length ++ (chunk ++ (frames h chunks ++ h.header 0)) := by
        rw [frames, List.flatMap_cons, List.append_assoc, List.append_assoc]
        rfl
      rw [hframes, List.flatten_cons]
      exact .frame hne hlt (ih hrest)

/-- **A stream that is not stopped.** What has been sent of whole chunks holds no stream. -/
theorem not_stream_frames (hchunks : ∀ chunk ∈ chunks, chunk ≠ [] ∧ chunk.length < h.bound)
    {wire content : List σ} (hstart : wire <+: frames h chunks) : ¬ Stream h wire content := by
  intro hs
  have hwhole : wire <+: frames h chunks ++ h.header 0 :=
    hstart.trans (List.prefix_append _ _)
  obtain ⟨rfl, -⟩ := hs.prefix_unique (stream_frames hchunks) hwhole
  have hlength := hstart.length_le
  have hpos := h.width_pos
  rw [List.length_append, h.length_header] at hlength
  omega

end Library.Framing
