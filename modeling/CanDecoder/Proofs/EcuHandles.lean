import CanDecoder.Proofs.EcuState

/-! Which identifiers the ECU decoder says it handles. It answers from the keys of its two
tables: it handles an identifier exactly when the schema defines a frame for it or the
degraded-mode table holds one. So a frame that decodes something is always handled. The
converse fails for a schema frame without channels: it is handled, and it hides any
degraded-mode frame of its identifier, yet no payload decodes to anything. A schema frame
with a channel decodes that channel from any payload long enough to hold its field. -/

namespace CanDecoder

/-- A frame with a channel reads it from a payload that holds all its offsets, and a frame
without channels reads nothing. -/
theorem Frame.decode_ne_nil_iff (f : Frame) :
    (∃ p : Payload, 2 ≤ p.length ∧ f.decode p ≠ []) ↔ f.channels ≠ [] := by
  constructor
  · rintro ⟨p, -, hp⟩ hnil
    exact hp (by simp [Frame.decode, hnil])
  · intro hne
    obtain ⟨c, cs, hcs⟩ := List.exists_cons_of_ne_nil hne
    -- a payload of zeros reaching past the channel's highest offset holds its field
    have hfits : ∀ i ∈ c.offsets, i < (List.replicate (c.maxOffset + 2) (0 : UInt8)).length := by
      rw [← Channel.maxOffset_lt_iff, List.length_replicate]
      omega
    refine ⟨List.replicate (c.maxOffset + 2) 0, by simp, ?_⟩
    rw [Frame.decode, hcs, List.filterMap_cons, Channel.read?_eq, if_pos hfits]
    exact List.cons_ne_nil _ _

namespace Ecu

variable {e : Ecu}

/-- The compiled decoder of an identifier is the compiled frame of the current schema. -/
theorem Coherent.lookup_decoders (h : e.Coherent) (id : FrameId) :
    e.decoders.lookup id = (e.frame? id).map CompiledFrame.ofFrame := by
  rw [h.decoders_eq, frame?]
  cases e.schema with
  | none => rfl
  | some s => exact lookup_decoderTable s id

/-- A coherent decoder handles exactly the identifiers of its schema frames and of its
degraded-mode frames. -/
theorem Coherent.handles_iff (h : e.Coherent) (id : FrameId) :
    e.handles id = true ↔ (∃ f, e.frame? id = some f) ∨ ∃ ff ∈ e.fallback, ff.id = id := by
  rw [handles, h.lookup_decoders, Bool.or_eq_true, Option.isSome_map, Option.isSome_iff_exists,
    List.any_eq_true]
  simp only [beq_iff_eq]

/-- A coherent decoder decodes something only for an identifier it handles. -/
theorem Coherent.handles_of_decode_ne_nil (h : e.Coherent) {id : FrameId} {p : Payload}
    (hp : e.decode id p ≠ []) : e.handles id = true := by
  rw [h.handles_iff]
  rw [decode_eq h] at hp
  by_cases hlen : p.length < 2
  · rw [if_pos hlen] at hp
    exact absurd rfl hp
  rw [if_neg hlen] at hp
  cases hf : e.frame? id with
  | some f => exact .inl ⟨f, rfl⟩
  | none =>
    rw [hf] at hp
    cases hff : e.fallback.find? (·.id == id) with
    | some ff =>
      have hid := List.find?_some hff
      exact .inr ⟨ff, List.mem_of_find?_eq_some hff, beq_iff_eq.mp hid⟩
    | none =>
      rw [hff] at hp
      exact absurd rfl hp

/-- For an identifier of the schema, a coherent decoder decodes something from some payload
exactly when the schema frame has a channel. -/
theorem Coherent.decodes_iff_channels (h : e.Coherent) {id : FrameId} {f : Frame}
    (hf : e.frame? id = some f) : (∃ p, e.decode id p ≠ []) ↔ f.channels ≠ [] := by
  rw [← f.decode_ne_nil_iff]
  have hdecode : ∀ p, e.decode id p = if p.length < 2 then [] else f.decode p := by
    intro p
    simp only [decode_eq h, hf, CompiledFrame.decode_ofFrame]
  constructor
  · rintro ⟨p, hp⟩
    rw [hdecode] at hp
    by_cases hlen : p.length < 2
    · exact absurd (if_pos hlen) hp
    · exact ⟨p, by omega, by rwa [if_neg hlen] at hp⟩
  · rintro ⟨p, hlen, hp⟩
    exact ⟨p, by rwa [hdecode, if_neg (by omega)]⟩

/-- After any run from a fresh decoder (a decoder made with a schema is a fresh one after
`install`), the decoder handles an identifier exactly when its schema or its degraded-mode
table has a frame for it. Every identifier that some payload decodes to something is
handled. For an identifier of the schema the converse holds exactly when the schema frame
has a channel: a schema frame without channels is handled, yet decodes nothing from any
payload. -/
theorem handles_reflects_tables (calls : List EcuCall) (id : FrameId) :
    let e := new.run calls
    (e.handles id = true ↔ (∃ f, e.frame? id = some f) ∨ ∃ ff ∈ e.fallback, ff.id = id) ∧
    ((∃ p, e.decode id p ≠ []) → e.handles id = true) ∧
    ∀ f, e.frame? id = some f → ((∃ p, e.decode id p ≠ []) ↔ f.channels ≠ []) := by
  intro e
  have hc : e.Coherent := run_coherent new_coherent calls
  refine ⟨hc.handles_iff id, fun ⟨_, hp⟩ => hc.handles_of_decode_ne_nil hp, ?_⟩
  intro f hf
  exact hc.decodes_iff_channels hf

/-- A schema whose one frame, `0x360`, has no name, rate or channels, as a document mapping
`0x360` to an empty entry loads: once it is installed, `0x360` is handled, yet no payload
decodes to anything, though the degraded-mode table has an engine frame `0x360`. -/
theorem channelless_frame_handled_without_readings :
    let e := new.run [.install ⟨[⟨0x360, "", 0, []⟩], List.pairwise_singleton _ _⟩]
    e.handles 0x360 = true ∧ ∀ p, e.decode 0x360 p = [] := by
  intro e
  have h :=
    handles_reflects_tables [.install ⟨[⟨0x360, "", 0, []⟩], List.pairwise_singleton _ _⟩] 0x360
  have hf : e.frame? 0x360 = some ⟨0x360, "", 0, []⟩ := rfl
  refine ⟨h.1.mpr (.inl ⟨_, hf⟩), fun p => ?_⟩
  by_contra hp
  exact (h.2.2 _ hf).mp ⟨p, hp⟩ rfl

end Ecu

end CanDecoder
