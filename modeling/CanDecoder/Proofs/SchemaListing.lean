import CanDecoder.Proofs.EcuState
import CanDecoder.Listing

/-! Listing a schema against decoding with it. A schema is a table with one frame per
identifier, its frames ascending by identifier, and carries that as a proof: every schema,
built by adding frames or loaded from a document, is such a table. The listing walks the ascending identifiers and looks
each frame up by its identifier, which therefore finds every frame once and in order. The
channel rows show each channel's key and output unit as the schema holds them, while the
decoder reads the copies compiled when the schema was installed: on a payload holding all
of a frame's offsets the two agree channel by channel. -/

namespace CanDecoder

namespace Schema

variable {s : Schema}

/-- In a table with one frame per identifier, a frame is found by its identifier. -/
theorem find?_of_mem {f : Frame} (hf : f ∈ s.frames) : s.find? f.id = some f := by
  obtain ⟨fs, hs⟩ := s
  simp only [find?] at hf ⊢
  induction fs with
  | nil => exact absurd hf List.not_mem_nil
  | cons g gs ih =>
    obtain ⟨hg, hgs⟩ := List.pairwise_cons.mp hs
    rcases List.mem_cons.mp hf with rfl | hf
    · simp
    · have hne : g.id ≠ f.id := UInt32.ne_of_lt (hg f hf)
      rw [List.find?_cons, beq_false_of_ne hne]
      exact ih hgs hf

/-- Looking every identifier up gives back the frames, in order. -/
theorem ordered_eq : s.ordered = s.frames := by
  unfold ordered ids
  rw [List.filterMap_map]
  trans s.frames.filterMap some
  · exact List.filterMap_congr fun f hf => find?_of_mem hf
  · exact List.filterMap_some

theorem foldl_channelCount (k : Nat) (fs : List Frame) :
    fs.foldl (fun n f => n + f.channels.length) k = k + (fs.flatMap Frame.channelRows).length := by
  induction fs generalizing k with
  | nil => simp
  | cons f fs ih =>
    rw [List.foldl_cons, ih, List.flatMap_cons, List.length_append, Frame.channelRows,
      List.length_map]
    omega

end Schema

/-- A frame reads every channel of a payload that holds all its offsets. -/
theorem Frame.decode_of_fits (f : Frame) (p : Payload)
    (hfits : ∀ c ∈ f.channels, ∀ i ∈ c.offsets, i < p.length) :
    f.decode p = f.channels.map fun c =>
      ⟨c.key, c.conversion.apply (Float.ofInt (c.rawValue p)), c.outputUnit⟩ := by
  unfold Frame.decode
  rw [← List.filterMap_eq_map]
  exact List.filterMap_congr fun c hc => by rw [Channel.read?_eq, if_pos (hfits c hc)]; rfl

/-- A decoder made with a schema decodes a schema frame by that frame. -/
theorem Ecu.withSchema_decode {s : Schema} {f : Frame} (hf : f ∈ s.frames) (p : Payload)
    (hp : 2 ≤ p.length) : (Ecu.withSchema s).decode f.id p = f.decode p := by
  have hc : (Ecu.withSchema s).Coherent := Ecu.install_coherent Ecu.new_coherent s
  have hframe : (Ecu.withSchema s).frame? f.id = some f := Schema.find?_of_mem hf
  rw [Ecu.decode_eq hc, if_neg (by omega), hframe]
  exact CompiledFrame.decode_ofFrame f p

/-- The listing of a schema gives one row per frame, in the schema's ascending order, and
one row per channel, frames in that order and channels in wire order, as many as the schema
counts. For a payload of at least two bytes holding all of a frame's offsets, the channel
and unit columns of the frame's rows are, in order, the names and units of the readings a
decoder made with the schema gives, and each bytes cell joins the channel's offsets with
`-`. -/
theorem listing_follows_decoder (s : Schema) :
    s.frameRows = s.frames.map Frame.row ∧
    s.channelRows = s.frames.flatMap Frame.channelRows ∧
    s.frameRows.length = s.size ∧ s.channelRows.length = s.channelCount ∧
    ∀ f ∈ s.frames, ∀ p : Payload, 2 ≤ p.length →
      (∀ c ∈ f.channels, ∀ i ∈ c.offsets, i < p.length) →
      f.channelRows.map (fun r => (r.channel, r.unit)) =
          ((Ecu.withSchema s).decode f.id p).map (fun r => (r.name, r.unit)) ∧
        f.channelRows.map (·.bytes) = f.channels.map fun c => "-".intercalate (c.offsets.map toString) := by
  have hrows : s.frameRows = s.frames.map Frame.row := by
    rw [Schema.frameRows, Schema.ordered_eq]
  have hchannels : s.channelRows = s.frames.flatMap Frame.channelRows := by
    rw [Schema.channelRows, Schema.ordered_eq]
  refine ⟨hrows, hchannels, by simp [hrows, Schema.size], ?_, ?_⟩
  · rw [hchannels, Schema.channelCount, Schema.foldl_channelCount, Nat.zero_add]
  · intro f hf p hp hfits
    rw [Ecu.withSchema_decode hf p hp, Frame.decode_of_fits f p hfits]
    simp [Frame.channelRows, Channel.row]

end CanDecoder
