import CanDecoder.Channel
import CanDecoder.FrameId

/-!
# Frames and schemas

A frame definition names one CAN identifier, its update rate and its channels in wire
order. Decoding a payload with a frame gives one reading per channel whose field fits the
payload, in channel order. A schema is the table of frame definitions of a protocol
document, at most one per identifier, kept in ascending identifier order; adding a frame
whose identifier is present replaces the old definition.
-/

namespace CanDecoder

/-- The definition of one CAN frame. -/
structure Frame where
  id : FrameId
  name : String
  /-- Expected update rate in hertz (informational). -/
  rate : Nat
  channels : List Channel
  deriving Repr

/-- The readings of every channel of `f` whose field fits `p`, in channel order. -/
def Frame.decode (f : Frame) (p : Payload) : List Reading := f.channels.filterMap (·.read? p)

/-- A table of frame definitions, ascending by identifier, one per identifier. -/
structure Schema where
  frames : List Frame
  ascending : frames.Pairwise fun f g => f.id < g.id
  deriving Repr

namespace Schema

/-- The schema without frames. -/
def empty : Schema := ⟨[], List.Pairwise.nil⟩

/-- Put `f` into an ascending list of frames, replacing a frame with the same identifier. -/
def insertFrame (f : Frame) : List Frame → List Frame
  | [] => [f]
  | g :: gs =>
    if f.id < g.id then f :: g :: gs
    else if f.id = g.id then f :: gs
    else g :: insertFrame f gs

theorem mem_insertFrame {f g : Frame} {fs : List Frame} (h : g ∈ insertFrame f fs) :
    g = f ∨ g ∈ fs := by
  induction fs with
  | nil => simpa [insertFrame] using h
  | cons k ks ih =>
    unfold insertFrame at h
    split at h
    · simpa using h
    · split at h
      · rcases List.mem_cons.mp h with rfl | h
        · exact .inl rfl
        · exact .inr (List.mem_cons_of_mem _ h)
      · rcases List.mem_cons.mp h with rfl | h
        · exact .inr List.mem_cons_self
        · exact (ih h).imp_right (List.mem_cons_of_mem _)

/-- Putting a frame at its place keeps the frames ascending; a frame with the same
identifier is dropped. -/
theorem insertFrame_ascending (f : Frame) {fs : List Frame}
    (h : fs.Pairwise fun f g => f.id < g.id) :
    (insertFrame f fs).Pairwise fun f g => f.id < g.id := by
  induction fs with
  | nil => simp [insertFrame]
  | cons g gs ih =>
    obtain ⟨hg, hgs⟩ := List.pairwise_cons.mp h
    unfold insertFrame
    split
    case isTrue hlt =>
      refine List.Pairwise.cons (fun k hk => ?_) h
      rcases List.mem_cons.mp hk with rfl | hk
      · exact hlt
      · exact UInt32.lt_trans hlt (hg k hk)
    case isFalse hnlt =>
      split
      case isTrue heq => exact List.Pairwise.cons (fun k hk => heq ▸ hg k hk) hgs
      case isFalse hne =>
        -- the frame goes after `g`, whose identifier is then the smaller
        have hgf : g.id < f.id := by
          rw [UInt32.lt_iff_toNat_lt] at hnlt ⊢
          have : f.id.toNat ≠ g.id.toNat := fun h => hne (UInt32.toNat_inj.mp h)
          omega
        refine List.Pairwise.cons (fun k hk => ?_) (ih hgs)
        rcases mem_insertFrame hk with rfl | hk
        · exact hgf
        · exact hg k hk

/-- Add a frame, replacing any frame with the same identifier. -/
def insert (s : Schema) (f : Frame) : Schema :=
  ⟨insertFrame f s.frames, insertFrame_ascending f s.ascending⟩

/-- The schema of a list of frames; of two with one identifier the later wins. -/
def ofFrames (fs : List Frame) : Schema := fs.foldl insert empty

/-- The frame with identifier `id`. -/
def find? (s : Schema) (id : FrameId) : Option Frame := s.frames.find? (·.id == id)

/-- Whether the schema defines `id`. -/
def contains (s : Schema) (id : FrameId) : Bool := s.frames.any (·.id == id)

/-- The defined identifiers, ascending. -/
def ids (s : Schema) : List FrameId := s.frames.map (·.id)

/-- The number of frames. -/
def size (s : Schema) : Nat := s.frames.length

/-- The number of channels over all frames. -/
def channelCount (s : Schema) : Nat := s.frames.foldl (fun n f => n + f.channels.length) 0

end Schema

end CanDecoder
