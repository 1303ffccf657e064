import CanDecoder.Bus
import Mathlib.Data.List.Infix

/-! Decoding payloads of any length. A field reader that answers on a payload answers the
same on every extension of it. The checked decoders of a PD16 module are steady: from the
bytes a decoder needs on, it answers without panicking, and it answers an extended payload
with the same readings, in order, and maybe more. Hence no decoder on the bus panics,
whatever the payload, and decoding a truncated frame gives an ordered sub-list of the
readings of the whole frame. -/

namespace CanDecoder

open scoped List

namespace Payload

/-- A reader is stable when whatever it reads in a payload it reads, the same, in every
extension of that payload. -/
def Stable {α : Type} (r : Payload → Option α) : Prop :=
  ∀ ⦃q p : Payload⦄, q <+: p → ∀ a, r q = some a → r p = some a

theorem getElem?_of_prefix {q p : Payload} (h : q <+: p) {i : Nat} {b : UInt8}
    (hb : q[i]? = some b) : p[i]? = some b := by
  rw [List.prefix_iff_eq_take.mp h, List.getElem?_take] at hb
  split at hb
  · exact hb
  · cases hb

theorem Stable.map {α β : Type} {r : Payload → Option α} (hr : Stable r) (f : α → β) :
    Stable fun p => (r p).map f := by
  intro q p h b hb
  obtain ⟨a, ha, rfl⟩ := Option.map_eq_some_iff.mp hb
  exact congrArg (Option.map f) (hr h a ha)

theorem byte?_of_prefix {q p : Payload} (h : q <+: p) {i b : Nat} (hb : q.byte? i = some b) :
    p.byte? i = some b := by
  obtain ⟨x, hx, rfl⟩ := Option.map_eq_some_iff.mp hb
  rw [byte?, getElem?_of_prefix h hx, Option.map_some]

theorem byte?_stable (i : Nat) : Stable (·.byte? i) := fun _ _ h _ => byte?_of_prefix h

theorem signedByte?_stable (i : Nat) : Stable (·.signedByte? i) := (byte?_stable i).map signed8

theorem word?_of_prefix {q p : Payload} (h : q <+: p) {msb lsb w : Nat}
    (hw : q.word? msb lsb = some w) : p.word? msb lsb = some w := by
  simp only [word?, Option.pure_def, Option.bind_eq_bind, Option.bind_eq_some_iff,
    Option.some.injEq] at hw
  obtain ⟨hi, hhi, lo, hlo, rfl⟩ := hw
  simp [word?, byte?_of_prefix h hhi, byte?_of_prefix h hlo]

theorem word?_stable (msb lsb : Nat) : Stable (·.word? msb lsb) :=
  fun _ _ h _ => word?_of_prefix h

theorem wordAt?_of_prefix {q p : Payload} (h : q <+: p) {offset w : Nat}
    (hw : q.wordAt? offset = some w) : p.wordAt? offset = some w := by
  simp only [wordAt?, Option.bind_eq_bind, Option.bind_eq_some_iff] at hw ⊢
  obtain ⟨next, hnext, hword⟩ := hw
  exact ⟨next, hnext, word?_of_prefix h hword⟩

theorem wordAt?_stable (offset : Nat) : Stable (·.wordAt? offset) :=
  fun _ _ h _ => wordAt?_of_prefix h

theorem index_of_lt (p : Payload) {i : Nat} (h : i < p.length) :
    p.index i = .ok (p.getD i 0).toNat := by
  simp [index, List.getElem?_eq_getElem h, List.getD_eq_getElem?_getD]

/-- A direct read inside a prefix of a payload reads the same byte in the payload. -/
theorem index_of_prefix {q p : Payload} (h : q <+: p) {i : Nat} (hi : i < q.length) :
    ∃ b, q.index i = .ok b ∧ p.index i = .ok b := by
  have hx : q[i]? = some q[i] := List.getElem?_eq_getElem hi
  refine ⟨q[i].toNat, ?_, ?_⟩
  · simp [index, hx]
  · simp [index, getElem?_of_prefix h hx]

/-- The offset after the largest one a machine word holds is never taken, so no word
starts there. -/
theorem wordAt?_offsetMax (p : Payload) : p.wordAt? offsetMax = none := by
  simp [wordAt?, nextOffset?]

end Payload

/-- Readings that, as the payload is extended, keep their order and may gain entries. -/
def PrefixMonotone {β : Type} (f : Payload → List β) : Prop :=
  ∀ ⦃q p : Payload⦄, q <+: p → f q <+ f p

/-- Keeping the entries that one function reads keeps a sub-list of what a function that
reads at least as much keeps. -/
theorem filterMap_sublist_of_some {α β : Type} (l : List α) {f g : α → Option β}
    (h : ∀ x ∈ l, ∀ b, f x = some b → g x = some b) : l.filterMap f <+ l.filterMap g := by
  induction l with
  | nil => exact .slnil
  | cons x xs ih =>
    have tail := ih fun y hy => h y (List.mem_cons_of_mem x hy)
    cases hf : f x with
    | none =>
      rw [List.filterMap_cons_none hf]
      cases hg : g x with
      | none => rwa [List.filterMap_cons_none hg]
      | some b => rw [List.filterMap_cons_some hg]; exact tail.cons b
    | some b =>
      rw [List.filterMap_cons_some hf, List.filterMap_cons_some (h x List.mem_cons_self b hf)]
      exact tail.cons_cons b

theorem filterMap_prefixMonotone {α β : Type} (l : List α) {f : α → Payload → Option β}
    (hf : ∀ x ∈ l, Payload.Stable (f x)) : PrefixMonotone fun p => l.filterMap (f · p) :=
  fun _ _ h => filterMap_sublist_of_some l fun x hx => hf x hx h

/-! ### Schema channels and the degraded-mode table -/

theorem Field.read?_stable (f : Field) (signed : Bool) : Payload.Stable (f.read? signed) := by
  cases f with
  | byte i =>
    cases signed
    · exact (Payload.byte?_stable i).map Int.ofNat
    · exact Payload.signedByte?_stable i
  | word m l => exact (Payload.word?_stable m l).map _

theorem Channel.raw?_stable (c : Channel) : Payload.Stable c.raw? := by
  intro q p h v hv
  unfold Channel.raw? at hv ⊢
  split at hv
  · rw [if_pos (Nat.lt_of_lt_of_le ‹_› h.length_le)]
    exact (Field.read?_stable c.field c.signed).map Float.ofInt h v hv
  · cases hv

theorem CompiledFrame.decode_prefixMonotone (cf : CompiledFrame) : PrefixMonotone cf.decode :=
  filterMap_prefixMonotone cf.channels fun c _ => (Channel.raw?_stable c.channel).map _

theorem FixedChannel.read?_stable (c : FixedChannel) : Payload.Stable c.read? := by
  intro q p h r hr
  obtain ⟨raw, hraw, hin⟩ := Option.bind_eq_some_iff.mp hr
  have hfield : c.field.read? p = some raw := by
    cases hf : c.field with
    | word i =>
      rw [hf] at hraw
      exact (Payload.wordAt?_stable i).map _ h raw hraw
    | signedByte i =>
      rw [hf] at hraw
      exact (Payload.signedByte?_stable i).map _ h raw hraw
  rw [FixedChannel.read?, hfield, Option.bind_some]
  exact hin

theorem FixedFrame.decode_prefixMonotone (f : FixedFrame) : PrefixMonotone f.decode :=
  filterMap_prefixMonotone f.channels fun c _ => FixedChannel.read?_stable c

theorem Ecu.decode_prefixMonotone (e : Ecu) (id : FrameId) : PrefixMonotone (e.decode id) := by
  intro q p h
  by_cases hq : q.length < 2
  · simp [Ecu.decode, hq]
  · have hp : ¬ p.length < 2 := by have := h.length_le; omega
    simp only [Ecu.decode, hq, hp, if_false]
    cases e.decoders.lookup id with
    | some cf => exact cf.decode_prefixMonotone h
    | none =>
      cases e.fallback.find? (·.id == id) with
      | some f => exact f.decode_prefixMonotone h
      | none => exact .slnil

/-! ### The checked decoders of a PD16 module -/

/-- A checked decoder is steady from `n` bytes when it answers every payload of at least
`n` bytes without panicking, and an extension of such a payload with the same readings in
the same order, and maybe more. -/
def Steady (n : Nat) (f : Payload → Except Panic (List Reading)) : Prop :=
  ∀ ⦃q p : Payload⦄, q <+: p → n ≤ q.length →
    ∃ rq rp, f q = .ok rq ∧ f p = .ok rp ∧ rq <+ rp

namespace Steady

variable {n : Nat} {f : Payload → Except Panic (List Reading)}

theorem answers (hf : Steady n f) {p : Payload} (hp : n ≤ p.length) : ∃ r, f p = .ok r :=
  let ⟨r, _, hr, _, _⟩ := hf List.prefix_rfl hp
  ⟨r, hr⟩

/-- A decoder steady from `n` bytes that answers nothing below `n` bytes is steady from
the empty payload on. -/
theorem of_short (hf : Steady n f) (short : ∀ p : Payload, p.length < n → f p = .ok []) :
    Steady 0 f := by
  intro q p h _
  by_cases hq : n ≤ q.length
  · exact hf h hq
  · by_cases hp : n ≤ p.length
    · obtain ⟨rp, hrp⟩ := hf.answers hp
      exact ⟨[], rp, short q (by omega), hrp, List.nil_sublist rp⟩
    · exact ⟨[], [], short q (by omega), short p (by omega), .slnil⟩

end Steady

namespace Module

theorem checkedHandles_eq (m : Module) (id : FrameId) :
    m.checkedHandles id = .ok (decide (m.baseId ≤ id.toNat ∧ id.toNat < m.baseId + 8)) := by
  unfold checkedHandles
  by_cases h : m.baseId ≤ id.toNat
  · have hlt : (id.toNat - m.baseId < 8) = (id.toNat < m.baseId + 8) := by
      apply propext; omega
    simp [h, wordSub, hlt]
  · simp [h, pure, Except.pure]

/-- A module takes exactly the eight identifiers of its block. -/
theorem handles_eq (m : Module) (id : FrameId) :
    m.handles id = decide (m.baseId ≤ id.toNat ∧ id.toNat < m.baseId + 8) := by
  simp only [handles, checkedHandles_eq]

theorem optional_sublist (stem field unit : String) {x y : Option Float}
    (h : ∀ v, x = some v → y = some v) :
    optional stem field x unit <+ optional stem field y unit := by
  cases x with
  | none => exact List.nil_sublist _
  | some v => rw [h v rfl]

theorem voltage_eq (stem : String) (p : Payload) :
    voltage stem p = optional stem "voltage" ((p.wordAt? 2).map fun w => Float.ofNat w / 1000.0) "V" := by
  unfold voltage optional
  cases p.wordAt? 2 <;> rfl

theorem voltage_prefixMonotone (stem : String) : PrefixMonotone (voltage stem) := by
  intro q p h
  rw [voltage_eq, voltage_eq]
  exact optional_sublist _ _ _ ((Payload.wordAt?_stable 2).map _ h)

end Module

namespace PinHandler

open CanDecoder.Module

theorem speedInput_steady (stem : String) : Steady 2 (speedInput stem) := by
  intro q p h hq
  obtain ⟨b1, hq1, hp1⟩ := Payload.index_of_prefix h (i := 1) (by omega)
  simp only [speedInput, pinState, hq1, hp1, bind, Except.bind, pure, Except.pure]
  refine ⟨_, _, rfl, rfl, ?_⟩
  refine ((List.Sublist.refl _ |>.append (voltage_prefixMonotone stem h)).append ?_).append ?_
  · exact optional_sublist _ _ _ ((Payload.wordAt?_stable 4).map _ h)
  · exact optional_sublist _ _ _ ((Payload.wordAt?_stable 6).map _ h)

theorem analogInput_steady (stem : String) : Steady 2 (analogInput stem) := by
  intro q p h hq
  obtain ⟨b1, hq1, hp1⟩ := Payload.index_of_prefix h (i := 1) (by omega)
  simp only [analogInput, pinState, hq1, hp1, bind, Except.bind, pure, Except.pure]
  exact ⟨_, _, rfl, rfl, (List.Sublist.refl _).append (voltage_prefixMonotone stem h)⟩

theorem output25A_steady (stem : String) : Steady 2 (output25A stem) := by
  intro q p h hq
  obtain ⟨b1, hq1, hp1⟩ := Payload.index_of_prefix h (i := 1) (by omega)
  simp only [output25A, hq1, hp1, bind, Except.bind, pure, Except.pure]
  refine ⟨_, _, rfl, rfl, ?_⟩
  refine (((voltage_prefixMonotone stem h).cons_cons _ |>.append ?_).append ?_).append ?_
  · exact optional_sublist _ _ _ ((Payload.wordAt?_stable 4).map _ h)
  · exact optional_sublist _ _ _ ((Payload.byte?_stable 6).map _ h)
  -- the nibbles of byte 7 are both present or both absent
  · cases hb : q.byte? 7 with
    | none => exact List.nil_sublist _
    | some b7 => rw [Payload.byte?_of_prefix h hb]

theorem output8A_steady (stem : String) : Steady 2 (output8A stem) := by
  intro q p h hq
  obtain ⟨b1, hq1, hp1⟩ := Payload.index_of_prefix h (i := 1) (by omega)
  simp only [output8A, hq1, hp1, bind, Except.bind, pure, Except.pure]
  refine ⟨_, _, rfl, rfl, ?_⟩
  refine (((List.Sublist.refl _).append (voltage_prefixMonotone stem h)).append ?_).append ?_
  · exact optional_sublist _ _ _ ((Payload.wordAt?_stable 4).map _ h)
  · exact optional_sublist _ _ _ ((Payload.byte?_stable 6).map _ h)

theorem inputs_steady : ∀ e ∈ inputs, ∀ stem, Steady 2 (e.2 stem) := by
  simp only [inputs, List.mem_cons, List.not_mem_nil, or_false, forall_eq_or_imp, forall_eq]
  exact ⟨speedInput_steady, analogInput_steady⟩

theorem outputs_steady : ∀ e ∈ outputs, ∀ stem, Steady 2 (e.2 stem) := by
  simp only [outputs, List.mem_cons, List.not_mem_nil, or_false, forall_eq_or_imp, forall_eq]
  exact ⟨output25A_steady, output8A_steady⟩

end PinHandler

namespace Module

theorem muxed_of_short (m : Module) (handlers : List (PinKind × PinHandler)) {p : Payload}
    (hp : p.length < 2) : m.muxed handlers p = .ok [] := by
  simp [muxed, hp, pure, Except.pure]

/-- Past the length check, both payloads read the same mux byte, so they pick the same
handler, whose steadiness carries over. -/
theorem muxed_steady (m : Module) {handlers : List (PinKind × PinHandler)}
    (hh : ∀ e ∈ handlers, ∀ stem, Steady 2 (e.2 stem)) : Steady 0 (m.muxed handlers) := by
  refine Steady.of_short ?_ fun _ hp => m.muxed_of_short handlers hp
  intro q p h hq
  have hp : ¬ p.length < 2 := by have := h.length_le; omega
  obtain ⟨mux, hq0, hp0⟩ := Payload.index_of_prefix h (i := 0) (by omega)
  simp only [muxed, show ¬ q.length < 2 by omega, hp, if_false, hq0, hp0, bind, Except.bind]
  cases muxKind? mux with
  | none => exact ⟨[], [], rfl, rfl, .slnil⟩
  | some kind =>
    dsimp only
    cases hfind : handlers.find? (·.1 == kind) with
    | none => exact ⟨[], [], rfl, rfl, .slnil⟩
    | some e => exact hh e (List.mem_of_find?_eq_some hfind) _ h hq

theorem statusNibble_prefixMonotone (m : Module) : PrefixMonotone m.statusNibble := by
  intro q p h
  unfold statusNibble
  cases hb : q.byte? 0 with
  | none => exact List.nil_sublist _
  | some b0 => rw [Payload.byte?_of_prefix h hb]

theorem status_of_short (m : Module) {p : Payload} (hp : p.length < 4) :
    m.status p = .ok (m.statusNibble p) := by
  simp [status, show ¬ 4 ≤ p.length by omega, pure, Except.pure]

theorem status_of_long (m : Module) {p : Payload} (hp : 4 ≤ p.length) :
    m.status p = .ok (m.statusNibble p ++ [⟨m.namePrefix ++ "_firmwareVersion",
      Float.ofNat ((p.getD 1 0).toNat &&& 3) + Float.ofNat (p.getD 2 0).toNat / 100.0 +
        Float.ofNat (p.getD 3 0).toNat / 10000.0, ""⟩]) := by
  simp only [status, if_pos hp, Payload.index_of_lt p (show 1 < p.length by omega),
    Payload.index_of_lt p (show 2 < p.length by omega),
    Payload.index_of_lt p (show 3 < p.length by omega)]
  rfl

/-- The firmware bytes lie inside a payload of four bytes, so a prefix that has them reads
the same version; one that lacks them only misses the firmware reading. -/
theorem status_steady (m : Module) : Steady 0 m.status := by
  intro q p h _
  have hgetD : ∀ i < q.length, q.getD i 0 = p.getD i 0 := fun i hi => by
    simp [List.getD_eq_getElem?_getD, List.getElem?_eq_getElem hi,
      Payload.getElem?_of_prefix h (List.getElem?_eq_getElem hi)]
  by_cases hq : 4 ≤ q.length
  · have hp : 4 ≤ p.length := le_trans hq h.length_le
    rw [m.status_of_long hq, m.status_of_long hp, hgetD 1 (by omega), hgetD 2 (by omega),
      hgetD 3 (by omega)]
    exact ⟨_, _, rfl, rfl, (m.statusNibble_prefixMonotone h).append (List.Sublist.refl _)⟩
  · rw [m.status_of_short (by omega)]
    by_cases hp : 4 ≤ p.length
    · rw [m.status_of_long hp]
      exact ⟨_, _, rfl, rfl,
        (m.statusNibble_prefixMonotone h).trans (List.sublist_append_left _ _)⟩
    · rw [m.status_of_short (by omega)]
      exact ⟨_, _, rfl, rfl, m.statusNibble_prefixMonotone h⟩

theorem offsetHandlers_steady (m : Module) : ∀ e ∈ offsetHandlers, Steady 0 (e.2 m) := by
  simp only [offsetHandlers, List.mem_cons, List.not_mem_nil, or_false, forall_eq_or_imp,
    forall_eq]
  exact ⟨m.muxed_steady PinHandler.inputs_steady, m.muxed_steady PinHandler.outputs_steady,
    m.status_steady⟩

/-- A payload with a byte decodes by the decoder of the identifier's offset in the block,
for an identifier inside the block; the offset is taken only there. -/
theorem checkedDecode_of_ne_nil (m : Module) (id : FrameId) {p : Payload} (hp : p ≠ []) :
    m.checkedDecode id p =
      if m.baseId ≤ id.toNat ∧ id.toNat < m.baseId + 8 then
        ((offsetHandlers.find? (·.1 == id.toNat - m.baseId)).map fun e => e.2 m p).getD (pure [])
      else pure [] := by
  unfold checkedDecode
  rw [if_neg (by simpa using hp), checkedHandles_eq]
  by_cases hin : m.baseId ≤ id.toNat ∧ id.toNat < m.baseId + 8
  · simp [hin, wordSub, bind, Except.bind]
  · simp [hin, bind, Except.bind]

theorem checkedDecode_steady (m : Module) (id : FrameId) : Steady 0 (m.checkedDecode id) := by
  refine Steady.of_short (n := 1) ?_ fun p hp => ?_
  · intro q p h hq
    have hp : p ≠ [] := List.ne_nil_of_length_pos (by have := h.length_le; omega)
    rw [m.checkedDecode_of_ne_nil id (List.ne_nil_of_length_pos (by omega)),
      m.checkedDecode_of_ne_nil id hp]
    split
    · cases hfind : offsetHandlers.find? (·.1 == id.toNat - m.baseId) with
      | none => exact ⟨[], [], rfl, rfl, .slnil⟩
      | some e =>
        exact m.offsetHandlers_steady e (List.mem_of_find?_eq_some hfind) h (Nat.zero_le _)
    · exact ⟨[], [], rfl, rfl, .slnil⟩
  · have : p = [] := List.eq_nil_of_length_eq_zero (by omega)
    simp [checkedDecode, this, pure, Except.pure]

/-- The module decoder gives the readings of the checked decoder. -/
theorem checkedDecode_eq (m : Module) (id : FrameId) (p : Payload) :
    m.checkedDecode id p = .ok (m.decode id p) := by
  obtain ⟨r, hr⟩ := (m.checkedDecode_steady id).answers (Nat.zero_le p.length)
  rw [decode, hr]

theorem decode_prefixMonotone (m : Module) (id : FrameId) : PrefixMonotone (m.decode id) := by
  intro q p h
  obtain ⟨rq, rp, hq, hp, hsub⟩ := m.checkedDecode_steady id h (Nat.zero_le _)
  rwa [decode, decode, hq, hp]

end Module

theorem Bus.decode_prefixMonotone (b : Bus) (id : FrameId) : PrefixMonotone (b.decode id) := by
  intro q p h
  unfold Bus.decode
  cases b.route id with
  | module m => exact m.decode_prefixMonotone id h
  | ecu => exact b.ecu.decode_prefixMonotone id h

/-- Decoding a truncated frame on the bus, whatever its ECU schema, degraded-mode table and
registered modules, gives an ordered sub-list of the readings of the whole frame: each
reading it gives, with the same name, value and unit, comes in the same order among the
readings of the whole frame. -/
theorem Bus.decode_sublist_of_prefix (b : Bus) (id : FrameId) {q p : Payload} (h : q <+: p) :
    b.decode id q <+ b.decode id p :=
  b.decode_prefixMonotone id h

/-- The engine frame of the degraded-mode table, cut after its speed word. -/
theorem Bus.decode_sublist_of_prefix_engine :
    ([0x0D, 0xAC] : Payload) <+: [0x0D, 0xAC, 0x01, 0xF4] ∧
      (Bus.new Ecu.new).decode 0x360 [0x0D, 0xAC] <+
        (Bus.new Ecu.new).decode 0x360 [0x0D, 0xAC, 0x01, 0xF4] :=
  ⟨⟨[0x01, 0xF4], rfl⟩, Bus.decode_sublist_of_prefix _ _ ⟨[0x01, 0xF4], rfl⟩⟩

/-- Nothing on the bus panics, whatever the identifier and the payload: every module
decides whether it takes an identifier and decodes any payload without a panic, taking an
identifier's offset in its block only past the block check and reading the mux, second and
firmware bytes directly only where they are present; and the word readers of the ECU
decoders never take the offset after the largest one a machine word holds. -/
theorem decoding_never_panics (id : FrameId) (p : Payload) :
    (∀ m : Module, m.checkedHandles id = .ok (m.handles id) ∧
      m.checkedDecode id p = .ok (m.decode id p)) ∧
    p.wordAt? Payload.offsetMax = none := by
  refine ⟨fun m => ⟨?_, m.checkedDecode_eq id p⟩, p.wordAt?_offsetMax⟩
  rw [Module.handles, Module.checkedHandles_eq]

end CanDecoder
