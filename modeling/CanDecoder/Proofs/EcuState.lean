import CanDecoder.Proofs.FrameDecode

/-! Runs of the ECU decoder. The compiled decoder table is a cache of the schema, stored
apart from it; every call keeps the two in step, so the table always holds exactly one
compiled frame per schema frame. The degraded-mode table is complete until it is switched
off and empty from then on. A load that fails leaves the decoder as it was, and one that
succeeds replaces the schema and its whole table. Decoding is then a lookup in the schema,
falling back to the degraded-mode table. -/

namespace CanDecoder

/-- A call made on an ECU decoder. A decoder made with a schema is a fresh decoder after
`install`. -/
inductive EcuCall where
  | install (s : Schema)
  | load (path : String) (contents : Except IoError String)
  | withoutFallback

namespace Ecu

/-- The decoder after one call. -/
def call (e : Ecu) : EcuCall → Ecu
  | .install s => e.install s
  | .load path contents => (e.loadDefinition path contents).2
  | .withoutFallback => e.withoutFallback

/-- The decoder after a run of calls, in order. -/
def run (e : Ecu) (calls : List EcuCall) : Ecu := calls.foldl call e

/-- The compiled table is the one of the current schema, and the degraded-mode table is
complete or empty. -/
structure Coherent (e : Ecu) : Prop where
  decoders_eq : e.decoders = (e.schema.map decoderTable).getD []
  fallback_cases : e.fallback = Fallback.frames ∨ e.fallback = []

@[simp] theorem run_nil (e : Ecu) : e.run [] = e := rfl

@[simp] theorem run_cons (e : Ecu) (c : EcuCall) (calls : List EcuCall) :
    e.run (c :: calls) = (e.call c).run calls := rfl

theorem withSchema_run (s : Schema) (calls : List EcuCall) :
    (withSchema s).run calls = new.run (.install s :: calls) := rfl

/-- The compiled decoder of an identifier is the compiled schema frame. -/
theorem lookup_decoderTable (s : Schema) (id : FrameId) :
    (decoderTable s).lookup id = (s.find? id).map CompiledFrame.ofFrame := by
  simp only [decoderTable, Schema.find?]
  generalize s.frames = frames
  induction frames with
  | nil => rfl
  | cons f fs ih =>
    by_cases h : f.id = id
    · have hkey : (id == f.id) = true := beq_iff_eq.mpr h.symm
      have hfound : (f.id == id) = true := beq_iff_eq.mpr h
      simp only [List.map_cons, List.lookup_cons, hkey, List.find?_cons, hfound, Option.map_some]
    · have hkey : (id == f.id) = false := beq_eq_false_iff_ne.mpr (Ne.symm h)
      have hmissed : (f.id == id) = false := beq_eq_false_iff_ne.mpr h
      simp only [List.map_cons, List.lookup_cons, hkey, List.find?_cons, hmissed, ih]

theorem load_eq (e : Ecu) (path : String) (contents : Except IoError String) :
    e.load path contents = (Schema.ofFile path contents).map fun s => (s.size, e.install s) := by
  unfold load
  cases Schema.ofFile path contents <;> rfl

/-- A load reports success exactly when the document reads, and installs what it read. -/
theorem loadDefinition_eq (e : Ecu) (path : String) (contents : Except IoError String) :
    e.loadDefinition path contents =
      match Schema.ofFile path contents with
      | .ok s => (true, e.install s)
      | .error _ => (false, e) := by
  unfold loadDefinition
  rw [load_eq]
  cases Schema.ofFile path contents <;> rfl

theorem new_coherent : new.Coherent := ⟨rfl, .inl rfl⟩

theorem install_coherent {e : Ecu} (h : e.Coherent) (s : Schema) : (e.install s).Coherent :=
  ⟨rfl, h.fallback_cases⟩

theorem withoutFallback_coherent {e : Ecu} (h : e.Coherent) : e.withoutFallback.Coherent :=
  ⟨h.decoders_eq, .inr rfl⟩

theorem call_coherent {e : Ecu} (h : e.Coherent) : ∀ c, (e.call c).Coherent
  | .install s => install_coherent h s
  | .load path contents => by
    simp only [call, loadDefinition_eq]
    split
    · exact install_coherent h _
    · exact h
  | .withoutFallback => withoutFallback_coherent h

theorem run_coherent {e : Ecu} (h : e.Coherent) (calls : List EcuCall) : (e.run calls).Coherent := by
  induction calls generalizing e with
  | nil => exact h
  | cons c cs ih => exact ih (call_coherent h c)

/-- Only switching it off touches the degraded-mode table. -/
theorem fallback_call (e : Ecu) : ∀ c, c ≠ .withoutFallback → (e.call c).fallback = e.fallback
  | .install _, _ => rfl
  | .load path contents, _ => by
    simp only [call, loadDefinition_eq]
    split <;> rfl
  | .withoutFallback, h => absurd rfl h

theorem fallback_run_of_not_mem (e : Ecu) (calls : List EcuCall)
    (h : EcuCall.withoutFallback ∉ calls) : (e.run calls).fallback = e.fallback := by
  induction calls generalizing e with
  | nil => rfl
  | cons c cs ih =>
    simp only [List.mem_cons, not_or] at h
    rw [run_cons, ih _ h.2, fallback_call e c (Ne.symm h.1)]

theorem fallback_run_of_mem (e : Ecu) (calls : List EcuCall)
    (h : EcuCall.withoutFallback ∈ calls) : (e.run calls).fallback = [] := by
  induction calls generalizing e with
  | nil => cases h
  | cons c cs ih =>
    rw [run_cons]
    by_cases hc : EcuCall.withoutFallback ∈ cs
    · exact ih _ hc
    · have hwf : c = .withoutFallback := by
        simp only [List.mem_cons] at h
        exact h.resolve_right hc |>.symm
      rw [fallback_run_of_not_mem _ _ hc, hwf]
      rfl

/-- A coherent decoder answers from the schema frame, else from the degraded-mode table. -/
theorem decode_eq {e : Ecu} (h : e.Coherent) (id : FrameId) (p : Payload) :
    e.decode id p =
      if p.length < 2 then []
      else match e.frame? id with
        | some f => (CompiledFrame.ofFrame f).decode p
        | none =>
          match e.fallback.find? (·.id == id) with
          | some ff => ff.decode p
          | none => [] := by
  unfold decode frame?
  rw [h.decoders_eq]
  split
  · rfl
  · cases hs : e.schema with
    | none => rfl
    | some s =>
      simp only [Option.map_some, Option.getD_some, lookup_decoderTable, Option.bind_eq_bind,
        Option.bind_some]
      cases s.find? id <;> rfl

theorem frameIds_eq_keys {e : Ecu} (h : e.Coherent) : e.decoders.map Prod.fst = e.frameIds := by
  rw [h.decoders_eq]
  unfold frameIds
  cases e.schema with
  | none => rfl
  | some s => simp [decoderTable, Schema.ids]

/-- Every run from a fresh decoder (a decoder made with a schema is a fresh one after
`install`): the compiled table holds exactly the identifiers of the current schema; the
degraded-mode table is complete, or empty exactly when it was switched off during the run;
a load that fails changes nothing, while one that succeeds answers the schema's size (or
`true`) and replaces the schema and every compiled frame; and decoding a payload of at
least two bytes takes the compiled schema frame, else the degraded-mode frame, else
nothing. -/
theorem ecu_run_invariants (calls : List EcuCall) :
    let e := new.run calls
    (∀ s rest, (withSchema s).run rest = new.run (.install s :: rest)) ∧
    e.decoders.map Prod.fst = e.frameIds ∧
    (e.fallback = Fallback.frames ∨ e.fallback = []) ∧
    (e.fallback = [] ↔ EcuCall.withoutFallback ∈ calls) ∧
    (∀ path contents,
      match Schema.ofFile path contents with
      | .error err =>
        e.load path contents = .error err ∧ e.loadDefinition path contents = (false, e) ∧
          e.call (.load path contents) = e
      | .ok s =>
        e.load path contents = .ok (s.size, e.install s) ∧
          e.loadDefinition path contents = (true, e.install s) ∧
          e.call (.load path contents) = e.install s ∧ (e.install s).schema = some s ∧
          ∀ id, (e.install s).decoders.lookup id = (s.find? id).map CompiledFrame.ofFrame) ∧
    ∀ id p, e.decode id p =
      if p.length < 2 then []
      else match e.frame? id with
        | some f => (CompiledFrame.ofFrame f).decode p
        | none =>
          match e.fallback.find? (·.id == id) with
          | some ff => ff.decode p
          | none => [] := by
  intro e
  have hc : e.Coherent := run_coherent new_coherent calls
  have hoff : e.fallback = [] ↔ EcuCall.withoutFallback ∈ calls := by
    constructor
    · intro he
      by_contra hm
      have hfull := fallback_run_of_not_mem new calls hm
      rw [he] at hfull
      cases hfull
    · exact fallback_run_of_mem new calls
  refine ⟨withSchema_run, frameIds_eq_keys hc, hc.fallback_cases, hoff, ?_, decode_eq hc⟩
  intro path contents
  have hload := load_eq e path contents
  have hdef := loadDefinition_eq e path contents
  cases hs : Schema.ofFile path contents with
  | error err =>
    rw [hs] at hload hdef
    exact ⟨hload, hdef, by simp only [call, hdef]⟩
  | ok s =>
    rw [hs] at hload hdef
    refine ⟨hload, hdef, by simp only [call, hdef], rfl, fun id => ?_⟩
    exact lookup_decoderTable s id

end Ecu

end CanDecoder
